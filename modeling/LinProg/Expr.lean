import LinProg.LengthMismatch
import LinProg.Variable

/-!
# Linear expressions

An expression is a constant and one coefficient per variable it mentions.  A coefficient that
cancels to zero stays, so that replacing the expression of a row can still clear it.
-/

namespace LinProg

/-- A sum of weighted variables and a constant. -/
structure Expr where
  terms : Sparse Ref
  constant : Float

namespace Expr

def zero : Expr := ⟨.empty, 0⟩

def ofConstant (c : Float) : Expr := ⟨.empty, c⟩

def addTerm (e : Expr) (v : Variable) (c : Float) : Expr :=
  { e with terms := e.terms.add v.ref c }

def term (v : Variable) (c : Float) : Expr := zero.addTerm v c

def ofVariable (v : Variable) : Expr := term v 1

/-- Overwrites the coefficient of a variable, adding the term if it is missing. -/
def setCoefficient (e : Expr) (v : Variable) (c : Float) : Expr :=
  { e with terms := e.terms.set v.ref c }

def addConstant (e : Expr) (c : Float) : Expr := { e with constant := e.constant + c }

def subConstant (e : Expr) (c : Float) : Expr := { e with constant := e.constant - c }

/-- Adds the terms of another expression one by one, then its constant. -/
def add (e f : Expr) : Expr :=
  ⟨f.terms.toList.foldl (fun s t => s.add t.1 t.2) e.terms, e.constant + f.constant⟩

def scale (e : Expr) (factor : Float) : Expr :=
  ⟨e.terms.map (· * factor), e.constant * factor⟩

def neg (e : Expr) : Expr := e.scale (-1)

def sub (e f : Expr) : Expr := e.add f.neg

def addVariable (e : Expr) (v : Variable) : Expr := e.addTerm v 1

def subVariable (e : Expr) (v : Variable) : Expr := e.addTerm v (-1)

def withoutConstant (e : Expr) : Expr := { e with constant := 0 }

def sum (es : List Expr) : Expr := es.foldl add zero

def sumVariables (vs : List Variable) : Expr := vs.foldl addVariable zero

/-- Adds up variables, each with its own coefficient. -/
def scalarProduct (coefficients : List Float) (vs : List Variable) : Except LengthMismatch Expr := do
  LengthMismatch.check "coefficients" vs.length coefficients.length
  return (vs.zip coefficients).foldl (fun e (v, c) => e.addTerm v c) zero

/-- A constant less an expression. -/
def difference (c : Float) (e : Expr) : Expr := e.neg.addConstant c

def coefficient? (e : Expr) (v : Variable) : Option Float := e.terms.get? v.ref

def coefficients (e : Expr) : List (Ref × Float) := e.terms.toList

def size (e : Expr) : Nat := e.terms.size

def isEmpty (e : Expr) : Bool := e.terms.isEmpty

/-- Whether two expressions mention the same variables with coefficients and constants that compare
equal. -/
def sameAs (e f : Expr) : Bool := e.terms.sameAs f.terms && e.constant == f.constant

end Expr

end LinProg

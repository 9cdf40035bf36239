import LinProg.Lp.Keyword
import LinProg.Variable

/-!
# What an LP text says

A document is the content of an LP text, with variables under their names.  The variable table
collects them in order of first use, and puts those with a line in a bounds section first.
-/

namespace LinProg.Lp

/-- Why a line of an LP text is refused. -/
inductive Fault where
  | noObjectiveSection
  | relationCount
  | badRightHandSide (text : String)
  | unexpectedNumber (token : String)
  | invalidToken (token : String)
  | danglingSign
  | invalidBound (text : String)
deriving DecidableEq, Repr

def Fault.message : Fault → String
  | noObjectiveSection => "expected an objective section"
  | relationCount => "a constraint needs exactly one relation"
  | badRightHandSide text => "invalid right hand side '" ++ text ++ "'"
  | unexpectedNumber token => "unexpected number '" ++ token ++ "'"
  | invalidToken token => "invalid token '" ++ token ++ "'"
  | danglingSign => "dangling sign"
  | invalidBound text => "invalid bound '" ++ text ++ "'"

/-- A fault with the number of its line, counted from one. -/
structure ReadError where
  line : Nat
  fault : Fault
deriving DecidableEq, Repr

def ReadError.message (e : ReadError) : String :=
  "line " ++ toString e.line ++ ": " ++ e.fault.message

structure Declared where
  name : String
  lower : Float
  upper : Float
  domain : Domain
deriving DecidableEq

/-- A row of a document.  Constants are on the right hand side. -/
structure Row where
  name : String
  terms : List (String × Float)
  relation : Relation
  rhs : Float
deriving DecidableEq

structure Document where
  name : String
  sense : Sense
  objective : List (String × Float)
  rows : List Row
  declared : List Declared
deriving DecidableEq

/-! ### The variable table -/

/-- The variables of a text in order of first use, and the names with a bound line in the order of
those lines. -/
structure VariableTable where
  declared : List Declared
  bounded : List String

namespace VariableTable

def empty : VariableTable := ⟨[], []⟩

/-- A variable without further mention is continuous and not negative. -/
def fresh (name : String) : Declared := ⟨name, 0, Number.infinity, .continuous⟩

/-- Enters a name at the end, unless the table has it. -/
def enter (t : VariableTable) (name : String) : VariableTable :=
  if t.declared.any (·.name = name) then t
  else { t with declared := t.declared ++ [fresh name] }

def enterTerms (t : VariableTable) (terms : List (String × Float)) : VariableTable :=
  terms.foldl (fun t term => t.enter term.1) t

/-- Changes the variable with a name, which is entered first. -/
def update (t : VariableTable) (name : String) (f : Declared → Declared) : VariableTable :=
  let t := t.enter name
  { t with declared := t.declared.map fun v => if v.name = name then f v else v }

/-- Records a bound line for a name and changes the variable. -/
def bound (t : VariableTable) (name : String) (f : Declared → Declared) : VariableTable :=
  let t := t.update name f
  { t with bounded := t.bounded ++ [name] }

/-- The variables with a bound line in the order of their first such line, then the others in order
of first use. -/
def ordered (t : VariableTable) : List Declared :=
  t.bounded.eraseDups.filterMap (fun name => t.declared.find? (·.name = name)) ++
    t.declared.filter (fun v => v.name ∉ t.bounded)

end VariableTable

end LinProg.Lp

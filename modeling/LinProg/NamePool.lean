import LinProg.Lp.Keyword

/-!
# Unique names

A pool gives out names that the LP format admits, none of them twice.  Rows and columns share one
pool, so that no row is named like a column.
-/

namespace LinProg

/-- The names given out or reserved, and the last number put after each stem. -/
structure NamePool where
  taken : List String
  suffixes : List (String × Nat)

namespace NamePool

def empty : NamePool := ⟨[], []⟩

/-- Letters, digits and the underscore go into generated names. -/
def isStemChar (c : Char) : Bool := c.isAlphanum || c == '_'

/-- A name without the characters that generated names avoid.  A `v` goes in front of what would
start with a digit, be empty or be read as something other than a name. -/
def stem (name : String) : String :=
  let kept := name.toList.filter isStemChar
  if kept.head?.all Char.isDigit || Lp.isReserved kept then String.ofList ('v' :: kept)
  else String.ofList kept

def numbered (stem : String) (n : Nat) : String := stem ++ toString n

/-- The first number from `n` on, at most `tries` further, whose name is not taken. -/
def firstFree (taken : List String) (stem : String) : Nat → Nat → Nat
  | 0, n => n
  | tries + 1, n => if numbered stem n ∈ taken then firstFree taken stem tries (n + 1) else n

/-- Gives out a valid name that was not taken: the stem of the name itself, or else the stem with
the first free number after the last one used for it, from two on.  One try for each taken name is
enough, since the candidates differ. -/
def claim (pool : NamePool) (name : String) : String × NamePool :=
  let base := stem name
  if base ∈ pool.taken then
    let last := (pool.suffixes.lookup base).getD 1
    let n := firstFree pool.taken base pool.taken.length (last + 1)
    (numbered base n, ⟨numbered base n :: pool.taken, (base, n) :: pool.suffixes⟩)
  else (base, { pool with taken := base :: pool.taken })

/-- Marks a name as taken without giving it out. -/
def reserve (pool : NamePool) (name : String) : NamePool :=
  { pool with taken := name :: pool.taken }

def claimAll (pool : NamePool) : List String → List String × NamePool
  | [] => ([], pool)
  | name :: names =>
    let (given, next) := pool.claim name
    let (rest, last) := claimAll next names
    (given :: rest, last)

end NamePool

end LinProg

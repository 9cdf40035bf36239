/-!
# Words

A text is cut into pieces at the characters of a class.  The words of a text are its maximal runs
without white space, and `trim` drops the white space at both ends.
-/

namespace LinProg.Text

/-- The characters with the Unicode property `White_Space`. -/
def isBlank (c : Char) : Bool :=
  let n := c.toNat
  (9 ≤ n && n ≤ 13) || n == 0x20 || n == 0x85 || n == 0xA0 || n == 0x1680 ||
    (0x2000 ≤ n && n ≤ 0x200A) || n == 0x2028 || n == 0x2029 || n == 0x202F || n == 0x205F ||
    n == 0x3000

/-- Cuts a list at the elements of a class; there is one piece more than there are cuts. -/
def pieces {α : Type} (cut : α → Bool) : List α → List (List α)
  | [] => [[]]
  | a :: rest =>
    if cut a then [] :: pieces cut rest
    else match pieces cut rest with
      | [] => [[a]]
      | piece :: more => (a :: piece) :: more

/-- The maximal runs without white space. -/
def words (cs : List Char) : List (List Char) := (pieces isBlank cs).filter (· ≠ [])

def trimFront (cs : List Char) : List Char := cs.dropWhile isBlank

def trim (cs : List Char) : List Char := (trimFront (trimFront cs).reverse).reverse

/-- Cuts a text at the first occurrence of a character, which belongs to neither part. -/
def splitOnce (mark : Char) : List Char → Option (List Char × List Char)
  | [] => none
  | c :: cs =>
    if c = mark then some ([], cs)
    else (splitOnce mark cs).map fun (before, after) => (c :: before, after)

/-- A text with its ASCII capitals made small. -/
def lower (cs : List Char) : List Char := cs.map Char.toLower

/-- Whether a run occurs in a list, as consecutive elements. -/
def occurs {α : Type} [BEq α] (needle : List α) : List α → Bool
  | [] => needle.isEmpty
  | a :: rest => needle.isPrefixOf (a :: rest) || occurs needle rest

/-! ### Pieces -/

theorem pieces_ne_nil {α : Type} (cut : α → Bool) (xs : List α) : pieces cut xs ≠ [] := by
  cases xs with
  | nil => simp [pieces]
  | cons a rest =>
    rw [pieces]
    split
    · simp
    · split <;> simp

/-- A run without cuts that ends at a cut is the first piece. -/
theorem pieces_append_cons {α : Type} (cut : α → Bool) (xs : List α) (a : α) (rest : List α)
    (hxs : ∀ x ∈ xs, cut x = false) (ha : cut a = true) :
    pieces cut (xs ++ a :: rest) = xs :: pieces cut rest := by
  induction xs with
  | nil => simp [pieces, ha]
  | cons x xs ih =>
    have hx : cut x = false := hxs x (by simp)
    have := ih (fun y hy => hxs y (by simp [hy]))
    simp [pieces, hx, this]

/-- A run without cuts is its only piece. -/
theorem pieces_of_no_cut {α : Type} (cut : α → Bool) (xs : List α)
    (hxs : ∀ x ∈ xs, cut x = false) : pieces cut xs = [xs] := by
  induction xs with
  | nil => rfl
  | cons x xs ih =>
    have hx : cut x = false := hxs x (by simp)
    have := ih (fun y hy => hxs y (by simp [hy]))
    simp [pieces, hx, this]

end LinProg.Text

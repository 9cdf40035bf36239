import Mathlib
import LinProg.Proofs.Lp.ReadTerms
import LinProg.Proofs.Number.Shape
import LinProg.Proofs.Text.Layout

/-!
# Reading an expression sign by sign

A sign may be glued to what follows, and the reader stops taking signs off a word when a signed number is
left.  None of this shows in what is read: a sign acts on the state wherever it stands (`readOn_sign`),
and a word without signs is read by itself (`readOn_word`).
-/

namespace LinProg.Lp
open Number (isSign isNumber)
open Text (IsSpace IsWordText isBlank words)

/-! ### Runs of signs -/

/-- A number behind signs, of which every minus reverses it. -/
def signed (signs : List Char) (x : Float) : Float := if Odd (signs.count '-') then -x else x

theorem signed_cons (c : Char) (cs : List Char) (x : Float) :
    signed (c :: cs) x = signed cs (if c = '-' then -x else x) := by
  unfold signed
  rw [List.count_cons]
  by_cases minus : c = '-'
  · by_cases odd : Odd (cs.count '-')
    · simp [minus, odd, Nat.odd_add_one, Number.neg_neg]
    · simp [minus, odd, Nat.odd_add_one]
  · simp [minus]

theorem signed_mul (signs : List Char) (x : Float) : signed signs 1 * x = signed signs x := by
  unfold signed
  split
  · exact Number.neg_one_mul x
  · exact Number.one_mul x

namespace TermState

def takeSign (s : TermState) (c : Char) : TermState := s.applySign (c = '-')

/-- The state with a waiting number made a constant, as any sign and the end do. -/
def closed (s : TermState) : TermState :=
  match s.pending with
  | some c => ⟨s.terms, s.constant + s.sign * c, 1, none⟩
  | none => s

/-- The state with the sign of a waiting number taken into the number. -/
def settled (s : TermState) : TermState :=
  match s.pending with
  | some c => ⟨s.terms, s.constant, 1, some (s.sign * c)⟩
  | none => s

def readOn (s : TermState) (text : List Char) : Except Fault (List (String × Float) × Float) :=
  (words text).foldlM takeWord s >>= finish

variable {s t : TermState} {c : Char} {cs w rest text : List Char}

/-! ### Signs in a state -/

theorem takeSign_eq (s : TermState) (c : Char) :
    s.takeSign c = if c = '-' then { s.closed with sign := -s.closed.sign } else s.closed := by
  unfold takeSign applySign closed
  cases s.pending <;> simp

theorem pending_closed (s : TermState) : s.closed.pending = none := by
  unfold closed
  cases pending : s.pending
  · exact pending
  · rfl

theorem pending_takeSign (s : TermState) (c : Char) : (s.takeSign c).pending = none := by
  rw [takeSign_eq]
  split <;> exact s.pending_closed

theorem closed_of_pending (none : s.pending = none) : s.closed = s := by
  unfold closed
  rw [none]

/-- Signs in a row make one sign. -/
theorem foldl_takeSign (none : s.pending = none) (cs : List Char) :
    cs.foldl takeSign s = { s with sign := signed cs s.sign } := by
  induction cs generalizing s with
  | nil => rfl
  | cons c cs ih =>
    rw [List.foldl_cons, ih (s.pending_takeSign c), takeSign_eq, closed_of_pending none, signed_cons]
    split <;> rfl

theorem foldl_takeSign_closed (cs : List Char) (any : cs ≠ []) :
    cs.foldl takeSign s = { s.closed with sign := signed cs s.closed.sign } := by
  obtain ⟨c, cs, rfl⟩ := List.exists_cons_of_ne_nil any
  have same : s.closed.takeSign c = s.takeSign c := by
    rw [takeSign_eq, takeSign_eq, closed_of_pending s.pending_closed]
  rw [← foldl_takeSign s.pending_closed, List.foldl_cons, List.foldl_cons, same]

/-! ### Words -/

theorem takeSigns_cons (sign : isSign c = true) (s : TermState) (cs : List Char) :
    takeSigns (c :: cs) s =
      if isNumber cs then (cs, s.takeSign c) else takeSigns cs (s.takeSign c) := by
  rw [takeSigns, if_pos (Number.eq_of_isSign sign)]
  rfl

theorem takeWord_unsigned (plain : ∀ c ∈ w.head?, isSign c = false) (s : TermState) :
    s.takeWord w = s.takeOperand w := by
  cases w with
  | nil => rfl
  | cons c cs =>
    have other := plain c rfl
    exact takeWord_of_head (by simpa [isSign] using other) s

theorem takeOperand_signed {u : List Char} {v : Float} (none : s.pending = none)
    (sign : isSign c = true) (read : Number.readMagnitude u = some v) :
    s.takeOperand (c :: u) = .ok { s with pending := some (if c = '-' then -v else v) } := by
  have value : Number.read (c :: u) = .ok (if c = '-' then -v else v) := by
    unfold Number.read
    rcases Number.eq_of_isSign sign with rfl | rfl <;> simp [read]
  obtain ⟨terms, constant, g, pending⟩ := s
  cases none
  exact takeOperand_number value

/-- A number may have one more sign, which the reader leaves at it; taken off, it has the same effect. -/
theorem settled_takeOperand_signed (none : s.pending = none) (sign : isSign c = true)
    (number : isNumber (c :: cs) = true) :
    (s.takeOperand (c :: cs)).map settled = (s.takeWord (c :: cs)).map settled := by
  rw [Number.isNumber_cons, if_pos sign] at number
  obtain ⟨v, read⟩ := Option.isSome_iff_exists.1 number
  cases cs with
  | nil => cases number
  | cons d ds =>
    have plain : ¬isSign d = true := by
      intro second
      rw [Number.readMagnitude_sign second] at read
      cases read
    have value : Number.read (d :: ds) = .ok v := by
      have other : d ≠ '-' ∧ d ≠ '+' := by simpa [isSign] using plain
      unfold Number.read
      simp [other, read]
    have rest : isNumber (d :: ds) = true := by
      rw [Number.isNumber_cons, if_neg plain]
      exact number
    unfold takeWord
    rw [takeSigns_cons sign, if_pos rest, takeOperand_signed none sign read]
    dsimp only
    rw [takeSign_eq, closed_of_pending none]
    obtain ⟨terms, constant, g, pending⟩ := s
    cases none
    split
    · rw [takeOperand_number value]
      show Except.ok (⟨terms, constant, 1, some (g * -v)⟩ : TermState) =
        .ok ⟨terms, constant, 1, some (-g * v)⟩
      rw [Number.mul_neg]
    · rw [takeOperand_number value]

theorem settled_takeWord_sign (sign : isSign c = true) (s : TermState) (cs : List Char) :
    (s.takeWord (c :: cs)).map settled = ((s.takeSign c).takeWord cs).map settled := by
  have start : s.takeWord (c :: cs) =
      if isNumber cs then (s.takeSign c).takeOperand cs else (s.takeSign c).takeWord cs := by
    unfold takeWord
    rw [takeSigns_cons sign]
    by_cases number : isNumber cs = true
    · rw [if_pos number, if_pos number]
    · rw [if_neg number, if_neg number]
  rw [start]
  split
  · rename_i number
    cases cs with
    | nil => rfl
    | cons d ds =>
      by_cases second : isSign d = true
      · exact settled_takeOperand_signed (s.pending_takeSign c) second number
      · rw [takeWord_unsigned]
        rintro _ ⟨⟩
        exact Bool.eq_false_iff.2 second
  · rfl

theorem takeWord_settled (nonempty : w ≠ []) (s : TermState) : s.settled.takeWord w = s.takeWord w := by
  obtain ⟨terms, constant, g, pending⟩ := s
  cases pending with
  | none => rfl
  | some x =>
    obtain ⟨c, cs, rfl⟩ := List.exists_cons_of_ne_nil nonempty
    by_cases sign : isSign c = true
    · have same : takeSign ⟨terms, constant, 1, some (g * x)⟩ c =
          takeSign ⟨terms, constant, g, some x⟩ c := by
        rw [takeSign_eq, takeSign_eq]
        simp only [closed, Number.one_mul]
      show takeWord ⟨terms, constant, 1, some (g * x)⟩ _ = _
      unfold takeWord
      rw [takeSigns_cons sign, takeSigns_cons sign, same]
    · have plain : ∀ d ∈ (c :: cs).head?, isSign d = false := by
        rintro _ ⟨⟩
        exact Bool.eq_false_iff.2 sign
      rw [takeWord_unsigned plain, takeWord_unsigned plain]
      show takeOperand ⟨terms, constant, 1, some (g * x)⟩ _ = _
      cases read : Number.read (c :: cs) with
      | ok value => simp [takeOperand, read]
      | error cause => simp [takeOperand, read, Number.one_mul]

/-! ### The rest of an expression -/

theorem readOn_settled (s : TermState) (text : List Char) : s.settled.readOn text = s.readOn text := by
  unfold readOn
  have all := (Text.spread_words text).2
  cases shape : words text with
  | nil =>
    obtain ⟨terms, constant, g, pending⟩ := s
    cases pending with
    | none => rfl
    | some x =>
      show Except.ok (terms, constant + 1 * (g * x)) = _
      rw [Number.one_mul]
      rfl
  | cons w ws =>
    rw [shape] at all
    rw [List.foldlM_cons, List.foldlM_cons, takeWord_settled (all w (List.mem_cons_self ..)).1]

theorem bind_readOn {x y : Except Fault TermState} (same : x.map settled = y.map settled)
    (text : List Char) : (x >>= fun s => s.readOn text) = y >>= fun s => s.readOn text := by
  have through (z : Except Fault TermState) :
      (z >>= fun s => s.readOn text) = z.map settled >>= fun s => s.readOn text := by
    cases z with
    | error fault => rfl
    | ok s => exact (s.readOn_settled text).symm
  rw [through x, through y, same]

theorem readOn_words {ws : List (List Char)} (shape : words text = w :: ws) (after : words rest = ws)
    (s : TermState) : s.readOn text = s.takeWord w >>= fun t => t.readOn rest := by
  unfold readOn
  rw [shape, after, List.foldlM_cons, bind_assoc]

theorem readOn_space {space : List Char} (all : IsSpace space) (s : TermState) (text : List Char) :
    s.readOn (space ++ text) = s.readOn text := by
  unfold readOn
  rw [Text.words_append_space all]

/-- A sign acts on the state, whatever it is glued to. -/
theorem readOn_sign (sign : isSign c = true) (s : TermState) (text : List Char) :
    s.readOn (c :: text) = (s.takeSign c).readOn text := by
  have plain : isBlank c = false := by
    rcases Number.eq_of_isSign sign with rfl | rfl <;> rfl
  rcases Text.blank_or_word text with ends | ⟨w, rest, rfl, word, ends⟩
  · have one : IsWordText [c] := ⟨List.cons_ne_nil _ _, by simpa using plain⟩
    have taken : s.takeWord [c] = .ok (s.takeSign c) := by
      unfold takeWord
      rw [takeSigns_cons sign]
      rfl
    have words : words (c :: text) = [c] :: words text := Text.words_append one ends
    rw [readOn_words words rfl, taken]
    rfl
  · have glued : IsWordText (c :: w) :=
      ⟨List.cons_ne_nil _ _, List.forall_mem_cons.2 ⟨plain, word.2⟩⟩
    have words : words (c :: (w ++ rest)) = (c :: w) :: words rest := Text.words_append glued ends
    rw [readOn_words words rfl, readOn_words (Text.words_append word ends) rfl]
    exact bind_readOn (settled_takeWord_sign sign s w) rest

theorem readOn_word (word : IsWordText w) (plain : ∀ c ∈ w.head?, isSign c = false)
    (ends : ∀ c, rest.head? = some c → isBlank c = true) (s : TermState) :
    s.readOn (w ++ rest) = s.takeOperand w >>= fun t => t.readOn rest := by
  rw [readOn_words (Text.words_append word ends) rfl, takeWord_unsigned plain]

theorem finish_signless (signless : s.closed.sign = 1) :
    s.finish = .ok (s.closed.terms, s.closed.constant) := by
  obtain ⟨terms, constant, g, pending⟩ := s
  cases pending with
  | none =>
    cases signless
    exact finish_closed
  | some c => rfl

theorem readOn_end (signless : s.closed.sign = 1) {space : List Char} (all : IsSpace space) :
    s.readOn space = .ok (s.closed.terms, s.closed.constant) := by
  unfold readOn
  rw [Text.words_of_space all]
  exact finish_signless signless

end TermState

end LinProg.Lp

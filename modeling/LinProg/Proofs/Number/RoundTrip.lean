import Mathlib
import LinProg.Proofs.Number.Sign

/-!
# Numbers read back

The text that `write` gives to a double is read as that double, the sign of zero included:
`read_toList_write`.  It consists of digits, points, minus signs and the letters of `inf`.
-/

namespace LinProg.Decimal
open Float.Model (Format UnpackedFloat)
open Float.Model.UnpackedFloat

def value (d : Decimal) : ℚ := d.coefficient * 10 ^ d.exponent

theorem value_reduceFrom (c : Nat) (e : Int) : (reduceFrom c e).value = c * 10 ^ e := by
  fun_induction reduceFrom c e with
  | case1 e => simp [value]
  | case2 c e h hten ih =>
    have hc : ((c / 10 : Nat) : ℚ) * 10 = c := by exact_mod_cast Nat.div_mul_cancel (Nat.dvd_of_mod_eq_zero hten)
    rw [ih, zpow_add₀ (by norm_num), zpow_one, ← hc]
    ring
  | case3 c e h hten => rfl

theorem reduce_reduceFrom (c : Nat) (e : Int) : (reduceFrom c e).reduce = reduceFrom c e := by
  fun_induction reduceFrom c e with
  | case1 e => exact reduceFrom_zero 0
  | case2 c e h hten ih => exact ih
  | case3 c e h hten =>
    rw [reduce, reduceFrom, dif_neg h, if_neg hten]

theorem toFloat_reduce (d : Decimal) : d.reduce.toFloat = d.toFloat :=
  congrArg round (reduce_reduceFrom ..)

theorem toFloat_of_value_eq {x : Float} {m : Nat} {e : Int} {h : 0 < m} {d : Decimal}
    (hx : x.toModel.unpack = .finite .positive m e h) (hv : d.value = m * 2 ^ e) :
    d.toFloat = x := by
  have hred : d.reduce.value = m * 2 ^ e := (value_reduceFrom ..).trans hv
  unfold toFloat
  generalize d.reduce = r at hred
  obtain ⟨c, k⟩ := r
  cases k with
  | ofNat k => exact Number.ofScientific_nonneg hx (by simpa [value] using hred)
  | negSucc k =>
    refine Number.ofScientific_neg hx ?_
    rw [← hred, value, mul_assoc]
    rw [zpow_negSucc, inv_mul_cancel₀ (by positivity), mul_one]

theorem value_toDecimal (b : Binary) : b.toDecimal.value = b.mantissa * 2 ^ b.exponent := by
  unfold Binary.toDecimal
  split
  · rename_i h
    have hpow : ((Nat.pow 2 b.exponent.toNat : Nat) : ℚ) = 2 ^ b.exponent := by
      rw [← Int.toNat_of_nonneg h, zpow_natCast, Int.toNat_natCast]
      exact Nat.cast_pow ..
    simp only [value, Binary.num, zpow_zero, mul_one, Nat.cast_mul, hpow]
  · rename_i h
    generalize hk : (-b.exponent).toNat = k
    have hexp : b.exponent = -(k : Int) := by omega
    have hpow : ((Nat.pow 5 k : Nat) : ℚ) = 5 ^ k := Nat.cast_pow ..
    have hten : (10 : ℚ) ^ k = 2 ^ k * 5 ^ k := by
      rw [← mul_pow]
      norm_num
    simp only [value, hexp, Nat.cast_mul, hpow, zpow_neg, zpow_natCast, hten]
    field_simp

theorem toFloat_shortest {x : Float} {m : Nat} {e : Int} {h : 0 < m}
    (hx : x.toModel.unpack = .finite .positive m e h) : (shortest x).toFloat = x := by
  unfold shortest
  rw [toFloat_reduce]
  rcases Binary.toFloat_search (Binary.ofFloat x) x _ _ with hs | hs
  · rw [hs]
    refine toFloat_of_value_eq hx ?_
    rw [value_toDecimal, (Number.canonical_of_unpack hx).2]
  · exact hs

end LinProg.Decimal

namespace LinProg.Number
open Float.Model (Format UnpackedFloat)
open Float.Model.UnpackedFloat

/-! ### Positional notation -/

theorem digitsValue_append (l : List Char) (k : List Char) :
    digitsValue (l ++ k) = Nat.ofDigitChars 10 k (digitsValue l) :=
  List.foldl_append ..

theorem digitsValue_toDigits (n : Nat) : digitsValue (Nat.toDigits 10 n) = n :=
  Nat.ofDigitChars_ten_toDigits

theorem digitsValue_append_zeros (l : List Char) (n : Nat) :
    digitsValue (l ++ List.replicate n '0') = digitsValue l * Nat.pow 10 n := by
  rw [digitsValue_append, Nat.ofDigitChars_replicate_zero]
  exact Nat.mul_comm ..

theorem digitsValue_zeros_append (n : Nat) (l : List Char) :
    digitsValue (['0'] ++ List.replicate n '0' ++ l) = digitsValue l := by
  show digitsValue ('0' :: List.replicate n '0' ++ l) = digitsValue l
  rw [← List.replicate_succ, digitsValue_append]
  have hzero : digitsValue (List.replicate (n + 1) '0') = 0 := by
    unfold digitsValue
    exact (Nat.ofDigitChars_replicate_zero).trans (Nat.mul_zero _)
  rw [hzero]
  rfl

theorem isDigit_toDigits {n : Nat} : ∀ c ∈ Nat.toDigits 10 n, c.isDigit :=
  fun _ h => Nat.isDigit_of_mem_toDigits (by decide) (by decide) h

theorem isDigit_zeros {n : Nat} : ∀ c ∈ List.replicate n '0', c.isDigit := by
  intro c hc
  rw [List.eq_of_mem_replicate hc]
  rfl

theorem takeWhile_isDigit_point {whole : List Char} (digits : ∀ c ∈ whole, c.isDigit)
    (rest : List Char) : (whole ++ '.' :: rest).takeWhile Char.isDigit = whole := by
  rw [List.takeWhile_append_of_pos digits]
  exact List.append_nil _

theorem dropWhile_isDigit_point {whole : List Char} (digits : ∀ c ∈ whole, c.isDigit)
    (rest : List Char) : (whole ++ '.' :: rest).dropWhile Char.isDigit = '.' :: rest := by
  rw [List.dropWhile_append_of_pos digits]
  rfl

theorem takeWhile_isDigit {whole : List Char} (digits : ∀ c ∈ whole, c.isDigit) :
    whole.takeWhile Char.isDigit = whole :=
  List.takeWhile_eq_self_iff.2 digits

theorem dropWhile_isDigit {whole : List Char} (digits : ∀ c ∈ whole, c.isDigit) :
    whole.dropWhile Char.isDigit = [] :=
  List.dropWhile_eq_nil_iff.2 digits

theorem readDecimal_whole {whole : List Char} (digits : ∀ c ∈ whole, c.isDigit)
    (nonempty : whole ≠ []) : readDecimal whole = some ⟨digitsValue whole, 0⟩ := by
  unfold readDecimal
  simp only [takeWhile_isDigit digits, dropWhile_isDigit digits, nonempty, false_and, if_false,
    readExponent, Option.map_some, List.append_nil]
  rfl

theorem readDecimal_point {whole fraction : List Char} (digits : ∀ c ∈ whole, c.isDigit)
    (nonempty : whole ≠ []) (digits' : ∀ c ∈ fraction, c.isDigit) :
    readDecimal (whole ++ '.' :: fraction) =
      some ⟨digitsValue (whole ++ fraction), -(fraction.length : Int)⟩ := by
  unfold readDecimal
  simp only [takeWhile_isDigit_point digits, dropWhile_isDigit_point digits,
    takeWhile_isDigit digits', dropWhile_isDigit digits', nonempty, false_and, if_false,
    readExponent, Option.map_some, Int.zero_sub]

theorem positional_whole (c e : Nat) :
    positional ⟨c, .ofNat e⟩ = Nat.toDigits 10 c ++ List.replicate e '0' := rfl

theorem positional_inside {c e : Nat} (inside : e + 1 < (Nat.toDigits 10 c).length) :
    positional ⟨c, .negSucc e⟩ = (Nat.toDigits 10 c).take ((Nat.toDigits 10 c).length - (e + 1)) ++
      '.' :: (Nat.toDigits 10 c).drop ((Nat.toDigits 10 c).length - (e + 1)) :=
  if_pos inside

theorem positional_outside {c e : Nat} (outside : ¬e + 1 < (Nat.toDigits 10 c).length) :
    positional ⟨c, .negSucc e⟩ =
      ['0'] ++ '.' :: (List.replicate (e + 1 - (Nat.toDigits 10 c).length) '0' ++
        Nat.toDigits 10 c) :=
  if_neg outside

/-- The text of a decimal has one of these forms, with digits only in `whole` and `fraction`. -/
inductive Positional : List Char → Decimal → Prop where
  | whole {digits : List Char} : (∀ c ∈ digits, c.isDigit) → digits ≠ [] →
      Positional digits ⟨digitsValue digits, 0⟩
  | point {digits fraction : List Char} : (∀ c ∈ digits, c.isDigit) → digits ≠ [] →
      (∀ c ∈ fraction, c.isDigit) →
      Positional (digits ++ '.' :: fraction) ⟨digitsValue (digits ++ fraction), -fraction.length⟩

theorem readDecimal_of_positional {text : List Char} {d : Decimal} (form : Positional text d) :
    readDecimal text = some d := by
  cases form with
  | whole digits nonempty => exact readDecimal_whole digits nonempty
  | point digits nonempty digits' => exact readDecimal_point digits nonempty digits'

theorem positional_form (d : Decimal) :
    ∃ r, Positional (positional d) r ∧ r.reduce = d.reduce := by
  obtain ⟨c, e⟩ := d
  have digits : ∀ x ∈ Nat.toDigits 10 c, x.isDigit := isDigit_toDigits
  have value : digitsValue (Nat.toDigits 10 c) = c := digitsValue_toDigits c
  cases e with
  | ofNat e =>
    have all : ∀ x ∈ Nat.toDigits 10 c ++ List.replicate e '0', x.isDigit := by
      intro x hx
      rcases List.mem_append.1 hx with hx | hx
      · exact digits x hx
      · exact isDigit_zeros x hx
    rw [positional_whole]
    refine ⟨_, .whole all ?_, ?_⟩
    · exact fun empty => Nat.toDigits_ne_nil (List.append_eq_nil_iff.1 empty).1
    · rw [digitsValue_append_zeros, value]
      unfold Decimal.reduce
      rw [Decimal.reduceFrom_mul_pow, Int.zero_add]
      rfl
  | negSucc e =>
    by_cases inside : e + 1 < (Nat.toDigits 10 c).length
    · rw [positional_inside inside]
      refine ⟨_, .point (fun x hx => digits x (List.mem_of_mem_take hx)) ?_
        (fun x hx => digits x (List.mem_of_mem_drop hx)), ?_⟩
      · rw [← List.length_pos_iff, List.length_take]
        omega
      · have places : -(((Nat.toDigits 10 c).drop
            ((Nat.toDigits 10 c).length - (e + 1))).length : Int) = Int.negSucc e := by
          rw [List.length_drop]
          omega
        rw [List.take_append_drop, value, places]
    · rw [positional_outside inside]
      have all : ∀ x ∈ List.replicate (e + 1 - (Nat.toDigits 10 c).length) '0' ++
          Nat.toDigits 10 c, x.isDigit := by
        intro x hx
        rcases List.mem_append.1 hx with hx | hx
        · exact isDigit_zeros x hx
        · exact digits x hx
      refine ⟨_, .point ?_ (List.cons_ne_nil _ _) all, ?_⟩
      · intro x hx
        rw [List.mem_singleton.1 hx]
        rfl
      · have places : -((List.replicate (e + 1 - (Nat.toDigits 10 c).length) '0' ++
            Nat.toDigits 10 c).length : Int) = Int.negSucc e := by
          rw [List.length_append, List.length_replicate]
          omega
        rw [← List.append_assoc, digitsValue_zeros_append, value, places]

/-! ### Magnitudes -/

theorem positional_cons (d : Decimal) :
    ∃ c cs, positional d = c :: cs ∧ c.isDigit := by
  obtain ⟨r, form, _⟩ := positional_form d
  generalize positional d = text at form
  cases form with
  | @whole digits all nonempty =>
    obtain ⟨c, cs, rfl⟩ := List.exists_cons_of_ne_nil nonempty
    exact ⟨c, cs, rfl, all c (List.mem_cons_self ..)⟩
  | @point digits fraction all nonempty _ =>
    obtain ⟨c, cs, rfl⟩ := List.exists_cons_of_ne_nil nonempty
    exact ⟨c, cs ++ '.' :: fraction, rfl, all c (List.mem_cons_self ..)⟩

theorem toLower_of_isDigit {c : Char} (digit : c.isDigit) : c.toLower = c := by
  have bound : c.val ≤ 57 := by
    simp only [Char.isDigit, Bool.and_eq_true, decide_eq_true_eq] at digit
    exact digit.2
  unfold Char.toLower
  rw [dif_neg]
  intro upper
  have contradiction := UInt32.le_trans upper.1 bound
  revert contradiction
  decide

theorem readMagnitude_digit {c : Char} {cs : List Char} (digit : c.isDigit) :
    readMagnitude (c :: cs) = (readDecimal (c :: cs)).map Decimal.toFloat := by
  have word (w : String) {letter : Char} (first : w.toList.head? = some letter)
      (other : ¬letter.isDigit) : String.ofList ((c :: cs).map Char.toLower) ≠ w := by
    rintro rfl
    rw [String.toList_ofList, List.map_cons, List.head?_cons, toLower_of_isDigit digit] at first
    exact other (Option.some.inj first ▸ digit)
  have infWord := word "inf" rfl (by decide)
  have infinityWord := word "infinity" rfl (by decide)
  have nanWord := word "nan" rfl (by decide)
  unfold readMagnitude
  dsimp only
  rw [if_neg (not_or.2 ⟨infWord, infinityWord⟩), if_neg nanWord]

theorem readMagnitude_positional (d : Decimal) :
    readMagnitude (positional d) = some d.toFloat := by
  obtain ⟨c, cs, first, digit⟩ := positional_cons d
  obtain ⟨r, form, same⟩ := positional_form d
  have read := readDecimal_of_positional form
  rw [first] at read ⊢
  rw [readMagnitude_digit digit, read]
  unfold Decimal.toFloat
  rw [Option.map_some, same]

theorem readMagnitude_zero : readMagnitude ['0'] = some 0 := by
  have read : readMagnitude ['0'] = some (Decimal.toFloat ⟨0, 0⟩) := readMagnitude_positional ⟨0, 0⟩
  rw [read]
  unfold Decimal.toFloat Decimal.reduce
  rw [Decimal.reduceFrom_zero]
  rfl

theorem isInf_eq (x : Float) : x.isInf = x.toModel.unpack.isInf := rfl

theorem beq_zero_eq (x : Float) : (x == 0) = x.toModel.unpack.beq (.zero .positive) := rfl

theorem ne_inf_of_finite {x : Float} {s : Sign} {m : Nat} {e : Int} {h : 0 < m}
    (finite : x.toModel.unpack = .finite s m e h) : x.isInf = false ∧ (x == 0) = false := by
  rw [isInf_eq, beq_zero_eq, finite]
  cases s <;> exact ⟨rfl, rfl⟩

theorem readMagnitude_writeMagnitude {x : Float} (number : x.isNaN = false) :
    readMagnitude (writeMagnitude x) = some x.abs := by
  unfold writeMagnitude
  cases shape : x.toModel.unpack with
  | notANumber =>
    have undefined : x.isNaN = true := by
      show x.toModel.unpack.isNaN = true
      rw [shape]
      rfl
    rw [undefined] at number
    cases number
  | infinity s =>
    have infinite : x.isInf = true := by
      rw [isInf_eq, shape]
      rfl
    have abs : x.abs = infinity := by
      apply eq_of_unpack_eq
      rw [unpack_abs, shape]
      rfl
    rw [if_pos infinite, abs]
    rfl
  | zero s =>
    have finite : ¬x.isInf = true := by
      rw [isInf_eq, shape]
      exact Bool.false_ne_true
    have zero : (x == 0) = true := by
      rw [beq_zero_eq, shape]
      rfl
    have abs : x.abs = 0 := by
      apply eq_of_unpack_eq
      rw [unpack_abs, shape]
      rfl
    rw [if_neg finite, if_pos zero, abs, readMagnitude_zero]
  | finite s m e positive =>
    obtain ⟨finite, nonzero⟩ := ne_inf_of_finite shape
    have abs : x.abs.toModel.unpack = .finite .positive m e positive := by
      rw [unpack_abs, shape]
      rfl
    rw [if_neg (ne_true_of_eq_false finite), if_neg (ne_true_of_eq_false nonzero),
      readMagnitude_positional, Decimal.toFloat_shortest abs]

theorem writeMagnitude_cons (x : Float) :
    ∃ c cs, writeMagnitude x = c :: cs ∧ (c = 'i' ∨ c.isDigit) := by
  unfold writeMagnitude
  split
  · exact ⟨'i', ['n', 'f'], rfl, .inl rfl⟩
  · split
    · exact ⟨'0', [], rfl, .inr rfl⟩
    · obtain ⟨c, cs, first, digit⟩ := positional_cons (Decimal.shortest x.abs)
      exact ⟨c, cs, first, .inr digit⟩

theorem read_writeMagnitude {x : Float} (number : x.isNaN = false) :
    read (writeMagnitude x) = .ok x.abs := by
  have magnitude := readMagnitude_writeMagnitude number
  obtain ⟨c, cs, first, letter⟩ := writeMagnitude_cons x
  rw [first] at magnitude ⊢
  have plain : c ≠ '-' ∧ c ≠ '+' := by
    constructor
    · rintro rfl
      rcases letter with letter | letter <;> revert letter <;> decide
    · rintro rfl
      rcases letter with letter | letter <;> revert letter <;> decide
  unfold read
  simp only [plain.1, plain.2, if_false, magnitude]

theorem toList_write {x : Float} (number : x.isNaN = false) :
    (write x).toList =
      if isNegative x then '-' :: writeMagnitude x else writeMagnitude x := by
  unfold write
  rw [if_neg (ne_true_of_eq_false number)]
  split
  · exact String.toList_ofList
  · exact String.toList_ofList

/-- The text of a double reads as that double. -/
theorem read_toList_write {x : Float} (number : x.isNaN = false) :
    read (write x).toList = .ok x := by
  rw [toList_write number]
  split
  · rename_i negative
    unfold read
    simp only [if_true, readMagnitude_writeMagnitude number, Option.map_some,
      neg_abs_of_isNegative number negative]
  · rename_i positive
    have same := abs_of_not_isNegative number (Bool.eq_false_iff.2 positive)
    rw [read_writeMagnitude number, same]

end LinProg.Number

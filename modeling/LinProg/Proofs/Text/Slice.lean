import Mathlib
import LinProg.Proofs.Text.Layout

/-!
# Slices between bytes

A text is sliced from one byte to another where both stand on character boundaries.  In a text of three
parts, the middle one is the slice between the bytes before it and those up to its end (`slice?_middle`).
-/

namespace LinProg.Text

/-- The part of a text from one byte to another, if both stand on character boundaries. -/
def slice? (text : String) (start stop : Nat) : Option (List Char) :=
  if bounds : start ≤ stop ∧ (String.Pos.Raw.mk start).IsValid text ∧
      (String.Pos.Raw.mk stop).IsValid text then
    some (text.extract ⟨⟨start⟩, bounds.2.1⟩ ⟨⟨stop⟩, bounds.2.2⟩).toList
  else none

/-! ### The bytes of a text -/

theorem toList_data_toUTF8 (cs : List Char) :
    (String.ofList cs).toUTF8.data.toList = bytesOf cs := by
  rw [← toList_eq, toList_toUTF8]

theorem size_toUTF8 (cs : List Char) : (String.ofList cs).toUTF8.size = (bytesOf cs).length := by
  rw [← toList_data_toUTF8, Array.length_toList]
  rfl

theorem getElem?_toUTF8 (cs : List Char) (i : Nat) :
    (String.ofList cs).toUTF8[i]? = (bytesOf cs)[i]? := by
  rw [← toList_data_toUTF8, Array.getElem?_toList]
  rfl

theorem drop_bytesOf (front back : List Char) :
    (bytesOf (front ++ back)).drop (bytesOf front).length = bytesOf back := by
  rw [bytesOf_append, List.drop_left]

/-- The bytes that are left begin with the byte to look at and the one after it. -/
theorem getElem_of_drop_bytesOf {cs : List Char} {i : Nat} {byte : UInt8} {more : List UInt8}
    (left : (bytesOf cs).drop i = byte :: more) :
    ∃ inside : i < (String.ofList cs).toUTF8.size, (String.ofList cs).toUTF8[i] = byte ∧
      (String.ofList cs).toUTF8[i + 1]? = more.head? ∧ (bytesOf cs).drop (i + 1) = more := by
  have here : (String.ofList cs).toUTF8[i]? = some byte := by
    rw [getElem?_toUTF8, ← List.head?_drop, left, List.head?_cons]
  have rest : (bytesOf cs).drop (i + 1) = more := by
    rw [← List.tail_drop, left, List.tail_cons]
  obtain ⟨inside, value⟩ := getElem?_eq_some_iff.1 here
  refine ⟨inside, value, ?_, rest⟩
  rw [getElem?_toUTF8, ← List.head?_drop, rest]

/-! ### Boundaries -/

theorem isValid_length_bytesOf (front back : List Char) :
    (String.Pos.Raw.mk (bytesOf front).length).IsValid (String.ofList (front ++ back)) := by
  rw [String.Pos.Raw.isValid_iff_exists_append]
  refine ⟨String.ofList front, String.ofList back, String.ofList_append, ?_⟩
  rw [← size_toUTF8]
  rfl

theorem slice?_middle (front middle back : List Char) :
    slice? (String.ofList (front ++ middle ++ back)) (bytesOf front).length
      (bytesOf (front ++ middle)).length = some middle := by
  have first := isValid_length_bytesOf front (middle ++ back)
  rw [← List.append_assoc] at first
  have last := isValid_length_bytesOf (front ++ middle) back
  have order : (bytesOf front).length ≤ (bytesOf (front ++ middle)).length := by
    rw [bytesOf_append, List.length_append]
    exact Nat.le_add_right _ _
  -- a string is its bytes, so the parts are compared as lists of bytes
  have extracted : String.extract ⟨_, first⟩ ⟨_, last⟩ = String.ofList middle := by
    have whole := toList_data_toUTF8 (front ++ middle ++ back)
    have part := toList_data_toUTF8 middle
    rw [String.toUTF8_eq_toByteArray] at whole part
    rw [← String.toByteArray_inj, String.toByteArray_extract]
    apply ByteArray.ext
    rw [← Array.toList_inj, part, ByteArray.data_extract, Array.toList_extract, whole]
    simp [bytesOf_append, List.extract]
  unfold slice?
  rw [dif_pos ⟨order, first, last⟩, extracted, String.toList_ofList]

end LinProg.Text

import Mathlib
import LinProg.Proofs.Text.Lines
import LinProg.Proofs.Text.Spaced

/-!
# How a file is laid out

A text file is a list of lines, a line is words in white space.  `byteLines_join` takes the bytes of a
file apart into its lines again, `byteLines_terminated` those of its first lines whatever follows, and
`words_eq_iff` a line into its words, whatever the white space.
-/

namespace LinProg.Text

/-! ### Bytes -/

def bytesOf (cs : List Char) : List UInt8 := cs.flatMap String.utf8EncodeChar

/-- With some bytes left, the loop puts them after those it has. -/
theorem loop_toList {bytes : ByteArray} {left : Nat} :
    ∀ {i : Nat} (taken : List UInt8), i + left = bytes.size →
      ByteArray.toList.loop bytes i taken = taken.reverse ++ bytes.data.toList.drop i := by
  induction left with
  | zero =>
    intro i taken all
    have beyond : ¬ i < bytes.size := by omega
    have none : bytes.data.toList.drop i = [] := by
      apply List.drop_eq_nil_of_le
      show bytes.size ≤ i
      omega
    rw [ByteArray.toList.loop, if_neg beyond, none, List.append_nil]
  | succ left ih =>
    intro i taken all
    have within : i < bytes.size := by omega
    have next : bytes.data.toList.drop i = bytes.get! i :: bytes.data.toList.drop (i + 1) := by
      have inside : i < bytes.data.toList.length := within
      have byte : bytes.get! i = bytes.data.toList[i] :=
        (getElem!_pos bytes.data i within).trans (Array.getElem_toList within).symm
      rw [byte]
      exact List.drop_eq_getElem_cons within
    rw [ByteArray.toList.loop, if_pos within, ih _ (by omega), next, List.reverse_cons,
      List.append_assoc, List.singleton_append]

theorem toList_toUTF8 (cs : List Char) : (String.ofList cs).toUTF8.toList = bytesOf cs := by
  show ByteArray.toList (bytesOf cs).toByteArray = _
  unfold ByteArray.toList
  rw [loop_toList [] (Nat.zero_add _)]
  simp

theorem decodeLine_bytesOf (cs : List Char) : decodeLine (bytesOf cs) = some cs := by
  have bytes : (⟨(bytesOf cs).toArray⟩ : ByteArray) = (String.ofList cs).toByteArray := by
    apply ByteArray.ext
    exact List.data_toByteArray.symm
  have valid := (String.ofList cs).isValidUTF8
  unfold decodeLine String.fromUTF8?
  rw [bytes, dif_pos valid]
  exact congrArg some String.toList_ofList

/-- A byte below 128 stands for the character with that number alone. -/
theorem mem_utf8EncodeChar {b : UInt8} (small : b.toNat < 128) {c : Char}
    (member : b ∈ String.utf8EncodeChar c) : String.utf8EncodeChar c = [b] ∧ c.toNat = b.toNat := by
  unfold String.utf8EncodeChar at member ⊢
  have value : c.val.toNat = c.toNat := rfl
  dsimp only at member ⊢
  split at member
  · rename_i ascii
    rw [List.mem_singleton] at member
    have same : b.toNat = c.toNat := by
      rw [member, value, UInt8.toNat_ofNat']
      omega
    exact ⟨by rw [if_pos ascii, member], same.symm⟩
  · exfalso
    split at member
    · simp only [List.mem_cons, List.not_mem_nil, or_false] at member
      rcases member with rfl | rfl <;> simp at small <;> omega
    · split at member
      · simp only [List.mem_cons, List.not_mem_nil, or_false] at member
        rcases member with rfl | rfl | rfl <;> simp at small <;> omega
      · simp only [List.mem_cons, List.not_mem_nil, or_false] at member
        rcases member with rfl | rfl | rfl | rfl <;> simp at small <;> omega

theorem feed_mem_utf8EncodeChar {c : Char} : 10 ∈ String.utf8EncodeChar c ↔ c = '\n' := by
  constructor
  · intro member
    have number := (mem_utf8EncodeChar (by decide) member).2
    exact Char.toNat_inj.1 number
  · rintro rfl
    decide

theorem getLast?_utf8EncodeChar {c : Char} :
    (String.utf8EncodeChar c).getLast? = some 13 ↔ c = '\r' := by
  constructor
  · intro last
    have number := (mem_utf8EncodeChar (by decide) (List.mem_of_getLast? last)).2
    exact Char.toNat_inj.1 number
  · rintro rfl
    decide

theorem bytesOf_append (cs ds : List Char) : bytesOf (cs ++ ds) = bytesOf cs ++ bytesOf ds :=
  List.flatMap_append

theorem bytesOf_singleton (c : Char) : bytesOf [c] = String.utf8EncodeChar c :=
  List.flatMap_singleton ..

theorem feed_not_mem_bytesOf {cs : List Char} (noFeed : '\n' ∉ cs) : 10 ∉ bytesOf cs := by
  intro member
  obtain ⟨c, listed, byte⟩ := List.mem_flatMap.1 member
  exact noFeed (feed_mem_utf8EncodeChar.1 byte ▸ listed)

theorem bytesOf_eq_nil {cs : List Char} : bytesOf cs = [] ↔ cs = [] := by
  cases cs with
  | nil => simp [bytesOf]
  | cons c cs => simp [bytesOf, String.utf8EncodeChar_ne_nil]

/-- Dropping the carriage return of a line and of its bytes is the same. -/
theorem dropReturn_bytesOf (cs : List Char) :
    dropReturn 13 (bytesOf cs) = bytesOf (dropReturn '\r' cs) := by
  rcases List.eq_nil_or_concat' cs with rfl | ⟨front, c, rfl⟩
  · rfl
  · have last : (bytesOf (front ++ [c])).getLast? = some 13 ↔ c = '\r' := by
      rw [bytesOf_append, bytesOf_singleton, List.getLast?_append_of_ne_nil _
        (String.utf8EncodeChar_ne_nil), getLast?_utf8EncodeChar]
    unfold dropReturn
    by_cases ret : c = '\r'
    · rw [if_pos (last.2 ret), if_pos (by rw [List.getLast?_concat, ret]), List.dropLast_concat, ret,
        bytesOf_append]
      exact List.dropLast_concat
    · rw [if_neg (fun h => ret (last.1 h)), if_neg]
      rw [List.getLast?_concat]
      exact fun h => ret (Option.some.inj h)

theorem closeLines_bytesOf (lines : List (List Char)) :
    closeLines 13 (lines.map bytesOf) = (closeLines '\r' lines).map bytesOf := by
  induction lines with
  | nil => rfl
  | cons line more ih =>
    cases more with
    | nil =>
      simp only [List.map_cons, List.map_nil, closeLines, bytesOf_eq_nil]
      split <;> rfl
    | cons next rest =>
      simp only [List.map_cons, closeLines] at ih ⊢
      rw [dropReturn_bytesOf, ih]

theorem pieces_intercalate {α : Type} {cut : α → Bool} {a : α} (cuts : cut a = true)
    {parts : List (List α)} (nonempty : parts ≠ []) (plain : ∀ p ∈ parts, ∀ x ∈ p, cut x = false) :
    pieces cut (List.intercalate [a] parts) = parts := by
  induction parts with
  | nil => exact absurd rfl nonempty
  | cons p more ih =>
    obtain ⟨first, others⟩ := List.forall_mem_cons.1 plain
    cases more with
    | nil =>
      rw [List.intercalate_singleton]
      exact pieces_of_no_cut cut p first
    | cons q rest =>
      rw [List.intercalate_cons_cons, List.append_assoc, List.singleton_append,
        pieces_append_cons cut p a _ first cuts, ih (List.cons_ne_nil q rest) others]

theorem bytesOf_intercalate (lines : List (List Char)) :
    bytesOf (List.intercalate ['\n'] lines) = List.intercalate [10] (lines.map bytesOf) := by
  induction lines with
  | nil => rfl
  | cons line more ih =>
    cases more with
    | nil => simp
    | cons next rest =>
      have feed : bytesOf ['\n'] = [10] := by decide
      rw [List.intercalate_cons_cons, bytesOf_append, bytesOf_append, ih, feed]
      exact List.intercalate_cons_cons.symm

/-- The lines of a file are those that were joined, less what belongs to their endings. -/
theorem byteLines_join {lines : List (List Char)} (nonempty : lines ≠ [])
    (noFeed : ∀ line ∈ lines, '\n' ∉ line) :
    byteLines (String.ofList (List.intercalate ['\n'] lines)).toUTF8 =
      (closeLines '\r' lines).map bytesOf := by
  unfold byteLines
  rw [toList_toUTF8, bytesOf_intercalate, pieces_intercalate rfl, closeLines_bytesOf]
  · simpa using nonempty
  · intro bytes listed b member
    obtain ⟨line, here, rfl⟩ := List.mem_map.1 listed
    rw [beq_eq_false_iff_ne]
    rintro rfl
    exact feed_not_mem_bytesOf (noFeed line here) member

theorem toList_eq (bytes : ByteArray) : bytes.toList = bytes.data.toList := by
  unfold ByteArray.toList
  rw [loop_toList [] (Nat.zero_add _)]
  rfl

theorem toList_append (front back : ByteArray) :
    (front ++ back).toList = front.toList ++ back.toList := by
  simp only [toList_eq, ByteArray.data_append, Array.toList_append]

/-- Lines, each with a line feed after it. -/
def terminated (lines : List (List Char)) : List Char := lines.flatMap (· ++ ['\n'])

/-- A file that begins with terminated lines has these lines first, whatever bytes follow. -/
theorem byteLines_terminated {lines : List (List Char)} (noFeed : ∀ line ∈ lines, '\n' ∉ line)
    (after : ByteArray) :
    byteLines ((String.ofList (terminated lines)).toUTF8 ++ after) =
      lines.map (fun line => bytesOf (dropReturn '\r' line)) ++ byteLines after := by
  unfold byteLines
  rw [toList_append, toList_toUTF8]
  induction lines with
  | nil => rfl
  | cons line more ih =>
    obtain ⟨first, others⟩ := List.forall_mem_cons.1 noFeed
    have cut : pieces (· == 10) (bytesOf (terminated (line :: more)) ++ after.toList) =
        bytesOf line :: pieces (· == 10) (bytesOf (terminated more) ++ after.toList) := by
      have feed : bytesOf ['\n'] = [10] := by decide
      rw [terminated, List.flatMap_cons, bytesOf_append, bytesOf_append, feed, List.append_assoc,
        List.append_assoc, List.singleton_append]
      refine pieces_append_cons _ _ _ _ (fun b member => ?_) rfl
      rw [beq_eq_false_iff_ne]
      rintro rfl
      exact feed_not_mem_bytesOf first member
    obtain ⟨next, rest, shape⟩ := List.exists_cons_of_ne_nil
      (pieces_ne_nil (· == 10) (bytesOf (terminated more) ++ after.toList))
    have closed := ih others
    rw [shape] at cut closed
    rw [cut, closeLines, dropReturn_bytesOf, closed, List.map_cons, List.cons_append]
    exact List.cons_ne_nil _ _

/-! ### Words in white space -/

/-- A text has nothing but white space. -/
def IsSpace (cs : List Char) : Prop := ∀ c ∈ cs, isBlank c = true

/-- A text has some words in order, in any white space, with some between two of them. -/
inductive Spread : List (List Char) → List Char → Prop where
  | nil {space : List Char} : IsSpace space → Spread [] space
  | cons {space w rest : List Char} {ws : List (List Char)} : IsSpace space → Spread ws rest →
      (∀ c, rest.head? = some c → isBlank c = true) → Spread (w :: ws) (space ++ (w ++ rest))

theorem words_cons_blank {c : Char} (blank : isBlank c = true) (cs : List Char) :
    words (c :: cs) = words cs := by
  simp [words, pieces, blank]

theorem words_append_space {space : List Char} (all : IsSpace space) (cs : List Char) :
    words (space ++ cs) = words cs := by
  induction space with
  | nil => rfl
  | cons c space ih =>
    obtain ⟨blank, rest⟩ := List.forall_mem_cons.1 all
    rw [List.cons_append, words_cons_blank blank, ih rest]

theorem words_of_space {space : List Char} (all : IsSpace space) : words space = [] := by
  have cut := words_append_space all []
  rwa [List.append_nil] at cut

theorem words_append {w rest : List Char} (word : IsWordText w)
    (ends : ∀ c, rest.head? = some c → isBlank c = true) :
    words (w ++ rest) = w :: words rest := by
  cases rest with
  | nil =>
    rw [List.append_nil, words_of_word word]
    rfl
  | cons c rest =>
    have blank := ends c rfl
    rw [words_cons_blank blank]
    unfold words
    rw [pieces_append_cons isBlank w c rest word.2 blank, List.filter_cons,
      if_pos (decide_eq_true word.1)]

theorem words_of_spread {ws : List (List Char)} {cs : List Char} (spread : Spread ws cs)
    (all : ∀ w ∈ ws, IsWordText w) : words cs = ws := by
  induction spread with
  | nil space => exact words_of_space space
  | cons space _ ends ih =>
    obtain ⟨word, others⟩ := List.forall_mem_cons.1 all
    rw [words_append_space space, words_append word ends, ih others]

theorem Spread.append_space {ws : List (List Char)} {cs space : List Char} (spread : Spread ws cs)
    (all : IsSpace space) : Spread ws (cs ++ space) := by
  induction spread with
  | nil front => exact .nil (List.forall_mem_append.2 ⟨front, all⟩)
  | @cons front w rest ws blank _ ends ih =>
    rw [List.append_assoc, List.append_assoc]
    refine .cons blank ih fun c head => ?_
    cases rest with
    | nil => exact all c (List.mem_of_head? head)
    | cons d rest => exact ends c head

theorem isBlank_head_of_dropWhile {cs rest : List Char} {c : Char}
    (shape : cs.dropWhile isBlank = c :: rest) : isBlank c = false := by
  have head := List.head?_dropWhile_not isBlank cs
  rw [shape] at head
  simpa using head

/-- Every text is its words in white space. -/
theorem spread_words (cs : List Char) :
    Spread (words cs) cs ∧ ∀ w ∈ words cs, IsWordText w := by
  induction size : cs.length using Nat.strong_induction_on generalizing cs with
  | _ n ih =>
    have space : IsSpace (cs.takeWhile isBlank) := fun c member => List.mem_takeWhile_imp member
    have whole : cs.takeWhile isBlank ++ cs.dropWhile isBlank = cs :=
      List.takeWhile_append_dropWhile
    cases shape : cs.dropWhile isBlank with
    | nil =>
      rw [shape, List.append_nil] at whole
      rw [whole] at space
      rw [words_of_space space]
      exact ⟨.nil space, nofun⟩
    | cons c tail =>
      have plain := isBlank_head_of_dropWhile shape
      -- the first word goes on to the next white space
      let w := c :: tail.takeWhile fun d => !isBlank d
      let rest := tail.dropWhile fun d => !isBlank d
      have parts : cs = cs.takeWhile isBlank ++ (w ++ rest) := by
        rw [shape] at whole
        simp only [w, rest, List.cons_append, List.takeWhile_append_dropWhile]
        exact whole.symm
      have word : IsWordText w := by
        refine ⟨List.cons_ne_nil _ _, List.forall_mem_cons.2 ⟨plain, fun d member => ?_⟩⟩
        simpa using List.mem_takeWhile_imp member
      have ends : ∀ d, rest.head? = some d → isBlank d = true := by
        intro d head
        have stop := List.head?_dropWhile_not (fun d => !isBlank d) tail
        rw [head] at stop
        simpa using stop
      have shorter : rest.length < n := by
        rw [← size, parts]
        simp [w]
        omega
      obtain ⟨spread, all⟩ := ih rest.length shorter rest rfl
      have cut : words cs = w :: words rest := by
        rw [parts, words_append_space space, words_append word ends]
      rw [cut]
      refine ⟨?_, List.forall_mem_cons.2 ⟨word, all⟩⟩
      rw [parts]
      exact .cons space spread ends

/-- A text begins with white space, if at all, or with a whole word. -/
theorem blank_or_word (cs : List Char) : (∀ c, cs.head? = some c → isBlank c = true) ∨
    ∃ w rest, cs = w ++ rest ∧ IsWordText w ∧ ∀ c, rest.head? = some c → isBlank c = true := by
  obtain ⟨spread, all⟩ := spread_words cs
  generalize words cs = ws at spread all
  cases spread with
  | nil space => exact .inl fun c head => space c (List.mem_of_head? head)
  | @cons space w rest ws blank _ ends =>
    cases space with
    | nil => exact .inr ⟨w, rest, rfl, all w (List.mem_cons_self ..), ends⟩
    | cons c space =>
      refine .inl fun d head => ?_
      cases head
      exact blank c (List.mem_cons_self ..)

/-- The words of a text are those that it has in white space. -/
theorem words_eq_iff {ws : List (List Char)} {cs : List Char} :
    words cs = ws ↔ Spread ws cs ∧ ∀ w ∈ ws, IsWordText w := by
  constructor
  · rintro rfl
    exact spread_words cs
  · rintro ⟨spread, all⟩
    exact words_of_spread spread all

theorem spread_spaced {ws : List (List Char)} (all : ∀ w ∈ ws, IsWordText w) :
    Spread ws (spaced ws) := (words_eq_iff.1 (words_spaced all)).1

theorem words_append_of_space {space : List Char} (all : IsSpace space) (cs : List Char) :
    words (cs ++ space) = words cs := by
  obtain ⟨spread, word⟩ := spread_words cs
  exact words_of_spread (spread.append_space all) word

/-- A text is what trimming leaves of it, in white space. -/
theorem exists_trim (cs : List Char) :
    ∃ front back, IsSpace front ∧ IsSpace back ∧ cs = front ++ trim cs ++ back := by
  let tail := (trimFront cs).reverse.takeWhile isBlank
  have front : IsSpace (cs.takeWhile isBlank) := fun c member => List.mem_takeWhile_imp member
  have back : IsSpace tail.reverse :=
    fun c member => List.mem_takeWhile_imp (List.mem_reverse.1 member)
  have shape : trim cs ++ tail.reverse = trimFront cs := by
    unfold trim
    rw [← List.reverse_append, trimFront, List.takeWhile_append_dropWhile, List.reverse_reverse]
  refine ⟨cs.takeWhile isBlank, tail.reverse, front, back, ?_⟩
  rw [List.append_assoc, shape]
  exact List.takeWhile_append_dropWhile.symm

theorem words_trim (cs : List Char) : words (trim cs) = words cs := by
  obtain ⟨front, back, space, space', shape⟩ := exists_trim cs
  calc words (trim cs)
    _ = words (front ++ trim cs ++ back) := by
      rw [words_append_of_space space', words_append_space space]
    _ = words cs := by rw [← shape]

/-- White space around a text does not show once it is trimmed. -/
theorem trim_between {front back : List Char} (space : IsSpace front) (space' : IsSpace back)
    (cs : List Char) : trim (front ++ cs ++ back) = trim cs := by
  have nothing : trimFront back = [] := List.dropWhile_eq_nil_iff.2 space'
  have back' : ∀ c ∈ back.reverse, isBlank c = true :=
    fun c member => space' c (List.mem_reverse.1 member)
  unfold trim
  rw [List.append_assoc, trimFront_append space]
  unfold trimFront at nothing ⊢
  rw [List.dropWhile_append]
  cases text : cs.dropWhile isBlank with
  | nil => simp [nothing]
  | cons c rest =>
    rw [List.isEmpty_cons, if_neg Bool.false_ne_true, List.reverse_append,
      List.dropWhile_append_of_pos back']

theorem trim_trim (cs : List Char) : trim (trim cs) = trim cs := by
  obtain ⟨front, back, space, space', shape⟩ := exists_trim cs
  calc trim (trim cs)
    _ = trim (front ++ trim cs ++ back) := (trim_between space space' _).symm
    _ = trim cs := by rw [← shape]

/-- A character other than white space joins the pieces on its sides. -/
theorem pieces_join {c : Char} (solid : isBlank c = false) (before after : List Char) :
    ∃ init last first rest, pieces isBlank before = init ++ [last] ∧
      pieces isBlank after = first :: rest ∧
      pieces isBlank (before ++ c :: after) = init ++ (last ++ c :: first) :: rest := by
  induction before with
  | nil =>
    obtain ⟨first, rest, right⟩ := List.exists_cons_of_ne_nil (pieces_ne_nil isBlank after)
    exact ⟨[], [], first, rest, rfl, right, by simp [pieces, solid, right]⟩
  | cons b before ih =>
    obtain ⟨init, last, first, rest, left, right, joined⟩ := ih
    by_cases blank : isBlank b = true
    · exact ⟨[] :: init, last, first, rest, by simp [pieces, blank, left], right,
        by simp [pieces, blank, joined]⟩
    · cases init with
      | nil =>
        exact ⟨[], b :: last, first, rest, by simp [pieces, blank, left], right,
          by simp [pieces, blank, joined]⟩
      | cons piece init =>
        exact ⟨(b :: piece) :: init, last, first, rest, by simp [pieces, blank, left], right,
          by simp [pieces, blank, joined]⟩

theorem mem_words_join {c : Char} (solid : isBlank c = false) {before after w : List Char}
    (listed : w ∈ words (before ++ c :: after)) : c ∈ w ∨ w ∈ words before ∨ w ∈ words after := by
  obtain ⟨init, last, first, rest, left, right, joined⟩ := pieces_join solid before after
  unfold words at listed ⊢
  rw [joined, List.mem_filter] at listed
  rw [left, right, List.mem_filter, List.mem_filter]
  obtain ⟨piece, nonempty⟩ := listed
  rcases List.mem_append.1 piece with early | late
  · exact .inr (.inl ⟨List.mem_append_left _ early, nonempty⟩)
  · rcases List.mem_cons.1 late with rfl | late
    · exact .inl (List.mem_append_right _ List.mem_cons_self)
    · exact .inr (.inr ⟨List.mem_cons_of_mem _ late, nonempty⟩)

/-- A blank parts the words before it from those after it. -/
theorem words_append_cons_blank (cs rest : List Char) :
    words (cs ++ ' ' :: rest) = words cs ++ words rest := by
  obtain ⟨spread, all⟩ := spread_words cs
  generalize words cs = ws at spread all
  induction spread with
  | nil space => rw [words_append_space space, words_cons_blank rfl, List.nil_append]
  | @cons space w tail ws blank _ ends ih =>
    obtain ⟨word, others⟩ := List.forall_mem_cons.1 all
    have stops : ∀ c, (tail ++ ' ' :: rest).head? = some c → isBlank c = true := by
      intro c head
      cases tail with
      | nil =>
        cases head
        rfl
      | cons d tail => exact ends c head
    rw [List.append_assoc, List.append_assoc, words_append_space blank, words_append word stops,
      ih others, List.cons_append]

theorem words_dropReturn (line : List Char) : words (dropReturn '\r' line) = words line := by
  unfold dropReturn
  split
  · rename_i last
    obtain ⟨front, rfl⟩ := List.getLast?_eq_some_iff.1 last
    have ret : IsSpace ['\r'] := by
      intro c member
      rw [List.mem_singleton.1 member]
      rfl
    rw [List.dropLast_concat, words_append_of_space ret]
  · rfl

/-- Only white space after the last word of a line can be lost with its ending. -/
theorem dropReturn_append_space {cs space : List Char} (all : IsSpace space) {last : Char}
    (final : cs.getLast? = some last) (plain : isBlank last = false) :
    ∃ space', IsSpace space' ∧ dropReturn '\r' (cs ++ space) = cs ++ space' := by
  unfold dropReturn
  split
  · rename_i ret
    rcases List.eq_nil_or_concat' space with rfl | ⟨front, c, rfl⟩
    · rw [List.append_nil, final] at ret
      cases ret
      cases plain
    · obtain ⟨blank, -⟩ := List.forall_mem_append.1 all
      refine ⟨front, blank, ?_⟩
      rw [← List.append_assoc, List.dropLast_concat]
  · exact ⟨space, all, rfl⟩

/-- Closing a line keeps its words, and leaves the line out only if it is empty. -/
theorem words_closeLines (line : List Char) (more : List (List Char)) :
    (line = [] ∧ closeLines '\r' (line :: more) = closeLines '\r' more) ∨
      ∃ shown, words shown = words line ∧
        closeLines '\r' (line :: more) = shown :: closeLines '\r' more := by
  cases more with
  | nil =>
    by_cases empty : line = []
    · exact .inl ⟨empty, if_pos empty⟩
    · exact .inr ⟨line, rfl, if_neg empty⟩
  | cons next rest => exact .inr ⟨dropReturn '\r' line, words_dropReturn line, rfl⟩

end LinProg.Text

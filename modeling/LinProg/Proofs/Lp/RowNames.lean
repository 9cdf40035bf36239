import Mathlib
import LinProg.Proofs.Lp.Listing

/-!
# The names of rows

A row is named by its label, and without one by its number (`names_of_read`).  Two rows share a name if they
share a label, or if one is labelled with the name that the other one has by its number
(`row_names_distinct`).
-/

namespace LinProg.Lp
open Operation (reading_bind_ok_iff reading_map_ok_iff)

/-! ### Labels -/

def Statement.label? (line : Statement) : Option String :=
  (ReadState.splitLabel line.text).1.map String.ofList

def rowLabels (lines : List Statement) : List (Option String) :=
  (lines.filter (·.stage = .constraints)).map Statement.label?

/-- The name of a row without a label, by its position. -/
def numberedName (i : Nat) : String := "R" ++ toString (i + 1)

/-- Rows with some labels are named by these and by their numbers. -/
def rowNames (labels : List (Option String)) : List String :=
  labels.mapIdx fun i label => label.getD (numberedName i)

def numberedNames (labels : List (Option String)) : List String :=
  (labels.zipIdx.filter (·.1 = none)).map fun row => numberedName row.2

theorem numberedName_injective : Function.Injective numberedName := by
  intro i j same
  have digits : Nat.repr (i + 1) = Nat.repr (j + 1) := (String.append_right_inj "R").1 same
  exact Nat.succ_injective (Nat.repr_injective digits)

section Names

variable {labels : List (Option String)}

theorem rowNames_concat (labels : List (Option String)) (label : Option String) :
    rowNames (labels ++ [label]) = rowNames labels ++ [label.getD (numberedName labels.length)] := by
  unfold rowNames
  rw [List.mapIdx_append]
  simp

theorem numberedNames_concat (labels : List (Option String)) (label : Option String) :
    numberedNames (labels ++ [label]) = numberedNames labels ++
      if label = none then [numberedName labels.length] else [] := by
  unfold numberedNames
  rw [List.zipIdx_append, List.filter_append, List.map_append]
  cases label <;> simp

/-- The names of rows are the labels and the names that rows get by their numbers. -/
theorem perm_rowNames (labels : List (Option String)) :
    (rowNames labels).Perm (labels.reduceOption ++ numberedNames labels) := by
  induction labels using List.reverseRecOn with
  | nil => exact .nil
  | append_singleton labels label ih =>
    rw [rowNames_concat, numberedNames_concat, List.reduceOption_append,
      List.reduceOption_singleton]
    cases label with
    | none =>
      rw [if_pos rfl, Option.toList_none, List.append_nil, ← List.append_assoc]
      exact ih.append_right _
    | some label =>
      rw [if_neg (Option.some_ne_none label), List.append_nil]
      refine (ih.append_right [label]).trans ?_
      rw [List.append_assoc, List.append_assoc]
      exact List.perm_append_comm.append_left _

theorem nodup_numberedNames (labels : List (Option String)) : (numberedNames labels).Nodup := by
  have positions : (labels.zipIdx.map Prod.snd).Nodup := by
    rw [List.zipIdx_map_snd]
    exact List.nodup_range' ..
  have numbers : ((labels.zipIdx.filter (·.1 = none)).map Prod.snd).Nodup :=
    positions.sublist (List.filter_sublist.map Prod.snd)
  have names := numbers.map numberedName_injective
  rwa [List.map_map] at names

theorem nodup_rowNames : (rowNames labels).Nodup ↔
    labels.reduceOption.Nodup ∧ labels.reduceOption.Disjoint (numberedNames labels) := by
  rw [(perm_rowNames labels).nodup_iff, List.nodup_append']
  simp only [nodup_numberedNames, true_and]

end Names

/-! ### Rows -/

namespace ReadState

variable {s t : ReadState} {text : List Char}

theorem rows_takeContent (other : s.stage ≠ .constraints) (h : s.takeContent text = .ok t) :
    t.rows = s.rows := by
  unfold takeContent at h
  cases stage : s.stage with
  | preamble =>
    rw [stage] at h
    cases h
  | constraints => exact absurd stage other
  | objective | bounds =>
    rw [stage] at h
    obtain ⟨_, -, taken⟩ := reading_bind_ok_iff.1 h
    cases taken
    rfl
  | generals | binaries =>
    rw [stage] at h
    cases h
    rfl

/-- The rows that were read have the names of the constraint lines so far. -/
def NamesRows (done : List Statement) (s : ReadState) : Prop :=
  s.rows.map (·.name) = rowNames (rowLabels done)

theorem NamesRows.takeContent {done : List Statement} (names : NamesRows done s)
    (h : s.takeContent text = .ok t) : NamesRows (done ++ [⟨s.stage, text⟩]) t := by
  unfold NamesRows rowLabels at *
  rw [List.filter_append, List.map_append]
  by_cases stage : s.stage = .constraints
  · unfold ReadState.takeContent at h
    rw [stage] at h
    obtain ⟨_, _, _, _, _, -, -, -, rfl⟩ := takeRow_cases h
    have count : s.rows.length = (done.filter (·.stage = .constraints)).length := by
      simpa [rowNames] using congrArg List.length names
    rw [List.map_append, names, List.filter_cons_of_pos (by simpa using stage), List.filter_nil,
      List.map_singleton, List.map_singleton, rowNames_concat, List.length_map, ← count]
    rfl
  · rw [rows_takeContent stage h, names, List.filter_cons_of_neg (by simpa using stage)]
    exact (congrArg rowNames (List.append_nil _)).symm

end ReadState

theorem names_of_read {text : String} {d : Document} (accepted : read text = .ok d) :
    d.rows.map (·.name) = rowNames (rowLabels (statements text)) := by
  obtain ⟨s, state, rfl⟩ := reading_map_ok_iff.1 accepted
  have start : ReadState.NamesRows [] .start := rfl
  refine ReadState.readLines_invariant ?_ ?_ ?_ start state
  · rintro done s (_ | comment) names
    · exact names
    · unfold ReadState.noted ReadState.takeComment
      dsimp only
      split <;> exact names
  · exact fun done s stage sense names => names
  · exact fun done s text t names taken => names.takeContent taken

/-- The rows of an accepted text have different names if and only if no two of them carry the same label, and
none carries the name that another row has by its number. -/
theorem row_names_distinct {text : String} {d : Document} (accepted : read text = .ok d) :
    let labels := rowLabels (statements text)
    d.rows.map (·.name) = rowNames labels ∧
      ((d.rows.map (·.name)).Nodup ↔
        labels.reduceOption.Nodup ∧ labels.reduceOption.Disjoint (numberedNames labels)) := by
  intro labels
  have names : d.rows.map (·.name) = rowNames labels := names_of_read accepted
  exact ⟨names, names ▸ nodup_rowNames⟩

/-- Two rows without a label, around one that is labelled as the first of them is named. -/
def clashingText : String := "Minimize\n x\nSubject To\n x <= 1\n R1: x >= 0\n x = 2\nEnd\n"

theorem row_names_distinct_clashingText :
    rowLabels (statements clashingText) = [none, some "R1", none] ∧
      ∃ d, read clashingText = .ok d ∧ d.rows.map (·.name) = ["R1", "R1", "R3"] ∧
        ¬(d.rows.map (·.name)).Nodup := by
  have labels : rowLabels (statements clashingText) = [none, some "R1", none] := by decide +kernel
  have accepted : read clashingText = .ok ⟨"", .minimize, [("x", 1)],
      [⟨"R1", [("x", 1)], .le, 1⟩, ⟨"R1", [("x", 1)], .ge, 0⟩, ⟨"R3", [("x", 1)], .eq, 2⟩],
      [⟨"x", 0, Number.infinity, .continuous⟩]⟩ := by decide +kernel
  obtain ⟨names, distinct⟩ := row_names_distinct accepted
  rw [labels] at names distinct
  refine ⟨labels, _, accepted, names.trans (by decide), fun nodup => ?_⟩
  have shared : "R1" ∈ numberedNames [none, some "R1", none] := by decide +kernel
  exact (distinct.1 nodup).2 (by decide) shared

end LinProg.Lp

import MetricSeries.Operation.Label

set_option autoImplicit false

namespace MetricSeries

namespace Text

theorem not_mem_of_mem_splitOn {sep : Char} (cs : List Char) :
    ∀ piece ∈ cs.splitOn sep, sep ∉ piece := by
  induction cs with
  | nil => simp
  | cons c cs ih =>
    obtain ⟨first, rest, hs⟩ := List.exists_cons_of_ne_nil (List.splitOn_ne_nil sep cs)
    rw [List.splitOn_cons_eq_if_modifyHead, hs]
    rw [hs] at ih
    intro piece hp
    by_cases hc : (c == sep) = true
    · rw [if_pos hc] at hp
      rcases List.mem_cons.1 hp with rfl | hp
      · simp
      · exact ih piece hp
    · rw [if_neg hc, List.modifyHead_cons] at hp
      rcases List.mem_cons.1 hp with rfl | hp
      · have hsep : sep ≠ c := fun h => hc (by simp [h])
        simp [hsep, ih first (by simp)]
      · exact ih piece (by simp [hp])

theorem not_mem_of_mem_pieces {sep : Char} {s piece : String} (h : piece ∈ pieces sep s) :
    sep ∉ piece.toList := by
  obtain ⟨cs, hcs, rfl⟩ := List.mem_map.1 h
  simpa using not_mem_of_mem_splitOn s.toList cs hcs

theorem pieces_eq_singleton {sep : Char} {s : String} (h : sep ∉ s.toList) :
    pieces sep s = [s] := by
  simp [pieces, List.splitOn_eq_singleton h]

theorem toList_join_cons (sep : Char) (part next : String) (parts : List String) :
    (join sep (part :: next :: parts)).toList =
      part.toList ++ sep :: (join sep (next :: parts)).toList := by
  simp [join, List.intercalate_cons_cons]

theorem pieces_join (sep : Char) (parts : List String) (h : parts ≠ []) :
    pieces sep (join sep parts) = parts.flatMap (pieces sep) := by
  induction parts with
  | nil => exact absurd rfl h
  | cons part parts ih =>
    cases parts with
    | nil => simp [join]
    | cons next parts =>
      have ih := ih (by simp)
      rw [List.flatMap_cons, ← ih]
      simp only [pieces]
      rw [toList_join_cons, List.splitOn_append_cons_self, List.map_append]

theorem flatMap_pieces_eq_self {sep : Char} {parts : List String}
    (h : ∀ part ∈ parts, sep ∉ part.toList) : parts.flatMap (pieces sep) = parts := by
  induction parts with
  | nil => rfl
  | cons part parts ih =>
    rw [List.flatMap_cons, pieces_eq_singleton (h part (by simp)),
      ih fun part hp => h part (by simp [hp])]
    rfl

end Text

/-- Whether a name has a node at an index; negative indices count from the end. -/
def HasNode (name : String) (index : Int) : Prop :=
  -((Text.pieces '.' name).length : Int) ≤ index ∧ index < (Text.pieces '.' name).length

instance (name : String) (index : Int) : Decidable (HasNode name index) :=
  inferInstanceAs (Decidable (_ ∧ _))

/-- The position that an index stands for. -/
def nodePosition (name : String) (index : Int) : Nat :=
  (if index < 0 then (Text.pieces '.' name).length + index else index).toNat

def stemAt (name : String) (index : Int) : List String :=
  (Text.pieces '.' name).take (nodePosition name index)

def fragmentAt (name : String) (index : Int) : String :=
  (Text.pieces '.' name)[nodePosition name index]?.getD ""

theorem resolveNode_of_hasNode {name : String} {index : Int} (h : HasNode name index) :
    resolveNode (Text.pieces '.' name).length index = some (nodePosition name index) := by
  unfold HasNode at h
  unfold resolveNode nodePosition
  split <;> rw [if_pos (by omega)]

theorem resolveNode_of_not_hasNode {name : String} {index : Int} (h : ¬HasNode name index) :
    resolveNode (Text.pieces '.' name).length index = none := by
  unfold HasNode at h
  unfold resolveNode
  split <;> rw [if_neg (by omega)]

theorem nodeAt_of_hasNode {name : String} {index : Int} (h : HasNode name index) :
    nodeAt name index = .ok (stemAt name index, fragmentAt name index) := by
  simp only [nodeAt, resolveNode_of_hasNode h]
  rfl

theorem nodeAt_of_not_hasNode {name : String} {index : Int} (h : ¬HasNode name index) :
    nodeAt name index = .error (.nodeOutOfRange name index (Text.pieces '.' name).length) := by
  simp only [nodeAt, resolveNode_of_not_hasNode h]

theorem not_mem_of_mem_stemAt {name part : String} {index : Int} (h : part ∈ stemAt name index) :
    '.' ∉ part.toList :=
  Text.not_mem_of_mem_pieces (List.mem_of_mem_take h)

end MetricSeries

import Mathlib
import MetricSeries.Operation.Column
import MetricSeries.Proofs.Scaling

/-!
Columns over exact numbers.  Sums and extremes are folds of an operation for which an absent sample
counts for nothing, so that neither the order of the series matters nor whether some of them are
combined before the others.
-/

set_option autoImplicit false

namespace MetricSeries

theorem foldl_map_foldl {α : Type} {op : α → α → α} {e : α} [Std.Associative op]
    [Std.LawfulIdentity op e] (a : α) (parts : List (List α)) :
    (parts.map (List.foldl op e)).foldl op a = parts.flatten.foldl op a := by
  induction parts generalizing a with
  | nil => rfl
  | cons xs parts ih =>
    have hright : op a e = a := Std.LawfulRightIdentity.right_id a
    have hfirst : op a (xs.foldl op e) = xs.foldl op a := by
      rw [← hright, List.foldl_assoc, hright]
    rw [List.map_cons, List.foldl_cons, hfirst, ih, List.flatten_cons, List.foldl_append]

section
variable {α : Type} {list list' : List (Series α)}

theorem isGreatest_width (h : list ≠ []) :
    IsGreatest {n | ∃ s ∈ list, s.length = n} (width list) := by
  obtain ⟨first, rest, rfl⟩ := List.exists_cons_of_ne_nil h
  have hmax : ((first :: rest).map Series.length).max? = some (width (first :: rest)) := by
    unfold width
    rw [List.map_cons, List.max?_cons', List.foldl_cons, Nat.zero_max]
  obtain ⟨hmem, hle⟩ := List.max?_eq_some_iff.1 hmax
  exact ⟨List.mem_map.1 hmem, fun n ⟨s, hs, hn⟩ => hn ▸ hle _ (List.mem_map_of_mem hs)⟩

theorem width_perm (h : list'.Perm list) : width list' = width list :=
  (h.map Series.length).foldl_op_eq

theorem width_flatten (groups : List (List (Series α))) :
    (groups.map width).foldl max 0 = width groups.flatten := by
  unfold width
  rw [List.map_flatten, ← foldl_map_foldl (e := 0), List.map_map]
  rfl

theorem sampleAt_of_length_le {s : Series α} {i : Nat} (h : s.length ≤ i) :
    sampleAt s i = none := by
  unfold sampleAt
  rw [List.getElem?_eq_none h]
  rfl

theorem values_eq_of_sampleAt {s t : Series α} (hlength : s.length = t.length)
    (h : ∀ i, sampleAt s i = sampleAt t i) : s.values = t.values := by
  refine List.ext_getElem hlength fun i hs ht => ?_
  have hi := h i
  unfold sampleAt at hi
  rwa [List.getElem?_eq_getElem hs, List.getElem?_eq_getElem ht] at hi

theorem column_eq_nil_iff {i : Nat} : column list i = [] ↔ ∀ s ∈ list, sampleAt s i = none :=
  List.filterMap_eq_nil_iff

theorem column_of_width_le {i : Nat} (h : width list ≤ i) : column list i = [] := by
  refine column_eq_nil_iff.2 fun s hs => sampleAt_of_length_le (le_trans ?_ h)
  exact (isGreatest_width (List.ne_nil_of_mem hs)).2 ⟨s, hs, rfl⟩

theorem fold?_eq_none_iff [Arith α] {c : Combiner} {xs : List α} : c.fold? xs = none ↔ xs = [] := by
  cases xs <;> simp [Combiner.fold?]

theorem exists_combine [Arith α] (c : Combiner) (h : list ≠ []) :
    ∃ result, combine c list = [result] ∧ result.length = width list ∧
      ∀ i, sampleAt result i = c.fold? (column list i) := by
  obtain ⟨first, rest, rfl⟩ := List.exists_cons_of_ne_nil h
  refine ⟨_, rfl, ?_, fun i => ?_⟩
  · simp [Series.derive, Series.length, columns_eq_map_column]
  · unfold sampleAt Series.derive
    rw [columns_eq_map_column, List.map_map, List.getElem?_map]
    rcases lt_or_ge i (width (first :: rest)) with hi | hi
    · rw [List.getElem?_range hi]
      rfl
    · rw [List.getElem?_eq_none (by simpa using hi), column_of_width_le hi]
      rfl

theorem combine_eq_nil_iff [Arith α] {c : Combiner} : combine c list = [] ↔ list = [] := by
  cases list <;> simp [combine]

theorem map_flatMap_combine {β : Type} [Arith α] {c : Combiner} {f : Series α → β}
    {g : List (Series α) → β} (hfg : ∀ group, group ≠ [] → (combine c group).map f = [g group])
    {groups : List (List (Series α))} (h : [] ∉ groups) :
    (groups.flatMap (combine c)).map f = groups.map g := by
  rw [List.map_flatMap, List.map_eq_flatMap]
  exact List.flatMap_congr fun group hgroup => hfg group (ne_of_mem_of_not_mem hgroup h)

theorem width_flatMap_combine [Arith α] {c : Combiner} {groups : List (List (Series α))}
    (h : [] ∉ groups) : width (groups.flatMap (combine c)) = width groups.flatten := by
  have hlengths : (groups.flatMap (combine c)).map Series.length = groups.map width := by
    refine map_flatMap_combine (fun group hgroup => ?_) h
    obtain ⟨result, hresult, hlength, _⟩ := exists_combine c hgroup
    rw [hresult, List.map_singleton, hlength]
  rw [← width_flatten, ← hlengths]
  rfl

theorem map_values_combine_eq [Arith α] {c : Combiner} (hnil : list' = [] ↔ list = [])
    (hwidth : width list' = width list)
    (h : ∀ i, c.fold? (column list' i) = c.fold? (column list i)) :
    (combine c list').map Series.values = (combine c list).map Series.values := by
  by_cases hlist : list = []
  · rw [hlist, hnil.2 hlist]
  obtain ⟨result', hresult', hlength', hat'⟩ := exists_combine c (mt hnil.1 hlist)
  obtain ⟨result, hresult, hlength, hat⟩ := exists_combine c hlist
  rw [hresult', hresult, List.map_singleton, List.map_singleton]
  refine congrArg (fun values => [values]) (values_eq_of_sampleAt ?_ fun i => ?_)
  · rw [hlength', hlength, hwidth]
  · rw [hat', hat, h]

end

/-- A combiner that takes one operation from sample to sample, in an order that does not matter. -/
structure Combiner.Folds (c : Combiner) (op : ℝ → ℝ → ℝ) : Prop where
  assoc : Std.Associative op
  comm : Std.Commutative op
  fold_eq : ∀ x xs, c.fold x xs = xs.foldl op x

theorem Combiner.folds_sum : Combiner.sum.Folds (· + ·) where
  assoc := inferInstance
  comm := inferInstance
  fold_eq x xs := by
    dsimp only [Combiner.fold]
    rw [total_eq_sum, List.sum_eq_foldl, List.foldl_cons, zero_add]

theorem Combiner.folds_max : Combiner.max.Folds Max.max where
  assoc := inferInstance
  comm := inferInstance
  fold_eq x xs := congrArg (fun op => xs.foldl op x) (funext₂ greater_eq_max)

theorem Combiner.folds_min : Combiner.min.Folds Min.min where
  assoc := inferInstance
  comm := inferInstance
  fold_eq x xs := congrArg (fun op => xs.foldl op x) (funext₂ lesser_eq_min)

/-- All samples of a point together; one that is absent changes nothing. -/
def together (op : ℝ → ℝ → ℝ) (list : List (Series ℝ)) (i : Nat) : Option ℝ :=
  (list.map fun s => sampleAt s i).foldl (Option.merge op) none

section
variable {c : Combiner} {op : ℝ → ℝ → ℝ} (hc : c.Folds op)
include hc

theorem Combiner.Folds.fold?_eq_foldl (xs : List ℝ) :
    c.fold? xs = (xs.map some).foldl (Option.merge op) none := by
  rw [List.foldl_map]
  cases xs with
  | nil => rfl
  | cons x xs =>
    dsimp only [Combiner.fold?]
    rw [hc.fold_eq, List.foldl_cons]
    exact (List.foldl_hom some fun _ _ => rfl).symm

theorem Combiner.Folds.fold?_column (list : List (Series ℝ)) (i : Nat) :
    c.fold? (column list i) = together op list i := by
  unfold together column
  rw [hc.fold?_eq_foldl, List.foldl_map, List.foldl_filterMap, List.foldl_map]
  refine congrArg (fun f => list.foldl f none) (funext₂ fun sample s => ?_)
  cases sampleAt s i with
  | none => rw [Option.merge_none_right]
  | some x => rfl

theorem Combiner.Folds.fold?_perm {xs ys : List ℝ} (h : ys.Perm xs) : c.fold? ys = c.fold? xs := by
  have := hc.assoc
  have := hc.comm
  rw [hc.fold?_eq_foldl, hc.fold?_eq_foldl]
  exact (h.map some).foldl_op_eq

/-- What two parts give is put together as two samples are, unless a part gives nothing. -/
theorem Combiner.Folds.fold?_append (xs ys : List ℝ) :
    c.fold? (xs ++ ys) = (c.fold? xs).merge op (c.fold? ys) := by
  have := hc.assoc
  have hstart : ∀ a, (ys.map some).foldl (Option.merge op) a =
      a.merge op ((ys.map some).foldl (Option.merge op) none) := by
    intro a
    refine Eq.trans ?_ List.foldl_assoc
    rw [Option.merge_none_right]
  simp only [hc.fold?_eq_foldl]
  rw [List.map_append, List.foldl_append, hstart]

theorem Combiner.Folds.fold?_column_flatMap {groups : List (List (Series ℝ))} (h : [] ∉ groups)
    (i : Nat) : c.fold? (column (groups.flatMap (combine c)) i) =
      c.fold? (column groups.flatten i) := by
  have := hc.assoc
  -- A part without a sample at the point has none in its result, which is neutral among the others.
  have hparts : (groups.flatMap (combine c)).map (fun s => sampleAt s i) =
      groups.map fun group => together op group i := by
    refine map_flatMap_combine (fun group hgroup => ?_) h
    obtain ⟨result, hresult, _, hat⟩ := exists_combine c hgroup
    rw [hresult, List.map_singleton, hat, hc.fold?_column]
  rw [hc.fold?_column, hc.fold?_column]
  unfold together at *
  rw [hparts, List.map_flatten, ← foldl_map_foldl (e := none), List.map_map]
  rfl

theorem Combiner.Folds.map_values_flatMap {groups : List (List (Series ℝ))} (h : [] ∉ groups) :
    (combine c (groups.flatMap (combine c))).map Series.values =
      (combine c groups.flatten).map Series.values := by
  refine map_values_combine_eq ?_ (width_flatMap_combine h) (hc.fold?_column_flatMap h)
  rw [List.flatMap_eq_nil_iff, List.flatten_eq_nil_iff]
  exact forall₂_congr fun group _ => combine_eq_nil_iff

end

theorem fold?_average (xs : List ℝ) :
    Combiner.average.fold? xs = (Combiner.sum.fold? xs).map (· / (xs.length : ℝ)) := by
  cases xs <;> rfl

theorem fold?_max (xs : List ℝ) : Combiner.max.fold? xs = xs.max? := by
  cases xs with
  | nil => rfl
  | cons x xs => exact (congrArg some (Combiner.folds_max.fold_eq x xs)).trans List.max?_cons'.symm

theorem fold?_min (xs : List ℝ) : Combiner.min.fold? xs = xs.min? := by
  cases xs with
  | nil => rfl
  | cons x xs => exact (congrArg some (Combiner.folds_min.fold_eq x xs)).trans List.min?_cons'.symm

theorem fold?_average_between {xs : List ℝ} {mean : ℝ} (h : Combiner.average.fold? xs = some mean) :
    ∃ least greatest, Combiner.min.fold? xs = some least ∧
      Combiner.max.fold? xs = some greatest ∧ least ≤ mean ∧ mean ≤ greatest := by
  have hne : xs ≠ [] := by
    rintro rfl
    cases h
  have hlength : (0 : ℝ) < xs.length := Nat.cast_pos.2 (List.length_pos_of_ne_nil hne)
  obtain ⟨least, hleast⟩ := Option.ne_none_iff_exists'.1 (mt List.min?_eq_none_iff.1 hne)
  obtain ⟨greatest, hgreatest⟩ := Option.ne_none_iff_exists'.1 (mt List.max?_eq_none_iff.1 hne)
  have hmean : mean = xs.sum / xs.length := by
    obtain ⟨x, rest, rfl⟩ := List.exists_cons_of_ne_nil hne
    rw [← total_eq_sum]
    exact (Option.some.inj h).symm
  refine ⟨least, greatest, by rw [fold?_min, hleast], by rw [fold?_max, hgreatest], ?_, ?_⟩
  · rw [hmean, le_div_iff₀ hlength, mul_comm, ← nsmul_eq_mul]
    exact List.card_nsmul_le_sum xs least (List.min?_eq_some_iff.1 hleast).2
  · rw [hmean, div_le_iff₀ hlength, mul_comm, ← nsmul_eq_mul]
    exact List.sum_le_card_nsmul xs greatest (List.max?_eq_some_iff.1 hgreatest).2

theorem fold?_perm {c : Combiner} (h : c ≠ .diff) {xs ys : List ℝ} (hperm : ys.Perm xs) :
    c.fold? ys = c.fold? xs := by
  cases c with
  | sum => exact Combiner.folds_sum.fold?_perm hperm
  | average =>
    rw [fold?_average, fold?_average, hperm.length_eq, Combiner.folds_sum.fold?_perm hperm]
  | max => exact Combiner.folds_max.fold?_perm hperm
  | min => exact Combiner.folds_min.fold?_perm hperm
  | diff => exact absurd rfl h

theorem map_values_combine_perm {c : Combiner} (h : c ≠ .diff) {list list' : List (Series ℝ)}
    (hperm : list'.Perm list) :
    (combine c list').map Series.values = (combine c list).map Series.values := by
  refine map_values_combine_eq ?_ (width_perm hperm) fun i => fold?_perm h (hperm.filterMap _)
  rw [← List.length_eq_zero_iff, hperm.length_eq, List.length_eq_zero_iff]

theorem map_values_combine_regroup {c : Combiner} (h : c ≠ .diff) (haverage : c ≠ .average)
    {list : List (Series ℝ)} {groups : List (List (Series ℝ))} (hflatten : groups.flatten.Perm list)
    (hgroups : [] ∉ groups) :
    (combine c (groups.flatMap (combine c))).map Series.values =
      (combine c list).map Series.values := by
  have hfolds : ∃ op, c.Folds op := by
    cases c with
    | sum => exact ⟨_, Combiner.folds_sum⟩
    | average => exact absurd rfl haverage
    | max => exact ⟨_, Combiner.folds_max⟩
    | min => exact ⟨_, Combiner.folds_min⟩
    | diff => exact absurd rfl h
  obtain ⟨op, hop⟩ := hfolds
  exact (hop.map_values_flatMap hgroups).trans (map_values_combine_perm h hflatten)

/-- The order of a list does not matter for sums, means and extremes; they are as long as the
longest series and absent where all series are.  Means are between the extremes.  A list may be
summed in parts first, and so may its extremes be found. -/
theorem combine_columns (list : List (Series ℝ)) :
    (∀ c ∈ [Combiner.sum, .average, .max, .min],
      (∀ list', list'.Perm list →
        (combine c list').map Series.values = (combine c list).map Series.values) ∧
      (list ≠ [] → ∃ result, combine c list = [result] ∧
        IsGreatest {n | ∃ s ∈ list, s.length = n} result.length ∧
        ∀ i, sampleAt result i = none ↔ ∀ s ∈ list, sampleAt s i = none)) ∧
    (list ≠ [] → ∃ lower mean upper, combine .min list = [lower] ∧
      combine .average list = [mean] ∧ combine .max list = [upper] ∧
      ∀ i y, sampleAt mean i = some y → ∃ x z,
        sampleAt lower i = some x ∧ sampleAt upper i = some z ∧ x ≤ y ∧ y ≤ z) ∧
    (∀ c ∈ [Combiner.sum, .max, .min], ∀ groups : List (List (Series ℝ)),
      groups.flatten.Perm list → [] ∉ groups →
      (combine c (groups.flatMap (combine c))).map Series.values =
        (combine c list).map Series.values) := by
  refine ⟨fun c hc => ⟨fun list' => map_values_combine_perm ?_, fun h => ?_⟩, fun h => ?_,
    fun c hc groups => map_values_combine_regroup ?_ ?_⟩
  · rintro rfl
    simp at hc
  · obtain ⟨result, hresult, hlength, hat⟩ := exists_combine c h
    refine ⟨result, hresult, hlength ▸ isGreatest_width h, fun i => ?_⟩
    rw [hat, fold?_eq_none_iff, column_eq_nil_iff]
  · obtain ⟨lower, hlower, -, hatLower⟩ := exists_combine .min h
    obtain ⟨mean, hmean, -, hatMean⟩ := exists_combine .average h
    obtain ⟨upper, hupper, -, hatUpper⟩ := exists_combine .max h
    refine ⟨lower, mean, upper, hlower, hmean, hupper, fun i y hy => ?_⟩
    rw [hatLower, hatUpper]
    exact fold?_average_between (hatMean i ▸ hy)
  · rintro rfl
    simp at hc
  · rintro rfl
    simp at hc

/-- Three series of different lengths, with a point that none has: taken the other way round, and
the last one apart from the others. -/
theorem combine_columns_uneven :
    let a : Series ℝ := .named "a" 0 120 60 [some 1, none, some 3]
    let b : Series ℝ := .named "b" 0 60 60 [some 2]
    let c : Series ℝ := .named "c" 0 240 60 [none, none, some 5, some 7]
    [c, b, a].Perm [a, b, c] ∧ [a, b, c] ≠ [] ∧ [[c], [a, b]].flatten.Perm [a, b, c] ∧
      [] ∉ [[c], [a, b]] ∧
      (combine .sum [a, b, c]).map Series.values = [[some 3, none, some 8, some 7]] ∧
      (combine .average [c, b, a]).map Series.values =
        (combine .average [a, b, c]).map Series.values ∧
      (∃ result, combine .max [a, b, c] = [result] ∧ result.length = 4 ∧
        sampleAt result 1 = none ∧ sampleAt result 3 ≠ none) ∧
      (combine .sum ([[c], [a, b]].flatMap (combine .sum))).map Series.values =
        (combine .sum [a, b, c]).map Series.values := by
  intro a b c
  have hperm : [c, b, a].Perm [a, b, c] := List.reverse_perm [a, b, c]
  have hflatten : ([c] ++ [a, b]).Perm ([a, b] ++ [c]) := List.perm_append_comm
  have hgroups : [] ∉ [[c], [a, b]] := by simp
  have hsum : (combine .sum [a, b, c]).map Series.values = [[some 3, none, some 8, some 7]] := by
    have hcolumns : (combine .sum [a, b, c]).map Series.values =
        [[some (total [1, 2]), none, some (total [3, 5]), some (total [7])]] := rfl
    rw [hcolumns, total_eq_sum, total_eq_sum, total_eq_sum]
    norm_num
  have hlongest : IsGreatest {n | ∃ s ∈ [a, b, c], s.length = n} 4 := by
    refine ⟨⟨c, by simp, rfl⟩, ?_⟩
    rintro n ⟨s, hs, rfl⟩
    simp only [List.mem_cons, List.not_mem_nil, or_false] at hs
    rcases hs with rfl | rfl | rfl <;> decide
  obtain ⟨hany, -, hparts⟩ := combine_columns [a, b, c]
  obtain ⟨result, hresult, hgreatest, habsent⟩ := (hany .max (by simp)).2 (by simp)
  refine ⟨hperm, by simp, hflatten, hgroups, hsum, (hany .average (by simp)).1 _ hperm,
    ⟨result, hresult, hgreatest.unique hlongest, ?_, ?_⟩,
    hparts .sum (by simp) _ hflatten hgroups⟩
  · refine (habsent 1).2 fun s hs => ?_
    simp only [List.mem_cons, List.not_mem_nil, or_false] at hs
    rcases hs with rfl | rfl | rfl <;> rfl
  · intro hnone
    cases (habsent 3).1 hnone c (by simp)

end MetricSeries

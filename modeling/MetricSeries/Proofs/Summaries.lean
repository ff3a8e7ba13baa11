import Mathlib
import MetricSeries.Proofs.Columns
import MetricSeries.Proofs.Ranks

set_option autoImplicit false

namespace MetricSeries

/-- A result that takes in sample after sample, and is the first of them as soon as there is one, is
that of a column. -/
theorem Combiner.Folds.foldl_none {c : Combiner} {op : ℝ → ℝ → ℝ} (hc : c.Folds op)
    {step : Option ℝ → ℝ → Option ℝ} (hfirst : ∀ x, step none x = some x)
    (hnext : ∀ result x, step (some result) x = some (op result x)) (xs : List ℝ) :
    xs.foldl step none = c.fold? xs := by
  rw [hc.fold?_eq_foldl, List.foldl_map]
  refine congrArg (fun f => xs.foldl f none) (funext₂ fun result x => ?_)
  cases result with
  | none => exact hfirst x
  | some result => exact hnext result x

namespace Samples

variable {xs ys : Samples ℝ}

theorem sum?_eq_fold? (xs : Samples ℝ) : xs.sum? = Combiner.sum.fold? xs.present :=
  Combiner.folds_sum.foldl_none (fun x => congrArg some (zero_add x)) (fun _ _ => rfl) xs.present

theorem max?_eq_fold? (xs : Samples ℝ) : xs.max? = Combiner.max.fold? xs.present :=
  Combiner.folds_max.foldl_none (fun _ => rfl) (fun a b => congrArg some (greater_eq_max a b))
    xs.present

theorem min?_eq_fold? (xs : Samples ℝ) : xs.min? = Combiner.min.fold? xs.present :=
  Combiner.folds_min.foldl_none (fun _ => rfl) (fun a b => congrArg some (lesser_eq_min a b))
    xs.present

theorem mean?_eq_fold? (xs : Samples ℝ) : xs.mean? = Combiner.average.fold? xs.present := by
  unfold mean? count
  rw [fold?_average, sum?_eq_fold?]
  split_ifs with hcount
  · rw [List.length_eq_zero_iff.1 hcount]
    rfl
  · rfl

theorem last?_eq_getLast? (xs : Samples ℝ) : xs.last? = xs.present.getLast? := by
  unfold last? present
  rw [List.filterMap_reverse, List.head?_reverse]

theorem exists_combiner {f : Samples ℝ → Option ℝ} (hf : f ∈ [sum?, max?, min?, mean?]) :
    ∃ c ≠ Combiner.diff, ∀ xs, f xs = c.fold? xs.present := by
  simp only [List.mem_cons, List.not_mem_nil, or_false] at hf
  obtain rfl | rfl | rfl | rfl := hf
  · exact ⟨.sum, nofun, sum?_eq_fold?⟩
  · exact ⟨.max, nofun, max?_eq_fold?⟩
  · exact ⟨.min, nofun, min?_eq_fold?⟩
  · exact ⟨.average, nofun, mean?_eq_fold?⟩

/-- Every summary is one of the samples that are there, and is missing only where there are none. -/
theorem exists_of_present {f : Samples ℝ → Option ℝ}
    (hf : f ∈ [sum?, max?, min?, mean?, last?]) :
    ∃ g : List ℝ → Option ℝ, (∀ zs, g zs = none ↔ zs = []) ∧ ∀ xs, f xs = g xs.present := by
  obtain hf | hf := List.mem_append.1 (show f ∈ [sum?, max?, min?, mean?] ++ [last?] from hf)
  · obtain ⟨c, -, hc⟩ := exists_combiner hf
    exact ⟨c.fold?, fun zs => fold?_eq_none_iff, hc⟩
  · obtain rfl := List.mem_singleton.1 hf
    exact ⟨List.getLast?, fun zs => List.getLast?_eq_none_iff, last?_eq_getLast?⟩

theorem present_congr (h : ys.filter Option.isSome = xs.filter Option.isSome) :
    ys.present = xs.present := by
  have hfilter : ∀ zs : Samples ℝ, (zs.filter Option.isSome).filterMap id = zs.present := by
    intro zs
    rw [List.filterMap_filter]
    refine List.filterMap_congr fun z _ => ?_
    cases z <;> rfl
  rw [← hfilter ys, h, hfilter]

theorem sum?_eq_some_iff {s : ℝ} :
    xs.sum? = some s ↔ xs.present ≠ [] ∧ s = xs.present.sum := by
  rw [sum?_eq_fold?]
  cases xs.present with
  | nil => simp [Combiner.fold?]
  | cons y ys => simp [Combiner.fold?, Combiner.fold, total_eq_sum, eq_comm]

theorem mean?_eq_some_iff {m : ℝ} :
    xs.mean? = some m ↔ xs.present ≠ [] ∧ m = xs.present.sum / xs.present.length := by
  rw [mean?_eq_fold?]
  cases xs.present with
  | nil => simp [Combiner.fold?]
  | cons y ys => simp [Combiner.fold?, Combiner.fold, total_eq_sum, eq_comm]

theorem max?_eq_some_iff {m : ℝ} : xs.max? = some m ↔ IsGreatest {x | some x ∈ xs} m := by
  rw [max?_eq_fold?, fold?_max, List.max?_eq_some_iff]
  simp only [mem_present]
  rfl

theorem min?_eq_some_iff {m : ℝ} : xs.min? = some m ↔ IsLeast {x | some x ∈ xs} m := by
  rw [min?_eq_fold?, fold?_min, List.min?_eq_some_iff]
  simp only [mem_present]
  rfl

theorem last?_eq_some_iff {y : ℝ} :
    xs.last? = some y ↔ ∃ front back, xs = front ++ some y :: back ∧ ∀ x ∈ back, x = none := by
  rw [last?_eq_getLast?, List.getLast?_eq_some_iff]
  simp only [← List.concat_eq_append]
  constructor
  · rintro ⟨_, hpresent⟩
    obtain ⟨front, back, rfl, -, hback⟩ := (List.reduceOption_eq_concat_iff ..).1 hpresent
    exact ⟨front, back, rfl, present_eq_nil_iff.1 hback⟩
  · rintro ⟨front, back, rfl, hback⟩
    exact ⟨front.present,
      (List.reduceOption_eq_concat_iff ..).2 ⟨front, back, rfl, rfl, present_eq_nil_iff.2 hback⟩⟩

theorem count_append (xs ys : Samples ℝ) : (xs ++ ys).count = xs.count + ys.count := by
  unfold count
  rw [present_append, List.length_append]

theorem sum?_append (xs ys : Samples ℝ) : (xs ++ ys).sum? = xs.sum?.merge (· + ·) ys.sum? := by
  simp only [sum?_eq_fold?, present_append, Combiner.folds_sum.fold?_append]

theorem max?_append (xs ys : Samples ℝ) : (xs ++ ys).max? = xs.max?.merge max ys.max? := by
  simp only [max?_eq_fold?, present_append, Combiner.folds_max.fold?_append]

theorem min?_append (xs ys : Samples ℝ) : (xs ++ ys).min? = xs.min?.merge min ys.min? := by
  simp only [min?_eq_fold?, present_append, Combiner.folds_min.fold?_append]

theorem mean?_append (xs ys : Samples ℝ) :
    (xs ++ ys).mean? =
      (xs.sum?.merge (· + ·) ys.sum?).map (· / ((xs.count + ys.count : Nat) : ℝ)) := by
  rw [mean?_eq_fold?, fold?_average, ← sum?_eq_fold?, sum?_append, ← count_append]
  rfl

theorem last?_append (xs ys : Samples ℝ) : (xs ++ ys).last? = ys.last?.or xs.last? := by
  simp only [last?_eq_getLast?, present_append, List.getLast?_append]

/-- A summary is missing where no sample is there, and else what its name says of the samples that
are.  Absent samples may come and go anywhere, and only for the last sample does the order matter.
The summaries and numbers of samples of two parts are enough for those of the whole, and the mean
lies between the extremes. -/
theorem summaries (xs : Samples ℝ) :
    (∀ f ∈ [sum?, max?, min?, mean?, last?], (f xs = none ↔ ∀ x ∈ xs, x = none) ∧
      ∀ ys : Samples ℝ, ys.filter Option.isSome = xs.filter Option.isSome → f ys = f xs) ∧
    (∀ f ∈ [sum?, max?, min?, mean?], ∀ ys : Samples ℝ, ys.Perm xs → f ys = f xs) ∧
    ((∃ x, some x ∈ xs) → xs.sum? = some xs.reduceOption.sum ∧
      xs.mean? = some (xs.reduceOption.sum / xs.reduceOption.length)) ∧
    (∀ m, xs.max? = some m ↔ IsGreatest {x | some x ∈ xs} m) ∧
    (∀ m, xs.min? = some m ↔ IsLeast {x | some x ∈ xs} m) ∧
    (∀ y, xs.last? = some y ↔
      ∃ front back, xs = front ++ some y :: back ∧ ∀ x ∈ back, x = none) ∧
    (∀ ys : Samples ℝ, (xs ++ ys).count = xs.count + ys.count ∧
      (xs ++ ys).sum? = xs.sum?.merge (· + ·) ys.sum? ∧
      (xs ++ ys).max? = xs.max?.merge max ys.max? ∧
      (xs ++ ys).min? = xs.min?.merge min ys.min? ∧
      (xs ++ ys).mean? =
        (xs.sum?.merge (· + ·) ys.sum?).map (· / ((xs.count + ys.count : Nat) : ℝ)) ∧
      (xs ++ ys).last? = ys.last?.or xs.last?) ∧
    ∀ m, xs.mean? = some m →
      ∃ least greatest, xs.min? = some least ∧ xs.max? = some greatest ∧
        least ≤ m ∧ m ≤ greatest := by
  refine ⟨fun f hf => ?_, fun f hf ys hperm => ?_, ?_, fun _ => max?_eq_some_iff,
    fun _ => min?_eq_some_iff, fun _ => last?_eq_some_iff, fun ys => ?_, fun m hm => ?_⟩
  · obtain ⟨g, hnone, hg⟩ := exists_of_present hf
    refine ⟨?_, fun ys h => ?_⟩
    · rw [hg, hnone, present_eq_nil_iff]
    · rw [hg, hg, present_congr h]
  · obtain ⟨c, hdiff, hc⟩ := exists_combiner hf
    rw [hc, hc]
    exact fold?_perm hdiff (hperm.filterMap id)
  · rintro ⟨x, hx⟩
    have hpresent : xs.present ≠ [] := List.ne_nil_of_mem (mem_present.2 hx)
    exact ⟨sum?_eq_some_iff.2 ⟨hpresent, rfl⟩, mean?_eq_some_iff.2 ⟨hpresent, rfl⟩⟩
  · exact ⟨count_append xs ys, sum?_append xs ys, max?_append xs ys, min?_append xs ys,
      mean?_append xs ys, last?_append xs ys⟩
  · rw [mean?_eq_fold?] at hm
    rw [min?_eq_fold?, max?_eq_fold?]
    exact fold?_average_between hm

/-- Three samples with gaps: with other gaps between them, the other way round, and in two parts of
which one has no sample. -/
theorem summaries_gaps :
    let xs : Samples ℝ := [some 2, none, some 7, some 3]
    let gaps : Samples ℝ := [none, some 2, some 7, none, some 3, none]
    gaps.filter Option.isSome = xs.filter Option.isSome ∧ xs.reverse.Perm xs ∧
      gaps.last? = some 3 ∧ sum? xs.reverse = some 12 ∧ xs.max? = some 7 ∧
      mean? ([none] ++ xs) = xs.mean? ∧ last? (xs ++ [none]) = xs.last? ∧
      ∃ least greatest, xs.min? = some least ∧ xs.max? = some greatest ∧
        least ≤ 4 ∧ 4 ≤ greatest := by
  intro xs gaps
  have hgaps : gaps.filter Option.isSome = xs.filter Option.isSome := rfl
  have hperm : xs.reverse.Perm xs := List.reverse_perm xs
  obtain ⟨hany, horder, hvalues, hmax, -, hlast, hparts, hbetween⟩ := summaries xs
  obtain ⟨hsum, hmean⟩ := hvalues ⟨2, by simp [xs]⟩
  have hpresent : xs.reduceOption = [2, 7, 3] := rfl
  have hseven : IsGreatest {x | some x ∈ xs} 7 := by
    refine ⟨by simp [xs], fun x hx => ?_⟩
    have hx : some x ∈ xs := hx
    rw [← List.reduceOption_mem_iff, hpresent] at hx
    simp only [List.mem_cons, List.not_mem_nil, or_false] at hx
    rcases hx with rfl | rfl | rfl <;> norm_num
  have hthree : xs.last? = some 3 := (hlast 3).2 ⟨[some 2, none, some 7], [], rfl, by simp⟩
  refine ⟨hgaps, hperm, ?_, ?_, (hmax 7).2 hseven, (hany mean? (by simp)).2 _ rfl, ?_,
    hbetween 4 ?_⟩
  · rw [(hany last? (by simp)).2 gaps hgaps, hthree]
  · rw [horder sum? (by simp) _ hperm, hsum, hpresent]
    norm_num
  · rw [(hparts [none]).2.2.2.2.2]
    rfl
  · rw [hmean, hpresent]
    norm_num

end Samples

end MetricSeries

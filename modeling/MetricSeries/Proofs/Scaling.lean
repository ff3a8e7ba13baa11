import Mathlib
import MetricSeries.Operation.Column
import MetricSeries.Operation.Order
import MetricSeries.Operation.Threshold
import MetricSeries.Operation.Trend
import MetricSeries.Samples.Season
import MetricSeries.Proofs.Ascending
import MetricSeries.Proofs.Exact

set_option autoImplicit false

namespace MetricSeries

theorem total_eq_sum {F : Type} [AddGroup F] (xs : List F) : total xs = xs.sum := by
  unfold total
  rw [neg_zero, List.sum_eq_foldl]

theorem total_map_mul (k : ℝ) (xs : List ℝ) : total (xs.map (k * ·)) = k * total xs := by
  rw [total_eq_sum, total_eq_sum, List.sum_map_mul_left, List.map_id']

section
variable {k : ℝ} (hk : 0 < k)
include hk

theorem greater_mul (a b : ℝ) : greater (k * a) (k * b) = k * greater a b := by
  rw [greater_eq_max, greater_eq_max, mul_max_of_nonneg _ _ hk.le]

theorem lesser_mul (a b : ℝ) : lesser (k * a) (k * b) = k * lesser a b := by
  rw [lesser_eq_min, lesser_eq_min, mul_min_of_nonneg _ _ hk.le]

theorem foldl_greater_mul (x : ℝ) (xs : List ℝ) :
    (xs.map (k * ·)).foldl greater (k * x) = k * xs.foldl greater x := by
  rw [List.foldl_map]
  exact List.foldl_hom (k * ·) fun a b => greater_mul hk a b

theorem foldl_lesser_mul (x : ℝ) (xs : List ℝ) :
    (xs.map (k * ·)).foldl lesser (k * x) = k * xs.foldl lesser x := by
  rw [List.foldl_map]
  exact List.foldl_hom (k * ·) fun a b => lesser_mul hk a b

theorem keyBefore_mul (a b : Option ℝ) :
    keyBefore (a.map (k * ·)) (b.map (k * ·)) = keyBefore a b := by
  cases a with
  | none => cases b <;> rfl
  | some a =>
    cases b with
    | none => rfl
    | some b => simp [keyBefore, mul_lt_mul_iff_right₀ hk]

theorem holds_mul (side : Side) (threshold x : ℝ) :
    side.holds (k * threshold) (k * x) = side.holds threshold x := by
  cases side <;> simp [Side.holds, mul_lt_mul_iff_right₀ hk]

theorem quotient_mul (multiplier : ℝ) (a b : Option ℝ) :
    quotient multiplier (a.map (k * ·)) (b.map (k * ·)) = quotient multiplier a b := by
  cases a with
  | none => rfl
  | some a =>
    cases b with
    | none => rfl
    | some b =>
      have hzero : (k * b == 0) = (b == 0) := by
        rw [Bool.eq_iff_iff, beq_iff_eq, beq_iff_eq, mul_eq_zero, or_iff_right hk.ne']
      simp only [quotient, Option.map_some, hzero, mul_div_mul_left a b hk.ne']

end

namespace Samples

/-- The same samples, measured in another unit. -/
noncomputable def times (k : ℝ) (xs : Samples ℝ) : Samples ℝ :=
  xs.map (Option.map (k * ·))

@[simp] theorem length_times (k : ℝ) (xs : Samples ℝ) : (times k xs).length = xs.length :=
  List.length_map _

@[simp] theorem present_times (k : ℝ) (xs : Samples ℝ) :
    (times k xs).present = xs.present.map (k * ·) := by
  unfold times present
  rw [List.filterMap_map, List.map_filterMap]
  rfl

theorem sum?_times (k : ℝ) (xs : Samples ℝ) : (times k xs).sum? = xs.sum?.map (k * ·) := by
  unfold sum?
  rw [present_times, List.foldl_map]
  -- No result is none in every unit, so that the folds agree from the start.
  change List.foldl _ (none.map (k * ·)) _ = _
  refine List.foldl_hom (Option.map (k * ·)) fun sum x => ?_
  cases sum <;> simp [mul_add]

section
variable {k : ℝ} (hk : 0 < k)
include hk

theorem max?_times (xs : Samples ℝ) : (times k xs).max? = xs.max?.map (k * ·) := by
  unfold max?
  rw [present_times, List.foldl_map]
  change List.foldl _ (none.map (k * ·)) _ = _
  refine List.foldl_hom (Option.map (k * ·)) fun best x => ?_
  cases best <;> simp [greater_mul hk]

theorem ascending_map_mul (xs : List ℝ) :
    ascending (xs.map (k * ·)) = (ascending xs).map (k * ·) := by
  unfold ascending
  refine (List.map_mergeSort fun a _ b _ => ?_).symm
  simp [mul_lt_mul_iff_right₀ hk]

/-- Where the sorted samples lie does not hang on their unit. -/
theorem percentile?_times (xs : Samples ℝ) (p : ℝ) (interpolate : Bool) :
    percentile? (times k xs) p interpolate = (percentile? xs p interpolate).map (k * ·) := by
  unfold percentile?
  rw [present_times, ascending_map_mul hk]
  generalize ascending xs.present = sorted
  simp only [List.length_map, List.getElem?_map]
  cases interpolate with
  | false => rfl
  | true =>
    -- The rank is a number without a unit; only the step between two samples has one.
    rw [if_pos rfl, if_pos rfl, Option.map_map, Option.map_map]
    generalize fractionalRank p sorted.length = r
    refine congrArg (Option.map · _) (funext fun x => ?_)
    dsimp only [Function.comp_apply]
    generalize sorted[(Rounding.whole (greater (Rounding.floor r) 0)).toNat]? = next
    cases next with
    | none => rfl
    | some next =>
      rw [Option.map_some]
      dsimp only
      rw [← lesser_mul hk]
      congr 1
      ring

theorem blank_times (side : Side) (threshold : ℝ) (xs : Samples ℝ) :
    blank (side.holds (k * threshold)) (times k xs) =
      times k (blank (side.holds threshold) xs) := by
  unfold blank times
  rw [List.map_map, List.map_map]
  refine List.map_congr_left fun x _ => ?_
  cases x with
  | none => rfl
  | some x =>
    simp only [Function.comp_apply, Option.map_some, Option.filter_some, holds_mul hk]
    split <;> rfl

end

theorem bridge_times (k : ℝ) (n : Nat) (a b : Option ℝ) :
    bridge n (a.map (k * ·)) (b.map (k * ·)) = times k (bridge n a b) := by
  unfold times
  cases a with
  | none => cases b <;> simp [bridge]
  | some a =>
    cases b with
    | none => simp [bridge]
    | some b =>
      simp only [bridge, Option.map_some, List.map_map]
      refine List.map_congr_left fun i _ => ?_
      simp only [Function.comp_apply, Option.map_some, Option.some.injEq]
      ring

theorem fillAfter_times (k : ℝ) (before : Option ℝ) (n : Nat) (xs : Samples ℝ) :
    fillAfter (before.map (k * ·)) n (times k xs) = times k (fillAfter before n xs) := by
  induction xs generalizing before n with
  | nil => exact bridge_times k n before none
  | cons x xs ih =>
    cases x with
    | none => exact ih before (n + 1)
    | some x =>
      have hbridge := bridge_times k n before (some x)
      have hrest := ih (some x) 0
      unfold times at *
      simp only [List.map_cons, Option.map_some] at *
      rw [fillAfter, fillAfter, hbridge, hrest, List.map_append, List.map_cons, Option.map_some]

theorem fill_times (k : ℝ) (xs : Samples ℝ) : fill (times k xs) = times k (fill xs) :=
  fillAfter_times k none 0 xs

theorem mapM_id_times (k : ℝ) (xs : Samples ℝ) :
    (times k xs).mapM id = (xs.mapM id).map (List.map (k * ·)) := by
  unfold times
  induction xs with
  | nil => rfl
  | cons x xs ih =>
    rw [List.map_cons, List.mapM_cons, List.mapM_cons, ih]
    cases x with
    | none => rfl
    | some x => cases xs.mapM id <;> rfl

theorem blocks_map {α β : Type} (f : α → β) (n repeats : Nat) (xs : List α) :
    blocks n repeats (xs.map f) = (blocks n repeats xs).map (List.map f) := by
  induction repeats generalizing xs with
  | zero => rfl
  | succ repeats ih =>
    rw [blocks, blocks, List.map_cons, ← List.map_take, ← List.map_drop, ih]

theorem zipWith_add_mul (k : ℝ) (xs ys : List ℝ) :
    List.zipWith (· + ·) (xs.map (k * ·)) (ys.map (k * ·)) =
      (List.zipWith (· + ·) xs ys).map (k * ·) := by
  rw [List.zipWith_map, List.map_zipWith]
  simp only [mul_add]

theorem slotMeans_mul (k : ℝ) (n : Nat) (rows : List (List ℝ)) :
    slotMeans n (rows.map (List.map (k * ·))) = (slotMeans n rows).map (k * ·) := by
  have hsums : (rows.map (List.map (k * ·))).foldl (List.zipWith (· + ·)) (List.replicate n 0) =
      (rows.foldl (List.zipWith (· + ·)) (List.replicate n 0)).map (k * ·) := by
    rw [List.foldl_map]
    have hzero : List.replicate n (0 : ℝ) = (List.replicate n 0).map (k * ·) := by simp
    conv_lhs => rw [hzero]
    exact List.foldl_hom (List.map (k * ·)) fun xs ys => zipWith_add_mul k xs ys
  unfold slotMeans
  rw [hsums, List.length_map]
  simp only [List.map_map]
  refine List.map_congr_left fun x _ => ?_
  exact mul_div_assoc k x _

theorem squares_mul (k : ℝ) (means row : List ℝ) :
    squares (means.map (k * ·)) (row.map (k * ·)) = (squares means row).map (k * k * ·) := by
  unfold squares
  rw [List.zipWith_map, List.map_zipWith]
  congr 1
  funext v m
  ring

/-- The same slots, measured in another unit. -/
noncomputable def Season.times (k : ℝ) (season : Season ℝ) : Season ℝ :=
  ⟨season.mean.map (k * ·), season.deviation.map (k * ·)⟩

theorem ofValues_mul {k : ℝ} (hk : 0 ≤ k) (repeats : Nat) (values : List ℝ) :
    Season.ofValues repeats (values.map (k * ·)) = (Season.ofValues repeats values).times k := by
  unfold Season.ofValues
  rw [List.length_map]
  generalize values.length / repeats = n
  dsimp only
  by_cases hn : n = 0
  · rw [if_pos hn, if_pos hn]
    rfl
  · rw [if_neg hn, if_neg hn, blocks_map, slotMeans_mul]
    generalize hmean : slotMeans n (blocks n repeats values) = mean
    -- Squares go along with the square of the unit, and their roots with the unit again.
    have hrows : ((blocks n repeats values).map (List.map (k * ·))).map
        (squares (mean.map (k * ·))) =
        ((blocks n repeats values).map (squares mean)).map (List.map (k * k * ·)) := by
      rw [List.map_map, List.map_map]
      exact List.map_congr_left fun row _ => squares_mul k mean row
    have hsqrt : ∀ v : ℝ, Real.sqrt (k * k * v) = k * Real.sqrt v := by
      intro v
      rw [Real.sqrt_mul (mul_self_nonneg k), Real.sqrt_mul_self hk]
    rw [hrows, slotMeans_mul]
    unfold Season.times
    rw [List.map_map, List.map_map]
    congr 1
    exact List.map_congr_left fun v _ => hsqrt v

end Samples

theorem indexed_times (k : ℝ) (xs : Samples ℝ) :
    indexed (xs.times k) = (indexed xs).map fun p => (p.1, k * p.2) := by
  unfold indexed Samples.times
  rw [List.zipIdx_map, List.filterMap_map, List.map_filterMap]
  refine congrArg (List.filterMap · _) (funext fun p => ?_)
  obtain ⟨x, i⟩ := p
  cases x <;> rfl

theorem foldl_add_eq_sum {β F : Type} [AddMonoid F] (f : β → F) (list : List β) :
    list.foldl (fun s b => s + f b) 0 = (list.map f).sum := by
  rw [List.sum_eq_foldl, List.foldl_map]

namespace Line

noncomputable def times (k : ℝ) (l : Line ℝ) : Line ℝ :=
  ⟨k * l.slope, k * l.intercept⟩

theorem value_times (k : ℝ) (l : Line ℝ) (x : ℝ) : (l.times k).value x = k * l.value x := by
  unfold value times
  ring

theorem mean_map_mul (k : ℝ) (xs : List ℝ) : mean (xs.map (k * ·)) = k * mean xs := by
  unfold mean
  rw [total_map_mul, List.length_map, mul_div_assoc]

theorem fit?_times (k : ℝ) (points : List (ℝ × ℝ)) :
    fit? (points.map fun p => (p.1, k * p.2)) = (fit? points).map (times k) := by
  cases points with
  | nil => rfl
  | cons point points =>
    generalize hall : point :: points = all
    have hfirst : (all.map fun p => (p.1, k * p.2)).map Prod.fst = all.map Prod.fst := by
      rw [List.map_map]
      rfl
    have hsecond : (all.map fun p => (p.1, k * p.2)).map Prod.snd =
        (all.map Prod.snd).map (k * ·) := by
      rw [List.map_map, List.map_map]
      rfl
    have hempty : all.isEmpty = false := by
      rw [← hall]
      rfl
    unfold fit?
    rw [List.isEmpty_map, hempty, hfirst, hsecond, mean_map_mul]
    simp only [Bool.false_eq_true, if_false, foldl_add_eq_sum, List.map_map, Function.comp_def,
      Option.map_some, Option.some.injEq]
    generalize mean (all.map Prod.fst) = meanX
    generalize mean (all.map Prod.snd) = meanY
    have hsxy : (all.map fun p => (p.1 - meanX) * (k * p.2 - k * meanY)).sum =
        k * (all.map fun p => (p.1 - meanX) * (p.2 - meanY)).sum := by
      rw [← List.sum_map_mul_left]
      exact congrArg List.sum (List.map_congr_left fun p _ => by ring)
    rw [hsxy]
    generalize (all.map fun p => (p.1 - meanX) * (p.2 - meanY)).sum = sxy
    generalize (all.map fun p => (p.1 - meanX) * (p.1 - meanX)).sum = sxx
    -- Whether the points stand above one another is told by the first coordinates alone.
    have hslope : (if sxx == 0 then 0 else k * sxy / sxx) =
        k * (if sxx == 0 then 0 else sxy / sxx) := by
      split
      · rw [mul_zero]
      · rw [mul_div_assoc]
    rw [hslope]
    unfold times
    congr 1
    ring

end Line

end MetricSeries

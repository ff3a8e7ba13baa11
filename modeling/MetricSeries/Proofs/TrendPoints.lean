import Mathlib
import MetricSeries.Proofs.Trends

/-!
The times of a trend: the steps from the start of the window that are not after its end.  The number
of steps comes from a quotient that is cut off toward zero.  Where the window ends before it starts,
but by less than a step, one time is left over, and it lies outside of the window.
-/

set_option autoImplicit false

namespace MetricSeries

/-- The steps from one time on that are not after another, each once and in order. -/
structure ArePoints (start stop step : Int) (times : List Int) : Prop where
  mem_iff : ∀ t, t ∈ times ↔ ∃ i : Nat, t = start + i * step ∧ t ≤ stop
  ascending : times.Pairwise (· < ·)

/-- The end lies before the start, but by less than a step. -/
def EndsWithinStep (start stop step : Int) : Prop :=
  stop < start ∧ start - stop < step

section
variable {start stop step : Int}

theorem stepsWithin_of_le (hstep : 0 < step) (h : start ≤ stop) (i : Nat) :
    i < stepsWithin start stop step ↔ start + i * step ≤ stop := by
  have hquotient : (stop - start).tdiv step = (stop - start) / step :=
    Int.tdiv_eq_ediv_of_nonneg (sub_nonneg.2 h)
  have hfloor : (i : Int) ≤ (stop - start) / step ↔ i * step ≤ stop - start :=
    Int.le_ediv_iff_mul_le hstep
  unfold stepsWithin
  rw [hquotient]
  omega

theorem stepsWithin_of_past (hstep : 0 < step) (h : step ≤ start - stop) :
    stepsWithin start stop step = 0 := by
  have hnegative : (stop - start).tdiv step = -((start - stop) / step) := by
    rw [← neg_sub start stop, Int.neg_tdiv, Int.tdiv_eq_ediv_of_nonneg (hstep.le.trans h)]
  have hone : 1 ≤ (start - stop) / step := (Int.le_ediv_iff_mul_le hstep).2 (by omega)
  unfold stepsWithin
  omega

theorem EndsWithinStep.stepsWithin_eq (h : EndsWithinStep start stop step) :
    stepsWithin start stop step = 1 := by
  obtain ⟨hlt, hshort⟩ := h
  have hzero : (stop - start).tdiv step = 0 := by
    rw [← neg_sub start stop, Int.neg_tdiv, Int.tdiv_eq_zero_of_lt (by omega) hshort, neg_zero]
  unfold stepsWithin
  omega

theorem lt_stepsWithin_iff (hstep : 0 < step) (h : ¬EndsWithinStep start stop step) (i : Nat) :
    i < stepsWithin start stop step ↔ start + i * step ≤ stop := by
  rcases le_or_gt start stop with hle | hlt
  · exact stepsWithin_of_le hstep hle i
  · have hpast : step ≤ start - stop := not_lt.1 fun hshort => h ⟨hlt, hshort⟩
    have hnonneg : 0 ≤ (i : Int) * step := by positivity
    rw [stepsWithin_of_past hstep hpast]
    omega

theorem pairwise_steps (hstep : 0 < step) (count : Nat) :
    ((List.range count).map fun i : Nat => start + i * step).Pairwise (· < ·) := by
  rw [List.pairwise_map]
  refine List.pairwise_lt_range.imp fun {i j} hij => ?_
  have hlt : (i : Int) * step < j * step := mul_lt_mul_of_pos_right (by omega) hstep
  omega

/-- The steps that are counted are the points between the two times, but for the one step too many. -/
theorem arePoints_iff (hstep : 0 < step) :
    ArePoints start stop step
      ((List.range (stepsWithin start stop step)).map fun i : Nat => start + i * step) ↔
      ¬EndsWithinStep start stop step := by
  constructor
  · intro hpoints hends
    have hmem : start ∈ (List.range (stepsWithin start stop step)).map fun i : Nat =>
        start + i * step := by
      rw [hends.stepsWithin_eq]
      simp
    obtain ⟨-, -, hle⟩ := (hpoints.mem_iff start).1 hmem
    exact absurd hle (not_le.2 hends.1)
  · intro hends
    refine ⟨fun t => ?_, pairwise_steps hstep _⟩
    rw [List.mem_map]
    refine exists_congr fun i => ?_
    rw [List.mem_range, lt_stepsWithin_iff hstep hends]
    constructor
    · rintro ⟨hle, rfl⟩
      exact ⟨rfl, hle⟩
    · rintro ⟨rfl, hle⟩
      exact ⟨hle, rfl⟩

end

section
variable {α : Type} [Arith α]

theorem timestamps_trendAlong (window : Window) (s : Series α) (line : Line α) :
    (trendAlong window s line).timestamps =
      (List.range (stepsWithin window.start.seconds window.stop.seconds (max 1 s.step))).map
        fun i : Nat => window.start.seconds + i * max 1 s.step := by
  unfold Series.timestamps Series.length trendAlong Series.named
  dsimp only
  rw [List.length_map, List.length_range]
  rfl

theorem exists_trendAlong {window : Window} {least : Option α} {s projected : Series α}
    (h : trend window least s = some projected) :
    ∃ line, projected = trendAlong window s line := by
  rw [trend_eq] at h
  split at h
  · cases h
  · obtain ⟨line, -, rfl⟩ := Option.map_eq_some_iff.1 h
    exact ⟨line, rfl⟩

/-- The times of one trend are the points of the window, or the start of a window that ends within a
step before it. -/
theorem points_of_trend {window : Window} {least : Option α} {s projected : Series α}
    (h : trend window least s = some projected) :
    projected.step = max 1 s.step ∧
      (ArePoints window.start.seconds window.stop.seconds projected.step projected.timestamps ↔
        ¬EndsWithinStep window.start.seconds window.stop.seconds projected.step) ∧
      (EndsWithinStep window.start.seconds window.stop.seconds projected.step →
        projected.timestamps = [window.start.seconds]) := by
  obtain ⟨line, rfl⟩ := exists_trendAlong h
  have hstep : (trendAlong window s line).step = max 1 s.step := rfl
  have hpos : 0 < max 1 s.step := by omega
  rw [timestamps_trendAlong, hstep]
  refine ⟨rfl, arePoints_iff hpos, fun hends => ?_⟩
  rw [hends.stepsWithin_eq]
  simp

/-- What is owed: each series that a call keeps is projected to the points of the window. -/
def PointsLaw (window : Window) (least : Option α) (list : List (Series α)) : Prop :=
  ∀ projected ∈ linregress window least list,
    ArePoints window.start.seconds window.stop.seconds projected.step projected.timestamps

/-- The projections of a call are at the points of the window unless the window ends before it
starts, and by less than the step of a series that is kept.  Such a series is left with one time, the
start of the window, which is after its end. -/
theorem pointsLaw_iff (window : Window) (least : Option α) (list : List (Series α)) :
    (PointsLaw window least list ↔
      ∀ s ∈ list, (trend window least s).isSome →
        ¬EndsWithinStep window.start.seconds window.stop.seconds (max 1 s.step)) ∧
    ∀ s ∈ list, ∀ projected, trend window least s = some projected →
      projected ∈ linregress window least list ∧ projected.step = max 1 s.step ∧
      (ArePoints window.start.seconds window.stop.seconds projected.step projected.timestamps ↔
        ¬EndsWithinStep window.start.seconds window.stop.seconds projected.step) ∧
      (EndsWithinStep window.start.seconds window.stop.seconds projected.step →
        projected.timestamps = [window.start.seconds]) := by
  refine ⟨⟨fun hlaw s hs hsome => ?_, fun hnone projected hmem => ?_⟩, fun s hs projected h => ?_⟩
  · obtain ⟨projected, h⟩ := Option.isSome_iff_exists.1 hsome
    obtain ⟨hstep, hiff, -⟩ := points_of_trend h
    rw [← hstep]
    exact hiff.1 (hlaw projected (List.mem_filterMap.2 ⟨s, hs, h⟩))
  · obtain ⟨s, hs, h⟩ := List.mem_filterMap.1 hmem
    obtain ⟨hstep, hiff, -⟩ := points_of_trend h
    have hends := hnone s hs (by rw [h]; rfl)
    rw [← hstep] at hends
    exact hiff.2 hends
  · exact ⟨List.mem_filterMap.2 ⟨s, hs, h⟩, points_of_trend h⟩

end

/-- Two samples ten seconds apart, over a window that ends five seconds before it starts: their trend
has a sample at the start. -/
theorem not_pointsLaw_fiveSecondsBack :
    ¬∀ (window : Window) (least : Option ℝ) (list : List (Series ℝ)),
      PointsLaw window least list := by
  intro hlaw
  let s : Series ℝ := .ofValues "foo" 0 10 [1, 2]
  let window := Context.nearWindow 10 5
  have hkept : (trend window none s).isSome := by
    rw [Option.isSome_iff_ne_none, ne_eq, trend_eq_none_iff_fallsShort]
    rintro (hcount | ⟨share, hshare, -⟩)
    · cases hcount
    · cases hshare
  have hends : EndsWithinStep window.start.seconds window.stop.seconds (max 1 s.step) := by
    unfold EndsWithinStep
    decide
  exact (pointsLaw_iff window none [s]).1.1 (hlaw window none [s]) s (by simp) hkept hends

end MetricSeries

import Mathlib
import MetricSeries.Proofs.Ranks
import MetricSeries.Proofs.WellFormed

/-!
Series at one level, that of a percentile of their own.  Each series with a sample has one, in order,
and series without samples do not get in the way of the others.  The number of samples is taken from
the steps between the ends of the axis, of which there is one less than there are samples, so that
the axis of a level ends a step early.
-/

set_option autoImplicit false

namespace MetricSeries

variable {α : Type}

def Series.SameAxis (s t : Series α) : Prop :=
  t.start = s.start ∧ t.finish = s.finish ∧ t.step = s.step

section
variable [Arith α]

/-- A percent that is neither below zero nor zero. -/
def PositivePercent (p : α) : Prop :=
  ¬p < 0 ∧ (p == 0) = false

/-- A series whose samples are all there and all the percentile of another series. -/
structure IsLevel (interpolate : Bool) (p : α) (s t : Series α) : Prop where
  known : (Samples.percentile? s.values p interpolate).isSome
  nonempty : t.values ≠ []
  level : ∀ v ∈ t.values, v = Samples.percentile? s.values p interpolate

def withSamples (list : List (Series α)) : List (Series α) :=
  list.filter fun s => 0 < s.validCount

variable [NumberText α]

/-- What is owed: a level for each series that has a sample, in order, and on its axis. -/
def LevelLaw (interpolate : Bool) (p : α) (list : List (Series α)) : Prop :=
  ∃ levels, nPercentile interpolate p list = .ok levels ∧
    List.Forall₂ (fun s t => IsLevel interpolate p s t ∧ s.SameAxis t) (withSamples list) levels

end

section
variable {s : Series α}

theorem Series.WellFormed.points_eq (h : s.WellFormed) : s.points = max 1 (s.length - 1) := by
  have hspan : s.finish - s.start = s.step * max ((s.length : Int) - 1) 0 := by
    rw [h.finish_eq]
    ring
  have hsteps : (s.finish - s.start).tdiv s.step = max ((s.length : Int) - 1) 0 := by
    rw [hspan, Int.mul_tdiv_cancel_left _ h.step_pos.ne']
  unfold points
  rw [if_pos h.step_pos, hsteps]
  omega

/-- Only an axis of one sample ends where its points end. -/
theorem Series.WellFormed.lastTime_points_iff (h : s.WellFormed) (hlength : 0 < s.length) :
    lastTime s.start s.step s.points = s.finish ↔ s.length = 1 := by
  have hcount : (s.length : Int) - 1 = (s.points - 1 : Nat) ↔ s.length = 1 := by
    rw [h.points_eq]
    omega
  have hmax : max ((s.length : Int) - 1) 0 = (s.length : Int) - 1 := by omega
  unfold lastTime
  rw [h.finish_eq, hmax, ← hcount, add_right_inj, mul_eq_mul_left_iff, eq_comm]
  exact or_iff_left h.step_pos.ne'

theorem Series.WellFormed.lastTime_points (h : s.WellFormed) (hlength : 2 ≤ s.length) :
    lastTime s.start s.step s.points = s.finish - s.step := by
  have hmax : max ((s.length : Int) - 1) 0 = (s.length : Int) - 1 := by omega
  have hcount : ((s.points - 1 : Nat) : Int) = (s.length : Int) - 1 - 1 := by
    rw [h.points_eq]
    omega
  unfold lastTime
  rw [h.finish_eq, hmax, hcount]
  ring

end

theorem Series.points_ne_zero (s : Series α) : s.points ≠ 0 := by
  unfold points
  split
  · omega
  · exact one_ne_zero

theorem forall₂_filterMap {β γ : Type} (f : β → Option γ) (xs : List β) :
    List.Forall₂ (fun x y => f x = some y) (xs.filter fun x => (f x).isSome) (xs.filterMap f) := by
  induction xs with
  | nil => exact .nil
  | cons x xs ih =>
    cases h : f x with
    | none =>
      rw [List.filterMap_cons_none h, List.filter_cons_of_neg (by simp [h])]
      exact ih
    | some y =>
      rw [List.filterMap_cons_some h, List.filter_cons_of_pos (by simp [h])]
      exact .cons h ih

theorem forall₂_iff_forall_mem {β γ : Type} {R S : β → γ → Prop} {P : β → Prop} {xs : List β}
    {ys : List γ} (h : List.Forall₂ R xs ys) (hiff : ∀ x y, R x y → (S x y ↔ P x)) :
    List.Forall₂ S xs ys ↔ ∀ x ∈ xs, P x := by
  induction h with
  | nil => simp
  | cons hR _ ih => rw [List.forall₂_cons, ih, hiff _ _ hR, List.forall_mem_cons]

section
variable [Arith α] [NumberText α] {interpolate : Bool} {p : α}

theorem isSome_percentileLevel (interpolate : Bool) (p : α) (s : Series α) :
    (percentileLevel interpolate p s).isSome = decide (0 < s.validCount) := by
  unfold percentileLevel
  rw [Option.isSome_map, Bool.eq_iff_iff, Option.isSome_iff_ne_none, ne_eq,
    Samples.percentile?_eq_none_iff, Samples.present_eq_nil_iff, decide_eq_true_iff,
    Nat.pos_iff_ne_zero, Series.validCount, ne_eq, List.countP_eq_zero]
  simp

theorem validCount_pos_of_percentileLevel {s t : Series α}
    (h : percentileLevel interpolate p s = some t) : 0 < s.validCount := by
  have hsome := isSome_percentileLevel interpolate p s
  rw [h] at hsome
  exact of_decide_eq_true hsome.symm

theorem level_of_percentileLevel {s t : Series α}
    (h : percentileLevel interpolate p s = some t) :
    IsLevel interpolate p s t ∧ t.start = s.start ∧ t.step = s.step ∧ t.length = s.points ∧
      t.finish = lastTime s.start s.step s.points := by
  obtain ⟨x, hx, rfl⟩ := Option.map_eq_some_iff.1 h
  have hlength : (List.replicate s.points (some x)).length = s.points := List.length_replicate
  refine ⟨⟨by rw [hx]; rfl, fun hnil => ?_, fun v hv => ?_⟩, rfl, rfl, hlength, ?_⟩
  · exact s.points_ne_zero (hlength.symm.trans (congrArg List.length hnil))
  · rw [hx]
    exact List.eq_of_mem_replicate hv
  · exact congrArg (lastTime s.start s.step) hlength

theorem nPercentile_of_positive (interpolate : Bool) (hp : PositivePercent p)
    (list : List (Series α)) :
    ∃ levels, nPercentile interpolate p list = .ok levels ∧
      List.Forall₂ (fun s t => percentileLevel interpolate p s = some t) (withSamples list) levels := by
  have hlevels := forall₂_filterMap (percentileLevel interpolate p) list
  simp only [isSome_percentileLevel] at hlevels
  refine ⟨_, ?_, hlevels⟩
  unfold nPercentile
  rw [if_neg]
  simp [hp.1, hp.2]

/-- A level of a series whose axis ends at its last sample: one place less than the series has, the
last of them a step before it. -/
structure FallsAStepShort (interpolate : Bool) (p : α) (s t : Series α) : Prop where
  level : IsLevel interpolate p s t
  start_eq : t.start = s.start
  step_eq : t.step = s.step
  length_eq : t.length = max 1 (s.length - 1)
  finish_eq : 2 ≤ s.length → t.finish = s.finish - s.step
  finish_iff : t.finish = s.finish ↔ s.length = 1

theorem Series.WellFormed.fallsAStepShort {s t : Series α} (hs : s.WellFormed)
    (h : percentileLevel interpolate p s = some t) : FallsAStepShort interpolate p s t := by
  obtain ⟨hlevel, hstart, hstep, hlength, hfinish⟩ := level_of_percentileLevel h
  have hcount := validCount_pos_of_percentileLevel h
  have hplaces : s.validCount ≤ s.length := List.countP_le_length
  refine ⟨hlevel, hstart, hstep, hlength.trans hs.points_eq, fun htwo => ?_, ?_⟩
  · exact hfinish.trans (hs.lastTime_points htwo)
  · rw [hfinish]
    exact hs.lastTime_points_iff (by omega)

end

theorem positivePercent_iff {p : ℝ} : PositivePercent p ↔ 0 < p := by
  unfold PositivePercent
  rw [beq_eq_false_iff_ne]
  constructor
  · rintro ⟨hnonneg, hne⟩
    exact lt_of_le_of_ne (not_lt.1 hnonneg) hne.symm
  · intro h
    exact ⟨not_lt.2 h.le, h.ne'⟩

end MetricSeries

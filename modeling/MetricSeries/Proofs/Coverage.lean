import Mathlib
import MetricSeries.Proofs.BandLaws

/-!
How far bands reach.  Their number of periods is chosen to reach the end of the window, but the step
between their samples is rounded down to whole seconds, so that each period comes out shorter by the
remainder.  Bands cover the window when nothing of that is missed.
-/

set_option autoImplicit false

namespace MetricSeries

variable {α : Type}

/-- The slot of the last sample reaches the end of the window. -/
def Covers (window : Window) (band : Series α) : Prop :=
  window.stop.seconds ≤ band.start + band.step * band.length

/-- What is owed: bands cover the window on display. -/
def CoverageLaw [Arith α] [NumberText α] (scope : Scope α) (call : BandCall)
    (list : List (Series α)) : Prop :=
  ∀ log result after, Run.from (sixSigma scope call list) log = (.ok result, after) →
    ∀ band ∈ result, Covers scope.window band

section
variable [Zero α] [Add α] [Sub α] [Mul α] [Div α] [NatCast α] [SquareRoot α]

theorem length_ofHistory {n repeats : Nat} (hn : n ≠ 0) (hr : repeats ≠ 0)
    (factors : BandFactors α) {history : Samples α} (h : n * repeats ≤ history.length) :
    let bands := Bands.ofHistory repeats n factors history
    bands.mean.length = n ∧ bands.upper.length = n ∧ bands.lower.length = n := by
  by_cases hknown : ∃ x, some x ∈ history.take (n * repeats)
  · obtain ⟨x, hx⟩ := hknown
    obtain ⟨values, hfill, hvalues⟩ := Samples.fill_of_mem hx
    rw [List.length_take, Nat.min_eq_left h] at hvalues
    obtain ⟨hmean, hdeviation⟩ := Samples.length_ofValues hr hvalues
    unfold Bands.ofHistory
    rw [hfill, Samples.mapM_id_map_some]
    simp [Bands.ofSeason, hmean, hdeviation]
  · have habsent : ∀ x ∈ history.take (n * repeats), x = none := by
      intro x hx
      cases x with
      | none => rfl
      | some x => exact absurd ⟨x, hx⟩ hknown
    rw [ofHistory_of_absent hn hr factors h habsent]
    simp [Bands.absent]

theorem mem_bandsOf [NumberText α] {plan : BandPlan α} {tiles : Nat} {call : BandCall}
    {s history band : Series α} (hr : call.repeats ≠ 0)
    (h : band ∈ bandsOf plan tiles call s history) :
    history.length / call.repeats ≠ 0 ∧ ∃ name values,
      values.length = history.length / call.repeats ∧
      band = bandSeries plan tiles (history.length / call.repeats) s name values := by
  unfold bandsOf at h
  dsimp only at h
  split at h
  · cases h
  · rename_i hn
    have hlong : history.length / call.repeats * call.repeats ≤ history.values.length :=
      Nat.div_mul_le_self _ _
    obtain ⟨hmean, hupper, hlower⟩ := length_ofHistory hn hr plan.factors hlong
    simp only [List.mem_cons, List.not_mem_nil, or_false] at h
    refine ⟨hn, ?_⟩
    rcases h with rfl | rfl | rfl
    · exact ⟨_, _, hmean, rfl⟩
    · exact ⟨_, _, hupper, rfl⟩
    · exact ⟨_, _, hlower, rfl⟩

end

/-- Whole tiles of `n` slots, with the step rounded down but not to zero, reach as far as whole
periods less the remainder of each. -/
theorem reach_eq {period : Int} {n : Nat} (hn : n ≠ 0) (tiles : Nat) (h : (n : Int) ≤ period) :
    max 1 (period / n) * (n * tiles : Nat) = tiles * period - tiles * (period % n) := by
  have hpositive : (0 : Int) < n := by omega
  have hstep : 1 ≤ period / n := (Int.le_ediv_iff_mul_le hpositive).2 (by omega)
  have hdivision := Int.mul_ediv_add_emod period n
  rw [max_eq_right hstep, ← mul_sub, ← eq_sub_of_add_eq hdivision]
  push_cast
  ring

theorem reach_of_lt {period : Int} {n : Nat} (tiles : Nat) (hperiod : 0 ≤ period)
    (h : period < n) : max 1 (period / n) * (n * tiles : Nat) = n * tiles := by
  rw [Int.ediv_eq_zero_of_lt hperiod h, max_eq_left Int.one_nonneg, one_mul, Nat.cast_mul]

theorem reach_iff {period stop start : Int} {n tiles : Nat} (hn : n ≠ 0) (hperiod : 0 < period)
    (htiles : stop - start ≤ tiles * period) :
    stop ≤ start + max 1 (period / n) * (n * tiles : Nat) ↔
      period < n ∨ stop - start ≤ tiles * period - tiles * (period % n) := by
  by_cases h : period < n
  · have hmore : tiles * period ≤ tiles * (n : Int) :=
      Int.mul_le_mul_of_nonneg_left (by omega) (by omega)
    rw [reach_of_lt tiles hperiod.le h, mul_comm (n : Int)]
    constructor
    · exact fun _ => .inl h
    · intro _
      omega
  · rw [reach_eq hn tiles (by omega)]
    constructor
    · intro hreach
      exact .inr (by omega)
    · rintro (hlt | hreach)
      · exact absurd hlt h
      · omega

theorem reach_within {period stop start : Int} {n tiles : Nat} (hn : n ≠ 0) (hperiod : 0 < period)
    (htiles : stop - start ≤ tiles * period) :
    stop ≤ start + max 1 (period / n) * (n * tiles : Nat) + tiles * (period % n) := by
  by_cases h : period < n
  · have hreach := (reach_iff hn hperiod htiles).2 (.inl h)
    have hrest : 0 ≤ tiles * (period % n) :=
      Int.mul_nonneg (by omega) (Int.emod_nonneg _ (by omega))
    omega
  · rw [reach_eq hn tiles (by omega)]
    omega

section
variable (plan : BandPlan α) (tiles : Nat) {n : Nat} (s : Series α) (name : String)
  {values : Samples α}

theorem length_bandSeries (hvalues : values.length = n) :
    (bandSeries plan tiles n s name values).length = n * tiles := by
  show (tile tiles values).length = n * tiles
  rw [length_tile, hvalues]

/-- How far a band reaches, by its plan and the number of its slots. -/
theorem bandSeries_reach (hvalues : values.length = n) :
    let band := bandSeries plan tiles n s name values
    band.start + band.step * band.length =
      plan.history.stop.seconds + max 1 (plan.seconds / n) * (n * tiles : Nat) := by
  intro band
  rw [show band.length = n * tiles from length_bandSeries plan tiles s name hvalues]
  rfl

end

variable [Arith α] [NumberText α]

/-- A band of a plan covers the window if there are more slots than seconds in a period, or if what
its periods lose to the rounding of the step is not missed; and no more than that is ever missed. -/
theorem covers_iff_of_mem_bandsOf {window : Window} {call : BandCall} {plan : BandPlan α}
    (hplan : BandPlan.make window call = .ok plan) {s history band : Series α}
    (hband : band ∈ bandsOf plan (plan.tiles window) call s history) :
    let n := history.length / call.repeats
    let lost := plan.tiles window * (plan.seconds % n)
    band.length = n * plan.tiles window ∧
    (Covers window band ↔ plan.seconds < n ∨
      window.stop.seconds - window.start.hour.seconds ≤
        plan.tiles window * plan.seconds - lost) ∧
    window.stop.seconds ≤ band.start + band.step * band.length + lost := by
  intro n lost
  obtain ⟨-, -, hperiod, hrepeats, hwindow⟩ := BandPlan.make_eq_ok hplan
  obtain ⟨-, hleast⟩ := (isLeast_tiles hperiod window).1
  obtain ⟨hn, name, values, hvalues, rfl⟩ := mem_bandsOf hrepeats hband
  have hreach := bandSeries_reach plan (plan.tiles window) s name hvalues
  dsimp only at hreach
  unfold Covers
  rw [hreach, ← stop_of_historyWindow? hwindow]
  exact ⟨length_bandSeries plan _ s name hvalues, reach_iff hn hperiod hleast,
    reach_within hn hperiod hleast⟩

/-- A band covers the window exactly when there are more slots than seconds in a period, or the
seconds that each period loses to the rounding of the step are not missed.  So it does whenever the
slots divide the period, and otherwise at most the lost seconds are missing.  Nothing else about the
call, its history or what was asked for before matters. -/
theorem sixSigma_covers_iff (scope : Scope α) (call : BandCall) {list result : List (Series α)}
    {log after : List Fetch} (h : Run.from (sixSigma scope call list) log = (.ok result, after)) :
    ∃ offset window tiles, parseOffset call.period = .ok offset ∧
      historyWindow? scope.window.start call.repeats |offset| = some window ∧
      IsLeast {t : Nat | 1 ≤ t ∧
        scope.window.stop.seconds - scope.window.start.hour.seconds ≤ t * |offset|} tiles ∧
      ∀ band ∈ result, ∃ s ∈ list, ∃ history, FirstAnswer scope window s.target history ∧
        let n := history.length / call.repeats
        let lost := tiles * (|offset| % n)
        band.length = n * tiles ∧
        (Covers scope.window band ↔ |offset| < n ∨
          scope.window.stop.seconds - scope.window.start.hour.seconds ≤ tiles * |offset| - lost) ∧
        ((n : Int) ∣ offset → Covers scope.window band) ∧
        scope.window.stop.seconds ≤ band.start + band.step * band.length + lost := by
  cases hmake : (BandPlan.make scope.window call : Except Error (BandPlan α)) with
  | error e =>
    rw [from_sixSigma_of_error hmake] at h
    cases h
  | ok plan =>
    obtain ⟨-, ⟨offset, hoffset, hseconds⟩, hperiod, -, hwindow⟩ := BandPlan.make_eq_ok hmake
    have hleast := isLeast_tiles hperiod scope.window
    have habs : plan.seconds = |offset| := by rw [hseconds, Int.natCast_natAbs]
    rw [stop_of_historyWindow? hwindow, habs] at hleast
    rw [habs] at hwindow
    refine ⟨offset, plan.history, _, hoffset, hwindow, hleast, fun band hband => ?_⟩
    obtain ⟨s, hs, history, hanswer, hband⟩ := exists_of_mem_sixSigma hmake h band hband
    obtain ⟨hlength, hcovers, hwithin⟩ := covers_iff_of_mem_bandsOf hmake hband
    rw [habs] at hcovers hwithin
    refine ⟨s, hs, history, hanswer, hlength, hcovers, fun hdvd => hcovers.2 (.inr ?_), hwithin⟩
    rw [Int.emod_eq_zero_of_dvd ((dvd_abs _ _).2 hdvd), mul_zero, sub_zero]
    exact hleast.1.2

def tenSeconds : Window :=
  Context.nearWindow 7200 7210

def lastTenSeconds : BandCall :=
  ⟨"10s", 1, "3"⟩

noncomputable def sameHistory (values : List ℝ) : Scope ℝ :=
  { emptyHistories with
    window := tenSeconds
    evaluator := some fun _ _ _ => .ok [.ofValues "foo" 7190 1 values] }

theorem parseOffset_tenSeconds : parseOffset lastTenSeconds.period = .ok 10 := by decide +kernel

theorem make_lastTenSeconds :
    ∃ plan : BandPlan ℝ, BandPlan.make tenSeconds lastTenSeconds = .ok plan ∧
      plan.seconds = 10 ∧ plan.tiles tenSeconds = 1 := by
  have hmake := BandPlan.make_of_accepted tenSeconds lastTenSeconds parseFactors_three
    parseOffset_tenSeconds (by decide) (by decide)
  have hwindow : ∃ window, historyWindow? tenSeconds.start 1 (10 : Int).natAbs = some window :=
    Option.isSome_iff_exists.1 (by decide)
  obtain ⟨window, hwindow⟩ := hwindow
  rw [show lastTenSeconds.repeats = 1 from rfl, hwindow] at hmake
  refine ⟨_, hmake, rfl, ?_⟩
  unfold BandPlan.tiles
  rw [stop_of_historyWindow? hwindow]
  show (max 1 ((max 0 (tenSeconds.stop.seconds - tenSeconds.start.hour.seconds) + 10 - 1) / 10)).toNat
    = 1
  decide

theorem from_sixSigma_sameHistory {plan : BandPlan ℝ}
    (hplan : BandPlan.make tenSeconds lastTenSeconds = .ok plan) (values : List ℝ) :
    ∃ after, Run.from (sixSigma (sameHistory values) lastTenSeconds [.named "foo" 0 0 1 []]) [] =
      (.ok (bandsOf plan (plan.tiles tenSeconds) lastTenSeconds (.named "foo" 0 0 1 [])
        (.ofValues "foo" 7190 1 values)), after) :=
  ⟨_, from_sixSigma_singleton (sameHistory values) rfl hplan rfl⟩

theorem exists_mem_bandsOf (plan : BandPlan ℝ) (tiles : Nat) (s : Series ℝ) (values : List ℝ)
    (h : values ≠ []) :
    ∃ band, band ∈ bandsOf plan tiles lastTenSeconds s (.ofValues "foo" 7190 1 values) := by
  have hn : (Series.ofValues "foo" 7190 1 values).length / lastTenSeconds.repeats ≠ 0 := by
    rw [show lastTenSeconds.repeats = 1 from rfl, Nat.div_one]
    simpa [Series.ofValues, Series.named, Series.length] using h
  unfold bandsOf
  rw [if_neg hn]
  exact ⟨_, List.mem_cons_self⟩

/-- Five samples divide ten seconds, and their bands cover them. -/
theorem sixSigma_covers_iff_fiveSamples :
    ∃ result after band,
      Run.from (sixSigma (sameHistory [1, 2, 3, 4, 5]) lastTenSeconds [.named "foo" 0 0 1 []]) [] =
        (.ok result, after) ∧ band ∈ result ∧ Covers tenSeconds band := by
  obtain ⟨plan, hplan, -, -⟩ := make_lastTenSeconds
  obtain ⟨after, hrun⟩ := from_sixSigma_sameHistory hplan [1, 2, 3, 4, 5]
  obtain ⟨band, hband⟩ := exists_mem_bandsOf plan (plan.tiles tenSeconds) (.named "foo" 0 0 1 [])
    [1, 2, 3, 4, 5] (by simp)
  obtain ⟨offset, window, tiles, hoffset, -, -, hall⟩ := sixSigma_covers_iff _ _ hrun
  obtain ⟨s, -, history, ⟨evaluate, earlier, more, hevaluator, hanswer⟩, -, -, hdvd, -⟩ :=
    hall band hband
  have hten : offset = 10 := by
    rw [parseOffset_tenSeconds] at hoffset
    exact (Except.ok.inj hoffset).symm
  have hhistory : history = .ofValues "foo" 7190 1 [1, 2, 3, 4, 5] := by
    cases hevaluator
    cases hanswer
    rfl
  refine ⟨_, after, band, hrun, hband, hdvd ?_⟩
  rw [hten, hhistory]
  decide

/-- Six samples do not: the step of one second between them loses four. -/
theorem not_coverageLaw_sixSamples :
    ¬CoverageLaw (sameHistory [1, 2, 3, 4, 5, 6]) lastTenSeconds [.named "foo" 0 0 1 []] := by
  intro law
  obtain ⟨plan, hplan, hseconds, htiles⟩ := make_lastTenSeconds
  obtain ⟨after, hrun⟩ := from_sixSigma_sameHistory hplan [1, 2, 3, 4, 5, 6]
  obtain ⟨band, hband⟩ := exists_mem_bandsOf plan (plan.tiles tenSeconds) (.named "foo" 0 0 1 [])
    [1, 2, 3, 4, 5, 6] (by simp)
  have hcovers := (covers_iff_of_mem_bandsOf hplan hband).2.1.1 (law _ _ _ hrun band hband)
  rw [hseconds, htiles] at hcovers
  revert hcovers
  show ¬((10 : Int) < (6 : Nat) ∨ tenSeconds.stop.seconds - tenSeconds.start.hour.seconds ≤
    (1 : Nat) * 10 - (1 : Nat) * (10 % (6 : Nat)))
  decide

end MetricSeries

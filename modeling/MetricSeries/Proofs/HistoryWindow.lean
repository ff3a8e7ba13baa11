import Mathlib
import MetricSeries.Proofs.BandRun
import MetricSeries.Proofs.Exact
import MetricSeries.Proofs.Hours

/-!
The window over which bands ask for history.  Of the limits that its making runs through only the
calendar can be felt; the number of repeats, though, is taken as a signed number before any limit
is looked at.
-/

set_option autoImplicit false

namespace MetricSeries

theorem signedCount_of_lt {n : Nat} (h : n < 2 ^ 63) : signedCount n = n := by
  unfold signedCount Decimal.wrapWord
  rw [Nat.pow_eq]
  exact Int.bmod_eq_of_le (by omega) (by omega)

theorem signedCount_of_ge {n : Nat} (h : 2 ^ 63 ≤ n) (hn : n < 2 ^ 64) :
    signedCount n = (n : Int) - 2 ^ 64 := by
  unfold signedCount Decimal.wrapWord
  rw [Nat.pow_eq, Int.bmod_def]
  omega

theorem countedProduct_eq_some {a b span : Int}
    (h : (wordProduct? a b).bind countedOffset? = some span) : span = a * b := by
  obtain ⟨product, hproduct, hcounted⟩ := Option.bind_eq_some_iff.1 h
  unfold wordProduct? at hproduct
  unfold countedOffset? at hcounted
  split at hproduct
  · split at hcounted
    · cases hproduct
      cases hcounted
      rfl
    · cases hcounted
  · cases hproduct

theorem countedProduct_eq_none {a b : Int} (h : (wordProduct? a b).bind countedOffset? = none) :
    a * b < -longestOffset ∨ longestOffset < a * b := by
  unfold wordProduct? countedOffset? at h
  generalize a * b = product at h
  unfold Decimal.smallestWord Decimal.largestWord longestOffset at *
  by_cases hword : -9223372036854775808 ≤ product ∧ product ≤ 9223372036854775807
  · rw [if_pos hword, Option.bind_some] at h
    split at h
    · cases h
    · omega
  · omega

/-- The product of two signed numbers is told before it is too long to be counted, and a length of
time that is too long to be counted leads out of the calendar. -/
theorem historyWindow?_eq (start : Instant) (repeats : Nat) (seconds : Int) :
    historyWindow? start repeats seconds =
      (Instant.ofSeconds? (start.hour.seconds - signedCount repeats * seconds)).map
        (⟨·, start.hour⟩) := by
  have hfirst := start.hour.first_le
  have hlast := start.hour.le_last
  have hbind : historyWindow? start repeats seconds =
      ((wordProduct? (signedCount repeats) seconds).bind countedOffset?).bind fun span =>
        (start.hour.before? span).map (⟨·, start.hour⟩) := by
    unfold historyWindow?
    simp only [Option.bind_eq_bind, Option.bind_assoc, Option.pure_def, Option.map_eq_bind,
      Function.comp_def]
  rw [hbind]
  cases hspan : (wordProduct? (signedCount repeats) seconds).bind countedOffset? with
  | none =>
    have hlong := countedProduct_eq_none hspan
    have hout : Instant.ofSeconds? (start.hour.seconds - signedCount repeats * seconds) = none := by
      rw [Instant.ofSeconds?_eq_none_iff]
      unfold longestOffset at hlong
      unfold Instant.firstSecond Instant.lastSecond at *
      omega
    rw [hout]
    rfl
  | some span =>
    have hproduct := countedProduct_eq_some hspan
    rw [Option.bind_some, Instant.before?, hproduct]

theorem start_of_historyWindow? {start : Instant} {repeats : Nat} {seconds : Int} {window : Window}
    (h : historyWindow? start repeats seconds = some window) :
    window.start.seconds = start.hour.seconds - signedCount repeats * seconds := by
  rw [historyWindow?_eq] at h
  obtain ⟨first, hfirst, rfl⟩ := Option.map_eq_some_iff.1 h
  exact (Instant.ofSeconds?_eq_some_iff.1 hfirst).1

theorem stop_of_historyWindow? {start : Instant} {repeats : Nat} {seconds : Int} {window : Window}
    (h : historyWindow? start repeats seconds = some window) : window.stop = start.hour := by
  rw [historyWindow?_eq] at h
  obtain ⟨first, _, rfl⟩ := Option.map_eq_some_iff.1 h
  rfl

theorem historyWindow?_eq_none_iff {start : Instant} {repeats : Nat} {seconds : Int} :
    historyWindow? start repeats seconds = none ↔
      Instant.ofSeconds? (start.hour.seconds - signedCount repeats * seconds) = none := by
  rw [historyWindow?_eq, Option.map_eq_none_iff]

section
variable {α : Type} [Arith α] [NumberText α] {scope : Scope α} {call : BandCall}

/-- What a call owes for its history: a window of exactly `repeats` periods before the last whole
hour, or a refusal before anything is asked for when the calendar does not reach back that far. -/
def HistoryLaw (scope : Scope α) (call : BandCall) (period : Int) (list : List (Series α)) : Prop :=
  ∀ log,
    let outcome := Run.from (sixSigma scope call list) log
    let stop := scope.window.start.hour.seconds
    let start := stop - call.repeats * period
    (Instant.ofSeconds? start = none →
      outcome = (.error (.argument "sixSigma" 1 .historyOutside), log)) ∧
    (Instant.ofSeconds? start ≠ none →
      ∃ fetches, outcome.2 = log ++ fetches ∧ ∀ f ∈ fetches, f.start = start ∧ f.stop = stop)

theorem historyLaw_of_window {factors : BandFactors α} {offset : Int}
    (hfactors : parseFactors call.factor = .ok factors)
    (hoffset : parseOffset call.period = .ok offset) (hperiod : offset ≠ 0)
    (hrepeats : call.repeats ≠ 0)
    (hnone : historyWindow? scope.window.start call.repeats offset.natAbs = none ↔
      Instant.ofSeconds? (scope.window.start.hour.seconds - call.repeats * offset.natAbs) = none)
    (hstart : ∀ window, historyWindow? scope.window.start call.repeats offset.natAbs = some window →
      window.start.seconds = scope.window.start.hour.seconds - call.repeats * offset.natAbs)
    (list : List (Series α)) : HistoryLaw scope call offset.natAbs list := by
  have hmake := BandPlan.make_of_accepted scope.window call hfactors hoffset hperiod hrepeats
  intro log
  constructor
  · intro h
    rw [hnone.2 h] at hmake
    exact from_sixSigma_of_error hmake list log
  · intro h
    cases hwindow : historyWindow? scope.window.start call.repeats offset.natAbs with
    | none => exact absurd (hnone.1 hwindow) h
    | some history =>
      rw [hwindow] at hmake
      obtain ⟨fetches, hlog, hall⟩ := sixSigma_asks hmake list log
      refine ⟨fetches, hlog, fun f hf => ⟨?_, ?_⟩⟩
      · rw [(hall f hf).1]
        exact hstart history hwindow
      · rw [(hall f hf).2, ← stop_of_historyWindow? hwindow]

/-- From the upper half of the counts on, the window that is owed is never in the calendar. -/
theorem owed_outside (start : Instant) {repeats : Nat} {period : Int} (hperiod : 0 < period)
    (hrepeats : 2 ^ 63 ≤ repeats) :
    Instant.ofSeconds? (start.hour.seconds - repeats * period) = none := by
  have hlast := start.hour.le_last
  have hproduct : (2 : Int) ^ 63 ≤ repeats * period :=
    calc (2 : Int) ^ 63 ≤ repeats := by exact_mod_cast hrepeats
      _ = repeats * 1 := (Int.mul_one _).symm
      _ ≤ repeats * period := Int.mul_le_mul_of_nonneg_left hperiod (Int.natCast_nonneg _)
  rw [Instant.ofSeconds?_eq_none_iff]
  unfold Instant.firstSecond Instant.lastSecond at *
  omega

theorem historyWindow?_of_ge (start : Instant) {repeats : Nat} {period : Int}
    (hperiod : 0 < period) (hrepeats : 2 ^ 63 ≤ repeats) (h64 : repeats < 2 ^ 64) :
    (historyWindow? start repeats period = none ↔
      Instant.lastSecond < start.hour.seconds + (2 ^ 64 - repeats) * period) ∧
    ∀ window, historyWindow? start repeats period = some window →
      window.start.seconds = start.hour.seconds + (2 ^ 64 - repeats) * period ∧
      window.stop.seconds < window.start.seconds := by
  have hfirst := start.hour.first_le
  have hpositive : 0 < ((2 : Int) ^ 64 - repeats) * period := Int.mul_pos (by omega) hperiod
  have hsub : start.hour.seconds - signedCount repeats * period =
      start.hour.seconds + (2 ^ 64 - repeats) * period := by
    rw [signedCount_of_ge hrepeats h64, Int.sub_eq_add_neg, ← Int.neg_mul, Int.neg_sub]
  constructor
  · rw [historyWindow?_eq_none_iff, hsub, Instant.ofSeconds?_eq_none_iff]
    omega
  · intro window hwindow
    have hstart := start_of_historyWindow? hwindow
    rw [hsub] at hstart
    rw [stop_of_historyWindow? hwindow, hstart]
    exact ⟨rfl, by omega⟩

/-- The law is kept for exactly those counts that are their own signed numbers, and for those of
the others whose window, which lies after the last whole hour, does not end in the calendar.
Otherwise all that is asked for is asked for over a window that ends before it starts. -/
theorem historyLaw_iff (scope : Scope α) (call : BandCall) {factors : BandFactors α} {offset : Int}
    (hfactors : parseFactors call.factor = .ok factors)
    (hoffset : parseOffset call.period = .ok offset) (hperiod : offset ≠ 0)
    (hrepeats : call.repeats ≠ 0) (h64 : call.repeats < 2 ^ 64) (list : List (Series α)) :
    let hour := scope.window.start.hour.seconds
    let wrapped := hour + (2 ^ 64 - call.repeats) * offset.natAbs
    (HistoryLaw scope call offset.natAbs list ↔
      call.repeats < 2 ^ 63 ∨ Instant.lastSecond < wrapped) ∧
    (¬HistoryLaw scope call offset.natAbs list → ∀ log, ∃ fetches,
      (Run.from (sixSigma scope call list) log).2 = log ++ fetches ∧
      ∀ f ∈ fetches, f.start = wrapped ∧ f.stop = hour ∧ f.stop < f.start) := by
  intro hour wrapped
  have hpositive : (0 : Int) < offset.natAbs := by omega
  have hmake := BandPlan.make_of_accepted scope.window call hfactors hoffset hperiod hrepeats
  by_cases hsmall : call.repeats < 2 ^ 63
  · have hlaw : HistoryLaw scope call offset.natAbs list := by
      have hsigned := signedCount_of_lt hsmall
      refine historyLaw_of_window hfactors hoffset hperiod hrepeats ?_
        (fun window hwindow => ?_) list
      · rw [historyWindow?_eq_none_iff, hsigned]
      · rw [start_of_historyWindow? hwindow, hsigned]
    exact ⟨⟨fun _ => .inl hsmall, fun _ => hlaw⟩, fun h => absurd hlaw h⟩
  · have hlarge : 2 ^ 63 ≤ call.repeats := by omega
    have howed := owed_outside scope.window.start hpositive hlarge
    obtain ⟨hnone, hsome⟩ := historyWindow?_of_ge scope.window.start hpositive hlarge h64
    cases hwindow : historyWindow? scope.window.start call.repeats offset.natAbs with
    | none =>
      have hlaw : HistoryLaw scope call offset.natAbs list := by
        refine historyLaw_of_window hfactors hoffset hperiod hrepeats ?_ (fun window h => ?_) list
        · exact ⟨fun _ => howed, fun _ => hwindow⟩
        · rw [hwindow] at h
          cases h
      exact ⟨⟨fun _ => .inr (hnone.1 hwindow), fun _ => hlaw⟩, fun h => absurd hlaw h⟩
    | some history =>
      rw [hwindow] at hmake
      have hlaw : ¬HistoryLaw scope call offset.natAbs list := fun h =>
        from_sixSigma_ne_refused scope hmake list [] ((h []).1 howed)
      have hinside : ¬Instant.lastSecond < wrapped := fun h => by
        rw [hnone.2 h] at hwindow
        cases hwindow
      refine ⟨⟨fun h => absurd h hlaw, fun h => (h.elim hsmall hinside).elim⟩, fun _ log => ?_⟩
      obtain ⟨fetches, hlog, hall⟩ := sixSigma_asks hmake list log
      obtain ⟨hstart, hinverted⟩ := hsome history hwindow
      refine ⟨fetches, hlog, fun f hf => ?_⟩
      obtain ⟨hfstart, hfstop⟩ := hall f hf
      rw [hfstart, hfstop]
      exact ⟨hstart, by rw [stop_of_historyWindow? hwindow], hinverted⟩

end

/-- From two to three o'clock on the first day of 1970. -/
def thirdHour : Window :=
  Context.nearWindow 7200 10800

def emptyHistories : Scope ℝ where
  window := thirdHour
  config := {}
  evaluator := some fun _ _ _ => .ok []
  lookup := fun _ => none

def largestCount : BandCall :=
  ⟨"7d", 2 ^ 64 - 1, "3"⟩

theorem parseFactors_three : parseFactors "3" = .ok (⟨(3 : ℕ), (3 : ℕ)⟩ : BandFactors ℝ) :=
  parseFactors_of_digits (by decide) (by decide) (by decide) (by decide)

theorem parseOffset_week : parseOffset "7d" = .ok 604800 := by decide +kernel

theorem historyLaw_iff_largestCount :
    ¬HistoryLaw emptyHistories largestCount 604800 [.named "foo" 0 0 1 []] ∧
    ∀ log, ∃ fetches,
      (Run.from (sixSigma emptyHistories largestCount [.named "foo" 0 0 1 []]) log).2 =
        log ++ fetches ∧
      ∀ f ∈ fetches, f.start = 612000 ∧ f.stop = 7200 ∧ f.stop < f.start := by
  obtain ⟨hiff, hbroken⟩ := historyLaw_iff emptyHistories largestCount parseFactors_three
    parseOffset_week (by decide) (by decide) (by decide) [.named "foo" 0 0 1 []]
  have hlaw : ¬HistoryLaw emptyHistories largestCount 604800 [.named "foo" 0 0 1 []] := by
    intro h
    have hcondition := hiff.1 h
    revert hcondition
    decide
  exact ⟨hlaw, hbroken hlaw⟩

/-- No window reaches back by the largest count of weeks, and the call is not refused. -/
theorem not_historyLaw_largestCount :
    parseFactors largestCount.factor = .ok (⟨(3 : ℕ), (3 : ℕ)⟩ : BandFactors ℝ) ∧
    parseOffset largestCount.period = .ok 604800 ∧ largestCount.repeats < 2 ^ 64 ∧
    ¬HistoryLaw emptyHistories largestCount 604800 [.named "foo" 0 0 1 []] := by
  refine ⟨parseFactors_three, parseOffset_week, by decide, fun h => ?_⟩
  have hmake := BandPlan.make_of_accepted thirdHour largestCount parseFactors_three parseOffset_week
    (by decide) (by decide)
  have hperiod : (0 : Int) < (604800 : Int).natAbs := by decide
  have hlarge : 2 ^ 63 ≤ largestCount.repeats := by decide
  have howed := owed_outside thirdHour.start (show (0 : Int) < 604800 by decide) hlarge
  have hwindow := historyWindow?_of_ge thirdHour.start hperiod hlarge (by decide)
  cases hasked : historyWindow? thirdHour.start largestCount.repeats (604800 : Int).natAbs with
  | none =>
    have hoverrun := hwindow.1.1 hasked
    revert hoverrun
    decide
  | some history =>
    rw [hasked] at hmake
    exact from_sixSigma_ne_refused emptyHistories hmake _ [] ((h []).1 howed)

end MetricSeries

import Mathlib
import MetricSeries.Proofs.HistoryWindow
import MetricSeries.Proofs.Season

set_option autoImplicit false

namespace MetricSeries

/-- A band: the slots of a period, over and over, on an axis of its own. -/
structure IsBand (start period : Int) (tiles n : Nat) (value : Nat → Option ℝ)
    (band : Series ℝ) : Prop where
  start_eq : band.start = start
  step_eq : band.step = max 1 (period / n)
  length_eq : band.length = n * tiles
  finish_eq : band.finish = band.start + band.step * (n * tiles - 1)
  sample_eq : ∀ i < n * tiles, band.values[i]? = some (value (i % n))

/-- The three bands of a history of `repeats` periods: the mean of each slot, and so many
deviations above and below it.  A history without any known sample has bands without samples. -/
def AreBands (start period : Int) (tiles repeats : Nat) (factors : BandFactors ℝ)
    (history : Series ℝ) (bands : List (Series ℝ)) : Prop :=
  let n := history.length / repeats
  let samples := history.values.take (n * repeats)
  ∃ mean upper lower, bands = [mean, upper, lower] ∧
    ((∀ x ∈ samples, x = none) →
      ∀ band ∈ bands, IsBand start period tiles n (fun _ => none) band) ∧
    ((∃ x, some x ∈ samples) → ∃ values, Samples.fill samples = values.map some ∧
      let m := Samples.slotMean n repeats values
      let s := Samples.slotDeviation n repeats values
      IsBand start period tiles n (fun c => some (m c)) mean ∧
      IsBand start period tiles n (fun c => some (m c + factors.upper * s c)) upper ∧
      IsBand start period tiles n (fun c => some (m c - factors.lower * s c)) lower)

/-- Bands of histories one after the other, on as many periods as reach the end of a window from
its first whole hour on, and on at least one. -/
def AreAllBands (window : Window) (period : Int) (repeats : Nat) (factors : BandFactors ℝ)
    (histories result : List (Series ℝ)) : Prop :=
  ∃ tiles triples,
    IsLeast {t : Nat | 1 ≤ t ∧
      window.stop.seconds - window.start.hour.seconds ≤ t * period} tiles ∧
    result = triples.flatten ∧
    List.Forall₂ (AreBands window.start.hour.seconds period tiles repeats factors) histories triples

/-- The history from which a series has its bands, if it has any: the first of the answer, with at
least one sample for each repeat. -/
def bandHistory (answer : Window → String → Except Error (List (Series ℝ))) (window : Window)
    (repeats : Nat) (s : Series ℝ) : Option (Series ℝ) :=
  match answer window s.target with
  | .ok (history :: _) => if repeats ≤ history.length then some history else none
  | _ => none

section
variable {α : Type}

theorem length_tile (times : Nat) (xs : Samples α) : (tile times xs).length = xs.length * times := by
  simp [tile, Nat.mul_comm]

theorem getElem?_tile (times : Nat) (xs : Samples α) {i : Nat} (h : i < xs.length * times) :
    (tile times xs)[i]? = xs[i % xs.length]? := by
  induction times generalizing i with
  | zero => omega
  | succ times ih =>
    have hcons : tile (times + 1) xs = xs ++ tile times xs := by
      simp [tile, List.replicate_succ]
    rw [hcons]
    by_cases hi : i < xs.length
    · rw [List.getElem?_append_left hi, Nat.mod_eq_of_lt hi]
    · have hle : xs.length ≤ i := by omega
      rw [Nat.mul_succ] at h
      rw [List.getElem?_append_right hle, ih (by omega), ← Nat.mod_eq_sub_mod hle]

theorem isLeast_tiles {plan : BandPlan α} (hperiod : 0 < plan.seconds) (window : Window) :
    IsLeast {t : Nat | 1 ≤ t ∧
      window.stop.seconds - plan.history.stop.seconds ≤ t * plan.seconds} (plan.tiles window) := by
  unfold BandPlan.tiles
  generalize window.stop.seconds - plan.history.stop.seconds = rest
  generalize plan.seconds = period at *
  dsimp only
  have hdiv := Int.mul_ediv_add_emod (max 0 rest + period - 1) period
  have hmod := Int.emod_lt_of_pos (max 0 rest + period - 1) hperiod
  have hpos := Int.emod_nonneg (max 0 rest + period - 1) (by omega : period ≠ 0)
  generalize (max 0 rest + period - 1) / period = q at *
  generalize (max 0 rest + period - 1) % period = r at *
  constructor
  · refine ⟨by omega, ?_⟩
    have hcast : ((max 1 q).toNat : Int) = max 1 q := Int.toNat_of_nonneg (by omega)
    rw [hcast]
    have hle : q * period ≤ max 1 q * period :=
      Int.mul_le_mul_of_nonneg_right (by omega) (by omega)
    rw [Int.mul_comm] at hdiv
    omega
  · rintro t ⟨ht, hreach⟩
    have hq : q ≤ t := by
      by_contra hlt
      have hstep : ((t : Int) + 1) * period ≤ q * period :=
        Int.mul_le_mul_of_nonneg_right (by omega) (by omega)
      rw [Int.add_mul, Int.one_mul] at hstep
      rw [Int.mul_comm] at hdiv
      have hnonneg : 0 ≤ (t : Int) * period := Int.mul_nonneg (by omega) (by omega)
      omega
    omega

theorem ofHistory_of_absent [Zero α] [Add α] [Sub α] [Mul α] [Div α] [NatCast α] [SquareRoot α]
    {n repeats : Nat} (hn : n ≠ 0) (hr : repeats ≠ 0) (factors : BandFactors α)
    {history : Samples α} (hlength : n * repeats ≤ history.length)
    (h : ∀ x ∈ history.take (n * repeats), x = none) :
    Bands.ofHistory repeats n factors history = .absent n := by
  have hpositive : n * repeats ≠ 0 := Nat.mul_ne_zero hn hr
  have hfill := Samples.fill_of_absent h
  rw [List.length_take, Nat.min_eq_left hlength] at hfill
  unfold Bands.ofHistory
  rw [hfill]
  cases hcount : n * repeats with
  | zero => exact absurd hcount hpositive
  | succ count => rfl

end

theorem ofHistory_of_known {n repeats : Nat} (hn : n ≠ 0) (hr : repeats ≠ 0)
    (factors : BandFactors ℝ) {history : Samples ℝ} {values : List ℝ}
    (h : Samples.fill (history.take (n * repeats)) = values.map some)
    (hlength : values.length = n * repeats) :
    let m := Samples.slotMean n repeats values
    let s := Samples.slotDeviation n repeats values
    Bands.ofHistory repeats n factors history =
      ⟨(List.range n).map fun c => some (m c),
        (List.range n).map fun c => some (m c + factors.upper * s c),
        (List.range n).map fun c => some (m c - factors.lower * s c)⟩ := by
  intro m s
  unfold Bands.ofHistory
  rw [h, Samples.mapM_id_map_some]
  dsimp only
  rw [Samples.ofValues_eq hn hr hlength]
  simp only [Bands.ofSeason, List.map_map, List.zipWith_map, List.zipWith_self]
  rfl

/-- The slots of a period, tiled from the last whole hour on, are a band. -/
theorem isBand_bandSeries (plan : BandPlan ℝ) {tiles n : Nat} (ht : tiles ≠ 0) (hn : n ≠ 0)
    (s : Series ℝ) (name : String) (value : Nat → Option ℝ) :
    IsBand plan.history.stop.seconds plan.seconds tiles n value
      (bandSeries plan tiles n s name ((List.range n).map value)) := by
  have hpositive : 1 ≤ n * tiles := Nat.mul_pos (Nat.pos_of_ne_zero hn) (Nat.pos_of_ne_zero ht)
  have hlength : (tile tiles ((List.range n).map value)).length = n * tiles := by
    simp [length_tile]
  refine ⟨rfl, rfl, hlength, ?_, fun i hi => ?_⟩
  · show lastTime _ _ (tile tiles ((List.range n).map value)).length = _
    rw [hlength, lastTime, Nat.cast_sub hpositive]
    push_cast
    rfl
  · have hslot : i % n < n := Nat.mod_lt i (Nat.pos_of_ne_zero hn)
    show (tile tiles ((List.range n).map value))[i]? = _
    rw [getElem?_tile tiles _ (by simpa using hi), List.length_map, List.length_range]
    simp [hslot]

section
variable [NumberText ℝ]

theorem bandsOf_of_short (plan : BandPlan ℝ) (tiles : Nat) {call : BandCall} (s : Series ℝ)
    {history : Series ℝ} (h : history.length < call.repeats) :
    bandsOf plan tiles call s history = [] := by
  unfold bandsOf
  simp [Nat.div_eq_of_lt h]

theorem areBands_bandsOf (plan : BandPlan ℝ) {tiles : Nat} {call : BandCall} (s : Series ℝ)
    {history : Series ℝ} (ht : tiles ≠ 0) (hr : call.repeats ≠ 0)
    (h : call.repeats ≤ history.length) :
    AreBands plan.history.stop.seconds plan.seconds tiles call.repeats plan.factors history
      (bandsOf plan tiles call s history) := by
  have hn : history.length / call.repeats ≠ 0 :=
    Nat.div_ne_zero_iff.2 ⟨hr, h⟩
  have hlength : history.length / call.repeats * call.repeats ≤ history.values.length :=
    Nat.div_mul_le_self _ _
  unfold AreBands bandsOf
  rw [if_neg hn]
  dsimp only
  generalize history.length / call.repeats = n at *
  refine ⟨_, _, _, rfl, fun habsent => ?_, fun ⟨x, hx⟩ => ?_⟩
  · rw [ofHistory_of_absent hn hr plan.factors hlength habsent]
    have hreplicate : List.replicate n (none : Option ℝ) = (List.range n).map fun _ => none := by
      simp
    simp only [Bands.absent, hreplicate]
    intro band hband
    simp only [List.mem_cons, List.not_mem_nil, or_false] at hband
    rcases hband with rfl | rfl | rfl <;> exact isBand_bandSeries plan ht hn s _ _
  · obtain ⟨values, hfill, hvalues⟩ := Samples.fill_of_mem hx
    rw [List.length_take, Nat.min_eq_left hlength] at hvalues
    rw [ofHistory_of_known hn hr plan.factors hfill hvalues]
    exact ⟨values, hfill, isBand_bandSeries plan ht hn s _ _, isBand_bandSeries plan ht hn s _ _,
      isBand_bandSeries plan ht hn s _ _⟩

variable {scope : Scope ℝ} {answer : Window → String → Except Error (List (Series ℝ))}
  {call : BandCall}

def AnswerBands (answer : Window → String → Except Error (List (Series ℝ))) (plan : BandPlan ℝ)
    (tiles : Nat) (call : BandCall) (s : Series ℝ) (bands : List (Series ℝ)) : Prop :=
  ∃ histories, answer plan.history s.target = .ok histories ∧
    bands = bandsFrom plan tiles call s histories

theorem askBands_yields
    (hevaluator : scope.evaluator = some fun _ window target => answer window target)
    (plan : BandPlan ℝ) (s : Series ℝ) :
    Run.Yields (askBands scope call plan s)
      (AnswerBands answer plan (plan.tiles scope.window) call s) := by
  intro log bands after h
  rw [from_askBands_of_some hevaluator] at h
  cases hanswer : answer plan.history s.target with
  | error e => simp [hanswer, Except.map] at h
  | ok histories =>
    simp only [hanswer, Except.map, Prod.mk.injEq, Except.ok.injEq] at h
    exact ⟨histories, hanswer, h.1.symm⟩

theorem answerBands_cases {plan : BandPlan ℝ} {tiles : Nat} {s : Series ℝ} {bands : List (Series ℝ)}
    (ht : tiles ≠ 0) (hr : call.repeats ≠ 0) (h : AnswerBands answer plan tiles call s bands) :
    (bandHistory answer plan.history call.repeats s = none ∧ bands = []) ∨
    ∃ history, bandHistory answer plan.history call.repeats s = some history ∧
      AreBands plan.history.stop.seconds plan.seconds tiles call.repeats plan.factors history
        bands := by
  obtain ⟨histories, hanswer, rfl⟩ := h
  unfold bandHistory
  rw [hanswer]
  cases histories with
  | nil => exact .inl ⟨rfl, rfl⟩
  | cons history more =>
    by_cases hlong : call.repeats ≤ history.length
    · exact .inr ⟨history, if_pos hlong, areBands_bandsOf plan s ht hr hlong⟩
    · exact .inl ⟨if_neg hlong, bandsOf_of_short plan tiles s (by omega)⟩

theorem answerBands_all {plan : BandPlan ℝ} {tiles : Nat} {list : List (Series ℝ)}
    {bands : List (List (Series ℝ))} (ht : tiles ≠ 0) (hr : call.repeats ≠ 0)
    (h : List.Forall₂ (AnswerBands answer plan tiles call) list bands) :
    ∃ triples, bands.flatten = triples.flatten ∧
      List.Forall₂
        (AreBands plan.history.stop.seconds plan.seconds tiles call.repeats plan.factors)
        (list.filterMap (bandHistory answer plan.history call.repeats)) triples := by
  induction h with
  | nil => exact ⟨[], rfl, .nil⟩
  | cons hfrom _ ih =>
    obtain ⟨triples, hflatten, hall⟩ := ih
    rcases answerBands_cases ht hr hfrom with ⟨hnone, rfl⟩ | ⟨history, hsome, hbands⟩
    · refine ⟨triples, by simpa using hflatten, ?_⟩
      rw [List.filterMap_cons_none hnone]
      exact hall
    · refine ⟨_ :: triples, by rw [List.flatten_cons, List.flatten_cons, hflatten], ?_⟩
      rw [List.filterMap_cons_some hsome]
      exact .cons hbands hall

/-- When a call for bands succeeds and its histories hang on nothing but the window and the
expression, its result is the bands of each series that has a history for them, in order. -/
theorem sixSigma_areBands (scope : Scope ℝ) {list result : List (Series ℝ)} {log after : List Fetch}
    (hevaluator : scope.evaluator = some fun _ window target => answer window target)
    (h : Run.from (sixSigma scope call list) log = (.ok result, after)) :
    ∃ factors offset window, parseFactors call.factor = .ok factors ∧
      parseOffset call.period = .ok offset ∧
      historyWindow? scope.window.start call.repeats |offset| = some window ∧
      AreAllBands scope.window |offset| call.repeats factors
        (list.filterMap (bandHistory answer window call.repeats)) result := by
  cases hmake : (BandPlan.make scope.window call : Except Error (BandPlan ℝ)) with
  | error e =>
    rw [from_sixSigma_of_error hmake] at h
    cases h
  | ok plan =>
    obtain ⟨hfactors, ⟨offset, hoffset, hseconds⟩, hperiod, hrepeats, hwindow⟩ :=
      BandPlan.make_eq_ok hmake
    have hleast := isLeast_tiles hperiod scope.window
    have htiles : plan.tiles scope.window ≠ 0 := Nat.one_le_iff_ne_zero.1 hleast.1.1
    have hstop : plan.history.stop = scope.window.start.hour := stop_of_historyWindow? hwindow
    have habs : plan.seconds = |offset| := by rw [hseconds, Int.natCast_natAbs]
    rw [from_sixSigma_of_ok scope hmake] at h
    obtain ⟨bands, mid, hbands, hflatten⟩ := Run.from_bind_eq_ok.1 h
    have hfrom := Run.Yields.mapM_forall₂ (fun s _ => askBands_yields hevaluator plan s)
      log bands mid hbands
    obtain ⟨triples, htriples, hall⟩ := answerBands_all htiles hrepeats hfrom
    rw [habs, hstop] at hleast hall
    rw [habs] at hwindow
    cases hflatten
    exact ⟨plan.factors, offset, plan.history, hfactors, hoffset, hwindow,
      plan.tiles scope.window, triples, hleast, htriples, hall⟩

end

/-- An answer of two samples, whatever is asked for. -/
def twoSamples : Window → String → Except Error (List (Series ℝ)) :=
  fun _ _ => .ok [.ofValues "history" 0 3600 [1, 3]]

def twoSampleHistories : Scope ℝ :=
  { emptyHistories with evaluator := some fun _ window target => twoSamples window target }

theorem sixSigma_areBands_two_weeks :
    ∃ result after,
      Run.from (sixSigma twoSampleHistories ⟨"7d", 2, "3"⟩ [.ofValues "foo" 7200 60 [2]]) [] =
        (.ok result, after) ∧
      ∃ factors offset window, parseFactors "3" = .ok factors ∧ parseOffset "7d" = .ok offset ∧
        historyWindow? thirdHour.start 2 |offset| = some window ∧
        AreAllBands thirdHour |offset| 2 factors [.ofValues "history" 0 3600 [1, 3]] result := by
  have hmake := BandPlan.make_of_accepted thirdHour ⟨"7d", 2, "3"⟩ parseFactors_three
    parseOffset_week (by decide) (by decide)
  have hwindow : ∃ window, historyWindow? thirdHour.start 2 (604800 : Int).natAbs = some window :=
    Option.isSome_iff_exists.1 (by decide)
  obtain ⟨window, hwindow⟩ := hwindow
  rw [hwindow] at hmake
  have hrun := from_sixSigma_of_ok twoSampleHistories hmake [.ofValues "foo" 7200 60 [2]] []
  exact ⟨_, _, hrun, sixSigma_areBands twoSampleHistories rfl hrun⟩

end MetricSeries

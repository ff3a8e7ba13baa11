import Mathlib
import MetricSeries.Proofs.Ascending
import MetricSeries.Proofs.BandLaws
import MetricSeries.Proofs.SlotLaws

/-!
The order of the three bands.  A deviation is never negative, so the sign of a factor alone decides
on which side of the mean its band lies; only where all periods agree do the bands meet.
-/

set_option autoImplicit false

namespace MetricSeries

/-- Three bands of one length that are absent together; where they are not, the samples of mean,
upper and lower band have the property. -/
def Together (P : Nat → ℝ → ℝ → ℝ → Prop) (triple : List (Series ℝ)) : Prop :=
  ∃ mean upper lower, triple = [mean, upper, lower] ∧ upper.length = mean.length ∧
    lower.length = mean.length ∧ ∀ i < mean.length,
      (∀ band ∈ triple, band.values[i]? = some none) ∨
      ∃ m u l, mean.values[i]? = some (some m) ∧ upper.values[i]? = some (some u) ∧
        lower.values[i]? = some (some l) ∧ P i m u l

/-- Whether all periods of a history, with its gaps filled, have the same sample in the slot of a
place. -/
def PeriodsAgree (repeats : Nat) (history : Series ℝ) (i : Nat) : Prop :=
  let n := history.length / repeats
  Samples.Agree n repeats (Samples.fill (history.values.take (n * repeats))) (i % n)

/-- On which side of the mean the bands lie, and where they meet. -/
def OrderedBy (factors : BandFactors ℝ) (repeats : Nat) (history : Series ℝ) (i : Nat)
    (m u l : ℝ) : Prop :=
  (m ≤ u ↔ 0 ≤ factors.upper ∨ PeriodsAgree repeats history i) ∧
  (l ≤ m ↔ 0 ≤ factors.lower ∨ PeriodsAgree repeats history i) ∧
  (PeriodsAgree repeats history i → l = m ∧ m = u)

theorem Together.mono {P Q : Nat → ℝ → ℝ → ℝ → Prop} {triple : List (Series ℝ)}
    (h : Together P triple) (hPQ : ∀ i m u l, P i m u l → Q i m u l) : Together Q triple := by
  obtain ⟨mean, upper, lower, htriple, hupper, hlower, hplaces⟩ := h
  refine ⟨mean, upper, lower, htriple, hupper, hlower, fun i hi => ?_⟩
  rcases hplaces i hi with habsent | ⟨m, u, l, hm, hu, hl, hP⟩
  · exact .inl habsent
  · exact .inr ⟨m, u, l, hm, hu, hl, hPQ i m u l hP⟩

theorem mul_deviation_nonneg_iff {factor s : ℝ} (hs : 0 ≤ s) :
    0 ≤ factor * s ↔ 0 ≤ factor ∨ s = 0 := by
  rcases hs.eq_or_lt with rfl | hpos
  · simp
  · rw [mul_nonneg_iff_of_pos_right hpos, or_iff_left hpos.ne']

theorem orderedBy_of_deviation {factors : BandFactors ℝ} {repeats : Nat} {history : Series ℝ}
    {i : Nat} {m s : ℝ} (hs : 0 ≤ s) (hzero : s = 0 ↔ PeriodsAgree repeats history i) :
    OrderedBy factors repeats history i m (m + factors.upper * s) (m - factors.lower * s) := by
  refine ⟨?_, ?_, fun hagree => ?_⟩
  · rw [le_add_iff_nonneg_right, mul_deviation_nonneg_iff hs, hzero]
  · rw [sub_le_self_iff, mul_deviation_nonneg_iff hs, hzero]
  · rw [hzero.2 hagree, mul_zero, mul_zero, sub_zero, add_zero]
    exact ⟨rfl, rfl⟩

section
variable {start period : Int} {tiles n : Nat} {P : Nat → ℝ → ℝ → ℝ → Prop}
  {mean upper lower : Series ℝ}

theorem together_of_absent
    (h : ∀ band ∈ [mean, upper, lower], IsBand start period tiles n (fun _ => none) band) :
    Together P [mean, upper, lower] := by
  have hmean := h mean (by simp)
  have hupper := h upper (by simp)
  have hlower := h lower (by simp)
  refine ⟨mean, upper, lower, rfl, hupper.length_eq.trans hmean.length_eq.symm,
    hlower.length_eq.trans hmean.length_eq.symm, fun i hi => .inl fun band hband => ?_⟩
  exact (h band hband).sample_eq i (hmean.length_eq ▸ hi)

theorem together_of_known {m u l : Nat → ℝ}
    (hmean : IsBand start period tiles n (fun c => some (m c)) mean)
    (hupper : IsBand start period tiles n (fun c => some (u c)) upper)
    (hlower : IsBand start period tiles n (fun c => some (l c)) lower)
    (h : ∀ i < n * tiles, P i (m (i % n)) (u (i % n)) (l (i % n))) :
    Together P [mean, upper, lower] := by
  refine ⟨mean, upper, lower, rfl, hupper.length_eq.trans hmean.length_eq.symm,
    hlower.length_eq.trans hmean.length_eq.symm, fun i hi => .inr ?_⟩
  rw [hmean.length_eq] at hi
  exact ⟨_, _, _, hmean.sample_eq i hi, hupper.sample_eq i hi, hlower.sample_eq i hi, h i hi⟩

end

/-- The bands of a history lie by the signs of their factors. -/
theorem AreBands.together {start period : Int} {tiles repeats : Nat} {factors : BandFactors ℝ}
    {history : Series ℝ} {triple : List (Series ℝ)} (hr : repeats ≠ 0)
    (h : AreBands start period tiles repeats factors history triple) :
    Together (OrderedBy factors repeats history) triple := by
  obtain ⟨mean, upper, lower, rfl, habsent, hknown⟩ := h
  by_cases hall : ∀ x ∈ history.values.take (history.length / repeats * repeats), x = none
  · exact together_of_absent (habsent hall)
  · push Not at hall
    obtain ⟨y, hy, hne⟩ := hall
    obtain ⟨x, rfl⟩ := Option.ne_none_iff_exists'.1 hne
    -- One known sample fills every gap, so there is an observation in every place.
    obtain ⟨values, hfill, hmean, hupper, hlower⟩ := hknown ⟨x, hy⟩
    have hwhole : history.length / repeats * repeats ≤ history.values.length :=
      Nat.div_mul_le_self _ _
    have hlength : values.length = history.length / repeats * repeats := by
      rw [← List.length_map some, ← hfill, Samples.length_fill, List.length_take,
        Nat.min_eq_left hwhole]
    refine together_of_known hmean hupper hlower fun i hi => ?_
    have hslot : i % (history.length / repeats) < history.length / repeats :=
      Nat.mod_lt i (Nat.pos_of_mul_pos_right (Nat.zero_lt_of_lt hi))
    refine orderedBy_of_deviation Samples.slotDeviation_nonneg ?_
    rw [Samples.slotDeviation_eq_zero_iff hr hlength.ge hslot, PeriodsAgree, hfill,
      Samples.agree_map_some_iff]

section
variable [NumberText ℝ] {scope : Scope ℝ} {call : BandCall}

theorem parseFactors_ordered {factor : String} {factors : BandFactors ℝ}
    (h : parseFactors factor = .ok factors) : factors.lower ≤ factors.upper := by
  unfold parseFactors at h
  split at h
  · obtain ⟨x, -, h⟩ := except_bind_eq_ok.1 h
    cases h
    exact le_rfl
  · obtain ⟨x, -, h⟩ := except_bind_eq_ok.1 h
    obtain ⟨y, -, h⟩ := except_bind_eq_ok.1 h
    cases h
    rw [greater_eq_max, lesser_eq_min]
    exact min_le_max
  · cases h

theorem askBands_together {plan : BandPlan ℝ} (htiles : plan.tiles scope.window ≠ 0)
    (hr : call.repeats ≠ 0) (s : Series ℝ) :
    Run.Yields (askBands scope call plan s) fun bands => bands = [] ∨
      ∃ history, FirstAnswer scope plan.history s.target history ∧
        bands = bandsOf plan (plan.tiles scope.window) call s history ∧
        Together (OrderedBy plan.factors call.repeats history) bands := by
  intro log bands after h
  cases hevaluator : scope.evaluator with
  | none =>
    rw [from_askBands_of_none hevaluator] at h
    cases h
  | some evaluate =>
    rw [from_askBands_of_some hevaluator] at h
    obtain ⟨histories, hanswer, rfl⟩ := except_map_eq_ok.1 (congrArg Prod.fst h)
    cases histories with
    | nil => exact .inl rfl
    | cons history more =>
      by_cases hshort : history.length < call.repeats
      · exact .inl (bandsOf_of_short plan _ s hshort)
      · have hbands := areBands_bandsOf plan s htiles hr (not_lt.1 hshort)
        exact .inr ⟨history, ⟨evaluate, log, more, hevaluator, hanswer⟩, rfl, hbands.together hr⟩

/-- The bands of a call, three for each of some of its series, from the first history that there is
for the series over the window of the plan. -/
def InTriples (scope : Scope ℝ) (call : BandCall) (plan : BandPlan ℝ)
    (list result : List (Series ℝ)) (P : Series ℝ → Nat → ℝ → ℝ → ℝ → Prop) : Prop :=
  ∃ triples : List (List (Series ℝ)), result = triples.flatten ∧
    ∀ triple ∈ triples, ∃ s ∈ list, ∃ history,
      FirstAnswer scope plan.history s.target history ∧
      triple = bandsOf plan (plan.tiles scope.window) call s history ∧ Together (P history) triple

theorem InTriples.mono {plan : BandPlan ℝ} {list result : List (Series ℝ)}
    {P Q : Series ℝ → Nat → ℝ → ℝ → ℝ → Prop} (h : InTriples scope call plan list result P)
    (hPQ : ∀ history i m u l, P history i m u l → Q history i m u l) :
    InTriples scope call plan list result Q := by
  obtain ⟨triples, hresult, hall⟩ := h
  refine ⟨triples, hresult, fun triple htriple => ?_⟩
  obtain ⟨s, hs, history, hanswer, hbands, hP⟩ := hall triple htriple
  exact ⟨s, hs, history, hanswer, hbands, hP.mono (hPQ history)⟩

theorem inTriples_of_ok {plan : BandPlan ℝ} {list result : List (Series ℝ)} {log after : List Fetch}
    (hplan : BandPlan.make scope.window call = .ok plan)
    (h : Run.from (sixSigma scope call list) log = (.ok result, after)) :
    InTriples scope call plan list result (OrderedBy plan.factors call.repeats) := by
  obtain ⟨-, -, hperiod, hr, -⟩ := BandPlan.make_eq_ok hplan
  have htiles : plan.tiles scope.window ≠ 0 :=
    Nat.one_le_iff_ne_zero.1 (isLeast_tiles hperiod scope.window).1.1
  have hone : ∀ s ∈ list, Run.Yields (askBands scope call plan s) fun bands => bands = [] ∨
      ∃ s ∈ list, ∃ history, FirstAnswer scope plan.history s.target history ∧
        bands = bandsOf plan (plan.tiles scope.window) call s history ∧
        Together (OrderedBy plan.factors call.repeats history) bands :=
    fun s hs => (askBands_together htiles hr s).mono fun bands hbands =>
      hbands.imp_right fun hhistory => ⟨s, hs, hhistory⟩
  rw [from_sixSigma_of_ok scope hplan] at h
  obtain ⟨parts, _, hparts, hflatten⟩ := Run.from_bind_eq_ok.1 h
  cases hflatten
  -- The parts of the series without bands are empty and can be left out.
  refine ⟨parts.filter fun part => !part.isEmpty, List.flatten_filter_not_isEmpty.symm,
    fun triple htriple => ?_⟩
  obtain ⟨hmem, hne⟩ := List.mem_filter.1 htriple
  rcases Run.Yields.mapM hone log parts _ hparts triple hmem with rfl | hsome
  · cases hne
  · exact hsome

/-- The mean lies between its bands, and they meet where all periods agree. -/
def InOrder (repeats : Nat) (history : Series ℝ) (i : Nat) (m u l : ℝ) : Prop :=
  l ≤ m ∧ m ≤ u ∧ (PeriodsAgree repeats history i → l = m ∧ m = u)

/-- What the bands of a call owe, whatever the sign of its factors. -/
def OrderLaw (scope : Scope ℝ) (call : BandCall) (list : List (Series ℝ)) : Prop :=
  ∀ log result after, Run.from (sixSigma scope call list) log = (.ok result, after) →
    ∃ plan, BandPlan.make scope.window call = .ok plan ∧
      InTriples scope call plan list result (InOrder call.repeats)

/-- The law is kept with every lower factor that is not negative.  With any factors each band lies
on its side of the mean exactly where its factor is not negative or all periods agree, and where
they agree the bands meet. -/
theorem sixSigma_ordered {list result : List (Series ℝ)} {log after : List Fetch}
    (h : Run.from (sixSigma scope call list) log = (.ok result, after)) :
    ∃ plan, BandPlan.make scope.window call = .ok plan ∧
      parseFactors call.factor = .ok plan.factors ∧ plan.factors.lower ≤ plan.factors.upper ∧
      (0 ≤ plan.factors.lower → InTriples scope call plan list result (InOrder call.repeats)) ∧
      InTriples scope call plan list result (OrderedBy plan.factors call.repeats) := by
  cases hplan : (BandPlan.make scope.window call : Except Error (BandPlan ℝ)) with
  | error e =>
    rw [from_sixSigma_of_error hplan] at h
    cases h
  | ok plan =>
    obtain ⟨hfactors, -⟩ := BandPlan.make_eq_ok hplan
    have hordered := parseFactors_ordered hfactors
    have htriples := inTriples_of_ok hplan h
    refine ⟨plan, rfl, hfactors, hordered, fun hlower => ?_, htriples⟩
    refine htriples.mono fun history i m u l hsides => ?_
    obtain ⟨hmu, hlm, hmeet⟩ := hsides
    exact ⟨hlm.2 (.inl hlower), hmu.2 (.inl (hlower.trans hordered)), hmeet⟩

end

theorem from_sixSigma_twoSamples {factor : String} {factors : BandFactors ℝ}
    (hfactors : parseFactors factor = .ok factors) :
    ∃ plan after, BandPlan.make thirdHour ⟨"7d", 2, factor⟩ = .ok plan ∧ plan.factors = factors ∧
      plan.tiles thirdHour ≠ 0 ∧
      Run.from (sixSigma twoSampleHistories ⟨"7d", 2, factor⟩ [.ofValues "foo" 7200 60 [2]]) [] =
        (.ok (bandsOf plan (plan.tiles thirdHour) ⟨"7d", 2, factor⟩ (.ofValues "foo" 7200 60 [2])
          (.ofValues "history" 0 3600 [1, 3])), after) := by
  have hmake := BandPlan.make_of_accepted thirdHour ⟨"7d", 2, factor⟩ hfactors parseOffset_week
    (by decide) two_ne_zero
  have hwindow : ∃ window, historyWindow? thirdHour.start 2 (604800 : Int).natAbs = some window :=
    Option.isSome_iff_exists.1 (by decide)
  obtain ⟨window, hwindow⟩ := hwindow
  simp only [hwindow] at hmake
  obtain ⟨-, -, hperiod, -⟩ := BandPlan.make_eq_ok hmake
  have htiles := (isLeast_tiles hperiod thirdHour).1.1
  exact ⟨_, _, hmake, rfl, Nat.one_le_iff_ne_zero.1 htiles,
    from_sixSigma_singleton twoSampleHistories rfl hmake rfl⟩

theorem sixSigma_ordered_two_weeks :
    ∃ plan result after,
      Run.from (sixSigma twoSampleHistories ⟨"7d", 2, "3"⟩ [.ofValues "foo" 7200 60 [2]]) [] =
        (.ok result, after) ∧
      BandPlan.make thirdHour ⟨"7d", 2, "3"⟩ = .ok plan ∧ result.length = 3 ∧
      InTriples twoSampleHistories ⟨"7d", 2, "3"⟩ plan [.ofValues "foo" 7200 60 [2]] result
        (InOrder 2) := by
  obtain ⟨plan, after, hmake, hfactors, htiles, hrun⟩ := from_sixSigma_twoSamples parseFactors_three
  obtain ⟨plan', hmake', -, -, horder, -⟩ := sixSigma_ordered hrun
  obtain rfl : plan = plan' := Except.ok.inj (hmake.symm.trans hmake')
  refine ⟨plan, _, after, hrun, hmake, rfl, horder ?_⟩
  rw [hfactors]
  exact Nat.cast_nonneg 3

theorem parseFactors_minusThree :
    parseFactors "-3" = .ok (⟨-3, -3⟩ : BandFactors ℝ) := by
  have hread : NumberText.parse? "-3" = some (-3 : ℝ) := by
    show parseExact? "-3" = some (-3 : ℝ)
    have hsign : Decimal.readSign "-3".toList = (true, ['3']) := by decide
    have hdigit : Decimal.readUnsigned ['3'] = some (3, 0) := by decide
    unfold parseExact?
    rw [hsign]
    simp [hdigit]
  have hpart : parseFactorPart "-3" = .ok (-3 : ℝ) := by
    unfold parseFactorPart
    rw [show Text.trim "-3" = "-3" by decide, hread]
  unfold parseFactors
  rw [show Text.pieces ':' "-3" = ["-3"] by decide]
  dsimp only
  rw [hpart]
  rfl

theorem bandsOf_twoSamples (plan : BandPlan ℝ) {tiles : Nat} (htiles : tiles ≠ 0) (factor : String)
    (s : Series ℝ) :
    ∃ mean upper lower m deviation, bandsOf plan tiles ⟨"7d", 2, factor⟩ s
        (.ofValues "history" 0 3600 [1, 3]) = [mean, upper, lower] ∧ 0 < mean.length ∧
      0 < deviation ∧ mean.values[0]? = some (some m) ∧
      upper.values[0]? = some (some (m + plan.factors.upper * deviation)) := by
  have hsamples : (Series.ofValues "history" 0 3600 [(1 : ℝ), 3]).length = 2 := rfl
  have hbands := areBands_bandsOf plan s htiles
    (show BandCall.repeats ⟨"7d", 2, factor⟩ ≠ 0 from two_ne_zero) hsamples.ge
  unfold AreBands at hbands
  simp only [hsamples, Nat.div_self two_pos] at hbands
  obtain ⟨mean, upper, lower, heq, -, hknown⟩ := hbands
  have hfirst : some (1 : ℝ) ∈ [some 1, some 3] := by simp
  obtain ⟨values, hfill, hmean, hupper, -⟩ := hknown ⟨1, hfirst⟩
  have hsame : [1, 3].map some = values.map some := hfill
  obtain rfl := List.map_injective_iff.2 (Option.some_injective ℝ) hsame
  have hpositive : 0 < 1 * tiles := Nat.mul_pos one_pos (Nat.pos_of_ne_zero htiles)
  refine ⟨mean, upper, lower, _, _, heq, hmean.length_eq ▸ hpositive, ?_,
    hmean.sample_eq 0 hpositive, hupper.sample_eq 0 hpositive⟩
  refine lt_of_le_of_ne Samples.slotDeviation_nonneg fun hzero => ?_
  have hagree := (Samples.slotDeviation_eq_zero_iff two_ne_zero le_rfl one_pos).1 hzero.symm
  have hthree := hagree 1 one_lt_two
  norm_num at hthree

/-- A negative factor turns the bands of two samples around. -/
theorem not_orderLaw_minusThree :
    parseFactors "-3" = .ok (⟨-3, -3⟩ : BandFactors ℝ) ∧
    ¬OrderLaw twoSampleHistories ⟨"7d", 2, "-3"⟩ [.ofValues "foo" 7200 60 [2]] := by
  refine ⟨parseFactors_minusThree, fun hlaw => ?_⟩
  obtain ⟨plan, after, hmake, hfactors, htiles, hrun⟩ :=
    from_sixSigma_twoSamples parseFactors_minusThree
  obtain ⟨mean, upper, lower, m, deviation, hbands, hlength, hpositive, hm, hu⟩ :=
    bandsOf_twoSamples plan htiles "-3" (.ofValues "foo" 7200 60 [2])
  obtain ⟨plan', -, triples, hflatten, hall⟩ := hlaw [] _ after hrun
  rw [hbands] at hflatten
  cases triples with
  | nil => cases hflatten
  | cons triple more =>
    obtain ⟨s, -, history, -, -, mean', upper', lower', rfl, -, -, hplaces⟩ :=
      hall _ List.mem_cons_self
    simp only [List.flatten_cons, List.cons_append, List.cons.injEq] at hflatten
    obtain ⟨rfl, rfl, rfl, -⟩ := hflatten
    rcases hplaces 0 hlength with habsent | ⟨m', u', l', hm', hu', -, -, hmu, -⟩
    · rw [habsent mean (by simp)] at hm
      cases hm
    · rw [hm, Option.some.injEq, Option.some.injEq] at hm'
      rw [hu, Option.some.injEq, Option.some.injEq, hfactors] at hu'
      subst hm' hu'
      linarith

end MetricSeries

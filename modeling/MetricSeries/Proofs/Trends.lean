import Mathlib
import MetricSeries.Proofs.Counterparts
import MetricSeries.Proofs.LeastSquares

set_option autoImplicit false

namespace MetricSeries

section
variable {α : Type}

theorem mem_datapoints_iff {s : Series α} {v : Option α} {t : Int} :
    (v, t) ∈ s.datapoints ↔ ∃ i : Nat, s.values[i]? = some v ∧ t = s.time i := by
  unfold Series.datapoints Series.timestamps Series.length
  rw [List.mem_iff_getElem?]
  refine exists_congr fun i => ?_
  rw [List.getElem?_zip_eq_some, List.getElem?_map]
  refine and_congr_right fun hi => ?_
  rw [List.getElem?_range (List.getElem?_eq_some_iff.1 hi).1]
  exact ⟨fun h => (Option.some.inj h).symm, fun h => congrArg some h.symm⟩

/-- Every sample of a series is there, and is what a function gives for its time. -/
def Series.Follows (f : Int → α) (s : Series α) : Prop :=
  ∀ v t, (v, t) ∈ s.datapoints → v = some (f t)

theorem mem_indexed_iff [NatCast α] {xs : Samples α} {p : α × α} :
    p ∈ indexed xs ↔ ∃ (i : Nat) (x : α), xs[i]? = some (some x) ∧ p = ((i : α), x) := by
  unfold indexed
  rw [List.mem_filterMap]
  constructor
  · rintro ⟨⟨v, i⟩, hv, hp⟩
    obtain ⟨x, rfl, rfl⟩ := Option.map_eq_some_iff.1 hp
    exact ⟨i, x, List.mk_mem_zipIdx_iff_getElem?.1 hv, rfl⟩
  · rintro ⟨i, x, hx, rfl⟩
    exact ⟨(some x, i), List.mk_mem_zipIdx_iff_getElem?.2 hx, rfl⟩

end

theorem pairwise_indexed (xs : Samples ℝ) : (indexed xs).Pairwise fun p q => p.1 < q.1 := by
  have hpositions : xs.zipIdx.Pairwise fun a b => a.2 < b.2 := by
    rw [← List.pairwise_map, List.zipIdx_map_snd]
    exact List.pairwise_lt_range'
  refine hpositions.filterMap _ fun a b hlt p hp q hq => ?_
  obtain ⟨x, _, rfl⟩ := Option.map_eq_some_iff.1 hp
  obtain ⟨y, _, rfl⟩ := Option.map_eq_some_iff.1 hq
  exact Nat.cast_lt.2 hlt

theorem exists_apart_indexed {xs : Samples ℝ} (h : 2 ≤ xs.countP Option.isSome) :
    ∃ p ∈ indexed xs, ∃ q ∈ indexed xs, p.1 ≠ q.1 := by
  have hpairwise := pairwise_indexed xs
  rw [← length_indexed] at h
  match hall : indexed xs with
  | [] => simp [hall] at h
  | [_] => simp [hall] at h
  | p :: q :: rest =>
    rw [hall] at hpairwise
    exact ⟨p, by simp, q, by simp, ((List.pairwise_cons.1 hpairwise).1 q (by simp)).ne⟩

/-- Whether the share of samples that are there is below the least share given. -/
def Series.FallsShort (least : Option ℝ) (s : Series ℝ) : Prop :=
  ∃ share, least = some share ∧ (s.validCount : ℝ) / (s.length : ℝ) < share

theorem presence_eq (s : Series ℝ) : presence s = (s.validCount : ℝ) / (s.length : ℝ) := by
  unfold presence
  rcases Nat.eq_zero_or_pos s.length with h | h
  · have hcount : s.validCount = 0 := by
      have hle : s.validCount ≤ s.length := List.countP_le_length
      omega
    rw [hcount]
    simp
  · rw [Nat.max_eq_right h]

theorem tooSparse_iff {least : Option ℝ} {s : Series ℝ} :
    tooSparse least s = true ↔ s.FallsShort least := by
  unfold tooSparse Series.FallsShort
  rw [presence_eq]
  cases least with
  | none => simp
  | some share => simp

/-- A series without samples has no trend, nor has one that falls short; all others have. -/
theorem trend_eq_none_iff_fallsShort {window : Window} {least : Option ℝ} {s : Series ℝ} :
    trend window least s = none ↔ s.validCount = 0 ∨ s.FallsShort least := by
  rw [trend_eq, ← tooSparse_iff]
  split
  · rename_i h
    simp [h]
  · rename_i h
    rw [Option.map_eq_none_iff, fit?_eq_none_iff, ← List.length_eq_zero_iff, length_indexed]
    simp [h, Series.validCount]

theorem trend_of_fit {window : Window} {least : Option ℝ} {s : Series ℝ} {l : Line ℝ}
    (h : ¬s.FallsShort least) (hl : Line.fit? (indexed s.values) = some l) :
    trend window least s = some (trendAlong window s l) := by
  rw [trend_eq, if_neg (mt tooSparse_iff.1 h), hl, Option.map_some]

theorem follows_trendAlong (window : Window) {s : Series ℝ} (hstep : 1 ≤ s.step) (l : Line ℝ) :
    (trendAlong window s l).Follows fun t => l.value (((t - s.start : Int) : ℝ) / (s.step : ℝ)) := by
  intro v t hv
  obtain ⟨i, hi, rfl⟩ := mem_datapoints_iff.1 hv
  unfold trendAlong Series.named Series.time at *
  simp only [max_eq_right hstep, List.getElem?_map, Option.map_eq_some_iff] at *
  obtain ⟨j, hj, rfl⟩ := hi
  obtain ⟨hlt, rfl⟩ := List.getElem?_eq_some_iff.1 hj
  rw [List.getElem_range]

theorem axis_trend {window : Window} {least : Option ℝ} {s projected : Series ℝ}
    (hstep : 1 ≤ s.step) (h : trend window least s = some projected) :
    projected.start = window.start.seconds ∧ projected.step = s.step ∧
      (window.start.seconds ≤ window.stop.seconds → projected.values ≠ []) := by
  have hline : ∃ l, projected = trendAlong window s l := by
    rw [trend_eq] at h
    split at h
    · cases h
    · obtain ⟨l, _, rfl⟩ := Option.map_eq_some_iff.1 h
      exact ⟨l, rfl⟩
  obtain ⟨l, rfl⟩ := hline
  refine ⟨rfl, max_eq_right hstep, fun hwindow hnil => ?_⟩
  have hlength : (trendAlong window s l).values.length =
      stepsWithin window.start.seconds window.stop.seconds (max 1 s.step) := by
    simp [trendAlong, Series.named]
  rw [hnil, max_eq_right hstep] at hlength
  have hsteps := Int.tdiv_nonneg (sub_nonneg.2 hwindow) (zero_le_one.trans hstep)
  unfold stepsWithin at hlength
  simp only [List.length_nil] at hlength
  omega

noncomputable def lineByPosition (s : Series ℝ) (a b : ℝ) : Line ℝ :=
  ⟨b * s.step, a + b * s.start⟩

theorem value_lineByPosition_time (s : Series ℝ) (a b : ℝ) (i : Nat) :
    (lineByPosition s a b).value i = a + b * (s.time i : ℝ) := by
  unfold lineByPosition Line.value Series.time
  push_cast
  ring

theorem value_lineByPosition {s : Series ℝ} (hstep : 1 ≤ s.step) (a b : ℝ) (t : Int) :
    (lineByPosition s a b).value (((t - s.start : Int) : ℝ) / (s.step : ℝ)) = a + b * t := by
  have hne : (s.step : ℝ) ≠ 0 := by
    have hpos : s.step ≠ 0 := by omega
    exact_mod_cast hpos
  unfold lineByPosition Line.value
  push_cast
  field_simp
  ring

theorem fit?_of_datapoints {s : Series ℝ} {a b : ℝ} (htwo : 2 ≤ s.validCount)
    (hline : ∀ x t, (some x, t) ∈ s.datapoints → x = a + b * (t : ℝ)) :
    Line.fit? (indexed s.values) = some (lineByPosition s a b) := by
  obtain ⟨p, hp, q, hq, hne⟩ := exists_apart_indexed htwo
  refine Line.fit?_of_onLine (fun r hr => ?_) hp hq hne
  obtain ⟨i, x, hx, rfl⟩ := mem_indexed_iff.1 hr
  rw [value_lineByPosition_time]
  exact hline x _ (mem_datapoints_iff.2 ⟨i, hx, rfl⟩)

theorem fit?_of_one {s : Series ℝ} {x : ℝ} (hone : s.validCount = 1) (hx : some x ∈ s.values) :
    Line.fit? (indexed s.values) = some ⟨0, x⟩ := by
  obtain ⟨i, hi, hget⟩ := List.mem_iff_getElem.1 hx
  have hmem : ((i : ℝ), x) ∈ indexed s.values :=
    mem_indexed_iff.2 ⟨i, x, List.getElem?_eq_some_iff.2 ⟨hi, hget⟩, rfl⟩
  obtain ⟨p, hp⟩ := List.length_eq_one_iff.1 ((length_indexed s.values).trans hone)
  rw [hp] at hmem ⊢
  obtain rfl := List.mem_singleton.1 hmem
  rw [Line.fit?_of_upright (by simp) (by simp), Line.mean_eq]
  simp

/-- What a call gives for one series of step 1 or more, whatever the series around it.  It is left out
if it has no sample or too small a share of them.  The trend starts with the window and has the step
of the series; it goes on along a line in time on which all samples are, and stays level where there
is only one. -/
theorem linregress_goesOn (window : Window) (least : Option ℝ) (s : Series ℝ) (hstep : 1 ≤ s.step) :
    ∃ emitted : Option (Series ℝ),
      (∀ before after, linregress window least (before ++ s :: after) =
        linregress window least before ++ emitted.toList ++ linregress window least after) ∧
      (emitted = none ↔ s.validCount = 0 ∨ s.FallsShort least) ∧
      (∀ projected, emitted = some projected → projected.start = window.start.seconds ∧
        projected.step = s.step ∧
        (window.start.seconds ≤ window.stop.seconds → projected.values ≠ [])) ∧
      (∀ a b : ℝ, 2 ≤ s.validCount → ¬s.FallsShort least →
        (∀ x t, (some x, t) ∈ s.datapoints → x = a + b * (t : ℝ)) →
        ∃ projected, emitted = some projected ∧ projected.Follows fun t => a + b * (t : ℝ)) ∧
      ∀ x, s.validCount = 1 → some x ∈ s.values → ¬s.FallsShort least →
        ∃ projected, emitted = some projected ∧ projected.Follows fun _ => x := by
  refine ⟨trend window least s, ?_, trend_eq_none_iff_fallsShort, ?_, ?_, ?_⟩
  · intro before after
    unfold linregress
    rw [List.filterMap_append, List.filterMap_cons, List.append_assoc]
    cases trend window least s <;> rfl
  · exact fun projected h => axis_trend hstep h
  · intro a b htwo hshare hline
    refine ⟨_, trend_of_fit hshare (fit?_of_datapoints htwo hline), ?_⟩
    intro v t hv
    rw [follows_trendAlong window hstep _ v t hv]
    exact congrArg some (value_lineByPosition hstep a b t)
  · intro x hone hx hshare
    refine ⟨_, trend_of_fit hshare (fit?_of_one hone hx), ?_⟩
    intro v t hv
    rw [follows_trendAlong window hstep _ v t hv]
    simp [Line.value]

/-- Two samples around a gap, half of all, go on along their line two hours later. -/
theorem linregress_goesOn_aroundGap :
    let window := Context.nearWindow 7200 10800
    let s : Series ℝ := .named "web" 0 180 60 [some 1, none, some 3, none]
    1 ≤ s.step ∧ 2 ≤ s.validCount ∧ ¬s.FallsShort (some (1 / 2)) ∧
      (∀ x t, (some x, t) ∈ s.datapoints → x = 1 + 1 / 60 * (t : ℝ)) ∧
      ∃ projected, linregress window (some (1 / 2)) [s] = [projected] ∧ projected.start = 7200 ∧
        projected.values ≠ [] ∧ projected.Follows fun t => 1 + 1 / 60 * (t : ℝ) := by
  intro window s
  have hstep : 1 ≤ s.step := by decide
  have hcount : s.validCount = 2 := rfl
  have hlength : s.length = 4 := rfl
  have hshare : ¬s.FallsShort (some (1 / 2)) := by
    unfold Series.FallsShort
    rw [hcount, hlength]
    norm_num
  have hdatapoints : s.datapoints = [(some 1, 0), (none, 60), (some 3, 120), (none, 180)] := rfl
  have hline : ∀ x t, (some x, t) ∈ s.datapoints → x = 1 + 1 / 60 * (t : ℝ) := by
    intro x t h
    rw [hdatapoints] at h
    simp only [List.mem_cons, Prod.mk.injEq, Option.some.injEq, reduceCtorEq, false_and,
      List.not_mem_nil, or_false, false_or] at h
    rcases h with ⟨rfl, rfl⟩ | ⟨rfl, rfl⟩ <;> norm_num
  obtain ⟨emitted, halone, -, haxis, hgoesOn, -⟩ := linregress_goesOn window (some (1 / 2)) s hstep
  obtain ⟨projected, rfl, hfollows⟩ := hgoesOn 1 (1 / 60) hcount.ge hshare hline
  obtain ⟨hstart, -, hvalues⟩ := haxis projected rfl
  refine ⟨hstep, hcount.ge, hshare, hline, projected, ?_, hstart, hvalues (by decide), hfollows⟩
  exact halone [] []

end MetricSeries

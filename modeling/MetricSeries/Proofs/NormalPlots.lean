import MetricSeries.Plot
import MetricSeries.Proofs.WellFormed

set_option autoImplicit false

namespace MetricSeries

variable {α : Type}

namespace Series

@[simp] theorem length_timestamps (s : Series α) : s.timestamps.length = s.length := by
  simp [timestamps]

theorem map_fst_datapoints (s : Series α) : s.datapoints.map Prod.fst = s.values :=
  List.map_fst_zip (by rw [length_timestamps]; exact le_rfl)

theorem map_snd_datapoints (s : Series α) : s.datapoints.map Prod.snd = s.timestamps :=
  List.map_snd_zip (by rw [length_timestamps]; exact le_rfl)

end Series

namespace Plot

/-- The plot that is written for the series a plot is read as. -/
def normal (p : Plot α) : Plot α :=
  ofSeries p.toSeries

def samples (p : Plot α) : Samples α :=
  p.datapoints.map Prod.fst

def times (p : Plot α) : List Int :=
  p.datapoints.map Prod.snd

def evenTimes (t d : Int) (count : Nat) : List Int :=
  (List.range count).map fun i : Nat => t + i * d

/-- The spacing is left to be inferred, and it is the same between all samples. -/
structure IsNormal (p : Plot α) : Prop where
  step_eq : p.step = none
  times_eq : ∃ t d, 0 < d ∧ p.times = evenTimes t d p.times.length

theorem stepOf_pos (p : Plot α) : 0 < p.stepOf := by
  unfold stepOf
  generalize (p.step.orElse fun _ => spacing p.datapoints) = step
  cases h : step.filter fun step => decide (0 < step) with
  | none => exact Int.one_pos
  | some d => simpa using (Option.filter_eq_some_iff.1 h).2

theorem start_toSeries (p : Plot α) : p.toSeries.start = p.times.headD 0 := by
  cases h : p.datapoints <;> simp [toSeries, times, Series.named, h]

theorem finish_toSeries (p : Plot α) :
    p.toSeries.finish = p.times.getLast?.getD p.toSeries.start := by
  unfold times
  rw [List.getLast?_map]
  rfl

theorem length_toSeries (p : Plot α) : p.toSeries.length = p.times.length := by
  simp [toSeries, times, Series.named, Series.length]

theorem spacing_of_times {ds : List (Option α × Int)} {a b : Int} {rest : List Int}
    (h : ds.map Prod.snd = a :: b :: rest) : spacing ds = some (b - a) := by
  match ds, h with
  | (_, _) :: (_, _) :: _, h =>
    simp only [List.map_cons, List.cons.injEq] at h
    obtain ⟨rfl, rfl, -⟩ := h
    rfl

theorem evenTimes_two (t d : Int) (count : Nat) :
    evenTimes t d (count + 2) =
      t :: (t + d) :: (List.range count).map fun i : Nat => t + (i + 2 : Nat) * d := by
  unfold evenTimes
  rw [List.range_succ_eq_map, List.range_succ_eq_map]
  simp [Function.comp_def, add_assoc, one_add_one_eq_two]

/-- Even times of two samples or more are found again by reading. -/
theorem axis_of_evenTimes {p : Plot α} {t d : Int} {count : Nat} (hstep : p.step = none)
    (hd : 0 < d) (h : p.times = evenTimes t d (count + 2)) :
    p.toSeries.start = t ∧ p.toSeries.step = d := by
  rw [evenTimes_two] at h
  have hspacing : spacing p.datapoints = some d := by
    rw [spacing_of_times h]
    simp
  constructor
  · rw [start_toSeries, h]
    rfl
  · show p.stepOf = d
    simp [stepOf, hstep, hspacing, Option.filter, hd]

theorem times_ofSeries (s : Series α) :
    (ofSeries s).times = evenTimes s.start s.step s.length :=
  s.map_snd_datapoints

theorem times_normal (p : Plot α) :
    p.normal.times = evenTimes (p.times.headD 0) p.stepOf p.times.length := by
  unfold normal
  rw [times_ofSeries, start_toSeries, length_toSeries]
  rfl

theorem isNormal_normal (p : Plot α) : p.normal.IsNormal where
  step_eq := rfl
  times_eq := by
    refine ⟨p.times.headD 0, p.stepOf, p.stepOf_pos, ?_⟩
    rw [times_normal]
    simp [evenTimes]

theorem timestamps_toSeries {p : Plot α} (h : p.IsNormal) : p.toSeries.timestamps = p.times := by
  obtain ⟨t, d, hd, htimes⟩ := h.times_eq
  have hwritten : p.toSeries.timestamps =
      evenTimes p.toSeries.start p.toSeries.step p.times.length := by
    rw [← length_toSeries]
    rfl
  rw [hwritten]
  match hcount : p.times.length with
  | 0 => rw [List.length_eq_zero_iff.1 hcount]; rfl
  | 1 =>
    obtain ⟨first, hfirst⟩ := List.length_eq_one_iff.1 hcount
    rw [start_toSeries, hfirst]
    simp [evenTimes]
  | count + 2 =>
    rw [hcount] at htimes
    obtain ⟨hstart, hstep⟩ := axis_of_evenTimes h.step_eq hd htimes
    rw [hstart, hstep, htimes]

theorem normal_eq_self {p : Plot α} (h : p.IsNormal) : p.normal = p := by
  have hdatapoints : p.toSeries.datapoints = p.datapoints := by
    show p.samples.zip p.toSeries.timestamps = p.datapoints
    rw [timestamps_toSeries h]
    exact (List.zip_of_prod rfl rfl).symm
  calc p.normal = ⟨p.target, p.toSeries.datapoints, none⟩ := rfl
    _ = ⟨p.target, p.datapoints, p.step⟩ := by rw [hdatapoints, h.step_eq]

theorem toSeries_ofSeries {s : Series α} (h : s.WellFormed) (hlength : 2 ≤ s.length) :
    (ofSeries s).toSeries = .named s.name s.start s.finish s.step s.values := by
  obtain ⟨count, hcount⟩ := Nat.exists_eq_add_of_le' hlength
  have htimes : (ofSeries s).times = evenTimes s.start s.step (count + 2) := by
    rw [times_ofSeries, hcount]
  obtain ⟨hstart, hstep⟩ := axis_of_evenTimes rfl h.step_pos htimes
  have hfinish : (ofSeries s).toSeries.finish = s.finish := by
    have hlast : (ofSeries s).times.getLast? = some s.finish := by
      rw [← h.getLast?_timestamps (by omega)]
      exact congrArg List.getLast? s.map_snd_datapoints
    rw [finish_toSeries, hlast]
    rfl
  have hvalues : (ofSeries s).toSeries.values = s.values := s.map_fst_datapoints
  calc (ofSeries s).toSeries
      = .named s.name (ofSeries s).toSeries.start (ofSeries s).toSeries.finish
          (ofSeries s).toSeries.step (ofSeries s).toSeries.values := rfl
    _ = .named s.name s.start s.finish s.step s.values := by rw [hstart, hfinish, hstep, hvalues]

/-- Reading and writing keeps the target and the samples, sets the times evenly and forward from the
first on, and changes nothing when done again.  A series of two samples or more that ends where its
last sample stands is the same after writing and reading. -/
theorem normal_stable :
    (∀ p : Plot α, p.normal.target = p.target ∧ p.normal.samples = p.samples ∧
      (∃ d, 0 < d ∧ p.normal.times = evenTimes (p.times.headD 0) d p.times.length) ∧
      p.normal.normal = p.normal) ∧
    ∀ s : Series α, 0 < s.step → s.finish = s.start + s.step * (s.length - 1) → 2 ≤ s.length →
      let t := (ofSeries s).toSeries
      t.name = s.name ∧ t.start = s.start ∧ t.finish = s.finish ∧ t.step = s.step ∧
        t.values = s.values := by
  constructor
  · intro p
    have hsamples : p.normal.samples = p.samples := p.toSeries.map_fst_datapoints
    exact ⟨rfl, hsamples, ⟨p.stepOf, p.stepOf_pos, times_normal p⟩,
      normal_eq_self (isNormal_normal p)⟩
  · intro s hpos hfinish hlength t
    have hshape : s.WellFormed := by
      refine ⟨hpos, ?_⟩
      rw [hfinish, max_eq_left (by omega)]
    have ht : t = .named s.name s.start s.finish s.step s.values :=
      toSeries_ofSeries hshape hlength
    rw [ht]
    exact ⟨rfl, rfl, rfl, rfl, rfl⟩

/-- Times that run backward under a spacing of zero are set one second apart; a series over a minute
comes back. -/
theorem normal_stable_backward :
    let p : Plot Nat := ⟨"a", [(some 5, 60), (none, 30), (some 7, 60)], some 0⟩
    let s : Series Nat := .named "b" 0 120 60 [some 1, none, some 2]
    (p.normal.times = [60, 61, 62] ∧ p.normal.normal = p.normal) ∧
      0 < s.step ∧ s.finish = s.start + s.step * (s.length - 1) ∧ 2 ≤ s.length ∧
      (ofSeries s).toSeries.finish = 120 := by
  intro p s
  have hstep : 0 < s.step := by decide
  have hfinish : s.finish = s.start + s.step * (s.length - 1) := by decide
  have hlength : 2 ≤ s.length := by decide
  exact ⟨⟨by decide, (normal_stable.1 p).2.2.2⟩, hstep, hfinish, hlength,
    (normal_stable.2 s hstep hfinish hlength).2.2.1⟩

end Plot

end MetricSeries

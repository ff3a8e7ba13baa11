import Mathlib
import MetricSeries.Proofs.Exact
import MetricSeries.Proofs.Keeps

set_option autoImplicit false

namespace MetricSeries

variable {α : Type}

/-- Time goes on from sample to sample, and the last sample is the end of the axis.  The axis of a
series without samples ends where it starts. -/
structure Series.WellFormed (s : Series α) : Prop where
  step_pos : 0 < s.step
  finish_eq : s.finish = s.start + s.step * max ((s.length : Int) - 1) 0

theorem lastTime_eq (start step : Int) (count : Nat) :
    lastTime start step count = start + step * max ((count : Int) - 1) 0 := by
  unfold lastTime
  congr 2
  omega

namespace Series.WellFormed

variable {s t : Series α}

theorem of_axis (h : s.WellFormed) (hstart : t.start = s.start) (hstep : t.step = s.step)
    (hfinish : t.finish = s.finish) (hlength : t.length = s.length) : t.WellFormed := by
  constructor
  · rw [hstep]
    exact h.step_pos
  · rw [hfinish, hstart, hstep, hlength]
    exact h.finish_eq

theorem rename (h : s.WellFormed) (name : String) : (s.rename name).WellFormed :=
  h.of_axis rfl rfl rfl rfl

theorem derive (h : s.WellFormed) (name : String) (values : Samples α) :
    (s.derive name values).WellFormed :=
  ⟨h.step_pos, lastTime_eq _ _ _⟩

theorem withValues (h : s.WellFormed) (name : String) {values : Samples α}
    (hlength : values.length = s.values.length) :
    ({ s.rename name with values := values } : Series α).WellFormed :=
  h.of_axis rfl rfl rfl hlength

theorem timestamps_pairwise (h : s.WellFormed) : s.timestamps.Pairwise (· < ·) := by
  unfold timestamps
  rw [List.pairwise_map]
  refine List.pairwise_lt_range.imp fun {i j} hij => ?_
  have hstep : (i : Int) * s.step < j * s.step :=
    Int.mul_lt_mul_of_pos_right (by omega) h.step_pos
  unfold time
  omega

theorem getLast?_timestamps (h : s.WellFormed) (hlength : s.length ≠ 0) :
    s.timestamps.getLast? = some s.finish := by
  obtain ⟨count, hcount⟩ := Nat.exists_eq_succ_of_ne_zero hlength
  have hmax : max (((count.succ : Nat) : Int) - 1) 0 = count := by omega
  unfold timestamps
  rw [h.finish_eq, hcount, hmax, Nat.succ_eq_add_one, List.range_succ, List.map_append,
    List.map_singleton, List.getLast?_concat, time, Int.mul_comm]

end Series.WellFormed

theorem length_blank (remove : α → Bool) (xs : Samples α) :
    (Samples.blank remove xs).length = xs.length := by
  simp [Samples.blank]

theorem mem_limit {n : Option Nat} {list : List (Series α)} {s : Series α}
    (h : s ∈ limit n list) : s ∈ list := by
  cases n with
  | none => exact h
  | some n => exact List.mem_of_mem_take h

theorem mem_sortDescending [LT α] [DecidableLT α] {key : Series α → Option α}
    {list : List (Series α)} {s : Series α} (h : s ∈ sortDescending key list) : s ∈ list := by
  unfold sortDescending at h
  obtain ⟨⟨k, t⟩, ht, rfl⟩ := List.mem_map.1 h
  rw [List.mem_mergeSort] at ht
  obtain ⟨u, hu, heq⟩ := List.mem_map.1 ht
  cases heq
  exact hu

theorem wellFormed_bandSeries (plan : BandPlan α) (tiles n : Nat) (s : Series α) (name : String)
    (values : Samples α) : (bandSeries plan tiles n s name values).WellFormed := by
  constructor
  · show 0 < max 1 (plan.seconds / (n : Int))
    omega
  · exact lastTime_eq _ _ _

theorem wellFormed_relabelByNode {nodes : List Int} {s t : Series α} (hs : s.WellFormed)
    (h : relabelByNode nodes s = .ok t) : t.WellFormed := by
  obtain ⟨parts, _, ht⟩ := except_bind_eq_ok.1 h
  cases ht
  exact hs.of_axis rfl rfl rfl rfl

theorem wellFormed_relabelByPattern {pattern replacement : String} {list result : List (Series α)}
    (h : relabelByPattern pattern replacement list = .ok result)
    (hlist : ∀ s ∈ list, s.WellFormed) : ∀ s ∈ result, s.WellFormed := by
  unfold relabelByPattern relabelThrough at h
  split at h
  · cases h
  · cases h
    intro t ht
    obtain ⟨s, hs, rfl⟩ := List.mem_map.1 ht
    exact (hlist s hs).of_axis rfl rfl rfl rfl

theorem wellFormed_ratio [Zero α] [Mul α] [Div α] [BEq α] {function : String} {multiplier : α}
    {list result : List (Series α)} (h : ratio function multiplier list = .ok result)
    (hlist : ∀ s ∈ list, s.WellFormed) : ∀ s ∈ result, s.WellFormed := by
  unfold ratio at h
  split at h
  · rename_i a b
    cases h
    intro s hs
    rw [List.mem_singleton.1 hs]
    exact (hlist a (by simp)).derive _ _
  · cases h

section
variable [Arith α]

theorem wellFormed_combine (c : Combiner) {list : List (Series α)}
    (hlist : ∀ s ∈ list, s.WellFormed) : ∀ s ∈ combine c list, s.WellFormed := by
  cases list with
  | nil => simp [combine]
  | cons first rest =>
    intro s hs
    rw [combine, List.mem_singleton] at hs
    rw [hs]
    exact (hlist first (by simp)).derive _ _

theorem wellFormed_trend {window : Window} {least : Option α} {s t : Series α}
    (h : trend window least s = some t) : t.WellFormed := by
  unfold trend at h
  extract_lets sparse at h
  cases hsparse : sparse with
  | true =>
    rw [if_pos hsparse] at h
    cases h
  | false =>
    rw [if_neg (by simp [hsparse])] at h
    obtain ⟨line, _, rfl⟩ := Option.map_eq_some_iff.1 h
    constructor
    · show 0 < max 1 s.step
      omega
    · simp only [Series.length, Series.named, List.length_map, List.length_range]
      exact lastTime_eq _ _ _

variable [NumberText α]

theorem wellFormed_percentileLevel {interpolate : Bool} {p : α} {s t : Series α}
    (hs : s.WellFormed) (h : percentileLevel interpolate p s = some t) : t.WellFormed := by
  obtain ⟨x, _, rfl⟩ := Option.map_eq_some_iff.1 h
  exact hs.derive _ _

theorem wellFormed_nPercentile {interpolate : Bool} {p : α} {list result : List (Series α)}
    (h : nPercentile interpolate p list = .ok result) (hlist : ∀ s ∈ list, s.WellFormed) :
    ∀ s ∈ result, s.WellFormed := by
  unfold nPercentile at h
  split at h
  · cases h
  · cases h
    intro t ht
    obtain ⟨s, hs, hlevel⟩ := List.mem_filterMap.1 ht
    exact wellFormed_percentileLevel (hlist s hs) hlevel

theorem wellFormed_removePercentile (interpolate : Bool) (side : Side) (p : α) {s : Series α}
    (h : s.WellFormed) : (removePercentile interpolate side p s).WellFormed := by
  refine h.withValues _ ?_
  split
  · exact length_blank _ _
  · rfl

end

namespace Function

theorem keeps_selecting {P : Series α → Prop} {β : Type} {read : Args α → Except Error β}
    {f : β → List (Series α) → List (Series α)} (h : ∀ b list, ∀ s ∈ f b list, s ∈ list) :
    Keeps P (withArgument read fun _ b list => .ok (f b list)) := by
  refine keeps_withArgument fun _ b list result hresult hlist s hs => ?_
  cases hresult
  exact hlist s (h b list s hs)

theorem keeps_wellFormed_aliasByNode {read : Args α → Except Error (List Int)} :
    Keeps Series.WellFormed
      (withArgument read fun _ nodes list => list.mapM (relabelByNode nodes) : Function α) := by
  refine keeps_withArgument fun _ nodes list result hresult hlist t ht => ?_
  obtain ⟨s, hs, hnodes⟩ := exists_mem_of_mapM_eq_ok hresult t ht
  exact wellFormed_relabelByNode (hlist s hs) hnodes

variable [Arith α]

theorem keeps_wellFormed_linregress {read : Args α → Except Error (Option α)} :
    Keeps Series.WellFormed
      (withArgument read fun scope least list => .ok (linregress scope.window least list)) := by
  refine keeps_withArgument fun scope least list result hresult _ t ht => ?_
  cases hresult
  obtain ⟨s, _, htrend⟩ := List.mem_filterMap.1 ht
  exact wellFormed_trend htrend

theorem keeps_wellFormed_combine (c : Combiner) :
    Keeps Series.WellFormed (ofLists fun list => .ok (combine c list) : Function α) := by
  refine keeps_ofLists fun list result hresult hlist => ?_
  cases hresult
  exact wellFormed_combine c hlist

variable [NumberText α]

/-- Every built-in function keeps the shape of series. -/
theorem keeps_wellFormed_standard :
    ∀ entry ∈ (standardEntries : List (String × Function α)), Keeps Series.WellFormed entry.2 := by
  simp only [standardEntries, List.forall_mem_cons]
  refine ⟨?_, ?_, ?_, ?_, ?_, ?_, ?_, ?_, ?_, ?_, ?_, ?_, ?_, ?_, ?_, ?_, ?_, ?_, ?_, ?_, ?_, ?_, ?_,
    ?_, ?_, ?_, ?_, ?_, ?_, by simp⟩
  -- Those that give some of the series, or blank and change samples in their places.
  · exact keeps_selecting fun n list s hs => mem_sortDescending (List.mem_of_mem_take hs)
  · exact keeps_ofList fun _ list hlist s hs => hlist s (mem_sortDescending hs)
  · exact keeps_selecting fun n list s hs => mem_limit hs
  · exact keeps_eachWith fun scope p s hs => wellFormed_removePercentile _ _ p hs
  · exact keeps_eachWith fun scope p s hs => wellFormed_removePercentile _ _ p hs
  · exact keeps_eachWith fun _ x s hs => hs.withValues _ (length_blank _ _)
  · exact keeps_eachWith fun _ x s hs => hs.withValues _ (length_blank _ _)
  · exact keeps_withArgument fun _ p list result hresult => wellFormed_nPercentile hresult
  · exact keeps_eachWith fun _ x s hs => hs.withValues _ (List.length_map _)
  · exact keeps_eachWith fun _ x s hs => hs.withValues _ (List.length_map _)
  -- Those that change names and hints.
  · exact keeps_eachWith fun _ name s hs => hs.of_axis rfl rfl rfl rfl
  · exact keeps_withArgument fun _ texts list result hresult => wellFormed_relabelByPattern hresult
  · exact keeps_wellFormed_aliasByNode
  · exact keeps_eachWith fun _ color s hs => hs.of_axis rfl rfl rfl rfl
  · exact keeps_eachWith fun _ alpha s hs => hs.of_axis rfl rfl rfl rfl
  · exact keeps_eachWith fun _ width s hs => hs.of_axis rfl rfl rfl rfl
  · exact keeps_ofEach fun _ s hs => hs.of_axis rfl rfl rfl rfl
  · exact keeps_ofEach fun _ s hs => hs.of_axis rfl rfl rfl rfl
  -- Groups, other functions by name, and axes of their own.
  · exact keeps_grouping
  · exact keeps_reduction fun s name hs => hs.rename name
  · exact keeps_bands wellFormed_bandSeries
  · exact keeps_wellFormed_linregress
  -- Columns, on the axis of the first series.
  · exact keeps_wellFormed_combine .sum
  · exact keeps_wellFormed_combine .average
  · exact keeps_wellFormed_combine .max
  · exact keeps_wellFormed_combine .min
  · exact keeps_wellFormed_combine .diff
  · exact keeps_ofLists fun list result hresult => wellFormed_ratio hresult
  · exact keeps_ofLists fun list result hresult => wellFormed_ratio hresult

end Function

/-- Whatever built-in functions are called in a pipeline, in whatever contexts and with whatever
arguments: from series whose axes end with their last samples come only such series, and their
times ascend to the end of the axis. -/
theorem pipeline_wellFormed [Arith α] [NumberText α] {given : List (Series α)} {outputs : List (Output α)}
    (h : Pipeline given outputs) (hgiven : ∀ s ∈ given, s.WellFormed) :
    ∀ output ∈ outputs, ∀ s ∈ output.flatten, s.WellFormed ∧ s.timestamps.Pairwise (· < ·) ∧
      (s.length ≠ 0 → s.timestamps.getLast? = some s.finish) := by
  intro output houtput s hs
  have hshape := h.keeps Function.keeps_wellFormed_standard hgiven output houtput s hs
  exact ⟨hshape, hshape.timestamps_pairwise, hshape.getLast?_timestamps⟩

def oneMinute : Series ℝ :=
  .ofValues "load" 7200 60 [1, 2]

theorem wellFormed_oneMinute : oneMinute.WellFormed :=
  ⟨by decide, lastTime_eq _ _ _⟩

theorem pipeline_oneMinute :
    let sum := combine .sum [oneMinute, oneMinute]
    Pipeline [oneMinute] [.list (sum.map onSecondAxis), .list sum] := by
  intro sum
  have hsum : Run.from ((Context.standard (Context.nearWindow 7200 10800)).call
      (.ofList "sumSeries" [.list [oneMinute, oneMinute]])) [] = (.ok (.list sum), []) := rfl
  have haxis : Run.from ((Context.standard (Context.nearWindow 7200 10800)).call
      (.ofList "secondYAxis" [.list sum])) [] = (.ok (.list (sum.map onSecondAxis)), []) := rfl
  refine .call (.call .start rfl (fun s hs => .inl ?_) hsum) rfl (fun s hs => .inr ?_) haxis
  · simpa [Args.series_ofList, Arg.series] using hs
  · exact ⟨.list sum, by simp, by simpa [Args.series_ofList, Arg.series, Output.flatten] using hs⟩

theorem pipeline_wellFormed_oneMinute :
    ∃ s ∈ (combine .sum [oneMinute, oneMinute]).map onSecondAxis, s.WellFormed ∧
      s.timestamps.Pairwise (· < ·) ∧ s.timestamps.getLast? = some s.finish := by
  have hshape := pipeline_wellFormed pipeline_oneMinute (by simpa using wellFormed_oneMinute)
    (.list ((combine .sum [oneMinute, oneMinute]).map onSecondAxis)) (by simp)
  obtain ⟨s, hs⟩ := List.exists_mem_of_length_pos
    (show 0 < ((combine .sum [oneMinute, oneMinute]).map onSecondAxis).length by decide)
  obtain ⟨hwell, htimes, hlast⟩ := hshape s hs
  refine ⟨s, hs, hwell, htimes, hlast ?_⟩
  have hs : s = onSecondAxis _ := List.mem_singleton.1 hs
  rw [hs]
  decide

end MetricSeries

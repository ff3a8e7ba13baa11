import Mathlib
import MetricSeries.Proofs.Exact
import MetricSeries.Proofs.Program

set_option autoImplicit false

namespace MetricSeries

variable {α : Type}

/-- Series that agree in all but their hints, colours and consolidation. -/
structure SameButHints (s t : Series α) : Prop where
  name_eq : s.name = t.name
  path_eq : s.path = t.path
  start_eq : s.start = t.start
  finish_eq : s.finish = t.finish
  step_eq : s.step = t.step
  values_eq : s.values = t.values

theorem columns_congr {list list' : List (Series α)}
    (h : list.map Series.values = list'.map Series.values) : columns list = columns list' := by
  have hmap : ∀ {β : Type} (f : Samples α → β),
      (list.map fun s => f s.values) = list'.map fun s => f s.values := by
    intro β f
    simpa only [List.map_map, Function.comp_def] using congrArg (List.map f) h
  have hwidth : width list = width list' := congrArg (List.foldl max 0) (hmap List.length)
  unfold columns
  rw [hwidth, hmap List.toArray]

namespace SameButHints

variable {s t : Series α}

theorem refl (s : Series α) : SameButHints s s :=
  ⟨rfl, rfl, rfl, rfl, rfl, rfl⟩

theorem rename (h : SameButHints s t) (name : String) :
    SameButHints (s.rename name) (t.rename name) :=
  { h with name_eq := rfl, path_eq := rfl }

theorem derive (h : SameButHints s t) (name : String) (values : Samples α) :
    SameButHints (s.derive name values) (t.derive name values) where
  name_eq := rfl
  path_eq := rfl
  start_eq := h.start_eq
  finish_eq := by simp only [Series.derive, h.start_eq, h.step_eq]
  step_eq := h.step_eq
  values_eq := rfl

theorem target_eq (h : SameButHints s t) : s.target = t.target := by
  unfold Series.target
  rw [h.path_eq, h.name_eq]

section
variable [NumberText α]

theorem removeValues [LT α] [DecidableLT α] (h : SameButHints s t) (side : Side) (threshold : α) :
    SameButHints (removeValues side threshold s) (removeValues side threshold t) := by
  unfold MetricSeries.removeValues
  rw [h.name_eq, h.values_eq]
  exact { h.rename _ with values_eq := rfl }

theorem removePercentile [Arith α] (h : SameButHints s t) (interpolate : Bool) (side : Side)
    (p : α) :
    SameButHints (removePercentile interpolate side p s)
      (removePercentile interpolate side p t) := by
  unfold MetricSeries.removePercentile
  rw [h.name_eq, h.values_eq]
  exact { h.rename _ with values_eq := rfl }

theorem scale [Mul α] (h : SameButHints s t) (factor : α) :
    SameButHints (scale factor s) (scale factor t) := by
  unfold MetricSeries.scale
  rw [h.name_eq, h.values_eq]
  exact { h.rename _ with values_eq := rfl }

theorem transformNull (h : SameButHints s t) (default : α) :
    SameButHints (transformNull default s) (transformNull default t) := by
  unfold MetricSeries.transformNull
  rw [h.name_eq, h.values_eq]
  exact { h.rename _ with values_eq := rfl }

theorem percentileLevel [Arith α] (h : SameButHints s t) (interpolate : Bool) (p : α) :
    Option.Rel SameButHints (percentileLevel interpolate p s)
      (percentileLevel interpolate p t) := by
  have hpoints : s.points = t.points := by
    unfold Series.points
    rw [h.start_eq, h.finish_eq, h.step_eq]
  unfold MetricSeries.percentileLevel
  rw [h.name_eq, h.values_eq, hpoints]
  cases Samples.percentile? t.values p interpolate with
  | none => exact .none
  | some x => exact .some (h.derive _ _)

end

theorem trend [Arith α] (h : SameButHints s t) (window : Window) (least : Option α) :
    Option.Rel SameButHints (trend window least s) (trend window least t) := by
  have hsparse : tooSparse least s = tooSparse least t := by
    unfold tooSparse presence Series.validCount Series.length
    rw [h.values_eq]
  refine trend_alike (L := Eq) window hsparse (h.values_eq ▸ optionRel_refl (fun _ => rfl) _) ?_
  rintro line _ rfl
  unfold trendAlong
  rw [h.name_eq, h.start_eq, h.step_eq]
  exact ⟨rfl, rfl, rfl, rfl, rfl, rfl⟩

theorem relabel (h : SameButHints s t) (name : String) :
    SameButHints (relabel name s) (relabel name t) :=
  { h with name_eq := rfl }

theorem setHint (h : SameButHints s t) (key : String) (value : Hint α) :
    SameButHints (s.setHint key value) (t.setHint key value) :=
  { h with }

theorem setColor (h : SameButHints s t) (color : String) :
    SameButHints (setColor color s) (setColor color t) :=
  { h with }

theorem bandsOf [Arith α] [NumberText α] (h : SameButHints s t) (plan : BandPlan α) (tiles : Nat)
    (call : BandCall) (history : Series α) :
    List.Forall₂ SameButHints (bandsOf plan tiles call s history)
      (bandsOf plan tiles call t history) := by
  have hband : ∀ n name values,
      SameButHints (bandSeries plan tiles n s name values)
        (bandSeries plan tiles n t name values) :=
    fun _ _ _ => ⟨rfl, rfl, rfl, rfl, rfl, rfl⟩
  unfold MetricSeries.bandsOf
  dsimp only
  rw [h.name_eq]
  split
  · exact .nil
  · exact .cons (hband _ _ _) (.cons (hband _ _ _) (.cons (hband _ _ _) .nil))

section
variable {list list' : List (Series α)} (h : List.Forall₂ SameButHints list list')
include h

theorem map_name_eq : list.map Series.name = list'.map Series.name := by
  rw [← List.forall₂_eq_eq_eq]
  exact List.rel_map (fun _ _ hst => hst.name_eq) h

theorem map_values_eq : list.map Series.values = list'.map Series.values := by
  rw [← List.forall₂_eq_eq_eq]
  exact List.rel_map (fun _ _ hst => hst.values_eq) h

section
variable [Arith α]

theorem highestMax_alike (n : Nat) :
    List.Forall₂ SameButHints (highestMax n list) (highestMax n list') := by
  refine List.forall₂_take n (sortDescending_alike (fun s t s' t' hst hst' => ?_) h)
  rw [hst.values_eq, hst'.values_eq]

theorem sortByTotal_alike : List.Forall₂ SameButHints (sortByTotal list) (sortByTotal list') := by
  refine sortDescending_alike (fun s t s' t' hst hst' => ?_) h
  rw [hst.values_eq, hst'.values_eq]

theorem linregress_alike (window : Window) (least : Option α) :
    List.Forall₂ SameButHints (linregress window least list) (linregress window least list') :=
  List.rel_filterMap (fun _ _ hst => hst.trend window least) h

theorem combine_alike (c : Combiner) :
    List.Forall₂ SameButHints (combine c list) (combine c list') := by
  have hname : callName c.function list = callName c.function list' := by
    unfold callName
    rw [map_name_eq h]
  have hcolumns := columns_congr (map_values_eq h)
  -- The axis is that of the first series; its name and samples are made of all of them.
  cases h with
  | nil => exact .nil
  | cons hfirst _ =>
    unfold combine
    dsimp only
    rw [hname, hcolumns]
    exact .cons (hfirst.derive _ _) .nil

theorem ratio_alike (function : String) (multiplier : α) :
    EndAlike (List.Forall₂ SameButHints) (ratio function multiplier list)
      (ratio function multiplier list') := by
  refine MetricSeries.ratio_alike h function multiplier fun a b a' b' hfirst hsecond => ?_
  unfold ratioOf callName
  rw [map_name_eq (.cons hfirst (.cons hsecond .nil)), hfirst.values_eq, hsecond.values_eq]
  exact hfirst.derive _ _

end

end

open MetricSeries.Function in
/-- No built-in function brings hints to bear on anything else. -/
theorem respects_standard [Arith α] [NumberText α] :
    ∀ entry ∈ (standardEntries : List (String × Function α)), Respects SameButHints entry.2 := by
  simp only [standardEntries, List.forall_mem_cons]
  refine ⟨?_, ?_, ?_, ?_, ?_, ?_, ?_, ?_, ?_, ?_, ?_, ?_, ?_, ?_, ?_, ?_, ?_, ?_, ?_, ?_, ?_, ?_, ?_,
    ?_, ?_, ?_, ?_, ?_, ?_, by simp⟩
  -- Those that give some of the series, or blank and change samples in their places.
  · refine respects_withArgument (fun _ _ h => congrFun (congrFun h.countOr_eq 1) 1) ?_
    exact fun _ n _ _ h => .ok (highestMax_alike h n)
  · exact respects_ofList fun _ _ _ h => sortByTotal_alike h
  · refine respects_withArgument (fun _ _ h => congrFun h.count?_eq 1) ?_
    exact fun _ n _ _ h => .ok (limit_alike n h)
  · refine respects_eachWith (fun _ _ h => congrFun h.number_eq 1) ?_
    exact fun scope p _ _ h => h.removePercentile scope.config.interpolate .above p
  · refine respects_eachWith (fun _ _ h => congrFun h.number_eq 1) ?_
    exact fun scope p _ _ h => h.removePercentile scope.config.interpolate .below p
  · refine respects_eachWith (fun _ _ h => congrFun h.number_eq 1) ?_
    exact fun _ x _ _ h => h.removeValues .above x
  · refine respects_eachWith (fun _ _ h => congrFun h.number_eq 1) ?_
    exact fun _ x _ _ h => h.removeValues .below x
  · refine respects_withArgument (fun _ _ h => congrFun h.number_eq 1) ?_
    exact fun scope p _ _ h => nPercentile_alike scope.config.interpolate p
      (fun _ _ hst => hst.percentileLevel scope.config.interpolate p) h
  · refine respects_eachWith (fun _ _ h => congrFun (congrFun h.numberOr_eq 1) 0) ?_
    exact fun _ x _ _ h => h.transformNull x
  · refine respects_eachWith (fun _ _ h => congrFun h.number_eq 1) ?_
    exact fun _ x _ _ h => h.scale x
  -- Those that change names and hints.
  · refine respects_eachWith (fun _ _ h => congrFun h.text_eq 1) ?_
    exact fun _ name _ _ h => h.relabel name
  · refine respects_withArgument (fun _ _ h => h.twoTexts_eq) ?_
    exact fun _ texts _ _ h => relabelByPattern_alike (fun _ _ hst => hst.name_eq)
      (fun _ _ name hst => hst.relabel name) texts.1 texts.2 h
  · refine respects_withArgument (fun _ _ h => congrFun h.intsFrom_eq 1) ?_
    exact fun _ nodes _ _ h => .mapM h fun _ _ hst =>
      relabelByNode_alike (fun _ _ h => h.name_eq) (fun _ _ name h => h.relabel name) nodes hst
  · refine respects_eachWith (fun _ _ h => congrFun h.text_eq 1) ?_
    exact fun _ color _ _ h => h.setColor color
  · refine respects_eachWith (fun _ _ h => congrFun h.number_eq 1) ?_
    exact fun _ alpha _ _ h => h.setHint "alpha" (.number alpha)
  · refine respects_eachWith (fun _ _ h => congrFun h.number_eq 1) ?_
    exact fun _ width _ _ h => h.setHint "lineWidth" (.number width)
  · exact respects_ofEach fun _ _ _ h => h.setHint "secondYAxis" (.flag true)
  · exact respects_ofEach fun _ _ _ h => h.setHint "drawAsInfinite" (.flag true)
  -- Groups, other functions by name, and axes of their own.
  · exact respects_grouping fun _ _ h => h.name_eq
  · exact respects_reduction (fun _ _ h => h.name_eq) fun _ _ name h => h.rename name
  · refine respects_bands (fun _ _ h => h.target_eq) ?_
    exact fun plan tiles call _ _ history h => h.bandsOf plan tiles call history
  · refine respects_withArgument (fun _ _ h => congrFun h.number?_eq 1) ?_
    exact fun scope least _ _ h => .ok (linregress_alike h scope.window least)
  -- Columns, on the axis of the first series.
  · exact respects_ofLists fun _ _ h => .ok (combine_alike h .sum)
  · exact respects_ofLists fun _ _ h => .ok (combine_alike h .average)
  · exact respects_ofLists fun _ _ h => .ok (combine_alike h .max)
  · exact respects_ofLists fun _ _ h => .ok (combine_alike h .min)
  · exact respects_ofLists fun _ _ h => .ok (combine_alike h .diff)
  · exact respects_ofLists fun _ _ h => ratio_alike h _ _
  · exact respects_ofLists fun _ _ h => ratio_alike h _ _

end SameButHints

/-- A program of built-in functions, given series that differ in hints, colours and consolidation
alone: it fails at the same call with the same error, or not at all, asks for the same evaluations
in the same order, and all that it gives differs in no more than that. -/
theorem runStages_sameButHints [Arith α] [NumberText α] {stages : List (Stage α)}
    (hstages : ∀ stage ∈ stages, stage.context.registry = .standard)
    {given given' : List (Series α)} (hgiven : List.Forall₂ SameButHints given given')
    (log : List Fetch) :
    Trace.Alike SameButHints (runStages given stages [] log) (runStages given' stages [] log) := by
  refine runStages_alike hgiven .nil SameButHints.refl (fun stage hstage a b hargs => ?_) log
  refine Context.call_respects (fun entry hentry => ?_) hargs
  rw [hstages stage hstage] at hentry
  exact SameButHints.respects_standard entry (Registry.mem_entries_ofList hentry)

noncomputable def twoReads : List (Series ℝ) :=
  [.named "a.x" 0 1 1 [some 1], .named "a.y" 0 1 1 [none]]

noncomputable def twoPaintedReads : List (Series ℝ) :=
  twoReads.map fun s => { asInfinite (setColor "red" s) with consolidation := .max }

noncomputable def sumPerHost : List (Stage ℝ) :=
  let context := Context.standard (Context.nearWindow 0 1)
  [⟨context, "mapSeries", [.list [.given 0, .given 1], .written (.int 0)]⟩,
    ⟨context, "reduceSeries", [.output 0, .written (.text "sumSeries"), .written (.int 1),
      .written (.text "x"), .written (.text "y")]⟩,
    ⟨context, "secondYAxis", [.output 1]⟩]

/-- Sums per host of painted series are those of plain ones, at each of three calls. -/
theorem runStages_sameButHints_sumPerHost :
    (runStages twoReads sumPerHost [] []).outputs.length = 3 ∧
      Trace.Alike SameButHints (runStages twoReads sumPerHost [] [])
        (runStages twoPaintedReads sumPerHost [] []) := by
  have hpainted : List.Forall₂ SameButHints twoReads twoPaintedReads := by
    refine List.forall₂_map_right_iff.2 (List.forall₂_same.2 fun s _ => ?_)
    exact ⟨rfl, rfl, rfl, rfl, rfl, rfl⟩
  exact ⟨rfl, runStages_sameButHints (by simp [sumPerHost, Context.standard]) hpainted []⟩

end MetricSeries

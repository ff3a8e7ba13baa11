import Mathlib
import MetricSeries.Proofs.Program
import MetricSeries.Proofs.Scaling

set_option autoImplicit false

namespace MetricSeries

/-- The same series, measured in another unit. -/
noncomputable def Series.times (k : ℝ) (s : Series ℝ) : Series ℝ :=
  { s with values := s.values.times k }

/-- The second series is the first one, measured in another unit. -/
def Times (k : ℝ) (s t : Series ℝ) : Prop :=
  s.times k = t

def TimesButName (k : ℝ) (s t : Series ℝ) : Prop :=
  ∃ name path, t = { s.times k with name := name, path := path }

theorem forall₂_times_iff {k : ℝ} {list list' : List (Series ℝ)} :
    List.Forall₂ (Times k) list list' ↔ list.map (Series.times k) = list' := by
  rw [← List.forall₂_eq_eq_eq, List.forall₂_map_left_iff]
  exact Iff.rfl

section
variable (k : ℝ)

theorem sampleAt_times (s : Series ℝ) (i : Nat) :
    sampleAt (s.times k) i = (sampleAt s i).map (k * ·) := by
  unfold sampleAt Series.times Samples.times
  rw [List.getElem?_map]
  rcases s.values[i]? with _ | _ | x <;> rfl

theorem columns_times (list : List (Series ℝ)) :
    columns (list.map (Series.times k)) = (columns list).map (List.map (k * ·)) := by
  have hwidth : width (list.map (Series.times k)) = width list := by
    unfold width
    rw [List.map_map]
    exact congrArg (List.foldl max 0) (List.map_congr_left fun s _ => s.values.length_times k)
  rw [columns_eq_map_column, columns_eq_map_column, hwidth, List.map_map]
  refine List.map_congr_left fun i _ => ?_
  unfold column
  rw [Function.comp_apply, List.filterMap_map, List.map_filterMap]
  exact congrArg (List.filterMap · list) (funext fun s => sampleAt_times k s i)

variable {k}

theorem fold?_mul (hk : 0 < k) (c : Combiner) (xs : List ℝ) :
    c.fold? (xs.map (k * ·)) = (c.fold? xs).map (k * ·) := by
  cases xs with
  | nil => rfl
  | cons x xs =>
    unfold Combiner.fold?
    rw [List.map_cons, Option.map_some, Option.some.injEq]
    cases c with
    | sum => exact total_map_mul k (x :: xs)
    | average =>
      have htotal := total_map_mul k (x :: xs)
      rw [List.map_cons] at htotal
      dsimp only [Combiner.fold]
      rw [htotal, List.length_map, mul_div_assoc]
    | max => exact foldl_greater_mul hk x xs
    | min => exact foldl_lesser_mul hk x xs
    | diff =>
      dsimp only [Combiner.fold]
      rw [total_map_mul, mul_sub]

theorem callName_times (function : String) (list : List (Series ℝ)) :
    callName function (list.map (Series.times k)) = callName function list := by
  unfold callName
  rw [List.map_map]
  rfl

theorem derive_times (s : Series ℝ) (name : String) (values : Samples ℝ) :
    (s.times k).derive name (values.times k) = (s.derive name values).times k := by
  unfold Series.derive Series.times
  rw [Samples.length_times]

theorem combine_times (hk : 0 < k) (c : Combiner) (list : List (Series ℝ)) :
    combine c (list.map (Series.times k)) = (combine c list).map (Series.times k) := by
  cases list with
  | nil => rfl
  | cons first rest =>
    have hname := callName_times (k := k) c.function (first :: rest)
    have hcolumns := columns_times k (first :: rest)
    have hvalues : ((columns (first :: rest)).map (List.map (k * ·))).map c.fold? =
        Samples.times k ((columns (first :: rest)).map c.fold?) := by
      unfold Samples.times
      rw [List.map_map, List.map_map]
      exact List.map_congr_left fun xs _ => fold?_mul hk c xs
    rw [List.map_cons] at *
    unfold combine
    dsimp only
    rw [hname, hcolumns, hvalues, derive_times]
    rfl

theorem alongside_times (xs ys : Samples ℝ) :
    alongside (xs.times k) (ys.times k) =
      (alongside xs ys).map fun p => (p.1.map (k * ·), p.2.map (k * ·)) := by
  unfold Samples.times
  induction xs generalizing ys with
  | nil => simp [alongside]
  | cons x xs ih =>
    cases ys with
    | nil => simp [alongside]
    | cons y ys => simp [alongside, ih]

theorem ratioOf_times (hk : 0 < k) (function : String) (multiplier : ℝ) (a b : Series ℝ) :
    ratioOf function multiplier (a.times k) (b.times k) = ratioOf function multiplier a b := by
  have hname := callName_times (k := k) function [a, b]
  have hvalues : (alongside (a.values.times k) (b.values.times k)).map
      (fun p => quotient multiplier p.1 p.2) =
      (alongside a.values b.values).map fun p => quotient multiplier p.1 p.2 := by
    rw [alongside_times, List.map_map]
    exact List.map_congr_left fun p _ => quotient_mul hk multiplier p.1 p.2
  unfold ratioOf
  rw [← hname]
  exact congrArg ((a.times k).derive _) hvalues

end

section
variable [NumberText ℝ] {k : ℝ} (hk : 0 < k)
include hk

theorem removeValues_times (side : Side) (threshold : ℝ) (s : Series ℝ) :
    TimesButName k (removeValues side threshold s)
      (removeValues side (k * threshold) (s.times k)) := by
  have hblank := Samples.blank_times hk side threshold s.values
  let name := applied side.valueFunction s.name (k * threshold)
  refine ⟨name, name, ?_⟩
  unfold removeValues Series.times
  rw [← hblank]
  rfl

theorem removePercentile_times (interpolate : Bool) (side : Side) (p : ℝ) (s : Series ℝ) :
    removePercentile interpolate side p (s.times k) =
      (removePercentile interpolate side p s).times k := by
  have hpercentile := Samples.percentile?_times hk s.values p interpolate
  unfold removePercentile Series.times
  rw [hpercentile]
  cases Samples.percentile? s.values p interpolate with
  | none => rfl
  | some threshold =>
    dsimp only [Option.map_some]
    rw [Samples.blank_times hk]
    rfl

theorem percentileLevel_times (interpolate : Bool) (p : ℝ) (s : Series ℝ) :
    percentileLevel interpolate p (s.times k) =
      (percentileLevel interpolate p s).map (Series.times k) := by
  have hpercentile := Samples.percentile?_times hk s.values p interpolate
  have hlevel : ∀ x : ℝ, List.replicate s.points (some (k * x)) =
      Samples.times k (List.replicate s.points (some x)) := by
    intro x
    simp [Samples.times]
  unfold percentileLevel
  rw [show (s.times k).values = s.values.times k from rfl, hpercentile, Option.map_map,
    Option.map_map]
  refine congrArg (Option.map · _) (funext fun x => ?_)
  exact (congrArg ((s.times k).derive _) (hlevel x)).trans (derive_times s _ _)

end

section
variable {k : ℝ}

theorem presence_times (s : Series ℝ) : presence (s.times k) = presence s := by
  have hcount : (s.times k).validCount = s.validCount := by
    unfold Series.validCount Series.times Samples.times
    rw [List.countP_map]
    exact congrArg (List.countP · s.values) (funext fun x => Option.isSome_map)
  have hlength : (s.times k).length = s.length := s.values.length_times k
  unfold presence
  rw [hcount, hlength]

theorem trendAlong_times (window : Window) (s : Series ℝ) (line : Line ℝ) :
    trendAlong window (s.times k) (line.times k) = (trendAlong window s line).times k := by
  unfold trendAlong Series.times Samples.times Series.named
  simp only [List.map_map, Function.comp_def, Option.map_some, Line.value_times]

theorem trend_times (window : Window) (least : Option ℝ) (s : Series ℝ) :
    trend window least (s.times k) = (trend window least s).map (Series.times k) := by
  have hsparse : tooSparse least (s.times k) = tooSparse least s := by
    unfold tooSparse
    rw [presence_times]
  have hline : Line.fit? (indexed (s.times k).values) =
      (Line.fit? (indexed s.values)).map (Line.times k) := by
    rw [← Line.fit?_times, ← indexed_times]
    rfl
  rw [trend_eq, trend_eq, hsparse, hline]
  split
  · rfl
  · rw [Option.map_map, Option.map_map]
    exact congrArg (Option.map · _) (funext fun line => trendAlong_times window s line)

/-- The same bands, measured in another unit. -/
noncomputable def Bands.times (k : ℝ) (bands : Bands ℝ) : Bands ℝ :=
  ⟨bands.mean.times k, bands.upper.times k, bands.lower.times k⟩

theorem ofSeason_times (factors : BandFactors ℝ) (season : Samples.Season ℝ) :
    Bands.ofSeason factors (season.times k) = (Bands.ofSeason factors season).times k := by
  unfold Bands.ofSeason Bands.times Samples.Season.times Samples.times
  simp only [List.zipWith_map, List.map_zipWith, List.map_map]
  congr 1
  · congr 1
    funext m s
    simp only [Option.map_some, Option.some.injEq]
    ring
  · congr 1
    funext m s
    simp only [Option.map_some, Option.some.injEq]
    ring

theorem ofHistory_times (hk : 0 ≤ k) (repeats n : Nat) (factors : BandFactors ℝ)
    (history : Samples ℝ) :
    Bands.ofHistory repeats n factors (history.times k) =
      (Bands.ofHistory repeats n factors history).times k := by
  have htake : (history.times k).take (n * repeats) =
      Samples.times k (history.take (n * repeats)) :=
    List.map_take.symm
  unfold Bands.ofHistory
  rw [htake, Samples.fill_times, Samples.mapM_id_times]
  cases (Samples.fill (history.take (n * repeats))).mapM id with
  | none => simp [Bands.absent, Bands.times, Samples.times]
  | some values =>
    dsimp only [Option.map_some]
    rw [Samples.ofValues_mul hk, ofSeason_times]

theorem bandSeries_times (plan : BandPlan ℝ) (tiles n : Nat) (s : Series ℝ) (name : String)
    (values : Samples ℝ) :
    bandSeries plan tiles n (s.times k) name (values.times k) =
      (bandSeries plan tiles n s name values).times k := by
  have htile : tile tiles (values.times k) = (tile tiles values).times k := by
    unfold tile Samples.times
    rw [List.map_flatten, List.map_replicate]
  unfold bandSeries
  rw [htile]
  dsimp only
  rw [Samples.length_times]
  rfl

theorem bandsOf_times [NumberText ℝ] (hk : 0 ≤ k) (plan : BandPlan ℝ) (tiles : Nat)
    (call : BandCall) (s history : Series ℝ) :
    bandsOf plan tiles call (s.times k) (history.times k) =
      (bandsOf plan tiles call s history).map (Series.times k) := by
  have hlength : (history.times k).length = history.length := history.values.length_times k
  have hhistory : ∀ n, Bands.ofHistory call.repeats n plan.factors (history.times k).values =
      (Bands.ofHistory call.repeats n plan.factors history.values).times k :=
    fun n => ofHistory_times hk call.repeats n plan.factors history.values
  unfold bandsOf
  rw [hlength]
  dsimp only
  by_cases hn : history.length / call.repeats = 0
  · rw [if_pos hn, if_pos hn]
    rfl
  · rw [if_neg hn, if_neg hn, hhistory, List.map_cons, List.map_cons, List.map_cons,
      ← bandSeries_times, ← bandSeries_times, ← bandSeries_times]
    rfl

end

/-- The functions whose results have the unit of what they are given. -/
def unitNames : List String :=
  ["sumSeries", "averageSeries", "maxSeries", "minSeries", "diffSeries", "nPercentile",
    "linregress", "sixSigma", "highestMax", "sortByTotal", "removeAbovePercentile",
    "removeBelowPercentile"]

/-- Calls on the same series in another unit, and with a threshold in that unit. -/
structure ThresholdTimes (k : ℝ) (a b : Args ℝ) : Prop where
  function_eq : a.function = b.function
  list : EndAlike (List.Forall₂ (Times k)) (a.takeList 0).1 (b.takeList 0).1
  threshold : EndAlike (fun x y => k * x = y) (a.number 1) (b.number 1)

theorem optionRel_times {k : ℝ} {x y : Option (Series ℝ)} (h : x.map (Series.times k) = y) :
    Option.Rel (Times k) x y := by
  subst h
  cases x with
  | none => exact .none
  | some s => exact .some rfl

namespace Function

/-- Given the same series in another unit, a function gives results that belong together. -/
def Scales (k : ℝ) (S : Series ℝ → Series ℝ → Prop) (f : Function ℝ) : Prop :=
  ∀ scope scope', Scope.Alike (Times k) scope scope' → ∀ a b, Args.Alike (Times k) a b →
    Run.InStep (Output.Alike S) (f scope a) (f scope' b)

section
variable {k : ℝ} (hk : 0 < k)
include hk

theorem scales_combine (c : Combiner) :
    Scales k (Times k) (ofLists fun list => .ok (combine c list)) := by
  intro scope scope' _ a b hargs
  refine inStep_ofLists hargs fun list list' hlist => .ok ?_
  rw [forall₂_times_iff] at hlist ⊢
  rw [← hlist, combine_times hk]

theorem scales_ratio (function : String) (multiplier : ℝ) :
    Scales k Eq (ofLists (ratio function multiplier)) := by
  intro scope scope' _ a b hargs
  refine inStep_ofLists hargs fun list list' hlist => ?_
  refine ratio_alike hlist function multiplier ?_
  rintro s t _ _ rfl rfl
  exact (ratioOf_times hk function multiplier s t).symm

theorem scales_sortDescending {key : Series ℝ → Option ℝ}
    (hkey : ∀ s, key (s.times k) = (key s).map (k * ·)) {list list' : List (Series ℝ)}
    (h : List.Forall₂ (Times k) list list') :
    List.Forall₂ (Times k) (sortDescending key list) (sortDescending key list') := by
  refine sortDescending_alike ?_ h
  rintro s _ s' _ rfl rfl
  rw [hkey, hkey, keyBefore_mul hk]

variable [NumberText ℝ]

theorem scales_removePercentile (side : Side) :
    Scales k (Times k)
      (eachWith (·.number 1) fun scope => removePercentile scope.config.interpolate side) := by
  intro scope scope' hscope a b hargs
  refine inStep_eachWith (hargs.takeList 0).1 (.of_eq (congrFun hargs.number_eq 1) fun _ => rfl) ?_
  rintro p _ s _ rfl rfl
  rw [← hscope.config_eq]
  exact (removePercentile_times hk scope.config.interpolate side p s).symm

theorem scales_standard {name : String} {f : Function ℝ} (hname : name ∈ unitNames)
    (hf : (name, f) ∈ standardEntries) : Scales k (Times k) f := by
  simp only [unitNames, List.mem_cons, List.not_mem_nil, or_false] at hname
  rcases hname with rfl | rfl | rfl | rfl | rfl | rfl | rfl | rfl | rfl | rfl | rfl | rfl
  · obtain rfl : f = .ofLists fun list => .ok (combine .sum list) := by
      simpa [standardEntries] using hf
    exact scales_combine hk .sum
  · obtain rfl : f = .ofLists fun list => .ok (combine .average list) := by
      simpa [standardEntries] using hf
    exact scales_combine hk .average
  · obtain rfl : f = .ofLists fun list => .ok (combine .max list) := by
      simpa [standardEntries] using hf
    exact scales_combine hk .max
  · obtain rfl : f = .ofLists fun list => .ok (combine .min list) := by
      simpa [standardEntries] using hf
    exact scales_combine hk .min
  · obtain rfl : f = .ofLists fun list => .ok (combine .diff list) := by
      simpa [standardEntries] using hf
    exact scales_combine hk .diff
  · obtain rfl : f = .withArgument (·.number 1) fun scope =>
        nPercentile scope.config.interpolate := by
      simpa [standardEntries] using hf
    intro scope scope' hscope a b hargs
    refine inStep_withArgument (hargs.takeList 0).1
      (.of_eq (congrFun hargs.number_eq 1) fun _ => rfl) ?_
    rintro p _ list list' rfl hlist
    rw [← hscope.config_eq]
    refine nPercentile_alike scope.config.interpolate p ?_ hlist
    rintro s _ rfl
    exact optionRel_times (percentileLevel_times hk scope.config.interpolate p s).symm
  · obtain rfl : f = .withArgument (·.number? 1) fun scope least list =>
        .ok (linregress scope.window least list) := by
      simpa [standardEntries] using hf
    intro scope scope' hscope a b hargs
    refine inStep_withArgument (hargs.takeList 0).1
      (.of_eq (congrFun hargs.number?_eq 1) fun _ => rfl) ?_
    rintro least _ list list' rfl hlist
    rw [← hscope.window_eq]
    refine .ok (List.rel_filterMap ?_ hlist)
    rintro s _ rfl
    exact optionRel_times (trend_times scope.window least s).symm
  · obtain rfl : f = .bands := by simpa [standardEntries] using hf
    intro scope scope' hscope a b hargs
    refine inStep_bands hscope hargs ?_ ?_
    · rintro s _ rfl
      rfl
    · rintro plan tiles call s _ history _ rfl rfl
      exact forall₂_times_iff.2 (bandsOf_times hk.le plan tiles call s history).symm
  · obtain rfl : f = .withArgument (·.countOr 1 1) fun _ n list => .ok (highestMax n list) := by
      simpa [standardEntries] using hf
    intro scope scope' hscope a b hargs
    refine inStep_withArgument (hargs.takeList 0).1
      (.of_eq (congrFun (congrFun hargs.countOr_eq 1) 1) fun _ => rfl) ?_
    rintro n _ list list' rfl hlist
    refine .ok (List.forall₂_take n ?_)
    exact scales_sortDescending hk (fun s => Samples.max?_times hk s.values) hlist
  · obtain rfl : f = .ofList fun _ => sortByTotal := by simpa [standardEntries] using hf
    intro scope scope' hscope a b hargs
    refine inStep_ofList hargs fun list list' hlist => ?_
    exact scales_sortDescending hk (fun s => Samples.sum?_times k s.values) hlist
  · obtain rfl : f = .eachWith (·.number 1) fun scope =>
        removePercentile scope.config.interpolate .above := by
      simpa [standardEntries] using hf
    exact scales_removePercentile hk .above
  · obtain rfl : f = .eachWith (·.number 1) fun scope =>
        removePercentile scope.config.interpolate .below := by
      simpa [standardEntries] using hf
    exact scales_removePercentile hk .below

end

end Function

/-- In a positive multiple of their unit, with all histories in it too: sums, means, extremes,
differences, percentiles, trends and bands go along, ratios and percents stay, series are put into
the same order, and the same samples are blanked, where the threshold is a value if it goes along as
well.  The same series are kept and the same are passed over. -/
theorem call_times [NumberText ℝ] {k : ℝ} (hk : 0 < k) {c c' : Context ℝ}
    (hc : c.registry = .standard) (hc' : c'.registry = .standard)
    (h : Context.Alike (Times k) c c') :
    (∀ a b, Args.Alike (Times k) a b →
      (a.function ∈ unitNames →
        Run.InStep (Output.Alike (Times k)) (c.call a) (c'.call b)) ∧
      (a.function ∈ ["divideSeries", "asPercent"] →
        Run.InStep (Output.Alike Eq) (c.call a) (c'.call b))) ∧
    (∀ a b, ThresholdTimes k a b → a.function ∈ ["removeAboveValue", "removeBelowValue"] →
      Run.InStep (Output.Alike (TimesButName k)) (c.call a) (c'.call b)) ∧
    (∀ s interpolate p, percentileLevel interpolate p (s.times k) =
      (percentileLevel interpolate p s).map (Series.times k)) ∧
    (∀ s window least,
      trend window least (s.times k) = (trend window least s).map (Series.times k)) ∧
    ∀ call list depth, Run.InStep (List.Forall₂ (List.Forall₂ (Times k)))
      (bandParts (c.scope depth) call list)
      (bandParts (c'.scope depth) call (list.map (Series.times k))) := by
  have hscope := h.toScope Context.maxDepth
  refine ⟨fun a b hargs => ⟨fun hname => ?_, fun hname => ?_⟩, fun a b hargs hname => ?_,
    fun s interpolate p => percentileLevel_times hk interpolate p s,
    fun s window least => trend_times window least s, fun call list depth => ?_⟩
  · refine Context.inStep_call hc hc' hargs.function_eq fun f hf => ?_
    exact Function.scales_standard hk hname hf _ _ hscope a b hargs
  · refine Context.inStep_call hc hc' hargs.function_eq fun f hf => ?_
    simp only [List.mem_cons, List.not_mem_nil, or_false] at hname
    rcases hname with hname | hname
    · obtain rfl : f = .ofLists divideSeries := by simpa [standardEntries, hname] using hf
      exact Function.scales_ratio hk _ _ _ _ hscope a b hargs
    · obtain rfl : f = .ofLists asPercent := by simpa [standardEntries, hname] using hf
      exact Function.scales_ratio hk _ _ _ _ hscope a b hargs
  · refine Context.inStep_call hc hc' hargs.function_eq fun f hf => ?_
    have hremoved : ∀ side x y s t, k * x = y → Times k s t →
        TimesButName k (removeValues side x s) (removeValues side y t) := by
      rintro side x _ s _ rfl rfl
      exact removeValues_times hk side x s
    simp only [List.mem_cons, List.not_mem_nil, or_false] at hname
    rcases hname with hname | hname
    · obtain rfl : f = .eachWith (·.number 1) fun _ => removeValues .above := by
        simpa [standardEntries, hname] using hf
      exact Function.inStep_eachWith hargs.list hargs.threshold (hremoved .above)
    · obtain rfl : f = .eachWith (·.number 1) fun _ => removeValues .below := by
        simpa [standardEntries, hname] using hf
      exact Function.inStep_eachWith hargs.list hargs.threshold (hremoved .below)
  · refine inStep_bandParts (h.toScope depth) call (forall₂_times_iff.2 rfl) ?_ ?_
    · rintro s _ rfl
      rfl
    · rintro plan tiles s _ history _ rfl rfl
      exact forall₂_times_iff.2 (bandsOf_times hk.le plan tiles call s history).symm

noncomputable def constantHistory (values : List ℝ) : Context ℝ :=
  { Context.standard (Context.nearWindow 7200 10800) with
    evaluator := some fun _ _ target => .ok [.ofValues target 0 60 values] }

/-- Bands of doubled samples by a doubled history, and the doubled samples above a doubled
threshold. -/
theorem call_times_two :
    (0 : ℝ) < 2 ∧ Context.Alike (Times 2) (constantHistory [1, 2, 3]) (constantHistory [2, 4, 6]) ∧
    Run.InStep (Output.Alike (Times 2))
      ((constantHistory [1, 2, 3]).call
        (.ofList "sixSigma" [.list [.ofValues "web" 7200 60 [4, 5]], .text "7d", .int 1]))
      ((constantHistory [2, 4, 6]).call
        (.ofList "sixSigma" [.list [.ofValues "web" 7200 60 [8, 10]], .text "7d", .int 1])) ∧
    Run.InStep (Output.Alike (TimesButName 2))
      ((constantHistory [1, 2, 3]).call
        (.ofList "removeAboveValue" [.list [.ofValues "web" 7200 60 [4, 5]], .number 4]))
      ((constantHistory [2, 4, 6]).call
        (.ofList "removeAboveValue" [.list [.ofValues "web" 7200 60 [8, 10]], .int 8])) := by
  have htwo : (0 : ℝ) < 2 := by norm_num
  have hseries : Times 2 (.ofValues "web" 7200 60 [4, 5]) (.ofValues "web" 7200 60 [8, 10]) := by
    unfold Times Series.times Samples.times
    norm_num [Series.ofValues, Series.named]
  have hhistory : ∀ target, Times 2 (.ofValues target 0 60 [1, 2, 3])
      (.ofValues target 0 60 [2, 4, 6]) := by
    intro target
    unfold Times Series.times Samples.times
    norm_num [Series.ofValues, Series.named]
  have hlist := List.Forall₂.cons hseries .nil
  have halike : Context.Alike (Times 2) (constantHistory [1, 2, 3]) (constantHistory [2, 4, 6]) :=
    ⟨rfl, rfl, .some fun _ _ target => .ok (.cons (hhistory target) .nil)⟩
  obtain ⟨hcalls, hremovals, -⟩ := call_times htwo rfl rfl halike
  refine ⟨htwo, halike, ?_, ?_⟩
  · refine (hcalls _ _ ?_).1 (by simp [unitNames, Args.ofList])
    exact .ofList _ (.cons (.list hlist) (.cons (.text _) (.cons (.int _) .nil)))
  · refine hremovals _ _ ⟨rfl, .ok hlist, .ok ?_⟩ (by simp [Args.ofList])
    norm_num

end MetricSeries

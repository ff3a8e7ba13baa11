import MetricSeries.Call.Standard
import MetricSeries.Proofs.BandRun
import MetricSeries.Proofs.Groups

set_option autoImplicit false

namespace MetricSeries

variable {α : Type}

/-- The series that an argument holds, in a list or in groups. -/
def Arg.series : Arg α → List (Series α)
  | .list all => all
  | .groups all => all.flatten
  | .int _ | .number _ | .text _ | .flag _ => []

namespace Args

/-- The series that are left at all positions. -/
def series (args : Args α) : List (Series α) :=
  args.slots.flatMap fun slot => (slot.map Arg.series).getD []

theorem mem_series {args : Args α} {s : Series α} :
    s ∈ args.series ↔ ∃ arg, some arg ∈ args.slots ∧ s ∈ arg.series := by
  unfold series
  rw [List.mem_flatMap]
  constructor
  · rintro ⟨slot, hslot, hs⟩
    cases slot with
    | none => simp at hs
    | some arg => exact ⟨arg, hslot, hs⟩
  · rintro ⟨arg, harg, hs⟩
    exact ⟨some arg, harg, hs⟩

theorem series_ofList (function : String) (list : List (Arg α)) :
    (ofList function list).series = list.flatMap Arg.series := by
  simp [series, ofList, List.flatMap_map]

theorem series_subset_of_peek {args : Args α} {position : Nat} {arg : Arg α}
    (h : args.peek position = some arg) : arg.series ⊆ args.series := by
  unfold peek at h
  have hslot : args.slots[position]? = some (some arg) := by
    cases hget : args.slots[position]? with
    | none => simp [hget] at h
    | some slot =>
      rw [hget] at h
      simpa using h
  intro s hs
  exact mem_series.2 ⟨arg, List.mem_of_getElem? hslot, hs⟩

theorem series_clear_subset (args : Args α) (position : Nat) :
    (args.clear position).series ⊆ args.series := by
  intro s hs
  obtain ⟨arg, harg, hs⟩ := mem_series.1 hs
  refine mem_series.2 ⟨arg, ?_, hs⟩
  rcases List.mem_or_eq_of_mem_set harg with harg | hnone
  · exact harg
  · cases hnone

theorem takeList_left_subset (args : Args α) (position : Nat) :
    (args.takeList position).2.series ⊆ args.series := by
  unfold takeList
  split
  · exact args.series_clear_subset position
  · exact List.Subset.refl _
  · exact List.Subset.refl _

theorem takeList_subset {args : Args α} {position : Nat} {list : List (Series α)}
    (h : (args.takeList position).1 = .ok list) : list ⊆ args.series := by
  unfold takeList at h
  split at h
  · rename_i series hpeek
    cases h
    exact series_subset_of_peek hpeek
  · cases h
  · cases h

theorem takeLists_subset {args : Args α} {positions : List Nat} {list : List (Series α)}
    (h : (args.takeLists positions).1 = .ok list) : list ⊆ args.series := by
  induction positions generalizing args list with
  | nil =>
    cases h
    exact List.nil_subset _
  | cons position positions ih =>
    have hleft := args.takeList_left_subset position
    unfold takeLists at h
    rcases htake : args.takeList position with ⟨taken, left⟩
    rw [htake] at h hleft
    cases taken with
    | error e => cases h
    | ok series =>
      dsimp only at h
      rcases hmore : left.takeLists positions with ⟨more, rest⟩
      rw [hmore] at h
      cases more with
      | error e => cases h
      | ok more =>
        cases h
        refine List.append_subset.2 ⟨?_, ?_⟩
        · exact takeList_subset (by rw [htake])
        · exact List.Subset.trans (ih (by rw [hmore])) hleft

theorem takeGroups_subset {args : Args α} {position : Nat} {groups : List (List (Series α))}
    (h : (args.takeGroups position).1 = .ok groups) : groups.flatten ⊆ args.series := by
  unfold takeGroups at h
  split at h
  · rename_i series hpeek
    cases h
    exact series_subset_of_peek hpeek
  · rename_i series hpeek
    cases h
    rw [List.flatten_singleton]
    exact series_subset_of_peek hpeek
  · cases h
  · cases h

variable {P : Series α → Prop} {args : Args α}

theorem takeList_yields (h : ∀ s ∈ args.series, P s) (position : Nat) :
    Run.Yields (liftExcept (args.takeList position).1) fun list => ∀ s ∈ list, P s :=
  .lift fun _ hlist s hs => h s (takeList_subset hlist hs)

theorem takeListsFrom_yields (h : ∀ s ∈ args.series, P s) (position : Nat) :
    Run.Yields (liftExcept (args.takeListsFrom position).1) fun list => ∀ s ∈ list, P s :=
  .lift fun _ hlist s hs => h s (takeLists_subset hlist hs)

theorem takeGroups_yields (h : ∀ s ∈ args.series, P s) (position : Nat) :
    Run.Yields (liftExcept (args.takeGroups position).1) fun lists => ∀ s ∈ lists.flatten, P s :=
  .lift fun _ hlists s hs => h s (takeGroups_subset hlists hs)

end Args

/-- Every function known by name gives only series with the property for such series. -/
def Scope.Keeps (P : Series α → Prop) (scope : Scope α) : Prop :=
  ∀ name run, scope.lookup name = some run → ∀ args : Args α, (∀ s ∈ args.series, P s) →
    Run.Yields (run args) fun output => ∀ s ∈ output.flatten, P s

namespace Function

/-- The same of a function, in every scope that knows only such functions. -/
def Keeps (P : Series α → Prop) (f : Function α) : Prop :=
  ∀ scope : Scope α, scope.Keeps P → ∀ args : Args α, (∀ s ∈ args.series, P s) →
    Run.Yields (f scope args) fun output => ∀ s ∈ output.flatten, P s

variable {P : Series α → Prop}

theorem keeps_ofList {f : Scope α → List (Series α) → List (Series α)}
    (h : ∀ scope list, (∀ s ∈ list, P s) → ∀ s ∈ f scope list, P s) : Keeps P (ofList f) := by
  intro scope _ args hargs
  refine (args.takeList_yields hargs 0).bind fun list hlist => ?_
  exact .pure (h scope list hlist)

theorem keeps_ofEach {f : Scope α → Series α → Series α} (h : ∀ scope s, P s → P (f scope s)) :
    Keeps P (ofEach f) := by
  refine keeps_ofList fun scope list hlist t ht => ?_
  obtain ⟨s, hs, rfl⟩ := List.mem_map.1 ht
  exact h scope s (hlist s hs)

theorem keeps_ofLists {f : List (Series α) → Except Error (List (Series α))}
    (h : ∀ list result, f list = .ok result → (∀ s ∈ list, P s) → ∀ s ∈ result, P s) :
    Keeps P (ofLists f) := by
  intro scope _ args hargs
  refine (args.takeListsFrom_yields hargs 0).bind fun list hlist => ?_
  have hresult : Run.Yields (liftExcept (f list)) fun result => ∀ s ∈ result, P s :=
    .lift fun result hf => h list result hf hlist
  exact hresult.bind fun result hall => .pure hall

theorem keeps_withArgument {β : Type} {read : Args α → Except Error β}
    {f : Scope α → β → List (Series α) → Except Error (List (Series α))}
    (h : ∀ scope b list result, f scope b list = .ok result → (∀ s ∈ list, P s) →
      ∀ s ∈ result, P s) : Keeps P (withArgument read f) := by
  intro scope _ args hargs
  refine Run.Yields.any.bind fun b _ => ?_
  refine (args.takeList_yields hargs 0).bind fun list hlist => ?_
  have hresult : Run.Yields (liftExcept (f scope b list)) fun result => ∀ s ∈ result, P s :=
    .lift fun result hf => h scope b list result hf hlist
  exact hresult.bind fun result hall => .pure hall

theorem keeps_eachWith {β : Type} {read : Args α → Except Error β}
    {f : Scope α → β → Series α → Series α} (h : ∀ scope b s, P s → P (f scope b s)) :
    Keeps P (eachWith read f) := by
  refine keeps_withArgument fun scope b list result hresult hlist t ht => ?_
  cases hresult
  obtain ⟨s, hs, rfl⟩ := List.mem_map.1 ht
  exact h scope b s (hlist s hs)

theorem keeps_grouping [Arith α] : Keeps P (grouping : Function α) := by
  intro scope _ args hargs
  refine Run.Yields.any.bind fun node _ => ?_
  refine (args.takeList_yields hargs 0).bind fun list hlist => ?_
  have hgroups : Run.Yields (liftExcept (mapSeries node list)) fun groups =>
      ∀ s ∈ groups.flatten, P s :=
    .lift fun groups hmap s hs => hlist s ((mapSeries_perm hmap).mem_iff.1 hs)
  exact hgroups.bind fun groups hall => .pure hall

theorem reduces_keeps {run : Args α → Run (Output α)} {reducer : String} {node : Int}
    {matchers : List String} {list : List (Series α)} {stems : List (List String)}
    {log after : List Fetch} {result : Except Error (List (Series α))}
    (hrename : ∀ (s : Series α) name, P s → P (s.rename name))
    (hrun : ∀ args : Args α, (∀ s ∈ args.series, P s) →
      Run.Yields (run args) fun output => ∀ s ∈ output.flatten, P s)
    (hlist : ∀ s ∈ list, P s) (h : Reduces run reducer node matchers list stems log result after) :
    ∀ reduced, result = .ok reduced → ∀ s ∈ reduced, P s := by
  induction h with
  | done =>
    intro reduced hr
    cases hr
    simp
  | missing _ _ _ =>
    intro reduced hr
    cases hr
  | stopped _ _ _ =>
    intro reduced hr
    cases hr
  | @next _ _ _ _ _ members answer first result hmembers hasked hto _ ih =>
    intro reduced hr
    have hargs : ∀ s ∈ (Args.ofList reducer [.list members]).series, P s := by
      intro s hs
      have hs : s ∈ members := by simpa [Args.series_ofList, Arg.series] using hs
      obtain ⟨k, hk⟩ := List.mem_iff_getElem?.1 hs
      obtain ⟨before, behind, rfl, _⟩ := hmembers.2 k s hk
      exact hlist s (by simp)
    have hfirst : P first := by
      cases answer with
      | error e => cases hto
      | ok output =>
        have houtput := hrun _ hargs _ _ _ hasked
        cases output with
        | groups groups => cases hto
        | list series =>
          cases series with
          | nil => cases hto
          | cons s more =>
            cases hto
            exact hrename s _ (houtput s (by simp [Output.flatten]))
    cases result with
    | error e => cases hr
    | ok more =>
      cases hr
      simpa using ⟨hfirst, ih more rfl⟩

theorem keeps_reduction [Arith α] (hrename : ∀ (s : Series α) name, P s → P (s.rename name)) :
    Keeps P (reduction : Function α) := by
  intro scope hscope args hargs
  refine Run.Yields.any.bind fun reducer _ => Run.Yields.any.bind fun node _ => ?_
  refine Run.Yields.any.bind fun matchers _ => ?_
  refine (args.takeGroups_yields hargs 0).bind fun groups hgroups => ?_
  have hreduced : Run.Yields (reduceSeries scope.lookup reducer node matchers groups.flatten)
      fun list => ∀ s ∈ list, P s := by
    intro log list after hr
    have hcall := reductionCall_reduceSeries scope.lookup reducer node matchers groups.flatten log
    rw [hr] at hcall
    cases hcall with
    | reduced hrun _ hreduces =>
      exact reduces_keeps hrename (hscope reducer _ hrun) hgroups hreduces list rfl
  exact hreduced.bind fun list hall => .pure hall

theorem mem_bandsFrom [Arith α] [NumberText α] {plan : BandPlan α} {tiles : Nat} {call : BandCall}
    {s : Series α} {histories : List (Series α)} {band : Series α}
    (h : band ∈ bandsFrom plan tiles call s histories) :
    ∃ n name values, band = bandSeries plan tiles n s name values := by
  cases histories with
  | nil => simp [bandsFrom] at h
  | cons history more =>
    unfold bandsFrom bandsOf at h
    dsimp only at h
    split at h
    · simp at h
    · simp only [List.mem_cons, List.not_mem_nil, or_false] at h
      rcases h with rfl | rfl | rfl <;> exact ⟨_, _, _, rfl⟩

theorem keeps_bands [Arith α] [NumberText α]
    (h : ∀ (plan : BandPlan α) tiles n s name values, P (bandSeries plan tiles n s name values)) :
    Keeps P (bands : Function α) := by
  intro scope _ args _
  refine Run.Yields.any.bind fun period _ => Run.Yields.any.bind fun repeats _ => ?_
  refine Run.Yields.any.bind fun factor _ => Run.Yields.any.bind fun list _ => ?_
  have hbands : Run.Yields (sixSigma scope ⟨period, repeats, factor⟩ list)
      fun result => ∀ s ∈ result, P s := by
    intro log result after hr
    cases hmake : (BandPlan.make scope.window ⟨period, repeats, factor⟩ :
        Except Error (BandPlan α)) with
    | error e =>
      rw [from_sixSigma_of_error hmake] at hr
      cases hr
    | ok plan =>
      rw [from_sixSigma_of_ok scope hmake] at hr
      have hask : ∀ s ∈ list, Run.Yields (askBands scope ⟨period, repeats, factor⟩ plan s)
          fun bands => ∀ band ∈ bands, P band := by
        intro s _
        refine Run.Yields.any.bind fun histories _ => .pure fun band hband => ?_
        obtain ⟨n, name, values, rfl⟩ := mem_bandsFrom hband
        exact h plan _ n s name values
      have hall : Run.Yields (list.mapM (askBands scope ⟨period, repeats, factor⟩ plan) >>=
          fun bands => pure bands.flatten) fun result => ∀ s ∈ result, P s := by
        refine (Run.Yields.mapM hask).bind fun bands hbands => .pure fun band hband => ?_
        obtain ⟨three, hthree, hband⟩ := List.mem_flatten.1 hband
        exact hbands three hthree band hband
      exact hall log result after hr
  exact hbands.bind fun result hall => .pure hall

end Function

namespace Registry

theorem mem_entries_insert {r : Registry α} {name : String} {f : Function α}
    {entry : String × Function α} (h : entry ∈ (r.insert name f).entries) :
    entry = (name, f) ∨ entry ∈ r.entries := by
  rcases List.mem_cons.1 h with h | h
  · exact .inl h
  · exact .inr (List.mem_filter.1 h).1

theorem mem_entries_ofList {entries : List (String × Function α)} {entry : String × Function α}
    (h : entry ∈ (ofList entries).entries) : entry ∈ entries := by
  unfold ofList at h
  induction entries using List.reverseRecOn with
  | nil => simp [empty] at h
  | append_singleton entries last ih =>
    rw [List.foldl_append] at h
    rcases mem_entries_insert h with rfl | h
    · simp
    · exact List.mem_append_left _ (ih h)

theorem find?_insert (r : Registry α) (name : String) (f : Function α) (other : String) :
    (r.insert name f).find? other = if other = name then some f else r.find? other := by
  unfold find? insert
  rw [List.lookup_cons]
  by_cases h : other = name
  · simp [h]
  · rw [if_neg h, beq_false_of_ne h]
    dsimp only
    generalize r.entries = entries
    induction entries with
    | nil => rfl
    | cons entry entries ih =>
      obtain ⟨k, g⟩ := entry
      by_cases hk : k = name
      · have hne : other ≠ k := fun heq => h (heq.trans hk)
        rw [List.filter_cons_of_neg (by simp [hk]), ih, List.lookup_cons, beq_false_of_ne hne]
      · rw [List.filter_cons_of_pos (by simp [hk]), List.lookup_cons, List.lookup_cons, ih]

theorem find?_ofList {entries : List (String × Function α)} (hnodup : (entries.map Prod.fst).Nodup)
    {name : String} {f : Function α} (h : (name, f) ∈ entries) :
    (ofList entries).find? name = some f := by
  unfold ofList
  induction entries using List.reverseRecOn with
  | nil => cases h
  | append_singleton entries last ih =>
    rw [List.map_append, List.nodup_append] at hnodup
    obtain ⟨hbefore, -, hapart⟩ := hnodup
    rw [List.foldl_append]
    show (insert _ last.1 last.2).find? name = some f
    rw [find?_insert]
    rcases List.mem_append.1 h with h | h
    · have hne : name ≠ last.1 := hapart name (List.mem_map_of_mem h) last.1 (by simp)
      rw [if_neg hne, ih hbefore h]
    · obtain rfl : (name, f) = last := List.mem_singleton.1 h
      rw [if_pos rfl]

theorem mem_entries_of_find? {r : Registry α} {name : String} {f : Function α}
    (h : r.find? name = some f) : (name, f) ∈ r.entries := by
  unfold find? at h
  obtain ⟨before, after, hentries, _⟩ := List.lookup_eq_some_iff.1 h
  rw [hentries]
  simp

theorem mem_standardEntries_of_find? [Arith α] [NumberText α] {name : String} {f : Function α}
    (h : (standard : Registry α).find? name = some f) : (name, f) ∈ standardEntries :=
  mem_entries_ofList (mem_entries_of_find? h)

theorem nodup_standardNames [Arith α] [NumberText α] :
    ((standardEntries : List (String × Function α)).map Prod.fst).Nodup := by
  simp [standardEntries]

theorem find?_standard [Arith α] [NumberText α] {name : String} {f : Function α}
    (h : (name, f) ∈ standardEntries) : (standard : Registry α).find? name = some f :=
  find?_ofList nodup_standardNames h

end Registry

namespace Context

variable {P : Series α → Prop} {c : Context α}

/-- The function of that name is the built-in one, if there is a built-in one, or else unknown. -/
def BuiltIn [Arith α] [NumberText α] (c : Context α) (name : String) : Prop :=
  c.registry.find? name = (Registry.standard : Registry α).find? name

theorem builtIn_of_standard [Arith α] [NumberText α] (h : c.registry = .standard) (name : String) :
    c.BuiltIn name :=
  congrArg (Registry.find? · name) h

theorem scope_keeps (h : ∀ entry ∈ c.registry.entries, Function.Keeps P entry.2) (depth : Nat) :
    (c.scope depth).Keeps P := by
  induction depth with
  | zero =>
    intro name run hrun args _
    obtain ⟨f, _, rfl⟩ := Option.map_eq_some_iff.1 hrun
    exact .throw _
  | succ depth ih =>
    intro name run hrun args hargs
    obtain ⟨f, hf, rfl⟩ := Option.map_eq_some_iff.1 hrun
    exact h _ (Registry.mem_entries_of_find? hf) (c.scope depth) ih args hargs

/-- A call keeps what all the functions of its context keep. -/
theorem call_keeps (h : ∀ entry ∈ c.registry.entries, Function.Keeps P entry.2) {args : Args α}
    (hargs : ∀ s ∈ args.series, P s) :
    Run.Yields (c.call args) fun output => ∀ s ∈ output.flatten, P s := by
  unfold call
  cases hf : c.registry.find? args.function with
  | none => exact .throw _
  | some f =>
    exact h _ (Registry.mem_entries_of_find? hf) (c.scope maxDepth) (scope_keeps h maxDepth) args
      hargs

end Context

section
variable [Arith α] [NumberText α]

/-- Successful calls of built-in functions one after the other, with their outputs, the latest
first.  Each call has a context of its own, and its arguments hold given series and series of the
outputs before it, in whatever lists and groups. -/
inductive Pipeline (given : List (Series α)) : List (Output α) → Prop where
  | start : Pipeline given []
  | call {outputs : List (Output α)} {c : Context α} {args : Args α} {log after : List Fetch}
      {output : Output α} :
      Pipeline given outputs → c.registry = .standard →
      (∀ s ∈ args.series, s ∈ given ∨ ∃ earlier ∈ outputs, s ∈ earlier.flatten) →
      Run.from (c.call args) log = (.ok output, after) →
      Pipeline given (output :: outputs)

/-- What every built-in function keeps, a pipeline keeps. -/
theorem Pipeline.keeps {P : Series α → Prop}
    (hstandard : ∀ entry ∈ standardEntries, Function.Keeps P entry.2) {given : List (Series α)}
    {outputs : List (Output α)} (h : Pipeline given outputs) (hgiven : ∀ s ∈ given, P s) :
    ∀ output ∈ outputs, ∀ s ∈ output.flatten, P s := by
  induction h with
  | start => simp
  | @call _ c _ _ _ _ _ hregistry hargs hcall ih =>
    intro output houtput
    rcases List.mem_cons.1 houtput with rfl | houtput
    · have hentries : ∀ entry ∈ c.registry.entries, Function.Keeps P entry.2 := by
        rw [hregistry]
        exact fun entry hentry => hstandard entry (Registry.mem_entries_ofList hentry)
      refine Context.call_keeps hentries (fun s hs => ?_) _ _ _ hcall
      rcases hargs s hs with hs | ⟨earlier, hearlier, hs⟩
      · exact hgiven s hs
      · exact ih earlier hearlier s hs
    · exact ih output houtput

end

end MetricSeries

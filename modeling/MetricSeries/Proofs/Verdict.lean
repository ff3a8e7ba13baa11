import Mathlib
import MetricSeries.Proofs.Exact
import MetricSeries.Proofs.Counterparts
import MetricSeries.Proofs.Keeps
import MetricSeries.Proofs.Regrouping

/-!
Whether a call succeeds, and with which error it fails, does not hang on the samples.  There is one
exception: a reduction by trend needs a series with a sample, since the trend of a series without
any is left out.
-/

set_option autoImplicit false

namespace MetricSeries

variable {α : Type}

/-- Series that differ in nothing but their samples, of which they have the same number. -/
def SameButSamples (s t : Series α) : Prop :=
  ∃ values : Samples α, values.length = s.length ∧ t = { s with values := values }

theorem SameButSamples.name_eq (s t : Series α) (h : SameButSamples s t) : s.name = t.name := by
  obtain ⟨values, -, rfl⟩ := h
  rfl

def Anything {β γ : Type} (_ : β) (_ : γ) : Prop :=
  True

/-- Both runs succeed, or both fail with the same error, and they ask for the same evaluations. -/
def Run.SameVerdict {β γ : Type} (r : Run β) (r' : Run γ) : Prop :=
  Run.InStep Anything r r'

theorem forall₂_anything {β γ : Type} {list : List β} {list' : List γ}
    (h : list.length = list'.length) : List.Forall₂ Anything list list' := by
  induction list generalizing list' with
  | nil =>
    obtain rfl := List.length_eq_zero_iff.1 h.symm
    exact .nil
  | cons b list ih =>
    obtain ⟨c, list', rfl⟩ := List.exists_cons_of_length_eq_add_one h.symm
    exact .cons True.intro (ih (by simpa using h))

/-- A function whose outputs have the same shape, whatever samples there are. -/
def Function.Evenly (f : Function α) : Prop :=
  ∀ scope a b, Args.Alike SameButSamples a b →
    Run.InStep (Output.Alike Anything) (f scope a) (f scope b)

theorem length_sortDescending [LT α] [DecidableLT α] (key : Series α → Option α)
    (list : List (Series α)) : (sortDescending key list).length = list.length := by
  simp [sortDescending]

theorem length_limit (n : Option Nat) {list list' : List (Series α)}
    (h : list.length = list'.length) : (limit n list).length = (limit n list').length := by
  cases n with
  | none => exact h
  | some n => simp only [limit, List.length_take, h]

theorem length_combine [Arith α] (c : Combiner) {list list' : List (Series α)}
    (h : list.length = list'.length) : (combine c list).length = (combine c list').length := by
  cases list with
  | nil =>
    obtain rfl := List.length_eq_zero_iff.1 h.symm
    rfl
  | cons s list =>
    obtain ⟨t, list', rfl⟩ := List.exists_cons_of_length_eq_add_one h.symm
    rfl

theorem ratio_anything [Arith α] (function : String) (multiplier : α)
    {list list' : List (Series α)} (h : list.length = list'.length) :
    EndAlike (List.Forall₂ Anything) (ratio function multiplier list)
      (ratio function multiplier list') :=
  ratio_alike (forall₂_anything h) function multiplier fun _ _ _ _ _ _ => True.intro

namespace Function

theorem evenly_ofList {f : Scope α → List (Series α) → List (Series α)}
    (h : ∀ scope list list', list.length = list'.length →
      (f scope list).length = (f scope list').length) : Evenly (ofList f) :=
  fun scope _ _ hargs => inStep_ofList hargs fun list list' hlist =>
    forall₂_anything (h scope list list' hlist.length_eq)

theorem evenly_ofEach (f : Scope α → Series α → Series α) : Evenly (ofEach f) :=
  evenly_ofList fun _ _ _ h => by simpa using h

theorem evenly_ofLists {f : List (Series α) → Except Error (List (Series α))}
    (h : ∀ list list', list.length = list'.length →
      EndAlike (List.Forall₂ Anything) (f list) (f list')) : Evenly (ofLists f) :=
  fun _ _ _ hargs => inStep_ofLists hargs fun list list' hlist => h list list' hlist.length_eq

section
variable {β : Type} {read : Args α → Except Error β}
  (hread : ∀ a b, Args.Alike SameButSamples a b → read a = read b)
include hread

theorem evenly_withArgument {f : Scope α → β → List (Series α) → Except Error (List (Series α))}
    (h : ∀ scope b list list', List.Forall₂ SameButSamples list list' →
      EndAlike (List.Forall₂ Anything) (f scope b list) (f scope b list')) :
    Evenly (withArgument read f) := by
  intro scope a b hargs
  refine inStep_withArgument (hargs.takeList 0).1 (.of_eq (hread a b hargs) fun _ => rfl) ?_
  intro d d' list list' hsame hlist
  subst hsame
  exact h scope d list list' hlist

theorem evenly_eachWith (f : Scope α → β → Series α → Series α) : Evenly (eachWith read f) :=
  fun _ a b hargs => inStep_eachWith (hargs.takeList 0).1 (.of_eq (hread a b hargs) fun _ => rfl)
    fun _ _ _ _ _ _ => True.intro

end

theorem sameVerdict_withArgument {β : Type} {read : Args α → Except Error β}
    {f : Scope α → β → List (Series α) → Except Error (List (Series α))} {scope : Scope α}
    {a b : Args α} (hread : read a = read b) (hargs : Args.Alike SameButSamples a b)
    (h : ∀ d list list', EndAlike Anything (f scope d list) (f scope d list')) :
    Run.SameVerdict (withArgument read f scope a) (withArgument read f scope b) := by
  unfold withArgument
  rw [hread]
  refine Run.InStep.lift_bind fun d _ => ?_
  refine (Run.InStep.lift (hargs.takeList 0).1).bind fun list list' _ => ?_
  exact (Run.InStep.lift (h d list list')).bind fun _ _ _ => .pure True.intro

theorem evenly_grouping [Arith α] : Evenly (grouping : Function α) := by
  intro scope a b hargs
  refine (inStep_grouping SameButSamples.name_eq hargs).mono fun _ _ houtput => ?_
  exact houtput.mono fun _ _ _ => True.intro

theorem evenly_bands [Arith α] [NumberText α] : Evenly (bands : Function α) := by
  intro scope a b hargs
  refine inStep_bands (.refl (T := Eq) (fun _ => rfl) scope) hargs (fun s t h => ?_) ?_
  · obtain ⟨values, -, rfl⟩ := h
    rfl
  · intro plan tiles call s t history history' h hsame
    obtain ⟨values, -, rfl⟩ := h
    subst hsame
    exact forall₂_anything rfl

/-- All but three of the built-in functions have outputs of one shape. -/
theorem evenly_standard [Arith α] [NumberText α] :
    ∀ entry ∈ (standardEntries : List (String × Function α)),
      entry.1 ∉ ["nPercentile", "linregress", "reduceSeries"] → Evenly entry.2 := by
  simp only [standardEntries, List.forall_mem_cons]
  refine ⟨?_, ?_, ?_, ?_, ?_, ?_, ?_, ?_, ?_, ?_, ?_, ?_, ?_, ?_, ?_, ?_, ?_, ?_, ?_, ?_, ?_, ?_, ?_,
    ?_, ?_, ?_, ?_, ?_, ?_, by simp⟩
  -- Those that give some of the series, or blank and change samples in their places.
  · refine fun _ => evenly_withArgument (fun _ _ h => congrFun (congrFun h.countOr_eq 1) 1) ?_
    intro _ n list list' h
    refine .ok (forall₂_anything ?_)
    simp [highestMax, length_sortDescending, h.length_eq]
  · exact fun _ => evenly_ofList fun _ _ _ h => by simpa [sortByTotal, length_sortDescending] using h
  · refine fun _ => evenly_withArgument (fun _ _ h => congrFun h.count?_eq 1) ?_
    exact fun _ n _ _ h => .ok (forall₂_anything (length_limit n h.length_eq))
  · exact fun _ => evenly_eachWith (fun _ _ h => congrFun h.number_eq 1) _
  · exact fun _ => evenly_eachWith (fun _ _ h => congrFun h.number_eq 1) _
  · exact fun _ => evenly_eachWith (fun _ _ h => congrFun h.number_eq 1) _
  · exact fun _ => evenly_eachWith (fun _ _ h => congrFun h.number_eq 1) _
  · exact fun h => absurd (by simp) h
  · exact fun _ => evenly_eachWith (fun _ _ h => congrFun (congrFun h.numberOr_eq 1) 0) _
  · exact fun _ => evenly_eachWith (fun _ _ h => congrFun h.number_eq 1) _
  -- Those that change names and hints.
  · exact fun _ => evenly_eachWith (fun _ _ h => congrFun h.text_eq 1) _
  · refine fun _ => evenly_withArgument (fun _ _ h => h.twoTexts_eq) ?_
    exact fun _ texts _ _ h => relabelByPattern_alike SameButSamples.name_eq
      (fun _ _ _ _ => True.intro) texts.1 texts.2 h
  · refine fun _ => evenly_withArgument (fun _ _ h => congrFun h.intsFrom_eq 1) ?_
    exact fun _ nodes _ _ h => .mapM h fun _ _ hst =>
      relabelByNode_alike SameButSamples.name_eq (fun _ _ _ _ => True.intro) nodes hst
  · exact fun _ => evenly_eachWith (fun _ _ h => congrFun h.text_eq 1) _
  · exact fun _ => evenly_eachWith (fun _ _ h => congrFun h.number_eq 1) _
  · exact fun _ => evenly_eachWith (fun _ _ h => congrFun h.number_eq 1) _
  · exact fun _ => evenly_ofEach _
  · exact fun _ => evenly_ofEach _
  -- Groups, other functions by name, and axes of their own.
  · exact fun _ => evenly_grouping
  · exact fun h => absurd (by simp) h
  · exact fun _ => evenly_bands
  · exact fun h => absurd (by simp) h
  -- Columns, on the axis of the first series.
  · exact fun _ => evenly_ofLists fun _ _ h => .ok (forall₂_anything (length_combine .sum h))
  · exact fun _ => evenly_ofLists fun _ _ h => .ok (forall₂_anything (length_combine .average h))
  · exact fun _ => evenly_ofLists fun _ _ h => .ok (forall₂_anything (length_combine .max h))
  · exact fun _ => evenly_ofLists fun _ _ h => .ok (forall₂_anything (length_combine .min h))
  · exact fun _ => evenly_ofLists fun _ _ h => .ok (forall₂_anything (length_combine .diff h))
  · exact fun _ => evenly_ofLists fun _ _ h => ratio_anything _ _ h
  · exact fun _ => evenly_ofLists fun _ _ h => ratio_anything _ _ h

end Function

theorem reducersAlike_of_missing {β : Type} {read : Args α → Except Error β} {e : Error}
    {reducer : String} (hread : ∀ members : List (Series α),
      read (.ofList reducer [.list members]) = .error e)
    (rest : Args α → β → Run (Output α)) :
    ReducersAlike SameButSamples Anything reducer (fun args => liftExcept (read args) >>= rest args)
      fun args => liftExcept (read args) >>= rest args := by
  intro members members' _
  dsimp only
  rw [hread, hread]
  exact Run.InStep.lift_bind fun b hb => by cases hb

section
variable [Arith α] [NumberText α]

def percentileFunction : Function α :=
  .withArgument (·.number 1) fun scope => nPercentile scope.config.interpolate

def trendFunction : Function α :=
  .withArgument (·.number? 1) fun scope least list => .ok (linregress scope.window least list)

theorem standard_cases {name : String} {f : Function α}
    (h : (Registry.standard : Registry α).find? name = some f) :
    name = "nPercentile" ∧ f = percentileFunction ∨ name = "linregress" ∧ f = trendFunction ∨
      name = "reduceSeries" ∧ f = .reduction ∨ f.Evenly := by
  have hmem := Registry.mem_standardEntries_of_find? h
  by_cases hname : name ∈ ["nPercentile", "linregress", "reduceSeries"]
  · simp only [List.mem_cons, List.not_mem_nil, or_false] at hname
    rcases hname with rfl | rfl | rfl
    · refine .inl ⟨rfl, ?_⟩
      simpa [standardEntries, percentileFunction] using hmem
    · refine .inr (.inl ⟨rfl, ?_⟩)
      simpa [standardEntries, trendFunction] using hmem
    · refine .inr (.inr (.inl ⟨rfl, ?_⟩))
      simpa [standardEntries] using hmem
  · exact .inr (.inr (.inr (Function.evenly_standard _ hmem hname)))

theorem find?_linregress :
    (Registry.standard : Registry α).find? "linregress" = some trendFunction :=
  Registry.find?_standard (by simp [standardEntries, trendFunction])

theorem find?_reduceSeries :
    (Registry.standard : Registry α).find? "reduceSeries" = some .reduction :=
  Registry.find?_standard (by simp [standardEntries])

theorem sameVerdict_percentileFunction (scope : Scope α) {a b : Args α}
    (h : Args.Alike SameButSamples a b) :
    Run.SameVerdict (percentileFunction scope a) (percentileFunction scope b) := by
  refine Function.sameVerdict_withArgument (congrFun h.number_eq 1) h fun p list list' => ?_
  unfold nPercentile
  split
  · exact .error _
  · exact .ok True.intro

omit [NumberText α] in
theorem sameVerdict_trendFunction (scope : Scope α) {a b : Args α}
    (h : Args.Alike SameButSamples a b) :
    Run.SameVerdict (trendFunction scope a) (trendFunction scope b) :=
  Function.sameVerdict_withArgument (congrFun h.number?_eq 1) h fun _ _ _ => .ok True.intro

theorem reducersAlike_standard (scope : Scope α) {reducer : String} {f : Function α}
    (hf : (Registry.standard : Registry α).find? reducer = some f) (hne : reducer ≠ "linregress") :
    ReducersAlike SameButSamples Anything reducer (f scope) (f scope) := by
  rcases standard_cases hf with ⟨rfl, rfl⟩ | ⟨rfl, -⟩ | ⟨rfl, rfl⟩ | hevenly
  · exact reducersAlike_of_missing (e := .argument "nPercentile" 1 .missing) (fun _ => rfl) _
  · exact absurd rfl hne
  · exact reducersAlike_of_missing (e := .argument "reduceSeries" 1 .missing) (fun _ => rfl) _
  · exact fun members members' h => hevenly scope _ _ (.ofList reducer (.cons (.list h) .nil))

end

/-- A series without any sample. -/
def Series.Blank (s : Series α) : Prop :=
  ∀ x ∈ s.values, x = none

section
variable [Arith α]

theorem trend_eq_none_iff {window : Window} {s : Series α} :
    trend window none s = none ↔ s.Blank := by
  unfold trend
  simp only [Bool.false_eq_true, if_false, Option.map_eq_none_iff]
  rw [fit?_eq_none_iff, indexed_eq_nil_iff]
  rfl

theorem linregress_eq_nil_iff {window : Window} {list : List (Series α)} :
    linregress window none list = [] ↔ ∀ s ∈ list, s.Blank := by
  unfold linregress
  rw [List.filterMap_eq_nil_iff]
  exact forall₂_congr fun s _ => trend_eq_none_iff

theorem from_trendFunction (scope : Scope α) (members : List (Series α)) (log : List Fetch) :
    Run.from (trendFunction scope (.ofList "linregress" [.list members])) log =
      (.ok (.list (linregress scope.window none members)), log) := rfl

end

def trendMissing (name : String) : Error :=
  .evaluation name "reducer linregress returned no series"

section
variable (node : Int) (matchers : List String) (list : List (Series α))

/-- The first of the stems whose members are all blank, if each stem before it has its members and
one of them is not blank. -/
inductive FirstBlank : List (List String) → List String → Prop where
  | here {stem : List String} {rest : List (List String)} {members : List (Series α)} :
      AreMembers node matchers list stem members → (∀ s ∈ members, s.Blank) →
      FirstBlank (stem :: rest) stem
  | later {stem blank : List String} {rest : List (List String)} {members : List (Series α)}
      {s : Series α} :
      AreMembers node matchers list stem members → s ∈ members → ¬s.Blank →
      FirstBlank rest blank → FirstBlank (stem :: rest) blank

end

section
variable {node : Int} {matchers : List String} {list list' : List (Series α)}

theorem firstBlank_cons_iff {stem blank : List String} {rest : List (List String)}
    {members : List (Series α)} {s : Series α} (hmembers : AreMembers node matchers list stem members)
    (hs : s ∈ members) (h : ¬s.Blank) :
    FirstBlank node matchers list (stem :: rest) blank ↔
      FirstBlank node matchers list rest blank := by
  constructor
  · intro hblank
    cases hblank with
    | here hmembers' hall => exact absurd (hall s (hmembers.unique hmembers' ▸ hs)) h
    | later _ _ _ hrest => exact hrest
  · exact .later hmembers hs h

theorem reductionStems_eq_of_names (h : list.map Series.name = list'.map Series.name) :
    reductionStems node matchers list = reductionStems node matchers list' := by
  have hstems : ∀ all : List (Series α), reductionStems node matchers all =
      (((all.map Series.name).filter fun name => fragmentAt name node ∈ matchers).map fun name =>
        stemAt name node).eraseDups := by
    intro all
    rw [List.filter_map, List.map_map]
    rfl
  rw [hstems, hstems, h]

theorem exists_isMember_iff {stem : List String} {k : Nat} :
    (∃ s, IsMember node matchers list stem k s) ↔
      ∃ s ∈ list, MeantFor node matchers stem k s := by
  have hsome : (∃ s, IsMember node matchers list stem k s) ↔
      (memberOf node matchers list stem k).isSome := by
    rw [Option.isSome_iff_exists]
    exact exists_congr fun s => memberOf_eq_some_iff.symm
  rw [hsome, memberOf, List.find?_isSome]
  simp

theorem exists_isMember_of_names (h : list.map Series.name = list'.map Series.name)
    {stem : List String} {k : Nat} :
    (∃ s, IsMember node matchers list stem k s) ↔
      ∃ s, IsMember node matchers list' stem k s := by
  have hnames : ∀ all : List (Series α), (∃ s ∈ all, MeantFor node matchers stem k s) ↔
      ∃ name ∈ all.map Series.name,
        stemAt name node = stem ∧ Sought matchers (fragmentAt name node) k := by
    intro all
    simp [MeantFor]
  rw [exists_isMember_iff, exists_isMember_iff, hnames, hnames, h]

end

section
variable [Arith α] {scope : Scope α} {node : Int} {matchers : List String}
  {list list' : List (Series α)} {stems : List (List String)} {log after : List Fetch}
  {result : Except Error (List (Series α))}

section
variable {name : String} {members : List (Series α)} {answer : Except Error (Output α)}
  (hasked : Run.from (trendFunction scope (.ofList "linregress" [.list members])) log =
    (answer, after))
include hasked

theorem reducedTo_trend_error {e : Error} (h : reducedTo name "linregress" answer = .error e) :
    after = log ∧ (∀ s ∈ members, s.Blank) ∧ e = trendMissing name := by
  rw [from_trendFunction] at hasked
  cases hasked
  cases htrends : linregress scope.window none members with
  | nil =>
    rw [htrends] at h
    cases h
    exact ⟨rfl, linregress_eq_nil_iff.1 htrends, rfl⟩
  | cons first more =>
    rw [htrends] at h
    cases h

theorem reducedTo_trend_ok {reduced : Series α}
    (h : reducedTo name "linregress" answer = .ok reduced) :
    after = log ∧ ∃ s ∈ members, ¬s.Blank := by
  rw [from_trendFunction] at hasked
  cases hasked
  refine ⟨rfl, ?_⟩
  by_contra hnone
  push Not at hnone
  rw [linregress_eq_nil_iff.2 hnone] at h
  cases h

end

/-- Reducing by trend asks for nothing, and it comes to nothing at the first blank stem only. -/
theorem reduces_trendMissing_iff
    (h : Reduces (trendFunction scope) "linregress" node matchers list stems log result after) :
    after = log ∧ ∀ name, result = .error (trendMissing name) ↔
      ∃ stem, FirstBlank node matchers list stems stem ∧
        name = reductionName stem "linregress" := by
  induction h with
  | done =>
    refine ⟨rfl, fun name => iff_of_false (fun h => by cases h) ?_⟩
    rintro ⟨stem, hblank, -⟩
    cases hblank
  | missing hk hnone _ =>
    refine ⟨rfl, fun name => iff_of_false (fun h => by cases h) ?_⟩
    rintro ⟨stem, hblank, -⟩
    cases hblank with
    | here hmembers | later hmembers => exact (hmembers.exists_isMember hk).elim hnone
  | @stopped stem _ _ _ _ _ _ hmembers hasked hto =>
    obtain ⟨hafter, hall, rfl⟩ := reducedTo_trend_error hasked hto
    refine ⟨hafter, fun name => ⟨fun h => ?_, ?_⟩⟩
    · cases h
      exact ⟨stem, .here hmembers hall, rfl⟩
    · rintro ⟨blank, hblank, rfl⟩
      cases hblank with
      | here _ _ => rfl
      | later hmembers' hs hnot _ => exact absurd (hall _ (hmembers.unique hmembers' ▸ hs)) hnot
  | @next stem _ _ _ _ _ _ _ result hmembers hasked hto _ ih =>
    obtain ⟨rfl, s, hs, hnot⟩ := reducedTo_trend_ok hasked hto
    refine ⟨ih.1, fun name => ?_⟩
    rw [exists_congr fun blank => and_congr_left' (firstBlank_cons_iff hmembers hs hnot), ← ih.2]
    cases result with
    | error e => exact Iff.rfl
    | ok more => exact iff_of_false (fun h => by cases h) fun h => by cases h

theorem reduces_trend_alike {log' after' : List Fetch} {result' : Except Error (List (Series α))}
    (hnames : list.map Series.name = list'.map Series.name)
    (h : Reduces (trendFunction scope) "linregress" node matchers list stems log result after)
    (h' : Reduces (trendFunction scope) "linregress" node matchers list' stems log' result' after')
    (hnone : ∀ stem, ¬FirstBlank node matchers list stems stem)
    (hnone' : ∀ stem, ¬FirstBlank node matchers list' stems stem) :
    EndAlike Anything result result' := by
  induction h generalizing log' result' with
  | done =>
    cases h'
    exact .ok True.intro
  | missing hk hmissing hbefore =>
    rename_i k matcher
    rw [← not_exists, exists_isMember_of_names hnames, not_exists] at hmissing
    cases h' with
    | missing hk' hmissing' hbefore' =>
      rename_i k' matcher'
      have hle : ¬k' < k := fun hlt =>
        ((exists_isMember_of_names hnames).1 (hbefore k' hlt)).elim hmissing'
      have hge : ¬k < k' := fun hlt => (hbefore' k hlt).elim hmissing
      obtain rfl : k = k' := by omega
      rw [hk] at hk'
      cases hk'
      exact .error _
    | stopped hmembers' | next hmembers' => exact ((hmembers'.exists_isMember hk).elim hmissing).elim
  | @stopped stem _ _ _ _ _ _ hmembers hasked hto =>
    obtain ⟨-, hall, -⟩ := reducedTo_trend_error hasked hto
    exact absurd (.here hmembers hall) (hnone stem)
  | @next stem _ _ _ _ _ _ _ result hmembers hasked hto _ ih =>
    cases h' with
    | missing hk hmissing =>
      rw [← not_exists, ← exists_isMember_of_names hnames] at hmissing
      exact absurd (hmembers.exists_isMember hk) hmissing
    | stopped hmembers' hasked' hto' =>
      obtain ⟨-, hall, -⟩ := reducedTo_trend_error hasked' hto'
      exact absurd (.here hmembers' hall) (hnone' stem)
    | next hmembers' hasked' hto' hrest' =>
      obtain ⟨-, s, hs, hnot⟩ := reducedTo_trend_ok hasked hto
      obtain ⟨-, s', hs', hnot'⟩ := reducedTo_trend_ok hasked' hto'
      have hend := ih hrest' (fun blank h => hnone blank (.later hmembers hs hnot h))
        fun blank h => hnone' blank (.later hmembers' hs' hnot' h)
      exact hend.map fun _ _ _ => True.intro

/-- The names of the series have the node, and the first stem whose reduction by trend is not made
comes to nothing under that name. -/
def TrendStops (node : Int) (matchers : List String) (list : List (Series α)) (name : String) :
    Prop :=
  (∀ s ∈ list, HasNode s.name node) ∧ ∃ stem,
    FirstBlank node matchers list (reductionStems node matchers list) stem ∧
      name = reductionName stem "linregress"

section
variable {lookup : String → Option (Args α → Run (Output α))}
  (hlookup : lookup "linregress" = some (trendFunction scope))
include hlookup

theorem from_reduceSeries_trendMissing (node : Int) (matchers : List String)
    (list : List (Series α)) (log : List Fetch) :
    let outcome := Run.from (reduceSeries lookup "linregress" node matchers list) log
    outcome.2 = log ∧ ∀ name, outcome.1 = .error (trendMissing name) ↔
      TrendStops node matchers list name := by
  intro outcome
  have hcall : ReductionCall lookup "linregress" node matchers list log outcome.1 outcome.2 :=
    reductionCall_reduceSeries lookup "linregress" node matchers list log
  generalize outcome.1 = result at *
  generalize outcome.2 = after at *
  cases hcall with
  | unknown hnone =>
    rw [hlookup] at hnone
    cases hnone
  | outOfRange hrun hlist hbefore hs =>
    refine ⟨rfl, fun name => iff_of_false (fun h => by cases h) fun hstops => ?_⟩
    exact hs (hstops.1 _ (by simp [hlist]))
  | reduced hrun hall hreduces =>
    obtain rfl := Option.some.inj (hlookup.symm.trans hrun)
    obtain ⟨hafter, hmissing⟩ := reduces_trendMissing_iff hreduces
    exact ⟨hafter, fun name => (hmissing name).trans (and_iff_right hall).symm⟩

theorem sameVerdict_reduceSeries_trend (h : List.Forall₂ SameButSamples list list')
    (hstops : ∀ name, TrendStops node matchers list name ↔ TrendStops node matchers list' name) :
    Run.SameVerdict (reduceSeries lookup "linregress" node matchers list)
      (reduceSeries lookup "linregress" node matchers list') := by
  intro log
  obtain ⟨hlog, hmissing⟩ := from_reduceSeries_trendMissing hlookup node matchers list log
  obtain ⟨hlog', hmissing'⟩ := from_reduceSeries_trendMissing hlookup node matchers list' log
  refine ⟨hlog.trans hlog'.symm, ?_⟩
  by_cases hname : ∃ name, TrendStops node matchers list name
  · obtain ⟨name, hstop⟩ := hname
    rw [(hmissing name).2 hstop, (hmissing' name).2 ((hstops name).1 hstop)]
    exact .error _
  · have hnames : list.map Series.name = list'.map Series.name := by
      rw [← List.forall₂_eq_eq_eq]
      exact List.rel_map SameButSamples.name_eq h
    have htable := EndAlike.foldlM h (fun _ _ _ _ htable hst =>
      placeSeries_alike SameButSamples.name_eq "linregress" node matchers htable hst) .nil
    unfold reduceSeries
    rw [hlookup]
    dsimp only
    rw [Run.from_lift_bind, Run.from_lift_bind]
    rcases hasNode_cases node list with hall | ⟨before, s, after, rfl, hbefore, hs⟩
    · have hall' : ∀ s ∈ list', HasNode s.name node := by
        have hmap : ∀ name ∈ list'.map Series.name, HasNode name node := by
          rw [← hnames]
          simpa using hall
        simpa using hmap
      have hnone : ∀ stem, ¬FirstBlank node matchers list (reductionStems node matchers list) stem :=
        fun stem hblank => hname ⟨_, hall, stem, hblank, rfl⟩
      have hnone' : ∀ stem,
          ¬FirstBlank node matchers list' (reductionStems node matchers list') stem :=
        fun stem hblank => hname ⟨_, (hstops _).2 ⟨hall', stem, hblank, rfl⟩⟩
      rw [foldlM_placeSeries "linregress" node matchers hall,
        foldlM_placeSeries "linregress" node matchers hall']
      rw [← reductionStems_eq_of_names hnames] at hnone' ⊢
      exact reduces_trend_alike hnames (reduces_rows _ _ _ _ _ _ log)
        (reduces_rows _ _ _ _ _ _ log) hnone hnone'
    · rw [foldlM_placeSeries_error "linregress" matchers hbefore hs] at htable ⊢
      generalize list'.foldlM (placeSeries "linregress" node matchers) [] = table at *
      cases htable
      exact .error _

end

end

section
variable [Arith α]

/-- What a call that reduces by trend reads from its arguments. -/
structure ByTrend (args : Args α) (node : Int) (matchers : List String)
    (groups : List (List (Series α))) : Prop where
  function_eq : args.function = "reduceSeries"
  reducer_eq : args.text 1 = .ok "linregress"
  node_eq : args.int 2 = .ok node
  matchers_eq : args.textsFrom 3 = .ok matchers
  groups_eq : (args.takeGroups 0).1 = .ok groups

/-- A call that reduces by trend and that comes to nothing in the reduction of that name: all its
members are blank, and each reduction before it has a member that is not. -/
def TrendStopsCall (args : Args α) (name : String) : Prop :=
  ∃ node matchers groups, ByTrend args node matchers groups ∧
    TrendStops node matchers groups.flatten name

theorem ByTrend.trendStopsCall_iff {args : Args α} {node : Int} {matchers : List String}
    {groups : List (List (Series α))} (h : ByTrend args node matchers groups) {name : String} :
    TrendStopsCall args name ↔ TrendStops node matchers groups.flatten name := by
  constructor
  · rintro ⟨node', matchers', groups', h', hstops⟩
    cases h.node_eq.symm.trans h'.node_eq
    cases h.matchers_eq.symm.trans h'.matchers_eq
    cases h.groups_eq.symm.trans h'.groups_eq
    exact hstops
  · exact fun hstops => ⟨node, matchers, groups, h, hstops⟩

/-- Of two calls with arguments that belong together both reduce by trend, or neither. -/
theorem byTrend_cases {R : Series α → Series α → Prop} {a b : Args α} (h : Args.Alike R a b) :
    (∃ node matchers groups groups', ByTrend a node matchers groups ∧
      ByTrend b node matchers groups' ∧ List.Forall₂ (List.Forall₂ R) groups groups') ∨
    ∀ node matchers groups, ¬ByTrend a node matchers groups ∧ ¬ByTrend b node matchers groups := by
  have hgroups := h.takeGroups 0
  generalize htaken : (a.takeGroups 0).1 = x at *
  generalize htaken' : (b.takeGroups 0).1 = y at *
  cases hgroups with
  | error e =>
    refine .inr fun node matchers groups => ⟨fun ha => ?_, fun hb => ?_⟩
    · cases htaken.symm.trans ha.groups_eq
    · cases htaken'.symm.trans hb.groups_eq
  | @ok groups groups' hgroups =>
    by_cases ha : ∃ node matchers groups, ByTrend a node matchers groups
    · obtain ⟨node, matchers, taken, ha⟩ := ha
      cases htaken.symm.trans ha.groups_eq
      refine .inl ⟨node, matchers, groups, groups', ha, ⟨?_, ?_, ?_, ?_, htaken'⟩, hgroups⟩
      · exact h.function_eq ▸ ha.function_eq
      · exact h.text_eq ▸ ha.reducer_eq
      · exact h.int_eq ▸ ha.node_eq
      · exact h.textsFrom_eq ▸ ha.matchers_eq
    · refine .inr fun node matchers taken => ⟨fun h => ha ⟨_, _, _, h⟩, fun hb => ha ?_⟩
      refine ⟨node, matchers, groups, ?_, ?_, ?_, ?_, htaken⟩
      · exact h.function_eq ▸ hb.function_eq
      · exact h.text_eq ▸ hb.reducer_eq
      · exact h.int_eq ▸ hb.node_eq
      · exact h.textsFrom_eq ▸ hb.matchers_eq

end

section
variable [Arith α] [NumberText α]

/-- The functions that a call names are built in: the one that is called, and the reducer if it is
a reduction.  What else the context knows does not matter. -/
structure Context.NamesBuiltIn (c : Context α) (args : Args α) : Prop where
  function : c.BuiltIn args.function
  reducer {name : String} :
    args.function = "reduceSeries" → args.text 1 = .ok name → c.BuiltIn name

theorem Context.namesBuiltIn_of_standard {c : Context α} (h : c.registry = .standard)
    (args : Args α) : c.NamesBuiltIn args :=
  ⟨builtIn_of_standard h _, fun _ _ => builtIn_of_standard h _⟩

theorem Context.NamesBuiltIn.of_alike {c : Context α} {a b : Args α}
    {R : Series α → Series α → Prop} (hnames : c.NamesBuiltIn a) (h : Args.Alike R a b) :
    c.NamesBuiltIn b where
  function := h.function_eq ▸ hnames.function
  reducer hfunction hname :=
    hnames.reducer (h.function_eq.trans hfunction) ((congrFun h.text_eq 1).trans hname)

variable {c : Context α} {a b : Args α}

theorem lookup_linregress (h : c.BuiltIn "linregress") :
    (c.scope Context.maxDepth).lookup "linregress" =
      some (trendFunction (c.scope (Context.maxDepth - 1))) := by
  show (c.registry.find? "linregress").map _ = _
  rw [h, find?_linregress]
  rfl

theorem lookup_alike {reducer : String} (h : c.BuiltIn reducer) (hne : reducer ≠ "linregress") :
    Option.Rel (ReducersAlike SameButSamples Anything reducer)
      ((c.scope Context.maxDepth).lookup reducer) ((c.scope Context.maxDepth).lookup reducer) := by
  show Option.Rel _ ((c.registry.find? reducer).map _) ((c.registry.find? reducer).map _)
  rw [h]
  cases hf : (Registry.standard : Registry α).find? reducer with
  | none => exact .none
  | some f => exact .some (reducersAlike_standard _ hf hne)

variable (hnames : c.NamesBuiltIn a)
include hnames

theorem from_call_byTrend {node : Int} {matchers : List String} {groups : List (List (Series α))}
    (h : ByTrend a node matchers groups) (log : List Fetch) :
    Run.from (c.call a) log =
      Run.from (reduceSeries (c.scope Context.maxDepth).lookup "linregress" node matchers
        groups.flatten >>= fun list => pure (.list list)) log := by
  unfold Context.call
  rw [hnames.function, h.function_eq, find?_reduceSeries]
  dsimp only
  unfold Function.reduction
  rw [h.reducer_eq, h.node_eq, h.matchers_eq, h.groups_eq]
  simp only [Run.from_lift_bind]

theorem call_trendMissing_iff {node : Int} {matchers : List String}
    {groups : List (List (Series α))} (h : ByTrend a node matchers groups) (log : List Fetch)
    (name : String) :
    Run.from (c.call a) log = (.error (trendMissing name), log) ↔ TrendStopsCall a name := by
  have hlinregress := lookup_linregress (hnames.reducer h.function_eq h.reducer_eq)
  obtain ⟨hlog, hmissing⟩ := from_reduceSeries_trendMissing hlinregress node matchers
    groups.flatten log
  rw [from_call_byTrend hnames h, h.trendStopsCall_iff, ← hmissing, Run.from_bind]
  generalize Run.from (reduceSeries _ _ _ _ _) log = outcome at *
  obtain ⟨result, after⟩ := outcome
  obtain rfl : after = log := hlog
  cases result with
  | error e => simp
  | ok list => exact iff_of_false (fun h => by cases h) fun h => by cases h

theorem sameVerdict_call_of_not_byTrend (h : Args.Alike SameButSamples a b)
    (hno : ∀ node matchers groups, ¬ByTrend a node matchers groups) :
    Run.SameVerdict (c.call a) (c.call b) := by
  unfold Context.call
  rw [← h.function_eq, hnames.function]
  cases hf : (Registry.standard : Registry α).find? a.function with
  | none => exact Run.InStep.throw _
  | some f =>
    dsimp only
    rcases standard_cases hf with ⟨-, rfl⟩ | ⟨-, rfl⟩ | ⟨hname, rfl⟩ | hevenly
    · exact sameVerdict_percentileFunction _ h
    · exact sameVerdict_trendFunction _ h
    · have hreduction : Run.InStep (Output.Alike Anything)
          (Function.reduction (c.scope Context.maxDepth) a)
          (Function.reduction (c.scope Context.maxDepth) b) := by
        refine Function.inStep_reduction (T := Anything) h SameButSamples.name_eq ?_
          fun _ _ _ _ => True.intro
        intro reducer node matchers groups hreducer hnode hmatchers hgroups
        refine lookup_alike (hnames.reducer hname hreducer) ?_
        rintro rfl
        exact hno node matchers groups ⟨hname, hreducer, hnode, hmatchers, hgroups⟩
      exact hreduction.mono fun _ _ _ => True.intro
    · exact (hevenly _ a b h).mono fun _ _ _ => True.intro

/-- Whatever built-in function is called, in whatever context: two calls that differ in nothing but
samples ask for the same evaluations, and both succeed or both fail with the same error, exactly
when they come to nothing in the same reduction by trend, or in none.  A call that does so fails and
asks for nothing.  Samples are from a total order, as nothing is known of sorting any others. -/
theorem call_sameVerdict_iff [IsStrictTotalOrder α (· < ·)] (h : Args.Alike SameButSamples a b) :
    (Run.SameVerdict (c.call a) (c.call b) ↔
      ∀ name, TrendStopsCall a name ↔ TrendStopsCall b name) ∧
    ∀ name, TrendStopsCall a name → ∀ log, Run.from (c.call a) log =
      (.error (.evaluation name "reducer linregress returned no series"), log) := by
  constructor
  · rcases byTrend_cases h with ⟨node, matchers, groups, groups', ha, hb, hgroups⟩ | hno
    · constructor
      · intro hsame name
        rw [← call_trendMissing_iff hnames ha [] name,
          ← call_trendMissing_iff (hnames.of_alike h) hb [] name]
        exact hsame.error_iff
      · intro hstops log
        simp only [ha.trendStopsCall_iff, hb.trendStopsCall_iff] at hstops
        rw [from_call_byTrend hnames ha, from_call_byTrend (hnames.of_alike h) hb]
        have hlinregress := lookup_linregress (hnames.reducer ha.function_eq ha.reducer_eq)
        have hreduced := sameVerdict_reduceSeries_trend hlinregress (List.rel_flatten hgroups)
          hstops
        exact Run.InStep.bind hreduced (fun _ _ _ => .pure True.intro) log
    · refine iff_of_true (sameVerdict_call_of_not_byTrend hnames h fun _ _ _ => (hno _ _ _).1) ?_
      intro name
      refine iff_of_false ?_ ?_
      · rintro ⟨node, matchers, groups, ha, -⟩
        exact (hno node matchers groups).1 ha
      · rintro ⟨node, matchers, groups, hb, -⟩
        exact (hno node matchers groups).2 hb
  · intro name hstops log
    obtain ⟨node, matchers, groups, ha, -⟩ := id hstops
    exact (call_trendMissing_iff hnames ha log name).2 hstops

end

/-- The built-in functions and nothing else, for the first second of 1970. -/
noncomputable def firstSecond : Context ℝ :=
  .standard (Context.nearWindow 0 1)

noncomputable def reduceOne (reducer : String) (values : Samples ℝ) : Args ℝ :=
  .ofList "reduceSeries"
    [.list [.named "a.x" 0 1 1 values], .text reducer, .int 1, .text "x"]

theorem reduceOne_alike (reducer : String) {values values' : Samples ℝ}
    (h : values'.length = values.length) :
    Args.Alike SameButSamples (reduceOne reducer values) (reduceOne reducer values') := by
  have hone : SameButSamples (Series.named "a.x" 0 1 1 values) (.named "a.x" 0 1 1 values') :=
    ⟨values', h, rfl⟩
  exact .ofList _ (.cons (.list (.cons hone .nil)) (.cons (.text _) (.cons (.int _)
    (.cons (.text _) .nil))))

theorem trendStopsCall_reduceOne :
    TrendStopsCall (reduceOne "linregress" [none, none]) "a.reduce.linregress" := by
  have hname : HasNode "a.x" 1 := by decide
  have hmeant : MeantFor 1 ["x"] ["a"] 0 (Series.named "a.x" 0 1 1 ([none, none] : Samples ℝ)) :=
    ⟨by decide, by decide, by simp⟩
  have hmembers : AreMembers 1 ["x"] [Series.named "a.x" 0 1 1 ([none, none] : Samples ℝ)] ["a"]
      [.named "a.x" 0 1 1 [none, none]] := by
    refine ⟨rfl, fun k s hs => ?_⟩
    cases k with
    | zero =>
      cases hs
      exact ⟨[], [], rfl, hmeant, by simp⟩
    | succ k => simp at hs
  have hstems : reductionStems 1 ["x"] [Series.named "a.x" 0 1 1 ([none, none] : Samples ℝ)] =
      [["a"]] := rfl
  refine ⟨1, ["x"], [[.named "a.x" 0 1 1 [none, none]]], ⟨rfl, rfl, rfl, rfl, rfl⟩, ?_, ["a"], ?_,
    by decide⟩
  · intro s hs
    obtain rfl := List.mem_singleton.1 hs
    exact hname
  · rw [List.flatten_singleton, hstems]
    exact .here hmembers (by simp [Series.Blank, Series.named])

/-- A sum succeeds with samples and without; a trend fails without. -/
theorem call_sameVerdict_iff_reduceOne :
    Run.SameVerdict (firstSecond.call (reduceOne "sumSeries" [some 1, some 2]))
      (firstSecond.call (reduceOne "sumSeries" [none, none])) ∧
    ∀ log, Run.from (firstSecond.call (reduceOne "linregress" [none, none])) log =
      (.error (.evaluation "a.reduce.linregress" "reducer linregress returned no series"), log) := by
  have hsum : ∀ values name, ¬TrendStopsCall (reduceOne "sumSeries" values) name := by
    rintro values name ⟨node, matchers, groups, h, -⟩
    have hreducer : Except.ok "sumSeries" = (Except.ok "linregress" : Except Error String) :=
      h.reducer_eq
    simp at hreducer
  have hnames : ∀ args, firstSecond.NamesBuiltIn args := Context.namesBuiltIn_of_standard rfl
  have hsums : Args.Alike SameButSamples (reduceOne "sumSeries" [some 1, some 2])
      (reduceOne "sumSeries" [none, none]) := reduceOne_alike _ rfl
  have htrends : Args.Alike SameButSamples (reduceOne "linregress" [none, none])
      (reduceOne "linregress" [some 1, some 2]) := reduceOne_alike _ rfl
  constructor
  · refine (call_sameVerdict_iff (hnames _) hsums).1.2 fun name => ?_
    exact iff_of_false (hsum _ name) (hsum _ name)
  · exact (call_sameVerdict_iff (hnames _) htrends).2 _ trendStopsCall_reduceOne

/-- There are calls whose success hangs on their samples. -/
theorem not_sameVerdict_reduceOne :
    ¬∀ (c : Context ℝ) (a b : Args ℝ), c.registry = .standard → Args.Alike SameButSamples a b →
      Run.SameVerdict (c.call a) (c.call b) := by
  intro h
  have hsame := h firstSecond (reduceOne "linregress" [some 1, some 2])
    (reduceOne "linregress" [none, none]) rfl (reduceOne_alike "linregress" rfl)
  have hfails : Run.from (firstSecond.call (reduceOne "linregress" [none, none])) [] =
      (.error (.evaluation "a.reduce.linregress" "reducer linregress returned no series"), []) := rfl
  have hsucceeds : ∃ output, Run.from
      (firstSecond.call (reduceOne "linregress" [some 1, some 2])) [] = (.ok output, []) :=
    ⟨_, rfl⟩
  obtain ⟨output, hsucceeds⟩ := hsucceeds
  rw [← hsame.error_iff, hsucceeds] at hfails
  cases hfails

end MetricSeries

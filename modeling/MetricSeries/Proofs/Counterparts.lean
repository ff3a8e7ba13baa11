import MetricSeries.Proofs.BandRun
import MetricSeries.Proofs.Lockstep

/-!
What becomes of series that belong together.  Each operation makes of them series that belong
together again, as far as what it reads of them agrees, and the functions that can be called by name
are in step when the operations behind them are.
-/

set_option autoImplicit false

namespace MetricSeries

variable {α β γ : Type} {R S : Series α → Series α → Prop}

def KeyedAlike (R : Series α → Series α → Prop) (key key' : Series α → Option α)
    (p q : Option α × Series α) : Prop :=
  p.1 = key p.2 ∧ q.1 = key' q.2 ∧ R p.2 q.2

theorem sortDescending_alike [LT α] [DecidableLT α] {key key' : Series α → Option α}
    (hkey : ∀ s t s' t', R s t → R s' t' →
      keyBefore (key s) (key s') = keyBefore (key' t) (key' t'))
    {list list' : List (Series α)} (h : List.Forall₂ R list list') :
    List.Forall₂ R (sortDescending key list) (sortDescending key' list') := by
  have hcompare : ∀ p q p' q', KeyedAlike R key key' p q → KeyedAlike R key key' p' q' →
      keyBefore p.1 p'.1 = keyBefore q.1 q'.1 := by
    rintro p q p' q' ⟨hp, hq, hst⟩ ⟨hp', hq', hst'⟩
    rw [hp, hq, hp', hq']
    exact hkey _ _ _ _ hst hst'
  have hkeyed : List.Forall₂ (KeyedAlike R key key') (list.map fun s => (key s, s))
      (list'.map fun s => (key' s, s)) :=
    List.rel_map (fun _ _ hst => ⟨rfl, rfl, hst⟩) h
  exact List.rel_map (fun _ _ hpq => hpq.2.2) (forall₂_mergeSort hcompare hkeyed)

theorem limit_alike (n : Option Nat) {list list' : List (Series α)}
    (h : List.Forall₂ R list list') :
    List.Forall₂ R (limit n list) (limit n list') := by
  cases n with
  | none => exact h
  | some n => exact List.forall₂_take n h

theorem ratio_of_length_ne [Arith α] (function : String) (multiplier : α) {list : List (Series α)}
    (h : list.length ≠ 2) :
    ratio function multiplier list = .error (.argument function 0 (.notTwoSeries list.length)) := by
  unfold ratio
  split
  · exact absurd rfl h
  · rfl

def ratioOf [Arith α] (function : String) (multiplier : α) (a b : Series α) : Series α :=
  a.derive (callName function [a, b])
    ((alongside a.values b.values).map fun (x, y) => quotient multiplier x y)

theorem ratio_alike [Arith α] {S : Series α → Series α → Prop} {list list' : List (Series α)}
    (h : List.Forall₂ R list list') (function : String) (multiplier : α)
    (hpair : ∀ a b a' b', R a a' → R b b' →
      S (ratioOf function multiplier a b) (ratioOf function multiplier a' b')) :
    EndAlike (List.Forall₂ S) (ratio function multiplier list)
      (ratio function multiplier list') := by
  by_cases htwo : list.length = 2
  · obtain ⟨a, b, rfl⟩ := List.length_eq_two.1 htwo
    obtain ⟨a', b', rfl⟩ := List.length_eq_two.1 (h.length_eq.symm.trans htwo)
    obtain ⟨hfirst, hrest⟩ := List.forall₂_cons.1 h
    obtain ⟨hsecond, -⟩ := List.forall₂_cons.1 hrest
    exact .ok (.cons (hpair a b a' b' hfirst hsecond) .nil)
  · rw [ratio_of_length_ne function multiplier htwo,
      ratio_of_length_ne function multiplier (h.length_eq ▸ htwo), h.length_eq]
    exact .error _

def tooSparse [Arith α] (least : Option α) (s : Series α) : Bool :=
  match least with
  | some least => decide (presence s < least)
  | none => false

/-- A line through the samples of a series, at each step of the window. -/
def trendAlong [Arith α] (window : Window) (s : Series α) (line : Line α) : Series α :=
  let start := window.start.seconds
  let step := max 1 s.step
  let count := stepsWithin start window.stop.seconds step
  let values := (List.range count).map fun (i : Nat) =>
    let t := start + i * step
    some (line.value (((t - s.start : Int) : α) / (step : α)))
  { Series.named ("linregress(" ++ s.name ++ ")") start (lastTime start step count) step values
    with consolidation := s.consolidation }

theorem trend_eq [Arith α] (window : Window) (least : Option α) (s : Series α) :
    trend window least s =
      if tooSparse least s then none
      else (Line.fit? (indexed s.values)).map (trendAlong window s) :=
  rfl

theorem length_indexed [NatCast α] (xs : Samples α) :
    (indexed xs).length = xs.countP Option.isSome := by
  have hsome : xs.zipIdx.countP (fun p => (p.1.map fun x => ((p.2 : α), x)).isSome) =
      (xs.zipIdx.map Prod.fst).countP Option.isSome := by
    rw [List.countP_map]
    exact congrArg (List.countP · xs.zipIdx) (funext fun p => Option.isSome_map)
  unfold indexed
  rw [List.length_filterMap_eq_countP, hsome, List.zipIdx_map_fst]

theorem indexed_eq_nil_iff [NatCast α] {xs : Samples α} :
    indexed xs = [] ↔ ∀ x ∈ xs, x = none := by
  rw [← List.length_eq_zero_iff, length_indexed, List.countP_eq_zero]
  simp

theorem fit?_eq_none_iff [Arith α] {points : List (α × α)} :
    Line.fit? points = none ↔ points = [] := by
  unfold Line.fit?
  cases points with
  | nil => simp
  | cons point points => simp

theorem trend_alike [Arith α] {L : Line α → Line α → Prop} (window : Window) {least : Option α}
    {s t : Series α} (hsparse : tooSparse least s = tooSparse least t)
    (hline : Option.Rel L (Line.fit? (indexed s.values)) (Line.fit? (indexed t.values)))
    (halong : ∀ l l', L l l' → R (trendAlong window s l) (trendAlong window t l')) :
    Option.Rel R (trend window least s) (trend window least t) := by
  rw [trend_eq, trend_eq, hsparse]
  by_cases hsparse : tooSparse least t = true
  · rw [if_pos hsparse, if_pos hsparse]
    exact .none
  · rw [if_neg hsparse, if_neg hsparse]
    generalize Line.fit? (indexed s.values) = x at *
    generalize Line.fit? (indexed t.values) = y at *
    cases hline with
    | none => exact .none
    | some h => exact .some (halong _ _ h)

theorem nPercentile_alike [Arith α] [NumberText α] (interpolate : Bool) (p : α)
    (hlevel : ∀ s t, R s t →
      Option.Rel S (percentileLevel interpolate p s) (percentileLevel interpolate p t))
    {list list' : List (Series α)} (h : List.Forall₂ R list list') :
    EndAlike (List.Forall₂ S) (nPercentile interpolate p list)
      (nPercentile interpolate p list') := by
  unfold nPercentile
  split
  · exact .error _
  · exact .ok (List.rel_filterMap hlevel h)

section
variable (hname : ∀ s t, R s t → s.name = t.name)
  (hlabel : ∀ s t name, R s t → S (relabel name s) (relabel name t))
include hname hlabel

theorem relabelByNode_alike (nodes : List Int) {s t : Series α} (h : R s t) :
    EndAlike S (relabelByNode nodes s) (relabelByNode nodes t) := by
  unfold relabelByNode
  rw [hname s t h]
  refine (EndAlike.of_eq rfl fun _ => rfl).bind fun found found' hfound => .ok ?_
  subst hfound
  exact hlabel s t _ h

theorem relabelByPattern_alike (pattern replacement : String) {list list' : List (Series α)}
    (h : List.Forall₂ R list list') :
    EndAlike (List.Forall₂ S) (relabelByPattern pattern replacement list)
      (relabelByPattern pattern replacement list') := by
  unfold relabelByPattern relabelThrough
  cases Pattern.compile? pattern with
  | none => exact .error _
  | some p =>
    refine .ok (List.rel_map (fun s t hst => ?_) h)
    rw [hname s t hst]
    exact hlabel s t _ hst

end

def SameKey {κ : Type} (R : β → γ → Prop) (x : κ × β) (y : κ × γ) : Prop :=
  x.1 = y.1 ∧ R x.2 y.2

theorem addToGroup_alike {κ : Type} [DecidableEq κ] {R : β → γ → Prop} (key : κ) {item : β}
    {item' : γ} (hitem : R item item') {groups : List (κ × List β)} {groups' : List (κ × List γ)}
    (h : List.Forall₂ (SameKey (List.Forall₂ R)) groups groups') :
    List.Forall₂ (SameKey (List.Forall₂ R)) (addToGroup key item groups)
      (addToGroup key item' groups') := by
  induction h with
  | nil => exact .cons ⟨rfl, .cons hitem .nil⟩ .nil
  | @cons group group' rest rest' hgroup hrest ih =>
    obtain ⟨k, items⟩ := group
    obtain ⟨k', items'⟩ := group'
    obtain ⟨rfl, hitems⟩ := hgroup
    unfold addToGroup
    by_cases hk : k = key
    · rw [if_pos hk, if_pos hk]
      exact .cons ⟨rfl, List.rel_append hitems (.cons hitem .nil)⟩ hrest
    · rw [if_neg hk, if_neg hk]
      exact .cons ⟨rfl, hitems⟩ ih

theorem mapSeries_alike (hname : ∀ s t, R s t → s.name = t.name) (node : Int)
    {list list' : List (Series α)} (h : List.Forall₂ R list list') :
    EndAlike (List.Forall₂ (List.Forall₂ R)) (mapSeries node list) (mapSeries node list') := by
  have hkeyed : EndAlike (List.Forall₂ (SameKey R))
      (list.mapM fun s => (nodeAt s.name node).map fun found => (found.2, s))
      (list'.mapM fun s => (nodeAt s.name node).map fun found => (found.2, s)) := by
    refine .mapM h fun s t hst => ?_
    rw [hname s t hst]
    exact (EndAlike.of_eq rfl fun _ => rfl).map fun _ _ hfound => ⟨congrArg Prod.snd hfound, hst⟩
  refine hkeyed.bind fun items items' hitems => ?_
  have hgroups : List.Forall₂ (SameKey (List.Forall₂ R)) (groupByKey items)
      (groupByKey items') := by
    refine List.rel_foldl (fun _ _ hgroups item item' hitem => ?_) .nil hitems
    obtain ⟨key, s⟩ := item
    obtain ⟨key', t⟩ := item'
    obtain ⟨rfl, hst⟩ := hitem
    exact addToGroup_alike key hst hgroups
  have hsnd : ∀ (x : String × List (Series α)) y, SameKey (List.Forall₂ R) x y →
      List.Forall₂ R x.2 y.2 := fun _ _ h => h.2
  exact .ok (List.rel_map hsnd hgroups)

/-- Reductions of one name, with series that belong together in the slots. -/
def Reduction.Alike (R : Series α → Series α → Prop) (r r' : Reduction α) : Prop :=
  r.name = r'.name ∧ List.Forall₂ (Option.Rel R) r.slots r'.slots

theorem forall₂_replicate_none (n : Nat) :
    List.Forall₂ (Option.Rel R) (List.replicate n none) (List.replicate n none) := by
  induction n with
  | zero => exact .nil
  | succ n ih => exact .cons .none ih

theorem fillSlot_alike (width : Nat) (name : String) (slot : Nat) {s t : Series α} (hst : R s t)
    {table table' : List (Reduction α)} (h : List.Forall₂ (Reduction.Alike R) table table') :
    List.Forall₂ (Reduction.Alike R) (fillSlot width name slot s table)
      (fillSlot width name slot t table') := by
  induction h with
  | nil => exact .cons ⟨rfl, forall₂_set (forall₂_replicate_none width) slot (.some hst)⟩ .nil
  | @cons r r' rest rest' hr hrest ih =>
    obtain ⟨hname, hslots⟩ := hr
    unfold fillSlot
    rw [hname]
    by_cases hr : r'.name = name
    · rw [if_pos hr, if_pos hr]
      exact .cons ⟨rfl, forall₂_set hslots slot (.some hst)⟩ hrest
    · rw [if_neg hr, if_neg hr]
      exact .cons ⟨hname, hslots⟩ ih

theorem placeSeries_alike (hname : ∀ s t, R s t → s.name = t.name) (reducer : String) (node : Int)
    (matchers : List String) {table table' : List (Reduction α)}
    (h : List.Forall₂ (Reduction.Alike R) table table') {s t : Series α} (hst : R s t) :
    EndAlike (List.Forall₂ (Reduction.Alike R)) (placeSeries reducer node matchers table s)
      (placeSeries reducer node matchers table' t) := by
  unfold placeSeries
  rw [hname s t hst]
  refine (EndAlike.of_eq rfl fun _ => rfl).bind fun found found' hfound => ?_
  subst hfound
  obtain ⟨stem, fragment⟩ := found
  dsimp only
  cases matchers.findIdx? (· == fragment) with
  | none => exact .ok h
  | some slot => exact .ok (fillSlot_alike _ _ slot hst h)

theorem Reduction.members_alike {r r' : Reduction α} (h : Reduction.Alike R r r')
    (matchers : List String) :
    EndAlike (List.Forall₂ R) (r.members matchers) (r'.members matchers) := by
  obtain ⟨hname, hslots⟩ := h
  unfold Reduction.members
  rw [hname]
  generalize r.slots = slots at *
  generalize r'.slots = slots' at *
  induction hslots generalizing matchers with
  | nil => exact .ok .nil
  | cons hslot _ ih =>
    cases matchers with
    | nil => exact .ok .nil
    | cons matcher matchers =>
      rw [List.zip_cons_cons, List.zip_cons_cons, List.mapM_cons, List.mapM_cons]
      refine EndAlike.bind (R := R) ?_ fun _ _ hs => (ih matchers).bind fun _ _ hrest =>
        .ok (.cons hs hrest)
      cases hslot with
      | none => exact .error _
      | some hst => exact .ok hst

/-- Reducers in step on members that belong together. -/
def ReducersAlike (R T : Series α → Series α → Prop) (reducer : String)
    (run run' : Args α → Run (Output α)) : Prop :=
  ∀ members members', List.Forall₂ R members members' →
    Run.InStep (Output.Alike T) (run (.ofList reducer [.list members]))
      (run' (.ofList reducer [.list members']))

theorem Reduction.inStep_reduce {T : Series α → Series α → Prop}
    {run run' : Args α → Run (Output α)} {reducer : String}
    (hrun : ReducersAlike R T reducer run run')
    (hrename : ∀ s t name, T s t → S (s.rename name) (t.rename name)) (matchers : List String)
    {r r' : Reduction α} (h : Reduction.Alike R r r') :
    Run.InStep S (r.reduce run reducer matchers) (r'.reduce run' reducer matchers) := by
  unfold Reduction.reduce
  rw [h.1]
  refine (Run.InStep.lift (Reduction.members_alike h matchers)).bind fun _ _ hmembers => ?_
  refine (hrun _ _ hmembers).bind fun _ _ houtput => ?_
  refine (Run.InStep.lift houtput.asList).bind fun _ _ hlist => ?_
  cases hlist with
  | nil => exact .throw _
  | cons hfirst _ => exact .pure (hrename _ _ _ hfirst)

/-- Reductions by reducers in step are in step. -/
theorem inStep_reduceSeries {T : Series α → Series α → Prop} {reducer : String}
    {lookup lookup' : String → Option (Args α → Run (Output α))}
    (hname : ∀ s t, R s t → s.name = t.name)
    (hlookup : Option.Rel (ReducersAlike R T reducer) (lookup reducer) (lookup' reducer))
    (hrename : ∀ s t name, T s t → S (s.rename name) (t.rename name)) (node : Int)
    (matchers : List String) {list list' : List (Series α)} (h : List.Forall₂ R list list') :
    Run.InStep (List.Forall₂ S) (reduceSeries lookup reducer node matchers list)
      (reduceSeries lookup' reducer node matchers list') := by
  unfold reduceSeries
  generalize lookup reducer = known at *
  generalize lookup' reducer = known' at *
  cases hlookup with
  | none => exact .throw _
  | some hrun =>
    have htable := EndAlike.foldlM h (fun _ _ _ _ htable hst =>
      placeSeries_alike hname reducer node matchers htable hst) .nil
    exact (Run.InStep.lift htable).bind fun _ _ hrows =>
      .mapM hrows fun _ _ hrow => Reduction.inStep_reduce hrun hrename matchers hrow

/-- Evaluators that answer every question alike. -/
def EvaluatorsAlike (T : Series α → Series α → Prop) (evaluate evaluate' : Evaluator α) : Prop :=
  ∀ log window target,
    EndAlike (List.Forall₂ T) (evaluate log window target) (evaluate' log window target)

/-- Scopes of one window and one configuration, in which histories belong together. -/
structure Scope.Alike (T : Series α → Series α → Prop) (scope scope' : Scope α) : Prop where
  window_eq : scope.window = scope'.window
  config_eq : scope.config = scope'.config
  evaluator : Option.Rel (EvaluatorsAlike T) scope.evaluator scope'.evaluator

section
variable {T : Series α → Series α → Prop} {scope scope' : Scope α}

theorem optionRel_refl {β : Type} {R : β → β → Prop} (hR : ∀ b, R b b) (x : Option β) :
    Option.Rel R x x := by
  cases x with
  | none => exact .none
  | some b => exact .some (hR b)

theorem EvaluatorsAlike.refl (hT : ∀ s, T s s) (evaluate : Evaluator α) :
    EvaluatorsAlike T evaluate evaluate :=
  fun _ _ _ => .of_eq rfl fun _ => List.forall₂_same.2 fun s _ => hT s

theorem Scope.Alike.refl (hT : ∀ s, T s s) (scope : Scope α) : Scope.Alike T scope scope :=
  ⟨rfl, rfl, optionRel_refl (EvaluatorsAlike.refl hT) _⟩

/-- Contexts of one window and one configuration, in which histories belong together. -/
structure Context.Alike (T : Series α → Series α → Prop) (c c' : Context α) : Prop where
  window_eq : c.window = c'.window
  config_eq : c.config = c'.config
  evaluator : Option.Rel (EvaluatorsAlike T) c.evaluator c'.evaluator

theorem Context.Alike.toScope {c c' : Context α} (h : Context.Alike T c c') (depth : Nat) :
    Scope.Alike T (c.scope depth) (c'.scope depth) := by
  cases depth <;> exact ⟨h.window_eq, h.config_eq, h.evaluator⟩

theorem Scope.Alike.inStep_fetch (h : Scope.Alike T scope scope') (window : Window)
    (target : String) :
    Run.InStep (List.Forall₂ T) (scope.fetch window target) (scope'.fetch window target) := by
  have hevaluator := h.evaluator
  unfold Scope.fetch
  generalize scope.evaluator = x at *
  generalize scope'.evaluator = y at *
  cases hevaluator with
  | none => exact .throw _
  | some hanswer => exact fun log => ⟨rfl, hanswer log window target⟩

/-- Part by part: series of one expression have bands alike if histories that belong together make
them so. -/
theorem inStep_bandParts [Arith α] [NumberText α] {list list' : List (Series α)}
    (hscope : Scope.Alike T scope scope') (call : BandCall) (hlist : List.Forall₂ R list list')
    (htarget : ∀ s t, R s t → s.target = t.target)
    (hbands : ∀ (plan : BandPlan α) tiles s t history history', R s t → T history history' →
      List.Forall₂ S (bandsOf plan tiles call s history) (bandsOf plan tiles call t history')) :
    Run.InStep (List.Forall₂ (List.Forall₂ S)) (bandParts scope call list)
      (bandParts scope' call list') := by
  unfold bandParts askBands
  rw [← hscope.window_eq]
  refine Run.InStep.lift_bind fun plan _ => Run.InStep.mapM hlist fun s t hst => ?_
  rw [htarget s t hst]
  refine (hscope.inStep_fetch plan.history t.target).bind fun histories histories' hall => ?_
  cases hall with
  | nil => exact .pure .nil
  | cons hhistory _ => exact .pure (hbands plan _ s t _ _ hst hhistory)

end

namespace Function

variable {a b : Args α} {scope scope' : Scope α}

theorem inStep_ofList {f f' : Scope α → List (Series α) → List (Series α)}
    (h : Args.Alike R a b)
    (hf : ∀ list list', List.Forall₂ R list list' →
      List.Forall₂ S (f scope list) (f' scope' list')) :
    Run.InStep (Output.Alike S) (ofList f scope a) (ofList f' scope' b) :=
  (Run.InStep.lift (h.takeList 0).1).bind fun _ _ hlist => .pure (.list (hf _ _ hlist))

theorem inStep_ofLists {f f' : List (Series α) → Except Error (List (Series α))}
    (h : Args.Alike R a b)
    (hf : ∀ list list', List.Forall₂ R list list' →
      EndAlike (List.Forall₂ S) (f list) (f' list')) :
    Run.InStep (Output.Alike S) (ofLists f scope a) (ofLists f' scope' b) :=
  (Run.InStep.lift (h.takeListsFrom 0)).bind fun _ _ hlist =>
    (Run.InStep.lift (hf _ _ hlist)).bind fun _ _ hresult => .pure (.list hresult)

theorem inStep_withArgument {δ δ' : Type} {T : δ → δ' → Prop} {read : Args α → Except Error δ}
    {read' : Args α → Except Error δ'}
    {f : Scope α → δ → List (Series α) → Except Error (List (Series α))}
    {f' : Scope α → δ' → List (Series α) → Except Error (List (Series α))}
    (h : EndAlike (List.Forall₂ R) (a.takeList 0).1 (b.takeList 0).1)
    (hread : EndAlike T (read a) (read' b))
    (hf : ∀ d d' list list', T d d' → List.Forall₂ R list list' →
      EndAlike (List.Forall₂ S) (f scope d list) (f' scope' d' list')) :
    Run.InStep (Output.Alike S) (withArgument read f scope a)
      (withArgument read' f' scope' b) :=
  (Run.InStep.lift hread).bind fun _ _ hd =>
    (Run.InStep.lift h).bind fun _ _ hlist =>
      (Run.InStep.lift (hf _ _ _ _ hd hlist)).bind fun _ _ hresult => .pure (.list hresult)

theorem inStep_eachWith {δ δ' : Type} {T : δ → δ' → Prop} {read : Args α → Except Error δ}
    {read' : Args α → Except Error δ'} {f : Scope α → δ → Series α → Series α}
    {f' : Scope α → δ' → Series α → Series α}
    (h : EndAlike (List.Forall₂ R) (a.takeList 0).1 (b.takeList 0).1)
    (hread : EndAlike T (read a) (read' b))
    (hf : ∀ d d' s t, T d d' → R s t → S (f scope d s) (f' scope' d' t)) :
    Run.InStep (Output.Alike S) (eachWith read f scope a) (eachWith read' f' scope' b) :=
  inStep_withArgument h hread fun d d' _ _ hd hlist =>
    .ok (List.rel_map (fun s t hst => hf d d' s t hd hst) hlist)

theorem inStep_grouping [Arith α] (hname : ∀ s t, R s t → s.name = t.name)
    (h : Args.Alike R a b) :
    Run.InStep (Output.Alike R) (grouping scope a) (grouping scope' b) := by
  unfold grouping
  rw [h.int_eq]
  refine Run.InStep.lift_bind fun node _ => ?_
  refine (Run.InStep.lift (h.takeList 0).1).bind fun list list' hlist => ?_
  exact (Run.InStep.lift (mapSeries_alike hname node hlist)).bind fun _ _ hgroups =>
    .pure (.groups hgroups)

theorem inStep_reduction [Arith α] {T : Series α → Series α → Prop} (h : Args.Alike R a b)
    (hname : ∀ s t, R s t → s.name = t.name)
    (hlookup : ∀ reducer node matchers groups, a.text 1 = .ok reducer → a.int 2 = .ok node →
      a.textsFrom 3 = .ok matchers → (a.takeGroups 0).1 = .ok groups →
      Option.Rel (ReducersAlike R T reducer) (scope.lookup reducer) (scope'.lookup reducer))
    (hrename : ∀ s t name, T s t → S (s.rename name) (t.rename name)) :
    Run.InStep (Output.Alike S) (reduction scope a) (reduction scope' b) := by
  unfold reduction
  rw [← h.text_eq, ← h.int_eq, ← h.textsFrom_eq]
  refine Run.InStep.lift_bind fun reducer hreducer => Run.InStep.lift_bind fun node hnode => ?_
  refine Run.InStep.lift_bind fun matchers hmatchers => ?_
  refine Run.InStep.bind_of_alike (h.takeGroups 0) fun groups _ htaken _ hgroups => ?_
  have hknown := hlookup reducer node matchers groups hreducer hnode hmatchers htaken
  have hreduced := inStep_reduceSeries hname hknown hrename node matchers
    (List.rel_flatten hgroups)
  exact hreduced.bind fun _ _ hlist => .pure (.list hlist)

theorem inStep_bands [Arith α] [NumberText α] {T : Series α → Series α → Prop}
    (hscope : Scope.Alike T scope scope') (h : Args.Alike R a b)
    (htarget : ∀ s t, R s t → s.target = t.target)
    (hbands : ∀ (plan : BandPlan α) tiles call s t history history', R s t → T history history' →
      List.Forall₂ S (bandsOf plan tiles call s history) (bandsOf plan tiles call t history')) :
    Run.InStep (Output.Alike S) (bands scope a) (bands scope' b) := by
  unfold bands
  rw [h.textOr_eq, h.countOr_eq, ← hscope.config_eq]
  refine Run.InStep.lift_bind fun period _ => Run.InStep.lift_bind fun repeats _ => ?_
  refine Run.InStep.lift_bind fun factor _ => ?_
  refine (Run.InStep.lift (h.takeList 0).1).bind fun list list' hlist => ?_
  rw [sixSigma_eq_bandParts, sixSigma_eq_bandParts, bind_assoc, bind_assoc]
  have hparts := inStep_bandParts hscope ⟨period, repeats, factor⟩ hlist htarget
    fun plan tiles => hbands plan tiles _
  exact hparts.bind fun _ _ hall => .pure (.list (List.rel_flatten hall))

end Function

end MetricSeries

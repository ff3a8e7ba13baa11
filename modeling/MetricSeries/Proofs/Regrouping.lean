import Mathlib
import MetricSeries.Call.Standard
import MetricSeries.Proofs.Exact
import MetricSeries.Proofs.Groups

set_option autoImplicit false

namespace MetricSeries

variable {α : Type}

/-- Two series that match, have the same nodes before the index, and there the same fragment. -/
def Rivals (node : Int) (matchers : List String) (s t : Series α) : Prop :=
  HasNode s.name node ∧ HasNode t.name node ∧ fragmentAt s.name node ∈ matchers ∧
    stemAt s.name node = stemAt t.name node ∧ fragmentAt s.name node = fragmentAt t.name node

theorem Rivals.symm {node : Int} {matchers : List String} {s t : Series α}
    (h : Rivals node matchers s t) : Rivals node matchers t s := by
  obtain ⟨hs, ht, hmatch, hstem, hfragment⟩ := h
  exact ⟨ht, hs, hfragment ▸ hmatch, hstem.symm, hfragment.symm⟩

section
variable {node : Int} {matchers : List String} {list list' : List (Series α)} {stem : List String}

theorem MeantFor.rivals {k : Nat} {s t : Series α} (hs : MeantFor node matchers stem k s)
    (ht : MeantFor node matchers stem k t) (hnode : HasNode s.name node)
    (hnode' : HasNode t.name node) : Rivals node matchers s t := by
  have hfragment : fragmentAt s.name node = fragmentAt t.name node :=
    Option.some.inj (hs.2.1.symm.trans ht.2.1)
  exact ⟨hnode, hnode', List.mem_of_getElem? hs.2.1, hs.1.trans ht.1.symm, hfragment⟩

/-- Where no two series are rivals, the member of a slot is the one that is meant for it, wherever
in the list it stands. -/
theorem isMember_iff_of_pairwise (hapart : list.Pairwise fun s t => ¬Rivals node matchers s t)
    (hnodes : ∀ s ∈ list, HasNode s.name node) {k : Nat} {s : Series α} :
    IsMember node matchers list stem k s ↔ s ∈ list ∧ MeantFor node matchers stem k s := by
  constructor
  · rintro ⟨before, after, rfl, hs, _⟩
    exact ⟨by simp, hs⟩
  · rintro ⟨hmem, hs⟩
    obtain ⟨before, after, rfl⟩ := List.append_of_mem hmem
    refine ⟨before, after, rfl, hs, fun t ht hmeant => ?_⟩
    have hrest := (List.pairwise_append.1 hapart).2.1
    have hnone := (List.pairwise_cons.1 hrest).1 t ht
    exact hnone (hs.rivals hmeant (hnodes s hmem) (hnodes t (by simp [ht])))

theorem reductionStems_perm (h : list.Perm list') :
    (reductionStems node matchers list).Perm (reductionStems node matchers list') := by
  refine (List.perm_ext_iff_of_nodup (nodup_eraseDups _) (nodup_eraseDups _)).2 fun stem => ?_
  rw [List.mem_eraseDups, List.mem_eraseDups]
  exact ((h.filter _).map _).mem_iff

theorem reductionRow_perm (reducer : String) (h : list.Perm list')
    (hapart : list.Pairwise fun s t => ¬Rivals node matchers s t)
    (hnodes : ∀ s ∈ list, HasNode s.name node) :
    reductionRow reducer node matchers list = reductionRow reducer node matchers list' := by
  have hsymm : ∀ {s t : Series α}, ¬Rivals node matchers s t → ¬Rivals node matchers t s :=
    fun hno hrivals => hno hrivals.symm
  have hapart' := (h.pairwise_iff hsymm).1 hapart
  have hnodes' : ∀ s ∈ list', HasNode s.name node := fun s hs => hnodes s (h.mem_iff.2 hs)
  funext stem
  refine congrArg (Reduction.mk _) (List.map_congr_left fun k _ => Option.ext fun s => ?_)
  rw [memberOf_eq_some_iff, memberOf_eq_some_iff, isMember_iff_of_pairwise hapart hnodes,
    isMember_iff_of_pairwise hapart' hnodes', h.mem_iff]

end

theorem steady_reduce {run : Args α → Run (Output α)} (h : ∀ args, (run args).Steady)
    (reducer : String) (matchers : List String) (r : Reduction α) :
    (r.reduce run reducer matchers).Steady := by
  unfold Reduction.reduce
  refine (Run.Steady.lift _).bind fun members => (h _).bind fun output => ?_
  refine (Run.Steady.lift _).bind fun list => ?_
  cases list with
  | nil => exact .lift (.error _)
  | cons s more => exact .lift (.ok _)

theorem mapM_perm {ε β γ : Type} {f : β → Except ε γ} {list list' : List β} {result : List γ}
    (h : list.Perm list') (hresult : list'.mapM f = .ok result) :
    ∃ result', list.mapM f = .ok result' ∧ result'.Perm result := by
  obtain ⟨result', hall, hperm⟩ :=
    List.perm_comp_forall₂ h (mapM_eq_ok_iff_forall₂.1 hresult)
  exact ⟨result', mapM_eq_ok_iff_forall₂.2 hall, hperm⟩

section
variable {lookup : String → Option (Args α → Run (Output α))} {reducer : String} {node : Int}
  {matchers : List String} {list list' : List (Series α)}

theorem reduceSeries_eq_ok {run : Args α → Run (Output α)} (hrun : lookup reducer = some run)
    (hsteady : ∀ args, (run args).Steady) {log : List Fetch} {result : List (Series α)} :
    (Run.from (reduceSeries lookup reducer node matchers list) log).1 = .ok result ↔
      (∀ s ∈ list, HasNode s.name node) ∧
      ((reductionStems node matchers list).mapM fun stem =>
        ((reductionRow reducer node matchers list stem).reduce run reducer matchers).value) =
          .ok result := by
  unfold reduceSeries
  rw [hrun]
  dsimp only
  rw [Run.from_lift_bind]
  rcases hasNode_cases node list with hall | ⟨before, s, after, rfl, hbefore, hs⟩
  · have hrows := steady_reduce hsteady reducer matchers
    rw [foldlM_placeSeries reducer node matchers hall]
    dsimp only
    rw [Run.Steady.mapM hrows _ log [], ← Run.value, Run.Steady.value_mapM hrows, List.mapM_map]
    exact (and_iff_right hall).symm
  · rw [foldlM_placeSeries_error reducer matchers hbefore hs]
    exact iff_of_false (fun h => by cases h) fun h => hs (h.1 s (by simp))

/-- The order of the list decides nothing but the order of the result. -/
theorem reduceSeries_perm (hsteady : ∀ run, lookup reducer = some run → ∀ args, (run args).Steady)
    (h : list.Perm list') (hapart : list.Pairwise fun s t => ¬Rivals node matchers s t)
    {log log' : List Fetch} {result : List (Series α)}
    (hresult : (Run.from (reduceSeries lookup reducer node matchers list') log').1 = .ok result) :
    ∃ result', (Run.from (reduceSeries lookup reducer node matchers list) log).1 = .ok result' ∧
      result'.Perm result := by
  cases hrun : lookup reducer with
  | none =>
    unfold reduceSeries at hresult
    rw [hrun] at hresult
    cases hresult
  | some run =>
    obtain ⟨hnodes', hstems'⟩ := (reduceSeries_eq_ok hrun (hsteady run hrun)).1 hresult
    have hnodes : ∀ s ∈ list, HasNode s.name node := fun s hs => hnodes' s (h.mem_iff.1 hs)
    rw [← reductionRow_perm reducer h hapart hnodes] at hstems'
    obtain ⟨result', hstems, hperm⟩ := mapM_perm (reductionStems_perm h) hstems'
    exact ⟨result', (reduceSeries_eq_ok hrun (hsteady run hrun)).2 ⟨hnodes, hstems⟩, hperm⟩

end

/-- With a reducer that does not look back and no two series that compete for a slot, reducing the
groups of a mapping succeeds exactly when reducing the list does, with the same series in some
order, whatever node the list was mapped by. -/
theorem reduceSeries_mapSeries (scope : Scope α) (reducer : String) (node mapped : Int)
    (matchers : List String) {list : List (Series α)} {groups : List (List (Series α))}
    (hsteady : ∀ run, scope.lookup reducer = some run → ∀ args, (run args).Steady)
    (hmap : mapSeries mapped list = .ok groups)
    (hapart : list.Pairwise fun s t => ¬Rivals node matchers s t) (log log' : List Fetch) :
    let grouped := (Run.from (reduceSeries scope.lookup reducer node matchers groups.flatten) log).1
    let plain := (Run.from (reduceSeries scope.lookup reducer node matchers [list].flatten) log').1
    ((∃ result, grouped = .ok result) ↔ ∃ result, plain = .ok result) ∧
    ∀ result result', grouped = .ok result → plain = .ok result' → result.Perm result' := by
  intro grouped plain
  have hperm := mapSeries_perm hmap
  rw [← List.flatten_singleton (l := list)] at hperm
  have hapart' : groups.flatten.Pairwise fun s t => ¬Rivals node matchers s t := by
    refine (hperm.pairwise_iff fun hno hrivals => hno hrivals.symm).2 ?_
    rwa [List.flatten_singleton]
  rw [← List.flatten_singleton (l := list)] at hapart
  refine ⟨⟨?_, ?_⟩, ?_⟩
  · rintro ⟨result, hresult⟩
    obtain ⟨result', hresult', _⟩ := reduceSeries_perm hsteady hperm.symm hapart hresult
    exact ⟨result', hresult'⟩
  · rintro ⟨result, hresult⟩
    obtain ⟨result', hresult', _⟩ := reduceSeries_perm hsteady hperm hapart' hresult
    exact ⟨result', hresult'⟩
  · intro result result' hresult hresult'
    obtain ⟨result'', hsame, horder⟩ := reduceSeries_perm hsteady hperm hapart' hresult'
    obtain rfl : result = result'' := Except.ok.inj (hresult.symm.trans hsame)
    exact horder

noncomputable def builtIn : Context ℝ :=
  .standard (Context.nearWindow 7200 10800)

theorem steady_ofLists (f : List (Series α) → Except Error (List (Series α))) (scope : Scope α)
    (args : Args α) : (Function.ofLists f scope args).Steady :=
  (Run.Steady.lift _).bind fun _ => (Run.Steady.lift _).bind fun result => .pure (Output.list result)

def twoReductions : List (Series ℝ) :=
  [.ofValues "p.a.other" 7200 60 [1, 1], .ofValues "q.b.x" 7200 60 [0, 1],
    .ofValues "p.a.x" 7200 60 [1], .ofValues "q.b.y" 7200 60 [1, 0], .ofValues "p.a.y" 7200 60 [0]]

theorem reduceSeries_mapSeries_twoReductions :
    ∃ groups grouped plain, mapSeries 0 twoReductions = .ok groups ∧
      (Run.from (reduceSeries (builtIn.scope 1).lookup "sumSeries" 2 ["x", "y"]
        groups.flatten) []).1 = .ok grouped ∧
      (Run.from (reduceSeries (builtIn.scope 1).lookup "sumSeries" 2 ["x", "y"]
        [twoReductions].flatten) []).1 = .ok plain ∧
      grouped.Perm plain ∧ grouped.map Series.name = (plain.map Series.name).reverse := by
  have hlookup : (builtIn.scope 1).lookup "sumSeries" =
      some (Function.ofLists (fun list => .ok (combine .sum list)) (builtIn.scope 0)) := rfl
  have hsteady : ∀ run, (builtIn.scope 1).lookup "sumSeries" = some run →
      ∀ args, (run args).Steady := by
    intro run hrun args
    obtain rfl := Option.some.inj (hlookup.symm.trans hrun)
    exact steady_ofLists _ _ args
  have hapart : twoReductions.Pairwise fun s t => ¬Rivals 2 ["x", "y"] s t := by
    unfold Rivals
    decide
  obtain ⟨_, hsame⟩ := reduceSeries_mapSeries (builtIn.scope 1) "sumSeries" 2 0 ["x", "y"] hsteady rfl
    hapart [] []
  exact ⟨_, _, _, rfl, rfl, rfl, hsame _ _ rfl rfl, rfl⟩

end MetricSeries

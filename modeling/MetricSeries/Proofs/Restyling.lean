import Mathlib
import MetricSeries.Proofs.Exact
import MetricSeries.Proofs.Program

set_option autoImplicit false

namespace MetricSeries

variable {α : Type}

/-- Series that agree in all but their names and the way they are drawn. -/
structure SameButLook (s t : Series α) : Prop where
  path_eq : s.path = t.path
  start_eq : s.start = t.start
  finish_eq : s.finish = t.finish
  step_eq : s.step = t.step
  values_eq : s.values = t.values
  consolidation_eq : s.consolidation = t.consolidation

/-- Series that agree in all but their names and expressions. -/
def SameButName (s t : Series α) : Prop :=
  ∃ name path, t = { s with name := name, path := path }

namespace SameButLook

theorem refl (s : Series α) : SameButLook s s :=
  ⟨rfl, rfl, rfl, rfl, rfl, rfl⟩

variable {s t u : Series α}

theorem trans (h : SameButLook s t) (h' : SameButLook t u) : SameButLook s u where
  path_eq := h.path_eq.trans h'.path_eq
  start_eq := h.start_eq.trans h'.start_eq
  finish_eq := h.finish_eq.trans h'.finish_eq
  step_eq := h.step_eq.trans h'.step_eq
  values_eq := h.values_eq.trans h'.values_eq
  consolidation_eq := h.consolidation_eq.trans h'.consolidation_eq

/-- A series with an expression is evaluated by it, whatever its name. -/
theorem target_eq (h : SameButLook s t) (hpath : s.path ≠ "") : s.target = t.target := by
  unfold Series.target
  rw [if_neg hpath, if_neg (h.path_eq ▸ hpath), h.path_eq]

theorem bandsOf [Arith α] [NumberText α] (h : SameButLook s t) (plan : BandPlan α) (tiles : Nat)
    (call : BandCall) (history : Series α) :
    List.Forall₂ SameButName (bandsOf plan tiles call s history)
      (bandsOf plan tiles call t history) := by
  have hband : ∀ n name name' values, SameButName (bandSeries plan tiles n s name values)
      (bandSeries plan tiles n t name' values) := by
    intro n name name' values
    refine ⟨name', name', ?_⟩
    unfold bandSeries
    rw [h.consolidation_eq]
    rfl
  unfold MetricSeries.bandsOf
  dsimp only
  split
  · exact .nil
  · exact .cons (hband _ _ _ _) (.cons (hband _ _ _ _) (.cons (hband _ _ _ _) .nil))

end SameButLook

theorem sameButLook_relabelByNode {nodes : List Int} {s t : Series α}
    (h : relabelByNode nodes s = .ok t) : SameButLook s t := by
  obtain ⟨names, -, h⟩ := except_bind_eq_ok.1 h
  cases h
  exact ⟨rfl, rfl, rfl, rfl, rfl, rfl⟩

theorem sameButLook_relabelByPattern {pattern replacement : String} {list result : List (Series α)}
    (h : relabelByPattern pattern replacement list = .ok result) :
    List.Forall₂ SameButLook list result := by
  unfold relabelByPattern relabelThrough at h
  split at h
  · cases h
  · cases h
    refine List.forall₂_map_right_iff.2 (List.forall₂_same.2 fun s _ => ?_)
    exact ⟨rfl, rfl, rfl, rfl, rfl, rfl⟩

/-- Series that agree in all that bands are made of. -/
def SameSource (s t : Series α) : Prop :=
  s.target = t.target ∧ SameButLook s t

def restylingNames : List String :=
  ["alias", "aliasSub", "aliasByNode", "color", "alpha", "lineWidth", "secondYAxis",
    "drawAsInfinite"]

namespace Function

/-- What the function gives for a list are the series of the list, in their places, with names and
drawing of their own. -/
def Restyles (f : Function α) : Prop :=
  ∀ scope args list, (args.takeList 0).1 = .ok list → Run.Yields (f scope args) fun output =>
    ∃ restyled, output = .list restyled ∧ List.Forall₂ SameButLook list restyled

theorem restyles_withArgument {β : Type} {read : Args α → Except Error β}
    {f : Scope α → β → List (Series α) → Except Error (List (Series α))}
    (h : ∀ scope b list result, f scope b list = .ok result →
      List.Forall₂ SameButLook list result) : Restyles (withArgument read f) := by
  intro scope args list hlist
  unfold withArgument
  rw [hlist]
  refine Run.Yields.bind Run.Yields.any fun b _ => ?_
  refine Run.Yields.bind (Run.Yields.lift fun found hfound => hfound) fun found hfound => ?_
  cases hfound
  refine Run.Yields.bind (Run.Yields.lift fun result hresult => hresult) fun result hresult => ?_
  exact Run.Yields.pure ⟨result, rfl, h scope b list result hresult⟩

theorem restyles_eachWith {β : Type} {read : Args α → Except Error β}
    {f : Scope α → β → Series α → Series α} (h : ∀ scope b s, SameButLook s (f scope b s)) :
    Restyles (eachWith read f) := by
  refine restyles_withArgument fun scope b list result hresult => ?_
  cases hresult
  exact List.forall₂_map_right_iff.2 (List.forall₂_same.2 fun s _ => h scope b s)

theorem restyles_ofEach {f : Scope α → Series α → Series α}
    (h : ∀ scope s, SameButLook s (f scope s)) : Restyles (ofEach f) := by
  intro scope args list hlist
  unfold ofEach ofList
  rw [hlist]
  refine Run.Yields.bind (Run.Yields.lift fun found hfound => hfound) fun found hfound => ?_
  cases hfound
  refine Run.Yields.pure ⟨_, rfl, ?_⟩
  exact List.forall₂_map_right_iff.2 (List.forall₂_same.2 fun s _ => h scope s)

theorem restyles_standard [Arith α] [NumberText α] {name : String} {f : Function α}
    (hname : name ∈ restylingNames) (hf : (name, f) ∈ standardEntries) : Restyles f := by
  have hhint : ∀ (s : Series α) key value, SameButLook s (s.setHint key value) :=
    fun _ _ _ => ⟨rfl, rfl, rfl, rfl, rfl, rfl⟩
  simp only [restylingNames, List.mem_cons, List.not_mem_nil, or_false] at hname
  rcases hname with rfl | rfl | rfl | rfl | rfl | rfl | rfl | rfl
  · obtain rfl : f = .eachWith (·.text 1) fun _ => relabel := by simpa [standardEntries] using hf
    exact restyles_eachWith fun _ name s => ⟨rfl, rfl, rfl, rfl, rfl, rfl⟩
  · obtain rfl : f = .withArgument twoTexts fun _ texts => relabelByPattern texts.1 texts.2 := by
      simpa [standardEntries] using hf
    exact restyles_withArgument fun _ texts list result h => sameButLook_relabelByPattern h
  · obtain rfl : f = .withArgument (·.intsFrom 1) fun _ nodes list =>
        list.mapM (relabelByNode nodes) := by
      simpa [standardEntries] using hf
    refine restyles_withArgument fun _ nodes list result h => ?_
    exact (mapM_eq_ok_iff_forall₂.1 h).imp fun _ _ hst => sameButLook_relabelByNode hst
  · obtain rfl : f = .eachWith (·.text 1) fun _ => setColor := by simpa [standardEntries] using hf
    exact restyles_eachWith fun _ color s => ⟨rfl, rfl, rfl, rfl, rfl, rfl⟩
  · obtain rfl : f = .eachWith (·.number 1) fun _ => setAlpha := by
      simpa [standardEntries] using hf
    exact restyles_eachWith fun _ alpha s => hhint s _ _
  · obtain rfl : f = .eachWith (·.number 1) fun _ => setLineWidth := by
      simpa [standardEntries] using hf
    exact restyles_eachWith fun _ width s => hhint s _ _
  · obtain rfl : f = .ofEach fun _ => onSecondAxis := by simpa [standardEntries] using hf
    exact restyles_ofEach fun _ s => hhint s _ _
  · obtain rfl : f = .ofEach fun _ => asInfinite := by simpa [standardEntries] using hf
    exact restyles_ofEach fun _ s => hhint s _ _

end Function

section
variable [Arith α] [NumberText α]

/-- A list, and what successful calls of restyling functions make of it one after the other, each in
a context of its own. -/
inductive Restyled : List (Series α) → List (Series α) → Prop where
  | refl (list : List (Series α)) : Restyled list list
  | call {list styled next : List (Series α)} {c : Context α} {name : String} {rest : List (Arg α)}
      {log after : List Fetch} :
      Restyled list styled → c.registry = .standard → name ∈ restylingNames →
      Run.from (c.call (.ofList name (.list styled :: rest))) log = (.ok (.list next), after) →
      Restyled list next

theorem Context.call_restyles {c : Context α} (hc : c.registry = .standard) {args : Args α}
    (hname : args.function ∈ restylingNames) {list : List (Series α)}
    (hlist : (args.takeList 0).1 = .ok list) :
    Run.Yields (c.call args) fun output =>
      ∃ restyled, output = .list restyled ∧ List.Forall₂ SameButLook list restyled := by
  unfold call
  rw [hc]
  cases hf : (Registry.standard : Registry α).find? args.function with
  | none => exact .throw _
  | some f =>
    exact Function.restyles_standard hname (Registry.mem_standardEntries_of_find? hf) _ _ _ hlist

theorem Restyled.sameButLook {list styled : List (Series α)} (h : Restyled list styled) :
    List.Forall₂ SameButLook list styled := by
  induction h with
  | refl => exact List.forall₂_same.2 fun s _ => .refl s
  | @call styled next c name rest log after _ hc hname hcall ih =>
    have hstep : (Args.ofList name (.list styled :: rest)).function ∈ restylingNames := hname
    obtain ⟨restyled, houtput, hnext⟩ := Context.call_restyles hc hstep rfl log _ after hcall
    cases houtput
    exact forall₂_trans (R := SameButLook) (fun _ _ _ h h' => h.trans h') ih hnext

/-- Series with expressions of their own, and what any chain of restyling calls makes of them: with
the same arguments, calls for bands ask for the same evaluations and fail with the same error, or
give as many bands, which differ in names and expressions alone.  Part by part the same series are
passed over. -/
theorem sixSigma_restyled {c : Context α} (hc : c.registry = .standard)
    {list styled : List (Series α)} (h : Restyled list styled) (hpath : ∀ s ∈ list, s.path ≠ "") :
    (∀ rest, Run.InStep (Output.Alike SameButName)
      (c.call (.ofList "sixSigma" (.list list :: rest)))
      (c.call (.ofList "sixSigma" (.list styled :: rest)))) ∧
    ∀ scope call, Run.InStep (List.Forall₂ (List.Forall₂ SameButName))
      (bandParts scope call list) (bandParts scope call styled) := by
  have hlook : List.Forall₂ (fun s t => s.path ≠ "" ∧ SameButLook s t) list styled :=
    (List.forall₂_and_left _ _).2 ⟨hpath, h.sameButLook⟩
  have hlist : List.Forall₂ SameSource list styled :=
    hlook.imp fun s t hst => ⟨hst.2.target_eq hst.1, hst.2⟩
  constructor
  · intro rest
    have hrest : List.Forall₂ (Arg.Alike SameSource) rest rest :=
      List.forall₂_same.2 fun arg _ => .refl (fun s => ⟨rfl, .refl s⟩) arg
    have hargs := Args.Alike.ofList "sixSigma" (.cons (.list hlist) hrest)
    refine Context.inStep_call hc hc rfl fun f hf => ?_
    obtain rfl : f = .bands := by simpa [standardEntries, Args.ofList] using hf
    refine Function.inStep_bands (.refl (T := Eq) (fun _ => rfl) _) hargs (fun _ _ hst => hst.1) ?_
    rintro plan tiles call s t history _ hst rfl
    exact hst.2.bandsOf plan tiles call history
  · intro scope call
    refine inStep_bandParts (.refl (T := Eq) (fun _ => rfl) scope) call hlist
      (fun _ _ hst => hst.1) ?_
    rintro plan tiles s t history _ hst rfl
    exact hst.2.bandsOf plan tiles call history

end

noncomputable def evenWeek : Context ℝ :=
  { Context.standard (Context.nearWindow 7200 10800) with
    evaluator := some fun _ _ target => .ok [.ofValues target 0 60 [0, 1, 1]] }

noncomputable def tagged (name : String) : Series ℝ :=
  (Series.ofValues name 7200 60 [0, 1]).withPath "sum(web.*)"

/-- A series that is called something else and then drawn in red has the bands that it had. -/
theorem sixSigma_restyled_evenWeek :
    Restyled [tagged "web"] [setColor "red" (tagged "Load")] ∧ (tagged "web").path ≠ "" ∧
    Run.InStep (Output.Alike SameButName)
      (evenWeek.call (.ofList "sixSigma" [.list [tagged "web"], .text "7d", .int 1]))
      (evenWeek.call
        (.ofList "sixSigma" [.list [setColor "red" (tagged "Load")], .text "7d", .int 1])) := by
  have halias : Run.from (evenWeek.call
      (.ofList "alias" [.list [tagged "web"], .text "Load"])) [] =
        (.ok (.list [tagged "Load"]), []) := rfl
  have hcolor : Run.from (evenWeek.call
      (.ofList "color" [.list [tagged "Load"], .text "red"])) [] =
        (.ok (.list [setColor "red" (tagged "Load")]), []) := rfl
  have hchain : Restyled [tagged "web"] [setColor "red" (tagged "Load")] :=
    .call (.call (.refl _) rfl (by simp [restylingNames]) halias) rfl (by simp [restylingNames])
      hcolor
  have hpath : (tagged "web").path ≠ "" := by decide
  exact ⟨hchain, hpath, (sixSigma_restyled rfl hchain (by simpa using hpath)).1 _⟩

end MetricSeries

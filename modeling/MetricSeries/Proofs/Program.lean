import MetricSeries.Proofs.Counterparts
import MetricSeries.Proofs.Keeps

/-!
Programs of calls.  A call of a program takes what is written in it, what the program is given, and
what the calls before it gave; the first call that fails ends the program.  Two runs of a program
stay in step when every function that is called keeps together the series that belong together.
-/

set_option autoImplicit false

namespace MetricSeries

variable {α : Type}

/-- A single series in a program: one that is given to it, or one of the output of a call. -/
inductive Place where
  | given (i : Nat)
  | output (call i : Nat)
  deriving DecidableEq, Repr

def Place.find? (given : List (Series α)) (outputs : List (Output α)) : Place → Option (Series α)
  | .given i => given[i]?
  | .output call i => (outputs[call]?).bind fun output => output.flatten[i]?

/-- An argument in a program: one that is written there, the output of a call, as it is or as one
list, or series that are picked one by one. -/
inductive Operand (α : Type) where
  | written (arg : Arg α)
  | output (call : Nat)
  | flat (call : Nat)
  | list (places : List Place)
  | groups (places : List (List Place))

/-- The argument itself.  Where there is no such output or series, none is handed on. -/
def Operand.read (given : List (Series α)) (outputs : List (Output α)) : Operand α → Arg α
  | .written arg => arg
  | .output call => ((outputs[call]?).map Output.toArg).getD (.list [])
  | .flat call => .list (((outputs[call]?).map Output.flatten).getD [])
  | .list places => .list (places.filterMap (Place.find? given outputs))
  | .groups places => .groups (places.map (List.filterMap (Place.find? given outputs)))

/-- One call of a program, in a context of its own. -/
structure Stage (α : Type) where
  context : Context α
  function : String
  operands : List (Operand α)

def Stage.call (given : List (Series α)) (outputs : List (Output α)) (stage : Stage α) :
    Run (Output α) :=
  stage.context.call (.ofList stage.function (stage.operands.map (Operand.read given outputs)))

/-- What a run of a program leaves behind: the outputs of the calls that succeeded, the error of the
one that did not, and the evaluations that were asked for. -/
structure Trace (α : Type) where
  outputs : List (Output α)
  failure : Option Error
  fetches : List Fetch

/-- Runs the stages one after the other, behind the outputs that there are. -/
def runStages (given : List (Series α)) :
    List (Stage α) → List (Output α) → List Fetch → Trace α
  | [], outputs, log => ⟨outputs, none, log⟩
  | stage :: rest, outputs, log =>
    match Run.from (stage.call given outputs) log with
    | (.ok output, log) => runStages given rest (outputs ++ [output]) log
    | (.error e, log) => ⟨outputs, some e, log⟩

/-- Runs of as many successful calls, whose outputs belong together one by one.  Both end there, or
the next call of each fails with the same error. -/
structure Trace.Alike (R : Series α → Series α → Prop) (x y : Trace α) : Prop where
  outputs : List.Forall₂ (Output.Alike R) x.outputs y.outputs
  failure_eq : x.failure = y.failure
  fetches_eq : x.fetches = y.fetches

section
variable {R : Series α → Series α → Prop}

theorem Output.Alike.toArg {x y : Output α} (h : Output.Alike R x y) :
    Arg.Alike R x.toArg y.toArg := by
  cases h with
  | list h => exact .list h
  | groups h => exact .groups h

theorem Output.Alike.flatten {x y : Output α} (h : Output.Alike R x y) :
    List.Forall₂ R x.flatten y.flatten := by
  cases h with
  | list h => exact h
  | groups h => exact List.rel_flatten h

theorem Arg.Alike.refl (hR : ∀ s, R s s) (arg : Arg α) : Arg.Alike R arg arg := by
  have hlist : ∀ list : List (Series α), List.Forall₂ R list list := fun list =>
    List.forall₂_same.2 fun s _ => hR s
  cases arg with
  | list all => exact .list (hlist all)
  | groups all => exact .groups (List.forall₂_same.2 fun list _ => hlist list)
  | int n => exact .int n
  | number x => exact .number x
  | text s => exact .text s
  | flag b => exact .flag b

variable {given given' : List (Series α)} {outputs outputs' : List (Output α)}
  (hgiven : List.Forall₂ R given given') (houtputs : List.Forall₂ (Output.Alike R) outputs outputs')
include hgiven houtputs

theorem Place.find?_alike (place : Place) :
    Option.Rel R (place.find? given outputs) (place.find? given' outputs') := by
  cases place with
  | given i => exact forall₂_getElem? hgiven i
  | output call i =>
    have hcall := forall₂_getElem? houtputs call
    dsimp only [Place.find?]
    generalize outputs[call]? = x at *
    generalize outputs'[call]? = y at *
    cases hcall with
    | none => exact .none
    | some houtput => exact forall₂_getElem? houtput.flatten i

theorem Operand.read_alike (hR : ∀ s, R s s) (operand : Operand α) :
    Arg.Alike R (operand.read given outputs) (operand.read given' outputs') := by
  have hpicked : ∀ places : List Place,
      List.Forall₂ R (places.filterMap (Place.find? given outputs))
        (places.filterMap (Place.find? given' outputs')) := by
    intro places
    refine List.rel_filterMap (R := Eq) (fun place _ hplace => ?_) (List.forall₂_refl places)
    subst hplace
    exact place.find?_alike hgiven houtputs
  cases operand with
  | written arg => exact .refl hR arg
  | output call =>
    have hcall := forall₂_getElem? houtputs call
    dsimp only [Operand.read]
    generalize outputs[call]? = x at *
    generalize outputs'[call]? = y at *
    cases hcall with
    | none => exact .list .nil
    | some houtput => exact houtput.toArg
  | flat call =>
    have hcall := forall₂_getElem? houtputs call
    dsimp only [Operand.read]
    generalize outputs[call]? = x at *
    generalize outputs'[call]? = y at *
    cases hcall with
    | none => exact .list .nil
    | some houtput => exact .list houtput.flatten
  | list places => exact .list (hpicked places)
  | groups places =>
    refine .groups ?_
    rw [List.forall₂_map_left_iff, List.forall₂_map_right_iff, List.forall₂_same]
    exact fun places _ => hpicked places

/-- Runs of one program stay in step as long as its calls do. -/
theorem runStages_alike (hR : ∀ s, R s s) {stages : List (Stage α)}
    (h : ∀ stage ∈ stages, ∀ a b, Args.Alike R a b →
      Run.InStep (Output.Alike R) (stage.context.call a) (stage.context.call b))
    (log : List Fetch) :
    Trace.Alike R (runStages given stages outputs log) (runStages given' stages outputs' log) := by
  induction stages generalizing outputs outputs' log with
  | nil => exact ⟨houtputs, rfl, rfl⟩
  | cons stage stages ih =>
    have hoperands : List.Forall₂ (Arg.Alike R) (stage.operands.map (Operand.read given outputs))
        (stage.operands.map (Operand.read given' outputs')) := by
      rw [List.forall₂_map_left_iff, List.forall₂_map_right_iff, List.forall₂_same]
      exact fun operand _ => operand.read_alike hgiven houtputs hR
    have hcall := h stage (by simp) _ _ (.ofList stage.function hoperands) log
    unfold runStages Stage.call
    generalize Run.from _ log = ended at *
    generalize Run.from _ log = ended' at *
    obtain ⟨x, mid⟩ := ended
    obtain ⟨y, mid'⟩ := ended'
    obtain ⟨hlog, hend⟩ := hcall
    obtain rfl : mid = mid' := hlog
    cases hend with
    | error e => exact ⟨houtputs, rfl, rfl⟩
    | ok houtput =>
      exact ih (List.rel_append houtputs (.cons houtput .nil)) (fun s hs => h s (by simp [hs])) mid

end

/-- Every function known by name gives series that belong together for such series. -/
def Scope.Respects (R : Series α → Series α → Prop) (scope : Scope α) : Prop :=
  ∀ name run, scope.lookup name = some run → ∀ a b, Args.Alike R a b →
    Run.InStep (Output.Alike R) (run a) (run b)

namespace Function

def Respects (R : Series α → Series α → Prop) (f : Function α) : Prop :=
  ∀ scope : Scope α, scope.Respects R → ∀ a b, Args.Alike R a b →
    Run.InStep (Output.Alike R) (f scope a) (f scope b)

variable {R : Series α → Series α → Prop}

theorem respects_ofList {f : Scope α → List (Series α) → List (Series α)}
    (h : ∀ scope list list', List.Forall₂ R list list' →
      List.Forall₂ R (f scope list) (f scope list')) : Respects R (ofList f) :=
  fun scope _ _ _ hargs => inStep_ofList hargs (h scope)

theorem respects_ofEach {f : Scope α → Series α → Series α}
    (h : ∀ scope s t, R s t → R (f scope s) (f scope t)) : Respects R (ofEach f) :=
  respects_ofList fun scope _ _ hlist => List.rel_map (fun s t hst => h scope s t hst) hlist

theorem respects_ofLists {f : List (Series α) → Except Error (List (Series α))}
    (h : ∀ list list', List.Forall₂ R list list' → EndAlike (List.Forall₂ R) (f list) (f list')) :
    Respects R (ofLists f) :=
  fun _ _ _ _ hargs => inStep_ofLists hargs h

section
variable {β : Type} {read : Args α → Except Error β}
  (hread : ∀ a b, Args.Alike R a b → read a = read b)
include hread

theorem respects_withArgument {f : Scope α → β → List (Series α) → Except Error (List (Series α))}
    (h : ∀ scope d list list', List.Forall₂ R list list' →
      EndAlike (List.Forall₂ R) (f scope d list) (f scope d list')) :
    Respects R (withArgument read f) := by
  intro scope _ a b hargs
  refine inStep_withArgument (hargs.takeList 0).1 (.of_eq (hread a b hargs) fun _ => rfl) ?_
  intro d d' list list' hsame hlist
  subst hsame
  exact h scope d list list' hlist

theorem respects_eachWith {f : Scope α → β → Series α → Series α}
    (h : ∀ scope d s t, R s t → R (f scope d s) (f scope d t)) : Respects R (eachWith read f) :=
  respects_withArgument hread fun scope d _ _ hlist =>
    .ok (List.rel_map (fun s t hst => h scope d s t hst) hlist)

end

theorem respects_grouping [Arith α] (hname : ∀ s t, R s t → s.name = t.name) :
    Respects R (grouping : Function α) :=
  fun _ _ _ _ hargs => inStep_grouping hname hargs

theorem respects_reduction [Arith α] (hname : ∀ s t, R s t → s.name = t.name)
    (hrename : ∀ s t name, R s t → R (s.rename name) (t.rename name)) :
    Respects R (reduction : Function α) := by
  intro scope hscope a b hargs
  refine inStep_reduction hargs hname (fun reducer _ _ _ _ _ _ _ => ?_) hrename
  cases hrun : scope.lookup reducer with
  | none => exact .none
  | some run =>
    refine .some fun members members' hmembers => ?_
    exact hscope reducer run hrun _ _ (.ofList reducer (.cons (.list hmembers) .nil))

theorem respects_bands [Arith α] [NumberText α] (htarget : ∀ s t, R s t → s.target = t.target)
    (hbands : ∀ (plan : BandPlan α) tiles call s t history, R s t →
      List.Forall₂ R (bandsOf plan tiles call s history) (bandsOf plan tiles call t history)) :
    Respects R (bands : Function α) := by
  intro scope _ a b hargs
  refine inStep_bands (.refl (T := Eq) (fun _ => rfl) scope) hargs htarget ?_
  intro plan tiles call s t history history' hst hsame
  subst hsame
  exact hbands plan tiles call s t history hst

end Function

namespace Context

variable {R : Series α → Series α → Prop} {c : Context α}

theorem scope_respects (h : ∀ entry ∈ c.registry.entries, Function.Respects R entry.2)
    (depth : Nat) : (c.scope depth).Respects R := by
  induction depth with
  | zero =>
    intro name run hrun a b _
    obtain ⟨f, _, rfl⟩ := Option.map_eq_some_iff.1 hrun
    exact .throw _
  | succ depth ih =>
    intro name run hrun a b hargs
    obtain ⟨f, hf, rfl⟩ := Option.map_eq_some_iff.1 hrun
    exact h _ (Registry.mem_entries_of_find? hf) (c.scope depth) ih a b hargs

/-- Calls keep together what all the functions of their context keep together. -/
theorem call_respects (h : ∀ entry ∈ c.registry.entries, Function.Respects R entry.2)
    {a b : Args α} (hargs : Args.Alike R a b) :
    Run.InStep (Output.Alike R) (c.call a) (c.call b) := by
  unfold call
  rw [← hargs.function_eq]
  cases hf : c.registry.find? a.function with
  | none => exact .throw _
  | some f =>
    exact h _ (Registry.mem_entries_of_find? hf) (c.scope maxDepth) (scope_respects h maxDepth) a b
      hargs

/-- Calls of one name are in step when the built-in function of that name is, or where there is
none. -/
theorem inStep_call [Arith α] [NumberText α] {c c' : Context α} (hc : c.registry = .standard)
    (hc' : c'.registry = .standard) {a b : Args α} (hfunction : a.function = b.function)
    (h : ∀ f, (a.function, f) ∈ standardEntries →
      Run.InStep (Output.Alike R) (f (c.scope maxDepth) a) (f (c'.scope maxDepth) b)) :
    Run.InStep (Output.Alike R) (c.call a) (c'.call b) := by
  unfold call
  rw [hc, hc', ← hfunction]
  cases hf : (Registry.standard : Registry α).find? a.function with
  | none => exact .throw _
  | some f => exact h f (Registry.mem_standardEntries_of_find? hf)

end Context

end MetricSeries

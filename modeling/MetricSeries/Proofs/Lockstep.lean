import MetricSeries.Call.Standard
import MetricSeries.Proofs.Run
import Mathlib.Data.List.Forall2

/-!
Two runs side by side.  Runs are in step when they ask for the same evaluations and both give
values, of which one belongs to the other, or both fail with the same error.  Arguments whose series
belong together are read alike.
-/

set_option autoImplicit false

namespace MetricSeries

variable {β γ β' γ' : Type}

/-- Both give values that belong together, or both fail with the same error. -/
inductive EndAlike (R : β → γ → Prop) : Except Error β → Except Error γ → Prop where
  | ok {b : β} {c : γ} : R b c → EndAlike R (.ok b) (.ok c)
  | error (e : Error) : EndAlike R (.error e) (.error e)

namespace EndAlike

variable {R : β → γ → Prop} {S : β' → γ' → Prop} {x : Except Error β} {y : Except Error γ}

theorem mono {R' : β → γ → Prop} (h : EndAlike R x y) (hR : ∀ b c, R b c → R' b c) :
    EndAlike R' x y := by
  cases h with
  | ok h => exact .ok (hR _ _ h)
  | error e => exact .error e

theorem bind {f : β → Except Error β'} {g : γ → Except Error γ'} (h : EndAlike R x y)
    (hfg : ∀ b c, R b c → EndAlike S (f b) (g c)) : EndAlike S (x >>= f) (y >>= g) := by
  cases h with
  | ok h => exact hfg _ _ h
  | error e => exact .error e

theorem map {f : β → β'} {g : γ → γ'} (h : EndAlike R x y) (hfg : ∀ b c, R b c → S (f b) (g c)) :
    EndAlike S (x.map f) (y.map g) := by
  cases h with
  | ok h => exact .ok (hfg _ _ h)
  | error e => exact .error e

theorem of_eq {R : β → β → Prop} {x y : Except Error β} (h : x = y) (hR : ∀ b, R b b) :
    EndAlike R x y := by
  subst h
  cases x with
  | ok b => exact .ok (hR b)
  | error e => exact .error e

theorem mapM {f : β → Except Error β'} {g : γ → Except Error γ'} {list : List β} {list' : List γ}
    (h : List.Forall₂ R list list') (hfg : ∀ b c, R b c → EndAlike S (f b) (g c)) :
    EndAlike (List.Forall₂ S) (list.mapM f) (list'.mapM g) := by
  induction h with
  | nil => exact .ok .nil
  | cons hfirst _ ih =>
    rw [List.mapM_cons, List.mapM_cons]
    exact (hfg _ _ hfirst).bind fun _ _ hb => ih.bind fun _ _ hrest => .ok (.cons hb hrest)

theorem foldlM {f : β' → β → Except Error β'} {g : γ' → γ → Except Error γ'} {list : List β}
    {list' : List γ} (h : List.Forall₂ R list list')
    (hfg : ∀ acc acc' b c, S acc acc' → R b c → EndAlike S (f acc b) (g acc' c)) {acc : β'}
    {acc' : γ'} (hacc : S acc acc') : EndAlike S (list.foldlM f acc) (list'.foldlM g acc') := by
  induction h generalizing acc acc' with
  | nil => exact .ok hacc
  | cons hfirst _ ih =>
    rw [List.foldlM_cons, List.foldlM_cons]
    exact (hfg _ _ _ _ hacc hfirst).bind fun _ _ hnext => ih hnext

end EndAlike

/-- From whatever was asked for before, two runs come to ask for the same and end alike. -/
def Run.InStep (R : β → γ → Prop) (r : Run β) (r' : Run γ) : Prop :=
  ∀ log, (Run.from r log).2 = (Run.from r' log).2 ∧
    EndAlike R (Run.from r log).1 (Run.from r' log).1

namespace Run.InStep

variable {R : β → γ → Prop} {S : β' → γ' → Prop} {r : Run β} {r' : Run γ}

theorem pure {b : β} {c : γ} (h : R b c) : InStep R (Pure.pure b) (Pure.pure c) :=
  fun _ => ⟨rfl, .ok h⟩

theorem throw (e : Error) : InStep R (throw e) (throw e) :=
  fun _ => ⟨rfl, .error e⟩

theorem lift {x : Except Error β} {y : Except Error γ} (h : EndAlike R x y) :
    InStep R (liftExcept x) (liftExcept y) := by
  intro log
  rw [from_liftExcept, from_liftExcept]
  exact ⟨rfl, h⟩

theorem mono {R' : β → γ → Prop} (h : InStep R r r') (hR : ∀ b c, R b c → R' b c) :
    InStep R' r r' :=
  fun log => ⟨(h log).1, (h log).2.mono hR⟩

theorem error_iff (h : InStep R r r') {log after : List Fetch} {e : Error} :
    Run.from r log = (.error e, after) ↔ Run.from r' log = (.error e, after) := by
  obtain ⟨hlog, hend⟩ := h log
  generalize Run.from r log = ended at *
  generalize Run.from r' log = ended' at *
  obtain ⟨x, mid⟩ := ended
  obtain ⟨y, mid'⟩ := ended'
  obtain rfl : mid = mid' := hlog
  cases hend with
  | ok _ => exact iff_of_false (fun h => by cases h) fun h => by cases h
  | error e => simp

theorem bind {f : β → Run β'} {g : γ → Run γ'} (h : InStep R r r')
    (hfg : ∀ b c, R b c → InStep S (f b) (g c)) : InStep S (r >>= f) (r' >>= g) := by
  intro log
  obtain ⟨hlog, hend⟩ := h log
  rw [from_bind, from_bind]
  generalize Run.from r log = ended at *
  generalize Run.from r' log = ended' at *
  obtain ⟨x, mid⟩ := ended
  obtain ⟨y, mid'⟩ := ended'
  obtain rfl : mid = mid' := hlog
  cases hend with
  | ok h => exact hfg _ _ h mid
  | error e => exact ⟨rfl, .error e⟩

/-- After values that are read alike, the rest decides. -/
theorem bind_of_alike {x : Except Error β} {y : Except Error γ} {f : β → Run β'} {g : γ → Run γ'}
    (h : EndAlike R x y)
    (hfg : ∀ b c, x = .ok b → y = .ok c → R b c → InStep S (f b) (g c)) :
    InStep S (liftExcept x >>= f) (liftExcept y >>= g) := by
  intro log
  rw [from_lift_bind, from_lift_bind]
  cases h with
  | ok h => exact hfg _ _ rfl rfl h log
  | error e => exact ⟨rfl, .error e⟩

theorem lift_bind {x : Except Error β} {f : β → Run β'} {g : β → Run γ'}
    (hfg : ∀ b, x = .ok b → InStep S (f b) (g b)) :
    InStep S (liftExcept x >>= f) (liftExcept x >>= g) := by
  refine bind_of_alike (.of_eq rfl fun _ => rfl) fun b c hb _ hbc => ?_
  subst hbc
  exact hfg b hb

theorem mapM {f : β → Run β'} {g : γ → Run γ'} {list : List β} {list' : List γ}
    (h : List.Forall₂ R list list') (hfg : ∀ b c, R b c → InStep S (f b) (g c)) :
    InStep (List.Forall₂ S) (list.mapM f) (list'.mapM g) := by
  induction h with
  | nil => exact pure .nil
  | cons hfirst _ ih =>
    rw [List.mapM_cons, List.mapM_cons]
    exact (hfg _ _ hfirst).bind fun _ _ hb => ih.bind fun _ _ hrest => pure (.cons hb hrest)

end Run.InStep

theorem forall₂_getElem? {R : β → γ → Prop} {list : List β} {list' : List γ}
    (h : List.Forall₂ R list list') (i : Nat) : Option.Rel R list[i]? list'[i]? := by
  induction h generalizing i with
  | nil => exact .none
  | cons hfirst _ ih =>
    cases i with
    | zero => exact .some hfirst
    | succ i => exact ih i

theorem forall₂_trans {R : β → β → Prop} (hR : ∀ b c d, R b c → R c d → R b d)
    {first second third : List β} (h : List.Forall₂ R first second)
    (h' : List.Forall₂ R second third) : List.Forall₂ R first third := by
  induction h generalizing third with
  | nil => exact h'
  | cons hfirst _ ih =>
    obtain ⟨d, rest, hd, hrest, rfl⟩ := List.forall₂_cons_left_iff.1 h'
    exact .cons (hR _ _ _ hfirst hd) (ih hrest)

theorem forall₂_set {R : β → γ → Prop} {list : List β} {list' : List γ}
    (h : List.Forall₂ R list list') (i : Nat) {b : β} {c : γ} (hbc : R b c) :
    List.Forall₂ R (list.set i b) (list'.set i c) := by
  induction h generalizing i with
  | nil => exact .nil
  | cons hfirst hrest ih =>
    cases i with
    | zero => exact .cons hbc hrest
    | succ i => exact .cons hfirst (ih i)

theorem forall₂_mergeSort {R : β → γ → Prop} {le : β → β → Bool} {le' : γ → γ → Bool}
    (hle : ∀ b c b' c', R b c → R b' c' → le b b' = le' c c') {list : List β} {list' : List γ}
    (h : List.Forall₂ R list list') : List.Forall₂ R (list.mergeSort le) (list'.mergeSort le') := by
  -- Both are the two sides of one list of pairs, sorted by its left sides.
  let pairs := list.zip list'
  let lePair := fun p q : β × γ => le p.1 q.1
  have hpairs : ∀ p ∈ pairs, R p.1 p.2 := fun _ hp => List.forall₂_zip h hp
  have hleft : list.mergeSort le = (pairs.mergeSort lePair).map Prod.fst := by
    rw [List.map_mergeSort (s := le) fun _ _ _ _ => rfl,
      List.map_fst_zip (Nat.le_of_eq h.length_eq)]
  have hright : list'.mergeSort le' = (pairs.mergeSort lePair).map Prod.snd := by
    rw [List.map_mergeSort (s := le') fun p hp q hq => hle _ _ _ _ (hpairs p hp) (hpairs q hq),
      List.map_snd_zip (Nat.le_of_eq h.length_eq.symm)]
  rw [hleft, hright, List.forall₂_map_left_iff, List.forall₂_map_right_iff, List.forall₂_same]
  exact fun p hp => hpairs p (List.mem_mergeSort.1 hp)

variable {α : Type} {R S : Series α → Series α → Prop}

/-- Series in the same places that belong together, and equal scalars. -/
inductive Arg.Alike (R : Series α → Series α → Prop) : Arg α → Arg α → Prop where
  | list {all all' : List (Series α)} : List.Forall₂ R all all' → Alike R (.list all) (.list all')
  | groups {all all' : List (List (Series α))} :
      List.Forall₂ (List.Forall₂ R) all all' → Alike R (.groups all) (.groups all')
  | int (n : Int) : Alike R (.int n) (.int n)
  | number (x : α) : Alike R (.number x) (.number x)
  | text (s : String) : Alike R (.text s) (.text s)
  | flag (b : Bool) : Alike R (.flag b) (.flag b)

/-- Calls of one function with arguments that belong together, position by position. -/
structure Args.Alike (R : Series α → Series α → Prop) (a b : Args α) : Prop where
  function_eq : a.function = b.function
  slots : List.Forall₂ (Option.Rel (Arg.Alike R)) a.slots b.slots

namespace Args.Alike

theorem ofList (function : String) {list list' : List (Arg α)}
    (h : List.Forall₂ (Arg.Alike R) list list') :
    Args.Alike R (.ofList function list) (.ofList function list') :=
  ⟨rfl, List.rel_map (fun _ _ hx => .some hx) h⟩

variable {a b : Args α}

theorem fault_eq (h : Args.Alike R a b) : a.fault = b.fault := by
  funext position fault
  unfold Args.fault
  rw [h.function_eq]

theorem positionsFrom_eq (h : Args.Alike R a b) : a.positionsFrom = b.positionsFrom := by
  funext position
  unfold Args.positionsFrom Args.length
  rw [h.slots.length_eq]

theorem peek (h : Args.Alike R a b) (position : Nat) :
    Option.Rel (Arg.Alike R) (a.peek position) (b.peek position) := by
  have hslot := forall₂_getElem? h.slots position
  unfold Args.peek
  generalize a.slots[position]? = x at *
  generalize b.slots[position]? = y at *
  cases hslot with
  | none => exact .none
  | some hx => exact hx

theorem require (h : Args.Alike R a b) (position : Nat) :
    EndAlike (Arg.Alike R) (a.require position) (b.require position) := by
  have hpeek := h.peek position
  unfold Args.require
  rw [h.fault_eq]
  generalize a.peek position = x at *
  generalize b.peek position = y at *
  cases hpeek with
  | none => exact .error _
  | some hx => exact .ok hx

theorem clear (h : Args.Alike R a b) (position : Nat) :
    Args.Alike R (a.clear position) (b.clear position) :=
  ⟨h.function_eq, forall₂_set h.slots position .none⟩

theorem takeList (h : Args.Alike R a b) (position : Nat) :
    EndAlike (List.Forall₂ R) (a.takeList position).1 (b.takeList position).1 ∧
      Args.Alike R (a.takeList position).2 (b.takeList position).2 := by
  have hpeek := h.peek position
  unfold Args.takeList Args.mismatch
  rw [h.fault_eq]
  generalize a.peek position = x at *
  generalize b.peek position = y at *
  cases hpeek with
  | none => exact ⟨.error _, h⟩
  | some hx =>
    cases hx with
    | list hall => exact ⟨.ok hall, h.clear position⟩
    | groups _ | int _ | number _ | text _ | flag _ => exact ⟨.error _, h⟩

theorem takeLists (h : Args.Alike R a b) (positions : List Nat) :
    EndAlike (List.Forall₂ R) (a.takeLists positions).1 (b.takeLists positions).1 := by
  induction positions generalizing a b with
  | nil => exact .ok .nil
  | cons position positions ih =>
    obtain ⟨hfirst, hleft⟩ := h.takeList position
    unfold Args.takeLists
    generalize a.takeList position = taken at *
    generalize b.takeList position = taken' at *
    obtain ⟨x, left⟩ := taken
    obtain ⟨y, left'⟩ := taken'
    cases hfirst with
    | error e => exact .error e
    | ok hall =>
      have hmore := ih hleft
      dsimp only at hmore ⊢
      generalize left.takeLists positions = more at *
      generalize left'.takeLists positions = more' at *
      obtain ⟨x, rest⟩ := more
      obtain ⟨y, rest'⟩ := more'
      cases hmore with
      | error e => exact .error e
      | ok hmore => exact .ok (List.rel_append hall hmore)

theorem takeListsFrom (h : Args.Alike R a b) (position : Nat) :
    EndAlike (List.Forall₂ R) (a.takeListsFrom position).1 (b.takeListsFrom position).1 := by
  unfold Args.takeListsFrom
  rw [h.positionsFrom_eq]
  exact h.takeLists _

theorem takeGroups (h : Args.Alike R a b) (position : Nat) :
    EndAlike (List.Forall₂ (List.Forall₂ R)) (a.takeGroups position).1
      (b.takeGroups position).1 := by
  have hpeek := h.peek position
  unfold Args.takeGroups Args.mismatch
  rw [h.fault_eq]
  generalize a.peek position = x at *
  generalize b.peek position = y at *
  cases hpeek with
  | none => exact .error _
  | some hx =>
    cases hx with
    | groups hall => exact .ok hall
    | list hall => exact .ok (.cons hall .nil)
    | int _ | number _ | text _ | flag _ => exact .error _

theorem isSome_peek_eq (h : Args.Alike R a b) (position : Nat) :
    (a.peek position).isSome = (b.peek position).isSome := by
  have hpeek := h.peek position
  generalize a.peek position = x at *
  generalize b.peek position = y at *
  cases hpeek <;> rfl

theorem text_eq (h : Args.Alike R a b) : a.text = b.text := by
  funext position
  have harg := h.require position
  unfold Args.text Args.mismatch
  rw [h.fault_eq]
  generalize a.require position = x at *
  generalize b.require position = y at *
  cases harg with
  | error e => rfl
  | ok hx => cases hx <;> rfl

theorem textsFrom_eq (h : Args.Alike R a b) : a.textsFrom = b.textsFrom := by
  funext position
  unfold Args.textsFrom
  rw [h.positionsFrom_eq, h.text_eq]

theorem twoTexts_eq (h : Args.Alike R a b) : twoTexts a = twoTexts b := by
  unfold twoTexts
  rw [h.text_eq]

theorem textOr_eq [NumberText α] (h : Args.Alike R a b) : a.textOr = b.textOr := by
  funext position default
  have hpeek := h.peek position
  unfold Args.textOr Args.mismatch
  rw [h.fault_eq]
  generalize a.peek position = x at *
  generalize b.peek position = y at *
  cases hpeek with
  | none => rfl
  | some hx => cases hx <;> rfl

section
variable [Arith α]

theorem int_eq (h : Args.Alike R a b) : a.int = b.int := by
  funext position
  have harg := h.require position
  unfold Args.int Args.mismatch
  rw [h.fault_eq]
  generalize a.require position = x at *
  generalize b.require position = y at *
  cases harg with
  | error e => rfl
  | ok hx => cases hx <;> rfl

theorem countOr_eq (h : Args.Alike R a b) : a.countOr = b.countOr := by
  funext position default
  unfold Args.countOr
  rw [h.isSome_peek_eq, h.int_eq, h.fault_eq]

theorem count?_eq (h : Args.Alike R a b) : a.count? = b.count? := by
  funext position
  unfold Args.count?
  rw [h.isSome_peek_eq, h.countOr_eq]

theorem intsFrom_eq (h : Args.Alike R a b) : a.intsFrom = b.intsFrom := by
  funext position
  unfold Args.intsFrom
  rw [h.positionsFrom_eq, h.int_eq]

theorem number_eq (h : Args.Alike R a b) : a.number = b.number := by
  funext position
  have harg := h.require position
  unfold Args.number Args.mismatch
  rw [h.fault_eq]
  generalize a.require position = x at *
  generalize b.require position = y at *
  cases harg with
  | error e => rfl
  | ok hx => cases hx <;> rfl

theorem numberOr_eq (h : Args.Alike R a b) : a.numberOr = b.numberOr := by
  funext position default
  unfold Args.numberOr
  rw [h.isSome_peek_eq, h.number_eq]

theorem number?_eq (h : Args.Alike R a b) : a.number? = b.number? := by
  funext position
  unfold Args.number?
  rw [h.isSome_peek_eq, h.number_eq]

end

end Args.Alike

/-- Lists or groups of one shape, with series that belong together in the same places. -/
inductive Output.Alike (S : Series α → Series α → Prop) : Output α → Output α → Prop where
  | list {all all' : List (Series α)} : List.Forall₂ S all all' → Alike S (.list all) (.list all')
  | groups {all all' : List (List (Series α))} :
      List.Forall₂ (List.Forall₂ S) all all' → Alike S (.groups all) (.groups all')

theorem Output.Alike.mono {S' : Series α → Series α → Prop} {x y : Output α}
    (h : Output.Alike S x y) (hS : ∀ s t, S s t → S' s t) : Output.Alike S' x y := by
  cases h with
  | list h => exact .list (h.imp hS)
  | groups h => exact .groups (h.imp fun _ _ hgroup => hgroup.imp hS)

theorem Output.Alike.asList {x y : Output α} (h : Output.Alike S x y) :
    EndAlike (List.Forall₂ S) x.asList y.asList := by
  cases h with
  | list h => exact .ok h
  | groups _ => exact .error _

end MetricSeries

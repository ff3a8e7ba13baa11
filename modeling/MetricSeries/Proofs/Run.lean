import MetricSeries.Call.Context
import Mathlib.Data.List.Forall2

/-!
The calculus of runs.  What a run gives, and which evaluations it has asked for, is read off the
runs that it is put together from; no later proof looks inside a run.
-/

set_option autoImplicit false

namespace MetricSeries

theorem except_bind_eq_ok {ε β γ : Type} {x : Except ε β} {f : β → Except ε γ} {c : γ} :
    (x >>= f) = .ok c ↔ ∃ b, x = .ok b ∧ f b = .ok c := by
  cases x with
  | error e => simp [bind, Except.bind]
  | ok b => simp [bind, Except.bind]

theorem except_map_eq_ok {ε β γ : Type} {x : Except ε β} {f : β → γ} {c : γ} :
    x.map f = .ok c ↔ ∃ b, x = .ok b ∧ f b = c := by
  cases x with
  | error e => simp [Except.map]
  | ok b => simp [Except.map]

theorem except_map_eq_error {ε β γ : Type} {x : Except ε β} {f : β → γ} {e : ε} :
    x.map f = .error e ↔ x = .error e := by
  cases x with
  | error e' => simp [Except.map]
  | ok b => simp [Except.map]

theorem mapM_eq_ok_iff_forall₂ {ε β γ : Type} {f : β → Except ε γ} {list : List β}
    {result : List γ} :
    list.mapM f = .ok result ↔ List.Forall₂ (fun b c => f b = .ok c) list result := by
  induction list generalizing result with
  | nil =>
    rw [List.forall₂_nil_left_iff]
    exact ⟨fun h => by cases h; rfl, fun h => by rw [h]; rfl⟩
  | cons b list ih =>
    rw [List.mapM_cons, List.forall₂_cons_left_iff]
    constructor
    · intro h
      obtain ⟨c, hfirst, h⟩ := except_bind_eq_ok.1 h
      obtain ⟨rest, hrest, h⟩ := except_bind_eq_ok.1 h
      cases h
      exact ⟨c, rest, hfirst, ih.1 hrest, rfl⟩
    · rintro ⟨c, rest, hfirst, hrest, rfl⟩
      exact except_bind_eq_ok.2 ⟨c, hfirst, except_bind_eq_ok.2 ⟨rest, ih.2 hrest, rfl⟩⟩

theorem exists_mem_of_mapM_eq_ok {ε β γ : Type} {f : β → Except ε γ} {list : List β}
    {result : List γ} (h : list.mapM f = .ok result) : ∀ c ∈ result, ∃ b ∈ list, f b = .ok c := by
  induction mapM_eq_ok_iff_forall₂.1 h with
  | nil => simp
  | @cons b c list rest hfirst hrest ih =>
    intro d hd
    rcases List.mem_cons.1 hd with rfl | hd
    · exact ⟨b, by simp, hfirst⟩
    · obtain ⟨b', hb', hd⟩ := ih (mapM_eq_ok_iff_forall₂.2 hrest) d hd
      exact ⟨b', by simp [hb'], hd⟩

namespace Run

variable {β γ : Type}

@[simp] theorem from_pure (b : β) (log : List Fetch) :
    Run.from (pure b) log = (.ok b, log) := rfl

@[simp] theorem from_throw (e : Error) (log : List Fetch) :
    Run.from (throw e : Run β) log = (.error e, log) := rfl

@[simp] theorem from_liftExcept (x : Except Error β) (log : List Fetch) :
    Run.from (liftExcept x) log = (x, log) := by
  cases x with
  | error e => rfl
  | ok b => rfl

/-- A failure ends the run; the evaluations before it stay written down. -/
theorem from_bind (r : Run β) (f : β → Run γ) (log : List Fetch) :
    Run.from (r >>= f) log =
      match Run.from r log with
      | (.ok b, log) => Run.from (f b) log
      | (.error e, log) => (.error e, log) := by
  unfold Run.from ExceptT.run
  simp only [bind, ExceptT.bind, ExceptT.mk, StateT.bind]
  cases r log with
  | mk result log => cases result <;> rfl

@[simp] theorem from_lift_bind (x : Except Error β) (f : β → Run γ) (log : List Fetch) :
    Run.from (liftExcept x >>= f) log =
      match x with
      | .ok b => Run.from (f b) log
      | .error e => (.error e, log) := by
  rw [from_bind, from_liftExcept]
  cases x <;> rfl

theorem from_bind_pure (r : Run β) (f : β → γ) (log : List Fetch) :
    Run.from (r >>= fun b => pure (f b)) log = ((Run.from r log).1.map f, (Run.from r log).2) := by
  rw [from_bind]
  rcases Run.from r log with ⟨result, after⟩
  cases result with
  | error e => rfl
  | ok b => rfl

/-- A run of two parts succeeds exactly when both do, the second behind the first. -/
theorem from_bind_eq_ok {r : Run β} {f : β → Run γ} {log after : List Fetch} {c : γ} :
    Run.from (r >>= f) log = (.ok c, after) ↔
      ∃ b mid, Run.from r log = (.ok b, mid) ∧ Run.from (f b) mid = (.ok c, after) := by
  rw [from_bind]
  rcases Run.from r log with ⟨result, mid⟩
  cases result with
  | error e => simp
  | ok b =>
    constructor
    · intro h
      exact ⟨b, mid, rfl, h⟩
    · rintro ⟨b', mid', h, h'⟩
      cases h
      exact h'

/-- Whatever was asked for before: if the run gives a value, the value has the property. -/
def Yields (r : Run β) (P : β → Prop) : Prop :=
  ∀ log b after, Run.from r log = (.ok b, after) → P b

namespace Yields

variable {P : β → Prop} {Q : γ → Prop}

theorem pure {b : β} (h : P b) : Yields (Pure.pure b) P := by
  intro log b' after hr
  cases hr
  exact h

theorem throw (e : Error) : Yields (throw e) P := by
  intro log b after hr
  cases hr

theorem lift {x : Except Error β} (h : ∀ b, x = .ok b → P b) : Yields (liftExcept x) P := by
  intro log b after hr
  rw [from_liftExcept] at hr
  exact h b (congrArg Prod.fst hr)

theorem bind {r : Run β} {f : β → Run γ} (hr : Yields r P) (hf : ∀ b, P b → Yields (f b) Q) :
    Yields (r >>= f) Q := by
  intro log c after h
  obtain ⟨b, mid, hb, hc⟩ := from_bind_eq_ok.1 h
  exact hf b (hr log b mid hb) mid c after hc

theorem any {r : Run β} : Yields r fun _ => True :=
  fun _ _ _ _ => True.intro

theorem mono {P' : β → Prop} {r : Run β} (h : Yields r P) (hP : ∀ b, P b → P' b) : Yields r P' :=
  fun log b after hr => hP b (h log b after hr)

theorem mapM_forall₂ {δ : Type} {R : δ → β → Prop} {f : δ → Run β} {list : List δ}
    (h : ∀ d ∈ list, Yields (f d) (R d)) : Yields (list.mapM f) (List.Forall₂ R list) := by
  induction list with
  | nil => exact pure .nil
  | cons d list ih =>
    rw [List.mapM_cons]
    refine bind (h d (by simp)) fun b hb => ?_
    refine bind (ih fun d hd => h d (by simp [hd])) fun bs hbs => ?_
    exact pure (.cons hb hbs)

theorem mapM {δ : Type} {f : δ → Run β} {list : List δ} (h : ∀ d ∈ list, Yields (f d) P) :
    Yields (list.mapM f) fun bs => ∀ b ∈ bs, P b := by
  refine mono (mapM_forall₂ (R := fun _ => P) h) fun bs hbs => ?_
  clear h
  induction hbs with
  | nil => simp
  | cons hb _ ih => simpa using ⟨hb, ih⟩

end Yields

/-- What was asked for before stays written down, and all that the run asks for has the
property. -/
def Asks (r : Run β) (P : Fetch → Prop) : Prop :=
  ∀ log, ∃ fetches, (Run.from r log).2 = log ++ fetches ∧ ∀ f ∈ fetches, P f

namespace Asks

variable {P : Fetch → Prop}

theorem pure (b : β) : Asks (Pure.pure b) P :=
  fun log => ⟨[], by simp, by simp⟩

theorem mono {Q : Fetch → Prop} {r : Run β} (h : Asks r P) (hQ : ∀ f, P f → Q f) : Asks r Q := by
  intro log
  obtain ⟨fetches, hlog, hP⟩ := h log
  exact ⟨fetches, hlog, fun f hf => hQ f (hP f hf)⟩

theorem length_le {r : Run β} (h : Asks r P) (log : List Fetch) :
    log.length ≤ (Run.from r log).2.length := by
  obtain ⟨fetches, hlog, _⟩ := h log
  rw [hlog, List.length_append]
  omega

theorem bind {r : Run β} {f : β → Run γ} (hr : Asks r P) (hf : ∀ b, Asks (f b) P) :
    Asks (r >>= f) P := by
  intro log
  obtain ⟨first, hfirst, hP⟩ := hr log
  rw [from_bind]
  rcases h : Run.from r log with ⟨result, mid⟩
  rw [h] at hfirst
  cases result with
  | error e => exact ⟨first, hfirst, hP⟩
  | ok b =>
    obtain ⟨second, hsecond, hP'⟩ := hf b mid
    obtain rfl : mid = log ++ first := hfirst
    refine ⟨first ++ second, by rw [← List.append_assoc]; exact hsecond, fun f hf => ?_⟩
    rcases List.mem_append.1 hf with hf | hf
    · exact hP f hf
    · exact hP' f hf

theorem mapM {δ : Type} {f : δ → Run β} (h : ∀ d, Asks (f d) P) (list : List δ) :
    Asks (list.mapM f) P := by
  induction list with
  | nil => exact pure []
  | cons d list ih =>
    rw [List.mapM_cons]
    exact bind (h d) fun b => bind ih fun bs => pure (b :: bs)

end Asks

/-- What the run gives hangs on nothing that was asked for before. -/
def Steady (r : Run β) : Prop :=
  ∀ log log', (Run.from r log).1 = (Run.from r log').1

/-- The value of a run that starts with nothing written down. -/
def value (r : Run β) : Except Error β :=
  (Run.from r []).1

namespace Steady

variable {r : Run β}

theorem pure (b : β) : Steady (Pure.pure b) :=
  fun _ _ => rfl

theorem lift (x : Except Error β) : Steady (liftExcept x) := by
  intro log log'
  rw [from_liftExcept, from_liftExcept]

theorem bind {f : β → Run γ} (hr : Steady r) (hf : ∀ b, Steady (f b)) : Steady (r >>= f) := by
  intro log log'
  have hfirst := hr log log'
  rw [from_bind, from_bind]
  rcases h : Run.from r log with ⟨result, mid⟩
  rcases h' : Run.from r log' with ⟨result', mid'⟩
  rw [h, h'] at hfirst
  obtain rfl : result = result' := hfirst
  cases result with
  | error e => rfl
  | ok b => exact hf b mid mid'

theorem value_bind {f : β → Run γ} (hf : ∀ b, Steady (f b)) :
    value (r >>= f) = value r >>= fun b => value (f b) := by
  unfold value
  rw [from_bind]
  rcases Run.from r [] with ⟨result, mid⟩
  cases result with
  | error e => rfl
  | ok b => exact hf b mid []

theorem mapM {f : β → Run γ} (hf : ∀ b, Steady (f b)) (list : List β) : Steady (list.mapM f) := by
  induction list with
  | nil => exact pure []
  | cons b list ih =>
    rw [List.mapM_cons]
    exact (hf b).bind fun c => ih.bind fun rest => pure (c :: rest)

theorem value_mapM {f : β → Run γ} (hf : ∀ b, Steady (f b)) (list : List β) :
    value (list.mapM f) = list.mapM fun b => value (f b) := by
  induction list with
  | nil => rfl
  | cons b list ih =>
    have hrest : ∀ c : γ, Steady (list.mapM f >>= fun rest => Pure.pure (c :: rest)) :=
      fun c => (mapM hf list).bind fun rest => pure (c :: rest)
    rw [List.mapM_cons, value_bind hrest, List.mapM_cons]
    refine bind_congr fun c => ?_
    rw [value_bind fun rest => pure (c :: rest), ih]
    rfl

end Steady

end Run

namespace Scope

variable {α : Type} {scope : Scope α}

theorem from_fetch_of_none (h : scope.evaluator = none) (window : Window) (target : String)
    (log : List Fetch) :
    Run.from (scope.fetch window target) log = (.error (.noEvaluator target), log) := by
  unfold fetch
  rw [h]
  rfl

theorem from_fetch_of_some {evaluate : Evaluator α} (h : scope.evaluator = some evaluate)
    (window : Window) (target : String) (log : List Fetch) :
    Run.from (scope.fetch window target) log =
      (evaluate log window target, log ++ [⟨target, window.start.seconds, window.stop.seconds⟩]) := by
  unfold fetch
  rw [h]
  rfl

theorem fetch_asks (scope : Scope α) (window : Window) (target : String) :
    Run.Asks (scope.fetch window target)
      (· = ⟨target, window.start.seconds, window.stop.seconds⟩) := by
  intro log
  cases h : scope.evaluator with
  | none => exact ⟨[], by simp [from_fetch_of_none h], by simp⟩
  | some evaluate => exact ⟨[_], by rw [from_fetch_of_some h], by simp⟩

end Scope

end MetricSeries

import Mathlib
import MetricSeries.Proofs.Exact
import MetricSeries.Proofs.Run

set_option autoImplicit false

namespace MetricSeries

variable {α : Type}

namespace Args

/-- Whether a position holds a list of series. -/
def HasList (args : Args α) (position : Nat) : Prop :=
  ∃ series, args.peek position = some (.list series)

def clearAll (args : Args α) (positions : List Nat) : Args α :=
  positions.foldl clear args

@[simp] theorem clearAll_nil (args : Args α) : args.clearAll [] = args := rfl

@[simp] theorem clearAll_cons (args : Args α) (position : Nat) (positions : List Nat) :
    args.clearAll (position :: positions) = (args.clear position).clearAll positions := rfl

@[simp] theorem fault_clear (args : Args α) (position : Nat) : (args.clear position).fault = args.fault :=
  rfl

theorem peek_clear (args : Args α) (cleared position : Nat) :
    (args.clear cleared).peek position = if cleared = position then none else args.peek position := by
  unfold peek clear
  rw [List.getElem?_set]
  split
  · split <;> rfl
  · rfl

@[simp] theorem fault_clearAll (args : Args α) (positions : List Nat) :
    (args.clearAll positions).fault = args.fault := by
  induction positions generalizing args with
  | nil => rfl
  | cons position positions ih => rw [clearAll_cons, ih, fault_clear]

theorem hasList_clear_of_ne {args : Args α} {cleared position : Nat} (h : cleared ≠ position) :
    (args.clear cleared).HasList position ↔ args.HasList position := by
  unfold HasList
  rw [peek_clear, if_neg h]

theorem peek_clearAll (args : Args α) (positions : List Nat) (position : Nat) :
    (args.clearAll positions).peek position =
      if position ∈ positions then none else args.peek position := by
  induction positions generalizing args with
  | nil => simp
  | cons cleared positions ih =>
    rw [clearAll_cons, ih, peek_clear]
    by_cases hmem : position ∈ positions
    · simp [hmem]
    · by_cases heq : cleared = position
      · simp [heq]
      · simp [hmem, heq, Ne.symm heq]

theorem takeList_of_peek {args : Args α} {position : Nat} {series : List (Series α)}
    (h : args.peek position = some (.list series)) :
    args.takeList position = (.ok series, args.clear position) := by
  unfold takeList
  rw [h]

theorem takeList_of_not_hasList {args : Args α} {position : Nat} (h : ¬args.HasList position) :
    ∃ fault, args.takeList position = (.error (args.fault position fault), args) := by
  unfold takeList
  cases hpeek : args.peek position with
  | none => exact ⟨_, rfl⟩
  | some arg =>
    cases arg with
    | list series => exact absurd ⟨series, hpeek⟩ h
    | groups _ | int _ | number _ | text _ | flag _ => exact ⟨_, rfl⟩

/-- The first position without a list, of those from a given one on. -/
structure FirstWithoutList (args : Args α) (start stop : Nat) : Prop where
  start_le : start ≤ stop
  stop_lt : stop < args.length
  before : ∀ position, start ≤ position → position < stop → args.HasList position
  missing : ¬args.HasList stop

theorem hasList_clear_first {args : Args α} {start stop : Nat}
    (h : ∀ position, start ≤ position → position < stop → args.HasList position) :
    ∀ position, start + 1 ≤ position → position < stop → (args.clear start).HasList position :=
  fun position hfrom hto => (hasList_clear_of_ne (by omega)).2 (h position (by omega) hto)

/-- Lists are taken one after the other up to the first position that holds none; that position is
the one that is refused. -/
theorem takeLists_of_missing {args : Args α} (start count more : Nat)
    (hbefore : ∀ position, start ≤ position → position < start + count → args.HasList position)
    (hmissing : ¬args.HasList (start + count)) :
    ∃ fault, args.takeLists (List.range' start (count + 1 + more)) =
      (.error (args.fault (start + count) fault), args.clearAll (List.range' start count)) := by
  induction count generalizing args start with
  | zero =>
    obtain ⟨fault, htake⟩ := takeList_of_not_hasList hmissing
    refine ⟨fault, ?_⟩
    rw [show 0 + 1 + more = more + 1 by omega, List.range'_succ]
    unfold takeLists
    simp only [Nat.add_zero] at htake
    rw [htake]
    rfl
  | succ count ih =>
    obtain ⟨series, hpeek⟩ := hbefore start (by omega) (by omega)
    have hnext : start + 1 + count = start + (count + 1) := by omega
    have hleft := hasList_clear_first hbefore
    have hstop : ¬(args.clear start).HasList (start + (count + 1)) := by
      rwa [hasList_clear_of_ne (by omega)]
    rw [← hnext] at hleft hstop
    obtain ⟨fault, htake⟩ := ih (start + 1) hleft hstop
    refine ⟨fault, ?_⟩
    rw [show count + 1 + 1 + more = count + 1 + more + 1 by omega, List.range'_succ]
    unfold takeLists
    rw [takeList_of_peek hpeek]
    dsimp only
    rw [htake, fault_clear, hnext, List.range'_succ, clearAll_cons]

theorem takeLists_of_all {args : Args α} (start count : Nat)
    (hall : ∀ position, start ≤ position → position < start + count → args.HasList position) :
    ∃ series, (args.takeLists (List.range' start count)).1 = .ok series := by
  induction count generalizing args start with
  | zero => exact ⟨[], rfl⟩
  | succ count ih =>
    obtain ⟨first, hpeek⟩ := hall start (by omega) (by omega)
    have hleft := hasList_clear_first hall
    rw [show start + (count + 1) = start + 1 + count by omega] at hleft
    obtain ⟨series, htake⟩ := ih (start + 1) hleft
    rw [List.range'_succ]
    unfold takeLists
    rw [takeList_of_peek hpeek]
    dsimp only
    rcases hmore : (args.clear start).takeLists (List.range' (start + 1) count) with ⟨more, left⟩
    rw [hmore] at htake
    dsimp only at htake
    rw [htake]
    exact ⟨first ++ series, rfl⟩

theorem takeListsFrom_of_first {args : Args α} {start stop : Nat}
    (h : args.FirstWithoutList start stop) :
    ∃ fault, args.takeListsFrom start =
      (.error (args.fault stop fault), args.clearAll (List.range' start (stop - start))) := by
  obtain ⟨hstart, hstop, hbefore, hmissing⟩ := h
  have hcount : start + (stop - start) = stop := by omega
  have htake := takeLists_of_missing start (stop - start) (args.length - stop - 1)
    (by rwa [hcount]) (by rwa [hcount])
  unfold takeListsFrom positionsFrom
  rwa [hcount, show stop - start + 1 + (args.length - stop - 1) = args.length - start by omega]
    at htake

theorem exists_first_of_takeListsFrom {args : Args α} {start : Nat} {e : Error}
    (h : (args.takeListsFrom start).1 = .error e) : ∃ stop, args.FirstWithoutList start stop := by
  classical
  have hsome : ∃ stop, start ≤ stop ∧ stop < args.length ∧ ¬args.HasList stop := by
    by_contra hnone
    push Not at hnone
    obtain ⟨series, htake⟩ := takeLists_of_all start (args.length - start)
      fun position hfrom hto => hnone position hfrom (by omega)
    unfold takeListsFrom positionsFrom at h
    rw [htake] at h
    cases h
  obtain ⟨hstart, hstop, hmissing⟩ := Nat.find_spec hsome
  refine ⟨Nat.find hsome, hstart, hstop, fun position hfrom hto => ?_, hmissing⟩
  by_contra hno
  exact Nat.find_min hsome hto ⟨hfrom, by omega, hno⟩

theorem takeList_left_of_error {args : Args α} {position : Nat} {e : Error}
    (h : (args.takeList position).1 = .error e) : (args.takeList position).2 = args := by
  unfold takeList at *
  split at h
  · cases h
  · rfl
  · rfl

theorem takeGroups_left_of_error {args : Args α} {position : Nat} {e : Error}
    (h : (args.takeGroups position).1 = .error e) : (args.takeGroups position).2 = args := by
  unfold takeGroups at *
  split at h
  · cases h
  · cases h
  · rfl
  · rfl

variable [Arith α] [NumberText α]

/-- Puts questions one after the other: all the answers, and what is left in the end. -/
def askAll (args : Args α) : List (Access α) → List (Except Error (Reply α)) × Args α
  | [] => ([], args)
  | a :: rest =>
    let (reply, left) := args.ask a
    let (replies, last) := left.askAll rest
    (reply :: replies, last)

/-- A question is atomic when its failure cannot be felt: the arguments are as they were, and
whatever is asked afterwards is answered as without it. -/
def Atomic (args : Args α) (a : Access α) : Prop :=
  ∀ e, (args.ask a).1 = .error e →
    (args.ask a).2 = args ∧
    ∀ later, ((args.ask a).2.askAll later).1 = (args.askAll later).1

theorem atomic_of_left_eq {args : Args α} {a : Access α}
    (h : ∀ e, (args.ask a).1 = .error e → (args.ask a).2 = args) : args.Atomic a := by
  intro e he
  rw [h e he]
  exact ⟨rfl, fun _ => rfl⟩

/-- A question that is not for lists from a position on puts back what it cannot use. -/
theorem atomic_of_ne_listsFrom {args : Args α} {a : Access α} (h : ∀ start, a ≠ .listsFrom start) :
    args.Atomic a := by
  apply atomic_of_left_eq
  intro e he
  cases a with
  | list position => exact takeList_left_of_error (except_map_eq_error.1 he)
  | listsFrom start => exact absurd rfl (h start)
  | groups position => exact takeGroups_left_of_error (except_map_eq_error.1 he)
  | int _ | intOr _ _ | countOr _ _ | intsFrom _ | number _ | numberOr _ _ | number? _ | text _
  | textOr _ _ | textsFrom _ => rfl

theorem ask_listsFrom_of_first {args : Args α} {start stop : Nat}
    (h : args.FirstWithoutList start stop) :
    ∃ fault, args.ask (.listsFrom start) =
      (.error (args.fault stop fault), args.clearAll (List.range' start (stop - start))) := by
  obtain ⟨fault, htake⟩ := takeListsFrom_of_first h
  refine ⟨fault, ?_⟩
  simp only [ask, htake]
  rfl

theorem ask_list_of_clearAll {args : Args α} {positions : List Nat} {position : Nat}
    (hlist : args.HasList position) (hmem : position ∈ positions) :
    (∃ series, (args.ask (.list position)).1 = .ok (.list series)) ∧
    ((args.clearAll positions).ask (.list position)).1 = .error (args.fault position .missing) := by
  obtain ⟨series, hpeek⟩ := hlist
  constructor
  · refine ⟨series, ?_⟩
    simp only [ask, takeList_of_peek hpeek]
    rfl
  · have hgone := args.peek_clearAll positions position
    rw [if_pos hmem] at hgone
    simp only [ask, takeList, hgone, fault_clearAll]
    rfl

/-- Whatever has been asked before, a question is atomic unless it has to give lists up.  Lists are
given up when they are taken together with those at later positions and one of these holds none: the
question is refused for the first such position, and the lists before it are missing from then on,
and nothing else. -/
theorem atomic_iff (args : Args α) (asked : List (Access α)) (a : Access α) :
    let reached := (args.askAll asked).2
    (reached.Atomic a ↔
      ¬∃ start stop, a = .listsFrom start ∧ start < stop ∧ reached.FirstWithoutList start stop) ∧
    ∀ start stop, a = .listsFrom start → reached.FirstWithoutList start stop →
      (∃ fault, reached.ask a = (.error (reached.fault stop fault),
        reached.clearAll (List.range' start (stop - start)))) ∧
      ∀ position, start ≤ position → position < stop →
        (∃ series, (reached.ask (.list position)).1 = .ok (.list series)) ∧
        ((reached.ask a).2.ask (.list position)).1 =
          .error (reached.fault position .missing) := by
  intro reached
  have hlost : ∀ start stop, reached.FirstWithoutList start stop →
      ∀ position, start ≤ position → position < stop →
        (∃ series, (reached.ask (.list position)).1 = .ok (.list series)) ∧
        ((reached.ask (.listsFrom start)).2.ask (.list position)).1 =
          .error (reached.fault position .missing) := by
    intro start stop hfirst position hfrom hto
    obtain ⟨fault, hask⟩ := ask_listsFrom_of_first hfirst
    rw [hask]
    exact ask_list_of_clearAll (hfirst.before position hfrom hto)
      (by rw [List.mem_range'_1]; omega)
  refine ⟨⟨?_, fun hkept => ?_⟩, ?_⟩
  · rintro hatomic ⟨start, stop, rfl, hlt, hfirst⟩
    obtain ⟨fault, hask⟩ := ask_listsFrom_of_first hfirst
    obtain ⟨hleft, -⟩ := hatomic _ (by rw [hask])
    obtain ⟨⟨series, hbefore⟩, hafter⟩ := hlost start stop hfirst start (Nat.le_refl start) hlt
    rw [hleft, hbefore] at hafter
    cases hafter
  · by_cases hlists : ∃ start, a = .listsFrom start
    · obtain ⟨start, rfl⟩ := hlists
      apply atomic_of_left_eq
      intro e he
      obtain ⟨stop, hfirst⟩ := exists_first_of_takeListsFrom (except_map_eq_error.1 he)
      have hstop : stop = start := by
        have hle := hfirst.start_le
        by_contra hne
        exact hkept ⟨start, stop, rfl, by omega, hfirst⟩
      obtain ⟨fault, hask⟩ := ask_listsFrom_of_first hfirst
      rw [hask, hstop, Nat.sub_self]
      rfl
    · push Not at hlists
      exact atomic_of_ne_listsFrom hlists
  · rintro start stop rfl hfirst
    exact ⟨ask_listsFrom_of_first hfirst, hlost start stop hfirst⟩

def listThenInteger : Args ℝ :=
  .ofList "sumSeries" [.list [.named "a" 0 0 1 [some 1]], .int 5]

theorem listThenInteger_first : listThenInteger.FirstWithoutList 0 1 where
  start_le := by decide
  stop_lt := by decide
  before position _ hto := by
    obtain rfl : position = 0 := by omega
    exact ⟨_, rfl⟩
  missing := by
    rintro ⟨series, h⟩
    cases h

/-- The list is lost for the integer behind it. -/
theorem not_atomic_listThenInteger :
    ¬∀ (args : Args ℝ) (asked : List (Access ℝ)) (a : Access ℝ), (args.askAll asked).2.Atomic a := by
  intro h
  obtain ⟨fault, hask⟩ := ask_listsFrom_of_first listThenInteger_first
  have hatomic : listThenInteger.Atomic (.listsFrom 0) := h listThenInteger [] (.listsFrom 0)
  obtain ⟨-, hlater⟩ := hatomic _ (by rw [hask])
  have hreply := hlater [.list 0]
  rw [hask] at hreply
  cases hreply

end Args

end MetricSeries

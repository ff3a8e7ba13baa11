import Mathlib
import MetricSeries.Proofs.Handover

/-!
Single delivery.  However often and in whatever order the arguments of a call are asked for, scalars
stay and answer as they did at first.  Series are handed over once, as they were passed, and their
position is missing from then on.
-/

set_option autoImplicit false

namespace MetricSeries

variable {α : Type}

/-- Series, in one list or in groups: the arguments that are handed over. -/
def Arg.IsSeries : Arg α → Prop
  | .list _ | .groups _ => True
  | .int _ | .number _ | .text _ | .flag _ => False

namespace Access

def position? : Access α → Option Nat
  | .list p | .groups p | .int p | .intOr p _ | .countOr p _ | .number p | .numberOr p _
  | .number? p | .text p | .textOr p _ => some p
  | .listsFrom _ | .intsFrom _ | .textsFrom _ => none

def ForSeries : Access α → Prop
  | .list _ | .listsFrom _ | .groups _ => True
  | .int _ | .intOr _ _ | .countOr _ _ | .intsFrom _ | .number _ | .numberOr _ _ | .number? _
  | .text _ | .textOr _ _ | .textsFrom _ => False

/-- Whether a question asks for the series at a position. -/
def Takes (args : Args α) : Access α → Nat → Prop
  | .list p, position | .groups p, position => position = p
  | .listsFrom start, position => position ∈ args.positionsFrom start
  | .int _, _ | .intOr _ _, _ | .countOr _ _, _ | .intsFrom _, _ | .number _, _ | .numberOr _ _, _
  | .number? _, _ | .text _, _ | .textOr _ _, _ | .textsFrom _, _ => False

theorem Takes.forSeries {args : Args α} {a : Access α} {position : Nat}
    (h : a.Takes args position) : a.ForSeries := by
  cases a with
  | list _ | listsFrom _ | groups _ => trivial
  | int _ | intOr _ _ | countOr _ _ | intsFrom _ | number _ | numberOr _ _ | number? _ | text _
  | textOr _ _ | textsFrom _ => exact h

end Access

namespace Args

/-- Whether a position holds series. -/
def HasSeries (args : Args α) (position : Nat) : Prop :=
  ∃ arg, args.peek position = some arg ∧ arg.IsSeries

/-- What a question for series is to be answered with: what is at its positions, unaltered and in
order.  A list that is asked for as groups is one group. -/
def Delivers (args : Args α) : Access α → Reply α → Prop
  | .list p, .list series => args.peek p = some (.list series)
  | .groups p, .groups groups => args.peek p = some (.groups groups) ∨
      ∃ series, args.peek p = some (.list series) ∧ groups = [series]
  | .listsFrom start, .list series => ∃ lists : List (List (Series α)),
      (args.positionsFrom start).map args.peek = lists.map (fun list => some (.list list)) ∧
        series = lists.flatten
  | _, _ => False

theorem peek_clear_self (args : Args α) (position : Nat) :
    (args.clear position).peek position = none := by
  rw [peek_clear, if_pos rfl]

/-- What may be left of arguments: each position is as it was, or it held series that are gone. -/
structure Leaves (args left : Args α) : Prop where
  function_eq : left.function = args.function
  length_eq : left.length = args.length
  peek_or : ∀ position, left.peek position = args.peek position ∨
    (args.HasSeries position ∧ left.peek position = none)

namespace Leaves

variable {first second third : Args α}

theorem refl (args : Args α) : args.Leaves args :=
  ⟨rfl, rfl, fun _ => .inl rfl⟩

theorem clear {args : Args α} {cleared : Nat} (h : args.HasSeries cleared) :
    args.Leaves (args.clear cleared) where
  function_eq := rfl
  length_eq := List.length_set
  peek_or position := by
    by_cases heq : cleared = position
    · subst heq
      exact .inr ⟨h, peek_clear_self args cleared⟩
    · rw [peek_clear, if_neg heq]
      exact .inl rfl

theorem trans (h : first.Leaves second) (h' : second.Leaves third) : first.Leaves third where
  function_eq := h'.function_eq.trans h.function_eq
  length_eq := h'.length_eq.trans h.length_eq
  peek_or position := by
    rcases h.peek_or position with hsame | ⟨hseries, hnone⟩
    · rcases h'.peek_or position with hsame' | ⟨⟨arg, hpeek, harg⟩, hnone'⟩
      · exact .inl (hsame'.trans hsame)
      · exact .inr ⟨⟨arg, hsame ▸ hpeek, harg⟩, hnone'⟩
    · rcases h'.peek_or position with hsame' | ⟨-, hnone'⟩
      · exact .inr ⟨hseries, hsame'.trans hnone⟩
      · exact .inr ⟨hseries, hnone'⟩

theorem peek_of_scalar (h : first.Leaves second) {position : Nat} {arg : Arg α}
    (hpeek : first.peek position = some arg) (harg : ¬arg.IsSeries) :
    second.peek position = some arg := by
  rcases h.peek_or position with hsame | ⟨⟨arg', hpeek', harg'⟩, -⟩
  · exact hsame.trans hpeek
  · obtain rfl : arg = arg' := Option.some.inj (hpeek.symm.trans hpeek')
    exact absurd harg' harg

theorem peek_of_none (h : first.Leaves second) {position : Nat}
    (hpeek : first.peek position = none) : second.peek position = none := by
  rcases h.peek_or position with hsame | ⟨-, hnone⟩
  · exact hsame.trans hpeek
  · exact hnone

theorem peek_of_some (h : first.Leaves second) {position : Nat} {arg : Arg α}
    (hpeek : second.peek position = some arg) : first.peek position = some arg := by
  rcases h.peek_or position with hsame | ⟨-, hnone⟩
  · exact hsame.symm.trans hpeek
  · rw [hnone] at hpeek
    cases hpeek

theorem positionsFrom_eq (h : first.Leaves second) (start : Nat) :
    second.positionsFrom start = first.positionsFrom start := by
  unfold positionsFrom
  rw [h.length_eq]

theorem takes_iff (h : first.Leaves second) (a : Access α) (position : Nat) :
    a.Takes second position ↔ a.Takes first position := by
  cases a with
  | listsFrom start =>
    show position ∈ second.positionsFrom start ↔ position ∈ first.positionsFrom start
    rw [h.positionsFrom_eq]
  | list _ | groups _ | int _ | intOr _ _ | countOr _ _ | intsFrom _ | number _ | numberOr _ _
  | number? _ | text _ | textOr _ _ | textsFrom _ => exact Iff.rfl

theorem delivers (h : first.Leaves second) {a : Access α} {reply : Reply α}
    (hd : second.Delivers a reply) : first.Delivers a reply := by
  cases a with
  | list p =>
    cases reply with
    | list series => exact h.peek_of_some hd
    | groups _ | int _ | count _ | ints _ | number _ | number? _ | text _ | texts _ => exact hd
  | groups p =>
    cases reply with
    | groups groups =>
      rcases hd with hpeek | ⟨series, hpeek, hgroups⟩
      · exact .inl (h.peek_of_some hpeek)
      · exact .inr ⟨series, h.peek_of_some hpeek, hgroups⟩
    | list _ | int _ | count _ | ints _ | number _ | number? _ | text _ | texts _ => exact hd
  | listsFrom start =>
    cases reply with
    | list series =>
      obtain ⟨lists, hlists, hseries⟩ := hd
      refine ⟨lists, ?_, hseries⟩
      rw [h.positionsFrom_eq] at hlists
      rw [← hlists]
      refine List.map_congr_left fun position hmem => ?_
      have hpeek := List.mem_map_of_mem (f := second.peek) hmem
      rw [hlists] at hpeek
      obtain ⟨list, -, hlist⟩ := List.mem_map.1 hpeek
      rw [← hlist]
      exact h.peek_of_some hlist.symm
    | groups _ | int _ | count _ | ints _ | number _ | number? _ | text _ | texts _ => exact hd
  | int _ | intOr _ _ | countOr _ _ | intsFrom _ | number _ | numberOr _ _ | number? _ | text _
  | textOr _ _ | textsFrom _ => exact hd

end Leaves

theorem takeList_cases (args : Args α) (p : Nat) :
    (∃ series, args.peek p = some (.list series) ∧ args.takeList p = (.ok series, args.clear p)) ∨
    ∃ fault, args.takeList p = (.error (args.fault p fault), args) ∧
      (args.peek p = none → fault = .missing) := by
  unfold takeList
  cases hpeek : args.peek p with
  | none => exact .inr ⟨.missing, rfl, fun _ => rfl⟩
  | some arg =>
    cases arg with
    | list series => exact .inl ⟨series, rfl, rfl⟩
    | groups _ | int _ | number _ | text _ | flag _ => exact .inr ⟨_, rfl, fun h => by cases h⟩

theorem takeGroups_cases (args : Args α) (p : Nat) :
    (∃ groups, (args.peek p = some (.groups groups) ∨
        ∃ series, args.peek p = some (.list series) ∧ groups = [series]) ∧
      args.takeGroups p = (.ok groups, args.clear p)) ∨
    ∃ fault, args.takeGroups p = (.error (args.fault p fault), args) ∧
      (args.peek p = none → fault = .missing) := by
  unfold takeGroups
  cases hpeek : args.peek p with
  | none => exact .inr ⟨.missing, rfl, fun _ => rfl⟩
  | some arg =>
    cases arg with
    | groups groups => exact .inl ⟨groups, .inl rfl, rfl⟩
    | list series => exact .inl ⟨[series], .inr ⟨series, rfl, rfl⟩, rfl⟩
    | int _ | number _ | text _ | flag _ => exact .inr ⟨_, rfl, fun h => by cases h⟩

theorem takeList_eq_ok {args : Args α} {p : Nat} {series : List (Series α)}
    (h : (args.takeList p).1 = .ok series) :
    args.peek p = some (.list series) ∧ (args.takeList p).2 = args.clear p := by
  rcases takeList_cases args p with ⟨series', hpeek, htake⟩ | ⟨fault, htake, -⟩
  · rw [htake] at h ⊢
    cases h
    exact ⟨hpeek, rfl⟩
  · rw [htake] at h
    cases h

theorem takeGroups_eq_ok {args : Args α} {p : Nat} {groups : List (List (Series α))}
    (h : (args.takeGroups p).1 = .ok groups) :
    (args.peek p = some (.groups groups) ∨
      ∃ series, args.peek p = some (.list series) ∧ groups = [series]) ∧
    (args.takeGroups p).2 = args.clear p := by
  rcases takeGroups_cases args p with ⟨groups', hpeek, htake⟩ | ⟨fault, htake, -⟩
  · rw [htake] at h ⊢
    cases h
    exact ⟨hpeek, rfl⟩
  · rw [htake] at h
    cases h

theorem takeList_leaves (args : Args α) (p : Nat) : args.Leaves (args.takeList p).2 := by
  rcases takeList_cases args p with ⟨series, hpeek, htake⟩ | ⟨fault, htake, -⟩
  · rw [htake]
    exact .clear ⟨_, hpeek, trivial⟩
  · rw [htake]
    exact .refl args

theorem takeGroups_leaves (args : Args α) (p : Nat) : args.Leaves (args.takeGroups p).2 := by
  rcases takeGroups_cases args p with ⟨groups, hpeek, htake⟩ | ⟨fault, htake, -⟩
  · rw [htake]
    rcases hpeek with hpeek | ⟨series, hpeek, -⟩
    · exact .clear ⟨_, hpeek, trivial⟩
    · exact .clear ⟨_, hpeek, trivial⟩
  · rw [htake]
    exact .refl args

theorem takeLists_cons_of_peek {args : Args α} {p : Nat} {series : List (Series α)}
    (hpeek : args.peek p = some (.list series)) (rest : List Nat) :
    args.takeLists (p :: rest) =
      (((args.clear p).takeLists rest).1.map (series ++ ·), ((args.clear p).takeLists rest).2) := by
  conv_lhs => unfold takeLists
  rw [takeList_of_peek hpeek]
  dsimp only
  rcases (args.clear p).takeLists rest with ⟨reply, left⟩
  cases reply <;> rfl

theorem takeLists_cons_of_error {args left : Args α} {p : Nat} {e : Error}
    (h : args.takeList p = (.error e, left)) (rest : List Nat) :
    args.takeLists (p :: rest) = (.error e, left) := by
  unfold takeLists
  rw [h]

theorem takeLists_leaves (args : Args α) (positions : List Nat) :
    args.Leaves (args.takeLists positions).2 := by
  induction positions generalizing args with
  | nil => exact .refl args
  | cons p rest ih =>
    rcases takeList_cases args p with ⟨series, hpeek, -⟩ | ⟨fault, htake, -⟩
    · rw [takeLists_cons_of_peek hpeek]
      exact .trans (.clear ⟨_, hpeek, trivial⟩) (ih (args.clear p))
    · rw [takeLists_cons_of_error htake]
      exact .refl args

theorem takeLists_eq_ok {args : Args α} {positions : List Nat} (hnodup : positions.Nodup)
    {series : List (Series α)} (h : (args.takeLists positions).1 = .ok series) :
    (∃ lists : List (List (Series α)),
      positions.map args.peek = lists.map (fun list => some (.list list)) ∧
        series = lists.flatten) ∧
    (args.takeLists positions).2 = args.clearAll positions := by
  induction positions generalizing args series with
  | nil =>
    cases h
    exact ⟨⟨[], rfl, rfl⟩, rfl⟩
  | cons p rest ih =>
    obtain ⟨hnotMem, hrest⟩ := List.nodup_cons.1 hnodup
    rcases takeList_cases args p with ⟨first, hpeek, -⟩ | ⟨fault, htake, -⟩
    · rw [takeLists_cons_of_peek hpeek] at h ⊢
      obtain ⟨more, hmore, rfl⟩ := except_map_eq_ok.1 h
      obtain ⟨⟨lists, hlists, rfl⟩, hleft⟩ := ih hrest hmore
      have hsame : rest.map (args.clear p).peek = rest.map args.peek := by
        refine List.map_congr_left fun position hmem => ?_
        rw [peek_clear, if_neg (ne_of_mem_of_not_mem hmem hnotMem).symm]
      refine ⟨⟨first :: lists, ?_, rfl⟩, hleft⟩
      rw [List.map_cons, List.map_cons, hpeek, ← hlists, hsame]
    · rw [takeLists_cons_of_error htake] at h
      cases h

theorem nodup_positionsFrom (args : Args α) (start : Nat) : (args.positionsFrom start).Nodup :=
  List.nodup_range'

/-- A refusal for one of the positions up to a given one, and at that one because it is missing. -/
def Refuses (args : Args α) (start position : Nat) (e : Error) : Prop :=
  ∃ stop fault, start ≤ stop ∧ stop ≤ position ∧ e = args.fault stop fault ∧
    (stop = position → fault = .missing)

theorem Refuses.here (args : Args α) {start position : Nat} {fault : ArgumentFault}
    (hstart : start ≤ position) (h : start = position → fault = .missing) :
    args.Refuses start position (args.fault start fault) :=
  ⟨start, fault, Nat.le_refl start, hstart, rfl, h⟩

theorem Refuses.later {args : Args α} {start position : Nat} {e : Error}
    (h : args.Refuses (start + 1) position e) : args.Refuses start position e := by
  obtain ⟨stop, fault, hstart, hstop, he, hmissing⟩ := h
  exact ⟨stop, fault, by omega, hstop, he, hmissing⟩

theorem takeLists_refuses {args : Args α} {position : Nat} (hpeek : args.peek position = none)
    (start count : Nat) (hstart : start ≤ position) (hstop : position < start + count) :
    ∃ e, (args.takeLists (List.range' start count)).1 = .error e ∧
      args.Refuses start position e := by
  induction count generalizing args start with
  | zero => omega
  | succ count ih =>
    rw [List.range'_succ]
    rcases takeList_cases args start with ⟨series, hseries, -⟩ | ⟨fault, htake, hmissing⟩
    · have hne : start ≠ position := by
        rintro rfl
        rw [hpeek] at hseries
        cases hseries
      have hclear : (args.clear start).peek position = none := by
        rw [peek_clear, if_neg hne, hpeek]
      obtain ⟨e, he, hrefuses⟩ := ih hclear (start + 1) (by omega) (by omega)
      refine ⟨e, ?_, hrefuses.later⟩
      rw [takeLists_cons_of_peek hseries, he]
      rfl
    · refine ⟨_, ?_, .here args hstart fun heq => hmissing (heq ▸ hpeek)⟩
      rw [takeLists_cons_of_error htake]

theorem mapM_refuses {β : Type} {args : Args α} {position : Nat} {f : Nat → Except Error β}
    (hmissing : f position = .error (args.fault position .missing))
    (hfault : ∀ p e, f p = .error e → ∃ fault, e = args.fault p fault)
    (start count : Nat) (hstart : start ≤ position) (hstop : position < start + count) :
    ∃ e, (List.range' start count).mapM f = .error e ∧ args.Refuses start position e := by
  induction count generalizing start with
  | zero => omega
  | succ count ih =>
    rw [List.range'_succ, List.mapM_cons]
    cases hf : f start with
    | error e =>
      obtain ⟨fault, rfl⟩ := hfault start e hf
      refine ⟨_, rfl, .here args hstart fun heq => ?_⟩
      rw [heq, hmissing] at hf
      cases hf
      rfl
    | ok b =>
      have hne : start ≠ position := by
        rintro rfl
        rw [hmissing] at hf
        cases hf
      obtain ⟨e, he, hrefuses⟩ := ih (start + 1) (by omega) (by omega)
      refine ⟨e, ?_, hrefuses.later⟩
      rw [he]
      rfl

theorem int_eq_error [Arith α] {args : Args α} {p : Nat} {e : Error} (h : args.int p = .error e) :
    ∃ fault, e = args.fault p fault := by
  unfold int require at h
  split at h
  · rename_i herror
    split at herror
    · cases herror
    · cases herror
      cases h
      exact ⟨_, rfl⟩
  · cases h
  · split at h
    · cases h
    · cases h
      exact ⟨_, rfl⟩
  · cases h
    exact ⟨_, rfl⟩

theorem text_eq_error {args : Args α} {p : Nat} {e : Error} (h : args.text p = .error e) :
    ∃ fault, e = args.fault p fault := by
  unfold text require at h
  split at h
  · rename_i herror
    split at herror
    · cases herror
    · cases herror
      cases h
      exact ⟨_, rfl⟩
  · cases h
  · cases h
    exact ⟨_, rfl⟩

variable [Arith α] [NumberText α]

theorem ask_leaves (args : Args α) (a : Access α) : args.Leaves (args.ask a).2 := by
  cases a with
  | list p => exact takeList_leaves args p
  | listsFrom start => exact takeLists_leaves args (args.positionsFrom start)
  | groups p => exact takeGroups_leaves args p
  | int _ | intOr _ _ | countOr _ _ | intsFrom _ | number _ | numberOr _ _ | number? _ | text _
  | textOr _ _ | textsFrom _ => exact .refl args

theorem delivers_of_ask {args : Args α} {a : Access α} {reply : Reply α} (ha : a.ForSeries)
    (h : (args.ask a).1 = .ok reply) :
    args.Delivers a reply ∧ ∀ position, a.Takes args position →
      args.HasSeries position ∧ (args.ask a).2.peek position = none := by
  cases a with
  | list p =>
    have hreply : (args.takeList p).1.map .list = .ok reply := h
    obtain ⟨series, hseries, rfl⟩ := except_map_eq_ok.1 hreply
    obtain ⟨hpeek, hleft⟩ := takeList_eq_ok hseries
    refine ⟨hpeek, ?_⟩
    rintro position rfl
    exact ⟨⟨_, hpeek, trivial⟩, (congrArg (peek · position) hleft).trans (peek_clear_self args _)⟩
  | groups p =>
    have hreply : (args.takeGroups p).1.map .groups = .ok reply := h
    obtain ⟨groups, hgroups, rfl⟩ := except_map_eq_ok.1 hreply
    obtain ⟨hpeek, hleft⟩ := takeGroups_eq_ok hgroups
    refine ⟨hpeek, ?_⟩
    rintro position rfl
    refine ⟨?_, (congrArg (peek · position) hleft).trans (peek_clear_self args _)⟩
    rcases hpeek with hpeek | ⟨series, hpeek, -⟩
    · exact ⟨_, hpeek, trivial⟩
    · exact ⟨_, hpeek, trivial⟩
  | listsFrom start =>
    have hreply : (args.takeListsFrom start).1.map .list = .ok reply := h
    obtain ⟨series, hseries, rfl⟩ := except_map_eq_ok.1 hreply
    obtain ⟨⟨lists, hlists, rfl⟩, hleft⟩ := takeLists_eq_ok (nodup_positionsFrom args start) hseries
    refine ⟨⟨lists, hlists, rfl⟩, fun position (hmem : position ∈ args.positionsFrom start) => ?_⟩
    constructor
    · have hpeek := List.mem_map_of_mem (f := args.peek) hmem
      rw [hlists] at hpeek
      obtain ⟨list, -, hlist⟩ := List.mem_map.1 hpeek
      exact ⟨_, hlist.symm, trivial⟩
    · refine (congrArg (peek · position) hleft).trans ?_
      rw [peek_clearAll, if_pos hmem]
  | int _ | intOr _ _ | countOr _ _ | intsFrom _ | number _ | numberOr _ _ | number? _ | text _
  | textOr _ _ | textsFrom _ => exact ha.elim

theorem ask_congr {args args' : Args α} {a : Access α} {p : Nat} (ha : a.position? = some p)
    (hfunction : args'.function = args.function) (hpeek : args'.peek p = args.peek p) :
    (args'.ask a).1 = (args.ask a).1 := by
  have hfault : args'.fault = args.fault := by
    unfold fault
    rw [hfunction]
  have hmismatch : args'.mismatch = args.mismatch := by
    unfold mismatch
    rw [hfault]
  have hrequire : args'.require p = args.require p := by
    unfold require
    rw [hpeek, hfault]
  have hint : args'.int p = args.int p := by
    unfold int
    rw [hrequire, hmismatch]
  have hnumber : args'.number p = args.number p := by
    unfold number
    rw [hrequire, hmismatch]
  cases a with
  | listsFrom _ | intsFrom _ | textsFrom _ => cases ha
  | list _ =>
    cases ha
    simp only [ask, takeList, hpeek, hfault, hmismatch]
    split <;> rfl
  | groups _ =>
    cases ha
    simp only [ask, takeGroups, hpeek, hfault, hmismatch]
    split <;> rfl
  | int _ =>
    cases ha
    simp only [ask, hint]
  | intOr _ _ =>
    cases ha
    simp only [ask, intOr, hpeek, hint]
  | countOr _ _ =>
    cases ha
    simp only [ask, countOr, hpeek, hint, hfault]
  | number _ =>
    cases ha
    simp only [ask, hnumber]
  | numberOr _ _ =>
    cases ha
    simp only [ask, numberOr, hpeek, hnumber]
  | number? _ =>
    cases ha
    simp only [ask, number?, hpeek, hnumber]
  | text _ =>
    cases ha
    simp only [ask, text, hrequire, hmismatch]
  | textOr _ _ =>
    cases ha
    simp only [ask, textOr, hpeek, hmismatch]

/-- Every question finds a position missing: those that require it refuse it as missing, those with
a default give that, and those from an earlier position on come no further. -/
structure FindsMissing (args : Args α) (position : Nat) : Prop where
  list : (args.ask (.list position)).1 = .error (args.fault position .missing)
  groups : (args.ask (.groups position)).1 = .error (args.fault position .missing)
  int : (args.ask (.int position)).1 = .error (args.fault position .missing)
  number : (args.ask (.number position)).1 = .error (args.fault position .missing)
  text : (args.ask (.text position)).1 = .error (args.fault position .missing)
  intOr : ∀ d, (args.ask (.intOr position d)).1 = .ok (.int d)
  countOr : ∀ d, (args.ask (.countOr position d)).1 = .ok (.count d)
  numberOr : ∀ d, (args.ask (.numberOr position d)).1 = .ok (.number d)
  number? : (args.ask (.number? position)).1 = .ok (.number? none)
  textOr : ∀ d, (args.ask (.textOr position d)).1 = .ok (.text d)
  listsFrom : ∀ start, position ∈ args.positionsFrom start →
    ∃ e, (args.ask (.listsFrom start)).1 = .error e ∧ args.Refuses start position e
  intsFrom : ∀ start, position ∈ args.positionsFrom start →
    ∃ e, (args.ask (.intsFrom start)).1 = .error e ∧ args.Refuses start position e
  textsFrom : ∀ start, position ∈ args.positionsFrom start →
    ∃ e, (args.ask (.textsFrom start)).1 = .error e ∧ args.Refuses start position e

theorem findsMissing_of_peek {args : Args α} {position : Nat} (h : args.peek position = none) :
    args.FindsMissing position := by
  have hrequire : args.require position = .error (args.fault position .missing) := by
    unfold require
    rw [h]
  have hint : args.int position = .error (args.fault position .missing) := by
    unfold int
    rw [hrequire]
  have htext : args.text position = .error (args.fault position .missing) := by
    unfold text
    rw [hrequire]
  have hbounds : ∀ start, position ∈ args.positionsFrom start →
      start ≤ position ∧ position < start + (args.length - start) := fun start hmem =>
    List.mem_range'_1.1 hmem
  constructor
  · simp only [ask, takeList, h]
    rfl
  · simp only [ask, takeGroups, h]
    rfl
  · simp only [ask, hint]
    rfl
  · simp only [ask, number, hrequire]
    rfl
  · simp only [ask, htext]
    rfl
  · intro d
    simp only [ask, intOr, h]
    rfl
  · intro d
    simp only [ask, countOr, h]
    rfl
  · intro d
    simp only [ask, numberOr, h]
    rfl
  · simp only [ask, number?, h]
    rfl
  · intro d
    simp only [ask, textOr, h]
    rfl
  · intro start hmem
    obtain ⟨hstart, hstop⟩ := hbounds start hmem
    obtain ⟨e, he, hrefuses⟩ := takeLists_refuses h start _ hstart hstop
    exact ⟨e, except_map_eq_error.2 he, hrefuses⟩
  · intro start hmem
    obtain ⟨hstart, hstop⟩ := hbounds start hmem
    obtain ⟨e, he, hrefuses⟩ := mapM_refuses hint (fun _ _ => int_eq_error) start _ hstart hstop
    exact ⟨e, except_map_eq_error.2 he, hrefuses⟩
  · intro start hmem
    obtain ⟨hstart, hstop⟩ := hbounds start hmem
    obtain ⟨e, he, hrefuses⟩ := mapM_refuses htext (fun _ _ => text_eq_error) start _ hstart hstop
    exact ⟨e, except_map_eq_error.2 he, hrefuses⟩

theorem askAll_leaves (args : Args α) (asked : List (Access α)) :
    args.Leaves (args.askAll asked).2 := by
  induction asked generalizing args with
  | nil => exact .refl args
  | cons a rest ih => exact (ask_leaves args a).trans (ih (args.ask a).2)

/-- What is left after the first questions of a run. -/
def reached (args : Args α) (asked : List (Access α)) (i : Nat) : Args α :=
  (args.askAll (asked.take i)).2

theorem askAll_append (args : Args α) (asked later : List (Access α)) :
    (args.askAll (asked ++ later)).2 = ((args.askAll asked).2.askAll later).2 := by
  induction asked generalizing args with
  | nil => rfl
  | cons a rest ih => exact ih (args.ask a).2

theorem getElem?_askAll (args : Args α) (asked : List (Access α)) (i : Nat) :
    (args.askAll asked).1[i]? = asked[i]?.map fun a => ((args.reached asked i).ask a).1 := by
  induction asked generalizing args i with
  | nil => rfl
  | cons a rest ih =>
    cases i with
    | zero => rfl
    | succ i => exact ih (args.ask a).2 i

theorem reached_leaves (args : Args α) (asked : List (Access α)) {i j : Nat} (h : i ≤ j) :
    (args.reached asked i).Leaves (args.reached asked j) := by
  have htake : asked.take j = asked.take i ++ (asked.take j).drop i := by
    conv_lhs => rw [← List.take_append_drop i (asked.take j), List.take_take, Nat.min_eq_left h]
  unfold reached
  rw [htake, askAll_append]
  exact askAll_leaves _ _

theorem reached_succ (args : Args α) (asked : List (Access α)) {i : Nat} {a : Access α}
    (ha : asked[i]? = some a) : args.reached asked (i + 1) = ((args.reached asked i).ask a).2 := by
  unfold reached
  rw [List.take_add_one, ha, Option.toList_some, askAll_append]
  rfl

/-- Whether the question at one place of a run takes what is at a position, with success. -/
def TakenAt (args : Args α) (asked : List (Access α)) (position i : Nat) : Prop :=
  ∃ a reply, asked[i]? = some a ∧ a.Takes args position ∧
    (args.askAll asked).1[i]? = some (.ok reply)

theorem ok_of_getElem?_askAll {args : Args α} {asked : List (Access α)} {i : Nat} {a : Access α}
    {reply : Reply α} (ha : asked[i]? = some a)
    (hreply : (args.askAll asked).1[i]? = some (.ok reply)) :
    ((args.reached asked i).ask a).1 = .ok reply := by
  rw [getElem?_askAll, ha, Option.map_some] at hreply
  exact Option.some.inj hreply

/-- What is taken was there until then, as it was passed, and is not there afterwards. -/
theorem TakenAt.gone {args : Args α} {asked : List (Access α)} {position i : Nat}
    (h : args.TakenAt asked position i) :
    (args.reached asked i).HasSeries position ∧
      (args.reached asked i).peek position = args.peek position ∧
      ∀ j, i < j → (args.reached asked j).peek position = none := by
  obtain ⟨a, reply, ha, htakes, hreply⟩ := h
  have hleaves : args.Leaves (args.reached asked i) := reached_leaves args asked (Nat.zero_le i)
  obtain ⟨-, hgone⟩ := delivers_of_ask htakes.forSeries (ok_of_getElem?_askAll ha hreply)
  obtain ⟨⟨arg, hpeek, harg⟩, hnone⟩ :=
    hgone position ((hleaves.takes_iff a position).2 htakes)
  rw [← reached_succ args asked ha] at hnone
  refine ⟨⟨arg, hpeek, harg⟩, hpeek.trans (hleaves.peek_of_some hpeek).symm, fun j hij => ?_⟩
  exact (reached_leaves args asked hij).peek_of_none hnone

theorem TakenAt.not_lt {args : Args α} {asked : List (Access α)} {position i j : Nat}
    (hi : args.TakenAt asked position i) (hj : args.TakenAt asked position j) : ¬i < j := by
  intro hlt
  obtain ⟨-, -, hgone⟩ := hi.gone
  obtain ⟨⟨arg, hpeek, -⟩, -, -⟩ := hj.gone
  rw [hgone j hlt] at hpeek
  cases hpeek

theorem exists_gone (args : Args α) (asked : List (Access α)) (position : Nat) :
    ∃ gone : ℕ∞, ∀ i : ℕ,
      (args.reached asked i).peek position = if i < gone then args.peek position else none := by
  classical
  by_cases hever : ∃ i, (args.reached asked i).peek position = none
  · refine ⟨Nat.find hever, fun i => ?_⟩
    simp only [Nat.cast_lt]
    split
    · rename_i hlt
      rcases (reached_leaves args asked (Nat.zero_le i)).peek_or position with hsame | ⟨-, hnone⟩
      · exact hsame
      · exact absurd hnone (Nat.find_min hever hlt)
    · rename_i hge
      exact (reached_leaves args asked (not_lt.1 hge)).peek_of_none (Nat.find_spec hever)
  · refine ⟨⊤, fun i => ?_⟩
    rw [if_pos (ENat.natCast_lt_top i)]
    rcases (reached_leaves args asked (Nat.zero_le i)).peek_or position with hsame | ⟨-, hnone⟩
    · exact hsame
    · exact absurd ⟨i, hnone⟩ hever

/-- A run of questions delivers series once. -/
structure DeliversOnce (args : Args α) (asked : List (Access α)) : Prop where
  function_eq : ∀ i, (args.reached asked i).function = args.function
  length_eq : ∀ i, (args.reached asked i).length = args.length
  /-- Scalars stay, and each question to the position of one is answered as at first. -/
  scalar : ∀ position arg, args.peek position = some arg → ¬arg.IsSeries → ∀ i,
    (args.reached asked i).peek position = some arg ∧
      ∀ a, a.position? = some position → ((args.reached asked i).ask a).1 = (args.ask a).1
  /-- What is at a position is there up to some time, which may never come, and never again. -/
  leaves : ∀ position, ∃ gone : ℕ∞, ∀ i : ℕ,
    (args.reached asked i).peek position = if i < gone then args.peek position else none
  /-- A question for series that succeeds is answered with what was passed at first. -/
  delivers : ∀ (i : Nat) (a : Access α) (reply : Reply α), asked[i]? = some a → a.ForSeries →
    (args.askAll asked).1[i]? = some (.ok reply) → args.Delivers a reply
  /-- What is taken was there until then, and is gone from then on. -/
  taken : ∀ position i, args.TakenAt asked position i → args.HasSeries position ∧
    (args.reached asked i).peek position = args.peek position ∧
      ∀ j, i < j → (args.reached asked j).peek position = none
  once : ∀ position i j, args.TakenAt asked position i → args.TakenAt asked position j → i = j
  /-- What has been taken, given up, or was never there is missing for every question. -/
  missing : ∀ position i, (args.reached asked i).peek position = none →
    ∀ j, i ≤ j → (args.reached asked j).FindsMissing position

/-- Every run of questions, on any arguments, delivers series once. -/
theorem askAll_deliversOnce (args : Args α) (asked : List (Access α)) :
    args.DeliversOnce asked := by
  have hleaves : ∀ i, args.Leaves (args.reached asked i) := fun i =>
    reached_leaves args asked (Nat.zero_le i)
  constructor
  · exact fun i => (hleaves i).function_eq
  · exact fun i => (hleaves i).length_eq
  · intro position arg hpeek harg i
    have hstays := (hleaves i).peek_of_scalar hpeek harg
    refine ⟨hstays, fun a ha => ?_⟩
    exact ask_congr ha (hleaves i).function_eq (hstays.trans hpeek.symm)
  · exact fun position => exists_gone args asked position
  · intro i a reply ha hseries hreply
    exact (hleaves i).delivers (delivers_of_ask hseries (ok_of_getElem?_askAll ha hreply)).1
  · intro position i hi
    obtain ⟨⟨arg, hpeek, harg⟩, hsame, hgone⟩ := hi.gone
    exact ⟨⟨arg, hsame.symm.trans hpeek, harg⟩, hsame, hgone⟩
  · intro position i j hi hj
    exact le_antisymm (not_lt.1 (hj.not_lt hi)) (not_lt.1 (hi.not_lt hj))
  · intro position i hnone j hij
    exact findsMissing_of_peek ((reached_leaves args asked hij).peek_of_none hnone)

end Args

end MetricSeries

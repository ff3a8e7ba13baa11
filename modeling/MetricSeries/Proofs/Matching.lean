import MetricSeries.Pattern.Node
import Mathlib.Data.List.Basic

/-!
How patterns run that repeat one set of characters, or leave a part out.  A repetition takes as much
as it can and gives back one character after the other until the rest of the pattern matches; before
a rest that matches anywhere it keeps all it has taken.
-/

set_option autoImplicit false

namespace MetricSeries.Pattern

/-- The rest of a pattern that matches wherever it is reached. -/
def Rest.Total (k : Rest) : Prop :=
  ∀ c groups, ∃ found, k c groups = some found

/-- The rest of a pattern that has no groups of its own. -/
def Rest.Silent (k : Rest) : Prop :=
  ∀ c groups found, k c groups = some found → found.captures = groups

def many (s : CharSet) : Node :=
  .iterate (.set s) 0 none true

def atLeastOne (s : CharSet) : Node :=
  .iterate (.set s) 1 none true

def orNothing (r : Node) : Node :=
  .iterate r 0 (some 1) true

variable {s : CharSet} {k : Rest} {before after : List Char} {x : Char} {groups : Captures}

theorem run_set_cons : (Node.set s).run k ⟨before, x :: after⟩ groups =
    if s.holds x then k ⟨x :: before, after⟩ groups else none := rfl

theorem run_orNothing (r : Node) (k : Rest) : (orNothing r).run k = (r.run k).orElse k := rfl

theorem someRounds_set_cons :
    someRounds (Node.set s).run true k ⟨before, x :: after⟩ groups =
      if s.holds x then moreRounds (Node.set s).run true k after.length ⟨x :: before, after⟩ groups
      else none := by
  unfold someRounds
  rw [run_set_cons]
  simp

theorem moreRounds_set_cons :
    moreRounds (Node.set s).run true k (x :: after).length ⟨before, x :: after⟩ groups =
      match someRounds (Node.set s).run true k ⟨before, x :: after⟩ groups with
      | some found => some found
      | none => k ⟨before, x :: after⟩ groups := by
  have hround : (Node.set s).run (fun d groups =>
        if d.after.length < (x :: after).length then
          moreRounds (Node.set s).run true k after.length d groups
        else none) ⟨before, x :: after⟩ groups =
      someRounds (Node.set s).run true k ⟨before, x :: after⟩ groups := by
    rw [someRounds_set_cons, run_set_cons]
    simp
  rw [← hround]
  rfl

/-- With as many rounds left as there are characters, the rounds behind the first are a repetition
of their own. -/
theorem moreRounds_set :
    moreRounds (Node.set s).run true k after.length ⟨before, after⟩ groups =
      (many s).run k ⟨before, after⟩ groups := by
  cases after with
  | nil => rfl
  | cons x after => exact moreRounds_set_cons

theorem run_many_cons : (many s).run k ⟨before, x :: after⟩ groups =
    match (if s.holds x then (many s).run k ⟨x :: before, after⟩ groups else none) with
    | some found => some found
    | none => k ⟨before, x :: after⟩ groups := by
  rw [← moreRounds_set, ← moreRounds_set, moreRounds_set_cons, someRounds_set_cons]

theorem run_atLeastOne_cons : (atLeastOne s).run k ⟨before, x :: after⟩ groups =
    if s.holds x then (many s).run k ⟨x :: before, after⟩ groups else none := by
  rw [← moreRounds_set]
  exact someRounds_set_cons

/-- A repetition takes all that it can. -/
theorem run_many_of_total (hk : k.Total) : (many s).run k ⟨before, after⟩ groups =
    k ⟨(after.takeWhile s.holds).reverse ++ before, after.dropWhile s.holds⟩ groups := by
  induction after generalizing before with
  | nil => rfl
  | cons x after ih =>
    rw [run_many_cons]
    by_cases hx : s.holds x
    · obtain ⟨found, hfound⟩ := hk ⟨(after.takeWhile s.holds).reverse ++ x :: before,
        after.dropWhile s.holds⟩ groups
      rw [if_pos hx, ih, hfound, List.takeWhile_cons_of_pos hx, List.dropWhile_cons_of_pos hx,
        List.reverse_cons, List.append_assoc, List.singleton_append, hfound]
    · rw [if_neg hx, List.takeWhile_cons_of_neg hx, List.dropWhile_cons_of_neg hx]
      rfl

theorem run_atLeastOne_of_total (hk : k.Total) (hx : s.holds x) :
    (atLeastOne s).run k ⟨before, x :: after⟩ groups =
      k ⟨((x :: after).takeWhile s.holds).reverse ++ before, (x :: after).dropWhile s.holds⟩
        groups := by
  rw [run_atLeastOne_cons, if_pos hx, run_many_of_total hk, List.takeWhile_cons_of_pos hx,
    List.dropWhile_cons_of_pos hx, List.reverse_cons, List.append_assoc, List.singleton_append]

theorem total_orNothing (r : Node) (hk : k.Total) : ((orNothing r).run k).Total := by
  intro c groups
  obtain ⟨found, hfound⟩ := hk c groups
  rw [run_orNothing]
  unfold Rest.orElse
  cases r.run k c groups with
  | none => exact ⟨found, hfound⟩
  | some found => exact ⟨found, rfl⟩

theorem silent_orElse {first second : Rest} (hfirst : first.Silent) (hsecond : second.Silent) :
    (first.orElse second).Silent := by
  intro c groups found hfound
  unfold Rest.orElse at hfound
  split at hfound
  · rename_i hsome
    exact hfirst c groups found (hsome.trans hfound)
  · exact hsecond c groups found hfound

theorem silent_set (s : CharSet) (hk : k.Silent) : ((Node.set s).run k).Silent := by
  rintro ⟨before, after⟩ groups found hfound
  cases after with
  | nil => cases hfound
  | cons x after =>
    rw [run_set_cons] at hfound
    split at hfound
    · exact hk _ _ _ hfound
    · cases hfound

theorem silent_orNothing {r : Node} (hr : (r.run k).Silent) (hk : k.Silent) :
    ((orNothing r).run k).Silent :=
  silent_orElse hr hk

theorem silent_many (s : CharSet) (hk : k.Silent) : ((many s).run k).Silent := by
  rintro ⟨before, after⟩ groups found hfound
  induction after generalizing before with
  | nil => exact hk _ _ _ hfound
  | cons x after ih =>
    rw [run_many_cons] at hfound
    split at hfound
    · rename_i hmore
      cases hfound
      split at hmore
      · exact ih _ hmore
      · cases hmore
    · exact hk _ _ _ hfound

theorem upTo_takeWhile (p : Char → Bool) (before before' after : List Char) :
    Cursor.upTo ⟨before, after⟩ ⟨before', after.dropWhile p⟩ = after.takeWhile p := by
  have hlength : after.length = (after.takeWhile p).length + (after.dropWhile p).length := by
    rw [← List.length_append, List.takeWhile_append_dropWhile]
  show after.take (after.length - (after.dropWhile p).length) = after.takeWhile p
  rw [hlength, Nat.add_sub_cancel]
  exact (List.prefix_iff_eq_take.1 (List.takeWhile_prefix p)).symm

end MetricSeries.Pattern

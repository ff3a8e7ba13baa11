import MetricSeries.Proofs.Matching

/-!
What a run of a pattern does to a text, whatever the pattern: it goes on from one place to a later
one and writes down groups of the pattern's own.  A search stops at the first place where a run
succeeds, with the text cut in three there.
-/

set_option autoImplicit false

namespace MetricSeries.Pattern

/-- The numbers of the groups in a pattern. -/
def Node.groups : Node → List Nat
  | .empty | .set _ | .look _ => []
  | .seq a b | .alt a b => a.groups ++ b.groups
  | .iterate r _ _ _ => r.groups
  | .group index r => index :: r.groups

/-- The way from one place to another, with nothing but groups of the given numbers taken part on
it. -/
structure Passage (indices : List Nat) (c : Cursor) (taken : Captures) (d : Cursor)
    (taken' : Captures) : Prop where
  text : ∃ text, c.after = text ++ d.after ∧ d.before = text.reverse ++ c.before
  groups : ∃ more, taken' = more ++ taken ∧ ∀ g ∈ more, g.1 ∈ indices

theorem Match.group_eq_nil {m : Match} {index : Nat} (hzero : index ≠ 0)
    (hindex : ∀ g ∈ m.captures, g.1 ≠ index) : m.group index = [] := by
  have hlookup : m.captures.lookup index = none := by
    rw [List.lookup_eq_none_iff]
    intro g hg
    simpa using (hindex g hg).symm
  rw [Match.group, if_neg hzero, hlookup]
  rfl

namespace Passage

variable {indices indices' : List Nat} {c d e : Cursor} {taken taken' taken'' : Captures}

theorem refl (indices : List Nat) (c : Cursor) (taken : Captures) :
    Passage indices c taken c taken :=
  ⟨⟨[], rfl, rfl⟩, ⟨[], rfl, by simp⟩⟩

theorem trans (h : Passage indices c taken d taken') (h' : Passage indices d taken' e taken'') :
    Passage indices c taken e taken'' := by
  obtain ⟨first, hfirst, hfirstBefore⟩ := h.text
  obtain ⟨second, hsecond, hsecondBefore⟩ := h'.text
  obtain ⟨more, hmore, hindices⟩ := h.groups
  obtain ⟨more', hmore', hindices'⟩ := h'.groups
  refine ⟨⟨first ++ second, ?_, ?_⟩, ⟨more' ++ more, ?_, fun g hg => ?_⟩⟩
  · rw [hfirst, hsecond, List.append_assoc]
  · rw [hsecondBefore, hfirstBefore, List.reverse_append, List.append_assoc]
  · rw [hmore', hmore, List.append_assoc]
  · exact (List.mem_append.1 hg).elim (hindices' g) (hindices g)

theorem mono (h : Passage indices c taken d taken') (hsub : indices ⊆ indices') :
    Passage indices' c taken d taken' := by
  obtain ⟨more, hmore, hindices⟩ := h.groups
  exact ⟨h.text, ⟨more, hmore, fun g hg => hsub (hindices g hg)⟩⟩

theorem char {x : Char} {before after : List Char} (indices : List Nat) (taken : Captures) :
    Passage indices ⟨before, x :: after⟩ taken ⟨x :: before, after⟩ taken :=
  ⟨⟨[x], rfl, rfl⟩, ⟨[], rfl, by simp⟩⟩

theorem group {index : Nat} (h : Passage indices c taken d taken') :
    Passage (index :: indices) c taken d ((index, c.upTo d) :: taken') := by
  obtain ⟨more, rfl, hindices⟩ := h.groups
  refine ⟨h.text, ⟨(index, c.upTo d) :: more, rfl, fun g hg => ?_⟩⟩
  rcases List.mem_cons.1 hg with rfl | hg
  · exact List.mem_cons_self
  · exact List.mem_cons_of_mem _ (hindices g hg)

theorem after_eq (h : Passage indices c taken d taken') : c.after = c.upTo d ++ d.after := by
  obtain ⟨text, htext, -⟩ := h.text
  rw [Cursor.upTo, htext, List.length_append, Nat.add_sub_cancel, List.take_left]

end Passage

section
variable {first second : Rest} {c : Cursor} {taken : Captures} {found : Found}

theorem orElse_eq_some (h : first.orElse second c taken = some found) :
    first c taken = some found ∨ second c taken = some found := by
  unfold Rest.orElse at h
  split at h
  · rename_i hfirst
    exact .inl (hfirst.trans h)
  · exact .inr h

theorem choose_eq_some {greedy : Bool} (h : Rest.choose greedy first second c taken = some found) :
    first c taken = some found ∨ second c taken = some found := by
  cases greedy with
  | true => exact orElse_eq_some h
  | false => exact (orElse_eq_some h).symm

end

/-- A run succeeds only by way of the rest behind it, at a place that it has passed on to. -/
def Travels (indices : List Nat) (round : Rest → Rest) : Prop :=
  ∀ k c taken found, round k c taken = some found →
    ∃ d taken', Passage indices c taken d taken' ∧ k d taken' = some found

namespace Travels

variable {indices indices' : List Nat} {round first second : Rest → Rest}

theorem stop : Travels indices fun k => k :=
  fun _ c taken _ h => ⟨c, taken, .refl indices c taken, h⟩

theorem mono (h : Travels indices round) (hsub : indices ⊆ indices') : Travels indices' round := by
  intro k c taken found hfound
  obtain ⟨d, taken', hpassage, hk⟩ := h k c taken found hfound
  exact ⟨d, taken', hpassage.mono hsub, hk⟩

theorem comp (h : Travels indices first) (h' : Travels indices second) :
    Travels indices fun k => first (second k) := by
  intro k c taken found hfound
  obtain ⟨d, taken', hpassage, hfound⟩ := h _ c taken found hfound
  obtain ⟨e, taken'', hpassage', hk⟩ := h' k d taken' found hfound
  exact ⟨e, taken'', hpassage.trans hpassage', hk⟩

theorem orElse (h : Travels indices first) (h' : Travels indices second) :
    Travels indices fun k => (first k).orElse (second k) := by
  intro k c taken found hfound
  exact (orElse_eq_some hfound).elim (h k c taken found) (h' k c taken found)

theorem choose (greedy : Bool) (h : Travels indices first) (h' : Travels indices second) :
    Travels indices fun k => Rest.choose greedy (first k) (second k) := by
  intro k c taken found hfound
  exact (choose_eq_some hfound).elim (h k c taken found) (h' k c taken found)

theorem rounds (h : Travels indices round) (n : Nat) : Travels indices (rounds round n) := by
  induction n with
  | zero => exact stop
  | succ n ih => exact h.comp ih

theorem roundsUpTo (h : Travels indices round) (greedy : Bool) (n : Nat) :
    Travels indices (roundsUpTo round greedy n) := by
  induction n with
  | zero => exact stop
  | succ n ih => exact (h.comp ih).choose greedy stop

theorem moreRounds (h : Travels indices round) (greedy : Bool) (n : Nat) :
    Travels indices fun k => moreRounds round greedy k n := by
  induction n with
  | zero => exact stop
  | succ n ih =>
    -- What stands behind a round hangs on the place where the round began, so that the round is no
    -- part to be put together with a rest: the run is followed from that place on.
    intro k c taken found hfound
    rcases choose_eq_some hfound with hfound | hfound
    · obtain ⟨d, taken', hpassage, hfound⟩ := h _ c taken found hfound
      split at hfound
      · obtain ⟨e, taken'', hpassage', hk⟩ := ih k d taken' found hfound
        exact ⟨e, taken'', hpassage.trans hpassage', hk⟩
      · cases hfound
    · exact stop k c taken found hfound

theorem someRounds (h : Travels indices round) (greedy : Bool) :
    Travels indices fun k => someRounds round greedy k := by
  intro k c taken found hfound
  obtain ⟨d, taken', hpassage, hfound⟩ := h _ c taken found hfound
  split at hfound
  · obtain ⟨e, taken'', hpassage', hk⟩ := h.moreRounds greedy _ k d taken' found hfound
    exact ⟨e, taken'', hpassage.trans hpassage', hk⟩
  · exact ⟨d, taken', hpassage, hfound⟩

end Travels

namespace Node

/-- Whatever the pattern, its run travels. -/
theorem travels_run (r : Node) : Travels r.groups r.run := by
  induction r with
  | empty => exact .stop
  | set s =>
    rintro k ⟨before, after⟩ taken found h
    cases after with
    | nil => cases h
    | cons x after =>
      rw [run_set_cons] at h
      split at h
      · exact ⟨⟨x :: before, after⟩, taken, .char _ taken, h⟩
      · cases h
  | look l =>
    intro k c taken found h
    simp only [run] at h
    split at h
    · exact ⟨c, taken, .refl _ c taken, h⟩
    · cases h
  | seq a b iha ihb =>
    exact (iha.mono (List.subset_append_left _ _)).comp (ihb.mono (List.subset_append_right _ _))
  | alt a b iha ihb =>
    exact (iha.mono (List.subset_append_left _ _)).orElse (ihb.mono (List.subset_append_right _ _))
  | group index r ih =>
    intro k c taken found h
    obtain ⟨d, taken', hpassage, hk⟩ := ih _ c taken found h
    exact ⟨d, _, hpassage.group, hk⟩
  | iterate r min max greedy ih =>
    cases max with
    | some max => exact (ih.rounds min).comp (ih.roundsUpTo greedy (max - min))
    | none =>
      cases min with
      | zero => exact (ih.someRounds greedy).choose greedy .stop
      | succ min => exact (ih.rounds min).comp (ih.someRounds greedy)

variable {r : Node} {m : Match}

/-- A match cuts the text behind its place in two and holds groups of the pattern only. -/
theorem matchAt_eq_some {c : Cursor} (h : r.matchAt c = some m) :
    m.before = c.before.reverse ∧ c.after = m.text ++ m.after ∧
      ∀ g ∈ m.captures, g.1 ∈ r.groups := by
  unfold matchAt at h
  obtain ⟨found, hrun, rfl⟩ := Option.map_eq_some_iff.1 h
  obtain ⟨d, taken, hpassage, hfound⟩ := r.travels_run _ c [] found hrun
  cases hfound
  obtain ⟨more, rfl, hgroups⟩ := hpassage.groups
  refine ⟨rfl, hpassage.after_eq, ?_⟩
  simpa using hgroups

theorem group_eq_nil {c : Cursor} (h : r.matchAt c = some m) {index : Nat} (hzero : index ≠ 0)
    (hindex : index ∉ r.groups) : m.group index = [] := by
  obtain ⟨-, -, hgroups⟩ := matchAt_eq_some h
  exact Match.group_eq_nil hzero fun g hg heq => hindex (heq ▸ hgroups g hg)

end Node

section
variable {matchAt : Cursor → Option Match} {m : Match}

/-- A match is preferred at no place of a text. -/
def MatchesNowhere (matchAt : Cursor → Option Match) (text : List Char) : Prop :=
  ∀ before after, text = before ++ after → matchAt ⟨before.reverse, after⟩ = none

/-- The match at the first place where there is one, with the text cut in three. -/
structure FirstMatch (matchAt : Cursor → Option Match) (text : List Char) (m : Match) : Prop where
  text_eq : text = m.before ++ m.text ++ m.after
  here : matchAt ⟨m.before.reverse, m.text ++ m.after⟩ = some m
  first : ∀ before after, text = before ++ after → before.length < m.before.length →
    matchAt ⟨before.reverse, after⟩ = none

theorem findFrom_eq_none {before after : List Char} (h : findFrom matchAt before after = none)
    {skipped rest : List Char} (hcut : after = skipped ++ rest) :
    matchAt ⟨skipped.reverse ++ before, rest⟩ = none := by
  induction after generalizing before skipped with
  | nil =>
    obtain ⟨rfl, rfl⟩ := List.append_eq_nil_iff.1 hcut.symm
    exact h
  | cons x after ih =>
    simp only [findFrom] at h
    split at h
    · cases h
    · rename_i hhere
      cases skipped with
      | nil =>
        obtain rfl : x :: after = rest := hcut
        exact hhere
      | cons y skipped =>
        obtain ⟨rfl, hrest⟩ := List.cons.inj hcut
        have hnone := ih h hrest
        rwa [List.reverse_cons, List.append_assoc, List.singleton_append]

/-- A search from a place on skips some text and stops at a match. -/
structure StopsAt (matchAt : Cursor → Option Match) (before after skipped : List Char)
    (m : Match) : Prop where
  before_eq : m.before = before.reverse ++ skipped
  after_eq : after = skipped ++ (m.text ++ m.after)
  here : matchAt ⟨skipped.reverse ++ before, m.text ++ m.after⟩ = some m
  first : ∀ less rest, after = less ++ rest → less.length < skipped.length →
    matchAt ⟨less.reverse ++ before, rest⟩ = none

theorem StopsAt.cons {before after skipped : List Char} {x : Char}
    (hnone : matchAt ⟨before, x :: after⟩ = none)
    (h : StopsAt matchAt (x :: before) after skipped m) :
    StopsAt matchAt before (x :: after) (x :: skipped) m := by
  refine ⟨by simpa using h.before_eq, congrArg (x :: ·) h.after_eq, by simpa using h.here, ?_⟩
  intro less rest hcut hlength
  cases less with
  | nil =>
    obtain rfl : x :: after = rest := hcut
    exact hnone
  | cons y less =>
    obtain ⟨rfl, hrest⟩ := List.cons.inj hcut
    simpa using h.first less rest hrest (by simpa using hlength)

theorem FirstMatch.unique {text : List Char} {m' : Match} (h : FirstMatch matchAt text m)
    (h' : FirstMatch matchAt text m') : m = m' := by
  have hcut : text = m.before ++ (m.text ++ m.after) := by rw [h.text_eq, List.append_assoc]
  have hcut' : text = m'.before ++ (m'.text ++ m'.after) := by rw [h'.text_eq, List.append_assoc]
  have hlength : m.before.length = m'.before.length := by
    rcases Nat.lt_trichotomy m.before.length m'.before.length with hlt | heq | hlt
    · have hnone := h'.first _ _ hcut hlt
      rw [h.here] at hnone
      cases hnone
    · exact heq
    · have hnone := h.first _ _ hcut' hlt
      rw [h'.here] at hnone
      cases hnone
  obtain ⟨hbefore, hafter⟩ := List.append_inj (hcut.symm.trans hcut') hlength
  exact Option.some.inj (h.here.symm.trans (hbefore ▸ hafter ▸ h'.here))

theorem FirstMatch.not_matchesNowhere {text : List Char} (h : FirstMatch matchAt text m) :
    ¬MatchesNowhere matchAt text := by
  intro hnowhere
  have hnone := hnowhere m.before (m.text ++ m.after) (by rw [h.text_eq, List.append_assoc])
  rw [h.here] at hnone
  cases hnone

theorem matchesNowhere_of_find {text : List Char} (h : findFrom matchAt [] text = none) :
    MatchesNowhere matchAt text := by
  intro before after hcut
  simpa using findFrom_eq_none h hcut

/-- A match lies where it was looked for: it cuts the text behind its place in two. -/
def Cuts (matchAt : Cursor → Option Match) : Prop :=
  ∀ {c m}, matchAt c = some m → m.before = c.before.reverse ∧ c.after = m.text ++ m.after

variable (hcuts : Cuts matchAt)
include hcuts

theorem StopsAt.nil {before after : List Char} (h : matchAt ⟨before, after⟩ = some m) :
    StopsAt matchAt before after [] m := by
  obtain ⟨hbefore, hafter⟩ := hcuts h
  exact ⟨by simpa using hbefore, hafter, hafter ▸ h, by simp⟩

theorem findFrom_eq_some {before after : List Char} (h : findFrom matchAt before after = some m) :
    ∃ skipped, StopsAt matchAt before after skipped m := by
  induction after generalizing before with
  | nil => exact ⟨[], .nil hcuts h⟩
  | cons x after ih =>
    simp only [findFrom] at h
    split at h
    · rename_i hhere
      cases h
      exact ⟨[], .nil hcuts hhere⟩
    · rename_i hnone
      obtain ⟨skipped, hstop⟩ := ih h
      exact ⟨x :: skipped, hstop.cons hnone⟩

theorem firstMatch_of_find {text : List Char} (h : findFrom matchAt [] text = some m) :
    FirstMatch matchAt text m := by
  obtain ⟨skipped, hstop⟩ := findFrom_eq_some hcuts h
  obtain rfl : m.before = skipped := hstop.before_eq
  refine ⟨by rw [hstop.after_eq, List.append_assoc], by simpa using hstop.here, ?_⟩
  intro before after hcut hlt
  simpa using hstop.first before after hcut hlt

end

end MetricSeries.Pattern

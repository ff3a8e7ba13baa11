import MetricSeries.Proofs.MetricPath

/-!
The metric path of any text, told without the pattern: the first line that has a name character
decides, and in it the last parenthesis that stands directly before one, or else the first name
character.  The path is the whole run of name characters from there on.
-/

set_option autoImplicit false

namespace MetricSeries

open MetricSeries.Pattern

/-- The longest run of name characters that a text starts with; there is one. -/
structure Leads (run cs : List Char) : Prop where
  ne_nil : run ≠ []
  named : ∀ c ∈ run, nameSet.holds c
  stops : ∃ rest, cs = run ++ rest ∧ ¬startsName rest

/-- A parenthesis stands directly before a name character. -/
def OpensPath (cs : List Char) : Prop :=
  ∃ front rest, cs = front ++ '(' :: rest ∧ startsName rest

/-- A line ends before this text. -/
def EndsLine (after : List Char) : Prop :=
  after = [] ∨ ∃ rest, after = '\n' :: rest

/-- The first line of a text that has a name character.  What lies before it are whole lines, and
what follows it, if anything does, begins with a line feed. -/
structure FirstNamedLine (cs line : List Char) : Prop where
  oneLine : '\n' ∉ line
  named : ∃ c ∈ line, nameSet.holds c
  within : ∃ before after, cs = before ++ (line ++ after) ∧
    (before = [] ∨ ∃ front, before = front ++ ['\n']) ∧ (∀ c ∈ before, ¬nameSet.holds c) ∧
    EndsLine after

inductive IsPath : List Char → List Char → Prop
  | whole {cs : List Char} (unnamed : ∀ c ∈ cs, ¬nameSet.holds c) : IsPath cs cs
  /-- Behind the last parenthesis of the line that stands directly before a name character. -/
  | inner {cs line front rest run : List Char} (first : FirstNamedLine cs line)
      (opened : line = front ++ '(' :: rest) (leads : Leads run rest) (last : ¬OpensPath rest) :
      IsPath cs run
  /-- The first run of a line in which no parenthesis stands directly before a name character. -/
  | bare {cs line front rest run : List Char} (first : FirstNamedLine cs line)
      (unopened : ¬OpensPath line) (split : line = front ++ rest)
      (unnamed : ∀ c ∈ front, ¬nameSet.holds c) (leads : Leads run rest) : IsPath cs run

theorem not_startsName_newline (rest : List Char) : ¬startsName ('\n' :: rest) := by
  have hnewline : nameSet.holds '\n' = false := by decide
  simp [startsName, hnewline]

theorem Leads.startsName {run cs : List Char} (h : Leads run cs) : startsName cs := by
  obtain ⟨rest, rfl, -⟩ := h.stops
  obtain ⟨c, run, rfl⟩ := List.exists_cons_of_ne_nil h.ne_nil
  exact h.named c (by simp)

theorem Leads.eq_takeWhile {run cs : List Char} (h : Leads run cs) :
    run = cs.takeWhile nameSet.holds := by
  obtain ⟨rest, rfl, hrest⟩ := h.stops
  rw [takeWhile_append_of_not_startsName hrest]
  exact (List.takeWhile_eq_self_iff.2 h.named).symm

theorem leads_takeWhile {cs : List Char} (h : startsName cs) :
    Leads (cs.takeWhile nameSet.holds) cs where
  ne_nil := by
    cases cs with
    | nil => cases h
    | cons c cs =>
      have hc : nameSet.holds c = true := h
      rw [List.takeWhile_cons_of_pos hc]
      exact List.cons_ne_nil _ _
  named _ hc := List.mem_takeWhile_imp hc
  stops := by
    refine ⟨cs.dropWhile nameSet.holds, List.takeWhile_append_dropWhile.symm, ?_⟩
    have hhead := List.head?_dropWhile_not nameSet.holds cs
    unfold MetricSeries.startsName
    cases hrest : (cs.dropWhile nameSet.holds).head? with
    | none => simp
    | some c =>
      rw [hrest] at hhead
      simpa using hhead

theorem startsName_dropWhile {cs : List Char} (h : ∃ c ∈ cs, nameSet.holds c) :
    startsName (cs.dropWhile fun c => !nameSet.holds c) := by
  obtain ⟨c, hc, hnamed⟩ := h
  have hhead := List.head?_dropWhile_not (fun c => !nameSet.holds c) cs
  unfold startsName
  cases hrest : (cs.dropWhile fun c => !nameSet.holds c).head? with
  | none =>
    rw [List.head?_eq_none_iff, List.dropWhile_eq_nil_iff] at hrest
    simpa [hnamed] using hrest c hc
  | some d =>
    rw [hrest] at hhead
    simpa using hhead

theorem innermost_eq_none_of_not_opensPath {cs : List Char} (h : ¬OpensPath cs) :
    innermost cs = none := by
  induction cs with
  | nil => rfl
  | cons c cs ih =>
    have hrest : ¬OpensPath cs := fun ⟨front, rest, hcs, hstarts⟩ =>
      h ⟨c :: front, rest, by rw [hcs, List.cons_append], hstarts⟩
    have hhead : ¬(c = '(' ∧ startsName cs) := fun ⟨hc, hstarts⟩ =>
      h ⟨[], cs, by rw [hc, List.nil_append], hstarts⟩
    rw [innermost_cons, ih hrest]
    dsimp only
    rw [if_neg hhead, ite_self]

/-- The last of the parentheses is the one behind which no other opens a path. -/
theorem innermost_of_opened {front rest : List Char} (hline : '\n' ∉ front)
    (hstarts : startsName rest) (hlast : ¬OpensPath rest) :
    innermost (front ++ '(' :: rest) = some rest := by
  rw [innermost_call hline hstarts, innermost_eq_none_of_not_opensPath hlast, Option.getD_none]

theorem exists_last_opened {cs : List Char} (h : OpensPath cs) :
    ∃ front rest, cs = front ++ '(' :: rest ∧ startsName rest ∧ ¬OpensPath rest := by
  induction cs with
  | nil =>
    obtain ⟨front, rest, hcs, -⟩ := h
    simp at hcs
  | cons c cs ih =>
    by_cases hrest : OpensPath cs
    · obtain ⟨front, rest, rfl, hstarts, hlast⟩ := ih hrest
      exact ⟨c :: front, rest, rfl, hstarts, hlast⟩
    · obtain ⟨front, rest, hcs, hstarts⟩ := h
      cases front with
      | nil =>
        obtain ⟨rfl, rfl⟩ := List.cons.inj hcs
        exact ⟨[], cs, rfl, hstarts, hrest⟩
      | cons d front => exact absurd ⟨front, rest, (List.cons.inj hcs).2, hstarts⟩ hrest

theorem pathFrom_cons_of_unnamed {c : Char} {cs : List Char} (hc : ¬nameSet.holds c)
    (h : innermost (c :: cs) = none) : pathFrom (c :: cs) = pathFrom cs := by
  have hstarts : ¬startsName (c :: cs) := hc
  have hstart : pathStart (c :: cs) = none := by
    unfold pathStart
    rw [h]
    exact if_neg hstarts
  rw [pathFrom, hstart]

theorem pathFrom_of_unnamed {cs : List Char} (h : ∀ c ∈ cs, ¬nameSet.holds c) :
    pathFrom cs = none := by
  induction cs with
  | nil => rfl
  | cons c cs ih =>
    obtain ⟨hc, hcs⟩ := List.forall_mem_cons.1 h
    have hopens : ¬OpensPath (c :: cs) := by
      rintro ⟨front, rest, hsplit, hstarts⟩
      cases rest with
      | nil => cases hstarts
      | cons x rest => exact h x (by rw [hsplit]; simp) hstarts
    rw [pathFrom_cons_of_unnamed hc (innermost_eq_none_of_not_opensPath hopens), ih hcs]

theorem innermost_of_unnamed {front : List Char} (h : ∀ c ∈ front, ¬nameSet.holds c)
    (rest : List Char) : innermost (front ++ '\n' :: rest) = none := by
  induction front with
  | nil => rfl
  | cons c front ih =>
    obtain ⟨-, hfront⟩ := List.forall_mem_cons.1 h
    have hstarts : ¬startsName (front ++ '\n' :: rest) := by
      cases front with
      | nil => exact not_startsName_newline rest
      | cons d front => exact hfront d (by simp)
    rw [List.cons_append, innermost_cons, ih hfront]
    simp [hstarts]

theorem pathFrom_of_unnamed_lines {front : List Char} (h : ∀ c ∈ front, ¬nameSet.holds c)
    (rest : List Char) : pathFrom (front ++ '\n' :: rest) = pathFrom rest := by
  induction front with
  | nil => exact pathFrom_cons_of_unnamed (not_startsName_newline rest) rfl
  | cons c front ih =>
    obtain ⟨hc, hfront⟩ := List.forall_mem_cons.1 h
    have hinner := innermost_of_unnamed h rest
    rw [List.cons_append] at hinner ⊢
    rw [pathFrom_cons_of_unnamed hc hinner, ih hfront]

theorem pathFrom_of_unopened {front rest : List Char} (h : ∀ c ∈ front, ¬nameSet.holds c)
    (hline : '\n' ∉ front) (hinner : innermost (front ++ rest) = none) :
    pathFrom (front ++ rest) = pathFrom rest ∧ innermost rest = none := by
  induction front with
  | nil => exact ⟨rfl, hinner⟩
  | cons c front ih =>
    obtain ⟨hc, hfront⟩ := List.forall_mem_cons.1 h
    obtain ⟨hne, hline⟩ : '\n' ≠ c ∧ '\n' ∉ front := by simpa using hline
    rw [List.cons_append] at hinner ⊢
    have htail : innermost (front ++ rest) = none := by
      rw [innermost_cons, if_neg (Ne.symm hne)] at hinner
      cases hrest : innermost (front ++ rest) with
      | none => rfl
      | some inner =>
        rw [hrest] at hinner
        cases hinner
    obtain ⟨hpath, hnone⟩ := ih hfront hline htail
    exact ⟨(pathFrom_cons_of_unnamed hc hinner).trans hpath, hnone⟩

section
variable {line after : List Char}

theorem not_startsName_of_lineEnd (hafter : EndsLine after) : ¬startsName after := by
  rcases hafter with rfl | ⟨rest, rfl⟩
  · simp [startsName]
  · exact not_startsName_newline rest

theorem innermost_append_lineEnd (hafter : EndsLine after) (cs : List Char) :
    innermost (cs ++ after) = (innermost cs).map (· ++ after) := by
  refine innermost_append ?_ (not_startsName_of_lineEnd hafter) cs
  rcases hafter with rfl | ⟨rest, rfl⟩ <;> rfl

theorem pathFrom_opened {front rest : List Char} (hline : '\n' ∉ front)
    (hstarts : startsName rest) (hlast : ¬OpensPath rest) (hafter : EndsLine after) :
    pathFrom ((front ++ '(' :: rest) ++ after) = some (rest.takeWhile nameSet.holds) := by
  have hinner := innermost_append_lineEnd hafter (front ++ '(' :: rest)
  rw [innermost_of_opened hline hstarts hlast, Option.map_some] at hinner
  have hstart : pathStart ((front ++ '(' :: rest) ++ after) = some (rest ++ after) := by
    unfold pathStart
    rw [hinner]
  rw [pathFrom_of_pathStart hstart,
    takeWhile_append_of_not_startsName (not_startsName_of_lineEnd hafter)]

theorem pathFrom_bare {front rest : List Char} (hline : '\n' ∉ front)
    (hunopened : ¬OpensPath (front ++ rest)) (hunnamed : ∀ c ∈ front, ¬nameSet.holds c)
    (hstarts : startsName rest) (hafter : EndsLine after) :
    pathFrom ((front ++ rest) ++ after) = some (rest.takeWhile nameSet.holds) := by
  have hinner := innermost_append_lineEnd hafter (front ++ rest)
  rw [innermost_eq_none_of_not_opensPath hunopened, Option.map_none, List.append_assoc] at hinner
  obtain ⟨hpath, hnone⟩ := pathFrom_of_unopened hunnamed hline hinner
  have hstart : pathStart (rest ++ after) = some (rest ++ after) := by
    unfold pathStart
    rw [hnone]
    exact if_pos (startsName_append hstarts after)
  rw [List.append_assoc, hpath, pathFrom_of_pathStart hstart,
    takeWhile_append_of_not_startsName (not_startsName_of_lineEnd hafter)]

end

theorem FirstNamedLine.pathFrom_eq {cs line : List Char} (h : FirstNamedLine cs line) :
    ∃ after, EndsLine after ∧ pathFrom cs = pathFrom (line ++ after) := by
  obtain ⟨before, after, rfl, hbefore, hunnamed, hafter⟩ := h.within
  refine ⟨after, hafter, ?_⟩
  rcases hbefore with rfl | ⟨front, rfl⟩
  · rfl
  · rw [List.append_assoc, List.singleton_append]
    exact pathFrom_of_unnamed_lines (fun c hc => hunnamed c (by simp [hc])) _

theorem exists_firstNamedLine_cons {c : Char} (hc : ¬nameSet.holds c) {cs line : List Char}
    (h : FirstNamedLine cs line) : ∃ line, FirstNamedLine (c :: cs) line := by
  obtain ⟨before, after, rfl, hbefore, hunnamed, hafter⟩ := h.within
  have hunnamed' : ∀ d ∈ c :: before, ¬nameSet.holds d := List.forall_mem_cons.2 ⟨hc, hunnamed⟩
  rcases hbefore with rfl | ⟨front, rfl⟩
  · by_cases hfeed : c = '\n'
    · have hbefore : [c] = [] ++ ['\n'] := by rw [hfeed, List.nil_append]
      exact ⟨line, h.oneLine, h.named, [c], after, rfl, .inr ⟨[], hbefore⟩, hunnamed', hafter⟩
    · refine ⟨c :: line, ?_, ?_, [], after, rfl, .inl rfl, by simp, hafter⟩
      · simpa [Ne.symm hfeed] using h.oneLine
      · obtain ⟨d, hd, hnamed⟩ := h.named
        exact ⟨d, List.mem_cons_of_mem c hd, hnamed⟩
  · exact ⟨line, h.oneLine, h.named, c :: (front ++ ['\n']), after, rfl, .inr ⟨c :: front, rfl⟩,
      hunnamed', hafter⟩

theorem exists_firstNamedLine {cs : List Char} (h : ∃ c ∈ cs, nameSet.holds c) :
    ∃ line, FirstNamedLine cs line := by
  induction cs with
  | nil =>
    obtain ⟨c, hc, -⟩ := h
    cases hc
  | cons c cs ih =>
    by_cases hc : nameSet.holds c
    -- The line of the first name character ends before the next line feed.
    · have hfeed : c ≠ '\n' := by
        rintro rfl
        revert hc
        decide
      refine ⟨c :: cs.takeWhile (· ≠ '\n'), ?_, ⟨c, by simp, hc⟩, [], cs.dropWhile (· ≠ '\n'), ?_,
        .inl rfl, by simp, ?_⟩
      · rintro (hmem : '\n' ∈ c :: _)
        rcases List.mem_cons.1 hmem with hmem | hmem
        · exact hfeed hmem.symm
        · simpa using List.mem_takeWhile_imp hmem
      · simp [List.takeWhile_append_dropWhile]
      · have hhead := List.head?_dropWhile_not (fun c => decide (c ≠ '\n')) cs
        cases hrest : cs.dropWhile fun c => decide (c ≠ '\n') with
        | nil => exact .inl rfl
        | cons d rest =>
          rw [hrest] at hhead
          exact .inr ⟨rest, by simpa using hhead⟩
    · obtain ⟨d, hd, hnamed⟩ := h
      have hcs : d ∈ cs := (List.mem_cons.1 hd).resolve_left fun hdc => hc (hdc ▸ hnamed)
      obtain ⟨line, hfirst⟩ := ih ⟨d, hcs, hnamed⟩
      exact exists_firstNamedLine_cons hc hfirst

theorem FirstNamedLine.exists_isPath {cs line : List Char} (h : FirstNamedLine cs line) :
    ∃ path, IsPath cs path := by
  by_cases hopens : OpensPath line
  · obtain ⟨front, rest, hline, hstarts, hlast⟩ := exists_last_opened hopens
    exact ⟨_, .inner h hline (leads_takeWhile hstarts) hlast⟩
  · refine ⟨_, .bare h hopens List.takeWhile_append_dropWhile.symm (fun c hc => ?_)
      (leads_takeWhile (startsName_dropWhile h.named))⟩
    simpa using List.mem_takeWhile_imp hc

theorem exists_isPath (cs : List Char) : ∃ path, IsPath cs path := by
  by_cases h : ∃ c ∈ cs, nameSet.holds c
  · obtain ⟨line, hline⟩ := exists_firstNamedLine h
    exact hline.exists_isPath
  · exact ⟨cs, .whole fun c hc hnamed => h ⟨c, hc, hnamed⟩⟩

theorem IsPath.eq_metricPath {cs path : List Char} (h : IsPath cs path) : metricPath cs = path := by
  rw [metricPath_eq_pathFrom]
  cases h with
  | whole hunnamed => rw [pathFrom_of_unnamed hunnamed, Option.getD_none]
  | inner hfirst hopened hleads hlast =>
    obtain ⟨after, hafter, hpath⟩ := hfirst.pathFrom_eq
    have hline := hfirst.oneLine
    rw [hopened, List.mem_append, not_or] at hline
    rw [hpath, hopened, pathFrom_opened hline.1 hleads.startsName hlast hafter, Option.getD_some,
      hleads.eq_takeWhile]
  | bare hfirst hunopened hsplit hunnamed hleads =>
    obtain ⟨after, hafter, hpath⟩ := hfirst.pathFrom_eq
    have hline := hfirst.oneLine
    rw [hsplit, List.mem_append, not_or] at hline
    rw [hsplit] at hunopened
    rw [hpath, hsplit, pathFrom_bare hline.1 hunopened hunnamed hleads.startsName hafter,
      Option.getD_some, hleads.eq_takeWhile]

/-- Every text has one path, and it is the one that the pattern finds. -/
theorem metricPath_eq_iff_isPath (cs path : List Char) : metricPath cs = path ↔ IsPath cs path := by
  constructor
  · rintro rfl
    obtain ⟨path, hpath⟩ := exists_isPath cs
    rwa [hpath.eq_metricPath]
  · exact IsPath.eq_metricPath

example : metricPath "(,\nsum(a.b),(c.d(\ne(f".toList = "c.d".toList := by decide +kernel

end MetricSeries

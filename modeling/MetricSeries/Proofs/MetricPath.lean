import MetricSeries.Operation.Label
import MetricSeries.Proofs.Matching
import Mathlib.Data.List.TakeWhile

/-!
The metric path of a name, read off the name from left to right.  It is the run of name characters
behind the last parenthesis of the line that has such a character directly behind it, and the run
that the name starts with where there is no such parenthesis.
-/

set_option autoImplicit false

namespace MetricSeries

open MetricSeries.Pattern

def startsName (cs : List Char) : Bool :=
  cs.head?.any nameSet.holds

/-- The text behind the last parenthesis of the line that a name character follows. -/
def innermost : List Char → Option (List Char)
  | [] => none
  | c :: cs =>
    if c = '\n' then none
    else
      match innermost cs with
      | some rest => some rest
      | none => if c = '(' ∧ startsName cs then some cs else none

theorem innermost_cons (c : Char) (cs : List Char) : innermost (c :: cs) =
    if c = '\n' then none
    else
      match innermost cs with
      | some rest => some rest
      | none => if c = '(' ∧ startsName cs then some cs else none := rfl

def pathStart (cs : List Char) : Option (List Char) :=
  match innermost cs with
  | some rest => some rest
  | none => if startsName cs then some cs else none

theorem holds_single (c x : Char) : (CharSet.single c).holds x = decide (x = c) := by
  show (decide (c ≤ x) && decide (x ≤ c)) = decide (x = c)
  rw [Bool.eq_iff_iff]
  simp only [Bool.and_eq_true, decide_eq_true_eq]
  constructor
  · rintro ⟨hle, hge⟩
    exact Char.le_antisymm hge hle
  · rintro rfl
    exact ⟨Char.le_refl _, Char.le_refl _⟩

theorem holds_withinLine (x : Char) : CharSet.withinLine.holds x = !decide (x = '\n') :=
  congrArg not (holds_single '\n' x)

def pathTail : Rest :=
  (optionally (.alt (charNode ',') (.seq (optionally (charNode ')')) lineNode))).run
    fun d groups => some ⟨d, groups⟩

def pathRest : Rest :=
  (Node.group 1 (.iterate (.set nameSet) 1 none true)).run pathTail

theorem total_pathTail : pathTail.Total :=
  total_orNothing _ fun c groups => ⟨⟨c, groups⟩, rfl⟩

theorem silent_pathTail : pathTail.Silent := by
  have hstop : Rest.Silent fun d groups => some ⟨d, groups⟩ := by
    intro c groups found hfound
    cases hfound
    rfl
  have hline := silent_many CharSet.withinLine hstop
  have hclosed := silent_orNothing (silent_set (.single ')') hline) hline
  exact silent_orNothing (silent_orElse (silent_set (.single ',') hstop) hclosed) hstop

variable (before after : List Char) (groups : Captures)

theorem captures_pathRest : (pathRest ⟨before, after⟩ groups).map Found.captures =
    if startsName after then some ((1, after.takeWhile nameSet.holds) :: groups) else none := by
  let captured : Rest := fun d groups => pathTail d ((1, Cursor.upTo ⟨before, after⟩ d) :: groups)
  have hrun : pathRest ⟨before, after⟩ groups =
      (atLeastOne nameSet).run captured ⟨before, after⟩ groups := rfl
  have htotal : captured.Total := fun c groups => total_pathTail c _
  rw [hrun]
  cases after with
  | nil => rfl
  | cons x after =>
    by_cases hx : nameSet.holds x
    · have hstarts : startsName (x :: after) = true := hx
      rw [run_atLeastOne_of_total htotal hx, if_pos hstarts]
      obtain ⟨found, hfound⟩ := htotal ⟨((x :: after).takeWhile nameSet.holds).reverse ++ before,
        (x :: after).dropWhile nameSet.holds⟩ groups
      rw [hfound]
      have hcaptures := silent_pathTail _ _ _ hfound
      rw [upTo_takeWhile] at hcaptures
      exact congrArg some hcaptures
    · have hstarts : ¬startsName (x :: after) = true := hx
      rw [run_atLeastOne_cons, if_neg hx, if_neg hstarts]
      rfl

/-- Of the parentheses of the line the last is tried first. -/
theorem captures_prefix :
    ((Node.seq lineNode (charNode '(')).run pathRest ⟨before, after⟩ groups).map Found.captures =
      (innermost after).map fun rest => (1, rest.takeWhile nameSet.holds) :: groups := by
  let opened : Rest := (charNode '(').run pathRest
  show ((many CharSet.withinLine).run opened ⟨before, after⟩ groups).map Found.captures = _
  induction after generalizing before with
  | nil => rfl
  | cons x after ih =>
    have hopened : opened ⟨before, x :: after⟩ groups =
        if x = '(' then pathRest ⟨x :: before, after⟩ groups else none := by
      show (if (CharSet.single '(').holds x then _ else _) = _
      simp only [holds_single, decide_eq_true_eq]
    rw [run_many_cons, holds_withinLine, hopened, innermost_cons]
    by_cases hline : x = '\n'
    · subst hline
      rfl
    · have hmore := ih (x :: before)
      simp only [hline, decide_false, Bool.not_false, if_true, if_false]
      generalize (many CharSet.withinLine).run opened ⟨x :: before, after⟩ groups = found at *
      cases hinner : innermost after with
      | some rest =>
        rw [hinner] at hmore
        cases found with
        | none => cases hmore
        | some found => exact hmore
      | none =>
        rw [hinner] at hmore
        cases found with
        | some found => cases hmore
        | none =>
          dsimp only
          by_cases hx : x = '('
          · rw [if_pos hx, captures_pathRest]
            by_cases hstarts : startsName after <;> simp [hx, hstarts]
          · simp [hx]

theorem captures_metricNode :
    (metricNode.run (fun d groups => some ⟨d, groups⟩) ⟨before, after⟩ groups).map
        Found.captures =
      (pathStart after).map fun rest => (1, rest.takeWhile nameSet.holds) :: groups := by
  have hprefix := captures_prefix before after groups
  have hrest := captures_pathRest before after groups
  show (((Node.seq lineNode (charNode '(')).run pathRest).orElse pathRest ⟨before, after⟩
    groups).map Found.captures = _
  unfold Rest.orElse pathStart
  generalize (Node.seq lineNode (charNode '(')).run pathRest ⟨before, after⟩ groups = found at *
  cases hinner : innermost after with
  | some rest =>
    rw [hinner] at hprefix
    cases found with
    | none => cases hprefix
    | some found => exact hprefix
  | none =>
    rw [hinner] at hprefix
    cases found with
    | some found => cases hprefix
    | none =>
      dsimp only
      rw [hrest]
      by_cases hstarts : startsName after <;> simp [hstarts]

theorem group_matchAt :
    (metricNode.matchAt ⟨before, after⟩).map (·.group 1) =
      (pathStart after).map fun rest => rest.takeWhile nameSet.holds := by
  have hcaptures := captures_metricNode before after []
  unfold Node.matchAt
  generalize metricNode.run _ ⟨before, after⟩ [] = found at *
  generalize pathStart after = start at *
  cases start with
  | none =>
    cases found with
    | none => rfl
    | some found => cases hcaptures
  | some rest =>
    cases found with
    | none => cases hcaptures
    | some found =>
      have hfound : found.captures = [(1, rest.takeWhile nameSet.holds)] :=
        Option.some.inj hcaptures
      show some ((found.captures.lookup 1).getD []) = some (rest.takeWhile nameSet.holds)
      rw [hfound]
      rfl

/-- The path at the first place of a text where one starts. -/
def pathFrom : List Char → Option (List Char)
  | [] => none
  | c :: cs =>
    match pathStart (c :: cs) with
    | some rest => some (rest.takeWhile nameSet.holds)
    | none => pathFrom cs

theorem group_findFrom (before after : List Char) :
    (findFrom metricNode.matchAt before after).map (·.group 1) = pathFrom after := by
  induction after generalizing before with
  | nil => exact group_matchAt before []
  | cons c after ih =>
    have hmatch := group_matchAt before (c :: after)
    unfold findFrom pathFrom
    generalize metricNode.matchAt ⟨before, c :: after⟩ = found at *
    generalize pathStart (c :: after) = start at *
    cases start with
    | none =>
      cases found with
      | none => exact ih (c :: before)
      | some found => cases hmatch
    | some rest =>
      cases found with
      | none => cases hmatch
      | some found => exact hmatch

theorem metricPath_eq_pathFrom (cs : List Char) : metricPath cs = (pathFrom cs).getD cs := by
  rw [← group_findFrom []]
  unfold metricPath Node.find?
  cases findFrom metricNode.matchAt [] cs <;> rfl

theorem pathFrom_of_pathStart {cs rest : List Char} (h : pathStart cs = some rest) :
    pathFrom cs = some (rest.takeWhile nameSet.holds) := by
  cases cs with
  | nil => cases h
  | cons c cs =>
    unfold pathFrom
    rw [h]

theorem innermost_eq_none {cs : List Char} (h : '(' ∉ cs) : innermost cs = none := by
  induction cs with
  | nil => rfl
  | cons x cs ih =>
    obtain ⟨hx, hrest⟩ : '(' ≠ x ∧ '(' ∉ cs := by simpa using h
    rw [innermost_cons, ih hrest]
    simp [Ne.symm hx]

theorem metricPath_of_startsName {cs : List Char} (h : startsName cs) :
    metricPath cs = ((innermost cs).getD cs).takeWhile nameSet.holds := by
  have hstart : pathStart cs = some ((innermost cs).getD cs) := by
    unfold pathStart
    cases innermost cs with
    | some rest => rfl
    | none => exact if_pos h
  rw [metricPath_eq_pathFrom, pathFrom_of_pathStart hstart, Option.getD_some]

theorem metricPath_of_all {cs : List Char} (h : ∀ c ∈ cs, nameSet.holds c) :
    metricPath cs = cs := by
  cases cs with
  | nil => rfl
  | cons x cs =>
    have hparen : '(' ∉ x :: cs := fun hmem => absurd (h '(' hmem) (by decide)
    have hstarts : startsName (x :: cs) := h x (by simp)
    rw [metricPath_of_startsName hstarts, innermost_eq_none hparen, Option.getD_none,
      List.takeWhile_eq_self_iff]
    exact h

theorem startsName_append {cs : List Char} (h : startsName cs) (rest : List Char) :
    startsName (cs ++ rest) := by
  cases cs with
  | nil => cases h
  | cons x cs => exact h

theorem takeWhile_append_of_not_startsName {rest : List Char} (hrest : ¬startsName rest)
    (cs : List Char) :
    (cs ++ rest).takeWhile nameSet.holds = cs.takeWhile nameSet.holds := by
  have hstop : rest.takeWhile nameSet.holds = [] := by
    cases rest with
    | nil => rfl
    | cons x rest => exact List.takeWhile_cons_of_neg hrest
  rw [List.takeWhile_append, hstop, List.append_nil]
  split
  · rename_i hall
    exact ((List.takeWhile_prefix _).eq_of_length hall).symm
  · rfl

theorem innermost_append {rest : List Char} (hinner : innermost rest = none)
    (hrest : ¬startsName rest) (cs : List Char) :
    innermost (cs ++ rest) = (innermost cs).map (· ++ rest) := by
  induction cs with
  | nil => exact hinner
  | cons x cs ih =>
    rw [List.cons_append, innermost_cons, innermost_cons, ih]
    by_cases hline : x = '\n'
    · rw [if_pos hline, if_pos hline]
      rfl
    · rw [if_neg hline, if_neg hline]
      cases innermost cs with
      | some inner => rfl
      | none =>
        have hstarts : startsName (cs ++ rest) = startsName cs := by
          cases cs with
          | nil => simpa [startsName] using hrest
          | cons y cs => rfl
        dsimp only [Option.map_none]
        rw [hstarts]
        by_cases hx : x = '(' ∧ startsName cs = true
        · rw [if_pos hx, if_pos hx]
          rfl
        · rw [if_neg hx, if_neg hx]
          rfl

theorem innermost_call {function : List Char} (hline : '\n' ∉ function) {cs : List Char}
    (h : startsName cs) : innermost (function ++ '(' :: cs) = some ((innermost cs).getD cs) := by
  induction function with
  | nil =>
    have hline : '(' ≠ '\n' := by decide
    rw [List.nil_append, innermost_cons, if_neg hline]
    cases innermost cs with
    | some inner => rfl
    | none => exact if_pos ⟨rfl, h⟩
  | cons x function ih =>
    obtain ⟨hx, hline⟩ : '\n' ≠ x ∧ '\n' ∉ function := by simpa using hline
    rw [List.cons_append, innermost_cons, if_neg (Ne.symm hx), ih hline]

/-- The path of a call is that of its first argument, if that starts with a name character and what
follows it neither goes on with one nor opens another parenthesis. -/
theorem metricPath_call {function cs rest : List Char} (hfunction : startsName function)
    (hline : '\n' ∉ function) (h : startsName cs) (hparen : '(' ∉ rest)
    (hrest : ¬startsName rest) :
    metricPath (function ++ '(' :: (cs ++ rest)) = metricPath cs := by
  have hinner : (innermost (cs ++ rest)).getD (cs ++ rest) = (innermost cs).getD cs ++ rest := by
    rw [innermost_append (innermost_eq_none hparen) hrest]
    cases innermost cs <;> rfl
  rw [metricPath_of_startsName (startsName_append hfunction _), metricPath_of_startsName h,
    innermost_call hline (startsName_append h rest), Option.getD_some, hinner,
    takeWhile_append_of_not_startsName hrest]

end MetricSeries

import Mathlib
import MetricSeries.Operation.Label
import MetricSeries.Proofs.Offsets
import MetricSeries.Proofs.PatternGroups

/-!
Renaming by a pattern.  A replacement goes through two notations: a backslash with digits behind it
becomes a reference in braces, and references are then put in.  Together they do what the first
notation says: each back-reference stands for its group, and all else stands for itself.
-/

set_option autoImplicit false

namespace MetricSeries.Pattern

/-- What a replacement text comes to, given what the groups hold.  A backslash and all the digits
behind it come to the group of that number; every other character comes to itself. -/
inductive Expands (group : Nat → List Char) : List Char → List Char → Prop
  | nil : Expands group [] []
  | reference {digits rest result : List Char} (ne_nil : digits ≠ [])
      (digits_all : ∀ d ∈ digits, d.isDigit = true) (ends : ∀ c ∈ rest.head?, c.isDigit = false)
      (behind : Expands group rest result) :
      Expands group ('\\' :: (digits ++ rest)) (group (Decimal.natOfDigits digits) ++ result)
  | verbatim {c : Char} {rest result : List Char}
      (plain : c = '\\' → ∀ d ∈ rest.head?, d.isDigit = false)
      (behind : Expands group rest result) : Expands group (c :: rest) (c :: result)

theorem exists_expands (group : Nat → List Char) (text : List Char) :
    ∃ result, Expands group text result := by
  induction hlength : text.length using Nat.strongRecOn generalizing text with
  | ind n ih =>
    subst hlength
    cases text with
    | nil => exact ⟨[], .nil⟩
    | cons c rest =>
      by_cases hreference : c = '\\' ∧ rest.takeWhile Char.isDigit ≠ []
      · obtain ⟨rfl, hne⟩ := hreference
        have hshorter : (rest.dropWhile Char.isDigit).length < ('\\' :: rest).length :=
          Nat.lt_succ_of_le (List.dropWhile_suffix _).length_le
        obtain ⟨result, hresult⟩ := ih _ hshorter _ rfl
        have hends : ∀ d ∈ (rest.dropWhile Char.isDigit).head?, d.isDigit = false := by
          intro d hd
          have hnot := List.head?_dropWhile_not Char.isDigit rest
          rw [Option.mem_def.1 hd] at hnot
          exact hnot
        have h := Expands.reference hne (fun d hd => List.mem_takeWhile_imp hd) hends hresult
        rw [List.takeWhile_append_dropWhile] at h
        exact ⟨_, h⟩
      · obtain ⟨result, hresult⟩ := ih _ (Nat.lt_succ_self rest.length) rest rfl
        refine ⟨c :: result, .verbatim (fun hc d hd => ?_) hresult⟩
        have hnil : rest.takeWhile Char.isDigit = [] := not_not.1 fun hne => hreference ⟨hc, hne⟩
        obtain ⟨more, rfl⟩ := List.head?_eq_some_iff.1 hd
        simpa [List.takeWhile_cons] using hnil

section
variable {c : Char} {digits rest : List Char}

theorem braceBackReferences_reference (hne : digits ≠ [])
    (hdigits : ∀ d ∈ digits, Text.isDecimalDigit d = true)
    (hends : ∀ c ∈ rest.head?, Text.isDecimalDigit c = false) :
    braceBackReferences ('\\' :: (digits ++ rest)) =
      '$' :: '\x7b' :: (digits ++ '\x7d' :: braceBackReferences rest) := by
  have htake := takeWhile_append hdigits hends
  rw [braceBackReferences]
  simp [htake, hne]

theorem braceBackReferences_verbatim
    (hplain : c = '\\' → ∀ d ∈ rest.head?, Text.isDecimalDigit d = false) :
    braceBackReferences (c :: rest) = c :: braceBackReferences rest := by
  by_cases hc : c = '\\'
  · subst hc
    have htake : rest.takeWhile Text.isDecimalDigit = [] := by
      cases rest with
      | nil => rfl
      | cons d rest => exact List.takeWhile_cons_of_neg (by simp [hplain rfl d rfl])
    rw [braceBackReferences]
    simp [htake]
  · rw [braceBackReferences]
    exact hc

theorem pieces_reference (hdigits : ∀ d ∈ digits, d.isDigit = true) :
    pieces ('$' :: '\x7b' :: (digits ++ '\x7d' :: rest)) = .reference digits :: pieces rest := by
  have hbrace : ∀ d ∈ digits, (d != '\x7d') = true := by
    intro d hd
    simpa using ne_of_isDigit (hdigits d hd) (c := '\x7d') (by decide)
  have htake : (digits ++ '\x7d' :: rest).takeWhile (· != '\x7d') = digits :=
    takeWhile_append hbrace (by simp)
  rw [pieces]
  simp [htake]

theorem pieces_char (hc : c ≠ '$') : pieces (c :: rest) = .char c :: pieces rest := by
  rw [pieces]
  · exact fun _ h => absurd h hc
  · exact fun _ h => absurd h hc
  · exact hc

end

theorem isNameChar_of_isDigit {c : Char} (h : c.isDigit = true) : isNameChar true c = false := by
  have halpha : c.isAlpha = false := by
    cases halpha : c.isAlpha with
    | false => rfl
    | true =>
      have hdigit := Text.isDecimalDigit_of_isDigit h
      rw [Text.isDecimalDigit_of_isAlpha halpha] at hdigit
      cases hdigit
  have hne : c ≠ '_' := ne_of_isDigit h (by decide)
  simp [isNameChar, Text.isAlphabetic, Text.isAscii_of_isDigit h, halpha, hne]

section
variable {m : Match} {digits : List Char}

theorem count?_digits (hne : digits ≠ []) (hdigits : ∀ d ∈ digits, d.isDigit = true) :
    Decimal.count? (String.ofList digits) =
      if Decimal.natOfDigits digits < Nat.pow 2 64 then some (Decimal.natOfDigits digits)
      else none := by
  cases digits with
  | nil => exact absurd rfl hne
  | cons d digits =>
    have hsign : d ≠ '+' := ne_of_isDigit (hdigits d List.mem_cons_self) (by decide)
    have htake : (d :: digits).takeWhile Char.isDigit = d :: digits :=
      List.takeWhile_eq_self_iff.2 hdigits
    have hdrop : (d :: digits).dropWhile Char.isDigit = [] := List.dropWhile_eq_nil_iff.2 hdigits
    simp [Decimal.count?, Decimal.readDigits, hsign, htake, hdrop]

/-- What every pattern answers, whatever it was read by.  A match cuts the text behind its place in
two, no group is named by digits alone, and groups are counted in words of 64 bits. -/
structure Matcher.Lawful (p : Matcher) : Prop where
  cuts : Cuts p.matchAt
  named : ∀ {digits}, digits ≠ [] → (∀ d ∈ digits, d.isDigit = true) →
    p.named? (String.ofList digits) = none
  counted : ∀ {c m}, p.matchAt c = some m → ∀ index, 2 ^ 64 ≤ index → m.group index = []

/-- A reference by digits stands for the group of that number.  Where the number has more than
sixty-four bits, there is no such group. -/
theorem Matcher.Lawful.expand_reference {p : Matcher} (hp : p.Lawful) {c : Cursor}
    (hm : p.matchAt c = some m) (hne : digits ≠ []) (hdigits : ∀ d ∈ digits, d.isDigit = true) :
    p.expand m (.reference digits) = m.group (Decimal.natOfDigits digits) := by
  have hindex : p.index? digits = if Decimal.natOfDigits digits < Nat.pow 2 64 then
      some (Decimal.natOfDigits digits) else none := by
    rw [Matcher.index?, count?_digits hne hdigits, hp.named hne hdigits]
    split <;> rfl
  rw [Matcher.expand, hindex]
  split
  · rfl
  · rename_i hlarge
    rw [hp.counted hm _ (not_lt.1 hlarge)]
    rfl

theorem WellFormed.lookup_digits {p : Pattern} (hp : p.WellFormed) (hne : digits ≠ [])
    (hdigits : ∀ d ∈ digits, d.isDigit = true) : p.names.lookup (String.ofList digits) = none := by
  rw [List.lookup_eq_none_iff]
  intro n hn
  obtain ⟨first, more, hname, hfirst⟩ := hp.names n hn
  rw [bne_iff_ne]
  intro heq
  rw [← heq, String.toList_ofList] at hname
  subst hname
  rw [isNameChar_of_isDigit (hdigits first List.mem_cons_self)] at hfirst
  cases hfirst

theorem WellFormed.lawful {p : Pattern} (hp : p.WellFormed) : p.matcher.Lawful where
  cuts h := ⟨(Node.matchAt_eq_some h).1, (Node.matchAt_eq_some h).2.1⟩
  named := hp.lookup_digits
  counted {c m} h index hindex := by
    have hmax : maxGroups < 2 ^ 64 := by decide
    have hnone : index ∉ p.node.groups := fun hmem => absurd (hp.numbered _ hmem) (by omega)
    exact Node.group_eq_nil h (by omega) hnone

theorem lawful_of_compile? {text : String} {p : Matcher} (h : compile? text = some p) :
    p.Lawful := by
  unfold compile? at h
  cases hread : read text with
  | error fault =>
    rw [hread] at h
    cases h
  | ok q =>
    rw [hread] at h
    cases h
    exact (wellFormed_of_read hread).lawful

end

/-- A character that only the first notation gives a meaning: no dollar sign, and no digit of another
script. -/
def isPlain (c : Char) : Bool :=
  c != '$' && (c.isDigit || !Text.isDecimalDigit c)

theorem ne_dollar_of_isPlain {c : Char} (h : isPlain c = true) : c ≠ '$' :=
  bne_iff_ne.1 (Bool.and_eq_true_iff.1 h).1

theorem isDecimalDigit_of_isPlain {c : Char} (h : isPlain c = true) (hc : c.isDigit = false) :
    Text.isDecimalDigit c = false := by
  have hdigit := (Bool.and_eq_true_iff.1 h).2
  rwa [hc, Bool.false_or, Bool.not_eq_true'] at hdigit

theorem isDecimalDigit_head {rest : List Char} (hplain : ∀ c ∈ rest, isPlain c = true)
    (hends : ∀ c ∈ rest.head?, c.isDigit = false) :
    ∀ c ∈ rest.head?, Text.isDecimalDigit c = false := fun c hc =>
  isDecimalDigit_of_isPlain (hplain c (List.mem_of_mem_head? hc)) (hends c hc)

section
variable {p : Matcher} {m : Match} {text result : List Char}

theorem Matcher.Lawful.flatMap_pieces (hp : p.Lawful) {c : Cursor} (hm : p.matchAt c = some m)
    (h : Expands m.group text result) (htext : ∀ c ∈ text, isPlain c = true) :
    (pieces (braceBackReferences text)).flatMap (p.expand m) = result := by
  induction h with
  | nil => simp [braceBackReferences, pieces]
  | @reference digits rest result hne hdigits hends _ ih =>
    have hrest : ∀ c ∈ rest, isPlain c = true := fun c hc =>
      htext c (List.mem_cons_of_mem _ (List.mem_append_right _ hc))
    have hbrace := braceBackReferences_reference hne
      (fun d hd => Text.isDecimalDigit_of_isDigit (hdigits d hd)) (isDecimalDigit_head hrest hends)
    rw [hbrace, pieces_reference hdigits, List.flatMap_cons,
      hp.expand_reference hm hne hdigits, ih hrest]
  | @verbatim c rest result hplain _ ih =>
    obtain ⟨hc, hrest⟩ := List.forall_mem_cons.1 htext
    have hbrace := braceBackReferences_verbatim fun heq =>
      isDecimalDigit_head hrest (hplain heq)
    rw [hbrace, pieces_char (ne_dollar_of_isPlain hc), List.flatMap_cons, ih hrest]
    rfl

/-- What a text becomes: around the first match it stays, and the match gives way to what the
replacement comes to.  Where nothing matches, all of it stays. -/
inductive Matcher.Rewrites (p : Matcher) (replacement text : List Char) : List Char → Prop
  | first {m : Match} {middle : List Char} (found : FirstMatch p.matchAt text m)
      (expands : Expands m.group replacement middle) :
      Rewrites p replacement text (m.before ++ middle ++ m.after)
  | nowhere (unmatched : MatchesNowhere p.matchAt text) : Rewrites p replacement text text

/-- A replacement rewrites a text, in the only way there is. -/
theorem Matcher.Lawful.rewrites_iff (hp : p.Lawful) {replacement : List Char}
    (hplain : ∀ c ∈ replacement, isPlain c = true) :
    p.Rewrites replacement text result ↔
      result = p.replaceFirst (pieces (braceBackReferences replacement)) text := by
  unfold replaceFirst
  cases hfind : findFrom p.matchAt [] text with
  | none =>
    have hnowhere := matchesNowhere_of_find hfind
    constructor
    · rintro (⟨hfound, -⟩ | -)
      · exact absurd hnowhere hfound.not_matchesNowhere
      · rfl
    · rintro rfl
      exact .nowhere hnowhere
  | some m =>
    have hfound := firstMatch_of_find hp.cuts hfind
    have hexpands : ∀ {middle}, Expands m.group replacement middle →
        (pieces (braceBackReferences replacement)).flatMap (p.expand m) = middle := fun h =>
      hp.flatMap_pieces hfound.here h hplain
    dsimp only
    constructor
    · rintro (⟨hfound', h⟩ | hnowhere)
      · obtain rfl := hfound.unique hfound'
        rw [hexpands h]
      · exact absurd hnowhere hfound.not_matchesNowhere
    · rintro rfl
      obtain ⟨middle, h⟩ := exists_expands m.group replacement
      rw [hexpands h]
      exact .first hfound h

end

end MetricSeries.Pattern

namespace MetricSeries

open Pattern

variable {α : Type}

/-- Whatever patterns are read by: renaming by one that can be read, with a replacement of plain
characters, gives all series under new names and changes nothing else.  Each name is rewritten
around the first match, and in one way only.  A group that did not take part in the match, or does
not exist, stands for nothing.  The patterns that are read here are among those. -/
theorem relabelThrough_rewrites (compile : String → Option Matcher) {pattern replacement : String}
    {p : Matcher} (hcompile : compile pattern = some p) (hp : p.Lawful)
    (hplain : ∀ c ∈ replacement.toList, isPlain c = true) (list : List (Series α)) :
    (∃ renamed, relabelThrough compile pattern replacement list = .ok renamed ∧
      List.Forall₂ (fun s s' => s' = relabel s'.name s ∧
        ∀ name : String, p.Rewrites replacement.toList s.name.toList name.toList ↔ name = s'.name)
        list renamed) ∧
    (∀ m index, index ≠ 0 → (∀ g ∈ m.captures, g.1 ≠ index) → Match.group m index = []) ∧
    (∀ text q, compile? text = some q → q.Lawful) ∧
    relabelByPattern pattern replacement list =
      relabelThrough compile? pattern replacement list := by
  refine ⟨⟨_, by rw [relabelThrough, hcompile], ?_⟩, fun m index hzero hindex => ?_,
    fun text q => lawful_of_compile?, rfl⟩
  · rw [List.forall₂_map_right_iff, List.forall₂_same]
    intro s _
    refine ⟨rfl, fun name => ?_⟩
    rw [hp.rewrites_iff hplain]
    constructor
    · intro h
      exact String.toList_injective (h.trans String.toList_ofList.symm)
    · rintro rfl
      exact String.toList_ofList
  · exact Match.group_eq_nil hzero hindex

def behindA : Pattern :=
  ⟨.seq (.set (.single 'a')) (.seq (.group 1 (.set .withinLine)) .empty), []⟩

theorem compile?_behindA : compile? "a(.)" = some behindA.matcher := rfl

/-- Two references one behind the other, the second of them to a group that is not there. -/
theorem relabelThrough_rewrites_behindA :
    let list : List (Series ℝ) := [.ofValues "ab.c" 0 1 [1], .ofValues "c" 0 1 [2]]
    compile? "a(.)" = some behindA.matcher ∧ behindA.matcher.Lawful ∧
      (∀ c ∈ "\\1\\2_".toList, isPlain c = true) ∧
      ∃ renamed, relabelByPattern "a(.)" "\\1\\2_" list = .ok renamed ∧
        renamed.map Series.name = ["b_.c", "c"] := by
  intro list
  have hlawful := lawful_of_compile? compile?_behindA
  have hplain : ∀ c ∈ "\\1\\2_".toList, isPlain c = true := List.all_eq_true.1 (by decide)
  obtain ⟨⟨renamed, hcall, hnames⟩, -⟩ :=
    relabelThrough_rewrites compile? compile?_behindA hlawful hplain list
  obtain ⟨s, rest, ⟨-, hfirst⟩, hrest, rfl⟩ := List.forall₂_cons_left_iff.1 hnames
  obtain ⟨t, rest, ⟨-, hsecond⟩, hnil, rfl⟩ := List.forall₂_cons_left_iff.1 hrest
  obtain rfl := List.forall₂_nil_left_iff.1 hnil
  have hfound : findFrom behindA.matcher.matchAt [] "ab.c".toList =
      some ⟨[], ['a', 'b'], ['.', 'c'], [(1, ['b'])]⟩ := by decide
  have hexpands : ∀ group, Expands group ('\\' :: (['1'] ++ '\\' :: (['2'] ++ ['_'])))
      (group 1 ++ (group 2 ++ ['_'])) := fun group =>
    .reference (by simp) (by simp) (by simp)
      (.reference (by simp) (by simp) (by simp) (.verbatim (by simp) .nil))
  have hmatched : behindA.matcher.Rewrites "\\1\\2_".toList "ab.c".toList "b_.c".toList :=
    .first (firstMatch_of_find hlawful.cuts hfound) (hexpands _)
  have hunmatched : behindA.matcher.Rewrites "\\1\\2_".toList "c".toList "c".toList :=
    .nowhere (matchesNowhere_of_find (by decide))
  refine ⟨compile?_behindA, hlawful, hplain, _, hcall, ?_⟩
  simp [← (hfirst _).1 hmatched, ← (hsecond _).1 hunmatched]

end MetricSeries

import Mathlib
import MetricSeries.Proofs.BandRun
import MetricSeries.Proofs.Exact
import MetricSeries.Proofs.Offsets

/-!
What the names of bands call a period.  The name of a band repeats the period of its call with a
minus sign in front, so that the call can be made again from the name; the sign that a period may
already have decides whether the name is a period again.
-/

set_option autoImplicit false

namespace MetricSeries

theorem trimBlanks_append {before inner after : List Char}
    (hbefore : ∀ c ∈ before, Text.isBlank c = true) (hafter : ∀ c ∈ after, Text.isBlank c = true)
    (hne : inner ≠ []) (hhead : ∀ c ∈ inner.head?, Text.isBlank c = false)
    (hlast : ∀ c ∈ inner.getLast?, Text.isBlank c = false) :
    Text.trimBlanks (before ++ (inner ++ after)) = inner := by
  have hstart : ∀ c ∈ (inner ++ after).head?, Text.isBlank c = false := by
    cases inner with
    | nil => exact absurd rfl hne
    | cons c cs => simpa using hhead
  have hback : ∀ c ∈ after.reverse, Text.isBlank c = true := by simpa using hafter
  have hend : ∀ c ∈ inner.reverse.head?, Text.isBlank c = false := by simpa using hlast
  unfold Text.trimBlanks
  rw [dropWhile_append hbefore hstart, List.reverse_append, dropWhile_append hback hend,
    List.reverse_reverse]

namespace OffsetParts

def trimmed (p : OffsetParts) : OffsetParts :=
  { p with before := [], after := [] }

def past (p : OffsetParts) : OffsetParts :=
  { p.trimmed with sign := .minus }

variable {p : OffsetParts}

theorem chars_trimmed (p : OffsetParts) :
    p.trimmed.chars = p.sign.chars ++ (p.digits ++ (p.between ++ p.unit)) := by
  simp [trimmed, chars]

theorem chars_past (p : OffsetParts) :
    p.past.chars = '-' :: (p.digits ++ (p.between ++ p.unit)) := by
  simp [past, trimmed, chars, OffsetSign.chars]

theorem Fits.past (h : p.Fits) : p.past.Fits where
  before := List.forall_mem_nil _
  digits_ne_nil := h.digits_ne_nil
  digits := h.digits
  between := h.between
  unit_ne_nil := h.unit_ne_nil
  unit := h.unit
  after := List.forall_mem_nil _

theorem Fits.trimBlanks_chars (h : p.Fits) : Text.trimBlanks p.chars = p.trimmed.chars := by
  have hchars : p.chars = p.before ++ (p.trimmed.chars ++ p.after) := by
    simp [trimmed, chars]
  have hne : p.trimmed.chars ≠ [] := by simp [chars_trimmed, h.unit_ne_nil]
  have hhead : ∀ c ∈ p.trimmed.chars.head?, Text.isBlank c = false := by
    rw [chars_trimmed]
    exact h.head_signed _
  have hlast : ∀ c ∈ p.trimmed.chars.getLast?, Text.isBlank c = false := by
    intro c hc
    rw [chars_trimmed, ← List.append_assoc, ← List.append_assoc,
      List.getLast?_append_of_ne_nil _ h.unit_ne_nil] at hc
    exact Text.isBlank_of_isAlpha (h.unit c (List.mem_of_getLast? hc))
  rw [hchars, trimBlanks_append h.before h.after hne hhead hlast]

theorem Fits.head_trimmed_iff (h : p.Fits) :
    (Text.trimBlanks p.text.toList).head? = some '+' ↔ p.sign = .plus := by
  rw [text, String.toList_ofList, h.trimBlanks_chars, chars_trimmed]
  cases hsign : p.sign with
  | plus => simp [OffsetSign.chars]
  | minus => simp [OffsetSign.chars]
  | none =>
    refine iff_of_false (fun hplus => ?_) (by simp)
    have hdigit := h.head_digits (p.between ++ p.unit) '+' hplus
    exact (Text.ne_sign_of_isDecimalDigit hdigit).1 rfl

/-- Without a plus sign, the label of a period has a minus sign in its place. -/
theorem Fits.periodLabel_text (h : p.Fits) (hsign : p.sign ≠ .plus) :
    periodLabel p.text = p.past.text := by
  have htrim : Text.trimBlanks p.text.toList =
      p.sign.chars ++ (p.digits ++ (p.between ++ p.unit)) := by
    rw [text, String.toList_ofList, h.trimBlanks_chars, chars_trimmed]
  unfold periodLabel
  rw [htrim, text, chars_past]
  cases hcase : p.sign with
  | plus => exact absurd hcase hsign
  | minus => rfl
  | none =>
    rw [OffsetSign.chars, List.nil_append]
    split
    · rename_i cs heq
      -- A digit is no minus sign.
      have hdigit := h.head_digits (p.between ++ p.unit) '-' (by rw [heq]; rfl)
      exact absurd rfl (Text.ne_sign_of_isDecimalDigit hdigit).2
    · rfl

theorem periodLabel_past (h : p.Fits) : periodLabel p.past.text = p.past.text :=
  h.past.periodLabel_text (by simp [past])

theorem Denotes.past {offset : Int} (h : p.Denotes offset) : p.past.Denotes (-|offset|) := by
  obtain ⟨seconds, hspells, hword, hlong, rfl⟩ := h
  have hpositive : 0 ≤ p.amount * seconds :=
    Int.mul_nonneg (Int.natCast_nonneg _) hspells.seconds_pos.le
  have habs : |p.sign.factor * (p.amount * seconds)| = p.amount * seconds := by
    cases p.sign <;> simp [OffsetSign.factor, abs_of_nonneg hpositive]
  have hpast : p.past.Spells seconds :=
    ⟨List.forall_mem_nil _, hspells.digits_ne_nil, hspells.digits, hspells.between, hspells.unit,
      List.forall_mem_nil _⟩
  refine ⟨seconds, hpast, hword, hlong, ?_⟩
  rw [habs]
  exact (Int.neg_one_mul _).symm

end OffsetParts

/-- Without a plus sign in front, the label of a period is that period in the past, and its own
label. -/
theorem parseOffset_periodLabel {text : String} {offset : Int} (h : parseOffset text = .ok offset)
    (hplus : (Text.trimBlanks text.toList).head? ≠ some '+') :
    parseOffset (periodLabel text) = .ok (-|offset|) ∧
      periodLabel (periodLabel text) = periodLabel text := by
  obtain ⟨p, rfl, hdenotes⟩ := parseOffset_eq_ok_iff.1 h
  obtain ⟨seconds, hspells, -⟩ := id hdenotes
  have hfits := hspells.fits
  have hlabel := hfits.periodLabel_text fun hsign => hplus (hfits.head_trimmed_iff.2 hsign)
  rw [hlabel]
  exact ⟨parseOffset_eq_ok_iff.2 ⟨p.past, rfl, hdenotes.past⟩, OffsetParts.periodLabel_past hfits⟩

theorem parseOffset_periodLabel_of_plus {text : String}
    (h : (Text.trimBlanks text.toList).head? = some '+') :
    parseOffset (periodLabel text) = .error (.notOffset (periodLabel text)) := by
  obtain ⟨cs, htrim⟩ := List.head?_eq_some_iff.1 h
  have hlabel : periodLabel text = String.ofList ('-' :: '+' :: cs) := by
    unfold periodLabel
    rw [htrim]
    rfl
  have hnone : OffsetText.ofChars? ('-' :: '+' :: cs) = none := by
    have hblank : Text.isBlank '-' = false := by decide
    have hdigit : Text.isDecimalDigit '+' = false := by decide
    simp [OffsetText.ofChars?, Decimal.readSign, List.span_eq_takeWhile_dropWhile, hblank, hdigit]
  unfold parseOffset
  rw [hlabel, String.toList_ofList, hnone]

section
variable {α : Type} [Arith α] [NumberText α]

theorem sixSigma_congr (scope : Scope α) {period other : String} {offset offset' : Int}
    (h : parseOffset period = .ok offset) (h' : parseOffset other = .ok offset')
    (habs : offset'.natAbs = offset.natAbs) (hlabel : periodLabel other = periodLabel period)
    (repeats : Nat) (factor : String) (list : List (Series α)) :
    sixSigma scope ⟨other, repeats, factor⟩ list =
      sixSigma scope ⟨period, repeats, factor⟩ list := by
  have hplan : (BandPlan.make scope.window ⟨other, repeats, factor⟩ : Except Error (BandPlan α)) =
      BandPlan.make scope.window ⟨period, repeats, factor⟩ := by
    unfold BandPlan.make
    simp only [h, h', habs]
  have hname : ∀ name, BandCall.label ⟨other, repeats, factor⟩ name =
      BandCall.label ⟨period, repeats, factor⟩ name := by
    intro name
    simp only [BandCall.label, hlabel]
  unfold sixSigma bandsOf
  simp only [hplan, hname]

/-- The name of a band: its function, its series, and what the call is remembered by. -/
def NamedFor (call : BandCall) (s band : Series α) : Prop :=
  ∃ function ∈ ["sixSigmaMean(", "sixSigmaUpper(", "sixSigmaLower("], ∃ rest,
    band.name = function ++ s.name ++ ", period='" ++ periodLabel call.period ++ "', repeats=" ++
      Decimal.natText call.repeats ++ rest

theorem namedFor_of_mem_bandsOf {plan : BandPlan α} {tiles : Nat} {call : BandCall}
    {s history band : Series α} (h : band ∈ bandsOf plan tiles call s history) :
    NamedFor call s band := by
  have hmean : ∀ function, function ++ call.label s.name ++ ")" =
      function ++ s.name ++ ", period='" ++ periodLabel call.period ++ "', repeats=" ++
        Decimal.natText call.repeats ++ ")" := by
    intro function
    simp only [BandCall.label, String.append_assoc]
  have hfactor : ∀ (function : String) (factor : α),
      function ++ call.label s.name ++ ", factor=" ++ NumberText.exact factor ++ ")" =
        function ++ s.name ++ ", period='" ++ periodLabel call.period ++ "', repeats=" ++
          Decimal.natText call.repeats ++ (", factor=" ++ NumberText.exact factor ++ ")") := by
    intro function factor
    simp only [BandCall.label, String.append_assoc]
  unfold bandsOf at h
  dsimp only at h
  split at h
  · cases h
  · simp only [List.mem_cons, List.not_mem_nil, or_false] at h
    rcases h with rfl | rfl | rfl
    · exact ⟨"sixSigmaMean(", by simp, ")", hmean "sixSigmaMean("⟩
    · exact ⟨"sixSigmaUpper(", by simp, _, hfactor "sixSigmaUpper(" plan.factors.upper⟩
    · exact ⟨"sixSigmaLower(", by simp, _, hfactor "sixSigmaLower(" plan.factors.lower⟩

theorem namedFor_of_mem_sixSigma {scope : Scope α} {call : BandCall} {list result : List (Series α)}
    {log after : List Fetch} (h : Run.from (sixSigma scope call list) log = (.ok result, after)) :
    ∀ band ∈ result, ∃ s ∈ list, NamedFor call s band := by
  intro band hband
  cases hplan : (BandPlan.make scope.window call : Except Error (BandPlan α)) with
  | error e =>
    rw [from_sixSigma_of_error hplan] at h
    cases h
  | ok plan =>
    obtain ⟨s, hs, history, -, hmem⟩ := exists_of_mem_sixSigma hplan h band hband
    exact ⟨s, hs, namedFor_of_mem_bandsOf hmem⟩

end

/-- What a label owes.  All bands of a call bear the label of its period in their names; the label
of a period that is read is read as that length into the past, and with it in place of the period
the call is the same. -/
def LabelLaw (α : Type) [Arith α] [NumberText α] (text : String) : Prop :=
  ∀ offset, parseOffset text = .ok offset →
    parseOffset (periodLabel text) = .ok (-|offset|) ∧
    ∀ (scope : Scope α) (repeats : Nat) (factor : String) (list : List (Series α)),
      (∀ log result after,
        Run.from (sixSigma scope ⟨text, repeats, factor⟩ list) log = (.ok result, after) →
        ∀ band ∈ result, ∃ s ∈ list, NamedFor ⟨text, repeats, factor⟩ s band) ∧
      sixSigma scope ⟨periodLabel text, repeats, factor⟩ list =
        sixSigma scope ⟨text, repeats, factor⟩ list

/-- The law is kept by exactly those periods that do not begin with a plus sign.  The label of any
other is not a length of time. -/
theorem labelLaw_iff (α : Type) [Arith α] [NumberText α] (text : String) :
    (LabelLaw α text ↔ (∃ fault, parseOffset text = .error fault) ∨
      (Text.trimBlanks text.toList).head? ≠ some '+') ∧
    ((Text.trimBlanks text.toList).head? = some '+' →
      parseOffset (periodLabel text) = .error (.notOffset (periodLabel text))) := by
  refine ⟨⟨fun hlaw => ?_, fun h offset hoffset => ?_⟩, parseOffset_periodLabel_of_plus⟩
  · cases hparse : parseOffset text with
    | error fault => exact .inl ⟨fault, rfl⟩
    | ok offset =>
      refine .inr fun hplus => ?_
      have hread := (hlaw offset hparse).1
      rw [parseOffset_periodLabel_of_plus hplus] at hread
      cases hread
  · rcases h with ⟨fault, hfault⟩ | hplus
    · rw [hoffset] at hfault
      cases hfault
    · obtain ⟨hpast, hlabel⟩ := parseOffset_periodLabel hoffset hplus
      have habs : (-|offset|).natAbs = offset.natAbs := by rw [Int.natAbs_neg, Int.natAbs_abs]
      exact ⟨hpast, fun scope repeats factor list =>
        ⟨fun log result after hrun => namedFor_of_mem_sixSigma hrun,
          sixSigma_congr scope hoffset hpast habs hlabel repeats factor list⟩⟩

theorem not_labelLaw_plusWeek :
    parseOffset "+7d" = .ok 604800 ∧
    parseOffset (periodLabel "+7d") = .error (.notOffset "-+7d") ∧ ¬LabelLaw ℝ "+7d" := by
  have hweek : parseOffset "+7d" = .ok 604800 := by decide +kernel
  have hlabel : parseOffset (periodLabel "+7d") = .error (.notOffset "-+7d") := by decide +kernel
  refine ⟨hweek, hlabel, fun hlaw => ?_⟩
  have hread := (hlaw 604800 hweek).1
  rw [hlabel] at hread
  cases hread

end MetricSeries

import Mathlib
import MetricSeries.Operation.Band
import MetricSeries.Proofs.Digits
import MetricSeries.Proofs.Categories

set_option autoImplicit false

namespace MetricSeries

namespace Text

theorem isAscii_of_isDigit {c : Char} (h : c.isDigit = true) : isAscii c = true := by
  rw [Char.isDigit_iff_toNat, show '0'.toNat = 48 from rfl, show '9'.toNat = 57 from rfl] at h
  simp only [isAscii, decide_eq_true_eq]
  omega

theorem isDecimalDigit_of_isDigit {c : Char} (h : c.isDigit = true) : isDecimalDigit c = true := by
  rw [isDecimalDigit, if_pos (isAscii_of_isDigit h), h]

theorem toNat_of_isAlpha {c : Char} (h : c.isAlpha = true) :
    (65 ≤ c.toNat ∧ c.toNat ≤ 90) ∨ (97 ≤ c.toNat ∧ c.toNat ≤ 122) := by
  simp only [Char.isAlpha, Char.isUpper, Char.isLower, Bool.or_eq_true, Bool.and_eq_true,
    decide_eq_true_eq, ge_iff_le, UInt32.le_iff_toNat_le] at h
  exact h

theorem isBlank_of_isAlpha {c : Char} (h : c.isAlpha = true) : isBlank c = false := by
  have hrange := toNat_of_isAlpha h
  simp only [isBlank, Bool.or_eq_false_iff, Bool.and_eq_false_iff, decide_eq_false_iff_not]
  omega

theorem isDecimalDigit_of_isAlpha {c : Char} (h : c.isAlpha = true) : isDecimalDigit c = false := by
  have hrange := toNat_of_isAlpha h
  have hascii : isAscii c = true := by
    simp only [isAscii, decide_eq_true_eq]
    omega
  rw [isDecimalDigit, if_pos hascii, Bool.eq_false_iff, ne_eq, Char.isDigit_iff_toNat,
    show '0'.toNat = 48 from rfl, show '9'.toNat = 57 from rfl]
  omega

theorem isBlank_of_isDecimalDigit {c : Char} (h : isDecimalDigit c = true) : isBlank c = false := by
  cases hblank : isBlank c with
  | false => rfl
  | true => rw [isDecimalDigit_of_isBlank hblank] at h; cases h

theorem isAlpha_of_isBlank {c : Char} (h : isBlank c = true) : c.isAlpha = false := by
  cases halpha : c.isAlpha with
  | false => rfl
  | true => rw [isBlank_of_isAlpha halpha] at h; cases h

theorem ne_sign_of_isDecimalDigit {c : Char} (h : isDecimalDigit c = true) : c ≠ '+' ∧ c ≠ '-' := by
  constructor <;> rintro rfl <;> exact absurd h (by decide)

end Text

theorem dropWhile_append {β : Type} {p : β → Bool} {xs rest : List β} (hxs : ∀ x ∈ xs, p x = true)
    (hrest : ∀ x ∈ rest.head?, p x = false) : (xs ++ rest).dropWhile p = rest := by
  have hspan := congrArg Prod.snd (span_append hxs hrest)
  rwa [List.span_eq_takeWhile_dropWhile] at hspan

theorem takeWhile_append {β : Type} {p : β → Bool} {xs rest : List β} (hxs : ∀ x ∈ xs, p x = true)
    (hrest : ∀ x ∈ rest.head?, p x = false) : (xs ++ rest).takeWhile p = xs := by
  have hspan := congrArg Prod.fst (span_append hxs hrest)
  rwa [List.span_eq_takeWhile_dropWhile] at hspan

inductive OffsetSign where
  | none | plus | minus
  deriving DecidableEq, Repr

def OffsetSign.chars : OffsetSign → List Char
  | none => []
  | plus => ['+']
  | minus => ['-']

def OffsetSign.factor : OffsetSign → Int
  | none | plus => 1
  | minus => -1

/-- A text cut into the parts of an offset. -/
structure OffsetParts where
  before : List Char
  sign : OffsetSign
  digits : List Char
  between : List Char
  unit : List Char
  after : List Char

namespace OffsetParts

def chars (p : OffsetParts) : List Char :=
  p.before ++ (p.sign.chars ++ (p.digits ++ (p.between ++ (p.unit ++ p.after))))

def text (p : OffsetParts) : String :=
  String.ofList p.chars

def toText (p : OffsetParts) : OffsetText :=
  ⟨decide (p.sign = .minus), p.digits, p.unit⟩

/-- Each part is made of characters of its kind.  The digits are those of any script. -/
structure Fits (p : OffsetParts) : Prop where
  before : ∀ c ∈ p.before, Text.isBlank c = true
  digits_ne_nil : p.digits ≠ []
  digits : ∀ c ∈ p.digits, Text.isDecimalDigit c = true
  between : ∀ c ∈ p.between, Text.isBlank c = true
  unit_ne_nil : p.unit ≠ []
  unit : ∀ c ∈ p.unit, c.isAlpha = true
  after : ∀ c ∈ p.after, Text.isBlank c = true

end OffsetParts

theorem head_append_of_ne_nil {xs : List Char} (rest : List Char) {P : Char → Prop} (hne : xs ≠ [])
    (hxs : ∀ x ∈ xs, P x) : ∀ x ∈ (xs ++ rest).head?, P x := by
  cases xs with
  | nil => exact absurd rfl hne
  | cons c cs => simpa using hxs c (by simp)

theorem head_append_of_all {xs rest : List Char} {P : Char → Prop} (hxs : ∀ x ∈ xs, P x)
    (hrest : ∀ x ∈ rest.head?, P x) : ∀ x ∈ (xs ++ rest).head?, P x := by
  cases xs with
  | nil => exact hrest
  | cons c cs => simpa using hxs c (by simp)

theorem readSign_chars (sign : OffsetSign) {rest : List Char}
    (h : ∀ c ∈ rest.head?, c ≠ '+' ∧ c ≠ '-') :
    Decimal.readSign (sign.chars ++ rest) = (decide (sign = .minus), rest) := by
  cases sign with
  | plus => rfl
  | minus => rfl
  | none =>
    cases rest with
    | nil => rfl
    | cons c cs =>
      obtain ⟨hplus, hminus⟩ := h c rfl
      simp [OffsetSign.chars, Decimal.readSign, hplus, hminus]

theorem exists_sign (cs : List Char) :
    ∃ sign : OffsetSign, cs = sign.chars ++ (Decimal.readSign cs).2 ∧
      (Decimal.readSign cs).1 = decide (sign = .minus) := by
  unfold Decimal.readSign
  split
  · exact ⟨.minus, rfl, rfl⟩
  · exact ⟨.plus, rfl, rfl⟩
  · exact ⟨.none, rfl, rfl⟩

theorem OffsetParts.Fits.head_digits {p : OffsetParts} (h : p.Fits) (rest : List Char) :
    ∀ c ∈ (p.digits ++ rest).head?, Text.isDecimalDigit c = true :=
  head_append_of_ne_nil rest h.digits_ne_nil h.digits

theorem OffsetParts.Fits.head_signed {p : OffsetParts} (h : p.Fits) (rest : List Char) :
    ∀ c ∈ (p.sign.chars ++ (p.digits ++ rest)).head?, Text.isBlank c = false := by
  refine head_append_of_all (fun c hc => ?_) fun c hc => ?_
  · cases hsign : p.sign <;> simp_all [OffsetSign.chars] <;> decide
  · exact Text.isBlank_of_isDecimalDigit (h.head_digits rest c hc)

/-- Parts of the right kinds are found again in their text. -/
theorem OffsetParts.Fits.ofChars?_chars {p : OffsetParts} (h : p.Fits) :
    OffsetText.ofChars? p.chars = some p.toText := by
  have hletter : ∀ c ∈ (p.unit ++ p.after).head?, c.isAlpha = true :=
    head_append_of_ne_nil p.after h.unit_ne_nil h.unit
  have hunsigned : ∀ c ∈ (p.digits ++ (p.between ++ (p.unit ++ p.after))).head?,
      c ≠ '+' ∧ c ≠ '-' := fun c hc => Text.ne_sign_of_isDecimalDigit (h.head_digits _ c hc)
  have hbehind : ∀ c ∈ (p.between ++ (p.unit ++ p.after)).head?, Text.isDecimalDigit c = false :=
    head_append_of_all (fun c hc => Text.isDecimalDigit_of_isBlank (h.between c hc))
      fun c hc => Text.isDecimalDigit_of_isAlpha (hletter c hc)
  have hafter : ∀ c ∈ p.after.head?, c.isAlpha = false := fun c hc =>
    Text.isAlpha_of_isBlank (h.after c (List.mem_of_mem_head? hc))
  have hblank : p.after.all Text.isBlank = true := List.all_eq_true.2 h.after
  -- Every scan stops where the next part begins, since no character is of two kinds.
  unfold OffsetText.ofChars? OffsetParts.chars
  rw [dropWhile_append h.before (h.head_signed _), readSign_chars p.sign hunsigned]
  dsimp only
  rw [span_append h.digits hbehind]
  dsimp only
  rw [dropWhile_append h.between fun c hc => Text.isBlank_of_isAlpha (hletter c hc),
    span_append h.unit hafter]
  simp [h.digits_ne_nil, h.unit_ne_nil, hblank, OffsetParts.toText]

theorem exists_fits_of_ofChars? {cs : List Char} {t : OffsetText}
    (h : OffsetText.ofChars? cs = some t) :
    ∃ p : OffsetParts, p.chars = cs ∧ p.Fits ∧ p.toText = t := by
  obtain ⟨sign, hsign, hminus⟩ := exists_sign (cs.dropWhile Text.isBlank)
  unfold OffsetText.ofChars? at h
  simp only [List.span_eq_takeWhile_dropWhile] at h
  generalize Decimal.readSign (cs.dropWhile Text.isBlank) = signed at *
  obtain ⟨minus, rest⟩ := signed
  dsimp only at h hsign hminus
  split at h
  · cases h
  · rename_i hparts
    simp only [Bool.or_eq_true, not_or, Bool.not_eq_true, Bool.not_eq_false',
      List.isEmpty_eq_false_iff, List.all_eq_true] at hparts
    obtain ⟨⟨hdigits, hunit⟩, hafter⟩ := hparts
    obtain rfl := Option.some.inj h
    -- The parts are what the scans took, and the last of them what was left.
    refine ⟨⟨cs.takeWhile Text.isBlank, sign, rest.takeWhile Text.isDecimalDigit,
      (rest.dropWhile Text.isDecimalDigit).takeWhile Text.isBlank,
      ((rest.dropWhile Text.isDecimalDigit).dropWhile Text.isBlank).takeWhile Char.isAlpha,
      ((rest.dropWhile Text.isDecimalDigit).dropWhile Text.isBlank).dropWhile Char.isAlpha⟩, ?_,
      ⟨fun c hc => List.mem_takeWhile_imp hc, hdigits, fun c hc => List.mem_takeWhile_imp hc,
        fun c hc => List.mem_takeWhile_imp hc, hunit, fun c hc => List.mem_takeWhile_imp hc,
        hafter⟩, ?_⟩
    · simp only [OffsetParts.chars, List.takeWhile_append_dropWhile]
      rw [← hsign, List.takeWhile_append_dropWhile]
    · rw [OffsetParts.toText, hminus]

def unitSpellings : List (Int × List String) :=
  [(1, ["s", "sec", "secs", "second", "seconds"]), (60, ["min", "mins", "minute", "minutes"]),
    (3600, ["h", "hour", "hours"]), (86400, ["d", "day", "days"]), (604800, ["w", "week", "weeks"]),
    (2592000, ["mon", "month", "months"]), (31536000, ["y", "year", "years"])]

theorem unitSeconds?_of_spelling :
    ∀ entry ∈ unitSpellings, ∀ unit ∈ entry.2, unitSeconds? unit = some entry.1 := by decide +kernel

theorem unitSeconds?_eq_some_iff {unit : String} {seconds : Int} :
    unitSeconds? unit = some seconds ↔
      ∃ entry ∈ unitSpellings, unit ∈ entry.2 ∧ entry.1 = seconds := by
  constructor
  · intro h
    simp only [unitSpellings, List.exists_mem_cons_iff]
    unfold unitSeconds? at h
    split_ifs at h <;> cases h <;> simp_all
  · rintro ⟨entry, hmem, hunit, rfl⟩
    exact unitSeconds?_of_spelling entry hmem unit hunit

theorem letters_of_spelling : ∀ entry ∈ unitSpellings, ∀ unit ∈ entry.2,
    unit.toList.all Char.isAlpha = true := by decide +kernel

theorem ne_nil_of_spelling : ∀ entry ∈ unitSpellings, ∀ unit ∈ entry.2, unit.toList ≠ [] := by
  decide +kernel

theorem seconds_pos_of_spelling : ∀ entry ∈ unitSpellings, 0 < entry.1 := by decide

section
variable {ds : List Char}

theorem int?_digits (hne : ds ≠ []) (hds : ∀ d ∈ ds, Text.isDecimalDigit d = true) :
    Decimal.int? (String.ofList ds) =
      if ∀ d ∈ ds, d.isDigit = true then some (Decimal.natOfDigits ds : Int) else none := by
  have hsign : Decimal.readSign ds = (false, ds) := readSign_chars .none fun c hc =>
    Text.ne_sign_of_isDecimalDigit (hds c (List.mem_of_mem_head? hc))
  unfold Decimal.int? Decimal.readDigits
  rw [String.toList_ofList, hsign]
  dsimp only
  by_cases hall : ∀ d ∈ ds, d.isDigit = true
  · rw [if_pos hall, span_self hall]
    cases ds with
    | nil => exact absurd rfl hne
    | cons d ds => rfl
  · -- A digit of another script is left over.
    rw [if_neg hall, List.span_eq_takeWhile_dropWhile]
    split
    · rename_i heq
      have hrest : ds.dropWhile Char.isDigit = [] := congrArg Prod.snd heq
      exact absurd (List.dropWhile_eq_nil_iff.1 hrest) hall
    · rfl

theorem word?_digits_eq_some_iff (hne : ds ≠ []) (hds : ∀ d ∈ ds, Text.isDecimalDigit d = true)
    {amount : Int} :
    Decimal.word? (String.ofList ds) = some amount ↔
      (∀ d ∈ ds, d.isDigit = true) ∧ (Decimal.natOfDigits ds : Int) = amount ∧
        amount ≤ Decimal.largestWord := by
  have hsmall : Decimal.smallestWord ≤ (Decimal.natOfDigits ds : Int) := by
    unfold Decimal.smallestWord
    omega
  unfold Decimal.word?
  rw [int?_digits hne hds]
  by_cases hall : ∀ d ∈ ds, d.isDigit = true
  · rw [if_pos hall, Option.filter_some]
    by_cases hlarge : (Decimal.natOfDigits ds : Int) ≤ Decimal.largestWord
    · rw [if_pos (by simp [hsmall, hlarge]), Option.some.injEq]
      exact ⟨fun h => ⟨hall, h, h ▸ hlarge⟩, fun h => h.2.1⟩
    · rw [if_neg (by simp [hlarge])]
      exact iff_of_false (by simp) fun ⟨_, h, hle⟩ => hlarge (h ▸ hle)
  · rw [if_neg hall]
    exact iff_of_false (by simp) fun h => hall h.1

end

namespace OffsetParts

/-- An amount in digits of ASCII and a unit that has so many seconds, with a sign or none, between
blanks. -/
structure Spells (p : OffsetParts) (seconds : Int) : Prop where
  before : ∀ c ∈ p.before, Text.isBlank c = true
  digits_ne_nil : p.digits ≠ []
  digits : ∀ c ∈ p.digits, c.isDigit = true
  between : ∀ c ∈ p.between, Text.isBlank c = true
  unit : ∃ entry ∈ unitSpellings, String.ofList p.unit ∈ entry.2 ∧ entry.1 = seconds
  after : ∀ c ∈ p.after, Text.isBlank c = true

def amount (p : OffsetParts) : Nat :=
  Decimal.natOfDigits p.digits

/-- The offset of a spelling whose numbers are within their limits: the amount has sixty-four bits,
and the seconds are no more than the longest length of time has. -/
def Denotes (p : OffsetParts) (offset : Int) : Prop :=
  ∃ seconds, p.Spells seconds ∧ (p.amount : Int) ≤ 2 ^ 63 - 1 ∧
    p.amount * seconds ≤ 9223372036854775 ∧ offset = p.sign.factor * (p.amount * seconds)

variable {p : OffsetParts} {seconds : Int}

theorem Spells.unitSeconds? (h : p.Spells seconds) :
    unitSeconds? (String.ofList p.unit) = some seconds :=
  unitSeconds?_eq_some_iff.2 h.unit

theorem Spells.seconds_pos (h : p.Spells seconds) : 0 < seconds := by
  obtain ⟨entry, hentry, -, rfl⟩ := h.unit
  exact seconds_pos_of_spelling entry hentry

theorem Spells.fits (h : p.Spells seconds) : p.Fits := by
  obtain ⟨entry, hentry, hunit, -⟩ := h.unit
  have hne := ne_nil_of_spelling entry hentry _ hunit
  have hletters := letters_of_spelling entry hentry _ hunit
  rw [String.toList_ofList] at hne hletters
  exact ⟨h.before, h.digits_ne_nil, fun c hc => Text.isDecimalDigit_of_isDigit (h.digits c hc),
    h.between, hne, List.all_eq_true.1 hletters, h.after⟩

theorem amount?_toText (h : p.Fits) {amount : Int} :
    p.toText.amount? = some amount ↔
      (∀ d ∈ p.digits, d.isDigit = true) ∧ (p.amount : Int) = amount ∧
        amount ≤ Decimal.largestWord :=
  word?_digits_eq_some_iff h.digits_ne_nil h.digits

theorem Fits.parseOffset_text (h : p.Fits) :
    parseOffset p.text =
      match p.toText.amount? with
      | none => .error (.amountTooLarge p.text)
      | some amount =>
        match MetricSeries.unitSeconds? (String.ofList p.unit) with
        | none => .error (.unknownUnit (String.ofList p.unit) p.text)
        | some seconds =>
          if amount * seconds ≤ longestOffset then .ok (p.sign.factor * (amount * seconds))
          else .error (.offsetTooLarge p.text) := by
  have hfactor : ∀ x : Int, p.sign.factor * x = if p.toText.minus = true then -x else x := by
    intro x
    cases hsign : p.sign <;> simp [OffsetSign.factor, toText, hsign]
  have htext : p.text.toList = p.chars := String.toList_ofList
  simp only [hfactor]
  unfold parseOffset
  rw [htext, h.ofChars?_chars]
  rfl

theorem Fits.parseOffset_text_iff (h : p.Fits) {offset : Int} :
    parseOffset p.text = .ok offset ↔ p.Denotes offset := by
  rw [h.parseOffset_text]
  constructor
  · intro hparse
    cases hamount : p.toText.amount? with
    | none => simp [hamount] at hparse
    | some amount =>
      cases hunit : MetricSeries.unitSeconds? (String.ofList p.unit) with
      | none => simp [hamount, hunit] at hparse
      | some seconds =>
        obtain ⟨hdigits, rfl, hword⟩ := (amount?_toText h).1 hamount
        simp only [hamount, hunit] at hparse
        split at hparse
        · rename_i hlong
          exact ⟨seconds, ⟨h.before, h.digits_ne_nil, hdigits, h.between,
            unitSeconds?_eq_some_iff.1 hunit, h.after⟩, hword, hlong, (Except.ok.inj hparse).symm⟩
        · cases hparse
  · rintro ⟨seconds, hspells, hword, hlong, rfl⟩
    have hamount := (amount?_toText h).2 ⟨hspells.digits, rfl, hword⟩
    simp only [hamount, hspells.unitSeconds?]
    exact if_pos hlong

end OffsetParts

theorem parseOffset_eq_ok_iff {text : String} {offset : Int} :
    parseOffset text = .ok offset ↔ ∃ p : OffsetParts, p.text = text ∧ p.Denotes offset := by
  constructor
  · intro h
    cases htext : OffsetText.ofChars? text.toList with
    | none => simp [parseOffset, htext] at h
    | some t =>
      obtain ⟨p, hchars, hfits, -⟩ := exists_fits_of_ofChars? htext
      have hp : p.text = text := by rw [OffsetParts.text, hchars, String.ofList_toList]
      exact ⟨p, hp, hfits.parseOffset_text_iff.1 (hp ▸ h)⟩
  · rintro ⟨p, rfl, hdenotes⟩
    obtain ⟨seconds, hspells, -⟩ := id hdenotes
    exact hspells.fits.parseOffset_text_iff.2 hdenotes

example : parseOffset " +07 mins " = .ok 420 := by decide +kernel

theorem field_of_parseOffset {text : String} {fault : FormatFault}
    (h : parseOffset text = .error fault) : fault.field = "period" := by
  unfold parseOffset at h
  split at h
  · cases h; rfl
  · split at h
    · cases h; rfl
    · split at h
      · cases h; rfl
      · split at h
        · cases h
        · cases h; rfl

/-- Offsets by the arithmetic of sixty-four bits.  The product of the amount and the seconds of a
unit is checked, and so is the length of time; that of the sign is not, and where it would leave the
sixty-four bits nothing is returned. -/
def wordOffset? (offset : String) : Option (Except FormatFault Int) :=
  match OffsetText.ofChars? offset.toList with
  | none => some (.error (.notOffset offset))
  | some t =>
    match t.amount? with
    | none => some (.error (.amountTooLarge offset))
    | some amount =>
      match unitSeconds? (String.ofList t.unit) with
      | none => some (.error (.unknownUnit (String.ofList t.unit) offset))
      | some seconds =>
        match wordProduct? amount seconds with
        | none => some (.error (.offsetTooLarge offset))
        | some product => do
          let signed ← wordProduct? (if t.minus then -1 else 1) product
          match countedOffset? signed with
          | none => return .error (.offsetTooLarge offset)
          | some counted => return .ok counted

theorem wordProduct?_sign (minus : Bool) {product : Int} (hzero : 0 ≤ product)
    (hword : product ≤ Decimal.largestWord) :
    wordProduct? (if minus then -1 else 1) product =
      some (if minus then -product else product) := by
  unfold Decimal.largestWord at hword
  unfold wordProduct? Decimal.smallestWord Decimal.largestWord
  cases minus
  · rw [if_pos (by simp; omega)]
    simp
  · rw [if_pos (by simp; omega)]
    simp

theorem countedOffset?_sign (minus : Bool) {product : Int} (hzero : 0 ≤ product) :
    countedOffset? (if minus then -product else product) =
      if product ≤ longestOffset then some (if minus then -product else product) else none := by
  unfold countedOffset? longestOffset
  refine if_congr ?_ rfl rfl
  cases minus <;> simp <;> omega

theorem nonneg_of_amount? {cs : List Char} {t : OffsetText} (ht : OffsetText.ofChars? cs = some t)
    {amount : Int} (h : t.amount? = some amount) : 0 ≤ amount := by
  obtain ⟨p, -, hfits, rfl⟩ := exists_fits_of_ofChars? ht
  obtain ⟨-, rfl, -⟩ := (OffsetParts.amount?_toText hfits).1 h
  exact Int.natCast_nonneg _

theorem seconds_pos_of_unitSeconds? {unit : String} {seconds : Int}
    (h : unitSeconds? unit = some seconds) : 0 < seconds := by
  obtain ⟨entry, hentry, -, rfl⟩ := unitSeconds?_eq_some_iff.1 h
  exact seconds_pos_of_spelling entry hentry

/-- No step of reading an offset leaves the sixty-four bits. -/
theorem wordOffset?_eq (text : String) : wordOffset? text = some (parseOffset text) := by
  unfold wordOffset? parseOffset
  cases htext : OffsetText.ofChars? text.toList with
  | none => rfl
  | some t =>
    dsimp only
    cases hamount : t.amount? with
    | none => rfl
    | some amount =>
      cases hunit : unitSeconds? (String.ofList t.unit) with
      | none => rfl
      | some seconds =>
        have hzero : 0 ≤ amount * seconds :=
          Int.mul_nonneg (nonneg_of_amount? htext hamount) (seconds_pos_of_unitSeconds? hunit).le
        dsimp only
        cases hproduct : wordProduct? amount seconds with
        | none =>
          -- A product beyond sixty-four bits is longer than any length of time.
          have hlarge : ¬amount * seconds ≤ longestOffset := by
            intro hle
            unfold wordProduct? at hproduct
            rw [if_pos ⟨hzero.trans' (by decide), hle.trans (by decide)⟩] at hproduct
            cases hproduct
          rw [if_neg hlarge]
        | some product =>
          obtain ⟨hword, hsome⟩ := Option.ite_none_right_eq_some.1 hproduct
          obtain rfl := Option.some.inj hsome
          simp only [wordProduct?_sign t.minus hzero hword.2, Option.bind_eq_bind, Option.bind_some,
            countedOffset?_sign t.minus hzero]
          by_cases hlong : amount * seconds ≤ longestOffset
          · rw [if_pos hlong, if_pos hlong]
            rfl
          · rw [if_neg hlong, if_neg hlong]
            rfl

section
variable {before body : List Char}

theorem ofChars?_minus (hbefore : ∀ c ∈ before, Text.isBlank c = true)
    (hbody : ∀ c ∈ body.head?, c.isDigit = true) :
    OffsetText.ofChars? (before ++ '-' :: body) =
        (OffsetText.ofChars? (before ++ body)).map (fun t => { t with minus := true }) ∧
      ∀ t, OffsetText.ofChars? (before ++ body) = some t → t.minus = false := by
  have hdigit : ∀ c ∈ body.head?, Text.isDecimalDigit c = true := fun c hc =>
    Text.isDecimalDigit_of_isDigit (hbody c hc)
  have hsign : Decimal.readSign body = (false, body) :=
    readSign_chars .none fun c hc => Text.ne_sign_of_isDecimalDigit (hdigit c hc)
  have hminus : ∀ c ∈ ('-' :: body).head?, Text.isBlank c = false := by
    simp only [List.head?_cons, Option.mem_some_iff, forall_eq']
    decide
  unfold OffsetText.ofChars?
  rw [dropWhile_append hbefore hminus,
    dropWhile_append hbefore fun c hc => Text.isBlank_of_isDecimalDigit (hdigit c hc), hsign,
    Decimal.readSign]
  dsimp only
  constructor
  · split <;> rfl
  · intro t ht
    split at ht
    · cases ht
    · obtain rfl := Option.some.inj ht
      rfl

theorem parseOffset_minus_iff (hbefore : ∀ c ∈ before, Text.isBlank c = true)
    (hbody : ∀ c ∈ body.head?, c.isDigit = true) {offset : Int} :
    parseOffset (String.ofList (before ++ '-' :: body)) = .ok (-offset) ↔
      parseOffset (String.ofList (before ++ body)) = .ok offset := by
  obtain ⟨hminus, hplain⟩ := ofChars?_minus hbefore hbody
  unfold parseOffset
  rw [String.toList_ofList, String.toList_ofList, hminus]
  cases ht : OffsetText.ofChars? (before ++ body) with
  | none => simp
  | some t =>
    have hamount : OffsetText.amount? { t with minus := true } = t.amount? := rfl
    simp only [Option.map_some, hamount, hplain t ht]
    cases t.amount? with
    | none => simp
    | some amount =>
      cases unitSeconds? (String.ofList t.unit) with
      | none => simp
      | some seconds =>
        dsimp only
        split <;> simp

end

/-- A text is read as a length of time exactly when it is spelled in the grammar of offsets with its
numbers within their limits, and as the one that it denotes.  Every other text is refused as a
period, no step leaves the sixty-four bits, and a minus sign turns the length into the past. -/
theorem parseOffset_iff_spelled (text : String) :
    (∀ offset, parseOffset text = .ok offset ↔
      ∃ p : OffsetParts, p.text = text ∧ p.Denotes offset) ∧
    ((∃ fault, parseOffset text = .error fault ∧ fault.field = "period" ∧
        (Error.format fault).kind = "InvalidFormat") ↔
      ¬∃ (p : OffsetParts) (offset : Int), p.text = text ∧ p.Denotes offset) ∧
    wordOffset? text = some (parseOffset text) ∧
    ∀ (before body : List Char) (offset : Int), (∀ c ∈ before, Text.isBlank c = true) →
      (∀ c ∈ body.head?, c.isDigit = true) →
      (parseOffset (String.ofList (before ++ '-' :: body)) = .ok (-offset) ↔
        parseOffset (String.ofList (before ++ body)) = .ok offset) := by
  refine ⟨fun offset => parseOffset_eq_ok_iff, ?_, wordOffset?_eq text,
    fun before body offset hbefore hbody => parseOffset_minus_iff hbefore hbody⟩
  rw [exists_comm]
  simp only [← parseOffset_eq_ok_iff]
  cases hparse : parseOffset text with
  | ok offset => simp
  | error fault =>
    have hfield := field_of_parseOffset hparse
    simp [hfield, Error.kind]

end MetricSeries

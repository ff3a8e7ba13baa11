import Mathlib
import MetricSeries.Json.Decode
import MetricSeries.Proofs.Digits

/-!
JSON texts.  A value that is whole is read back from the text that is written for it, whatever blanks
stand between its parts; an integer of sixty-four bits is decoded from its digits.
-/

set_option autoImplicit false

namespace MetricSeries.Json

def Blank (cs : List Char) : Prop :=
  ∀ c ∈ cs, isSpace c = true

theorem skipSpace_blank {blank : List Char} (h : Blank blank) (cs : List Char) :
    skipSpace (blank ++ cs) = skipSpace cs :=
  List.dropWhile_append_of_pos h

theorem skipSpace_of_head {c : Char} (h : isSpace c = false) (cs : List Char) :
    skipSpace (c :: cs) = c :: cs := by
  simp [skipSpace, h]

theorem skipSpace_to {blank : List Char} (hblank : Blank blank) {c : Char}
    (h : isSpace c = false) (cs : List Char) : skipSpace (blank ++ c :: cs) = c :: cs := by
  rw [skipSpace_blank hblank, skipSpace_of_head h]

theorem escape_cases (c : Char) :
    (∃ letter, escape c = ['\\', letter] ∧ letter ≠ 'u' ∧ unescape? letter = some c) ∨
    (∃ a b d e, escape c = ['\\', 'u', a, b, d, e] ∧ Text.hexNumber? [a, b, d, e] = some c.toNat ∧
      c.toNat < 32) ∨
    (escape c = [c] ∧ c ≠ '"' ∧ c ≠ '\\' ∧ 32 ≤ c.toNat) := by
  by_cases hletter : c ∈ ['"', '\\', '\x08', '\x0c', '\n', '\r', '\t']
  · simp only [List.mem_cons, List.not_mem_nil, or_false] at hletter
    rcases hletter with rfl | rfl | rfl | rfl | rfl | rfl | rfl
    all_goals exact .inl ⟨_, rfl, by decide, rfl⟩
  · simp only [List.mem_cons, List.not_mem_nil, or_false, not_or] at hletter
    obtain ⟨hquote, hslash, hback, hfeed, hline, hreturn, htab⟩ := hletter
    have hescape : escape c =
        if c.toNat < 32 then '\\' :: 'u' :: Text.hexDigits 4 c.toNat else [c] := by
      unfold escape
      split <;> simp_all
    by_cases hcontrol : c.toNat < 32
    · obtain ⟨a, b, d, e, hdigits, hread⟩ := Text.exists_hexDigits (f := id) c (by omega)
        (by simpa using Text.hexNumber?_hexDigits 4 c.toNat)
      rw [List.map_id] at hdigits
      exact .inr (.inl ⟨a, b, d, e, by rw [hescape, if_pos hcontrol, hdigits], hread, hcontrol⟩)
    · exact .inr (.inr ⟨by rw [hescape, if_neg hcontrol], hquote, hslash, by omega⟩)

theorem four_le_utf8Length (a b c d : Char) (cs : List Char) :
    4 ≤ utf8Length (a :: b :: c :: d :: cs) := by
  have hmono : ∀ (cs : List Char) (n : Nat), n ≤ cs.foldl (fun n c => n + c.utf8Size) n := by
    intro cs
    induction cs with
    | nil => exact fun n => Nat.le_refl n
    | cons c cs ih => exact fun n => Nat.le_trans (Nat.le_add_right _ _) (ih _)
  have hrest := hmono cs (0 + a.utf8Size + b.utf8Size + c.utf8Size + d.utf8Size)
  have ha := a.utf8Size_pos
  have hb := b.utf8Size_pos
  have hc := c.utf8Size_pos
  have hd := d.utf8Size_pos
  simp only [utf8Length, List.foldl_cons]
  omega

theorem pushNumber_of_control {c : Char} (h : c.toNat < 32) (read : List Char) :
    (⟨some read, none⟩ : TextState).pushNumber c.toNat = ⟨some (c :: read), none⟩ := by
  have hhigh : TextState.isHigh c.toNat = false := by
    simp [TextState.isHigh]
    omega
  have hlow : TextState.isLow c.toNat = false := by
    simp [TextState.isLow]
    omega
  simp [TextState.pushNumber, hhigh, hlow, Char.ofNat_toNat]

theorem readText_escape (c : Char) (read rest : List Char) :
    readText ⟨some read, none⟩ (escape c ++ rest) = readText ⟨some (c :: read), none⟩ rest := by
  rcases escape_cases c with ⟨letter, h, hu, hletter⟩ | ⟨a, b, d, e, h, hdigits, hcontrol⟩ |
    ⟨h, hquote, hslash, hshown⟩
  · rw [h]
    unfold unescape? at hletter
    split at hletter
    all_goals first | (cases hletter; rfl) | cases hletter
  · have hlength := four_le_utf8Length a b d e rest
    rw [h]
    simp only [List.cons_append, List.nil_append, readText, hdigits, pushNumber_of_control hcontrol]
    rw [if_neg (by omega)]
  · rw [h, List.singleton_append, readText.eq_def]
    split <;> simp_all [TextState.push, TextState.settle]

theorem readText_escapes (cs read rest : List Char) :
    readText ⟨some read, none⟩ (cs.flatMap escape ++ '"' :: rest) =
      .closed (some (String.ofList (read.reverse ++ cs))) rest := by
  induction cs generalizing read with
  | nil => simp [readText, TextState.settle]
  | cons c cs ih =>
    rw [List.flatMap_cons, List.append_assoc, readText_escape, ih]
    simp

theorem readText_quoted (s : String) (rest : List Char) :
    readText ⟨some [], none⟩ (s.toList.flatMap escape ++ '"' :: rest) = .closed (some s) rest := by
  rw [readText_escapes]
  simp

theorem isSpace_of_isDigit {d : Char} (hd : d.isDigit = true) : isSpace d = false := by
  simp [isSpace, ne_of_isDigit hd (c := ' ') rfl, ne_of_isDigit hd (c := '\n') rfl,
    ne_of_isDigit hd (c := '\t') rfl, ne_of_isDigit hd (c := '\r') rfl]

def IsWhole (ds : List Char) : Prop :=
  ds = ['0'] ∨ ∃ d more, ds = d :: more ∧ d ≠ '0' ∧ ∀ c ∈ ds, c.isDigit = true

def IsPlaces (cs : List Char) : Prop :=
  cs = [] ∨ ∃ ds, cs = '.' :: ds ∧ ds ≠ [] ∧ ∀ c ∈ ds, c.isDigit = true

def IsExponent (cs : List Char) : Prop :=
  cs = [] ∨ ∃ e sign ds, cs = e :: (sign ++ ds) ∧ (e = 'e' ∨ e = 'E') ∧
    (sign = [] ∨ sign = ['+'] ∨ sign = ['-']) ∧ ds ≠ [] ∧ ∀ c ∈ ds, c.isDigit = true

def IsNumber (token : List Char) : Prop :=
  ∃ sign whole places exponent, token = sign ++ (whole ++ (places ++ exponent)) ∧
    (sign = [] ∨ sign = ['-']) ∧ IsWhole whole ∧ IsPlaces places ∧ IsExponent exponent

def EndsNumber (rest : List Char) : Prop :=
  ∀ c ∈ rest.head?, c.isDigit = false ∧ c ≠ '.' ∧ c ≠ 'e' ∧ c ≠ 'E'

theorem readExponent_append {exponent : List Char} (h : IsExponent exponent) {rest : List Char}
    (hrest : EndsNumber rest) (head : List Char) :
    readExponent head (exponent ++ rest) = .token (head ++ exponent) rest := by
  rcases h with rfl | ⟨e, sign, ds, rfl, he, hsign, hne, hds⟩
  · cases rest with
    | nil => simp [readExponent]
    | cons c rest =>
      obtain ⟨-, -, he, hE⟩ := hrest c rfl
      simp [readExponent, he, hE]
  · obtain ⟨d, more, rfl⟩ := List.exists_cons_of_ne_nil hne
    have hspan : (d :: (more ++ rest)).span Char.isDigit = (d :: more, rest) :=
      span_append hds fun c hc => (hrest c hc).1
    have hd : d.isDigit = true := hds d (by simp)
    have hplus : d ≠ '+' := ne_of_isDigit hd rfl
    have hminus : d ≠ '-' := ne_of_isDigit hd rfl
    have hmark : (e = 'e' || e = 'E') = true := by simpa using he
    simp only [List.cons_append, List.append_assoc, readExponent, hmark, if_true]
    rcases hsign with rfl | rfl | rfl
    · simp [-List.span_eq_takeWhile_dropWhile, hplus, hminus, hspan]
    · simp only [List.cons_append, List.nil_append, hspan]
    · simp only [List.cons_append, List.nil_append, hspan]

theorem readPlaces_append {places exponent : List Char} (hplaces : IsPlaces places)
    (hexponent : IsExponent exponent) {rest : List Char} (hrest : EndsNumber rest)
    (head : List Char) :
    readPlaces head (places ++ (exponent ++ rest)) = .token (head ++ (places ++ exponent)) rest := by
  have hread := readExponent_append hexponent hrest
  have hhead : ∀ c ∈ (exponent ++ rest).head?, c.isDigit = false ∧ c ≠ '.' := by
    rcases hexponent with rfl | ⟨e, sign, ds, rfl, he, -⟩
    · exact fun c hc => ⟨(hrest c hc).1, (hrest c hc).2.1⟩
    · rcases he with rfl | rfl <;> simp
  rcases hplaces with rfl | ⟨ds, rfl, hne, hds⟩
  · unfold readPlaces
    split
    · rename_i heq
      exact absurd rfl (hhead '.' (by simpa using congrArg List.head? heq)).2
    · simpa using hread head
  · have hspan : (ds ++ (exponent ++ rest)).span Char.isDigit = (ds, exponent ++ rest) :=
      span_append hds fun c hc => (hhead c hc).1
    obtain ⟨d, more, rfl⟩ := List.exists_cons_of_ne_nil hne
    simp only [List.cons_append] at hspan
    simp only [List.cons_append, readPlaces, hspan]
    simp [hread]

theorem readNumber_append {whole places exponent : List Char} (hwhole : IsWhole whole)
    (hplaces : IsPlaces places) (hexponent : IsExponent exponent) {rest : List Char}
    (hrest : EndsNumber rest) (sign : List Char) :
    readNumber sign (whole ++ (places ++ (exponent ++ rest))) =
      .token (sign ++ (whole ++ (places ++ exponent))) rest := by
  have hread := readPlaces_append hplaces hexponent hrest
  have hhead : ∀ c ∈ (places ++ (exponent ++ rest)).head?, c.isDigit = false := by
    rcases hplaces with rfl | ⟨ds, rfl, -⟩
    · rcases hexponent with rfl | ⟨e, es, ds, rfl, he, -⟩
      · exact fun c hc => (hrest c hc).1
      · rcases he with rfl | rfl <;> simp
    · simp
  rcases hwhole with rfl | ⟨d, more, rfl, hzero, hds⟩
  · cases hcs : places ++ (exponent ++ rest) with
    | nil =>
      simp only [List.append_eq_nil_iff] at hcs
      obtain ⟨rfl, rfl, rfl⟩ := hcs
      simp [readNumber]
    | cons c cs =>
      have hc : c.isDigit = false := hhead c (by simp [hcs])
      have hmore := hread (sign ++ ['0'])
      rw [hcs] at hmore
      simp [readNumber, hc, hmore]
  · have hspan : (d :: (more ++ (places ++ (exponent ++ rest)))).span Char.isDigit =
        (d :: more, places ++ (exponent ++ rest)) := span_append hds hhead
    rw [List.cons_append]
    unfold readNumber
    split
    · rename_i heq
      exact absurd (List.cons.inj heq).1 hzero
    · simp only [hspan, hread, List.append_assoc, List.cons_append]

theorem head_whole {whole : List Char} (h : IsWhole whole) :
    ∃ d more, whole = d :: more ∧ d.isDigit = true := by
  rcases h with rfl | ⟨d, more, rfl, -, hds⟩
  · exact ⟨'0', [], rfl, rfl⟩
  · exact ⟨d, more, rfl, hds d (by simp)⟩

/-- A value that nothing cuts short: its numbers follow the grammar, and its texts and keys have
content. -/
inductive Value.Intact : Value → Prop
  | null : Value.Intact .null
  | flag (b : Bool) : Value.Intact (.flag b)
  | number {token : List Char} (h : IsNumber token) : Value.Intact (.number token)
  | text (s : String) : Value.Intact (.text (some s))
  | array {items : List Value} (h : ∀ v ∈ items, v.Intact) : Value.Intact (.array items none)
  | object {members : List (Option String × Value)} (hkeys : ∀ m ∈ members, m.1.isSome = true)
      (h : ∀ m ∈ members, m.2.Intact) : Value.Intact (.object members none)

/-- Nothing but blanks and a colon stands between the parts of a value. -/
structure Style.IsBlank (style : Style) : Prop where
  before : ∀ depth, Blank (style.before depth)
  colon : ∃ ahead behind, Blank ahead ∧ Blank behind ∧ style.colon = ahead ++ ':' :: behind

theorem isBlank_compact : compact.IsBlank where
  before _ := by simp [Blank, compact]
  colon := ⟨[], [], by simp [Blank], by simp [Blank], rfl⟩

theorem isBlank_indented : indented.IsBlank where
  before depth := by
    intro c hc
    simp only [indented, List.mem_cons, List.mem_replicate] at hc
    rcases hc with rfl | ⟨-, rfl⟩ <;> rfl
  colon := ⟨[], [' '], by simp [Blank], by simp [Blank, isSpace], rfl⟩

/-- The text of a value is read as the value, and what follows it is left. -/
def ReadsBack (style : Style) (v : Value) : Prop :=
  ∀ (depth fuel : Nat) (blank rest : List Char), Blank blank → EndsNumber rest →
    2 * (v.write style depth).length ≤ fuel →
      readValue fuel (blank ++ (v.write style depth ++ rest)) = (v, some rest)

theorem head_write {v : Value} (h : v.Intact) (style : Style) (depth : Nat) :
    ∃ c cs, v.write style depth = c :: cs ∧ isSpace c = false ∧ c ≠ ']' := by
  cases h with
  | null => exact ⟨'n', _, by rw [Value.write]; rfl, rfl, by decide⟩
  | flag b => cases b <;> exact ⟨_, _, by rw [Value.write]; rfl, rfl, by decide⟩
  | number h =>
    obtain ⟨sign, whole, places, exponent, rfl, hsign, hwhole, -⟩ := h
    obtain ⟨d, more, rfl, hd⟩ := head_whole hwhole
    rcases hsign with rfl | rfl
    · exact ⟨d, _, by rw [Value.write]; rfl, isSpace_of_isDigit hd, ne_of_isDigit hd rfl⟩
    · exact ⟨'-', _, by rw [Value.write]; rfl, rfl, by decide⟩
  | text s => exact ⟨'"', _, by rw [Value.write, quoted]; rfl, rfl, by decide⟩
  | @array items h =>
    cases items with
    | nil => exact ⟨'[', _, by rw [Value.write], rfl, by decide⟩
    | cons item items => exact ⟨'[', _, by rw [Value.write]; rfl, rfl, by decide⟩
  | @object members hkeys h =>
    cases members with
    | nil => exact ⟨'\x7b', _, by rw [Value.write], rfl, by decide⟩
    | cons member members =>
      obtain ⟨key, value⟩ := member
      exact ⟨'\x7b', _, by rw [Value.write]; rfl, rfl, by decide⟩

theorem readsBack_null (style : Style) : ReadsBack style .null := by
  intro depth fuel blank rest hblank hrest hfuel
  rw [Value.write] at hfuel ⊢
  obtain ⟨fuel, rfl⟩ : ∃ n, fuel = n + 1 := ⟨fuel - 1, by simp at hfuel; omega⟩
  simp [readValue, skipSpace_to hblank (c := 'n') rfl, readWord]

theorem readsBack_flag (style : Style) (b : Bool) : ReadsBack style (.flag b) := by
  intro depth fuel blank rest hblank hrest hfuel
  rw [Value.write] at hfuel ⊢
  cases b with
  | true =>
    obtain ⟨fuel, rfl⟩ : ∃ n, fuel = n + 1 := ⟨fuel - 1, by simp at hfuel; omega⟩
    simp [readValue, skipSpace_to hblank (c := 't') rfl, readWord]
  | false =>
    obtain ⟨fuel, rfl⟩ : ∃ n, fuel = n + 1 := ⟨fuel - 1, by simp at hfuel; omega⟩
    simp [readValue, skipSpace_to hblank (c := 'f') rfl, readWord]

theorem readsBack_text (style : Style) (s : String) : ReadsBack style (.text (some s)) := by
  intro depth fuel blank rest hblank hrest hfuel
  rw [Value.write, quoted] at hfuel ⊢
  obtain ⟨fuel, rfl⟩ : ∃ n, fuel = n + 1 := ⟨fuel - 1, by simp at hfuel; omega⟩
  simp [readValue, skipSpace_to hblank (c := '"') rfl, readText_quoted]

theorem readsBack_number (style : Style) {token : List Char} (h : IsNumber token) :
    ReadsBack style (.number token) := by
  intro depth fuel blank rest hblank hrest hfuel
  rw [Value.write] at hfuel ⊢
  obtain ⟨sign, whole, places, exponent, rfl, hsign, hwhole, hplaces, hexponent⟩ := h
  have hread := readNumber_append hwhole hplaces hexponent hrest
  obtain ⟨d, more, rfl, hd⟩ := head_whole hwhole
  obtain ⟨fuel, rfl⟩ : ∃ n, fuel = n + 1 := ⟨fuel - 1, by simp at hfuel; omega⟩
  rcases hsign with rfl | rfl
  · have hplain := hread []
    simp only [List.nil_append, List.cons_append, List.append_assoc] at hplain ⊢
    rw [readValue, skipSpace_to hblank (isSpace_of_isDigit hd)]
    split
    all_goals rename_i heq
    case h_1 => cases heq
    case h_9 =>
      obtain ⟨rfl, rfl⟩ := List.cons.inj heq
      rw [if_pos hd, hplain, ofNumber]
    all_goals exact absurd (List.cons.inj heq).1 (ne_of_isDigit hd rfl)
  · have hminus := hread ['-']
    simp at hminus
    simp [readValue, skipSpace_to hblank (c := '-') rfl, hminus, ofNumber]

theorem endsNumber_cons {c : Char} (h : c ∈ [',', ']', '\x7d']) (cs : List Char) :
    EndsNumber (c :: cs) := by
  intro d hd
  obtain rfl : c = d := by simpa using hd
  simp only [List.mem_cons, List.not_mem_nil, or_false] at h
  rcases h with rfl | rfl | rfl <;> exact ⟨rfl, by decide, by decide, by decide⟩

theorem endsNumber_blank {blank : List Char} (hblank : Blank blank) {cs : List Char}
    (h : EndsNumber cs) : EndsNumber (blank ++ cs) := by
  cases blank with
  | nil => exact h
  | cons c blank =>
    intro d hd
    obtain rfl : c = d := by simpa using hd
    have hspace := hblank c (by simp)
    simp only [isSpace, Bool.or_eq_true, decide_eq_true_eq] at hspace
    rcases hspace with ((rfl | rfl) | rfl) | rfl <;> exact ⟨rfl, by decide, by decide, by decide⟩

section

variable {style : Style} (hstyle : style.IsBlank)

theorem readItems_step {item : Value} (hitem : ReadsBack style item) (depth : Nat) {fuel : Nat}
    {blank tail : List Char} (hblank : Blank blank) (htail : EndsNumber tail)
    (hfuel : 2 * (item.write style depth).length ≤ fuel) :
    let outcome := readItems (fuel + 1) (blank ++ (item.write style depth ++ tail))
    (∀ rest, skipSpace tail = ']' :: rest → outcome = ([item], none, some rest)) ∧
    ∀ more items stop rest, skipSpace tail = ',' :: more →
      readItems fuel more = (items, stop, rest) → outcome = (item :: items, stop, rest) := by
  intro outcome
  have hread := hitem depth fuel blank tail hblank htail hfuel
  refine ⟨fun rest hskip => ?_, fun more items stop rest hskip hmore => ?_⟩
  · simp only [outcome, readItems, hread, hskip]
  · simp only [outcome, readItems, hread, hskip, hmore]

include hstyle

theorem readItems_write {item : Value} {items : List Value}
    (hitems : ∀ v ∈ item :: items, ReadsBack style v) (depth : Nat) {fuel : Nat} {blank : List Char}
    (hblank : Blank blank) (rest : List Char)
    (hfuel : 2 * ((item.write style (depth + 1)).length + (writeItems style depth items).length + 1) ≤
      fuel) :
    readItems fuel (blank ++ (item.write style (depth + 1) ++ (writeItems style depth items ++
      (style.before depth ++ ']' :: rest)))) = (item :: items, none, some rest) := by
  have hbefore := hstyle.before depth
  induction items generalizing item fuel blank with
  | nil =>
    obtain ⟨fuel, rfl⟩ : ∃ n, fuel = n + 1 := ⟨fuel - 1, by omega⟩
    have hlast : EndsNumber (style.before depth ++ ']' :: rest) :=
      endsNumber_blank hbefore (endsNumber_cons (by simp) rest)
    exact (readItems_step (hitems item (by simp)) (depth + 1) hblank hlast (by omega)).1 rest
      (skipSpace_to hbefore rfl rest)
  | cons next items ih =>
    obtain ⟨fuel, rfl⟩ : ∃ n, fuel = n + 1 := ⟨fuel - 1, by omega⟩
    have hwritten : writeItems style depth (next :: items) =
        ',' :: (style.before (depth + 1) ++ (next.write style (depth + 1) ++
          writeItems style depth items)) := by
      simp [writeItems]
    rw [hwritten] at hfuel ⊢
    simp only [List.length_cons, List.length_append] at hfuel
    have hmore := ih (fun v hv => hitems v (List.mem_cons_of_mem item hv)) (hstyle.before (depth + 1))
      (by omega : _ ≤ fuel)
    simp only [List.cons_append, List.append_assoc]
    exact (readItems_step (hitems item (by simp)) (depth + 1) hblank (endsNumber_cons (by simp) _)
      (by omega)).2 _ _ _ _ (skipSpace_of_head rfl _) hmore

theorem readMembers_step (key : String) {value : Value} (hvalue : ReadsBack style value)
    (depth : Nat) {fuel : Nat} {blank tail : List Char} (hblank : Blank blank)
    (htail : EndsNumber tail) (hfuel : 2 * (value.write style depth).length ≤ fuel) :
    let outcome := readMembers (fuel + 1)
      (blank ++ (quoted key ++ (style.colon ++ (value.write style depth ++ tail))))
    (∀ rest, skipSpace tail = '\x7d' :: rest → outcome = ([(some key, value)], none, some rest)) ∧
    ∀ more members stop rest, skipSpace tail = ',' :: more →
      readMembers fuel more = (members, stop, rest) →
        outcome = ((some key, value) :: members, stop, rest) := by
  intro outcome
  obtain ⟨ahead, behind, hahead, hbehind, hcolon⟩ := hstyle.colon
  have hquoted : ∀ cs, quoted key ++ cs = '"' :: (key.toList.flatMap escape ++ '"' :: cs) := by
    simp [quoted]
  have hread := hvalue depth fuel behind tail hbehind htail hfuel
  have hquote := fun cs => skipSpace_to hblank (c := '"') rfl cs
  have hpoint := fun cs => skipSpace_to hahead (c := ':') rfl cs
  refine ⟨fun rest hskip => ?_, fun more members stop rest hskip hmore => ?_⟩
  · simp only [outcome, hcolon, hquoted, List.append_assoc, List.cons_append, readMembers, hquote,
      readText_quoted, hpoint, hread, hskip]
  · simp only [outcome, hcolon, hquoted, List.append_assoc, List.cons_append, readMembers, hquote,
      readText_quoted, hpoint, hread, hskip, hmore]

theorem readMembers_write {key : String} {value : Value} {members : List (Option String × Value)}
    (hkeys : ∀ m ∈ members, m.1.isSome = true)
    (hmembers : ∀ m ∈ (some key, value) :: members, ReadsBack style m.2) (depth : Nat) {fuel : Nat}
    {blank : List Char} (hblank : Blank blank) (rest : List Char)
    (hfuel : 2 * ((quoted key).length + style.colon.length + (value.write style (depth + 1)).length +
      (writeMembers style depth members).length + 1) ≤ fuel) :
    readMembers fuel (blank ++ (quoted key ++ (style.colon ++ (value.write style (depth + 1) ++
      (writeMembers style depth members ++ (style.before depth ++ '\x7d' :: rest)))))) =
        ((some key, value) :: members, none, some rest) := by
  have hbefore := hstyle.before depth
  induction members generalizing key value fuel blank with
  | nil =>
    have hvalue : ReadsBack style value := hmembers (some key, value) (by simp)
    obtain ⟨fuel, rfl⟩ : ∃ n, fuel = n + 1 := ⟨fuel - 1, by omega⟩
    have hlast : EndsNumber (style.before depth ++ '\x7d' :: rest) :=
      endsNumber_blank hbefore (endsNumber_cons (by simp) rest)
    exact (readMembers_step hstyle key hvalue (depth + 1) hblank hlast (by omega)).1 rest
      (skipSpace_to hbefore rfl rest)
  | cons next members ih =>
    have hvalue : ReadsBack style value := hmembers (some key, value) (by simp)
    obtain ⟨fuel, rfl⟩ : ∃ n, fuel = n + 1 := ⟨fuel - 1, by omega⟩
    obtain ⟨nextKey, nextValue⟩ := next
    obtain ⟨nextKey, rfl⟩ := Option.isSome_iff_exists.1 (hkeys (nextKey, nextValue) (by simp))
    have hwritten : writeMembers style depth ((some nextKey, nextValue) :: members) =
        ',' :: (style.before (depth + 1) ++ (quoted nextKey ++ (style.colon ++
          (nextValue.write style (depth + 1) ++ writeMembers style depth members)))) := by
      simp [writeMembers]
    rw [hwritten] at hfuel ⊢
    simp only [List.length_cons, List.length_append] at hfuel
    have hmore := ih (fun m hm => hkeys m (List.mem_cons_of_mem _ hm))
      (fun m hm => hmembers m (List.mem_cons_of_mem _ hm)) (hstyle.before (depth + 1))
      (by omega : _ ≤ fuel)
    simp only [List.cons_append, List.append_assoc]
    exact (readMembers_step hstyle key hvalue (depth + 1) hblank (endsNumber_cons (by simp) _)
      (by omega)).2 _ _ _ _ (skipSpace_of_head rfl _) hmore

theorem readsBack_array {items : List Value} (hintact : ∀ v ∈ items, v.Intact)
    (hitems : ∀ v ∈ items, ReadsBack style v) : ReadsBack style (.array items none) := by
  intro depth fuel blank rest hblank hrest hfuel
  cases items with
  | nil =>
    rw [Value.write] at hfuel ⊢
    obtain ⟨fuel, rfl⟩ : ∃ n, fuel = n + 1 := ⟨fuel - 1, by simp at hfuel; omega⟩
    simp only [List.cons_append, List.nil_append, readValue]
    rw [skipSpace_to hblank rfl]
    simp only
    rw [skipSpace_of_head rfl]
    rfl
  | cons item items =>
    obtain ⟨c, cs, hwrite, hspace, hclose⟩ := head_write (hintact item (by simp)) style (depth + 1)
    have hwritten : Value.write style depth (.array (item :: items) none) =
        '[' :: (style.before (depth + 1) ++ (item.write style (depth + 1) ++
          (writeItems style depth items ++ (style.before depth ++ [']'])))) := by
      simp [Value.write]
    rw [hwritten] at hfuel ⊢
    simp only [List.length_cons, List.length_append, List.length_nil] at hfuel
    obtain ⟨fuel, rfl⟩ : ∃ n, fuel = n + 1 := ⟨fuel - 1, by omega⟩
    have hread := readItems_write hstyle hitems depth (show Blank [] by simp [Blank]) rest
      (by omega : _ ≤ fuel)
    simp only [List.cons_append, List.nil_append, List.append_assoc, readValue]
    rw [skipSpace_to hblank rfl]
    simp only [List.nil_append, hwrite, List.cons_append] at hread ⊢
    rw [skipSpace_to (hstyle.before (depth + 1)) hspace]
    simp [hclose, hread]

theorem readsBack_object {members : List (Option String × Value)}
    (hkeys : ∀ m ∈ members, m.1.isSome = true) (hmembers : ∀ m ∈ members, ReadsBack style m.2) :
    ReadsBack style (.object members none) := by
  intro depth fuel blank rest hblank hrest hfuel
  cases members with
  | nil =>
    rw [Value.write] at hfuel ⊢
    obtain ⟨fuel, rfl⟩ : ∃ n, fuel = n + 1 := ⟨fuel - 1, by simp at hfuel; omega⟩
    simp only [List.cons_append, List.nil_append, readValue]
    rw [skipSpace_to hblank rfl]
    simp only
    rw [skipSpace_of_head rfl]
    rfl
  | cons member members =>
    obtain ⟨key, value⟩ := member
    obtain ⟨key, rfl⟩ := Option.isSome_iff_exists.1 (hkeys (key, value) (by simp))
    have hwritten : Value.write style depth (.object ((some key, value) :: members) none) =
        '\x7b' :: (style.before (depth + 1) ++ (quoted key ++ (style.colon ++
          (value.write style (depth + 1) ++ (writeMembers style depth members ++
            (style.before depth ++ ['\x7d'])))))) := by
      simp [Value.write]
    rw [hwritten] at hfuel ⊢
    simp only [List.length_cons, List.length_append, List.length_nil] at hfuel
    obtain ⟨fuel, rfl⟩ : ∃ n, fuel = n + 1 := ⟨fuel - 1, by omega⟩
    have hread := readMembers_write hstyle (fun m hm => hkeys m (List.mem_cons_of_mem _ hm)) hmembers
      depth (show Blank [] by simp [Blank]) rest (by omega : _ ≤ fuel)
    simp only [List.cons_append, List.nil_append, List.append_assoc, readValue]
    rw [skipSpace_to hblank rfl]
    simp only [quoted, List.cons_append, List.nil_append, List.append_assoc] at hread ⊢
    rw [skipSpace_to (hstyle.before (depth + 1)) rfl]
    simp [hread]

/-- A whole value is read back from its text. -/
theorem Value.Intact.readsBack {v : Value} (h : v.Intact) : ReadsBack style v := by
  induction h with
  | null => exact readsBack_null style
  | flag b => exact readsBack_flag style b
  | number h => exact readsBack_number style h
  | text s => exact readsBack_text style s
  | array hintact ih => exact readsBack_array hstyle hintact ih
  | object hkeys _ ih => exact readsBack_object hstyle hkeys ih

theorem read_render {v : Value} (h : v.Intact) : read (v.render style).toList = (v, some []) := by
  have hread := h.readsBack hstyle 0 (2 * (v.write style 0).length + 2) [] [] (by simp [Blank])
    (by simp [EndsNumber]) (by omega)
  simpa [read, Value.render] using hread

end

theorem le_foldl_digits (ds : List Char) (n : Nat) :
    n ≤ ds.foldl (fun n c => 10 * n + (c.toNat - '0'.toNat)) n := by
  induction ds generalizing n with
  | nil => exact Nat.le_refl n
  | cons d ds ih =>
    have hstep : n ≤ 10 * n + (d.toNat - '0'.toNat) := by omega
    exact Nat.le_trans hstep (ih _)

theorem takeDigits_of_lt {ds : List Char} {n : Nat}
    (h : ds.foldl (fun n c => 10 * n + (c.toNat - '0'.toNat)) n < Nat.pow 2 64) :
    takeDigits n ds = (ds.foldl (fun n c => 10 * n + (c.toNat - '0'.toNat)) n, ds.length) := by
  induction ds generalizing n with
  | nil => rfl
  | cons d ds ih =>
    rw [List.foldl_cons] at h
    have hnext := le_foldl_digits ds (10 * n + (d.toNat - '0'.toNat))
    simp only [takeDigits]
    rw [if_pos (Nat.lt_of_le_of_lt hnext h), ih h]
    rfl

theorem takeDigits_digitChars {n : Nat} (h : n < Nat.pow 2 64) :
    takeDigits 0 (Decimal.digitChars n) = (n, (Decimal.digitChars n).length) := by
  have hvalue : Decimal.natOfDigits (Decimal.digitChars n) = n := Decimal.natOfDigits_digitChars n
  unfold Decimal.natOfDigits at hvalue
  rw [takeDigits_of_lt (by rwa [hvalue]), hvalue]

theorem ofToken_digitChars {n : Nat} (h : n < Nat.pow 2 64) :
    Numeral.ofToken (Decimal.digitChars n) = ⟨false, n, 0, true⟩ := by
  have hspan := span_self fun c (hc : c ∈ Decimal.digitChars n) =>
    Decimal.isDigit_of_mem_digitChars hc
  have hminus : ∀ cs, Decimal.digitChars n ≠ '-' :: cs := by
    intro cs hcs
    have hdigit := Decimal.isDigit_of_mem_digitChars (n := n) (c := '-') (by simp [hcs])
    exact absurd hdigit (by decide)
  unfold Numeral.ofToken
  split
  · rename_i heq
    split at heq
    · rename_i hcs
      exact absurd hcs (hminus _)
    · cases heq
      simp only [hspan, takeDigits_digitChars h]
      simp [takeDigits, exponentOf]

theorem ofToken_minus {n : Nat} (h : n < Nat.pow 2 64) :
    Numeral.ofToken ('-' :: Decimal.digitChars n) = ⟨true, n, 0, true⟩ := by
  have hspan := span_self fun c (hc : c ∈ Decimal.digitChars n) =>
    Decimal.isDigit_of_mem_digitChars hc
  simp only [Numeral.ofToken, hspan, takeDigits_digitChars h]
  simp [takeDigits, exponentOf]

def IsWord (n : Int) : Prop :=
  Decimal.smallestWord ≤ n ∧ n ≤ Decimal.largestWord

theorem toList_intText_negSucc (k : Nat) :
    (Decimal.intText (Int.negSucc k)).toList = '-' :: Decimal.digitChars (k + 1) := by
  simp [Decimal.intText, Decimal.toList_natText]

theorem integerOf?_intText {n : Int} (h : IsWord n) :
    integerOf? (Decimal.intText n).toList = some n := by
  obtain ⟨hleast, hgreatest⟩ := h
  unfold Decimal.smallestWord at hleast
  unfold Decimal.largestWord at hgreatest
  cases n with
  | ofNat k =>
    have hk : k < 9223372036854775808 := by
      simp only [Int.ofNat_eq_natCast] at hgreatest
      omega
    have hnumeral := ofToken_digitChars (n := k) (by norm_num; omega)
    simp only [Decimal.intText, Decimal.toList_natText]
    simp [integerOf?, hnumeral, hk]
  | negSucc k =>
    have hk : k + 1 ≤ 9223372036854775808 := by omega
    have hnumeral := ofToken_minus (n := k + 1) (by norm_num; omega)
    rw [toList_intText_negSucc]
    simp [integerOf?, hnumeral]
    omega

theorem isWhole_digitChars (n : Nat) : IsWhole (Decimal.digitChars n) := by
  obtain ⟨d, ds, hds⟩ := List.exists_cons_of_ne_nil (Decimal.digitChars_ne_nil n)
  by_cases hzero : d = '0'
  · subst hzero
    obtain rfl := Decimal.eq_zero_of_digitChars_eq hds
    exact .inl rfl
  · exact .inr ⟨d, ds, hds, hzero, fun c hc => Decimal.isDigit_of_mem_digitChars hc⟩

theorem isNumber_intText (n : Int) : IsNumber (Decimal.intText n).toList := by
  cases n with
  | ofNat k =>
    refine ⟨[], Decimal.digitChars k, [], [], ?_, .inl rfl, isWhole_digitChars k, .inl rfl, .inl rfl⟩
    simp [Decimal.intText, Decimal.toList_natText]
  | negSucc k =>
    refine ⟨['-'], Decimal.digitChars (k + 1), [], [], ?_, .inr rfl, isWhole_digitChars (k + 1),
      .inl rfl, .inl rfl⟩
    simp [toList_intText_negSucc]

theorem decode_render {β : Type} (decoder : Decoder β) {style : Style} (hstyle : style.IsBlank)
    {v : Value} (h : v.Intact) : decode decoder (v.render style) = decoder v := by
  unfold decode
  rw [read_render hstyle h]
  simp only
  cases decoder v <;> rfl

theorem skipItems_of_all {items : List Value} (h : ∀ v ∈ items, v.skip = .ok ()) :
    skipItems items = .ok () := by
  induction items with
  | nil => simp [skipItems]
  | cons v items ih =>
    have hrest := ih fun w hw => h w (List.mem_cons_of_mem v hw)
    simp only [skipItems, h v (by simp), hrest]
    rfl

theorem skipMembers_of_all {members : List (Option String × Value)}
    (h : ∀ m ∈ members, m.2.skip = .ok ()) : skipMembers members = .ok () := by
  induction members with
  | nil => simp [skipMembers]
  | cons m members ih =>
    obtain ⟨key, v⟩ := m
    have hv : v.skip = .ok () := h (key, v) (by simp)
    have hrest := ih fun w hw => h w (List.mem_cons_of_mem _ hw)
    simp only [skipMembers, hv, hrest]
    rfl

theorem Value.Intact.skip {v : Value} (h : v.Intact) : v.skip = .ok () := by
  induction h with
  | array _ ih => simp [Value.skip, skipItems_of_all ih]
  | object _ _ ih => simp [Value.skip, skipMembers_of_all ih]
  | null => rfl
  | flag b => rfl
  | number h => rfl
  | text s => rfl

end MetricSeries.Json

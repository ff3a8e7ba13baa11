import Mathlib
import MetricSeries.Toml.Reader
import MetricSeries.Proofs.TomlTexts

/-!
The lines of a TOML document.  Each kind of line is read in one step, with what it adds to the tables
that the lines above it have made, whatever blanks and comments it holds.
-/

set_option autoImplicit false

namespace MetricSeries.Toml

variable {header : List String} {root root' result : Entries} {rest : List Char}

abbrev Blanks := {cs : List Char // ∀ c ∈ cs, isSpace c = true}

theorem skipSpaces_blanks (blanks : Blanks) (cs : List Char) :
    skipSpaces (blanks.1 ++ cs) = skipSpaces cs :=
  List.dropWhile_append_of_pos blanks.2

theorem skipSpaces_of_head {cs : List Char} (h : ∀ c ∈ cs.head?, isSpace c = false) :
    skipSpaces cs = cs := by
  cases cs with
  | nil => rfl
  | cons c cs =>
    have hc : isSpace c = false := h c rfl
    simp [skipSpaces, hc]

@[simp] theorem skipSpaces_skipSpaces (cs : List Char) : skipSpaces (skipSpaces cs) = skipSpaces cs :=
  List.dropWhile_idempotent isSpace cs

/-- What may stand behind a header or a value on its line, and on a line of its own: blanks, then a
comment if there is one, and the end of the line. -/
structure LineEnd where
  blanks : Blanks := ⟨[], by simp⟩
  comment : Option {cs : List Char // ∀ c ∈ cs, isShown c = true} := none
  carriage : Bool := false

namespace LineEnd

def remark (e : LineEnd) : List Char :=
  match e.comment with
  | some cs => '#' :: cs.1
  | none => []

def mark (e : LineEnd) : List Char :=
  if e.carriage then ['\r', '\n'] else ['\n']

def text (e : LineEnd) : List Char :=
  e.blanks.1 ++ (e.remark ++ e.mark)

theorem lineEnd?_mark (e : LineEnd) (rest : List Char) : lineEnd? (e.mark ++ rest) = some rest := by
  unfold mark
  split <;> rfl

theorem skipComment_remark (e : LineEnd) (rest : List Char) :
    skipComment (e.remark ++ (e.mark ++ rest)) = e.mark ++ rest := by
  unfold remark mark
  cases e.comment with
  | none => cases e.carriage <;> rfl
  | some cs =>
    have hend : (e.mark ++ rest).dropWhile isShown = e.mark ++ rest := by
      unfold mark
      cases e.carriage <;> rfl
    unfold mark at hend
    simp only [List.cons_append, skipComment]
    rw [List.dropWhile_append_of_pos cs.2, hend]

theorem skipSpaces_text (e : LineEnd) (rest : List Char) :
    skipSpaces (e.text ++ rest) = e.remark ++ (e.mark ++ rest) := by
  rw [text, List.append_assoc, skipSpaces_blanks, List.append_assoc]
  apply skipSpaces_of_head
  unfold remark mark
  cases e.comment with
  | none => cases e.carriage <;> simp [isSpace]
  | some cs => simp [isSpace]

theorem endLine?_text (e : LineEnd) (rest : List Char) : endLine? (e.text ++ rest) = some rest := by
  unfold endLine?
  rw [skipSpaces_text, skipComment_remark]
  split
  · rename_i h
    unfold mark at h
    split at h <;> cases h
  · exact lineEnd?_mark e rest

theorem head_skipSpaces_text (e : LineEnd) (rest : List Char) :
    ∃ c more, skipSpaces (e.text ++ rest) = c :: more ∧ (c = '#' ∨ c = '\n' ∨ c = '\r') := by
  rw [skipSpaces_text]
  unfold remark mark
  cases e.comment with
  | none => cases e.carriage <;> simp
  | some cs => simp

theorem head_text (e : LineEnd) (rest : List Char) :
    ∃ c more, e.text ++ rest = c :: more ∧ c ∈ [' ', '\t', '#', '\n', '\r'] := by
  cases hblanks : e.blanks.1 with
  | nil =>
    obtain ⟨c, more, htext, hc⟩ := e.head_skipSpaces_text rest
    rw [skipSpaces_text] at htext
    exact ⟨c, more, by rw [text, hblanks, ← htext]; simp, by simp [hc]⟩
  | cons c cs =>
    have hspace := e.blanks.2 c (by simp [hblanks])
    refine ⟨c, cs ++ (e.remark ++ (e.mark ++ rest)), by rw [text, hblanks]; simp, ?_⟩
    simp only [isSpace, Bool.or_eq_true, decide_eq_true_eq] at hspace
    rcases hspace with rfl | rfl <;> simp

theorem length_pos (e : LineEnd) : 0 < e.text.length := by
  have hmark : 0 < e.mark.length := by
    unfold mark
    split <;> simp
  simp only [text, List.length_append]
  omega

end LineEnd

def IsBareKey (key : String) : Prop :=
  key.toList ≠ [] ∧ ∀ c ∈ key.toList, isBare c = true

theorem isSpace_of_isBare {c : Char} (h : isBare c = true) : isSpace c = false := by
  by_contra hspace
  simp only [isSpace, Bool.not_eq_false, Bool.or_eq_true, decide_eq_true_eq] at hspace
  rcases hspace with rfl | rfl <;> exact absurd h (by decide)

theorem readKey?_of_isBareKey {key : String} (hkey : IsBareKey key) {cs : List Char}
    (hend : ∀ c ∈ cs.head?, isBare c = false) :
    readKey? (skipSpaces (key.toList ++ cs)) = some (key, cs) := by
  obtain ⟨hne, hbare⟩ := hkey
  have hspan := span_append hbare hend
  cases hchars : key.toList with
  | nil => exact absurd hchars hne
  | cons d ds =>
    have hd : isBare d = true := hbare d (by simp [hchars])
    have hskip : skipSpaces (d :: ds ++ cs) = d :: ds ++ cs :=
      skipSpaces_of_head (by simpa using isSpace_of_isBare hd)
    rw [hchars] at hspan
    rw [hskip]
    unfold readKey?
    split
    · rename_i h
      obtain rfl : d = '"' := by simpa using congrArg List.head? h
      exact absurd hd (by decide)
    · rename_i h
      obtain rfl : d = '\'' := by simpa using congrArg List.head? h
      exact absurd hd (by decide)
    · simp only [hspan]
      rw [← hchars, String.ofList_toList]

theorem readPath?_of_isBareKey {key : String} (hkey : IsBareKey key) (limit : Nat) {cs : List Char}
    (hend : ∀ c ∈ cs.head?, isBare c = false) (hpoint : ∀ c ∈ (skipSpaces cs).head?, c ≠ '.') :
    readPath? (limit + 1) (key.toList ++ cs) = some (([], key), skipSpaces cs) := by
  simp only [readPath?, readKey?_of_isBareKey hkey hend, Option.bind_eq_bind, Option.bind_some]
  split
  · rename_i h
    exact absurd rfl (hpoint '.' (by simp [h]))
  · rfl

/-- A value's text is read up to where the end of its line begins, blanks before it apart. -/
def Denotes (written : List Char) (value : Value) : Prop :=
  ∀ (fuel : Nat) (e : LineEnd) (rest : List Char),
    readValue? (fuel + 1) depthLimit (skipSpaces (written ++ (e.text ++ rest))) =
      some (value, e.text ++ rest)

theorem Denotes.indented {written : List Char} {value : Value} (h : Denotes written value)
    (blanks : Blanks) : Denotes (blanks.1 ++ written) value := by
  intro fuel e rest
  rw [List.append_assoc, skipSpaces_blanks]
  exact h fuel e rest

theorem denotes_flag (b : Bool) : Denotes (if b then "true" else "false").toList (.flag b) := by
  intro fuel e rest
  cases b <;> rfl

theorem head_writeText (s : String) : ∃ c cs, writeText s = c :: cs ∧ (c = '"' ∨ c = '\'') := by
  unfold writeText
  cases hquoting : (Needs.of s.toList).quoting <;> simp [hquoting]

theorem denotes_text (s : String) : Denotes (writeText s) (.text s) := by
  intro fuel e rest
  obtain ⟨d, more, htail, hd⟩ := e.head_text rest
  have hend : ∀ c ∈ (e.text ++ rest).head?, c ≠ '"' ∧ c ≠ '\'' := by
    intro c hc
    obtain rfl : d = c := by simpa [htail] using hc
    simp only [List.mem_cons, List.not_mem_nil, or_false] at hd
    rcases hd with rfl | rfl | rfl | rfl | rfl <;> simp
  have hread := readText?_writeText s hend
  obtain ⟨c, cs, hwritten, hc⟩ := head_writeText s
  rw [hwritten, List.cons_append] at hread ⊢
  rw [skipSpaces_of_head (by rcases hc with rfl | rfl <;> simp [isSpace])]
  rcases hc with rfl | rfl <;> simp [readValue?, hread]

theorem moreDigits?_append {ds : List Char} (hds : ∀ d ∈ ds, d.isDigit = true) {c : Char}
    (hdigit : c.isDigit = false) (hjoin : c ≠ '_') (rest : List Char) :
    moreDigits? Char.isDigit (ds ++ c :: rest) = some (ds, c :: rest) := by
  induction ds with
  | nil =>
    unfold moreDigits?
    split <;> simp_all
  | cons d ds ih =>
    have hd : d.isDigit = true := hds d (by simp)
    have hjoined : d ≠ '_' := by
      rintro rfl
      exact absurd hd (by decide)
    rw [List.cons_append, moreDigits?.eq_def]
    split <;> simp_all

def EndsCount (c : Char) : Prop :=
  c.isDigit = false ∧ c ∉ ['_', '.', 'e', 'E', 'x', 'o', 'b', '-', ':']

theorem endsCount_of_mem {c : Char} (h : c ∈ [' ', '\t', '#', '\n', '\r']) : EndsCount c := by
  simp only [List.mem_cons, List.not_mem_nil, or_false] at h
  rcases h with rfl | rfl | rfl | rfl | rfl <;> exact ⟨rfl, by decide⟩

theorem wholeDigits?_digitChars (n : Nat) {c : Char} (hc : EndsCount c) (rest : List Char) :
    wholeDigits? (Decimal.digitChars n ++ c :: rest) = some (Decimal.digitChars n, c :: rest) := by
  obtain ⟨d, ds, hds⟩ := List.exists_cons_of_ne_nil (Decimal.digitChars_ne_nil n)
  have hdigits : ∀ x ∈ d :: ds, x.isDigit = true := by
    rw [← hds]
    exact fun x hx => Decimal.isDigit_of_mem_digitChars hx
  by_cases hzero : d = '0'
  · subst hzero
    obtain rfl := Decimal.eq_zero_of_digitChars_eq hds
    rfl
  · have hmore := moreDigits?_append (fun x hx => hdigits x (List.mem_cons_of_mem d hx)) hc.1
      (by simpa using fun h : c = '_' => hc.2 (by simp [h])) rest
    rw [hds, List.cons_append]
    unfold wholeDigits?
    split
    · rename_i heq
      exact absurd (List.cons.inj heq).1 hzero
    · simp [someDigits?, hdigits d (by simp), hmore]

theorem readDecimal?_digitChars {n : Nat} (hn : (n : Int) ≤ Decimal.largestWord) {c : Char}
    (hc : EndsCount c) (rest : List Char) :
    readDecimal? false (Decimal.digitChars n ++ c :: rest) = some (.integer n, c :: rest) := by
  have hsmall : Decimal.smallestWord ≤ (n : Int) := by
    have : Decimal.smallestWord ≤ 0 := by decide
    omega
  have hmark : c ∉ ['.', 'e', 'E'] := fun h => hc.2 (by simp at h ⊢; tauto)
  simp only [List.mem_cons, List.not_mem_nil, or_false, not_or] at hmark
  obtain ⟨hpoint, he, hE⟩ := hmark
  have hplaces : readPlaces? (c :: rest) = some ([], c :: rest) := by
    unfold readPlaces?
    split <;> simp_all
  have hexponent : readExponent? (c :: rest) = some (0, c :: rest) := by
    simp [readExponent?, he, hE]
  simp [readDecimal?, wholeDigits?_digitChars n hc rest, hplaces, hexponent, integer?, hsmall, hn]

theorem readNumber?_digitChars {n : Nat} (hn : (n : Int) ≤ Decimal.largestWord) {c : Char}
    (hc : EndsCount c) (rest : List Char) :
    readNumber? (Decimal.digitChars n ++ c :: rest) = some (.integer n, c :: rest) := by
  have hread := readDecimal?_digitChars hn hc rest
  obtain ⟨d, ds, hds⟩ := List.exists_cons_of_ne_nil (Decimal.digitChars_ne_nil n)
  have hdigit : d.isDigit = true := Decimal.isDigit_of_mem_digitChars (n := n) (by simp [hds])
  -- A zero stands alone, so that no base can follow it.
  have hbase : ∀ x ∈ ['x', 'o', 'b'], ∀ more, d :: ds ++ c :: rest ≠ '0' :: x :: more := by
    intro x hx more heq
    obtain ⟨rfl, htail⟩ := List.cons.inj heq
    obtain rfl := Decimal.eq_zero_of_digitChars_eq hds
    obtain rfl : ds = [] := (List.cons.inj hds).2.symm
    obtain ⟨rfl, -⟩ := List.cons.inj htail
    simp only [List.mem_cons, List.not_mem_nil, or_false] at hx
    rcases hx with rfl | rfl | rfl <;> exact hc.2 (by simp)
  have hsign : Decimal.readSign (d :: ds ++ c :: rest) = (false, d :: ds ++ c :: rest) := by
    unfold Decimal.readSign
    split
    · rename_i heq
      exact absurd (List.cons.inj heq).1 (ne_of_isDigit hdigit rfl)
    · rename_i heq
      exact absurd (List.cons.inj heq).1 (ne_of_isDigit hdigit rfl)
    · rfl
  rw [hds] at hread ⊢
  unfold readNumber?
  split
  · rename_i heq
    exact absurd heq (hbase 'x' (by simp) _)
  · rename_i heq
    exact absurd heq (hbase 'o' (by simp) _)
  · rename_i heq
    exact absurd heq (hbase 'b' (by simp) _)
  · rw [hsign]
    split
    · rename_i heq
      exact absurd (List.cons.inj (Prod.mk.inj heq).2).1 (ne_of_isDigit hdigit rfl)
    · rename_i heq
      exact absurd (List.cons.inj (Prod.mk.inj heq).2).1 (ne_of_isDigit hdigit rfl)
    · rename_i heq
      obtain ⟨rfl, rfl⟩ := Prod.mk.inj heq
      exact hread

theorem readNumberOrDate?_digitChars {n : Nat} (hn : (n : Int) ≤ Decimal.largestWord) {c : Char}
    (hc : EndsCount c) (rest : List Char) :
    readNumberOrDate? (Decimal.digitChars n ++ c :: rest) = some (.integer n, c :: rest) := by
  have hspan : (Decimal.digitChars n ++ c :: rest).span Char.isDigit =
      (Decimal.digitChars n, c :: rest) :=
    span_append (fun _ h => Decimal.isDigit_of_mem_digitChars h) (by simpa using hc.1)
  unfold readNumberOrDate?
  rw [hspan]
  split
  · rename_i heq
    obtain ⟨rfl, -⟩ := List.cons.inj (Prod.mk.inj heq).2
    exact absurd hc.2 (by simp)
  · rename_i heq
    obtain ⟨rfl, -⟩ := List.cons.inj (Prod.mk.inj heq).2
    exact absurd hc.2 (by simp)
  · exact readNumber?_digitChars hn hc rest

theorem denotes_count {n : Nat} (hn : (n : Int) ≤ Decimal.largestWord) :
    Denotes (Decimal.digitChars n) (.integer n) := by
  intro fuel e rest
  obtain ⟨c, more, htail, hc⟩ := e.head_text rest
  have hread := readNumberOrDate?_digitChars hn (endsCount_of_mem hc) more
  obtain ⟨d, ds, hds⟩ := List.exists_cons_of_ne_nil (Decimal.digitChars_ne_nil n)
  have hdigit : d.isDigit = true := Decimal.isDigit_of_mem_digitChars (n := n) (by simp [hds])
  have hspace : isSpace d = false := by
    simp [isSpace, ne_of_isDigit hdigit (c := ' ') rfl, ne_of_isDigit hdigit (c := '\t') rfl]
  rw [hds, List.cons_append] at hread
  rw [htail, hds, List.cons_append, skipSpaces_of_head (by simpa using hspace)]
  unfold readValue?
  split
  all_goals rename_i heq
  case h_5 =>
    obtain ⟨rfl, rfl⟩ := List.cons.inj heq
    have hquote : ¬(d = '"' || d = '\'') = true := by
      simp [ne_of_isDigit hdigit (c := '"') rfl, ne_of_isDigit hdigit (c := '\'') rfl]
    rw [if_neg hquote, hread]
  case h_6 => cases heq
  all_goals exact absurd (List.cons.inj heq).1 (ne_of_isDigit hdigit rfl)

/-- Line after line is read up to the end of the document. -/
def Reads (header : List String) (root : Entries) (cs : List Char) (result : Entries) : Prop :=
  ∀ fuel, cs.length < fuel → readLines? fuel header root cs = some result

theorem Reads.nil : Reads header root [] root := by
  intro fuel hfuel
  obtain ⟨fuel, rfl⟩ : ∃ n, fuel = n + 1 := ⟨fuel - 1, by omega⟩
  rfl

theorem Reads.remark (e : LineEnd) (h : Reads header root rest result) :
    Reads header root (e.text ++ rest) result := by
  intro fuel hfuel
  obtain ⟨fuel, rfl⟩ : ∃ n, fuel = n + 1 := ⟨fuel - 1, by omega⟩
  obtain ⟨c, more, hskip, hc⟩ := e.head_skipSpaces_text rest
  have hlength := e.length_pos
  have hrest : readLines? fuel header root rest = some result := by
    apply h
    simp only [List.length_append] at hfuel
    omega
  have hend : endLine? (c :: more) = some rest := by
    rw [← hskip, ← e.endLine?_text rest]
    simp [endLine?]
  unfold readLines?
  rw [hskip]
  rcases hc with rfl | rfl | rfl <;> simp [hend, hrest]

theorem readKeys?_name {name : String} (hname : IsBareKey name) (cs : List Char) :
    readKeys? (name.toList ++ ']' :: cs) = some (([], name), ']' :: cs) := by
  have hskip : skipSpaces (']' :: cs) = ']' :: cs := skipSpaces_of_head (by simp [isSpace])
  have hend : ∀ c ∈ (']' :: cs).head?, isBare c = false := by
    simp
    decide
  have hread := readPath?_of_isBareKey hname 78 hend (by simp [hskip])
  rwa [hskip] at hread

theorem Reads.opened {name : String} (hname : IsBareKey name) (indent : Blanks) (e : LineEnd)
    (hopen : openTable [] name root = some root') (h : Reads [name] root' rest result) :
    Reads header root (indent.1 ++ '[' :: (name.toList ++ ']' :: (e.text ++ rest))) result := by
  intro fuel hfuel
  obtain ⟨fuel, rfl⟩ : ∃ n, fuel = n + 1 := ⟨fuel - 1, by omega⟩
  have hrest : readLines? fuel [name] root' rest = some result := by
    apply h
    simp only [List.length_append, List.length_cons] at hfuel
    omega
  have hskip : skipSpaces (indent.1 ++ '[' :: (name.toList ++ ']' :: (e.text ++ rest))) =
      '[' :: (name.toList ++ ']' :: (e.text ++ rest)) := by
    rw [skipSpaces_blanks, skipSpaces_of_head (by simp [isSpace])]
  have hkeys := readKeys?_name hname (e.text ++ rest)
  unfold readLines?
  rw [hskip]
  split
  · rename_i h
    cases h
  · rename_i more heq
    rw [List.cons.injEq] at heq
    cases hchars : name.toList with
    | nil => exact absurd hchars hname.1
    | cons d ds =>
      rw [hchars] at heq
      obtain rfl : d = '[' := by simpa using congrArg List.head? heq.2
      exact absurd (hname.2 '[' (by simp [hchars])) (by decide)
  · rename_i heq
    rw [List.cons.injEq] at heq
    obtain rfl := heq.2
    simp [hkeys, hopen, pass?, e.endLine?_text, hrest]
  · rename_i hheader hplain heq
    rw [List.cons.injEq] at heq
    exact absurd heq.1.symm hplain

theorem readKeys?_key {key : String} (hkey : IsBareKey key) (before : Blanks) (cs : List Char) :
    readKeys? (key.toList ++ (before.1 ++ '=' :: cs)) = some (([], key), '=' :: cs) := by
  have hskip : skipSpaces (before.1 ++ '=' :: cs) = '=' :: cs := by
    rw [skipSpaces_blanks, skipSpaces_of_head (by simp [isSpace])]
  have hend : ∀ c ∈ (before.1 ++ '=' :: cs).head?, isBare c = false := by
    intro c hc
    cases hblanks : before.1 with
    | nil =>
      obtain rfl : '=' = c := by simpa [hblanks] using hc
      decide
    | cons d ds =>
      obtain rfl : d = c := by simpa [hblanks] using hc
      by_contra hbare
      have hspace := isSpace_of_isBare (by simpa using hbare)
      exact absurd (before.2 d (by simp [hblanks])) (by simp [hspace])
  have hread := readPath?_of_isBareKey hkey 78 hend (by simp [hskip])
  rwa [hskip] at hread

/-- A key and its value are added under the header above them. -/
theorem Reads.keyed {key : String} (hkey : IsBareKey key) {written : List Char} {value : Value}
    (hvalue : Denotes written value) (indent before : Blanks) (e : LineEnd)
    (hadd : addUnder header [] key value root = some root') (h : Reads header root' rest result) :
    Reads header root
      (indent.1 ++ (key.toList ++ (before.1 ++ '=' :: (written ++ (e.text ++ rest))))) result := by
  intro fuel hfuel
  obtain ⟨fuel, rfl⟩ : ∃ n, fuel = n + 1 := ⟨fuel - 1, by omega⟩
  have hlength := e.length_pos
  have hrest : readLines? fuel header root' rest = some result := by
    apply h
    simp only [List.length_append, List.length_cons] at hfuel
    omega
  have hkeys := readKeys?_key hkey before (written ++ (e.text ++ rest))
  have hread := fun fuel => hvalue fuel e rest
  have hend := e.endLine?_text rest
  obtain ⟨d, ds, hchars⟩ := List.exists_cons_of_ne_nil hkey.1
  have hd : isBare d = true := hkey.2 d (by simp [hchars])
  have hother : ∀ c, isBare c = false → d ≠ c := by
    rintro c hc rfl
    rw [hd] at hc
    cases hc
  have hbracket := hother '[' (by decide)
  have hplain : ¬(d = '#' || d = '\n' || d = '\r') = true := by
    simp [hother '#' (by decide), hother '\n' (by decide), hother '\r' (by decide)]
  rw [hchars, List.cons_append] at hkeys ⊢
  unfold readLines?
  rw [skipSpaces_blanks, skipSpaces_of_head (by simpa using isSpace_of_isBare hd)]
  split
  · rename_i heq
    cases heq
  · rename_i heq
    exact absurd (List.cons.inj heq).1 hbracket
  · rename_i heq
    exact absurd (List.cons.inj heq).1 hbracket
  · rename_i heq
    obtain ⟨rfl, rfl⟩ := List.cons.inj heq
    rw [if_neg hplain, hkeys]
    simp [pass?, hread, hadd, hend, hrest]

theorem put_append {key : String} {entries : Entries} (h : entries.lookup key = none) (value : Value)
    (more : Entries) : put key value (entries ++ more) = entries ++ put key value more := by
  induction entries with
  | nil => rfl
  | cons entry entries ih =>
    obtain ⟨k, v⟩ := entry
    simp only [List.lookup_cons] at h
    split at h
    · cases h
    · rename_i hk
      have hne : k ≠ key := by
        rintro rfl
        simp at hk
      simp [put, hne, ih h]

theorem put_of_new {key : String} {entries : Entries} (h : entries.lookup key = none)
    (value : Value) : put key value entries = entries ++ [(key, value)] := by
  simpa [put] using put_append h value []

theorem put_last {key : String} {entries : Entries} (h : entries.lookup key = none)
    (old value : Value) : put key value (entries ++ [(key, old)]) = entries ++ [(key, value)] := by
  simpa [put] using put_append h value [(key, old)]

theorem lookup_last {key : String} {entries : Entries} (h : entries.lookup key = none)
    (value : Value) : (entries ++ [(key, value)]).lookup key = some value := by
  simp [List.lookup_append, h]

theorem openTable_of_new {name : String} (h : root.lookup name = none) :
    openTable [] name root = some (root ++ [(name, .table .header [])]) := by
  simp [openTable, descend, h, put_of_new h]

theorem addUnder_last {name key : String} {sub : Entries} (hroot : root.lookup name = none)
    (hsub : sub.lookup key = none) (value : Value) :
    addUnder [name] [] key value (root ++ [(name, .table .header sub)]) =
      some (root ++ [(name, .table .header (sub ++ [(key, value)]))]) := by
  simp [addUnder, descend, addEntry, lookup_last hroot, hsub, put_last hroot, put_of_new hsub]

theorem readLines?_mark (fuel : Nat) (cs : List Char) :
    readLines? fuel header root ('\uFEFF' :: cs) = none := by
  cases fuel with
  | zero => rfl
  | succ fuel =>
    have hskip : skipSpaces ('\uFEFF' :: cs) = '\uFEFF' :: cs :=
      skipSpaces_of_head (by simp [isSpace])
    have hkeys : ∀ limit, readPath? (limit + 1) ('\uFEFF' :: cs) = none := by
      intro limit
      simp only [readPath?, hskip, readKey?]
      rfl
    unfold readLines?
    rw [hskip]
    simp [readKeys?, depthLimit, hkeys 78]

theorem read?_of_reads {s : String} (h : Reads [] [] s.toList result) : read? s = some result := by
  have hlines := h (s.toList.length + 1) (Nat.lt_succ_self _)
  unfold read?
  split
  · rename_i cs hcs
    rw [hcs, readLines?_mark] at hlines
    cases hlines
  · exact hlines

end MetricSeries.Toml

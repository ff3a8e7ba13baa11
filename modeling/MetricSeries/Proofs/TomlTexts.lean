import Mathlib
import MetricSeries.Toml.Text
import MetricSeries.Proofs.Digits

set_option autoImplicit false

namespace MetricSeries.Toml

theorem isShown_of_not_isControl {c : Char} (hcontrol : isControl c = false) (hline : c ≠ '\n') :
    isShown c = true := by
  unfold isControl at hcontrol
  unfold isShown
  by_cases htab : c = '\t'
  · simp [htab]
  · simp [htab, hline] at hcontrol ⊢
    omega

theorem toNat_lt_of_isControl {c : Char} (h : isControl c = true) : c.toNat < 16 ^ 4 := by
  unfold isControl at h
  simp at h
  omega

theorem escape_cases (c : Char) :
    (∃ letter, escape c = ['\\', letter] ∧ unescape? letter = some c) ∨
    (∃ a b d e, escape c = ['\\', 'u', a, b, d, e] ∧ charOfHex? [a, b, d, e] = some c) ∨
    (escape c = [c] ∧ c ≠ '\\' ∧ isControl c = false) := by
  by_cases hletter : c ∈ ['\x08', '\t', '\x0c', '\r', '\\']
  · simp only [List.mem_cons, List.not_mem_nil, or_false] at hletter
    rcases hletter with rfl | rfl | rfl | rfl | rfl
    all_goals exact .inl ⟨_, rfl, rfl⟩
  · simp only [List.mem_cons, List.not_mem_nil, or_false, not_or] at hletter
    obtain ⟨hback, htab, hfeed, hreturn, hslash⟩ := hletter
    have hescape : escape c =
        if isControl c then '\\' :: 'u' :: (Text.hexDigits 4 c.toNat).map Char.toUpper else [c] := by
      unfold escape
      split <;> simp_all
    cases hcontrol : isControl c with
    | true =>
      obtain ⟨a, b, d, e, hdigits, hread⟩ := Text.exists_hexDigits (f := Char.toUpper) c
        (toNat_lt_of_isControl hcontrol) (Text.hexNumber?_map_toUpper_hexDigits 4 c.toNat)
      refine .inr (.inl ⟨a, b, d, e, ?_, ?_⟩)
      · rw [hescape, if_pos hcontrol, hdigits]
      · simp [charOfHex?, hread, Text.charOfNumber?_toNat]
    | false => exact .inr (.inr ⟨by simp [hescape, hcontrol], hslash, rfl⟩)

theorem escape_ne_nil (c : Char) : escape c ≠ [] := by
  rcases escape_cases c with ⟨letter, h, -⟩ | ⟨a, b, d, e, h, -⟩ | ⟨h, -, -⟩ <;> simp [h]

theorem head_escape_ne {c : Char} (hquote : c ≠ '"') : ∀ d ∈ (escape c).head?, d ≠ '"' := by
  rcases escape_cases c with ⟨letter, h, -⟩ | ⟨a, b, d, e, h, -⟩ | ⟨h, -, -⟩ <;> simp [h, hquote]

theorem readBasic_letter {letter c : Char} (h : unescape? letter = some c) (rest : List Char) :
    readBasic ('\\' :: letter :: rest) = consText c (readBasic rest) := by
  unfold unescape? at h
  split at h
  all_goals first | (cases h; rfl) | cases h

theorem readBasic_escape {c : Char} (hquote : c ≠ '"') (hline : c ≠ '\n') (rest : List Char) :
    readBasic (escape c ++ rest) = consText c (readBasic rest) := by
  rcases escape_cases c with ⟨letter, h, hread⟩ | ⟨a, b, d, e, h, hread⟩ | ⟨h, hslash, hcontrol⟩
  · rw [h]
    exact readBasic_letter hread rest
  · rw [h]
    simp only [List.cons_append, List.nil_append, readBasic, hread]
  · have hshown := isShown_of_not_isControl hcontrol hline
    rw [h, List.singleton_append, readBasic.eq_def]
    split <;> simp_all

theorem readBasic_escapeAll (run : Nat) (cs rest : List Char) :
    readBasic (escapeAll 0 false run cs ++ '"' :: rest) = some (cs, rest) := by
  induction cs generalizing run with
  | nil => rfl
  | cons c cs ih =>
    unfold escapeAll
    by_cases hquote : c = '"'
    · subst hquote
      simp [readBasic, unescape?, ih, consText]
    · by_cases hline : c = '\n'
      · subst hline
        simp [readBasic, unescape?, ih, consText]
      · rw [if_neg hquote, if_neg hline, List.append_assoc, readBasic_escape hquote hline, ih]
        rfl

theorem readLiteral_append {cs : List Char} (hcs : ∀ c ∈ cs, isShown c = true ∧ c ≠ '\'')
    (rest : List Char) : readLiteral (cs ++ '\'' :: rest) = some (cs, rest) := by
  induction cs with
  | nil => rfl
  | cons c cs ih =>
    obtain ⟨hshown, hquote⟩ := hcs c (by simp)
    have htail := ih fun d hd => hcs d (by simp [hd])
    rw [List.cons_append, readLiteral.eq_def]
    split <;> simp_all [consText]

theorem read_quotes (quote : Char) (count : Nat) {rest : List Char}
    (hrest : ∀ c ∈ rest.head?, c ≠ quote) :
    Quotes.read quote (List.replicate count quote ++ rest) =
      if count = 0 then .none
      else if count < 3 then .inside count rest
      else if count ≤ 5 then .closing (count - 3) rest
      else .tooMany := by
  have hspan : (List.replicate count quote ++ rest).span (· = quote) =
      (List.replicate count quote, rest) :=
    span_append (by simp) (by simpa using hrest)
  unfold Quotes.read
  rw [hspan]
  cases count with
  | zero => simp
  | succ count => simp [List.replicate_succ]

theorem read_quotes_of_ne {quote c : Char} (h : c ≠ quote) (rest : List Char) :
    Quotes.read quote (c :: rest) = .none :=
  read_quotes quote 0 (by simpa using h)

theorem lineEnd?_cons {c : Char} (hline : c ≠ '\n') (hreturn : c ≠ '\r') (rest : List Char) :
    lineEnd? (c :: rest) = none := by
  unfold lineEnd?
  split <;> simp_all

/-- A reader for texts on several lines.  Up to two quotes in a row belong to the text, three end it,
and up to two of the text may stand right before these. -/
structure ReadsLong (read : Nat → List Char → TextRead) (quote : Char) : Prop where
  inside {count : Nat} (fuel : Nat) {rest : List Char} : 0 < count → count ≤ 2 →
    (∀ c ∈ rest.head?, c ≠ quote) → read (fuel + 1) (List.replicate count quote ++ rest) =
      (read fuel rest).map fun (text, rest) => (List.replicate count quote ++ text, rest)
  closing {count : Nat} (fuel : Nat) {rest : List Char} : count ≤ 2 →
    (∀ c ∈ rest.head?, c ≠ quote) → read (fuel + 1) (List.replicate (count + 3) quote ++ rest) =
      some (List.replicate count quote, rest)

theorem readsLong_basic : ReadsLong readLongBasic '"' where
  inside {count} fuel {rest} hpositive hcount hrest := by
    have hread := read_quotes '"' count hrest
    rw [if_neg (by omega), if_pos (by omega)] at hread
    simp only [readLongBasic, hread]
  closing {count} fuel {rest} hcount hrest := by
    have hread := read_quotes '"' (count + 3) hrest
    rw [if_neg (by omega), if_neg (by omega), if_pos (by omega), Nat.add_sub_cancel] at hread
    simp only [readLongBasic, hread]

theorem readsLong_literal : ReadsLong readLongLiteral '\'' where
  inside {count} fuel {rest} hpositive hcount hrest := by
    have hread := read_quotes '\'' count hrest
    rw [if_neg (by omega), if_pos (by omega)] at hread
    simp only [readLongLiteral, hread]
  closing {count} fuel {rest} hcount hrest := by
    have hread := read_quotes '\'' (count + 3) hrest
    rw [if_neg (by omega), if_neg (by omega), if_pos (by omega), Nat.add_sub_cancel] at hread
    simp only [readLongLiteral, hread]

theorem ReadsLong.step {read : Nat → List Char → TextRead} {quote c : Char}
    (hlong : ReadsLong read quote) {written : List Char} (hne : written ≠ [])
    (hhead : ∀ d ∈ written.head?, d ≠ quote)
    (hread : ∀ fuel rest, read (fuel + 1) (written ++ rest) = consText c (read fuel rest))
    {bound : Nat} {more cs rest : List Char}
    (hmore : ∀ fuel, bound ≤ fuel → read fuel more = some (cs, rest)) {count fuel : Nat}
    (hcount : count ≤ 2) (hfuel : count + written.length + bound ≤ fuel) :
    read fuel (List.replicate count quote ++ (written ++ more)) =
      some (List.replicate count quote ++ c :: cs, rest) := by
  have hlength := List.length_pos_iff.2 hne
  by_cases hzero : count = 0
  · subst hzero
    obtain ⟨fuel, rfl⟩ : ∃ n, fuel = n + 1 := ⟨fuel - 1, by omega⟩
    simp [hread, hmore fuel (by omega), consText]
  · obtain ⟨fuel, rfl⟩ : ∃ n, fuel = n + 1 + 1 := ⟨fuel - 2, by omega⟩
    have hfirst : ∀ d ∈ (written ++ more).head?, d ≠ quote := by
      rw [List.head?_append_of_ne_nil _ hne]
      exact hhead
    rw [hlong.inside _ (by omega) hcount hfirst, hread, hmore fuel (by omega)]
    rfl

theorem ReadsLong.end {read : Nat → List Char → TextRead} {quote : Char}
    (hlong : ReadsLong read quote) {rest : List Char} (hrest : ∀ c ∈ rest.head?, c ≠ quote)
    {count fuel : Nat} (hcount : count ≤ 2) (hfuel : 0 < fuel) :
    read fuel (List.replicate count quote ++ (quote :: quote :: quote :: rest)) =
      some (List.replicate count quote, rest) := by
  obtain ⟨fuel, rfl⟩ : ∃ n, fuel = n + 1 := ⟨fuel - 1, by omega⟩
  have hclosing := hlong.closing fuel hcount hrest
  rw [List.replicate_add, List.append_assoc] at hclosing
  exact hclosing

theorem readLongBasic_letter {letter c : Char} (h : unescape? letter = some c) (fuel : Nat)
    (rest : List Char) :
    readLongBasic (fuel + 1) ('\\' :: letter :: rest) = consText c (readLongBasic fuel rest) := by
  have hquotes := read_quotes_of_ne (show '\\' ≠ '"' by decide) (letter :: rest)
  unfold unescape? at h
  split at h
  all_goals first | (cases h; simp only [readLongBasic, hquotes]; rfl) | cases h

theorem readLongBasic_escape {c : Char} (hquote : c ≠ '"') (hline : c ≠ '\n') (fuel : Nat)
    (rest : List Char) :
    readLongBasic (fuel + 1) (escape c ++ rest) = consText c (readLongBasic fuel rest) := by
  rcases escape_cases c with ⟨letter, h, hread⟩ | ⟨a, b, d, e, h, hread⟩ | ⟨h, hslash, hcontrol⟩
  · rw [h]
    exact readLongBasic_letter hread fuel rest
  · have hquotes := read_quotes_of_ne (show '\\' ≠ '"' by decide)
    rw [h]
    simp only [List.cons_append, List.nil_append, readLongBasic, hquotes, hread]
  · have hshown := isShown_of_not_isControl hcontrol hline
    have hreturn : c ≠ '\r' := by
      rintro rfl
      exact absurd hcontrol (by decide)
    have hquotes := read_quotes_of_ne hquote rest
    have hend := lineEnd?_cons hline hreturn rest
    rw [h, List.singleton_append]
    simp only [readLongBasic, hquotes]
    split <;> simp_all

theorem readLongBasic_line (fuel : Nat) (rest : List Char) :
    readLongBasic (fuel + 1) (['\n'] ++ rest) = consText '\n' (readLongBasic fuel rest) := by
  have hquotes := read_quotes_of_ne (show '\n' ≠ '"' by decide) rest
  simp only [List.singleton_append, readLongBasic, hquotes]
  rfl

theorem readLongBasic_escapeAll (cs : List Char) {rest : List Char}
    (hrest : ∀ c ∈ rest.head?, c ≠ '"') {count : Nat} (hcount : count ≤ 2) {fuel : Nat}
    (hfuel : count + (escapeAll 2 true count cs).length + 1 ≤ fuel) :
    readLongBasic fuel (List.replicate count '"' ++
        (escapeAll 2 true count cs ++ ('"' :: '"' :: '"' :: rest))) =
      some (List.replicate count '"' ++ cs, rest) := by
  -- The quotes that were met last wait for what follows them: more of them, or the end.
  induction cs generalizing count fuel with
  | nil =>
    rw [List.append_nil]
    exact readsLong_basic.end hrest hcount (by omega)
  | cons c cs ih =>
    have hmore := fun fuel (h : 0 + (escapeAll 2 true 0 cs).length + 1 ≤ fuel) =>
      ih (Nat.zero_le 2) h
    simp only [List.replicate_zero, List.nil_append] at hmore
    have hother {written : List Char}
        (hcons : escapeAll 2 true count (c :: cs) = written ++ escapeAll 2 true 0 cs)
        (hne : written ≠ []) (hhead : ∀ d ∈ written.head?, d ≠ '"')
        (hread : ∀ fuel rest,
          readLongBasic (fuel + 1) (written ++ rest) = consText c (readLongBasic fuel rest)) :
        readLongBasic fuel (List.replicate count '"' ++
            (escapeAll 2 true count (c :: cs) ++ ('"' :: '"' :: '"' :: rest))) =
          some (List.replicate count '"' ++ c :: cs, rest) := by
      rw [hcons, List.length_append] at hfuel
      rw [hcons, List.append_assoc]
      exact readsLong_basic.step hne hhead hread hmore hcount (by omega)
    by_cases hquote : c = '"'
    · subst hquote
      by_cases hspare : count < 2
      · have hcons : escapeAll 2 true count ('"' :: cs) = '"' :: escapeAll 2 true (count + 1) cs := by
          simp [escapeAll, hspare]
        rw [hcons] at hfuel ⊢
        have hbound : count + 1 + (escapeAll 2 true (count + 1) cs).length + 1 ≤ fuel := by
          simp only [List.length_cons] at hfuel
          omega
        have hread := ih (show count + 1 ≤ 2 by omega) hbound
        rw [List.replicate_succ'] at hread
        simpa using hread
      · have hcons : escapeAll 2 true count ('"' :: cs) = ['\\', '"'] ++ escapeAll 2 true 0 cs := by
          simp [escapeAll, hspare]
        exact hother hcons (by simp) (by simp) (readLongBasic_letter rfl)
    · by_cases hline : c = '\n'
      · subst hline
        have hcons : escapeAll 2 true count ('\n' :: cs) = ['\n'] ++ escapeAll 2 true 0 cs := by
          simp [escapeAll]
        exact hother hcons (by simp) (by simp) readLongBasic_line
      · have hcons : escapeAll 2 true count (c :: cs) = escape c ++ escapeAll 2 true 0 cs := by
          simp [escapeAll, hquote, hline]
        exact hother hcons (escape_ne_nil c) (head_escape_ne hquote)
          (readLongBasic_escape hquote hline)

theorem le_longestRun (c : Char) (run best : Nat) (cs : List Char) :
    best ≤ longestRun c run best cs := by
  induction cs generalizing run best with
  | nil => exact Nat.le_refl best
  | cons d cs ih =>
    unfold longestRun
    split
    · exact Nat.le_trans (Nat.le_max_left _ _) (ih _ _)
    · exact ih _ _

theorem longestRun_pos {c : Char} {cs : List Char} (h : c ∈ cs) (run best : Nat) :
    0 < longestRun c run best cs := by
  induction cs generalizing run best with
  | nil => cases h
  | cons d cs ih =>
    unfold longestRun
    split
    · have hbest := le_longestRun c (run + 1) (max best (run + 1)) cs
      omega
    · rename_i hd
      rcases List.mem_cons.1 h with rfl | hcs
      · exact absurd rfl hd
      · exact ih hcs _ _

theorem readLongLiteral_cons {c : Char} (hcontrol : isControl c = false) (hquote : c ≠ '\'')
    (fuel : Nat) (rest : List Char) :
    readLongLiteral (fuel + 1) ([c] ++ rest) = consText c (readLongLiteral fuel rest) := by
  have hquotes := read_quotes_of_ne hquote rest
  simp only [List.singleton_append, readLongLiteral, hquotes]
  by_cases hline : c = '\n'
  · subst hline
    rfl
  · have hreturn : c ≠ '\r' := by
      rintro rfl
      exact absurd hcontrol (by decide)
    simp [lineEnd?_cons hline hreturn, isShown_of_not_isControl hcontrol hline]

theorem readLongLiteral_append {cs : List Char} (hcontrol : ∀ c ∈ cs, isControl c = false)
    {rest : List Char} (hrest : ∀ c ∈ rest.head?, c ≠ '\'') {count best : Nat} (hcount : count ≤ 2)
    (hruns : longestRun '\'' count best cs ≤ 2) {fuel : Nat}
    (hfuel : count + cs.length + 1 ≤ fuel) :
    readLongLiteral fuel (List.replicate count '\'' ++ (cs ++ ('\'' :: '\'' :: '\'' :: rest))) =
      some (List.replicate count '\'' ++ cs, rest) := by
  induction cs generalizing count best fuel with
  | nil =>
    rw [List.append_nil]
    exact readsLong_literal.end hrest hcount (by omega)
  | cons c cs ih =>
    have hafter := fun d hd => hcontrol d (List.mem_cons_of_mem c hd)
    unfold longestRun at hruns
    rw [List.length_cons] at hfuel
    by_cases hquote : c = '\''
    · subst hquote
      rw [if_pos rfl] at hruns
      have hbest := le_longestRun '\'' (count + 1) (max best (count + 1)) cs
      have hread := ih hafter (show count + 1 ≤ 2 by omega) hruns
        (show count + 1 + cs.length + 1 ≤ fuel by omega)
      rw [List.replicate_succ'] at hread
      simpa using hread
    · rw [if_neg hquote] at hruns
      have hmore := fun fuel (h : 0 + cs.length + 1 ≤ fuel) => ih hafter (Nat.zero_le 2) hruns h
      simp only [List.replicate_zero, List.nil_append] at hmore
      have hread := readLongLiteral_cons (hcontrol c (by simp)) hquote
      exact readsLong_literal.step (List.cons_ne_nil c []) (by simpa using hquote) hread hmore hcount
        (by simp only [List.length_singleton]; omega)

theorem lineEnd?_of_head {cs : List Char} (h : ∀ c ∈ cs.head?, c ≠ '\n' ∧ c ≠ '\r') :
    lineEnd? cs = none := by
  cases cs with
  | nil => rfl
  | cons c cs => exact lineEnd?_cons (h c rfl).1 (h c rfl).2 cs

theorem skipLineEnd_lines {cs : List Char} {line : Bool}
    (h : line = false → ∀ c ∈ cs.head?, c ≠ '\n' ∧ c ≠ '\r') :
    skipLineEnd ((if line then ['\n'] else []) ++ cs) = cs := by
  cases line with
  | true => rfl
  | false =>
    have hnone := lineEnd?_of_head (h rfl)
    simp [skipLineEnd, hnone]

theorem head_escapeAll {cs : List Char} (hline : '\n' ∉ cs) (spare run : Nat) (keepLines : Bool)
    {rest : List Char} (hrest : ∀ c ∈ rest.head?, c ≠ '\n' ∧ c ≠ '\r') :
    ∀ c ∈ (escapeAll spare keepLines run cs ++ rest).head?, c ≠ '\n' ∧ c ≠ '\r' := by
  cases cs with
  | nil => exact hrest
  | cons d cs =>
    have hd : d ≠ '\n' := by
      rintro rfl
      exact hline (by simp)
    unfold escapeAll
    rw [if_neg hd]
    split
    · split <;> simp
    · rcases escape_cases d with ⟨letter, h, -⟩ | ⟨a, b, e, f, h, -⟩ | ⟨h, -, hcontrol⟩
      · simp [h]
      · simp [h]
      · have hreturn : d ≠ '\r' := by
          rintro rfl
          exact absurd hcontrol (by decide)
        simp [h, hd, hreturn]

theorem Needs.of_quoting_literal {n : Needs} (h : n.quoting = .literal) :
    n.control = false ∧ n.single = 0 ∧ n.line = false ∧ (n.backslash = true ∨ n.double ≠ 0) := by
  unfold quoting at h
  grind

theorem Needs.of_quoting_longLiteral {n : Needs} (h : n.quoting = .longLiteral) :
    n.control = false ∧ n.single ≤ 2 := by
  unfold quoting at h
  grind

theorem Needs.control_of {cs : List Char} (h : (Needs.of cs).control = false) :
    ∀ c ∈ cs, isControl c = false := by
  simpa [Needs.of] using h

theorem Needs.line_of {cs : List Char} (h : (Needs.of cs).line = false) : '\n' ∉ cs := by
  simpa [Needs.of] using h

theorem readText?_double {cs : List Char} (h : ∀ c ∈ cs.head?, c ≠ '"') :
    readText? ('"' :: cs) = readBasic cs := by
  rw [readText?.eq_def]
  split <;> simp_all

theorem readText?_single {cs : List Char} (h : ∀ c ∈ cs.head?, c ≠ '\'') :
    readText? ('\'' :: cs) = readLiteral cs := by
  rw [readText?.eq_def]
  split <;> simp_all

theorem head_escapeAll_cons (run : Nat) (c : Char) (cs rest : List Char) :
    ∀ d ∈ (escapeAll 0 false run (c :: cs) ++ rest).head?, d ≠ '"' := by
  unfold escapeAll
  by_cases hquote : c = '"'
  · simp [hquote]
  · by_cases hline : c = '\n'
    · simp [hline]
    · rw [if_neg hquote, if_neg hline, List.append_assoc,
        List.head?_append_of_ne_nil _ (escape_ne_nil c)]
      exact head_escape_ne hquote

theorem readText?_escapeAll (cs : List Char) {rest : List Char} (h : ∀ c ∈ rest.head?, c ≠ '"') :
    readText? ('"' :: (escapeAll 0 false 0 cs ++ '"' :: rest)) = some (cs, rest) := by
  have hread := readBasic_escapeAll 0 cs rest
  cases cs with
  | nil =>
    cases rest with
    | nil => rfl
    | cons c rest =>
      have hc := h c rfl
      simp [escapeAll, readText?, hc, readBasic]
  | cons c cs => rw [readText?_double (head_escapeAll_cons 0 c cs ('"' :: rest)), hread]

theorem readText?_literal {cs : List Char} (h : (Needs.of cs).quoting = .literal)
    (rest : List Char) : readText? ('\'' :: (cs ++ '\'' :: rest)) = some (cs, rest) := by
  obtain ⟨hcontrol, hzero, hline, hwhy⟩ := Needs.of_quoting_literal h
  have hquote : '\'' ∉ cs := fun hmem => (longestRun_pos hmem 0 0).ne' hzero
  have hshown : ∀ c ∈ cs, isShown c = true ∧ c ≠ '\'' := by
    intro c hc
    refine ⟨isShown_of_not_isControl (Needs.control_of hcontrol c hc) ?_, ?_⟩
    · rintro rfl
      exact Needs.line_of hline hc
    · rintro rfl
      exact hquote hc
  cases cs with
  | nil => simp [Needs.of, longestRun] at hwhy
  | cons c cs =>
    have hhead : ∀ d ∈ (c :: cs ++ '\'' :: rest).head?, d ≠ '\'' := by
      simpa using (hshown c (by simp)).2
    exact (readText?_single hhead).trans (readLiteral_append hshown rest)

theorem readText?_longEscapeAll (cs : List Char) {rest : List Char}
    (h : ∀ c ∈ rest.head?, c ≠ '"') :
    readText? ('"' :: '"' :: '"' :: ((if (Needs.of cs).line then ['\n'] else []) ++
      (escapeAll 2 true 0 cs ++ ('"' :: '"' :: '"' :: rest)))) = some (cs, rest) := by
  have hend : ∀ c ∈ ('"' :: '"' :: '"' :: rest).head?, c ≠ '\n' ∧ c ≠ '\r' := by simp
  simp only [readText?]
  rw [skipLineEnd_lines fun hline => head_escapeAll (Needs.line_of hline) 2 0 true hend]
  exact readLongBasic_escapeAll cs h (Nat.zero_le 2) (by simp; omega)

theorem readText?_longLiteral {cs : List Char} (h : (Needs.of cs).quoting = .longLiteral)
    {rest : List Char} (hrest : ∀ c ∈ rest.head?, c ≠ '\'') :
    readText? ('\'' :: '\'' :: '\'' :: ((if (Needs.of cs).line then ['\n'] else []) ++
      (cs ++ ('\'' :: '\'' :: '\'' :: rest)))) = some (cs, rest) := by
  obtain ⟨hcontrol, hruns⟩ := Needs.of_quoting_longLiteral h
  have hplain := Needs.control_of hcontrol
  have hhead : (Needs.of cs).line = false →
      ∀ c ∈ (cs ++ '\'' :: '\'' :: '\'' :: rest).head?, c ≠ '\n' ∧ c ≠ '\r' := by
    intro hline c hc
    cases cs with
    | nil =>
      obtain rfl : '\'' = c := by simpa using hc
      decide
    | cons d cs =>
      obtain rfl : d = c := by simpa using hc
      refine ⟨?_, ?_⟩
      · rintro rfl
        exact Needs.line_of hline (by simp)
      · rintro rfl
        exact absurd (hplain '\r' (by simp)) (by decide)
  simp only [readText?]
  rw [skipLineEnd_lines hhead]
  exact readLongLiteral_append hplain hrest (Nat.zero_le 2) hruns (by simp; omega)

/-- Every text is read back from the quotes that it is written in. -/
theorem readText?_writeText (s : String) {rest : List Char}
    (hrest : ∀ c ∈ rest.head?, c ≠ '"' ∧ c ≠ '\'') :
    readText? (writeText s ++ rest) = some (s.toList, rest) := by
  have hdouble := fun c hc => (hrest c hc).1
  have hsingle := fun c hc => (hrest c hc).2
  unfold writeText
  cases hquoting : (Needs.of s.toList).quoting with
  | basic =>
    simp only [hquoting]
    simpa using readText?_escapeAll s.toList hdouble
  | literal =>
    simp only [hquoting]
    simpa using readText?_literal hquoting rest
  | longBasic =>
    simp only [hquoting]
    simpa using readText?_longEscapeAll s.toList hdouble
  | longLiteral =>
    simp only [hquoting]
    simpa using readText?_longLiteral hquoting hsingle

end MetricSeries.Toml

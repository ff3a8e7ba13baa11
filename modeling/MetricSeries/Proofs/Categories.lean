import Mathlib
import MetricSeries.Text.Class

set_option autoImplicit false

namespace MetricSeries.Text

def cutRuns : List Char → List Char × List (Char × List Char)
  | [] => ([], [])
  | c :: cs =>
    if c.isUpper then ([], (c, (cutRuns cs).1) :: (cutRuns cs).2)
    else (c :: (cutRuns cs).1, (cutRuns cs).2)

def runCode (run : Char × List Char) : List Char :=
  run.1 :: run.2.filter fun c => !c.isDigit

def runLength (run : Char × List Char) : Nat :=
  if run.2.filter Char.isDigit = [] then 1 else Nat.ofDigitChars 10 (run.2.filter Char.isDigit) 0

theorem length_of_digits {ds : List Char} (h : ∀ d ∈ ds, d.isDigit = true) :
    (String.ofList ds).toNat?.getD 1 = if ds = [] then 1 else Nat.ofDigitChars 10 ds 0 := by
  by_cases hds : ds = []
  · have hnat : (String.ofList ds).isNat = false := by
      rw [Bool.eq_false_iff, ne_eq, String.isNat_iff]
      simp [hds]
    rw [if_pos hds, String.toNat?_eq_none hnat, Option.getD_none]
  · have hnat : (String.ofList ds).isNat = true := by
      apply String.isNat_of_isDigit
      · simpa using hds
      · simpa using h
    have hplain : ds.filter (fun c => c != '_') = ds := by
      refine List.filter_eq_self.2 fun d hd => ?_
      have hne : d ≠ '_' := by
        rintro rfl
        exact absurd (h _ hd) (by decide)
      simpa using hne
    rw [if_neg hds, String.toNat?_eq_some_ofDigitChars hnat, String.toList_ofList, hplain,
      Option.getD_some]

def runStep (runs : List (String × String)) (c : Char) : List (String × String) :=
  match runs with
  | (code, count) :: rest =>
    if c.isUpper then (String.singleton c, "") :: runs
    else if c.isDigit then (code, count.push c) :: rest
    else (code.push c, count) :: rest
  | [] => [(String.singleton c, "")]

def runTexts (run : Char × List Char) : String × String :=
  (String.ofList (runCode run), String.ofList (run.2.filter Char.isDigit))

theorem foldl_runStep (cs : List Char) (code count : List Char) (rest : List (String × String)) :
    cs.foldl runStep ((String.ofList code, String.ofList count) :: rest) =
      ((cutRuns cs).2.map runTexts).reverse ++
        (String.ofList (code ++ (cutRuns cs).1.filter fun c => !c.isDigit),
          String.ofList (count ++ (cutRuns cs).1.filter Char.isDigit)) :: rest := by
  induction cs generalizing code count rest with
  | nil => simp [cutRuns]
  | cons c cs ih =>
    by_cases hupper : c.isUpper = true
    · have hstep : runStep ((String.ofList code, String.ofList count) :: rest) c =
          (String.ofList [c], String.ofList []) ::
            (String.ofList code, String.ofList count) :: rest := by
        simp [runStep, hupper]
      rw [List.foldl_cons, hstep, ih]
      simp [cutRuns, hupper, runTexts, runCode]
    · by_cases hdigit : c.isDigit = true
      · have hstep : runStep ((String.ofList code, String.ofList count) :: rest) c =
            (String.ofList code, String.ofList (count ++ [c])) :: rest := by
          simp [runStep, hupper, hdigit]
        rw [List.foldl_cons, hstep, ih]
        simp [cutRuns, hupper, hdigit]
      · have hstep : runStep ((String.ofList code, String.ofList count) :: rest) c =
            (String.ofList (code ++ [c]), String.ofList count) :: rest := by
          simp [runStep, hupper, hdigit]
        rw [List.foldl_cons, hstep, ih]
        simp [cutRuns, hupper, hdigit]

theorem readRuns_cons (c : Char) (cs : List Char) :
    readRuns (c :: cs) = ((c, (cutRuns cs).1) :: (cutRuns cs).2).map fun run =>
      (Category.ofCode (String.ofList (runCode run)), runLength run) := by
  have hfold : (c :: cs).foldl runStep [] =
      (((c, (cutRuns cs).1) :: (cutRuns cs).2).map runTexts).reverse := by
    have hfirst := foldl_runStep cs [c] [] []
    rw [List.foldl_cons]
    simpa [runTexts, runCode, runStep] using hfirst
  have hread : readRuns (c :: cs) = ((c :: cs).foldl runStep []).reverse.map
      fun run => (Category.ofCode run.1, run.2.toNat?.getD 1) := rfl
  rw [hread, hfold, List.reverse_reverse, List.map_map]
  refine List.map_congr_left fun run _ => ?_
  have hdigits : ∀ d ∈ run.2.filter Char.isDigit, d.isDigit = true := fun d hd =>
    (List.mem_filter.1 hd).2
  simp [runTexts, length_of_digits hdigits, runLength]

def reachesDigits (n : Nat) : List (Char × List Char) → Bool
  | [] => false
  | run :: runs =>
    if n < runLength run then runCode run == ['N', 'd'] else reachesDigits (n - runLength run) runs

theorem ofCode_eq_decimalNumber_iff (code : String) :
    Category.ofCode code = .decimalNumber ↔ code = "Nd" := by
  unfold Category.ofCode
  split <;> simp_all

theorem reached_eq_decimalNumber_iff (runs : List (Char × List Char)) (n : Nat) :
    Category.reached n (runs.map fun run =>
      (Category.ofCode (String.ofList (runCode run)), runLength run)) = .decimalNumber ↔
      reachesDigits n runs = true := by
  induction runs generalizing n with
  | nil => simp [Category.reached, reachesDigits]
  | cons run runs ih =>
    have hcode : String.ofList (runCode run) = "Nd" ↔ runCode run = ['N', 'd'] :=
      String.ofList_inj
    simp only [List.map_cons, Category.reached, reachesDigits]
    split
    · rw [ofCode_eq_decimalNumber_iff, hcode, beq_iff_eq]
    · exact ih _

def wideBlanks : List Nat :=
  [0x85, 0xA0, 0x1680, 0x2000, 0x2001, 0x2002, 0x2003, 0x2004, 0x2005, 0x2006, 0x2007, 0x2008,
    0x2009, 0x200A, 0x2028, 0x2029, 0x202F, 0x205F, 0x3000]

theorem exists_tableChars :
    ∃ lines, List.Forall₂ (fun line cs => line = String.ofList cs) categoryLines lines ∧
      ∃ c cs, lines.flatten = c :: cs ∧
        ∀ n ∈ wideBlanks, reachesDigits n ((c, (cutRuns cs).1) :: (cutRuns cs).2) = false := by
  -- The characters come from the literals themselves: to decode a literal would take far longer.
  apply Exists.intro
  apply And.intro
  · unfold categoryLines
    dsimp only
    repeat' first
      | exact List.Forall₂.nil
      | apply List.Forall₂.cons
      | exact Eq.refl (String.ofList _)
  · refine ⟨_, _, List.flatten_cons.trans (List.cons_append), ?_⟩
    decide +kernel

theorem toList_join_eq_flatten {lines : List String} {css : List (List Char)}
    (h : List.Forall₂ (fun line cs => line = String.ofList cs) lines css) :
    (String.join lines).toList = css.flatten := by
  rw [String.toList_join]
  induction h with
  | nil => rfl
  | cons hline _ ih => rw [List.flatMap_cons, ih, hline, String.toList_ofList, List.flatten_cons]

theorem category_ne_decimalNumber {c : Char} (h : c.toNat ∈ wideBlanks) :
    category c ≠ .decimalNumber := by
  obtain ⟨lines, hlines, d, ds, hchars, hblanks⟩ := exists_tableChars
  unfold category categoryRuns
  rw [toList_join_eq_flatten hlines, hchars, readRuns_cons, ne_eq, reached_eq_decimalNumber_iff,
    hblanks _ h]
  exact Bool.false_ne_true

theorem mem_wideBlanks {c : Char} (h : isBlank c = true) (hwide : isAscii c = false) :
    c.toNat ∈ wideBlanks := by
  simp only [isBlank, isAscii, Bool.or_eq_true, Bool.and_eq_true, decide_eq_true_eq,
    decide_eq_false_iff_not] at h hwide
  simp only [wideBlanks, List.mem_cons, List.not_mem_nil, or_false]
  omega

theorem isDecimalDigit_of_isBlank {c : Char} (h : isBlank c = true) : isDecimalDigit c = false := by
  unfold isDecimalDigit
  cases hascii : isAscii c with
  | true =>
    have hdigit : ¬c.isDigit = true := by
      simp only [isBlank, Bool.or_eq_true, Bool.and_eq_true, decide_eq_true_eq] at h
      rw [Char.isDigit_iff_toNat, show '0'.toNat = 48 from rfl, show '9'.toNat = 57 from rfl]
      simp only [isAscii, decide_eq_true_eq] at hascii
      omega
    simpa using hdigit
  | false => simpa using category_ne_decimalNumber (mem_wideBlanks h hascii)

end MetricSeries.Text

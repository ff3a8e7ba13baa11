import Mathlib
import MetricSeries.Decimal.Read
import MetricSeries.Text.Hex

set_option autoImplicit false

namespace MetricSeries

theorem span_append {β : Type} {p : β → Bool} {xs rest : List β} (hxs : ∀ x ∈ xs, p x = true)
    (hrest : ∀ x ∈ rest.head?, p x = false) : (xs ++ rest).span p = (xs, rest) := by
  rw [List.span_eq_takeWhile_dropWhile, List.takeWhile_append_of_pos hxs,
    List.dropWhile_append_of_pos hxs]
  cases rest with
  | nil => simp
  | cons x rest =>
    have hx : p x = false := hrest x rfl
    simp [hx]

theorem span_self {β : Type} {p : β → Bool} {xs : List β} (hxs : ∀ x ∈ xs, p x = true) :
    xs.span p = (xs, []) := by
  have h := span_append hxs (show ∀ x ∈ ([] : List β).head?, p x = false by simp)
  rwa [List.append_nil] at h

theorem ne_of_isDigit {d : Char} (hd : d.isDigit = true) {c : Char} (hc : c.isDigit = false) :
    d ≠ c :=
  ne_of_apply_ne Char.isDigit (by simp [hd, hc])

namespace Decimal

@[simp] theorem digitChars_ne_nil (n : Nat) : digitChars n ≠ [] :=
  Nat.toDigits_ne_nil

theorem isDigit_of_mem_digitChars {n : Nat} {c : Char} (h : c ∈ digitChars n) : c.isDigit = true :=
  Nat.isDigit_of_mem_toDigits (by decide) (by decide) h

@[simp] theorem natOfDigits_digitChars (n : Nat) : natOfDigits (digitChars n) = n :=
  Nat.ofDigitChars_ten_toDigits

theorem toList_natText (n : Nat) : (natText n).toList = digitChars n := by
  simp [natText]

theorem digitChars_of_ge {n : Nat} (h : 10 ≤ n) :
    digitChars n = digitChars (n / 10) ++ [(n % 10).digitChar] := by
  unfold digitChars
  rw [Nat.toDigits_eq_if (by decide), if_neg (by omega)]

theorem eq_zero_of_digitChars_eq {n : Nat} {ds : List Char} (h : digitChars n = '0' :: ds) :
    n = 0 := by
  induction n using Nat.strongRecOn generalizing ds with
  | ind n ih =>
    by_cases hn : n < 10
    · rw [digitChars, Nat.toDigits_of_lt_base hn] at h
      interval_cases n <;> simp_all [Nat.digitChar]
    · rw [digitChars_of_ge (by omega)] at h
      cases hds : digitChars (n / 10) with
      | nil => exact absurd hds (digitChars_ne_nil _)
      | cons d ds' =>
        rw [hds, List.cons_append, List.cons.injEq] at h
        have hzero := ih (n / 10) (by omega) (h.1 ▸ hds)
        omega

end Decimal

namespace Text

theorem hexValue?_digitChar : ∀ d < 16, hexValue? d.digitChar = some d := by decide

theorem hexValue?_toUpper_digitChar : ∀ d < 16, hexValue? d.digitChar.toUpper = some d := by decide

theorem hexNumber?_map_toDigits {f : Char → Char}
    (hf : ∀ d < 16, hexValue? (f d.digitChar) = some d) (n : Nat) :
    hexNumber? ((Nat.toDigits 16 n).map f) = some n := by
  induction n using Nat.strongRecOn with
  | ind n ih =>
    unfold hexNumber? at *
    rw [Nat.toDigits_eq_if (by decide)]
    by_cases hn : n < 16
    · simp [if_pos hn, hf n hn]
    · have hdigit := hf (n % 16) (by omega)
      have hhead := ih (n / 16) (by omega)
      rw [if_neg hn, List.map_append, List.foldlM_append, hhead]
      simp [hdigit]
      omega

theorem hexNumber?_replicate_append {f : Char → Char} (hzero : hexValue? (f '0') = some 0) (k : Nat)
    (ds : List Char) : hexNumber? ((List.replicate k '0' ++ ds).map f) = hexNumber? (ds.map f) := by
  unfold hexNumber?
  induction k with
  | zero => rfl
  | succ k ih => simpa [List.replicate_succ, hzero] using ih

theorem hexNumber?_hexDigits (width n : Nat) : hexNumber? (hexDigits width n) = some n := by
  have hzeros := hexNumber?_replicate_append (f := id) (by decide)
    (width - (Nat.toDigits 16 n).length) (Nat.toDigits 16 n)
  have hdigits := hexNumber?_map_toDigits (f := id) hexValue?_digitChar n
  rw [hdigits, List.map_id] at hzeros
  exact hzeros

theorem hexNumber?_map_toUpper_hexDigits (width n : Nat) :
    hexNumber? ((hexDigits width n).map Char.toUpper) = some n := by
  have hzeros := hexNumber?_replicate_append (f := Char.toUpper) (by decide)
    (width - (Nat.toDigits 16 n).length) (Nat.toDigits 16 n)
  rw [hexNumber?_map_toDigits hexValue?_toUpper_digitChar] at hzeros
  exact hzeros

theorem length_hexDigits {width n : Nat} (hwidth : 0 < width) (h : n < 16 ^ width) :
    (hexDigits width n).length = width := by
  have hlength := (Nat.length_toDigits_le_iff (b := 16) (by decide) hwidth).2 h
  simp only [hexDigits, List.length_append, List.length_replicate]
  omega

theorem charOfNumber?_toNat (c : Char) : charOfNumber? c.toNat = some c := by
  have hvalid : c.toNat.isValidChar := c.valid
  unfold charOfNumber?
  rw [dif_pos hvalid]
  rfl

theorem exists_hexDigits {f : Char → Char} (c : Char) (hc : c.toNat < 16 ^ 4)
    (hread : hexNumber? ((hexDigits 4 c.toNat).map f) = some c.toNat) :
    ∃ a b d e, (hexDigits 4 c.toNat).map f = [a, b, d, e] ∧ hexNumber? [a, b, d, e] = some c.toNat := by
  have hlength : ((hexDigits 4 c.toNat).map f).length = 4 := by
    rw [List.length_map, length_hexDigits (by decide) hc]
  obtain ⟨a, b, d, e, hdigits⟩ := List.length_eq_four.1 hlength
  exact ⟨a, b, d, e, hdigits, hdigits ▸ hread⟩

end Text

end MetricSeries

import Mathlib
import MetricSeries.Proofs.Exact

set_option autoImplicit false

namespace MetricSeries

/-- Numbers are written without parentheses. -/
class PlainNumbers (α : Type) [NumberText α] : Prop where
  not_mem_plain : ∀ x : α, '(' ∉ (NumberText.plain x).toList
  not_mem_exact : ∀ x : α, '(' ∉ (NumberText.exact x).toList

namespace Decimal

theorem not_mem_digitChars (n : Nat) : '(' ∉ digitChars n := by
  intro h
  have hdigit := Nat.isDigit_of_mem_toDigits (by decide) (by decide) h
  revert hdigit
  decide

theorem not_mem_natText (n : Nat) : '(' ∉ (natText n).toList := by
  simpa [natText] using not_mem_digitChars n

theorem not_mem_intText (n : Int) : '(' ∉ (intText n).toList := by
  cases n with
  | ofNat n => exact not_mem_natText n
  | negSucc n => simpa [intText] using not_mem_natText (n + 1)

theorem not_mem_positionalText (keepsPoint : Bool) (s : Scaled) :
    '(' ∉ (positionalText keepsPoint s).toList := by
  have hdigits := not_mem_digitChars s.digits
  unfold positionalText
  dsimp only
  generalize ((digitChars s.digits).length : Int) + s.exponent = point
  split
  · cases keepsPoint <;> simp [hdigits]
  · split
    · have htake : '(' ∉ (digitChars s.digits).take point.toNat :=
        fun h => hdigits (List.mem_of_mem_take h)
      have hdrop : '(' ∉ (digitChars s.digits).drop point.toNat :=
        fun h => hdigits (List.mem_of_mem_drop h)
      simp [htake, hdrop]
    · simp [hdigits]

theorem not_mem_exponentText {sign : String} (hsign : '(' ∉ sign.toList) (s : Scaled) :
    '(' ∉ (exponentText sign s).toList := by
  have hdigits := not_mem_digitChars s.digits
  unfold exponentText
  dsimp only
  generalize ((digitChars s.digits).length : Int) - 1 + s.exponent = e
  generalize digitChars s.digits = ds at *
  have hexponent := not_mem_intText e
  have hshown : '(' ∉ (if 0 ≤ e then sign else "").toList := by
    split
    · exact hsign
    · simp
  -- A point stands behind the first of several digits.
  rcases ds with _ | ⟨d, _ | ⟨d', ds⟩⟩
  · simp [hexponent, hshown]
  · simpa [hexponent, hshown] using hdigits
  · simpa [hexponent, hshown] using hdigits

theorem Layout.not_mem_magnitude {l : Layout} (hsign : '(' ∉ l.exponentSign.toList) (s : Scaled) :
    '(' ∉ (l.magnitude s).toList := by
  have heither : ∀ positional : Bool, '(' ∉ (if positional then positionalText l.keepsPoint s
      else exponentText l.exponentSign s).toList := by
    intro positional
    cases positional with
    | true => exact not_mem_positionalText _ _
    | false => exact not_mem_exponentText hsign _
  unfold Layout.magnitude
  by_cases hzero : s.digits = 0
  · rw [if_pos hzero]
    exact not_mem_positionalText _ _
  · rw [if_neg hzero]
    exact heither _

theorem Layout.not_mem_render {l : Layout} (hsign : '(' ∉ l.exponentSign.toList)
    (hwords : '(' ∉ l.notANumber.toList ∧ '(' ∉ l.infinite.toList ∧ '(' ∉ l.negInfinite.toList)
    (x : Float) : '(' ∉ (l.render x).toList := by
  obtain ⟨hnone, hinfinite, hneg⟩ := hwords
  unfold Layout.render
  split
  · exact hnone
  · split
    · exact hneg
    · exact hinfinite
  · rename_i neg m q _
    have hmagnitude := l.not_mem_magnitude hsign
    cases neg <;> simp [hmagnitude]

end Decimal

instance : PlainNumbers Float where
  not_mem_plain := Decimal.Layout.not_mem_render (by decide) (by decide)
  not_mem_exact := Decimal.Layout.not_mem_render (by decide) (by decide)

instance : PlainNumbers ℝ where
  not_mem_plain x := Decimal.not_mem_intText ⌊x⌋
  not_mem_exact x := by
    show '(' ∉ (Decimal.intText ⌊x⌋ ++ ".0").toList
    simpa using Decimal.not_mem_intText ⌊x⌋

end MetricSeries

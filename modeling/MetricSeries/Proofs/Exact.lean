import Mathlib
import MetricSeries.Bands
import MetricSeries.Decimal.Double
import MetricSeries.Decimal.Read

set_option autoImplicit false

namespace MetricSeries

noncomputable instance : Rounding ℝ where
  floor x := (⌊x⌋ : ℤ)
  ceil x := (⌈x⌉ : ℤ)
  whole x := Decimal.clampWord (if 0 ≤ x then ⌊x⌋ else ⌈x⌉)

noncomputable instance : SquareRoot ℝ := ⟨Real.sqrt⟩

noncomputable instance : Arith ℝ where
  decideLT := inferInstance

/-- A decimal number under an optional sign has its own value; there is nothing that is infinite
or no number. -/
noncomputable def parseExact? (s : String) : Option ℝ :=
  let (neg, cs) := Decimal.readSign s.toList
  (Decimal.readUnsigned cs).map fun (m, e) =>
    if neg then -((m : ℝ) * 10 ^ e) else (m : ℝ) * 10 ^ e

noncomputable instance exactText : NumberText ℝ where
  plain x := Decimal.intText ⌊x⌋
  exact x := Decimal.intText ⌊x⌋ ++ ".0"
  json? x := some (Decimal.intText ⌊x⌋)
  parse? := parseExact?
  scaled? m e := some ((m : ℝ) * 10 ^ e)

theorem parseExact?_of_digits {s : String} {m : Nat}
    (hsign : Decimal.readSign s.toList = (false, s.toList))
    (hm : Decimal.readUnsigned s.toList = some (m, 0)) : parseExact? s = some (m : ℝ) := by
  unfold parseExact?
  rw [hsign]
  simp [hm]

theorem parseFactors_of_digits {s : String} {m : Nat} (hpieces : Text.pieces ':' s = [s])
    (htrim : Text.trim s = s) (hsign : Decimal.readSign s.toList = (false, s.toList))
    (hm : Decimal.readUnsigned s.toList = some (m, 0)) :
    parseFactors s = .ok (⟨m, m⟩ : BandFactors ℝ) := by
  have hread : NumberText.parse? s = some (m : ℝ) := parseExact?_of_digits hsign hm
  have hpart : parseFactorPart s = .ok (m : ℝ) := by
    unfold parseFactorPart
    rw [htrim, hread]
  unfold parseFactors
  rw [hpieces]
  dsimp only
  rw [hpart]
  rfl

end MetricSeries

import Mathlib
import MetricSeries.Samples.Line
import MetricSeries.Proofs.Scaling

/-!
Lines of least squares over exact numbers.  A line whose residuals balance around the points, by
themselves and by their moments, has the least sum of squares, and any other line has more by the
squares of what lies between the two.  The fitted line balances, so all that is known of it follows.
-/

set_option autoImplicit false

namespace MetricSeries

section
variable {ι F : Type} [Field F]

theorem sum_map_sub (list : List ι) (f g : ι → F) :
    (list.map fun i => f i - g i).sum = (list.map f).sum - (list.map g).sum := by
  simpa using Multiset.sum_map_sub (m := (list : Multiset ι)) (f := f) (g := g)

end

namespace Line

variable {F : Type} [Field F]

/-- How far a point lies above the line. -/
def residual (l : Line F) (p : F × F) : F :=
  p.2 - l.value p.1

def squaredError (l : Line F) (points : List (F × F)) : F :=
  (points.map fun p => l.residual p ^ 2).sum

/-- Residuals that sum to nothing, by themselves and times the first coordinates. -/
structure Balanced (l : Line F) (points : List (F × F)) : Prop where
  sum : (points.map l.residual).sum = 0
  moment : (points.map fun p => l.residual p * p.1).sum = 0

namespace Balanced

variable {l : Line F} {points : List (F × F)} (h : l.Balanced points)
include h

theorem sum_mul_value (other : Line F) :
    (points.map fun p => l.residual p * other.value p.1).sum = 0 := by
  have hsplit : ∀ p : F × F, l.residual p * other.value p.1 =
      other.slope * (l.residual p * p.1) + other.intercept * l.residual p := by
    intro p
    unfold value
    ring
  simp only [hsplit, List.sum_map_add, List.sum_map_mul_left, h.sum, h.moment, mul_zero, add_zero]

/-- The squares of another line are more by the squares of what lies between the lines. -/
theorem squaredError_eq (other : Line F) :
    other.squaredError points =
      l.squaredError points + (points.map fun p => (l.value p.1 - other.value p.1) ^ 2).sum := by
  have hsplit : ∀ p : F × F, other.residual p ^ 2 = l.residual p ^ 2 +
      (l.value p.1 - other.value p.1) ^ 2 +
      2 * (l.residual p * l.value p.1 - l.residual p * other.value p.1) := by
    intro p
    unfold residual
    ring
  unfold squaredError
  simp only [hsplit, List.sum_map_add, List.sum_map_mul_left, sum_map_sub, h.sum_mul_value,
    sub_zero, mul_zero, add_zero]

end Balanced

section
variable [LinearOrder F] [IsStrictOrderedRing F] {l : Line F} {points : List (F × F)}

theorem sum_squares_nonneg {ι : Type} (list : List ι) (f : ι → F) :
    0 ≤ (list.map fun i => f i ^ 2).sum :=
  List.sum_nonneg (List.forall_mem_map.2 fun i _ => sq_nonneg (f i))

theorem eq_zero_of_sum_squares {ι : Type} {list : List ι} {f : ι → F}
    (h : (list.map fun i => f i ^ 2).sum = 0) {i : ι} (hi : i ∈ list) : f i = 0 := by
  have hnonneg : ∀ x ∈ list.map fun i => f i ^ 2, 0 ≤ x :=
    List.forall_mem_map.2 fun i _ => sq_nonneg (f i)
  have hzero := List.all_zero_of_le_zero_le_of_sum_eq_zero hnonneg h
    (List.mem_map_of_mem (f := fun i => f i ^ 2) hi)
  exact pow_eq_zero_iff two_ne_zero |>.1 hzero

theorem Balanced.squaredError_le (h : l.Balanced points) (other : Line F) :
    l.squaredError points ≤ other.squaredError points := by
  rw [h.squaredError_eq other]
  exact le_add_of_nonneg_right (sum_squares_nonneg points _)

theorem eq_of_value_eq {l other : Line F} {x y : F} (hne : x ≠ y) (hx : l.value x = other.value x)
    (hy : l.value y = other.value y) : l = other := by
  obtain ⟨a, b⟩ := l
  obtain ⟨c, d⟩ := other
  unfold value at hx hy
  dsimp only at hx hy
  have hslope : (a - c) * (x - y) = 0 := by linear_combination hx - hy
  obtain rfl : a = c := by
    rcases mul_eq_zero.1 hslope with h | h
    · exact sub_eq_zero.1 h
    · exact absurd (sub_eq_zero.1 h) hne
  obtain rfl : b = d := add_left_cancel hx
  rfl

/-- Where two points do not stand above one another, no other line is as near as one that
balances. -/
theorem Balanced.eq_of_squaredError_le (h : l.Balanced points) {p q : F × F} (hp : p ∈ points)
    (hq : q ∈ points) (hne : p.1 ≠ q.1) {other : Line F}
    (hle : other.squaredError points ≤ l.squaredError points) : other = l := by
  have hdistance : (points.map fun p => (l.value p.1 - other.value p.1) ^ 2).sum = 0 := by
    refine le_antisymm ?_ (sum_squares_nonneg points _)
    rw [h.squaredError_eq other] at hle
    exact nonpos_of_add_le_right hle
  have hmeet : ∀ p ∈ points, other.value p.1 = l.value p.1 := fun p hp =>
    (sub_eq_zero.1 (eq_zero_of_sum_squares hdistance hp)).symm
  exact eq_of_value_eq hne (hmeet p hp) (hmeet q hq)

end

theorem mean_eq (xs : List F) : mean xs = xs.sum / (xs.length : F) := by
  unfold mean
  rw [total_eq_sum]

theorem mean_perm {xs ys : List F} (h : xs.Perm ys) : mean xs = mean ys := by
  rw [mean_eq, mean_eq, h.sum_eq, h.length_eq]

theorem sum_sub_mean [CharZero F] {xs : List F} (h : xs ≠ []) :
    (xs.map fun x => x - mean xs).sum = 0 := by
  have hlength : (xs.length : F) ≠ 0 := Nat.cast_ne_zero.2 (mt List.length_eq_zero_iff.1 h)
  rw [sum_map_sub, List.map_const', List.sum_replicate, nsmul_eq_mul, mean_eq, List.map_id',
    mul_div_cancel₀ _ hlength, sub_self]

/-- A line through the middle of the points whose slope takes away their moment. -/
theorem balanced_through {points : List (F × F)} {slope meanX meanY : F}
    (hx : (points.map fun p => p.1 - meanX).sum = 0)
    (hy : (points.map fun p => p.2 - meanY).sum = 0)
    (hslope : slope * (points.map fun p => (p.1 - meanX) * (p.1 - meanX)).sum =
      (points.map fun p => (p.1 - meanX) * (p.2 - meanY)).sum) :
    Balanced ⟨slope, meanY - slope * meanX⟩ points := by
  have hsum : (points.map (residual ⟨slope, meanY - slope * meanX⟩)).sum = 0 := by
    have hsplit : ∀ p : F × F, residual ⟨slope, meanY - slope * meanX⟩ p =
        (p.2 - meanY) - slope * (p.1 - meanX) := by
      intro p
      unfold residual value
      ring
    simp only [funext hsplit, sum_map_sub, List.sum_map_mul_left, hx, hy, mul_zero, sub_zero]
  refine ⟨hsum, ?_⟩
  have hsplit : ∀ p : F × F, residual ⟨slope, meanY - slope * meanX⟩ p * p.1 =
      ((p.1 - meanX) * (p.2 - meanY) - slope * ((p.1 - meanX) * (p.1 - meanX))) +
        meanX * residual ⟨slope, meanY - slope * meanX⟩ p := by
    intro p
    unfold residual value
    ring
  simp only [hsplit, List.sum_map_add, sum_map_sub, List.sum_map_mul_left, hslope, hsum, sub_self,
    mul_zero, add_zero]

section
variable [BEq F] {points : List (F × F)}

def slopeAround (points : List (F × F)) (meanX meanY : F) : F :=
  let sxx := (points.map fun p => (p.1 - meanX) * (p.1 - meanX)).sum
  if sxx == 0 then 0 else (points.map fun p => (p.1 - meanX) * (p.2 - meanY)).sum / sxx

theorem fit?_eq (h : points ≠ []) :
    let meanX := mean (points.map Prod.fst)
    let meanY := mean (points.map Prod.snd)
    let slope := slopeAround points meanX meanY
    fit? points = some ⟨slope, meanY - slope * meanX⟩ := by
  unfold fit? slopeAround
  rw [List.isEmpty_eq_false_iff.2 h]
  simp only [foldl_add_eq_sum, Bool.false_eq_true, if_false]

theorem fit?_perm {points' : List (F × F)} (h : points'.Perm points) :
    fit? points' = fit? points := by
  rcases eq_or_ne points [] with rfl | hne
  · rw [h.eq_nil]
  · have hne' : points' ≠ [] := fun hnil => hne (hnil ▸ h).nil_eq.symm
    have hslope : ∀ meanX meanY, slopeAround points' meanX meanY = slopeAround points meanX meanY := by
      intro meanX meanY
      unfold slopeAround
      rw [(h.map _).sum_eq, (h.map _).sum_eq]
    rw [fit?_eq hne, fit?_eq hne']
    simp only [hslope, mean_perm (h.map Prod.fst), mean_perm (h.map Prod.snd)]

variable [LinearOrder F] [IsStrictOrderedRing F] [LawfulBEq F]

theorem slopeAround_mul (meanX meanY : F) :
    slopeAround points meanX meanY * (points.map fun p => (p.1 - meanX) * (p.1 - meanX)).sum =
      (points.map fun p => (p.1 - meanX) * (p.2 - meanY)).sum := by
  unfold slopeAround
  dsimp only
  split
  · rename_i hzero
    have hsquares : (points.map fun p => (p.1 - meanX) ^ 2).sum = 0 := by
      simpa only [sq] using eq_of_beq hzero
    -- All points stand at the place, and nothing is left of the products either.
    have hproducts : ∀ p ∈ points, (p.1 - meanX) * (p.2 - meanY) = 0 := by
      intro p hp
      rw [eq_zero_of_sum_squares (f := fun p : F × F => p.1 - meanX) hsquares hp, zero_mul]
    rw [zero_mul, List.map_congr_left hproducts]
    simp
  · rename_i hne
    exact div_mul_cancel₀ _ (by simpa using hne)

theorem exists_fit?_balanced (h : points ≠ []) :
    ∃ l, fit? points = some l ∧ l.Balanced points := by
  refine ⟨_, fit?_eq h, balanced_through ?_ ?_ (slopeAround_mul _ _)⟩
  · have hx := sum_sub_mean (F := F) (mt List.map_eq_nil_iff.1 h : points.map Prod.fst ≠ [])
    rwa [List.map_map] at hx
  · have hy := sum_sub_mean (F := F) (mt List.map_eq_nil_iff.1 h : points.map Prod.snd ≠ [])
    rwa [List.map_map] at hy

theorem fit?_of_upright (h : points ≠ []) (hx : ∀ p ∈ points, ∀ q ∈ points, p.1 = q.1) :
    fit? points = some ⟨0, mean (points.map Prod.snd)⟩ := by
  obtain ⟨p, hp⟩ := List.exists_mem_of_ne_nil points h
  have hlength : (points.length : F) ≠ 0 := Nat.cast_ne_zero.2 (mt List.length_eq_zero_iff.1 h)
  have hsame : points.map Prod.fst = List.replicate points.length p.1 := by
    rw [List.map_congr_left fun q hq => hx q hq p hp, List.map_const']
  have hmean : mean (points.map Prod.fst) = p.1 := by
    rw [mean_eq, hsame, List.sum_replicate, List.length_replicate, nsmul_eq_mul,
      mul_div_cancel_left₀ _ hlength]
  have hslope : ∀ meanY, slopeAround points p.1 meanY = 0 := by
    intro meanY
    have hzero : ∀ q ∈ points, (q.1 - p.1) * (q.1 - p.1) = 0 := by
      intro q hq
      rw [hx q hq p hp, sub_self, mul_zero]
    unfold slopeAround
    rw [List.map_congr_left hzero]
    simp
  rw [fit?_eq h]
  simp only [hmean, hslope, zero_mul, sub_zero]

theorem fit?_of_onLine {l : Line F} (hon : ∀ p ∈ points, p.2 = l.value p.1) {p q : F × F}
    (hp : p ∈ points) (hq : q ∈ points) (hne : p.1 ≠ q.1) : fit? points = some l := by
  obtain ⟨fitted, hfit, hbalanced⟩ := exists_fit?_balanced (List.ne_nil_of_mem hp)
  have hexact : l.squaredError points = 0 := by
    have hzero : ∀ r ∈ points, l.residual r ^ 2 = 0 := by
      intro r hr
      unfold residual
      rw [hon r hr, sub_self, zero_pow two_ne_zero]
    unfold squaredError
    rw [List.map_congr_left hzero]
    simp
  have hle : l.squaredError points ≤ fitted.squaredError points := by
    rw [hexact]
    exact sum_squares_nonneg points _
  rw [hfit, hbalanced.eq_of_squaredError_le hp hq hne hle]

/-- A list of points has a fitted line.  No line is nearer to the points, and none is as near unless
they all stand above one another, where the line is level at their mean.  Its residuals sum to
nothing, the order of the points does not matter, and points on one line give that line. -/
theorem fit?_leastSquares (points : List (F × F)) (h : points ≠ []) :
    ∃ l, fit? points = some l ∧
      (∀ other : Line F, l.squaredError points ≤ other.squaredError points) ∧
      ((∃ p ∈ points, ∃ q ∈ points, p.1 ≠ q.1) →
        (∀ other : Line F, other.squaredError points ≤ l.squaredError points → other = l) ∧
        ∀ other : Line F, (∀ p ∈ points, p.2 = other.value p.1) → l = other) ∧
      ((∀ p ∈ points, ∀ q ∈ points, p.1 = q.1) →
        l = ⟨0, (points.map Prod.snd).sum / (points.length : F)⟩) ∧
      (points.map l.residual).sum = 0 ∧
      ∀ points' : List (F × F), points'.Perm points → fit? points' = some l := by
  obtain ⟨l, hfit, hbalanced⟩ := exists_fit?_balanced h
  refine ⟨l, hfit, hbalanced.squaredError_le, ?_, fun hx => ?_, hbalanced.sum, fun points' hperm => ?_⟩
  · rintro ⟨p, hp, q, hq, hne⟩
    refine ⟨fun other hle => hbalanced.eq_of_squaredError_le hp hq hne hle, fun other hon => ?_⟩
    exact Option.some.inj (hfit.symm.trans (fit?_of_onLine hon hp hq hne))
  · have hlevel := hfit.symm.trans (fit?_of_upright h hx)
    rw [mean_eq, List.length_map] at hlevel
    exact Option.some.inj hlevel
  · rw [fit?_perm hperm, hfit]

/-- Three points, two of them above one another: the line goes through their middle. -/
theorem fit?_leastSquares_three :
    let points : List (ℚ × ℚ) := [(0, 1), (2, 4), (2, 6)]
    points ≠ [] ∧ fit? points = some ⟨2, 1⟩ ∧
      (∀ other : Line ℚ, 2 ≤ other.squaredError points) ∧
      (∀ other : Line ℚ, other.squaredError points ≤ 2 → other = ⟨2, 1⟩) ∧
      fit? [(2, 6), (0, 1), (2, 4)] = fit? points := by
  intro points
  have hne : points ≠ [] := by decide
  have hfit : fit? points = some ⟨2, 1⟩ := by decide +kernel
  have herror : squaredError ⟨2, 1⟩ points = 2 := by decide +kernel
  obtain ⟨l, hl, hleast, honly, -, -, hperm⟩ := fit?_leastSquares points hne
  obtain rfl : (⟨2, 1⟩ : Line ℚ) = l := Option.some.inj (hfit.symm.trans hl)
  rw [herror] at hleast
  have hapart : ∃ p ∈ points, ∃ q ∈ points, p.1 ≠ q.1 := by decide
  have honly := (honly hapart).1
  rw [herror] at honly
  exact ⟨hne, hfit, hleast, honly, (hperm _ (by decide)).trans hfit.symm⟩

end

end Line

end MetricSeries

import Mathlib
import MetricSeries.Samples.Percentile

/-!
Comparing samples and setting them in ascending order.  The sample at a position is told by
counting: so many are smaller at most, and one more at least are not greater.  Larger samples make
every position larger.
-/

set_option autoImplicit false

namespace MetricSeries

section
variable {α : Type} [LinearOrder α] [BEq α] [LawfulBEq α]

theorem greater_eq_max (a b : α) : greater a b = max a b := by
  unfold greater
  by_cases h : a < b
  · rw [if_pos h, max_eq_right h.le]
  · rw [if_neg h, if_pos (beq_self_eq_true a), max_eq_left (not_lt.1 h)]

theorem lesser_eq_min (a b : α) : lesser a b = min a b := by
  unfold lesser
  by_cases h : b < a
  · rw [if_pos h, min_eq_right h.le]
  · rw [if_neg h, if_pos (beq_self_eq_true a), min_eq_left (not_lt.1 h)]

end

namespace Samples

@[simp] theorem length_ascending {α : Type} [LT α] [DecidableLT α] (xs : List α) :
    (ascending xs).length = xs.length :=
  List.length_mergeSort xs

variable {α : Type} [LinearOrder α]

theorem ascending_perm (xs : List α) : (ascending xs).Perm xs :=
  List.mergeSort_perm xs _

theorem pairwise_ascending (xs : List α) : (ascending xs).Pairwise (· ≤ ·) := by
  have htrans : ∀ a b c : α, (!decide (b < a)) = true → (!decide (c < b)) = true →
      (!decide (c < a)) = true := by
    simp only [Bool.not_eq_true', decide_eq_false_iff_not, not_lt]
    exact fun a b c => le_trans
  have htotal : ∀ a b : α, (!decide (b < a) || !decide (a < b)) = true := by
    simp only [Bool.or_eq_true, Bool.not_eq_true', decide_eq_false_iff_not, not_lt]
    exact fun a b => le_total a b
  refine (List.pairwise_mergeSort htrans htotal xs).imp fun h => ?_
  simpa using h

theorem ascending_eq_of_perm {xs ys : List α} (h : xs.Perm ys) : ascending xs = ascending ys :=
  ((ascending_perm xs).trans (h.trans (ascending_perm ys).symm)).eq_of_pairwise
    (fun _ _ _ _ => le_antisymm) (pairwise_ascending xs) (pairwise_ascending ys)

section
variable {sorted : List α} (hsorted : sorted.Pairwise (· ≤ ·))
include hsorted

theorem getElem_mono {i j : Nat} (hij : i ≤ j) (hi : i < sorted.length)
    (hj : j < sorted.length) : sorted[i] ≤ sorted[j] := by
  rcases hij.eq_or_lt with rfl | hlt
  · exact le_rfl
  · exact List.pairwise_iff_getElem.1 hsorted i j hi hj hlt

variable {i : Nat} (hi : i < sorted.length)

/-- Samples that are smaller stand in front. -/
theorem countP_lt_getElem_le : sorted.countP (· < sorted[i]) ≤ i := by
  have hrest : (sorted.drop i).countP (· < sorted[i]) = 0 := by
    refine List.countP_eq_zero.2 fun x hx => ?_
    obtain ⟨j, hj, rfl⟩ := List.mem_iff_getElem.1 hx
    rw [List.getElem_drop, decide_eq_true_iff, not_lt]
    exact getElem_mono hsorted (by omega) _ _
  have hfront : (sorted.take i).countP (· < sorted[i]) ≤ i :=
    List.countP_le_length.trans (List.length_take_le i sorted)
  calc sorted.countP (· < sorted[i])
      = (sorted.take i).countP (· < sorted[i]) + (sorted.drop i).countP (· < sorted[i]) := by
        rw [← List.countP_append, List.take_append_drop]
    _ ≤ i := by omega

theorem lt_countP_le_getElem : i < sorted.countP (· ≤ sorted[i]) := by
  have hfront : (sorted.take (i + 1)).countP (· ≤ sorted[i]) = i + 1 := by
    have hlength : (sorted.take (i + 1)).length = i + 1 := List.length_take_of_le hi
    refine (List.countP_eq_length.2 fun x hx => ?_).trans hlength
    obtain ⟨j, hj, rfl⟩ := List.mem_iff_getElem.1 hx
    rw [hlength] at hj
    rw [List.getElem_take, decide_eq_true_iff]
    exact getElem_mono hsorted (by omega) _ hi
  have hall := (List.take_sublist (i + 1) sorted).countP_le (p := (· ≤ sorted[i]))
  omega

end

theorem countP_lt_le_of_forall₂ {xs ys : List α} (h : List.Forall₂ (· ≤ ·) xs ys) (bound : α) :
    ys.countP (· < bound) ≤ xs.countP (· < bound) := by
  induction h with
  | nil => exact le_rfl
  | @cons x y xs ys hxy _ ih =>
    rw [List.countP_cons, List.countP_cons]
    by_cases hy : y < bound
    · simpa [hy, hxy.trans_lt hy] using ih
    · simp only [hy, decide_false]
      exact ih.trans (Nat.le_add_right _ _)

/-- If a position held less than before, too many of the larger samples would lie below what it held
before. -/
theorem ascending_getElem_mono {xs ys : List α} (h : List.Forall₂ (· ≤ ·) xs ys) {i : Nat}
    (hx : i < (ascending xs).length) (hy : i < (ascending ys).length) :
    (ascending xs)[i] ≤ (ascending ys)[i] := by
  by_contra hlt
  rw [not_le] at hlt
  set bound := (ascending xs)[i] with hbound
  have hbelow : i < (ascending ys).countP (· < bound) := by
    calc i < (ascending ys).countP (· ≤ (ascending ys)[i]) :=
          lt_countP_le_getElem (pairwise_ascending ys) hy
      _ ≤ (ascending ys).countP (· < bound) := by
          refine List.countP_mono_left fun y _ hle => ?_
          rw [decide_eq_true_iff] at hle ⊢
          exact hle.trans_lt hlt
  have habove : (ascending xs).countP (· < bound) ≤ i :=
    countP_lt_getElem_le (pairwise_ascending xs) hx
  rw [(ascending_perm ys).countP_eq] at hbelow
  rw [(ascending_perm xs).countP_eq] at habove
  have hcount := countP_lt_le_of_forall₂ h bound
  omega

end Samples

end MetricSeries

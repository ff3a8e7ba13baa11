import Mathlib
import MetricSeries.Operation.Threshold
import MetricSeries.Proofs.Interpolation

set_option autoImplicit false

namespace MetricSeries

namespace Samples

section
variable {α : Type}

theorem forall₂_blank (remove : α → Bool) (xs : Samples α) :
    List.Forall₂ (fun x y => y = x ∨ y = none) xs (blank remove xs) := by
  refine List.forall₂_map_right_iff.2 (List.forall₂_same.2 fun x _ => ?_)
  cases x with
  | none => exact .inr rfl
  | some x => cases h : remove x <;> simp [Option.filter, h]

theorem getElem?_blank_eq_some {remove : α → Bool} {xs : Samples α} {i : Nat} {x : α}
    (h : xs[i]? = some (some x)) : (blank remove xs)[i]? = some (some x) ↔ remove x = false := by
  unfold blank
  rw [List.getElem?_map, h]
  cases hx : remove x <;> simp [Option.filter, hx]

theorem present_blank (remove : α → Bool) (xs : Samples α) :
    (blank remove xs).present = xs.present.filter fun x => !remove x := by
  induction xs with
  | nil => rfl
  | cons x xs ih =>
    unfold blank present at *
    cases x with
    | none => simpa using ih
    | some x => cases hx : remove x <;> simpa [Option.filter, hx] using ih

theorem mem_blank_of_mem {remove : α → Bool} {xs : Samples α} {x : α} (h : x ∈ xs.present)
    (hx : remove x = false) : some x ∈ blank remove xs := by
  rw [← mem_present, present_blank, List.mem_filter]
  exact ⟨h, by rw [hx]; rfl⟩

end

section
variable {α : Type} [LinearOrder α]

theorem holds_above_eq_false {threshold x : α} :
    Side.above.holds threshold x = false ↔ x ≤ threshold := by
  simp [Side.holds]

theorem holds_below_eq_false {threshold x : α} :
    Side.below.holds threshold x = false ↔ threshold ≤ x := by
  simp [Side.holds]

theorem exists_holds_eq_false (threshold x : α) :
    ∃ side : Side, side.holds threshold x = false := by
  rcases le_total x threshold with h | h
  · exact ⟨.above, holds_above_eq_false.2 h⟩
  · exact ⟨.below, holds_below_eq_false.2 h⟩

theorem forall_holds_eq_false {threshold x : α} :
    (∀ side : Side, side.holds threshold x = false) ↔ x = threshold := by
  constructor
  · intro h
    exact le_antisymm (holds_above_eq_false.1 (h .above)) (holds_below_eq_false.1 (h .below))
  · rintro rfl side
    cases side <;> simp [Side.holds]

theorem count_blank_above (threshold : α) (xs : Samples α) :
    (blank (Side.above.holds threshold) xs).count = xs.present.countP (· ≤ threshold) := by
  rw [count, present_blank, ← List.countP_eq_length_filter]
  refine List.countP_congr fun x _ => ?_
  simp [Side.holds]

theorem count_blank_below (threshold : α) (xs : Samples α) :
    (blank (Side.below.holds threshold) xs).count + xs.present.countP (· < threshold) =
      xs.count := by
  rw [count, present_blank, ← List.countP_eq_length_filter, count,
    List.length_eq_countP_add_countP (· < threshold) (l := xs.present), Nat.add_comm]
  congr 1
  refine List.countP_congr fun x _ => ?_
  simp [Side.holds]

end

section
variable {α : Type} [Field α] [LinearOrder α] [Rounding α] [BEq α] {xs : Samples α}
  {p threshold : α}

theorem count_pos_of_percentile? {interpolate : Bool}
    (h : percentile? xs p interpolate = some threshold) : 0 < xs.count := by
  refine Nat.pos_of_ne_zero fun hzero => ?_
  rw [percentile?_eq_none_iff.2 (List.eq_nil_of_length_eq_zero hzero)] at h
  cases h

theorem exists_percentile? (hcount : 0 < xs.count) (p : α) (interpolate : Bool) :
    ∃ threshold, percentile? xs p interpolate = some threshold := by
  refine Option.ne_none_iff_exists'.1 fun hnone => ?_
  have hempty : xs.count = 0 := by rw [count, percentile?_eq_none_iff.1 hnone, List.length_nil]
  omega

variable [IsStrictOrderedRing α] [FloorRing α] (hexact : ExactRanks (fun x : α => x) xs.count)
include hexact

variable [LawfulBEq α]

theorem exists_around_percentile? {interpolate : Bool}
    (h : percentile? xs p interpolate = some threshold) :
    (∃ x ∈ xs.present, x ≤ threshold) ∧ ∃ x ∈ xs.present, threshold ≤ x := by
  have hpos := count_pos_of_percentile? h
  have hlength : (ascending xs.present).length = xs.count := length_ascending _
  have hlength_pos : 0 < (ascending xs.present).length := by omega
  have hmem : ∀ rank, sampleAt (ascending xs.present) rank ∈ xs.present := fun rank =>
    (ascending_perm xs.present).mem_iff.1 (sampleAt_mem hlength_pos rank)
  cases interpolate with
  | false =>
    have hsample := mem_of_percentile?_false h
    exact ⟨⟨_, hsample, le_rfl⟩, ⟨_, hsample, le_rfl⟩⟩
  | true =>
    have hmono := monotone_sampleAt hlength_pos (pairwise_ascending xs.present)
    rw [percentile?_true_eq hexact hpos] at h
    obtain rfl := Option.some.inj h
    exact ⟨⟨_, hmem _, floor_le_between hmono _⟩, ⟨_, hmem _, between_le_ceil hmono _⟩⟩

end

end Samples

section
variable [NumberText ℝ]

/-- In plain mode the exact rank of the percentile tells how many samples survive at least: so many
above, and below those from the rank on. -/
def SurvivorLaw (s : Series ℝ) (p : ℝ) : Prop :=
  let n := Samples.count s.values
  Samples.exactRank p n ≤ Samples.count (removePercentile false .above p s).values ∧
    n + 1 - Samples.exactRank p n ≤ Samples.count (removePercentile false .below p s).values

theorem values_removePercentile {interpolate : Bool} {p threshold : ℝ} {s : Series ℝ}
    (h : Samples.percentile? s.values p interpolate = some threshold) (side : Side) :
    (removePercentile interpolate side p s).values =
      Samples.blank (side.holds threshold) s.values := by
  unfold removePercentile
  rw [h]

theorem forall₂_removePercentile (interpolate : Bool) (side : Side) (p : ℝ) (s : Series ℝ) :
    List.Forall₂ (fun x y => y = x ∨ y = none) s.values
      (removePercentile interpolate side p s).values := by
  cases h : Samples.percentile? s.values p interpolate with
  | none =>
    unfold removePercentile
    rw [h]
    exact List.forall₂_same.2 fun x _ => .inl rfl
  | some threshold =>
    rw [values_removePercentile h]
    exact Samples.forall₂_blank _ _

/-- Each sample survives on one of the sides, and on both only at the percentile. -/
theorem survives_removePercentile {s : Series ℝ} {i : Nat} {x : ℝ}
    (hx : s.values[i]? = some (some x)) (p : ℝ) (interpolate : Bool) :
    (∃ side, (removePercentile interpolate side p s).values[i]? = some (some x)) ∧
      ((∀ side, (removePercentile interpolate side p s).values[i]? = some (some x)) ↔
        Samples.percentile? s.values p interpolate = some x) := by
  have hmem : x ∈ Samples.present s.values := Samples.mem_present.2 (List.mem_of_getElem? hx)
  obtain ⟨threshold, h⟩ :=
    Samples.exists_percentile? (List.length_pos_of_mem hmem) p interpolate
  simp only [values_removePercentile h, Samples.getElem?_blank_eq_some hx]
  refine ⟨Samples.exists_holds_eq_false threshold x, ?_⟩
  rw [Samples.forall_holds_eq_false, h, Option.some.injEq, eq_comm]

section
variable {s : Series ℝ} (hexact : Samples.ExactRanks (fun x : ℝ => x) (Samples.count s.values))
  (hcount : 0 < Samples.count s.values) (p : ℝ)
include hcount

theorem exists_survives_removePercentile :
    ∃ (i : Nat) (x : ℝ), s.values[i]? = some (some x) ∧
      ∀ side, (removePercentile false side p s).values[i]? = some (some x) := by
  obtain ⟨threshold, h⟩ := Samples.exists_percentile? hcount p false
  have hmem := Samples.mem_of_percentile?_false h
  obtain ⟨i, hi⟩ := List.getElem?_of_mem (Samples.mem_present.1 hmem)
  exact ⟨i, threshold, hi, (survives_removePercentile hi p false).2.2 h⟩

/-- The survivors below a sample and the samples before it make all of them. -/
theorem survivorLaw_iff_orderStatisticLaw :
    SurvivorLaw s p ↔ Samples.OrderStatisticLaw (fun x : ℝ => x) p s.values := by
  obtain ⟨threshold, h⟩ := Samples.exists_percentile? hcount p false
  have hbelow := Samples.count_blank_below threshold s.values
  have hpos := Samples.exactRank_pos p (Samples.count s.values)
  have hle := Samples.exactRank_le p hcount
  unfold SurvivorLaw
  rw [values_removePercentile h, values_removePercentile h, Samples.count_blank_above]
  constructor
  · rintro ⟨hrank, hrest⟩
    exact ⟨threshold, Samples.mem_of_percentile?_false h, h, by omega, hrank⟩
  · rintro ⟨x, -, hx, hbefore, hrank⟩
    obtain rfl := Option.some.inj (h.symm.trans hx)
    exact ⟨hrank, by omega⟩

include hexact

theorem count_removePercentile_pos (interpolate : Bool) (side : Side) :
    0 < Samples.count (removePercentile interpolate side p s).values := by
  obtain ⟨threshold, h⟩ := Samples.exists_percentile? hcount p interpolate
  obtain ⟨⟨x, hx, hle⟩, ⟨y, hy, hge⟩⟩ := Samples.exists_around_percentile? hexact h
  have hsurvives : ∃ x, some x ∈ (removePercentile interpolate side p s).values := by
    rw [values_removePercentile h]
    cases side with
    | above => exact ⟨x, Samples.mem_blank_of_mem hx (Samples.holds_above_eq_false.2 hle)⟩
    | below => exact ⟨y, Samples.mem_blank_of_mem hy (Samples.holds_below_eq_false.2 hge)⟩
  obtain ⟨x, hx⟩ := hsurvives
  exact List.length_pos_of_mem (Samples.mem_present.2 hx)

end

end

end MetricSeries

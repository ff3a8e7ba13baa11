import Mathlib
import MetricSeries.Proofs.Ranks

/-!
Percentiles as functions of the percent and of the samples.  Over exact numbers both kinds read one
staircase, the samples by their ranks: the plain kind on the step above, the interpolated kind on
the line between two steps.  What the staircase keeps, both keep.
-/

set_option autoImplicit false

namespace MetricSeries.Samples

theorem min_toward_of_le {α : Type} [Field α] [LinearOrder α] [IsStrictOrderedRing α]
    {x next part : α} (h : next ≤ x) (hpart : part ≤ 1) :
    min (x + part * (next - x)) next = next := by
  have hstep := mul_le_of_le_one_left (sub_nonneg.2 h) hpart
  exact min_eq_right (by linarith)

section
variable {α : Type} [Field α] [LinearOrder α] [FloorRing α]

/-- The line through the values at whole numbers. -/
def between (f : Int → α) (r : α) : α :=
  f ⌊r⌋ + Int.fract r * (f (⌊r⌋ + 1) - f ⌊r⌋)

theorem between_of_level {f : Int → α} {r : α} (h : f (⌊r⌋ + 1) = f ⌊r⌋) :
    between f r = f ⌊r⌋ := by
  simp [between, h]

variable [IsStrictOrderedRing α]

theorem between_intCast (f : Int → α) (m : Int) : between f m = f m := by
  simp [between]

section
variable {f : Int → α} (hf : Monotone f)
include hf

theorem floor_le_between (r : α) : f ⌊r⌋ ≤ between f r := by
  have hstep : 0 ≤ f (⌊r⌋ + 1) - f ⌊r⌋ := sub_nonneg.2 (hf (by omega))
  exact le_add_of_nonneg_right (mul_nonneg (Int.fract_nonneg r) hstep)

theorem between_le_next (r : α) : between f r ≤ f (⌊r⌋ + 1) := by
  have hstep : 0 ≤ f (⌊r⌋ + 1) - f ⌊r⌋ := sub_nonneg.2 (hf (by omega))
  have hpart := mul_le_of_le_one_left hstep (Int.fract_lt_one r).le
  unfold between
  linarith

theorem between_le_ceil (r : α) : between f r ≤ f ⌈r⌉ := by
  by_cases h : (⌊r⌋ : α) = r
  · rw [← h, between_intCast, Int.ceil_intCast]
  · have hlt : ⌊r⌋ < ⌈r⌉ := by
      have hbelow : (⌊r⌋ : α) < ⌈r⌉ := ((Int.floor_le r).lt_of_ne h).trans_le (Int.le_ceil r)
      exact_mod_cast hbelow
    exact (between_le_next hf r).trans (hf hlt)

theorem between_mono : Monotone (between f) := by
  intro r s hrs
  rcases (Int.floor_le_floor hrs).eq_or_lt with heq | hlt
  · have hstep : 0 ≤ f (⌊s⌋ + 1) - f ⌊s⌋ := sub_nonneg.2 (hf (by omega))
    have hfract : Int.fract r ≤ Int.fract s := by
      unfold Int.fract
      rw [heq]
      exact sub_le_sub_right hrs _
    unfold between
    rw [heq]
    exact add_le_add_right (mul_le_mul_of_nonneg_right hfract hstep) _
  · calc between f r ≤ f (⌊r⌋ + 1) := between_le_next hf r
      _ ≤ f ⌊s⌋ := hf hlt
      _ ≤ between f s := floor_le_between hf s

end

theorem between_le_between {f g : Int → α} (h : ∀ m, f m ≤ g m) (r : α) :
    between f r ≤ between g r := by
  have hmean : ∀ f : Int → α,
      between f r = (1 - Int.fract r) * f ⌊r⌋ + Int.fract r * f (⌊r⌋ + 1) := by
    intro f
    unfold between
    ring
  have hrest : 0 ≤ 1 - Int.fract r := sub_nonneg.2 (Int.fract_lt_one r).le
  rw [hmean, hmean]
  exact add_le_add (mul_le_mul_of_nonneg_left (h _) hrest)
    (mul_le_mul_of_nonneg_left (h _) (Int.fract_nonneg r))

end

section
variable {α : Type} [Zero α]

/-- The sample of a rank, which is held between the first and the last. -/
def sampleAt (sorted : List α) (rank : Int) : α :=
  sorted.getD (max 0 (min ((sorted.length : Int) - 1) (rank - 1))).toNat 0

variable {sorted : List α}

theorem sampleAt_of_le {rank : Int} (h : rank ≤ 1) : sampleAt sorted rank = sampleAt sorted 1 := by
  unfold sampleAt
  congr 1
  omega

theorem sampleAt_of_ge {rank : Int} (h : sorted.length ≤ rank) :
    sampleAt sorted rank = sampleAt sorted sorted.length := by
  unfold sampleAt
  congr 1
  omega

theorem sampleAt_succ {i : Nat} (hi : i < sorted.length) :
    sampleAt sorted (i + 1 : Nat) = sorted[i] := by
  have hindex : (max 0 (min ((sorted.length : Int) - 1) ((i + 1 : Nat) - 1))).toNat = i := by omega
  unfold sampleAt
  rw [hindex, List.getD_eq_getElem sorted 0 hi]

theorem sampleAt_eq_getElem (hpos : 0 < sorted.length) (rank : Int) :
    ∃ h : (max 0 (min ((sorted.length : Int) - 1) (rank - 1))).toNat < sorted.length,
      sampleAt sorted rank =
        sorted[(max 0 (min ((sorted.length : Int) - 1) (rank - 1))).toNat] :=
  have hlt : (max 0 (min ((sorted.length : Int) - 1) (rank - 1))).toNat < sorted.length := by omega
  ⟨hlt, List.getD_eq_getElem sorted 0 hlt⟩

theorem sampleAt_mem (hpos : 0 < sorted.length) (rank : Int) : sampleAt sorted rank ∈ sorted := by
  obtain ⟨hlt, heq⟩ := sampleAt_eq_getElem hpos rank
  rw [heq]
  exact List.getElem_mem hlt

section
variable [LinearOrder α] (hpos : 0 < sorted.length) (hsorted : sorted.Pairwise (· ≤ ·))
include hpos hsorted

theorem monotone_sampleAt : Monotone (sampleAt sorted) := by
  intro a b hab
  obtain ⟨ha, haeq⟩ := sampleAt_eq_getElem hpos a
  obtain ⟨hb, hbeq⟩ := sampleAt_eq_getElem hpos b
  rw [haeq, hbeq]
  exact getElem_mono hsorted (by omega) ha hb

theorem sampleAt_one_le (rank : Int) : sampleAt sorted 1 ≤ sampleAt sorted rank := by
  rcases le_total rank 1 with h | h
  · rw [sampleAt_of_le h]
  · exact monotone_sampleAt hpos hsorted h

theorem sampleAt_le_length (rank : Int) : sampleAt sorted rank ≤ sampleAt sorted sorted.length := by
  rcases le_total (sorted.length : Int) rank with h | h
  · rw [sampleAt_of_ge h]
  · exact monotone_sampleAt hpos hsorted h

theorem isLeast_sampleAt_one : IsLeast {x | x ∈ sorted} (sampleAt sorted 1) := by
  refine ⟨sampleAt_mem hpos 1, fun x hx => ?_⟩
  obtain ⟨i, hi, rfl⟩ := List.mem_iff_getElem.1 hx
  rw [← sampleAt_succ hi]
  exact sampleAt_one_le hpos hsorted _

theorem isGreatest_sampleAt_length :
    IsGreatest {x | x ∈ sorted} (sampleAt sorted sorted.length) := by
  refine ⟨sampleAt_mem hpos _, fun x hx => ?_⟩
  obtain ⟨i, hi, rfl⟩ := List.mem_iff_getElem.1 hx
  rw [← sampleAt_succ hi]
  exact sampleAt_le_length hpos hsorted _

end

end

/-- At whole ranks the line meets the staircase, and outside of the samples both are level. -/
theorem between_sampleAt_eq_ceil {α : Type} [Field α] [LinearOrder α] [IsStrictOrderedRing α]
    [FloorRing α] {sorted : List α} {r : α}
    (h : (∃ m : Int, r = m) ∨ r < 1 ∨ (sorted.length : α) < r) :
    between (sampleAt sorted) r = sampleAt sorted ⌈r⌉ := by
  rcases h with ⟨m, rfl⟩ | hlow | hhigh
  · rw [between_intCast, Int.ceil_intCast]
  · have hfloor : ⌊r⌋ < 1 := Int.floor_lt.2 (by exact_mod_cast hlow)
    have hceil : ⌈r⌉ ≤ 1 := Int.ceil_le.2 (by exact_mod_cast hlow.le)
    have hlevel : sampleAt sorted (⌊r⌋ + 1) = sampleAt sorted ⌊r⌋ := by
      rw [sampleAt_of_le (show ⌊r⌋ + 1 ≤ 1 by omega), sampleAt_of_le hfloor.le]
    rw [between_of_level hlevel, sampleAt_of_le hfloor.le, sampleAt_of_le hceil]
  · have hfloor : (sorted.length : Int) ≤ ⌊r⌋ := Int.le_floor.2 (by exact_mod_cast hhigh.le)
    have hceil : (sorted.length : Int) ≤ ⌈r⌉ := hfloor.trans (Int.floor_le_ceil r)
    have hlevel : sampleAt sorted (⌊r⌋ + 1) = sampleAt sorted ⌊r⌋ := by
      rw [sampleAt_of_ge (show (sorted.length : Int) ≤ ⌊r⌋ + 1 by omega), sampleAt_of_ge hfloor]
    rw [between_of_level hlevel, sampleAt_of_ge hfloor, sampleAt_of_ge hceil]

theorem sampleAt_ascending_le {α : Type} [Zero α] [LinearOrder α] {xs ys : List α}
    (h : List.Forall₂ (· ≤ ·) xs ys) (hpos : 0 < xs.length) (rank : Int) :
    sampleAt (ascending xs) rank ≤ sampleAt (ascending ys) rank := by
  have hlength : (ascending xs).length = (ascending ys).length := by
    rw [length_ascending, length_ascending, h.length_eq]
  have hxs : 0 < (ascending xs).length := by rwa [length_ascending]
  obtain ⟨hx, hxeq⟩ := sampleAt_eq_getElem hxs rank
  obtain ⟨hy, hyeq⟩ := sampleAt_eq_getElem (hlength ▸ hxs) rank
  rw [hxeq, hyeq]
  simp only [← hlength]
  exact ascending_getElem_mono h _ _

section
variable {α : Type} [Field α] [LinearOrder α] [FloorRing α] [Rounding α] {xs : Samples α}
  (hexact : ExactRanks (fun x : α => x) xs.count) (hpos : 0 < xs.count)
include hexact hpos

theorem getElem?_rankIndex (rank : Int) :
    (ascending xs.present)[rankIndex (rank : α) xs.count]? =
      some (sampleAt (ascending xs.present) (readRank xs.count rank)) := by
  have hlength : (ascending xs.present).length = xs.count := length_ascending _
  have hlength_pos : 0 < (ascending xs.present).length := by omega
  obtain ⟨hlt, heq⟩ := sampleAt_eq_getElem hlength_pos (readRank xs.count rank)
  rw [heq, rankIndex_of hexact, ← List.getElem?_eq_getElem hlt, hlength]

variable [IsStrictOrderedRing α] [BEq α]

theorem percentile?_false_eq (p : α) : percentile? xs p false =
    some (sampleAt (ascending xs.present) (readRank xs.count ⌈p * (xs.count + 1) / 100⌉)) := by
  rw [percentile?_false, nearestRank_of hexact]
  exact getElem?_rankIndex hexact hpos _

theorem percentile?_of_inWords {p : α} (hp : RankInWords p xs.count) : percentile? xs p false =
    some (sampleAt (ascending xs.present) ⌈p * (xs.count + 1) / 100⌉) := by
  rw [percentile?_false_eq hexact hpos, readRank_of_inWords hp]

theorem percentile?_of_not_inWords {p : α} (hp : ¬RankInWords p xs.count) :
    percentile? xs p false = some (sampleAt (ascending xs.present) xs.count) := by
  rw [percentile?_false_eq hexact hpos, readRank_of_not_inWords hp]

variable [LawfulBEq α]

theorem getElem?_next (rank : Int) :
    (ascending xs.present)[(Rounding.whole (greater (rank : α) 0)).toNat]? =
      if rank < xs.count then some (sampleAt (ascending xs.present) (rank + 1)) else none := by
  have hlength : (ascending xs.present).length = xs.count := length_ascending _
  have hlength_pos : 0 < (ascending xs.present).length := by omega
  have hcounted := hexact.counted
  have hwhole := hexact.whole (max rank 0)
  unfold Decimal.clampWord Decimal.smallestWord at hwhole
  unfold Decimal.largestWord at *
  have hcast : greater (rank : α) 0 = ((max rank 0 : Int) : α) := by
    rw [greater_eq_max, Int.cast_max, Int.cast_zero]
  rw [hcast]
  split
  · obtain ⟨hlt, heq⟩ := sampleAt_eq_getElem hlength_pos (rank + 1)
    rw [heq, ← List.getElem?_eq_getElem hlt]
    congr 1
    omega
  · exact List.getElem?_eq_none (by omega)

/-- The interpolated percentile is on the line in any case: where the last sample is read for a rank
without a word before it, the first one is the next and the lesser of both. -/
theorem percentile?_true_eq (p : α) : percentile? xs p true =
    some (between (sampleAt (ascending xs.present)) (p * (xs.count + 1) / 100)) := by
  have hlength : (ascending xs.present).length = xs.count := length_ascending _
  have hlength_pos : 0 < (ascending xs.present).length := by omega
  have hsorted := pairwise_ascending xs.present
  have hmono : Monotone (sampleAt (ascending xs.present)) := monotone_sampleAt hlength_pos hsorted
  unfold percentile?
  dsimp only
  rw [if_pos rfl, hlength, fractionalRank_of hexact]
  generalize p * (xs.count + 1) / 100 = r
  rw [hexact.floor, getElem?_rankIndex hexact hpos, getElem?_next hexact hpos, Option.map_some]
  congr 1
  by_cases hword : Decimal.smallestWord < ⌊r⌋
  · rw [readRank, if_pos hword]
    by_cases h : ⌊r⌋ < xs.count
    · rw [if_pos h]
      dsimp only
      rw [lesser_eq_min]
      exact min_eq_left (between_le_next hmono r)
    · have hbehind : ((ascending xs.present).length : Int) ≤ ⌊r⌋ := by omega
      rw [if_neg h]
      dsimp only
      rw [between_of_level]
      rw [sampleAt_of_ge (hbehind.trans (by omega)), sampleAt_of_ge hbehind]
  · unfold Decimal.smallestWord at hword
    have hlow : ⌊r⌋ + 1 ≤ 1 := by omega
    have hgreatest := sampleAt_le_length hlength_pos hsorted 1
    have hlevel :
        sampleAt (ascending xs.present) (⌊r⌋ + 1) = sampleAt (ascending xs.present) ⌊r⌋ := by
      rw [sampleAt_of_le hlow, sampleAt_of_le (show ⌊r⌋ ≤ 1 by omega)]
    rw [readRank, if_neg (show ¬Decimal.smallestWord < ⌊r⌋ from hword), if_pos (by omega)]
    dsimp only
    rw [between_of_level hlevel, ← hlevel, sampleAt_of_le hlow, lesser_eq_min, ← hlength]
    exact min_toward_of_le hgreatest (Int.fract_lt_one r).le

end

/-- Both samples are there, and the first is not above the second. -/
def NotAbove {α : Type} [LE α] (a b : Option α) : Prop :=
  ∃ x y, a = some x ∧ b = some y ∧ x ≤ y

theorem forall₂_present {α : Type} {R : α → α → Prop} {xs ys : Samples α}
    (h : List.Forall₂ (Option.Rel R) xs ys) : List.Forall₂ R xs.present ys.present := by
  induction h with
  | nil => exact .nil
  | cons hxy _ ih =>
    cases hxy with
    | some hxy => exact .cons hxy ih
    | none => exact ih

theorem uniform_of_sampleAt {α : Type} [Zero α] [LinearOrder α] {xs : Samples α}
    (hpos : 0 < xs.count)
    (h : sampleAt (ascending xs.present) 1 = sampleAt (ascending xs.present) xs.count) :
    Uniform xs := by
  have hlength : (ascending xs.present).length = xs.count := length_ascending _
  have hsorted := pairwise_ascending xs.present
  have hleast := isLeast_sampleAt_one (by omega) hsorted
  have hgreatest := isGreatest_sampleAt_length (by omega) hsorted
  rw [hlength, ← h] at hgreatest
  have hall : ∀ x ∈ xs.present, x = sampleAt (ascending xs.present) 1 := by
    intro x hx
    have hx' : x ∈ ascending xs.present := (ascending_perm xs.present).mem_iff.2 hx
    exact le_antisymm (hgreatest.2 hx') (hleast.2 hx')
  exact fun x hx y hy => (hall x hx).trans (hall y hy).symm

/-- From one percent on, both kinds grow with the percent, and at it they meet if its rank is whole
or outside of the samples. -/
structure StaircaseLaw {α : Type} [Field α] [LinearOrder α] [Rounding α] [BEq α] (xs : Samples α)
    (p : α) : Prop where
  grows : ∀ interpolate q, p ≤ q →
    NotAbove (percentile? xs p interpolate) (percentile? xs q interpolate)
  meets : (∃ m : Int, p * (xs.count + 1) / 100 = m) ∨ p * (xs.count + 1) / 100 < 1 ∨
    xs.count < p * (xs.count + 1) / 100 → percentile? xs p true = percentile? xs p false

section
variable {α : Type} [Field α] [LinearOrder α] [IsStrictOrderedRing α] [FloorRing α] [Rounding α]
  [BEq α] [LawfulBEq α] {xs : Samples α} (hexact : ExactRanks (fun x : α => x) xs.count)
  (hpos : 0 < xs.count)
include hexact hpos

theorem percentile?_of_uniform (h : Uniform xs) (p : α) (interpolate : Bool) :
    percentile? xs p interpolate = some (sampleAt (ascending xs.present) 1) := by
  have hpos' : 0 < (ascending xs.present).length := by rwa [length_ascending]
  have hmem : ∀ rank, sampleAt (ascending xs.present) rank ∈ xs.present := fun rank =>
    (ascending_perm xs.present).mem_iff.1 (sampleAt_mem hpos' rank)
  have hlevel : ∀ a b, sampleAt (ascending xs.present) a = sampleAt (ascending xs.present) b :=
    fun a b => h _ (hmem a) _ (hmem b)
  cases interpolate with
  | false => rw [percentile?_false_eq hexact hpos, hlevel]
  | true => rw [percentile?_true_eq hexact hpos, between_of_level (hlevel _ _), hlevel]

theorem staircaseLaw_of_inWords {p : α} (hp : RankInWords p xs.count) : StaircaseLaw xs p := by
  have hlength : (ascending xs.present).length = xs.count := length_ascending _
  have hmono := monotone_sampleAt (by omega) (pairwise_ascending xs.present)
  have hplain := percentile?_of_inWords hexact hpos hp
  have hline := percentile?_true_eq hexact hpos
  refine ⟨fun interpolate q hpq => ?_, fun hmeet => ?_⟩
  · have hrank : p * (xs.count + 1) / 100 ≤ q * (xs.count + 1) / 100 := by gcongr
    cases interpolate with
    | false =>
      have hq := percentile?_of_inWords hexact hpos (rankInWords_of_le hpq hp)
      exact ⟨_, _, hplain, hq, hmono (Int.ceil_le_ceil hrank)⟩
    | true => exact ⟨_, _, hline p, hline q, between_mono hmono hrank⟩
  · rw [← hlength] at hmeet
    rw [hline, hplain, ← hlength, between_sampleAt_eq_ceil hmeet]

theorem staircaseLaw_iff_uniform {p : α} (hp : ¬RankInWords p xs.count) :
    StaircaseLaw xs p ↔ Uniform xs := by
  constructor
  · intro law
    have hceil : ⌈p * (xs.count + 1) / 100⌉ ≤ 0 := by
      unfold RankInWords Decimal.smallestWord at hp
      omega
    have hlow : p * (xs.count + 1) / 100 < 1 := by
      have h := Int.ceil_le.1 hceil
      rw [Int.cast_zero] at h
      exact h.trans_lt one_pos
    have hmeet := law.meets (.inr (.inl hlow))
    rw [percentile?_true_eq hexact hpos, percentile?_of_not_inWords hexact hpos hp,
      between_sampleAt_eq_ceil (.inr (.inl hlow)), sampleAt_of_le (by omega)] at hmeet
    exact uniform_of_sampleAt hpos (Option.some.inj hmeet)
  · intro huniform
    have hall := percentile?_of_uniform hexact hpos huniform
    exact ⟨fun interpolate q _ => ⟨_, _, hall p interpolate, hall q interpolate, le_rfl⟩,
      fun _ => (hall p true).trans (hall p false).symm⟩

end

end MetricSeries.Samples

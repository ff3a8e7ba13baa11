import Mathlib
import MetricSeries.Proofs.Ascending
import MetricSeries.Proofs.Exact

/-!
Percentiles as order statistics.  Whatever the arithmetic of ranks, a percentile hangs on nothing
but the samples that are there, in any order.  Where ranks are computed without rounding errors, it
is the sample whose rank is the percent of one more than their number, rounded up and held between
the first and the last.
-/

set_option autoImplicit false

namespace MetricSeries.Samples

theorem present_eq_nil_iff {α : Type} {xs : Samples α} : xs.present = [] ↔ ∀ x ∈ xs, x = none :=
  List.filterMap_eq_nil_iff

theorem mem_present {α : Type} {xs : Samples α} {x : α} : x ∈ xs.present ↔ some x ∈ xs :=
  List.reduceOption_mem_iff

theorem present_append {α : Type} (xs ys : Samples α) :
    (xs ++ ys).present = xs.present ++ ys.present :=
  List.reduceOption_append xs ys

theorem present_insert {α : Type} (front back : Samples α) :
    (front ++ none :: back).present = (front ++ back).present := by
  simp only [present_append]
  rfl

theorem rankIndex_lt {α : Type} [Rounding α] (rank : α) {n : Nat} (hn : 0 < n) :
    rankIndex rank n < n := by
  unfold rankIndex
  omega

section
variable {α : Type} [Zero α] [Add α] [Sub α] [Mul α] [Div α] [NatCast α] [Rounding α] [BEq α]

theorem percentile?_false [LT α] [DecidableLT α] (xs : Samples α) (p : α) :
    percentile? xs p false =
      (ascending xs.present)[rankIndex (nearestRank p xs.count) xs.count]? := by
  have hlength : (ascending xs.present).length = xs.count := length_ascending _
  unfold percentile?
  dsimp only
  rw [if_neg Bool.false_ne_true, hlength]

theorem mem_of_percentile?_false [LT α] [DecidableLT α] {xs : Samples α} {p x : α}
    (h : percentile? xs p false = some x) : x ∈ xs.present := by
  rw [percentile?_false] at h
  exact (List.mergeSort_perm xs.present _).mem_iff.1 (List.mem_of_getElem? h)

theorem percentile?_eq_none_iff [LT α] [DecidableLT α] {xs : Samples α} {p : α}
    {interpolate : Bool} : percentile? xs p interpolate = none ↔ xs.present = [] := by
  have hnone : ∀ rank : α, (ascending xs.present)[rankIndex rank (ascending xs.present).length]? =
      none ↔ xs.present = [] := by
    intro rank
    rw [List.getElem?_eq_none_iff, length_ascending, ← List.length_eq_zero_iff]
    rcases Nat.eq_zero_or_pos xs.present.length with h | h
    · simp [h]
    · have hlt := rankIndex_lt rank h
      omega
  unfold percentile?
  cases interpolate with
  | false => exact hnone _
  | true =>
    rw [if_pos rfl, Option.map_eq_none_iff]
    exact hnone _

theorem percentile?_congr [LT α] [DecidableLT α] {xs ys : Samples α}
    (h : ascending xs.present = ascending ys.present) (p : α) (interpolate : Bool) :
    percentile? xs p interpolate = percentile? ys p interpolate := by
  unfold percentile?
  rw [h]

end

/-- `of` finds the exact numbers `F` among the samples.  Ranks are computed with them as in `F` and
read off in words, and no list has more samples than there are words for. -/
structure ExactRanks {F α : Type} [Field F] [LinearOrder F] [FloorRing F] [Add α] [Sub α] [Mul α]
    [Div α] [NatCast α] [Rounding α] (of : F → α) (n : Nat) : Prop where
  natCast (k : Nat) : (k : α) = of k
  add (a b : F) : of a + of b = of (a + b)
  sub (a b : F) : of a - of b = of (a - b)
  mul (a b : F) : of a * of b = of (a * b)
  div (a b : F) (hb : b ≠ 0) : of a / of b = of (a / b)
  floor (a : F) : Rounding.floor (of a) = of ⌊a⌋
  ceil (a : F) : Rounding.ceil (of a) = of ⌈a⌉
  whole (m : Int) : Rounding.whole (of m) = Decimal.clampWord m
  counted : (n : Int) ≤ Decimal.largestWord

theorem exactRanks_real {n : Nat} (hn : (n : Int) ≤ Decimal.largestWord) :
    ExactRanks (fun x : ℝ => x) n where
  natCast _ := rfl
  add _ _ := rfl
  sub _ _ := rfl
  mul _ _ := rfl
  div _ _ _ := rfl
  floor _ := rfl
  ceil _ := rfl
  whole m := by
    show Decimal.clampWord (if 0 ≤ (m : ℝ) then ⌊(m : ℝ)⌋ else ⌈(m : ℝ)⌉) = _
    rw [Int.floor_intCast, Int.ceil_intCast, ite_self]
  counted := hn

/-- The rank that is read where one is asked for.  From the least word on there is no word before
it, and the last sample is read. -/
def readRank (n : Nat) (rank : Int) : Int :=
  if Decimal.smallestWord < rank then rank else n

theorem wrapWord_sub_one {m : Int} (h : m ≤ Decimal.largestWord) (h' : Decimal.smallestWord ≤ m) :
    Decimal.wrapWord (m - 1) =
      if Decimal.smallestWord < m then m - 1 else Decimal.largestWord := by
  unfold Decimal.wrapWord
  unfold Decimal.smallestWord Decimal.largestWord at *
  rw [Nat.pow_eq, Int.bmod_def]
  split_ifs <;> omega

section
variable {F α : Type} [Field F] [LinearOrder F] [FloorRing F]

/-- The rank of the `p`-th percentile of `n` samples, in whole samples and held among them. -/
def exactRank (p : F) (n : Nat) : Nat :=
  (max 1 (min (n : Int) ⌈p * (n + 1) / 100⌉)).toNat

/-- The next whole rank of the percent has a word before it. -/
def RankInWords (p : F) (n : Nat) : Prop :=
  Decimal.smallestWord < ⌈p * (n + 1) / 100⌉

theorem exactRank_pos (p : F) (n : Nat) : 0 < exactRank p n := by
  unfold exactRank
  omega

theorem readRank_of_inWords {p : F} {n : Nat} (h : RankInWords p n) :
    readRank n ⌈p * (n + 1) / 100⌉ = ⌈p * (n + 1) / 100⌉ :=
  if_pos h

theorem readRank_of_not_inWords {p : F} {n : Nat} (h : ¬RankInWords p n) :
    readRank n ⌈p * (n + 1) / 100⌉ = n :=
  if_neg h

theorem exactRank_le (p : F) {n : Nat} (hn : 0 < n) : exactRank p n ≤ n := by
  unfold exactRank
  omega

theorem exactRank_of_not_inWords {p : F} {n : Nat} (h : ¬RankInWords p n) : exactRank p n = 1 := by
  unfold RankInWords Decimal.smallestWord at h
  unfold exactRank
  omega

theorem rankInWords_of_le [IsStrictOrderedRing F] {p q : F} {n : Nat} (hpq : p ≤ q)
    (h : RankInWords p n) : RankInWords q n := by
  refine lt_of_lt_of_le h (Int.ceil_le_ceil ?_)
  have hn : (0 : F) ≤ n + 1 := by positivity
  exact div_le_div_of_nonneg_right (mul_le_mul_of_nonneg_right hpq hn) (by norm_num)

variable [Add α] [Sub α] [Mul α] [Div α] [NatCast α] [Rounding α]
  {of : F → α} {n : Nat} (h : ExactRanks of n)
include h

theorem fractionalRank_of (p : F) : fractionalRank (of p) n = of (p * (n + 1) / 100) := by
  unfold fractionalRank
  rw [h.natCast, h.natCast, h.div _ _ (by norm_num), h.mul]
  push_cast
  congr 1
  ring

theorem rankIndex_of (m : Int) :
    rankIndex (of m) n = (max 0 (min ((n : Int) - 1) (readRank n m - 1))).toNat := by
  have hn := h.counted
  have hword : Decimal.clampWord m ≤ Decimal.largestWord ∧
      Decimal.smallestWord ≤ Decimal.clampWord m := by
    unfold Decimal.clampWord Decimal.smallestWord Decimal.largestWord
    omega
  unfold rankIndex readRank
  rw [h.whole, wrapWord_sub_one hword.1 hword.2]
  unfold Decimal.clampWord Decimal.smallestWord
  unfold Decimal.largestWord at *
  split_ifs <;> omega

variable [IsStrictOrderedRing F]

theorem nearestRank_of (p : F) : nearestRank (of p) n = of (⌈p * (n + 1) / 100⌉ : Int) := by
  unfold nearestRank
  rw [fractionalRank_of h]
  generalize p * (n + 1) / 100 = r
  dsimp only
  rw [h.floor, h.sub, h.ceil, h.add, ← Int.cast_add, Int.ceil_sub_intCast]
  congr 2
  ring

theorem rankIndex_of_inWords {p : F} (hp : RankInWords p n) :
    rankIndex (nearestRank (of p) n) n = exactRank p n - 1 := by
  rw [nearestRank_of h, rankIndex_of h, readRank_of_inWords hp]
  unfold exactRank
  omega

theorem rankIndex_of_not_inWords {p : F} (hp : ¬RankInWords p n) :
    rankIndex (nearestRank (of p) n) n = n - 1 := by
  rw [nearestRank_of h, rankIndex_of h, readRank_of_not_inWords hp]
  omega

end

section
variable {F α : Type} [Field F] [LinearOrder F] [IsStrictOrderedRing F] [FloorRing F]
  [LinearOrder α] [Zero α] [Add α] [Sub α] [Mul α] [Div α] [NatCast α] [Rounding α] [BEq α]

def Uniform (xs : Samples α) : Prop :=
  ∀ x ∈ xs.present, ∀ y ∈ xs.present, x = y

/-- The plain percentile is a sample, with fewer than its exact rank below it and at least as many
not above it. -/
def OrderStatisticLaw (of : F → α) (p : F) (xs : Samples α) : Prop :=
  ∃ x ∈ xs.present, percentile? xs (of p) false = some x ∧
    xs.present.countP (· < x) ≤ exactRank p xs.count - 1 ∧
    exactRank p xs.count ≤ xs.present.countP (· ≤ x)

variable {of : F → α} {xs : Samples α} (hexact : ExactRanks of xs.count) (hpos : 0 < xs.count)
include hexact hpos

theorem orderStatisticLaw_of_inWords {p : F} (hp : RankInWords p xs.count) :
    OrderStatisticLaw of p xs := by
  have hperm : (ascending xs.present).Perm xs.present := ascending_perm _
  have hsorted := pairwise_ascending xs.present
  have hlength : (ascending xs.present).length = xs.count := length_ascending _
  have hindex := rankIndex_of_inWords hexact hp
  have hlt : exactRank p xs.count - 1 < (ascending xs.present).length := by
    rw [hlength, ← hindex]
    exact rankIndex_lt _ hpos
  have hrank := exactRank_pos p xs.count
  refine ⟨_, hperm.mem_iff.1 (List.getElem_mem hlt), ?_, ?_, ?_⟩
  · rw [percentile?_false, hindex, List.getElem?_eq_getElem hlt]
  · rw [← hperm.countP_eq]
    exact countP_lt_getElem_le hsorted hlt
  · have hcount := lt_countP_le_getElem hsorted hlt
    rw [hperm.countP_eq] at hcount
    omega

/-- Without a word before its rank a percentile is the greatest sample, however low the percent. -/
theorem isGreatest_percentile? {p : F} (hp : ¬RankInWords p xs.count) :
    ∃ x, IsGreatest {x | x ∈ xs.present} x ∧ percentile? xs (of p) false = some x := by
  have hperm : (ascending xs.present).Perm xs.present := ascending_perm _
  have hlength : (ascending xs.present).length = xs.count := length_ascending _
  have hlt : xs.count - 1 < (ascending xs.present).length := by omega
  refine ⟨_, ⟨hperm.mem_iff.1 (List.getElem_mem hlt), fun y hy => ?_⟩, ?_⟩
  · obtain ⟨i, hi, rfl⟩ := List.mem_iff_getElem.1 (hperm.mem_iff.2 hy)
    exact getElem_mono (pairwise_ascending _) (by omega) hi hlt
  · rw [percentile?_false, rankIndex_of_not_inWords hexact hp, List.getElem?_eq_getElem hlt]

theorem orderStatisticLaw_iff_uniform {p : F} (hp : ¬RankInWords p xs.count) :
    OrderStatisticLaw of p xs ↔ Uniform xs := by
  obtain ⟨x, ⟨hx, hgreatest⟩, hpercentile⟩ := isGreatest_percentile? hexact hpos hp
  have hrank := exactRank_of_not_inWords hp
  constructor
  · rintro ⟨x', -, hx', hbelow, -⟩
    obtain rfl := Option.some.inj (hpercentile.symm.trans hx')
    rw [hrank, Nat.le_zero, List.countP_eq_zero] at hbelow
    have hall : ∀ y ∈ xs.present, y = x := fun y hy =>
      le_antisymm (hgreatest hy) (not_lt.1 (by simpa using hbelow y hy))
    exact fun y hy z hz => (hall y hy).trans (hall z hz).symm
  · intro huniform
    refine ⟨x, hx, hpercentile, ?_, ?_⟩
    · rw [List.countP_eq_zero.2 fun y hy => by simp [huniform y hy x hx]]
      exact Nat.zero_le _
    · rw [hrank]
      exact List.countP_pos_iff.2 ⟨x, hx, by simp⟩

theorem orderStatisticLaw_iff_or (p : F) :
    OrderStatisticLaw of p xs ↔ RankInWords p xs.count ∨ Uniform xs := by
  by_cases hp : RankInWords p xs.count
  · exact iff_of_true (orderStatisticLaw_of_inWords hexact hpos hp) (.inl hp)
  · rw [orderStatisticLaw_iff_uniform hexact hpos hp, or_iff_right hp]

end

theorem not_rankInWords_two : ¬RankInWords (-10 ^ 21 : ℝ) 2 := by
  unfold RankInWords Decimal.smallestWord
  rw [not_lt, Int.ceil_le]
  norm_num

theorem not_uniform_two : ¬Uniform ([some 1, some 2] : Samples ℝ) := by
  intro h
  have hsame : (1 : ℝ) = 2 := h 1 (by simp [present]) 2 (by simp [present])
  norm_num at hsame

end MetricSeries.Samples

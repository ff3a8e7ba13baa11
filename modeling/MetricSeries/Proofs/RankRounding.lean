import Mathlib
import MetricSeries.Proofs.Binary64
import MetricSeries.Proofs.Ranks

/-!
Ranks in double precision.  The percent is brought to hundredths first and multiplied after that,
and both results are rounded; all that follows is exact.  So the rank that is read is the next whole
number not below the rounded product, which is one too high where the exact product is a whole
number and the rounded one lies above it.
-/

set_option autoImplicit false

namespace MetricSeries

open Binary64 Samples

/-- The `p`-th percentile of `n` numbers is the one of the exact rank. -/
def RankLaw (p n : ℕ) : Prop :=
  ∀ xs : Samples Binary64, (∀ x ∈ xs.present, x ≠ .notANumber) → xs.count = n →
    percentile? xs (p : Binary64) false =
      (ascending xs.present)[exactRank (p : ℚ) n - 1]?

/-- The hundredths of the percent times one more than the number of samples, rounded at each step. -/
def product (p n : ℕ) : ℚ :=
  nearest (nearest (p / 100) * nearest ((n + 1 : ℕ) : ℚ))

theorem nearestRank_of_exact {p : Binary64} {n : ℕ} {y : ℚ} (hy : Exact y)
    (h : fractionalRank p n = ofRat y) : nearestRank p n = ofRat ⌈y⌉ := by
  have hsum : (⌊y⌋ : ℚ) + ⌈Int.fract y⌉ = ⌈y⌉ := by
    rw [Int.fract, Int.ceil_sub_intCast]
    push_cast
    ring
  unfold nearestRank
  dsimp only
  rw [h, hy.floor_ofRat, hy.ofRat_sub hy.of_floor]
  rw [Int.self_sub_floor, hy.of_fract.ceil_ofRat, hy.of_floor.ofRat_add hy.of_fract.of_ceil, hsum]

theorem nearestRank_of_infinite {p : Binary64} {n : ℕ}
    (h : fractionalRank p n = .infinite false) : nearestRank p n = .notANumber := by
  unfold nearestRank
  rw [h]
  rfl

theorem product_nonneg (p n : ℕ) : 0 ≤ product p n := by
  have ha : 0 ≤ nearest ((p : ℚ) / 100) := nearest_nonneg (by positivity)
  have hb : 0 ≤ nearest ((n + 1 : ℕ) : ℚ) := nearest_nonneg (by positivity)
  exact nearest_nonneg (mul_nonneg ha hb)

section
variable {p n : ℕ} (hp : Exact (p : ℚ)) (hn : n < 2 ^ 63)
include hp hn

theorem fractionalRank_eq : fractionalRank (p : Binary64) n = ofRat (product p n) := by
  have hratio : 0 ≤ (p : ℚ) / 100 := by positivity
  have hratio_lt : nearest ((p : ℚ) / 100) < overflow := by
    have hle : (p : ℚ) / 100 ≤ p := div_le_self hp.nonneg (by norm_num)
    exact (nearest_le hp.held hratio hle).trans_lt hp.lt
  have hcount : 0 ≤ ((n + 1 : ℕ) : ℚ) := Nat.cast_nonneg _
  have hcount_lt : nearest ((n + 1 : ℕ) : ℚ) < overflow := by
    have hle : ((n + 1 : ℕ) : ℚ) ≤ 2 ^ 63 := by exact_mod_cast hn
    exact (nearest_le (held_two_pow 63) hcount hle).trans_lt (two_pow_lt_overflow (by norm_num))
  have ha := exact_nearest hratio hratio_lt
  have hb := exact_nearest hcount hcount_lt
  calc fractionalRank (p : Binary64) n
      = ofRat p / ofRat (100 : ℕ) * ofRat (n + 1 : ℕ) := rfl
    _ = ofRat (p / 100) * ofRat (n + 1 : ℕ) := by
        rw [hp.ofRat_div (exact_natCast (by norm_num)) (by norm_num)]
        norm_num
    _ = ofRat (nearest (p / 100)) * ofRat (nearest (n + 1 : ℕ)) := by
        rw [ofRat_nearest hratio, ofRat_nearest hcount]
    _ = ofRat (nearest (p / 100) * nearest (n + 1 : ℕ)) := ha.ofRat_mul hb
    _ = ofRat (product p n) := (ofRat_nearest (mul_nonneg ha.nonneg hb.nonneg)).symm

/-- The next whole number not below the product, held among the samples.  Where the product is too
large its rank is no number and falls to the first sample. -/
theorem rankIndex_binary64 : rankIndex (nearestRank (p : Binary64) n) n =
    if product p n < overflow then (max 1 (min (n : ℤ) ⌈product p n⌉)).toNat - 1 else 0 := by
  have hrank := fractionalRank_eq hp hn
  split
  · rename_i hlt
    have hy : Exact (product p n) := ⟨held_nearest _, product_nonneg p n, hlt⟩
    have hceil : 0 ≤ ⌈product p n⌉ := Int.ceil_nonneg (product_nonneg p n)
    have hwhole := whole_ofRat_intCast hy.of_ceil
    have hword : Decimal.clampWord ⌈product p n⌉ = min Decimal.largestWord ⌈product p n⌉ := by
      unfold Decimal.clampWord Decimal.smallestWord Decimal.largestWord
      omega
    rw [nearestRank_of_exact hy hrank]
    unfold rankIndex
    rw [hwhole, hword, wrapWord_sub_one (min_le_left _ _)] <;>
      unfold Decimal.largestWord Decimal.smallestWord <;> omega
  · rename_i hge
    have hself : nearest (product p n) = product p n :=
      nearest_eq_self (held_nearest _) (product_nonneg p n)
    rw [ofRat_of_ge (product_nonneg p n) (by rw [hself]; exact not_lt.1 hge)] at hrank
    rw [nearestRank_of_infinite hrank]
    show (max 0 (min ((n : ℤ) - 1) (-1))).toNat = 0
    omega

end

/-- What is nearer than a hundredth to a number of hundredths has the same next whole number, unless
it lies just above a whole number. -/
theorem ceil_of_near {y : ℚ} {q : ℕ} (h : |y - q / 100| < 1 / 100) :
    ⌈y⌉ = ⌈(q / 100 : ℚ)⌉ + if 100 ∣ q ∧ (q / 100 : ℚ) < y then 1 else 0 := by
  obtain ⟨hlow, hhigh⟩ := abs_lt.1 h
  by_cases hdvd : 100 ∣ q
  · obtain ⟨k, rfl⟩ := hdvd
    have hk : ((100 * k : ℕ) : ℚ) / 100 = (k : ℤ) := by
      push_cast
      ring
    rw [hk] at hlow hhigh ⊢
    rw [Int.ceil_intCast]
    split
    · rename_i hlt
      rw [Int.ceil_eq_iff]
      push_cast at *
      constructor <;> linarith [hlt.2]
    · rename_i hle
      have hle' : y ≤ (k : ℤ) := not_lt.1 fun hlt => hle ⟨Nat.dvd_mul_right _ _, hlt⟩
      rw [add_zero, Int.ceil_eq_iff]
      constructor <;> linarith
  · rw [if_neg fun h => hdvd h.1, add_zero, Int.ceil_eq_iff]
    generalize hk : ⌈(q / 100 : ℚ)⌉ = k
    obtain ⟨habove, hbelow⟩ := Int.ceil_eq_iff.1 hk
    rw [lt_div_iff₀ (by norm_num)] at habove
    rw [div_le_iff₀ (by norm_num)] at hbelow
    have habove' : (k - 1) * 100 < (q : ℤ) := by exact_mod_cast habove
    have hbelow' : (q : ℤ) ≤ k * 100 := by exact_mod_cast hbelow
    -- Away from whole numbers there is a hundredth of room on both sides.
    have hroom : (k - 1) * 100 + 1 ≤ (q : ℤ) ∧ (q : ℤ) + 1 ≤ k * 100 := by omega
    have hroom' : ((k : ℚ) - 1) * 100 + 1 ≤ q ∧ (q : ℚ) + 1 ≤ k * 100 := by
      exact_mod_cast hroom
    constructor <;> linarith [hroom'.1, hroom'.2]

section
variable {p n : ℕ}

theorem product_of_le (hn : n + 1 ≤ 2 ^ 53) :
    product p n = nearest (nearest (p / 100) * (n + 1)) := by
  unfold product
  rw [nearest_eq_self (held_natCast hn) (Nat.cast_nonneg _)]
  push_cast
  rfl

theorem lt_product_of_ge (hp : 100 ≤ p) (hn : n + 1 ≤ 2 ^ 53) : (n : ℚ) + 1 ≤ product p n := by
  have hratio : 1 ≤ nearest ((p : ℚ) / 100) := by
    refine le_nearest exact_one.held (by positivity) ?_
    rw [le_div_iff₀ (by norm_num), one_mul]
    exact_mod_cast hp
  have hcount : (0 : ℚ) ≤ n + 1 := by positivity
  rw [product_of_le hn]
  refine le_nearest (by exact_mod_cast held_natCast hn) (by positivity) ?_
  exact le_mul_of_one_le_left hcount hratio

/-- Each of the two roundings is wrong by half a unit of the last place at most. -/
theorem abs_product_sub_lt (hp : 1 ≤ p) (hp' : p ≤ 100) (hn : n ≤ 2 ^ 45) :
    |product p n - (p * (n + 1) : ℕ) / 100| < 1 / 100 := by
  have hsmall : (2 : ℚ) ^ (-1022 : ℤ) ≤ 1 / 200 := by
    calc (2 : ℚ) ^ (-1022 : ℤ) ≤ 2 ^ (-8 : ℤ) := zpow_le_zpow_right₀ (by norm_num) (by norm_num)
      _ ≤ 1 / 200 := by norm_num
  have hratio : (1 : ℚ) / 100 ≤ p / 100 ∧ (p : ℚ) / 100 ≤ 1 := by
    constructor
    · exact div_le_div_of_nonneg_right (by exact_mod_cast hp) (by norm_num)
    · exact (div_le_one (by norm_num)).2 (by exact_mod_cast hp')
  have hcount : (1 : ℚ) ≤ n + 1 ∧ (n : ℚ) + 1 ≤ 2 ^ 45 + 1 :=
    ⟨le_add_of_nonneg_left (Nat.cast_nonneg n), by exact_mod_cast Nat.succ_le_succ hn⟩
  have hproduct := product_of_le (p := p) (n := n) (by omega)
  have hexact : ((p * (n + 1) : ℕ) : ℚ) / 100 = p / 100 * (n + 1) := by
    push_cast
    ring
  have hfirst := abs_nearest_sub_le (hsmall.trans (by linarith [hratio.1]) : _ ≤ (p : ℚ) / 100)
  rw [hproduct, hexact]
  generalize (p : ℚ) / 100 = r at *
  generalize (n : ℚ) + 1 = m at *
  generalize nearest r = a at *
  have ha : 1 / 200 ≤ a ∧ a ≤ 1 + 1 / 2 ^ 53 := by
    obtain ⟨hlow, hhigh⟩ := abs_le.1 hfirst
    constructor <;> linarith [hratio.1, hratio.2]
  have hrounded : a * m ≤ (1 + 1 / 2 ^ 53) * (2 ^ 45 + 1) :=
    mul_le_mul ha.2 hcount.2 (by linarith [hcount.1]) (by norm_num)
  have hsecond := abs_nearest_sub_le (hsmall.trans (by nlinarith [ha.1, hcount.1]) : _ ≤ a * m)
  have hcarried : |a * m - r * m| ≤ 1 / 2 ^ 53 * (2 ^ 45 + 1) := by
    rw [← sub_mul, abs_mul, abs_of_pos (by linarith [hcount.1] : 0 < m)]
    refine mul_le_mul (hfirst.trans ?_) hcount.2 (by linarith [hcount.1]) (by norm_num)
    exact div_le_div_of_nonneg_right hratio.2 (by norm_num)
  calc |nearest (a * m) - r * m|
      ≤ |nearest (a * m) - a * m| + |a * m - r * m| := abs_sub_le _ _ _
    _ ≤ a * m / 2 ^ 53 + 1 / 2 ^ 53 * (2 ^ 45 + 1) := add_le_add hsecond hcarried
    _ ≤ (1 + 1 / 2 ^ 53) * (2 ^ 45 + 1) / 2 ^ 53 + 1 / 2 ^ 53 * (2 ^ 45 + 1) := by gcongr
    _ < 1 / 100 := by norm_num

/-- Up to as many samples, the rank that is read is the exact one, or the one behind it where the
exact product is a whole number and the rounded one lies above it. -/
theorem ceil_product (hp : 1 ≤ p) (hp' : p ≤ 100) (hn : n ≤ 2 ^ 45) :
    ⌈product p n⌉ = ⌈(p : ℚ) * (n + 1) / 100⌉ +
      if 100 ∣ p * (n + 1) ∧ ((p * (n + 1) : ℕ) : ℚ) / 100 < product p n then 1 else 0 := by
  rw [ceil_of_near (abs_product_sub_lt hp hp' hn)]
  push_cast
  rfl

theorem product_lt_overflow (hp : 1 ≤ p) (hp' : p ≤ 100) (hn : n ≤ 2 ^ 45) :
    product p n < overflow := by
  have hnear := (abs_lt.1 (abs_product_sub_lt hp hp' hn)).2
  have hexact : ((p * (n + 1) : ℕ) : ℚ) / 100 ≤ 2 ^ 46 := by
    rw [div_le_iff₀ (by norm_num)]
    have hle : p * (n + 1) ≤ 2 ^ 46 * 100 := by nlinarith
    exact_mod_cast hle
  calc product p n ≤ 2 ^ 47 := by linarith
    _ < overflow := two_pow_lt_overflow (by norm_num)

end

def zerosAndOnes (zeros ones : ℕ) : Samples Binary64 :=
  List.replicate zeros (some (ofRat 0)) ++ List.replicate ones (some (ofRat 1))

theorem present_zerosAndOnes (zeros ones : ℕ) : (zerosAndOnes zeros ones).present =
    List.replicate zeros (ofRat 0) ++ List.replicate ones (ofRat 1) := by
  simp [zerosAndOnes, present]

theorem count_zerosAndOnes (zeros ones : ℕ) : (zerosAndOnes zeros ones).count = zeros + ones := by
  unfold count
  rw [present_zerosAndOnes, List.length_append, List.length_replicate, List.length_replicate]

theorem ne_notANumber_of_mem_zerosAndOnes {zeros ones : ℕ} {x : Binary64}
    (h : x ∈ (zerosAndOnes zeros ones).present) : x ≠ .notANumber := by
  rw [present_zerosAndOnes] at h
  rcases List.mem_append.1 h with h | h
  · rw [List.eq_of_mem_replicate h, exact_zero.ofRat_eq]
    exact Binary64.noConfusion
  · rw [List.eq_of_mem_replicate h, exact_one.ofRat_eq]
    exact Binary64.noConfusion

theorem ascending_zerosAndOnes (zeros ones : ℕ) :
    ascending (zerosAndOnes zeros ones).present = (zerosAndOnes zeros ones).present := by
  have hzero := exact_zero.ofRat_lt_iff exact_zero
  have hone := exact_one.ofRat_lt_iff exact_one
  have hacross := exact_one.ofRat_lt_iff exact_zero
  rw [present_zerosAndOnes]
  refine List.mergeSort_of_pairwise (List.pairwise_append.2 ⟨?_, ?_, ?_⟩)
  · exact List.pairwise_replicate.2 (.inr (by simp [hzero]))
  · exact List.pairwise_replicate.2 (.inr (by simp [hone]))
  · intro a ha b hb
    rw [List.eq_of_mem_replicate ha, List.eq_of_mem_replicate hb]
    simp [hacross]

theorem getElem?_zerosAndOnes_ne {i j n : ℕ} (hij : i < j) (hj : j < n) :
    (zerosAndOnes j (n - j)).present[i]? ≠ (zerosAndOnes j (n - j)).present[j]? := by
  rw [present_zerosAndOnes, List.getElem?_append_left (by rwa [List.length_replicate]),
    List.getElem?_append_right (by rw [List.length_replicate]), List.length_replicate,
    List.getElem?_replicate_of_lt hij, List.getElem?_replicate_of_lt (by omega)]
  intro h
  have hlt := (exact_zero.ofRat_lt_iff exact_one).2 one_pos
  rw [Option.some_inj.1 h] at hlt
  exact lt_irrefl _ ((exact_one.ofRat_lt_iff exact_one).1 hlt)

/-- The law holds if and only if the exact rank is the one that is read. -/
theorem rankLaw_iff_rankIndex {p n : ℕ} (hn : 1 ≤ n) :
    RankLaw p n ↔ rankIndex (nearestRank (p : Binary64) n) n = exactRank (p : ℚ) n - 1 := by
  have hi := rankIndex_lt (nearestRank (p : Binary64) n) hn
  have hj : exactRank (p : ℚ) n - 1 < n := by
    unfold exactRank
    omega
  constructor
  · intro law
    -- Ones from any position on are read alike by both ranks.
    have hboth : ∀ k < n, (zerosAndOnes k (n - k)).present[rankIndex
        (nearestRank (p : Binary64) n) n]? =
        (zerosAndOnes k (n - k)).present[exactRank (p : ℚ) n - 1]? := by
      intro k hk
      have hcount : (zerosAndOnes k (n - k)).count = n := by
        rw [count_zerosAndOnes]
        omega
      have hlaw := law _ (fun _ => ne_notANumber_of_mem_zerosAndOnes) hcount
      rwa [percentile?_false, hcount, ascending_zerosAndOnes] at hlaw
    rcases Nat.lt_trichotomy (rankIndex (nearestRank (p : Binary64) n) n)
      (exactRank (p : ℚ) n - 1) with hlt | heq | hgt
    · exact absurd (hboth _ hj) (getElem?_zerosAndOnes_ne hlt hj)
    · exact heq
    · exact absurd (hboth _ hi).symm (getElem?_zerosAndOnes_ne hgt hi)
  · intro heq xs _ hcount
    rw [percentile?_false, hcount, heq]

section
variable {p n : ℕ} (hp : 1 ≤ p) (hexact : Exact (p : ℚ)) (hn : 1 ≤ n)
include hexact hn

theorem rankLaw_iff_product (hword : n < 2 ^ 63) :
    RankLaw p n ↔ exactRank (p : ℚ) n =
      if product p n < overflow then (max 1 (min (n : ℤ) ⌈product p n⌉)).toNat else 1 := by
  have hrank := exactRank_pos (p : ℚ) n
  rw [rankLaw_iff_rankIndex hn, rankIndex_binary64 hexact hword]
  split <;> omega

theorem rankLaw_iff_of_ge (hp' : 100 ≤ p) (hmemory : n ≤ 2 ^ 45) :
    RankLaw p n ↔ (overflow ≤ product p n → n = 1) := by
  have hbehind := lt_product_of_ge hp' (show n + 1 ≤ 2 ^ 53 by omega)
  have hceil : (n : ℤ) < ⌈product p n⌉ := Int.lt_ceil.2 (by push_cast; linarith)
  have hlast : (n : ℤ) ≤ ⌈(p : ℚ) * (n + 1) / 100⌉ := by
    have hproduct : (n : ℚ) * 100 ≤ p * (n + 1) := by exact_mod_cast (by nlinarith)
    refine Int.le_ceil_iff.2 ?_
    rw [lt_div_iff₀ (by norm_num)]
    push_cast
    linarith
  rw [rankLaw_iff_product hexact hn (by omega)]
  unfold exactRank
  by_cases hfits : product p n < overflow
  · rw [if_pos hfits]
    have hfalse : ¬overflow ≤ product p n := not_le.2 hfits
    simp only [hfalse, false_imp_iff, iff_true]
    omega
  · rw [if_neg hfits]
    simp only [not_lt.1 hfits, true_imp_iff]
    omega

include hp

theorem rankLaw_iff_of_le (hp' : p ≤ 100) (hmemory : n ≤ 2 ^ 45) :
    RankLaw p n ↔ ¬(100 ∣ p * (n + 1) ∧ p * (n + 1) < 100 * n ∧
      ((p * (n + 1) : ℕ) : ℚ) < 100 * product p n) := by
  have habove : ((p * (n + 1) : ℕ) : ℚ) / 100 < product p n ↔
      ((p * (n + 1) : ℕ) : ℚ) < 100 * product p n := div_lt_iff₀' (by norm_num)
  rw [rankLaw_iff_product hexact hn (by omega), if_pos (product_lt_overflow hp hp' hmemory),
    ceil_product hp hp' hmemory]
  unfold exactRank
  by_cases hlost : 100 ∣ p * (n + 1) ∧ ((p * (n + 1) : ℕ) : ℚ) / 100 < product p n
  · rw [if_pos hlost]
    obtain ⟨⟨k, hk⟩, hlt⟩ := hlost
    have hpos : 0 < p * (n + 1) := Nat.mul_pos hp n.succ_pos
    have hwhole : (p : ℚ) * (n + 1) / 100 = (k : ℤ) := by
      have hcast : ((p * (n + 1) : ℕ) : ℚ) = (100 * k : ℕ) := congrArg _ hk
      push_cast at hcast ⊢
      linarith
    rw [hwhole, Int.ceil_intCast]
    constructor
    · rintro hsame ⟨-, hbelow, -⟩
      omega
    · intro hnot
      have hge : ¬p * (n + 1) < 100 * n := fun hbelow => hnot ⟨⟨k, hk⟩, hbelow, habove.1 hlt⟩
      omega
  · rw [if_neg hlost, add_zero]
    exact iff_of_true rfl fun h => hlost ⟨h.1, habove.2 h.2.2⟩

end

/-- The rank that is read is the next whole number not below the rounded product, or the first where
the product is too large, and the law holds where that is the exact rank.  Up to `2 ^ 45` samples
it fails in two cases only: the exact product is a whole number below the number of samples and the
rounded one lies above it, or the product is too large and there is more than one sample. -/
theorem rankLaw_iff {p n : ℕ} (hp : 1 ≤ p) (hexact : Exact (p : ℚ)) (hn : 1 ≤ n)
    (hword : n < 2 ^ 63) :
    (RankLaw p n ↔ exactRank (p : ℚ) n =
      if product p n < overflow then (max 1 (min (n : ℤ) ⌈product p n⌉)).toNat else 1) ∧
    (n ≤ 2 ^ 45 → (RankLaw p n ↔
      ¬(100 ∣ p * (n + 1) ∧ p * (n + 1) < 100 * n ∧
        ((p * (n + 1) : ℕ) : ℚ) < 100 * product p n) ∧
      (overflow ≤ product p n → n = 1))) := by
  refine ⟨rankLaw_iff_product hexact hn hword, fun hmemory => ?_⟩
  rcases le_total p 100 with hle | hge
  · have hfits : ¬overflow ≤ product p n := not_le.2 (product_lt_overflow hp hle hmemory)
    rw [rankLaw_iff_of_le hp hexact hn hle hmemory]
    exact (and_iff_left fun h => absurd h hfits).symm
  · have hbehind : ¬p * (n + 1) < 100 * n := by
      have hmul : 100 * (n + 1) ≤ p * (n + 1) := Nat.mul_le_mul_right _ hge
      omega
    rw [rankLaw_iff_of_ge hexact hn hge hmemory]
    exact (and_iff_right fun h => hbehind h.2.1).symm

/-- Thirty hundredths are rounded down, and three times ten of them still make three. -/
theorem rankLaw_iff_thirty :
    1 ≤ 30 ∧ Exact ((30 : ℕ) : ℚ) ∧ 1 ≤ 9 ∧ 9 < 2 ^ 63 ∧ 100 ∣ 30 * (9 + 1) ∧
      product 30 9 = 3 ∧ RankLaw 30 9 := by
  have hexact : Exact ((30 : ℕ) : ℚ) := exact_natCast (by norm_num)
  have hproduct : product 30 9 = 3 := by decide +kernel
  have hfits : product 30 9 < overflow :=
    product_lt_overflow (by norm_num) (by norm_num) (by norm_num)
  refine ⟨by norm_num, hexact, by norm_num, by norm_num, by norm_num, hproduct, ?_⟩
  refine ((rankLaw_iff (by norm_num) hexact (by norm_num) (by norm_num)).2 (by norm_num)).2 ⟨?_, ?_⟩
  · rintro ⟨-, -, habove⟩
    rw [hproduct] at habove
    norm_num at habove
  · exact fun h => absurd hfits (not_lt.2 h)

/-- Seven hundredths are rounded up, and a hundred of them are more than seven: of 99 samples the
eighth is read for the seventh. -/
theorem not_rankLaw_seven : ¬RankLaw 7 99 := by
  have hproduct : product 7 99 = 7881299347898369 / 2 ^ 50 := by decide +kernel
  rw [rankLaw_iff_of_le (by norm_num) (exact_natCast (by norm_num)) (by norm_num) (by norm_num)
    (by norm_num), hproduct]
  norm_num

end MetricSeries

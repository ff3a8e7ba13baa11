import Mathlib
import MetricSeries.Proofs.Season

set_option autoImplicit false

namespace MetricSeries.Samples

/-- The same is in the place `c` of each of so many periods. -/
def Agree {β : Type} (n repeats : Nat) (xs : List β) (c : Nat) : Prop :=
  ∀ k < repeats, xs[k * n + c]? = xs[c]?

theorem place_lt {n repeats k c : Nat} (hk : k < repeats) (hc : c < n) :
    k * n + c < n * repeats := by
  have hperiods : (k + 1) * n ≤ repeats * n := Nat.mul_le_mul_right n hk
  rw [Nat.succ_mul] at hperiods
  rw [Nat.mul_comm n repeats]
  omega

theorem agree_map_some_iff {β : Type} {n repeats c : Nat} {xs : List β} :
    Agree n repeats (xs.map some) c ↔ Agree n repeats xs c := by
  unfold Agree
  simp only [List.getElem?_map]
  exact forall₂_congr fun k _ => (Option.map_injective (Option.some_injective β)).eq_iff

theorem blocks_take {β : Type} (n repeats : Nat) (xs : List β) :
    blocks n repeats (xs.take (n * repeats)) = blocks n repeats xs := by
  rw [blocks_eq_map, blocks_eq_map]
  refine List.map_congr_left fun k hk => ?_
  have hk : k < repeats := List.mem_range.1 hk
  have hperiods : (k + 1) * n ≤ repeats * n := Nat.mul_le_mul_right n hk
  rw [Nat.succ_mul] at hperiods
  rw [List.drop_take, List.take_take, Nat.min_eq_left]
  rw [Nat.mul_comm n repeats]
  omega

theorem ofValues_congr {α : Type} [Zero α] [Add α] [Sub α] [Mul α] [Div α] [NatCast α]
    [SquareRoot α] {repeats : Nat} {values other : List α}
    (hlength : other.length / repeats = values.length / repeats)
    (htake : other.take (values.length / repeats * repeats) =
      values.take (values.length / repeats * repeats)) :
    Season.ofValues repeats other = Season.ofValues repeats values := by
  have hblocks : blocks (values.length / repeats) repeats other =
      blocks (values.length / repeats) repeats values := by
    rw [← blocks_take, htake, blocks_take]
  unfold Season.ofValues
  simp only [hlength, hblocks]

section
variable {n repeats : Nat} {values other : List ℝ} {c : Nat}

theorem slotMean_congr (h : ∀ k < repeats, other.getD (k * n + c) 0 = values.getD (k * n + c) 0) :
    slotMean n repeats other c = slotMean n repeats values c := by
  unfold slotMean
  rw [Finset.sum_congr rfl fun k hk => h k (Finset.mem_range.1 hk)]

theorem slotDeviation_congr
    (h : ∀ k < repeats, other.getD (k * n + c) 0 = values.getD (k * n + c) 0) :
    slotDeviation n repeats other c = slotDeviation n repeats values c := by
  unfold slotDeviation
  rw [slotMean_congr h]
  rw [Finset.sum_congr rfl fun k hk => by rw [h k (Finset.mem_range.1 hk)]]

end

theorem ofValues_eq_slots {repeats : Nat} (hr : repeats ≠ 0) (values : List ℝ) :
    Season.ofValues repeats values =
      ⟨(List.range (values.length / repeats)).map
          (slotMean (values.length / repeats) repeats values),
        (List.range (values.length / repeats)).map
          (slotDeviation (values.length / repeats) repeats values)⟩ := by
  by_cases hn : values.length / repeats = 0
  · unfold Season.ofValues
    simp [hn]
  · have hwhole : values.length / repeats * repeats ≤ values.length := Nat.div_mul_le_self _ _
    have hlength : (values.take (values.length / repeats * repeats)).length =
        values.length / repeats * repeats := List.length_take_of_le hwhole
    have hseason : Season.ofValues repeats values =
        Season.ofValues repeats (values.take (values.length / repeats * repeats)) := by
      refine ofValues_congr ?_ ?_
      · rw [hlength, Nat.mul_div_cancel _ (Nat.pos_of_ne_zero hr)]
      · rw [hlength, Nat.mul_div_cancel _ (Nat.pos_of_ne_zero hr), List.take_take, Nat.min_self]
    rw [hseason, ofValues_eq hn hr hlength]
    generalize values.length / repeats = n at *
    have hsample : ∀ c < n, ∀ k < repeats,
        (values.take (n * repeats)).getD (k * n + c) 0 = values.getD (k * n + c) 0 := by
      intro c hc k hk
      simp [List.getD_eq_getElem?_getD, place_lt hk hc]
    congr 1
    · exact List.map_congr_left fun c hc => slotMean_congr (hsample c (List.mem_range.1 hc))
    · exact List.map_congr_left fun c hc => slotDeviation_congr (hsample c (List.mem_range.1 hc))

section
variable {n repeats : Nat} {values : List ℝ} {c : Nat}

theorem sum_eq_mul_slotMean (hr : repeats ≠ 0) :
    ∑ k ∈ Finset.range repeats, values.getD (k * n + c) 0 =
      repeats * slotMean n repeats values c := by
  have hcount : (repeats : ℝ) ≠ 0 := Nat.cast_ne_zero.2 hr
  rw [slotMean, mul_div_cancel₀ _ hcount]

theorem sum_sub_slotMean_sq (hr : repeats ≠ 0) :
    ∑ k ∈ Finset.range repeats, (values.getD (k * n + c) 0 - slotMean n repeats values c) ^ 2 =
      ∑ k ∈ Finset.range repeats, values.getD (k * n + c) 0 ^ 2 -
        repeats * slotMean n repeats values c ^ 2 := by
  have hsum : ∑ k ∈ Finset.range repeats, values.getD (k * n + c) 0 =
      repeats * slotMean n repeats values c := sum_eq_mul_slotMean hr
  generalize slotMean n repeats values c = m at *
  have hexpand : ∀ x : ℝ, (x - m) ^ 2 = x ^ 2 - 2 * m * x + m ^ 2 := fun x => by ring
  simp only [hexpand, Finset.sum_add_distrib, Finset.sum_sub_distrib, ← Finset.mul_sum, hsum,
    Finset.sum_const, Finset.card_range, nsmul_eq_mul]
  ring

theorem slotVariance_nonneg :
    0 ≤ (∑ k ∈ Finset.range repeats,
      (values.getD (k * n + c) 0 - slotMean n repeats values c) ^ 2) / (repeats : ℝ) :=
  div_nonneg (Finset.sum_nonneg fun _ _ => sq_nonneg _) (Nat.cast_nonneg repeats)

theorem slotDeviation_nonneg : 0 ≤ slotDeviation n repeats values c :=
  Real.sqrt_nonneg _

/-- The square of a deviation is the mean of the squares less the square of the mean. -/
theorem slotDeviation_sq (hr : repeats ≠ 0) :
    slotDeviation n repeats values c ^ 2 =
      (∑ k ∈ Finset.range repeats, values.getD (k * n + c) 0 ^ 2) / repeats -
        slotMean n repeats values c ^ 2 := by
  have hcount : (repeats : ℝ) ≠ 0 := Nat.cast_ne_zero.2 hr
  rw [slotDeviation, Real.sq_sqrt slotVariance_nonneg, sum_sub_slotMean_sq hr, sub_div,
    mul_div_cancel_left₀ _ hcount]

theorem slotMean_of_same (hr : repeats ≠ 0) {x : ℝ}
    (h : ∀ k < repeats, values.getD (k * n + c) 0 = x) : slotMean n repeats values c = x := by
  have hcount : (repeats : ℝ) ≠ 0 := Nat.cast_ne_zero.2 hr
  rw [slotMean, Finset.sum_congr rfl fun k hk => h k (Finset.mem_range.1 hk), Finset.sum_const,
    Finset.card_range, nsmul_eq_mul, mul_div_cancel_left₀ _ hcount]

/-- A slot deviates from nothing but its mean, so all its observations are the same when it does not
deviate. -/
theorem slotDeviation_eq_zero_iff_same (hr : repeats ≠ 0) :
    slotDeviation n repeats values c = 0 ↔
      ∀ k < repeats, values.getD (k * n + c) 0 = values.getD c 0 := by
  have hcount : (repeats : ℝ) ≠ 0 := Nat.cast_ne_zero.2 hr
  constructor
  · intro h
    have hmean : ∀ k < repeats, values.getD (k * n + c) 0 = slotMean n repeats values c := by
      rw [slotDeviation, Real.sqrt_eq_zero slotVariance_nonneg, div_eq_zero_iff, or_iff_left hcount,
        Finset.sum_eq_zero_iff_of_nonneg fun _ _ => sq_nonneg _] at h
      intro k hk
      exact sub_eq_zero.1 (pow_eq_zero_iff two_ne_zero |>.1 (h k (Finset.mem_range.2 hk)))
    have hfirst := hmean 0 (Nat.pos_of_ne_zero hr)
    rw [Nat.zero_mul, Nat.zero_add] at hfirst
    intro k hk
    rw [hmean k hk, hfirst]
  · intro h
    have hzero : ∀ k ∈ Finset.range repeats,
        (values.getD (k * n + c) 0 - values.getD c 0) ^ 2 = 0 := by
      intro k hk
      rw [h k (Finset.mem_range.1 hk), sub_self, zero_pow two_ne_zero]
    rw [slotDeviation, slotMean_of_same hr h, Finset.sum_eq_zero hzero, zero_div, Real.sqrt_zero]

theorem slotDeviation_eq_zero_iff (hr : repeats ≠ 0) (hlong : n * repeats ≤ values.length)
    (hc : c < n) : slotDeviation n repeats values c = 0 ↔ Agree n repeats values c := by
  have hplace : ∀ k < repeats, k * n + c < values.length := fun k hk =>
    (place_lt hk hc).trans_le hlong
  have hfirst : c < values.length := by simpa using hplace 0 (Nat.pos_of_ne_zero hr)
  rw [slotDeviation_eq_zero_iff_same hr]
  refine forall₂_congr fun k hk => ?_
  simp [List.getD_eq_getElem?_getD, hplace k hk, hfirst]

theorem slot_reorder {other : List ℝ} (σ : Equiv.Perm (Fin repeats))
    (h : ∀ k : Fin repeats, other.getD (k * n + c) 0 = values.getD (σ k * n + c) 0) :
    slotMean n repeats other c = slotMean n repeats values c ∧
      slotDeviation n repeats other c = slotDeviation n repeats values c := by
  have hmean : slotMean n repeats other c = slotMean n repeats values c := by
    unfold slotMean
    rw [Finset.sum_range, Finset.sum_range, Finset.sum_congr rfl fun k _ => h k,
      Equiv.sum_comp σ fun k : Fin repeats => values.getD (k * n + c) 0]
  refine ⟨hmean, ?_⟩
  unfold slotDeviation
  rw [hmean, Finset.sum_range, Finset.sum_range, Finset.sum_congr rfl fun k _ => by rw [h k],
    Equiv.sum_comp σ fun k : Fin repeats =>
      (values.getD (k * n + c) 0 - slotMean n repeats values c) ^ 2]

theorem slot_add {other : List ℝ} (hr : repeats ≠ 0) (x : ℝ)
    (h : ∀ k < repeats, other.getD (k * n + c) 0 = values.getD (k * n + c) 0 + x) :
    slotMean n repeats other c = slotMean n repeats values c + x ∧
      slotDeviation n repeats other c = slotDeviation n repeats values c := by
  have hcount : (repeats : ℝ) ≠ 0 := Nat.cast_ne_zero.2 hr
  have hmean : slotMean n repeats other c = slotMean n repeats values c + x := by
    unfold slotMean
    rw [Finset.sum_congr rfl fun k hk => h k (Finset.mem_range.1 hk), Finset.sum_add_distrib,
      Finset.sum_const, Finset.card_range, nsmul_eq_mul, add_div, mul_div_cancel_left₀ _ hcount]
  refine ⟨hmean, ?_⟩
  unfold slotDeviation
  rw [hmean, Finset.sum_congr rfl fun k hk => by
    rw [h k (Finset.mem_range.1 hk), add_sub_add_right_eq_sub]]

end

/-- A season of so many periods is known slot by slot, and told by whole periods alone. -/
theorem season_columnwise (values : List ℝ) {repeats : Nat} (hr : 1 ≤ repeats) :
    let n := values.length / repeats
    let sample := fun k c => values.getD (k * n + c) 0
    let season := Season.ofValues repeats values
    season.mean.length = n ∧ season.deviation.length = n ∧
    (∀ c < n, ∃ m s, season.mean[c]? = some m ∧ season.deviation[c]? = some s ∧
      m = (∑ k ∈ Finset.range repeats, sample k c) / repeats ∧
      0 ≤ s ∧ s ^ 2 = (∑ k ∈ Finset.range repeats, sample k c ^ 2) / repeats - m ^ 2 ∧
      (s = 0 ↔ Agree n repeats values c)) ∧
    (∀ other : List ℝ, other.length / repeats = n →
      other.take (n * repeats) = values.take (n * repeats) →
      Season.ofValues repeats other = season) ∧
    (∀ (other : List ℝ) (σ : Equiv.Perm (Fin repeats)), other.length / repeats = n →
      (∀ (k : Fin repeats), ∀ c < n, other[k * n + c]? = values[σ k * n + c]?) →
      Season.ofValues repeats other = season) ∧
    ∀ x, Season.ofValues repeats (values.map (· + x)) =
      ⟨season.mean.map (· + x), season.deviation⟩ := by
  intro n sample season
  have hr : repeats ≠ 0 := Nat.one_le_iff_ne_zero.1 hr
  have hlong : n * repeats ≤ values.length := Nat.div_mul_le_self _ _
  have hseason : season = ⟨(List.range n).map (slotMean n repeats values),
      (List.range n).map (slotDeviation n repeats values)⟩ := ofValues_eq_slots hr values
  refine ⟨by simp [hseason], by simp [hseason], fun c hc => ?_, fun other => ofValues_congr,
    fun other σ hlength hperiods => ?_, fun x => ?_⟩
  · refine ⟨_, _, ?_, ?_, rfl, slotDeviation_nonneg, slotDeviation_sq hr,
      slotDeviation_eq_zero_iff hr hlong hc⟩
    · simp [hseason, hc, slotMean, sample]
    · simp [hseason, hc]
  · have hsame : ∀ c < n, ∀ k : Fin repeats,
        other.getD (k * n + c) 0 = values.getD (σ k * n + c) 0 := by
      intro c hc k
      rw [List.getD_eq_getElem?_getD, List.getD_eq_getElem?_getD, hperiods k c hc]
    rw [ofValues_eq_slots hr, hlength, hseason]
    congr 1
    · exact List.map_congr_left fun c hc => (slot_reorder σ (hsame c (List.mem_range.1 hc))).1
    · exact List.map_congr_left fun c hc => (slot_reorder σ (hsame c (List.mem_range.1 hc))).2
  · have hmore : ∀ c < n, ∀ k < repeats,
        (values.map (· + x)).getD (k * n + c) 0 = values.getD (k * n + c) 0 + x := by
      intro c hc k hk
      have hplace : k * n + c < values.length := (place_lt hk hc).trans_le hlong
      simp [List.getD_eq_getElem?_getD, hplace]
    rw [ofValues_eq_slots hr, List.length_map, hseason, List.map_map]
    congr 1
    · exact List.map_congr_left fun c hc => (slot_add hr x (hmore c (List.mem_range.1 hc))).1
    · exact List.map_congr_left fun c hc => (slot_add hr x (hmore c (List.mem_range.1 hc))).2

/-- Two periods of two samples and one sample behind them. -/
theorem season_columnwise_twoPeriods :
    let season := Season.ofValues 2 [(1 : ℝ), 1, 3, 3, 7]
    season.mean.length = 2 ∧ Season.ofValues 2 [3, 3, 1, 1] = season ∧
    ∃ m s, season.mean[0]? = some m ∧ season.deviation[0]? = some s ∧ m = 2 ∧ s ^ 2 = 1 := by
  intro season
  obtain ⟨hlength, -, hslots, -, hreorder, -⟩ :=
    season_columnwise [1, 1, 3, 3, 7] (show 1 ≤ 2 by decide)
  obtain ⟨m, s, hm, hs, hmean, -, hsquare, -⟩ := hslots 0 (by decide)
  have htwo : m = 2 := by
    rw [hmean]
    norm_num [Finset.sum_range_succ]
  refine ⟨hlength, hreorder [3, 3, 1, 1] (Equiv.swap 0 1) rfl ?_, m, s, hm, hs, htwo, ?_⟩
  · intro k c hc
    have hc : c < 2 := hc
    interval_cases c <;> fin_cases k <;> rfl
  · rw [hsquare, htwo]
    norm_num [Finset.sum_range_succ]

end MetricSeries.Samples

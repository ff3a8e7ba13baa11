import Mathlib
import MetricSeries.Samples.Season
import MetricSeries.Proofs.Exact

set_option autoImplicit false

namespace MetricSeries

namespace Samples

section
variable {α : Type} [Add α] [Sub α] [Mul α] [Div α] [NatCast α]

theorem length_bridge (n : Nat) (a b : Option α) : (bridge n a b).length = n := by
  cases a <;> cases b <;> simp [bridge]

theorem length_fillAfter (before : Option α) (n : Nat) (xs : Samples α) :
    (fillAfter before n xs).length = n + xs.length := by
  induction xs generalizing before n with
  | nil => simp [fillAfter, length_bridge]
  | cons x xs ih =>
    cases x with
    | none =>
      rw [fillAfter, ih, List.length_cons]
      omega
    | some x => simp [fillAfter, ih, length_bridge]

theorem length_fill (xs : Samples α) : (fill xs).length = xs.length := by
  simp [fill, length_fillAfter]

theorem bridge_of_left (n : Nat) (a : α) (b : Option α) :
    ∃ values : List α, bridge n (some a) b = values.map some := by
  cases b with
  | none => exact ⟨List.replicate n a, by simp [bridge]⟩
  | some b =>
    refine ⟨(List.range n).map fun i => a + (b - a) * ((i + 1 : Nat) : α) / ((n + 1 : Nat) : α), ?_⟩
    simp [bridge, Function.comp_def]

theorem bridge_of_right (n : Nat) (a : Option α) (b : α) :
    ∃ values : List α, bridge n a (some b) = values.map some := by
  cases a with
  | none => exact ⟨List.replicate n b, by simp [bridge]⟩
  | some a => exact bridge_of_left n a (some b)

theorem fillAfter_of_known (a : α) (n : Nat) (xs : Samples α) :
    ∃ values : List α, fillAfter (some a) n xs = values.map some := by
  induction xs generalizing a n with
  | nil => exact bridge_of_left n a none
  | cons x xs ih =>
    cases x with
    | none => exact ih a (n + 1)
    | some x =>
      obtain ⟨gap, hgap⟩ := bridge_of_left n a (some x)
      obtain ⟨rest, hrest⟩ := ih x 0
      exact ⟨gap ++ x :: rest, by simp [fillAfter, hgap, hrest]⟩

theorem fillAfter_of_mem (n : Nat) {xs : Samples α} {x : α} (h : some x ∈ xs) :
    ∃ values : List α, fillAfter none n xs = values.map some := by
  induction xs generalizing n with
  | nil => simp at h
  | cons y xs ih =>
    cases y with
    | none => exact ih (n + 1) (by simpa using h)
    | some y =>
      obtain ⟨gap, hgap⟩ := bridge_of_right n none y
      obtain ⟨rest, hrest⟩ := fillAfter_of_known y 0 xs
      exact ⟨gap ++ y :: rest, by simp [fillAfter, hgap, hrest]⟩

theorem fillAfter_of_absent (n : Nat) {xs : Samples α} (h : ∀ x ∈ xs, x = none) :
    fillAfter none n xs = List.replicate (n + xs.length) none := by
  induction xs generalizing n with
  | nil => rfl
  | cons x xs ih =>
    obtain rfl := h x (by simp)
    rw [fillAfter, ih (n + 1) fun x hx => h x (by simp [hx]), List.length_cons]
    congr 1
    omega

theorem fill_of_mem {xs : Samples α} {x : α} (h : some x ∈ xs) :
    ∃ values : List α, fill xs = values.map some ∧ values.length = xs.length := by
  obtain ⟨values, hvalues⟩ := fillAfter_of_mem 0 h
  refine ⟨values, hvalues, ?_⟩
  have hlength := length_fill xs
  rw [fill, hvalues, List.length_map] at hlength
  exact hlength

theorem fill_of_absent {xs : Samples α} (h : ∀ x ∈ xs, x = none) :
    fill xs = List.replicate xs.length none := by
  rw [fill, fillAfter_of_absent 0 h, Nat.zero_add]

end

theorem mapM_id_map_some {α : Type} (values : List α) :
    (values.map some).mapM id = some values := by
  induction values with
  | nil => rfl
  | cons x values ih => simp [ih]

theorem blocks_eq_map {α : Type} (n k : Nat) (xs : List α) :
    blocks n k xs = (List.range k).map fun j => (xs.drop (j * n)).take n := by
  induction k generalizing xs with
  | zero => rfl
  | succ k ih =>
    rw [blocks, ih, List.range_succ_eq_map, List.map_cons, List.map_map]
    congr 1
    · simp
    · refine List.map_congr_left fun j _ => ?_
      simp only [Function.comp_apply, List.drop_drop]
      congr 2
      rw [Nat.succ_mul]
      omega

theorem foldl_zipWith_add (rows : List (List ℝ)) {n : Nat} {sums : List ℝ} (hs : sums.length = n)
    (h : ∀ row ∈ rows, row.length = n) :
    rows.foldl (List.zipWith (· + ·)) sums =
      (List.range n).map fun c => sums.getD c 0 + (rows.map fun row => row.getD c 0).sum := by
  induction rows generalizing sums with
  | nil =>
    refine List.ext_getElem (by simp [hs]) fun c hc _ => ?_
    have hlt : c < sums.length := by simpa using hc
    simp [hlt]
  | cons row rows ih =>
    have hrow : row.length = n := h row (by simp)
    have hlength : (List.zipWith (· + ·) sums row).length = n := by simp [hs, hrow]
    rw [List.foldl_cons, ih hlength fun row hr => h row (by simp [hr])]
    refine List.map_congr_left fun c hc => ?_
    have hc : c < n := List.mem_range.1 hc
    have hget : (List.zipWith (· + ·) sums row).getD c 0 = sums.getD c 0 + row.getD c 0 := by
      simp [List.getD_eq_getElem?_getD, hs, hrow, hc]
    rw [hget, List.map_cons, List.sum_cons, add_assoc]

theorem slotMeans_eq (n : Nat) {rows : List (List ℝ)} (h : ∀ row ∈ rows, row.length = n) :
    slotMeans n rows =
      (List.range n).map fun c => (rows.map fun row => row.getD c 0).sum / (rows.length : ℝ) := by
  unfold slotMeans
  rw [foldl_zipWith_add rows (by simp) h, List.map_map]
  refine List.map_congr_left fun c hc => ?_
  have hzero : (List.replicate n (0 : ℝ)).getD c 0 = 0 := by
    rw [List.getD_eq_getElem?_getD, List.getElem?_replicate, if_pos (List.mem_range.1 hc),
      Option.getD_some]
  rw [Function.comp_apply, hzero, zero_add]

/-- The mean of one slot: of the samples `c`, `n + c`, `2 * n + c` and so on. -/
noncomputable def slotMean (n repeats : Nat) (values : List ℝ) (c : Nat) : ℝ :=
  (∑ k ∈ Finset.range repeats, values.getD (k * n + c) 0) / repeats

/-- The standard deviation of one slot, as that of a whole population. -/
noncomputable def slotDeviation (n repeats : Nat) (values : List ℝ) (c : Nat) : ℝ :=
  Real.sqrt ((∑ k ∈ Finset.range repeats,
    (values.getD (k * n + c) 0 - slotMean n repeats values c) ^ 2) / repeats)

theorem length_block {α : Type} {n repeats : Nat} {values : List α}
    (h : values.length = n * repeats) {k : Nat} (hk : k < repeats) :
    ((values.drop (k * n)).take n).length = n := by
  have hle : (k + 1) * n ≤ repeats * n := Nat.mul_le_mul_right n hk
  rw [Nat.succ_mul] at hle
  rw [List.length_take, List.length_drop, h, Nat.mul_comm n repeats]
  omega

theorem length_of_mem_blocks {α : Type} {n repeats : Nat} {values : List α}
    (h : values.length = n * repeats) {row : List α} (hrow : row ∈ blocks n repeats values) :
    row.length = n := by
  rw [blocks_eq_map] at hrow
  obtain ⟨k, hk, rfl⟩ := List.mem_map.1 hrow
  exact length_block h (List.mem_range.1 hk)

section
variable {α : Type} [Zero α] [Add α] [Div α] [NatCast α]

theorem length_slotMeans (n : Nat) {rows : List (List α)} (h : ∀ row ∈ rows, row.length = n) :
    (slotMeans n rows).length = n := by
  have hsums : ∀ sums : List α, sums.length = n →
      (rows.foldl (List.zipWith (· + ·)) sums).length = n := by
    induction rows with
    | nil => simp
    | cons row rows ih =>
      intro sums hsums
      have hrow : row.length = n := h row (by simp)
      exact ih (fun row hr => h row (by simp [hr])) _ (by simp [hsums, hrow])
  rw [slotMeans, List.length_map]
  exact hsums _ (by simp)

theorem length_ofValues [Sub α] [Mul α] [SquareRoot α] {n repeats : Nat} (hr : repeats ≠ 0)
    {values : List α} (h : values.length = n * repeats) :
    (Season.ofValues repeats values).mean.length = n ∧
      (Season.ofValues repeats values).deviation.length = n := by
  have hperiod : values.length / repeats = n := by
    rw [h, Nat.mul_div_cancel _ (Nat.pos_of_ne_zero hr)]
  unfold Season.ofValues
  simp only [hperiod]
  split
  · simp_all
  · have hmean := length_slotMeans n fun row hrow => length_of_mem_blocks h hrow
    refine ⟨hmean, ?_⟩
    rw [List.length_map]
    refine length_slotMeans n fun row hrow => ?_
    obtain ⟨block, hblock, rfl⟩ := List.mem_map.1 hrow
    rw [squares, List.length_zipWith, length_of_mem_blocks h hblock, hmean, Nat.min_self]

end

theorem getD_block (n : Nat) (values : List ℝ) (k : Nat) {c : Nat} (hc : c < n) :
    ((values.drop (k * n)).take n).getD c 0 = values.getD (k * n + c) 0 := by
  simp [List.getD_eq_getElem?_getD, hc]

/-- A sum over the periods, of something that is read off the sample of a slot. -/
theorem sum_blocks (n repeats : Nat) (values : List ℝ) (f : List ℝ → ℝ) (g : ℝ → ℝ) {c : Nat}
    (hf : ∀ k < repeats, f ((values.drop (k * n)).take n) = g (values.getD (k * n + c) 0)) :
    ((blocks n repeats values).map f).sum =
      ∑ k ∈ Finset.range repeats, g (values.getD (k * n + c) 0) := by
  rw [blocks_eq_map, List.map_map]
  have hsum : ((List.range repeats).map fun k => g (values.getD (k * n + c) 0)).sum =
      ∑ k ∈ Finset.range repeats, g (values.getD (k * n + c) 0) := rfl
  rw [← hsum]
  congr 1
  exact List.map_congr_left fun k hk => hf k (List.mem_range.1 hk)

theorem slotMeans_blocks {n repeats : Nat} {values : List ℝ} (h : values.length = n * repeats) :
    slotMeans n (blocks n repeats values) =
      (List.range n).map (slotMean n repeats values) := by
  rw [slotMeans_eq n fun row hrow => length_of_mem_blocks h hrow]
  refine List.map_congr_left fun c hc => ?_
  have hsum := sum_blocks n repeats values (fun row => row.getD c 0) id
    fun k _ => getD_block n values k (List.mem_range.1 hc)
  rw [hsum, blocks_eq_map, List.length_map, List.length_range]
  rfl

theorem slotMeans_squares {n repeats : Nat} {values : List ℝ} (h : values.length = n * repeats) :
    slotMeans n ((blocks n repeats values).map
        (squares ((List.range n).map (slotMean n repeats values)))) =
      (List.range n).map fun c => (∑ k ∈ Finset.range repeats,
        (values.getD (k * n + c) 0 - slotMean n repeats values c) ^ 2) / (repeats : ℝ) := by
  have hlength : ∀ row ∈ (blocks n repeats values).map
      (squares ((List.range n).map (slotMean n repeats values))), row.length = n := by
    intro row hrow
    obtain ⟨block, hblock, rfl⟩ := List.mem_map.1 hrow
    simp [squares, length_of_mem_blocks h hblock]
  rw [slotMeans_eq n hlength]
  refine List.map_congr_left fun c hc => ?_
  have hc : c < n := List.mem_range.1 hc
  have hsquare : ∀ k < repeats,
      (squares ((List.range n).map (slotMean n repeats values))
        ((values.drop (k * n)).take n)).getD c 0 =
      (values.getD (k * n + c) 0 - slotMean n repeats values c) ^ 2 := by
    intro k hk
    have hblock := length_block h hk
    rw [← getD_block n values k hc]
    generalize (values.drop (k * n)).take n = block at *
    simp [squares, List.getD_eq_getElem?_getD, hblock, hc]
    ring
  have hsum := sum_blocks n repeats values
    (fun row => (squares ((List.range n).map (slotMean n repeats values)) row).getD c 0)
    (fun x => (x - slotMean n repeats values c) ^ 2) hsquare
  rw [List.map_map, List.length_map, blocks_eq_map, List.length_map, List.length_range,
    ← blocks_eq_map, ← hsum]
  rfl

theorem ofValues_eq {n repeats : Nat} (hn : n ≠ 0) (hr : repeats ≠ 0) {values : List ℝ}
    (h : values.length = n * repeats) :
    Season.ofValues repeats values =
      ⟨(List.range n).map (slotMean n repeats values),
        (List.range n).map (slotDeviation n repeats values)⟩ := by
  have hperiod : values.length / repeats = n := by
    rw [h, Nat.mul_div_cancel _ (Nat.pos_of_ne_zero hr)]
  unfold Season.ofValues
  simp only [hperiod, if_neg hn, slotMeans_blocks h, slotMeans_squares h, List.map_map]
  rfl

end Samples

end MetricSeries

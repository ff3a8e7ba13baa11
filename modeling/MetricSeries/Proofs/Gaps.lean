import Mathlib
import MetricSeries.Proofs.Season

/-!
What stands in a gap, told by position: a sample that is filled in hangs on nothing but the nearest
known sample on either side and how far away each of them is.
-/

set_option autoImplicit false

namespace MetricSeries.Samples

variable {α : Type}

/-- The nearest known sample before a position, with its place; none where nothing is known. -/
def NearestBefore (xs : Samples α) (i : Nat) : Option (Nat × α) → Prop
  | some (l, a) => l < i ∧ xs[l]? = some (some a) ∧ ∀ j, l < j → j < i → xs[j]? = some none
  | none => ∀ j < i, xs[j]? = some none

/-- The nearest known sample behind a position, with its place; none where nothing is known. -/
def NearestAfter (xs : Samples α) (i : Nat) : Option (Nat × α) → Prop
  | some (r, b) => i < r ∧ xs[r]? = some (some b) ∧ ∀ j, i < j → j < r → xs[j]? = some none
  | none => ∀ j, i < j → j < xs.length → xs[j]? = some none

section
variable {xs : Samples α} {i : Nat}

theorem NearestBefore.unique {p q : Option (Nat × α)} (hp : NearestBefore xs i p)
    (hq : NearestBefore xs i q) : p = q := by
  cases p with
  | none =>
    cases q with
    | none => rfl
    | some q =>
      have h := hp q.1 hq.1
      simp [hq.2.1] at h
  | some p =>
    obtain ⟨l, a⟩ := p
    obtain ⟨hl, ha, hgap⟩ := hp
    cases q with
    | none =>
      have h := hq l hl
      simp [ha] at h
    | some q =>
      obtain ⟨m, b⟩ := q
      obtain ⟨hm, hb, hgap'⟩ := hq
      have hlm : ¬l < m := fun h => by simp [hgap m h hm] at hb
      have hml : ¬m < l := fun h => by simp [hgap' l h hl] at ha
      obtain rfl : l = m := by omega
      rw [ha] at hb
      rw [Option.some.inj (Option.some.inj hb)]

theorem NearestAfter.unique {p q : Option (Nat × α)} (hp : NearestAfter xs i p)
    (hq : NearestAfter xs i q) : p = q := by
  have hinside : ∀ {r : Nat} {b : α}, xs[r]? = some (some b) → r < xs.length :=
    fun h => (List.getElem?_eq_some_iff.1 h).1
  cases p with
  | none =>
    cases q with
    | none => rfl
    | some q =>
      have h := hp q.1 hq.1 (hinside hq.2.1)
      simp [hq.2.1] at h
  | some p =>
    obtain ⟨r, a⟩ := p
    obtain ⟨hr, ha, hgap⟩ := hp
    cases q with
    | none =>
      have h := hq r hr (hinside ha)
      simp [ha] at h
    | some q =>
      obtain ⟨m, b⟩ := q
      obtain ⟨hm, hb, hgap'⟩ := hq
      have hrm : ¬r < m := fun h => by simp [hgap' r hr h] at ha
      have hmr : ¬m < r := fun h => by simp [hgap m hm h] at hb
      obtain rfl : r = m := by omega
      rw [ha] at hb
      rw [Option.some.inj (Option.some.inj hb)]

end

/-- What is known when the samples from a position on are looked at: nothing at the start, and
otherwise the sample just before it. -/
def EndsWith (xs : Samples α) (start : Nat) : Option α → Prop
  | none => start = 0
  | some a => ∃ l, start = l + 1 ∧ xs[l]? = some (some a)

/-- What ends a gap: the sample at a position, or the end of the samples. -/
def GoesOnWith (xs : Samples α) (stop : Nat) : Option α → Prop
  | none => xs.length ≤ stop
  | some b => xs[stop]? = some (some b)

section
variable {xs : Samples α} {start n : Nat} (hgap : ∀ j < n, xs[start + j]? = some none)
include hgap

theorem nearestBefore_of_endsWith {before : Option α} (h : EndsWith xs start before) {i : Nat}
    (hi : i < n) : NearestBefore xs (start + i) (before.map fun a => (start - 1, a)) := by
  have habsent : ∀ j, start ≤ j → j < start + i → xs[j]? = some none := by
    intro j hj hji
    have h := hgap (j - start) (by omega)
    rwa [Nat.add_sub_cancel' hj] at h
  cases before with
  | none =>
    intro j hj
    exact habsent j (by rw [h]; omega) hj
  | some a =>
    obtain ⟨l, rfl, ha⟩ := h
    exact ⟨by omega, ha, fun j hj => habsent j (by omega)⟩

theorem nearestAfter_of_goesOnWith {after : Option α} (h : GoesOnWith xs (start + n) after)
    {i : Nat} (hi : i < n) :
    NearestAfter xs (start + i) (after.map fun b => (start + n, b)) := by
  have habsent : ∀ j, start + i < j → j < start + n → xs[j]? = some none := by
    intro j hj hjn
    have h := hgap (j - start) (by omega)
    rwa [Nat.add_sub_cancel' (by omega)] at h
  cases after with
  | none =>
    intro j hj hlength
    exact habsent j hj (hlength.trans_le h)
  | some b => exact ⟨by omega, h, habsent⟩

end

section
variable [Add α] [Sub α] [Mul α] [Div α] [NatCast α]

/-- The value at a position between two known samples: on the straight line through both, or level
with the only one. -/
def gapValue (i : Nat) : Option (Nat × α) → Option (Nat × α) → Option α
  | some (l, a), some (r, b) => some (a + (b - a) * ((i - l : Nat) : α) / ((r - l : Nat) : α))
  | some (_, a), none => some a
  | none, some (_, b) => some b
  | none, none => none

/-- What the filled samples have at a position: the sample that is there, or else what its
neighbours give. -/
inductive FilledAt (xs : Samples α) (i : Nat) : Option α → Prop where
  | known {x : α} (h : xs[i]? = some (some x)) : FilledAt xs i (some x)
  | gap {before after : Option (Nat × α)} (h : xs[i]? = some none)
      (hbefore : NearestBefore xs i before) (hafter : NearestAfter xs i after) :
      FilledAt xs i (gapValue i before after)

theorem FilledAt.unique {xs : Samples α} {i : Nat} {v w : Option α} (hv : FilledAt xs i v)
    (hw : FilledAt xs i w) : v = w := by
  cases hv with
  | known hv =>
    cases hw with
    | known hw => simp_all
    | gap hw => simp [hv] at hw
  | gap hv hbefore hafter =>
    cases hw with
    | known hw => simp [hv] at hw
    | gap _ hbefore' hafter' => rw [hbefore.unique hbefore', hafter.unique hafter']

theorem FilledAt.lt_length {xs : Samples α} {i : Nat} {v : Option α} (h : FilledAt xs i v) :
    i < xs.length := by
  cases h with
  | known h => exact (List.getElem?_eq_some_iff.1 h).1
  | gap h => exact (List.getElem?_eq_some_iff.1 h).1

variable {xs : Samples α} {start n : Nat}

theorem getElem?_bridge {before after : Option α} (hbefore : EndsWith xs start before) {i : Nat}
    (hi : i < n) : (bridge n before after)[i]? =
      some (gapValue (start + i) (before.map fun a => (start - 1, a))
        (after.map fun b => (start + n, b))) := by
  cases before with
  | none => cases after <;> simp [bridge, gapValue, hi]
  | some a =>
    cases after with
    | none => simp [bridge, gapValue, hi]
    | some b =>
      obtain ⟨l, rfl, -⟩ := hbefore
      have hleft : l + 1 + i - l = i + 1 := by omega
      have hright : l + 1 + n - l = n + 1 := by omega
      simp [bridge, gapValue, hi, hleft, hright]

/-- A whole gap, between what is known on both sides of it. -/
theorem filledAt_bridge (hgap : ∀ j < n, xs[start + j]? = some none) {before after : Option α}
    (hbefore : EndsWith xs start before) (hafter : GoesOnWith xs (start + n) after) {i : Nat}
    {v : Option α} (hv : (bridge n before after)[i]? = some v) : FilledAt xs (start + i) v := by
  have hi : i < n := by
    have h := (List.getElem?_eq_some_iff.1 hv).1
    rwa [length_bridge] at h
  rw [getElem?_bridge hbefore hi] at hv
  obtain rfl := Option.some.inj hv
  exact .gap (hgap i hi) (nearestBefore_of_endsWith hgap hbefore hi)
    (nearestAfter_of_goesOnWith hgap hafter hi)

/-- The samples from a position on, after a gap of `n` in front of them, are filled one gap after
the other. -/
theorem filledAt_fillAfter {rest : Samples α} {before : Option α}
    (hbefore : EndsWith xs start before) (hgap : ∀ j < n, xs[start + j]? = some none)
    (hrest : xs.drop (start + n) = rest) {i : Nat} {v : Option α}
    (hv : (fillAfter before n rest)[i]? = some v) : FilledAt xs (start + i) v := by
  induction rest generalizing before start n i with
  | nil =>
    have hafter : GoesOnWith xs (start + n) none := List.drop_eq_nil_iff.1 hrest
    exact filledAt_bridge hgap hbefore hafter hv
  | cons x rest ih =>
    have hx : xs[start + n]? = some x := by
      rw [← List.head?_drop, hrest, List.head?_cons]
    have hdrop : xs.drop (start + n + 1) = rest := by
      rw [← List.tail_drop, hrest, List.tail_cons]
    cases x with
    | none =>
      refine ih (n := n + 1) hbefore (fun j hj => ?_) hdrop hv
      rcases Nat.lt_succ_iff_lt_or_eq.1 hj with h | rfl
      · exact hgap j h
      · exact hx
    | some x =>
      rw [fillAfter] at hv
      by_cases hi : i < n
      · rw [List.getElem?_append_left (by rwa [length_bridge])] at hv
        have hafter : GoesOnWith xs (start + n) (some x) := hx
        exact filledAt_bridge hgap hbefore hafter hv
      · rw [List.getElem?_append_right (by rw [length_bridge]; omega), length_bridge] at hv
        rcases Nat.eq_or_lt_of_le (not_lt.1 hi) with rfl | hlt
        · rw [Nat.sub_self, List.getElem?_cons_zero] at hv
          obtain rfl := Option.some.inj hv
          exact .known hx
        · -- Behind the known sample everything starts anew, with that sample in front.
          obtain ⟨k, rfl⟩ := Nat.exists_eq_add_of_lt hlt
          have hplace : start + n + 1 + k = start + (n + k + 1) := by omega
          rw [show n + k + 1 - n = k + 1 by omega, List.getElem?_cons_succ] at hv
          rw [← hplace]
          have hfront : EndsWith xs (start + n + 1) (some x) := ⟨start + n, rfl, hx⟩
          exact ih (n := 0) hfront (by simp) hdrop hv

theorem getElem?_fill_iff {i : Nat} {v : Option α} :
    (fill xs)[i]? = some v ↔ FilledAt xs i v := by
  have hfilled : ∀ {v}, (fill xs)[i]? = some v → FilledAt xs i v := by
    intro v hv
    have hfront : EndsWith xs 0 none := rfl
    have h := filledAt_fillAfter (n := 0) hfront (by simp) rfl hv
    rwa [Nat.zero_add] at h
  refine ⟨hfilled, fun h => ?_⟩
  have hi : i < (fill xs).length := by
    rw [length_fill]
    exact h.lt_length
  obtain ⟨w, hw⟩ : ∃ w, (fill xs)[i]? = some w := ⟨_, List.getElem?_eq_getElem hi⟩
  rw [hw, (hfilled hw).unique h]

theorem fillAfter_map_some (before : Option α) (values : List α) :
    fillAfter before 0 (values.map some) = values.map some := by
  induction values generalizing before with
  | nil => cases before <;> rfl
  | cons x values ih =>
    have hbridge : bridge 0 before (some x) = [] := List.eq_nil_of_length_eq_zero (length_bridge ..)
    rw [List.map_cons, fillAfter, ih, hbridge, List.nil_append]

theorem fill_map_some (values : List α) : fill (values.map some) = values.map some :=
  fillAfter_map_some none values

theorem fill_fill (xs : Samples α) : fill (fill xs) = fill xs := by
  by_cases hknown : ∃ x, some x ∈ xs
  · obtain ⟨x, hx⟩ := hknown
    obtain ⟨values, hvalues, -⟩ := fill_of_mem hx
    rw [hvalues, fill_map_some]
  · have habsent : ∀ x ∈ xs, x = none := by
      intro x hx
      cases x with
      | none => rfl
      | some x => exact absurd ⟨x, hx⟩ hknown
    have hfill : fill xs = xs := by
      rw [fill_of_absent habsent, List.eq_replicate_of_mem habsent, List.length_replicate]
    rw [hfill, hfill]

end

theorem getElem?_reverse_mirror (xs : Samples α) {j : Nat} (hj : j < xs.length) :
    xs.reverse[xs.length - 1 - j]? = xs[j]? := by
  rw [List.getElem?_reverse (by omega)]
  congr 1
  omega

section
variable {xs : Samples α} {i : Nat} {near : Option (Nat × α)}

theorem nearestAfter_of_reverse (hi : i < xs.length) (h : NearestBefore xs.reverse i near) :
    NearestAfter xs (xs.length - 1 - i) (near.map fun p => (xs.length - 1 - p.1, p.2)) := by
  cases near with
  | none =>
    intro j hj hlength
    rw [← getElem?_reverse_mirror xs hlength]
    exact h _ (by omega)
  | some p =>
    obtain ⟨hl, ha, hgap⟩ := h
    refine ⟨by omega, ?_, fun j hj hjl => ?_⟩
    · rw [← List.getElem?_reverse (by omega)]
      exact ha
    · rw [← getElem?_reverse_mirror xs (by omega)]
      exact hgap _ (by omega) (by omega)

theorem nearestBefore_of_reverse (hi : i < xs.length) (h : NearestAfter xs.reverse i near) :
    NearestBefore xs (xs.length - 1 - i) (near.map fun p => (xs.length - 1 - p.1, p.2)) := by
  cases near with
  | none =>
    intro j hj
    rw [← getElem?_reverse_mirror xs (by omega)]
    exact h _ (by omega) (by rw [List.length_reverse]; omega)
  | some p =>
    obtain ⟨hr, hb, hgap⟩ := h
    have hlength := (List.getElem?_eq_some_iff.1 hb).1
    rw [List.length_reverse] at hlength
    refine ⟨by omega, ?_, fun j hj hji => ?_⟩
    · rw [← List.getElem?_reverse hlength]
      exact hb
    · rw [← getElem?_reverse_mirror xs (by omega)]
      exact hgap _ (by omega) (by omega)

end

section
variable [Field α]

theorem gapValue_mirror [CharZero α] {n i : Nat} {before after : Option (Nat × α)}
    (hbefore : ∀ p ∈ before, p.1 < i) (hafter : ∀ p ∈ after, i < p.1 ∧ p.1 < n) :
    gapValue (n - 1 - i) (after.map fun p => (n - 1 - p.1, p.2))
      (before.map fun p => (n - 1 - p.1, p.2)) = gapValue i before after := by
  cases before with
  | none => cases after <;> rfl
  | some p =>
    cases after with
    | none => rfl
    | some q =>
      obtain ⟨l, a⟩ := p
      obtain ⟨r, b⟩ := q
      have hl : l < i := hbefore _ rfl
      obtain ⟨hr, hn⟩ : i < r ∧ r < n := hafter _ rfl
      have hpart : n - 1 - i - (n - 1 - r) = (r - l) - (i - l) := by omega
      have hwidth : n - 1 - l - (n - 1 - r) = r - l := by omega
      have hle : i - l ≤ r - l := by omega
      have hne : ((r - l : Nat) : α) ≠ 0 := Nat.cast_ne_zero.2 (by omega)
      simp only [Option.map_some, gapValue, hpart, hwidth, Nat.cast_sub hle]
      congr 1
      field_simp
      ring

theorem FilledAt.of_reverse [CharZero α] {xs : Samples α} {i : Nat} {v : Option α}
    (h : FilledAt xs.reverse i v) : FilledAt xs (xs.length - 1 - i) v := by
  have hi : i < xs.length := by
    rw [← List.length_reverse]
    exact h.lt_length
  cases h with
  | known hx =>
    rw [List.getElem?_reverse hi] at hx
    exact .known hx
  | @gap before after hx hbefore hafter =>
    rw [List.getElem?_reverse hi] at hx
    have hplaces := FilledAt.gap hx (nearestBefore_of_reverse hi hafter)
      (nearestAfter_of_reverse hi hbefore)
    rwa [gapValue_mirror] at hplaces
    · rintro p rfl
      exact hbefore.1
    · rintro p rfl
      have hlength := (List.getElem?_eq_some_iff.1 hafter.2.1).1
      exact ⟨hafter.1, by rwa [List.length_reverse] at hlength⟩

/-- Filling does not tell forwards from backwards. -/
theorem fill_reverse [CharZero α] (xs : Samples α) : fill xs.reverse = (fill xs).reverse := by
  refine List.ext_getElem? fun i => ?_
  by_cases hi : i < (fill xs.reverse).length
  · obtain ⟨v, hv⟩ : ∃ v, (fill xs.reverse)[i]? = some v := ⟨_, List.getElem?_eq_getElem hi⟩
    rw [length_fill, List.length_reverse] at hi
    have hmirror := getElem?_fill_iff.2 (getElem?_fill_iff.1 hv).of_reverse
    rw [hv, List.getElem?_reverse (by rwa [length_fill]), length_fill, hmirror]
  · have hlength : (fill xs.reverse).length = (fill xs).reverse.length := by
      rw [length_fill, List.length_reverse, List.length_reverse, length_fill]
    rw [List.getElem?_eq_none (by omega), List.getElem?_eq_none (by omega)]

end

section
variable [Field α] [LinearOrder α] [IsStrictOrderedRing α]

theorem gapValue_mem_between {l i r : Nat} (hl : l < i) (hr : i < r) (a b : α) :
    ∃ v, gapValue i (some (l, a)) (some (r, b)) = some v ∧ min a b ≤ v ∧ v ≤ max a b := by
  have hwidth : (0 : α) < ((r - l : Nat) : α) := Nat.cast_pos.2 (by omega)
  have hpart : ((i - l : Nat) : α) ≤ ((r - l : Nat) : α) := Nat.cast_le.2 (by omega)
  set t : α := ((i - l : Nat) : α) / ((r - l : Nat) : α) with ht
  have hzero : 0 ≤ t := div_nonneg (Nat.cast_nonneg _) hwidth.le
  have hone : t ≤ 1 := (div_le_one hwidth).2 hpart
  refine ⟨_, rfl, ?_⟩
  rw [mul_div_assoc, ← ht]
  rcases le_total a b with hab | hab
  · rw [min_eq_left hab, max_eq_right hab]
    constructor <;> nlinarith
  · rw [min_eq_right hab, max_eq_left hab]
    constructor <;> nlinarith

/-- Filling leaves the known samples alone.  In a gap it draws the straight line between the nearest
known samples, it goes on level before the first and behind the last of them, and without any it
leaves all absent.  So it changes nothing when it is done again, it does not tell forwards from
backwards, and no sample in a gap passes its neighbours. -/
theorem fill_nearest (xs : Samples α) :
    (fill xs).length = xs.length ∧
    (∀ i v, (fill xs)[i]? = some v ↔ FilledAt xs i v) ∧
    fill (fill xs) = fill xs ∧
    fill xs.reverse = (fill xs).reverse ∧
    ∀ i l a r b, xs[i]? = some none → NearestBefore xs i (some (l, a)) →
      NearestAfter xs i (some (r, b)) →
        ∃ v, (fill xs)[i]? = some (some v) ∧ min a b ≤ v ∧ v ≤ max a b := by
  refine ⟨length_fill xs, fun i v => getElem?_fill_iff, fill_fill xs, fill_reverse xs, ?_⟩
  intro i l a r b hx hbefore hafter
  obtain ⟨v, hv, hbetween⟩ := gapValue_mem_between hbefore.1 hafter.1 a b
  have hfilled := getElem?_fill_iff.2 (FilledAt.gap hx hbefore hafter)
  rw [hv] at hfilled
  exact ⟨v, hfilled, hbetween⟩

end

/-- Gaps at both ends, and one in between. -/
theorem fill_nearest_three_gaps :
    let xs : Samples ℚ := [none, some 1, none, none, some 7, none]
    (fill xs)[0]? = some (some 1) ∧ (fill xs)[3]? = some (some 5) ∧
      (fill xs)[5]? = some (some 7) ∧ fill (fill xs) = fill xs ∧
      fill xs.reverse = (fill xs).reverse ∧
      ∃ v, (fill xs)[2]? = some (some v) ∧ min 1 7 ≤ v ∧ v ≤ max 1 7 := by
  intro xs
  obtain ⟨-, hat, hagain, hreverse, hbetween⟩ := fill_nearest xs
  have hleft : ∀ i, 1 < i → i < 4 → NearestBefore xs i (some (1, 1)) :=
    fun i hi hi' => ⟨hi, rfl, fun j hj hji => by interval_cases i <;> interval_cases j; rfl⟩
  have hright : ∀ i, 1 < i → i < 4 → NearestAfter xs i (some (4, 7)) :=
    fun i hi hi' => ⟨hi', rfl, fun j hj hji => by interval_cases i <;> interval_cases j; rfl⟩
  have hfirst : FilledAt xs 0 (some 1) := by
    have hnone : NearestBefore xs 0 none := fun j hj => by omega
    have hone : NearestAfter xs 0 (some (1, 1)) := ⟨by decide, rfl, fun j hj hji => by omega⟩
    exact .gap rfl hnone hone
  have hmiddle : FilledAt xs 3 (some 5) := by
    have h : FilledAt xs 3 _ := .gap rfl (hleft 3 (by decide) (by decide))
      (hright 3 (by decide) (by decide))
    have hvalue : gapValue 3 (some (1, (1 : ℚ))) (some (4, 7)) = some 5 := by
      norm_num [gapValue]
    rwa [hvalue] at h
  have hlast : FilledAt xs 5 (some 7) := by
    have hseven : NearestBefore xs 5 (some (4, 7)) := ⟨by decide, rfl, fun j hj hji => by omega⟩
    have hnone : NearestAfter xs 5 none := fun j hj hlength => absurd hlength (by simp [xs]; omega)
    exact .gap rfl hseven hnone
  exact ⟨(hat 0 _).2 hfirst, (hat 3 _).2 hmiddle, (hat 5 _).2 hlast, hagain, hreverse,
    hbetween 2 1 1 4 7 rfl (hleft 2 (by decide) (by decide)) (hright 2 (by decide) (by decide))⟩

end MetricSeries.Samples

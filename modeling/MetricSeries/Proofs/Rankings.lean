import Mathlib
import MetricSeries.Operation.Order

set_option autoImplicit false

namespace MetricSeries

section
variable {β : Type} {before : β → β → Bool}

/-- Any two members of a list can be set in order, and so can all of them. -/
structure Sortable (before : β → β → Bool) (list : List β) : Prop where
  total : ∀ a ∈ list, ∀ b ∈ list, (before a b || before b a) = true
  trans : ∀ a ∈ list, ∀ b ∈ list, ∀ c ∈ list,
    before a b = true → before b c = true → before a c = true

def tied (before : β → β → Bool) (a b : β) : Bool :=
  before a b && before b a

namespace Sortable

variable {list : List β}

theorem mergeSort_eq_map_val (before : β → β → Bool) (list : List β) :
    list.mergeSort before =
      (list.attach.mergeSort fun a b => before a.val b.val).map Subtype.val := by
  rw [List.map_mergeSort (s := before) fun _ _ _ _ => rfl, List.attach_map_subtype_val]

variable (h : Sortable before list)
include h

theorem refl {a : β} (ha : a ∈ list) : before a a = true := by
  simpa using h.total a ha a ha

theorem pairwise_mergeSort : (list.mergeSort before).Pairwise fun a b => before a b = true := by
  rw [mergeSort_eq_map_val, List.pairwise_map]
  refine List.pairwise_mergeSort (fun a b c => ?_) (fun a b => ?_) list.attach
  · exact h.trans a a.property b b.property c c.property
  · exact h.total a a.property b b.property

theorem sublist_mergeSort {part : List β} (hpart : part.Pairwise fun a b => before a b = true)
    (hsub : part.Sublist list) : part.Sublist (list.mergeSort before) := by
  rw [← List.attach_map_subtype_val list] at hsub
  obtain ⟨members, hmembers, rfl⟩ := List.sublist_map_iff.1 hsub
  rw [mergeSort_eq_map_val]
  refine List.Sublist.map _ ?_
  refine List.sublist_mergeSort (fun a b c => ?_) (fun a b => ?_) (List.pairwise_map.1 hpart)
    hmembers
  · exact h.trans a a.property b b.property c c.property
  · exact h.total a a.property b b.property

/-- Those that are tied with one another keep their order. -/
theorem filter_mergeSort {a : β} (ha : a ∈ list) :
    (list.mergeSort before).filter (tied before a) = list.filter (tied before a) := by
  have hpairwise : (list.filter (tied before a)).Pairwise fun b c => before b c = true := by
    refine List.pairwise_of_forall_mem_list fun b hb c hc => ?_
    obtain ⟨hb, hab⟩ := List.mem_filter.1 hb
    obtain ⟨hc, hac⟩ := List.mem_filter.1 hc
    simp only [tied, Bool.and_eq_true] at hab hac
    exact h.trans b hb a ha c hc hab.2 hac.1
  have hsub := (h.sublist_mergeSort hpairwise List.filter_sublist).filter (tied before a)
  simp only [List.filter_filter, Bool.and_self] at hsub
  have hlength := ((List.mergeSort_perm list before).filter (tied before a)).length_eq
  exact (hsub.eq_of_length hlength.symm).symm

end Sortable

variable (before) in
theorem eq_of_filter_tied {xs ys : List β} (hrefl : ∀ a ∈ xs, before a a = true)
    (hxs : xs.Pairwise fun a b => before a b = true)
    (hys : ys.Pairwise fun a b => before a b = true) (hperm : xs.Perm ys)
    (hties : ∀ a ∈ xs, xs.filter (tied before a) = ys.filter (tied before a)) : xs = ys := by
  induction xs generalizing ys with
  | nil => exact hperm.nil_eq
  | cons a xs ih =>
    cases ys with
    | nil => exact absurd hperm.length_eq (by simp)
    | cons b ys =>
      obtain ⟨hfirst, hmore⟩ := List.pairwise_cons.1 hxs
      obtain ⟨hfirst', hmore'⟩ := List.pairwise_cons.1 hys
      have hab : before a b = true := by
        rcases List.mem_cons.1 (hperm.mem_iff.2 List.mem_cons_self) with rfl | hb
        · exact hrefl b List.mem_cons_self
        · exact hfirst b hb
      have hba : before b a = true := by
        rcases List.mem_cons.1 (hperm.mem_iff.1 List.mem_cons_self) with rfl | ha
        · exact hrefl a List.mem_cons_self
        · exact hfirst' a ha
      have haa := hrefl a List.mem_cons_self
      -- Both first members are tied with the first of them, which makes them the same.
      have hhead := hties a List.mem_cons_self
      rw [List.filter_cons_of_pos (by simp [tied, haa]),
        List.filter_cons_of_pos (by simp [tied, hab, hba])] at hhead
      obtain rfl : a = b := (List.cons.inj hhead).1
      congr 1
      refine ih (fun c hc => hrefl c (List.mem_cons_of_mem _ hc)) hmore hmore' hperm.cons_inv ?_
      intro c hc
      have hrest := hties c (List.mem_cons_of_mem _ hc)
      rw [List.filter_cons, List.filter_cons] at hrest
      split at hrest
      · exact (List.cons.inj hrest).2
      · exact hrest

end

section
variable {α : Type} [LT α]

/-- A key that is not behind another one: it is no smaller, and a missing key is behind all that are
there. -/
def NotBehind (a b : Option α) : Prop :=
  ∀ y, b = some y → ∃ x, a = some x ∧ ¬x < y

/-- Keys that compare as numbers do: not both ways, and in steps as at once.  What is no number is
not among them. -/
structure Comparable (keys : List α) : Prop where
  asymm : ∀ x ∈ keys, ∀ y ∈ keys, x < y → ¬y < x
  trans : ∀ x ∈ keys, ∀ y ∈ keys, ∀ z ∈ keys, ¬x < y → ¬y < z → ¬x < z

variable [DecidableLT α]

theorem keyBefore_iff {a b : Option α} : keyBefore a b = true ↔ NotBehind a b := by
  cases a <;> cases b <;> simp [keyBefore, NotBehind]

instance (a b : Option α) : Decidable (NotBehind a b) :=
  decidable_of_iff _ keyBefore_iff

theorem sortable_of_comparable {β : Type} {key : β → Option α} {list : List β}
    (h : Comparable (list.filterMap key)) :
    Sortable (fun s t => keyBefore (key s) (key t)) list := by
  have hmem : ∀ {s x}, s ∈ list → key s = some x → x ∈ list.filterMap key :=
    fun hs hx => List.mem_filterMap.2 ⟨_, hs, hx⟩
  constructor
  · intro s hs t ht
    cases hx : key s with
    | none => cases key t <;> rfl
    | some x =>
      cases hy : key t with
      | none => rfl
      | some y =>
        have hasymm := h.asymm x (hmem hs hx) y (hmem ht hy)
        simpa [keyBefore, not_or, imp_iff_not_or] using hasymm
  · intro s hs t ht u hu hst htu
    rw [keyBefore_iff] at *
    intro z hz
    obtain ⟨y, hy, hyz⟩ := htu z hz
    obtain ⟨x, hx, hxy⟩ := hst y hy
    exact ⟨x, hx, h.trans x (hmem hs hx) y (hmem ht hy) z (hmem hu hz) hxy hyz⟩

theorem comparable_of_linearOrder {α : Type} [LinearOrder α] (keys : List α) : Comparable keys where
  asymm _ _ _ _ hxy := hxy.asymm
  trans _ _ _ _ _ _ hxy hyz := not_lt.2 ((not_lt.1 hyz).trans (not_lt.1 hxy))

/-- A ranking of a list by a key: nothing comes before what it is behind of, and series of the same
rank come as in the list. -/
structure IsRanking (key : Series α → Option α) (list ranked : List (Series α)) : Prop where
  perm : ranked.Perm list
  descending : ranked.Pairwise fun s t => NotBehind (key s) (key t)
  ties : ∀ s ∈ list,
    ranked.filter (fun t => NotBehind (key s) (key t) ∧ NotBehind (key t) (key s)) =
      list.filter fun t => NotBehind (key s) (key t) ∧ NotBehind (key t) (key s)

variable {key : Series α → Option α} {list : List (Series α)}

theorem sortDescending_eq_mergeSort (key : Series α → Option α) (list : List (Series α)) :
    sortDescending key list = list.mergeSort fun s t => keyBefore (key s) (key t) := by
  unfold sortDescending
  rw [← List.map_mergeSort (f := fun s => (key s, s))
    (r := fun s t => keyBefore (key s) (key t)) fun _ _ _ _ => rfl, List.map_map]
  exact List.map_id _

theorem tied_eq (s t : Series α) : tied (fun s t => keyBefore (key s) (key t)) s t =
    decide (NotBehind (key s) (key t) ∧ NotBehind (key t) (key s)) := by
  rw [Bool.eq_iff_iff, decide_eq_true_iff, tied, Bool.and_eq_true, keyBefore_iff, keyBefore_iff]

section
variable (h : Comparable (list.filterMap key))
include h

theorem isRanking_sortDescending : IsRanking key list (sortDescending key list) := by
  have hsortable := sortable_of_comparable h
  rw [sortDescending_eq_mergeSort]
  refine ⟨List.mergeSort_perm _ _, ?_, fun s hs => ?_⟩
  · exact hsortable.pairwise_mergeSort.imp fun hst => keyBefore_iff.1 hst
  · simpa only [← tied_eq] using hsortable.filter_mergeSort hs

theorem isRanking_iff {ranked : List (Series α)} :
    IsRanking key list ranked ↔ ranked = sortDescending key list := by
  have hsorted := isRanking_sortDescending h
  refine ⟨fun hranked => ?_, fun heq => heq ▸ hsorted⟩
  refine eq_of_filter_tied (fun s t => keyBefore (key s) (key t)) ?_ ?_ ?_
    (hranked.perm.trans hsorted.perm.symm) ?_
  · exact fun s hs => (sortable_of_comparable h).refl (hranked.perm.mem_iff.1 hs)
  · exact hranked.descending.imp fun hst => keyBefore_iff.2 hst
  · exact hsorted.descending.imp fun hst => keyBefore_iff.2 hst
  · intro s hs
    have hlist := hranked.perm.mem_iff.1 hs
    simpa only [← tied_eq] using (hranked.ties s hlist).trans (hsorted.ties s hlist).symm

theorem sortDescending_take (n : Nat) :
    sortDescending key ((sortDescending key list).take n) = (sortDescending key list).take n := by
  have hsorted := (isRanking_sortDescending h).descending
  rw [sortDescending_eq_mergeSort]
  refine List.mergeSort_of_pairwise ?_
  exact (hsorted.imp fun hst => keyBefore_iff.2 hst).sublist (List.take_sublist n _)

end

end

section
variable {α : Type} [LT α] [DecidableLT α] [BEq α] {list : List (Series α)}

theorem highestMax_apart (h : Comparable (list.filterMap fun s => Samples.max? s.values))
    (n : Nat) :
    ∃ rest, (highestMax n list ++ rest).Perm list ∧
      ∀ s ∈ highestMax n list, ∀ t ∈ rest,
        NotBehind (Samples.max? s.values) (Samples.max? t.values) := by
  have hranking := isRanking_sortDescending h
  refine ⟨(sortDescending (fun s => Samples.max? s.values) list).drop n, ?_, ?_⟩
  · unfold highestMax
    rw [List.take_append_drop]
    exact hranking.perm
  · have hparts := hranking.descending
    rw [← List.take_append_drop n (sortDescending (fun s => Samples.max? s.values) list)] at hparts
    exact (List.pairwise_append.1 hparts).2.2

theorem highestMax_highestMax (h : Comparable (list.filterMap fun s => Samples.max? s.values))
    (n m : Nat) : highestMax n (highestMax m list) = highestMax (min n m) list := by
  unfold highestMax
  rw [sortDescending_take h, List.take_take]

/-- Sorting by sums and keeping the highest maxima follow the ranking of the list by that key, of
which there is only one.  So no series is left out for one with a smaller maximum, one more that is
kept comes behind the others, keeping twice is keeping the fewer, and what is sorted stays so. -/
theorem rankings_unique [Zero α] [Add α] (list : List (Series α))
    (hsum : Comparable (list.filterMap fun s => Samples.sum? s.values))
    (hmax : Comparable (list.filterMap fun s => Samples.max? s.values)) :
    (∀ ranked, IsRanking (fun s => Samples.sum? s.values) list ranked ↔
      ranked = sortByTotal list) ∧
    (∃ all, (∀ ranked, IsRanking (fun s => Samples.max? s.values) list ranked ↔ ranked = all) ∧
      ∀ n, highestMax n list = all.take n) ∧
    (∀ n, ∃ rest, (highestMax n list ++ rest).Perm list ∧
      ∀ s ∈ highestMax n list, ∀ t ∈ rest,
        NotBehind (Samples.max? s.values) (Samples.max? t.values)) ∧
    (∀ n, highestMax n list <+: highestMax (n + 1) list) ∧
    (∀ n m, highestMax n (highestMax m list) = highestMax (min n m) list) ∧
    sortByTotal (sortByTotal list) = sortByTotal list := by
  have hagain := sortDescending_take hsum list.length
  rw [List.take_of_length_le (isRanking_sortDescending hsum).perm.length_eq.le] at hagain
  refine ⟨fun ranked => isRanking_iff hsum, ⟨_, fun ranked => isRanking_iff hmax, fun n => rfl⟩,
    highestMax_apart hmax, fun n => ?_, highestMax_highestMax hmax, hagain⟩
  exact List.take_prefix_take_left n.le_succ

end

/-- Two series with the same maximum, one without samples, and one with a greater sum. -/
def fourSeries : List (Series ℚ) :=
  [.named "none" 0 60 60 [none, none], .ofValues "first" 0 60 [7, 1], .ofValues "total" 0 60 [5, 6],
    .ofValues "second" 0 60 [7, 0]]

theorem rankings_unique_four :
    (highestMax 2 fourSeries).map Series.name = ["first", "second"] ∧
      (sortByTotal fourSeries).map Series.name = ["total", "first", "second", "none"] ∧
      highestMax 3 (highestMax 2 fourSeries) = highestMax 2 fourSeries ∧
      highestMax 2 fourSeries <+: highestMax 3 fourSeries ∧
      sortByTotal (sortByTotal fourSeries) = sortByTotal fourSeries := by
  obtain ⟨-, -, -, hprefix, htwice, hagain⟩ := rankings_unique fourSeries
    (comparable_of_linearOrder _) (comparable_of_linearOrder _)
  exact ⟨by cbv, by cbv, htwice 3 2, hprefix 2, hagain⟩

end MetricSeries

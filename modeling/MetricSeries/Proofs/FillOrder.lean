import Mathlib
import MetricSeries.Samples.Fold
import MetricSeries.Proofs.Coverage

/-!
Gaps and the cut to whole periods.  A history may be filled before or after what does not fill a
period is cut off.  The order makes a difference exactly when the cut goes through a gap between
samples that are not the same: filled before, the gap leads up to the sample behind the cut, and
filled after it goes on level.
-/

set_option autoImplicit false

namespace MetricSeries

namespace Samples

/-- Whether a cut leaves no gap open that the samples behind it would fill otherwise: the last
sample before the cut is known, or none behind it is, or the known ones next to the cut are the
same. -/
def Seamless {α : Type} (k : Nat) (xs : Samples α) : Prop :=
  (∃ x, (xs.take k).getLast? = some (some x)) ∨ present (xs.drop k) = [] ∨
    (present (xs.take k)).getLast? = (present (xs.drop k)).head?

def EndsKnown {α : Type} (xs : Samples α) : Prop :=
  xs = [] ∨ ∃ front x, xs = front ++ [some x]

theorem exists_last_gap {α : Type} (xs : Samples α) :
    ∃ front m, xs = front ++ List.replicate m none ∧ EndsKnown front := by
  induction xs using List.reverseRecOn with
  | nil => exact ⟨[], 0, rfl, .inl rfl⟩
  | append_singleton xs x ih =>
    cases x with
    | none =>
      obtain ⟨front, m, rfl, hfront⟩ := ih
      exact ⟨front, m + 1, by rw [List.append_assoc, ← List.replicate_succ'], hfront⟩
    | some x => exact ⟨xs ++ [some x], 0, by simp, .inr ⟨xs, x, rfl⟩⟩

theorem present_append_replicate {α : Type} (front : Samples α) (m : Nat) :
    present (front ++ List.replicate m none) = present front := by
  simp [present]

section
variable {α : Type} [Add α] [Sub α] [Mul α] [Div α] [NatCast α]

theorem fillAfter_replicate (before : Option α) (n m : Nat) (rest : Samples α) :
    fillAfter before n (List.replicate m none ++ rest) = fillAfter before (n + m) rest := by
  induction m generalizing n with
  | zero => rfl
  | succ m ih =>
    rw [List.replicate_succ, List.cons_append, fillAfter, ih]
    congr 1
    omega

theorem fillAfter_append_known (before : Option α) (n : Nat) (xs : Samples α) (x : α)
    (rest : Samples α) :
    fillAfter before n (xs ++ some x :: rest) =
      fillAfter before n (xs ++ [some x]) ++ fillAfter (some x) 0 rest := by
  induction xs generalizing before n with
  | nil => simp [fillAfter, bridge]
  | cons y xs ih =>
    cases y with
    | none => exact ih before (n + 1)
    | some y => simp [fillAfter, ih (some y) 0]

theorem fill_append {front : Samples α} (hfront : EndsKnown front) (rest : Samples α) :
    fill (front ++ rest) = fill front ++ fillAfter (present front).getLast? 0 rest := by
  rcases hfront with rfl | ⟨known, x, rfl⟩
  · rfl
  · have hlast : (present (known ++ [some x])).getLast? = some x := by simp [present]
    rw [hlast, List.append_assoc, List.singleton_append]
    exact fillAfter_append_known none 0 known x rest

theorem exists_take_fillAfter (before : Option α) (m : Nat) (rest : Samples α) :
    ∃ j, (fillAfter before m rest).take m =
      (bridge (m + j) before (present rest).head?).take m := by
  induction rest generalizing m with
  | nil => exact ⟨0, rfl⟩
  | cons x rest ih =>
    cases x with
    | none =>
      obtain ⟨j, h⟩ := ih (m + 1)
      refine ⟨1 + j, ?_⟩
      have hpart := congrArg (List.take m) h
      rw [List.take_take, List.take_take, Nat.min_eq_left m.le_succ, Nat.add_assoc] at hpart
      exact hpart
    | some x =>
      refine ⟨0, ?_⟩
      have hlength := length_bridge m before (some x)
      rw [fillAfter, List.take_append_of_le_length hlength.ge]
      rfl

theorem take_bridge_none (m j : Nat) (before : Option α) :
    (bridge (m + j) before none).take m = bridge m before none := by
  cases before <;> simp [bridge]

theorem exists_fill_take {k : Nat} {xs : Samples α} (hk : k ≤ xs.length) :
    ∃ front m j, EndsKnown front ∧ xs.take k = front ++ List.replicate m none ∧
      fill (xs.take k) = fill front ++ bridge m (present front).getLast? none ∧
      (fill xs).take k = fill front ++
        (bridge (m + j) (present front).getLast? (present (xs.drop k)).head?).take m := by
  obtain ⟨front, m, htake, hfront⟩ := exists_last_gap (xs.take k)
  obtain ⟨j, hj⟩ := exists_take_fillAfter (present front).getLast? m (xs.drop k)
  have hlength : k = (fill front).length + m := by
    have h := congrArg List.length htake
    rw [List.length_take_of_le hk, List.length_append, List.length_replicate] at h
    rw [length_fill, h]
  refine ⟨front, m, j, hfront, htake, ?_, ?_⟩
  · rw [htake, fill_append hfront, ← List.append_nil (List.replicate m none), fillAfter_replicate,
      Nat.zero_add]
    rfl
  · have hall : fill xs = fill front ++ fillAfter (present front).getLast? m (xs.drop k) := by
      conv_lhs => rw [← List.take_append_drop k xs, htake, List.append_assoc]
      rw [fill_append hfront, fillAfter_replicate, Nat.zero_add]
    rw [hall, ← hj, hlength, List.take_length_add_append]

end

section
variable {α : Type} [Field α]

theorem bridge_same (n : Nat) (a : α) : bridge n (some a) (some a) = bridge n (some a) none := by
  simp [bridge, List.map_const']

/-- A seamless cut may be made before or after the gaps are filled. -/
theorem fill_take_of_seamless {k : Nat} {xs : Samples α} (hk : k ≤ xs.length)
    (h : Seamless k xs) : fill (xs.take k) = (fill xs).take k := by
  obtain ⟨front, m, j, hfront, htake, hcut, hall⟩ := exists_fill_take hk
  rw [hcut, hall]
  congr 1
  rcases h with ⟨x, hx⟩ | hnone | hsame
  · -- With the last sample known there is no gap at the cut.
    have hm : m = 0 := by
      refine Nat.eq_zero_of_not_pos fun hpos => ?_
      obtain ⟨m, rfl⟩ := Nat.exists_eq_add_of_lt hpos
      rw [htake, Nat.zero_add, List.replicate_succ', ← List.append_assoc] at hx
      simp at hx
    rw [hm, List.take_zero]
    exact List.eq_nil_of_length_eq_zero (length_bridge ..)
  · rw [hnone, List.head?_nil, take_bridge_none]
  · rw [htake, present_append_replicate] at hsame
    rw [← hsame, ← take_bridge_none m j]
    cases (present front).getLast? with
    | none => rfl
    | some a => rw [bridge_same]

end

section
variable {α : Type} [Field α] [LinearOrder α]

/-- No sample is greater than its counterpart, and the last one is smaller. -/
def EndsLower (values values' : List α) : Prop :=
  (∀ i, values.getD i 0 ≤ values'.getD i 0) ∧
    values.getD (values.length - 1) 0 < values'.getD (values.length - 1) 0

theorem endsLower_append (front : List α) {xs ys : List α} (h : List.Forall₂ (· < ·) xs ys)
    (hne : xs ≠ []) : EndsLower (front ++ xs) (front ++ ys) := by
  have hlt : ∀ i < xs.length, (front ++ xs).getD (front.length + i) 0 <
      (front ++ ys).getD (front.length + i) 0 := by
    intro i hi
    rw [List.getD_append_right _ _ _ _ (by omega), List.getD_append_right _ _ _ _ (by omega),
      Nat.add_sub_cancel_left, List.getD_eq_getElem _ _ hi,
      List.getD_eq_getElem _ _ (h.length_eq ▸ hi)]
    exact h.get hi (h.length_eq ▸ hi)
  have hlength : 0 < xs.length := List.length_pos_of_ne_nil hne
  constructor
  · intro i
    rcases Nat.lt_or_ge i front.length with hi | hi
    · rw [List.getD_append _ _ _ _ hi, List.getD_append _ _ _ _ hi]
    · obtain ⟨i, rfl⟩ := Nat.exists_eq_add_of_le hi
      rcases Nat.lt_or_ge i xs.length with hi | hi
      · exact (hlt i hi).le
      · have hlengths := h.length_eq
        rw [List.getD_eq_default _ _ (by simpa using hi),
          List.getD_eq_default _ _ (by simpa [← hlengths] using hi)]
  · have hlast : (front ++ xs).length - 1 = front.length + (xs.length - 1) := by
      rw [List.length_append]
      omega
    rw [hlast]
    exact hlt _ (by omega)

def ramp (steps width : Nat) (a b : α) : List α :=
  (List.range steps).map fun i => a + (b - a) * ((i + 1 : Nat) : α) / ((width + 1 : Nat) : α)

omit [LinearOrder α] in
theorem take_bridge_some (m j : Nat) (a b : α) :
    (bridge (m + j) (some a) (some b)).take m = (ramp m (m + j) a b).map some := by
  simp [bridge, ramp, ← List.map_take, List.take_range, Function.comp_def]

section
variable [IsStrictOrderedRing α] {a b : α}

theorem step_pos (width i : Nat) : (0 : α) < ((i + 1 : Nat) : α) / ((width + 1 : Nat) : α) :=
  div_pos (Nat.cast_pos.2 i.succ_pos) (Nat.cast_pos.2 width.succ_pos)

theorem replicate_lt_ramp (steps width : Nat) (h : a < b) :
    List.Forall₂ (· < ·) (List.replicate steps a) (ramp steps width a b) := by
  have hlevel : List.replicate steps a = (List.range steps).map fun _ => a := by simp
  rw [hlevel, ramp, List.forall₂_map_left_iff, List.forall₂_map_right_iff]
  refine List.forall₂_same.2 fun i _ => ?_
  rw [mul_div_assoc]
  exact lt_add_of_pos_right a (mul_pos (sub_pos.2 h) (step_pos width i))

theorem ramp_lt_replicate (steps width : Nat) (h : b < a) :
    List.Forall₂ (· < ·) (ramp steps width a b) (List.replicate steps a) := by
  have hlevel : List.replicate steps a = (List.range steps).map fun _ => a := by simp
  rw [hlevel, ramp, List.forall₂_map_left_iff, List.forall₂_map_right_iff]
  refine List.forall₂_same.2 fun i _ => ?_
  rw [mul_div_assoc]
  exact add_lt_of_neg_right a (mul_neg_of_neg_of_pos (sub_neg.2 h) (step_pos width i))

end

theorem endsLower_ramp [IsStrictOrderedRing α] (front : List α) {a b : α} {steps : Nat}
    (hsteps : steps ≠ 0) (width : Nat) (hab : a ≠ b) :
    EndsLower (front ++ List.replicate steps a) (front ++ ramp steps width a b) ∨
      EndsLower (front ++ ramp steps width a b) (front ++ List.replicate steps a) := by
  rcases lt_or_gt_of_ne hab with h | h
  · exact .inl (endsLower_append front (replicate_lt_ramp steps width h) (by simpa using hsteps))
  · refine .inr (endsLower_append front (ramp_lt_replicate steps width h) ?_)
    simpa [ramp] using hsteps

/-- A cut that is not seamless either cuts off all that is known, or it sets the end of what is kept
apart from where it would lead. -/
theorem fill_take_of_not_seamless [IsStrictOrderedRing α] {k : Nat} {xs : Samples α}
    (hk : k ≤ xs.length) (h : ¬Seamless k xs) :
    ((∀ x ∈ xs.take k, x = none) ∧ ∃ x, some x ∈ xs) ∨
    ∃ values values', fill (xs.take k) = values.map some ∧ (fill xs).take k = values'.map some ∧
      (EndsLower values values' ∨ EndsLower values' values) := by
  obtain ⟨front, m, j, hfront, htake, hcut, hall⟩ := exists_fill_take hk
  simp only [Seamless, not_or] at h
  obtain ⟨hunknown, hbehind, hdiffer⟩ := h
  rw [htake, present_append_replicate] at hdiffer
  obtain ⟨b, known, hfirst⟩ := List.exists_cons_of_ne_nil hbehind
  rw [hfirst, List.head?_cons] at hdiffer hall
  rcases hfront with rfl | ⟨front, a, rfl⟩
  · left
    refine ⟨fun x hx => ?_, b, ?_⟩
    · rw [htake, List.nil_append] at hx
      exact List.eq_of_mem_replicate hx
    · have hb : b ∈ present (xs.drop k) := by simp [hfirst]
      exact List.mem_of_mem_drop (by simpa [present] using hb)
  · right
    have hm : m ≠ 0 := by
      rintro rfl
      exact hunknown ⟨a, by simp [htake]⟩
    have hlast : (present (front ++ [some a])).getLast? = some a := by simp [present]
    rw [hlast] at hcut hall hdiffer
    have hab : a ≠ b := fun heq => hdiffer (by rw [heq])
    have hmem : some a ∈ front ++ [some a] := by simp
    obtain ⟨filled, hfilled, -⟩ := fill_of_mem hmem
    refine ⟨filled ++ List.replicate m a, filled ++ ramp m (m + j) a b, ?_, ?_,
      endsLower_ramp filled hm (m + j) hab⟩
    · rw [hcut, hfilled]
      simp [bridge]
    · rw [hall, hfilled, take_bridge_some, List.map_append]

end

theorem EndsLower.slotMean_lt {n repeats : Nat} (hn : n ≠ 0) (hr : repeats ≠ 0)
    {values values' : List ℝ} (hlength : values.length = n * repeats)
    (h : EndsLower values values') :
    slotMean n repeats values (n - 1) < slotMean n repeats values' (n - 1) := by
  obtain ⟨hle, hlast⟩ := h
  have hplace : values.length - 1 = (repeats - 1) * n + (n - 1) := by
    have hperiods : n * repeats = (repeats - 1) * n + n := by
      rw [← Nat.succ_mul, Nat.succ_eq_add_one, Nat.sub_add_cancel (Nat.pos_of_ne_zero hr),
        Nat.mul_comm]
    omega
  rw [hplace] at hlast
  have hsum : ∑ k ∈ Finset.range repeats, values.getD (k * n + (n - 1)) 0 <
      ∑ k ∈ Finset.range repeats, values'.getD (k * n + (n - 1)) 0 :=
    Finset.sum_lt_sum (fun k _ => hle _)
      ⟨repeats - 1, Finset.mem_range.2 (Nat.sub_lt (Nat.pos_of_ne_zero hr) Nat.one_pos), hlast⟩
  exact div_lt_div_of_pos_right hsum (Nat.cast_pos.2 (Nat.pos_of_ne_zero hr))

end Samples

section
variable {α : Type} [NumberText α] (plan : BandPlan α) (tiles : Nat) (call : BandCall)
  (s : Series α)

def bandTriple (n : Nat) (bands : Bands α) : List (Series α) :=
  let band := bandSeries plan tiles n s
  let label := call.label s.name
  [band ("sixSigmaMean(" ++ label ++ ")") bands.mean,
    band ("sixSigmaUpper(" ++ label ++ ", factor=" ++ NumberText.exact plan.factors.upper ++ ")")
      bands.upper,
    band ("sixSigmaLower(" ++ label ++ ", factor=" ++ NumberText.exact plan.factors.lower ++ ")")
      bands.lower]

theorem bandTriple_ne {n : Nat} {bands bands' : Bands α} (ht : tiles ≠ 0) {i : Nat}
    (hi : i < bands.mean.length) (hlength : bands.mean.length = bands'.mean.length)
    (h : bands.mean[i]? ≠ bands'.mean[i]?) :
    bandTriple plan tiles call s n bands ≠ bandTriple plan tiles call s n bands' := by
  intro heq
  have htiles : tile tiles bands.mean = tile tiles bands'.mean :=
    congrArg Series.values (List.cons.inj heq).1
  have hplace : i < bands.mean.length * tiles :=
    hi.trans_le (Nat.le_mul_of_pos_right _ (Nat.pos_of_ne_zero ht))
  have hsame := congrArg (·[i]?) htiles
  rw [getElem?_tile tiles bands.mean hplace, getElem?_tile tiles bands'.mean (hlength ▸ hplace),
    ← hlength, Nat.mod_eq_of_lt hi] at hsame
  exact h hsame

end

section
variable {α : Type} [Zero α] [Add α] [Sub α] [Mul α] [Div α] [NatCast α] [SquareRoot α]

def Bands.ofFilled (repeats n : Nat) (factors : BandFactors α) (samples : Samples α) : Bands α :=
  match samples.mapM id with
  | some values => .ofSeason factors (.ofValues repeats values)
  | none => .absent n

theorem ofHistory_eq_ofFilled (repeats n : Nat) (factors : BandFactors α) (history : Samples α) :
    Bands.ofHistory repeats n factors history =
      .ofFilled repeats n factors (Samples.fill (history.take (n * repeats))) := rfl

variable [NumberText α] (plan : BandPlan α) (tiles : Nat) (call : BandCall) (s : Series α)

theorem bandsOf_eq_bandTriple (history : Series α) :
    bandsOf plan tiles call s history =
      if history.length / call.repeats = 0 then []
      else bandTriple plan tiles call s (history.length / call.repeats)
        (.ofHistory call.repeats (history.length / call.repeats) plan.factors history.values) := rfl

/-- The bands of a series and a history that is filled as a whole, and only then cut to whole
periods. -/
def bandsFilledFirst (history : Series α) : List (Series α) :=
  let n := history.length / call.repeats
  if n = 0 then []
  else bandTriple plan tiles call s n
    (.ofFilled call.repeats n plan.factors ((Samples.fill history.values).take (n * call.repeats)))

def filledFirstFrom : List (Series α) → List (Series α)
  | [] => []
  | history :: _ => bandsFilledFirst plan tiles call s history

end

theorem mean_ofFilled {n repeats : Nat} (hn : n ≠ 0) (hr : repeats ≠ 0)
    (factors : BandFactors ℝ) {samples : Samples ℝ} {values : List ℝ}
    (h : samples = values.map some) (hlength : values.length = n * repeats) :
    (Bands.ofFilled repeats n factors samples).mean =
      (List.range n).map fun c => some (Samples.slotMean n repeats values c) := by
  unfold Bands.ofFilled
  rw [h, Samples.mapM_id_map_some]
  dsimp only [Bands.ofSeason]
  rw [Samples.ofValues_eq hn hr hlength, List.map_map]
  rfl

/-- The mean bands tell whether the order of filling and cutting made a difference. -/
theorem mean_ne_of_not_seamless {n repeats : Nat} (hn : n ≠ 0) (hr : repeats ≠ 0)
    (factors : BandFactors ℝ) {history : Samples ℝ} (hlong : n * repeats ≤ history.length)
    (h : ¬Samples.Seamless (n * repeats) history) :
    let bands := Bands.ofHistory repeats n factors history
    let bands' :=
      Bands.ofFilled repeats n factors ((Samples.fill history).take (n * repeats))
    bands.mean.length = n ∧ bands'.mean.length = n ∧ bands.mean[n - 1]? ≠ bands'.mean[n - 1]? := by
  have hlast : n - 1 < n := Nat.sub_lt (Nat.pos_of_ne_zero hn) Nat.one_pos
  intro bands bands'
  rcases Samples.fill_take_of_not_seamless hlong h with
    ⟨habsent, x, hx⟩ | ⟨values, values', hcut, hall, hlower⟩
  · obtain ⟨values, hvalues, hlength⟩ := Samples.fill_of_mem hx
    have hpart : (values.take (n * repeats)).length = n * repeats := by
      rw [List.length_take_of_le (by rwa [hlength])]
    have hmean : bands.mean = List.replicate n none := by
      simp only [bands, ofHistory_of_absent hn hr factors hlong habsent, Bands.absent]
    have hall : (Samples.fill history).take (n * repeats) =
        (values.take (n * repeats)).map some := by
      rw [hvalues, List.map_take]
    rw [hmean, mean_ofFilled hn hr factors hall hpart]
    simp [hlast]
  · have hlength : values.length = n * repeats := by
      have h := congrArg List.length hcut
      rw [Samples.length_fill, List.length_take_of_le hlong, List.length_map] at h
      exact h.symm
    have hlength' : values'.length = n * repeats := by
      have h := congrArg List.length hall
      rw [List.length_take_of_le (by rwa [Samples.length_fill]), List.length_map] at h
      exact h.symm
    have hmean : bands.mean =
        (List.range n).map fun c => some (Samples.slotMean n repeats values c) :=
      mean_ofFilled hn hr factors hcut hlength
    have hne : Samples.slotMean n repeats values (n - 1) ≠
        Samples.slotMean n repeats values' (n - 1) := by
      rcases hlower with hlower | hlower
      · exact (hlower.slotMean_lt hn hr hlength).ne
      · exact (hlower.slotMean_lt hn hr hlength').ne'
    rw [hmean, mean_ofFilled hn hr factors hall hlength']
    simp [hlast, hne]

section
variable [NumberText ℝ]

theorem bandsOf_eq_bandsFilledFirst_iff (plan : BandPlan ℝ) {tiles : Nat} {call : BandCall}
    (s : Series ℝ) {history : Series ℝ} (ht : tiles ≠ 0) (hr : call.repeats ≠ 0) :
    bandsOf plan tiles call s history = bandsFilledFirst plan tiles call s history ↔
      (call.repeats ≤ history.length →
        Samples.Seamless (history.length / call.repeats * call.repeats) history.values) := by
  rw [bandsOf_eq_bandTriple]
  unfold bandsFilledFirst
  by_cases hlong : call.repeats ≤ history.length
  · have hn : history.length / call.repeats ≠ 0 := Nat.div_ne_zero_iff.2 ⟨hr, hlong⟩
    have hlength : history.length / call.repeats * call.repeats ≤ history.values.length :=
      Nat.div_mul_le_self _ _
    rw [if_neg hn, if_neg hn]
    constructor
    · intro heq _
      by_contra hseam
      obtain ⟨hmean, hmean', hne⟩ :=
        mean_ne_of_not_seamless hn hr plan.factors hlength hseam
      exact bandTriple_ne plan tiles call s ht (by omega) (hmean.trans hmean'.symm) hne heq
    · intro hseam
      rw [ofHistory_eq_ofFilled, Samples.fill_take_of_seamless hlength (hseam hlong)]
  · have hn : history.length / call.repeats = 0 := Nat.div_eq_of_lt (not_le.1 hlong)
    rw [if_pos hn, if_pos hn]
    exact iff_of_true rfl fun h => absurd h hlong

end

theorem Run.from_mapM_bind_pure {β γ δ : Type} (f : β → Run γ) (g : β → γ → δ) (list : List β)
    (log : List Fetch) :
    Run.from (list.mapM fun b => f b >>= fun c => pure (g b c)) log =
      ((Run.from (list.mapM f) log).1.map (List.zipWith g list),
        (Run.from (list.mapM f) log).2) := by
  induction list generalizing log with
  | nil => rfl
  | cons b list ih =>
    rw [List.mapM_cons, List.mapM_cons, Run.from_bind, Run.from_bind_pure, Run.from_bind]
    rcases Run.from (f b) log with ⟨result, mid⟩
    cases result with
    | error e => rfl
    | ok c =>
      dsimp only [Except.map]
      rw [Run.from_bind, ih, Run.from_bind]
      rcases Run.from (list.mapM f) mid with ⟨results, after⟩
      cases results <;> rfl

theorem flatten_zipWith_eq_iff {β γ δ : Type} {g g' : β → γ → List δ} {P : γ → Prop}
    (hlength : ∀ b c, (g b c).length = (g' b c).length) (hP : ∀ b c, g b c = g' b c ↔ P c)
    {list : List β} {results : List γ} (hlist : list.length = results.length) :
    (List.zipWith g list results).flatten = (List.zipWith g' list results).flatten ↔
      ∀ c ∈ results, P c := by
  induction list generalizing results with
  | nil => simp [List.eq_nil_of_length_eq_zero hlist.symm]
  | cons b list ih =>
    cases results with
    | nil => cases hlist
    | cons c results =>
      rw [List.forall_mem_cons, ← hP b c, ← ih (Nat.succ.inj hlist)]
      exact ⟨fun h => List.append_inj h (hlength b c), fun h => congrArg₂ (· ++ ·) h.1 h.2⟩

section
variable {α : Type} {scope : Scope α} {plan : BandPlan α}

def fetchHistories (scope : Scope α) (plan : BandPlan α) (list : List (Series α)) :
    Run (List (List (Series α))) :=
  list.mapM fun s => scope.fetch plan.history s.target

theorem length_answers {list : List (Series α)} {log : List Fetch}
    {answers : List (List (Series α))}
    (h : (Run.from (fetchHistories scope plan list) log).1 = .ok answers) :
    list.length = answers.length :=
  (Run.Yields.mapM_forall₂ (R := fun _ _ => True) (fun _ _ _ _ _ _ => trivial) log answers _
    (Prod.ext h rfl)).length_eq

end

section
variable {α : Type} [Arith α] [NumberText α]

theorem length_filledFirstFrom (plan : BandPlan α) (tiles : Nat) (call : BandCall) (s : Series α)
    (histories : List (Series α)) :
    (bandsFrom plan tiles call s histories).length =
      (filledFirstFrom plan tiles call s histories).length := by
  cases histories with
  | nil => rfl
  | cons history more =>
    change (bandsOf plan tiles call s history).length =
      (bandsFilledFirst plan tiles call s history).length
    rw [bandsOf_eq_bandTriple]
    unfold bandsFilledFirst
    dsimp only
    split <;> rfl

/-- A call for bands that fills the gaps of each history before it is cut to whole periods. -/
def sixSigmaFilledFirst (scope : Scope α) (call : BandCall) (list : List (Series α)) :
    Run (List (Series α)) := do
  let plan ← liftExcept (BandPlan.make scope.window call)
  let bands ← list.mapM fun s => do
    let histories ← scope.fetch plan.history s.target
    return filledFirstFrom plan (plan.tiles scope.window) call s histories
  return bands.flatten

/-- What is owed: a call gives the bands of histories that are filled before they are cut. -/
def FillLaw (scope : Scope α) (call : BandCall) (list : List (Series α)) (log : List Fetch) :
    Prop :=
  Run.from (sixSigma scope call list) log = Run.from (sixSigmaFilledFirst scope call list) log

/-- A history from which a call that succeeds makes bands: the first of the answer for a series. -/
def BandsComeFrom (scope : Scope α) (call : BandCall) (list : List (Series α)) (log : List Fetch)
    (history : Series α) : Prop :=
  ∃ (plan : BandPlan α) (answers : List (List (Series α))),
    BandPlan.make scope.window call = .ok plan ∧
      (Run.from (fetchHistories scope plan list) log).1 = .ok answers ∧
      ∃ histories ∈ answers, histories.head? = some history

variable {scope : Scope α} {call : BandCall} {plan : BandPlan α}

theorem bandsComeFrom_iff (h : BandPlan.make scope.window call = .ok plan) (list : List (Series α))
    (log : List Fetch) (history : Series α) :
    BandsComeFrom scope call list log history ↔
      ∃ answers, (Run.from (fetchHistories scope plan list) log).1 = .ok answers ∧
        ∃ histories ∈ answers, histories.head? = some history := by
  refine ⟨?_, fun ⟨answers, hanswers⟩ => ⟨plan, answers, h, hanswers⟩⟩
  rintro ⟨plan', answers, hplan, hanswers⟩
  obtain rfl : plan = plan' := Except.ok.inj (h.symm.trans hplan)
  exact ⟨answers, hanswers⟩

theorem from_sixSigma_of_histories (h : BandPlan.make scope.window call = .ok plan)
    (list : List (Series α)) (log : List Fetch) :
    let asked := Run.from (fetchHistories scope plan list) log
    let bands := bandsFrom plan (plan.tiles scope.window) call
    Run.from (sixSigma scope call list) log =
      (asked.1.map fun answers => (List.zipWith bands list answers).flatten, asked.2) := by
  intro asked bands
  rw [from_sixSigma_of_ok scope h, Run.from_bind_pure]
  unfold askBands
  rw [Run.from_mapM_bind_pure]
  dsimp only [asked, bands, fetchHistories]
  cases (Run.from (list.mapM fun s => scope.fetch plan.history s.target) log).1 <;> rfl

theorem from_sixSigmaFilledFirst (h : BandPlan.make scope.window call = .ok plan)
    (list : List (Series α)) (log : List Fetch) :
    let asked := Run.from (fetchHistories scope plan list) log
    let bands := filledFirstFrom plan (plan.tiles scope.window) call
    Run.from (sixSigmaFilledFirst scope call list) log =
      (asked.1.map fun answers => (List.zipWith bands list answers).flatten, asked.2) := by
  intro asked bands
  unfold sixSigmaFilledFirst
  rw [h, Run.from_lift_bind]
  dsimp only
  rw [Run.from_bind_pure, Run.from_mapM_bind_pure]
  dsimp only [asked, bands, fetchHistories]
  cases (Run.from (list.mapM fun s => scope.fetch plan.history s.target) log).1 <;> rfl

end

theorem bandsFrom_eq_filledFirstFrom_iff [NumberText ℝ] (plan : BandPlan ℝ) {tiles : Nat}
    {call : BandCall} (ht : tiles ≠ 0) (hr : call.repeats ≠ 0) (s : Series ℝ)
    (histories : List (Series ℝ)) :
    bandsFrom plan tiles call s histories = filledFirstFrom plan tiles call s histories ↔
      ∀ history, histories.head? = some history → call.repeats ≤ history.length →
        Samples.Seamless (history.length / call.repeats * call.repeats) history.values := by
  cases histories with
  | nil => simp [bandsFrom, filledFirstFrom]
  | cons history more =>
    rw [List.head?_cons]
    exact (bandsOf_eq_bandsFilledFirst_iff plan s ht hr).trans
      ⟨fun h _ heq => Option.some.inj heq ▸ h, fun h => h history rfl⟩

theorem fillLaw_iff_of_plan [NumberText ℝ] (scope : Scope ℝ) {call : BandCall} {plan : BandPlan ℝ}
    (h : BandPlan.make scope.window call = .ok plan) (list : List (Series ℝ)) (log : List Fetch) :
    FillLaw scope call list log ↔
      ∀ history, BandsComeFrom scope call list log history → call.repeats ≤ history.length →
        Samples.Seamless (history.length / call.repeats * call.repeats) history.values := by
  obtain ⟨-, -, hperiod, hr, -⟩ := BandPlan.make_eq_ok h
  have ht : plan.tiles scope.window ≠ 0 :=
    Nat.one_le_iff_ne_zero.1 (isLeast_tiles hperiod scope.window).1.1
  simp only [FillLaw, from_sixSigma_of_histories h, from_sixSigmaFilledFirst h, bandsComeFrom_iff h]
  cases hasked : (Run.from (fetchHistories scope plan list) log).1 with
  | error e => simp [Except.map]
  | ok answers =>
    have hbands := flatten_zipWith_eq_iff
      (length_filledFirstFrom plan (plan.tiles scope.window) call)
      (bandsFrom_eq_filledFirstFrom_iff plan ht hr) (length_answers hasked)
    simp only [Except.map, Prod.mk.injEq, Except.ok.injEq, and_true, hbands, exists_eq_left']
    exact ⟨fun h history ⟨histories, hmem, hfirst⟩ => h histories hmem history hfirst,
      fun h histories hmem history hfirst => h history ⟨histories, hmem, hfirst⟩⟩

/-- Filling the gaps after the cut to whole periods gives the bands of filled histories exactly when
each cut is seamless: when the last sample before it is known, or none behind it, or the known
samples on both sides of the gap at the cut are the same. -/
theorem fillLaw_iff [NumberText ℝ] (scope : Scope ℝ) (call : BandCall) (list : List (Series ℝ))
    (log : List Fetch) :
    FillLaw scope call list log ↔
      ∀ history, BandsComeFrom scope call list log history → call.repeats ≤ history.length →
        Samples.Seamless (history.length / call.repeats * call.repeats) history.values := by
  cases hmake : (BandPlan.make scope.window call : Except Error (BandPlan ℝ)) with
  | error e =>
    have hsame : Run.from (sixSigmaFilledFirst scope call list) log = (.error e, log) := by
      unfold sixSigmaFilledFirst
      rw [hmake, Run.from_lift_bind]
    refine iff_of_true ((from_sixSigma_of_error hmake list log).trans hsame.symm) ?_
    rintro history ⟨plan, answers, hplan, -⟩
    rw [hmake] at hplan
    cases hplan
  | ok plan => exact fillLaw_iff_of_plan scope hmake list log

def knownBehindCut : Series ℝ :=
  .named "history" 0 7200 3600 [none, none, some 5]

def knownBehindCutHistories : Scope ℝ :=
  { emptyHistories with evaluator := some fun _ _ _ => .ok [knownBehindCut] }

theorem not_seamless_knownBehindCut : ¬Samples.Seamless 2 knownBehindCut.values := by
  simp [Samples.Seamless, Samples.present, knownBehindCut, Series.named]

/-- With the only sample cut off, the bands are as if there were none. -/
theorem not_fillLaw_knownBehindCut :
    ¬FillLaw knownBehindCutHistories ⟨"7d", 2, "3"⟩ [.ofValues "foo" 0 1 [1, 2]] [] := by
  have hmake := BandPlan.make_of_accepted thirdHour ⟨"7d", 2, "3"⟩ parseFactors_three
    parseOffset_week (by decide) (by decide)
  obtain ⟨window, hwindow⟩ : ∃ window, historyWindow? thirdHour.start 2 (604800 : Int).natAbs =
      some window := Option.isSome_iff_exists.1 (by decide)
  rw [hwindow] at hmake
  intro law
  have hcome : BandsComeFrom knownBehindCutHistories ⟨"7d", 2, "3"⟩
      [.ofValues "foo" 0 1 [1, 2]] [] knownBehindCut :=
    ⟨_, [[knownBehindCut]], hmake, rfl, _, List.mem_cons_self, rfl⟩
  have hiff := fillLaw_iff_of_plan knownBehindCutHistories hmake [.ofValues "foo" 0 1 [1, 2]] []
  exact not_seamless_knownBehindCut (hiff.1 law knownBehindCut hcome (Nat.le_succ 2))

end MetricSeries

import MetricSeries.Operation.Partition
import MetricSeries.Proofs.Nodes
import MetricSeries.Proofs.Run
import Mathlib.Data.List.Induction

/-!
Reductions, said without the table in which they are made up: which series belong together, which
of them stands for a matcher, in which order the groups are reduced, and what ends the call.
-/

set_option autoImplicit false

namespace MetricSeries

variable {α : Type}

def Sought (matchers : List String) (fragment : String) (k : Nat) : Prop :=
  matchers[k]? = some fragment ∧ ∀ j < k, matchers[j]? ≠ some fragment

/-- A series that has the nodes of the stem before the index, and there the fragment of a slot. -/
def MeantFor (node : Int) (matchers stem : List String) (k : Nat) (s : Series α) : Prop :=
  stemAt s.name node = stem ∧ Sought matchers (fragmentAt s.name node) k

/-- The last series of the list that is meant for a slot. -/
def IsMember (node : Int) (matchers : List String) (list : List (Series α)) (stem : List String)
    (k : Nat) (s : Series α) : Prop :=
  ∃ before after, list = before ++ s :: after ∧ MeantFor node matchers stem k s ∧
    ∀ t ∈ after, ¬MeantFor node matchers stem k t

/-- The stems of the series that match, each once and in the order in which they first occur. -/
def reductionStems (node : Int) (matchers : List String) (list : List (Series α)) :
    List (List String) :=
  ((list.filter fun s => fragmentAt s.name node ∈ matchers).map fun s =>
    stemAt s.name node).eraseDups

/-- The members of a stem: one for each matcher, in the order of the matchers. -/
def AreMembers (node : Int) (matchers : List String) (list : List (Series α)) (stem : List String)
    (members : List (Series α)) : Prop :=
  members.length = matchers.length ∧
    ∀ k s, members[k]? = some s → IsMember node matchers list stem k s

/-- What an answer of the reducer comes to under a name: its first series, which takes the name. -/
def reducedTo (name reducer : String) : Except Error (Output α) → Except Error (Series α)
  | .error e => .error e
  | .ok (.groups _) => .error (.evaluation "output" "expected a series list, got series groups")
  | .ok (.list []) => .error (.evaluation name ("reducer " ++ reducer ++ " returned no series"))
  | .ok (.list (first :: _)) => .ok { first with name := name, path := name }

section
variable (run : Args α → Run (Output α)) (reducer : String) (node : Int) (matchers : List String)
  (list : List (Series α))

/-- What reducing one stem after the other comes to, and the evaluations written down by then.
Each stem asks the reducer once, unless a member is missing. -/
inductive Reduces :
    List (List String) → List Fetch → Except Error (List (Series α)) → List Fetch → Prop where
  | done {log : List Fetch} : Reduces [] log (.ok []) log
  | missing {stem : List String} {rest : List (List String)} {log : List Fetch} {k : Nat}
      {matcher : String} :
      matchers[k]? = some matcher → (∀ s, ¬IsMember node matchers list stem k s) →
      (∀ j < k, ∃ s, IsMember node matchers list stem j s) →
      Reduces (stem :: rest) log (.error (.missingMember (reductionName stem reducer) matcher)) log
  | stopped {stem : List String} {rest : List (List String)} {log after : List Fetch}
      {members : List (Series α)} {answer : Except Error (Output α)} {e : Error} :
      AreMembers node matchers list stem members →
      Run.from (run (.ofList reducer [.list members])) log = (answer, after) →
      reducedTo (reductionName stem reducer) reducer answer = .error e →
      Reduces (stem :: rest) log (.error e) after
  | next {stem : List String} {rest : List (List String)} {log mid after : List Fetch}
      {members : List (Series α)} {answer : Except Error (Output α)} {reduced : Series α}
      {result : Except Error (List (Series α))} :
      AreMembers node matchers list stem members →
      Run.from (run (.ofList reducer [.list members])) log = (answer, mid) →
      reducedTo (reductionName stem reducer) reducer answer = .ok reduced →
      Reduces rest mid result after →
      Reduces (stem :: rest) log (result.map (reduced :: ·)) after

end

/-- What a call comes to: an unknown reducer and a name without the node end it before any reducer
is asked, in this order. -/
inductive ReductionCall (lookup : String → Option (Args α → Run (Output α))) (reducer : String)
    (node : Int) (matchers : List String) (list : List (Series α)) (log : List Fetch) :
    Except Error (List (Series α)) → List Fetch → Prop where
  | unknown : lookup reducer = none →
      ReductionCall lookup reducer node matchers list log (.error (.unknownFunction reducer)) log
  | outOfRange {run : Args α → Run (Output α)} {before after : List (Series α)} {s : Series α} :
      lookup reducer = some run → list = before ++ s :: after →
      (∀ t ∈ before, HasNode t.name node) → ¬HasNode s.name node →
      ReductionCall lookup reducer node matchers list log
        (.error (.nodeOutOfRange s.name node s.nodes.length)) log
  | reduced {run : Args α → Run (Output α)} {result : Except Error (List (Series α))}
      {after : List Fetch} :
      lookup reducer = some run → (∀ s ∈ list, HasNode s.name node) →
      Reduces run reducer node matchers list (reductionStems node matchers list) log
        result after →
      ReductionCall lookup reducer node matchers list log result after

theorem reductionName_inj {stem stem' : List String} {reducer : String}
    (h : ∀ part ∈ stem, '.' ∉ part.toList) (h' : ∀ part ∈ stem', '.' ∉ part.toList) :
    reductionName stem reducer = reductionName stem' reducer ↔ stem = stem' := by
  constructor
  · intro heq
    -- The reducer may have points of its own; its pieces are the same behind both stems.
    have hcut := congrArg (Text.pieces '.') heq
    unfold reductionName at hcut
    rw [Text.pieces_join _ _ (by simp), Text.pieces_join _ _ (by simp), List.flatMap_append,
      List.flatMap_append, Text.flatMap_pieces_eq_self h, Text.flatMap_pieces_eq_self h'] at hcut
    exact List.append_cancel_right hcut
  · rintro rfl
    rfl

variable {reducer : String} {node : Int} {matchers : List String} {list : List (Series α)}
  {stem : List String}

theorem findIdx?_eq_some_iff_sought {fragment : String} {k : Nat} :
    matchers.findIdx? (· == fragment) = some k ↔ Sought matchers fragment k := by
  rw [List.findIdx?_eq_some_iff_getElem]
  unfold Sought
  constructor
  · rintro ⟨hk, heq, hfirst⟩
    refine ⟨by simpa [List.getElem?_eq_getElem hk] using heq, fun j hj => ?_⟩
    have hne := hfirst j hj
    have hjlt : j < matchers.length := by omega
    simpa [List.getElem?_eq_getElem hjlt] using hne
  · rintro ⟨hk, hfirst⟩
    obtain ⟨hlt, heq⟩ := List.getElem?_eq_some_iff.1 hk
    refine ⟨hlt, by simpa using heq, fun j hj => ?_⟩
    have hne := hfirst j hj
    have hjlt : j < matchers.length := by omega
    simpa [List.getElem?_eq_getElem hjlt] using hne

theorem findIdx?_eq_none_iff_not_mem {fragment : String} :
    matchers.findIdx? (· == fragment) = none ↔ fragment ∉ matchers := by
  rw [List.findIdx?_eq_none_iff]
  constructor
  · intro h hm
    simpa using h fragment hm
  · intro h m hm
    have hne : m ≠ fragment := fun heq => h (heq ▸ hm)
    simpa using hne

instance (node : Int) (matchers stem : List String) (k : Nat) (s : Series α) :
    Decidable (MeantFor node matchers stem k s) :=
  decidable_of_iff (stemAt s.name node = stem ∧
    matchers.findIdx? (· == fragmentAt s.name node) = some k)
    (and_congr_right fun _ => findIdx?_eq_some_iff_sought)

def memberOf (node : Int) (matchers : List String) (list : List (Series α)) (stem : List String)
    (k : Nat) : Option (Series α) :=
  list.reverse.find? fun s => MeantFor node matchers stem k s

theorem memberOf_eq_some_iff {k : Nat} {s : Series α} :
    memberOf node matchers list stem k = some s ↔ IsMember node matchers list stem k s := by
  unfold memberOf IsMember
  rw [List.find?_eq_some_iff_append]
  constructor
  · rintro ⟨hs, after, before, hlist, hafter⟩
    refine ⟨before.reverse, after.reverse, ?_, by simpa using hs, ?_⟩
    · simpa using congrArg List.reverse hlist
    · intro t ht
      simpa using hafter t (List.mem_reverse.1 ht)
  · rintro ⟨before, after, hlist, hs, hafter⟩
    refine ⟨by simpa using hs, after.reverse, before.reverse, by simp [hlist], ?_⟩
    intro t ht
    simpa using hafter t (List.mem_reverse.1 ht)

theorem memberOf_eq_none_iff {k : Nat} :
    memberOf node matchers list stem k = none ↔ ∀ s, ¬IsMember node matchers list stem k s := by
  rw [Option.eq_none_iff_forall_ne_some]
  exact forall_congr' fun s => not_congr memberOf_eq_some_iff

theorem memberOf_append_singleton (node : Int) (matchers : List String) (list : List (Series α))
    (s : Series α) (stem : List String) (k : Nat) :
    memberOf node matchers (list ++ [s]) stem k =
      if MeantFor node matchers stem k s then some s else memberOf node matchers list stem k := by
  unfold memberOf
  rw [List.reverse_append]
  by_cases h : MeantFor node matchers stem k s <;> simp [h]

theorem memberOf_of_not_mem_stems (h : stem ∉ reductionStems node matchers list) (k : Nat) :
    memberOf node matchers list stem k = none := by
  unfold memberOf
  rw [List.find?_eq_none]
  intro s hs hm
  obtain ⟨hstem, hk, _⟩ : MeantFor node matchers stem k s := by simpa using hm
  apply h
  unfold reductionStems
  rw [List.mem_eraseDups]
  have hmatch : fragmentAt s.name node ∈ matchers := List.mem_of_getElem? hk
  exact List.mem_map.2 ⟨s, by simpa [hmatch] using hs, hstem⟩

theorem eraseDups_append_singleton (list : List (List String)) (x : List String) :
    (list ++ [x]).eraseDups = if x ∈ list then list.eraseDups else list.eraseDups ++ [x] := by
  rw [List.eraseDups_append]
  by_cases h : x ∈ list <;> simp [List.removeAll, h, List.eraseDups_cons]

theorem nodup_eraseDups (list : List (List String)) : list.eraseDups.Nodup := by
  induction list using List.reverseRecOn with
  | nil => simp
  | append_singleton list x ih =>
    rw [eraseDups_append_singleton]
    split
    · exact ih
    · rename_i hx
      rw [List.nodup_append]
      refine ⟨ih, by simp, ?_⟩
      intro a ha b hb
      have hmem : a ∈ list := List.mem_eraseDups.1 ha
      rw [List.mem_singleton.1 hb]
      exact fun heq => hx (heq ▸ hmem)

theorem reductionStems_append_singleton (node : Int) (matchers : List String)
    (list : List (Series α)) (s : Series α) :
    reductionStems node matchers (list ++ [s]) =
      if fragmentAt s.name node ∈ matchers ∧ stemAt s.name node ∉ reductionStems node matchers list
      then reductionStems node matchers list ++ [stemAt s.name node]
      else reductionStems node matchers list := by
  unfold reductionStems
  rw [List.filter_append, List.map_append]
  by_cases h : fragmentAt s.name node ∈ matchers
  · simp only [h, List.filter_cons, List.filter_nil, decide_true, if_true, List.map_cons,
      List.map_nil, true_and, List.mem_eraseDups, eraseDups_append_singleton]
    split <;> simp_all
  · simp [h]

def reductionRow (reducer : String) (node : Int) (matchers : List String) (list : List (Series α))
    (stem : List String) : Reduction α :=
  ⟨reductionName stem reducer,
    (List.range matchers.length).map (memberOf node matchers list stem)⟩

theorem fillSlot_map_of_mem {width slot : Nat} {s : Series α} {row : List String → Reduction α}
    (hrow : ∀ stem, (row stem).name = reductionName stem reducer) {new : List String}
    (hnew : ∀ part ∈ new, '.' ∉ part.toList) {stems : List (List String)}
    (hplain : ∀ stem ∈ stems, ∀ part ∈ stem, '.' ∉ part.toList) (hnodup : stems.Nodup)
    (hmem : new ∈ stems) :
    fillSlot width (reductionName new reducer) slot s (stems.map row) =
      stems.map fun stem =>
        if stem = new then { row stem with slots := (row stem).slots.set slot (some s) }
        else row stem := by
  induction stems with
  | nil => simp at hmem
  | cons stem stems ih =>
    obtain ⟨hout, hnodup⟩ := List.nodup_cons.1 hnodup
    have hname : reductionName stem reducer = reductionName new reducer ↔ stem = new :=
      reductionName_inj (hplain stem (by simp)) hnew
    rw [List.map_cons, List.map_cons, fillSlot, hrow stem]
    by_cases heq : stem = new
    · have hrest : ∀ other ∈ stems, other ≠ new := fun other ho h => hout (heq ▸ h ▸ ho)
      rw [if_pos (hname.2 heq), if_pos heq, ← hrow stem]
      refine congrArg _ (List.map_congr_left fun other ho => ?_)
      rw [if_neg (hrest other ho)]
    · rw [if_neg fun h => heq (hname.1 h), if_neg heq]
      congr 1
      have hrest : new ∈ stems := by simpa [Ne.symm heq] using hmem
      exact ih (fun stem hs => hplain stem (by simp [hs])) hnodup hrest

theorem fillSlot_map_of_not_mem {width slot : Nat} {s : Series α} {row : List String → Reduction α}
    (hrow : ∀ stem, (row stem).name = reductionName stem reducer) {new : List String}
    (hnew : ∀ part ∈ new, '.' ∉ part.toList) {stems : List (List String)}
    (hplain : ∀ stem ∈ stems, ∀ part ∈ stem, '.' ∉ part.toList) (hmem : new ∉ stems) :
    fillSlot width (reductionName new reducer) slot s (stems.map row) =
      stems.map row ++
        [⟨reductionName new reducer, (List.replicate width none).set slot (some s)⟩] := by
  induction stems with
  | nil => rfl
  | cons stem stems ih =>
    have hname : reductionName stem reducer = reductionName new reducer ↔ stem = new :=
      reductionName_inj (hplain stem (by simp)) hnew
    have hne : stem ≠ new := fun heq => hmem (by simp [heq])
    rw [List.map_cons, fillSlot, hrow stem, if_neg fun h => hne (hname.1 h)]
    rw [ih (fun stem hs => hplain stem (by simp [hs])) fun h => hmem (by simp [h])]
    rfl

theorem mem_reductionStems (h : stem ∈ reductionStems node matchers list) :
    ∃ s ∈ list, fragmentAt s.name node ∈ matchers ∧ stemAt s.name node = stem := by
  unfold reductionStems at h
  rw [List.mem_eraseDups] at h
  obtain ⟨s, hs, hstem⟩ := List.mem_map.1 h
  obtain ⟨hlist, hmatch⟩ := List.mem_filter.1 hs
  exact ⟨s, hlist, by simpa using hmatch, hstem⟩

theorem plain_of_mem_reductionStems (h : stem ∈ reductionStems node matchers list) :
    ∀ part ∈ stem, '.' ∉ part.toList := by
  obtain ⟨s, _, _, rfl⟩ := mem_reductionStems h
  exact fun part hp => not_mem_of_mem_stemAt hp

theorem set_memberOf {s : Series α} {slot : Nat} (h : Sought matchers (fragmentAt s.name node) slot) :
    ((List.range matchers.length).map (memberOf node matchers list (stemAt s.name node))).set slot
        (some s) =
      (List.range matchers.length).map
        (memberOf node matchers (list ++ [s]) (stemAt s.name node)) := by
  refine List.ext_getElem (by simp) fun k hk _ => ?_
  have hwidth : k < matchers.length := by simpa using hk
  simp only [List.getElem_set, List.getElem_map, List.getElem_range, memberOf_append_singleton]
  by_cases heq : slot = k
  · subst heq
    simp [MeantFor, h]
  · have hnot : ¬MeantFor node matchers (stemAt s.name node) k s := by
      rintro ⟨_, hk⟩
      have hslot := findIdx?_eq_some_iff_sought.2 h
      rw [findIdx?_eq_some_iff_sought.2 hk] at hslot
      exact heq (Option.some.inj hslot).symm
    rw [if_neg heq, if_neg hnot]

theorem memberOf_append_of_ne {s : Series α} (h : stem ≠ stemAt s.name node) :
    memberOf node matchers (list ++ [s]) stem = memberOf node matchers list stem := by
  funext k
  rw [memberOf_append_singleton, if_neg fun hm => h hm.1.symm]

theorem set_replicate_eq {s : Series α} {slot : Nat}
    (h : Sought matchers (fragmentAt s.name node) slot)
    (hnew : stemAt s.name node ∉ reductionStems node matchers list) :
    (List.replicate matchers.length none).set slot (some s) =
      (List.range matchers.length).map
        (memberOf node matchers (list ++ [s]) (stemAt s.name node)) := by
  rw [← set_memberOf h]
  congr 1
  refine List.ext_getElem (by simp) fun k hk _ => ?_
  simp [memberOf_of_not_mem_stems hnew k]

theorem placeSeries_row {s : Series α} (h : HasNode s.name node) :
    placeSeries reducer node matchers
        ((reductionStems node matchers list).map (reductionRow reducer node matchers list)) s =
      .ok ((reductionStems node matchers (list ++ [s])).map
        (reductionRow reducer node matchers (list ++ [s]))) := by
  unfold placeSeries
  rw [nodeAt_of_hasNode h, reductionStems_append_singleton]
  simp only [bind, Except.bind, pure, Except.pure]
  -- No slot asks for the series, or it goes into a row that is there, or it begins one.
  cases hslot : matchers.findIdx? (· == fragmentAt s.name node) with
  | none =>
    have hout := findIdx?_eq_none_iff_not_mem.1 hslot
    rw [if_neg fun hc => hout hc.1]
    have hsame : reductionRow reducer node matchers (list ++ [s]) =
        reductionRow reducer node matchers list := by
      funext stem
      refine congrArg (Reduction.mk _) (List.map_congr_left fun k _ => ?_)
      rw [memberOf_append_singleton, if_neg fun hm => hout (List.mem_of_getElem? hm.2.1)]
    rw [hsame]
  | some slot =>
    have hsought := findIdx?_eq_some_iff_sought.1 hslot
    have hmatch : fragmentAt s.name node ∈ matchers := List.mem_of_getElem? hsought.1
    have hplain : ∀ part ∈ stemAt s.name node, '.' ∉ part.toList :=
      fun part hp => not_mem_of_mem_stemAt hp
    by_cases hmem : stemAt s.name node ∈ reductionStems node matchers list
    · rw [if_neg fun hc => hc.2 hmem]
      dsimp only
      rw [fillSlot_map_of_mem (fun _ => rfl) hplain
        (fun stem hs => plain_of_mem_reductionStems hs) (nodup_eraseDups _) hmem]
      congr 1
      refine List.map_congr_left fun stem _ => ?_
      by_cases heq : stem = stemAt s.name node
      · subst heq
        simp only [if_pos, reductionRow, set_memberOf hsought]
      · simp only [if_neg heq, reductionRow, memberOf_append_of_ne heq]
    · rw [if_pos ⟨hmatch, hmem⟩]
      dsimp only
      rw [fillSlot_map_of_not_mem (fun _ => rfl) hplain
        (fun stem hs => plain_of_mem_reductionStems hs) hmem, set_replicate_eq hsought hmem,
        List.map_append]
      congr 2
      refine List.map_congr_left fun stem hs => ?_
      have hne : stem ≠ stemAt s.name node := fun heq => hmem (heq ▸ hs)
      simp only [reductionRow, memberOf_append_of_ne hne]

/-- The table that the series of a list make up. -/
theorem foldlM_placeSeries (reducer : String) (node : Int) (matchers : List String)
    (h : ∀ s ∈ list, HasNode s.name node) :
    list.foldlM (placeSeries reducer node matchers) [] =
      .ok ((reductionStems node matchers list).map (reductionRow reducer node matchers list)) := by
  -- From the end: the rows are those of the series so far, and one more series is placed.
  induction list using List.reverseRecOn with
  | nil => rfl
  | append_singleton list s ih =>
    rw [List.foldlM_append, ih fun t ht => h t (by simp [ht])]
    simp only [bind, Except.bind, List.foldlM_cons, List.foldlM_nil]
    rw [placeSeries_row (h s (by simp))]
    rfl

theorem foldlM_placeSeries_error (reducer : String) (matchers : List String)
    {before after : List (Series α)} {s : Series α} (hb : ∀ t ∈ before, HasNode t.name node)
    (hs : ¬HasNode s.name node) :
    (before ++ s :: after).foldlM (placeSeries reducer node matchers) [] =
      .error (.nodeOutOfRange s.name node s.nodes.length) := by
  rw [List.foldlM_append, foldlM_placeSeries reducer node matchers hb]
  simp only [bind, Except.bind, List.foldlM_cons, placeSeries, nodeAt_of_not_hasNode hs]
  rfl

theorem members_cases (matchers : List String) (r : Reduction α)
    (h : r.slots.length = matchers.length) :
    (∃ members, r.slots = members.map some ∧ r.members matchers = .ok members) ∨
    ∃ (k : Nat) (matcher : String), matchers[k]? = some matcher ∧ r.slots[k]? = some none ∧
      (∀ j < k, ∃ s, r.slots[j]? = some (some s)) ∧
      r.members matchers = .error (.missingMember r.name matcher) := by
  obtain ⟨name, slots⟩ := r
  dsimp only at h ⊢
  induction matchers generalizing slots with
  | nil =>
    obtain rfl : slots = [] := List.length_eq_zero_iff.1 h
    exact .inl ⟨[], rfl, rfl⟩
  | cons matcher matchers ih =>
    obtain ⟨slot, slots, rfl⟩ := List.exists_cons_of_length_eq_add_one h
    cases slot with
    | none =>
      refine .inr ⟨0, matcher, rfl, rfl, by simp, ?_⟩
      rfl
    | some s =>
      have hmembers : Reduction.members (matcher :: matchers) ⟨name, some s :: slots⟩ =
          (Reduction.members matchers ⟨name, slots⟩).map (s :: ·) := by
        simp only [Reduction.members, List.zip_cons_cons, List.mapM_cons]
        rfl
      rcases ih slots (by simpa using h) with ⟨members, hs, hm⟩ | ⟨k, m, hk, hnone, hsome, hm⟩
      · exact .inl ⟨s :: members, by rw [hs]; rfl, by rw [hmembers, hm]; rfl⟩
      · refine .inr ⟨k + 1, m, hk, hnone, fun j hj => ?_, by rw [hmembers, hm]; rfl⟩
        cases j with
        | zero => exact ⟨s, rfl⟩
        | succ j => exact hsome j (by omega)

theorem from_reduce_of_members {run : Args α → Run (Output α)} {r : Reduction α}
    {members : List (Series α)} {log after : List Fetch} {answer : Except Error (Output α)}
    (h : r.members matchers = .ok members)
    (hr : Run.from (run (.ofList reducer [.list members])) log = (answer, after)) :
    Run.from (r.reduce run reducer matchers) log = (reducedTo r.name reducer answer, after) := by
  unfold Reduction.reduce
  rw [h, Run.from_lift_bind]
  dsimp only
  rw [Run.from_bind, hr]
  cases answer with
  | error e => rfl
  | ok output =>
    cases output with
    | groups groups => rfl
    | list series => cases series <;> rfl

theorem from_reduce_of_missing {run : Args α → Run (Output α)} {r : Reduction α} {e : Error}
    (h : r.members matchers = .error e) (log : List Fetch) :
    Run.from (r.reduce run reducer matchers) log = (.error e, log) := by
  unfold Reduction.reduce
  rw [h, Run.from_lift_bind]

theorem reductionRow_members (reducer : String) (node : Int) (matchers : List String)
    (list : List (Series α)) (stem : List String) :
    let row := reductionRow reducer node matchers list stem
    (∃ members, AreMembers node matchers list stem members ∧
      row.members matchers = .ok members) ∨
    ∃ (k : Nat) (matcher : String), matchers[k]? = some matcher ∧
      (∀ s, ¬IsMember node matchers list stem k s) ∧
      (∀ j < k, ∃ s, IsMember node matchers list stem j s) ∧
      row.members matchers = .error (.missingMember (reductionName stem reducer) matcher) := by
  intro row
  have hwidth : row.slots.length = matchers.length := by simp [row, reductionRow]
  have hslot : ∀ k < matchers.length,
      row.slots[k]? = some (memberOf node matchers list stem k) := by
    intro k hk
    simp [row, reductionRow, hk]
  rcases members_cases matchers row hwidth with ⟨members, hmap, hok⟩ | hmissing
  · have hlength : members.length = matchers.length := by simpa [hmap] using hwidth
    refine .inl ⟨members, ⟨hlength, fun k s hs => ?_⟩, hok⟩
    have hk := hslot k (hlength ▸ (List.getElem?_eq_some_iff.1 hs).1)
    rw [hmap, List.getElem?_map, hs] at hk
    exact memberOf_eq_some_iff.1 (Option.some.inj hk).symm
  · obtain ⟨k, matcher, hk, hnone, hsome, herror⟩ := hmissing
    have hlt : k < matchers.length := (List.getElem?_eq_some_iff.1 hk).1
    refine .inr ⟨k, matcher, hk, ?_, fun j hj => ?_, herror⟩
    · rw [hslot k hlt] at hnone
      exact memberOf_eq_none_iff.1 (Option.some.inj hnone)
    · obtain ⟨s, hs⟩ := hsome j hj
      rw [hslot j (by omega)] at hs
      exact ⟨s, memberOf_eq_some_iff.1 (Option.some.inj hs)⟩

theorem reduces_rows (run : Args α → Run (Output α)) (reducer : String) (node : Int)
    (matchers : List String) (list : List (Series α)) (stems : List (List String))
    (log : List Fetch) :
    let outcome := Run.from ((stems.map (reductionRow reducer node matchers list)).mapM
      (Reduction.reduce run reducer matchers)) log
    Reduces run reducer node matchers list stems log outcome.1 outcome.2 := by
  induction stems generalizing log with
  | nil => exact .done
  | cons stem rest ih =>
    dsimp only
    rw [List.map_cons, List.mapM_cons, Run.from_bind]
    rcases reductionRow_members reducer node matchers list stem with
      ⟨members, hmembers, hok⟩ | ⟨k, matcher, hk, hnone, hsome, herror⟩
    · rcases hasked : Run.from (run (.ofList reducer [.list members])) log with ⟨answer, mid⟩
      rw [from_reduce_of_members hok hasked]
      cases hto : reducedTo (reductionName stem reducer) reducer answer with
      | error e =>
        simp only [reductionRow, hto]
        exact .stopped hmembers hasked hto
      | ok reduced =>
        have hnext := Reduces.next hmembers hasked hto (ih mid)
        simp only [reductionRow, hto]
        rw [Run.from_bind]
        rcases hrest : Run.from ((rest.map (reductionRow reducer node matchers list)).mapM
          (Reduction.reduce run reducer matchers)) mid with ⟨result, after⟩
        rw [hrest] at hnext
        cases result with
        | error e => exact hnext
        | ok series => exact hnext
    · rw [from_reduce_of_missing herror]
      exact .missing hk hnone hsome

theorem AreMembers.unique {members members' : List (Series α)}
    (h : AreMembers node matchers list stem members)
    (h' : AreMembers node matchers list stem members') : members = members' := by
  refine List.ext_getElem (h.1.trans h'.1.symm) fun k hk hk' => ?_
  have hs := memberOf_eq_some_iff.2 (h.2 k _ (List.getElem?_eq_getElem hk))
  have hs' := memberOf_eq_some_iff.2 (h'.2 k _ (List.getElem?_eq_getElem hk'))
  exact Option.some.inj (hs.symm.trans hs')

theorem AreMembers.exists_isMember {members : List (Series α)} {k : Nat} {matcher : String}
    (h : AreMembers node matchers list stem members) (hk : matchers[k]? = some matcher) :
    ∃ s, IsMember node matchers list stem k s := by
  have hlt : k < members.length := h.1.symm ▸ (List.getElem?_eq_some_iff.1 hk).1
  exact ⟨members[k], h.2 k _ (List.getElem?_eq_getElem hlt)⟩

theorem Reduces.unique {run : Args α → Run (Output α)} {stems : List (List String)}
    {log after after' : List Fetch} {result result' : Except Error (List (Series α))}
    (h : Reduces run reducer node matchers list stems log result after)
    (h' : Reduces run reducer node matchers list stems log result' after') :
    result = result' ∧ after = after' := by
  induction h generalizing result' after' with
  | done =>
    cases h'
    exact ⟨rfl, rfl⟩
  | missing hk hnone hsome =>
    rename_i k matcher
    cases h' with
    | missing hk' hnone' hsome' =>
      rename_i k' matcher'
      -- Neither of the two empty slots lies before the other.
      have hle : ¬k' < k := fun hlt => (hsome k' hlt).elim hnone'
      have hge : ¬k < k' := fun hlt => (hsome' k hlt).elim hnone
      obtain rfl : k = k' := by omega
      rw [hk] at hk'
      cases hk'
      exact ⟨rfl, rfl⟩
    | stopped hm => exact ((hm.exists_isMember hk).elim hnone).elim
    | next hm => exact ((hm.exists_isMember hk).elim hnone).elim
  | stopped hm hasked hto =>
    cases h' with
    | missing hk hnone => exact ((hm.exists_isMember hk).elim hnone).elim
    | stopped hm' hasked' hto' =>
      obtain rfl := hm.unique hm'
      rw [hasked] at hasked'
      cases hasked'
      rw [hto] at hto'
      cases hto'
      exact ⟨rfl, rfl⟩
    | next hm' hasked' hto' =>
      obtain rfl := hm.unique hm'
      rw [hasked] at hasked'
      cases hasked'
      rw [hto] at hto'
      cases hto'
  | next hm hasked hto _ ih =>
    cases h' with
    | missing hk hnone => exact ((hm.exists_isMember hk).elim hnone).elim
    | stopped hm' hasked' hto' =>
      obtain rfl := hm.unique hm'
      rw [hasked] at hasked'
      cases hasked'
      rw [hto] at hto'
      cases hto'
    | next hm' hasked' hto' hrest' =>
      obtain rfl := hm.unique hm'
      rw [hasked] at hasked'
      cases hasked'
      rw [hto] at hto'
      cases hto'
      obtain ⟨rfl, rfl⟩ := ih hrest'
      exact ⟨rfl, rfl⟩

theorem hasNode_cases (node : Int) (list : List (Series α)) :
    (∀ s ∈ list, HasNode s.name node) ∨ ∃ before s after, list = before ++ s :: after ∧
      (∀ t ∈ before, HasNode t.name node) ∧ ¬HasNode s.name node := by
  cases h : list.find? fun s => ¬HasNode s.name node with
  | none =>
    refine .inl fun s hs => ?_
    simpa using List.find?_eq_none.1 h s hs
  | some s =>
    obtain ⟨hs, before, after, hlist, hbefore⟩ := List.find?_eq_some_iff_append.1 h
    exact .inr ⟨before, s, after, hlist, fun t ht => by simpa using hbefore t ht, by simpa using hs⟩

/-- The call as it runs is a call as it is described. -/
theorem reductionCall_reduceSeries (lookup : String → Option (Args α → Run (Output α)))
    (reducer : String) (node : Int) (matchers : List String) (list : List (Series α))
    (log : List Fetch) :
    let outcome := Run.from (reduceSeries lookup reducer node matchers list) log
    ReductionCall lookup reducer node matchers list log outcome.1 outcome.2 := by
  unfold reduceSeries
  cases hrun : lookup reducer with
  | none => exact .unknown hrun
  | some run =>
    dsimp only
    rw [Run.from_lift_bind]
    rcases hasNode_cases node list with hall | ⟨before, s, after, rfl, hbefore, hs⟩
    · rw [foldlM_placeSeries reducer node matchers hall]
      exact .reduced hrun hall (reduces_rows run reducer node matchers list _ log)
    · rw [foldlM_placeSeries_error reducer matchers hbefore hs]
      exact .outOfRange hrun rfl hbefore hs

theorem first_without_unique {before before' after after' : List (Series α)} {s s' : Series α}
    (heq : before ++ s :: after = before' ++ s' :: after') (hb : ∀ t ∈ before, HasNode t.name node)
    (hs : ¬HasNode s.name node) (hb' : ∀ t ∈ before', HasNode t.name node)
    (hs' : ¬HasNode s'.name node) : s = s' := by
  have hfind : ∀ {before after : List (Series α)} {s : Series α},
      (∀ t ∈ before, HasNode t.name node) → ¬HasNode s.name node →
      (before ++ s :: after).find? (fun t => ¬HasNode t.name node) = some s := by
    intro before after s hb hs
    exact List.find?_eq_some_iff_append.2
      ⟨by simpa using hs, before, after, rfl, fun t ht => by simpa using hb t ht⟩
  have h : (before ++ s :: after).find? (fun t => ¬HasNode t.name node) = some s := hfind hb hs
  rw [heq, hfind hb' hs'] at h
  exact (Option.some.inj h).symm

theorem ReductionCall.unique {lookup : String → Option (Args α → Run (Output α))}
    {log after after' : List Fetch} {result result' : Except Error (List (Series α))}
    (h : ReductionCall lookup reducer node matchers list log result after)
    (h' : ReductionCall lookup reducer node matchers list log result' after') :
    result = result' ∧ after = after' := by
  cases h with
  | unknown hnone =>
    cases h' with
    | unknown _ => exact ⟨rfl, rfl⟩
    | outOfRange hrun => simp [hnone] at hrun
    | reduced hrun => simp [hnone] at hrun
  | outOfRange hrun hlist hbefore hs =>
    cases h' with
    | unknown hnone => simp [hnone] at hrun
    | outOfRange _ hlist' hbefore' hs' =>
      obtain rfl := first_without_unique (hlist ▸ hlist') hbefore hs hbefore' hs'
      exact ⟨rfl, rfl⟩
    | reduced _ hall => exact absurd (hall _ (by simp [hlist])) hs
  | reduced hrun hall hreduces =>
    cases h' with
    | unknown hnone => simp [hnone] at hrun
    | outOfRange _ hlist' _ hs' => exact absurd (hall _ (by simp [hlist'])) hs'
    | reduced hrun' _ hreduces' =>
      rw [hrun] at hrun'
      cases hrun'
      exact hreduces.unique hreduces'

/-- A call of `reduceSeries` comes to a result exactly when the description of the call has it, and
the names of two reductions are equal only if their members share the nodes before the index. -/
theorem reduceSeries_iff_reductionCall (scope : Scope α) (reducer : String) (node : Int)
    (matchers : List String) (groups : List (List (Series α))) (log : List Fetch) :
    (∀ s t : Series α,
      reductionName (stemAt s.name node) reducer = reductionName (stemAt t.name node) reducer ↔
        stemAt s.name node = stemAt t.name node) ∧
    ∀ result after,
      Run.from (reduceSeries scope.lookup reducer node matchers groups.flatten) log =
        (result, after) ↔
      ReductionCall scope.lookup reducer node matchers groups.flatten log result after := by
  constructor
  · intro s t
    exact reductionName_inj (fun part hp => not_mem_of_mem_stemAt hp)
      fun part hp => not_mem_of_mem_stemAt hp
  · intro result after
    have hcall := reductionCall_reduceSeries scope.lookup reducer node matchers groups.flatten log
    constructor
    · intro h
      rw [h] at hcall
      exact hcall
    · intro h
      obtain ⟨hresult, hafter⟩ := hcall.unique h
      exact Prod.ext hresult hafter

end MetricSeries

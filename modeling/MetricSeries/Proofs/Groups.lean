import MetricSeries.Proofs.Reduction
import Mathlib.Data.List.Pairwise

set_option autoImplicit false

namespace MetricSeries

section
variable {β κ : Type}

/-- Whether the first member of a group is before that of another, by their positions. -/
def StartsBefore (group other : List (β × Nat)) : Prop :=
  ∀ a ∈ group.head?, ∀ b ∈ other.head?, a.2 < b.2

/-- Groups that the members of a list are put into by a key.  Each member stands beside its position
in the list, so that those that look the same are told apart. -/
structure IsPartition (key : β → κ) (list : List β) (groups : List (List (β × Nat))) : Prop where
  /-- No member is lost, and none is there twice. -/
  perm : groups.flatten.Perm list.zipIdx
  nonempty : ∀ group ∈ groups, group ≠ []
  inOrder : ∀ group ∈ groups, group.Pairwise fun a b => a.2 < b.2
  byFirst : groups.Pairwise StartsBefore
  alike : ∀ group ∈ groups, ∀ a ∈ group, ∀ b ∈ group, key a.1 = key b.1
  apart : groups.Pairwise fun group other => ∀ a ∈ group, ∀ b ∈ other, key a.1 ≠ key b.1

theorem nodup_of_inOrder {group : List (β × Nat)} (h : group.Pairwise fun a b => a.2 < b.2) :
    group.Nodup :=
  h.imp fun {a b} hlt heq => by
    subst heq
    exact Nat.lt_irrefl _ hlt

theorem StartsBefore.asymm {group other : List (β × Nat)} (hgroup : group ≠ [])
    (hother : other ≠ []) (h : StartsBefore group other) : ¬StartsBefore other group := by
  intro h'
  have hlt := h _ (List.head_mem_head? hgroup) _ (List.head_mem_head? hother)
  have hgt := h' _ (List.head_mem_head? hother) _ (List.head_mem_head? hgroup)
  omega

namespace IsPartition

variable {key : β → κ} {list : List β} {groups groups' : List (List (β × Nat))}

theorem mem_iff (h : IsPartition key list groups) {group : List (β × Nat)} {a b : β × Nat}
    (hgroup : group ∈ groups) (ha : a ∈ group) :
    b ∈ group ↔ b ∈ list.zipIdx ∧ key b.1 = key a.1 := by
  constructor
  · intro hb
    exact ⟨h.perm.mem_iff.1 (List.mem_flatten.2 ⟨group, hgroup, hb⟩), h.alike group hgroup b hb a ha⟩
  · rintro ⟨hb, hkey⟩
    obtain ⟨other, hother, hb⟩ := List.mem_flatten.1 (h.perm.mem_iff.2 hb)
    by_cases hsame : other = group
    · exact hsame ▸ hb
    · have hsymm : Std.Symm fun g g' : List (β × Nat) => ∀ a ∈ g, ∀ b ∈ g', key a.1 ≠ key b.1 :=
        ⟨fun g g' hne a ha b hb heq => hne b hb a ha heq.symm⟩
      exact absurd hkey (h.apart.forall hother hgroup hsame b hb a ha)

theorem mem_of_mem (h : IsPartition key list groups) (h' : IsPartition key list groups')
    {group : List (β × Nat)} (hgroup : group ∈ groups) : group ∈ groups' := by
  obtain ⟨a, ha⟩ := List.exists_mem_of_ne_nil group (h.nonempty group hgroup)
  have hmem : a ∈ list.zipIdx := ((h.mem_iff hgroup ha).1 ha).1
  obtain ⟨other, hother, ha'⟩ := List.mem_flatten.1 (h'.perm.mem_iff.2 hmem)
  have hperm : group.Perm other := by
    refine (List.perm_ext_iff_of_nodup (nodup_of_inOrder (h.inOrder group hgroup))
      (nodup_of_inOrder (h'.inOrder other hother))).2 fun b => ?_
    rw [h.mem_iff hgroup ha, h'.mem_iff hother ha']
  have hsame : group = other := by
    refine hperm.eq_of_pairwise ?_ (h.inOrder group hgroup) (h'.inOrder other hother)
    exact fun b c _ _ hlt hgt => absurd hlt (Nat.lt_asymm hgt)
  exact hsame ▸ hother

theorem nodup (h : IsPartition key list groups) : groups.Nodup := by
  refine h.byFirst.imp_of_mem fun hgroup _ hbefore heq => ?_
  subst heq
  exact hbefore.asymm (h.nonempty _ hgroup) (h.nonempty _ hgroup) hbefore

theorem unique (h : IsPartition key list groups) (h' : IsPartition key list groups') :
    groups = groups' := by
  have hperm : groups.Perm groups' :=
    (List.perm_ext_iff_of_nodup h.nodup h'.nodup).2 fun _ => ⟨h.mem_of_mem h', h'.mem_of_mem h⟩
  refine hperm.eq_of_pairwise ?_ h.byFirst h'.byFirst
  intro group other hgroup hother hbefore hbehind
  exact absurd hbehind (hbefore.asymm (h.nonempty group hgroup) (h'.nonempty other hother))

end IsPartition

/-- The groups of a list, each under the key of its members. -/
structure IsTable (key : β → κ) (list : List β) (table : List (κ × List (β × Nat))) : Prop where
  perm : (table.map Prod.snd).flatten.Perm list.zipIdx
  nonempty : ∀ row ∈ table, row.2 ≠ []
  inOrder : ∀ row ∈ table, row.2.Pairwise fun a b => a.2 < b.2
  byFirst : table.Pairwise fun row other => StartsBefore row.2 other.2
  keyed : ∀ row ∈ table, ∀ a ∈ row.2, key a.1 = row.1
  keys : table.Pairwise fun row other => row.1 ≠ other.1

namespace IsTable

variable {key : β → κ} {list : List β} {table : List (κ × List (β × Nat))}

theorem isPartition (h : IsTable key list table) : IsPartition key list (table.map Prod.snd) where
  perm := h.perm
  nonempty := List.forall_mem_map.2 h.nonempty
  inOrder := List.forall_mem_map.2 h.inOrder
  byFirst := List.pairwise_map.2 h.byFirst
  alike := List.forall_mem_map.2 fun row hrow a ha b hb =>
    (h.keyed row hrow a ha).trans (h.keyed row hrow b hb).symm
  apart := List.pairwise_map.2 <| h.keys.imp_of_mem fun hrow hother hne a ha b hb heq =>
    hne (((h.keyed _ hrow a ha).symm.trans heq).trans (h.keyed _ hother b hb))

theorem lt_length (h : IsTable key list table) {row : κ × List (β × Nat)} (hrow : row ∈ table)
    {a : β × Nat} (ha : a ∈ row.2) : a.2 < list.length := by
  have hmem : a ∈ list.zipIdx :=
    h.perm.mem_iff.1 (List.mem_flatten.2 ⟨row.2, List.mem_map_of_mem hrow, ha⟩)
  obtain ⟨_, hlt, _⟩ := List.mem_zipIdx hmem
  simpa using hlt

end IsTable

end

section
variable {β κ : Type} [DecidableEq κ]

theorem addToGroup_cases (key : κ) (item : β) (groups : List (κ × List β)) :
    (∃ front items back, groups = front ++ (key, items) :: back ∧
      addToGroup key item groups = front ++ (key, items ++ [item]) :: back) ∨
    key ∉ groups.map Prod.fst ∧ addToGroup key item groups = groups ++ [(key, [item])] := by
  induction groups with
  | nil => exact .inr ⟨by simp, rfl⟩
  | cons group groups ih =>
    obtain ⟨k, items⟩ := group
    unfold addToGroup
    by_cases hk : k = key
    · subst hk
      exact .inl ⟨[], items, groups, rfl, if_pos rfl⟩
    · rw [if_neg hk]
      rcases ih with ⟨front, items', back, rfl, hadd⟩ | ⟨hnew, hadd⟩
      · exact .inl ⟨(k, items) :: front, items', back, rfl, by rw [hadd]; rfl⟩
      · refine .inr ⟨?_, by rw [hadd]; rfl⟩
        simpa [Ne.symm hk] using hnew

theorem addToGroup_perm (key : κ) (item : β) (groups : List (κ × List β)) :
    ((addToGroup key item groups).map Prod.snd).flatten.Perm
      ((groups.map Prod.snd).flatten ++ [item]) := by
  rcases addToGroup_cases key item groups with ⟨front, items, back, rfl, hadd⟩ | ⟨_, hadd⟩
  · rw [hadd]
    simp only [List.map_append, List.map_cons, List.flatten_append, List.flatten_cons,
      List.append_assoc]
    exact ((List.perm_append_comm.append_left items).append_left _)
  · rw [hadd]
    simp

theorem forall_addToGroup {P : κ × List β → Prop} {key : κ} {item : β} {groups : List (κ × List β)}
    (h : ∀ row ∈ groups, P row)
    (hmore : ∀ items, (key, items) ∈ groups → P (key, items ++ [item]))
    (hnew : P (key, [item])) : ∀ row ∈ addToGroup key item groups, P row := by
  rcases addToGroup_cases key item groups with ⟨front, items, back, rfl, hadd⟩ | ⟨_, hadd⟩
  · rw [hadd]
    simp only [List.forall_mem_append, List.forall_mem_cons] at h ⊢
    exact ⟨h.1, hmore items (by simp), h.2.2⟩
  · rw [hadd]
    simp only [List.forall_mem_append, List.forall_mem_singleton]
    exact ⟨h, hnew⟩

theorem pairwise_addToGroup {R : κ × List β → κ × List β → Prop} {key : κ} {item : β}
    {groups : List (κ × List β)} (h : groups.Pairwise R)
    (hfirst : ∀ items, (key, items) ∈ groups → ∀ row, R (key, items) row →
      R (key, items ++ [item]) row)
    (hsecond : ∀ items, (key, items) ∈ groups → ∀ row, R row (key, items) →
      R row (key, items ++ [item]))
    (hnew : key ∉ groups.map Prod.fst → ∀ row ∈ groups, R row (key, [item])) :
    (addToGroup key item groups).Pairwise R := by
  rcases addToGroup_cases key item groups with ⟨front, items, back, rfl, hadd⟩ | ⟨hkey, hadd⟩
  · have hmem : (key, items) ∈ front ++ (key, items) :: back := by simp
    rw [hadd]
    simp only [List.pairwise_append, List.pairwise_cons, List.forall_mem_cons] at h ⊢
    obtain ⟨hfront, ⟨hback, hrest⟩, hcross⟩ := h
    exact ⟨hfront, ⟨fun row hrow => hfirst items hmem row (hback row hrow), hrest⟩,
      fun row hrow => ⟨hsecond items hmem row (hcross row hrow).1, (hcross row hrow).2⟩⟩
  · rw [hadd, List.pairwise_append]
    exact ⟨h, List.pairwise_singleton _ _, fun row hrow => by simpa using hnew hkey row hrow⟩

namespace IsTable

variable {key : β → κ} {list : List β} {table : List (κ × List (β × Nat))}

theorem add (h : IsTable key list table) (b : β) :
    IsTable key (list ++ [b]) (addToGroup (key b) (b, list.length) table) where
  perm := by
    refine (addToGroup_perm _ _ _).trans ?_
    rw [List.zipIdx_append]
    simpa using h.perm.append_right [(b, list.length)]
  nonempty := forall_addToGroup h.nonempty (by simp) (by simp)
  inOrder := by
    refine forall_addToGroup h.inOrder (fun items hitems => ?_) (List.pairwise_singleton _ _)
    refine List.pairwise_append.2 ⟨h.inOrder _ hitems, List.pairwise_singleton _ _, ?_⟩
    intro a ha c hc
    obtain rfl := List.mem_singleton.1 hc
    exact h.lt_length hitems ha
  byFirst := by
    -- No group changes its first member, and a group that is new starts with the last one of all.
    have hhead : ∀ items, (key b, items) ∈ table →
        (items ++ [(b, list.length)]).head? = items.head? :=
      fun items hitems => List.head?_append_of_ne_nil _ (h.nonempty _ hitems)
    unfold StartsBefore
    refine pairwise_addToGroup h.byFirst ?_ ?_ fun _ row hrow a ha c hc => ?_
    · intro items hitems row hbefore
      simpa only [hhead items hitems] using hbefore
    · intro items hitems row hbefore
      simpa only [hhead items hitems] using hbefore
    · obtain rfl : (b, list.length) = c := Option.some.inj hc
      exact h.lt_length hrow (List.mem_of_mem_head? ha)
  keyed := by
    refine forall_addToGroup h.keyed (fun items hitems a ha => ?_) (by simp)
    rcases List.mem_append.1 ha with ha | ha
    · exact h.keyed _ hitems a ha
    · obtain rfl := List.mem_singleton.1 ha
      rfl
  keys := by
    refine pairwise_addToGroup h.keys (fun _ _ _ hne => hne) (fun _ _ _ hne => hne) ?_
    intro hnew row hrow heq
    exact hnew (List.mem_map.2 ⟨row, hrow, heq⟩)

end IsTable

/-- Putting one member after the other into its group makes the table of the list. -/
theorem isTable_groupByKey (key : β → κ) (list : List β) :
    IsTable key list (groupByKey (list.zipIdx.map fun a => (key a.1, a))) := by
  induction list using List.reverseRecOn with
  | nil => exact ⟨.nil, nofun, nofun, .nil, nofun, .nil⟩
  | append_singleton list b ih =>
    have hstep := ih.add b
    rw [List.zipIdx_append, List.map_append]
    unfold groupByKey at *
    rw [List.foldl_append]
    simpa using hstep

variable {γ : Type}

theorem addToGroup_map (f : β → γ) (key : κ) (item : β) (groups : List (κ × List β)) :
    addToGroup key (f item) (groups.map (Prod.map id (List.map f))) =
      (addToGroup key item groups).map (Prod.map id (List.map f)) := by
  induction groups with
  | nil => rfl
  | cons group groups ih =>
    obtain ⟨k, items⟩ := group
    rw [List.map_cons]
    dsimp only [Prod.map, id]
    unfold addToGroup
    by_cases hk : k = key
    · rw [if_pos hk, if_pos hk]
      simp
    · rw [if_neg hk, if_neg hk, ih]
      simp

theorem groupByKey_map (f : β → γ) (items : List (κ × β)) :
    groupByKey (items.map (Prod.map id f)) =
      (groupByKey items).map (Prod.map id (List.map f)) := by
  unfold groupByKey
  induction items using List.reverseRecOn with
  | nil => rfl
  | append_singleton items item ih =>
    rw [List.map_append, List.foldl_append, List.foldl_append, ih]
    exact addToGroup_map f item.1 item.2 _

end

variable {α : Type} {node : Int} {list : List (Series α)} {groups : List (List (Series α))}

/-- The groups of a list by the fragment at a node, without the positions of their members. -/
def IsMapping (node : Int) (list : List (Series α)) (groups : List (List (Series α))) : Prop :=
  ∃ placed, IsPartition (fun s => fragmentAt s.name node) list placed ∧
    groups = placed.map (List.map Prod.fst)

theorem IsMapping.perm (h : IsMapping node list groups) : groups.flatten.Perm list := by
  obtain ⟨placed, hplaced, rfl⟩ := h
  have hperm := hplaced.perm.map Prod.fst
  rwa [List.map_flatten, List.zipIdx_map_fst] at hperm

theorem IsMapping.unique {groups' : List (List (Series α))} (h : IsMapping node list groups)
    (h' : IsMapping node list groups') : groups = groups' := by
  obtain ⟨placed, hplaced, rfl⟩ := h
  obtain ⟨placed', hplaced', rfl⟩ := h'
  rw [hplaced.unique hplaced']

theorem mapM_nodeAt (h : ∀ s ∈ list, HasNode s.name node) :
    (list.mapM fun s => (nodeAt s.name node).map fun found => (found.2, s)) =
      .ok (list.map fun s => (fragmentAt s.name node, s)) := by
  rw [mapM_eq_ok_iff_forall₂, List.forall₂_map_right_iff, List.forall₂_same]
  intro s hs
  rw [nodeAt_of_hasNode (h s hs)]
  rfl

theorem mapSeries_of_hasNode (h : ∀ s ∈ list, HasNode s.name node) :
    ∃ groups, mapSeries node list = .ok groups ∧ IsMapping node list groups := by
  have hgroups : mapSeries node list =
      .ok ((groupByKey (list.map fun s => (fragmentAt s.name node, s))).map Prod.snd) := by
    unfold mapSeries
    rw [mapM_nodeAt h]
    rfl
  have hplaced : (list.map fun s => (fragmentAt s.name node, s)) =
      (list.zipIdx.map fun a => (fragmentAt a.1.name node, a)).map (Prod.map id Prod.fst) := by
    conv_lhs => rw [← List.zipIdx_map_fst 0 list]
    rw [List.map_map, List.map_map]
    rfl
  have htable := isTable_groupByKey (fun s : Series α => fragmentAt s.name node) list
  refine ⟨_, ?_, _, htable.isPartition, rfl⟩
  rw [hgroups, hplaced, groupByKey_map, List.map_map, List.map_map]
  rfl

theorem mapSeries_of_not_hasNode {before after : List (Series α)} {s : Series α}
    (hb : ∀ t ∈ before, HasNode t.name node) (hs : ¬HasNode s.name node) :
    mapSeries node (before ++ s :: after) =
      .error (.nodeOutOfRange s.name node s.nodes.length) := by
  unfold mapSeries
  rw [List.mapM_append, mapM_nodeAt hb, List.mapM_cons, nodeAt_of_not_hasNode hs]
  rfl

theorem mapSeries_perm (h : mapSeries node list = .ok groups) : groups.flatten.Perm list := by
  rcases hasNode_cases node list with hall | ⟨before, s, after, rfl, hbefore, hs⟩
  · obtain ⟨groups', hgroups, hmapping⟩ := mapSeries_of_hasNode hall
    rw [h] at hgroups
    cases hgroups
    exact hmapping.perm
  · rw [mapSeries_of_not_hasNode hbefore hs] at h
    cases h

/-- A mapping fails exactly if some name has no such node, and it tells of the first of these.
Else it parts the list by that node, and there is only one way to do so. -/
theorem mapSeries_iff_partition (node : Int) (list : List (Series α)) :
    (∀ e, mapSeries node list = .error e ↔ ∃ before s after, list = before ++ s :: after ∧
      (∀ t ∈ before, HasNode t.name node) ∧ ¬HasNode s.name node ∧
      e = .nodeOutOfRange s.name node s.nodes.length) ∧
    ∀ groups, mapSeries node list = .ok groups ↔
      (∀ s ∈ list, HasNode s.name node) ∧ IsMapping node list groups := by
  rcases hasNode_cases node list with hall | ⟨before, s, after, rfl, hbefore, hs⟩
  · obtain ⟨groups, hgroups, hmapping⟩ := mapSeries_of_hasNode hall
    rw [hgroups]
    refine ⟨fun e => iff_of_false nofun ?_, fun groups' => ?_⟩
    · rintro ⟨before, s, after, rfl, _, hs, _⟩
      exact hs (hall s (by simp))
    · refine ⟨fun h => ?_, fun h => congrArg _ (hmapping.unique h.2)⟩
      cases h
      exact ⟨hall, hmapping⟩
  · rw [mapSeries_of_not_hasNode hbefore hs]
    refine ⟨fun e => ⟨fun h => ?_, ?_⟩, fun groups => iff_of_false nofun ?_⟩
    · cases h
      exact ⟨before, s, after, rfl, hbefore, hs, rfl⟩
    · rintro ⟨before', s', after', hlist, hbefore', hs', rfl⟩
      rw [first_without_unique hlist hbefore hs hbefore' hs']
    · exact fun h => hs (h.1 s (by simp))

end MetricSeries

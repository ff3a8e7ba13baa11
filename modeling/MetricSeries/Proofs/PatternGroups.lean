import Mathlib
import MetricSeries.Proofs.PatternRuns
import MetricSeries.Proofs.Run
import MetricSeries.Pattern.Reader

/-!
What is known of every pattern that can be read: its groups are numbered in 32 bits, and none of
their names begins with a digit, so that no name can be taken for a number.
-/

set_option autoImplicit false
set_option mvcgen.warning false

namespace MetricSeries.Pattern

open Std.Do Read

/-- The name of a group begins as names do. -/
def IsGroupName (name : String) : Prop :=
  ∃ first more, name.toList = first :: more ∧ isNameChar true first

def Reader.WellNamed (r : Reader) : Prop :=
  ∀ n ∈ r.names, IsGroupName n.1

def Node.Numbered (r : Node) : Prop :=
  ∀ index ∈ r.groups, index ≤ maxGroups

abbrev Read.KeepsNames {β : Type} (x : Read β) : Prop :=
  ⦃fun r => ⌜r.WellNamed⌝⦄ x ⦃⇓? _ r => ⌜r.WellNamed⌝⦄

abbrev Read.Gives {β : Type} (x : Read β) (Q : β → Prop) : Prop :=
  ⦃fun r => ⌜r.WellNamed⌝⦄ x ⦃⇓? b r => ⌜r.WellNamed ∧ Q b⌝⦄

namespace Read

@[spec] theorem keepsNames_fail {β : Type} (fault : Fault) (Q : β → Reader → Prop) :
    ⦃fun _ => ⌜True⌝⦄ (fail fault : Read β) ⦃⇓? b r => ⌜Q b r⌝⦄ := by
  intro r _
  trivial

@[spec] theorem keepsNames_rest : KeepsNames rest := by
  mvcgen [rest]

@[spec] theorem keepsNames_setRest (cs : List Char) : KeepsNames (setRest cs) := by
  mvcgen [setRest]

@[spec] theorem keepsNames_skip : KeepsNames skip := by
  intro r h
  change Reader.WellNamed
    (if r.flags.spaced then { r with rest := pastComments false r.rest } else r)
  split
  · exact h
  · exact h

@[spec] theorem keepsNames_significant (cs : List Char) : KeepsNames (significant cs) := by
  mvcgen [significant]

@[spec] theorem keepsNames_moveTo (cs : List Char) : KeepsNames (moveTo cs) := by
  mvcgen [moveTo]

@[spec] theorem keepsNames_wholeChars (s : CharSet) : KeepsNames (wholeChars s) := by
  mvcgen [wholeChars]

@[spec] theorem keepsNames_foldCase (s : CharSet) : KeepsNames (foldCase s) := by
  mvcgen [foldCase]

end Read

@[spec] theorem keepsNames_readHex (count n : Nat) : KeepsNames (readHex count n) := by
  induction count generalizing n with
  | zero => mvcgen [readHex]
  | succ count ih => mvcgen [readHex, ih]

@[spec] theorem keepsNames_readBracedHex (fuel : Nat) (n : Option Nat) :
    KeepsNames (readBracedHex fuel n) := by
  induction fuel generalizing n with
  | zero => mvcgen [readBracedHex]
  | succ fuel ih => mvcgen [readBracedHex, ih]

@[spec] theorem keepsNames_charOfNumber (n : Nat) : KeepsNames (charOfNumber n) := by
  mvcgen [charOfNumber]

@[spec] theorem keepsNames_readNumber (digits : Nat) : KeepsNames (readNumber digits) := by
  mvcgen [readNumber]

@[spec] theorem keepsNames_readPropertyName (fuel : Nat) (name : List Char) :
    KeepsNames (readPropertyName fuel name) := by
  induction fuel generalizing name with
  | zero => mvcgen [readPropertyName]
  | succ fuel ih => mvcgen [readPropertyName, ih]

@[spec] theorem keepsNames_readProperty (negated : Bool) : KeepsNames (readProperty negated) := by
  mvcgen [readProperty]

@[spec] theorem keepsNames_readShort (wide narrow : CharSet) (negated : Bool) :
    KeepsNames (readShort wide narrow negated) := by
  mvcgen [readShort]

@[spec] theorem keepsNames_readBoundaryName (fuel : Nat) (name : List Char) :
    KeepsNames (readBoundaryName fuel name) := by
  induction fuel generalizing name with
  | zero => mvcgen [readBoundaryName]
  | succ fuel ih => mvcgen [readBoundaryName, ih]

@[spec] theorem keepsNames_readBoundary : KeepsNames readBoundary := by
  mvcgen [readBoundary]

@[spec] theorem keepsNames_readEscape : KeepsNames readEscape := by
  mvcgen [readEscape]

@[spec] theorem keepsNames_readMember : KeepsNames readMember := by
  mvcgen [readMember]

@[spec] theorem keepsNames_memberSet (e : Escape) : KeepsNames (memberSet e) := by
  mvcgen [memberSet]

@[spec] theorem keepsNames_readRange : KeepsNames readRange := by
  mvcgen [readRange]

@[spec] theorem keepsNames_close (c : OpenClass) : KeepsNames c.close := by
  mvcgen [OpenClass.close]

@[spec] theorem keepsNames_readLeading (fuel : Nat) (members : List Member) :
    KeepsNames (readLeading fuel members) := by
  induction fuel generalizing members with
  | zero => mvcgen [readLeading]
  | succ fuel ih => mvcgen [readLeading, ih]

@[spec] theorem keepsNames_openClass : KeepsNames readClass.openClass := by
  mvcgen [readClass.openClass]

@[spec] theorem keepsNames_readClass (fuel : Nat) (negated : Bool) (c : OpenClass) :
    KeepsNames (readClass fuel negated c) := by
  induction fuel generalizing negated c with
  | zero => mvcgen [readClass]
  | succ fuel ih => mvcgen [readClass, ih]

@[spec] theorem keepsNames_collect (fuel : Nat) (digits : List Char) :
    KeepsNames (readCount.collect fuel digits) := by
  induction fuel generalizing digits with
  | zero => mvcgen [readCount.collect]
  | succ fuel ih => mvcgen [readCount.collect, ih]

@[spec] theorem keepsNames_readCount : KeepsNames readCount := by
  mvcgen [readCount]

@[spec] theorem keepsNames_readBounds : KeepsNames readBounds := by
  mvcgen [readBounds]

@[spec] theorem keepsNames_readFlags (fuel : Nat) (on : Bool) (seen : List Char) (flags : Flags) :
    KeepsNames (readFlags fuel on seen flags) := by
  induction fuel generalizing on seen flags with
  | zero => mvcgen [readFlags]
  | succ fuel ih => mvcgen [readFlags, ih]

@[spec] theorem gives_nextGroup : Gives nextGroup (· ≤ maxGroups) := by
  mvcgen [nextGroup]
  · exact ⟨‹_›, by omega⟩

@[spec] theorem gives_readGroupName : Gives readGroupName IsGroupName := by
  mvcgen [readGroupName]
  rename_i hname hcheck _ _ _ _ hnames
  exact ⟨hnames, _, _, String.toList_ofList.trans hname, (Bool.and_eq_true_iff.1 hcheck).1⟩

def Opening.Numbered : Opening → Prop
  | .capture index => index ≤ maxGroups
  | .plain _ | .flags _ => True

@[spec] theorem gives_readOpening : Gives readOpening Opening.Numbered := by
  mvcgen [readOpening]
  all_goals grind [Opening.Numbered, Reader.WellNamed]

section
variable {r : Node} {items done : List Item} {last : Item}

@[simp] theorem numbered_empty : Node.empty.Numbered :=
  fun _ h => absurd h List.not_mem_nil

@[simp] theorem numbered_set (s : CharSet) : (Node.set s).Numbered :=
  fun _ h => absurd h List.not_mem_nil

@[simp] theorem numbered_look (l : Look) : (Node.look l).Numbered :=
  fun _ h => absurd h List.not_mem_nil

@[simp] theorem numbered_seq {a b : Node} : (Node.seq a b).Numbered ↔ a.Numbered ∧ b.Numbered := by
  simp only [Node.Numbered, Node.groups, List.forall_mem_append]

@[simp] theorem numbered_alt {a b : Node} : (Node.alt a b).Numbered ↔ a.Numbered ∧ b.Numbered := by
  simp only [Node.Numbered, Node.groups, List.forall_mem_append]

@[simp] theorem numbered_iterate {min : Nat} {max : Option Nat} {greedy : Bool} :
    (Node.iterate r min max greedy).Numbered ↔ r.Numbered :=
  Iff.rfl

@[simp] theorem numbered_group {index : Nat} :
    (Node.group index r).Numbered ↔ index ≤ maxGroups ∧ r.Numbered := by
  simp only [Node.Numbered, Node.groups, List.forall_mem_cons]

theorem numbered_foldl {join : Node → Node → Node}
    (hjoin : ∀ a b, a.Numbered → b.Numbered → (join a b).Numbered) (hr : r.Numbered)
    (hitems : ∀ item ∈ items, item.node.Numbered) :
    (items.foldl (fun node item => join item.node node) r).Numbered := by
  induction items generalizing r with
  | nil => exact hr
  | cons item items ih =>
    rw [List.forall_mem_cons] at hitems
    exact ih (hjoin _ _ hitems.1 hr) hitems.2

theorem numbered_sequence (h : ∀ item ∈ items, item.node.Numbered) :
    (sequence items).node.Numbered := by
  unfold sequence
  split
  · exact numbered_empty
  · exact h _ (by simp)
  · exact numbered_foldl (fun a b ha hb => numbered_seq.2 ⟨ha, hb⟩) numbered_empty h

theorem numbered_alternatives (hlast : last.node.Numbered)
    (h : ∀ item ∈ done, item.node.Numbered) : (alternatives last done).node.Numbered := by
  unfold alternatives
  split
  · exact hlast
  · exact numbered_foldl (fun a b ha hb => numbered_alt.2 ⟨ha, hb⟩) hlast h

end

@[spec] theorem gives_literalNode (c : Char) : Gives (literalNode c) Node.Numbered := by
  mvcgen [literalNode]
  exact ⟨‹_›, numbered_set _⟩

@[spec] theorem gives_repeatItem (item : Item) (min : Nat) (max : Option Nat)
    (h : item.node.Numbered) :
    Gives (repeatItem item min max) fun repeated => repeated.node.Numbered := by
  mvcgen [repeatItem]

@[spec] theorem gives_readItems (fuel : Nat) (done items : List Item)
    (hdone : ∀ item ∈ done, item.node.Numbered) (hitems : ∀ item ∈ items, item.node.Numbered) :
    Gives (readItems fuel done items) fun item => item.node.Numbered := by
  induction fuel generalizing done items with
  | zero => mvcgen [readItems]
  | succ fuel ih =>
    have hsequence := numbered_sequence hitems
    have hend := numbered_alternatives hsequence hdone
    -- What is left to show: each item that is added is numbered, and a change of flags keeps the
    -- names.
    mvcgen [readItems, ih] with grind [Opening.Numbered, Reader.WellNamed, numbered_empty,
      numbered_set, numbered_look, numbered_group]

theorem Read.Gives.of_run {β : Type} {x : Read β} {Q : β → Prop} (h : Gives x Q) {r r' : Reader}
    {b : β} (hr : r.WellNamed) (hrun : x.run r = .ok (b, r')) : r'.WellNamed ∧ Q b := by
  have hspec : (wp⟦x.run r⟧ (⇓? p => ⌜p.2.WellNamed ∧ Q p.1⌝)).down := h r hr
  rw [hrun] at hspec
  exact hspec

/-- What every pattern that can be read has in common. -/
structure WellFormed (p : Pattern) : Prop where
  numbered : p.node.Numbered
  names : ∀ n ∈ p.names, IsGroupName n.1

theorem wellFormed_of_read {text : String} {p : Pattern} (h : read text = .ok p) :
    p.WellFormed := by
  simp only [read] at h
  obtain ⟨⟨item, reader⟩, hitems, h⟩ := except_bind_eq_ok.1 h
  have hempty : ∀ item ∈ ([] : List Item), item.node.Numbered := List.forall_mem_nil _
  have hstart : Reader.WellNamed { rest := text.toList } := List.forall_mem_nil _
  obtain ⟨hnames, hnode⟩ := (gives_readItems _ [] [] hempty hempty).of_run hstart hitems
  split at h
  · cases h
  split at h
  · cases h
  split at h
  · cases h
  cases h
  exact ⟨hnode, hnames⟩

end MetricSeries.Pattern

import Mathlib
import MetricSeries.Series.Codec
import MetricSeries.Proofs.JsonTexts
import MetricSeries.Proofs.Run

set_option autoImplicit false

namespace MetricSeries

open MetricSeries.Json

variable {α : Type}

def Series.Holds (s : Series α) (x : α) : Prop :=
  some x ∈ s.values ∨ ∃ key, (key, Hint.number x) ∈ s.hints.entries

/-- Every number that the series holds is finite and reads back as itself. -/
structure Series.Prints [Neg α] [NatCast α] [NumberText α] (s : Series α) : Prop where
  finite : ∀ x, s.Holds x → (NumberText.json? x).isSome = true
  reads : ∀ x token, s.Holds x → NumberText.json? x = some token →
    IsNumber token.toList ∧ numberOf? token.toList = some x

structure Series.FitsWords (s : Series α) : Prop where
  start : IsWord s.start
  finish : IsWord s.finish
  step : IsWord s.step

section
variable [NumberText α]

def colorMembers (color : Option String) : List (Option String × Value) :=
  match color with
  | some color => [(some "color", .ofText color)]
  | none => []

def seriesKeys : List String :=
  ["name", "start", "end", "step", "values", "consolidation", "options", "color", "pathExpression"]

def Series.members (s : Series α) : List (Option String × Value) :=
  [(some "name", .ofText s.name), (some "start", intValue s.start), (some "end", intValue s.finish),
    (some "step", intValue s.step), (some "values", .ofList (s.values.map sampleValue)),
    (some "consolidation", .ofText s.consolidation.word), (some "options", s.hints.toJson)]
  ++ (colorMembers s.color ++ [(some "pathExpression", .ofText s.path)])

def Series.items (s : Series α) : List Value :=
  [.ofText s.name, intValue s.start, intValue s.finish, intValue s.step,
    .ofList (s.values.map sampleValue), .ofText s.consolidation.word, s.hints.toJson,
    s.color.elim .null .ofText, .ofText s.path]

theorem key_of_mem_members {s : Series α} {member : Option String × Value} (h : member ∈ s.members) :
    ∃ key ∈ seriesKeys, member.1 = some key := by
  have hkeys : ∀ key ∈ s.members.map Prod.fst, ∃ k ∈ seriesKeys, key = some k := by
    cases hcolor : s.color <;> simp [Series.members, colorMembers, hcolor, seriesKeys]
  exact hkeys member.1 (List.mem_map_of_mem h)

theorem toJson_eq (s : Series α) : s.toJson = .object s.members none := by
  cases hcolor : s.color <;>
    simp [Series.toJson, Series.members, colorMembers, hcolor, Value.ofFields]

end

section
variable (α) [Neg α] [NatCast α] [NumberText α]

theorem decodeInt_intValue {n : Int} (h : IsWord n) : decodeInt α (intValue n) = .ok n := by
  simp [decodeInt, intValue, integerOf?_intText h]

theorem decodeText_ofText (t : String) : decodeText α (.ofText t) = .ok t := rfl

theorem decodeConsolidation_word (c : Consolidation) :
    decodeConsolidation α (.ofText c.word) = .ok c := by
  cases c <;> rfl

end

section
variable [Neg α] [NatCast α] [NumberText α] {s : Series α}

theorem Series.Prints.intact_number (h : s.Prints) {x : α} (hx : s.Holds x) :
    (numberValue x).Intact := by
  obtain ⟨token, htoken⟩ := Option.isSome_iff_exists.1 (h.finite x hx)
  simp only [numberValue, htoken]
  exact .number (h.reads x token hx htoken).1

theorem Series.Prints.decode_number (h : s.Prints) {x : α} (hx : s.Holds x) :
    ∃ token, numberValue x = .number token ∧ numberOf? token = some x := by
  obtain ⟨token, htoken⟩ := Option.isSome_iff_exists.1 (h.finite x hx)
  exact ⟨token.toList, by simp only [numberValue, htoken], (h.reads x token hx htoken).2⟩

theorem decodeSamples_values (h : s.Prints) :
    decodeSamples α (.ofList (s.values.map sampleValue)) = .ok s.values := by
  have hitems : (s.values.map sampleValue).mapM (decodeOption (decodeNumber α)) = .ok s.values := by
    rw [mapM_eq_ok_iff_forall₂, List.forall₂_map_left_iff, List.forall₂_same]
    intro v hv
    cases v with
    | none => rfl
    | some x =>
      obtain ⟨token, hvalue, hread⟩ := h.decode_number (.inl hv)
      simp only [sampleValue, hvalue, decodeOption, decodeNumber, hread]
      rfl
  simp only [decodeSamples, decodeList, Value.ofList, hitems]
  rfl

theorem decodeHint_toJson (h : s.Prints) {key : String} {hint : Hint α}
    (hhint : (key, hint) ∈ s.hints.entries) : decodeHint α hint.toJson = .ok hint := by
  cases hint with
  | flag b => rfl
  | text t => rfl
  | number x =>
    obtain ⟨token, hvalue, hread⟩ := h.decode_number (.inr ⟨key, hhint⟩)
    simp [Hint.toJson, hvalue, decodeHint, Value.check, hread]

theorem insertEntry_last {β : Type} {key : String} {value : β} {entries : List (String × β)}
    (h : ∀ e ∈ entries, e.1 < key) : insertEntry key value entries = entries ++ [(key, value)] := by
  induction entries with
  | nil => rfl
  | cons e entries ih =>
    obtain ⟨k, v⟩ := e
    have hlt : k < key := h (k, v) (by simp)
    have hnot : ¬key < k := fun hgt => absurd (String.lt_trans hlt hgt) (String.lt_irrefl k)
    rw [insertEntry, if_neg hnot, if_pos hlt, ih fun e he => h e (List.mem_cons_of_mem _ he)]
    rfl

def addHint (h : Hints α) (member : Option String × Value) : Except Fault (Hints α) :=
  match member.1 with
  | none => .error (.stop .malformed)
  | some key => (decodeHint α member.2).map fun hint => h.insert key hint

theorem decodeHints_object (members : List (Option String × Value)) :
    decodeHints α (.object members none) = members.foldlM addHint .empty := by
  unfold decodeHints
  refine (bind_pure _).trans ?_
  congr

theorem foldlM_addHint {rest : List (String × Hint α)} {h : Hints α}
    (hordered : (h.entries ++ rest).Pairwise (·.1 < ·.1))
    (hrest : ∀ e ∈ rest, decodeHint α e.2.toJson = .ok e.2) :
    ∃ h', (rest.map fun e => (some e.1, e.2.toJson)).foldlM addHint h = .ok h' ∧
      h'.entries = h.entries ++ rest := by
  induction rest generalizing h with
  | nil => exact ⟨h, rfl, by simp⟩
  | cons e rest ih =>
    have hkeys : ∀ e' ∈ h.entries, e'.1 < e.1 := fun e' he' =>
      (List.pairwise_append.1 hordered).2.2 e' he' e (by simp)
    have hinsert : (h.insert e.1 e.2).entries = h.entries ++ [e] := insertEntry_last hkeys
    obtain ⟨h', hfold, hentries⟩ := ih (h := h.insert e.1 e.2) (by simpa [hinsert] using hordered)
      fun e' he' => hrest e' (List.mem_cons_of_mem e he')
    refine ⟨h', ?_, by simp [hentries, hinsert]⟩
    have hstep : addHint h (some e.1, e.2.toJson) = .ok (h.insert e.1 e.2) := by
      simp only [addHint, hrest e (by simp)]
      rfl
    rw [List.map_cons, List.foldlM_cons, hstep]
    exact hfold

theorem decodeHints_toJson (h : s.Prints) : decodeHints α s.hints.toJson = .ok s.hints := by
  have hmembers : s.hints.toJson =
      .object (s.hints.entries.map fun e => (some e.1, e.2.toJson)) none := by
    simp [Hints.toJson, Value.ofFields]
  have hordered : ((Hints.empty : Hints α).entries ++ s.hints.entries).Pairwise (·.1 < ·.1) :=
    s.hints.ordered
  obtain ⟨h', hfold, hentries⟩ := foldlM_addHint hordered fun e he => decodeHint_toJson h he
  have hsame : h' = s.hints := by
    cases h'
    cases hs : s.hints
    simp_all [Hints.empty]
  rw [hmembers, decodeHints_object, hfold, hsame]

end

def SeriesFields.seen (s : Series α) (keys : List String) : SeriesFields α where
  name := if "name" ∈ keys then some s.name else none
  start := if "start" ∈ keys then some s.start else none
  finish := if "end" ∈ keys then some s.finish else none
  step := if "step" ∈ keys then some s.step else none
  values := if "values" ∈ keys then some s.values else none
  consolidation := if "consolidation" ∈ keys then some s.consolidation else none
  hints := if "options" ∈ keys then some s.hints else none
  color := if "color" ∈ keys then s.color.map some else none
  path := if "pathExpression" ∈ keys then some s.path else none

theorem seen_cons_of_not_mem {s : Series α} {keys : List String} {key : String}
    (hkey : key ∉ seriesKeys) : SeriesFields.seen s (key :: keys) = .seen s keys := by
  have hother : ∀ k ∈ seriesKeys, (k ∈ key :: keys) = (k ∈ keys) := by
    intro k hk
    have hne : k ≠ key := by
      rintro rfl
      exact hkey hk
    simp [hne]
  simp only [seriesKeys, List.forall_mem_cons, List.not_mem_nil, false_implies, implies_true,
    and_true] at hother
  simp only [SeriesFields.seen, hother]

section
variable [NumberText α] {s : Series α}

/-- A member of the series, or one whose key means nothing. -/
def Accepted (s : Series α) (member : Option String × Value) : Prop :=
  member ∈ s.members ∨ ∃ key, member.1 = some key ∧ key ∉ seriesKeys ∧ member.2.Intact

theorem Accepted.exists_key {member : Option String × Value} (h : Accepted s member) :
    ∃ key, member.1 = some key := by
  rcases h with hmember | ⟨key, hkey, -⟩
  · obtain ⟨key, -, hkey⟩ := key_of_mem_members hmember
    exact ⟨key, hkey⟩
  · exact ⟨key, hkey⟩

theorem accepted_of_perm {members extra : List (Option String × Value)}
    (hperm : members.Perm (s.members ++ extra))
    (hextra : ∀ m ∈ extra, ∃ key, m.1 = some key ∧ key ∉ seriesKeys ∧ m.2.Intact) :
    ∀ m ∈ members, Accepted s m := by
  intro m hm
  rcases List.mem_append.1 (hperm.mem_iff.1 hm) with hmember | hother
  · exact .inl hmember
  · exact .inr (hextra m hother)

def Apart (member other : Option String × Value) : Prop :=
  member.1 = other.1 → ∀ key ∈ seriesKeys, member.1 ≠ some key

theorem toSeries_seen {keys : List String}
    (h : ∀ m ∈ s.members, ∀ key, m.1 = some key → key ∈ keys) :
    (SeriesFields.seen s keys).toSeries = .ok s := by
  obtain ⟨name, start, finish, step, values, consolidation, hints, color, path⟩ := s
  cases color <;> simp [Series.members, colorMembers] at h <;>
    simp [SeriesFields.seen, SeriesFields.toSeries, needField, h] <;> rfl

theorem Apart.symm {member other : Option String × Value} (h : Apart member other) :
    Apart other member := by
  intro heq key hkey
  rw [heq]
  exact h heq.symm key hkey

theorem pairwise_members_append (s : Series α) {extra : List (Option String × Value)}
    (hextra : ∀ m ∈ extra, ∃ key, m.1 = some key ∧ key ∉ seriesKeys ∧ m.2.Intact) :
    (s.members ++ extra).Pairwise Apart := by
  have hunknown : ∀ m ∈ extra, ∀ key ∈ seriesKeys, m.1 ≠ some key := by
    intro m hm key hkey heq
    obtain ⟨k, hk, hnot, -⟩ := hextra m hm
    rw [hk, Option.some.injEq] at heq
    exact hnot (heq ▸ hkey)
  rw [List.pairwise_append]
  refine ⟨?_, ?_, ?_⟩
  · have hkeys : (s.members.map Prod.fst).Nodup := by
      cases hcolor : s.color <;> simp [Series.members, colorMembers, hcolor]
    exact (List.pairwise_map.1 hkeys).imp fun hne heq => absurd heq hne
  · exact List.pairwise_of_forall_mem_list fun m hm _ _ _ => hunknown m hm
  · intro m _ other hother heq key hkey
    rw [heq]
    exact hunknown other hother key hkey

end

section
variable [Neg α] [NatCast α] [NumberText α] {s : Series α}

theorem fillField_none {β : Type} {decode : Decoder β} {v : Value} {b : β} (h : decode v = .ok b)
    (name : String) : fillField name none decode v = .ok (some b) := by
  simp only [fillField, h]
  rfl

theorem read_member (hprints : s.Prints) (hwords : s.FitsWords) {keys : List String} {key : String}
    {v : Value} (hmember : (some key, v) ∈ s.members) (hnew : key ∉ keys) :
    SeriesFields.read α (.seen s keys) (some key, v) = .ok (.seen s (key :: keys)) := by
  have hcolor : ∀ c, decodeOption (decodeText α) (.ofText c) = .ok (some c) := fun _ => rfl
  simp only [Series.members, List.cons_append, List.nil_append, List.mem_cons, Prod.mk.injEq,
    Option.some.injEq, List.mem_append, List.not_mem_nil, or_false] at hmember
  rcases hmember with ⟨rfl, rfl⟩ | ⟨rfl, rfl⟩ | ⟨rfl, rfl⟩ | ⟨rfl, rfl⟩ | ⟨rfl, rfl⟩ | ⟨rfl, rfl⟩ |
    ⟨rfl, rfl⟩ | hmember | ⟨rfl, rfl⟩
  · simp [SeriesFields.read, SeriesFields.seen, hnew, fillField_none (decodeText_ofText α s.name)]
  · have hstart := decodeInt_intValue α hwords.start
    simp [SeriesFields.read, SeriesFields.seen, hnew, fillField_none hstart]
  · have hfinish := decodeInt_intValue α hwords.finish
    simp [SeriesFields.read, SeriesFields.seen, hnew, fillField_none hfinish]
  · have hstep := decodeInt_intValue α hwords.step
    simp [SeriesFields.read, SeriesFields.seen, hnew, fillField_none hstep]
  · simp [SeriesFields.read, SeriesFields.seen, hnew, fillField_none (decodeSamples_values hprints)]
  · have hconsolidation := decodeConsolidation_word α s.consolidation
    simp [SeriesFields.read, SeriesFields.seen, hnew, fillField_none hconsolidation]
  · simp [SeriesFields.read, SeriesFields.seen, hnew, fillField_none (decodeHints_toJson hprints)]
  · cases hset : s.color with
    | none => simp [colorMembers, hset] at hmember
    | some c =>
      simp only [colorMembers, hset, List.mem_singleton, Prod.mk.injEq, Option.some.injEq] at hmember
      obtain ⟨rfl, rfl⟩ := hmember
      simp [SeriesFields.read, SeriesFields.seen, hnew, hset, fillField_none (hcolor c)]
  · simp [SeriesFields.read, SeriesFields.seen, hnew, fillField_none (decodeText_ofText α s.path)]

theorem read_unknown {keys : List String} {key : String} {v : Value} (hkey : key ∉ seriesKeys)
    (hv : v.Intact) :
    SeriesFields.read α (.seen s keys) (some key, v) = .ok (.seen s (key :: keys)) := by
  rw [seen_cons_of_not_mem hkey]
  unfold SeriesFields.read
  simp only
  split
  all_goals rename_i hname
  case h_11 =>
    simp only [hv.skip]
    rfl
  case h_1 => cases hname
  all_goals
    rw [Option.some.injEq] at hname
    exact absurd (by simp [seriesKeys, hname]) hkey

theorem read_accepted (hprints : s.Prints) (hwords : s.FitsWords) {keys : List String}
    {member : Option String × Value} (hmember : Accepted s member)
    (hnew : ∀ key ∈ seriesKeys, member.1 = some key → key ∉ keys) :
    ∃ key, member.1 = some key ∧
      SeriesFields.read α (.seen s keys) member = .ok (.seen s (key :: keys)) := by
  rcases hmember with hmember | ⟨key, hkey, hunknown, hv⟩
  · obtain ⟨key, hknown, hkey⟩ := key_of_mem_members hmember
    refine ⟨key, hkey, ?_⟩
    obtain ⟨name, v⟩ := member
    obtain rfl : name = some key := hkey
    exact read_member hprints hwords hmember (hnew key hknown rfl)
  · refine ⟨key, hkey, ?_⟩
    obtain ⟨name, v⟩ := member
    obtain rfl : name = some key := hkey
    exact read_unknown hunknown hv

/-- Members in any order make the fields known that their keys mean. -/
theorem foldlM_read (hprints : s.Prints) (hwords : s.FitsWords)
    {members : List (Option String × Value)} {keys : List String}
    (haccepted : ∀ m ∈ members, Accepted s m) (hapart : members.Pairwise Apart)
    (hnew : ∀ m ∈ members, ∀ key ∈ seriesKeys, m.1 = some key → key ∉ keys) :
    ∃ keys', members.foldlM (SeriesFields.read α) (.seen s keys) = .ok (.seen s keys') ∧
      keys ⊆ keys' ∧ ∀ m ∈ members, ∀ key, m.1 = some key → key ∈ keys' := by
  induction members generalizing keys with
  | nil => exact ⟨keys, rfl, List.Subset.refl keys, by simp⟩
  | cons member members ih =>
    obtain ⟨key, hkey, hread⟩ := read_accepted hprints hwords (haccepted member (by simp))
      (hnew member (by simp))
    obtain ⟨hfirst, hrest⟩ := List.pairwise_cons.1 hapart
    have hnewRest : ∀ m ∈ members, ∀ k ∈ seriesKeys, m.1 = some k → k ∉ key :: keys := by
      intro m hm k hk hmk hmem
      rcases List.mem_cons.1 hmem with rfl | hold
      · exact hfirst m hm (hkey.trans hmk.symm) k hk hkey
      · exact hnew m (List.mem_cons_of_mem member hm) k hk hmk hold
    obtain ⟨keys', hfold, hsubset, hkeys⟩ := ih
      (fun m hm => haccepted m (List.mem_cons_of_mem member hm)) hrest hnewRest
    refine ⟨keys', ?_, fun k hk => hsubset (List.mem_cons_of_mem key hk), ?_⟩
    · rw [List.foldlM_cons, hread]
      exact hfold
    · intro m hm k hmk
      rcases List.mem_cons.1 hm with rfl | hm
      · obtain rfl : key = k := by simpa [hkey] using hmk
        exact hsubset (by simp)
      · exact hkeys m hm k hmk

theorem decodeSeries_members (hprints : s.Prints) (hwords : s.FitsWords)
    {members extra : List (Option String × Value)} (hperm : members.Perm (s.members ++ extra))
    (hextra : ∀ m ∈ extra, ∃ key, m.1 = some key ∧ key ∉ seriesKeys ∧ m.2.Intact) :
    decodeSeries α (.object members none) = .ok s := by
  have haccepted := accepted_of_perm hperm hextra
  have hapart : members.Pairwise Apart :=
    (hperm.pairwise_iff Apart.symm).2 (pairwise_members_append s hextra)
  have hnew : ∀ m ∈ members, ∀ key ∈ seriesKeys, m.1 = some key → key ∉ ([] : List String) := by simp
  obtain ⟨keys, hfold, -, hkeys⟩ := foldlM_read hprints hwords haccepted hapart hnew
  have hseries := toSeries_seen fun m hm => hkeys m (hperm.mem_iff.2 (List.mem_append_left extra hm))
  have hempty : (SeriesFields.seen s [] : SeriesFields α) = {} := by simp [SeriesFields.seen]
  rw [hempty] at hfold
  simp only [decodeSeries, hfold]
  exact hseries

theorem nextItem_cons {β : Type} {decode : Decoder β} {v : Value} {b : β} (h : decode v = .ok b)
    (rest : List Value) (stop : Option Break) :
    nextItem decode (v :: rest) stop = .ok (some b, rest) := by
  simp only [nextItem, h]
  rfl

theorem needItem_cons {β : Type} {decode : Decoder β} {v : Value} {b : β} (h : decode v = .ok b)
    (rest : List Value) (stop : Option Break) :
    needItem decode (v :: rest) stop = .ok (b, rest) := by
  simp only [needItem, nextItem_cons h]
  rfl

theorem decodeSeries_items (hprints : s.Prints) (hwords : s.FitsWords) :
    decodeSeries α (.array s.items none) = .ok s := by
  have hcolor : decodeOption (decodeText α) (s.color.elim .null .ofText) = .ok s.color := by
    cases s.color <;> rfl
  have hbind : ∀ {β γ : Type} (b : β) (f : β → Except Fault γ), (Except.ok b >>= f) = f b :=
    fun _ _ => rfl
  simp only [decodeSeries, seriesOfItems, Series.items, hbind,
    needItem_cons (decodeText_ofText α s.name), needItem_cons (decodeInt_intValue α hwords.start),
    needItem_cons (decodeInt_intValue α hwords.finish),
    needItem_cons (decodeInt_intValue α hwords.step), needItem_cons (decodeSamples_values hprints),
    nextItem_cons (decodeConsolidation_word α s.consolidation),
    nextItem_cons (decodeHints_toJson hprints), nextItem_cons hcolor,
    nextItem_cons (decodeText_ofText α s.path), closeArray]
  rfl

theorem Series.Prints.intact_sample (h : s.Prints) {v : Option α} (hv : v ∈ s.values) :
    (sampleValue v).Intact := by
  cases v with
  | none => exact .null
  | some x => exact h.intact_number (.inl hv)

theorem Series.Prints.intact_samples (h : s.Prints) :
    (Value.ofList (s.values.map sampleValue)).Intact := by
  refine .array fun v hv => ?_
  obtain ⟨x, hx, rfl⟩ := List.mem_map.1 hv
  exact h.intact_sample hx

theorem Series.Prints.intact_hints (h : s.Prints) : s.hints.toJson.Intact := by
  refine .object ?_ ?_
  · intro m hm
    obtain ⟨e, -, rfl⟩ := List.mem_map.1 hm
    rfl
  · intro m hm
    simp only [List.map_map, List.mem_map, Function.comp_apply] at hm
    obtain ⟨⟨key, hint⟩, hhint, rfl⟩ := hm
    cases hint with
    | flag b => exact .flag b
    | number x => exact h.intact_number (.inr ⟨key, hhint⟩)
    | text t => exact .text t

theorem intact_intValue (n : Int) : (intValue n).Intact :=
  .number (isNumber_intText n)

theorem Series.Prints.intact_members (h : s.Prints) : ∀ m ∈ s.members, m.2.Intact := by
  intro m hm
  simp only [Series.members, List.cons_append, List.nil_append, List.mem_cons, List.mem_append,
    List.not_mem_nil, or_false] at hm
  rcases hm with rfl | rfl | rfl | rfl | rfl | rfl | rfl | hm | rfl
  · exact .text _
  · exact intact_intValue _
  · exact intact_intValue _
  · exact intact_intValue _
  · exact h.intact_samples
  · exact .text _
  · exact h.intact_hints
  · unfold colorMembers at hm
    split at hm
    · rw [List.mem_singleton] at hm
      subst hm
      exact .text _
    · cases hm
  · exact .text _

theorem Series.Prints.intact_object (h : s.Prints) {members : List (Option String × Value)}
    (haccepted : ∀ m ∈ members, Accepted s m) : (Value.object members none).Intact := by
  refine .object ?_ ?_
  · intro m hm
    exact Option.isSome_iff_exists.2 (haccepted m hm).exists_key
  · intro m hm
    rcases haccepted m hm with hmember | ⟨key, -, -, hintact⟩
    · exact h.intact_members m hmember
    · exact hintact

theorem Series.Prints.intact_items (h : s.Prints) : ∀ v ∈ s.items, v.Intact := by
  intro v hv
  simp only [Series.items, List.mem_cons, List.not_mem_nil, or_false] at hv
  rcases hv with rfl | rfl | rfl | rfl | rfl | rfl | rfl | rfl | rfl
  · exact .text _
  · exact intact_intValue _
  · exact intact_intValue _
  · exact intact_intValue _
  · exact h.intact_samples
  · exact .text _
  · exact h.intact_hints
  · cases s.color with
    | none => exact .null
    | some c => exact .text c
  · exact .text _

/-- A series is decoded from its text, from its members in any order and among others that mean
nothing, and from the array of its fields. -/
theorem ofJsonText_restores (s : Series α) (hprints : s.Prints) (hwords : s.FitsWords) :
    Series.ofJsonText α s.jsonText = .ok s ∧
    (∀ (style : Style) (members extra : List (Option String × Value)), style.IsBlank →
      members.Perm (s.members ++ extra) →
      (∀ m ∈ extra, ∃ key, m.1 = some key ∧ key ∉ seriesKeys ∧ m.2.Intact) →
      Series.ofJsonText α ((Value.object members none).render style) = .ok s) ∧
    (∀ style : Style, style.IsBlank →
      Series.ofJsonText α ((Value.array s.items none).render style) = .ok s) := by
  have hobject : ∀ (style : Style) (members extra : List (Option String × Value)), style.IsBlank →
      members.Perm (s.members ++ extra) →
      (∀ m ∈ extra, ∃ key, m.1 = some key ∧ key ∉ seriesKeys ∧ m.2.Intact) →
      Series.ofJsonText α ((Value.object members none).render style) = .ok s := by
    intro style members extra hstyle hperm hextra
    have hintact := hprints.intact_object (accepted_of_perm hperm hextra)
    rw [Series.ofJsonText, decode_render (decodeSeries α) hstyle hintact]
    exact decodeSeries_members hprints hwords hperm hextra
  refine ⟨?_, hobject, fun style hstyle => ?_⟩
  · rw [Series.jsonText, toJson_eq]
    exact hobject compact s.members [] isBlank_compact (by simp) (by simp)
  · rw [Series.ofJsonText, decode_render (decodeSeries α) hstyle (.array hprints.intact_items)]
    exact decodeSeries_items hprints hwords

end

instance rationalText : NumberText ℚ where
  plain x := Decimal.intText x.num
  exact x := Decimal.intText x.num ++ ".0"
  json? x := if x.den = 1 then some (Decimal.intText x.num ++ ".0") else none
  parse? _ := none
  scaled? m e := some ((m : ℚ) * 10 ^ e)

/-- A series with all kinds of hints and characters that have to be escaped. -/
def colourful : Series ℚ where
  name := "a \"b\"\n"
  start := -5
  finish := 5
  step := 10
  values := [some 1, none]
  consolidation := .max
  hints := ⟨[("alpha", .number (-2)), ("secondYAxis", .flag true), ("title", .text "\x01\\")],
    by decide⟩
  color := some "red"
  path := ""

theorem colourful_holds {x : ℚ} (h : colourful.Holds x) : x = 1 ∨ x = -2 := by
  rcases h with h | ⟨key, h⟩
  · exact .inl (by simpa [colourful] using h)
  · exact .inr (by simpa [colourful] using h : key = "alpha" ∧ x = -2).2

theorem prints_colourful : colourful.Prints where
  finite x hx := by
    rcases colourful_holds hx with rfl | rfl <;> rfl
  reads x token hx htoken := by
    rcases colourful_holds hx with rfl | rfl
    · have hone : NumberText.json? (1 : ℚ) = some "1.0" := by rfl
      obtain rfl : "1.0" = token := Option.some.inj (hone.symm.trans htoken)
      have hnumeral : Numeral.ofToken "1.0".toList = ⟨false, 10, -1, false⟩ := by decide
      refine ⟨⟨[], ['1'], ['.', '0'], [], rfl, .inl rfl, .inr ⟨'1', [], rfl, by simp, by simp⟩,
        .inr ⟨['0'], rfl, by simp, by simp⟩, .inl rfl⟩, ?_⟩
      simp only [numberOf?, hnumeral]
      norm_num [NumberText.scaled?]
    · have htwo : NumberText.json? (-2 : ℚ) = some "-2.0" := by rfl
      obtain rfl : "-2.0" = token := Option.some.inj (htwo.symm.trans htoken)
      have hnumeral : Numeral.ofToken "-2.0".toList = ⟨true, 20, -1, false⟩ := by decide
      refine ⟨⟨['-'], ['2'], ['.', '0'], [], rfl, .inr rfl, .inr ⟨'2', [], rfl, by simp, by simp⟩,
        .inr ⟨['0'], rfl, by simp, by simp⟩, .inl rfl⟩, ?_⟩
      simp only [numberOf?, hnumeral]
      norm_num [NumberText.scaled?]

theorem ofJsonText_restores_colourful :
    Series.ofJsonText ℚ colourful.jsonText = .ok colourful ∧
    Series.ofJsonText ℚ ((Value.object (colourful.members.reverse ++
      [(some "unit", .null), (some "unit", .array [.flag true, .text (some "x")] none)])
        none).render indented) = .ok colourful ∧
    Series.ofJsonText ℚ ((Value.array colourful.items none).render indented) = .ok colourful := by
  have hwords : colourful.FitsWords :=
    ⟨⟨by decide, by decide⟩, ⟨by decide, by decide⟩, by decide, by decide⟩
  obtain ⟨htext, hmembers, hitems⟩ := ofJsonText_restores colourful prints_colourful hwords
  refine ⟨htext, ?_, hitems indented isBlank_indented⟩
  apply hmembers indented _ _ isBlank_indented ((List.reverse_perm _).append_right _)
  intro m hm
  simp only [List.mem_cons, List.not_mem_nil, or_false] at hm
  rcases hm with rfl | rfl
  · exact ⟨"unit", rfl, by decide, .null⟩
  · refine ⟨"unit", rfl, by decide, .array fun v hv => ?_⟩
    simp only [List.mem_cons, List.not_mem_nil, or_false] at hv
    rcases hv with rfl | rfl
    · exact .flag true
    · exact .text "x"

end MetricSeries

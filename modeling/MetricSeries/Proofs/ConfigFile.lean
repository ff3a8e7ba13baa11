import Mathlib
import MetricSeries.Config.Codec
import MetricSeries.Proofs.TomlLines

set_option autoImplicit false

namespace MetricSeries

open MetricSeries.Toml

inductive ConfigPart where
  | engine | bands | logging
  deriving DecidableEq, Repr

def ConfigPart.name : ConfigPart → String
  | .engine => "engine"
  | .bands => "six_sigma"
  | .logging => "logging"

theorem ConfigPart.name_injective : Function.Injective ConfigPart.name := by
  intro part other h
  cases part <;> cases other <;> first | rfl | exact absurd h (by decide)

/-- A setting with its value. -/
inductive Setting where
  | interpolate (b : Bool)
  | period (s : String)
  | repeats (n : Nat)
  | factor (s : String)
  | level (s : String)
  | withTarget (b : Bool)
  deriving DecidableEq, Repr

namespace Setting

def part : Setting → ConfigPart
  | .interpolate _ => .engine
  | .period _ | .repeats _ | .factor _ => .bands
  | .level _ | .withTarget _ => .logging

def key : Setting → String
  | .interpolate _ => "percentile_interpolate"
  | .period _ => "period"
  | .repeats _ => "repeats"
  | .factor _ => "factor"
  | .level _ => "level"
  | .withTarget _ => "with_target"

def value : Setting → Toml.Value
  | .interpolate b | .withTarget b => .flag b
  | .period s | .factor s | .level s => .text s
  | .repeats n => .integer n

theorem wrap_of_key (x : Setting) :
    (x.key = "percentile_interpolate" → ∃ b, x = .interpolate b) ∧
    (x.key = "period" → ∃ s, x = .period s) ∧ (x.key = "repeats" → ∃ n, x = .repeats n) ∧
    (x.key = "factor" → ∃ s, x = .factor s) ∧ (x.key = "level" → ∃ s, x = .level s) ∧
    (x.key = "with_target" → ∃ b, x = .withTarget b) := by
  cases x <;> simp [key]

end Setting

def Config.settings (c : Config) : List Setting :=
  [.interpolate c.interpolate, .period c.bands.period, .repeats c.bands.repeats,
    .factor c.bands.factor, .level c.logging.level, .withTarget c.logging.withTarget]

/-- The configuration has the settings that are given, and the others as they are by default. -/
structure Config.Takes (c : Config) (given : List Setting) : Prop where
  taken : ∀ x ∈ given, x ∈ c.settings
  defaulted : ∀ x ∈ ({} : Config).settings, x.key ∉ given.map Setting.key → x ∈ c.settings

theorem Config.eq_of_settings_subset {c d : Config} (h : ∀ x ∈ c.settings, x ∈ d.settings) :
    c = d := by
  obtain ⟨interpolate, ⟨period, repeats, factor⟩, ⟨level, withTarget⟩⟩ := c
  simp [Config.settings] at h
  obtain ⟨rfl, rfl, rfl, rfl, rfl, rfl⟩ := h
  rfl

def findSetting? (entries : Entries) (part : ConfigPart) (key : String) : Option Toml.Value :=
  match entries.lookup part.name with
  | some (.table _ sub) => sub.lookup key
  | _ => none

/-- The document gives these settings and no others.  What else it holds does not matter. -/
structure Gives (entries : Entries) (given : List Setting) : Prop where
  tables : ∀ (part : ConfigPart) (v : Toml.Value), entries.lookup part.name = some v →
    ∃ origin sub, v = .table origin sub
  present : ∀ x ∈ given, findSetting? entries x.part x.key = some x.value
  absent : ∀ x ∈ ({} : Config).settings, x.key ∉ given.map Setting.key →
    findSetting? entries x.part x.key = none

def settingOr {β : Type} (entries : Entries) (part : ConfigPart) (key : String)
    (decode : Toml.Value → Option β) (default : β) : Option β :=
  match findSetting? entries part key with
  | some v => decode v
  | none => some default

theorem Gives.decodes {entries : Entries} {given : List Setting} (h : Gives entries given)
    {β : Type} (wrap : β → Setting) (decode : Toml.Value → Option β) {default : β}
    {part : ConfigPart} {key : String} (hpart : ∀ b, (wrap b).part = part)
    (hkey : ∀ b, (wrap b).key = key)
    (hwrap : ∀ x : Setting, x.key = key → ∃ b, x = wrap b)
    (hdecode : ∀ b, decode (wrap b).value = some b)
    (hdefault : wrap default ∈ ({} : Config).settings) :
    ∃ b, settingOr entries part key decode default = some b ∧
      (∀ x ∈ given, x.key = key → x = wrap b) ∧ (key ∉ given.map Setting.key → b = default) := by
  by_cases hmem : key ∈ given.map Setting.key
  · obtain ⟨x, hx, rfl⟩ := List.mem_map.1 hmem
    obtain ⟨b, rfl⟩ := hwrap x rfl
    have hfound := h.present _ hx
    rw [hpart b] at hfound
    refine ⟨b, by simp [settingOr, hfound, hdecode], ?_, fun hno => absurd hmem hno⟩
    intro y hy hkeys
    obtain ⟨b', rfl⟩ := hwrap y hkeys
    have hother := h.present _ hy
    rw [hpart b', hkeys, hfound, Option.some.injEq] at hother
    have hsame := congrArg decode hother
    rw [hdecode, hdecode, Option.some.injEq] at hsame
    rw [hsame]
  · have hnone := h.absent _ hdefault (by rwa [hkey])
    rw [hpart, hkey] at hnone
    refine ⟨default, by simp [settingOr, hnone], ?_, fun _ => rfl⟩
    intro x hx hkeys
    exact absurd (List.mem_map.2 ⟨x, hx, hkeys⟩) hmem

theorem ConfigSource.get_keyed {β : Type} (entries : Entries) (key : String) (place : Nat)
    (decode : Toml.Value → Option β) (default : β) :
    (ConfigSource.keyed entries).get key place decode default =
      match entries.lookup key with
      | some v => decode v
      | none => some default := rfl

section

variable {entries : Entries} {given : List Setting}

/-- A part is decoded from its table, and one that is left out has all its settings at their
defaults. -/
theorem Gives.get_part (h : Gives entries given) (part : ConfigPart) (place : Nat) {β : Type}
    {decode : Toml.Value → Option β} {default b : β}
    (hnone : (∀ key, findSetting? entries part key = none) → default = b)
    (htable : ∀ origin sub, (∀ key, findSetting? entries part key = sub.lookup key) →
      decode (.table origin sub) = some b) :
    (ConfigSource.keyed entries).get part.name place decode default = some b := by
  rw [ConfigSource.get_keyed]
  cases hv : entries.lookup part.name with
  | none => exact congrArg some (hnone fun key => by simp [findSetting?, hv])
  | some v =>
    obtain ⟨origin, sub, rfl⟩ := h.tables part v hv
    exact htable origin sub fun key => by simp [findSetting?, hv]

theorem Gives.engine (h : Gives entries given) {b : Bool}
    (hb : settingOr entries .engine "percentile_interpolate" decodeFlag
      ({} : Config).interpolate = some b) :
    (ConfigSource.keyed entries).get "engine" 0 decodeEngine ({} : Config).interpolate = some b := by
  refine h.get_part .engine 0 (fun hnone => ?_) fun origin sub hfind => ?_
  · simpa only [settingOr, hnone, Option.some.injEq] using hb
  · simp only [settingOr, hfind] at hb
    exact hb

theorem Gives.bands (h : Gives entries given) {b : BandConfig}
    (hperiod : settingOr entries .bands "period" decodeWords ({} : BandConfig).period = some b.period)
    (hrepeats : settingOr entries .bands "repeats" decodeCount ({} : BandConfig).repeats =
      some b.repeats)
    (hfactor : settingOr entries .bands "factor" decodeWords ({} : BandConfig).factor =
      some b.factor) :
    (ConfigSource.keyed entries).get "six_sigma" 1 decodeBands {} = some b := by
  refine h.get_part .bands 1 (fun hnone => ?_) fun origin sub hfind => ?_
  · simp only [settingOr, hnone, Option.some.injEq] at hperiod hrepeats hfactor
    simp only [hperiod, hrepeats, hfactor]
  · simp only [settingOr, hfind] at hperiod hrepeats hfactor
    simp [decodeBands, ConfigSource.ofValue?, ConfigSource.get_keyed, hperiod, hrepeats, hfactor]

theorem Gives.logging (h : Gives entries given) {l : LogConfig}
    (hlevel : settingOr entries .logging "level" decodeWords ({} : LogConfig).level = some l.level)
    (htarget : settingOr entries .logging "with_target" decodeFlag ({} : LogConfig).withTarget =
      some l.withTarget) :
    (ConfigSource.keyed entries).get "logging" 2 decodeLogging {} = some l := by
  refine h.get_part .logging 2 (fun hnone => ?_) fun origin sub hfind => ?_
  · simp only [settingOr, hnone, Option.some.injEq] at hlevel htarget
    simp only [hlevel, htarget]
  · simp only [settingOr, hfind] at hlevel htarget
    simp [decodeLogging, ConfigSource.ofValue?, ConfigSource.get_keyed, hlevel, htarget]

theorem Gives.takes (h : Gives entries given) :
    ∃ c, Config.ofEntries? entries = some c ∧ c.Takes given := by
  have hkeys := Setting.wrap_of_key
  obtain ⟨interpolate, hinterpolate, hgiven₁, hother₁⟩ :=
    h.decodes .interpolate decodeFlag (fun _ => rfl) (fun _ => rfl) (fun x => (hkeys x).1)
      (fun _ => rfl) (show Setting.interpolate ({} : Config).interpolate ∈ _ by decide)
  obtain ⟨period, hperiod, hgiven₂, hother₂⟩ :=
    h.decodes .period decodeWords (fun _ => rfl) (fun _ => rfl) (fun x => (hkeys x).2.1)
      (fun _ => rfl) (show Setting.period ({} : BandConfig).period ∈ _ by decide)
  obtain ⟨repeats, hrepeats, hgiven₃, hother₃⟩ :=
    h.decodes .repeats decodeCount (fun _ => rfl) (fun _ => rfl) (fun x => (hkeys x).2.2.1)
      (fun _ => by simp [Setting.value, decodeCount])
      (show Setting.repeats ({} : BandConfig).repeats ∈ _ by decide)
  obtain ⟨factor, hfactor, hgiven₄, hother₄⟩ :=
    h.decodes .factor decodeWords (fun _ => rfl) (fun _ => rfl) (fun x => (hkeys x).2.2.2.1)
      (fun _ => rfl) (show Setting.factor ({} : BandConfig).factor ∈ _ by decide)
  obtain ⟨level, hlevel, hgiven₅, hother₅⟩ :=
    h.decodes .level decodeWords (fun _ => rfl) (fun _ => rfl) (fun x => (hkeys x).2.2.2.2.1)
      (fun _ => rfl) (show Setting.level ({} : LogConfig).level ∈ _ by decide)
  obtain ⟨withTarget, hwithTarget, hgiven₆, hother₆⟩ :=
    h.decodes .withTarget decodeFlag (fun _ => rfl) (fun _ => rfl) (fun x => (hkeys x).2.2.2.2.2)
      (fun _ => rfl) (show Setting.withTarget ({} : LogConfig).withTarget ∈ _ by decide)
  refine ⟨⟨interpolate, ⟨period, repeats, factor⟩, ⟨level, withTarget⟩⟩, ?_, ?_, ?_⟩
  · have hengine := h.engine hinterpolate
    have hbands := h.bands (b := ⟨period, repeats, factor⟩) hperiod hrepeats hfactor
    have hlogging := h.logging (l := ⟨level, withTarget⟩) hlevel hwithTarget
    simp [Config.ofEntries?, hengine, hbands, hlogging]
  · intro x hx
    cases x with
    | interpolate b => simp [Config.settings, hgiven₁ _ hx rfl]
    | period s => simp [Config.settings, hgiven₂ _ hx rfl]
    | repeats n => simp [Config.settings, hgiven₃ _ hx rfl]
    | factor s => simp [Config.settings, hgiven₄ _ hx rfl]
    | level s => simp [Config.settings, hgiven₅ _ hx rfl]
    | withTarget b => simp [Config.settings, hgiven₆ _ hx rfl]
  · intro x hx hkey
    simp only [Config.settings, List.mem_cons, List.not_mem_nil, or_false] at hx
    rcases hx with rfl | rfl | rfl | rfl | rfl | rfl
    · simp [Config.settings, hother₁ hkey]
    · simp [Config.settings, hother₂ hkey]
    · simp [Config.settings, hother₃ hkey]
    · simp [Config.settings, hother₄ hkey]
    · simp [Config.settings, hother₅ hkey]
    · simp [Config.settings, hother₆ hkey]

end

/-- A line that gives a setting, below lines that say nothing. -/
structure SettingLine where
  remarks : List LineEnd := []
  indent : Blanks := ⟨[], by simp⟩
  setting : Setting
  before : Blanks := ⟨[], by simp⟩
  written : List Char
  denotes : Denotes written setting.value
  lineEnd : LineEnd := {}

/-- A header, and below it the lines for its part in any order. -/
structure ConfigSection where
  remarks : List LineEnd := []
  indent : Blanks := ⟨[], by simp⟩
  part : ConfigPart
  lineEnd : LineEnd := {}
  lines : List SettingLine
  own : ∀ l ∈ lines, l.setting.part = part
  distinct : (lines.map fun l => l.setting.key).Nodup

/-- Sections in any order, no two of them for the same part. -/
structure ConfigDocument where
  sections : List ConfigSection
  distinct : (sections.map fun s => s.part).Nodup
  remarks : List LineEnd := []

namespace SettingLine

def text (l : SettingLine) : List Char :=
  l.remarks.flatMap LineEnd.text ++ (l.indent.1 ++ (l.setting.key.toList ++
    (l.before.1 ++ '=' :: (l.written ++ l.lineEnd.text))))

def entry (l : SettingLine) : String × Toml.Value :=
  (l.setting.key, l.setting.value)

end SettingLine

namespace ConfigSection

def text (s : ConfigSection) : List Char :=
  s.remarks.flatMap LineEnd.text ++ (s.indent.1 ++ '[' :: (s.part.name.toList ++
    ']' :: (s.lineEnd.text ++ s.lines.flatMap SettingLine.text)))

def entry (s : ConfigSection) : String × Toml.Value :=
  (s.part.name, .table .header (s.lines.map SettingLine.entry))

end ConfigSection

namespace ConfigDocument

def text (d : ConfigDocument) : String :=
  String.ofList (d.sections.flatMap ConfigSection.text ++ d.remarks.flatMap LineEnd.text)

def given (d : ConfigDocument) : List Setting :=
  d.sections.flatMap fun s => s.lines.map fun l => l.setting

end ConfigDocument

section

variable {header : List String} {root result : Entries} {rest : List Char}

theorem isBareKey_name (part : ConfigPart) : IsBareKey part.name := by
  cases part <;> simp [IsBareKey, ConfigPart.name, isBare]

theorem isBareKey_key (x : Setting) : IsBareKey x.key := by
  cases x <;> simp [IsBareKey, Setting.key, isBare]

theorem reads_remarks (es : List LineEnd) (h : Reads header root rest result) :
    Reads header root (es.flatMap LineEnd.text ++ rest) result := by
  induction es with
  | nil => exact h
  | cons e es ih =>
    rw [List.flatMap_cons, List.append_assoc]
    exact ih.remark e

theorem lookup_append_of_ne {entries : Entries} {key other : String} (hne : key ≠ other)
    (value : Toml.Value) : (entries ++ [(other, value)]).lookup key = entries.lookup key := by
  have hbeq : (key == other) = false := by simpa using hne
  simp [List.lookup_append, List.lookup_cons, hbeq]

theorem reads_settingLine (l : SettingLine) {name : String} {sub : Entries}
    (hroot : root.lookup name = none) (hsub : sub.lookup l.setting.key = none)
    (h : Reads [name] (root ++ [(name, .table .header (sub ++ [l.entry]))]) rest result) :
    Reads [name] (root ++ [(name, .table .header sub)]) (l.text ++ rest) result := by
  have hadd := addUnder_last hroot hsub l.setting.value
  have hread := Reads.keyed (isBareKey_key l.setting) l.denotes l.indent l.before l.lineEnd hadd h
  simpa [SettingLine.text] using reads_remarks l.remarks hread

theorem reads_settingLines {lines : List SettingLine} {name : String} {sub : Entries}
    (hroot : root.lookup name = none) (hsub : ∀ l ∈ lines, sub.lookup l.setting.key = none)
    (hdistinct : (lines.map fun l => l.setting.key).Nodup)
    (h : Reads [name] (root ++ [(name, .table .header (sub ++ lines.map SettingLine.entry))]) rest
      result) :
    Reads [name] (root ++ [(name, .table .header sub)]) (lines.flatMap SettingLine.text ++ rest)
      result := by
  induction lines generalizing sub with
  | nil => simpa using h
  | cons l lines ih =>
    rw [List.map_cons, List.nodup_cons] at hdistinct
    rw [List.flatMap_cons, List.append_assoc]
    apply reads_settingLine l hroot (hsub l (by simp))
    apply ih
    · intro l' hl'
      have hne : l'.setting.key ≠ l.setting.key := by
        intro heq
        exact hdistinct.1 (heq ▸ List.mem_map_of_mem hl')
      rw [SettingLine.entry, lookup_append_of_ne hne, hsub l' (by simp [hl'])]
    · exact hdistinct.2
    · simpa using h

/-- One section adds its table to the document. -/
theorem reads_section (s : ConfigSection) (hroot : root.lookup s.part.name = none)
    (h : Reads [s.part.name] (root ++ [s.entry]) rest result) :
    Reads header root (s.text ++ rest) result := by
  have hlines : Reads [s.part.name] (root ++ [(s.part.name, .table .header [])])
      (s.lines.flatMap SettingLine.text ++ rest) result :=
    reads_settingLines hroot (by simp) s.distinct (by simpa [ConfigSection.entry] using h)
  have hread : Reads header root (s.indent.1 ++ '[' :: (s.part.name.toList ++
      ']' :: (s.lineEnd.text ++ (s.lines.flatMap SettingLine.text ++ rest)))) result :=
    Reads.opened (isBareKey_name s.part) s.indent s.lineEnd (openTable_of_new hroot) hlines
  simpa [ConfigSection.text] using reads_remarks s.remarks hread

theorem reads_sections {sections : List ConfigSection}
    (hroot : ∀ s ∈ sections, root.lookup s.part.name = none)
    (hdistinct : (sections.map fun s => s.part).Nodup)
    (h : ∀ header, Reads header (root ++ sections.map ConfigSection.entry) rest result) :
    Reads header root (sections.flatMap ConfigSection.text ++ rest) result := by
  induction sections generalizing header root with
  | nil => simpa using h header
  | cons s sections ih =>
    rw [List.map_cons, List.nodup_cons] at hdistinct
    rw [List.flatMap_cons, List.append_assoc]
    apply reads_section s (hroot s (by simp))
    apply ih
    · intro s' hs'
      have hne : s'.part.name ≠ s.part.name := by
        intro heq
        have hpart : s'.part = s.part := ConfigPart.name_injective heq
        exact hdistinct.1 (hpart ▸ List.mem_map_of_mem hs')
      rw [ConfigSection.entry, lookup_append_of_ne hne, hroot s' (by simp [hs'])]
    · exact hdistinct.2
    · simpa using h

theorem read?_document (d : ConfigDocument) :
    read? d.text = some (d.sections.map ConfigSection.entry) := by
  apply read?_of_reads
  rw [ConfigDocument.text, String.toList_ofList]
  apply reads_sections (by simp) d.distinct
  intro header
  rw [List.nil_append, ← List.append_nil (d.remarks.flatMap LineEnd.text)]
  exact reads_remarks d.remarks Reads.nil

end

theorem mem_of_lookup {entries : Entries} {key : String} {value : Toml.Value}
    (h : entries.lookup key = some value) : (key, value) ∈ entries := by
  obtain ⟨before, behind, rfl, -⟩ := List.lookup_eq_some_iff.1 h
  simp

theorem lookup_map_of_mem {β : Type} {entry : β → String × Toml.Value} {xs : List β}
    (hdistinct : (xs.map fun x => (entry x).1).Nodup) {x : β} (hx : x ∈ xs) :
    (xs.map entry).lookup (entry x).1 = some (entry x).2 := by
  induction xs with
  | nil => cases hx
  | cons y xs ih =>
    rw [List.map_cons, List.nodup_cons] at hdistinct
    rw [List.map_cons, ← Prod.mk.eta (p := entry y), List.lookup_cons]
    rcases List.mem_cons.1 hx with rfl | htail
    · rw [beq_self_eq_true]
    · have hbeq : ((entry x).1 == (entry y).1) = false := by
        rw [beq_eq_false_iff_ne]
        intro heq
        exact hdistinct.1 (heq ▸ List.mem_map_of_mem htail)
      rw [hbeq]
      exact ih hdistinct.2 htail

theorem ConfigSection.lookup_entries {d : ConfigDocument} {s : ConfigSection}
    (hs : s ∈ d.sections) : (d.sections.map ConfigSection.entry).lookup s.part.name =
      some (.table .header (s.lines.map SettingLine.entry)) := by
  have hnames : (d.sections.map fun s => s.entry.1).Nodup := by
    have hmap := d.distinct.map ConfigPart.name_injective
    rwa [List.map_map] at hmap
  exact lookup_map_of_mem hnames hs

theorem ConfigSection.of_lookup {d : ConfigDocument} {part : ConfigPart} {v : Toml.Value}
    (h : (d.sections.map ConfigSection.entry).lookup part.name = some v) :
    ∃ s ∈ d.sections, v = .table .header (s.lines.map SettingLine.entry) := by
  obtain ⟨s, hs, hentry⟩ := List.mem_map.1 (mem_of_lookup h)
  exact ⟨s, hs, (Prod.mk.inj hentry).2.symm⟩

theorem gives_document (d : ConfigDocument) :
    Gives (d.sections.map ConfigSection.entry) d.given where
  tables part v h := by
    obtain ⟨s, -, rfl⟩ := ConfigSection.of_lookup h
    exact ⟨_, _, rfl⟩
  present x hx := by
    obtain ⟨s, hs, hlines⟩ := List.mem_flatMap.1 hx
    obtain ⟨l, hl, rfl⟩ := List.mem_map.1 hlines
    have hkeys : (s.lines.map fun l => l.entry.1).Nodup := s.distinct
    simp only [findSetting?, s.own l hl, ConfigSection.lookup_entries hs]
    exact lookup_map_of_mem hkeys hl
  absent x _ hkey := by
    unfold findSetting?
    split
    · rename_i hfound
      obtain ⟨s, hs, htable⟩ := ConfigSection.of_lookup hfound
      rw [Toml.Value.table.injEq] at htable
      obtain ⟨-, rfl⟩ := htable
      by_contra hlookup
      obtain ⟨v, hv⟩ := Option.ne_none_iff_exists'.1 hlookup
      obtain ⟨l, hl, hentry⟩ := List.mem_map.1 (mem_of_lookup hv)
      have hgiven : l.setting ∈ d.given :=
        List.mem_flatMap.2 ⟨s, hs, List.mem_map.2 ⟨l, hl, rfl⟩⟩
      exact hkey (List.mem_map.2 ⟨l.setting, hgiven, (Prod.mk.inj hentry).1⟩)
    · rfl

theorem ofToml_of_gives {s : String} {entries : Entries} {given : List Setting}
    (hread : read? s = some entries) (h : Gives entries given) :
    ∃ c, Config.ofToml s = .ok c ∧ c.Takes given := by
  obtain ⟨c, hc, htakes⟩ := h.takes
  exact ⟨c, by simp [Config.ofToml, hread, hc], htakes⟩

namespace Setting

/-- A value as files of settings give it. -/
def written : Setting → List Char
  | .interpolate b | .withTarget b => (Config.flagText b).toList
  | .period s | .factor s | .level s => writeText s
  | .repeats n => Decimal.digitChars n

/-- An integer in a document has sixty-four bits. -/
def Fits : Setting → Prop
  | .repeats n => (n : Int) ≤ Decimal.largestWord
  | _ => True

theorem denotes_written {x : Setting} (h : x.Fits) : Denotes x.written x.value := by
  cases x with
  | interpolate b => exact denotes_flag b
  | period s => exact denotes_text s
  | repeats n => exact denotes_count h
  | factor s => exact denotes_text s
  | level s => exact denotes_text s
  | withTarget b => exact denotes_flag b

/-- The line of a setting in a file of settings. -/
def text (x : Setting) : List Char :=
  x.key.toList ++ (' ' :: '=' :: ' ' :: (x.written ++ ['\n']))

def line (x : Setting) (h : x.Fits) : SettingLine where
  setting := x
  before := ⟨[' '], by simp [isSpace]⟩
  written := ' ' :: x.written
  denotes := (denotes_written h).indented ⟨[' '], by simp [isSpace]⟩

theorem text_line (x : Setting) (h : x.Fits) : (x.line h).text = x.text := by
  simp [line, SettingLine.text, text, LineEnd.text, LineEnd.remark, LineEnd.mark]

end Setting

section

variable (given : List Setting) (hkeys : (given.map Setting.key).Nodup)
  (hfits : ∀ x ∈ given, x.Fits)

def sectionOf (remarks : List LineEnd) (part : ConfigPart) : ConfigSection where
  remarks := remarks
  part := part
  lines := (given.filter fun x => x.part = part).attach.map fun x =>
    x.1.line (hfits x.1 (List.mem_of_mem_filter x.2))
  own := by
    intro l hl
    obtain ⟨x, -, rfl⟩ := List.mem_map.1 hl
    have hpart := (List.mem_filter.1 x.2).2
    simpa [Setting.line] using hpart
  distinct := by
    have hsub : ((given.filter fun x => x.part = part).map Setting.key).Nodup :=
      hkeys.sublist (List.filter_sublist.map _)
    simpa [Setting.line] using hsub

theorem sectionOf_given (remarks : List LineEnd) (part : ConfigPart) :
    ((sectionOf given hkeys hfits remarks part).lines.map fun l => l.setting) =
      given.filter fun x => x.part = part := by
  simp [sectionOf, Setting.line]

theorem text_sectionOf (remarks : List LineEnd) (part : ConfigPart) :
    (sectionOf given hkeys hfits remarks part).text =
      remarks.flatMap LineEnd.text ++ ('[' :: (part.name.toList ++
        (']' :: '\n' :: (given.filter fun x => x.part = part).flatMap Setting.text))) := by
  have hlines : (sectionOf given hkeys hfits remarks part).lines.flatMap SettingLine.text =
      (given.filter fun x => x.part = part).flatMap Setting.text := by
    rw [← List.attach_map_subtype_val (given.filter fun x => x.part = part), List.flatMap_map]
    simp [sectionOf, List.flatMap_map, Setting.text_line]
  rw [ConfigSection.text, hlines]
  simp [sectionOf, LineEnd.text, LineEnd.remark, LineEnd.mark]

def fileOf : ConfigDocument where
  sections := [sectionOf given hkeys hfits [] .engine, sectionOf given hkeys hfits [{}] .bands,
    sectionOf given hkeys hfits [{}] .logging]
  distinct := by simp [sectionOf]

theorem perm_fileOf_given : (fileOf given hkeys hfits).given.Perm given := by
  have hgiven : (fileOf given hkeys hfits).given =
      (given.filter fun x => x.part = .engine) ++ ((given.filter fun x => x.part = .bands) ++
        given.filter fun x => x.part = .logging) := by
    simp [fileOf, ConfigDocument.given, sectionOf_given]
  rw [hgiven, List.perm_iff_count]
  intro x
  have hcount : ∀ part, (given.filter fun x => x.part = part).count x =
      if x.part = part then given.count x else 0 := by
    intro part
    split
    · exact List.count_filter (by simpa)
    · exact List.count_eq_zero_of_not_mem (by simp_all)
  rw [List.count_append, List.count_append, hcount, hcount, hcount]
  cases hpart : x.part <;> simp

end

namespace Config

theorem nodup_settings (c : Config) : (c.settings.map Setting.key).Nodup := by
  simp [settings, Setting.key]

theorem fits_settings {c : Config} (h : (c.bands.repeats : Int) ≤ Decimal.largestWord) :
    ∀ x ∈ c.settings, x.Fits := by
  simpa [settings, Setting.Fits] using h

theorem toToml_eq_fileOf {c : Config} (h : (c.bands.repeats : Int) ≤ Decimal.largestWord) :
    c.toToml = .ok (fileOf c.settings c.nodup_settings (fits_settings h)).text := by
  unfold toToml
  rw [if_neg (by omega), Except.ok.injEq, ← String.toList_inj]
  simp [ConfigDocument.text, fileOf, text_sectionOf, settings, Setting.text, Setting.part,
    Setting.key, Setting.written, ConfigPart.name, LineEnd.text, LineEnd.remark, LineEnd.mark, line,
    textLine, Decimal.toList_natText]

/-- What is saved is read back.  A document in sections and any other text that gives some settings
leave the others at their defaults. -/
theorem file_restores :
    (∀ c : Config, (c.bands.repeats : Int) ≤ Decimal.largestWord →
      ∃ text, c.toToml = .ok text ∧ ofFile (some text) = .ok c) ∧
    (∀ d : ConfigDocument, ∃ c, ofToml d.text = .ok c ∧ c.Takes d.given) ∧
    (∀ (s : String) (entries : Entries) (given : List Setting), read? s = some entries →
      Gives entries given → ∃ c, ofToml s = .ok c ∧ c.Takes given) := by
  have hdocument (d : ConfigDocument) : ∃ c, ofToml d.text = .ok c ∧ c.Takes d.given :=
    ofToml_of_gives (read?_document d) (gives_document d)
  refine ⟨?_, hdocument, fun s entries given => ofToml_of_gives⟩
  intro c hc
  refine ⟨_, toToml_eq_fileOf hc, ?_⟩
  obtain ⟨c', hread, htakes⟩ := hdocument (fileOf c.settings c.nodup_settings (fits_settings hc))
  have hperm := perm_fileOf_given c.settings c.nodup_settings (fits_settings hc)
  have hsame : c = c' := eq_of_settings_subset fun x hx => htakes.taken x (hperm.mem_iff.2 hx)
  rw [← hsame] at hread
  exact hread

def difficult : Config where
  interpolate := true
  bands := { period := "\"\"\"\'\n", repeats := 9223372036854775807, factor := "" }
  logging := { level := "\x00\\", withTarget := false }

def sparseDocument : ConfigDocument where
  sections := [
    { part := .logging
      lineEnd := { blanks := ⟨[' '], by simp [isSpace]⟩, comment := some ⟨['x'], by simp [isShown]⟩ }
      lines := []
      own := by simp
      distinct := by simp },
    { part := .bands
      lines := [(Setting.factor "2").line trivial,
        (Setting.repeats 5).line (show ((5 : Nat) : Int) ≤ _ by decide)]
      own := by simp [Setting.line, Setting.part]
      distinct := by simp [Setting.line, Setting.key] }]
  distinct := by simp

theorem file_restores_difficult :
    (∃ text, difficult.toToml = .ok text ∧ ofFile (some text) = .ok difficult) ∧
    (sparseDocument.text = "[logging] #x\n[six_sigma]\nfactor = \"2\"\nrepeats = 5\n" ∧
      ∃ c, ofToml sparseDocument.text = .ok c ∧ c.Takes [.factor "2", .repeats 5]) ∧
    ∃ c, ofToml "engine = \x7b percentile_interpolate = true \x7d" = .ok c ∧
      c.Takes [.interpolate true] := by
  refine ⟨file_restores.1 difficult (by decide), ⟨by cbv, file_restores.2.1 sparseDocument⟩, ?_⟩
  have hread : read? "engine = \x7b percentile_interpolate = true \x7d" =
      some [("engine", .table .inline [("percentile_interpolate", .flag true)])] := by cbv
  refine file_restores.2.2 _ _ _ hread ⟨?_, ?_, ?_⟩
  · intro part v h
    obtain ⟨-, rfl⟩ := Prod.mk.inj (List.mem_singleton.1 (mem_of_lookup h))
    exact ⟨_, _, rfl⟩
  · simp [findSetting?, Setting.part, Setting.key, Setting.value, ConfigPart.name, List.lookup]
  · simp [settings, findSetting?, Setting.part, Setting.key, ConfigPart.name, List.lookup]

end Config

end MetricSeries

import MetricSeries.Series
import MetricSeries.Json.Decode

/-!
Series as JSON: an object with a key for every field.  The colour is left out when there is none;
the consolidation, the options, the colour and the expression may be left out of what is read.
-/

set_option autoImplicit false

namespace MetricSeries

open MetricSeries.Json

variable {α : Type}

section
variable [NumberText α]

def numberValue (x : α) : Value :=
  match NumberText.json? x with
  | some token => .number token.toList
  | none => .null

def sampleValue : Option α → Value
  | some x => numberValue x
  | none => .null

def intValue (n : Int) : Value :=
  .number (Decimal.intText n).toList

def Hint.toJson : Hint α → Value
  | .flag b => .flag b
  | .number x => numberValue x
  | .text s => .ofText s

def Hints.toJson (h : Hints α) : Value :=
  .ofFields (h.entries.map fun (key, hint) => (key, hint.toJson))

def Series.toJson (s : Series α) : Value :=
  .ofFields <|
    [("name", .ofText s.name), ("start", intValue s.start), ("end", intValue s.finish),
      ("step", intValue s.step), ("values", .ofList (s.values.map sampleValue)),
      ("consolidation", .ofText s.consolidation.word), ("options", s.hints.toJson)]
    ++ (match s.color with
      | some color => [("color", .ofText color)]
      | none => [])
    ++ [("pathExpression", .ofText s.path)]

def Series.jsonText (s : Series α) : String :=
  s.toJson.render compact

end

section
variable (α) [Neg α] [NatCast α] [NumberText α]

/-- A word that names a consolidation, or an object with that word as its only key and null for its
value. -/
def decodeConsolidation : Decoder Consolidation
  | .text (some word) => known word
  | .text none => .error (.stop .malformed)
  | .broken b => .error (.stop b.read)
  | .object [] (some b) => .error (.stop b.read)
  | .object ((key, value) :: rest) stop => do
    match key with
    | none => throw (.stop .malformed)
    | some word => do
      let c ← known word
      match value with
      | .null => closeArray (rest.map Prod.snd) stop
      | v => throw (mismatch α v)
      return c
  | _ => .error (.stop .malformed)
where
  known (word : String) : Except Fault Consolidation :=
    match Consolidation.ofWord? word with
    | some c => .ok c
    | none => .error .content

def decodeHint (v : Value) : Except Fault (Hint α) := do
  v.check α 126
  match v with
  | .flag b => return .flag b
  | .number token =>
    match numberOf? token with
    | some x => return .number x
    | none => throw .content
  | .text (some s) => return .text s
  | _ => throw .content

/-- Hints by key; of two with the same key the later counts. -/
def decodeHints : Decoder (Hints α)
  | .object members stop => do
    let h ← members.foldlM (fun (h : Hints α) (key, v) =>
      match key with
      | none => throw (.stop .malformed)
      | some key => return h.insert key (← decodeHint α v)) .empty
    match stop with
    | none => return h
    | some b => throw (.stop b.read)
  | v => .error (mismatch α v)

structure SeriesFields where
  name : Option String := none
  start : Option Int := none
  finish : Option Int := none
  step : Option Int := none
  values : Option (Samples α) := none
  consolidation : Option Consolidation := none
  hints : Option (Hints α) := none
  color : Option (Option String) := none
  path : Option String := none

def decodeSamples : Decoder (Samples α) :=
  decodeList α (decodeOption (decodeNumber α))

def SeriesFields.read (f : SeriesFields α) (member : Option String × Value) :
    Except Fault (SeriesFields α) := do
  let v := member.2
  match member.1 with
  | none => throw (.stop .malformed)
  | some "name" => return { f with name := ← fillField "name" f.name (decodeText α) v }
  | some "start" => return { f with start := ← fillField "start" f.start (decodeInt α) v }
  | some "end" => return { f with finish := ← fillField "end" f.finish (decodeInt α) v }
  | some "step" => return { f with step := ← fillField "step" f.step (decodeInt α) v }
  | some "values" => return { f with values := ← fillField "values" f.values (decodeSamples α) v }
  | some "consolidation" => return { f with
      consolidation := ← fillField "consolidation" f.consolidation (decodeConsolidation α) v }
  | some "options" => return { f with hints := ← fillField "options" f.hints (decodeHints α) v }
  | some "color" => return { f with
      color := ← fillField "color" f.color (decodeOption (decodeText α)) v }
  | some "pathExpression" => return { f with
      path := ← fillField "pathExpression" f.path (decodeText α) v }
  | some _ => do
    v.skip
    return f

def SeriesFields.toSeries (f : SeriesFields α) : Except Fault (Series α) := do
  return {
    name := ← needField "name" f.name
    start := ← needField "start" f.start
    finish := ← needField "end" f.finish
    step := ← needField "step" f.step
    values := ← needField "values" f.values
    consolidation := f.consolidation.getD .average
    hints := f.hints.getD .empty
    color := f.color.getD none
    path := f.path.getD "" }

def seriesOfItems (items : List Value) (stop : Option Break) : Except Fault (Series α) := do
  let (name, items) ← needItem (decodeText α) items stop
  let (start, items) ← needItem (decodeInt α) items stop
  let (finish, items) ← needItem (decodeInt α) items stop
  let (step, items) ← needItem (decodeInt α) items stop
  let (values, items) ← needItem (decodeSamples α) items stop
  let (consolidation, items) ← nextItem (decodeConsolidation α) items stop
  let (hints, items) ← nextItem (decodeHints α) items stop
  let (color, items) ← nextItem (decodeOption (decodeText α)) items stop
  let (path, items) ← nextItem (decodeText α) items stop
  closeArray items stop
  return { name, start, finish, step, values,
           consolidation := consolidation.getD .average
           hints := hints.getD .empty
           color := color.getD none
           path := path.getD "" }

def decodeSeries : Decoder (Series α)
  | .array items stop => seriesOfItems α items stop
  | .object members stop => do
    let fields ← members.foldlM (SeriesFields.read α) {}
    match stop with
    | some b => throw (.stop b.read)
    | none => fields.toSeries
  | v => .error (mismatch α v)

def Series.ofJsonText (s : String) : Except Fault (Series α) :=
  decode (decodeSeries α) s

end

end MetricSeries

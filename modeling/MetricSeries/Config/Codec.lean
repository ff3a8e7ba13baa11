import MetricSeries.Config
import MetricSeries.Toml.Reader

/-!
Settings as a TOML document: a table for each part of the engine.  What a document does not say
keeps its default, and what it says beyond is passed over.
-/

set_option autoImplicit false

namespace MetricSeries

open MetricSeries.Toml

/-- Where a part of the settings is found: under keys, or in an array in the order of the
settings. -/
inductive ConfigSource where
  | keyed (entries : Entries)
  | listed (items : List Toml.Value)

namespace ConfigSource

def ofValue? : Toml.Value → Option ConfigSource
  | .table _ entries => some (.keyed entries)
  | .array items => some (.listed items)
  | .tables items => some (.listed (items.map fun entries => .table .header entries))
  | .date => some (.keyed [])
  | _ => none

def find? (source : ConfigSource) (key : String) (place : Nat) : Option Toml.Value :=
  match source with
  | .keyed entries => entries.lookup key
  | .listed items => items[place]?

def get {β : Type} (source : ConfigSource) (key : String) (place : Nat)
    (decode : Toml.Value → Option β) (default : β) : Option β :=
  match source.find? key place with
  | some value => decode value
  | none => some default

end ConfigSource

def decodeFlag : Toml.Value → Option Bool
  | .flag b => some b
  | _ => none

def decodeWords : Toml.Value → Option String
  | .text s => some s
  | _ => none

def decodeCount : Toml.Value → Option Nat
  | .integer n => if 0 ≤ n then some n.toNat else none
  | _ => none

def decodeEngine (value : Toml.Value) : Option Bool := do
  let source ← ConfigSource.ofValue? value
  source.get "percentile_interpolate" 0 decodeFlag ({} : Config).interpolate

def decodeBands (value : Toml.Value) : Option BandConfig := do
  let source ← ConfigSource.ofValue? value
  let default : BandConfig := {}
  return {
    period := ← source.get "period" 0 decodeWords default.period
    repeats := ← source.get "repeats" 1 decodeCount default.repeats
    factor := ← source.get "factor" 2 decodeWords default.factor }

def decodeLogging (value : Toml.Value) : Option LogConfig := do
  let source ← ConfigSource.ofValue? value
  let default : LogConfig := {}
  return {
    level := ← source.get "level" 0 decodeWords default.level
    withTarget := ← source.get "with_target" 1 decodeFlag default.withTarget }

namespace Config

def ofEntries? (entries : Entries) : Option Config := do
  let source := ConfigSource.keyed entries
  let default : Config := {}
  return {
    interpolate := ← source.get "engine" 0 decodeEngine default.interpolate
    bands := ← source.get "six_sigma" 1 decodeBands default.bands
    logging := ← source.get "logging" 2 decodeLogging default.logging }

def ofToml (s : String) : Except Error Config :=
  match (Toml.read? s).bind ofEntries? with
  | some c => .ok c
  | none => .error (.configuration .unreadable)

def ofFile (content : Option String) : Except Error Config :=
  match content with
  | some s => ofToml s
  | none => .error .file

def ofFileWithEnvironment (content : Option String) (env : Environment) : Except Error Config :=
  (ofFile content).map fun c => c.override env

def flagText (b : Bool) : String :=
  if b then "true" else "false"

def line (key value : String) : String :=
  key ++ " = " ++ value ++ "\n"

def textLine (key value : String) : String :=
  line key (String.ofList (Toml.writeText value))

def toToml (c : Config) : Except Error String :=
  if Decimal.largestWord < c.bands.repeats then .error .serialization
  else .ok <|
    "[engine]\n" ++ line "percentile_interpolate" (flagText c.interpolate)
    ++ "\n[six_sigma]\n" ++ textLine "period" c.bands.period
    ++ line "repeats" (Decimal.natText c.bands.repeats) ++ textLine "factor" c.bands.factor
    ++ "\n[logging]\n" ++ textLine "level" c.logging.level
    ++ line "with_target" (flagText c.logging.withTarget)

end Config

end MetricSeries

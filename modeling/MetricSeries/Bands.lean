import MetricSeries.Config
import MetricSeries.Arith

set_option autoImplicit false

namespace MetricSeries

structure BandFactors (α : Type) where
  upper : α
  lower : α
  deriving DecidableEq, Repr

section
variable {α : Type} [NumberText α]

def parseFactorPart (part : String) : Except FormatFault α :=
  match NumberText.parse? (Text.trim part) with
  | some x => .ok x
  | none => .error (.notNumber part)

def parseFactors [LT α] [DecidableLT α] [BEq α] (factor : String) :
    Except FormatFault (BandFactors α) :=
  match Text.pieces ':' factor with
  | [part] => do
    let x ← parseFactorPart part
    return ⟨x, x⟩
  | [a, b] => do
    let x ← parseFactorPart a
    let y ← parseFactorPart b
    return ⟨greater x y, lesser x y⟩
  | _ => .error (.manySeparators factor)

end

/-- Whether bands can be drawn with the settings.  The period is looked at first, then the number
of repeats, the factor and the level of the log. -/
def Config.validate (α : Type) [NumberText α] [LT α] [DecidableLT α] [BEq α] (c : Config) :
    Except Error Unit :=
  match parseOffset c.bands.period with
  | .error fault => .error (.format fault)
  | .ok period =>
    if period = 0 then .error (.configuration .zeroPeriod)
    else if c.bands.repeats = 0 then .error (.configuration .zeroRepeats)
    else
      match (parseFactors c.bands.factor : Except FormatFault (BandFactors α)) with
      | .error fault => .error (.format fault)
      | .ok _ =>
        if Text.trim c.logging.level = "" then .error (.configuration .blankLevel) else .ok ()

end MetricSeries

import MetricSeries.Time.Instant
import MetricSeries.Text.Quoted

set_option autoImplicit false

namespace MetricSeries

inductive FormatFault where
  | notNumber (part : String)
  | manySeparators (factor : String)
  | notOffset (offset : String)
  | amountTooLarge (offset : String)
  | unknownUnit (unit offset : String)
  | offsetTooLarge (offset : String)
  /-- A bound of a window lies outside the calendar. -/
  | startOutside (seconds : Int)
  | stopOutside (seconds : Int)
  /-- The calendar ends before the next hour. -/
  | noNextHour (instant : Instant)
  deriving DecidableEq, Repr

def FormatFault.field : FormatFault → String
  | .notNumber _ | .manySeparators _ => "factor"
  | .notOffset _ | .amountTooLarge _ | .unknownUnit _ _ | .offsetTooLarge _ => "period"
  | .startOutside _ => "from"
  | .stopOutside _ => "until"
  | .noNextHour _ => "timestamp"

def FormatFault.message : FormatFault → String
  | .notNumber part => "'" ++ part ++ "' is not a number"
  | .manySeparators factor => "'" ++ factor ++ "' has more than one ':' separator"
  | .notOffset offset => "'" ++ offset ++ "' is not a time offset"
  | .amountTooLarge offset => "'" ++ offset ++ "' amount is out of range"
  | .unknownUnit unit offset => "unknown unit '" ++ unit ++ "' in '" ++ offset ++ "'"
  | .offsetTooLarge offset => "'" ++ offset ++ "' is out of range"
  | .startOutside seconds | .stopOutside seconds =>
    Decimal.intText seconds ++ " is not a representable epoch timestamp"
  | .noNextHour instant => instant.text ++ " cannot be aligned forward"

def Instant.alignForward (t : Instant) : Except FormatFault Instant :=
  match t.nextHour? with
  | some next => .ok next
  | none => .error (.noNextHour t)

inductive Kind where
  | list | groups | integer | number | text | boolean
  deriving DecidableEq, Repr

def Kind.word : Kind → String
  | .list => "series list"
  | .groups => "series groups"
  | .integer => "integer"
  | .number => "number"
  | .text => "string"
  | .boolean => "boolean"

inductive ArgumentFault where
  | missing
  | mismatch (expected found : Kind)
  | negative
  | percentNotPositive
  | notTwoSeries (count : Nat)
  | zeroPeriod
  | zeroRepeats
  | historyOutside
  deriving DecidableEq, Repr

def ArgumentFault.message : ArgumentFault → String
  | .missing => "missing required argument"
  | .mismatch expected found => "expected " ++ expected.word ++ ", found " ++ found.word
  | .negative => "expected a non-negative integer"
  | .percentNotPositive => "the requested percent must be greater than 0"
  | .notTwoSeries count => "expected exactly 2 series, got " ++ Decimal.natText count
  | .zeroPeriod => "period must be non-zero"
  | .zeroRepeats => "repeats must be > 0"
  | .historyOutside => "history window is out of range"

inductive ConfigFault where
  | zeroPeriod
  | zeroRepeats
  | blankLevel
  | unreadable
  deriving DecidableEq, Repr

def ConfigFault.message : ConfigFault → String
  | .zeroPeriod => "Six-sigma period must be non-zero"
  | .zeroRepeats => "Six-sigma repeats must be > 0"
  | .blankLevel => "Log level cannot be empty"
  | .unreadable => "Failed to parse config"

inductive Error where
  | format (fault : FormatFault)
  | nodeOutOfRange (name : String) (index : Int) (nodes : Nat)
  | missingMember (group matcher : String)
  | unknownFunction (name : String)
  | argument (function : String) (position : Nat) (fault : ArgumentFault)
  | noEvaluator (target : String)
  | evaluation (target message : String)
  | pattern
  | configuration (fault : ConfigFault)
  | file
  | serialization
  deriving DecidableEq, Repr

namespace Error

def isFormat : Error → Bool
  | .format _ => true
  | _ => false

def isAddressing : Error → Bool
  | .nodeOutOfRange .. | .missingMember .. => true
  | _ => false

def message : Error → String
  | .format fault => "Invalid format for " ++ fault.field ++ ": " ++ fault.message
  | .nodeOutOfRange name index nodes =>
    "Node index " ++ Decimal.intText index ++ " out of range for '" ++ name ++ "' ("
      ++ Decimal.natText nodes ++ " nodes)"
  | .missingMember group matcher =>
    "Group '" ++ group ++ "' has no series matching '" ++ matcher ++ "'"
  | .unknownFunction name => "Unknown function: " ++ name
  | .argument function position fault =>
    "Invalid argument " ++ Decimal.natText position ++ " to " ++ function ++ ": " ++ fault.message
  | .noEvaluator target => "No target evaluator available for '" ++ target ++ "'"
  | .evaluation target message => "Evaluation of '" ++ target ++ "' failed: " ++ message
  | .pattern => "Regex error"
  | .configuration fault => "Configuration error: " ++ fault.message
  | .file => "IO error"
  | .serialization => "Serialization error"

def kind : Error → String
  | .format _ => "InvalidFormat"
  | .nodeOutOfRange .. => "NodeOutOfRange"
  | .missingMember .. => "MissingGroupMember"
  | .unknownFunction _ => "UnknownFunction"
  | .argument .. => "InvalidArgument"
  | .noEvaluator _ => "NoEvaluator"
  | .evaluation .. => "Evaluation"
  | .pattern => "Regex"
  | .configuration _ => "Configuration"
  | .file => "Io"
  | .serialization => "Serialization"

def diagnostic (e : Error) : String :=
  match e with
  | .format fault =>
    Text.record e.kind [("field", Text.quoted fault.field), ("message", Text.quoted fault.message)]
  | .nodeOutOfRange name index nodes =>
    Text.record e.kind [("name", Text.quoted name), ("index", Decimal.intText index),
      ("nodes", Decimal.natText nodes)]
  | .missingMember group matcher =>
    Text.record e.kind [("group", Text.quoted group), ("matcher", Text.quoted matcher)]
  | .unknownFunction text | .noEvaluator text => e.kind ++ "(" ++ Text.quoted text ++ ")"
  | .argument function position fault =>
    Text.record e.kind [("function", Text.quoted function), ("position", Decimal.natText position),
      ("message", Text.quoted fault.message)]
  | .evaluation target message =>
    Text.record e.kind [("target", Text.quoted target), ("message", Text.quoted message)]
  | .configuration fault => e.kind ++ "(" ++ Text.quoted fault.message ++ ")"
  | .pattern | .file | .serialization => e.kind

end Error

inductive Alignment where
  | forward | backward
  deriving DecidableEq, Repr

/-- An instant brought to a whole hour: the one that has begun, or the next. -/
def Instant.align (t : Instant) : Alignment → Except Error Instant
  | .forward => t.alignForward.mapError .format
  | .backward => .ok t.hour

end MetricSeries

import MetricSeries.Error
import MetricSeries.Text.Words
import MetricSeries.Decimal.Read

set_option autoImplicit false

namespace MetricSeries

def longestOffset : Int := 9223372036854775

/-- The seconds of a unit.  Months have 30 days and years have 365. -/
def unitSeconds? (unit : String) : Option Int :=
  if unit ∈ ["s", "sec", "secs", "second", "seconds"] then some 1
  else if unit ∈ ["min", "mins", "minute", "minutes"] then some 60
  else if unit ∈ ["h", "hour", "hours"] then some 3600
  else if unit ∈ ["d", "day", "days"] then some 86400
  else if unit ∈ ["w", "week", "weeks"] then some (7 * 86400)
  else if unit ∈ ["mon", "month", "months"] then some (30 * 86400)
  else if unit ∈ ["y", "year", "years"] then some (365 * 86400)
  else none

structure OffsetText where
  minus : Bool
  amount : List Char
  unit : List Char
  deriving DecidableEq, Repr

def OffsetText.ofChars? (cs : List Char) : Option OffsetText :=
  let (minus, cs) := Decimal.readSign (cs.dropWhile Text.isBlank)
  let (amount, cs) := cs.span Text.isDecimalDigit
  let (unit, cs) := (cs.dropWhile Text.isBlank).span Char.isAlpha
  if amount.isEmpty || unit.isEmpty || !cs.all Text.isBlank then none
  else some ⟨minus, amount, unit⟩

def OffsetText.amount? (t : OffsetText) : Option Int :=
  Decimal.word? (String.ofList t.amount)

def parseOffset (offset : String) : Except FormatFault Int :=
  match OffsetText.ofChars? offset.toList with
  | none => .error (.notOffset offset)
  | some t =>
    match t.amount? with
    | none => .error (.amountTooLarge offset)
    | some amount =>
      match unitSeconds? (String.ofList t.unit) with
      | none => .error (.unknownUnit (String.ofList t.unit) offset)
      | some seconds =>
        if amount * seconds ≤ longestOffset then
          .ok (if t.minus then -(amount * seconds) else amount * seconds)
        else .error (.offsetTooLarge offset)

end MetricSeries

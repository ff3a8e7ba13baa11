import MetricSeries.Decimal.Layout

/-!
Instants of universal time: whole seconds since 1970 with a part in nanoseconds.  The calendar ends
at years -262143 and 262142.  A leap second is the second before it with a part of a full second or
more; a pair of numbers tells one only where a minute ends.
-/

set_option autoImplicit false

namespace MetricSeries

def Instant.firstSecond : Int := -8334601228800

def Instant.lastSecond : Int := 8210266876799

structure Instant where
  seconds : Int
  nanos : Nat
  first_le : Instant.firstSecond ≤ seconds := by omega
  le_last : seconds ≤ Instant.lastSecond := by omega
  nanos_lt : nanos < 2000000000 := by omega
  deriving DecidableEq, Repr

namespace Instant

instance : LE Instant :=
  ⟨fun t u => t.seconds < u.seconds ∨ t.seconds = u.seconds ∧ t.nanos ≤ u.nanos⟩

instance : LT Instant :=
  ⟨fun t u => t.seconds < u.seconds ∨ t.seconds = u.seconds ∧ t.nanos < u.nanos⟩

theorem le_def {t u : Instant} :
    t ≤ u ↔ t.seconds < u.seconds ∨ t.seconds = u.seconds ∧ t.nanos ≤ u.nanos := .rfl

theorem lt_def {t u : Instant} :
    t < u ↔ t.seconds < u.seconds ∨ t.seconds = u.seconds ∧ t.nanos < u.nanos := .rfl

instance (t u : Instant) : Decidable (t ≤ u) :=
  decidable_of_iff' _ le_def

def ofParts? (seconds : Int) (nanos : Nat) : Option Instant :=
  if h : (firstSecond ≤ seconds ∧ seconds ≤ lastSecond) ∧ nanos < 2000000000 ∧
      (1000000000 ≤ nanos → seconds % 60 = 59) then
    some ⟨seconds, nanos, h.1.1, h.1.2, h.2.1⟩
  else none

def ofSeconds? (seconds : Int) : Option Instant :=
  ofParts? seconds 0

def epoch : Instant where
  seconds := 0
  nanos := 0
  first_le := by decide
  le_last := by decide

def earliest : Instant where
  seconds := firstSecond
  nanos := 0
  first_le := by decide
  le_last := by decide

def latest : Instant where
  seconds := lastSecond
  nanos := 999999999
  first_le := by decide
  le_last := by decide

def secondOfDay (t : Instant) : Int :=
  t.seconds % 86400

def onDay? (t : Instant) (second : Int) (nanos : Nat) : Option Instant :=
  let seconds := t.seconds - t.secondOfDay + second
  if h : (firstSecond ≤ seconds ∧ seconds ≤ lastSecond) ∧ nanos < 2000000000 then
    let u : Instant := ⟨seconds, nanos, h.1.1, h.1.2, h.2⟩
    if earliest ≤ u ∧ u ≤ latest then some u else none
  else none

def withNanos? (nanos : Nat) (t : Instant) : Option Instant :=
  t.onDay? t.secondOfDay nanos

def withSecond? (second : Nat) (t : Instant) : Option Instant :=
  if second < 60 then t.onDay? (t.secondOfDay / 60 * 60 + second) t.nanos else none

def withMinute? (minute : Nat) (t : Instant) : Option Instant :=
  if minute < 60 then
    t.onDay? (t.secondOfDay / 3600 * 3600 + minute * 60 + t.secondOfDay % 60) t.nanos
  else none

/-- Nanoseconds, second and minute are set to zero one after the other. -/
def fullHour? (t : Instant) : Option Instant := do
  let t ← t.withNanos? 0
  let t ← t.withSecond? 0
  t.withMinute? 0

/-- The last whole hour that is not after the instant.  An instant of which a field could not be set
would stay as it is. -/
def hour (t : Instant) : Instant :=
  t.fullHour?.getD t

def nextHour? (t : Instant) : Option Instant :=
  ofSeconds? (t.hour.seconds + 3600)

def before? (t : Instant) (span : Int) : Option Instant :=
  ofSeconds? (t.seconds - span)

end Instant

structure Date where
  year : Int
  month : Nat
  day : Nat
  deriving DecidableEq, Repr

/-- The day that many days after the first of January 1970.  Years are counted from March on in
cycles of 400 years, so that a leap day ends its year. -/
def Date.ofDays (days : Int) : Date :=
  let z := days + 719468
  let era := z / 146097
  let doe := (z % 146097).toNat
  let yoe := (doe - doe / 1460 + doe / 36524 - doe / 146096) / 365
  let doy := doe - (365 * yoe + yoe / 4 - yoe / 100)
  let mp := (5 * doy + 2) / 153
  let month := if mp < 10 then mp + 3 else mp - 9
  let year : Int := yoe + era * 400 + (if month ≤ 2 then 1 else 0)
  ⟨year, month, doy - (153 * mp + 2) / 5 + 1⟩

def paddedText (width n : Nat) : String :=
  let ds := Decimal.digitChars n
  String.ofList (List.replicate (width - ds.length) '0' ++ ds)

def Date.text (d : Date) : String :=
  let year :=
    if 0 ≤ d.year && d.year ≤ 9999 then paddedText 4 d.year.toNat
    else (if d.year < 0 then "-" else "+") ++ paddedText 4 d.year.natAbs
  year ++ "-" ++ paddedText 2 d.month ++ "-" ++ paddedText 2 d.day

namespace Instant

def date (t : Instant) : Date :=
  .ofDays (t.seconds / 86400)

/-- Hours, minutes and seconds.  A part of the second follows in the fewest of three, six or nine
digits that hold it, and a leap second is the sixtieth of its minute. -/
def clock (t : Instant) : String :=
  let s := (t.seconds % 86400).toNat
  let leap := 1000000000 ≤ t.nanos
  let nanos := if leap then t.nanos - 1000000000 else t.nanos
  let part :=
    if nanos = 0 then ""
    else if nanos % 1000000 = 0 then "." ++ paddedText 3 (nanos / 1000000)
    else if nanos % 1000 = 0 then "." ++ paddedText 6 (nanos / 1000)
    else "." ++ paddedText 9 nanos
  paddedText 2 (s / 3600) ++ ":" ++ paddedText 2 (s / 60 % 60) ++ ":"
    ++ paddedText 2 (s % 60 + (if leap then 1 else 0)) ++ part

def text (t : Instant) : String :=
  t.date.text ++ " " ++ t.clock ++ " UTC"

def stamp (t : Instant) : String :=
  t.date.text ++ "T" ++ t.clock ++ "Z"

end Instant

/-- A stretch of time between two instants, which may be given in either order. -/
structure Window where
  start : Instant
  stop : Instant
  deriving DecidableEq, Repr

end MetricSeries

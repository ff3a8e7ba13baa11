import MetricSeries.Bands
import MetricSeries.Decimal.Double
import MetricSeries.Samples.Season
import MetricSeries.Call.Context

/-!
Bands of expected values: the history before the window is cut into periods, and each slot of a
period has a mean and a band of so many deviations around it.
-/

set_option autoImplicit false

namespace MetricSeries

variable {α : Type}

structure Bands (α : Type) where
  mean : Samples α
  upper : Samples α
  lower : Samples α

def Bands.absent (n : Nat) : Bands α :=
  ⟨List.replicate n none, List.replicate n none, List.replicate n none⟩

section
variable [Zero α] [Add α] [Sub α] [Mul α] [Div α] [NatCast α] [SquareRoot α]

def Bands.ofSeason (factors : BandFactors α) (season : Samples.Season α) : Bands α where
  mean := season.mean.map some
  upper := List.zipWith (fun m s => some (m + factors.upper * s)) season.mean season.deviation
  lower := List.zipWith (fun m s => some (m - factors.lower * s)) season.mean season.deviation

/-- The bands of a history of `repeats` periods of `n` samples.  Where no sample is known the bands
are empty. -/
def Bands.ofHistory (repeats n : Nat) (factors : BandFactors α) (history : Samples α) : Bands α :=
  match (Samples.fill (history.take (n * repeats))).mapM id with
  | some values => .ofSeason factors (.ofValues repeats values)
  | none => .absent n

end

def tile (times : Nat) (xs : Samples α) : Samples α :=
  (List.replicate times xs).flatten

/-- What a period is called: a length of time into the past. -/
def periodLabel (period : String) : String :=
  match Text.trimBlanks period.toList with
  | '-' :: cs => String.ofList ('-' :: cs)
  | cs => String.ofList ('-' :: cs)

structure BandCall where
  period : String
  repeats : Nat
  factor : String

def Series.target (s : Series α) : String :=
  if s.path = "" then s.name else s.path

/-- What is known before any history is: the factors, the seconds of a period, and the window that
the history covers. -/
structure BandPlan (α : Type) where
  factors : BandFactors α
  seconds : Int
  history : Window

def signedCount (n : Nat) : Int :=
  Decimal.wrapWord n

def wordProduct? (a b : Int) : Option Int :=
  if Decimal.smallestWord ≤ a * b ∧ a * b ≤ Decimal.largestWord then some (a * b) else none

def countedOffset? (seconds : Int) : Option Int :=
  if -longestOffset ≤ seconds ∧ seconds ≤ longestOffset then some seconds else none

/-- The window of so many periods before the last whole hour: the count as a signed number, times
the seconds of a period, is a length of time, and the calendar must reach back that far. -/
def historyWindow? (start : Instant) (repeats : Nat) (seconds : Int) : Option Window := do
  let product ← wordProduct? (signedCount repeats) seconds
  let span ← countedOffset? product
  let first ← start.hour.before? span
  return ⟨first, start.hour⟩

def BandPlan.make [NumberText α] [LT α] [DecidableLT α] [BEq α] (window : Window)
    (call : BandCall) : Except Error (BandPlan α) :=
  match parseFactors call.factor with
  | .error fault => .error (.format fault)
  | .ok factors =>
    match parseOffset call.period with
    | .error fault => .error (.format fault)
    | .ok offset =>
      let seconds : Int := offset.natAbs
      if seconds = 0 then .error (.argument "sixSigma" 1 .zeroPeriod)
      else if call.repeats = 0 then .error (.argument "sixSigma" 2 .zeroRepeats)
      else
        match historyWindow? window.start call.repeats seconds with
        | none => .error (.argument "sixSigma" 1 .historyOutside)
        | some history => .ok ⟨factors, seconds, history⟩

def BandPlan.tiles (plan : BandPlan α) (window : Window) : Nat :=
  let remaining := max 0 (window.stop.seconds - plan.history.stop.seconds)
  (max 1 ((remaining + plan.seconds - 1) / plan.seconds)).toNat

def BandCall.label (call : BandCall) (name : String) : String :=
  name ++ ", period='" ++ periodLabel call.period ++ "', repeats=" ++ Decimal.natText call.repeats

def bandSeries (plan : BandPlan α) (tiles n : Nat) (s : Series α) (name : String)
    (values : Samples α) : Series α :=
  let start := plan.history.stop.seconds
  let step := max 1 (plan.seconds / (n : Int))
  let values := tile tiles values
  { Series.named name start (lastTime start step values.length) step values with
    consolidation := s.consolidation }

/-- The three bands of a series and a history: none where the history has no sample for each
repeat. -/
def bandsOf [Zero α] [Add α] [Sub α] [Mul α] [Div α] [NatCast α] [SquareRoot α] [NumberText α]
    (plan : BandPlan α) (tiles : Nat) (call : BandCall) (s history : Series α) : List (Series α) :=
  let n := history.length / call.repeats
  if n = 0 then []
  else
    let bands := Bands.ofHistory call.repeats n plan.factors history.values
    let band := bandSeries plan tiles n s
    let label := call.label s.name
    [band ("sixSigmaMean(" ++ label ++ ")") bands.mean,
      band ("sixSigmaUpper(" ++ label ++ ", factor=" ++ NumberText.exact plan.factors.upper ++ ")")
        bands.upper,
      band ("sixSigmaLower(" ++ label ++ ", factor=" ++ NumberText.exact plan.factors.lower ++ ")")
        bands.lower]

/-- The bands of every series, from the history that its expression has.  The first series of a
history is the one that counts; without any there are no bands. -/
def sixSigma [Arith α] [NumberText α] (scope : Scope α) (call : BandCall)
    (list : List (Series α)) : Run (List (Series α)) := do
  let plan ← liftExcept (BandPlan.make scope.window call)
  let tiles := plan.tiles scope.window
  let bands ← list.mapM fun s => do
    match ← scope.fetch plan.history s.target with
    | [] => return []
    | history :: _ => return bandsOf plan tiles call s history
  return bands.flatten

end MetricSeries

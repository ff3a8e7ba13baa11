import MetricSeries.Samples.Percentile

set_option autoImplicit false

namespace MetricSeries

variable {α : Type}

inductive Side where
  | above | below
  deriving DecidableEq, Repr

def Side.holds [LT α] [DecidableLT α] (side : Side) (threshold x : α) : Bool :=
  match side with
  | .above => decide (threshold < x)
  | .below => decide (x < threshold)

def Samples.blank (remove : α → Bool) (xs : Samples α) : Samples α :=
  xs.map fun x => x.filter fun x => !remove x

def applied [NumberText α] (function name : String) (argument : α) : String :=
  function ++ "(" ++ name ++ ", " ++ NumberText.plain argument ++ ")"

def Side.valueFunction : Side → String
  | .above => "removeAboveValue"
  | .below => "removeBelowValue"

def Side.percentileFunction : Side → String
  | .above => "removeAbovePercentile"
  | .below => "removeBelowPercentile"

def removeValues [LT α] [DecidableLT α] [NumberText α] (side : Side) (threshold : α)
    (s : Series α) : Series α :=
  { s.rename (applied side.valueFunction s.name threshold) with
    values := Samples.blank (side.holds threshold) s.values }

def removePercentile [Arith α] [NumberText α] (interpolate : Bool) (side : Side) (p : α)
    (s : Series α) : Series α :=
  { s.rename (applied side.percentileFunction s.name p) with
    values := match Samples.percentile? s.values p interpolate with
      | some threshold => Samples.blank (side.holds threshold) s.values
      | none => s.values }

end MetricSeries

import MetricSeries.Operation.Threshold
import MetricSeries.Error

set_option autoImplicit false

namespace MetricSeries

variable {α : Type}

def scale [Mul α] [NumberText α] (factor : α) (s : Series α) : Series α :=
  { s.rename ("scale(" ++ s.name ++ "," ++ NumberText.plain factor ++ ")") with
    values := s.values.map fun x => x.map (· * factor) }

def transformNull [NumberText α] (default : α) (s : Series α) : Series α :=
  { s.rename (applied "transformNull" s.name default) with
    values := s.values.map fun x => some (x.getD default) }

/-- The number of whole steps between the ends of the axis, and at least one. -/
def Series.points (s : Series α) : Nat :=
  if 0 < s.step then (max 1 ((s.finish - s.start).tdiv s.step)).toNat else 1

def percentileLevel [Arith α] [NumberText α] (interpolate : Bool) (p : α) (s : Series α) :
    Option (Series α) :=
  (Samples.percentile? s.values p interpolate).map fun x =>
    s.derive (applied "nPercentile" s.name p) (List.replicate s.points (some x))

def nPercentile [Arith α] [NumberText α] (interpolate : Bool) (p : α) (list : List (Series α)) :
    Except Error (List (Series α)) :=
  if p < 0 || p == 0 then .error (.argument "nPercentile" 1 .percentNotPositive)
  else .ok (list.filterMap (percentileLevel interpolate p))

end MetricSeries

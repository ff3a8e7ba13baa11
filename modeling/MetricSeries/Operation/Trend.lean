import MetricSeries.Samples.Line
import MetricSeries.Samples.Fold
import MetricSeries.Time.Instant

set_option autoImplicit false

namespace MetricSeries

variable {α : Type}

def indexed [NatCast α] (xs : Samples α) : List (α × α) :=
  xs.zipIdx.filterMap fun (x, i) => x.map fun x => ((i : α), x)

def presence [NatCast α] [Div α] (s : Series α) : α :=
  (s.validCount : α) / ((max 1 s.length : Nat) : α)

/-- The number of steps from one time on that are not after another. -/
def stepsWithin (start stop step : Int) : Nat :=
  ((stop - start).tdiv step + 1).toNat

/-- The trend of a series at each step of the window.  A series without samples has none, nor has
one whose share of present samples is below the least share given. -/
def trend [Arith α] (window : Window) (least : Option α) (s : Series α) : Option (Series α) :=
  let sparse := match least with
    | some least => decide (presence s < least)
    | none => false
  if sparse then none
  else
    (Line.fit? (indexed s.values)).map fun line =>
      let start := window.start.seconds
      let step := max 1 s.step
      let count := stepsWithin start window.stop.seconds step
      let values := (List.range count).map fun (i : Nat) =>
        let t := start + i * step
        some (line.value (((t - s.start : Int) : α) / (step : α)))
      { Series.named ("linregress(" ++ s.name ++ ")") start (lastTime start step count) step values
        with consolidation := s.consolidation }

def linregress [Arith α] (window : Window) (least : Option α) (list : List (Series α)) :
    List (Series α) :=
  list.filterMap (trend window least)

end MetricSeries

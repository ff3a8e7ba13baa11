import MetricSeries.Series

set_option autoImplicit false

namespace MetricSeries

/-- The line of the points `(x, slope * x + intercept)`. -/
structure Line (α : Type) where
  slope : α
  intercept : α
  deriving DecidableEq, Repr

namespace Line

variable {α : Type}

def value [Add α] [Mul α] (l : Line α) (x : α) : α :=
  l.slope * x + l.intercept

def mean [Zero α] [Neg α] [Add α] [Div α] [NatCast α] (xs : List α) : α :=
  total xs / (xs.length : α)

/-- The line of least squared distance.  One point, or points above one another, give a level line
through their mean. -/
def fit? [Zero α] [Neg α] [Add α] [Sub α] [Mul α] [Div α] [NatCast α] [BEq α]
    (points : List (α × α)) : Option (Line α) :=
  if points.isEmpty then none
  else
    let meanX := mean (points.map Prod.fst)
    let meanY := mean (points.map Prod.snd)
    let sxy := points.foldl (fun s p => s + (p.1 - meanX) * (p.2 - meanY)) 0
    let sxx := points.foldl (fun s p => s + (p.1 - meanX) * (p.1 - meanX)) 0
    let slope := if sxx == 0 then 0 else sxy / sxx
    some ⟨slope, meanY - slope * meanX⟩

end Line

end MetricSeries

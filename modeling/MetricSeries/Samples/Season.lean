import MetricSeries.Samples.Gap

/-!
Seasons: a stretch of samples cut into periods of equal length.  The samples at the same place of
each period are observations of one slot, and each slot has a mean and a deviation.
-/

set_option autoImplicit false

namespace MetricSeries.Samples

variable {α : Type}

def blocks (n : Nat) : Nat → List α → List (List α)
  | 0, _ => []
  | k + 1, xs => xs.take n :: blocks n k (xs.drop n)

structure Season (α : Type) where
  mean : List α
  deviation : List α
  deriving DecidableEq, Repr

section
variable [Zero α] [Add α] [Sub α] [Mul α] [Div α] [NatCast α] [SquareRoot α]

def slotMeans (n : Nat) (rows : List (List α)) : List α :=
  let sums := rows.foldl (List.zipWith (· + ·)) (List.replicate n 0)
  sums.map (· / (rows.length : α))

def squares (means row : List α) : List α :=
  List.zipWith (fun v m => (v - m) * (v - m)) row means

/-- The slots of `repeats` periods; what does not fill a period is left out. -/
def Season.ofValues (repeats : Nat) (values : List α) : Season α :=
  let n := values.length / repeats
  if n = 0 then ⟨[], []⟩
  else
    let rows := blocks n repeats values
    let mean := slotMeans n rows
    ⟨mean, (slotMeans n (rows.map (squares mean))).map SquareRoot.sqrt⟩

end

end MetricSeries.Samples

import MetricSeries.Decimal.Double
import MetricSeries.Samples.Fold

set_option autoImplicit false

namespace MetricSeries.Samples

variable {α : Type}

/-- Ascending order.  For samples that cannot be compared the outcome is only one of many: sorting
them may as well fail. -/
def ascending [LT α] [DecidableLT α] (xs : List α) : List α :=
  xs.mergeSort fun a b => !decide (b < a)

section
variable [Zero α] [Add α] [Sub α] [Mul α] [Div α] [NatCast α] [Rounding α]

/-- The rank of the `p`-th percentile of `n` samples: `p` hundredths of `n + 1`. -/
def fractionalRank (p : α) (n : Nat) : α :=
  p / ((100 : Nat) : α) * ((n + 1 : Nat) : α)

def nearestRank (p : α) (n : Nat) : α :=
  let r := fractionalRank p n
  let whole := Rounding.floor r
  whole + Rounding.ceil (r - whole)

/-- The position of a rank among `n` samples; those beyond either end are held there.  Positions are
words of 64 bits, so that the one before the least word is the greatest. -/
def rankIndex (rank : α) (n : Nat) : Nat :=
  (max 0 (min ((n : Int) - 1) (Decimal.wrapWord (Rounding.whole rank - 1)))).toNat

end

/-- The `p`-th percentile of the present samples: the sample of the nearest rank, or on request the
sample of the rank below, moved towards the next one by the fraction of the rank. -/
def percentile? [Zero α] [Add α] [Sub α] [Mul α] [Div α] [NatCast α] [Rounding α]
    [LT α] [DecidableLT α] [BEq α] (xs : Samples α) (p : α) (interpolate : Bool) : Option α :=
  let sorted := ascending xs.present
  let n := sorted.length
  if interpolate then
    let r := fractionalRank p n
    let whole := Rounding.floor r
    (sorted[rankIndex whole n]?).map fun x =>
      match sorted[(Rounding.whole (greater whole 0)).toNat]? with
      | some next => lesser (x + (r - whole) * (next - x)) next
      | none => x
  else sorted[rankIndex (nearestRank p n) n]?

end MetricSeries.Samples

import MetricSeries.Series

/-!
Folds over samples that pass over the absent ones.  Where no sample is present there is no result,
never zero, so that missing data neither wins nor loses a comparison.
-/

set_option autoImplicit false

namespace MetricSeries.Samples

variable {α : Type}

def present (xs : Samples α) : List α :=
  xs.filterMap id

def count (xs : Samples α) : Nat :=
  xs.present.length

def sum? [Zero α] [Add α] (xs : Samples α) : Option α :=
  xs.present.foldl (fun sum x => some (sum.getD 0 + x)) none

def max? [LT α] [DecidableLT α] [BEq α] (xs : Samples α) : Option α :=
  xs.present.foldl (fun best x => some (best.elim x (greater · x))) none

def min? [LT α] [DecidableLT α] [BEq α] (xs : Samples α) : Option α :=
  xs.present.foldl (fun best x => some (best.elim x (lesser · x))) none

def mean? [Zero α] [Add α] [Div α] [NatCast α] (xs : Samples α) : Option α :=
  if xs.count = 0 then none else xs.sum?.map (· / (xs.count : α))

def last? (xs : Samples α) : Option α :=
  (present xs.reverse).head?

end MetricSeries.Samples

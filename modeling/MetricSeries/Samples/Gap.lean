import MetricSeries.Series

/-!
Filling gaps: along the straight line between the known neighbours, and level before the first and
after the last known sample.
-/

set_option autoImplicit false

namespace MetricSeries.Samples

variable {α : Type} [Add α] [Sub α] [Mul α] [Div α] [NatCast α]

/-- What stands in a gap of `n` samples between two neighbours, of which either may be missing. -/
def bridge (n : Nat) : Option α → Option α → Samples α
  | some a, some b =>
    (List.range n).map fun i => some (a + (b - a) * ((i + 1 : Nat) : α) / ((n + 1 : Nat) : α))
  | some a, none => List.replicate n (some a)
  | none, some b => List.replicate n (some b)
  | none, none => List.replicate n none

def fillAfter (before : Option α) (n : Nat) : Samples α → Samples α
  | [] => bridge n before none
  | none :: rest => fillAfter before (n + 1) rest
  | some x :: rest => bridge n before (some x) ++ some x :: fillAfter (some x) 0 rest

def fill (xs : Samples α) : Samples α :=
  fillAfter none 0 xs

end MetricSeries.Samples

import MetricSeries.Pattern.Node

/-!
The room that a pattern takes once its repetitions are written out, in bytes of a table with a row
for every step.  It is an estimate that is right to within a small factor.
-/

set_option autoImplicit false

namespace MetricSeries.Pattern

open MetricSeries.Text

def categorySpans (among : List Category) : Nat :=
  (categoryRuns.filter fun run => among.contains run.1).length

def Property.spans : Property → Nat
  | .word => alphabeticRuns.lengths.length / 2
      + categorySpans [.nonspacingMark, .spacingMark, .decimalNumber]
  | .digit => categorySpans [.decimalNumber]
  | .blank => 10
  | .alphabetic => alphabeticRuns.lengths.length / 2
  | .lowercase => lowercaseRuns.lengths.length / 2
  | .uppercase => uppercaseRuns.lengths.length / 2
  | .category among => categorySpans among
  | .listed runs => runs.lengths.length / 2

def CharSet.spans : CharSet → Nat
  | none => 0
  | any => 9
  | range lo hi => hi.utf8Size - lo.utf8Size + 1
  | property p => p.spans
  | union a b | inter a b | diff a b | symDiff a b => a.spans + b.spans
  | compl a => a.spans + 9
  | folded a | asciiFolded a => 2 * a.spans

/-- A step takes thirty-two bytes, and eight for each span or branch that it has to look at. -/
def Node.size : Node → Nat
  | .empty | .look _ => 32
  | .set (.range lo hi) => if lo = hi then 32 * lo.utf8Size else 40 * (CharSet.range lo hi).spans
  | .set s => 40 * s.spans
  | .seq a b => a.size + b.size
  | .alt a b => a.size + b.size + 40
  | .group _ r => r.size + 64
  | .iterate r min (some max) _ => max * r.size + (max - min) * 40
  | .iterate r min none _ => max 1 min * r.size + 40

def maxSize : Nat := 10 * Nat.pow 2 20

end MetricSeries.Pattern

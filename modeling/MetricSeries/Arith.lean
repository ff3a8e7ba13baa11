/-!
The arithmetic of samples.  Everything that computes with samples is written over these classes,
so one definition serves both exact numbers and the rounded numbers that are measured in practice.
-/

set_option autoImplicit false

namespace MetricSeries

class Rounding (α : Type) where
  floor : α → α
  ceil : α → α
  /-- The whole part, toward zero, held within 64 bits; what is no number has the whole part 0. -/
  whole : α → Int

class SquareRoot (α : Type) where
  sqrt : α → α

class Arith (α : Type) extends Zero α, Neg α, Add α, Sub α, Mul α, Div α, NatCast α, IntCast α,
    LT α, BEq α, Rounding α, SquareRoot α where
  decideLT : DecidableLT α

attribute [reducible, instance] Arith.decideLT

section
variable {α : Type} [LT α] [DecidableLT α] [BEq α]

/-- The greater of two samples.  One that differs from itself is no number and loses. -/
def greater (a b : α) : α :=
  if a < b then b else if a == a then a else b

def lesser (a b : α) : α :=
  if b < a then b else if a == a then a else b

end

/-- The sum from the left.  The empty sum is negative zero, which changes no other addend. -/
def total {α : Type} [Zero α] [Neg α] [Add α] (xs : List α) : α :=
  xs.foldl (· + ·) (-0)

def whole? {α : Type} [Zero α] [Sub α] [BEq α] [Rounding α] (x : α) : Option Int :=
  if x - Rounding.floor x == 0 then some (Rounding.whole x) else none

class NumberText (α : Type) where
  plain : α → String
  exact : α → String
  /-- The form that a JSON document holds; there is none for what is not finite. -/
  json? : α → Option String
  parse? : String → Option α
  /-- The sample of value `significand * 10 ^ exponent` as a JSON document denotes it;
  none when it is too large. -/
  scaled? : Nat → Int → Option α

end MetricSeries

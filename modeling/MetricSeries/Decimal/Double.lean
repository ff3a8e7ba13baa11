import MetricSeries.Arith

set_option autoImplicit false

namespace MetricSeries.Decimal

/-- What a 64-bit pattern denotes: `finite neg m q` is `m * 2 ^ q` under its sign. -/
inductive Double where
  | notANumber
  | infinite (neg : Bool)
  | finite (neg : Bool) (m : Nat) (q : Int)
  deriving DecidableEq, Repr

def Double.ofBits (bits : Nat) : Double :=
  let neg := decide (bits / Nat.pow 2 63 = 1)
  let e : Nat := bits / Nat.pow 2 52 % Nat.pow 2 11
  let f : Nat := bits % Nat.pow 2 52
  if e = 2047 then
    if f = 0 then .infinite neg else .notANumber
  else if e = 0 then .finite neg f (-1074)
  else .finite neg (Nat.pow 2 52 + f) ((e : Int) - 1075)

def Double.ofFloat (x : Float) : Double :=
  .ofBits x.toBits.toNat

def largestWord : Int := 9223372036854775807
def smallestWord : Int := -9223372036854775808

def clampWord (n : Int) : Int :=
  max smallestWord (min largestWord n)

/-- Numbers beyond the words begin again at their other end. -/
def wrapWord (n : Int) : Int :=
  n.bmod (Nat.pow 2 64)

def wholePart (m : Nat) (q : Int) : Nat :=
  if 0 ≤ q then m * Nat.pow 2 q.toNat else m / Nat.pow 2 (-q).toNat

def isWhole (m : Nat) (q : Int) : Bool :=
  0 ≤ q || m % Nat.pow 2 (-q).toNat = 0

def Double.whole : Double → Int
  | .notANumber => 0
  | .infinite neg => if neg then smallestWord else largestWord
  | .finite neg m q => clampWord (if neg then -(wholePart m q : Int) else wholePart m q)

def floor (x : Float) : Float :=
  match Double.ofFloat x with
  | .finite neg m q =>
    if isWhole m q then x
    else if neg then Float.ofInt (-(wholePart m q : Int) - 1) else Float.ofNat (wholePart m q)
  | _ => x

def ceil (x : Float) : Float :=
  -floor (-x)

end MetricSeries.Decimal

namespace MetricSeries

instance floatNatCast : NatCast Float := ⟨Float.ofNat⟩

instance floatIntCast : IntCast Float := ⟨Float.ofInt⟩

instance : Rounding Float where
  floor := Decimal.floor
  ceil := Decimal.ceil
  whole x := (Decimal.Double.ofFloat x).whole

instance : SquareRoot Float := ⟨Float.sqrt⟩

instance : Arith Float where
  decideLT := inferInstance

end MetricSeries

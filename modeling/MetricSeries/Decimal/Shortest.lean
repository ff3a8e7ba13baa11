import MetricSeries.Decimal.Double

/-!
The fewest decimal digits that read back as the same double.  Every double stands for the interval
of reals that round to it; the digits sought are those of the coarsest decimal grid with a point in
the interval, and of its points there the nearest.
-/

set_option autoImplicit false

namespace MetricSeries.Decimal

inductive Tie where
  | up | toEven
  deriving DecidableEq, Repr

/-- The number `digits * 10 ^ exponent`. -/
structure Scaled where
  digits : Nat
  exponent : Int
  deriving DecidableEq, Repr

structure Ratio where
  num : Nat
  den : Nat

def Ratio.ofBinary (m : Nat) (q : Int) : Ratio :=
  if 0 ≤ q then ⟨m * Nat.pow 2 q.toNat, 1⟩ else ⟨m, Nat.pow 2 (-q).toNat⟩

def Ratio.unscale (r : Ratio) (e : Int) : Ratio :=
  if 0 ≤ e then ⟨r.num, r.den * Nat.pow 10 e.toNat⟩
  else ⟨r.num * Nat.pow 10 (-e).toNat, r.den⟩

structure Span where
  lo : Ratio
  hi : Ratio
  closed : Bool

/-- The reals that round to `m * 2 ^ q`.  Below a power of two the neighbour is only half as far.
The ends belong to the interval when the significand is even. -/
def Span.ofBinary (m : Nat) (q : Int) : Span where
  lo := .ofBinary (if m = Nat.pow 2 52 ∧ q ≠ -1074 then 4 * m - 1 else 4 * m - 2) (q - 2)
  hi := .ofBinary (4 * m + 2) (q - 2)
  closed := m % 2 = 0

def Span.admits (s : Span) (e : Int) (c : Nat) : Bool :=
  let lo := s.lo.unscale e
  let hi := s.hi.unscale e
  if s.closed then lo.num ≤ c * lo.den && c * hi.den ≤ hi.num
  else lo.num < c * lo.den && c * hi.den < hi.num

def onGrid (tie : Tie) (v : Ratio) (s : Span) (e : Int) : Option Nat :=
  let u := v.unscale e
  let below := u.num / u.den
  let above := below + 1
  match s.admits e below, s.admits e above with
  | false, false => none
  | true, false => some below
  | false, true => some above
  | true, true =>
    let gap := 2 * (u.num % u.den)
    if gap < u.den then some below
    else if u.den < gap then some above
    else match tie with
      | .up => some above
      | .toEven => some (if below % 2 = 0 then below else above)

def magnitude (m : Nat) (q : Int) : Int :=
  let guess : Int := ((m.log2 : Int) + q) * 30103 / 100000
  let v := Ratio.ofBinary m q
  let fits (k : Int) : Bool := let u := v.unscale k; u.num < u.den
  ([guess - 1, guess, guess + 1].find? fits).getD (guess + 2)

def Scaled.trim : Nat → Scaled → Scaled
  | 0, s => s
  | fuel + 1, s =>
    if s.digits ≠ 0 ∧ s.digits % 10 = 0 then Scaled.trim fuel ⟨s.digits / 10, s.exponent + 1⟩ else s

/-- The fewest digits of `m * 2 ^ q`; seventeen always suffice. -/
def shortest (tie : Tie) (m : Nat) (q : Int) : Scaled :=
  let v := Ratio.ofBinary m q
  let s := Span.ofBinary m q
  let k := magnitude m q
  let found := (List.range 17).findSome? fun n =>
    let e := k - (n + 1 : Nat)
    (onGrid tie v s e).map fun d => Scaled.trim 20 ⟨d, e⟩
  found.getD ⟨0, 0⟩

end MetricSeries.Decimal

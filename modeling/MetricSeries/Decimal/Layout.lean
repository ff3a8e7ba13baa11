import MetricSeries.Decimal.Shortest

/-!
How the digits of a number are laid out as text.  A layout is a record of decisions; the layouts in
use are listed at the end.
-/

set_option autoImplicit false

namespace MetricSeries.Decimal

structure Layout where
  /-- Numbers from `10 ^ lowest` on and below `10 ^ highest` are positional. -/
  positional : Option (Int × Int)
  keepsPoint : Bool
  exponentSign : String
  tie : Tie
  notANumber : String
  infinite : String
  negInfinite : String

def digitChars (n : Nat) : List Char :=
  Nat.toDigits 10 n

def natText (n : Nat) : String :=
  String.ofList (digitChars n)

def intText : Int → String
  | .ofNat n => natText n
  | .negSucc n => "-" ++ natText (n + 1)

def positionalText (keepsPoint : Bool) (s : Scaled) : String :=
  let ds := digitChars s.digits
  let point : Int := ds.length + s.exponent
  if 0 ≤ s.exponent then
    String.ofList (ds ++ List.replicate s.exponent.toNat '0') ++ (if keepsPoint then ".0" else "")
  else if 0 < point then
    String.ofList (ds.take point.toNat ++ '.' :: ds.drop point.toNat)
  else
    String.ofList ('0' :: '.' :: (List.replicate (-point).toNat '0' ++ ds))

def exponentText (sign : String) (s : Scaled) : String :=
  let ds := digitChars s.digits
  let e : Int := ds.length - 1 + s.exponent
  let places := match ds with
    | d :: r@(_ :: _) => d :: '.' :: r
    | ds => ds
  String.ofList places ++ "e" ++ (if 0 ≤ e then sign else "") ++ intText e

def Layout.magnitude (l : Layout) (s : Scaled) : String :=
  if s.digits = 0 then positionalText l.keepsPoint ⟨0, 0⟩
  else
    let k : Int := (digitChars s.digits).length + s.exponent
    let positional := match l.positional with
      | none => true
      | some (lowest, highest) => lowest < k && k ≤ highest
    if positional then positionalText l.keepsPoint s else exponentText l.exponentSign s

def Layout.render (l : Layout) (x : Float) : String :=
  match Double.ofFloat x with
  | .notANumber => l.notANumber
  | .infinite neg => if neg then l.negInfinite else l.infinite
  | .finite neg m q =>
    (if neg then "-" else "") ++ l.magnitude (if m = 0 then ⟨0, 0⟩ else shortest l.tie m q)

def plain : Layout :=
  ⟨none, false, "", .up, "NaN", "inf", "-inf"⟩

def exact : Layout :=
  ⟨some (-4, 16), true, "", .up, "NaN", "inf", "-inf"⟩

def json : Layout :=
  ⟨some (-5, 16), true, "+", .toEven, "NaN", "inf", "-inf"⟩

def isFinite (x : Float) : Bool :=
  match Double.ofFloat x with
  | .finite .. => true
  | _ => false

end MetricSeries.Decimal

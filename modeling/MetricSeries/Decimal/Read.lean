import MetricSeries.Decimal.Layout

/-!
Reading decimal numbers: the double nearest to a decimal value, the grammar of a number that a
person writes, and the steps by which a JSON document's digits become a double.
-/

set_option autoImplicit false

namespace MetricSeries.Decimal

def nearest (m : Nat) (e : Int) : Float :=
  if m = 0 then 0.0
  else
    let k : Int := (digitChars m).length + e
    if 311 < k then 1.0 / 0.0
    else if k < -330 then 0.0
    else if 0 ≤ e then Float.ofScientific (m * Nat.pow 10 e.toNat) false 0
    else Float.ofScientific m true (-e).toNat

def natOfDigits (cs : List Char) : Nat :=
  cs.foldl (fun n c => 10 * n + (c.toNat - '0'.toNat)) 0

def readSign : List Char → Bool × List Char
  | '-' :: cs => (true, cs)
  | '+' :: cs => (false, cs)
  | cs => (false, cs)

def readDigits (cs : List Char) : List Char × List Char :=
  cs.span Char.isDigit

def readExponent : List Char → Option Int
  | [] => some 0
  | c :: cs =>
    if c = 'e' ∨ c = 'E' then
      let (neg, cs) := readSign cs
      match readDigits cs with
      | (ds@(_ :: _), []) => some (if neg then -(natOfDigits ds : Int) else natOfDigits ds)
      | _ => none
    else none

/-- An unsigned number: digits with a point anywhere in, before or after them, then an exponent.
It is `m * 10 ^ e`. -/
def readUnsigned (cs : List Char) : Option (Nat × Int) :=
  let (whole, rest) := readDigits cs
  let (places, rest) := match rest with
    | '.' :: rest => readDigits rest
    | rest => ([], rest)
  if whole.isEmpty && places.isEmpty then none
  else (readExponent rest).map fun e => (natOfDigits (whole ++ places), e - places.length)

/-- A decimal number, `inf`, `infinity` or `nan`, in any case and under an optional sign. -/
def parse? (s : String) : Option Float :=
  let (neg, cs) := readSign s.toList
  let word := String.ofList (cs.map Char.toLower)
  let magnitude :=
    if word = "inf" ∨ word = "infinity" then some (1.0 / 0.0)
    else if word = "nan" then some (0.0 / 0.0)
    else (readUnsigned cs).map fun (m, e) => nearest m e
  magnitude.map fun x => if neg then -x else x

def int? (s : String) : Option Int :=
  let (neg, cs) := readSign s.toList
  match readDigits cs with
  | (ds@(_ :: _), []) => some (if neg then -(natOfDigits ds : Int) else natOfDigits ds)
  | _ => none

def word? (s : String) : Option Int :=
  (int? s).filter fun n => decide (smallestWord ≤ n ∧ n ≤ largestWord)

def count? (s : String) : Option Nat :=
  match readDigits (match s.toList with | '+' :: cs => cs | cs => cs) with
  | (ds@(_ :: _), []) => if natOfDigits ds < Nat.pow 2 64 then some (natOfDigits ds) else none
  | _ => none

def powerOfTen (k : Nat) : Float :=
  nearest 1 k

def scaleDown : Nat → Float → Nat → Float
  | 0, f, _ => f
  | fuel + 1, f, k =>
    if k ≤ 308 then f / powerOfTen k
    else if f == 0.0 then f
    else scaleDown fuel (f / powerOfTen 308) (k - 308)

def scaled? (significand : Nat) (exponent : Int) : Option Float :=
  let f := Float.ofNat significand
  if exponent < 0 then some (scaleDown (exponent.natAbs / 308 + 2) f exponent.natAbs)
  else if 308 < exponent then if f == 0.0 then some f else none
  else
    let f := f * powerOfTen exponent.toNat
    if f == 1.0 / 0.0 then none else some f

end MetricSeries.Decimal

namespace MetricSeries

instance : NumberText Float where
  plain := Decimal.plain.render
  exact := Decimal.exact.render
  json? x := if Decimal.isFinite x then some (Decimal.json.render x) else none
  parse? := Decimal.parse?
  scaled? := Decimal.scaled?

end MetricSeries

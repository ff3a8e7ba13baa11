import MetricSeries.Toml.Value
import MetricSeries.Toml.Text
import MetricSeries.Decimal.Read

set_option autoImplicit false

namespace MetricSeries.Toml

abbrev ValueRead := Option (Value × List Char)

def moreDigits? (digit : Char → Bool) : List Char → Option (List Char × List Char)
  | '_' :: c :: rest =>
    if digit c then (moreDigits? digit rest).map fun (ds, rest) => (c :: ds, rest) else none
  | c :: rest =>
    if c = '_' then none
    else if digit c then (moreDigits? digit rest).map fun (ds, rest) => (c :: ds, rest)
    else some ([], c :: rest)
  | [] => some ([], [])

def someDigits? (digit : Char → Bool) : List Char → Option (List Char × List Char)
  | c :: rest =>
    if digit c then (moreDigits? digit rest).map fun (ds, rest) => (c :: ds, rest) else none
  | [] => none

def wholeDigits? : List Char → Option (List Char × List Char)
  | '0' :: rest => some (['0'], rest)
  | cs => someDigits? Char.isDigit cs

def integer? (n : Int) : Option Value :=
  if Decimal.smallestWord ≤ n ∧ n ≤ Decimal.largestWord then some (.integer n) else none

def readBased? (base : Nat) (digit : Char → Bool) (cs : List Char) : ValueRead := do
  let (ds, rest) ← someDigits? digit cs
  let n := ds.foldl (fun n c => base * n + (Text.hexValue? c).getD 0) 0
  return (← integer? n, rest)

def readPlaces? : List Char → Option (List Char × List Char)
  | '.' :: rest => someDigits? Char.isDigit rest
  | cs => some ([], cs)

def readExponent? : List Char → Option (Int × List Char)
  | c :: rest =>
    if c = 'e' || c = 'E' then do
      let (minus, rest) := Decimal.readSign rest
      let (ds, rest) ← someDigits? Char.isDigit rest
      return (if minus then -(Decimal.natOfDigits ds : Int) else Decimal.natOfDigits ds, rest)
    else some (0, c :: rest)
  | [] => some (0, [])

/-- A number in decimal.  One with a point or an exponent is not whole; it may be too small for a
double, and below zero also too large. -/
def readDecimal? (minus : Bool) (cs : List Char) : ValueRead := do
  let (whole, afterWhole) ← wholeDigits? cs
  let (places, afterPlaces) ← readPlaces? afterWhole
  let (exponent, rest) ← readExponent? afterPlaces
  if rest.length = afterWhole.length then
    let n := Decimal.natOfDigits whole
    return (← integer? (if minus then -(n : Int) else n), rest)
  else
    let x := Decimal.nearest (Decimal.natOfDigits (whole ++ places)) (exponent - places.length)
    if minus || Decimal.isFinite x then return (.real, rest) else none

def isOctal (c : Char) : Bool :=
  '0' ≤ c && c ≤ '7'

def isBinary (c : Char) : Bool :=
  c = '0' || c = '1'

def isHex (c : Char) : Bool :=
  (Text.hexValue? c).isSome

def readNumber? : List Char → ValueRead
  | '0' :: 'x' :: rest => readBased? 16 isHex rest
  | '0' :: 'o' :: rest => readBased? 8 isOctal rest
  | '0' :: 'b' :: rest => readBased? 2 isBinary rest
  | cs =>
    match Decimal.readSign cs with
    | (_, 'i' :: 'n' :: 'f' :: rest) => some (.real, rest)
    | (_, 'n' :: 'a' :: 'n' :: rest) => some (.real, rest)
    | (minus, cs) => readDecimal? minus cs

def readTwo? (least greatest : Nat) : List Char → Option (Nat × List Char)
  | a :: b :: rest =>
    let n := Decimal.natOfDigits [a, b]
    if a.isDigit && b.isDigit && least ≤ n && n ≤ greatest then some (n, rest) else none
  | _ => none

def pass? (mark : Char) : List Char → Option (List Char)
  | c :: rest => if c = mark then some rest else none
  | [] => none

def isLeap (year : Nat) : Bool :=
  year % 4 = 0 && (year % 100 ≠ 0 || year % 400 = 0)

def daysOfMonth (year month : Nat) : Nat :=
  if month = 2 then (if isLeap year then 29 else 28)
  else if month ∈ [4, 6, 9, 11] then 30 else 31

def readDay? (year : Nat) (cs : List Char) : Option (List Char) := do
  let (month, rest) ← readTwo? 1 12 cs
  let (_, rest) ← readTwo? 1 (daysOfMonth year month) (← pass? '-' rest)
  return rest

def readMinutes? (cs : List Char) : Option (List Char) := do
  let (_, rest) ← readTwo? 0 23 cs
  let (_, rest) ← readTwo? 0 59 (← pass? ':' rest)
  return rest

def readTime? (cs : List Char) : Option (List Char) := do
  let (_, rest) ← readTwo? 0 60 (← pass? ':' (← readMinutes? cs))
  match rest with
  | '.' :: c :: more => if c.isDigit then return more.dropWhile Char.isDigit else return rest
  | _ => return rest

def skipZone : List Char → List Char
  | c :: rest =>
    if c = 'Z' || c = 'z' then rest
    else if c = '+' || c = '-' then (readMinutes? rest).getD (c :: rest)
    else c :: rest
  | [] => []

def skipTime : List Char → List Char
  | c :: rest =>
    if c = 'T' || c = 't' || c = ' ' then ((readTime? rest).map skipZone).getD (c :: rest)
    else c :: rest
  | [] => []

/-- A number, a date with or without a time, or a time.  Four digits and a dash begin a date, two
digits and a colon a time. -/
def readNumberOrDate? (cs : List Char) : ValueRead :=
  match cs.span Char.isDigit with
  | ([a, b, c, d], '-' :: rest) => do
    let rest ← readDay? (Decimal.natOfDigits [a, b, c, d]) rest
    return (.date, skipTime rest)
  | ([_, _], ':' :: _) => (readTime? cs).map fun rest => (.date, rest)
  | _ => readNumber? cs

end MetricSeries.Toml

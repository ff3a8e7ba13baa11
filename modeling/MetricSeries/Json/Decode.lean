import MetricSeries.Json.Reader
import MetricSeries.Arith
import MetricSeries.Decimal.Read

/-!
Decoding JSON values, in the order in which they stand in the text: the first thing that does not
fit decides what is wrong, whether it is the text or its content.
-/

set_option autoImplicit false

namespace MetricSeries.Json

inductive Fault where
  | stop (stop : Stop)
  | missing (field : String)
  | repeated (field : String)
  | content
  deriving DecidableEq, Repr

def Fault.category : Fault → String
  | .stop .endOfText => "eof"
  | .stop .malformed => "syntax"
  | .missing _ | .repeated _ | .content => "data"

def Fault.message? : Fault → Option String
  | .missing field => some ("missing field `" ++ field ++ "`")
  | .repeated field => some ("duplicate field `" ++ field ++ "`")
  | .stop _ | .content => none

abbrev Decoder (β : Type) := Value → Except Fault β

/-- A number as its digits give it: `significand * 10 ^ exponent` under its sign.  Digits beyond
sixty-four bits count for their place only. -/
structure Numeral where
  negative : Bool
  significand : Nat
  exponent : Int
  whole : Bool
  deriving DecidableEq, Repr

/-- Takes digits as long as the significand keeps within sixty-four bits; gives it with the number
of digits taken. -/
def takeDigits (significand : Nat) : List Char → Nat × Nat
  | [] => (significand, 0)
  | c :: cs =>
    let next := 10 * significand + (c.toNat - '0'.toNat)
    if next < Nat.pow 2 64 then
      let (s, n) := takeDigits next cs
      (s, n + 1)
    else (significand, 0)

def exponentOf : List Char → Int
  | _ :: '-' :: ds => -(min (Decimal.natOfDigits ds) (Nat.pow 2 31) : Nat)
  | _ :: '+' :: ds => (min (Decimal.natOfDigits ds) (Nat.pow 2 31) : Nat)
  | _ :: ds => (min (Decimal.natOfDigits ds) (Nat.pow 2 31) : Nat)
  | [] => 0

def Numeral.ofToken (token : List Char) : Numeral :=
  let (negative, cs) := match token with
    | '-' :: cs => (true, cs)
    | cs => (false, cs)
  let (digits, cs) := cs.span Char.isDigit
  let (places, tail) := match cs with
    | '.' :: cs => cs.span Char.isDigit
    | cs => ([], cs)
  let (head, taken) := takeDigits 0 digits
  let dropped := digits.length - taken
  let (significand, taken) := takeDigits head places
  ⟨negative, significand, (dropped : Int) - taken + exponentOf tail, cs.isEmpty && dropped = 0⟩

section
variable {α : Type} [Neg α] [NatCast α] [NumberText α]

def numberOf? (token : List Char) : Option α :=
  let n := Numeral.ofToken token
  let magnitude : Option α :=
    if n.whole then some ((n.significand : Nat) : α)
    else NumberText.scaled? n.significand n.exponent
  magnitude.map fun x => if n.negative then -x else x

end

def integerOf? (token : List Char) : Option Int :=
  let n := Numeral.ofToken token
  if !n.whole then none
  else if n.negative then
    if 0 < n.significand ∧ n.significand ≤ Nat.pow 2 63 then some (-(n.significand : Int)) else none
  else if n.significand < Nat.pow 2 63 then some n.significand
  else none

section
variable (α : Type) [Neg α] [NatCast α] [NumberText α]

/-- What is wrong with a value of another kind than expected.  A value that cannot be read is wrong
in itself. -/
def mismatch : Value → Fault
  | .broken b => .stop b.read
  | .text none => .stop .malformed
  | .number token =>
    if (numberOf? token : Option α).isNone then .stop .malformed else .content
  | _ => .content

def decodeText : Decoder String
  | .text (some s) => .ok s
  | v => .error (mismatch α v)

def decodeInt : Decoder Int
  | .number token =>
    match integerOf? token with
    | some n => .ok n
    | none => .error (mismatch α (.number token))
  | v => .error (mismatch α v)

def decodeNumber : Decoder α
  | .number token =>
    match numberOf? token with
    | some x => .ok x
    | none => .error (.stop .malformed)
  | v => .error (mismatch α v)

def decodeOption {β : Type} (decode : Decoder β) : Decoder (Option β)
  | .null => .ok none
  | v => (decode v).map some

def decodeList {β : Type} (decode : Decoder β) : Decoder (List β)
  | .array items stop => do
    let bs ← items.mapM decode
    match stop with
    | none => return bs
    | some b => throw (.stop b.read)
  | v => .error (mismatch α v)

end

def closeArray (rest : List Value) (stop : Option Break) : Except Fault Unit :=
  match rest, stop with
  | [], none => .ok ()
  | [], some b => .error (.stop b.read)
  | _ :: _, _ => .error (.stop .malformed)

def nextItem {β : Type} (decode : Decoder β) (items : List Value) (stop : Option Break) :
    Except Fault (Option β × List Value) :=
  match items, stop with
  | [], none => .ok (none, [])
  | [], some b => .error (.stop b.read)
  | v :: rest, _ => (decode v).map fun b => (some b, rest)

def needItem {β : Type} (decode : Decoder β) (items : List Value) (stop : Option Break) :
    Except Fault (β × List Value) := do
  match ← nextItem decode items stop with
  | (some b, rest) => return (b, rest)
  | (none, _) => throw .content

def fillField {β : Type} (name : String) (old : Option β) (decode : Decoder β) (v : Value) :
    Except Fault (Option β) :=
  if old.isSome then .error (.repeated name) else (decode v).map some

def needField {β : Type} (name : String) (value : Option β) : Except Fault β :=
  match value with
  | some b => .ok b
  | none => .error (.missing name)

mutual

def Value.skip : Value → Except Fault Unit
  | .broken b => .error (.stop b.skipped)
  | .array items stop => do
    skipItems items
    match stop with
    | none => return ()
    | some b => throw (.stop b.skipped)
  | .object members stop => do
    skipMembers members
    match stop with
    | none => return ()
    | some b => throw (.stop b.skipped)
  | _ => .ok ()

def skipItems : List Value → Except Fault Unit
  | [] => .ok ()
  | v :: rest => do
    v.skip
    skipItems rest

def skipMembers : List (Option String × Value) → Except Fault Unit
  | [] => .ok ()
  | (_, v) :: rest => do
    v.skip
    skipMembers rest

end

mutual

def Value.check (α : Type) [Neg α] [NatCast α] [NumberText α] (depth : Nat) :
    Value → Except Fault Unit
  | .broken b => .error (.stop b.read)
  | .text none => .error (.stop .malformed)
  | .number token =>
    if (numberOf? token : Option α).isNone then .error (.stop .malformed) else .ok ()
  | .array items stop => do
    if depth ≤ 1 then throw (.stop .malformed)
    checkItems α (depth - 1) items
    match stop with
    | none => return ()
    | some b => throw (.stop b.read)
  | .object members stop => do
    if depth ≤ 1 then throw (.stop .malformed)
    checkMembers α (depth - 1) members
    match stop with
    | none => return ()
    | some b => throw (.stop b.read)
  | _ => .ok ()

def checkItems (α : Type) [Neg α] [NatCast α] [NumberText α] (depth : Nat) :
    List Value → Except Fault Unit
  | [] => .ok ()
  | v :: rest => do
    v.check α depth
    checkItems α depth rest

def checkMembers (α : Type) [Neg α] [NatCast α] [NumberText α] (depth : Nat) :
    List (Option String × Value) → Except Fault Unit
  | [] => .ok ()
  | (none, _) :: _ => .error (.stop .malformed)
  | (some _, v) :: rest => do
    v.check α depth
    checkMembers α depth rest

end

def decode {β : Type} (decoder : Decoder β) (s : String) : Except Fault β := do
  let (v, rest) := read s.toList
  let b ← decoder v
  match rest with
  | none => throw (.stop .malformed)
  | some rest => if (skipSpace rest).isEmpty then return b else throw (.stop .malformed)

end MetricSeries.Json

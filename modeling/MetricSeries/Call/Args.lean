import MetricSeries.Series
import MetricSeries.Error

/-!
The arguments of a call: loosely typed, found by position.  Series are handed over once, and their
position counts as empty from then on; scalars can be asked for again and again.
-/

set_option autoImplicit false

namespace MetricSeries

inductive Arg (α : Type) where
  | list (series : List (Series α))
  | groups (series : List (List (Series α)))
  | int (n : Int)
  | number (x : α)
  | text (s : String)
  | flag (b : Bool)

/-- The name of the function called and what is left at each position. -/
structure Args (α : Type) where
  function : String
  slots : List (Option (Arg α))

namespace Arg

variable {α : Type}

def kind : Arg α → Kind
  | .list _ => .list
  | .groups _ => .groups
  | .int _ => .integer
  | .number _ => .number
  | .text _ => .text
  | .flag _ => .boolean

end Arg

namespace Args

variable {α : Type}

def ofList (function : String) (args : List (Arg α)) : Args α :=
  ⟨function, args.map some⟩

def length (args : Args α) : Nat :=
  args.slots.length

def isEmpty (args : Args α) : Bool :=
  args.slots.isEmpty

def peek (args : Args α) (position : Nat) : Option (Arg α) :=
  (args.slots[position]?).join

def fault (args : Args α) (position : Nat) (fault : ArgumentFault) : Error :=
  .argument args.function position fault

def mismatch (args : Args α) (position : Nat) (expected : Kind) (found : Arg α) : Error :=
  args.fault position (.mismatch expected found.kind)

def require (args : Args α) (position : Nat) : Except Error (Arg α) :=
  match args.peek position with
  | some arg => .ok arg
  | none => .error (args.fault position .missing)

def clear (args : Args α) (position : Nat) : Args α :=
  { args with slots := args.slots.set position none }

def takeList (args : Args α) (position : Nat) : Except Error (List (Series α)) × Args α :=
  match args.peek position with
  | some (.list series) => (.ok series, args.clear position)
  | some other => (.error (args.mismatch position .list other), args)
  | none => (.error (args.fault position .missing), args)

/-- Hands over the lists at the given positions as one.  The lists before the first position that
holds none are gone even so. -/
def takeLists (args : Args α) : List Nat → Except Error (List (Series α)) × Args α
  | [] => (.ok [], args)
  | position :: rest =>
    match args.takeList position with
    | (.error e, left) => (.error e, left)
    | (.ok series, left) =>
      match left.takeLists rest with
      | (.error e, left) => (.error e, left)
      | (.ok more, left) => (.ok (series ++ more), left)

def positionsFrom (args : Args α) (position : Nat) : List Nat :=
  List.range' position (args.length - position)

def takeListsFrom (args : Args α) (position : Nat) : Except Error (List (Series α)) × Args α :=
  args.takeLists (args.positionsFrom position)

def takeGroups (args : Args α) (position : Nat) :
    Except Error (List (List (Series α))) × Args α :=
  match args.peek position with
  | some (.groups series) => (.ok series, args.clear position)
  | some (.list series) => (.ok [series], args.clear position)
  | some other => (.error (args.mismatch position .groups other), args)
  | none => (.error (args.fault position .missing), args)

section
variable [Zero α] [Sub α] [BEq α] [Rounding α]

def int (args : Args α) (position : Nat) : Except Error Int :=
  match args.require position with
  | .error e => .error e
  | .ok (.int n) => .ok n
  | .ok (.number x) =>
    match whole? x with
    | some n => .ok n
    | none => .error (args.mismatch position .integer (.number x))
  | .ok other => .error (args.mismatch position .integer other)

def intOr (args : Args α) (position : Nat) (default : Int) : Except Error Int :=
  if (args.peek position).isSome then args.int position else .ok default

def countOr (args : Args α) (position : Nat) (default : Nat) : Except Error Nat :=
  if (args.peek position).isSome then
    match args.int position with
    | .error e => .error e
    | .ok n => if 0 ≤ n then .ok n.toNat else .error (args.fault position .negative)
  else .ok default

def count? (args : Args α) (position : Nat) : Except Error (Option Nat) :=
  if (args.peek position).isSome then (args.countOr position 0).map some else .ok none

def intsFrom (args : Args α) (position : Nat) : Except Error (List Int) :=
  (args.positionsFrom position).mapM args.int

end

section
variable [IntCast α]

def number (args : Args α) (position : Nat) : Except Error α :=
  match args.require position with
  | .error e => .error e
  | .ok (.number x) => .ok x
  | .ok (.int n) => .ok (n : α)
  | .ok other => .error (args.mismatch position .number other)

def numberOr (args : Args α) (position : Nat) (default : α) : Except Error α :=
  if (args.peek position).isSome then args.number position else .ok default

def number? (args : Args α) (position : Nat) : Except Error (Option α) :=
  if (args.peek position).isSome then (args.number position).map some else .ok none

end

def text (args : Args α) (position : Nat) : Except Error String :=
  match args.require position with
  | .error e => .error e
  | .ok (.text s) => .ok s
  | .ok other => .error (args.mismatch position .text other)

def textOr [NumberText α] (args : Args α) (position : Nat) (default : String) :
    Except Error String :=
  match args.peek position with
  | none => .ok default
  | some (.text s) => .ok s
  | some (.int n) => .ok (Decimal.intText n)
  | some (.number x) => .ok (NumberText.plain x)
  | some other => .error (args.mismatch position .text other)

def textsFrom (args : Args α) (position : Nat) : Except Error (List String) :=
  (args.positionsFrom position).mapM args.text

end Args

/-- A question that can be put to the arguments of a call. -/
inductive Access (α : Type) where
  | list (position : Nat)
  | listsFrom (position : Nat)
  | groups (position : Nat)
  | int (position : Nat)
  | intOr (position : Nat) (default : Int)
  | countOr (position : Nat) (default : Nat)
  | intsFrom (position : Nat)
  | number (position : Nat)
  | numberOr (position : Nat) (default : α)
  | number? (position : Nat)
  | text (position : Nat)
  | textOr (position : Nat) (default : String)
  | textsFrom (position : Nat)

inductive Reply (α : Type) where
  | list (series : List (Series α))
  | groups (series : List (List (Series α)))
  | int (n : Int)
  | count (n : Nat)
  | ints (ns : List Int)
  | number (x : α)
  | number? (x : Option α)
  | text (s : String)
  | texts (ss : List String)

def Args.ask {α : Type} [Arith α] [NumberText α] (args : Args α) :
    Access α → Except Error (Reply α) × Args α
  | .list p => let (r, left) := args.takeList p; (r.map .list, left)
  | .listsFrom p => let (r, left) := args.takeListsFrom p; (r.map .list, left)
  | .groups p => let (r, left) := args.takeGroups p; (r.map .groups, left)
  | .int p => ((args.int p).map .int, args)
  | .intOr p d => ((args.intOr p d).map .int, args)
  | .countOr p d => ((args.countOr p d).map .count, args)
  | .intsFrom p => ((args.intsFrom p).map .ints, args)
  | .number p => ((args.number p).map .number, args)
  | .numberOr p d => ((args.numberOr p d).map .number, args)
  | .number? p => ((args.number? p).map .number?, args)
  | .text p => ((args.text p).map .text, args)
  | .textOr p d => ((args.textOr p d).map .text, args)
  | .textsFrom p => ((args.textsFrom p).map .texts, args)

end MetricSeries

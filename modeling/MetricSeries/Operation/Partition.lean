import MetricSeries.Operation.Label
import MetricSeries.Call.Context

set_option autoImplicit false

namespace MetricSeries

def addToGroup {κ β : Type} [DecidableEq κ] (key : κ) (item : β) :
    List (κ × List β) → List (κ × List β)
  | [] => [(key, [item])]
  | (k, items) :: rest =>
    if k = key then (k, items ++ [item]) :: rest else (k, items) :: addToGroup key item rest

def groupByKey {κ β : Type} [DecidableEq κ] (items : List (κ × β)) : List (κ × List β) :=
  items.foldl (fun groups item => addToGroup item.1 item.2 groups) []

variable {α : Type}

def mapSeries (node : Int) (list : List (Series α)) : Except Error (List (List (Series α))) := do
  let keyed ← list.mapM fun s => (nodeAt s.name node).map fun (_, key) => (key, s)
  return (groupByKey keyed).map Prod.snd

/-- A reduction that is being made up: its name, and for each matcher the series found for it. -/
structure Reduction (α : Type) where
  name : String
  slots : List (Option (Series α))

def reductionName (stem : List String) (reducer : String) : String :=
  Text.join '.' (stem ++ ["reduce", reducer])

/-- Puts a series into a slot of the reduction of that name, over the one that is there.  A name
that is new begins a reduction of `width` slots behind all others. -/
def fillSlot (width : Nat) (name : String) (slot : Nat) (s : Series α) :
    List (Reduction α) → List (Reduction α)
  | [] => [⟨name, (List.replicate width none).set slot (some s)⟩]
  | r :: rest =>
    if r.name = name then { r with slots := r.slots.set slot (some s) } :: rest
    else r :: fillSlot width name slot s rest

/-- Puts a series where the first matcher equal to its node asks for it.  Most often none does. -/
def placeSeries (reducer : String) (node : Int) (matchers : List String)
    (table : List (Reduction α)) (s : Series α) : Except Error (List (Reduction α)) := do
  let (stem, fragment) ← nodeAt s.name node
  match matchers.findIdx? (· == fragment) with
  | none => return table
  | some slot => return fillSlot matchers.length (reductionName stem reducer) slot s table

def Reduction.members (matchers : List String) (r : Reduction α) :
    Except Error (List (Series α)) :=
  (r.slots.zip matchers).mapM fun (slot, matcher) =>
    match slot with
    | some s => .ok s
    | none => .error (.missingMember r.name matcher)

def Reduction.reduce (run : Args α → Run (Output α)) (reducer : String) (matchers : List String)
    (r : Reduction α) : Run (Series α) := do
  let list ← liftExcept (r.members matchers)
  let output ← run (.ofList reducer [.list list])
  match ← liftExcept output.asList with
  | s :: _ => return s.rename r.name
  | [] => throw (.evaluation r.name ("reducer " ++ reducer ++ " returned no series"))

/-- Groups the series by the nodes before the one at the index, and reduces each group with the
function of the given name.  The node itself says which matcher the series is meant for. -/
def reduceSeries (lookup : String → Option (Args α → Run (Output α))) (reducer : String)
    (node : Int) (matchers : List String) (list : List (Series α)) : Run (List (Series α)) := do
  match lookup reducer with
  | none => throw (.unknownFunction reducer)
  | some run =>
    let table ← liftExcept (list.foldlM (placeSeries reducer node matchers) [])
    table.mapM (Reduction.reduce run reducer matchers)

end MetricSeries

import MetricSeries.Pattern.Template
import MetricSeries.Series
import MetricSeries.Error

set_option autoImplicit false

namespace MetricSeries

open MetricSeries.Pattern

def nameSet : CharSet :=
  .union (.ofChars ['-', '*', '.']) (.property .word)

def lineNode : Node :=
  .iterate (.set .withinLine) 0 none true

def optionally (r : Node) : Node :=
  .iterate r 0 (some 1) true

def charNode (c : Char) : Node :=
  .set (.single c)

def metricNode : Node :=
  .seq (optionally (.seq lineNode (charNode '(')))
    (.seq (.group 1 (.iterate (.set nameSet) 1 none true))
      (optionally (.alt (charNode ',') (.seq (optionally (charNode ')')) lineNode))))

/-- The metric path inside the calls around it, or all of a name that has none. -/
def metricPath (name : List Char) : List Char :=
  match metricNode.find? name with
  | some m => m.group 1
  | none => name

def resolveNode (nodes : Nat) (index : Int) : Option Nat :=
  let resolved := if index < 0 then nodes + index else index
  if 0 ≤ resolved ∧ resolved < nodes then some resolved.toNat else none

def nodeAt (name : String) (index : Int) : Except Error (List String × String) :=
  let nodes := Text.pieces '.' name
  match resolveNode nodes.length index with
  | none => .error (.nodeOutOfRange name index nodes.length)
  | some i => .ok (nodes.take i, nodes[i]?.getD "")

variable {α : Type}

def relabel (name : String) (s : Series α) : Series α :=
  { s with name := name }

def relabelByNode (indices : List Int) (s : Series α) : Except Error (Series α) := do
  let path := String.ofList (metricPath s.name.toList)
  let nodes ← indices.mapM fun index => (nodeAt path index).map Prod.snd
  return { s with name := Text.join '.' nodes }

/-- Replaces the first match of a pattern in each name.  A backslash with digits behind it in the
replacement refers to the group of that number. -/
def relabelThrough (compile : String → Option Matcher) (pattern replacement : String)
    (list : List (Series α)) : Except Error (List (Series α)) :=
  match compile pattern with
  | none => .error .pattern
  | some p =>
    let template := Pattern.pieces (braceBackReferences replacement.toList)
    .ok (list.map fun s =>
      { s with name := String.ofList (p.replaceFirst template s.name.toList) })

def relabelByPattern (pattern replacement : String) (list : List (Series α)) :
    Except Error (List (Series α)) :=
  relabelThrough Pattern.compile? pattern replacement list

end MetricSeries

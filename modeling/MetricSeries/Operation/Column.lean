import MetricSeries.Series
import MetricSeries.Error

/-!
Combining series point by point.  A column holds the samples of one point; an absent sample does not
count, and a column with none present has no result.
-/

set_option autoImplicit false

namespace MetricSeries

variable {α : Type}

def width (list : List (Series α)) : Nat :=
  (list.map Series.length).foldl max 0

def sampleAt (s : Series α) (i : Nat) : Option α :=
  (s.values[i]?).join

def column (list : List (Series α)) (i : Nat) : List α :=
  list.filterMap fun s => sampleAt s i

inductive Combiner where
  | sum | average | max | min | diff
  deriving DecidableEq, Repr

def Combiner.function : Combiner → String
  | .sum => "sumSeries"
  | .average => "averageSeries"
  | .max => "maxSeries"
  | .min => "minSeries"
  | .diff => "diffSeries"

/-- The result of a column of at least one sample.  Differences are taken from the first sample. -/
def Combiner.fold [Arith α] : Combiner → α → List α → α
  | .sum, x, xs => total (x :: xs)
  | .average, x, xs => total (x :: xs) / ((xs.length + 1 : Nat) : α)
  | .max, x, xs => xs.foldl greater x
  | .min, x, xs => xs.foldl lesser x
  | .diff, x, xs => x - total xs

def Combiner.fold? [Arith α] (c : Combiner) : List α → Option α
  | [] => none
  | x :: xs => some (c.fold x xs)

def columns (list : List (Series α)) : List (List α) :=
  let rows := list.map fun s => s.values.toArray
  (List.range (width list)).map fun i => rows.filterMap fun row => (row[i]?).join

theorem columns_eq_map_column (list : List (Series α)) :
    columns list = (List.range (width list)).map (column list) := by
  refine List.map_congr_left fun i _ => ?_
  rw [List.filterMap_map]
  refine congrArg (List.filterMap · list) (funext fun s => ?_)
  simp [sampleAt]

def callName (function : String) (list : List (Series α)) : String :=
  function ++ "(" ++ Text.join ',' (list.map Series.name) ++ ")"

/-- One series of the results, on the axis of the first; none where there is no series. -/
def combine [Arith α] (c : Combiner) : List (Series α) → List (Series α)
  | [] => []
  | first :: rest =>
    [first.derive (callName c.function (first :: rest)) ((columns (first :: rest)).map c.fold?)]

def quotient [Zero α] [Mul α] [Div α] [BEq α] (multiplier : α) (a b : Option α) : Option α :=
  match a, b with
  | some a, some b => if b == 0 then none else some (a / b * multiplier)
  | _, _ => none

/-- Both lists side by side to the length of the longer, absent samples behind the shorter. -/
def alongside (xs ys : Samples α) : List (Option α × Option α) :=
  match xs, ys with
  | [], ys => ys.map fun y => (none, y)
  | xs, [] => xs.map fun x => (x, none)
  | x :: xs, y :: ys => (x, y) :: alongside xs ys

def ratio [Zero α] [Mul α] [Div α] [BEq α] (function : String) (multiplier : α)
    (list : List (Series α)) : Except Error (List (Series α)) :=
  match list with
  | [a, b] =>
    .ok [a.derive (callName function [a, b])
      ((alongside a.values b.values).map fun (x, y) => quotient multiplier x y)]
  | list => .error (.argument function 0 (.notTwoSeries list.length))

def divideSeries [Arith α] (list : List (Series α)) : Except Error (List (Series α)) :=
  ratio "divideSeries" ((1 : Nat) : α) list

def asPercent [Arith α] (list : List (Series α)) : Except Error (List (Series α)) :=
  ratio "asPercent" ((100 : Nat) : α) list

end MetricSeries

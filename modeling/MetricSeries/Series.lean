import MetricSeries.Arith
import MetricSeries.Text.Words
import MetricSeries.Decimal.Layout

set_option autoImplicit false

namespace MetricSeries

/-- How raw points were brought to the spacing of a series. -/
inductive Consolidation where
  | average | sum | max | min | last
  deriving DecidableEq, Repr

def Consolidation.word : Consolidation → String
  | .average => "average"
  | .sum => "sum"
  | .max => "max"
  | .min => "min"
  | .last => "last"

def Consolidation.ofWord? : String → Option Consolidation
  | "average" => some .average
  | "sum" => some .sum
  | "max" => some .max
  | "min" => some .min
  | "last" => some .last
  | _ => none

inductive Hint (α : Type) where
  | flag (b : Bool)
  | number (x : α)
  | text (s : String)
  deriving DecidableEq, Repr

/-- Drawing hints by key, each key once and in order. -/
structure Hints (α : Type) where
  entries : List (String × Hint α)
  ordered : entries.Pairwise (·.1 < ·.1)

def insertEntry {β : Type} (key : String) (value : β) : List (String × β) → List (String × β)
  | [] => [(key, value)]
  | (k, v) :: rest =>
    if key < k then (key, value) :: (k, v) :: rest
    else if k < key then (k, v) :: insertEntry key value rest
    else (key, value) :: rest

theorem key_of_mem_insertEntry {β : Type} {key : String} {value : β} {e : String × β} :
    ∀ {entries : List (String × β)}, e ∈ insertEntry key value entries → e.1 = key ∨ e ∈ entries
  | [], h => by simp [insertEntry] at h; simp [h]
  | (k, v) :: rest, h => by
    unfold insertEntry at h
    split at h
    · rcases List.mem_cons.1 h with h | h
      · simp [h]
      · exact .inr h
    · split at h
      · rcases List.mem_cons.1 h with h | h
        · simp [h]
        · rcases key_of_mem_insertEntry h with h | h
          · exact .inl h
          · exact .inr (List.mem_cons_of_mem _ h)
      · rcases List.mem_cons.1 h with h | h
        · simp [h]
        · exact .inr (List.mem_cons_of_mem _ h)

theorem key_eq_of_not_lt {a b : String} (h : ¬a < b) (h' : ¬b < a) : a = b :=
  String.le_antisymm (String.not_lt.1 h') (String.not_lt.1 h)

theorem pairwise_insertEntry {β : Type} (key : String) (value : β) :
    ∀ {entries : List (String × β)}, entries.Pairwise (·.1 < ·.1) →
      (insertEntry key value entries).Pairwise (·.1 < ·.1)
  | [], _ => by simp [insertEntry]
  | (k, v) :: rest, h => by
    obtain ⟨head, tail⟩ := List.pairwise_cons.1 h
    unfold insertEntry
    split
    · rename_i lt
      refine List.pairwise_cons.2 ⟨fun e he => ?_, h⟩
      rcases List.mem_cons.1 he with he | he
      · simp [he, lt]
      · exact String.lt_trans lt (head e he)
    · rename_i notLt
      split
      · rename_i lt
        refine List.pairwise_cons.2 ⟨fun e he => ?_, pairwise_insertEntry key value tail⟩
        rcases key_of_mem_insertEntry he with he | he
        · simp [he, lt]
        · exact head e he
      · rename_i notGt
        have same := key_eq_of_not_lt notLt notGt
        exact List.pairwise_cons.2 ⟨fun e he => by simpa [same] using head e he, tail⟩

namespace Hints

variable {α : Type}

def empty : Hints α := ⟨[], .nil⟩

def insert (h : Hints α) (key : String) (value : Hint α) : Hints α :=
  ⟨insertEntry key value h.entries, pairwise_insertEntry key value h.ordered⟩

def get? (h : Hints α) (key : String) : Option (Hint α) :=
  (h.entries.find? fun e => e.1 = key).map (·.2)

end Hints

abbrev Samples (α : Type) := List (Option α)

structure Series (α : Type) where
  name : String
  start : Int
  finish : Int
  step : Int
  values : Samples α
  consolidation : Consolidation := .average
  hints : Hints α := .empty
  color : Option String := none
  /-- The expression whose evaluation gave the series. -/
  path : String

/-- The time of the last of `count` samples, or of the first where there is none. -/
def lastTime (start step : Int) (count : Nat) : Int :=
  start + step * (count - 1 : Nat)

namespace Series

variable {α : Type}

def named (name : String) (start finish step : Int) (values : Samples α) : Series α where
  name := name
  start := start
  finish := finish
  step := step
  values := values
  path := name

def ofValues (name : String) (start step : Int) (values : List α) : Series α :=
  named name start (lastTime start step values.length) step (values.map some)

/-- A series with samples of its own and the axis and the hints of another. -/
def derive (s : Series α) (name : String) (values : Samples α) : Series α :=
  { s with name := name, path := name, values := values,
           finish := lastTime s.start s.step values.length }

def withPath (s : Series α) (path : String) : Series α :=
  { s with path := path }

def rename (s : Series α) (name : String) : Series α :=
  { s with name := name, path := name }

def setHint (s : Series α) (key : String) (value : Hint α) : Series α :=
  { s with hints := s.hints.insert key value }

def length (s : Series α) : Nat :=
  s.values.length

def isEmpty (s : Series α) : Bool :=
  s.values.isEmpty

def validCount (s : Series α) : Nat :=
  s.values.countP Option.isSome

def time (s : Series α) (i : Nat) : Int :=
  s.start + i * s.step

def timestamps (s : Series α) : List Int :=
  (List.range s.length).map s.time

def datapoints (s : Series α) : List (Option α × Int) :=
  s.values.zip s.timestamps

def nodes (s : Series α) : List String :=
  Text.pieces '.' s.name

def summary (s : Series α) : String :=
  "TimeSeries(name=" ++ s.name ++ ", start=" ++ Decimal.intText s.start ++ ", end="
    ++ Decimal.intText s.finish ++ ", step=" ++ Decimal.intText s.step ++ ")"

end Series

end MetricSeries

import MetricSeries.Call.Args
import MetricSeries.Config

/-!
What a call sees and leaves behind.  A call runs in a context: the window on display, the settings,
a way to evaluate other expressions, and the functions known by name.  The only thing it leaves
behind is the list of the evaluations it asked for.
-/

set_option autoImplicit false

namespace MetricSeries

/-- An evaluation that was asked for: an expression over a window, in whole seconds. -/
structure Fetch where
  target : String
  start : Int
  stop : Int
  deriving DecidableEq, Repr

/-- A computation that may fail and that writes down the evaluations it asks for, those before a
failure too. -/
abbrev Run (β : Type) := ExceptT Error (StateM (List Fetch)) β

def Run.from {β : Type} (r : Run β) (earlier : List Fetch) : Except Error β × List Fetch :=
  ExceptT.run r earlier

/-- Evaluates an expression over a window.  The answer may hang on what was asked for before. -/
abbrev Evaluator (α : Type) := List Fetch → Window → String → Except Error (List (Series α))

inductive Output (α : Type) where
  | list (series : List (Series α))
  | groups (series : List (List (Series α)))

namespace Output

variable {α : Type}

def asList : Output α → Except Error (List (Series α))
  | .list series => .ok series
  | .groups _ => .error (.evaluation "output" "expected a series list, got series groups")

def flatten : Output α → List (Series α)
  | .list series => series
  | .groups series => series.flatten

def toArg : Output α → Arg α
  | .list series => .list series
  | .groups series => .groups series

end Output

/-- What a function sees of its context.  Other functions are known to it by name only. -/
structure Scope (α : Type) where
  window : Window
  config : Config
  evaluator : Option (Evaluator α)
  lookup : String → Option (Args α → Run (Output α))

def Scope.fetch {α : Type} (scope : Scope α) (window : Window) (target : String) :
    Run (List (Series α)) :=
  match scope.evaluator with
  | none => throw (.noEvaluator target)
  | some evaluate => fun earlier =>
    (evaluate earlier window target,
      earlier ++ [⟨target, window.start.seconds, window.stop.seconds⟩])

abbrev Function (α : Type) := Scope α → Args α → Run (Output α)

structure Registry (α : Type) where
  entries : List (String × Function α) := []

namespace Registry

variable {α : Type}

def empty : Registry α := {}

def find? (r : Registry α) (name : String) : Option (Function α) :=
  r.entries.lookup name

def get (r : Registry α) (name : String) : Except Error (Function α) :=
  match r.find? name with
  | some f => .ok f
  | none => .error (.unknownFunction name)

def contains (r : Registry α) (name : String) : Bool :=
  (r.find? name).isSome

def insert (r : Registry α) (name : String) (f : Function α) : Registry α :=
  ⟨(name, f) :: r.entries.filter fun e => e.1 ≠ name⟩

def ofList (entries : List (String × Function α)) : Registry α :=
  entries.foldl (fun r e => r.insert e.1 e.2) empty

def names (r : Registry α) : List String :=
  (r.entries.map Prod.fst).mergeSort fun a b => decide (a ≤ b)

def size (r : Registry α) : Nat :=
  r.entries.length

def isEmpty (r : Registry α) : Bool :=
  r.entries.isEmpty

def diagnostic (r : Registry α) : String :=
  Text.record "FunctionRegistry" [("functions", Text.bracketed (r.names.map Text.quoted))]

end Registry

structure Context (α : Type) where
  window : Window
  config : Config := {}
  evaluator : Option (Evaluator α) := none
  registry : Registry α

namespace Context

variable {α : Type}

/-- The depth to which functions may call one another.  This limit and the error that tells of it are
a device of this library, which gives every call an end; nothing that is modelled has them. -/
def maxDepth : Nat := 1000

def scope (c : Context α) : Nat → Scope α
  | 0 => ⟨c.window, c.config, c.evaluator, fun name =>
      (c.registry.find? name).map fun _ _ => throw (.evaluation name "calls are nested too deeply")⟩
  | depth + 1 => ⟨c.window, c.config, c.evaluator, fun name =>
      (c.registry.find? name).map fun f args => f (c.scope depth) args⟩

def call (c : Context α) (args : Args α) : Run (Output α) :=
  match c.registry.find? args.function with
  | none => throw (.unknownFunction args.function)
  | some f => f (c.scope maxDepth) args

def evaluate (c : Context α) (target : String) : Run (List (Series α)) :=
  (c.scope 0).fetch c.window target

def window? (start stop : Int) : Except Error Window :=
  match Instant.ofSeconds? start with
  | none => .error (.format (.startOutside start))
  | some a =>
    match Instant.ofSeconds? stop with
    | none => .error (.format (.stopOutside stop))
    | some z => .ok ⟨a, z⟩

/-- The window between two times; one outside the calendar counts as the year 1970. -/
def nearWindow (start stop : Int) : Window :=
  ⟨(Instant.ofSeconds? start).getD .epoch, (Instant.ofSeconds? stop).getD .epoch⟩

def diagnostic (c : Context α) : String :=
  Text.record "EvalContext" [
    ("start_time", c.window.start.stamp), ("end_time", c.window.stop.stamp),
    ("has_evaluator", if c.evaluator.isSome then "true" else "false"),
    ("functions", Decimal.natText c.registry.size)]

end Context

end MetricSeries

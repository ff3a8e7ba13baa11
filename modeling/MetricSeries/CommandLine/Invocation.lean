import MetricSeries.CommandLine.Flag
import MetricSeries.Decimal.Read

set_option autoImplicit false

namespace MetricSeries.CommandLine

inductive Interruption where
  | help | version | misuse
  deriving DecidableEq, Repr

inductive Word where
  /-- Two dashes, behind which no options stand. -/
  | close
  | long (name : String) (value : Option String)
  | short (letters : List Char)
  | plain (s : String)
  deriving DecidableEq, Repr

def Word.of (s : String) : Word :=
  match s.toList with
  | ['-', '-'] => .close
  | '-' :: '-' :: cs =>
    match cs.span (· ≠ '=') with
    | (name, '=' :: value) => .long (String.ofList name) (some (String.ofList value))
    | (name, _) => .long (String.ofList name) none
  | '-' :: c :: cs => .short (c :: cs)
  | _ => .plain s

def attached? : List Char → Option String
  | [] => none
  | '=' :: cs => some (String.ofList cs)
  | cs => some (String.ofList cs)

def Flag.accepts (flag : Flag) (value : String) : Bool :=
  match flag with
  | .config | .input | .history => value ≠ ""
  | .start | .stop => (Decimal.word? value).isSome
  | _ => true

/-- The options read so far, and the one whose value comes in a word of its own.  That value is
judged when the next option or the end is reached. -/
structure Reading where
  given : List (Flag × String) := []
  pending : Option (Flag × Option String) := none

namespace Reading

def isWaiting (r : Reading) : Bool :=
  match r.pending with
  | some (_, none) => true
  | _ => false

def give (r : Reading) (flag : Flag) (value : String) : Except Interruption Reading :=
  if !flag.accepts value || (!flag.isRepeatable && (r.given.lookup flag).isSome) then .error .misuse
  else .ok { r with given := r.given ++ [(flag, value)] }

def settle (r : Reading) : Except Interruption Reading :=
  match r.pending with
  | none => .ok r
  | some (_, none) => .error .misuse
  | some (flag, some value) => { r with pending := none }.give flag value

def option (r : Reading) (flag : Flag) (value : Option String) : Except Interruption Reading := do
  let r ← r.settle
  match value with
  | some value => r.give flag value
  | none => return { r with pending := some (flag, none) }

def bare (r : Reading) (flag : Flag) : Except Interruption Reading := do
  let r ← r.settle
  match flag with
  | .help => throw .help
  | .version => throw .version
  | flag => r.give flag ""

/-- Letters behind one dash: options without values, up to one that takes the rest for its
value. -/
def letters (level : Level) : Reading → List Char → Except Interruption Reading
  | r, [] => .ok r
  | r, c :: rest =>
    match level.ofShort? c with
    | none => .error .misuse
    | some flag =>
      if flag.takesValue then r.option flag (attached? rest)
      else do letters level (← r.bare flag) rest

def long (level : Level) (r : Reading) (name : String) (value : Option String) :
    Except Interruption Reading :=
  match level.ofLong? name with
  | none => .error .misuse
  | some flag =>
    if flag.takesValue then r.option flag value
    else if value.isSome then .error .misuse
    else r.bare flag

def plain (r : Reading) (s : String) : Except Interruption Reading :=
  match r.pending with
  | some (flag, none) => .ok { r with pending := some (flag, some s) }
  | _ => .error .misuse

def run (level : Level) (isCommand : String → Bool) :
    Reading → List String → Except Interruption (Reading × List String)
  | r, [] => .ok (r, [])
  | r, s :: rest =>
    if !r.isWaiting && isCommand s then .ok (r, s :: rest)
    else
      match Word.of s with
      | .close => if rest.isEmpty then .ok (r, []) else .error .misuse
      | .long name value => do run level isCommand (← r.long level name value) rest
      | .short cs => do run level isCommand (← r.letters level cs) rest
      | .plain s => do run level isCommand (← r.plain s) rest

end Reading

abbrev Given := List (Flag × String)

namespace Given

def value? (given : Given) (flag : Flag) : Option String :=
  given.lookup flag

def need (given : Given) (flag : Flag) : Except Interruption String :=
  match given.value? flag with
  | some value => .ok value
  | none => .error .misuse

def values (given : Given) (flag : Flag) : List String :=
  (given.filter fun e => e.1 = flag).map Prod.snd

def time? (given : Given) (flag : Flag) : Option Int :=
  (given.value? flag).bind Decimal.word?

end Given

structure Application where
  function : String
  input : String
  args : List String
  history : Option String
  start : Option Int
  stop : Option Int
  pretty : Bool
  deriving DecidableEq, Repr

inductive Command where
  | apply (application : Application)
  | functions
  | checkConfig
  deriving DecidableEq, Repr

structure Invocation where
  config : Option String
  command : Command
  deriving DecidableEq, Repr

def Application.ofGiven (given : Given) : Except Interruption Application := do
  return {
    function := ← given.need .function
    input := ← given.need .input
    args := given.values .arg
    history := given.value? .history
    start := given.time? .start
    stop := given.time? .stop
    pretty := (given.value? .pretty).isSome }

def Command.ofGiven (level : Level) (given : Given) : Except Interruption Command :=
  match level with
  | .program => .error .misuse
  | .apply => (Application.ofGiven given).map .apply
  | .functions => .ok .functions
  | .checkConfig => .ok .checkConfig

def isCommandWord (s : String) : Bool :=
  s = "help" || (Level.ofWord? s).isSome

def helpOn : List String → Interruption
  | [] => .help
  | [s] => if isCommandWord s then .help else .misuse
  | _ => .misuse

def Invocation.ofWords (words : List String) : Except Interruption Invocation := do
  match ← Reading.run .program isCommandWord {} words with
  | (_, []) => throw .misuse
  | (before, s :: rest) =>
    match Level.ofWord? s with
    | none => throw (helpOn rest)
    | some level =>
      let (behind, _) ← Reading.run level (fun _ => false) {} rest
      let behind ← behind.settle
      let command ← Command.ofGiven level behind.given
      let before ← before.settle
      return {
        config := (Given.value? behind.given .config).orElse fun _ =>
          Given.value? before.given .config
        command }

def Invocation.paths (i : Invocation) : List String :=
  i.config.toList ++ match i.command with
    | .apply application => application.input :: application.history.toList
    | .functions | .checkConfig => []

end MetricSeries.CommandLine

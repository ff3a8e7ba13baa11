import MetricSeries.CommandLine.Invocation
import MetricSeries.Config.Codec
import MetricSeries.Call.Standard
import MetricSeries.Bands
import MetricSeries.Plot

set_option autoImplicit false

namespace MetricSeries.CommandLine

abbrev Files := String → Option String

inductive Failure where
  | error (e : Error)
  | plots
  deriving DecidableEq, Repr

inductive Outcome where
  | printed (text : String)
  | failed (failure : Failure)
  | misused
  deriving DecidableEq, Repr

section
variable {α : Type} [Arith α] [NumberText α]

def readArg (raw : String) : Arg α :=
  match Decimal.word? raw with
  | some n => .int n
  | none =>
    match NumberText.parse? raw with
    | some x => .number x
    | none =>
      match parseFlag? raw with
      | some b => .flag b
      | none => .text raw

def readPlots (files : Files) (path : String) : Except Failure (List (Series α)) :=
  match files path with
  | none => .error (.error .file)
  | some content =>
    match Plot.readAll α content with
    | .ok plots => .ok (plots.map Plot.toSeries)
    | .error _ => .error .plots

def windowBounds (list : List (Series α)) (start stop : Option Int) : Int × Int :=
  let start := start.getD ((list.map Series.start).min?.getD 0)
  (start, stop.getD ((list.map Series.finish).max?.getD start))

/-- Answers an expression with the series that has it for its name, and any other expression with
all of them. -/
def evaluatorOf (history : List (Series α)) : Evaluator α := fun _ _ target =>
  match history.filter fun s => s.name = target with
  | [] => .ok history
  | found => .ok found

def plotsText (pretty : Bool) (list : List (Series α)) : String :=
  (Json.Value.ofList (list.map fun s => (Plot.ofSeries s).toJson)).render
    (if pretty then Json.indented else Json.compact)

def lift {β : Type} (result : Except Error β) : Except Failure β :=
  result.mapError .error

variable (α)

def Application.run (files : Files) (config : Config) (a : Application) :
    Except Failure String := do
  let list : List (Series α) ← readPlots files a.input
  let (start, stop) := windowBounds list a.start a.stop
  let window ← lift (Context.window? start stop)
  let evaluator ← match a.history with
    | none => pure none
    | some path => do
      let history ← readPlots files path
      pure (some (evaluatorOf history))
  let context := { Context.standard window with config, evaluator }
  let (result, _) := (context.call (.ofList a.function (.list list :: a.args.map readArg))).from []
  let output ← lift result
  return plotsText a.pretty output.flatten ++ "\n"

def functionsText : String :=
  String.join ((Registry.standard (α := α)).names.map fun name => name ++ "\n")

def configText (config : Config) : String :=
  "Configuration is valid!\n\nEngine Settings:\n  Percentile interpolation: "
    ++ Config.flagText config.interpolate
    ++ "\n\nSix-Sigma Defaults:\n  Period: " ++ config.bands.period
    ++ "\n  Repeats: " ++ Decimal.natText config.bands.repeats
    ++ "\n  Factor: " ++ config.bands.factor
    ++ "\n\nLog level: " ++ config.logging.level ++ "\n"

def readConfig (files : Files) (env : Environment) (path : Option String) : Except Error Config :=
  match path with
  | none => .ok (Config.ofEnvironment env)
  | some path => Config.ofFileWithEnvironment (files path) env

def Invocation.run (files : Files) (env : Environment) (i : Invocation) :
    Except Failure String := do
  let config ← lift (readConfig files env i.config)
  match i.command with
  | .apply a => a.run α files config
  | .functions => return functionsText α
  | .checkConfig => do
    lift (config.validate α)
    return configText config

def programName : String := "render-eval"

def versionText : String :=
  programName ++ " 0.1.0\n"

def flagLine (flag : Flag) : String :=
  "  " ++ (match flag.short? with
    | some c => "-" ++ String.singleton c ++ ", "
    | none => "    ")
    ++ "--" ++ flag.long ++ (if flag.takesValue then " <VALUE>" else "") ++ "\n      "
    ++ flag.purpose ++ "\n"

def helpText : String :=
  "Usage: " ++ programName ++ " [OPTIONS] <apply|functions|check-config>\n\nOptions:\n"
    ++ String.join (Level.program.flags.map flagLine)
    ++ "\nOptions of apply:\n" ++ String.join (Level.apply.flags.map flagLine)

def run (files : Files) (env : Environment) (words : List String) : Outcome :=
  match Invocation.ofWords words with
  | .error .help => .printed helpText
  | .error .version => .printed versionText
  | .error .misuse => .misused
  | .ok i =>
    match i.run α files env with
    | .ok text => .printed text
    | .error failure => .failed failure

end

def variableNames : List String :=
  ["RENDER_PERCENTILE_INTERPOLATE", "RENDER_SIX_SIGMA_PERIOD", "RENDER_SIX_SIGMA_REPEATS",
    "RENDER_SIX_SIGMA_FACTOR", "RUST_LOG"]

end MetricSeries.CommandLine

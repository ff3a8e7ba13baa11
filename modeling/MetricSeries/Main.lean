import MetricSeries.CommandLine.Run

set_option autoImplicit false

namespace MetricSeries.CommandLine

def readFile? (path : String) : IO (Option String) := do
  try
    return some (← IO.FS.readFile path)
  catch _ =>
    return none

def Outcome.print : Outcome → IO UInt32
  | .printed text => do
    IO.print text
    return 0
  | .failed (.error e) => do
    IO.eprintln ("Error: " ++ e.diagnostic)
    return 1
  | .failed .plots => do
    IO.eprintln "Error: the file does not hold plots"
    return 1
  | .misused => do
    IO.eprint helpText
    return 2

end MetricSeries.CommandLine

section
open MetricSeries MetricSeries.CommandLine

def main (words : List String) : IO UInt32 := do
  let paths := match Invocation.ofWords words with
    | .ok i => i.paths
    | .error _ => []
  let contents ← paths.mapM fun path => return (path, ← readFile? path)
  let values ← variableNames.mapM fun name => return (name, ← IO.getEnv name)
  let outcome := run Float (fun path => (contents.lookup path).join)
    (fun name => (values.lookup name).join) words
  outcome.print

end

set_option autoImplicit false

namespace MetricSeries.CommandLine

inductive Flag where
  | config | function | input | arg | history | start | stop | pretty | help | version
  deriving DecidableEq, Repr

namespace Flag

def long : Flag → String
  | .config => "config"
  | .function => "function"
  | .input => "input"
  | .arg => "arg"
  | .history => "history"
  | .start => "from"
  | .stop => "until"
  | .pretty => "pretty"
  | .help => "help"
  | .version => "version"

def short? : Flag → Option Char
  | .config => some 'c'
  | .function => some 'f'
  | .input => some 'i'
  | .arg => some 'a'
  | .help => some 'h'
  | .version => some 'V'
  | .history | .start | .stop | .pretty => none

def takesValue : Flag → Bool
  | .pretty | .help | .version => false
  | _ => true

def isRepeatable : Flag → Bool
  | .arg => true
  | _ => false

def purpose : Flag → String
  | .config => "Configuration file (TOML)"
  | .function => "Name of the function to apply"
  | .input => "File with the plots to apply it to"
  | .arg => "Argument behind the series; repeat for more"
  | .history => "File with the plots that answer evaluations"
  | .start => "Start of the window in epoch seconds"
  | .stop => "End of the window in epoch seconds"
  | .pretty => "Indent the output"
  | .help => "Print help"
  | .version => "Print version"

end Flag

/-- The program itself and its commands; each has options of its own. -/
inductive Level where
  | program | apply | functions | checkConfig
  deriving DecidableEq, Repr

namespace Level

def flags : Level → List Flag
  | .program => [.config, .help, .version]
  | .apply => [.config, .function, .input, .arg, .history, .start, .stop, .pretty, .help]
  | .functions | .checkConfig => [.config, .help]

def ofLong? (level : Level) (name : String) : Option Flag :=
  level.flags.find? fun flag => flag.long = name

def ofShort? (level : Level) (letter : Char) : Option Flag :=
  level.flags.find? fun flag => flag.short? = some letter

def ofWord? : String → Option Level
  | "apply" => some .apply
  | "functions" => some .functions
  | "check-config" => some .checkConfig
  | _ => none

end Level

end MetricSeries.CommandLine

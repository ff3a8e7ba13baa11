import MetricSeries.Time.Offset

set_option autoImplicit false

namespace MetricSeries

structure BandConfig where
  period : String := "7d"
  repeats : Nat := 8
  factor : String := "3"
  deriving DecidableEq, Repr

structure LogConfig where
  level : String := "info"
  withTarget : Bool := true
  deriving DecidableEq, Repr

structure Config where
  interpolate : Bool := false
  bands : BandConfig := {}
  logging : LogConfig := {}
  deriving DecidableEq, Repr

abbrev Environment := String → Option String

def parseFlag? : String → Option Bool
  | "true" => some true
  | "false" => some false
  | _ => none

/-- Settings that the environment gives win; a flag or a count that cannot be read changes
nothing. -/
def Config.override (c : Config) (env : Environment) : Config where
  interpolate := ((env "RENDER_PERCENTILE_INTERPOLATE").bind parseFlag?).getD c.interpolate
  bands := {
    period := (env "RENDER_SIX_SIGMA_PERIOD").getD c.bands.period
    repeats := ((env "RENDER_SIX_SIGMA_REPEATS").bind Decimal.count?).getD c.bands.repeats
    factor := (env "RENDER_SIX_SIGMA_FACTOR").getD c.bands.factor }
  logging := { c.logging with level := (env "RUST_LOG").getD c.logging.level }

def Config.ofEnvironment (env : Environment) : Config :=
  ({} : Config).override env

end MetricSeries

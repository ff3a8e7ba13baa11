import MetricSeries.Operation.Order
import MetricSeries.Operation.Value
import MetricSeries.Operation.Style
import MetricSeries.Operation.Column
import MetricSeries.Operation.Trend
import MetricSeries.Operation.Partition
import MetricSeries.Operation.Band

set_option autoImplicit false

namespace MetricSeries

variable {α : Type}

namespace Function

def ofList (f : Scope α → List (Series α) → List (Series α)) : Function α := fun scope args => do
  return .list (f scope (← liftExcept (args.takeList 0).1))

def ofEach (f : Scope α → Series α → Series α) : Function α :=
  ofList fun scope => List.map (f scope)

def ofLists (f : List (Series α) → Except Error (List (Series α))) : Function α := fun _ args => do
  return .list (← liftExcept (f (← liftExcept (args.takeListsFrom 0).1)))

def withArgument {β : Type} (read : Args α → Except Error β)
    (f : Scope α → β → List (Series α) → Except Error (List (Series α))) : Function α :=
  fun scope args => do
    let b ← liftExcept (read args)
    let list ← liftExcept (args.takeList 0).1
    return .list (← liftExcept (f scope b list))

def eachWith {β : Type} (read : Args α → Except Error β)
    (f : Scope α → β → Series α → Series α) : Function α :=
  withArgument read fun scope b list => .ok (list.map (f scope b))

def grouping [Arith α] : Function α := fun _ args => do
  let node ← liftExcept (args.int 1)
  let list ← liftExcept (args.takeList 0).1
  return .groups (← liftExcept (mapSeries node list))

def reduction [Arith α] : Function α := fun scope args => do
  let reducer ← liftExcept (args.text 1)
  let node ← liftExcept (args.int 2)
  let matchers ← liftExcept (args.textsFrom 3)
  let groups ← liftExcept (args.takeGroups 0).1
  return .list (← reduceSeries scope.lookup reducer node matchers groups.flatten)

def bands [Arith α] [NumberText α] : Function α := fun scope args => do
  let period ← liftExcept (args.textOr 1 scope.config.bands.period)
  let repeats ← liftExcept (args.countOr 2 scope.config.bands.repeats)
  let factor ← liftExcept (args.textOr 3 scope.config.bands.factor)
  let list ← liftExcept (args.takeList 0).1
  return .list (← sixSigma scope ⟨period, repeats, factor⟩ list)

end Function

def twoTexts (args : Args α) : Except Error (String × String) := do
  let a ← args.text 1
  let b ← args.text 2
  return (a, b)

section
variable [Arith α] [NumberText α]

def standardEntries : List (String × Function α) := [
  ("highestMax", .withArgument (·.countOr 1 1) fun _ n list => .ok (highestMax n list)),
  ("sortByTotal", .ofList fun _ => sortByTotal),
  ("limit", .withArgument (·.count? 1) fun _ n list => .ok (limit n list)),
  ("removeAbovePercentile",
    .eachWith (·.number 1) fun scope => removePercentile scope.config.interpolate .above),
  ("removeBelowPercentile",
    .eachWith (·.number 1) fun scope => removePercentile scope.config.interpolate .below),
  ("removeAboveValue", .eachWith (·.number 1) fun _ => removeValues .above),
  ("removeBelowValue", .eachWith (·.number 1) fun _ => removeValues .below),
  ("nPercentile",
    .withArgument (·.number 1) fun scope => nPercentile scope.config.interpolate),
  ("transformNull", .eachWith (·.numberOr 1 0) fun _ => transformNull),
  ("scale", .eachWith (·.number 1) fun _ => scale),
  ("alias", .eachWith (·.text 1) fun _ => relabel),
  ("aliasSub", .withArgument twoTexts fun _ texts => relabelByPattern texts.1 texts.2),
  ("aliasByNode", .withArgument (·.intsFrom 1) fun _ nodes list => list.mapM (relabelByNode nodes)),
  ("color", .eachWith (·.text 1) fun _ => setColor),
  ("alpha", .eachWith (·.number 1) fun _ => setAlpha),
  ("lineWidth", .eachWith (·.number 1) fun _ => setLineWidth),
  ("secondYAxis", .ofEach fun _ => onSecondAxis),
  ("drawAsInfinite", .ofEach fun _ => asInfinite),
  ("mapSeries", .grouping),
  ("reduceSeries", .reduction),
  ("sixSigma", .bands),
  ("linregress", .withArgument (·.number? 1) fun scope least list =>
    .ok (linregress scope.window least list)),
  ("sumSeries", .ofLists fun list => .ok (combine .sum list)),
  ("averageSeries", .ofLists fun list => .ok (combine .average list)),
  ("maxSeries", .ofLists fun list => .ok (combine .max list)),
  ("minSeries", .ofLists fun list => .ok (combine .min list)),
  ("diffSeries", .ofLists fun list => .ok (combine .diff list)),
  ("divideSeries", .ofLists divideSeries),
  ("asPercent", .ofLists asPercent)]

def Registry.standard : Registry α :=
  .ofList standardEntries

def Context.standard (window : Window) : Context α where
  window := window
  registry := .standard

end

end MetricSeries

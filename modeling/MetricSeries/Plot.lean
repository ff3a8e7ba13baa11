import MetricSeries.Series.Codec

/-!
Plots: the form in which series are exchanged with a renderer.  Every sample carries its own time,
and the spacing is usually left to be inferred from the first two of them.
-/

set_option autoImplicit false

namespace MetricSeries

open MetricSeries.Json

structure Plot (α : Type) where
  target : String
  datapoints : List (Option α × Int)
  step : Option Int := none

namespace Plot

variable {α : Type}

def spacing : List (Option α × Int) → Option Int
  | (_, a) :: (_, b) :: _ => some (b - a)
  | _ => none

/-- The spacing given, else the one between the first two samples, if that is forward in time; else
one second. -/
def stepOf (p : Plot α) : Int :=
  ((p.step.orElse fun _ => spacing p.datapoints).filter fun step => decide (0 < step)).getD 1

def toSeries (p : Plot α) : Series α :=
  let start := (p.datapoints.head?.map Prod.snd).getD 0
  let finish := (p.datapoints.getLast?.map Prod.snd).getD start
  .named p.target start finish p.stepOf (p.datapoints.map Prod.fst)

def ofSeries (s : Series α) : Plot α where
  target := s.name
  datapoints := s.datapoints

section
variable [NumberText α]

def datapointValue (d : Option α × Int) : Value :=
  .ofList [sampleValue d.1, intValue d.2]

def toJson (p : Plot α) : Value :=
  .ofFields <|
    [("target", .ofText p.target), ("datapoints", .ofList (p.datapoints.map datapointValue))]
    ++ (match p.step with
      | some step => [("step", intValue step)]
      | none => [])

end

section
variable (α) [Neg α] [NatCast α] [NumberText α]

def decodeDatapoint : Decoder (Option α × Int)
  | .array items stop => do
    let (x, items) ← needItem (decodeOption (decodeNumber α)) items stop
    let (t, items) ← needItem (decodeInt α) items stop
    closeArray items stop
    return (x, t)
  | v => .error (mismatch α v)

structure Fields where
  target : Option String := none
  datapoints : Option (List (Option α × Int)) := none
  step : Option (Option Int) := none

def Fields.read (f : Fields α) (member : Option String × Value) : Except Fault (Fields α) := do
  let v := member.2
  match member.1 with
  | none => throw (.stop .malformed)
  | some "target" => return { f with target := ← fillField "target" f.target (decodeText α) v }
  | some "datapoints" => return { f with
      datapoints := ← fillField "datapoints" f.datapoints (decodeList α (decodeDatapoint α)) v }
  | some "step" => return { f with
      step := ← fillField "step" f.step (decodeOption (decodeInt α)) v }
  | some _ => do
    v.skip
    return f

def decodePlot : Decoder (Plot α)
  | .array items stop => do
    let (target, items) ← needItem (decodeText α) items stop
    let (datapoints, items) ← needItem (decodeList α (decodeDatapoint α)) items stop
    let (step, items) ← nextItem (decodeOption (decodeInt α)) items stop
    closeArray items stop
    return { target, datapoints, step := step.getD none }
  | .object members stop => do
    let fields ← members.foldlM (Fields.read α) {}
    match stop with
    | some b => throw (.stop b.read)
    | none =>
      return {
        target := ← needField "target" fields.target
        datapoints := ← needField "datapoints" fields.datapoints
        step := fields.step.getD none }
  | v => .error (mismatch α v)

def readAll (s : String) : Except Fault (List (Plot α)) :=
  decode (decodeList α (decodePlot α)) s

end

end Plot

end MetricSeries

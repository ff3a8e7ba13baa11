import MetricSeries.Series

set_option autoImplicit false

namespace MetricSeries

variable {α : Type}

def setColor (color : String) (s : Series α) : Series α :=
  { s with color := some color }

def setAlpha (alpha : α) (s : Series α) : Series α :=
  s.setHint "alpha" (.number alpha)

def setLineWidth (width : α) (s : Series α) : Series α :=
  s.setHint "lineWidth" (.number width)

def onSecondAxis (s : Series α) : Series α :=
  s.setHint "secondYAxis" (.flag true)

def asInfinite (s : Series α) : Series α :=
  s.setHint "drawAsInfinite" (.flag true)

end MetricSeries

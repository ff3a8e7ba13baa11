import MetricSeries.Samples.Fold

set_option autoImplicit false

namespace MetricSeries

variable {α : Type}

/-- Whether one key comes no later than another: the greater first, a missing one last. -/
def keyBefore [LT α] [DecidableLT α] : Option α → Option α → Bool
  | some a, some b => !decide (a < b)
  | some _, none => true
  | none, some _ => false
  | none, none => true

/-- Descending order of a key.  Series with the same key keep their order.  For keys that cannot be
compared the outcome is only one of many: sorting them may as well fail. -/
def sortDescending [LT α] [DecidableLT α] (key : Series α → Option α) (list : List (Series α)) :
    List (Series α) :=
  ((list.map fun s => (key s, s)).mergeSort fun a b => keyBefore a.1 b.1).map Prod.snd

def highestMax [LT α] [DecidableLT α] [BEq α] (n : Nat) (list : List (Series α)) :
    List (Series α) :=
  (sortDescending (fun s => Samples.max? s.values) list).take n

def sortByTotal [Zero α] [Add α] [LT α] [DecidableLT α] (list : List (Series α)) :
    List (Series α) :=
  sortDescending (fun s => Samples.sum? s.values) list

def limit (n : Option Nat) (list : List (Series α)) : List (Series α) :=
  match n with
  | none => list
  | some n => list.take n

end MetricSeries

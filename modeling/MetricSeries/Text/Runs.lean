/-!
Sets of characters given by runs.  The characters are taken in the order of their numbers; a set is
the list of the lengths of its runs, outside and inside the set by turns.
-/

set_option autoImplicit false

namespace MetricSeries.Text

/-- The lengths of the runs; the first run lies outside the set, and so does all that follows the
last one. -/
structure Runs where
  lengths : List Nat

def Runs.reaches (inside : Bool) (n : Nat) : List Nat → Bool
  | [] => false
  | k :: ks => if n < k then inside else Runs.reaches (!inside) (n - k) ks

def Runs.contains (r : Runs) (c : Char) : Bool :=
  Runs.reaches false c.toNat r.lengths

def numbers (cs : List Char) : List Nat :=
  let step (st : List Nat × Option Nat) (c : Char) : List Nat × Option Nat :=
    if c.isDigit then (st.1, some (10 * st.2.getD 0 + (c.toNat - '0'.toNat)))
    else (st.2.toList ++ st.1, none)
  let last := cs.foldl step ([], none)
  (last.2.toList ++ last.1).reverse

def Runs.ofLines (lines : List String) : Runs :=
  ⟨numbers (String.join lines).toList⟩

end MetricSeries.Text

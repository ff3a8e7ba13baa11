import MetricSeries.Pattern.CharSet

/-!
Search patterns and how they match.  A pattern is tried from left to right; where it leaves a
choice, the alternatives are tried in order and the first that leads to a match of the whole wins.
-/

set_option autoImplicit false

namespace MetricSeries.Pattern

inductive WordLook where
  | boundary | noBoundary | start | stop | startHalf | stopHalf
  deriving DecidableEq, Repr

inductive Look where
  | textStart
  | textStop
  | lineStart
  | lineStop
  /-- A line may also end in a carriage return, or in one with a line feed behind it. -/
  | anyLineStart
  | anyLineStop
  | word (ascii : Bool) (look : WordLook)
  deriving DecidableEq, Repr

inductive Node where
  | empty
  | set (s : CharSet)
  | look (l : Look)
  | seq (a b : Node)
  | alt (a b : Node)
  /-- At least `min` times and at most `max` times; a greedy one prefers more, the other less. -/
  | iterate (r : Node) (min : Nat) (max : Option Nat) (greedy : Bool)
  | group (index : Nat) (r : Node)

/-- A place in a text: what lies before it, the nearest character first, and what lies after it. -/
structure Cursor where
  before : List Char
  after : List Char
  deriving DecidableEq, Repr

namespace Cursor

def upTo (c d : Cursor) : List Char :=
  c.after.take (c.after.length - d.after.length)

end Cursor

def inWord (ascii : Bool) (c : Option Char) : Bool :=
  c.any fun c => if ascii then CharSet.asciiWord.holds c else Text.isWord c

def WordLook.holds (l : WordLook) (before after : Bool) : Bool :=
  match l with
  | .boundary => before != after
  | .noBoundary => before == after
  | .start => !before && after
  | .stop => before && !after
  | .startHalf => !before
  | .stopHalf => !after

def Look.holds (l : Look) (c : Cursor) : Bool :=
  let prev := c.before.head?
  let next := c.after.head?
  match l with
  | .textStart => prev = none
  | .textStop => next = none
  | .lineStart => prev = none || prev = some '\n'
  | .lineStop => next = none || next = some '\n'
  | .anyLineStart =>
    prev = none || prev = some '\n' || (prev = some '\r' && next ≠ some '\n')
  | .anyLineStop =>
    next = none || next = some '\r' || (next = some '\n' && prev ≠ some '\r')
  | .word ascii look => look.holds (inWord ascii prev) (inWord ascii next)

abbrev Captures := List (Nat × List Char)

structure Found where
  stop : Cursor
  captures : Captures
  deriving DecidableEq, Repr

abbrev Rest := Cursor → Captures → Option Found

def Rest.orElse (first second : Rest) : Rest := fun c groups =>
  match first c groups with
  | some found => some found
  | none => second c groups

/-- Tries one more round before going on when `greedy`, and after it otherwise. -/
def Rest.choose (greedy : Bool) (more stop : Rest) : Rest :=
  if greedy then more.orElse stop else stop.orElse more

def rounds (round : Rest → Rest) : Nat → Rest → Rest
  | 0, k => k
  | n + 1, k => round (rounds round n k)

def roundsUpTo (round : Rest → Rest) (greedy : Bool) : Nat → Rest → Rest
  | 0, k => k
  | n + 1, k => Rest.choose greedy (round (roundsUpTo round greedy n k)) k

/-- More rounds behind the first.  Each of them has to use up text, so that there are at most as
many as there are characters left. -/
def moreRounds (round : Rest → Rest) (greedy : Bool) (k : Rest) : Nat → Rest
  | 0 => k
  | n + 1 => fun c =>
    Rest.choose greedy
      (round fun d groups =>
        if d.after.length < c.after.length then moreRounds round greedy k n d groups else none)
      k c

/-- One round and, unless it used up nothing, as many more as it takes. -/
def someRounds (round : Rest → Rest) (greedy : Bool) (k : Rest) : Rest := fun c =>
  round (fun d groups =>
    if d.after.length < c.after.length then moreRounds round greedy k d.after.length d groups
    else k d groups) c

def Node.run : Node → Rest → Rest
  | .empty, k => k
  | .set s, k => fun c groups =>
    match c.after with
    | x :: after => if s.holds x then k ⟨x :: c.before, after⟩ groups else none
    | [] => none
  | .look l, k => fun c groups => if l.holds c then k c groups else none
  | .seq a b, k => a.run (b.run k)
  | .alt a b, k => (a.run k).orElse (b.run k)
  | .group index r, k => fun c =>
    r.run (fun d groups => k d ((index, c.upTo d) :: groups)) c
  | .iterate r min (some max) greedy, k =>
    rounds r.run min (roundsUpTo r.run greedy (max - min) k)
  | .iterate r 0 none greedy, k => Rest.choose greedy (someRounds r.run greedy k) k
  | .iterate r (min + 1) none greedy, k => rounds r.run min (someRounds r.run greedy k)

structure Match where
  before : List Char
  text : List Char
  after : List Char
  captures : Captures
  deriving DecidableEq, Repr

def Match.group (m : Match) (index : Nat) : List Char :=
  if index = 0 then m.text else (m.captures.lookup index).getD []

def Node.matchAt (r : Node) (c : Cursor) : Option Match :=
  (r.run (fun d groups => some ⟨d, groups⟩) c []).map fun found =>
    ⟨c.before.reverse, c.upTo found.stop, found.stop.after, found.captures⟩

def findFrom (matchAt : Cursor → Option Match) (before : List Char) : List Char → Option Match
  | [] => matchAt ⟨before, []⟩
  | x :: after =>
    match matchAt ⟨before, x :: after⟩ with
    | some m => some m
    | none => findFrom matchAt (x :: before) after

def Node.find? (r : Node) (text : List Char) : Option Match :=
  findFrom r.matchAt [] text

end MetricSeries.Pattern

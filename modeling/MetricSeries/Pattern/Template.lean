import MetricSeries.Pattern.Reader

/-!
Replacement texts.  A dollar sign refers to a group, by number or by name, and two of them stand for
one.  A reference to a group that is not there stands for nothing.  What a pattern is read by, and
what it matches, makes no difference to them.
-/

set_option autoImplicit false

namespace MetricSeries.Pattern

inductive Piece where
  | char (c : Char)
  | reference (name : List Char)
  deriving DecidableEq, Repr

def isReferenceChar (c : Char) : Bool :=
  c.isAlphanum || c = '_'

/-- Writes every backslash with digits behind it as a reference in braces. -/
def braceBackReferences : List Char → List Char
  | [] => []
  | '\\' :: cs =>
    let digits := cs.takeWhile Text.isDecimalDigit
    if digits.isEmpty then '\\' :: braceBackReferences cs
    else ['$', '\x7b'] ++ digits ++ '\x7d' :: braceBackReferences (cs.drop digits.length)
  | c :: cs => c :: braceBackReferences cs
termination_by cs => cs.length
decreasing_by all_goals (simp only [List.length_cons, List.length_drop]; omega)

/-- The pieces of a replacement text.  A name in braces is whatever stands between them; a name
without is as long as it can be; a dollar sign before anything else stands for itself. -/
def pieces : List Char → List Piece
  | [] => []
  | '$' :: '$' :: cs => .char '$' :: pieces cs
  | '$' :: '\x7b' :: cs =>
    let name := cs.takeWhile (· != '\x7d')
    if name.length < cs.length then .reference name :: pieces (cs.drop (name.length + 1))
    else .char '$' :: pieces ('\x7b' :: cs)
  | '$' :: cs =>
    let name := cs.takeWhile isReferenceChar
    if name.isEmpty then .char '$' :: pieces cs
    else .reference name :: pieces (cs.drop name.length)
  | c :: cs => .char c :: pieces cs
termination_by cs => cs.length
decreasing_by all_goals (simp only [List.length_cons, List.length_drop]; omega)

/-- A pattern ready for use, whatever it was read by: the match that it prefers among those that
begin at a place, and the numbers of its groups with names. -/
structure Matcher where
  matchAt : Cursor → Option Match
  named? : String → Option Nat

namespace Matcher

/-- The group that a reference means: by number where it is one, else by name. -/
def index? (p : Matcher) (name : List Char) : Option Nat :=
  (Decimal.count? (String.ofList name)).orElse fun _ => p.named? (String.ofList name)

def expand (p : Matcher) (m : Match) : Piece → List Char
  | .char c => [c]
  | .reference name => ((p.index? name).map m.group).getD []

def replaceFirst (p : Matcher) (template : List Piece) (text : List Char) : List Char :=
  match findFrom p.matchAt [] text with
  | none => text
  | some m => m.before ++ template.flatMap (p.expand m) ++ m.after

end Matcher

def matcher (p : Pattern) : Matcher :=
  ⟨p.node.matchAt, fun name => p.names.lookup name⟩

def compile? (text : String) : Option Matcher :=
  (read text).toOption.map matcher

end MetricSeries.Pattern

import MetricSeries.Pattern.Size
import MetricSeries.Decimal.Read
import MetricSeries.Text.Hex

/-!
The notation of search patterns.  Blanks count unless the flag `x` is set; the flags in force are
those at the place in the pattern, up to the end of the group around it.
-/

set_option autoImplicit false

namespace MetricSeries.Pattern

inductive Fault where
  | endOfPattern
  | unopenedGroup
  | unclosedGroup
  | lookAround
  | badGroupName
  | repeatedGroupName
  | tooManyGroups
  | badFlags
  | unclosedClass
  | badClassRange
  | badClassMember
  | nothingToRepeat
  | badCount
  | badEscape
  | unknownProperty
  /-- The pattern would match part of a character. -/
  | notText
  | tooDeep
  | tooLarge
  deriving DecidableEq, Repr

structure Flags where
  caseless : Bool := false
  multiLine : Bool := false
  dotAll : Bool := false
  lazyFirst : Bool := false
  unicode : Bool := true
  anyLineEnd : Bool := false
  spaced : Bool := false
  deriving DecidableEq, Repr

/-- What is read so far of a pattern: what remains, the flags in force, and the groups seen. -/
structure Reader where
  rest : List Char
  flags : Flags := {}
  groups : Nat := 0
  names : List (String × Nat) := []

abbrev Read (β : Type) := StateT Reader (Except Fault) β

def pastComments (inComment : Bool) : List Char → List Char
  | [] => []
  | c :: cs =>
    if inComment then pastComments (c != '\n') cs
    else if Text.isBlank c then pastComments false cs
    else if c = '#' then pastComments true cs
    else c :: cs

namespace Read

def fail {β : Type} (fault : Fault) : Read β :=
  throw fault

def rest : Read (List Char) := do
  return (← get).rest

def setRest (cs : List Char) : Read Unit :=
  modify fun r => { r with rest := cs }

def skip : Read Unit :=
  modify fun r => if r.flags.spaced then { r with rest := pastComments false r.rest } else r

def significant (cs : List Char) : Read (List Char) := do
  return if (← get).flags.spaced then pastComments false cs else cs

def moveTo (cs : List Char) : Read Unit := do
  setRest (← significant cs)

def wholeChars (s : CharSet) : Read CharSet := do
  if !(← get).flags.unicode && !s.isAscii then fail .notText
  return s

def foldCase (s : CharSet) : Read CharSet := do
  let flags := (← get).flags
  return if !flags.caseless then s else if flags.unicode then .folded s else .asciiFolded s

end Read

open Read

inductive Escape where
  | char (c : Char)
  | set (s : CharSet)
  | look (l : Look)

def isMeta (c : Char) : Bool :=
  c ∈ ['\\', '.', '+', '*', '?', '(', ')', '|', '[', ']', '\x7b', '\x7d', '^', '$', '#', '&', '-',
    '~']

def readHex : Nat → Nat → Read Nat
  | 0, n => return n
  | count + 1, n => do
    match ← rest with
    | [] => fail .endOfPattern
    | c :: cs =>
      match Text.hexValue? c with
      | none => fail .badEscape
      | some d => do
        moveTo cs
        readHex count (16 * n + d)

def readBracedHex : Nat → Option Nat → Read Nat
  | 0, _ => fail .endOfPattern
  | fuel + 1, n => do
    match ← rest with
    | [] => fail .endOfPattern
    | c :: cs =>
      if c = '\x7d' then do
        moveTo cs
        match n with
        | some n => return n
        | none => fail .badEscape
      else
        match Text.hexValue? c with
        | none => fail .badEscape
        | some d => do
          moveTo cs
          readBracedHex fuel (some (16 * n.getD 0 + d))

def charOfNumber (n : Nat) : Read Char :=
  match Text.charOfNumber? n with
  | some c => return c
  | none => fail .badEscape

def readNumber (digits : Nat) : Read Escape := do
  match ← rest with
  | [] => fail .endOfPattern
  | '\x7b' :: cs => do
    moveTo cs
    return .char (← charOfNumber (← readBracedHex (cs.length + 1) none))
  | _ => do
    let c ← charOfNumber (← readHex digits 0)
    if digits = 2 && !(← get).flags.unicode && !Text.isAscii c then fail .notText
    return .char c

def readPropertyName : Nat → List Char → Read (List Char)
  | 0, _ => fail .endOfPattern
  | fuel + 1, name => do
    match ← rest with
    | [] => fail .endOfPattern
    | c :: cs =>
      if c = '\x7d' then do
        setRest cs
        return name.reverse
      else do
        moveTo cs
        readPropertyName fuel (c :: name)

def splitAtFirst (sep : List Char) : List Char → Option (List Char × List Char)
  | [] => none
  | c :: cs =>
    if sep.isPrefixOf (c :: cs) then some ([], (c :: cs).drop sep.length)
    else (splitAtFirst sep cs).map fun (a, b) => (c :: a, b)

def propertySet (name : List Char) : Option CharSet :=
  match splitAtFirst ['!', '='] name with
  | some (p, v) => (CharSet.ofPair? (looseName p) (looseName v)).map .compl
  | none =>
    match splitAtFirst [':'] name with
    | some (p, v) => CharSet.ofPair? (looseName p) (looseName v)
    | none =>
      match splitAtFirst ['='] name with
      | some (p, v) => CharSet.ofPair? (looseName p) (looseName v)
      | none => CharSet.ofName? (looseName name)

def readProperty (negated : Bool) : Read Escape := do
  let name ← match ← rest with
    | [] => fail .endOfPattern
    | '\x7b' :: cs => do
      moveTo cs
      readPropertyName (cs.length + 1) []
    | c :: cs => do
      if c = '\\' then fail .badEscape
      moveTo cs
      pure [c]
  if !(← get).flags.unicode then fail .notText
  match propertySet name with
  | none => fail .unknownProperty
  | some s => do
    let s ← foldCase s
    return .set (if negated then .compl s else s)

def readShort (wide narrow : CharSet) (negated : Bool) : Read Escape := do
  let s := if (← get).flags.unicode then wide else narrow
  return .set (if negated then .compl s else s)

def isBoundaryLetter (c : Char) : Bool :=
  c.isAlpha || c = '-'

def readBoundaryName : Nat → List Char → Read (List Char)
  | 0, _ => fail .endOfPattern
  | fuel + 1, name => do
    match ← rest with
    | [] => fail .badEscape
    | c :: cs =>
      if isBoundaryLetter c then do
        moveTo cs
        readBoundaryName fuel (c :: name)
      else if c = '\x7d' then do
        setRest cs
        return name.reverse
      else fail .badEscape

def readBoundary : Read WordLook := do
  match ← rest with
  | '\x7b' :: cs => do
    match ← significant cs with
    | [] => fail .endOfPattern
    | c :: more =>
      if isBoundaryLetter c then do
        setRest (c :: more)
        let name ← readBoundaryName (more.length + 2) []
        match String.ofList name with
        | "start" => return .start
        | "end" => return .stop
        | "start-half" => return .startHalf
        | "end-half" => return .stopHalf
        | _ => fail .badEscape
      else return .boundary
  | _ => return .boundary

def readEscape : Read Escape := do
  match ← rest with
  | [] => fail .endOfPattern
  | c :: cs => do
    let ascii := !(← get).flags.unicode
    if c ∈ ['x', 'u', 'U', 'p', 'P'] then do
      moveTo cs
      match c with
      | 'x' => readNumber 2
      | 'u' => readNumber 4
      | 'U' => readNumber 8
      | c => readProperty (c == 'P')
    else do
      setRest cs
      if isMeta c then return .char c
      match c with
      | 'd' => readShort (.property .digit) .asciiDigit false
      | 'D' => readShort (.property .digit) .asciiDigit true
      | 's' => readShort (.property .blank) .asciiBlank false
      | 'S' => readShort (.property .blank) .asciiBlank true
      | 'w' => readShort (.property .word) .asciiWord false
      | 'W' => readShort (.property .word) .asciiWord true
      | 'a' => return .char '\x07'
      | 'f' => return .char '\x0c'
      | 't' => return .char '\t'
      | 'n' => return .char '\n'
      | 'r' => return .char '\r'
      | 'v' => return .char '\x0b'
      | 'A' => return .look .textStart
      | 'z' => return .look .textStop
      | 'b' => return .look (.word ascii (← readBoundary))
      | 'B' => return .look (.word ascii .noBoundary)
      | '<' => return .look (.word ascii .start)
      | '>' => return .look (.word ascii .stop)
      | c =>
        if Text.isAscii c && !c.isAlphanum then return .char c
        else fail .badEscape

/-- A member of a class, and how deep classes are nested in it. -/
structure Member where
  set : CharSet
  depth : Nat := 0

/-- Whether the members are those outside of the named set, that set, and what is behind. -/
def readPosix (cs : List Char) : Option (Bool × CharSet × List Char) :=
  match cs with
  | ':' :: cs =>
    let (negated, cs) := match cs with
      | '^' :: cs => (true, cs)
      | cs => (false, cs)
    let (name, cs) := cs.span (· != ':')
    match cs, CharSet.posix? (String.ofList name) with
    | ':' :: ']' :: cs, some s => some (negated, s, cs)
    | _, _ => none
  | _ => none

def readMember : Read Escape := do
  match ← rest with
  | [] => fail .unclosedClass
  | '\\' :: cs => do
    setRest cs
    readEscape
  | c :: cs => do
    setRest cs
    return .char c

def memberSet : Escape → Read CharSet
  | .char c => do
    if !(← get).flags.unicode && !Text.isAscii c then fail .notText
    return .single c
  | .set s => return s
  | .look _ => fail .badClassMember

def readRange : Read CharSet := do
  let first ← readMember
  skip
  match ← rest with
  | [] => fail .unclosedClass
  | '-' :: cs => do
    match ← significant cs with
    | [] => memberSet first
    | c :: more =>
      if c = ']' || c = '-' then memberSet first
      else do
        setRest (c :: more)
        let last ← readMember
        match first, last with
        | .char lo, .char hi => do
          if hi < lo then fail .badClassRange
          let _ ← memberSet (.char hi)
          return .range lo hi
        | _, _ => fail .badClassRange
  | _ => memberSet first

inductive SetOp where
  | inter | diff | symDiff
  deriving DecidableEq

def SetOp.apply : SetOp → CharSet → CharSet → CharSet
  | .inter, a, b => .inter a b
  | .diff, a, b => .diff a b
  | .symDiff, a, b => .symDiff a b

/-- What is read of a class: the members since the last operation, and that operation with all that
stands before it. -/
structure OpenClass where
  members : List Member := []
  pending : Option (SetOp × Member) := none

def joinMembers (members : List Member) : Member :=
  match members with
  | [m] => m
  | members =>
    ⟨.ofList (members.map Member.set), (members.map Member.depth).foldl max 0 + 1⟩

def OpenClass.close (c : OpenClass) : Read Member := do
  let right := joinMembers c.members
  match c.pending with
  | none => return right
  | some (op, left) => do
    return ⟨op.apply (← foldCase left.set) (← foldCase right.set), max left.depth right.depth + 1⟩

/-- Hyphens at the head of a class, then a closing bracket if nothing stands before it, are
members. -/
def readLeading : Nat → List Member → Read (List Member)
  | 0, members => return members
  | fuel + 1, members => do
    match ← rest with
    | [] => fail .unclosedClass
    | '-' :: cs => do
      moveTo cs
      readLeading fuel (⟨.single '-', 0⟩ :: members)
    | ']' :: cs =>
      if members.isEmpty then do
        moveTo cs
        return [⟨.single ']', 0⟩]
      else return members
    | _ => return members

/-- The rest of a class, from behind its opening bracket or from behind a member on. -/
def readClass : Nat → Bool → OpenClass → Read Member
  | 0, _, _ => fail .unclosedClass
  | fuel + 1, negated, c => do
    skip
    let operation (op : SetOp) (cs : List Char) : Read Member := do
      setRest cs
      let left ← c.close
      readClass fuel negated ⟨[], some (op, left)⟩
    match ← rest with
    | [] => fail .unclosedClass
    | ']' :: cs => do
      setRest cs
      let m ← c.close
      let s ← foldCase m.set
      return ⟨if negated then .compl s else s, m.depth + 1⟩
    | '[' :: cs => do
      let m : Member ← match readPosix cs with
        | some (outside, s, cs) => do
          setRest cs
          let s ← foldCase s
          pure ⟨if outside then .compl s else s, 0⟩
        | none => do
          moveTo cs
          let (inner, start) ← openClass
          readClass fuel inner ⟨start, none⟩
      readClass fuel negated { c with members := m :: c.members }
    | '&' :: '&' :: cs => operation .inter cs
    | '-' :: '-' :: cs => operation .diff cs
    | '~' :: '~' :: cs => operation .symDiff cs
    | _ => do
      let s ← readRange
      readClass fuel negated { c with members := ⟨s, 0⟩ :: c.members }
where
  openClass : Read (Bool × List Member) := do
    match ← rest with
    | [] => fail .unclosedClass
    | '^' :: cs => do
      moveTo cs
      return (true, ← readLeading (cs.length + 1) [])
    | cs => return (false, ← readLeading (cs.length + 1) [])

/-- An item of a pattern, whether it can be repeated, and how deep items are nested in it. -/
structure Item where
  node : Node
  repeatable : Bool := true
  depth : Nat := 0

def readCount : Read (Option Nat) := do
  setRest ((← rest).dropWhile Text.isBlank)
  let digits ← collect ((← rest).length) []
  setRest ((← rest).dropWhile Text.isBlank)
  skip
  if digits.isEmpty then return none
  else
    let n := Decimal.natOfDigits digits
    if n < Nat.pow 2 32 then return some n else fail .badCount
where
  collect : Nat → List Char → Read (List Char)
    | 0, ds => return ds.reverse
    | fuel + 1, ds => do
      match ← rest with
      | c :: cs =>
        if c.isDigit then do
          moveTo cs
          collect fuel (c :: ds)
        else return ds.reverse
      | [] => return ds.reverse

def readBounds : Read (Nat × Option Nat) := do
  let least ← readCount
  let closed (bounds : Nat × Option Nat) : Read (Nat × Option Nat) := do
    match ← rest with
    | '\x7d' :: cs => do
      moveTo cs
      return bounds
    | _ => fail .badCount
  match ← rest with
  | ',' :: cs => do
    moveTo cs
    match least, ← rest with
    | none, _ => fail .badCount
    | some least, '\x7d' :: _ => closed (least, none)
    | some least, _ => do
      match ← readCount with
      | none => fail .badCount
      | some most => if least ≤ most then closed (least, some most) else fail .badCount
  | _ =>
    match least with
    | none => fail .badCount
    | some n => closed (n, some n)

def repeatItem (item : Item) (min : Nat) (max : Option Nat) : Read Item := do
  if !item.repeatable then fail .nothingToRepeat
  let lazy ← match ← rest with
    | '?' :: cs => do
      setRest cs
      pure true
    | _ => pure false
  let greedy := lazy == (← get).flags.lazyFirst
  return ⟨.iterate item.node min max greedy, true, item.depth + 1⟩

def setFlag (on : Bool) (c : Char) (f : Flags) : Option Flags :=
  match c with
  | 'i' => some { f with caseless := on }
  | 'm' => some { f with multiLine := on }
  | 's' => some { f with dotAll := on }
  | 'U' => some { f with lazyFirst := on }
  | 'u' => some { f with unicode := on }
  | 'R' => some { f with anyLineEnd := on }
  | 'x' => some { f with spaced := on }
  | _ => none

/-- Flags up to a colon or a closing parenthesis, each once, those behind a hyphen switched off.
Gives the flags, whether there were any, and what closed them. -/
def readFlags : Nat → Bool → List Char → Flags → Read (Flags × Bool × Char)
  | 0, _, _, _ => fail .badFlags
  | fuel + 1, on, seen, flags => do
    match ← rest with
    | [] => fail .endOfPattern
    | c :: cs => do
      setRest cs
      if c = ':' || c = ')' then
        if seen.head? = some '-' then fail .badFlags
        else return (flags, !seen.isEmpty, c)
      else if seen.contains c then fail .badFlags
      else if c = '-' then readFlags fuel false (c :: seen) flags
      else
        match setFlag on c flags with
        | some flags => readFlags fuel on (c :: seen) flags
        | none => fail .badFlags

def isNameChar (first : Bool) (c : Char) : Bool :=
  if first then c = '_' || Text.isAlphabetic c
  else c = '_' || c = '.' || c = '[' || c = ']' || Text.isAlphabetic c || Text.isNumeric c

def readGroupName : Read String := do
  let (name, cs) := (← rest).span (· != '>')
  match name, cs with
  | first :: more, _ :: cs =>
    if isNameChar true first && more.all (isNameChar false) then do
      setRest cs
      return String.ofList name
    else fail .badGroupName
  | _, _ => fail .badGroupName

def maxGroups : Nat := Nat.pow 2 32 - 1

def nextGroup : Read Nat := do
  let index := (← get).groups + 1
  if maxGroups < index then fail .tooManyGroups
  modify fun r => { r with groups := index }
  return index

/-- How a group begins: with an index, with flags of its own, or as flags for what follows. -/
inductive Opening where
  | capture (index : Nat)
  | plain (flags : Flags)
  | flags (flags : Flags)

def readOpening : Read Opening := do
  skip
  let named (cs : List Char) : Read Opening := do
    setRest cs
    let index ← nextGroup
    let name ← readGroupName
    if (← get).names.any fun n => n.1 = name then fail .repeatedGroupName
    modify fun r => { r with names := (name, index) :: r.names }
    return .capture index
  match ← rest with
  | '?' :: '=' :: _ | '?' :: '!' :: _ | '?' :: '<' :: '=' :: _ | '?' :: '<' :: '!' :: _ =>
    fail .lookAround
  | '?' :: 'P' :: '<' :: cs => named cs
  | '?' :: '<' :: cs => named cs
  | '?' :: cs => do
    setRest cs
    let (flags, given, closer) ← readFlags (cs.length + 1) true [] (← get).flags
    if closer = ':' then return .plain flags
    else if given then return .flags flags
    else fail .nothingToRepeat
  | _ => return .capture (← nextGroup)

def dotSet (flags : Flags) : CharSet :=
  if flags.dotAll then .any
  else if flags.anyLineEnd then .compl (.ofChars ['\n', '\r'])
  else .withinLine

def startLook (flags : Flags) : Look :=
  if !flags.multiLine then .textStart
  else if flags.anyLineEnd then .anyLineStart else .lineStart

def stopLook (flags : Flags) : Look :=
  if !flags.multiLine then .textStop
  else if flags.anyLineEnd then .anyLineStop else .lineStop

def literalNode (c : Char) : Read Node := do
  let flags := (← get).flags
  if flags.caseless && !flags.unicode && !Text.isAscii c then fail .notText
  return .set (← foldCase (.single c))

def sequence (items : List Item) : Item :=
  match items with
  | [] => ⟨.empty, true, 0⟩
  | [item] => item
  | items =>
    ⟨items.foldl (fun node item => .seq item.node node) .empty, true,
      (items.map Item.depth).foldl max 0 + 1⟩

def alternatives (last : Item) : List Item → Item
  | [] => last
  | items =>
    ⟨items.foldl (fun node item => .alt item.node node) last.node, true,
      (items.map Item.depth).foldl max last.depth + 1⟩

/-- Reads up to the end or to a closing parenthesis, which is left.  The alternatives and the items
before are given the last one first. -/
def readItems : Nat → List Item → List Item → Read Item
  | 0, _, _ => fail .endOfPattern
  | fuel + 1, done, items => do
    skip
    let again (min : Nat) (max : Option Nat) : Read Item := do
      match items with
      | [] => fail .nothingToRepeat
      | item :: before => readItems fuel done ((← repeatItem item min max) :: before)
    let add (node : Node) (depth : Nat) : Read Item :=
      readItems fuel done (⟨node, true, depth⟩ :: items)
    let flags := (← get).flags
    match ← rest with
    | [] => return alternatives (sequence items) done
    | ')' :: _ => return alternatives (sequence items) done
    | '|' :: cs => do
      setRest cs
      readItems fuel (sequence items :: done) []
    | '(' :: cs => do
      setRest cs
      let inside (flagsInside : Flags) : Read Item := do
        modify fun r => { r with flags := flagsInside }
        let item ← readItems fuel [] []
        modify fun r => { r with flags := flags }
        match ← rest with
        | ')' :: cs => do
          setRest cs
          return item
        | _ => fail .unclosedGroup
      match ← readOpening with
      | .flags flags => do
        modify fun r => { r with flags := flags }
        readItems fuel done (⟨.empty, false, 0⟩ :: items)
      | .plain flags => do
        let item ← inside flags
        add item.node (item.depth + 1)
      | .capture index => do
        let item ← inside flags
        add (.group index item.node) (item.depth + 1)
    | '[' :: cs => do
      moveTo cs
      let (negated, start) ← readClass.openClass
      let m ← readClass (cs.length + 1) negated ⟨start, none⟩
      add (.set (← wholeChars m.set)) m.depth
    | '?' :: cs => do
      setRest cs
      again 0 (some 1)
    | '*' :: cs => do
      setRest cs
      again 0 none
    | '+' :: cs => do
      setRest cs
      again 1 none
    | '\x7b' :: cs => do
      if items.isEmpty then fail .nothingToRepeat
      moveTo cs
      let (min, max) ← readBounds
      again min max
    | '\\' :: cs => do
      setRest cs
      match ← readEscape with
      | .char c => add (← literalNode c) 0
      | .set s => add (.set (← wholeChars s)) 0
      | .look l => add (.look l) 0
    | '.' :: cs => do
      setRest cs
      add (.set (← wholeChars (dotSet flags))) 0
    | '^' :: cs => do
      setRest cs
      add (.look (startLook flags)) 0
    | '$' :: cs => do
      setRest cs
      add (.look (stopLook flags)) 0
    | c :: cs => do
      setRest cs
      add (← literalNode c) 0

end MetricSeries.Pattern

namespace MetricSeries

structure Pattern where
  node : Pattern.Node
  names : List (String × Nat)

end MetricSeries

namespace MetricSeries.Pattern

def maxNesting : Nat := 250

/-- Reads a pattern.  Not known here, and refused, are ages, breaks between graphemes, words and
sentences, and script extensions; how large a pattern becomes is estimated by `Node.size`. -/
def read (text : String) : Except Fault Pattern := do
  let cs := text.toList
  let (item, reader) ← (readItems (2 * cs.length + 2) [] []).run { rest := cs }
  if !reader.rest.isEmpty then throw .unopenedGroup
  if maxNesting < item.depth then throw .tooDeep
  if maxSize < item.node.size then throw .tooLarge
  return ⟨item.node, reader.names⟩

end MetricSeries.Pattern

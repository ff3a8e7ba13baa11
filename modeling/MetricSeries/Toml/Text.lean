import MetricSeries.Text.Hex

set_option autoImplicit false

namespace MetricSeries.Toml

def lineEnd? : List Char → Option (List Char)
  | '\n' :: rest => some rest
  | '\r' :: '\n' :: rest => some rest
  | _ => none

def isSpace (c : Char) : Bool :=
  c = ' ' || c = '\t'

def isShown (c : Char) : Bool :=
  c = '\t' || (32 ≤ c.toNat && c.toNat ≠ 127)

def charOfHex? (digits : List Char) : Option Char :=
  (Text.hexNumber? digits).bind Text.charOfNumber?

def unescape? : Char → Option Char
  | 'b' => some '\x08'
  | 't' => some '\t'
  | 'n' => some '\n'
  | 'f' => some '\x0c'
  | 'r' => some '\r'
  | '"' => some '"'
  | '\\' => some '\\'
  | _ => none

abbrev TextRead := Option (List Char × List Char)

def consText (c : Char) : TextRead → TextRead
  | some (cs, rest) => some (c :: cs, rest)
  | none => none

def readBasic : List Char → TextRead
  | [] => none
  | '"' :: rest => some ([], rest)
  | '\\' :: 'u' :: a :: b :: c :: d :: rest =>
    match charOfHex? [a, b, c, d] with
    | some x => consText x (readBasic rest)
    | none => none
  | '\\' :: 'U' :: a :: b :: c :: d :: e :: f :: g :: h :: rest =>
    match charOfHex? [a, b, c, d, e, f, g, h] with
    | some x => consText x (readBasic rest)
    | none => none
  | '\\' :: c :: rest =>
    match unescape? c with
    | some x => consText x (readBasic rest)
    | none => none
  | c :: rest => if isShown c && c ≠ '\\' then consText c (readBasic rest) else none

def readLiteral : List Char → TextRead
  | [] => none
  | '\'' :: rest => some ([], rest)
  | c :: rest => if isShown c then consText c (readLiteral rest) else none

/-- Quotes at the head of the rest of a text on several lines.  One or two belong to the text, three
close it, and one or two of the text may stand right before those. -/
inductive Quotes where
  | none
  | inside (count : Nat) (rest : List Char)
  | closing (count : Nat) (rest : List Char)
  | tooMany

def Quotes.read (quote : Char) (cs : List Char) : Quotes :=
  let (run, rest) := cs.span (· = quote)
  if run.isEmpty then .none
  else if run.length < 3 then .inside run.length rest
  else if run.length ≤ 5 then .closing (run.length - 3) rest
  else .tooMany

def skipLines : List Char → List Char
  | '\r' :: '\n' :: rest => skipLines rest
  | c :: rest => if isSpace c || c = '\n' then skipLines rest else c :: rest
  | [] => []

def continuation? (cs : List Char) : Option (List Char) :=
  (lineEnd? (cs.dropWhile isSpace)).map skipLines

def readLongBasic : Nat → List Char → TextRead
  | 0, _ => none
  | fuel + 1, cs =>
    match Quotes.read '"' cs with
    | .tooMany => none
    | .closing n rest => some (List.replicate n '"', rest)
    | .inside n rest =>
      (readLongBasic fuel rest).map fun (text, rest) => (List.replicate n '"' ++ text, rest)
    | .none =>
      match cs with
      | [] => none
      | '\\' :: 'u' :: a :: b :: c :: d :: rest =>
        match charOfHex? [a, b, c, d] with
        | some x => consText x (readLongBasic fuel rest)
        | none => none
      | '\\' :: 'U' :: a :: b :: c :: d :: e :: f :: g :: h :: rest =>
        match charOfHex? [a, b, c, d, e, f, g, h] with
        | some x => consText x (readLongBasic fuel rest)
        | none => none
      | '\\' :: rest =>
        match continuation? rest with
        | some rest => readLongBasic fuel rest
        | none =>
          match rest with
          | c :: rest =>
            match unescape? c with
            | some x => consText x (readLongBasic fuel rest)
            | none => none
          | [] => none
      | c :: rest =>
        match lineEnd? (c :: rest) with
        | some rest => consText '\n' (readLongBasic fuel rest)
        | none => if isShown c then consText c (readLongBasic fuel rest) else none

def readLongLiteral : Nat → List Char → TextRead
  | 0, _ => none
  | fuel + 1, cs =>
    match Quotes.read '\'' cs with
    | .tooMany => none
    | .closing n rest => some (List.replicate n '\'', rest)
    | .inside n rest =>
      (readLongLiteral fuel rest).map fun (text, rest) => (List.replicate n '\'' ++ text, rest)
    | .none =>
      match cs with
      | [] => none
      | c :: rest =>
        match lineEnd? (c :: rest) with
        | some rest => consText '\n' (readLongLiteral fuel rest)
        | none => if isShown c then consText c (readLongLiteral fuel rest) else none

def skipLineEnd (cs : List Char) : List Char :=
  (lineEnd? cs).getD cs

def readText? : List Char → TextRead
  | '"' :: '"' :: '"' :: rest => readLongBasic (rest.length + 1) (skipLineEnd rest)
  | '"' :: rest => readBasic rest
  | '\'' :: '\'' :: '\'' :: rest => readLongLiteral (rest.length + 1) (skipLineEnd rest)
  | '\'' :: rest => readLiteral rest
  | _ => none

/-- What a text holds that not every kind of quotes can. -/
structure Needs where
  single : Nat
  double : Nat
  control : Bool
  backslash : Bool
  line : Bool

def longestRun (c : Char) : Nat → Nat → List Char → Nat
  | _, best, [] => best
  | run, best, d :: rest =>
    if d = c then longestRun c (run + 1) (max best (run + 1)) rest else longestRun c 0 best rest

def isControl (c : Char) : Bool :=
  c ≠ '\t' && c ≠ '\n' && (c.toNat < 32 || c.toNat = 127)

def Needs.of (cs : List Char) : Needs where
  single := longestRun '\'' 0 0 cs
  double := longestRun '"' 0 0 cs
  control := cs.any isControl
  backslash := cs.contains '\\'
  line := cs.contains '\n'

inductive Quoting where
  | basic | literal | longBasic | longLiteral
  deriving DecidableEq, Repr

/-- Double quotes where nothing has to be escaped, else single ones, else either kind on several
lines, and only then escapes. -/
def Needs.quoting (n : Needs) : Quoting :=
  if !n.control && !n.backslash && n.double = 0 && !n.line then .basic
  else if !n.control && n.single = 0 && !n.line then .literal
  else if !n.control && !n.backslash && n.double ≤ 2 then .longBasic
  else if !n.control && n.single ≤ 2 then .longLiteral
  else if n.line then .longBasic else .basic

def escape (c : Char) : List Char :=
  match c with
  | '\x08' => ['\\', 'b']
  | '\t' => ['\\', 't']
  | '\x0c' => ['\\', 'f']
  | '\r' => ['\\', 'r']
  | '\\' => ['\\', '\\']
  | c => if isControl c then '\\' :: 'u' :: (Text.hexDigits 4 c.toNat).map Char.toUpper else [c]

/-- Escapes every quote that comes behind `spare` others in a row, and line ends unless they are
kept. -/
def escapeAll (spare : Nat) (keepLines : Bool) : Nat → List Char → List Char
  | _, [] => []
  | run, c :: rest =>
    if c = '"' then
      if run < spare then '"' :: escapeAll spare keepLines (run + 1) rest
      else '\\' :: '"' :: escapeAll spare keepLines 0 rest
    else if c = '\n' then
      (if keepLines then ['\n'] else ['\\', 'n']) ++ escapeAll spare keepLines 0 rest
    else escape c ++ escapeAll spare keepLines 0 rest

/-- A text between the quotes that suit it best.  A text with line ends begins on a line of its
own. -/
def writeText (s : String) : List Char :=
  let cs := s.toList
  let needs := Needs.of cs
  let first := if needs.line then ['\n'] else []
  match needs.quoting with
  | .basic => '"' :: escapeAll 0 false 0 cs ++ ['"']
  | .literal => '\'' :: cs ++ ['\'']
  | .longBasic => ['"', '"', '"'] ++ first ++ escapeAll 2 true 0 cs ++ ['"', '"', '"']
  | .longLiteral => ['\'', '\'', '\''] ++ first ++ cs ++ ['\'', '\'', '\'']

end MetricSeries.Toml

import MetricSeries.Json.Value

/-!
Reading JSON.  The result is a value as far as the text goes, and what follows it; nothing follows a
value that breaks off.
-/

set_option autoImplicit false

namespace MetricSeries.Json

def isSpace (c : Char) : Bool :=
  c = ' ' || c = '\n' || c = '\t' || c = '\r'

def skipSpace (cs : List Char) : List Char :=
  cs.dropWhile isSpace

def unescape? : Char → Option Char
  | '"' => some '"'
  | '\\' => some '\\'
  | '/' => some '/'
  | 'b' => some '\x08'
  | 'f' => some '\x0c'
  | 'n' => some '\n'
  | 'r' => some '\r'
  | 't' => some '\t'
  | _ => none

/-- The content read so far, the last character first, or none when it is faulty; and the first half
of a pair that still waits for its second. -/
structure TextState where
  content : Option (List Char)
  half : Option Nat

inductive TextResult where
  | closed (content : Option String) (rest : List Char)
  | broken (place : Break)

namespace TextState

def settle (st : TextState) : Option (List Char) :=
  if st.half.isSome then none else st.content

def push (st : TextState) (c : Char) : TextState :=
  ⟨st.settle.map (c :: ·), none⟩

def isHigh (n : Nat) : Bool := 0xD800 ≤ n && n < 0xDC00
def isLow (n : Nat) : Bool := 0xDC00 ≤ n && n < 0xE000

def pushNumber (st : TextState) (n : Nat) : TextState :=
  match st.half with
  | some high =>
    if isLow n then
      ⟨st.content.map (Char.ofNat (0x10000 + (high - 0xD800) * 0x400 + (n - 0xDC00)) :: ·), none⟩
    else ⟨none, none⟩
  | none =>
    if isHigh n then ⟨st.content, some n⟩
    else if isLow n then ⟨none, none⟩
    else ⟨st.content.map (Char.ofNat n :: ·), none⟩

def stopAt (st : TextState) (stop : Stop) : TextResult :=
  .broken ⟨if st.content.isNone then .malformed else stop, stop⟩

end TextState

def utf8Length (cs : List Char) : Nat :=
  cs.foldl (fun n c => n + c.utf8Size) 0

def readText (st : TextState) : List Char → TextResult
  | [] => st.stopAt .endOfText
  | '"' :: rest => .closed (st.settle.map fun cs => String.ofList cs.reverse) rest
  | '\\' :: 'u' :: a :: b :: c :: d :: rest =>
    if utf8Length (a :: b :: c :: d :: rest) < 4 then st.stopAt .endOfText
    else match Text.hexNumber? [a, b, c, d] with
      | some n => readText (st.pushNumber n) rest
      | none => st.stopAt .malformed
  | '\\' :: 'u' :: rest =>
    if utf8Length rest < 4 then st.stopAt .endOfText else st.stopAt .malformed
  | '\\' :: c :: rest =>
    match unescape? c with
    | some c => readText (st.push c) rest
    | none => st.stopAt .malformed
  | ['\\'] => st.stopAt .endOfText
  | c :: rest =>
    if c.toNat < 32 then (st.push c).stopAt .malformed else readText (st.push c) rest

inductive NumberResult where
  | token (cs : List Char) (rest : List Char)
  | broken (place : Break)

def missingDigit : List Char → NumberResult
  | [] => .broken ⟨.endOfText, .malformed⟩
  | _ => .broken (.same .malformed)

def readExponent (head : List Char) : List Char → NumberResult
  | c :: cs =>
    if c = 'e' || c = 'E' then
      let (sign, cs) := match cs with
        | '+' :: cs => (['+'], cs)
        | '-' :: cs => (['-'], cs)
        | cs => ([], cs)
      match cs.span Char.isDigit with
      | ([], rest) => missingDigit rest
      | (ds, rest) => .token (head ++ c :: sign ++ ds) rest
    else .token head (c :: cs)
  | [] => .token head []

def readPlaces (head : List Char) : List Char → NumberResult
  | '.' :: cs =>
    match cs.span Char.isDigit with
    | ([], rest) => missingDigit rest
    | (ds, rest) => readExponent (head ++ '.' :: ds) rest
  | cs => readExponent head cs

def readNumber (sign : List Char) : List Char → NumberResult
  | '0' :: cs =>
    match cs with
    | c :: _ => if c.isDigit then .broken (.same .malformed) else readPlaces (sign ++ ['0']) cs
    | [] => .token (sign ++ ['0']) []
  | cs =>
    match cs.span Char.isDigit with
    | ([], rest) => missingDigit rest
    | (ds, rest) => readPlaces (sign ++ ds) rest

def readWord (value : Value) : List Char → List Char → Value × Option (List Char)
  | [], cs => (value, some cs)
  | _ :: _, [] => (.broken (.same .endOfText), none)
  | w :: ws, c :: cs =>
    if w = c then readWord value ws cs else (.broken (.same .malformed), none)

def brokenAt (stop : Stop) : Value × Option (List Char) :=
  (.broken (.same stop), none)

def ofNumber : NumberResult → Value × Option (List Char)
  | .token cs rest => (.number cs, some rest)
  | .broken b => (.broken b, none)

mutual

/-- Reads a value.  The fuel has to be twice the length of the text and two more. -/
def readValue : Nat → List Char → Value × Option (List Char)
  | 0, _ => brokenAt .malformed
  | fuel + 1, cs =>
    match skipSpace cs with
    | [] => brokenAt .endOfText
    | 'n' :: rest => readWord .null ['u', 'l', 'l'] rest
    | 't' :: rest => readWord (.flag true) ['r', 'u', 'e'] rest
    | 'f' :: rest => readWord (.flag false) ['a', 'l', 's', 'e'] rest
    | '"' :: rest =>
      match readText ⟨some [], none⟩ rest with
      | .closed content rest => (.text content, some rest)
      | .broken b => (.broken b, none)
    | '[' :: rest =>
      match skipSpace rest with
      | ']' :: rest => (.array [] none, some rest)
      | [] => (.array [] (some (.same .endOfText)), none)
      | rest =>
        let (items, stop, rest) := readItems fuel rest
        (.array items stop, rest)
    | '\x7b' :: rest =>
      match skipSpace rest with
      | '\x7d' :: rest => (.object [] none, some rest)
      | rest =>
        let (members, stop, rest) := readMembers fuel rest
        (.object members stop, rest)
    | '-' :: rest => ofNumber (readNumber ['-'] rest)
    | c :: rest => if c.isDigit then ofNumber (readNumber [] (c :: rest)) else brokenAt .malformed

def readItems : Nat → List Char → List Value × Option Break × Option (List Char)
  | 0, _ => ([], some (.same .malformed), none)
  | fuel + 1, cs =>
    match readValue fuel cs with
    | (item, none) => ([item], none, none)
    | (item, some rest) =>
      match skipSpace rest with
      | ']' :: rest => ([item], none, some rest)
      | ',' :: rest =>
        let (items, stop, rest) := readItems fuel rest
        (item :: items, stop, rest)
      | [] => ([item], some (.same .endOfText), none)
      | _ => ([item], some (.same .malformed), none)

def readMembers : Nat → List Char →
    List (Option String × Value) × Option Break × Option (List Char)
  | 0, _ => ([], some (.same .malformed), none)
  | fuel + 1, cs =>
    match skipSpace cs with
    | '"' :: rest =>
      match readText ⟨some [], none⟩ rest with
      | .broken b => ([], some b, none)
      | .closed key rest =>
        match skipSpace rest with
        | ':' :: rest =>
          match readValue fuel rest with
          | (value, none) => ([(key, value)], none, none)
          | (value, some rest) =>
            match skipSpace rest with
            | '\x7d' :: rest => ([(key, value)], none, some rest)
            | ',' :: rest =>
              let (members, stop, rest) := readMembers fuel rest
              ((key, value) :: members, stop, rest)
            | [] => ([(key, value)], some (.same .endOfText), none)
            | _ => ([(key, value)], some (.same .malformed), none)
        | [] => ([(key, .broken (.same .endOfText))], none, none)
        | _ => ([(key, .broken (.same .malformed))], none, none)
    | [] => ([], some (.same .endOfText), none)
    | _ => ([], some (.same .malformed), none)

end

def read (cs : List Char) : Value × Option (List Char) :=
  readValue (2 * cs.length + 2) cs

end MetricSeries.Json

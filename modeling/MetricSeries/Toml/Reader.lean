import MetricSeries.Toml.Number

set_option autoImplicit false

namespace MetricSeries.Toml

def skipSpaces (cs : List Char) : List Char :=
  cs.dropWhile isSpace

def skipComment : List Char → List Char
  | '#' :: rest => rest.dropWhile isShown
  | cs => cs

def endLine? (cs : List Char) : Option (List Char) :=
  match skipComment (skipSpaces cs) with
  | [] => some []
  | cs => lineEnd? cs

def skipRemarks : Nat → List Char → List Char
  | 0, cs => cs
  | fuel + 1, cs =>
    let cs := skipComment (skipSpaces cs)
    match lineEnd? cs with
    | some rest => skipRemarks fuel rest
    | none => cs

def isBare (c : Char) : Bool :=
  c.isAlphanum || c = '_' || c = '-'

def readKey? : List Char → Option (String × List Char)
  | '"' :: rest => (readBasic rest).map fun (cs, rest) => (String.ofList cs, rest)
  | '\'' :: rest => (readLiteral rest).map fun (cs, rest) => (String.ofList cs, rest)
  | cs =>
    match cs.span isBare with
    | ([], _) => none
    | (key, rest) => some (String.ofList key, rest)

/-- Keys with points between them, less than `limit + 1` of them, as those that lead on the way and
the last one. -/
def readPath? : Nat → List Char → Option ((List String × String) × List Char)
  | 0, _ => none
  | limit + 1, cs => do
    let (key, rest) ← readKey? (skipSpaces cs)
    match skipSpaces rest with
    | '.' :: rest =>
      let ((path, last), rest) ← readPath? limit rest
      return ((key :: path, last), rest)
    | rest => return (([], key), rest)

def depthLimit : Nat := 80

def readKeys? (cs : List Char) : Option ((List String × String) × List Char) :=
  readPath? (depthLimit - 1) cs

mutual

def readValue? (fuel depth : Nat) (cs : List Char) : ValueRead :=
  match fuel with
  | 0 => none
  | fuel + 1 =>
    match cs with
    | '[' :: rest =>
      if depth ≤ 1 then none
      else (readItems? fuel (depth - 1) rest).map fun (items, rest) => (.array items, rest)
    | '\x7b' :: rest =>
      if depth ≤ 1 then none
      else
        match skipSpaces rest with
        | '\x7d' :: rest => some (.table .inline [], rest)
        | rest => (readMembers? fuel (depth - 1) [] rest).map fun (entries, rest) =>
          (.table .inline entries, rest)
    | 't' :: 'r' :: 'u' :: 'e' :: rest => some (.flag true, rest)
    | 'f' :: 'a' :: 'l' :: 's' :: 'e' :: rest => some (.flag false, rest)
    | c :: _ =>
      if c = '"' || c = '\'' then
        (readText? cs).map fun (text, rest) => (.text (String.ofList text), rest)
      else readNumberOrDate? cs
    | [] => none

/-- Reads the items of an array up to its end.  The last of them may have a comma behind it, and
remarks and line ends may stand anywhere between. -/
def readItems? (fuel depth : Nat) (cs : List Char) : Option (List Value × List Char) :=
  match fuel with
  | 0 => none
  | fuel + 1 =>
    match skipRemarks (cs.length + 1) cs with
    | ']' :: rest => some ([], rest)
    | cs => do
      let (item, rest) ← readValue? fuel depth cs
      match skipRemarks (rest.length + 1) rest with
      | ',' :: rest =>
        let (items, rest) ← readItems? fuel depth rest
        return (item :: items, rest)
      | ']' :: rest => return ([item], rest)
      | _ => none

def readMembers? (fuel depth : Nat) (entries : Entries) (cs : List Char) :
    Option (Entries × List Char) :=
  match fuel with
  | 0 => none
  | fuel + 1 => do
    let ((path, key), rest) ← readKeys? cs
    let (value, rest) ← readValue? fuel depth (skipSpaces (← pass? '=' rest))
    let entries ← addEntry path key value .inline entries
    match skipSpaces rest with
    | ',' :: rest => readMembers? fuel depth entries rest
    | '\x7d' :: rest => return (entries, rest)
    | _ => none

end

def readLines? : Nat → List String → Entries → List Char → Option Entries
  | 0, _, _, _ => none
  | fuel + 1, header, root, cs =>
    match skipSpaces cs with
    | [] => some root
    | '[' :: '[' :: rest => do
      let ((path, key), rest) ← readKeys? rest
      let root ← openListed path key root
      readLines? fuel (path ++ [key]) root (← endLine? (← pass? ']' (← pass? ']' rest)))
    | '[' :: rest => do
      let ((path, key), rest) ← readKeys? rest
      let root ← openTable path key root
      readLines? fuel (path ++ [key]) root (← endLine? (← pass? ']' rest))
    | c :: rest =>
      if c = '#' || c = '\n' || c = '\r' then do
        readLines? fuel header root (← endLine? (c :: rest))
      else do
        let ((path, key), rest) ← readKeys? (c :: rest)
        let rest := skipSpaces (← pass? '=' rest)
        let (value, rest) ← readValue? (2 * rest.length + 2) depthLimit rest
        readLines? fuel header (← addUnder header path key value root) (← endLine? rest)

def read? (s : String) : Option Entries :=
  let cs := match s.toList with
    | '\uFEFF' :: cs => cs
    | cs => cs
  readLines? (cs.length + 1) [] [] cs

end MetricSeries.Toml

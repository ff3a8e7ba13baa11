import MetricSeries.Text.Hex

/-!
JSON values as they are written and as far as they can be read.  A text that breaks off or goes
wrong is read up to that place, and the value says there what was wrong.
-/

set_option autoImplicit false

namespace MetricSeries.Json

inductive Stop where
  | endOfText | malformed
  deriving DecidableEq, Repr

/-- A place where reading stops.  One who only skips the value may see it differently: to skip a
number one needs no digits to be there at the end of the text. -/
structure Break where
  read : Stop
  skipped : Stop
  deriving DecidableEq, Repr

def Break.same (stop : Stop) : Break :=
  ⟨stop, stop⟩

/-- Numbers are kept as they are written.  Texts and keys without content are closed, but their
escapes do not pair up to characters. -/
inductive Value where
  | null
  | flag (b : Bool)
  | number (token : List Char)
  | text (content : Option String)
  | array (items : List Value) (stop : Option Break)
  | object (members : List (Option String × Value)) (stop : Option Break)
  | broken (place : Break)

namespace Value

def ofText (s : String) : Value :=
  .text (some s)

def ofList (items : List Value) : Value :=
  .array items none

def ofFields (fields : List (String × Value)) : Value :=
  .object (fields.map fun (key, value) => (some key, value)) none

end Value

def escape (c : Char) : List Char :=
  match c with
  | '"' => ['\\', '"']
  | '\\' => ['\\', '\\']
  | '\x08' => ['\\', 'b']
  | '\x0c' => ['\\', 'f']
  | '\n' => ['\\', 'n']
  | '\r' => ['\\', 'r']
  | '\t' => ['\\', 't']
  | c =>
    if c.toNat < 32 then '\\' :: 'u' :: Text.hexDigits 4 c.toNat else [c]

def quoted (s : String) : List Char :=
  '"' :: s.toList.flatMap escape ++ ['"']

structure Style where
  before : Nat → List Char
  colon : List Char

def compact : Style where
  before _ := []
  colon := [':']

def indented : Style where
  before depth := '\n' :: List.replicate (2 * depth) ' '
  colon := [':', ' ']

mutual

def Value.write (style : Style) (depth : Nat) : Value → List Char
  | .null => "null".toList
  | .flag b => (if b then "true" else "false").toList
  | .number token => token
  | .text content => quoted (content.getD "")
  | .array [] _ => ['[', ']']
  | .array (item :: items) _ =>
    '[' :: style.before (depth + 1) ++ item.write style (depth + 1)
      ++ writeItems style depth items ++ style.before depth ++ [']']
  | .object [] _ => ['\x7b', '\x7d']
  | .object ((key, value) :: members) _ =>
    '\x7b' :: style.before (depth + 1) ++ quoted (key.getD "") ++ style.colon
      ++ value.write style (depth + 1) ++ writeMembers style depth members
      ++ style.before depth ++ ['\x7d']
  | .broken _ => []

def writeItems (style : Style) (depth : Nat) : List Value → List Char
  | [] => []
  | item :: items =>
    ',' :: style.before (depth + 1) ++ item.write style (depth + 1) ++ writeItems style depth items

def writeMembers (style : Style) (depth : Nat) : List (Option String × Value) → List Char
  | [] => []
  | (key, value) :: members =>
    ',' :: style.before (depth + 1) ++ quoted (key.getD "") ++ style.colon
      ++ value.write style (depth + 1) ++ writeMembers style depth members

end

def Value.render (style : Style) (v : Value) : String :=
  String.ofList (v.write style 0)

end MetricSeries.Json

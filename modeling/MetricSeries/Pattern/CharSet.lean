import MetricSeries.Text.Class
import MetricSeries.Text.Fold
import MetricSeries.Text.Script
import MetricSeries.Text.Property

set_option autoImplicit false

namespace MetricSeries.Pattern

open MetricSeries.Text

inductive Property where
  | word
  | digit
  | blank
  | alphabetic
  | lowercase
  | uppercase
  | category (among : List Category)
  | listed (runs : Runs)

def Property.holds : Property → Char → Bool
  | .word, c => isWord c
  | .digit, c => isDecimalDigit c
  | .blank, c => isBlank c
  | .alphabetic, c => isAlphabetic c
  | .lowercase, c => lowercaseRuns.contains c
  | .uppercase, c => uppercaseRuns.contains c
  | .category among, c => among.contains (Text.category c)
  | .listed runs, c => runs.contains c

inductive CharSet where
  | none
  | any
  | range (lo hi : Char)
  | property (p : Property)
  | union (a b : CharSet)
  | inter (a b : CharSet)
  | diff (a b : CharSet)
  | symDiff (a b : CharSet)
  | compl (a : CharSet)
  /-- The set with everything that differs from a member in case only. -/
  | folded (a : CharSet)
  | asciiFolded (a : CharSet)

namespace CharSet

def holds : CharSet → Char → Bool
  | none, _ => false
  | any, _ => true
  | range lo hi, c => lo ≤ c && c ≤ hi
  | property p, c => p.holds c
  | union a b, c => a.holds c || b.holds c
  | inter a b, c => a.holds c && b.holds c
  | diff a b, c => a.holds c && !b.holds c
  | symDiff a b, c => a.holds c != b.holds c
  | compl a, c => !a.holds c
  | folded a, c => (caseVariants c).any fun d => a.holds d
  | asciiFolded a, c => a.holds c || a.holds c.toLower || a.holds c.toUpper

def single (c : Char) : CharSet :=
  range c c

def ofList (sets : List CharSet) : CharSet :=
  sets.foldl union none

def ofRanges (ranges : List (Char × Char)) : CharSet :=
  ofList (ranges.map fun (lo, hi) => range lo hi)

def ofChars (cs : List Char) : CharSet :=
  ofList (cs.map single)

def withinLine : CharSet :=
  compl (single '\n')

def isAscii (s : CharSet) : Bool :=
  (List.range 128).all fun n => !s.holds (Char.ofNat (128 + n))

def asciiDigit : CharSet := range '0' '9'
def asciiLower : CharSet := range 'a' 'z'
def asciiUpper : CharSet := range 'A' 'Z'
def asciiLetter : CharSet := union asciiUpper asciiLower
def asciiAlnum : CharSet := union asciiDigit asciiLetter
def asciiWord : CharSet := union asciiAlnum (single '_')
def asciiBlank : CharSet := ofChars ['\t', '\n', '\x0b', '\x0c', '\r', ' ']

def posix? : String → Option CharSet
  | "alnum" => some asciiAlnum
  | "alpha" => some asciiLetter
  | "ascii" => some (range '\x00' '\x7f')
  | "blank" => some (ofChars ['\t', ' '])
  | "cntrl" => some (ofRanges [('\x00', '\x1f'), ('\x7f', '\x7f')])
  | "digit" => some asciiDigit
  | "graph" => some (range '!' '~')
  | "lower" => some asciiLower
  | "print" => some (range ' ' '~')
  | "punct" => some (ofRanges [('!', '/'), (':', '@'), ('[', '\x60'), ('\x7b', '~')])
  | "space" => some asciiBlank
  | "upper" => some asciiUpper
  | "word" => some asciiWord
  | "xdigit" => some (ofRanges [('0', '9'), ('A', 'F'), ('a', 'f')])
  | _ => Option.none

end CharSet

def looseName (cs : List Char) : String :=
  let kept := cs.filter fun c => isAscii c && !(isBlank c || c = '_' || c = '-')
  match kept.map Char.toLower with
  | ['i', 's', 'c'] => "isc"
  | 'i' :: 's' :: rest => String.ofList rest
  | name => String.ofList name

def letters : List Category :=
  [.uppercaseLetter, .lowercaseLetter, .titlecaseLetter, .modifierLetter, .otherLetter]
def marks : List Category := [.nonspacingMark, .spacingMark, .enclosingMark]
def numerals : List Category := [.decimalNumber, .letterNumber, .otherNumber]
def punctuation : List Category :=
  [.connectorPunctuation, .dashPunctuation, .openPunctuation, .closePunctuation,
    .initialPunctuation, .finalPunctuation, .otherPunctuation]
def symbols : List Category := [.mathSymbol, .currencySymbol, .modifierSymbol, .otherSymbol]
def separators : List Category := [.spaceSeparator, .lineSeparator, .paragraphSeparator]
def others : List Category := [.control, .format, .privateUse, .unassigned]

def categoryNames : List (List String × List Category) := [
  (["lu", "uppercaseletter"], [.uppercaseLetter]),
  (["ll", "lowercaseletter"], [.lowercaseLetter]),
  (["lt", "titlecaseletter"], [.titlecaseLetter]),
  (["lc", "casedletter"], [.uppercaseLetter, .lowercaseLetter, .titlecaseLetter]),
  (["lm", "modifierletter"], [.modifierLetter]),
  (["lo", "otherletter"], [.otherLetter]),
  (["l", "letter"], letters),
  (["mn", "nonspacingmark"], [.nonspacingMark]),
  (["mc", "spacingmark"], [.spacingMark]),
  (["me", "enclosingmark"], [.enclosingMark]),
  (["m", "mark", "combiningmark"], marks),
  (["nd", "decimalnumber", "digit"], [.decimalNumber]),
  (["nl", "letternumber"], [.letterNumber]),
  (["no", "othernumber"], [.otherNumber]),
  (["n", "number"], numerals),
  (["pc", "connectorpunctuation"], [.connectorPunctuation]),
  (["pd", "dashpunctuation"], [.dashPunctuation]),
  (["ps", "openpunctuation"], [.openPunctuation]),
  (["pe", "closepunctuation"], [.closePunctuation]),
  (["pi", "initialpunctuation"], [.initialPunctuation]),
  (["pf", "finalpunctuation"], [.finalPunctuation]),
  (["po", "otherpunctuation"], [.otherPunctuation]),
  (["p", "punctuation", "punct"], punctuation),
  (["sm", "mathsymbol"], [.mathSymbol]),
  (["sc", "currencysymbol"], [.currencySymbol]),
  (["sk", "modifiersymbol"], [.modifierSymbol]),
  (["so", "othersymbol"], [.otherSymbol]),
  (["s", "symbol"], symbols),
  (["zs", "spaceseparator"], [.spaceSeparator]),
  (["zl", "lineseparator"], [.lineSeparator]),
  (["zp", "paragraphseparator"], [.paragraphSeparator]),
  (["z", "separator"], separators),
  (["cc", "control", "cntrl"], [.control]),
  (["cf", "format"], [.format]),
  (["co", "privateuse"], [.privateUse]),
  (["cn", "unassigned"], [.unassigned]),
  (["c", "other"], others)]

namespace CharSet

def ofCategory? (name : String) : Option CharSet :=
  match name with
  | "any" => some any
  | "assigned" => some (compl (property (.category [.unassigned])))
  | "ascii" => some (range '\x00' '\x7f')
  | _ =>
    (categoryNames.find? fun entry => entry.1.contains name).map fun entry =>
      property (.category entry.2)

def ofScript? (name : String) : Option CharSet :=
  (script? name).map fun runs => property (.listed runs)

def ofProperty? (name : String) : Option CharSet :=
  if name ∈ ["alphabetic", "alpha"] then some (property .alphabetic)
  else if name ∈ ["lowercase", "lower"] then some (property .lowercase)
  else if name ∈ ["uppercase", "upper"] then some (property .uppercase)
  else if name ∈ ["whitespace", "wspace", "space"] then some (property .blank)
  else if name ∈ ["graphemeextend", "grext"] then some (property (.listed extendingRuns))
  else (property? name).map fun runs => property (.listed runs)

def ofName? (name : String) : Option CharSet :=
  (ofProperty? name).orElse fun _ => (ofCategory? name).orElse fun _ => ofScript? name

def ofPair? (name value : String) : Option CharSet :=
  if name ∈ ["generalcategory", "gc"] then ofCategory? value
  else if name ∈ ["script", "sc"] then ofScript? value
  else Option.none

end CharSet

end MetricSeries.Pattern

set_option autoImplicit false

namespace MetricSeries.Toml

/-- How a table came to be, which decides how it may be added to. -/
inductive Origin where
  | inline
  | header
  | implied
  | dotted
  deriving DecidableEq, Repr

/-- Numbers that are not whole and dates carry no content here: no setting is one. -/
inductive Value where
  | text (s : String)
  | integer (n : Int)
  | real
  | flag (b : Bool)
  | date
  | array (items : List Value)
  | table (origin : Origin) (entries : List (String × Value))
  | tables (items : List (List (String × Value)))

abbrev Entries := List (String × Value)

def put (key : String) (value : Value) : Entries → Entries
  | [] => [(key, value)]
  | (k, v) :: rest => if k = key then (k, value) :: rest else (k, v) :: put key value rest

/-- Changes the table that a path of keys leads to from the given one; `change` is told how that
table came to be.  Tables on the way that are not there yet are made.  A path of dotted keys leads
through no table that has a header of its own. -/
def descend (dotted : Bool) (change : Origin → Entries → Option Entries) :
    List String → Origin → Entries → Option Entries
  | [], origin, entries => change origin entries
  | key :: path, _, entries =>
    match entries.lookup key with
    | none => do
      let origin : Origin := if dotted then .dotted else .implied
      let sub ← descend dotted change path origin []
      return put key (.table origin sub) entries
    | some (.table origin sub) =>
      if origin = .inline || (dotted && origin = .header) then none
      else do
        let sub ← descend dotted change path origin sub
        return put key (.table origin sub) entries
    | some (.tables items) =>
      match items.reverse with
      | [] => none
      | last :: before => do
        let last ← descend dotted change path .header last
        return put key (.tables (before.reverse ++ [last])) entries
    | some _ => none

/-- Adds a key and its value to a table; no key may be there twice.  A dotted key adds to tables
that dotted keys have made, and to no others. -/
def addEntry (path : List String) (key : String) (value : Value) (origin : Origin)
    (entries : Entries) : Option Entries :=
  descend true (fun reached sub =>
    if (!path.isEmpty && reached != .dotted) || (sub.lookup key).isSome then none
    else some (put key value sub)) path origin entries

def openTable (path : List String) (key : String) (root : Entries) : Option Entries :=
  descend false (fun _ entries =>
    match entries.lookup key with
    | none => some (put key (.table .header []) entries)
    | some (.table .implied sub) => some (put key (.table .header sub) entries)
    | some _ => none) path .header root

def openListed (path : List String) (key : String) (root : Entries) : Option Entries :=
  descend false (fun _ entries =>
    match entries.lookup key with
    | none => some (put key (.tables [[]]) entries)
    | some (.tables items) => some (put key (.tables (items ++ [[]])) entries)
    | some _ => none) path .header root

def addUnder (header : List String) (path : List String) (key : String) (value : Value)
    (root : Entries) : Option Entries :=
  descend false (fun origin entries => addEntry path key value origin entries) header .header root

end MetricSeries.Toml

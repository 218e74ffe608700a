/-! # TOML values

The values of a TOML document, and the rules by which assignments and headers build up its tables.
No key is assigned twice, a header names a table once, and a dotted key only extends tables that
dotted keys made. -/

namespace ScopeResolution.Toml

/-- What made a table. -/
inductive Origin where
  /-- A table between braces, which is complete. -/
  | braces
  /-- A dotted key. -/
  | dotted
  /-- A header of a table inside it. -/
  | implied
  /-- Its own header. -/
  | header
deriving DecidableEq, Repr, Inhabited

/-- A value of a TOML document. -/
inductive Value where
  /-- A string. -/
  | string (text : String)
  /-- An integer. -/
  | integer (value : Int)
  /-- A floating point number, as it is written. -/
  | float (text : String)
  /-- A truth value. -/
  | boolean (value : Bool)
  /-- A date, a time, or both, as written. -/
  | moment (text : String)
  /-- A list of values between brackets. -/
  | array (items : List Value)
  /-- A table. -/
  | table (origin : Origin) (entries : List (String × Value))
  /-- The tables that repeated headers in double brackets made. -/
  | tables (items : List (List (String × Value)))
deriving Repr, Inhabited

/-- The entries of a table, in the order in which they were made. -/
abbrev Entries := List (String × Value)

namespace Entries

/-- Replaces the value under a key, which joins the end if it is new. -/
def put (key : String) (value : Value) : Entries → Entries
  | [] => [(key, value)]
  | (other, old) :: rest =>
    if other = key then (key, value) :: rest else (other, old) :: put key value rest

/-- Assigns a value to a dotted key; none when that would assign a key twice or extend a table that
no dotted key made. -/
def assign : (path : List String) → Value → Entries → Option Entries
  | [], _, _ => none
  | [key], value, entries =>
    match entries.lookup key with
    | none => some (entries ++ [(key, value)])
    | some _ => none
  | key :: rest, value, entries =>
    match entries.lookup key with
    | none => (assign rest value []).map fun inner => put key (.table .dotted inner) entries
    | some (.table .dotted inner) =>
      (assign rest value inner).map fun inner => put key (.table .dotted inner) entries
    | some _ => none

/-- Changes the last of some entries. -/
def changeLast (change : Entries → Option Entries) : List Entries → Option (List Entries)
  | [] => none
  | [last] => (change last).map ([·])
  | first :: rest => (changeLast change rest).map (first :: ·)

/-- Changes the table under a path, making the tables on the way that do not exist. The last of
several tables under one name counts. -/
def within : (path : List String) → (change : Entries → Option Entries) → Entries → Option Entries
  | [], change, entries => change entries
  | key :: rest, change, entries =>
    match entries.lookup key with
    | none => (within rest change []).map fun inner => put key (.table .implied inner) entries
    | some (.table .braces _) => none
    | some (.table origin inner) =>
      (within rest change inner).map fun inner => put key (.table origin inner) entries
    | some (.tables items) =>
      (changeLast (within rest change) items).map fun items => put key (.tables items) entries
    | some _ => none

/-- Makes the table that a header names. -/
def openTable (key : String) (entries : Entries) : Option Entries :=
  match entries.lookup key with
  | none => some (put key (.table .header []) entries)
  | some (.table .implied inner) => some (put key (.table .header inner) entries)
  | some _ => none

/-- Makes the next table that a header in double brackets names. -/
def openTables (key : String) (entries : Entries) : Option Entries :=
  match entries.lookup key with
  | none => some (put key (.tables [[]]) entries)
  | some (.tables items) => some (put key (.tables (items ++ [[]])) entries)
  | some _ => none

end Entries

end ScopeResolution.Toml

import ScopeResolution.Toml.Scalar

/-! # TOML documents

The reading of values and of whole documents. Arrays and tables between braces may be nested a
limited number of levels deep. -/

namespace ScopeResolution.Toml

/-- Reads the items of an array up to its closing bracket; `item` reads one of them, and `steps` is
the number of items that there may be. -/
def readItems (item : List Char → Option (Value × List Char)) :
    (steps : Nat) → List Char → Option (List Value × List Char)
  | 0, _ => none
  | steps + 1, text =>
    match skipLines text.length text with
    | ']' :: rest => some ([], rest)
    | text => do
      let (value, rest) ← item text
      match skipLines rest.length rest with
      | ']' :: rest => some ([value], rest)
      | ',' :: rest => do
        let (values, rest) ← readItems item steps rest
        some (value :: values, rest)
      | _ => none

/-- Reads the entries of a table between braces up to its closing brace. -/
def readEntries (item : List Char → Option (Value × List Char)) :
    (steps : Nat) → Entries → List Char → Option (Entries × List Char)
  | 0, _, _ => none
  | steps + 1, entries, text => do
    let (path, rest) ← readKey text
    let rest ← after? ['='] rest
    let (value, rest) ← item (skipBlanks rest)
    let entries ← entries.assign path value
    match skipBlanks rest with
    | '\x7d' :: rest => some (entries, rest)
    | ',' :: rest => readEntries item steps entries rest
    | _ => none

/-- Reads a value of any form that is nested less deep than `levels`. -/
def readValue : (levels : Nat) → List Char → Option (Value × List Char)
  | 0, _ => none
  | levels + 1, text =>
    match text with
    | '[' :: rest =>
      if levels = 0 then none
      else do
        let (items, rest) ← readItems (readValue levels) (rest.length + 1) rest
        some (.array items, rest)
    | '\x7b' :: rest =>
      if levels = 0 then none
      else
        match skipBlanks rest with
        | '\x7d' :: rest => some (.table .braces [], rest)
        | rest => do
          let (entries, rest) ← readEntries (readValue levels) (rest.length + 1) [] rest
          some (.table .braces entries, rest)
    | '"' :: _ | '\'' :: _ => (readString text).map fun (text, rest) => (.string text, rest)
    | _ => readPlain text

/-- The state of reading a document: the path of the table that assignments go to, and the entries
made so far. -/
structure Progress where
  /-- The path of the last header. -/
  path : List String := []
  /-- The entries of the whole document. -/
  entries : Entries := []
deriving Repr, Inhabited

/-- Adds a header to a document. -/
def Progress.addHeader (progress : Progress) (path : List String)
    (make : String → Entries → Option Entries) : Option Progress := do
  let key ← path.getLast?
  let entries ← progress.entries.within path.dropLast (make key)
  some { path, entries }

/-- Reads one line of a document that is neither blank nor a comment. -/
def readLine (progress : Progress) (text : List Char) : Option (Progress × List Char) :=
  match text with
  | '[' :: '[' :: rest => do
    let (path, rest) ← readKey rest
    let rest ← after? [']', ']'] rest
    let progress ← progress.addHeader path Entries.openTables
    some (progress, rest)
  | '[' :: rest => do
    let (path, rest) ← readKey rest
    let rest ← after? [']'] rest
    let progress ← progress.addHeader path Entries.openTable
    some (progress, rest)
  | _ => do
    let (path, rest) ← readKey text
    let rest ← after? ['='] rest
    let (value, rest) ← readValue nestingLimit (skipBlanks rest)
    let entries ← progress.entries.within progress.path (Entries.assign path value)
    some ({ progress with entries }, rest)

/-- Reads the lines of a document; `steps` is the number of lines that there may be. -/
def readLines : (steps : Nat) → Progress → List Char → Option Entries
  | 0, _, _ => none
  | steps + 1, progress, text =>
    match skipLines text.length text with
    | [] => some progress.entries
    | text => do
      let (progress, rest) ← readLine progress text
      let rest ← endLine? rest
      readLines steps progress rest

/-- Reads a document; a byte order mark may stand before it. -/
def parse (text : String) : Option Entries :=
  let chars :=
    match text.toList with
    | '\ufeff' :: rest => rest
    | chars => chars
  readLines (chars.length + 1) {} chars

end ScopeResolution.Toml

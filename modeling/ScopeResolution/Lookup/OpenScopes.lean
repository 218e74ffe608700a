import ScopeResolution.SymbolStore.Basic

/-! # Open scopes

The tables that are open at a point of the source text, innermost first. The global table is always
the outermost one and cannot be closed. Closing a scope releases nothing. -/

namespace ScopeResolution

/-- The open tables. -/
structure OpenScopes where
  /-- The global table. -/
  global : TableId
  /-- The other open tables, innermost first. -/
  inner : List TableId := []
deriving DecidableEq, Repr, Inhabited

namespace OpenScopes

/-- All open tables, innermost first. -/
def toList (scopes : OpenScopes) : List TableId := scopes.inner ++ [scopes.global]

/-- The innermost open table. -/
def current (scopes : OpenScopes) : TableId := scopes.inner.headD scopes.global

/-- The number of open tables. -/
def depth (scopes : OpenScopes) : Nat := scopes.inner.length + 1

/-- Whether a table is open. -/
def contains (scopes : OpenScopes) (table : TableId) : Bool := scopes.toList.contains table

/-- The scopes with a further table open, as the innermost one. -/
def push (scopes : OpenScopes) (table : TableId) : OpenScopes :=
  { scopes with inner := table :: scopes.inner }

/-- Closes the innermost table, unless it is the global one. -/
def pop (scopes : OpenScopes) : Except Failure (TableId × OpenScopes) :=
  match scopes.inner with
  | [] => .error .globalClosed
  | table :: inner => .ok (table, { scopes with inner })

/-- Opens tables, the outermost first. -/
def pushAll (scopes : OpenScopes) (tables : List TableId) : OpenScopes := tables.foldl push scopes

/-- Closes a number of tables one after the other; the scopes that are left when one cannot be
closed stay closed. -/
def popMany (scopes : OpenScopes) : (count : Nat) → Except Failure Unit × OpenScopes
  | 0 => (.ok (), scopes)
  | count + 1 =>
    match scopes.pop with
    | .error failure => (.error failure, scopes)
    | .ok (_, scopes) => scopes.popMany count

/-- The innermost table of a list, if only blocks lie inside it and it is that of a function. -/
def functionAmong (store : SymbolStore) : List TableId → Except Failure TableId
  | [] => .error .notInFunction
  | id :: outer => do
    let table ← store.table id
    match table.kind with
    | .blockTable => functionAmong store outer
    | .functionTable => pure id
    | _ => throw .notInFunction

/-- The function table around the innermost open table, or that table itself. -/
def nearestFunction (scopes : OpenScopes) (store : SymbolStore) : Except Failure TableId :=
  functionAmong store scopes.toList

/-- The first table of a list that is global or that of a namespace. -/
def namespaceAmong (store : SymbolStore) : List TableId → Except Failure (Option TableId)
  | [] => .ok none
  | id :: outer => do
    let table ← store.table id
    if table.kind.holdsNamespaces then pure (some id) else namespaceAmong store outer

/-- The innermost open table that is global or that of a namespace. -/
def nearestNamespace (scopes : OpenScopes) (store : SymbolStore) : Except Failure TableId := do
  let found ← namespaceAmong store scopes.toList
  pure (found.getD scopes.global)

end OpenScopes

end ScopeResolution

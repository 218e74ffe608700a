import ScopeResolution.SymbolStore.Basic

/-! # Searching tables

Lookups that go from one table to others: from a class to its bases, and from any table to the
tables whose names its using directives make visible. A lookup may be nested a limited number of
levels deep; each function here takes the levels that are left, together with the limit that a
failure names. -/

namespace ScopeResolution

/-- The direct bases of a class table; none for other tables. -/
def Table.bases (table : Table) : List Base := (table.class?.map (·.bases)).getD []

/-- How deep a lookup may be nested: the limit, and the levels that are left of it. -/
structure Nesting where
  /-- The limit that a failure names. -/
  limit : Nat
  /-- The levels that are left. -/
  levels : Nat
deriving DecidableEq, Repr, Inhabited

/-- The nesting of a lookup that has not gone deeper yet. -/
def Nesting.start (limit : Nat) : Nesting := ⟨limit, limit⟩

/-- The nesting one level deeper; fails below the last level. -/
def Nesting.deeper (nesting : Nesting) : Except Failure Nesting :=
  match nesting.levels with
  | 0 => .error (.recursionLimit nesting.limit)
  | levels + 1 => .ok { nesting with levels }

/-- How many levels a lookup went deeper so far. -/
def Nesting.depth (nesting : Nesting) : Nat := nesting.limit - nesting.levels

/-- Runs a step that may go one level deeper, with as many levels below it as are left; below the
last level, going deeper fails. -/
def Nesting.run {α β : Type} (limit : Nat) (step : (α → Except Failure β) → α → Except Failure β) :
    (levels : Nat) → α → Except Failure β
  | 0 => step fun _ => .error (.recursionLimit limit)
  | levels + 1 => step (run limit step levels)

namespace SymbolStore

/-- The class table of a base; none when the base has no body or its body is not that of a
class. -/
def baseTable? (store : SymbolStore) (base : EntityId) : Except Failure (Option Table) := do
  let entity ← store.entity base
  match entity.body with
  | none => pure none
  | some body => do
    let table ← store.table body
    pure (if table.class?.isSome then some table else none)

/-- The hits in the bases of a class, those of earlier bases first; `deeper` looks into one base. -/
def baseHits (store : SymbolStore) (deeper : Table → Except Failure Hits) (bases : List Base) :
    Except Failure Hits :=
  bases.foldlM (fun hits base => do
    match ← store.baseTable? base.entity with
    | none => pure hits
    | some table => do
      let inherited ← deeper table
      pure (hits.extend inherited.toList)) Hits.empty

/-- The own entries of a table under a name; the hits in its bases if it has none. -/
def memberStep (store : SymbolStore) (name : Name) (deeper : Table → Except Failure Hits)
    (table : Table) : Except Failure Hits :=
  match table.entries name with
  | [] => store.baseHits deeper table.bases
  | own => store.hitsOf own

/-- The members of a table under a name, inherited ones included. An own member hides all inherited
ones. -/
def members (store : SymbolStore) (nesting : Nesting) (name : Name) : Table → Except Failure Hits :=
  Nesting.run nesting.limit (store.memberStep name) nesting.levels

/-- The members, inherited ones included, of the table of a handle. -/
def classLookup (store : SymbolStore) (nesting : Nesting) (id : TableId) (name : Name) :
    Except Failure Hits := do
  let table ← store.table id
  store.members nesting name table

/-- How far a search over peers has come. -/
structure Reached where
  /-- The tables looked into, the last one first. -/
  visited : List TableId := []
  /-- The hits in them, in the order of the visits. -/
  hits : Hits := .empty
deriving DecidableEq, Repr, Inhabited

/-- Looks into a table that was not visited yet, and then into its peers; `deeper` visits one
peer. -/
def visitStep (store : SymbolStore) (own : Table → Except Failure Hits)
    (deeper : TableId → Reached → Except Failure Reached) (id : TableId) (reached : Reached) :
    Except Failure Reached :=
  if id ∈ reached.visited then .ok reached
  else do
    let table ← store.table id
    let found ← own table
    table.peers.foldlM (fun reached peer => deeper peer reached)
      ⟨id :: reached.visited, reached.hits.extend found.toList⟩

/-- Visits a table and all tables reachable over peers, each at most once. -/
def visit (store : SymbolStore) (limit : Nat) (name : Name) :
    (levels : Nat) → TableId → Reached → Except Failure Reached
  | 0 =>
    store.visitStep (store.members ⟨limit, 0⟩ name) fun _ _ => .error (.recursionLimit limit)
  | levels + 1 =>
    store.visitStep (store.members ⟨limit, levels + 1⟩ name) (store.visit limit name levels)

/-- The members under a name of a table and of all tables reachable over peers. -/
def findSymbol (store : SymbolStore) (nesting : Nesting) (id : TableId) (name : Name) :
    Except Failure Hits := do
  let reached ← store.visit nesting.limit name nesting.levels id {}
  pure reached.hits

/-- The first of the bases from which `deeper` finds a path, followed by that path. -/
def firstPath (deeper : EntityId → Except Failure (Option (List Base))) :
    List Base → Except Failure (Option (List Base))
  | [] => .ok none
  | base :: rest => do
    match ← deeper base.entity with
    | some path => pure (some (base :: path))
    | none => firstPath deeper rest

/-- The path of bases from a class to another, through its first base that has one. -/
def pathStep (store : SymbolStore) (target : EntityId)
    (deeper : EntityId → Except Failure (Option (List Base))) (start : EntityId) :
    Except Failure (Option (List Base)) :=
  if start = target then .ok (some [])
  else do
    match ← store.baseTable? start with
    | none => pure none
    | some table => firstPath deeper table.bases

/-- The leftmost path of bases from one class to another; empty when they are the same. -/
def basePath (store : SymbolStore) (nesting : Nesting) (start target : EntityId) :
    Except Failure (Option (List Base)) :=
  Nesting.run nesting.limit (store.pathStep target) nesting.levels start

end SymbolStore

/-- The access to a member that is reached over bases. -/
def Access.through (access : Access) (path : List Base) : Access :=
  path.foldl (fun access base => access.stricter base.access) access

end ScopeResolution

import ScopeResolution.Lookup.OpenScopes
import ScopeResolution.Lookup.Search
import ScopeResolution.Report.Problem
import ScopeResolution.Settings
import ScopeResolution.SymbolStore.Filing
import ScopeResolution.SymbolStore.Release

/-! # Resolvers

A resolver reads one compilation unit: it holds the symbol store, the open scopes and the diagnostic
log, and obeys its settings. This module opens and closes scopes. -/

namespace ScopeResolution

/-- The state of reading one compilation unit. -/
structure Resolver where
  /-- The entities, tables and names. -/
  store : SymbolStore
  /-- The open tables. -/
  scopes : OpenScopes
  /-- The diagnostics so far. -/
  log : DiagnosticLog := {}
  /-- The limits. -/
  settings : Settings := {}
deriving Inhabited

/-- The constructs that open a scope. -/
inductive Construct where
  /-- The body of a namespace. -/
  | namespaceBody (entity : EntityId)
  /-- The body of a class. -/
  | classBody (entity : EntityId)
  /-- A new body of a function. -/
  | functionBody (entity : EntityId)
  /-- A block. -/
  | block (opener : BlockOpener)
deriving DecidableEq, Repr, Inhabited

namespace SymbolStore

/-- The body of the class or namespace that an entity stands for, when it is of a kind. -/
def bodyOfKind (store : SymbolStore) (id : EntityId) (kind : TableKind) :
    Except Failure TableId := do
  let malformed : Except Failure TableId := do
    let name ← store.qualifiedName id
    throw (.malformedEntity name (.opensNo kind))
  match ← store.regionOf id with
  | none => malformed
  | some body => do
    let table ← store.table body
    if table.kind = kind then pure body else malformed

/-- The qualified name of an entity for a message; empty when it cannot be told. -/
def nameForMessage (store : SymbolStore) (id : EntityId) : String :=
  match store.qualifiedName id with
  | .ok name => name
  | .error _ => ""

/-- The body of the class or namespace that an entity stands for; `defect` says what an entity
without one is not fit for. -/
def bodyOrDefect (store : SymbolStore) (defect : Defect) (id : EntityId) :
    Except Failure TableId := do
  match ← store.regionOf id with
  | some body => pure body
  | none => throw (.malformedEntity (store.nameForMessage id) defect)

end SymbolStore

namespace Resolver

/-- The resolver that has read nothing yet. -/
def new (names : NamePool) (settings : Settings) : Resolver :=
  let store := SymbolStore.new names
  { store, scopes := { global := store.global }, log := { budget := settings.budget }, settings }

/-- The name of a text, which joins the names of the store if it is new. -/
def intern (resolver : Resolver) (text : String) : Name × Resolver :=
  let (name, store) := resolver.store.intern text
  (name, { resolver with store })

/-- The nesting that a new lookup starts with. -/
def nesting (resolver : Resolver) : Nesting := .start resolver.settings.maxDepth

/-- Reports what a judgement found and hands its answer on, unless that uses the budget up. -/
def settle {α : Type} (resolver : Resolver) (judged : Except Failure (Judgement α)) :
    Except Failure α × Resolver :=
  let (answer, log) := resolver.log.settle judged
  (answer, { resolver with log })

/-- Makes a table the innermost scope. -/
def push (resolver : Resolver) (table : TableId) : Resolver :=
  { resolver with scopes := resolver.scopes.push table }

/-- The table that a construct opens. -/
def enter (resolver : Resolver) : Construct → Except Failure (TableId × SymbolStore)
  | .namespaceBody id => (resolver.store.bodyOfKind id .namespaceTable).map (·, resolver.store)
  | .classBody id => (resolver.store.bodyOfKind id .classTable).map (·, resolver.store)
  | .functionBody id => resolver.store.openFunction id
  | .block opener => resolver.store.openBlock opener resolver.scopes.current

/-- Opens the scope of a construct. -/
def openScope (resolver : Resolver) (construct : Construct) :
    Except Failure (TableId × Resolver) := do
  let (table, store) ← resolver.enter construct
  pure (table, { resolver with store }.push table)

/-- Releases a closed table when the settings say so and it belongs to a function. -/
def discard (resolver : Resolver) (id : TableId) : Except Failure Resolver :=
  if resolver.settings.discardClosedScopes then do
    let table ← resolver.store.table id
    if table.kind.isLocal then
      let (_, store) ← resolver.store.removeTable id
      pure { resolver with store }
    else pure resolver
  else .ok resolver

/-- Closes the innermost scope. The scope stays closed when its table cannot be released. -/
def closeScope (resolver : Resolver) : Except Failure TableId × Resolver :=
  match resolver.scopes.pop with
  | .error failure => (.error failure, resolver)
  | .ok (table, scopes) =>
    let closed := { resolver with scopes }
    match closed.discard table with
    | .error failure => (.error failure, closed)
    | .ok resolver => (.ok table, resolver)

/-- Closes the innermost scope, which must be that of a table. -/
def closeScopeChecked (resolver : Resolver) (expected : TableId) :
    Except Failure TableId × Resolver :=
  let found := resolver.scopes.current
  if found = expected then resolver.closeScope
  else (.error (.scopeImbalance expected found), resolver)

/-- Opens the bodies of qualifiers, outermost first; the answer is how many that makes. -/
def pushChain (resolver : Resolver) (qualifiers : List EntityId) :
    Except Failure (Nat × Resolver) := do
  let bodies ← qualifiers.mapM (resolver.store.bodyOrDefect .notQualifier)
  pure (bodies.length, { resolver with scopes := resolver.scopes.pushAll bodies })

/-- Closes a number of scopes without releasing anything. -/
def popChain (resolver : Resolver) (count : Nat) : Except Failure Unit × Resolver :=
  let (answer, scopes) := resolver.scopes.popMany count
  (answer, { resolver with scopes })

/-- Ends the reading; every scope but the global one must be closed. -/
def finish (resolver : Resolver) : Except Failure DiagnosticLog :=
  match resolver.scopes.inner.length with
  | 0 => .ok resolver.log
  | count => .error (.unclosedScopes count)

end Resolver

end ScopeResolution

import ScopeResolution.Lookup.QualifiedName
import ScopeResolution.Lookup.Unqualified

/-! # Qualified lookup

The lookup of a chain of names. The first name is looked up like an unqualified one, every further
name in the class or namespace that the names before it stand for. -/

namespace ScopeResolution

/-- What the lookup of a chain found. -/
structure QualifiedLookup where
  /-- What the last name stands for. -/
  hits : Hits := .empty
  /-- The classes and namespaces that the other names stand for, outermost first. -/
  qualifiers : List EntityId := []
  /-- The aliases that were followed on the way. -/
  synonyms : List EntityId := []
deriving DecidableEq, Repr, Inhabited

/-- A class or namespace with the table of its body. -/
structure Place where
  /-- The class or namespace. -/
  entity : EntityId
  /-- Its body. -/
  table : TableId
deriving DecidableEq, Repr, Inhabited

namespace SymbolStore

/-- Looks a name up in a class or namespace. In a class, the name of the class stands for its
constructors. -/
def memberOf (store : SymbolStore) (nesting : Nesting) (place : Place) (name : Name) :
    Except Failure Lookup := do
  let owner ← store.entity place.entity
  let table ← store.table place.table
  if table.kind = .classTable then
    if owner.name = name then
      let hits ← store.constructors place.table
      pure { hits }
    else
      let hits ← store.classLookup nesting place.table name
      store.classify hits
  else
    let hits ← store.findInScope place.table name
    store.classify hits

/-- Looks one name of a chain up: in the place that the names before it stand for, or from the start
of the chain. -/
def segmentLookup (store : SymbolStore) (scopes : OpenScopes) (limit : Nat) (start : Option TableId)
    (place : Option Place) (name : Name) : Except Failure Lookup :=
  match place with
  | none => store.resolve scopes (.start limit) .symbol start name
  | some place => do
    let nesting ← (Nesting.start limit).deeper
    store.memberOf nesting place name

/-- The body of an entity, if there is an entity and it stands for a class or namespace. -/
def placeOf (store : SymbolStore) (entity : Option EntityId) : Except Failure (Option Place) :=
  match entity with
  | none => .ok none
  | some entity => do
    let body ← store.regionOf entity
    pure (body.map (⟨entity, ·⟩))

/-- The place that hits stand for as a qualifier. An ambiguity is reported, and so is that there is
no such place. -/
def enter (store : SymbolStore) (mention : Mention) (hits : Hits) (log : DiagnosticLog) :
    Except Failure (Option Place) × DiagnosticLog :=
  match log.settle (store.scopeOf mention hits) with
  | (.error failure, log) => (.error failure, log)
  | (.ok picked, log) =>
    match store.placeOf picked with
    | .error failure => (.error failure, log)
    | .ok (some place) => (.ok (some place), log)
    | .ok none =>
      match log.report (.notAScope (store.nameText mention.name) mention.location) with
      | (.error failure, log) => (.error failure, log)
      | (.ok (), log) => (.ok none, log)

/-- A lookup with one more qualifier, unless that is the global table. -/
def addQualifier (store : SymbolStore) (found : QualifiedLookup) (place : Place) :
    Except Failure QualifiedLookup := do
  let table ← store.table place.table
  if table.kind = .globalTable then pure found
  else pure { found with qualifiers := found.qualifiers ++ [place.entity] }

/-- Follows the names of a chain from a place. The chain stands for nothing when one of its
qualifiers does not stand for a place. -/
def followChain (store : SymbolStore) (scopes : OpenScopes) (limit : Nat) (start : Option TableId) :
    List Mention → Option Place → QualifiedLookup → DiagnosticLog →
      Except Failure QualifiedLookup × DiagnosticLog
  | [], _, found, log => (.ok found, log)
  | mention :: rest, place, found, log =>
    match store.segmentLookup scopes limit start place mention.name with
    | .error failure => (.error failure, log)
    | .ok segment =>
      let found := { found with synonyms := found.synonyms ++ segment.synonyms }
      if rest.isEmpty then (.ok { found with hits := segment.hits }, log)
      else
        match store.enter mention segment.hits log with
        | (.error failure, log) => (.error failure, log)
        | (.ok none, log) => (.ok {}, log)
        | (.ok (some place), log) =>
          match store.addQualifier found place with
          | .error failure => (.error failure, log)
          | .ok found => store.followChain scopes limit start rest (some place) found log

/-- Looks a chain up: from the global table if it says so, else in the table `start` if there is
one, else in the open tables. -/
def resolveQualified (store : SymbolStore) (scopes : OpenScopes) (limit : Nat)
    (start : Option TableId) (name : QualifiedName) (log : DiagnosticLog) :
    Except Failure QualifiedLookup × DiagnosticLog :=
  let start := if name.isGlobal then some store.global else start
  store.followChain scopes limit start name.segments none {} log

end SymbolStore

end ScopeResolution

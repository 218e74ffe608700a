import ScopeResolution.Lookup.OpenScopes
import ScopeResolution.Lookup.Search

/-! # Unqualified lookup

The lookup of one name in a given table, or in the open tables from the innermost outwards until one
of them has a hit. Hits on aliases are replaced by what the aliases stand for. -/

namespace ScopeResolution

/-- How far a lookup looks from a table. -/
inductive Reach where
  /-- Own entries, inherited members and peers. -/
  | symbol
  /-- Own entries only. -/
  | scope
deriving DecidableEq, Repr, Inhabited

/-- What a lookup found. -/
structure Lookup where
  /-- What the name stands for. -/
  hits : Hits := .empty
  /-- The aliases that were followed, each once. -/
  synonyms : List EntityId := []
deriving DecidableEq, Repr, Inhabited

namespace SymbolStore

/-- The hits from one table. -/
def lookIn (store : SymbolStore) (nesting : Nesting) (reach : Reach) (name : Name) (id : TableId) :
    Except Failure Hits :=
  match reach with
  | .symbol => store.findSymbol nesting id name
  | .scope => store.findInScope id name

/-- Adds a hit to a lookup; a hit on an alias counts as a hit on what the alias stands for. -/
def follow (store : SymbolStore) (found : Lookup) (hit : Hit) : Except Failure Lookup := do
  let entity ← store.entity hit.entity
  match entity.kind.aliasedEntity? with
  | none => pure { found with hits := found.hits.add hit }
  | some target => do
    let role ← store.roleOf target
    pure
      { hits := found.hits.add ⟨target, role⟩
        synonyms :=
          if hit.entity ∈ found.synonyms then found.synonyms
          else found.synonyms ++ [hit.entity] }

/-- Replaces the aliases among hits by what they stand for. -/
def classify (store : SymbolStore) (hits : Hits) : Except Failure Lookup :=
  hits.toList.foldlM store.follow {}

/-- The hits from the first of some tables that has any. -/
def firstHits (store : SymbolStore) (nesting : Nesting) (reach : Reach) (name : Name) :
    List TableId → Except Failure Hits
  | [] => .ok .empty
  | id :: outer => do
    let hits ← store.lookIn nesting reach name id
    if hits.isEmpty then store.firstHits nesting reach name outer else pure hits

/-- Looks a name up in the table `start` if there is one, else in the open tables. -/
def resolve (store : SymbolStore) (scopes : OpenScopes) (nesting : Nesting) (reach : Reach)
    (start : Option TableId) (name : Name) : Except Failure Lookup := do
  let hits ← match start with
    | some id => store.lookIn nesting reach name id
    | none => store.firstHits nesting reach name scopes.toList
  store.classify hits

/-- The hits in the open tables that answer a query for a role. -/
def resolveRole (store : SymbolStore) (scopes : OpenScopes) (nesting : Nesting) (name : Name)
    (query : Role) : Except Failure Hits := do
  let found ← store.resolve scopes nesting .symbol none name
  pure (Hits.ofList (found.hits.answering query))

end SymbolStore

end ScopeResolution

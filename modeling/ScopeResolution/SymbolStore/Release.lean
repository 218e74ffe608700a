import ScopeResolution.SymbolStore.Basic

/-! # Releasing tables

Releasing a table releases every entity that it lists, and the body of each such entity in the same
way. The work is a list of entities still to be released; a released body puts what it lists at the
front. Each step releases one entity, so there are at most as many steps as entities. -/

namespace ScopeResolution.SymbolStore

/-- Releases a table alone. Its owner has no body any more, if the table was its body. -/
def dropTable (store : SymbolStore) (id : TableId) (table : Table) : SymbolStore :=
  let forget (entity : Entity) : Entity :=
    if entity.body = some id then { entity with body := none } else entity
  { store with
    tables := store.tables.release id
    entities := table.owner?.elim store.entities (store.entities.modify · forget) }

/-- Releases an entity and its body; also hands out the entities that the body lists. -/
def dropEntity (store : SymbolStore) (id : EntityId) (entity : Entity) :
    List EntityId × SymbolStore :=
  let store := { store with entities := store.entities.release id }
  match entity.body with
  | none => ([], store)
  | some body =>
    match store.tables.get? body with
    | none => ([], store)
    | some table => (table.owned, store.dropTable body table)

/-- The first entity of a work list that is not stale, with the work after it. -/
def nextLive? (store : SymbolStore) : List EntityId → Option (EntityId × Entity × List EntityId)
  | [] => none
  | id :: rest =>
    match store.entities.get? id with
    | some entity => some (id, entity, rest)
    | none => store.nextLive? rest

/-- Releases the entities of a work list that are not stale, with everything in their bodies; the
answer is how many entities that makes. -/
def releaseAll : (steps : Nat) → (pending : List EntityId) → SymbolStore → Nat × SymbolStore
  | 0, _, store => (0, store)
  | steps + 1, pending, store =>
    match store.nextLive? pending with
    | none => (0, store)
    | some (id, entity, rest) =>
      let (listed, store) := store.dropEntity id entity
      let (count, store) := releaseAll steps (listed ++ rest) store
      (count + 1, store)

/-- Releases a table other than the global one, with every entity that it lists; the answer is how
many entities were released. -/
def removeTable (store : SymbolStore) (id : TableId) : Except Failure (Nat × SymbolStore) := do
  if id = store.global then throw .globalClosed
  else
    let table ← store.table id
    pure (releaseAll store.entities.capacity table.owned (store.dropTable id table))

end ScopeResolution.SymbolStore

import ScopeResolution.SymbolStore.Basic

/-! # Changing the symbol store

How entities are declared, bodies and blocks opened, and bases and peers added. A change whose
failure leaves nothing behind answers with the new store; the others hand back the store that is
left in either case. -/

namespace ScopeResolution

/-- Where an entity was filed. -/
structure Filed where
  /-- The entity. -/
  entity : EntityId
  /-- Its place in its overload set or slot. -/
  index : Nat
deriving DecidableEq, Repr, Inhabited

namespace SymbolStore

/-- Gives an entity a new body of a form. -/
def giveBody (store : SymbolStore) (id : EntityId) (form : TableForm) : TableId × SymbolStore :=
  let (body, tables) := store.tables.alloc { form }
  (body,
    { store with tables, entities := store.entities.modify id ({ · with body := some body }) })

/-- Opens a new body of a function, nested in the table that lists the function. -/
def openFunction (store : SymbolStore) (id : EntityId) : Except Failure (TableId × SymbolStore) := do
  let entity ← store.entity id
  match entity.kind.function? with
  | none =>
    throw (.malformedEntity (store.nameText entity.name) (.noFunctionBody entity.kind.describe))
  | some _ => pure (store.giveBody id (.functionBody id entity.owner {}))

/-- Opens a new block in a function or block. -/
def openBlock (store : SymbolStore) (opener : BlockOpener) (parent : TableId) :
    Except Failure (TableId × SymbolStore) := do
  let outer ← store.table parent
  if outer.kind.isLocal then
    let (block, tables) := store.tables.alloc { form := .block opener parent }
    pure (block, { store with tables })
  else throw .notInFunction

/-- What is wrong with declaring an entity of a kind in tables of a kind. -/
def defect? (store : SymbolStore) (kind : EntityKind) (target : TableKind) :
    Except Failure (Option Defect) :=
  match kind with
  | .function info => .ok (if info.type.isFunction then none else some .noSignature)
  | .namespaceDecl => .ok (if target.holdsNamespaces then none else some .misplacedNamespace)
  | .namespaceAlias aliased =>
    if target.holdsNamespaces then do
      let aliased ← store.entity aliased
      match aliased.kind with
      | .namespaceDecl => pure none
      | _ => pure (some .aliasOfNoNamespace)
    else .ok (some .misplacedNamespace)
  | .alias (.entity aliased) => do
    let aliased ← store.entity aliased
    match aliased.kind with
    | .alias _ => pure (some .aliasOfAlias)
    | .namespaceAlias _ => pure (some .aliasOfAlias)
    | _ => pure none
  | _ => .ok none

/-- Checks that a draft is fit for tables of a kind. -/
def validate (store : SymbolStore) (draft : Draft) (target : TableKind) : Except Failure Unit := do
  match ← store.defect? draft.kind target with
  | some defect => throw (.malformedEntity (store.nameText draft.name) defect)
  | none => pure ()

/-- The qualified name of the entity whose body a table is; empty when there is none. -/
def ownerText (store : SymbolStore) (table : TableId) : String :=
  match store.table table with
  | .error _ => ""
  | .ok table =>
    match table.owner?.map store.qualifiedName with
    | some (.ok text) => text
    | _ => ""

/-- The failure that a refusal of a table leads to. -/
def failureOf (store : SymbolStore) (table : TableId) (name : Name) (refusal : Refusal) : Failure :=
  match refusal with
  | .complete => .sealedClass (store.ownerText table)
  | .slotNotAllowed _ _ => .malformedEntity (store.nameText name) (.refused refusal)
  | .duplicateDestructor => .refused (store.nameText name) refusal

/-- Gives a new class or namespace its body. -/
def openRegion (store : SymbolStore) (id : EntityId) (parent : TableId) (kind : EntityKind) :
    SymbolStore :=
  match kind with
  | .namespaceDecl => (store.giveBody id (.namespaceBody id parent)).2
  | .classDecl _ _ => (store.giveBody id (.classBody id parent {})).2
  | _ => store

/-- Declares an entity in a table, without asking what is declared there already. An entity that
the table refuses is released at once. -/
def addEntity (store : SymbolStore) (target : TableId) (draft : Draft) :
    Except Failure Filed × SymbolStore :=
  match store.table target with
  | .error failure => (.error failure, store)
  | .ok table =>
    match store.validate draft table.kind with
    | .error failure => (.error failure, store)
    | .ok () =>
      let (id, entities) := store.entities.alloc (draft.toEntity target)
      match table.file draft.kind.slot draft.name id with
      | .error refusal =>
        let store := { store with entities := entities.release id }
        (.error (store.failureOf target draft.name refusal), store)
      | .ok (index, table) =>
        let store := { store with entities, tables := store.tables.set target table }
        (.ok ⟨id, index⟩, store.openRegion id target draft.kind)

/-- Lets lookups in a table consult a further table. A refusal is reported under the name of the
directive itself. -/
def addPeer (store : SymbolStore) (target peer : TableId) : Except Failure Unit × SymbolStore :=
  match store.table peer, store.table target with
  | .error failure, _ => (.error failure, store)
  | _, .error failure => (.error failure, store)
  | .ok _, .ok table =>
    match table.addPeer peer with
    | .ok table => (.ok (), { store with tables := store.tables.set target table })
    | .error refusal =>
      let (name, store) := store.intern "using"
      (.error (store.failureOf target name refusal), store)

/-- Adds a direct base to a class table. -/
def addBase (store : SymbolStore) (target : TableId) (base : Base) : Except Failure SymbolStore := do
  let entity ← store.entity base.entity
  let table ← store.table target
  match table.addBase base with
  | .ok table => pure { store with tables := store.tables.set target table }
  | .error refusal => throw (store.failureOf target entity.name refusal)

/-- Marks the class of a table complete. -/
def complete (store : SymbolStore) (target : TableId) : Except Failure SymbolStore := do
  let table ← store.table target
  match table.complete? with
  | some table => pure { store with tables := store.tables.set target table }
  | none => throw (.malformedEntity "" .notSealable)

end SymbolStore

end ScopeResolution

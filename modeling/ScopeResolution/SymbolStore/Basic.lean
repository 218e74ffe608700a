import ScopeResolution.Report.Failure
import ScopeResolution.Lookup.Hits

/-! # The symbol store

The store of one compilation unit: its entities, its tables and its names. Entities and tables refer
to each other by handles, so a reference to something released is found to be stale. -/

namespace ScopeResolution

/-- The entities, tables and names of one compilation unit. -/
structure SymbolStore where
  /-- The entities. -/
  entities : Arena .entity Entity := {}
  /-- The tables. -/
  tables : Arena .table Table
  /-- The global table. -/
  global : TableId
  /-- The names. -/
  names : NamePool := {}
deriving Inhabited

namespace SymbolStore

/-- The store that holds nothing but the global table. -/
def new (names : NamePool) : SymbolStore :=
  let (global, tables) := Arena.empty.alloc { form := .globalRegion : Table }
  { tables, global, names }

/-- The entity of a handle. -/
def entity (store : SymbolStore) (id : EntityId) : Except Failure Entity :=
  match store.entities.get? id with
  | some entity => .ok entity
  | none => .error (.staleHandle .entity)

/-- The table of a handle. -/
def table (store : SymbolStore) (id : TableId) : Except Failure Table :=
  match store.tables.get? id with
  | some table => .ok table
  | none => .error (.staleHandle .table)

/-- The text of a name. -/
def nameText (store : SymbolStore) (name : Name) : String := store.names.text name

/-- The name of a text, which joins the names if it is new. -/
def intern (store : SymbolStore) (text : String) : Name × SymbolStore :=
  let (name, names) := store.names.intern text
  (name, { store with names })

/-- The names of the owners around a region, innermost first. Every step leads to the table around
the last one, so no walk is longer than the number of tables; `steps` allows for that many. -/
def ownerNames (store : SymbolStore) : (steps : Nat) → Option TableId → Except Failure (List Name)
  | _, none => .ok []
  | 0, some _ => .error (.staleHandle .table)
  | steps + 1, some id => do
    let table ← store.table id
    let own ← match table.owner? with
      | some owner => do
        let entity ← store.entity owner
        pure [entity.name]
      | none => pure []
    let outer ← store.ownerNames steps table.parent?
    pure (own ++ outer)

/-- The name of an entity after the names of the regions around it, joined by double colons. -/
def qualifiedName (store : SymbolStore) (id : EntityId) : Except Failure String := do
  let entity ← store.entity id
  let outer ← store.ownerNames store.tables.capacity (some entity.owner)
  pure ("::".intercalate ((entity.name :: outer).reverse.map store.nameText))

/-- The role in which an entity is seen. -/
def roleOf (store : SymbolStore) (id : EntityId) : Except Failure Role := do
  let entity ← store.entity id
  let owner ← store.table entity.owner
  pure (entity.kind.role (owner.kind == .classTable))

/-- The role in which a draft would be seen in a table. -/
def roleForDraft (store : SymbolStore) (draft : Draft) (target : TableId) : Except Failure Role := do
  let target ← store.table target
  pure (draft.kind.role (target.kind == .classTable))

/-- The entities with their roles. -/
def hitsOf (store : SymbolStore) (entities : List EntityId) : Except Failure Hits :=
  entities.foldlM (fun hits entity => do
    let role ← store.roleOf entity
    pure (hits.add ⟨entity, role⟩)) Hits.empty

/-- The own entries of a table under a name. -/
def findInScope (store : SymbolStore) (table : TableId) (name : Name) : Except Failure Hits := do
  let table ← store.table table
  store.hitsOf (table.entries name)

/-- The constructors of a class table, as hits; none for other tables. -/
def constructors (store : SymbolStore) (table : TableId) : Except Failure Hits := do
  let table ← store.table table
  store.hitsOf table.constructors

/-- The label of a function table under a name; none for other tables. -/
def findLabel (store : SymbolStore) (table : TableId) (name : Name) :
    Except Failure (Option EntityId) := do
  let table ← store.table table
  pure (table.label? name)

/-- The entity whose body an entity stands for: a namespace alias, a using-declaration or a typedef
stands for its target, every other entity for itself. A typedef of an unnamed type stands for
nothing. -/
def regionEntity? (id : EntityId) (entity : Entity) : Option EntityId :=
  match entity.kind with
  | .namespaceAlias target => some target
  | .alias (.entity target) => some target
  | .alias (.type type) => type.namedEntity?
  | _ => some id

/-- The body of the class or namespace that an entity stands for. -/
def regionOf (store : SymbolStore) (id : EntityId) : Except Failure (Option TableId) := do
  let entity ← store.entity id
  match regionEntity? id entity with
  | none => pure none
  | some target => do
    let target ← store.entity target
    pure (if target.kind.opensRegion then target.body else none)

end SymbolStore

end ScopeResolution

import ScopeResolution.Proofs.SymbolStore.Frame

/-! # The links of the store

Entities and tables refer to each other both ways: a table lists entities that name it as their
owner, and the body of an entity names the entity as its owner. The links are sound (`Linked`) in
the store that holds nothing but the global table, and every edit keeps them sound
(`Linked.edit`). Questions to a store with sound links meet no stale handle. -/

namespace ScopeResolution.SymbolStore

/-- The links between the entities and the tables of a store are sound. -/
structure Linked (store : SymbolStore) : Prop where
  /-- What a table lists belongs to that table. -/
  listed : ∀ id table, store.tables.get? id = some table → ∀ member ∈ table.listed,
    ∃ entity, store.entities.get? member = some entity ∧ entity.owner = id
  /-- The body of an entity names the entity as its owner; that of a class or namespace is not the
  table of a function, and that of a function is. -/
  body : ∀ id entity region, store.entities.get? id = some entity → entity.body = some region →
    ∃ table, store.tables.get? region = some table ∧ table.owner? = some id ∧
      table.kind.isLocal = !entity.kind.opensRegion
  /-- A table of no function is the body of its owner, unless it is the global table. -/
  region : ∀ id table, store.tables.get? id = some table → table.kind.isLocal = false →
    id ≠ store.global → ∃ owner entity, table.owner? = some owner ∧
      store.entities.get? owner = some entity ∧ entity.body = some id
  /-- There is a global table, and it is nested in nothing. -/
  global : ∃ table, store.tables.get? store.global = some table ∧ table.kind = .globalTable

/-- The body of no entity is the global table. -/
theorem owner?_of_global {table : Table} (isGlobal : table.kind = .globalTable) :
    table.owner? = none := by
  unfold Table.kind at isGlobal
  unfold Table.owner?
  cases form : table.form <;> rw [form] at isGlobal <;> cases isGlobal

/-- The global table is nested in nothing. -/
theorem parent?_of_global {table : Table} (isGlobal : table.kind = .globalTable) :
    table.parent? = none := by
  unfold Table.kind at isGlobal
  unfold Table.parent?
  cases form : table.form <;> rw [form] at isGlobal <;> cases isGlobal

/-- The store that holds nothing but the global table has no other table. -/
theorem only_global {names : NamePool} {id : TableId} {table : Table}
    (known : (SymbolStore.new names).tables.get? id = some table) :
    id = (SymbolStore.new names).global ∧ table = { form := .globalRegion } := by
  have tables : (SymbolStore.new names).tables.get? =
      Function.update (Arena.empty : Arena .table Table).get? (SymbolStore.new names).global
        (some { form := .globalRegion }) :=
    Arena.get?_alloc Arena.wellFormed_empty _
  rw [tables, Function.update_apply, Arena.get?_empty] at known
  split at known
  · rename_i same
    cases known
    exact ⟨same, rfl⟩
  · cases known

/-- The links of the store that holds nothing but the global table are sound. -/
theorem linked_new (names : NamePool) : (SymbolStore.new names).Linked := by
  constructor
  · intro id table known member listed
    rw [(only_global known).2] at listed
    cases listed
  · intro id entity region known
    cases (Arena.get?_empty id).symm.trans known
  · intro id table known _ notGlobal
    exact absurd (only_global known).1 notGlobal
  · refine ⟨{ form := .globalRegion }, ?_, rfl⟩
    exact (congrFun (Arena.get?_alloc Arena.wellFormed_empty _) _).trans (Function.update_self _ _ _)

namespace Linked

variable {before after : SymbolStore}

/-- The owner of an entity that a table lists is that table. -/
theorem owner_eq {store : SymbolStore} (linked : store.Linked) {id : TableId} {table : Table}
    {member : EntityId} {entity : Entity} (known : store.tables.get? id = some table)
    (listed : member ∈ table.listed) (found : store.entities.get? member = some entity) :
    entity.owner = id := by
  obtain ⟨same, known', owner⟩ := linked.listed id table known member listed
  rw [found, Option.some.injEq] at known'
  rw [known', owner]

/-- An entity is listed in one table at most. -/
theorem eq_of_listed {store : SymbolStore} (linked : store.Linked) {first second : TableId}
    {table table' : Table} {member : EntityId} (known : store.tables.get? first = some table)
    (known' : store.tables.get? second = some table') (listed : member ∈ table.listed)
    (listed' : member ∈ table'.listed) : first = second := by
  obtain ⟨entity, found, owner⟩ := linked.listed first table known member listed
  rw [← owner]
  exact linked.owner_eq known' listed' found

/-- A table is the body of one entity at most. -/
theorem eq_of_body {store : SymbolStore} (linked : store.Linked) {first second : EntityId}
    {entity entity' : Entity} {region : TableId} (known : store.entities.get? first = some entity)
    (known' : store.entities.get? second = some entity') (body : entity.body = some region)
    (body' : entity'.body = some region) : first = second := by
  obtain ⟨table, found, owner, -⟩ := linked.body first entity region known body
  obtain ⟨table', found', owner', -⟩ := linked.body second entity' region known' body'
  rw [found, Option.some.injEq] at found'
  rw [found', owner', Option.some.injEq] at owner
  exact owner.symm

/-- A table of no function is the body of a class or namespace, unless it is the global table. -/
theorem region_opens {store : SymbolStore} (linked : store.Linked) {id : TableId} {table : Table}
    (known : store.tables.get? id = some table) (notLocal : table.kind.isLocal = false)
    (notGlobal : id ≠ store.global) :
    ∃ owner entity, table.owner? = some owner ∧ store.entities.get? owner = some entity ∧
      entity.body = some id ∧ entity.kind.opensRegion = true := by
  obtain ⟨owner, entity, owned, found, body⟩ := linked.region id table known notLocal notGlobal
  obtain ⟨table', known', -, isLocal⟩ := linked.body owner entity id found body
  rw [known, Option.some.injEq] at known'
  refine ⟨owner, entity, owned, found, body, ?_⟩
  rw [← known', notLocal] at isLocal
  simpa using isLocal

/-- Every edit keeps the links sound. The last body of a function, which no entity refers to any
more, is a function table, so it needs no owner. -/
theorem edit {change : Change} (linked : before.Linked) (edit : Edit before change after) :
    after.Linked := by
  constructor
  · intro id table found member listed
    rcases edit.listed_origin found listed with ⟨old, known, oldListed⟩ | ⟨-, filed⟩
    · obtain ⟨entity, memberKnown, owner⟩ := linked.listed id old known member oldListed
      obtain ⟨later, laterFound, altered⟩ := edit.entity_later memberKnown
      exact ⟨later, laterFound, by rw [altered.owner_eq, owner]⟩
    · exact filed
  · intro id entity region found body
    rcases edit.body_origin found body with ⟨old, known, kind, oldBody⟩ | ⟨-, opened⟩
    · obtain ⟨table, regionKnown, owner, isLocal⟩ := linked.body id old region known oldBody
      obtain ⟨later, laterFound, place⟩ := edit.table_kept regionKnown
      exact ⟨later, laterFound, by rw [place.owner?_eq, owner], by
        rw [place.kind_eq, isLocal, kind]⟩
    · exact opened
  · intro id table found notLocal notGlobal
    rw [edit.global_eq] at notGlobal
    cases known : before.tables.get? id with
    | some old =>
        obtain ⟨later, laterFound, place⟩ := edit.table_kept known
        rw [found, Option.some.injEq] at laterFound
        subst laterFound
        rw [place.kind_eq] at notLocal
        obtain ⟨owner, entity, owned, entityKnown, body, opens⟩ :=
          linked.region_opens known notLocal notGlobal
        -- The owner is a class or namespace, and those never change their body.
        obtain ⟨later, laterFound, altered⟩ := edit.entity_later entityKnown
        exact ⟨owner, later, by rw [place.owner?_eq, owned], laterFound,
          altered.body_eq opens body⟩
    | none =>
        rcases edit.table_origin known found with
          ⟨holder, entity, -, -, opened, bodied⟩ | ⟨parent, opener, -, rfl⟩
        · exact ⟨holder, _, opened.owner?_eq, bodied, rfl⟩
        · cases notLocal
  · obtain ⟨root, rootKnown, isGlobal⟩ := linked.global
    obtain ⟨later, laterFound, place⟩ := edit.table_kept rootKnown
    exact ⟨later, by rw [edit.global_eq, laterFound], by rw [place.kind_eq, isGlobal]⟩

/-! ## Questions to a store with sound links -/

variable {store : SymbolStore}

/-- A table that lists nothing but what belongs to it has an answer to every question about what it
lists. -/
theorem hitsOf_of_listed (linked : store.Linked) {id : TableId} {table : Table}
    (known : store.tables.get? id = some table) {members : List EntityId}
    (listed : members ⊆ table.listed) :
    ∃ role : EntityId → Role,
      (∀ member ∈ members, store.roleOf member = .ok (role member)) ∧
        store.hitsOf members = .ok (.ofList (members.map fun member => ⟨member, role member⟩)) := by
  refine exists_hitsOf fun member among => ?_
  obtain ⟨entity, found, owner⟩ := linked.listed id table known member (listed among)
  exact ⟨_, roleOf_eq_ok found (by rw [owner, known])⟩

/-- The own entries of a table under a name are always found. -/
theorem findInScope_eq_ok (linked : store.Linked) {id : TableId} {table : Table}
    (known : store.tables.get? id = some table) (name : Name) :
    ∃ role : EntityId → Role,
      (∀ member ∈ table.entries name, store.roleOf member = .ok (role member)) ∧
        store.findInScope id name =
          .ok (.ofList ((table.entries name).map fun member => ⟨member, role member⟩)) := by
  obtain ⟨role, roles, hits⟩ := linked.hitsOf_of_listed known (table.entries_subset_listed name)
  refine ⟨role, roles, ?_⟩
  rw [findInScope_eq_hitsOf known, hits]

/-- The constructors of a table are always found. -/
theorem constructors_eq_ok (linked : store.Linked) {id : TableId} {table : Table}
    (known : store.tables.get? id = some table) :
    ∃ role : EntityId → Role,
      (∀ member ∈ table.constructors, store.roleOf member = .ok (role member)) ∧
        store.constructors id =
          .ok (.ofList (table.constructors.map fun member => ⟨member, role member⟩)) := by
  obtain ⟨role, roles, hits⟩ := linked.hitsOf_of_listed known table.constructors_subset_listed
  refine ⟨role, roles, ?_⟩
  rw [constructors, table_eq_ok_iff.2 known]
  exact hits

end Linked

end ScopeResolution.SymbolStore

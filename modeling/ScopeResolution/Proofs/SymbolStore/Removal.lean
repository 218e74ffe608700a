import ScopeResolution.Proofs.SymbolStore.Links

/-! # What releasing a table releases

Releasing a table releases exactly the tables within it, which are the bodies of what it lists, the
bodies of what those list and so on, and exactly what these tables list. Everything else stays, but
that the owner of the released table has no body any more (`removeTable_released`). The links stay
sound, so what is left refers to nothing that is gone (`Linked.released`). -/

namespace ScopeResolution

/-- An entity that has no body if its body was a table. -/
def Entity.forget (entity : Entity) (id : TableId) : Entity :=
  if entity.body = some id then { entity with body := none } else entity

/-- Forgetting a body leaves the owner alone. -/
@[simp] theorem Entity.forget_owner (entity : Entity) (id : TableId) :
    (entity.forget id).owner = entity.owner := by
  unfold Entity.forget
  split <;> rfl

/-- Forgetting a body leaves the kind alone. -/
@[simp] theorem Entity.forget_kind (entity : Entity) (id : TableId) :
    (entity.forget id).kind = entity.kind := by
  unfold Entity.forget
  split <;> rfl

/-- Forgetting a body leaves the name alone. -/
@[simp] theorem Entity.forget_name (entity : Entity) (id : TableId) :
    (entity.forget id).name = entity.name := by
  unfold Entity.forget
  split <;> rfl

/-- A draft describes an entity without its body as it did before. -/
theorem Draft.Describes.forget {draft : Draft} {owner : TableId} {entity : Entity}
    (describes : draft.Describes owner entity) (id : TableId) :
    draft.Describes owner (entity.forget id) := by
  obtain ⟨name, kind, access, location, owner⟩ := describes
  unfold Entity.forget
  split
  · exact ⟨name, kind, access, location, owner⟩
  · exact ⟨name, kind, access, location, owner⟩

/-- The bodies that are not forgotten are the other ones. -/
@[simp] theorem Entity.forget_body_eq_some_iff {entity : Entity} {id inner : TableId} :
    (entity.forget id).body = some inner ↔ entity.body = some inner ∧ inner ≠ id := by
  unfold Entity.forget
  split
  · rename_i same
    simp [same, eq_comm]
  · rename_i other
    constructor
    · intro body
      refine ⟨body, ?_⟩
      rintro rfl
      exact other body
    · exact And.left

/-- An entity whose body is another table stays as it is. -/
theorem Entity.forget_of_ne {entity : Entity} {id : TableId} (other : entity.body ≠ some id) :
    entity.forget id = entity := if_neg other

namespace SymbolStore

/-- A table holds another one when it lists an entity whose body that is. -/
def Holds (store : SymbolStore) (outer inner : TableId) : Prop :=
  ∃ table member entity, store.tables.get? outer = some table ∧ member ∈ table.owned ∧
    store.entities.get? member = some entity ∧ entity.body = some inner

/-- A table is within another one when it is that table, or held by one that is within it. -/
def Within (store : SymbolStore) : TableId → TableId → Prop := Relation.ReflTransGen store.Holds

/-- A table within another one lists an entity. -/
def OwnedWithin (store : SymbolStore) (id : TableId) (member : EntityId) : Prop :=
  ∃ inner table, store.Within id inner ∧ store.tables.get? inner = some table ∧
    member ∈ table.owned

/-- The body of an entity that a table within another one lists is within that one too. -/
theorem OwnedWithin.body {store : SymbolStore} {id inner : TableId} {member : EntityId}
    {entity : Entity} (owned : store.OwnedWithin id member)
    (known : store.entities.get? member = some entity) (body : entity.body = some inner) :
    store.Within id inner := by
  obtain ⟨outer, table, within, found, listed⟩ := owned
  exact within.tail ⟨table, member, entity, found, listed, known, body⟩

/-- After an edit, a table holds what it held before, or the table that the edit opens; that one
holds nothing. -/
theorem Edit.holds {before after : SymbolStore} {change : Change} (edit : Edit before change after)
    {outer inner : TableId} (held : after.Holds outer inner) :
    (∃ table, before.tables.get? outer = some table) ∧
      (before.Holds outer inner ∨ before.tables.get? inner = none) := by
  obtain ⟨table, member, entity, found, owned, known, body⟩ := held
  obtain ⟨old, oldFound, origin⟩ := edit.owned_origin found owned
  refine ⟨⟨old, oldFound⟩, ?_⟩
  rcases edit.body_origin known body with ⟨oldEntity, oldKnown, -, oldBody⟩ | ⟨fresh, -⟩
  · rcases origin with oldOwned | stale
    · exact Or.inl ⟨old, member, oldEntity, oldFound, oldOwned, oldKnown, oldBody⟩
    · rw [oldKnown] at stale
      cases stale
  · exact Or.inr fresh

/-- Of the tables that were there, none gets within another one by an edit. -/
theorem Edit.within {before after : SymbolStore} {change : Change} (edit : Edit before change after)
    {outer inner : TableId} {table : Table} (known : before.tables.get? inner = some table)
    (isWithin : after.Within outer inner) : before.Within outer inner := by
  induction isWithin generalizing table with
  | refl => exact Relation.ReflTransGen.refl
  | tail _ held ih =>
      obtain ⟨⟨outer', found⟩, old | fresh⟩ := edit.holds held
      · exact (ih found).tail old
      · rw [known] at fresh
        cases fresh

/-- A table that an edit opens has nothing within it but itself. -/
theorem Edit.not_within_of_fresh {before after : SymbolStore} {change : Change}
    (edit : Edit before change after) {outer inner : TableId} {table : Table}
    (known : before.tables.get? inner = some table) (fresh : before.tables.get? outer = none) :
    ¬ after.Within outer inner := by
  intro isWithin
  rcases Relation.ReflTransGen.cases_head (edit.within known isWithin) with same | ⟨next, held, -⟩
  · rw [same, known] at fresh
    cases fresh
  · obtain ⟨table', member, entity, found, -⟩ := held
    rw [fresh] at found
    cases found

/-- What releasing a table makes of a store. -/
structure Released (before : SymbolStore) (id : TableId) (after : SymbolStore) : Prop where
  /-- The global table is another one. -/
  ne_global : id ≠ before.global
  /-- The global table stays. -/
  global_eq : after.global = before.global
  /-- The tables within the released one are gone. -/
  table_gone : ∀ inner, before.Within id inner → after.tables.get? inner = none
  /-- The other tables stay. -/
  table_kept : ∀ other, ¬ before.Within id other →
    after.tables.get? other = before.tables.get? other
  /-- What the tables within the released one list is gone. -/
  entity_gone : ∀ member, before.OwnedWithin id member → after.entities.get? member = none
  /-- The other entities stay, but for a body that is gone. -/
  entity_kept : ∀ member, ¬ before.OwnedWithin id member →
    after.entities.get? member = (before.entities.get? member).map (·.forget id)

namespace Released

variable {before after : SymbolStore} {id : TableId}

/-- A table that is left was there before, and not within the released one. -/
theorem table_left (released : Released before id after) {other : TableId} {table : Table}
    (left : after.tables.get? other = some table) :
    before.tables.get? other = some table ∧ ¬ before.Within id other := by
  by_cases within : before.Within id other
  · rw [released.table_gone other within] at left
    cases left
  · rw [released.table_kept other within] at left
    exact ⟨left, within⟩

/-- An entity that is left was there before, and no table within the released one listed it. -/
theorem entity_left (released : Released before id after) {member : EntityId} {entity : Entity}
    (left : after.entities.get? member = some entity) :
    ∃ old, before.entities.get? member = some old ∧ entity = old.forget id ∧
      ¬ before.OwnedWithin id member := by
  by_cases owned : before.OwnedWithin id member
  · rw [released.entity_gone member owned] at left
    cases left
  · rw [released.entity_kept member owned, Option.map_eq_some_iff] at left
    obtain ⟨old, known, rfl⟩ := left
    exact ⟨old, known, rfl, owned⟩

/-- The tables that are left hold no more than they did. -/
theorem holds (released : Released before id after) {outer inner : TableId}
    (held : after.Holds outer inner) : before.Holds outer inner := by
  obtain ⟨table, member, entity, found, listed, known, body⟩ := held
  obtain ⟨old, oldKnown, rfl, -⟩ := released.entity_left known
  rw [Entity.forget_body_eq_some_iff] at body
  exact ⟨table, member, old, (released.table_left found).1, listed, oldKnown, body.1⟩

/-- A table that is within another one after the release was so before. -/
theorem within (released : Released before id after) {outer inner : TableId}
    (isWithin : after.Within outer inner) : before.Within outer inner := by
  induction isWithin with
  | refl => exact Relation.ReflTransGen.refl
  | tail _ held ih => exact ih.tail (released.holds held)

/-- An entity stays, but for a body that is gone, if its own table is not within the released one. -/
theorem entity_stays (released : Released before id after) (linked : before.Linked)
    {member : EntityId} {entity : Entity} (known : before.entities.get? member = some entity)
    (outside : ¬ before.Within id entity.owner) :
    after.entities.get? member = some (entity.forget id) := by
  have notOwned : ¬ before.OwnedWithin id member := by
    rintro ⟨inner, holder, within, holderKnown, owned⟩
    -- The table that lists the entity is its own one.
    have isInner := linked.owner_eq holderKnown (holder.owned_subset_listed owned) known
    exact outside (isInner ▸ within)
  rw [released.entity_kept member notOwned, known, Option.map_some]

end Released

/-- Sound links stay sound when a table is released. -/
theorem Linked.released {before after : SymbolStore} {id : TableId} (linked : before.Linked)
    (released : Released before id after) : after.Linked := by
  constructor
  · intro other table found member listed
    obtain ⟨oldFound, outside⟩ := released.table_left found
    obtain ⟨entity, known, owner⟩ := linked.listed other table oldFound member listed
    -- An entity is listed in one table, and this one is not within the released one.
    have not_owned : ¬ before.OwnedWithin id member := by
      rintro ⟨inner, table', isWithin, found', owned⟩
      have same := linked.eq_of_listed found' oldFound (table'.owned_subset_listed owned) listed
      exact outside (same ▸ isWithin)
    refine ⟨entity.forget id, ?_, by rw [Entity.forget_owner, owner]⟩
    rw [released.entity_kept member not_owned, known]
    rfl
  · intro member entity region found body
    obtain ⟨old, known, rfl, not_owned⟩ := released.entity_left found
    rw [Entity.forget_body_eq_some_iff] at body
    obtain ⟨table, regionFound, owner, isLocal⟩ := linked.body member old region known body.1
    -- A body within the released table is held there, by the one entity whose body it is.
    have outside : ¬ before.Within id region := by
      intro isWithin
      rcases Relation.ReflTransGen.cases_tail isWithin with same | ⟨outer, inOuter, held⟩
      · exact body.2 same
      · obtain ⟨table', member', entity', found', owned, known', body'⟩ := held
        have same := linked.eq_of_body known' known body' body.1
        exact not_owned ⟨outer, table', inOuter, found', same ▸ owned⟩
    refine ⟨table, ?_, owner, by rw [Entity.forget_kind, isLocal]⟩
    rw [released.table_kept region outside, regionFound]
  · intro other table found notLocal notGlobal
    obtain ⟨oldFound, outside⟩ := released.table_left found
    rw [released.global_eq] at notGlobal
    obtain ⟨owner, entity, owned, known, body⟩ :=
      linked.region other table oldFound notLocal notGlobal
    -- If the owner were released, its body would lie within the released table.
    have not_owned : ¬ before.OwnedWithin id owner := fun ownedWithin =>
      outside (ownedWithin.body known body)
    have other_ne : other ≠ id := by
      rintro rfl
      exact outside Relation.ReflTransGen.refl
    refine ⟨owner, entity.forget id, owned, ?_, Entity.forget_body_eq_some_iff.2 ⟨body, other_ne⟩⟩
    rw [released.entity_kept owner not_owned, known]
    rfl
  · obtain ⟨root, rootFound, isGlobal⟩ := linked.global
    -- The global table is no entity's body, so no table holds it.
    have outside : ¬ before.Within id before.global := by
      intro isWithin
      rcases Relation.ReflTransGen.cases_tail isWithin with same | ⟨outer, -, held⟩
      · exact released.ne_global same.symm
      · obtain ⟨table, member, entity, -, -, known, body⟩ := held
        obtain ⟨root', rootFound', owner, -⟩ := linked.body member entity _ known body
        rw [rootFound, Option.some.injEq] at rootFound'
        rw [← rootFound', owner?_of_global isGlobal] at owner
        cases owner
    exact ⟨root, by rw [released.global_eq, released.table_kept _ outside, rootFound], isGlobal⟩

/-! ## One step of the release -/

variable {store : SymbolStore}

/-- Releasing a table alone takes it out, and its owner forgets it. -/
theorem get?_dropTable {id : TableId} {table : Table}
    (owner : ∀ member entity, store.entities.get? member = some entity → entity.body = some id →
      table.owner? = some member) (member : EntityId) :
    (store.dropTable id table).entities.get? member =
      (store.entities.get? member).map (·.forget id) := by
  have unowned (other : EntityId) (notOwner : table.owner? ≠ some other) :
      (store.entities.get? other).map (·.forget id) = store.entities.get? other := by
    cases known : store.entities.get? other with
    | none => rfl
    | some entity =>
        rw [Option.map_some, Entity.forget_of_ne]
        exact fun body => notOwner (owner other entity known body)
  unfold dropTable
  cases owned : table.owner? with
  | none => exact (unowned member (by simp [owned])).symm
  | some other =>
      show (store.entities.modify other (·.forget id)).get? member = _
      rw [Arena.get?_modify, Function.update_apply]
      split
      · rename_i same
        rw [same]
      · rename_i differs
        exact (unowned member (by rw [owned]; simpa using Ne.symm differs)).symm

/-- Releasing a table alone keeps a store well formed, and no entity is gone with it. -/
theorem dropTable_wellFormed (wellFormed : store.WellFormed) (id : TableId) (table : Table) :
    (store.dropTable id table).WellFormed ∧
      (store.dropTable id table).entities.live = store.entities.live := by
  unfold dropTable
  cases table.owner? with
  | none => exact ⟨⟨wellFormed.entities, wellFormed.tables.release id⟩, rfl⟩
  | some owner =>
      exact ⟨⟨wellFormed.entities.modify owner _, wellFormed.tables.release id⟩,
        Arena.live_modify _⟩

/-- What a step of a release does: the entity is gone, and its body with it. -/
structure Dropped (before : SymbolStore) (member : EntityId) (body : Option TableId)
    (listed : List EntityId) (after : SymbolStore) : Prop where
  /-- The entity is taken out. -/
  entities_eq : after.entities.get? = Function.update before.entities.get? member none
  /-- The global table stays. -/
  global_eq : after.global = before.global
  /-- Its body is taken out, and what that lists is to be released. -/
  tables_cases :
    (after.tables.get? = before.tables.get? ∧
        ∀ inner, body = some inner → before.tables.get? inner = none) ∨
      ∃ inner table, body = some inner ∧ before.tables.get? inner = some table ∧
        after.tables.get? = Function.update before.tables.get? inner none ∧ table.owned ⊆ listed
  /-- Nothing else is to be released on its account. -/
  listed_of_body : ∀ entity ∈ listed, ∃ inner table, body = some inner ∧
    before.tables.get? inner = some table ∧ entity ∈ table.owned

/-- Releasing an entity takes it out together with its body, if it is the owner of that. -/
theorem dropEntity_dropped {member : EntityId} {entity : Entity}
    (owner : ∀ inner table, entity.body = some inner → store.tables.get? inner = some table →
      table.owner? = some member) :
    Dropped store member entity.body (store.dropEntity member entity).1
      (store.dropEntity member entity).2 := by
  unfold dropEntity
  cases body : entity.body with
  | none =>
      refine ⟨Arena.get?_release, rfl, Or.inl ⟨rfl, ?_⟩, ?_⟩
      · intro inner same; cases same
      · intro other listed; cases listed
  | some inner =>
      cases found : store.tables.get? inner with
      | none =>
          simp only [found]
          refine ⟨Arena.get?_release, rfl, Or.inl ⟨rfl, ?_⟩, ?_⟩
          · intro other same; cases same; exact found
          · intro other listed; cases listed
      | some table =>
          simp only [found]
          refine ⟨?_, rfl, Or.inr ⟨inner, table, rfl, found, Arena.get?_release, fun _ => id⟩, ?_⟩
          · -- The entity is gone by the time its body would be forgotten.
            unfold dropTable
            rw [owner inner table body found]
            show ((store.entities.release member).modify member _).get? = _
            rw [Arena.get?_modify, Arena.get?_release, Function.update_self, Option.map_none,
              Function.update_idem]
          · intro other listed
            exact ⟨inner, table, rfl, found, listed⟩

/-- Releasing an entity keeps a store well formed, and counts one entity less. -/
theorem dropEntity_wellFormed (wellFormed : store.WellFormed) {member : EntityId} {entity : Entity}
    (known : store.entities.get? member = some entity) :
    (store.dropEntity member entity).2.WellFormed ∧
      (store.dropEntity member entity).2.entities.live + 1 = store.entities.live := by
  have counted := wellFormed.entities.live_release known
  have released := wellFormed.entities.release member
  unfold dropEntity
  cases entity.body with
  | none => exact ⟨⟨released, wellFormed.tables⟩, counted⟩
  | some inner =>
      cases found : store.tables.get? inner with
      | none => simp only [found]; exact ⟨⟨released, wellFormed.tables⟩, counted⟩
      | some table =>
          simp only [found]
          have without : WellFormed { store with entities := store.entities.release member } :=
            ⟨released, wellFormed.tables⟩
          obtain ⟨dropped, live⟩ := dropTable_wellFormed without inner table
          exact ⟨dropped, by rw [live]; exact counted⟩

/-- The next entity to be released is the first one of the work that is not stale. -/
theorem nextLive?_eq_some {pending rest : List EntityId} {member : EntityId} {entity : Entity}
    (next : store.nextLive? pending = some (member, entity, rest)) :
    store.entities.get? member = some entity ∧ member ∈ pending ∧ rest ⊆ pending ∧
      ∀ other ∈ pending, store.entities.get? other = none ∨ other = member ∨ other ∈ rest := by
  induction pending with
  | nil => cases next
  | cons first tail ih =>
      rw [nextLive?] at next
      split at next
      · rename_i known
        cases next
        refine ⟨known, List.mem_cons_self, List.subset_cons_self _ _, fun other listed => ?_⟩
        exact Or.inr (List.mem_cons.1 listed)
      · rename_i stale
        obtain ⟨known, listed, among, others⟩ := ih next
        refine ⟨known, List.mem_cons_of_mem _ listed, List.subset_cons_of_subset _ among, ?_⟩
        intro other inPending
        rcases List.mem_cons.1 inPending with rfl | inTail
        · exact Or.inl stale
        · exact others other inTail

/-- The work is done when all of it is stale. -/
theorem nextLive?_eq_none {pending : List EntityId} (next : store.nextLive? pending = none) :
    ∀ member ∈ pending, store.entities.get? member = none := by
  induction pending with
  | nil => intro member listed; cases listed
  | cons first tail ih =>
      rw [nextLive?] at next
      split at next
      · cases next
      · rename_i stale
        intro member listed
        rcases List.mem_cons.1 listed with rfl | inTail
        · exact stale
        · exact ih next member inTail

/-! ## The whole release -/

/-- How far the release of a table has come, with the entities that are still to be released: what
is gone lies within the table, nothing that is gone left a body behind, and what a table that is
gone listed is gone too or still to be released. -/
structure Releasing (before : SymbolStore) (id : TableId) (pending : List EntityId)
    (now : SymbolStore) : Prop where
  /-- The global table stays. -/
  global_eq : now.global = before.global
  /-- The table itself is gone. -/
  root_gone : now.tables.get? id = none
  /-- Tables are gone only if they lie within it. -/
  table_cases : ∀ inner, now.tables.get? inner = before.tables.get? inner ∨
    now.tables.get? inner = none ∧ before.Within id inner
  /-- Entities are gone only if a table within it lists them. -/
  entity_cases : ∀ member,
    now.entities.get? member = (before.entities.get? member).map (·.forget id) ∨
      now.entities.get? member = none ∧ before.OwnedWithin id member
  /-- The work is on entities that tables within it list. -/
  pending_owned : ∀ member ∈ pending, before.OwnedWithin id member
  /-- The bodies of the entities that are gone are gone. -/
  body_gone : ∀ member entity inner, before.entities.get? member = some entity →
    now.entities.get? member = none → entity.body = some inner → now.tables.get? inner = none
  /-- What the tables that are gone listed is gone or awaits its release. -/
  awaited : ∀ inner table, before.tables.get? inner = some table →
    now.tables.get? inner = none → ∀ member ∈ table.owned,
      now.entities.get? member = none ∨ member ∈ pending

namespace Releasing

variable {before now : SymbolStore} {id : TableId} {pending : List EntityId}

/-- A release starts with the table itself, and with all that it lists as work. -/
theorem start (linked : before.Linked) {table : Table}
    (known : before.tables.get? id = some table) :
    Releasing before id table.owned (before.dropTable id table) := by
  have entities := @get?_dropTable before id table fun member entity found body => by
    obtain ⟨region, regionFound, owner, -⟩ := linked.body member entity id found body
    rw [known, Option.some.injEq] at regionFound
    rw [regionFound, owner]
  have tables : (before.dropTable id table).tables.get? =
      Function.update before.tables.get? id none := Arena.get?_release
  constructor
  · rfl
  · rw [tables, Function.update_self]
  · intro inner
    rw [tables, Function.update_apply]
    split
    · rename_i same
      exact Or.inr ⟨rfl, same ▸ Relation.ReflTransGen.refl⟩
    · exact Or.inl rfl
  · exact fun member => Or.inl (entities member)
  · exact fun member listed => ⟨id, table, Relation.ReflTransGen.refl, known, listed⟩
  · intro member entity inner found gone
    rw [entities, found] at gone
    cases gone
  · intro inner table' found gone member listed
    rw [tables, Function.update_apply] at gone
    split at gone
    · rename_i same
      rw [same, known, Option.some.injEq] at found
      exact Or.inr (found ▸ listed)
    · rw [found] at gone
      cases gone

/-- A table that is not gone is the one that was there before. -/
theorem table_now (releasing : Releasing before id pending now) {inner : TableId} {table : Table}
    (found : now.tables.get? inner = some table) : before.tables.get? inner = some table := by
  rcases releasing.table_cases inner with same | ⟨gone, -⟩
  · rw [← same, found]
  · rw [found] at gone
    cases gone

/-- An entity that is not gone is the one that was there before, but for a body that is gone. -/
theorem entity_now (releasing : Releasing before id pending now) {member : EntityId}
    {entity : Entity} (found : now.entities.get? member = some entity) :
    ∃ old, before.entities.get? member = some old ∧ entity = old.forget id := by
  rcases releasing.entity_cases member with same | ⟨gone, -⟩
  · rw [same, Option.map_eq_some_iff] at found
    obtain ⟨old, known, rfl⟩ := found
    exact ⟨old, known, rfl⟩
  · rw [found] at gone
    cases gone

/-- Releasing one entity of the work takes the release one step further. -/
theorem step (releasing : Releasing before id pending now)
    {member : EntityId} {entity : Entity} {rest listed : List EntityId} {next : SymbolStore}
    (known : now.entities.get? member = some entity) (inPending : member ∈ pending)
    (among : rest ⊆ pending)
    (others : ∀ other ∈ pending,
      now.entities.get? other = none ∨ other = member ∨ other ∈ rest)
    (dropped : Dropped now member entity.body listed next) :
    Releasing before id (listed ++ rest) next := by
  obtain ⟨old, oldKnown, rfl⟩ := releasing.entity_now known
  have owned := releasing.pending_owned member inPending
  have body_within {inner : TableId} (body : (old.forget id).body = some inner) :
      before.Within id inner := owned.body oldKnown (Entity.forget_body_eq_some_iff.1 body).1
  have tables_stale {inner : TableId} (gone : now.tables.get? inner = none) :
      next.tables.get? inner = none := by
    rcases dropped.tables_cases with ⟨same, -⟩ | ⟨body, table, -, -, taken, -⟩
    · rw [same, gone]
    · rw [taken, Function.update_apply, gone, ite_self]
  have entities_stale {other : EntityId} (gone : now.entities.get? other = none) :
      next.entities.get? other = none := by
    rw [dropped.entities_eq, Function.update_apply, gone, ite_self]
  -- What waited before this step waits still, unless it is the entity of this step.
  have still_awaited {other : EntityId}
      (state : now.entities.get? other = none ∨ other ∈ pending) :
      next.entities.get? other = none ∨ other ∈ listed ++ rest := by
    rcases state with gone | waiting
    · exact Or.inl (entities_stale gone)
    · rcases others other waiting with gone | rfl | later
      · exact Or.inl (entities_stale gone)
      · exact Or.inl (by rw [dropped.entities_eq, Function.update_self])
      · exact Or.inr (List.mem_append_right _ later)
  constructor
  · rw [dropped.global_eq, releasing.global_eq]
  · exact tables_stale releasing.root_gone
  · intro inner
    rcases dropped.tables_cases with ⟨same, -⟩ | ⟨body, table, isBody, -, taken, -⟩
    · rw [same]
      exact releasing.table_cases inner
    · rw [taken, Function.update_apply]
      split
      · rename_i here
        exact Or.inr ⟨rfl, here ▸ body_within isBody⟩
      · exact releasing.table_cases inner
  · intro other
    rw [dropped.entities_eq, Function.update_apply]
    split
    · rename_i here
      exact Or.inr ⟨rfl, here ▸ owned⟩
    · exact releasing.entity_cases other
  · intro other waiting
    rcases List.mem_append.1 waiting with new | later
    · obtain ⟨inner, table, isBody, found, inTable⟩ := dropped.listed_of_body other new
      exact ⟨inner, table, body_within isBody, releasing.table_now found, inTable⟩
    · exact releasing.pending_owned other (among later)
  · -- The entity leaves no body behind, unless that is the table itself, which is gone.
    intro other entity' inner found gone body
    by_cases here : other = member
    · subst here
      rw [oldKnown, Option.some.injEq] at found
      subst found
      by_cases root : inner = id
      · exact root ▸ tables_stale releasing.root_gone
      · have isBody := Entity.forget_body_eq_some_iff.2 ⟨body, root⟩
        rcases dropped.tables_cases with ⟨-, bodyless⟩ | ⟨body', table, isBody', -, taken, -⟩
        · exact tables_stale (bodyless inner isBody)
        · rw [isBody, Option.some.injEq] at isBody'
          rw [taken, isBody', Function.update_self]
    · rw [dropped.entities_eq, Function.update_of_ne here] at gone
      exact tables_stale (releasing.body_gone other entity' inner found gone body)
  · -- What the body listed joins the work.
    intro inner table found gone other inTable
    rcases dropped.tables_cases with ⟨same, -⟩ | ⟨body, table', -, found', taken, work⟩
    · rw [same] at gone
      exact still_awaited (releasing.awaited inner table found gone other inTable)
    · by_cases here : inner = body
      · subst here
        rw [releasing.table_now found', Option.some.injEq] at found
        exact Or.inr (List.mem_append_left _ (work (found ▸ inTable)))
      · rw [taken, Function.update_of_ne here] at gone
        exact still_awaited (releasing.awaited inner table found gone other inTable)

/-- A release whose work is all stale released the table with everything within it. -/
theorem finish (releasing : Releasing before id pending now) (ne_global : id ≠ before.global)
    (stale : ∀ member ∈ pending, now.entities.get? member = none) : Released before id now := by
  have owned_gone {inner : TableId} {table : Table} {member : EntityId}
      (found : before.tables.get? inner = some table) (gone : now.tables.get? inner = none)
      (listed : member ∈ table.owned) : now.entities.get? member = none := by
    rcases releasing.awaited inner table found gone member listed with taken | waiting
    · exact taken
    · exact stale member waiting
  -- By induction on the way to a table within: what a table that is gone listed is gone, and left
  -- no body behind.
  have table_gone (inner : TableId) (within : before.Within id inner) :
      now.tables.get? inner = none := by
    induction within with
    | refl => exact releasing.root_gone
    | tail _ held ih =>
        obtain ⟨table, member, entity, found, listed, known, body⟩ := held
        exact releasing.body_gone member entity _ known (owned_gone found ih listed) body
  refine ⟨ne_global, releasing.global_eq, table_gone, ?_, ?_, ?_⟩
  · intro other outside
    exact (releasing.table_cases other).resolve_right fun gone => outside gone.2
  · rintro member ⟨inner, table, within, found, listed⟩
    exact owned_gone found (table_gone inner within) listed
  · intro member notOwned
    exact (releasing.entity_cases member).resolve_right fun gone => notOwned gone.2

end Releasing

/-- A release with as many steps as there are entities comes to its end. -/
theorem releaseAll_released {before : SymbolStore} (linked : before.Linked) {id : TableId}
    (ne_global : id ≠ before.global) (steps : Nat) (pending : List EntityId) (now : SymbolStore)
    (wellFormed : now.WellFormed) (enough : now.entities.live ≤ steps)
    (releasing : Releasing before id pending now) :
    Released before id (releaseAll steps pending now).2 ∧
      (releaseAll steps pending now).2.WellFormed := by
  induction steps generalizing pending now with
  | zero =>
      -- No entity is left, so no work is left either.
      have none_left (member : EntityId) : now.entities.get? member = none := by
        cases known : now.entities.get? member with
        | none => rfl
        | some entity =>
            have pos := wellFormed.entities.live_pos known
            omega
      exact ⟨releasing.finish ne_global fun member _ => none_left member, wellFormed⟩
  | succ steps ih =>
      rw [releaseAll]
      cases next : now.nextLive? pending with
      | none => exact ⟨releasing.finish ne_global (nextLive?_eq_none next), wellFormed⟩
      | some found =>
          obtain ⟨member, entity, rest⟩ := found
          obtain ⟨known, inPending, among, others⟩ := nextLive?_eq_some next
          obtain ⟨smaller, counted⟩ := dropEntity_wellFormed wellFormed known
          -- The links of the first store say that the body names this entity as its owner.
          have dropped := @dropEntity_dropped now member entity
            fun inner table body found => by
              obtain ⟨old, oldKnown, rfl⟩ := releasing.entity_now known
              rw [Entity.forget_body_eq_some_iff] at body
              obtain ⟨table', found', owner, -⟩ := linked.body member old inner oldKnown body.1
              rw [releasing.table_now found, Option.some.injEq] at found'
              rw [found', owner]
          have further := releasing.step known inPending among others dropped
          exact ih _ _ smaller (by omega) further

/-- A table other than the global one is released with what it owns. -/
theorem removeTable_eq_ok_iff {id : TableId} {result : Nat × SymbolStore} :
    store.removeTable id = .ok result ↔ id ≠ store.global ∧
      ∃ table, store.tables.get? id = some table ∧
        releaseAll store.entities.capacity table.owned (store.dropTable id table) = result := by
  unfold removeTable
  split
  · rename_i isGlobal
    constructor
    · intro removed
      cases removed
    · exact fun both => absurd isGlobal both.1
  · rename_i ne_global
    simp only [bind_eq_ok_iff, table_eq_ok_iff, pure_eq_ok_iff, ne_eq, ne_global, not_false_eq_true,
      true_and]

/-- Releasing a table releases everything within it, and nothing else. -/
theorem removeTable_released (linked : store.Linked) (wellFormed : store.WellFormed) {id : TableId}
    {count : Nat} {after : SymbolStore} (removed : store.removeTable id = .ok (count, after)) :
    Released store id after ∧ after.WellFormed := by
  obtain ⟨ne_global, table, known, removed⟩ := removeTable_eq_ok_iff.1 removed
  obtain ⟨dropped_wellFormed, counted⟩ := dropTable_wellFormed wellFormed id table
  have done := releaseAll_released linked ne_global store.entities.capacity table.owned
    (store.dropTable id table) dropped_wellFormed
    (by rw [counted]; exact wellFormed.entities.live_le_capacity) (.start linked known)
  rw [removed] at done
  exact done

/-- A table other than the global one can always be released. -/
theorem removeTable_eq_ok {id : TableId} {table : Table} (ne_global : id ≠ store.global)
    (known : store.tables.get? id = some table) :
    ∃ count after, store.removeTable id = .ok (count, after) :=
  ⟨_, _, removeTable_eq_ok_iff.2 ⟨ne_global, table, known, rfl⟩⟩

end SymbolStore

end ScopeResolution

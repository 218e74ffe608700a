import Mathlib.Data.Set.Card
import ScopeResolution.Proofs.SymbolStore.Operation

/-! # The closure of a release

The tables within a table are the smallest set with that table in it that is closed under taking the
bodies of what a table of the set lists (`Within.mem_of_closed`). In a store that can be reached,
all of them are there, and so is everything that they list; a release takes away just these, leaves
everything else as it is but for the body of the owner, and answers how many entities are gone
(`removeTable_of_run`). -/

namespace ScopeResolution.SymbolStore

/-- The tables that are there. -/
def liveTables (store : SymbolStore) : Set TableId := {id | (store.tables.get? id).isSome}

/-- The entities that are there. -/
def liveEntities (store : SymbolStore) : Set EntityId := {id | (store.entities.get? id).isSome}

variable {store : SymbolStore} {id : TableId}

/-- The tables within a table are in every set with that table in it that is closed under what a
table holds. -/
theorem Within.mem_of_closed {inner : TableId} {tables : Set TableId} (among : id ∈ tables)
    (closed : ∀ outer ∈ tables, ∀ held, store.Holds outer held → held ∈ tables)
    (within : store.Within id inner) : inner ∈ tables := by
  induction within with
  | refl => exact among
  | tail _ holds ih => exact closed _ ih _ holds

/-- The tables within a table that is there are there too, and none of them is the global one. -/
theorem Linked.live_of_within (linked : store.Linked) (ne_global : id ≠ store.global)
    {table : Table} (known : store.tables.get? id = some table) {inner : TableId}
    (within : store.Within id inner) : inner ∈ store.liveTables ∧ inner ≠ store.global := by
  suffices among : inner ∈ store.liveTables \ {store.global} from among
  refine within.mem_of_closed ⟨Option.isSome_iff_exists.2 ⟨table, known⟩, ne_global⟩ ?_
  rintro - - held ⟨-, member, entity, -, -, memberKnown, body⟩
  obtain ⟨table, found, owner, -⟩ := linked.body member entity held memberKnown body
  refine ⟨Option.isSome_iff_exists.2 ⟨table, found⟩, ?_⟩
  -- A body has an owner, and the global table has none.
  rintro rfl
  obtain ⟨root, rootFound, isGlobal⟩ := linked.global
  rw [rootFound, Option.some.injEq] at found
  rw [← found, owner?_of_global isGlobal] at owner
  cases owner

/-- What the tables within a table list is there. -/
theorem Linked.live_of_ownedWithin (linked : store.Linked) {member : EntityId}
    (owned : store.OwnedWithin id member) : member ∈ store.liveEntities := by
  obtain ⟨inner, table, -, found, listed⟩ := owned
  obtain ⟨entity, known, -⟩ :=
    linked.listed inner table found member (table.owned_subset_listed listed)
  exact Option.isSome_iff_exists.2 ⟨entity, known⟩

/-! ## Counting what is gone -/

/-- No entity is gone with a table alone. -/
theorem liveEntities_dropTable (table : Table) :
    (store.dropTable id table).liveEntities = store.liveEntities := by
  unfold dropTable
  cases table.owner? with
  | none => rfl
  | some owner =>
      ext member
      show ((store.entities.modify owner _).get? member).isSome ↔ _
      rw [Arena.get?_modify, Function.update_apply]
      split
      · rename_i same
        rw [same, Option.isSome_map]
        rfl
      · rfl

/-- One entity is gone when it is released together with its body. -/
theorem liveEntities_dropEntity (member : EntityId) (entity : Entity) :
    (store.dropEntity member entity).2.liveEntities = store.liveEntities \ {member} := by
  have alone : liveEntities { store with entities := store.entities.release member } =
      store.liveEntities \ {member} := by
    ext other
    show ((store.entities.release member).get? other).isSome ↔ _
    rw [Arena.get?_release, Function.update_apply]
    split
    · rename_i same
      simp [same]
    · rename_i differs
      simp [differs, liveEntities]
  unfold dropEntity
  cases entity.body with
  | none => exact alone
  | some body =>
      cases found : store.tables.get? body with
      | none =>
          simp only [found]
          exact alone
      | some table =>
          simp only [found]
          rw [liveEntities_dropTable, alone]

/-- Working off a list of entities adds none, and counts those that are gone: by induction on the
steps, of which each one that finds an entity takes away that one. -/
theorem liveEntities_releaseAll (steps : Nat) (pending : List EntityId) (store : SymbolStore) :
    (releaseAll steps pending store).2.liveEntities ⊆ store.liveEntities ∧
      (store.liveEntities \ (releaseAll steps pending store).2.liveEntities).encard =
        (releaseAll steps pending store).1 := by
  induction steps generalizing pending store with
  | zero => exact ⟨subset_rfl, by rw [releaseAll, Set.sdiff_self, Set.encard_empty]; rfl⟩
  | succ steps ih =>
      rw [releaseAll]
      cases next : store.nextLive? pending with
      | none => exact ⟨subset_rfl, by rw [Set.sdiff_self, Set.encard_empty]; rfl⟩
      | some found =>
          obtain ⟨member, entity, rest⟩ := found
          have live : member ∈ store.liveEntities :=
            Option.isSome_iff_exists.2 ⟨entity, (nextLive?_eq_some next).1⟩
          obtain ⟨left, counted⟩ :=
            ih ((store.dropEntity member entity).1 ++ rest) (store.dropEntity member entity).2
          rw [liveEntities_dropEntity] at left counted
          refine ⟨left.trans Set.sdiff_subset, ?_⟩
          simp only
          generalize (releaseAll steps _ _).2.liveEntities = result at left counted ⊢
          have gone : member ∉ result := fun among => (left among).2 rfl
          have isGone : member ∈ store.liveEntities \ result := ⟨live, gone⟩
          have split : store.liveEntities \ result =
              insert member ((store.liveEntities \ {member}) \ result) := by
            rw [Set.sdiff_sdiff_comm, Set.insert_sdiff_self_of_mem isGone]
          rw [split, Set.encard_insert_of_notMem fun among => among.1.2 rfl, counted,
            Nat.cast_succ]

/-- A release answers how many entities are gone. -/
theorem encard_of_removeTable {count : Nat} {after : SymbolStore}
    (removed : store.removeTable id = .ok (count, after)) :
    (store.liveEntities \ after.liveEntities).encard = count := by
  obtain ⟨-, table, -, removed⟩ := removeTable_eq_ok_iff.1 removed
  obtain ⟨-, counted⟩ :=
    liveEntities_releaseAll store.entities.capacity table.owned (store.dropTable id table)
  rwa [removed, liveEntities_dropTable] at counted

/-! ## What is left -/

namespace Released

variable {before after : SymbolStore}

/-- The tables that are left are the ones that are not within the released one. -/
theorem liveTables_eq (released : Released before id after) :
    after.liveTables = before.liveTables \ {inner | before.Within id inner} := by
  ext other
  by_cases within : before.Within id other
  · simp [liveTables, within, released.table_gone other within]
  · simp [liveTables, within, released.table_kept other within]

/-- The entities that are left are the ones that no table within the released one lists. -/
theorem liveEntities_eq (released : Released before id after) :
    after.liveEntities = before.liveEntities \ {member | before.OwnedWithin id member} := by
  ext member
  by_cases owned : before.OwnedWithin id member
  · simp [liveEntities, owned, released.entity_gone member owned]
  · simp [liveEntities, owned, released.entity_kept member owned]

/-- An entity that is left is as it was if it does not own the released table. -/
theorem entity_eq (released : Released before id after) (linked : before.Linked) {table : Table}
    (known : before.tables.get? id = some table) {member : EntityId}
    (notOwned : ¬ before.OwnedWithin id member) (notOwner : table.owner? ≠ some member) :
    after.entities.get? member = before.entities.get? member := by
  rw [released.entity_kept member notOwned]
  cases found : before.entities.get? member with
  | none => rfl
  | some entity =>
      rw [Option.map_some, Entity.forget_of_ne]
      intro body
      obtain ⟨region, regionFound, owner, -⟩ := linked.body member entity id found body
      rw [known, Option.some.injEq] at regionFound
      exact notOwner (regionFound ▸ owner)

end Released

/-- In every store that can be reached, a table other than the global one can be released. That
takes away the tables within it, which is the smallest set that has the table in it and, with a
table, the bodies of what this one lists, and it takes away all that these tables list; the answer
is how many entities that makes. What is left is as it was, but that the owner of the table does not
have it as its body any more. -/
theorem removeTable_of_run (names : NamePool) (operations : List Operation) :
    let store := (SymbolStore.new names).run operations
    ∀ id table, store.tables.get? id = some table → id ≠ store.global →
      let within := {inner | store.Within id inner}
      let owned := {member | store.OwnedWithin id member}
      (within ⊆ store.liveTables \ {store.global} ∧ owned ⊆ store.liveEntities ∧
        ∀ tables : Set TableId, id ∈ tables →
          (∀ outer ∈ tables, ∀ inner, store.Holds outer inner → inner ∈ tables) →
            within ⊆ tables) ∧
      ∃ count after, store.removeTable id = .ok (count, after) ∧
        after.global = store.global ∧
        after.liveTables = store.liveTables \ within ∧
        after.liveEntities = store.liveEntities \ owned ∧ owned.encard = count ∧
        (∀ other ∉ within, after.tables.get? other = store.tables.get? other) ∧
        (∀ member ∉ owned, table.owner? ≠ some member →
          after.entities.get? member = store.entities.get? member) ∧
        ∀ owner ∉ owned, table.owner? = some owner →
          after.entities.get? owner = (store.entities.get? owner).map fun entity =>
            if entity.body = some id then { entity with body := none } else entity := by
  intro store id table known ne_global within owned
  have sound := (sound_new names).run operations
  have ownedLive : owned ⊆ store.liveEntities := fun _ => sound.linked.live_of_ownedWithin
  obtain ⟨count, after, removed⟩ := removeTable_eq_ok ne_global known
  obtain ⟨released, -⟩ := removeTable_released sound.linked sound.wellFormed removed
  have counted := encard_of_removeTable removed
  rw [released.liveEntities_eq, Set.sdiff_sdiff_cancel_left ownedLive] at counted
  refine ⟨⟨fun _ => sound.linked.live_of_within ne_global known, ownedLive,
    fun tables among closed _ => Within.mem_of_closed among closed⟩, ?_⟩
  exact ⟨count, after, removed, released.global_eq, released.liveTables_eq,
    released.liveEntities_eq, counted, released.table_kept,
    fun _ notOwned => released.entity_eq sound.linked known notOwned,
    fun owner notOwned _ => released.entity_kept owner notOwned⟩

/-- A function with a body, in which there is a class with an enumeration, and a class outside of
it. -/
def openWithClass : List Operation :=
  let root := (SymbolStore.new {}).global
  [.addEntity root { name := ⟨0⟩, kind := .function { type := DeclType.void.function {} } },
    .openFunction ⟨0, 0⟩,
    .addEntity ⟨1, 0⟩ { name := ⟨1⟩, kind := .classDecl .structKey false },
    .addEntity ⟨2, 0⟩ { name := ⟨2⟩, kind := .enumDecl },
    .addEntity root { name := ⟨3⟩, kind := .classDecl .structKey false }]

/-- The tables within the body of the function list two of the four entities, and the two others
are left when it is released. -/
theorem openWithClass_releases_two :
    let store := (SymbolStore.new {}).run openWithClass
    (∃ table, store.tables.get? ⟨1, 0⟩ = some table) ∧ ⟨1, 0⟩ ≠ store.global ∧
      {member | store.OwnedWithin ⟨1, 0⟩ member}.encard = 2 ∧
      ∃ after, store.removeTable ⟨1, 0⟩ = .ok (2, after) ∧
        after.liveEntities = store.liveEntities \ {member | store.OwnedWithin ⟨1, 0⟩ member} := by
  intro store
  obtain ⟨table, known⟩ : ∃ table, store.tables.get? ⟨1, 0⟩ = some table :=
    Option.isSome_iff_exists.1 (by decide +kernel)
  have ne_global : ⟨1, 0⟩ ≠ store.global := by decide +kernel
  obtain ⟨-, count, after, removed, -, -, left, counted, -⟩ :=
    removeTable_of_run {} openWithClass ⟨1, 0⟩ table known ne_global
  have two : (store.removeTable ⟨1, 0⟩).map (·.1) = .ok 2 := by decide +kernel
  obtain rfl : count = 2 := by
    rw [removed] at two
    exact Except.ok.inj two
  exact ⟨⟨table, known⟩, ne_global, counted, after, removed, left⟩

end ScopeResolution.SymbolStore

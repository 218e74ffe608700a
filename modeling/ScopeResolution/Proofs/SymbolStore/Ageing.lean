import ScopeResolution.Proofs.Store.Reuse
import ScopeResolution.Proofs.SymbolStore.Operation

/-! # Stores age

The entities and the tables of a store are kept in arenas, and every operation lets both of them age,
whether it fails or not (`ages_step`). So a handle to an entity or a table goes on meaning one, or
its occupation of a slot is over for good. No operation uses up more than one generation of a slot for
entities, so generations do not repeat in runs that are shorter than there are generations
(`countable_run`).

A declaration that the table refuses releases its entity at once, so it uses up a generation and
changes nothing else (`addEntity_of_refused`). A run of such declarations uses up as many generations
of one slot as it has steps (`run_strayLabels`). -/

namespace ScopeResolution.SymbolStore

/-- A store ages into another one when its entities and its tables do; `wear` is how much a slot for
entities may be used up in this. -/
structure Ages (wear : Nat) (before after : SymbolStore) : Prop where
  /-- The entities age. -/
  entities : before.entities.Ages after.entities
  /-- The tables age. -/
  tables : before.tables.Ages after.tables
  /-- The slots for entities wear. -/
  wears : Arena.Wears wear before.entities after.entities

/-- A store ages into itself. -/
theorem Ages.refl (store : SymbolStore) : Ages 0 store store := ⟨.refl _, .refl _, .refl _⟩

/-- Ageing twice is ageing, of the entities and of the tables. -/
theorem Ages.trans {first second : Nat} {before middle after : SymbolStore}
    (early : Ages first before middle) (late : Ages second middle after) :
    Ages (first + second) before after :=
  ⟨early.entities.trans late.entities, early.tables.trans late.tables,
    early.wears.trans late.wears⟩

/-- The wear of a store may be told by a greater number. -/
theorem Ages.mono {first second : Nat} {before after : SymbolStore} (ages : Ages first before after)
    (le : first ≤ second) : Ages second before after :=
  ⟨ages.entities, ages.tables, ages.wears.mono le⟩

variable (store : SymbolStore)

/-- Giving an entity a body changes that entity at most, and allocates the body. -/
theorem ages_giveBody (id : EntityId) (form : TableForm) :
    Ages 0 store (store.giveBody id form).2 :=
  ⟨.modify store.entities id _, .alloc store.tables _, .modify store.entities id _⟩

/-- Opening the region of an entity gives it a body at most. -/
theorem ages_openRegion (id : EntityId) (parent : TableId) (kind : EntityKind) :
    Ages 0 store (store.openRegion id parent kind) := by
  unfold openRegion
  split
  · exact ages_giveBody store id _
  · exact ages_giveBody store id _
  · exact .refl store

/-- Adding an entity allocates it, and may release it at once. -/
theorem ages_addEntity (target : TableId) (draft : Draft) :
    Ages 1 store (store.addEntity target draft).2 := by
  have allocated := Arena.Ages.alloc store.entities (draft.toEntity target)
  have used := Arena.Wears.alloc store.entities (draft.toEntity target)
  have unchanged : Ages 1 store store := (Ages.refl store).mono (Nat.zero_le 1)
  unfold addEntity
  split
  · exact unchanged
  · split
    · exact unchanged
    · dsimp only
      split
      · exact ⟨allocated.trans (.release _ _), .refl _, used.trans (.release _ _)⟩
      · rename_i index listing _
        let filed : SymbolStore :=
          { store with
            entities := (store.entities.alloc (draft.toEntity target)).2
            tables := store.tables.set target listing }
        have filing : Ages 1 store filed := ⟨allocated, .set store.tables target listing, used⟩
        exact filing.trans (ages_openRegion filed _ target draft.kind)

/-- Releasing a table alone changes its owner at most. -/
theorem ages_dropTable (id : TableId) (table : Table) :
    Ages 0 store (store.dropTable id table) := by
  unfold dropTable
  cases table.owner? with
  | none => exact ⟨.refl _, .release store.tables id, .refl _⟩
  | some owner =>
      exact ⟨.modify store.entities owner _, .release store.tables id,
        .modify store.entities owner _⟩

/-- Releasing an entity with its body lets a store age. -/
theorem ages_dropEntity (id : EntityId) (entity : Entity) :
    Ages 0 store (store.dropEntity id entity).2 := by
  let dropped : SymbolStore := { store with entities := store.entities.release id }
  have released : Ages 0 store dropped :=
    ⟨.release store.entities id, .refl _, .release store.entities id⟩
  unfold dropEntity
  dsimp only
  split
  · exact released
  · split
    · exact released
    · rename_i body _ _ table _
      exact released.trans (ages_dropTable dropped body table)

/-- Releasing entities one after the other lets a store age. -/
theorem ages_releaseAll (steps : Nat) (pending : List EntityId) (store : SymbolStore) :
    Ages 0 store (releaseAll steps pending store).2 := by
  induction steps generalizing pending store with
  | zero => exact .refl store
  | succ steps ih =>
      rw [releaseAll]
      split
      · exact .refl store
      · rename_i id entity rest _
        exact (ages_dropEntity store id entity).trans (ih _ _)

/-- Exchanging a table for a later state of it releases nothing. -/
theorem ages_setTable (target : TableId) (table : Table) :
    Ages 0 store { store with tables := store.tables.set target table } :=
  ⟨.refl _, .set store.tables target table, .refl _⟩

/-- A store ages with every operation, whether it fails or not, and no slot for entities is used up
by more than one generation. -/
theorem ages_step (operation : Operation) : Ages 1 store (store.step operation) := by
  have spare {later : SymbolStore} (ages : Ages 0 store later) : Ages 1 store later :=
    ages.mono (Nat.zero_le 1)
  have unchanged : Ages 1 store store := spare (.refl store)
  -- Of the operations that fail and leave the store alone, only the success is to be shown.
  have succeeding {α : Type} {answer : Except Failure α} {state : α → SymbolStore}
      (success : ∀ result, answer = .ok result → Ages 0 store (state result)) :
      Ages 1 store (store.after answer state) :=
    @after_of_ok store α (Ages 1 store) answer state unchanged fun result answered =>
      spare (success result answered)
  cases operation with
  | addEntity target draft => exact ages_addEntity store target draft
  | openFunction id =>
      refine succeeding fun result opened => ?_
      unfold openFunction at opened
      obtain ⟨entity, -, opened⟩ := bind_eq_ok_iff.1 opened
      split at opened
      · cases opened
      · rw [pure_eq_ok_iff] at opened
        rw [← opened]
        exact ages_giveBody store id _
  | openBlock opener parent =>
      refine succeeding fun result opened => ?_
      unfold openBlock at opened
      obtain ⟨outer, -, opened⟩ := bind_eq_ok_iff.1 opened
      split at opened
      · rw [pure_eq_ok_iff] at opened
        rw [← opened]
        exact ⟨.refl _, .alloc store.tables _, .refl _⟩
      · cases opened
  | removeTable id =>
      refine succeeding fun result removed => ?_
      obtain ⟨-, table, -, removed⟩ := removeTable_eq_ok_iff.1 removed
      rw [← removed]
      exact (ages_dropTable store id table).trans (ages_releaseAll _ _ _)
  | addPeer target peer =>
      show Ages 1 store (store.addPeer target peer).2
      unfold addPeer
      split
      · exact unchanged
      · exact unchanged
      · split
        · exact spare (ages_setTable store target _)
        · exact spare ⟨.refl _, .refl _, .refl _⟩
  | addBase target base =>
      refine succeeding fun result added => ?_
      obtain ⟨table, revised, -, -, rfl⟩ := addBase_eq_ok added
      exact ages_setTable store target revised
  | complete target =>
      refine succeeding fun result completed => ?_
      obtain ⟨table, revised, -, -, rfl⟩ := complete_eq_ok completed
      exact ages_setTable store target revised
  | intern text => exact spare ⟨.refl _, .refl _, .refl _⟩

/-- A store ages along a run, and no slot for entities is used up by more generations than the run has
operations. -/
theorem ages_run (operations : List Operation) :
    Ages operations.length store (store.run operations) := by
  induction operations generalizing store with
  | nil => exact .refl store
  | cons operation rest ih =>
      have ages := (ages_step store operation).trans (ih (store.step operation))
      rwa [Nat.add_comm] at ages

/-- In a run that is shorter than there are generations, the generations of entities do not repeat. -/
theorem countable_run (names : NamePool) {operations : List Operation}
    (short : operations.length < UInt32.size) :
    ((SymbolStore.new names).run operations).entities.Countable := by
  refine Arena.countable_of_wearAt fun index => ?_
  have wears := (ages_run (SymbolStore.new names) operations).wears index
  have unused : (SymbolStore.new names).entities.wearAt index = 0 := rfl
  omega

/-! ## Declarations that are refused -/

/-- The store with a slot for entities that is empty after so many releases. -/
def emptied (index releases : Nat) : SymbolStore :=
  { store with entities := store.entities.emptied index releases }

variable {store} {target : TableId} {table : Table} {draft : Draft} {index : Nat} {free : List Nat}

/-- Declaring what is fit for the table but refused by it uses up one generation of the slot that was
freed last, and changes nothing else. -/
theorem addEntity_of_refused {slot : Arena.Slot Entity} {refusal : Refusal}
    (known : store.table target = .ok table) (valid : store.validate draft table.kind = .ok ())
    (refused : table.file draft.kind.slot draft.name
      (store.entities.alloc (draft.toEntity target)).1 = .error refusal)
    (freed : store.entities.free = index :: free)
    (found : store.entities.slots[index]? = some slot) :
    (store.addEntity target draft).2 = store.emptied index (slot.releases + 1) := by
  have released := Arena.release_alloc freed found (draft.toEntity target)
  unfold addEntity
  simp only [known, valid, refused, released, emptied]

/-- A label declared outside of functions is refused, so it uses up one generation. -/
theorem addEntity_of_strayLabel {slot : Arena.Slot Entity} (known : store.table target = .ok table)
    (outside : table.kind ≠ .functionTable) (label : draft.kind = .label)
    (freed : store.entities.free = index :: free)
    (found : store.entities.slots[index]? = some slot) :
    (store.addEntity target draft).2 = store.emptied index (slot.releases + 1) := by
  have valid : store.validate draft table.kind = .ok () := by
    unfold validate
    rw [label]
    rfl
  have isLabel : draft.kind.slot = .label := by rw [label]; rfl
  obtain ⟨refusal, refused⟩ := Table.file_label_of_kind_ne outside draft.name
    (store.entities.alloc (draft.toEntity target)).1
  exact addEntity_of_refused known valid (isLabel ▸ refused) freed found

/-- Labels declared outside of functions, one after the other, use up one generation each. -/
theorem run_strayLabels {releases : Nat} (known : store.table target = .ok table)
    (outside : table.kind ≠ .functionTable) (label : draft.kind = .label)
    (freed : store.entities.free = index :: free)
    (found : store.entities.slots[index]? = some ⟨releases, none⟩) (count : Nat) :
    store.run (List.replicate count (.addEntity target draft)) =
      store.emptied index (releases + count) := by
  induction count generalizing store releases with
  | zero =>
      rw [emptied, Nat.add_zero, Arena.emptied_self found]
      rfl
  | succ count ih =>
      -- The first round leaves the table and the slot as the next one needs them.
      have first := addEntity_of_strayLabel known outside label freed found
      have again := Arena.slot_emptied found (releases + 1)
      calc store.run (List.replicate (count + 1) (.addEntity target draft))
          = (store.emptied index (releases + 1)).run
              (List.replicate count (.addEntity target draft)) := by
            rw [List.replicate_succ, ← first]
            rfl
        _ = (store.emptied index (releases + 1)).emptied index (releases + 1 + count) :=
            ih known freed again
        _ = store.emptied index (releases + (count + 1)) := by
            simp only [emptied, Arena.emptied_emptied, Nat.add_assoc, Nat.add_comm 1 count]

end ScopeResolution.SymbolStore

import Mathlib.Logic.Relation
import ScopeResolution.Proofs.Store.Arena
import ScopeResolution.Proofs.SymbolStore.Reading
import ScopeResolution.Proofs.Table.Contents

/-! # Edits of the store

Every operation on a symbol store, releasing a table apart, is a sequence of at most two edits. An
edit is one of five changes of the two maps from handles to values (`Edit`), whatever the slots
that the arenas use for it. What edits preserve is therefore proved on the maps, and never again on
the operations. -/

namespace ScopeResolution

/-- The form of the body that an entity gets when one is opened for it. -/
def Entity.bodyForm? (entity : Entity) (id : EntityId) : Option TableForm :=
  match entity.kind with
  | .function _ => some (.functionBody id entity.owner {})
  | .classDecl _ _ => some (.classBody id entity.owner {})
  | .namespaceDecl => some (.namespaceBody id entity.owner)
  | _ => none

/-- What a table is that was opened as the body of an entity and lists nothing yet. -/
structure Table.OpenedFor (table : Table) (id : EntityId) (entity : Entity) : Prop where
  /-- The entity is its owner. -/
  owner?_eq : table.owner? = some id
  /-- It is nested in the table that lists the entity. -/
  parent?_eq : table.parent? = some entity.owner
  /-- It belongs to a function unless the entity is a class or namespace. -/
  isLocal_eq : table.kind.isLocal = !entity.kind.opensRegion
  /-- It is not a block. -/
  not_block : table.kind ≠ .blockTable
  /-- It lists nothing. -/
  listed_eq : table.listed = []
  /-- It owns nothing. -/
  owned_eq : table.owned = []
  /-- It has no entries under any name. -/
  entries_eq : ∀ name, table.entries name = []
  /-- It has no constructors. -/
  constructors_eq : table.constructors = []
  /-- It has no peers. -/
  peers_eq : table.peers = []
  /-- It has no bases. -/
  bases_eq : table.bases = []

/-- A body is empty when it is opened. -/
theorem Entity.openedFor {entity : Entity} {id : EntityId} {form : TableForm}
    (formed : entity.bodyForm? id = some form) : Table.OpenedFor { form } id entity := by
  unfold Entity.bodyForm? at formed
  cases kind : entity.kind <;> rw [kind] at formed <;> cases formed
  all_goals
    constructor
    · rfl
    · rfl
    · rw [kind]; rfl
    · exact fun same => TableKind.noConfusion same
    · rfl
    · rfl
    · exact fun _ => rfl
    · rfl
    · rfl
    · rfl

/-- A draft describes an entity of a table. -/
structure Draft.Describes (draft : Draft) (owner : TableId) (entity : Entity) : Prop where
  /-- The entity has the name of the draft. -/
  name_eq : entity.name = draft.name
  /-- It is what the draft says. -/
  kind_eq : entity.kind = draft.kind
  /-- It has the access of the draft. -/
  access_eq : entity.access = draft.access
  /-- It is declared where the draft is. -/
  location_eq : entity.location = draft.location
  /-- It belongs to the table. -/
  owner_eq : entity.owner = owner

/-- A draft describes the entity that it becomes, whatever body that has. -/
theorem Draft.describes_toEntity (draft : Draft) (owner : TableId) (body : Option TableId) :
    draft.Describes owner { draft.toEntity owner with body } := ⟨rfl, rfl, rfl, rfl, rfl⟩

namespace SymbolStore

/-- A store is well formed when both of its arenas are. -/
structure WellFormed (store : SymbolStore) : Prop where
  /-- The entities are in a well-formed arena. -/
  entities : store.entities.WellFormed
  /-- The tables are in a well-formed arena. -/
  tables : store.tables.WellFormed

/-- The store that holds nothing but the global table is well formed. -/
theorem wellFormed_new (names : NamePool) : (SymbolStore.new names).WellFormed where
  entities := Arena.wellFormed_empty
  tables := Arena.wellFormed_empty.alloc _

/-- The changes of a store that edits make. -/
inductive Change where
  /-- At most the names change. -/
  | rest
  /-- A new entity is filed in a table. -/
  | file (target : TableId) (draft : Draft) (id : EntityId)
  /-- An entity gets a new body. -/
  | openBody (id : EntityId) (body : TableId)
  /-- A new block is opened in a table. -/
  | openBlock (parent block : TableId)
  /-- A table is revised. -/
  | revise (id : TableId)

/-- What the changes make of a store, as changes of its two maps from handles to values. -/
inductive Edit (before : SymbolStore) : Change → SymbolStore → Prop where
  /-- Both maps stay. -/
  | rest {after : SymbolStore} (entities : after.entities.get? = before.entities.get?)
      (tables : after.tables.get? = before.tables.get?) (global : after.global = before.global) :
      Edit before .rest after
  /-- A draft becomes an entity of a table, which takes it in. -/
  | file {after : SymbolStore} {target : TableId} {draft : Draft} {id : EntityId}
      {table filed : Table} (known : before.tables.get? target = some table)
      (fresh : before.entities.get? id = none)
      (filing : Table.Filing table draft.name id draft.kind.slot filed)
      (entities : after.entities.get? =
        Function.update before.entities.get? id (some (draft.toEntity target)))
      (tables : after.tables.get? = Function.update before.tables.get? target (some filed))
      (global : after.global = before.global) :
      Edit before (.file target draft id) after
  /-- A function gets a body in place of its last one, or a class or namespace its only one. -/
  | openBody {after : SymbolStore} {id : EntityId} {body : TableId} {entity : Entity}
      {form : TableForm} (known : before.entities.get? id = some entity)
      (formed : entity.bodyForm? id = some form)
      (vacant : entity.kind.opensRegion = true → entity.body = none)
      (fresh : before.tables.get? body = none)
      (entities : after.entities.get? =
        Function.update before.entities.get? id (some { entity with body := some body }))
      (tables : after.tables.get? = Function.update before.tables.get? body (some { form }))
      (global : after.global = before.global) :
      Edit before (.openBody id body) after
  /-- A function or block gets a block inside it. -/
  | openBlock {after : SymbolStore} {opener : BlockOpener} {parent block : TableId} {outer : Table}
      (known : before.tables.get? parent = some outer) (isLocal : outer.kind.isLocal = true)
      (fresh : before.tables.get? block = none)
      (entities : after.entities.get? = before.entities.get?)
      (tables : after.tables.get? =
        Function.update before.tables.get? block (some { form := .block opener parent }))
      (global : after.global = before.global) :
      Edit before (.openBlock parent block) after
  /-- A table changes in what it lists nowhere. -/
  | revise {after : SymbolStore} {id : TableId} {table revised : Table}
      (known : before.tables.get? id = some table) (revision : Table.Revised table revised)
      (entities : after.entities.get? = before.entities.get?)
      (tables : after.tables.get? = Function.update before.tables.get? id (some revised))
      (global : after.global = before.global) :
      Edit before (.revise id) after

/-- A sequence of edits, each one allowed in the store that it changes. -/
def Edits (allowed : SymbolStore → Change → Prop) : SymbolStore → SymbolStore → Prop :=
  Relation.ReflTransGen fun before after =>
    ∃ change, allowed before change ∧ Edit before change after

namespace Edits

variable {allowed : SymbolStore → Change → Prop} {before after : SymbolStore}

/-- One allowed edit is a sequence. -/
theorem single (change : Change) (permitted : allowed before change)
    (edit : Edit before change after) : Edits allowed before after :=
  Relation.ReflTransGen.single ⟨change, permitted, edit⟩

/-- What every allowed edit preserves is preserved by a sequence of them. -/
theorem preserve (invariant : SymbolStore → Prop) (edits : Edits allowed before after)
    (holds : invariant before)
    (step : ∀ before change after, invariant before → allowed before change →
      Edit before change after → invariant after) : invariant after := by
  induction edits with
  | refl => exact holds
  | tail _ edit ih =>
      obtain ⟨change, permitted, edit⟩ := edit
      exact step _ change _ ih permitted edit

end Edits

variable {store : SymbolStore}

/-! ## Operations as edits -/

/-- A new name changes at most the names. -/
theorem intern_edit (wellFormed : store.WellFormed) (text : String) :
    Edit store .rest (store.intern text).2 ∧ (store.intern text).2.WellFormed :=
  ⟨.rest rfl rfl rfl, ⟨wellFormed.entities, wellFormed.tables⟩⟩

/-- Giving an entity a body of its form opens that body. -/
theorem giveBody_edit (wellFormed : store.WellFormed) {id : EntityId} {entity : Entity}
    {form : TableForm} (known : store.entities.get? id = some entity)
    (formed : entity.bodyForm? id = some form)
    (vacant : entity.kind.opensRegion = true → entity.body = none) :
    Edit store (.openBody id (store.giveBody id form).1) (store.giveBody id form).2 ∧
      (store.giveBody id form).2.WellFormed := by
  refine ⟨.openBody known formed vacant ?_ ?_ ?_ rfl, ⟨?_, ?_⟩⟩
  · exact Arena.get?_alloc_fresh wellFormed.tables _
  · show (store.entities.modify id _).get? = _
    rw [Arena.get?_modify, known]
    rfl
  · exact Arena.get?_alloc wellFormed.tables _
  · exact wellFormed.entities.modify id _
  · exact wellFormed.tables.alloc _

/-- Opening the body of a function is an edit. -/
theorem openFunction_edit (wellFormed : store.WellFormed) {id : EntityId} {body : TableId}
    {after : SymbolStore} (opened : store.openFunction id = .ok (body, after)) :
    Edit store (.openBody id body) after ∧ after.WellFormed ∧
      ∃ entity, store.entities.get? id = some entity ∧ entity.kind.opensRegion = false := by
  unfold openFunction at opened
  obtain ⟨entity, known, opened⟩ := bind_eq_ok_iff.1 opened
  rw [entity_eq_ok_iff] at known
  cases isFunction : entity.kind.function? with
  | none => rw [isFunction] at opened; cases opened
  | some info =>
      rw [isFunction] at opened
      rw [pure_eq_ok_iff] at opened
      -- Of the kinds that can be given a body, only functions answer as functions.
      have kind : entity.kind = .function info := by
        cases kind : entity.kind <;> rw [kind] at isFunction <;> cases isFunction
        rfl
      have notRegion : entity.kind.opensRegion = false := by rw [kind]; rfl
      have formed : entity.bodyForm? id = some (.functionBody id entity.owner {}) := by
        unfold Entity.bodyForm?
        rw [kind]
      have edit := giveBody_edit wellFormed known formed fun opens => by
        rw [notRegion] at opens; cases opens
      rw [opened] at edit
      exact ⟨edit.1, edit.2, entity, known, notRegion⟩

/-- Opening a block is an edit. -/
theorem openBlock_edit (wellFormed : store.WellFormed) {opener : BlockOpener}
    {parent block : TableId} {after : SymbolStore}
    (opened : store.openBlock opener parent = .ok (block, after)) :
    Edit store (.openBlock parent block) after ∧ after.WellFormed := by
  unfold openBlock at opened
  obtain ⟨outer, known, opened⟩ := bind_eq_ok_iff.1 opened
  rw [table_eq_ok_iff] at known
  split at opened
  · rename_i isLocal
    have fresh := Arena.get?_alloc_fresh wellFormed.tables { form := .block opener parent }
    have grown := Arena.get?_alloc wellFormed.tables { form := .block opener parent }
    have grown_wellFormed := wellFormed.tables.alloc { form := .block opener parent }
    generalize store.tables.alloc { form := .block opener parent } = allocated at *
    cases opened
    exact ⟨.openBlock known isLocal fresh rfl grown rfl, ⟨wellFormed.entities, grown_wellFormed⟩⟩
  · cases opened

/-- Opening the region of a new entity gives it a body if it is a class or namespace, and changes
nothing otherwise. -/
theorem openRegion_edit (wellFormed : store.WellFormed) {id : EntityId} {target : TableId}
    {draft : Draft} (known : store.entities.get? id = some (draft.toEntity target)) :
    (draft.kind.opensRegion = false ∧ store.openRegion id target draft.kind = store ∨
        draft.kind.opensRegion = true ∧
          ∃ body, Edit store (.openBody id body) (store.openRegion id target draft.kind)) ∧
      (store.openRegion id target draft.kind).WellFormed := by
  have open_ {form : TableForm} (formed : (draft.toEntity target).bodyForm? id = some form) :=
    giveBody_edit wellFormed known formed fun _ => rfl
  -- A new entity has no body yet, so nothing stands in the way of one.
  cases kind : draft.kind with
  | namespaceDecl =>
      have formed : (draft.toEntity target).bodyForm? id = some (.namespaceBody id target) := by
        simp only [Entity.bodyForm?, Draft.toEntity, kind]
      exact ⟨Or.inr ⟨rfl, _, (open_ formed).1⟩, (open_ formed).2⟩
  | classDecl key isTemplate =>
      have formed : (draft.toEntity target).bodyForm? id = some (.classBody id target {}) := by
        simp only [Entity.bodyForm?, Draft.toEntity, kind]
      exact ⟨Or.inr ⟨rfl, _, (open_ formed).1⟩, (open_ formed).2⟩
  | _ => exact ⟨Or.inl ⟨rfl, rfl⟩, wellFormed⟩

/-- An entity that is allocated and released again leaves no trace in the maps. -/
theorem rollback_edit (wellFormed : store.WellFormed) (entity : Entity) :
    let allocated := store.entities.alloc entity
    let after := { store with entities := allocated.2.release allocated.1 }
    Edit store .rest after ∧ after.WellFormed := by
  refine ⟨.rest ?_ rfl rfl, ⟨(wellFormed.entities.alloc entity).release _, wellFormed.tables⟩⟩
  show ((store.entities.alloc entity).2.release _).get? = _
  -- The handle was stale before, so the map is updated with what it held there.
  rw [Arena.get?_release, Arena.get?_alloc wellFormed.entities, Function.update_idem,
    ← Arena.get?_alloc_fresh wellFormed.entities entity, Function.update_eq_self]

/-- Adding an entity is at most two edits: it is filed under a handle that was stale, and gets its
body if it is a class or namespace. When it cannot be filed, nothing changes. -/
theorem addEntity_edits (allowed : SymbolStore → Change → Prop) (wellFormed : store.WellFormed)
    (target : TableId) (draft : Draft) (rest : allowed store .rest)
    (file : ∀ id, store.entities.get? id = none → allowed store (.file target draft id))
    (openBody : ∀ filed id body entity, store.entities.get? id = none →
      filed.entities.get? id = some entity → entity.kind.opensRegion = true →
        allowed filed (.openBody id body)) :
    Edits allowed store (store.addEntity target draft).2 ∧
      (store.addEntity target draft).2.WellFormed := by
  have unchanged : Edits allowed store store := Relation.ReflTransGen.refl
  unfold addEntity
  cases found : store.table target with
  | error failure => exact ⟨unchanged, wellFormed⟩
  | ok table =>
      rw [table_eq_ok_iff] at found
      simp only
      cases store.validate draft table.kind with
      | error failure => exact ⟨unchanged, wellFormed⟩
      | ok =>
          simp only
          cases filed : table.file draft.kind.slot draft.name
              (store.entities.alloc (draft.toEntity target)).1 with
          | error refusal =>
              -- The handle that was taken for the draft is stale again.
              have rolled := rollback_edit wellFormed (draft.toEntity target)
              exact ⟨.single _ rest rolled.1, rolled.2⟩
          | ok placed =>
              obtain ⟨index, listing⟩ := placed
              have fresh := Arena.get?_alloc_fresh wellFormed.entities (draft.toEntity target)
              have filing := Table.filing_of_file filed
              -- From here on, only the map of the new arena counts, not how it was made.
              generalize created : store.entities.alloc (draft.toEntity target) = allocated at *
              let middle : SymbolStore :=
                { store with
                  entities := allocated.2
                  tables := store.tables.set target listing }
              have middle_entities : middle.entities.get? = Function.update store.entities.get?
                  allocated.1 (some (draft.toEntity target)) := by
                have grown := Arena.get?_alloc wellFormed.entities (draft.toEntity target)
                rwa [created] at grown
              have filing_edit : Edit store (.file target draft allocated.1) middle :=
                .file found fresh filing middle_entities (Arena.get?_set found listing) rfl
              have middle_wellFormed : middle.WellFormed := by
                have grown := wellFormed.entities.alloc (draft.toEntity target)
                rw [created] at grown
                exact ⟨grown, wellFormed.tables.set found listing⟩
              have known : middle.entities.get? allocated.1 = some (draft.toEntity target) := by
                rw [middle_entities, Function.update_self]
              have filed_edits : Edits allowed store middle :=
                .single _ (file _ fresh) filing_edit
              obtain ⟨opened, opened_wellFormed⟩ := openRegion_edit middle_wellFormed known
              refine ⟨?_, opened_wellFormed⟩
              rcases opened with ⟨-, same⟩ | ⟨opens, body, edit⟩
              · show Edits allowed store (middle.openRegion allocated.1 target draft.kind)
                rw [same]
                exact filed_edits
              · exact filed_edits.tail ⟨_, openBody middle _ body _ fresh known opens, edit⟩

/-- Exchanging a table for a revision of it is an edit. -/
theorem revise_edit (wellFormed : store.WellFormed) {id : TableId} {table revised : Table}
    (known : store.tables.get? id = some table) (revision : Table.Revised table revised) :
    let after := { store with tables := store.tables.set id revised }
    Edit store (.revise id) after ∧ after.WellFormed :=
  ⟨.revise known revision rfl (Arena.get?_set known revised) rfl,
    ⟨wellFormed.entities, wellFormed.tables.set known revised⟩⟩

/-- Adding a peer revises the table, or changes at most the names. -/
theorem addPeer_edits (allowed : SymbolStore → Change → Prop) (wellFormed : store.WellFormed)
    (target peer : TableId) (rest : allowed store .rest)
    (revise : allowed store (.revise target)) :
    Edits allowed store (store.addPeer target peer).2 ∧
      (store.addPeer target peer).2.WellFormed := by
  unfold addPeer
  split
  · exact ⟨Relation.ReflTransGen.refl, wellFormed⟩
  · exact ⟨Relation.ReflTransGen.refl, wellFormed⟩
  · rename_i table _ found
    rw [table_eq_ok_iff] at found
    cases added : table.addPeer peer with
    | ok revised =>
        have edit := revise_edit wellFormed found (.peer peer added)
        exact ⟨.single _ revise edit.1, edit.2⟩
    | error refusal =>
        have edit := intern_edit wellFormed "using"
        exact ⟨.single _ rest edit.1, edit.2⟩

/-- Adding a base that the table takes puts what it makes of the table in its place. -/
theorem addBase_eq_ok {target : TableId} {base : Base} {after : SymbolStore}
    (added : store.addBase target base = .ok after) :
    ∃ table revised, store.tables.get? target = some table ∧ table.addBase base = .ok revised ∧
      after = { store with tables := store.tables.set target revised } := by
  unfold addBase at added
  obtain ⟨entity, -, added⟩ := bind_eq_ok_iff.1 added
  obtain ⟨table, known, added⟩ := bind_eq_ok_iff.1 added
  rw [table_eq_ok_iff] at known
  cases grown : table.addBase base with
  | error refusal => rw [grown] at added; cases added
  | ok revised =>
      rw [grown] at added
      cases added
      exact ⟨table, revised, known, grown, rfl⟩

/-- Completing a class puts the complete table in place of the table. -/
theorem complete_eq_ok {target : TableId} {after : SymbolStore}
    (completed : store.complete target = .ok after) :
    ∃ table revised, store.tables.get? target = some table ∧ table.complete? = some revised ∧
      after = { store with tables := store.tables.set target revised } := by
  unfold complete at completed
  obtain ⟨table, known, completed⟩ := bind_eq_ok_iff.1 completed
  rw [table_eq_ok_iff] at known
  cases closed : table.complete? with
  | none => rw [closed] at completed; cases completed
  | some revised =>
      rw [closed] at completed
      cases completed
      exact ⟨table, revised, known, closed, rfl⟩

/-- Adding a base revises the table. -/
theorem addBase_edit (wellFormed : store.WellFormed) {target : TableId} {base : Base}
    {after : SymbolStore} (added : store.addBase target base = .ok after) :
    Edit store (.revise target) after ∧ after.WellFormed := by
  obtain ⟨table, revised, known, grown, rfl⟩ := addBase_eq_ok added
  exact revise_edit wellFormed known (.base base grown)

/-- Completing a class revises its table. -/
theorem complete_edit (wellFormed : store.WellFormed) {target : TableId} {after : SymbolStore}
    (completed : store.complete target = .ok after) :
    Edit store (.revise target) after ∧ after.WellFormed := by
  obtain ⟨table, revised, known, closed, rfl⟩ := complete_eq_ok completed
  exact revise_edit wellFormed known (.completed closed)

end SymbolStore

end ScopeResolution

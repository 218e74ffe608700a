import ScopeResolution.Proofs.SymbolStore.Confinement
import ScopeResolution.Proofs.Table.Slots

/-! # Where entities are listed

Every entity is in its place: the table that it belongs to is there and lists it in the slot of its
kind under its name, and its body is nested in that table (`Catalogued`). Edits keep entities in
their places (`Catalogued.edit`), and so does releasing a table, which takes with it all that the
table lists (`Catalogued.released`). A label that takes the place of another one is the exception,
so the slots that are kept track of are a parameter. Whatever the slots are, no entry of a table is
repeated (`DistinctEntries`). -/

namespace ScopeResolution.SymbolStore

/-- The entities of some slots are listed where they belong, and bodies are nested where their
entities belong. -/
structure Catalogued (store : SymbolStore) (slots : EntrySlot → Prop) : Prop where
  /-- The owner of an entity lists it. -/
  listed : ∀ id entity, store.entities.get? id = some entity → slots entity.kind.slot →
    ∃ table, store.tables.get? entity.owner = some table ∧
      table.Lists entity.kind.slot entity.name id
  /-- The body of an entity is nested in its owner. -/
  nested : ∀ id entity region table, store.entities.get? id = some entity →
    entity.body = some region → store.tables.get? region = some table →
      table.parent? = some entity.owner

variable {before after : SymbolStore} {slots : EntrySlot → Prop}

/-- The store that holds nothing but the global table has no entities. -/
theorem catalogued_new (names : NamePool) (slots : EntrySlot → Prop) :
    (SymbolStore.new names).Catalogued slots where
  listed := by
    intro id entity known
    cases (Arena.get?_empty id).symm.trans known
  nested := by
    intro id entity region table known
    cases (Arena.get?_empty id).symm.trans known

/-- A table goes on listing what it listed after an edit that replaces no label. -/
theorem Change.AltersTable.lists_kept {change : Change} {id : TableId} {table later : Table}
    (altered : change.AltersTable id table later) (known : before.tables.get? id = some table)
    {slot : EntrySlot} (noRelabel : slot = .label → change.NoRelabel before) {name : Name}
    {member : EntityId} (lists : table.Lists slot name member) : later.Lists slot name member := by
  cases altered with
  | keep => exact lists
  | revise revision => exact revision.lists_kept lists
  | file filing =>
      exact filing.lists_kept (fun filesLabel isLabel => noRelabel isLabel filesLabel table known)
        lists

namespace Catalogued

/-- What holds of some slots holds of fewer. -/
theorem mono {store : SymbolStore} (catalogued : store.Catalogued slots)
    {fewer : EntrySlot → Prop} (among : ∀ slot, fewer slot → slots slot) :
    store.Catalogued fewer where
  listed id entity known inSlots := catalogued.listed id entity known (among _ inSlots)
  nested := catalogued.nested

/-- Edits keep entities in their places, if labels are not kept track of or none is replaced. -/
theorem edit (catalogued : before.Catalogued slots) (linked : before.Linked) {change : Change}
    (edit : Edit before change after) (noRelabel : slots .label → change.NoRelabel before) :
    after.Catalogued slots := by
  constructor
  · intro id entity found inSlots
    cases known : before.entities.get? id with
    | some old =>
        have altered := edit.alters_entity known found
        rw [altered.kind_eq] at inSlots
        obtain ⟨table, tableKnown, lists⟩ := catalogued.listed id old known inSlots
        obtain ⟨grown, grownKnown, alteredTable⟩ := edit.table_later tableKnown
        rw [altered.kind_eq, altered.owner_eq, altered.name_eq]
        refine ⟨grown, grownKnown, alteredTable.lists_kept tableKnown ?_ lists⟩
        exact fun isLabel => noRelabel (isLabel ▸ inSlots)
    | none =>
        obtain ⟨target, draft, table, filed, rfl, rfl, tableKnown, filedKnown, filing⟩ :=
          edit.entity_origin known found
        refine ⟨filed, filedKnown, filing.lists_new fun isLabel => ?_⟩
        have isDraft : draft.kind.slot = .label := isLabel
        exact noRelabel (isDraft ▸ inSlots) isDraft table tableKnown
  · intro id entity region table found body regionFound
    cases known : before.entities.get? id with
    | some old =>
        have altered := edit.alters_entity known found
        cases altered with
        | keep =>
            obtain ⟨inner, innerKnown, -⟩ := linked.body id entity region known body
            obtain ⟨later, laterKnown, place⟩ := edit.table_kept innerKnown
            rw [regionFound, Option.some.injEq] at laterKnown
            rw [laterKnown, place.parent?_eq, catalogued.nested id entity region inner known body
              innerKnown]
        | openBody vacant =>
            cases body
            obtain ⟨-, opener, opened, openerKnown, openedKnown, isOpened⟩ := edit.opened
            rw [known, Option.some.injEq] at openerKnown
            rw [regionFound, Option.some.injEq] at openedKnown
            rw [openedKnown, isOpened.parent?_eq, ← openerKnown]
    | none =>
        -- A new entity has no body.
        obtain ⟨target, draft, -, -, -, rfl, -⟩ := edit.entity_origin known found
        cases body

/-- Releasing a table keeps the entities that are left in their places. -/
theorem released (catalogued : before.Catalogued slots) {id : TableId}
    (released : Released before id after) : after.Catalogued slots := by
  constructor
  · intro member entity found inSlots
    obtain ⟨old, known, rfl, notOwned⟩ := released.entity_left found
    rw [Entity.forget_kind] at inSlots
    obtain ⟨table, tableKnown, lists⟩ := catalogued.listed member old known inSlots
    -- A released table would have taken the entity with it.
    have outside : ¬ before.Within id old.owner := fun within =>
      notOwned ⟨old.owner, table, within, tableKnown, lists.mem_owned⟩
    rw [Entity.forget_kind, Entity.forget_owner, Entity.forget_name]
    exact ⟨table, by rw [released.table_kept old.owner outside, tableKnown], lists⟩
  · intro member entity region table found body regionFound
    obtain ⟨old, known, rfl, -⟩ := released.entity_left found
    rw [Entity.forget_body_eq_some_iff] at body
    rw [Entity.forget_owner]
    exact catalogued.nested member old region table known body.1
      (released.table_left regionFound).1

end Catalogued

/-! ## Repetitions -/

/-- No table has an own entry twice under one name. -/
def DistinctEntries (store : SymbolStore) : Prop :=
  ∀ id table, store.tables.get? id = some table → ∀ name, (table.entries name).Nodup

/-- The store that holds nothing but the global table has no entries. -/
theorem distinctEntries_new (names : NamePool) : (SymbolStore.new names).DistinctEntries := by
  intro id table known name
  rw [(only_global known).2]
  exact List.nodup_nil

namespace DistinctEntries

/-- Edits repeat no entry: what they file was not there before. -/
theorem edit (distinct : before.DistinctEntries) (linked : before.Linked) {change : Change}
    (edit : Edit before change after) : after.DistinctEntries := by
  intro id table found name
  rcases edit.entries_origin found name with none | ⟨old, known, -, origin⟩
  · rw [none]
    exact List.nodup_nil
  · have unrepeated := distinct id old known name
    rcases origin with same | ⟨draft, new, rfl, rfl, -, -, appended | alone⟩
    · rwa [same]
    · have unlisted : new ∉ old.entries draft.name := by
        intro entry
        obtain ⟨entity, newKnown, -⟩ :=
          linked.listed id old known new (old.entries_subset_listed draft.name entry)
        rw [edit.filed.1] at newKnown
        cases newKnown
      rw [appended, ← List.concat_eq_append]
      exact unrepeated.concat unlisted
    · rw [alone]
      exact List.nodup_singleton new

/-- Releasing a table leaves the entries of the others alone. -/
theorem released (distinct : before.DistinctEntries) {id : TableId}
    (released : Released before id after) : after.DistinctEntries :=
  fun other table found => distinct other table (released.table_left found).1

end DistinctEntries

end ScopeResolution.SymbolStore

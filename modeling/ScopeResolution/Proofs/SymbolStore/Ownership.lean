import ScopeResolution.Proofs.SymbolStore.Closure
import ScopeResolution.Proofs.Table.Ownership

/-! # Ownership and release

What a table owns goes with it when it is released, and what it was asked to file and does not own
stays behind. So releasing a table releases every entity that was ever filed in it, but for labels
that later labels of the same name replaced (`ownership_of_filings`). Such a label outlives the table
that it belongs to (`repeatLabel_leaves_label`). -/

namespace ScopeResolution.SymbolStore

variable {store after : SymbolStore} {id : TableId} {table : Table} {member : EntityId}

/-- What a table owns is gone when the table is released. -/
theorem Released.owned_gone (released : Released store id after)
    (known : store.tables.get? id = some table) (owned : member ∈ table.owned) :
    after.entities.get? member = none :=
  released.entity_gone member ⟨id, table, Relation.ReflTransGen.refl, known, owned⟩

/-- What belongs to a table and is not owned by it stays when the table is released. -/
theorem Released.unowned_stays (released : Released store id after) (linked : store.Linked)
    (known : store.tables.get? id = some table) (unowned : member ∉ table.owned) {entity : Entity}
    (found : store.entities.get? member = some entity) (owner : entity.owner = id) :
    ∃ left, after.entities.get? member = some left := by
  have outside : ¬ store.OwnedWithin id member := by
    rintro ⟨inner, holder, -, holderKnown, owned⟩
    -- No other table owns it, because it belongs to this one.
    have isInner := linked.owner_eq holderKnown (holder.owned_subset_listed owned) found
    obtain rfl : inner = id := isInner.symm.trans owner
    rw [known, Option.some.injEq] at holderKnown
    exact unowned (holderKnown ▸ owned)
  exact ⟨entity.forget id, by rw [released.entity_kept member outside, found, Option.map_some]⟩

/-- A table that owned nothing, and in which distinct entities were filed in any slots under any
names, owns each of them once, but for the labels that later labels of the same name replaced; so it
owns all of them when no two labels have the same name. Wherever such a table stands in a store that
can be reached, and it is not the global one, it can be released, and that releases what was filed in
it and not replaced; a label that was replaced stays. -/
theorem ownership_of_filings {table filled : Table} {entries : List Entry}
    (empty : table.owned = []) (distinct : (entries.map (·.entity)).Nodup)
    (filed : table.fileAll entries = .ok filled) :
    (filled.owned.Perm ((Entry.unreplaced entries).map (·.entity)) ∧ filled.owned.Nodup ∧
      ((entries.Pairwise fun entry other => entry.slot = .label → ¬ other.Labels entry.name) →
        filled.owned.Perm (entries.map (·.entity)))) ∧
    ∀ names operations id, let store := (SymbolStore.new names).run operations
      store.tables.get? id = some filled → id ≠ store.global →
        ∃ count after, store.removeTable id = .ok (count, after) ∧ ∀ entry ∈ entries,
          (entry ∈ Entry.unreplaced entries → after.entities.get? entry.entity = none) ∧
          (entry ∉ Entry.unreplaced entries → ∀ entity,
            store.entities.get? entry.entity = some entity → entity.owner = id →
              ∃ left, after.entities.get? entry.entity = some left) := by
  have owns := Table.owned_of_fileAll_of_owned_eq_nil empty filed
  have among := Entry.unreplaced_sublist entries
  refine ⟨⟨owns, owns.nodup_iff.2 (distinct.sublist (among.map _)), fun unrepeated => ?_⟩, ?_⟩
  · rwa [Entry.unreplaced_eq_self unrepeated] at owns
  · intro names operations id store known ne_global
    have sound := (sound_new names).run operations
    obtain ⟨count, after, removed⟩ := removeTable_eq_ok ne_global known
    obtain ⟨released, -⟩ := removeTable_released sound.linked sound.wellFormed removed
    refine ⟨count, after, removed, fun entry listed => ⟨fun stays => ?_, fun replaced => ?_⟩⟩
    · exact released.owned_gone known (owns.mem_iff.2 (List.mem_map_of_mem stays))
    · intro entity found owner
      refine released.unowned_stays sound.linked known (fun owned => replaced ?_) found owner
      obtain ⟨other, stays, same⟩ := List.mem_map.1 (owns.mem_iff.1 owned)
      -- Entries of one entity are the same.
      have isEntry := List.inj_on_of_nodup_map distinct (among.subset stays) listed same
      exact isEntry ▸ stays

/-- A function with three labels, the first and the last of which have the same name. -/
def repeatLabel : List Operation :=
  let root := (SymbolStore.new {}).global
  [.addEntity root { name := ⟨0⟩, kind := .function { type := DeclType.void.function {} } },
    .openFunction ⟨0, 0⟩,
    .addEntity ⟨1, 0⟩ { name := ⟨1⟩, kind := .label },
    .addEntity ⟨1, 0⟩ { name := ⟨2⟩, kind := .label },
    .addEntity ⟨1, 0⟩ { name := ⟨1⟩, kind := .label }]

/-- The three labels. -/
def repeatedLabels : List Entry :=
  [⟨.label, ⟨1⟩, ⟨1, 0⟩⟩, ⟨.label, ⟨2⟩, ⟨2, 0⟩⟩, ⟨.label, ⟨1⟩, ⟨3, 0⟩⟩]

/-- The last two labels go with the body of the function. The first one was replaced, and it is
left. -/
theorem repeatLabel_releases_two :
    let store := (SymbolStore.new {}).run repeatLabel
    let table : Table := { form := .functionBody ⟨0, 0⟩ store.global {} }
    table.owned = [] ∧ (repeatedLabels.map (·.entity)).Nodup ∧
      ∃ filled, table.fileAll repeatedLabels = .ok filled ∧
        filled.owned.Perm [⟨2, 0⟩, ⟨3, 0⟩] ∧
        ∃ count after, store.removeTable ⟨1, 0⟩ = .ok (count, after) ∧
          after.entities.get? ⟨2, 0⟩ = none ∧ after.entities.get? ⟨3, 0⟩ = none ∧
          ∃ left, after.entities.get? ⟨1, 0⟩ = some left := by
  intro store table
  have distinct : (repeatedLabels.map (·.entity)).Nodup := by decide
  obtain ⟨filled, filed, known⟩ : ∃ filled, table.fileAll repeatedLabels = .ok filled ∧
      store.tables.get? ⟨1, 0⟩ = some filled := ⟨_, rfl, by decide +kernel⟩
  obtain ⟨⟨owns, -⟩, releases⟩ := ownership_of_filings rfl distinct filed
  obtain ⟨count, after, removed, outcome⟩ := releases {} repeatLabel ⟨1, 0⟩ known (by decide +kernel)
  have belongs : (store.entities.get? ⟨1, 0⟩).map Entity.owner = some ⟨1, 0⟩ := by decide +kernel
  obtain ⟨entity, found, owner⟩ := Option.map_eq_some_iff.1 belongs
  exact ⟨rfl, distinct, filled, filed, owns, count, after, removed,
    (outcome ⟨.label, ⟨2⟩, ⟨2, 0⟩⟩ (by decide)).1 (by decide),
    (outcome ⟨.label, ⟨1⟩, ⟨3, 0⟩⟩ (by decide)).1 (by decide),
    (outcome ⟨.label, ⟨1⟩, ⟨1, 0⟩⟩ (by decide)).2 (by decide) entity found owner⟩

/-- The three labels are distinct and were filed, but the table does not own all of them, and one is
left when it is released. -/
theorem repeatLabel_leaves_label :
    let store := (SymbolStore.new {}).run repeatLabel
    let table : Table := { form := .functionBody ⟨0, 0⟩ store.global {} }
    table.owned = [] ∧ (repeatedLabels.map (·.entity)).Nodup ∧
      ∃ filled, table.fileAll repeatedLabels = .ok filled ∧
        store.tables.get? ⟨1, 0⟩ = some filled ∧
        ¬ filled.owned.Perm (repeatedLabels.map (·.entity)) ∧
        (store.removeTable ⟨1, 0⟩).map (fun (count, after) =>
          (count, (after.entities.get? ⟨1, 0⟩).map Entity.owner)) = .ok (2, some ⟨1, 0⟩) := by
  intro store table
  exact ⟨rfl, by decide, _, rfl, by decide +kernel, by decide +kernel, by decide +kernel⟩

end ScopeResolution.SymbolStore

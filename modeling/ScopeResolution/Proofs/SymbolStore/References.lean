import ScopeResolution.Proofs.SymbolStore.Removal

/-! # References across the store

Beside the links between a table and what it lists, a store keeps three kinds of references, from
any table to any other place: the peers of a table, the bases of a class, and what an alias in a
table stands for (`Refers`). Each is recorded by one operation, which is traced back here: edits add
no reference but for an alias that they file and for a table that they revise (`Edit.refers`), and
releasing a table adds none (`Released.refers`). -/

namespace ScopeResolution

/-- What a table refers to. -/
inductive Reference where
  /-- A table. -/
  | table (id : TableId)
  /-- An entity. -/
  | entity (id : EntityId)
deriving DecidableEq, Repr, Inhabited

namespace Table

/-- What a lookup in a table goes on to: the peers of the table, and its bases. -/
def references (table : Table) : List Reference :=
  table.peers.map .table ++ table.bases.map fun base => .entity base.entity

variable {table after : Table} {reference : Reference}

/-- Tables with the same peers and bases have the same references. -/
theorem references_congr (peers : after.peers = table.peers) (bases : after.bases = table.bases) :
    after.references = table.references := by
  rw [references, references, peers, bases]

/-- Filing adds no reference. -/
theorem Filing.references_eq {name : Name} {id : EntityId} {slot : EntrySlot}
    (filing : Filing table name id slot after) : after.references = table.references := by
  cases filing with
  | member => exact references_congr rfl rfl
  | constructor form => exact references_congr rfl (by simp [bases, class?, form])
  | destructor form => exact references_congr rfl (by simp [bases, class?, form])
  | conversion form => exact references_congr rfl (by simp [bases, class?, form])
  | parameter form => exact references_congr rfl (by simp [bases, class?, form])
  | label form => exact references_congr rfl (by simp [bases, class?, form])

/-- A further peer is the one reference more. -/
theorem mem_references_of_addPeer {peer : TableId} (added : table.addPeer peer = .ok after)
    (listed : reference ∈ after.references) :
    reference ∈ table.references ∨ reference = .table peer := by
  have grown : after = table.withPeer peer := by
    unfold addPeer at added
    split at added
    · split at added
      · cases added
      · cases added; rfl
    · cases added
    · cases added; rfl
  rw [grown] at listed
  unfold withPeer at listed
  split at listed
  · exact Or.inl listed
  · simp only [references, bases, class?, List.map_append, List.map_cons, List.map_nil,
      List.mem_append, List.mem_singleton] at listed ⊢
    tauto

/-- A further base is the one reference more. -/
theorem mem_references_of_addBase {base : Base} (added : table.addBase base = .ok after)
    (listed : reference ∈ after.references) :
    reference ∈ table.references ∨ reference = .entity base.entity := by
  unfold addBase at added
  split at added
  · rename_i form
    split at added
    · cases added
    · cases added
      simp only [references, bases, class?, form, Option.map_some, Option.getD_some,
        List.map_append, List.map_cons, List.map_nil, List.mem_append, List.mem_singleton]
        at listed ⊢
      tauto
  · cases added

/-- The table of a class keeps its references when the class is completed. -/
theorem references_of_complete (completed : table.complete? = some after) :
    after.references = table.references := by
  unfold complete? at completed
  split at completed
  · rename_i form
    cases completed
    exact references_congr rfl (by simp [bases, class?, form])
  · cases completed

end Table

namespace SymbolStore

/-- A table refers to its peers, to its bases, and to what the aliases that belong to it stand
for. -/
inductive Refers (store : SymbolStore) : TableId → Reference → Prop where
  /-- To a peer or a base. -/
  | onward {id : TableId} {table : Table} {reference : Reference}
      (known : store.tables.get? id = some table) (listed : reference ∈ table.references) :
      Refers store id reference
  /-- To what an alias stands for. -/
  | standIn {id target : EntityId} {entity : Entity} (known : store.entities.get? id = some entity)
      (stands : entity.kind.aliasedEntity? = some target) :
      Refers store entity.owner (.entity target)

/-- An entity is there, and so is the table that it belongs to. -/
def Known (store : SymbolStore) (id : EntityId) : Prop :=
  ∃ entity table, store.entities.get? id = some entity ∧ store.tables.get? entity.owner = some table

/-- What is referred to is there. -/
def Has (store : SymbolStore) : Reference → Prop
  | .table id => ∃ table, store.tables.get? id = some table
  | .entity id => store.Known id

/-- The change files an alias in a table. -/
def Change.FilesAlias (change : Change) (id : TableId) (reference : Reference) : Prop :=
  ∃ draft new target, change = .file id draft new ∧ draft.kind.aliasedEntity? = some target ∧
    reference = .entity target

variable {before after : SymbolStore} {id : TableId} {reference : Reference}

/-- What a table refers to after an edit, it referred to before, or the edit filed it as an alias or
revised the table. -/
theorem Edit.refers {change : Change} (edit : Edit before change after)
    (refers : after.Refers id reference) :
    before.Refers id reference ∨ change = .revise id ∨ change.FilesAlias id reference := by
  cases refers with
  | @onward _ table _ found listed =>
      cases known : before.tables.get? id with
      | some old =>
          cases edit.alters known found with
          | keep => exact Or.inl (.onward known listed)
          | file filing => exact Or.inl (.onward known (by rwa [← filing.references_eq]))
          | revise => exact Or.inr (Or.inl rfl)
      | none =>
          -- A table that the edit made refers to nothing yet.
          have nothing : table.references = [] := by
            rcases edit.table_origin known found with ⟨_, _, -, -, opened, -⟩ | ⟨_, _, -, rfl⟩
            · rw [Table.references, opened.peers_eq, opened.bases_eq]
              rfl
            · rfl
          rw [nothing] at listed
          cases listed
  | @standIn member target entity found stands =>
      cases known : before.entities.get? member with
      | some old =>
          have altered := edit.alters_entity known found
          rw [altered.kind_eq] at stands
          rw [altered.owner_eq]
          exact Or.inl (.standIn known stands)
      | none =>
          obtain ⟨owner, draft, -, -, filed, rfl, -⟩ := edit.entity_origin known found
          exact Or.inr (Or.inr ⟨draft, member, target, filed, stands, rfl⟩)

/-- What a table refers to after a release, it referred to before. -/
theorem Released.refers {released : TableId} (release : Released before released after)
    (refers : after.Refers id reference) : before.Refers id reference := by
  cases refers with
  | onward found listed => exact .onward (release.table_left found).1 listed
  | standIn found stands =>
      obtain ⟨old, known, rfl, -⟩ := release.entity_left found
      rw [Entity.forget_kind] at stands
      rw [Entity.forget_owner]
      exact .standIn known stands

variable {store : SymbolStore} {target : TableId}

/-- When one table is exchanged, no other one refers to more. -/
theorem refers_of_set {table revised : Table} (known : store.tables.get? target = some table)
    (refers : { store with tables := store.tables.set target revised }.Refers id reference) :
    store.Refers id reference ∨ id = target ∧ reference ∈ revised.references := by
  cases refers with
  | onward found listed =>
      rw [Arena.get?_set known revised, Function.update_apply] at found
      split at found
      · rename_i here
        cases found
        exact Or.inr ⟨here, listed⟩
      · exact Or.inl (.onward found listed)
  | standIn found stands => exact Or.inl (.standIn found stands)

/-- Adding a peer adds this one reference at most, and none when it fails. -/
theorem refers_of_addPeer {peer : TableId}
    (refers : (store.addPeer target peer).2.Refers id reference) :
    store.Refers id reference ∨
      (store.addPeer target peer).1 = .ok () ∧ id = target ∧ reference = .table peer := by
  unfold addPeer at refers ⊢
  split at refers
  · exact Or.inl refers
  · exact Or.inl refers
  · rename_i table _ known
    rw [table_eq_ok_iff] at known
    cases added : table.addPeer peer with
    | error refusal =>
        rw [added] at refers
        cases refers with
        | onward found listed => exact Or.inl (.onward found listed)
        | standIn found stands => exact Or.inl (.standIn found stands)
    | ok revised =>
        rw [added] at refers
        rcases refers_of_set known refers with older | ⟨here, listed⟩
        · exact Or.inl older
        · rcases Table.mem_references_of_addPeer added listed with older | new
          · exact Or.inl (here ▸ .onward known older)
          · exact Or.inr ⟨rfl, here, new⟩

/-- Adding a base adds this one reference. -/
theorem refers_of_addBase {base : Base} (added : store.addBase target base = .ok after)
    (refers : after.Refers id reference) :
    store.Refers id reference ∨ id = target ∧ reference = .entity base.entity := by
  obtain ⟨table, revised, known, grown, rfl⟩ := addBase_eq_ok added
  rcases refers_of_set known refers with older | ⟨here, listed⟩
  · exact Or.inl older
  · rcases Table.mem_references_of_addBase grown listed with older | new
    · exact Or.inl (here ▸ .onward known older)
    · exact Or.inr ⟨here, new⟩

/-- What a store refers to after a class is completed, it referred to before. -/
theorem refers_of_complete (completed : store.complete target = .ok after)
    (refers : after.Refers id reference) : store.Refers id reference := by
  obtain ⟨table, revised, known, closed, rfl⟩ := complete_eq_ok completed
  rcases refers_of_set known refers with older | ⟨here, listed⟩
  · exact older
  · rw [Table.references_of_complete closed] at listed
    exact here ▸ .onward known listed

end SymbolStore

end ScopeResolution

import ScopeResolution.Proofs.SymbolStore.Climb
import ScopeResolution.Proofs.SymbolStore.Home

/-! # The tables around a table

The way outwards from a table, along the tables that each one is nested in, up to one that is nested
in nothing (`Ancestry`). There is one such way at most, so it meets no table twice and is no longer
than there are tables. Every table that is there has such a way as long as the tables around it are
there (`Rooted`), and when their owners are there, too, everything that they list has a qualified
name (`qualifiedName_eq_ok`). -/

namespace ScopeResolution.SymbolStore

/-- The tables on the way outwards from a table, which comes first. -/
inductive Ancestry (store : SymbolStore) : TableId → List TableId → Prop where
  /-- The table is nested in nothing. -/
  | outermost {id : TableId} {table : Table} (known : store.tables.get? id = some table)
      (parent : table.parent? = none) : Ancestry store id [id]
  /-- The table is nested in another one. -/
  | nested {id outer : TableId} {table : Table} {around : List TableId}
      (known : store.tables.get? id = some table) (parent : table.parent? = some outer)
      (further : Ancestry store outer around) : Ancestry store id (id :: around)

/-- Every table has a way outwards. -/
def Rooted (store : SymbolStore) : Prop :=
  ∀ id table, store.tables.get? id = some table → ∃ tables, store.Ancestry id tables

/-- The table in which a live table is nested is live, too. -/
def ParentsKnown (store : SymbolStore) : Prop :=
  ∀ id table outer, store.tables.get? id = some table → table.parent? = some outer →
    ∃ parent, store.tables.get? outer = some parent

/-- If a table is a live body, its owner is live. -/
def OwnerKnown (store : SymbolStore) (id : TableId) : Prop :=
  ∀ table owner, store.tables.get? id = some table → table.owner? = some owner →
    ∃ entity, store.entities.get? owner = some entity

/-- The owner of every live body, which is the entity whose body it is, is live. -/
def OwnersKnown (store : SymbolStore) : Prop :=
  ∀ id table owner, store.tables.get? id = some table → table.owner? = some owner →
    ∃ entity, store.entities.get? owner = some entity

/-- An entity is there, and so are all tables around it and the entities whose bodies these are. -/
def Surrounded (store : SymbolStore) (id : EntityId) : Prop :=
  ∃ entity tables, store.entities.get? id = some entity ∧ store.Ancestry entity.owner tables ∧
    ∀ outer ∈ tables, store.OwnerKnown outer

variable {store before after : SymbolStore} {id : TableId} {tables : List TableId}

namespace Ancestry

/-- A way outwards is a climb that meets nothing that is gone. -/
theorem iff_climb : store.Ancestry id tables ↔ store.Climb (fun _ => False) id tables := by
  constructor
  · intro ancestry
    induction ancestry with
    | outermost known parent => exact .outermost known parent
    | nested known parent _ ih => exact .nested known parent ih
  · intro climb
    induction climb with
    | outermost known parent => exact .outermost known parent
    | stranded _ _ isGone => exact isGone.elim
    | nested known parent _ ih => exact .nested known parent ih

/-- The tables on the way are there. -/
theorem known_of_mem (ancestry : store.Ancestry id tables) :
    ∀ other ∈ tables, ∃ table, store.tables.get? other = some table :=
  (iff_climb.1 ancestry).known_of_mem

/-- No table is met twice. -/
theorem nodup (ancestry : store.Ancestry id tables) : tables.Nodup :=
  (iff_climb.1 ancestry).nodup fun _ isGone => isGone.elim

/-- The way is no longer than there are tables. -/
theorem length_le_capacity (ancestry : store.Ancestry id tables) :
    tables.length ≤ store.tables.capacity :=
  Arena.length_le_capacity ancestry.nodup ancestry.known_of_mem

/-- A table that survives a release has the same way outwards, if no parent was lost. -/
theorem released {closed : TableId} (ancestry : before.Ancestry id tables)
    (released : Released before closed after) (parents : after.ParentsKnown) {table : Table}
    (alive : after.tables.get? id = some table) : after.Ancestry id tables := by
  induction ancestry generalizing table with
  | outermost known parent =>
      rw [(released.table_left alive).1, Option.some.injEq] at known
      exact .outermost alive (by rw [known, parent])
  | nested known parent _ ih =>
      rw [(released.table_left alive).1, Option.some.injEq] at known
      rw [← known] at parent
      obtain ⟨around, aroundAlive⟩ := parents _ table _ alive parent
      exact .nested alive parent (ih aroundAlive)

/-- The owners around a table are found in as many steps as the way outwards has, if those of the
tables on the way are there. -/
theorem ownerNames_eq_ok (ancestry : store.Ancestry id tables)
    (owners : ∀ other ∈ tables, store.OwnerKnown other) {steps : Nat}
    (enough : tables.length ≤ steps) :
    ∃ names, store.ownerNames steps (some id) = .ok names := by
  have own {id : TableId} {table : Table} (known : store.tables.get? id = some table)
      (ownerKnown : store.OwnerKnown id) {steps : Nat} {outer : List Name}
      (found : store.ownerNames steps table.parent? = .ok outer) :
      ∃ names, store.ownerNames (steps + 1) (some id) = .ok names := by
    unfold ownerNames
    rw [table_eq_ok_iff.2 known, ok_bind]
    cases owned : table.owner? with
    | none =>
        rw [found]
        exact ⟨_, rfl⟩
    | some owner =>
        obtain ⟨entity, ownerFound⟩ := ownerKnown table owner known owned
        simp only [entity_eq_ok_iff.2 ownerFound, found]
        exact ⟨_, rfl⟩
  induction ancestry generalizing steps with
  | outermost known parent =>
      obtain ⟨further, rfl⟩ : ∃ further, steps = further + 1 :=
        Nat.exists_eq_succ_of_ne_zero (Nat.one_le_iff_ne_zero.1 enough)
      exact own known (owners _ List.mem_cons_self) (by rw [parent]; cases further <;> rfl)
  | nested known parent _ ih =>
      obtain ⟨further, rfl⟩ : ∃ further, steps = further + 1 :=
        Nat.exists_eq_succ_of_ne_zero (Nat.one_le_iff_ne_zero.1 (Nat.le_trans (by simp) enough))
      obtain ⟨names, outer⟩ := ih (fun other listed => owners other (List.mem_cons_of_mem _ listed))
        (Nat.le_of_succ_le_succ enough)
      exact own known (owners _ List.mem_cons_self) (by rw [parent]; exact outer)

end Ancestry

/-- An entity with everything around it has a qualified name. -/
theorem Surrounded.qualifiedName_eq_ok {member : EntityId} (surrounded : store.Surrounded member) :
    ∃ text, store.qualifiedName member = .ok text := by
  obtain ⟨entity, tables, found, ancestry, owners⟩ := surrounded
  obtain ⟨names, outer⟩ := ancestry.ownerNames_eq_ok owners ancestry.length_le_capacity
  unfold qualifiedName
  rw [entity_eq_ok_iff.2 found, ok_bind, outer]
  exact ⟨_, rfl⟩

/-- The store that holds nothing but the global table is rooted. -/
theorem rooted_new (names : NamePool) : (SymbolStore.new names).Rooted := by
  intro id table known
  exact ⟨[id], .outermost known (by rw [(only_global known).2]; rfl)⟩

/-- An entity that gets a body is no label. -/
theorem Edit.slot_ne_label {holder : EntityId} {body : TableId} {entity : Entity}
    (edit : Edit before (.openBody holder body) after)
    (known : before.entities.get? holder = some entity) : entity.kind.slot ≠ .label := by
  cases edit with
  | openBody known' formed =>
      rw [known, Option.some.injEq] at known'
      rw [← known'] at formed
      -- Of the kinds that can be given a body, none is a label.
      unfold Entity.bodyForm? at formed
      cases kind : entity.kind with
      | function info => simp only [EntityKind.slot]; split <;> decide
      | classDecl | namespaceDecl => exact nofun
      | _ => rw [kind] at formed; cases formed

/-- In an edited store one can climb as before: a table that the edit makes is nested in one that is
there. -/
theorem Climbable.edit {gone : TableId → Prop} {change : Change} (climbable : before.Climbable gone)
    (catalogued : before.Catalogued (· ≠ .label)) (edit : Edit before change after) :
    after.Climbable gone := by
  intro id table found
  cases known : before.tables.get? id with
  | some old =>
      obtain ⟨tables, climb⟩ := climbable id old known
      exact ⟨tables, climb.edit edit⟩
  | none =>
      rcases edit.table_origin known found with
        ⟨holder, entity, rfl, holderKnown, opened, -⟩ | ⟨parent, opener, rfl, rfl⟩
      · obtain ⟨outer, outerKnown, -⟩ :=
          catalogued.listed holder entity holderKnown (edit.slot_ne_label holderKnown)
        obtain ⟨tables, climb⟩ := climbable _ outer outerKnown
        exact ⟨id :: tables, .nested found opened.parent?_eq (climb.edit edit)⟩
      · obtain ⟨-, ⟨outer, outerKnown, -⟩, -⟩ := edit.openedBlock
        obtain ⟨tables, climb⟩ := climbable _ outer outerKnown
        exact ⟨id :: tables, .nested found rfl (climb.edit edit)⟩

/-- A store is rooted when one can climb outwards and meets nothing that is gone. -/
theorem rooted_iff_climbable : store.Rooted ↔ store.Climbable fun _ => False := by
  simp only [Rooted, Climbable, Ancestry.iff_climb]

/-- Edits keep a store rooted. -/
theorem Rooted.edit {change : Change} (rooted : before.Rooted)
    (catalogued : before.Catalogued (· ≠ .label)) (edit : Edit before change after) :
    after.Rooted :=
  rooted_iff_climbable.2 ((rooted_iff_climbable.1 rooted).edit catalogued edit)

/-- Edits keep the owners of bodies. -/
theorem OwnersKnown.edit {change : Change} (owners : before.OwnersKnown)
    (edit : Edit before change after) : after.OwnersKnown := by
  intro id table owner found owned
  cases known : before.tables.get? id with
  | some old =>
      obtain ⟨later, laterFound, place⟩ := edit.table_kept known
      rw [found, Option.some.injEq] at laterFound
      rw [laterFound, place.owner?_eq] at owned
      obtain ⟨entity, ownerKnown⟩ := owners id old owner known owned
      obtain ⟨later, laterFound, -⟩ := edit.entity_later ownerKnown
      exact ⟨later, laterFound⟩
  | none =>
      rcases edit.table_origin known found with
        ⟨holder, entity, -, -, opened, holderFound⟩ | ⟨parent, opener, -, rfl⟩
      · rw [opened.owner?_eq, Option.some.injEq] at owned
        exact ⟨_, owned ▸ holderFound⟩
      · cases owned

/-- In the store that holds nothing but the global table, there is no body. -/
theorem ownersKnown_new (names : NamePool) : (SymbolStore.new names).OwnersKnown := by
  intro id table owner known owned
  rw [(only_global known).2] at owned
  cases owned

/-- Releasing a table keeps a store rooted, if no parent was lost. -/
theorem Rooted.released {closed : TableId} (rooted : before.Rooted)
    (released : Released before closed after) (parents : after.ParentsKnown) : after.Rooted := by
  intro id table alive
  obtain ⟨tables, ancestry⟩ := rooted id table (released.table_left alive).1
  exact ⟨tables, ancestry.released released parents alive⟩

/-- What a table lists has a qualified name. -/
theorem Rooted.qualifiedName_eq_ok (rooted : store.Rooted) (linked : store.Linked)
    (owners : store.OwnersKnown) {table : Table} {member : EntityId}
    (known : store.tables.get? id = some table) (listed : member ∈ table.listed) :
    ∃ text, store.qualifiedName member = .ok text := by
  obtain ⟨entity, found, owner⟩ := linked.listed id table known member listed
  obtain ⟨tables, ancestry⟩ := rooted id table known
  exact Surrounded.qualifiedName_eq_ok ⟨entity, tables, found, owner ▸ ancestry,
    fun outer _ => owners outer⟩

end ScopeResolution.SymbolStore

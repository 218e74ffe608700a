import ScopeResolution.Proofs.SymbolStore.Catalogue

/-! # Homes of tables

The home of a table is the innermost table of a function or block around it, itself included, on the
way outwards along the tables that each one is nested in (`Home`); tables outside of all functions
have none. Tables never move, so edits keep homes (`Home.edit`). A table that survives a release
keeps its home too (`Home.released`), as everything around it survives with it: a table that is
released takes with it whatever is nested in it. -/

namespace ScopeResolution

/-- Classes and namespaces are members of the tables that list them. -/
theorem EntityKind.slot_of_opensRegion {kind : EntityKind} (opens : kind.opensRegion = true) :
    kind.slot = .member := by
  cases kind <;> first | rfl | cases opens

namespace SymbolStore

/-- The innermost table of a function or block around a table, if there is one. -/
inductive Home (store : SymbolStore) : TableId → Option TableId → Prop where
  /-- The table is that of a function or block. -/
  | here {id : TableId} {table : Table} (known : store.tables.get? id = some table)
      (isLocal : table.kind.isLocal = true) : Home store id (some id)
  /-- The table is not, and nested in nothing. -/
  | outermost {id : TableId} {table : Table} (known : store.tables.get? id = some table)
      (notLocal : table.kind.isLocal = false) (parent : table.parent? = none) : Home store id none
  /-- The table is not, and nested in one with this home. -/
  | outward {id outer : TableId} {home : Option TableId} {table : Table}
      (known : store.tables.get? id = some table) (notLocal : table.kind.isLocal = false)
      (parent : table.parent? = some outer) (further : Home store outer home) : Home store id home

/-- Every table has a home, or is outside of all functions. -/
def Settled (store : SymbolStore) : Prop :=
  ∀ id table, store.tables.get? id = some table → ∃ home, store.Home id home

variable {store before after : SymbolStore} {id : TableId} {home : Option TableId}

namespace Home

/-- A table with a home is there. -/
theorem known (isHome : store.Home id home) : ∃ table, store.tables.get? id = some table := by
  cases isHome <;> exact ⟨_, ‹_›⟩

/-- A home is the table of a function or block. -/
theorem isLocal {around : TableId} (isHome : store.Home id (some around)) :
    ∃ table, store.tables.get? around = some table ∧ table.kind.isLocal = true := by
  generalize same : some around = home at isHome
  induction isHome with
  | here known isLocal => cases same; exact ⟨_, known, isLocal⟩
  | outermost => cases same
  | outward _ _ _ _ ih => exact ih same

/-- A table has one home at most. -/
theorem unique (isHome : store.Home id home) {other : Option TableId}
    (isOther : store.Home id other) : home = other := by
  induction isHome with
  | here known isLocal =>
      cases isOther with
      | here => rfl
      | outermost known' notLocal | outward known' notLocal =>
          rw [known, Option.some.injEq] at known'
          rw [known', notLocal] at isLocal
          cases isLocal
  | outermost known notLocal parent =>
      cases isOther with
      | here known' isLocal =>
          rw [known, Option.some.injEq] at known'
          rw [known', isLocal] at notLocal
          cases notLocal
      | outermost => rfl
      | outward known' _ parent' =>
          rw [known, Option.some.injEq] at known'
          rw [known', parent'] at parent
          cases parent
  | outward known notLocal parent _ ih =>
      cases isOther with
      | here known' isLocal =>
          rw [known, Option.some.injEq] at known'
          rw [known', isLocal] at notLocal
          cases notLocal
      | outermost known' _ parent' =>
          rw [known, Option.some.injEq] at known'
          rw [known', parent'] at parent
          cases parent
      | outward known' _ parent' further =>
          rw [known, Option.some.injEq] at known'
          rw [known', parent', Option.some.injEq] at parent
          exact ih (parent ▸ further)

/-- Edits keep homes. -/
theorem edit {change : Change} (isHome : before.Home id home) (edit : Edit before change after) :
    after.Home id home := by
  induction isHome with
  | here known isLocal =>
      obtain ⟨later, found, place⟩ := edit.table_kept known
      exact .here found (by rw [place.kind_eq, isLocal])
  | outermost known notLocal parent =>
      obtain ⟨later, found, place⟩ := edit.table_kept known
      exact .outermost found (by rw [place.kind_eq, notLocal]) (by rw [place.parent?_eq, parent])
  | outward known notLocal parent _ ih =>
      obtain ⟨later, found, place⟩ := edit.table_kept known
      exact .outward found (by rw [place.kind_eq, notLocal]) (by rw [place.parent?_eq, parent]) ih

/-- A table that survives a release keeps its home. The table around it survives, because otherwise
the class or namespace whose body it is would have been released with that. -/
theorem released {closed : TableId} (isHome : before.Home id home) (linked : before.Linked)
    (catalogued : before.Catalogued (· = .member)) (released : Released before closed after)
    {table : Table} (alive : after.tables.get? id = some table) : after.Home id home := by
  induction isHome generalizing table with
  | @here id old known isLocal =>
      rw [(released.table_left alive).1, Option.some.injEq] at known
      exact .here alive (by rw [known, isLocal])
  | outermost known notLocal parent =>
      rw [(released.table_left alive).1, Option.some.injEq] at known
      exact .outermost alive (by rw [known, notLocal]) (by rw [known, parent])
  | @outward id outer home old known notLocal parent _ ih =>
      obtain ⟨sameKnown, outside⟩ := released.table_left alive
      rw [sameKnown, Option.some.injEq] at known
      subst known
      have notGlobal : id ≠ before.global := by
        rintro rfl
        obtain ⟨root, rootKnown, isGlobal⟩ := linked.global
        rw [sameKnown, Option.some.injEq] at rootKnown
        rw [rootKnown, parent?_of_global isGlobal] at parent
        cases parent
      obtain ⟨owner, entity, -, ownerKnown, body, opens⟩ :=
        linked.region_opens sameKnown notLocal notGlobal
      have nested := catalogued.nested owner entity id table ownerKnown body sameKnown
      rw [parent, Option.some.injEq] at nested
      obtain ⟨around, aroundKnown, lists⟩ :=
        catalogued.listed owner entity ownerKnown (EntityKind.slot_of_opensRegion opens)
      rw [← nested] at aroundKnown
      have aroundOutside : ¬ before.Within closed outer := fun within =>
        outside (within.tail ⟨around, owner, entity, aroundKnown, lists.mem_owned, ownerKnown, body⟩)
      have aroundAlive : after.tables.get? outer = some around := by
        rw [released.table_kept outer aroundOutside, aroundKnown]
      exact .outward alive notLocal parent (ih aroundAlive)

end Home

namespace Settled

/-- The global table is outside of all functions. -/
theorem new (names : NamePool) : (SymbolStore.new names).Settled := by
  intro id table known
  obtain ⟨-, rfl⟩ := only_global known
  exact ⟨none, .outermost known rfl rfl⟩

/-- Edits keep tables settled: a new one is that of a function or block, or nested in one that was
there. -/
theorem edit {change : Change} (settled : before.Settled)
    (catalogued : before.Catalogued (· = .member)) (edit : Edit before change after) :
    after.Settled := by
  intro id table found
  cases known : before.tables.get? id with
  | some old =>
      obtain ⟨home, isHome⟩ := settled id old known
      exact ⟨home, isHome.edit edit⟩
  | none =>
      rcases edit.table_origin known found with
        ⟨holder, entity, -, holderKnown, opened, -⟩ | ⟨parent, opener, -, rfl⟩
      · cases isLocal : table.kind.isLocal with
        | true => exact ⟨some id, .here found isLocal⟩
        | false =>
            have opens : entity.kind.opensRegion = true := by
              have belongs := opened.isLocal_eq
              rw [isLocal] at belongs
              simpa using belongs
            obtain ⟨outer, outerKnown, -⟩ :=
              catalogued.listed holder entity holderKnown (EntityKind.slot_of_opensRegion opens)
            obtain ⟨home, isHome⟩ := settled _ outer outerKnown
            exact ⟨home, .outward found isLocal opened.parent?_eq (isHome.edit edit)⟩
      · exact ⟨some id, .here found rfl⟩

/-- Releasing a table keeps the others settled. -/
theorem released {closed : TableId} (settled : before.Settled) (linked : before.Linked)
    (catalogued : before.Catalogued (· = .member)) (released : Released before closed after) :
    after.Settled := by
  intro id table alive
  obtain ⟨home, isHome⟩ := settled id table (released.table_left alive).1
  exact ⟨home, isHome.released linked catalogued released alive⟩

end Settled

end SymbolStore

end ScopeResolution

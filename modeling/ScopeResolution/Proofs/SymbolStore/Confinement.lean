import ScopeResolution.Proofs.SymbolStore.Removal

/-! # Confinement to open tables

What becomes of a store between the opening of a function body and its release, when everything that
is declared in between is declared in tables that are opened in between. What was there before
stays, and what is new hangs on one of the open tables of functions and blocks (`Confined`). Edits
and releases preserve that (`Confined.edit`, `Confined.release`), and once the body of the function
is the last open table, releasing it leaves the store as it was (`Confined.restored`). -/

namespace ScopeResolution.SymbolStore

/-- A draft that becomes a label takes no earlier label's place. -/
def Change.NoRelabel (store : SymbolStore) : Change → Prop
  | .file target draft _ => draft.kind.slot = .label → ∀ table,
      store.tables.get? target = some table → table.label? draft.name = none
  | _ => True

section Edits

variable {before after : SymbolStore} {change : Change}

/-- An edit that replaces no label leaves the tables that were there with all that they owned. -/
theorem Edit.owned_kept (edit : Edit before change after) (noRelabel : change.NoRelabel before)
    {id : TableId} {table : Table} (known : before.tables.get? id = some table) :
    ∃ later, after.tables.get? id = some later ∧ table.owned ⊆ later.owned := by
  obtain ⟨later, found, altered⟩ := edit.table_later known
  refine ⟨later, found, fun member owned => ?_⟩
  cases altered with
  | keep => exact owned
  | file filing =>
      exact filing.mem_owned_of (fun isLabel => noRelabel isLabel table known) (Or.inr owned)
  | revise revision => rwa [revision.sameContents.owned_eq]

/-- An edit that replaces no label takes no table out of another one, unless it opens a new body of
the function whose body that table was. -/
theorem Edit.holds_kept (edit : Edit before change after) (noRelabel : change.NoRelabel before)
    {outer inner : TableId} (held : before.Holds outer inner) :
    after.Holds outer inner ∨ ∃ id body entity, change = .openBody id body ∧
      before.entities.get? id = some entity ∧ entity.body = some inner ∧
      entity.kind.opensRegion = false := by
  obtain ⟨table, member, entity, found, owned, known, body⟩ := held
  obtain ⟨later, laterFound, grown⟩ := edit.owned_kept noRelabel found
  obtain ⟨entity', known', altered⟩ := edit.entity_later known
  cases altered with
  | keep => exact Or.inl ⟨later, member, entity, laterFound, grown owned, known', body⟩
  | @openBody opened vacant =>
      refine Or.inr ⟨member, opened, entity, rfl, known, body, ?_⟩
      by_contra opens
      rw [vacant (by simpa using opens)] at body
      cases body

end Edits

/-! ## Confinement -/

/-- A table hangs on an open one of a function or block: it is that table or lies within it. -/
def Anchored (store : SymbolStore) (opened : List TableId) (id : TableId) : Prop :=
  ∃ root ∈ opened, (∃ table, store.tables.get? root = some table ∧ table.kind.isLocal = true) ∧
    store.Within root id

/-- Since a store in which the body of a function was opened, everything new is confined to the
tables that were opened and are open still. -/
structure Confined (start : SymbolStore) (owner : EntityId) (body : TableId)
    (opened : List TableId) (now : SymbolStore) : Prop where
  /-- The global table stays. -/
  global_eq : now.global = start.global
  /-- The tables that were there stay. -/
  table_kept : ∀ id table, start.tables.get? id = some table → now.tables.get? id = some table
  /-- The entities that were there stay, but for the body of the function. -/
  entity_kept : ∀ id entity, start.entities.get? id = some entity → now.entities.get? id =
    some (if id = owner then { entity with body := some body } else entity)
  /-- The open tables are new. -/
  opened_new : ∀ id ∈ opened, start.tables.get? id = none
  /-- The new tables of functions and blocks are open. -/
  local_opened : ∀ id table, now.tables.get? id = some table → start.tables.get? id = none →
    table.kind.isLocal = true → id ∈ opened
  /-- New tables list new entities. -/
  listed_new : ∀ id table, now.tables.get? id = some table → start.tables.get? id = none →
    ∀ member ∈ table.listed, start.entities.get? member = none
  /-- New entities have new bodies. -/
  body_new : ∀ id entity inner, now.entities.get? id = some entity →
    start.entities.get? id = none → entity.body = some inner → start.tables.get? inner = none
  /-- New entities are in new tables. -/
  owned : ∀ id entity, now.entities.get? id = some entity → start.entities.get? id = none →
    ∃ holder table, now.tables.get? holder = some table ∧ start.tables.get? holder = none ∧
      id ∈ table.owned
  /-- New tables hang on open ones. -/
  anchored : ∀ id table, now.tables.get? id = some table → start.tables.get? id = none →
    now.Anchored opened id

/-- A change that touches only what is new since a store. -/
def Change.Inside (start now : SymbolStore) : Change → Prop
  | .rest => True
  | .file target draft id => start.tables.get? target = none ∧
      Change.NoRelabel now (.file target draft id)
  | .openBody id _ => start.entities.get? id = none
  | .openBlock _ _ => True
  | .revise id => start.tables.get? id = none

/-- A change that touches only what is new replaces no label. -/
theorem Change.Inside.noRelabel {start now : SymbolStore} {change : Change}
    (inside : change.Inside start now) : change.NoRelabel now := by
  cases change with
  | file target draft id => exact inside.2
  | _ => trivial

namespace Confined

variable {start now after : SymbolStore} {owner : EntityId} {body : TableId}
  {opened opened' : List TableId} {change : Change}

/-- Opening the body of a function that has none confines everything new, of which there is
nothing, to that body. -/
theorem open_ {entity : Entity} (known : start.entities.get? owner = some entity)
    (isFunction : entity.kind.opensRegion = false)
    (edit : Edit start (.openBody owner body) after) : Confined start owner body [body] after := by
  -- The body is all that is new.
  have only_new {id : TableId} {table : Table} (found : after.tables.get? id = some table)
      (new : start.tables.get? id = none) : id = body ∧ table.OpenedFor owner entity := by
    rcases edit.table_origin new found with ⟨_, _, same, ownerKnown, opened, -⟩ | ⟨_, _, same, -⟩
    · cases same
      rw [known, Option.some.injEq] at ownerKnown
      exact ⟨rfl, ownerKnown ▸ opened⟩
    · cases same
  have none_new {id : EntityId} {entity : Entity} (found : after.entities.get? id = some entity)
      (new : start.entities.get? id = none) : False := by
    obtain ⟨_, _, _, _, same, -⟩ := edit.entity_origin new found
    cases same
  refine ⟨edit.global_eq, ?_, ?_, ?_, ?_, ?_, ?_, ?_, ?_⟩
  · intro id table tableKnown
    obtain ⟨later, found, altered⟩ := edit.table_later tableKnown
    cases altered with
    | keep => exact found
  · intro id old oldKnown
    obtain ⟨later, found, altered⟩ := edit.entity_later oldKnown
    cases altered with
    | keep other =>
        rw [if_neg fun same => other body (by rw [same]), found]
    | openBody => rw [if_pos rfl, found]
  · intro id isOpened
    rw [List.mem_singleton.1 isOpened]
    exact edit.opened.1
  · intro id table found new _
    rw [(only_new found new).1]
    exact List.mem_cons_self
  · intro id table found new member listed
    rw [(only_new found new).2.listed_eq] at listed
    cases listed
  · exact fun id entity inner found new => (none_new found new).elim
  · exact fun id entity found new => (none_new found new).elim
  · intro id table found new
    obtain ⟨rfl, opened⟩ := only_new found new
    have isLocal := opened.isLocal_eq
    rw [isFunction] at isLocal
    exact ⟨id, List.mem_cons_self, ⟨table, found, isLocal⟩, Relation.ReflTransGen.refl⟩

/-- A table that is stale is new. -/
theorem new_of_stale_table (confined : Confined start owner body opened now) {id : TableId}
    (stale : now.tables.get? id = none) : start.tables.get? id = none := by
  cases known : start.tables.get? id with
  | none => rfl
  | some table =>
      rw [confined.table_kept id table known] at stale
      cases stale

/-- An entity that is stale is new. -/
theorem new_of_stale_entity (confined : Confined start owner body opened now) {id : EntityId}
    (stale : now.entities.get? id = none) : start.entities.get? id = none := by
  cases known : start.entities.get? id with
  | none => rfl
  | some entity =>
      rw [confined.entity_kept id entity known] at stale
      cases stale

/-- An edit of what is new leaves the tables alone that were there. -/
theorem table_frame (confined : Confined start owner body opened now) (edit : Edit now change after)
    (inside : change.Inside start now) {id : TableId} {table : Table}
    (known : start.tables.get? id = some table) : after.tables.get? id = some table := by
  obtain ⟨later, found, altered⟩ := edit.table_later (confined.table_kept id table known)
  cases altered with
  | keep => exact found
  | file => exact absurd rfl (Arena.ne_of_stale known inside.1)
  | revise => exact absurd rfl (Arena.ne_of_stale known inside)

/-- An edit of what is new leaves the entities alone that were there, but for the body of the
function. -/
theorem entity_frame (confined : Confined start owner body opened now)
    (edit : Edit now change after) (inside : change.Inside start now) {id : EntityId}
    {entity : Entity} (known : start.entities.get? id = some entity) :
    after.entities.get? id =
      some (if id = owner then { entity with body := some body } else entity) := by
  obtain ⟨later, found, altered⟩ := edit.entity_later (confined.entity_kept id entity known)
  cases altered with
  | keep => exact found
  | openBody => exact absurd rfl (Arena.ne_of_stale known inside)

/-- A table that hangs on an open one still does so after an edit of what is new. A function that
gets a new body lets go of its last one, but that is open itself. -/
theorem anchored_edit (confined : Confined start owner body opened now) (linked : now.Linked)
    (edit : Edit now change after) (inside : change.Inside start now) (grown : opened ⊆ opened')
    {id : TableId} (anchored : now.Anchored opened id) : after.Anchored opened' id := by
  obtain ⟨root, isOpened, ⟨table, known, isLocal⟩, within⟩ := anchored
  have anchor {other : TableId} {table : Table} (isOpened : other ∈ opened)
      (known : now.tables.get? other = some table) (isLocal : table.kind.isLocal = true) :
      after.Anchored opened' other := by
    obtain ⟨later, laterKnown, place⟩ := edit.table_kept known
    exact ⟨other, grown isOpened, ⟨later, laterKnown, by rw [place.kind_eq, isLocal]⟩,
      Relation.ReflTransGen.refl⟩
  induction within with
  | refl => exact anchor isOpened known isLocal
  | @tail outer inner _ held ih =>
      rcases edit.holds_kept inside.noRelabel held with
        still | ⟨holder, new, entity, rfl, found, last, isFunction⟩
      · obtain ⟨root', isOpened', root_live, within'⟩ := ih
        exact ⟨root', isOpened', root_live, within'.tail still⟩
      · -- The last body of the function is an anchor of its own.
        obtain ⟨table', known', -, isLocal'⟩ := linked.body holder entity inner found last
        rw [isFunction] at isLocal'
        have new_inner := confined.body_new holder entity inner found inside last
        exact anchor (confined.local_opened inner table' known' new_inner isLocal') known' isLocal'

/-- An entity that is new after an edit is in a new table. -/
theorem owned_edit (confined : Confined start owner body opened now)
    (edit : Edit now change after) (inside : change.Inside start now) {id : EntityId}
    {entity : Entity} (found : after.entities.get? id = some entity)
    (new : start.entities.get? id = none) :
    ∃ holder table, after.tables.get? holder = some table ∧ start.tables.get? holder = none ∧
      id ∈ table.owned := by
  cases known : now.entities.get? id with
  | some old =>
      obtain ⟨holder, table, holderFound, holderNew, owned⟩ := confined.owned id old known new
      obtain ⟨later, laterFound, grown⟩ := edit.owned_kept inside.noRelabel holderFound
      exact ⟨holder, later, laterFound, holderNew, grown owned⟩
  | none =>
      obtain ⟨target, draft, table, filed, rfl, -, tableKnown, filedFound, filing⟩ :=
        edit.entity_origin known found
      refine ⟨target, filed, filedFound, inside.1, ?_⟩
      exact filing.mem_owned_of (fun isLabel => inside.2 isLabel table tableKnown) (Or.inl rfl)

/-- A table that is new after an edit hangs on an open one, if a new table of a function or block is
open. -/
theorem anchored_of_edit (confined : Confined start owner body opened now) (linked : now.Linked)
    (edit : Edit now change after) (inside : change.Inside start now) (grown : opened ⊆ opened')
    (opens : ∀ id table, now.tables.get? id = none → after.tables.get? id = some table →
      table.kind.isLocal = true → id ∈ opened')
    {id : TableId} {table : Table} (found : after.tables.get? id = some table)
    (new : start.tables.get? id = none) : after.Anchored opened' id := by
  cases known : now.tables.get? id with
  | some old =>
      exact confined.anchored_edit linked edit inside grown (confined.anchored id old known new)
  | none =>
      by_cases isLocal : table.kind.isLocal = true
      · exact ⟨id, opens id table known found isLocal, ⟨table, found, isLocal⟩,
          Relation.ReflTransGen.refl⟩
      · -- The table is the body of a class or namespace that some new table lists.
        rcases edit.table_origin known found with
          ⟨holder, entity, rfl, holderFound, -, bodied⟩ | ⟨parent, opener, -, rfl⟩
        · obtain ⟨outer, outerTable, outerFound, outerNew, owned⟩ :=
            confined.owned holder entity holderFound inside
          obtain ⟨root, isOpened, root_live, within⟩ := confined.anchored_edit linked edit inside
            grown (confined.anchored outer outerTable outerFound outerNew)
          obtain ⟨later, laterFound, kept⟩ := edit.owned_kept inside.noRelabel outerFound
          exact ⟨root, isOpened, root_live,
            within.tail ⟨later, holder, _, laterFound, kept owned, bodied, rfl⟩⟩
        · exact absurd rfl isLocal

/-- An edit of what is new keeps everything new confined to the open tables, if it opens tables of
functions and blocks among those. -/
theorem edit (confined : Confined start owner body opened now) (linked : now.Linked)
    (edit : Edit now change after) (inside : change.Inside start now) (grown : opened ⊆ opened')
    (opened_new : ∀ id ∈ opened', start.tables.get? id = none)
    (opens : ∀ id table, now.tables.get? id = none → after.tables.get? id = some table →
      table.kind.isLocal = true → id ∈ opened') :
    Confined start owner body opened' after := by
  refine ⟨by rw [edit.global_eq, confined.global_eq], ?_, ?_, opened_new, ?_, ?_, ?_, ?_, ?_⟩
  · exact fun id table known => confined.table_frame edit inside known
  · exact fun id entity known => confined.entity_frame edit inside known
  · intro id table found new isLocal
    cases known : now.tables.get? id with
    | none => exact opens id table known found isLocal
    | some old =>
        obtain ⟨later, laterFound, place⟩ := edit.table_kept known
        rw [found, Option.some.injEq] at laterFound
        subst laterFound
        rw [place.kind_eq] at isLocal
        exact grown (confined.local_opened id old known new isLocal)
  · intro id table found new member listed
    rcases edit.listed_origin found listed with ⟨old, known, oldListed⟩ | ⟨fresh, -⟩
    · exact confined.listed_new id old known new member oldListed
    · exact confined.new_of_stale_entity fresh
  · intro id entity inner found new isBody
    rcases edit.body_origin found isBody with ⟨old, known, -, oldBody⟩ | ⟨fresh, -⟩
    · exact confined.body_new id old inner known new oldBody
    · exact confined.new_of_stale_table fresh
  · exact fun id entity found new => confined.owned_edit edit inside found new
  · exact fun id table found new =>
      confined.anchored_of_edit linked edit inside grown opens found new

/-- Opening a further new table that is there already confines nothing less. -/
theorem enter (confined : Confined start owner body opened now) (linked : now.Linked)
    {id : TableId} (new : start.tables.get? id = none) :
    Confined start owner body (id :: opened) now := by
  -- The store does not change, and that is an edit too.
  have unchanged : Edit now .rest now := .rest rfl rfl rfl
  refine confined.edit linked unchanged trivial (fun _ listed => List.mem_cons_of_mem _ listed)
    ?_ ?_
  · intro other isOpened
    rcases List.mem_cons.1 isOpened with rfl | older
    · exact new
    · exact confined.opened_new other older
  · intro other table stale found
    rw [stale] at found
    cases found

/-- Closing a table that belongs to no function leaves everything confined to the others. -/
theorem leave {id : TableId} {table : Table}
    (confined : Confined start owner body (id :: opened) now)
    (known : now.tables.get? id = some table) (notLocal : table.kind.isLocal = false) :
    Confined start owner body opened now := by
  -- Anchors and new tables of functions are never the closed table.
  have not_closed {other : TableId} {table' : Table} (isOpened : other ∈ id :: opened)
      (known' : now.tables.get? other = some table') (isLocal : table'.kind.isLocal = true) :
      other ∈ opened := by
    rcases List.mem_cons.1 isOpened with rfl | older
    · rw [known, Option.some.injEq] at known'
      rw [← known', notLocal] at isLocal
      cases isLocal
    · exact older
  refine { confined with opened_new := ?_, local_opened := ?_, anchored := ?_ }
  · exact fun other isOpened => confined.opened_new other (List.mem_cons_of_mem _ isOpened)
  · intro other table' found new isLocal
    exact not_closed (confined.local_opened other table' found new isLocal) found isLocal
  · intro other table' found new
    obtain ⟨root, isOpened, ⟨table'', rootFound, isLocal⟩, within⟩ :=
      confined.anchored other table' found new
    exact ⟨root, not_closed isOpened rootFound isLocal, ⟨table'', rootFound, isLocal⟩, within⟩

/-- What is within a new table is new. -/
theorem new_of_within (confined : Confined start owner body opened now) {outer inner : TableId}
    (new : start.tables.get? outer = none) (within : now.Within outer inner) :
    start.tables.get? inner = none := by
  induction within with
  | refl => exact new
  | tail _ held ih =>
      obtain ⟨table, member, entity, found, owned, known, isBody⟩ := held
      have member_new := confined.listed_new _ table found ih member
        (table.owned_subset_listed owned)
      exact confined.body_new member entity _ known member_new isBody

/-- What a table within a new one lists is new. -/
theorem new_of_ownedWithin (confined : Confined start owner body opened now) {outer : TableId}
    {member : EntityId} (new : start.tables.get? outer = none)
    (owned : now.OwnedWithin outer member) : start.entities.get? member = none := by
  obtain ⟨inner, table, within, found, listed⟩ := owned
  exact confined.listed_new inner table found (confined.new_of_within new within) member
    (table.owned_subset_listed listed)

end Confined

/-- A table that is not released is within another one as it was. -/
theorem Released.within_kept {before after : SymbolStore} {id outer inner : TableId}
    (released : Released before id after) (linked : before.Linked)
    (within : before.Within outer inner) (outside : ¬ before.Within id inner) :
    after.Within outer inner := by
  induction within with
  | refl => exact Relation.ReflTransGen.refl
  | @tail middle inner _ held ih =>
      have middle_outside : ¬ before.Within id middle := fun isWithin =>
        outside (isWithin.tail held)
      obtain ⟨table, member, entity, found, owned, known, isBody⟩ := held
      -- The entity that the table hangs on is left: its one table is not released.
      have not_owned : ¬ before.OwnedWithin id member := by
        rintro ⟨other, table', isWithin, found', owned'⟩
        have same := linked.eq_of_listed found' found (table'.owned_subset_listed owned')
          (table.owned_subset_listed owned)
        exact middle_outside (same ▸ isWithin)
      have ne_id : inner ≠ id := by
        rintro rfl
        exact outside Relation.ReflTransGen.refl
      refine (ih middle_outside).tail ⟨table, member, entity.forget id, ?_, owned, ?_, ?_⟩
      · rw [released.table_kept middle middle_outside, found]
      · rw [released.entity_kept member not_owned, known]
        rfl
      · exact Entity.forget_body_eq_some_iff.2 ⟨isBody, ne_id⟩

namespace Confined

variable {start now after : SymbolStore} {owner : EntityId} {body : TableId}
  {opened : List TableId}

/-- The entities that were there are left by the release of a new table, and forget it if it was
their body. -/
theorem entity_released (confined : Confined start owner body opened now) {id : TableId}
    (new : start.tables.get? id = none) (released : Released now id after) {old : EntityId}
    {entity : Entity} (known : start.entities.get? old = some entity) :
    after.entities.get? old = some
      ((if old = owner then { entity with body := some body } else entity : Entity).forget id) := by
  have not_owned : ¬ now.OwnedWithin id old := by
    intro owned
    rw [confined.new_of_ownedWithin new owned] at known
    cases known
  rw [released.entity_kept old not_owned, confined.entity_kept old entity known]
  rfl

/-- The tables that were there are left by the release of a new table. -/
theorem table_released (confined : Confined start owner body opened now) {id : TableId}
    (new : start.tables.get? id = none) (released : Released now id after) {old : TableId}
    {table : Table} (known : start.tables.get? old = some table) :
    after.tables.get? old = some table := by
  have outside : ¬ now.Within id old := by
    intro within
    rw [confined.new_of_within new within] at known
    cases known
  rw [released.table_kept old outside, confined.table_kept old table known]

/-- No entity that was there has a new table for a body. -/
theorem body_ne_of_new (linked : start.Linked) {id : TableId} (new : start.tables.get? id = none)
    {old : EntityId} {entity : Entity} (known : start.entities.get? old = some entity) :
    entity.body ≠ some id := by
  intro isBody
  obtain ⟨table, found, -⟩ := linked.body old entity id known isBody
  rw [new] at found
  cases found

/-- Releasing an open table, the first body apart, keeps everything new confined to the others. -/
theorem release {id : TableId} (confined : Confined start owner body (id :: opened) now)
    (start_linked : start.Linked) (linked : now.Linked) (other_body : id ≠ body)
    (released : Released now id after) : Confined start owner body opened after := by
  have new : start.tables.get? id = none := confined.opened_new id List.mem_cons_self
  -- An open table that is left is not the released one.
  have left_opened {other : TableId} {table : Table} (isOpened : other ∈ id :: opened)
      (left : after.tables.get? other = some table) : other ∈ opened := by
    rcases List.mem_cons.1 isOpened with rfl | older
    · exact absurd Relation.ReflTransGen.refl (released.table_left left).2
    · exact older
  refine ⟨by rw [released.global_eq, confined.global_eq], ?_, ?_, ?_, ?_, ?_, ?_, ?_, ?_⟩
  · exact fun old table known => confined.table_released new released known
  · intro old entity known
    rw [confined.entity_released new released known, Entity.forget_of_ne]
    split
    · exact fun same => other_body (Option.some.inj same).symm
    · exact body_ne_of_new start_linked new known
  · exact fun other isOpened => confined.opened_new other (List.mem_cons_of_mem _ isOpened)
  · intro other table found otherNew isLocal
    have known := (released.table_left found).1
    exact left_opened (confined.local_opened other table known otherNew isLocal) found
  · intro other table found otherNew
    exact confined.listed_new other table (released.table_left found).1 otherNew
  · intro member entity inner found memberNew isBody
    obtain ⟨old, known, rfl, -⟩ := released.entity_left found
    rw [Entity.forget_body_eq_some_iff] at isBody
    exact confined.body_new member old inner known memberNew isBody.1
  · intro member entity found memberNew
    obtain ⟨old, known, rfl, not_owned⟩ := released.entity_left found
    -- The entity is left, so the table that lists it was not within the released one.
    obtain ⟨holder, table, holderFound, holderNew, owned⟩ :=
      confined.owned member old known memberNew
    have outside : ¬ now.Within id holder := fun within =>
      not_owned ⟨holder, table, within, holderFound, owned⟩
    exact ⟨holder, table, by rw [released.table_kept holder outside, holderFound], holderNew,
      owned⟩
  · intro other table found otherNew
    -- The table is not within the released one, so it hangs on another anchor.
    obtain ⟨known, outside⟩ := released.table_left found
    obtain ⟨root, isOpened, ⟨table', rootFound, isLocal⟩, within⟩ :=
      confined.anchored other table known otherNew
    have root_outside : ¬ now.Within id root := fun isWithin => outside (isWithin.trans within)
    have rootLeft : after.tables.get? root = some table' := by
      rw [released.table_kept root root_outside, rootFound]
    exact ⟨root, left_opened isOpened rootLeft, ⟨table', rootLeft, isLocal⟩,
      released.within_kept linked within outside⟩

/-- Releasing the body of the function, when no other table is open, leaves the store as it was. -/
theorem restored (confined : Confined start owner body [body] now) (start_linked : start.Linked)
    {entity : Entity} (known : start.entities.get? owner = some entity)
    (vacant : entity.body = none) (released : Released now body after) :
    after.entities.get? = start.entities.get? ∧ after.tables.get? = start.tables.get? ∧
      after.global = start.global := by
  have new : start.tables.get? body = none := confined.opened_new body List.mem_cons_self
  -- The body is the one open table, so everything new hangs on it.
  have within_body {id : TableId} {table : Table} (found : now.tables.get? id = some table)
      (idNew : start.tables.get? id = none) : now.Within body id := by
    obtain ⟨root, isOpened, -, within⟩ := confined.anchored id table found idNew
    rwa [List.mem_singleton.1 isOpened] at within
  refine ⟨?_, ?_, by rw [released.global_eq, confined.global_eq]⟩
  · funext id
    cases found : start.entities.get? id with
    | some old =>
        rw [confined.entity_released new released found]
        -- The function had no body before, and forgets the one that was released.
        by_cases isOwner : id = owner
        · rw [isOwner, known, Option.some.injEq] at found
          rw [if_pos isOwner, ← found, Entity.forget, if_pos rfl]
          show some { entity with body := none } = some entity
          rw [← vacant]
        · rw [if_neg isOwner, Entity.forget_of_ne (body_ne_of_new start_linked new found)]
    | none =>
        cases left : after.entities.get? id with
        | none => rfl
        | some entity' =>
            obtain ⟨old, oldFound, -, not_owned⟩ := released.entity_left left
            obtain ⟨holder, table, holderFound, holderNew, owned⟩ :=
              confined.owned id old oldFound found
            exact absurd ⟨holder, table, within_body holderFound holderNew, holderFound, owned⟩
              not_owned
  · funext id
    cases found : start.tables.get? id with
    | some table => exact confined.table_released new released found
    | none =>
        cases left : after.tables.get? id with
        | none => rfl
        | some table =>
            obtain ⟨tableFound, outside⟩ := released.table_left left
            exact absurd (within_body tableFound found) outside

end Confined

end ScopeResolution.SymbolStore

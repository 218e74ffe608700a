import ScopeResolution.Proofs.SymbolStore.Edit

/-! # What edits keep and where things come from

What an edit makes of a table or an entity that was there before (`Edit.table_later`,
`Edit.entity_later`), and which tables and entities it makes anew (`Edit.table_origin`,
`Edit.entity_origin`). What a table lists, also under one name, and which body an entity has are
traced back from these to the store before (`Edit.listed_origin`, `Edit.entries_origin`,
`Edit.constructors_origin`, `Edit.owned_origin`, `Edit.body_origin`), so that invariants of the store
need no case analysis on the five changes of their own. -/

namespace ScopeResolution.SymbolStore

/-- What a change makes of a table that was there. -/
inductive Change.AltersTable (id : TableId) (table : Table) : Change → Table → Prop where
  /-- The table stays. -/
  | keep {change : Change} : AltersTable id table change table
  /-- The table takes a new entity in. -/
  | file {draft : Draft} {new : EntityId} {filed : Table}
      (filing : table.Filing draft.name new draft.kind.slot filed) :
      AltersTable id table (.file id draft new) filed
  /-- The table is revised. -/
  | revise {revised : Table} (revision : table.Revised revised) :
      AltersTable id table (.revise id) revised

/-- What a change makes of an entity that was there. -/
inductive Change.AltersEntity (id : EntityId) (entity : Entity) : Change → Entity → Prop where
  /-- The entity stays. -/
  | keep {change : Change} (other : ∀ body, change ≠ .openBody id body) :
      AltersEntity id entity change entity
  /-- The entity gets a new body; a class or namespace had none. -/
  | openBody {body : TableId} (vacant : entity.kind.opensRegion = true → entity.body = none) :
      AltersEntity id entity (.openBody id body) { entity with body := some body }

namespace Change.AltersTable

variable {id : TableId} {table later : Table} {change : Change}

/-- A table stays in its place. -/
theorem samePlace (altered : change.AltersTable id table later) : table.SamePlace later := by
  cases altered with
  | keep => exact .of_form_eq rfl
  | file filing => exact filing.samePlace
  | revise revision => exact revision.sameContents.toSamePlace

/-- A table lists nothing new but the entity that is filed in it. -/
theorem mem_listed (altered : change.AltersTable id table later) {member : EntityId}
    (listed : member ∈ later.listed) :
    member ∈ table.listed ∨ ∃ draft, change = .file id draft member := by
  cases altered with
  | keep => exact Or.inl listed
  | @file draft new _ filing =>
      rcases filing.mem_listed listed with rfl | old
      · exact Or.inr ⟨draft, rfl⟩
      · exact Or.inl old
  | revise revision => exact Or.inl (by rwa [← revision.sameContents.listed_eq])

/-- A table owns nothing new but the entity that is filed in it. -/
theorem mem_owned (altered : change.AltersTable id table later) {member : EntityId}
    (owned : member ∈ later.owned) :
    member ∈ table.owned ∨ ∃ draft, change = .file id draft member := by
  cases altered with
  | keep => exact Or.inl owned
  | @file draft new _ filing =>
      rcases filing.mem_owned owned with rfl | old
      · exact Or.inr ⟨draft, rfl⟩
      · exact Or.inl old
  | revise revision => exact Or.inl (by rwa [← revision.sameContents.owned_eq])

end Change.AltersTable

namespace Change.AltersEntity

variable {id : EntityId} {entity later : Entity} {change : Change}

/-- The kind stays. -/
theorem kind_eq (altered : change.AltersEntity id entity later) : later.kind = entity.kind := by
  cases altered <;> rfl

/-- The owner stays. -/
theorem owner_eq (altered : change.AltersEntity id entity later) : later.owner = entity.owner := by
  cases altered <;> rfl

/-- The name stays. -/
theorem name_eq (altered : change.AltersEntity id entity later) : later.name = entity.name := by
  cases altered <;> rfl

/-- What a draft describes, it goes on describing. -/
theorem describes (altered : change.AltersEntity id entity later) {draft : Draft} {owner : TableId}
    (described : draft.Describes owner entity) : draft.Describes owner later := by
  cases altered with
  | keep => exact described
  | openBody =>
      obtain ⟨name, kind, access, location, owner⟩ := described
      exact ⟨name, kind, access, location, owner⟩

/-- A class or namespace keeps its body. -/
theorem body_eq (altered : change.AltersEntity id entity later) {body : TableId}
    (opens : entity.kind.opensRegion = true) (known : entity.body = some body) :
    later.body = some body := by
  cases altered with
  | keep => exact known
  | openBody vacant =>
      rw [vacant opens] at known
      cases known

end Change.AltersEntity

namespace Edit

variable {before after : SymbolStore} {change : Change}

/-- The global table stays. -/
theorem global_eq (edit : Edit before change after) : after.global = before.global := by
  cases edit <;> assumption

/-- A filed draft is an entity under a handle that was stale. -/
theorem filed {target : TableId} {draft : Draft} {id : EntityId}
    (edit : Edit before (.file target draft id) after) :
    before.entities.get? id = none ∧ after.entities.get? id = some (draft.toEntity target) := by
  cases edit with
  | file known fresh filing entities => exact ⟨fresh, by rw [entities, Function.update_self]⟩

/-- An opened body is an empty table under a handle that was stale. -/
theorem opened {id : EntityId} {body : TableId} (edit : Edit before (.openBody id body) after) :
    before.tables.get? body = none ∧ ∃ entity table, before.entities.get? id = some entity ∧
      after.tables.get? body = some table ∧ table.OpenedFor id entity := by
  cases edit with
  | openBody known formed vacant fresh entities tables =>
      exact ⟨fresh, _, _, known, by rw [tables, Function.update_self], Entity.openedFor formed⟩

/-- An opened block is an empty table under a handle that was stale, in a table of a function or
block. -/
theorem openedBlock {parent block : TableId} (edit : Edit before (.openBlock parent block) after) :
    before.tables.get? block = none ∧
      (∃ outer, before.tables.get? parent = some outer ∧ outer.kind.isLocal = true) ∧
      ∃ opener, after.tables.get? block = some { form := .block opener parent } := by
  cases edit with
  | openBlock known isLocal fresh entities tables =>
      exact ⟨fresh, ⟨_, known, isLocal⟩, _, by rw [tables, Function.update_self]⟩

/-- What an edit makes of a table that was there. -/
theorem table_later (edit : Edit before change after) {id : TableId} {table : Table}
    (known : before.tables.get? id = some table) :
    ∃ later, after.tables.get? id = some later ∧ change.AltersTable id table later := by
  cases edit with
  | rest entities tables => exact ⟨table, by rw [tables, known], .keep⟩
  | @file _ target draft new _ filed found fresh filing entities tables =>
      by_cases here : id = target
      · subst here
        rw [known, Option.some.injEq] at found
        subst found
        exact ⟨filed, by rw [tables, Function.update_self], .file filing⟩
      · exact ⟨table, by rw [tables, Function.update_of_ne here, known], .keep⟩
  | openBody found formed vacant fresh entities tables =>
      -- The new table is under a handle that was stale, so it is another one.
      have other := Arena.ne_of_stale known fresh
      exact ⟨table, by rw [tables, Function.update_of_ne other, known], .keep⟩
  | openBlock found isLocal fresh entities tables =>
      have other := Arena.ne_of_stale known fresh
      exact ⟨table, by rw [tables, Function.update_of_ne other, known], .keep⟩
  | @revise _ target _ revised found revision entities tables =>
      by_cases here : id = target
      · subst here
        rw [known, Option.some.injEq] at found
        subst found
        exact ⟨revised, by rw [tables, Function.update_self], .revise revision⟩
      · exact ⟨table, by rw [tables, Function.update_of_ne here, known], .keep⟩

/-- What an edit makes of an entity that was there. -/
theorem entity_later (edit : Edit before change after) {id : EntityId} {entity : Entity}
    (known : before.entities.get? id = some entity) :
    ∃ later, after.entities.get? id = some later ∧ change.AltersEntity id entity later := by
  cases edit with
  | rest entities => exact ⟨entity, by rw [entities, known], .keep fun _ same => nomatch same⟩
  | file found fresh filing entities =>
      have other := Arena.ne_of_stale known fresh
      refine ⟨entity, ?_, .keep fun _ same => nomatch same⟩
      rw [entities, Function.update_of_ne other, known]
  | @openBody _ owner body _ form found formed vacant fresh entities =>
      by_cases here : id = owner
      · subst here
        rw [known, Option.some.injEq] at found
        subst found
        exact ⟨_, by rw [entities, Function.update_self], .openBody vacant⟩
      · refine ⟨entity, by rw [entities, Function.update_of_ne here, known], .keep ?_⟩
        rintro _ same
        cases same
        exact here rfl
  | openBlock found isLocal fresh entities =>
      exact ⟨entity, by rw [entities, known], .keep fun _ same => nomatch same⟩
  | revise found revision entities =>
      exact ⟨entity, by rw [entities, known], .keep fun _ same => nomatch same⟩

/-- A table that an edit makes is the body of an entity or a block. -/
theorem table_origin (edit : Edit before change after) {id : TableId} {table : Table}
    (stale : before.tables.get? id = none) (found : after.tables.get? id = some table) :
    (∃ holder entity, change = .openBody holder id ∧ before.entities.get? holder = some entity ∧
        table.OpenedFor holder entity ∧
        after.entities.get? holder = some { entity with body := some id }) ∨
      ∃ parent opener, change = .openBlock parent id ∧
        table = { form := .block opener parent } := by
  have not_updated {other : TableId} {old new : Table} (known : before.tables.get? other = some old)
      (tables : after.tables.get? = Function.update before.tables.get? other (some new)) :
      False := by
    rw [tables, Function.update_of_ne (Arena.ne_of_stale known stale).symm, stale] at found
    cases found
  -- Filing and revising change a table that is there, so neither makes this one.
  cases edit with
  | rest entities tables =>
      rw [tables, stale] at found
      cases found
  | file known fresh filing entities tables => exact (not_updated known tables).elim
  | @openBody _ holder body entity form known formed vacant fresh entities tables =>
      rw [tables, Function.update_apply] at found
      split at found
      · rename_i here
        subst here
        cases found
        refine Or.inl ⟨holder, entity, rfl, known, Entity.openedFor formed, ?_⟩
        rw [entities, Function.update_self]
      · rw [stale] at found
        cases found
  | @openBlock _ opener parent block outer known isLocal fresh entities tables =>
      rw [tables, Function.update_apply] at found
      split at found
      · rename_i here
        subst here
        cases found
        exact Or.inr ⟨parent, opener, rfl, rfl⟩
      · rw [stale] at found
        cases found
  | revise known revision entities tables => exact (not_updated known tables).elim

/-- An entity that an edit makes is filed by it. -/
theorem entity_origin (edit : Edit before change after) {id : EntityId} {entity : Entity}
    (stale : before.entities.get? id = none) (found : after.entities.get? id = some entity) :
    ∃ target draft table filed, change = .file target draft id ∧ entity = draft.toEntity target ∧
      before.tables.get? target = some table ∧ after.tables.get? target = some filed ∧
      table.Filing draft.name id draft.kind.slot filed := by
  cases edit with
  | @file _ target draft new table filed known fresh filing entities tables =>
      rw [entities, Function.update_apply] at found
      split at found
      · rename_i here
        subst here
        cases found
        refine ⟨target, draft, table, filed, rfl, rfl, known, ?_, filing⟩
        rw [tables, Function.update_self]
      · rw [stale] at found
        cases found
  | openBody known formed vacant fresh entities =>
      -- The entity that gets the body was there before.
      rw [entities, Function.update_of_ne (Arena.ne_of_stale known stale).symm, stale] at found
      cases found
  | rest entities => rw [entities, stale] at found; cases found
  | openBlock known isLocal fresh entities => rw [entities, stale] at found; cases found
  | revise known revision entities => rw [entities, stale] at found; cases found

/-! ## Consequences -/

/-- The tables that were there stay in their places. -/
theorem table_kept (edit : Edit before change after) {id : TableId} {table : Table}
    (known : before.tables.get? id = some table) :
    ∃ later, after.tables.get? id = some later ∧ table.SamePlace later := by
  obtain ⟨later, found, altered⟩ := edit.table_later known
  exact ⟨later, found, altered.samePlace⟩

/-- A table that is there before and after an edit is what the edit makes of it. -/
theorem alters (edit : Edit before change after) {id : TableId} {old table : Table}
    (known : before.tables.get? id = some old) (found : after.tables.get? id = some table) :
    change.AltersTable id old table := by
  obtain ⟨later, laterFound, altered⟩ := edit.table_later known
  rw [found, Option.some.injEq] at laterFound
  exact laterFound ▸ altered

/-- An entity that is there before and after an edit is what the edit makes of it. -/
theorem alters_entity (edit : Edit before change after) {id : EntityId} {old entity : Entity}
    (known : before.entities.get? id = some old) (found : after.entities.get? id = some entity) :
    change.AltersEntity id old entity := by
  obtain ⟨later, laterFound, altered⟩ := edit.entity_later known
  rw [found, Option.some.injEq] at laterFound
  exact laterFound ▸ altered

/-- What a table lists after an edit, it listed before, or the edit filed it there. -/
theorem listed_origin (edit : Edit before change after) {id : TableId} {table : Table}
    (found : after.tables.get? id = some table) {member : EntityId}
    (listed : member ∈ table.listed) :
    (∃ old, before.tables.get? id = some old ∧ member ∈ old.listed) ∨
      before.entities.get? member = none ∧
        ∃ entity, after.entities.get? member = some entity ∧ entity.owner = id := by
  cases known : before.tables.get? id with
  | some old =>
      have altered := edit.alters known found
      rcases altered.mem_listed listed with older | ⟨draft, rfl⟩
      · exact Or.inl ⟨old, rfl, older⟩
      · exact Or.inr ⟨edit.filed.1, _, edit.filed.2, rfl⟩
  | none =>
      -- A table that the edit made lists nothing yet.
      rcases edit.table_origin known found with ⟨holder, entity, -, -, opened, -⟩ | ⟨_, _, -, rfl⟩
      · rw [opened.listed_eq] at listed
        cases listed
      · cases listed

/-- A part of a table that revisions leave alone is as before an edit, or the edit filed a draft in
the table. A table that the edit made has nothing in that part, if new bodies and blocks have not. -/
theorem part_origin (edit : Edit before change after) {id : TableId} {table : Table}
    (found : after.tables.get? id = some table) (part : Table → List EntityId)
    (opened : ∀ holder entity, table.OpenedFor holder entity → part table = [])
    (block : ∀ opener parent, part { form := .block opener parent } = [])
    (revised : ∀ old : Table, old.Revised table → part table = part old) :
    part table = [] ∨
      ∃ old, before.tables.get? id = some old ∧ table.kind = old.kind ∧
        (part table = part old ∨
          ∃ draft new, change = .file id draft new ∧
            old.Filing draft.name new draft.kind.slot table) := by
  cases known : before.tables.get? id with
  | none =>
      rcases edit.table_origin known found with ⟨holder, entity, -, -, isNew, -⟩ | ⟨_, _, -, rfl⟩
      · exact Or.inl (opened holder entity isNew)
      · exact Or.inl (block _ _)
  | some old =>
      have altered := edit.alters known found
      refine Or.inr ⟨old, rfl, altered.samePlace.kind_eq, ?_⟩
      cases altered with
      | keep => exact Or.inl rfl
      | revise revision => exact Or.inl (revised old revision)
      | @file draft new _ filing => exact Or.inr ⟨draft, new, rfl, filing⟩

/-- The own entries of a table under a name are those of before an edit, or the edit filed a draft
among them or over them. A table that the edit made has none. -/
theorem entries_origin (edit : Edit before change after) {id : TableId} {table : Table}
    (found : after.tables.get? id = some table) (name : Name) :
    table.entries name = [] ∨
      ∃ old, before.tables.get? id = some old ∧ table.kind = old.kind ∧
        (table.entries name = old.entries name ∨
          ∃ draft new, change = .file id draft new ∧ draft.name = name ∧
            draft.kind.slot ≠ .constructor ∧ draft.kind.slot ≠ .label ∧
              (table.entries name = old.entries name ++ [new] ∨ table.entries name = [new])) := by
  rcases edit.part_origin found (·.entries name) (fun _ _ opened => opened.entries_eq name)
    (fun _ _ => rfl) (fun _ revised => revised.sameContents.entries_eq name) with
    none | ⟨old, known, kind, same | ⟨draft, new, filed, filing⟩⟩
  · exact Or.inl none
  · exact Or.inr ⟨old, known, kind, Or.inl same⟩
  · refine Or.inr ⟨old, known, kind, (filing.entries_cases name).imp_right ?_⟩
    rintro ⟨⟨sameName, notConstructor, notLabel⟩, grown⟩
    exact ⟨draft, new, filed, sameName.symm, notConstructor, notLabel, grown⟩

/-- The constructors of a table are those of before an edit, or the edit filed another one behind
them. A table that the edit made has none. -/
theorem constructors_origin (edit : Edit before change after) {id : TableId} {table : Table}
    (found : after.tables.get? id = some table) :
    table.constructors = [] ∨
      ∃ old, before.tables.get? id = some old ∧ table.kind = old.kind ∧
        (table.constructors = old.constructors ∨
          ∃ draft new, change = .file id draft new ∧ draft.kind.slot = .constructor ∧
            table.constructors = old.constructors ++ [new]) := by
  rcases edit.part_origin found (·.constructors) (fun _ _ opened => opened.constructors_eq)
    (fun _ _ => rfl) (fun _ revised => revised.sameContents.constructors_eq) with
    none | ⟨old, known, kind, same | ⟨draft, new, filed, filing⟩⟩
  · exact Or.inl none
  · exact Or.inr ⟨old, known, kind, Or.inl same⟩
  · refine Or.inr ⟨old, known, kind, filing.constructors_cases.imp_right ?_⟩
    rintro ⟨isConstructor, grown⟩
    exact ⟨draft, new, filed, isConstructor, grown⟩

/-- What a table owns after an edit, it owned before, or the edit made it. -/
theorem owned_origin (edit : Edit before change after) {id : TableId} {table : Table}
    (found : after.tables.get? id = some table) {member : EntityId} (owned : member ∈ table.owned) :
    ∃ old, before.tables.get? id = some old ∧
      (member ∈ old.owned ∨ before.entities.get? member = none) := by
  cases known : before.tables.get? id with
  | some old =>
      have altered := edit.alters known found
      rcases altered.mem_owned owned with older | ⟨draft, rfl⟩
      · exact ⟨old, rfl, Or.inl older⟩
      · exact ⟨old, rfl, Or.inr edit.filed.1⟩
  | none =>
      rcases edit.table_origin known found with ⟨holder, entity, -, -, opened, -⟩ | ⟨_, _, -, rfl⟩
      · rw [opened.owned_eq] at owned
        cases owned
      · cases owned

/-- The body that an entity has after an edit, it had before, or the edit opened it. -/
theorem body_origin (edit : Edit before change after) {id : EntityId} {entity : Entity}
    (found : after.entities.get? id = some entity) {inner : TableId}
    (body : entity.body = some inner) :
    (∃ old, before.entities.get? id = some old ∧ entity.kind = old.kind ∧ old.body = some inner) ∨
      before.tables.get? inner = none ∧ ∃ table, after.tables.get? inner = some table ∧
        table.owner? = some id ∧ table.kind.isLocal = !entity.kind.opensRegion := by
  cases known : before.entities.get? id with
  | some old =>
      have altered := edit.alters_entity known found
      cases altered with
      | keep => exact Or.inl ⟨_, rfl, rfl, body⟩
      | openBody vacant =>
          cases body
          obtain ⟨fresh, owner, table, ownerKnown, tableFound, opened⟩ := edit.opened
          rw [known, Option.some.injEq] at ownerKnown
          subst ownerKnown
          exact Or.inr ⟨fresh, table, tableFound, opened.owner?_eq, opened.isLocal_eq⟩
  | none =>
      -- A new entity has no body.
      obtain ⟨target, draft, -, -, -, rfl, -⟩ := edit.entity_origin known found
      cases body

end Edit

end ScopeResolution.SymbolStore

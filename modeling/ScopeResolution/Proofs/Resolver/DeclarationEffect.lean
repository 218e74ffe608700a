import ScopeResolution.Proofs.Declaration.Judgement
import ScopeResolution.Proofs.Resolver.ScopeStack

/-! # The effect of a declaration

What declaring a draft in a table changes, in each way in which it can end. A draft that is new
becomes one entity, which the table takes in, with one more table if it is a class or namespace; one
that declares something again changes nothing; one that conflicts is reported, and so is one whose
report uses the error budget up; all other failures change nothing (`DeclarationEffect`). What a new
entity is and where it stands in its table is spelled out by `Draft.Describes` and `Table.Gains`. The
main statement `effect_of_declareIn` says so for every state that can be reached. -/

namespace ScopeResolution

namespace SymbolStore

/-- What the maps of a store become when a table takes a draft in as an entity. -/
inductive TakesIn (before : SymbolStore) (target : TableId) (table : Table) (draft : Draft)
    (id : EntityId) (after : SymbolStore) : Prop where
  /-- The entity has no body. -/
  | bodiless (noRegion : draft.kind.opensRegion = false)
      (entities : after.entities.get? =
        Function.update before.entities.get? id (some (draft.toEntity target)))
      (tables : after.tables.get? = Function.update before.tables.get? target
        (some (table.append draft.kind.slot draft.name id))) :
      TakesIn before target table draft id after
  /-- The class or namespace has one new table as its body, which is empty. -/
  | embodied {body : TableId} {form : TableForm} (opens : draft.kind.opensRegion = true)
      (formed : (draft.toEntity target).bodyForm? id = some form)
      (fresh : before.tables.get? body = none)
      (entities : after.entities.get? = Function.update before.entities.get? id
        (some { draft.toEntity target with body := some body }))
      (tables : after.tables.get? = Function.update
        (Function.update before.tables.get? target
          (some (table.append draft.kind.slot draft.name id))) body (some { form })) :
      TakesIn before target table draft id after

/-- A draft became an entity of a table, and that is all. -/
structure Takes (before : SymbolStore) (target : TableId) (table : Table) (draft : Draft)
    (id : EntityId) (after : SymbolStore) : Prop where
  /-- The entity was not there before. -/
  fresh : before.entities.get? id = none
  /-- The table has a slot for it and is open to it. -/
  filing : table.Filing draft.name id draft.kind.slot (table.append draft.kind.slot draft.name id)
  /-- The maps grow by the entity and its body. -/
  takesIn : TakesIn before target table draft id after
  /-- The global table stays. -/
  global_eq : after.global = before.global
  /-- The names stay. -/
  names_eq : after.names = before.names
  /-- The draft describes the entity. -/
  described : ∃ entity, after.entities.get? id = some entity ∧ draft.Describes target entity
  /-- The table has gained the entity at the end of its slot. -/
  gained : ∃ listing, after.tables.get? target = some listing ∧
    table.Gains draft.kind.slot draft.name id listing

/-- Two stores hold the same under the same handles. -/
structure SameContents (before after : SymbolStore) : Prop where
  /-- The entities are the same. -/
  entities_eq : after.entities.get? = before.entities.get?
  /-- The tables are the same. -/
  tables_eq : after.tables.get? = before.tables.get?
  /-- The global table is the same. -/
  global_eq : after.global = before.global
  /-- The names are the same. -/
  names_eq : after.names = before.names

/-- An entity is there and belongs to a table. -/
def BelongsTo (store : SymbolStore) (id : EntityId) (target : TableId) : Prop :=
  ∃ entity, store.entities.get? id = some entity ∧ entity.owner = target

variable {store after : SymbolStore} {target : TableId} {table : Table} {draft : Draft}

/-- The entities grow by what the draft says, with or without a body. -/
theorem TakesIn.entities_eq {id : EntityId} (takesIn : store.TakesIn target table draft id after) :
    ∃ body, after.entities.get? =
      Function.update store.entities.get? id (some { draft.toEntity target with body }) := by
  cases takesIn with
  | bodiless _ entities => exact ⟨none, entities⟩
  | @embodied body _ _ _ _ entities => exact ⟨some body, entities⟩

/-- The draft describes the entity. -/
theorem TakesIn.entity_after {id : EntityId} (takesIn : store.TakesIn target table draft id after) :
    ∃ entity, after.entities.get? id = some entity ∧ draft.Describes target entity := by
  obtain ⟨body, entities⟩ := takesIn.entities_eq
  exact ⟨_, by rw [entities, Function.update_self], draft.describes_toEntity target body⟩

/-- The table has the entity at the end of its slot. -/
theorem TakesIn.table_after {id : EntityId} (takesIn : store.TakesIn target table draft id after)
    (known : store.tables.get? target = some table) :
    after.tables.get? target = some (table.append draft.kind.slot draft.name id) := by
  cases takesIn with
  | bodiless _ _ tables => rw [tables, Function.update_self]
  | embodied _ _ fresh _ tables =>
      rw [tables, Function.update_of_ne (Arena.ne_of_stale known fresh), Function.update_self]

/-- When the maps of a store grow by a draft, its table takes it in. -/
theorem TakesIn.takes {id : EntityId} (takesIn : store.TakesIn target table draft id after)
    (known : store.tables.get? target = some table) (fresh : store.entities.get? id = none)
    (filing : table.Filing draft.name id draft.kind.slot
      (table.append draft.kind.slot draft.name id))
    (global_eq : after.global = store.global) (names_eq : after.names = store.names) :
    store.Takes target table draft id after where
  fresh := fresh
  filing := filing
  takesIn := takesIn
  global_eq := global_eq
  names_eq := names_eq
  described := takesIn.entity_after
  gained := ⟨_, takesIn.table_after known, table.gains_append _ _ _⟩

/-- A table that is there now is the one that took the draft in, was there before, or is new and
lists nothing. -/
theorem TakesIn.table_cases {id : EntityId} (takesIn : store.TakesIn target table draft id after)
    (known : store.tables.get? target = some table) {other : TableId} {later : Table}
    (found : after.tables.get? other = some later) :
    other = target ∧ later = table.append draft.kind.slot draft.name id ∨
      other ≠ target ∧ store.tables.get? other = some later ∨
      other ≠ target ∧ store.tables.get? other = none ∧ (∀ name, later.entries name = []) ∧
        later.constructors = [] := by
  by_cases here : other = target
  · rw [here, takesIn.table_after known, Option.some.injEq] at found
    exact Or.inl ⟨here, found.symm⟩
  · refine Or.inr ?_
    cases takesIn with
    | bodiless _ _ tables =>
        rw [tables, Function.update_of_ne here] at found
        exact Or.inl ⟨here, found⟩
    | embodied _ formed fresh _ tables =>
        rw [tables, Function.update_apply] at found
        split at found
        · rename_i isBody
          cases found
          have opened := Entity.openedFor formed
          exact Or.inr ⟨here, isBody ▸ fresh, opened.entries_eq, opened.constructors_eq⟩
        · rw [Function.update_of_ne here] at found
          exact Or.inl ⟨here, found⟩

/-- Opening a region adds no name. -/
theorem openRegion_names (id : EntityId) (parent : TableId) (kind : EntityKind) :
    (store.openRegion id parent kind).names = store.names := by
  cases kind <;> rfl

/-- Adding an entity adds no name. -/
theorem addEntity_names (target : TableId) (draft : Draft) :
    (store.addEntity target draft).2.names = store.names := by
  unfold addEntity
  split
  · rfl
  · split
    · rfl
    · simp only
      split
      · rfl
      · exact openRegion_names _ _ _

/-- A table that took a new entity in, which then gets its body if it is a class or namespace. -/
theorem openRegion_takesIn {middle : SymbolStore} {id : EntityId} (wellFormed : middle.WellFormed)
    (entities : middle.entities.get? =
      Function.update store.entities.get? id (some (draft.toEntity target)))
    (tables : middle.tables.get? = Function.update store.tables.get? target
      (some (table.append draft.kind.slot draft.name id))) :
    store.TakesIn target table draft id (middle.openRegion id target draft.kind) := by
  have known : middle.entities.get? id = some (draft.toEntity target) := by
    rw [entities, Function.update_self]
  rcases (openRegion_edit wellFormed known).1 with ⟨noRegion, same⟩ | ⟨opens, body, edit⟩
  · rw [same]
    exact .bodiless noRegion entities tables
  · cases edit with
    | @openBody _ _ _ entity form found formed vacant fresh entities' tables' =>
        rw [known, Option.some.injEq] at found
        subst found
        have ne_target : body ≠ target := by
          rintro rfl
          rw [tables, Function.update_self] at fresh
          cases fresh
        rw [tables, Function.update_of_ne ne_target] at fresh
        refine .embodied opens formed fresh ?_ ?_
        · rw [entities', entities, Function.update_idem]
        · rw [tables', tables]

/-- A table that takes a draft in gets it at the end of its slot, and that is all. -/
theorem addEntity_takes (wellFormed : store.WellFormed)
    (known : store.tables.get? target = some table)
    (unused : draft.kind.slot = .label → table.label? draft.name = none) {filed : Filed}
    (added : store.addEntity target draft = (.ok filed, after)) :
    store.Takes target table draft filed.entity after := by
  have names := @addEntity_names store target draft
  rw [added] at names
  unfold addEntity at added
  rw [table_eq_ok_iff.2 known] at added
  simp only at added
  split at added
  · cases added
  · split at added
    · cases added
    · rename_i index listing placed
      have fresh := Arena.get?_alloc_fresh wellFormed.entities (draft.toEntity target)
      have entities := Arena.get?_alloc wellFormed.entities (draft.toEntity target)
      have grown := wellFormed.entities.alloc (draft.toEntity target)
      have filing := Table.filing_of_file placed
      have listing_eq := filing.eq_append unused
      -- From here on, only the map of the new arena counts, not how it was made.
      generalize store.entities.alloc (draft.toEntity target) = allocated at *
      cases added
      have listed := Arena.get?_set known listing
      rw [listing_eq] at listed
      refine TakesIn.takes ?_ known fresh (listing_eq ▸ filing) ?_ names
      · exact openRegion_takesIn ⟨grown, wellFormed.tables.set known listing⟩ entities
          (listing_eq ▸ listed)
      · cases draft.kind <;> rfl

/-- A draft that cannot be added leaves the store as it was. -/
theorem addEntity_error (wellFormed : store.WellFormed) {failure : Failure}
    (failed : store.addEntity target draft = (.error failure, after)) :
    store.SameContents after := by
  have names := @addEntity_names store target draft
  rw [failed] at names
  unfold addEntity at failed
  split at failed
  · cases failed
    exact ⟨rfl, rfl, rfl, rfl⟩
  · split at failed
    · cases failed
      exact ⟨rfl, rfl, rfl, rfl⟩
    · simp only at failed
      split at failed
      · -- The handle that was taken for the draft is stale again.
        cases (rollback_edit wellFormed (draft.toEntity target)).1 with
        | rest entities tables global =>
            cases failed
            exact ⟨entities, tables, global, names⟩
      · cases failed

end SymbolStore

/-- A log with one more error at the end. -/
def DiagnosticLog.GainsError (before after : DiagnosticLog) : Prop :=
  ∃ diagnostic, diagnostic.severity = .error ∧
    after = { before with entries := before.entries ++ [diagnostic], errors := before.errors + 1 }

/-- The log keeps what reports a problem as it is, since that is an error already. -/
theorem DiagnosticLog.admitted_toDiagnostic (log : DiagnosticLog) (problem : Problem) :
    log.admitted problem.toDiagnostic = problem.toDiagnostic := by
  unfold DiagnosticLog.admitted
  split
  · rfl
  · rfl

/-- A problem that is reported is one more error in the log. -/
theorem DiagnosticLog.gainsError_append (log : DiagnosticLog) (problem : Problem) :
    log.GainsError (log.append problem.toDiagnostic) := by
  refine ⟨problem.toDiagnostic, rfl, ?_⟩
  unfold DiagnosticLog.append
  rw [log.admitted_toDiagnostic]
  rfl

/-- Reporting a problem puts it into the log, whether the budget lasts or not. -/
theorem DiagnosticLog.report_cases (log : DiagnosticLog) (problem : Problem) :
    log.report problem = (.ok (), log.append problem.toDiagnostic) ∨
      ∃ exhausted, log.report problem =
        (.error (.budgetExhausted exhausted), log.append problem.toDiagnostic) := by
  unfold DiagnosticLog.report DiagnosticLog.record
  by_cases exhausted : (log.append problem.toDiagnostic).exhausted = true
  · exact Or.inr ⟨_, by simp only [if_pos exhausted]; rfl⟩
  · exact Or.inl (by simp only [if_neg exhausted])

namespace Resolver

/-- What a declaration of a draft in a table may make of a resolver, for each answer to it. -/
def DeclarationEffect (before : Resolver) (target : TableId) (table : Table) (draft : Draft) :
    Except Failure Declared × Resolver → Prop
  | (.ok (.new filed), after) =>
    before.store.Takes target table draft filed.entity after.store ∧
      after = { before with store := after.store }
  | (.ok (.redeclared entity), after) => before.store.BelongsTo entity target ∧ after = before
  | (.ok (.rejected entity), after) =>
    before.store.BelongsTo entity target ∧ before.log.GainsError after.log ∧
      after = { before with log := after.log }
  | (.error (.budgetExhausted _), after) =>
    before.log.GainsError after.log ∧ after = { before with log := after.log }
  | (.error _, after) =>
    before.store.SameContents after.store ∧ after = { before with store := after.store }

variable {before : Resolver} {target : TableId} {table : Table} {draft : Draft}

/-- A failure that is not for the budget leaves the log alone. -/
theorem DeclarationEffect.of_error {failure : Failure} {after : Resolver}
    (other : ∀ exhausted, failure ≠ .budgetExhausted exhausted)
    (store : before.store.SameContents after.store)
    (rest : after = { before with store := after.store }) :
    before.DeclarationEffect target table draft (.error failure, after) := by
  cases failure with
  | budgetExhausted exhausted => exact absurd rfl (other exhausted)
  | _ => exact ⟨store, rest⟩

/-- The effect of filing a draft that was judged to be new. -/
theorem effect_of_accepted (sound : before.store.Sound)
    (known : before.store.tables.get? target = some table)
    (accepted : before.store.Accepted target draft) :
    before.DeclarationEffect target table draft (before.fileJudged target draft .accepted) := by
  have unused (isLabel : draft.kind.slot = .label) : table.label? draft.name = none :=
    SymbolStore.label?_of_accepted accepted isLabel known
  have spares := @SymbolStore.addEntity_spares before.store target draft
  unfold fileJudged insertInto
  cases added : before.store.addEntity target draft with
  | mk answer store =>
      cases answer with
      | ok filed =>
          exact ⟨SymbolStore.addEntity_takes sound.wellFormed known unused added, rfl⟩
      | error failure =>
          exact .of_error (spares.failure_ne (congrArg Prod.fst added))
            (SymbolStore.addEntity_error sound.wellFormed added) rfl

/-- Finding out what a draft is judged against spares the budget. -/
theorem priorAndRole_spares (target : TableId) (draft : Draft) :
    SparesBudget (before.priorAndRole target draft) :=
  .bind (SymbolStore.priorDeclarations_spares target draft) fun _ =>
    .bind (SymbolStore.roleForDraft_spares draft target) fun _ => .ok _

/-- A declaration in a table that is there has one of the effects, in every sound resolver. -/
theorem effect_of_sound (sound : before.store.Sound)
    (known : before.store.tables.get? target = some table) :
    before.DeclarationEffect target table draft (before.declareIn target draft) := by
  have unchanged : before.store.SameContents before.store := ⟨rfl, rfl, rfl, rfl⟩
  unfold declareIn
  cases looked : before.priorAndRole target draft with
  | error failure => exact .of_error ((priorAndRole_spares target draft).failure_ne looked) unchanged rfl
  | ok found =>
      obtain ⟨prior, role⟩ := found
      obtain ⟨priorFound, roleFound⟩ := priorAndRole_eq_ok looked
      simp only
      unfold judgeIn settle DiagnosticLog.settle
      cases judged : before.store.judge draft target prior role with
      | error failure =>
          exact .of_error (SymbolStore.judge_spares prior |>.failure_ne judged) unchanged rfl
      | ok judgement =>
          -- What the draft is judged against is listed in the table, so it is there.
          have belongs {entity : EntityId} (among : entity ∈ prior.entities) :
              before.store.BelongsTo entity target :=
            sound.linked.listed target table known entity
              (SymbolStore.mem_listed_of_priorDeclarations sound.linked known priorFound among)
          cases SymbolStore.judge_judged judged with
          | accepted =>
              exact effect_of_accepted sound known ⟨prior, role, _, priorFound, roleFound, judged, rfl⟩
          | matched among => exact ⟨belongs among, rfl⟩
          | @conflict entity problem among =>
              have grown := before.log.gainsError_append problem
              rcases before.log.report_cases problem with reported | ⟨exhausted, reported⟩
              · simp only [reported]
                exact ⟨belongs among, grown, rfl⟩
              · simp only [reported]
                exact ⟨grown, rfl⟩

end Resolver

end ScopeResolution

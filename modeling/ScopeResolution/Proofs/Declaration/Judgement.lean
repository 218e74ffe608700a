import ScopeResolution.Proofs.Declaration.Coexistence
import ScopeResolution.Proofs.Table.Slots

/-! # Judgements

What the judgement of a draft can be (`judge_judged`): the entity that it names is one of those that
the draft is judged against, and it comes with a problem to report exactly when it is a conflict.
Judging asks the store questions only, and none of these fails for the error budget, which is used
up by reporting alone (`SparesBudget`). -/

namespace ScopeResolution

/-- An answer that is not missing because the error budget is used up. -/
def SparesBudget {α : Type} (answer : Except Failure α) : Prop :=
  ∀ exhausted, answer ≠ .error (.budgetExhausted exhausted)

namespace SparesBudget

variable {α β : Type}

theorem ok (value : α) : SparesBudget (.ok value : Except Failure α) := by
  intro exhausted same
  cases same

theorem error {failure : Failure} (other : ∀ exhausted, failure ≠ .budgetExhausted exhausted) :
    SparesBudget (.error failure : Except Failure α) := by
  intro exhausted same
  cases same
  exact other exhausted rfl

/-- A failure of an answer that spares the budget is another one. -/
theorem failure_ne {answer : Except Failure α} {failure : Failure} (spares : SparesBudget answer)
    (failed : answer = .error failure) (exhausted : BudgetExhausted) :
    failure ≠ .budgetExhausted exhausted := by
  rintro rfl
  exact spares exhausted failed

/-- Two steps spare the budget when each of them does. -/
theorem bind {step : Except Failure α} {next : α → Except Failure β} (first : SparesBudget step)
    (second : ∀ value, SparesBudget (next value)) : SparesBudget (step >>= next) := by
  cases step with
  | ok value => exact second value
  | error failure =>
      intro exhausted same
      cases same
      exact first exhausted rfl

/-- Steps over a list spare the budget when each of them does. -/
theorem foldlM {step : β → α → Except Failure β} (list : List α) (start : β)
    (each : ∀ state item, SparesBudget (step state item)) :
    SparesBudget (list.foldlM step start) := by
  induction list generalizing start with
  | nil => exact ok start
  | cons first rest ih => exact bind (each start first) ih

end SparesBudget

namespace SymbolStore

variable {store : SymbolStore} {draft : Draft} {target : TableId} {role : Role}

/-! ## Questions spare the budget -/

theorem entity_spares (id : EntityId) : SparesBudget (store.entity id) := by
  unfold SymbolStore.entity
  split
  · exact .ok _
  · exact .error fun _ same => nomatch same

theorem table_spares (id : TableId) : SparesBudget (store.table id) := by
  unfold SymbolStore.table
  split
  · exact .ok _
  · exact .error fun _ same => nomatch same

theorem roleOf_spares (id : EntityId) : SparesBudget (store.roleOf id) :=
  .bind (entity_spares id) fun _ => .bind (table_spares _) fun _ => .ok _

theorem hitsOf_spares (entities : List EntityId) : SparesBudget (store.hitsOf entities) :=
  .foldlM entities Hits.empty fun _ entity => .bind (roleOf_spares entity) fun _ => .ok _

/-- Finding the names around a table, step by step outwards. -/
theorem ownerNames_spares (steps : Nat) (start : Option TableId) :
    SparesBudget (store.ownerNames steps start) := by
  induction steps generalizing start with
  | zero =>
      cases start with
      | none => exact .ok _
      | some id => exact .error fun _ same => nomatch same
  | succ steps ih =>
      cases start with
      | none => exact .ok _
      | some id =>
          rw [ownerNames]
          refine .bind (table_spares id) fun table => ?_
          have outward (own : List Name) : SparesBudget (do
              let outer ← store.ownerNames steps table.parent?
              pure (own ++ outer)) := .bind (ih _) fun _ => .ok _
          cases table.owner? with
          | none => exact outward []
          | some owner => exact .bind (entity_spares owner) fun _ => outward _

theorem qualifiedName_spares (id : EntityId) : SparesBudget (store.qualifiedName id) :=
  .bind (entity_spares id) fun _ => .bind (ownerNames_spares _ _) fun _ => .ok _

theorem priorDeclarations_spares (target : TableId) (draft : Draft) :
    SparesBudget (store.priorDeclarations target draft) := by
  unfold priorDeclarations
  split
  · exact .bind (table_spares target) fun _ => hitsOf_spares _
  · refine .bind (.bind (table_spares target) fun _ => .ok _) fun label => ?_
    cases label with
    | none => exact .ok _
    | some label => exact .ok _
  · exact .bind (table_spares target) fun _ => hitsOf_spares _

theorem roleForDraft_spares (draft : Draft) (target : TableId) :
    SparesBudget (store.roleForDraft draft target) :=
  .bind (table_spares target) fun _ => .ok _

theorem firstOfKind_spares {α : Type} (test : EntityKind → Option α) (ids : List EntityId) :
    SparesBudget (store.firstOfKind test ids) := by
  induction ids with
  | nil => exact .ok _
  | cons first rest ih =>
      refine .bind (entity_spares first) fun entity => ?_
      cases test entity.kind with
      | none => exact ih
      | some result => exact .ok _

theorem conflictWith_spares (prior : EntityId) : SparesBudget (store.conflictWith draft prior) :=
  .bind (qualifiedName_spares prior) fun _ => .bind (entity_spares prior) fun _ => .ok _

theorem judgeObject_spares (first : EntityId) (rest : List EntityId) :
    SparesBudget (store.judgeObject draft role first rest) := by
  unfold judgeObject
  split
  · refine .bind (firstOfKind_spares _ _) fun found => ?_
    cases found with
    | none => exact conflictWith_spares first
    | some prior => exact .ok _
  · exact conflictWith_spares first

theorem judgeFunction_spares (first : EntityId) (rest : List EntityId) :
    SparesBudget (store.judgeFunction draft target role first rest) := by
  unfold judgeFunction
  split
  · exact .error fun _ same => nomatch same
  · refine .bind (firstOfKind_spares _ _) fun found => ?_
    cases found with
    | some prior =>
        simp only
        split
        · exact .ok _
        · exact conflictWith_spares _
    | none =>
        simp only
        split
        · refine .bind (table_spares target) fun table => ?_
          split
          · exact .ok _
          · exact .ok _
        · exact .ok _

theorem judgeAlias_spares (first : EntityId) : SparesBudget (store.judgeAlias draft first) := by
  refine .bind (entity_spares first) fun prior => ?_
  split
  · exact .ok _
  · exact conflictWith_spares first

/-- Judging a draft spares the budget. -/
theorem judge_spares (prior : Hits) : SparesBudget (store.judge draft target prior role) := by
  unfold judge
  split
  · exact .bind (qualifiedName_spares _) fun _ => .ok _
  · split
    · exact .ok _
    · unfold judgeSameRole
      split
      · exact judgeFunction_spares _ _
      · split
        · exact .ok _
        · split
          · exact judgeObject_spares _ _
          · exact judgeObject_spares _ _
          · exact judgeAlias_spares _
          · exact judgeAlias_spares _
          · exact conflictWith_spares _

/-- Whether a draft is fit for a table is found out without the budget. -/
theorem validate_spares (kind : TableKind) : SparesBudget (store.validate draft kind) := by
  have defect : SparesBudget (store.defect? draft.kind kind) := by
    unfold defect?
    split
    · exact .ok _
    · exact .ok _
    · split
      · refine .bind (entity_spares _) fun _ => ?_
        split
        · exact .ok _
        · exact .ok _
      · exact .ok _
    · refine .bind (entity_spares _) fun _ => ?_
      split
      · exact .ok _
      · exact .ok _
      · exact .ok _
    · exact .ok _
  refine .bind defect fun found => ?_
  cases found with
  | none => exact .ok _
  | some defect => exact .error fun _ same => nomatch same

/-- Adding an entity spares the budget. -/
theorem addEntity_spares (target : TableId) (draft : Draft) :
    SparesBudget (store.addEntity target draft).1 := by
  unfold addEntity
  have known : SparesBudget (store.table target) := table_spares target
  split
  · rename_i failure stale
    exact .error (known.failure_ne stale)
  · rename_i table found
    have valid : SparesBudget (store.validate draft table.kind) := validate_spares table.kind
    split
    · rename_i failure misfit
      exact .error (valid.failure_ne misfit)
    · simp only
      split
      · rename_i refusal _
        refine .error fun _ same => ?_
        cases refusal <;> cases same
      · exact .ok _

/-! ## What a judgement says -/

/-- The judgements of a draft against some entities. -/
inductive Judged (entities : List EntityId) : Judgement Verdict → Prop where
  /-- The draft is new, and nothing is reported. -/
  | accepted : Judged entities { answer := .accepted }
  /-- The draft declares one of the entities again, and nothing is reported. -/
  | matched {entity : EntityId} (among : entity ∈ entities) :
      Judged entities { answer := .matched entity }
  /-- The draft conflicts with one of the entities, which is reported. -/
  | conflict {entity : EntityId} {problem : Problem} (among : entity ∈ entities) :
      Judged entities { answer := .conflict entity, problem := some problem }

variable {entities rest : List EntityId} {first : EntityId} {judgement : Judgement Verdict}

/-- A search for a kind finds one of the entities that it goes through. -/
theorem firstOfKind_mem {α : Type} {test : EntityKind → Option α} {result : α}
    (searched : store.firstOfKind test entities = .ok (some (first, result))) :
    first ∈ entities := by
  induction entities with
  | nil => cases searched
  | cons head tail ih =>
      rw [firstOfKind] at searched
      obtain ⟨entity, -, searched⟩ := bind_eq_ok_iff.1 searched
      split at searched
      · cases searched
        exact List.mem_cons_self
      · exact List.mem_cons_of_mem _ (ih searched)

/-- The conflict with an entity of the same role names that entity. -/
theorem conflictWith_judged (among : first ∈ entities)
    (judged : store.conflictWith draft first = .ok judgement) : Judged entities judgement := by
  unfold conflictWith at judged
  obtain ⟨name, -, judged⟩ := bind_eq_ok_iff.1 judged
  obtain ⟨entity, -, judged⟩ := bind_eq_ok_iff.1 judged
  cases judged
  exact .conflict among

/-- An object is judged against the entities of its role. -/
theorem judgeObject_judged
    (judged : store.judgeObject draft role first rest = .ok judgement) :
    Judged (first :: rest) judgement := by
  unfold judgeObject at judged
  split at judged
  · obtain ⟨found, searched, judged⟩ := bind_eq_ok_iff.1 judged
    cases found with
    | none => exact conflictWith_judged List.mem_cons_self judged
    | some prior =>
        cases judged
        exact .matched (firstOfKind_mem searched)
  · exact conflictWith_judged List.mem_cons_self judged

/-- A function is judged against the entities of its role. -/
theorem judgeFunction_judged
    (judged : store.judgeFunction draft target role first rest = .ok judgement) :
    Judged (first :: rest) judgement := by
  unfold judgeFunction at judged
  split at judged
  · cases judged
  · obtain ⟨found, searched, judged⟩ := bind_eq_ok_iff.1 judged
    cases found with
    | some prior =>
        simp only at judged
        split at judged
        · cases judged
          exact .matched (firstOfKind_mem searched)
        · exact conflictWith_judged (firstOfKind_mem searched) judged
    | none =>
        simp only at judged
        split at judged
        · obtain ⟨table, -, judged⟩ := bind_eq_ok_iff.1 judged
          split at judged
          · cases judged
            exact .conflict List.mem_cons_self
          · cases judged
            exact .accepted
        · cases judged
          exact .accepted

/-- An alias is judged against the first entity of its role. -/
theorem judgeAlias_judged (judged : store.judgeAlias draft first = .ok judgement) :
    Judged (first :: rest) judgement := by
  unfold judgeAlias at judged
  obtain ⟨prior, -, judged⟩ := bind_eq_ok_iff.1 judged
  split at judged
  · cases judged
    exact .matched List.mem_cons_self
  · exact conflictWith_judged List.mem_cons_self judged

/-- A draft is judged against the entities of its own role if there are any. -/
theorem judgeSameRole_judged
    (judged : store.judgeSameRole draft target role first rest = .ok judgement) :
    Judged (first :: rest) judgement := by
  unfold judgeSameRole at judged
  split at judged
  · exact judgeFunction_judged judged
  · split at judged
    · cases judged
      exact .matched List.mem_cons_self
    · split at judged
      · exact judgeObject_judged judged
      · exact judgeObject_judged judged
      · exact judgeAlias_judged judged
      · exact judgeAlias_judged judged
      · exact conflictWith_judged List.mem_cons_self judged

/-- Judgements against some of the entities are judgements against all of them. -/
theorem Judged.mono {more : List EntityId} (judged : Judged entities judgement)
    (among : entities ⊆ more) : Judged more judgement := by
  cases judged with
  | accepted => exact .accepted
  | matched isAmong => exact .matched (among isAmong)
  | conflict isAmong => exact .conflict (among isAmong)

/-- A draft is judged against what is declared under its name. -/
theorem judge_judged {prior : Hits} (judged : store.judge draft target prior role = .ok judgement) :
    Judged prior.entities judgement := by
  unfold judge at judged
  split at judged
  · rename_i hit found
    unfold conflictOfKind at judged
    obtain ⟨name, -, judged⟩ := bind_eq_ok_iff.1 judged
    cases judged
    exact .conflict (List.mem_map_of_mem (List.mem_of_find?_eq_some found))
  · split at judged
    · cases judged
      exact .accepted
    · rename_i first rest sameRole
      refine (judgeSameRole_judged judged).mono ?_
      rw [← sameRole]
      exact List.map_subset _ (List.filter_subset_self _)

/-- What a draft is judged against is listed in the table that it is meant for. -/
theorem mem_listed_of_priorDeclarations (linked : store.Linked) {table : Table}
    (known : store.tables.get? target = some table) {prior : Hits}
    (looked : store.priorDeclarations target draft = .ok prior) {member : EntityId}
    (found : member ∈ prior.entities) : member ∈ table.listed := by
  have among {members : List EntityId} {role : EntityId → Role}
      (hits : prior = .ofList (members.map fun member => ⟨member, role member⟩)) :
      member ∈ members := by
    subst hits
    obtain ⟨hit, collected, rfl⟩ := List.mem_map.1 found
    obtain ⟨other, listed, rfl⟩ := List.mem_map.1 (Hits.mem_ofList collected)
    exact listed
  unfold priorDeclarations at looked
  split at looked
  · obtain ⟨role, -, hits⟩ := linked.constructors_eq_ok known
    rw [hits, Except.ok.injEq] at looked
    exact table.constructors_subset_listed (among looked.symm)
  · unfold labelHits findLabel at looked
    simp only [table_eq_ok_iff.2 known, ok_bind] at looked
    cases labelled : table.label? draft.name with
    | none =>
        rw [labelled] at looked
        cases looked
        cases found
    | some label =>
        rw [labelled] at looked
        cases looked
        have same : member = label := List.mem_singleton.1 found
        rw [same]
        exact (Table.lists_of_label? labelled).mem_listed
  · obtain ⟨role, -, hits⟩ := linked.findInScope_eq_ok known draft.name
    rw [hits, Except.ok.injEq] at looked
    exact table.entries_subset_listed draft.name (among looked.symm)

end SymbolStore

end ScopeResolution

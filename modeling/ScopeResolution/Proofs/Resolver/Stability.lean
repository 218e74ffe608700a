import ScopeResolution.Proofs.Resolver.DeclarationEffect
import ScopeResolution.Proofs.Resolver.Repetition

/-! # Declarations are stable

A draft that was filed as a new entity stands for that entity from then on. As long as the table is
there, it shows the entity to drafts of its slot and name (`standing_run`), beside others that were
declared under the name in the meantime. When the same draft is judged again, the verdict is on the
entity itself, and the main statement `declaration_is_stable` says which verdict that is. -/

namespace ScopeResolution

namespace Table

/-- A table shows an entity to the drafts of a slot and a name: they are judged against it. -/
structure Shows (table : Table) (slot : EntrySlot) (name : Name) (id : EntityId) : Prop where
  /-- The entity is listed in the slot under the name. -/
  lists : table.Lists slot name id
  /-- Of several labels of the name, the entity is the one that is found. -/
  label?_eq : slot = .label → table.label? name = some id
  /-- No member hides the entity if it is a parameter. -/
  unhidden : slot = .parameter → table.members.get name = []

variable {table after : Table} {slot slot' : EntrySlot} {name name' : Name} {id id' : EntityId}

/-- A label is found under its name when an entity is filed, unless another label takes its
place. -/
theorem Filing.label?_kept (filing : Filing table name' id' slot' after)
    (unused : slot' = .label → table.label? name' = none) (labelled : table.label? name = some id) :
    after.label? name = some id := by
  cases filing with
  | member => exact labelled
  | label form =>
      have free := unused rfl
      rw [label?, function?, form, Option.bind_some] at free labelled
      simp only [label?, function?, Option.bind_some, FunctionBody.putLabel_of_unused id' free]
      rw [List.lookup_append, labelled]
      rfl
  | parameter form => simpa [label?, function?, form] using labelled
  | _ form => simp [label?, function?, form] at labelled

/-- The members of a name stay the same when nothing is filed under it as a member. -/
theorem Filing.members_eq (filing : Filing table name' id' slot' after)
    (other : slot'.isMember = true → name' ≠ name) :
    after.members.get name = table.members.get name := by
  have grown (isMember : slot'.isMember = true) :
      (table.members.insert name' id').get name = table.members.get name := by
    rw [OverloadSets.get_insert, if_neg (other isMember).symm]
  cases filing with
  | member => exact grown rfl
  | destructor => exact grown rfl
  | conversion => exact grown rfl
  | constructor => rfl
  | parameter => rfl
  | label => rfl

/-- A table goes on showing what it showed when an entity is filed, unless that is a label in the
place of another one, or a member that hides a parameter. -/
theorem Filing.shows_kept (filing : Filing table name' id' slot' after)
    (shown : table.Shows slot name id) (unused : slot' = .label → table.label? name' = none)
    (apart : slot = .parameter → slot'.isMember = true → name' ≠ name) :
    after.Shows slot name id where
  lists := filing.lists_kept (fun isLabel _ => unused isLabel) shown.lists
  label?_eq isLabel := filing.label?_kept unused (shown.label?_eq isLabel)
  unhidden isParameter := by
    rw [filing.members_eq (apart isParameter), shown.unhidden isParameter]

/-- A table that is revised goes on showing what it showed. -/
theorem Revised.shows_kept (revised : Revised table after) (shown : table.Shows slot name id) :
    after.Shows slot name id where
  lists := revised.lists_kept shown.lists
  label?_eq isLabel := by
    rw [label?, revised.sameContents.function?_eq]
    exact shown.label?_eq isLabel
  unhidden isParameter := by
    rw [revised.sameContents.members_eq, shown.unhidden isParameter]

/-- A table shows what is filed in it, unless that is a label in the place of another one, or a
parameter that a member hides. -/
theorem Filing.shows_new (filing : Filing table name id slot after)
    (unused : slot = .label → table.label? name = none)
    (unhidden : slot = .parameter → table.members.get name = []) : after.Shows slot name id where
  lists := filing.lists_new unused
  label?_eq isLabel := by
    subst isLabel
    cases filing with
    | label form =>
        have free := unused rfl
        rw [label?, function?, form, Option.bind_some] at free
        simp only [label?, function?, Option.bind_some, FunctionBody.putLabel_of_unused id free]
        rw [List.lookup_append, free]
        simp
  unhidden isParameter := by
    have notMember (isMember : slot.isMember = true) : name ≠ name := by
      rw [isParameter] at isMember
      cases isMember
    rw [filing.members_eq notMember, unhidden isParameter]

end Table

namespace SymbolStore

variable {store before after : SymbolStore} {draft : Draft} {target : TableId} {id : EntityId}

/-! ## Where a declared entity stands -/

/-- An entity of a draft is in its place in a table, where the draft is judged against it when it is
declared again. -/
structure Standing (store : SymbolStore) (target : TableId) (draft : Draft) (id : EntityId) :
    Prop where
  /-- The entity is what the draft says, and belongs to the table. -/
  entity : ∃ entity, store.entities.get? id = some entity ∧ entity.kind = draft.kind ∧
    entity.owner = target
  /-- The table shows the entity. -/
  shown : ∃ table, store.tables.get? target = some table ∧
    table.Shows draft.kind.slot draft.name id

/-- What is accepted beside an entry is no parameter, and neither is the entry. -/
theorem not_parameter_of_accepted (linked : before.Linked) {table : Table}
    (known : before.tables.get? target = some table) {entity : Entity}
    (found : before.entities.get? id = some entity) (isEntry : id ∈ table.entries draft.name)
    (notConstructor : draft.kind.slot ≠ .constructor) (notLabel : draft.kind.slot ≠ .label)
    (accepted : before.Accepted target draft) :
    draft.kind.slot ≠ .parameter ∧ entity.kind.slot ≠ .parameter := by
  have coexist := coexist_of_accepted linked known (table.entries_subset_listed draft.name)
    (priorDeclarations_of_entries known notConstructor notLabel) accepted isEntry found
  exact ⟨coexist.symm.slot_ne_parameter, coexist.slot_ne_parameter⟩

/-- A parameter is accepted only where no member has its name. -/
theorem members_of_accepted_parameter (linked : before.Linked) {table : Table}
    (known : before.tables.get? target = some table) (isParameter : draft.kind.slot = .parameter)
    (accepted : before.Accepted target draft) : table.members.get draft.name = [] := by
  by_contra hidden
  obtain ⟨member, isMember⟩ := List.exists_mem_of_ne_nil _ hidden
  rw [← table.entries_of_members hidden] at isMember
  obtain ⟨entity, found, -⟩ := linked.listed target table known member
    (table.entries_subset_listed draft.name isMember)
  refine (not_parameter_of_accepted linked known found isMember ?_ ?_ accepted).1 isParameter
  · rw [isParameter]
    decide
  · rw [isParameter]
    decide

/-- An entity stays in its place when the store is edited, if the drafts that are filed are
accepted. -/
theorem Standing.edit (standing : before.Standing target draft id) (linked : before.Linked)
    {change : Change} (edit : Edit before change after)
    (accepted : ∀ target draft id, change = .file target draft id →
      before.Accepted target draft) : after.Standing target draft id := by
  obtain ⟨⟨entity, found, kind, owner⟩, table, known, shown⟩ := standing
  constructor
  · obtain ⟨later, laterFound, altered⟩ := edit.entity_later found
    exact ⟨later, laterFound, by rw [altered.kind_eq, kind], by rw [altered.owner_eq, owner]⟩
  · obtain ⟨later, laterKnown, altered⟩ := edit.table_later known
    refine ⟨later, laterKnown, ?_⟩
    cases altered with
    | keep => exact shown
    | revise revision => exact revision.shows_kept shown
    | @file other new _ filing =>
        have isAccepted := accepted target other new rfl
        refine filing.shows_kept shown (fun isLabel => label?_of_accepted isAccepted isLabel known) ?_
        intro isParameter isMember sameName
        have listed := shown.lists
        rw [isParameter] at listed
        have entries := listed.mem_entries_of_parameter (shown.unhidden isParameter)
        refine (not_parameter_of_accepted linked known found (sameName ▸ entries) ?_ ?_
          isAccepted).2 (by rw [kind, isParameter])
        · exact fun same => nomatch same ▸ isMember
        · exact fun same => nomatch same ▸ isMember

/-- An entity stays in its place when a table is released, if its own table stays. -/
theorem Standing.released (standing : before.Standing target draft id) (linked : before.Linked)
    {closed : TableId} (released : Released before closed after) {table : Table}
    (live : after.tables.get? target = some table) : after.Standing target draft id := by
  obtain ⟨⟨entity, found, kind, owner⟩, old, known, shown⟩ := standing
  obtain ⟨same, outside⟩ := released.table_left live
  constructor
  · refine ⟨entity.forget closed, released.entity_stays linked found (by rwa [owner]),
      by rw [Entity.forget_kind, kind], by rw [Entity.forget_owner, owner]⟩
  · rw [known, Option.some.injEq] at same
    exact ⟨table, live, same ▸ shown⟩

/-- A draft that is declared again is judged against its entity, and against others beside it. -/
theorem Standing.besideHits (standing : store.Standing target draft id) (linked : store.Linked)
    (overloaded : store.Overloaded) {table : Table}
    (known : store.tables.get? target = some table) {prior : Hits}
    (looked : store.priorDeclarations target draft = .ok prior) :
    store.BesideHits (table.kind == .classTable) prior ∧
      ∃ hit ∈ prior.toList, hit.entity = id := by
  obtain ⟨⟨entity, found, kind, -⟩, table', known', shown⟩ := standing
  rw [known, Option.some.injEq] at known'
  subst known'
  have among {members : List EntityId} (listed : members ⊆ table.listed)
      (pairwise : members.Pairwise (store.Beside (table.kind == .classTable)))
      (hits : store.priorDeclarations target draft = store.hitsOf members)
      (isMember : id ∈ members) : store.BesideHits (table.kind == .classTable) prior ∧
        ∃ hit ∈ prior.toList, hit.entity = id := by
    rw [looked] at hits
    obtain ⟨hits', found', besideHits⟩ := besideHits_of_pairwise linked known listed pairwise
    rw [← hits, Except.ok.injEq] at found'
    exact ⟨found' ▸ besideHits, exists_hit_of_hitsOf linked known listed hits.symm isMember⟩
  have entries (isEntry : id ∈ table.entries draft.name)
      (notConstructor : draft.kind.slot ≠ .constructor) (notLabel : draft.kind.slot ≠ .label) :=
    among (table.entries_subset_listed draft.name) (overloaded.entries target table known draft.name)
      (priorDeclarations_of_entries known notConstructor notLabel) isEntry
  have lists := shown.lists
  cases slot : draft.kind.slot with
  | constructor =>
      rw [slot] at lists
      exact among table.constructors_subset_listed (overloaded.constructors target table known)
        (priorDeclarations_of_constructor known slot) lists
  | parameter =>
      rw [slot] at lists
      exact entries (lists.mem_entries_of_parameter (shown.unhidden slot)) (by rw [slot]; decide)
        (by rw [slot]; decide)
  | label =>
      -- The label alone is what the draft is judged against.
      have hits : prior = .ofList [⟨id, .label⟩] := by
        unfold priorDeclarations labelHits findLabel at looked
        rw [slot] at looked
        simp only [table_eq_ok_iff.2 known, ok_bind, shown.label?_eq slot] at looked
        cases looked
        rfl
      have only {hit : Hit} (isHit : hit ∈ prior.toList) : hit = ⟨id, .label⟩ := by
        rw [hits] at isHit
        exact List.mem_singleton.1 isHit
      refine ⟨⟨?_, ?_, ?_⟩, ⟨id, .label⟩, by rw [hits]; exact List.mem_cons_self, rfl⟩
      · rw [hits]
        exact Hits.nodup_entities_ofList _
      · intro hit isHit
        rw [only isHit]
        exact ⟨entity, found, by rw [kind, EntityKind.eq_label_of_slot slot]; rfl⟩
      · intro first firstHit second secondHit differ
        exact absurd ((only firstHit).trans (only secondHit).symm) differ
  | _ =>
      exact entries (lists.mem_entries (by rw [slot]; rfl)) (by rw [slot]; decide)
        (by rw [slot]; decide)

end SymbolStore

namespace Resolver

variable {resolver : Resolver} {target : TableId} {draft : Draft} {id : EntityId}

/-- A declaration that has an answer judged the draft: it was accepted and is new, or the verdict
says what it is. -/
theorem declareIn_eq_ok {declared : Declared}
    (answered : (resolver.declareIn target draft).1 = .ok declared) :
    ∃ prior role judgement, resolver.store.priorDeclarations target draft = .ok prior ∧
      resolver.store.roleForDraft draft target = .ok role ∧
      resolver.store.judge draft target prior role = .ok judgement ∧
      (judgement.answer.declared? = some declared ∨
        judgement.answer = .accepted ∧ declared.isNew = true) := by
  unfold declareIn at answered
  cases looked : resolver.priorAndRole target draft with
  | error failure => rw [looked] at answered; cases answered
  | ok found =>
      obtain ⟨prior, role⟩ := found
      obtain ⟨priorFound, roleFound⟩ := priorAndRole_eq_ok looked
      rw [looked] at answered
      simp only at answered
      cases settled : resolver.judgeIn target draft prior role with
      | mk answer next =>
          rw [settled] at answered
          cases answer with
          | error failure => cases answered
          | ok verdict =>
              obtain ⟨judgement, judged, rfl⟩ := settle_eq_ok settled
              refine ⟨prior, role, judgement, priorFound, roleFound, judged, ?_⟩
              simp only [fileJudged] at answered
              cases verdict : judgement.answer with
              | matched entity => rw [verdict] at answered; cases answered; exact Or.inl rfl
              | conflict entity => rw [verdict] at answered; cases answered; exact Or.inl rfl
              | accepted =>
                  rw [verdict] at answered
                  simp only [Verdict.declared?] at answered
                  split at answered
                  · cases answered
                  · cases answered
                    exact Or.inr ⟨rfl, rfl⟩

/-- A draft that is judged to declare an entity again declares it again. -/
theorem declareIn_of_matched {prior : Hits} {role : Role}
    (looked : resolver.priorAndRole target draft = .ok (prior, role))
    (judged : resolver.store.judge draft target prior role = .ok { answer := .matched id }) :
    (resolver.declareIn target draft).1 = .ok (.redeclared id) := by
  unfold declareIn judgeIn settle
  simp only [looked, judged]
  rfl

/-- A draft that was filed was judged to be new. -/
theorem accepted_of_new {filed : Filed}
    (answered : (resolver.declareIn target draft).1 = .ok (.new filed)) :
    resolver.store.Accepted target draft := by
  obtain ⟨prior, role, judgement, priorFound, roleFound, judged, answer⟩ := declareIn_eq_ok answered
  refine ⟨prior, role, judgement, priorFound, roleFound, judged, ?_⟩
  rcases answer with declared | ⟨isAccepted, -⟩
  · cases verdict : judgement.answer <;> rw [verdict] at declared <;> cases declared
  · exact isAccepted

/-- A table takes in what is filed as a new entity. -/
theorem takes_of_new (sound : resolver.store.Sound) {filed : Filed}
    (declared : (resolver.declareIn target draft).1 = .ok (.new filed)) :
    ∃ table, resolver.store.tables.get? target = some table ∧
      resolver.store.Takes target table draft filed.entity
        (resolver.declareIn target draft).2.store := by
  obtain ⟨table, known⟩ : ∃ table, resolver.store.tables.get? target = some table := by
    obtain ⟨_, role, _, -, roleFound, -⟩ := accepted_of_new declared
    obtain ⟨table, known, -⟩ := bind_eq_ok_iff.1 roleFound
    exact ⟨table, SymbolStore.table_eq_ok_iff.1 known⟩
  refine ⟨table, known, ?_⟩
  have effect := @effect_of_sound resolver target table draft sound known
  generalize resolver.declareIn target draft = result at *
  obtain ⟨answer, after⟩ := result
  cases declared
  exact effect.1

/-- A draft that is filed as a new entity stands in its place. -/
theorem standing_of_new (sound : resolver.store.Sound) {filed : Filed}
    (declared : (resolver.declareIn target draft).1 = .ok (.new filed)) :
    (resolver.step (.declareIn target draft)).store.Standing target draft filed.entity := by
  have accepted := accepted_of_new declared
  obtain ⟨table, known, takes⟩ := takes_of_new sound declared
  obtain ⟨entity, found, describes⟩ := takes.described
  refine ⟨⟨entity, found, describes.kind_eq, describes.owner_eq⟩, _,
    takes.takesIn.table_after known, ?_⟩
  exact takes.filing.shows_new
    (fun isLabel => SymbolStore.label?_of_accepted accepted isLabel known) fun isParameter =>
      SymbolStore.members_of_accepted_parameter sound.linked known isParameter accepted

/-- An entity stays in its place, whatever the operation does, as long as its table stays. -/
theorem standing_step (sound : resolver.store.Sound) {operation : Operation}
    (checked : operation.isUnchecked = false) (standing : resolver.store.Standing target draft id)
    {table : Table} (live : (resolver.step operation).store.tables.get? target = some table) :
    (resolver.step operation).store.Standing target draft id := by
  rcases store_of_step sound operation with edits | ⟨-, closed, released⟩
  · have both := edits.preserve (fun now => now.Linked ∧ now.Standing target draft id)
      ⟨sound.linked, standing⟩ fun before change after holds files edit =>
        ⟨holds.1.edit edit, holds.2.edit holds.1 edit fun target draft id same =>
          Operation.accepted_of_files checked (files target draft id same)⟩
    exact both.2
  · exact standing.released sound.linked released live

/-- An entity stays in its place along a run, as long as its table stays. -/
theorem standing_run (sound : resolver.store.Sound) {operations : List Operation}
    (checked : ∀ operation ∈ operations, operation.isUnchecked = false)
    (standing : resolver.store.Standing target draft id)
    (live : ∀ count, ∃ table,
      (resolver.run (operations.take count)).store.tables.get? target = some table) :
    (resolver.run operations).store.Standing target draft id := by
  refine (foldl_keeps_while
    (fun now : Resolver => now.store.Sound ∧ now.store.Standing target draft id)
    (fun now => ∃ table, now.store.tables.get? target = some table) ?_ ⟨sound, standing⟩ live).2
  rintro now operation listed ⟨sound, standing⟩ ⟨table, known⟩
  exact ⟨sound_step sound operation,
    standing_step sound (checked operation listed) standing known⟩

/-- A declaration is stable: when a draft was filed in a table as a new entity, in a run in which no
draft is filed without being judged, the same draft is never new again in that table as long as the
table stays. It is a redeclaration of the entity, or it is rejected in favour of the entity if nothing
of its kind may be declared again. -/
theorem declaration_is_stable (names : NamePool) (settings : Settings)
    (earlier later : List Operation) (start : Resolver) (target : TableId) (draft : Draft)
    (filed : Filed) (declared : Declared)
    (reached : start = (Resolver.new names settings).run earlier)
    (checked : ∀ operation ∈ earlier ++ later, operation.isUnchecked = false)
    (first : (start.declareIn target draft).1 = .ok (.new filed))
    (live : ∀ count, ∃ table, ((start.step (.declareIn target draft)).run
      (later.take count)).store.tables.get? target = some table)
    (again : (((start.step (.declareIn target draft)).run later).declareIn target draft).1 =
      .ok declared) :
    declared = if draft.kind.isRepeatable then .redeclared filed.entity
      else .rejected filed.entity := by
  obtain ⟨sound, overloaded⟩ : start.store.Sound ∧ start.store.Overloaded := by
    rw [reached]
    exact overloaded_run (sound_new names settings) (SymbolStore.overloaded_new names)
      fun operation listed => checked operation (List.mem_append_left _ listed)
  have next_sound := sound_step sound (.declareIn target draft)
  have next_overloaded : (start.step (.declareIn target draft)).store.Overloaded :=
    overloaded_step sound overloaded rfl
  have later_checked (operation : Operation) (listed : operation ∈ later) :
      operation.isUnchecked = false := checked operation (List.mem_append_right _ listed)
  obtain ⟨now_sound, now_overloaded⟩ := overloaded_run next_sound
    next_overloaded later_checked
  have standing := standing_run next_sound later_checked (standing_of_new sound first) live
  generalize (start.step (.declareIn target draft)).run later = now at *
  -- The draft is judged again, against its entity and what was declared beside that.
  obtain ⟨prior, role, judgement, priorFound, roleFound, judged, answer⟩ := declareIn_eq_ok again
  obtain ⟨table, known, role_eq⟩ := bind_eq_ok_iff.1 roleFound
  rw [SymbolStore.table_eq_ok_iff] at known
  rw [pure_eq_ok_iff] at role_eq
  subst role_eq
  obtain ⟨besideHits, hit, isHit, same⟩ :=
    standing.besideHits now_sound.linked now_overloaded known priorFound
  obtain ⟨entity, found, kind, -⟩ := standing.entity
  have verdict := SymbolStore.judge_of_besideHits besideHits isHit (same ▸ found) kind judged
  rw [same] at verdict
  rw [verdict] at answer
  by_cases repeatable : draft.kind.isRepeatable = true
  · rw [if_pos repeatable] at answer ⊢
    rcases answer with given | ⟨accepted, -⟩
    · exact (Option.some.inj given).symm
    · cases accepted
  · rw [if_neg repeatable] at answer ⊢
    rcases answer with given | ⟨accepted, -⟩
    · exact (Option.some.inj given).symm
    · cases accepted

/-- A function is declared, then an overload of it and a class of the same name. -/
def declareBeside : List Operation :=
  [.declare (functionDraft ⟨0⟩ [.int]),
    .declare { name := ⟨0⟩, kind := .classDecl .structKey false }]

/-- The first function is declared again after an overload and a class of its name. -/
theorem function_is_stable :
    let start := (Resolver.new {} {}).run [.intern "f"]
    let target := start.store.global
    let draft := functionDraft ⟨0⟩ []
    (start.declareIn target draft).1 = .ok (.new ⟨⟨0, 0⟩, 0⟩) ∧
      ∃ declared, (((start.step (.declareIn target draft)).run declareBeside).declareIn target
          draft).1 = .ok declared ∧ declared = .redeclared ⟨0, 0⟩ := by
  intro start target draft
  have first : (start.declareIn target draft).1 = .ok (.new ⟨⟨0, 0⟩, 0⟩) := by decide +kernel
  obtain ⟨declared, again⟩ : ∃ declared, (((start.step (.declareIn target draft)).run
      declareBeside).declareIn target draft).1 = .ok declared :=
    ⟨.redeclared ⟨0, 0⟩, by decide +kernel⟩
  refine ⟨first, declared, again, ?_⟩
  -- No operation closes a scope, so the global table is there after each of them.
  exact declaration_is_stable {} {} [.intern "f"] declareBeside start target draft ⟨⟨0, 0⟩, 0⟩
    declared rfl (by decide +kernel) first
    (exists_along (fun now : Resolver => now.store.tables.get? target) (by decide +kernel)) again

end Resolver

end ScopeResolution

import ScopeResolution.Proofs.Resolver.DeclarationEffect
import ScopeResolution.Proofs.SymbolStore.References

/-! # How references are recorded

A resolver records a reference from one table to another place when a using directive, a base or an
alias is accepted, and in no other way (`Operation.Records`): what a table refers to after an
operation it referred to before, or the operation recorded it there (`refers_of_step`). What fails
records nothing, and neither does a draft that declares again what is declared already. -/

namespace ScopeResolution.Resolver

/-- The operation records a reference in a table. -/
inductive Operation.Records (resolver : Resolver) : Operation → TableId → Reference → Prop where
  /-- A using directive, in the table that it belongs to. -/
  | addUsing {used : EntityId} {target peer : TableId}
      (succeeds : (resolver.addUsing used).1 = .ok ())
      (found : resolver.store.bodyOrDefect .notUsable used = .ok peer)
      (meant : resolver.usingTarget = .ok target) :
      Records resolver (.addUsing used) target (.table peer)
  /-- A base, in the body of the class. -/
  | addBase {derived : EntityId} {base : Base} {body : TableId} {next : Resolver}
      (succeeds : resolver.addBase derived base = .ok next)
      (meant : resolver.store.bodyOfKind derived .classTable = .ok body) :
      Records resolver (.addBase derived base) body (.entity base.entity)
  /-- An alias that is declared at this point. -/
  | declare {draft : Draft} {target : TableId} {filed : Filed} {aliased : EntityId}
      (succeeds : (resolver.declare draft).1 = .ok (.new filed))
      (meant : resolver.targetFor draft = .ok target)
      (stands : draft.kind.aliasedEntity? = some aliased) :
      Records resolver (.declare draft) target (.entity aliased)
  /-- An alias that is declared in a table. -/
  | declareIn {draft : Draft} {target : TableId} {filed : Filed} {aliased : EntityId}
      (succeeds : (resolver.declareIn target draft).1 = .ok (.new filed))
      (stands : draft.kind.aliasedEntity? = some aliased) :
      Records resolver (.declareIn target draft) target (.entity aliased)
  /-- An alias that is filed at this point without being judged. -/
  | insert {draft : Draft} {target : TableId} {filed : Filed} {aliased : EntityId}
      (succeeds : (resolver.insert draft).1 = .ok filed)
      (meant : resolver.targetFor draft = .ok target)
      (stands : draft.kind.aliasedEntity? = some aliased) :
      Records resolver (.insert draft) target (.entity aliased)
  /-- An alias that is filed in a table without being judged. -/
  | insertInto {draft : Draft} {target : TableId} {filed : Filed} {aliased : EntityId}
      (succeeds : (resolver.insertInto target draft).1 = .ok filed)
      (stands : draft.kind.aliasedEntity? = some aliased) :
      Records resolver (.insertInto target draft) target (.entity aliased)

variable {resolver after : Resolver} {id : TableId} {reference : Reference}

/-- The same contents hold the same references. -/
theorem refers_of_sameContents {store later : SymbolStore} (same : store.SameContents later)
    (refers : later.Refers id reference) : store.Refers id reference := by
  cases refers with
  | onward known listed => exact .onward (by rw [← same.tables_eq, known]) listed
  | standIn known stands => exact .standIn (by rw [← same.entities_eq, known]) stands

/-- The moves of an operation record no reference but for an alias that it files and for a table
that it revises. -/
theorem refers_of_moves (sound : resolver.store.Sound) {operation : Operation}
    (refers : (resolver.step operation).store.Refers id reference) :
    resolver.store.Refers id reference ∨ operation.Revises resolver id ∨
      ∃ now draft aliased, operation.Files resolver now id draft ∧
        draft.kind.aliasedEntity? = some aliased ∧ reference = .entity aliased := by
  refine (step_leads sound operation).moves.preserve (fun now => now.store.Refers id reference →
    resolver.store.Refers id reference ∨ operation.Revises resolver id ∨
      ∃ now draft aliased, operation.Files resolver now id draft ∧
        draft.kind.aliasedEntity? = some aliased ∧ reference = .entity aliased)
    Or.inl ?_ refers
  intro before action after earlier permitted move refers
  cases move with
  | edit edit =>
      rcases edit.refers refers with older | rfl | ⟨draft, new, aliased, rfl, stands, same⟩
      · exact earlier older
      · exact Or.inr (Or.inl permitted)
      · exact Or.inr (Or.inr ⟨before.store, draft, aliased, permitted, stands, same⟩)
  | openFunction edit =>
      rcases edit.refers refers with older | same | ⟨_, _, _, same, -⟩
      · exact earlier older
      · cases same
      · cases same
  | openBlock edit =>
      rcases edit.refers refers with older | same | ⟨_, _, _, same, -⟩
      · exact earlier older
      · cases same
      · cases same
  | enter _ store => exact earlier (store ▸ refers)
  | drop _ store => exact earlier (store ▸ refers)
  | keep _ _ store => exact earlier (store ▸ refers)
  | release _ _ _ released => exact earlier (released.refers refers)

/-- A declaration that files nothing new leaves the contents of the store alone. -/
theorem sameContents_of_declareIn (sound : resolver.store.Sound) {target : TableId} {draft : Draft}
    (notNew : ∀ filed, (resolver.declareIn target draft).1 ≠ .ok (.new filed)) :
    resolver.store.SameContents (resolver.declareIn target draft).2.store := by
  have unchanged : resolver.store.SameContents resolver.store := ⟨rfl, rfl, rfl, rfl⟩
  cases known : resolver.store.tables.get? target with
  | none =>
      -- There is nothing to judge the draft against, and no role for it.
      unfold declareIn
      cases looked : resolver.priorAndRole target draft with
      | error failure => exact unchanged
      | ok found =>
          obtain ⟨-, roleFound⟩ := priorAndRole_eq_ok looked
          obtain ⟨table, found, -⟩ := bind_eq_ok_iff.1 roleFound
          rw [SymbolStore.table_eq_ok_iff, known] at found
          cases found
  | some table =>
      have effect := @effect_of_sound resolver target table draft sound known
      generalize resolver.declareIn target draft = result at effect notNew
      obtain ⟨answer, next⟩ := result
      cases answer with
      | ok declared =>
          cases declared with
          | new filed => exact absurd rfl (notNew filed)
          | redeclared => rw [effect.2]; exact unchanged
          | rejected => rw [effect.2.2]; exact unchanged
      | error failure =>
          cases failure with
          | budgetExhausted => rw [effect.2]; exact unchanged
          | _ => exact effect.1

/-- A draft that cannot be filed leaves the contents of the store alone. -/
theorem sameContents_of_insertInto (sound : resolver.store.Sound) {target : TableId} {draft : Draft}
    (fails : ∀ filed, (resolver.insertInto target draft).1 ≠ .ok filed) :
    resolver.store.SameContents (resolver.insertInto target draft).2.store := by
  unfold insertInto at fails ⊢
  cases added : resolver.store.addEntity target draft with
  | mk answer store =>
      rw [added] at fails
      cases answer with
      | ok filed => exact absurd rfl (fails filed)
      | error failure => exact SymbolStore.addEntity_error sound.wellFormed added

/-- A declaration records what an alias stands for, if it files it. -/
theorem refers_of_declareIn (sound : resolver.store.Sound) {target : TableId} {draft : Draft}
    (refers : (resolver.declareIn target draft).2.store.Refers id reference) :
    resolver.store.Refers id reference ∨
      (∃ filed, (resolver.declareIn target draft).1 = .ok (.new filed)) ∧ id = target ∧
        ∃ aliased, draft.kind.aliasedEntity? = some aliased ∧ reference = .entity aliased := by
  by_cases new : ∃ filed, (resolver.declareIn target draft).1 = .ok (.new filed)
  · rcases @refers_of_moves _ _ _ sound (.declareIn target draft) refers with
      older | revises | ⟨now, _, aliased, ⟨rfl, rfl, -⟩, stands, same⟩
    · exact Or.inl older
    · exact revises.elim
    · exact Or.inr ⟨new, rfl, aliased, stands, same⟩
  · exact Or.inl (refers_of_sameContents
      (sameContents_of_declareIn sound (not_exists.1 new)) refers)

/-- Filing a draft records what an alias stands for. -/
theorem refers_of_insertInto (sound : resolver.store.Sound) {target : TableId} {draft : Draft}
    (refers : (resolver.insertInto target draft).2.store.Refers id reference) :
    resolver.store.Refers id reference ∨
      (∃ filed, (resolver.insertInto target draft).1 = .ok filed) ∧ id = target ∧
        ∃ aliased, draft.kind.aliasedEntity? = some aliased ∧ reference = .entity aliased := by
  by_cases done : ∃ filed, (resolver.insertInto target draft).1 = .ok filed
  · rcases @refers_of_moves _ _ _ sound (.insertInto target draft) refers with
      older | revises | ⟨now, _, aliased, ⟨rfl, rfl⟩, stands, same⟩
    · exact Or.inl older
    · exact revises.elim
    · exact Or.inr ⟨done, rfl, aliased, stands, same⟩
  · exact Or.inl (refers_of_sameContents
      (sameContents_of_insertInto sound (not_exists.1 done)) refers)

/-- A using directive records the peer that it adds. -/
theorem records_of_addUsing {used : EntityId}
    (refers : (resolver.addUsing used).2.store.Refers id reference) :
    resolver.store.Refers id reference ∨
      (Operation.addUsing used).Records resolver id reference := by
  cases found : resolver.store.bodyOrDefect .notUsable used with
  | error failure =>
      simp only [addUsing, found] at refers
      exact Or.inl refers
  | ok peer =>
      cases meant : resolver.usingTarget with
      | error failure =>
          simp only [addUsing, found, meant] at refers
          exact Or.inl refers
      | ok target =>
          have added : resolver.addUsing used = ((resolver.store.addPeer target peer).1,
              { resolver with store := (resolver.store.addPeer target peer).2 }) := by
            simp only [addUsing, found, meant]
            rfl
          rw [added] at refers
          rcases SymbolStore.refers_of_addPeer refers with older | ⟨succeeds, rfl, rfl⟩
          · exact Or.inl older
          · exact Or.inr (.addUsing (by rw [added]; exact succeeds) found meant)

/-- A class records the base that is added. -/
theorem records_of_addBase {derived : EntityId} {base : Base}
    (added : resolver.addBase derived base = .ok after)
    (refers : after.store.Refers id reference) :
    resolver.store.Refers id reference ∨
      (Operation.addBase derived base).Records resolver id reference := by
  have succeeds := added
  unfold addBase at added
  obtain ⟨role, -, added⟩ := bind_eq_ok_iff.1 added
  split at added
  · obtain ⟨body, meant, added⟩ := bind_eq_ok_iff.1 added
    obtain ⟨store, grown, added⟩ := bind_eq_ok_iff.1 added
    cases added
    rcases SymbolStore.refers_of_addBase grown refers with older | ⟨rfl, rfl⟩
    · exact Or.inl older
    · exact Or.inr (.addBase succeeds meant)
  · obtain ⟨name, -, thrown⟩ := bind_eq_ok_iff.1 added
    cases thrown

/-- Completing a class records nothing. -/
theorem refers_of_sealClass {sealed : EntityId} (completed : resolver.sealClass sealed = .ok after)
    (refers : after.store.Refers id reference) : resolver.store.Refers id reference := by
  unfold sealClass at completed
  obtain ⟨body, -, completed⟩ := bind_eq_ok_iff.1 completed
  obtain ⟨store, closed, completed⟩ := bind_eq_ok_iff.1 completed
  cases completed
  exact SymbolStore.refers_of_complete closed refers

/-- What a table refers to after an operation, it referred to before, or the operation recorded it
there. -/
theorem refers_of_step (sound : resolver.store.Sound) {operation : Operation}
    (refers : (resolver.step operation).store.Refers id reference) :
    resolver.store.Refers id reference ∨ operation.Records resolver id reference := by
  cases operation with
  | addUsing used => exact records_of_addUsing refers
  | addBase derived base =>
      change (resolver.after (resolver.addBase derived base) _).store.Refers id reference at refers
      cases added : resolver.addBase derived base with
      | error failure => rw [added] at refers; exact Or.inl refers
      | ok next => rw [added] at refers; exact records_of_addBase added refers
  | sealClass sealed =>
      change (resolver.after (resolver.sealClass sealed) _).store.Refers id reference at refers
      cases completed : resolver.sealClass sealed with
      | error failure => rw [completed] at refers; exact Or.inl refers
      | ok next => rw [completed] at refers; exact Or.inl (refers_of_sealClass completed refers)
  | declare draft =>
      change (resolver.declare draft).2.store.Refers id reference at refers
      unfold declare at refers
      cases meant : resolver.targetFor draft with
      | error failure => rw [meant] at refers; exact Or.inl refers
      | ok target =>
          rw [meant] at refers
          rcases refers_of_declareIn sound refers with
            older | ⟨⟨filed, succeeds⟩, rfl, aliased, stands, rfl⟩
          · exact Or.inl older
          · exact Or.inr (.declare (by unfold declare; rw [meant]; exact succeeds) meant stands)
  | declareIn target draft =>
      rcases refers_of_declareIn sound refers with
        older | ⟨⟨filed, succeeds⟩, rfl, aliased, stands, rfl⟩
      · exact Or.inl older
      · exact Or.inr (.declareIn succeeds stands)
  | insert draft =>
      change (resolver.insert draft).2.store.Refers id reference at refers
      unfold insert at refers
      cases meant : resolver.targetFor draft with
      | error failure => rw [meant] at refers; exact Or.inl refers
      | ok target =>
          rw [meant] at refers
          rcases refers_of_insertInto sound refers with
            older | ⟨⟨filed, succeeds⟩, rfl, aliased, stands, rfl⟩
          · exact Or.inl older
          · exact Or.inr (.insert (by unfold insert; rw [meant]; exact succeeds) meant stands)
  | insertInto target draft =>
      rcases refers_of_insertInto sound refers with
        older | ⟨⟨filed, succeeds⟩, rfl, aliased, stands, rfl⟩
      · exact Or.inl older
      · exact Or.inr (.insertInto succeeds stands)
  | _ =>
      rcases refers_of_moves sound refers with older | revises | ⟨_, _, _, files, -⟩
      · exact Or.inl older
      · exact revises.elim
      · exact files.elim

end ScopeResolution.Resolver

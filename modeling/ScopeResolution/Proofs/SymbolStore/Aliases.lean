import ScopeResolution.Proofs.SymbolStore.Ageing

/-! # What aliases lead to

An alias is declared for an entity that is there and is no alias itself. The entity may be released
later, and its slot may be used again for an alias; but then the handle that the first alias keeps
is to an occupation of the slot that is over. So in every store that can be reached, what an alias
stands for is no alias, or its occupation is over (`aliasesLead_run`). -/

namespace ScopeResolution.SymbolStore

variable {store before after : SymbolStore}

/-- An entity is there and is no alias of another one. -/
def StandsAlone (store : SymbolStore) (id : EntityId) : Prop :=
  ∃ entity, store.entities.get? id = some entity ∧ entity.kind.aliasedEntity? = none

/-- What an alias stands for is no alias, unless it is gone. -/
def AliasesLead (store : SymbolStore) (gone : EntityId → Prop) : Prop :=
  ∀ id entity target, store.entities.get? id = some entity →
    entity.kind.aliasedEntity? = some target → store.StandsAlone target ∨ gone target

/-- A valid draft of an alias names an entity that is there and is no alias. -/
theorem standsAlone_of_validate {draft : Draft} {kind : TableKind} {target : EntityId}
    (valid : store.validate draft kind = .ok ()) (aliased : draft.kind.aliasedEntity? = some target) :
    store.StandsAlone target := by
  unfold validate at valid
  obtain ⟨defect, checked, valid⟩ := bind_eq_ok_iff.1 valid
  cases defect with
  | some defect => cases valid
  | none =>
      generalize draft.kind = declared at aliased checked
      unfold defect? at checked
      split at checked
      · cases aliased
      · cases aliased
      · -- Of a namespace alias, it was checked that it names a namespace.
        cases aliased
        split at checked
        · obtain ⟨entity, known, checked⟩ := bind_eq_ok_iff.1 checked
          rw [entity_eq_ok_iff] at known
          split at checked
          · rename_i isNamespace
            exact ⟨entity, known, by rw [isNamespace]; rfl⟩
          · cases checked
        · cases checked
      · -- Of any other alias, it was checked that it names no alias.
        cases aliased
        obtain ⟨entity, known, checked⟩ := bind_eq_ok_iff.1 checked
        rw [entity_eq_ok_iff] at known
        split at checked
        · cases checked
        · cases checked
        · rename_i notAlias notNamespaceAlias
          refine ⟨entity, known, ?_⟩
          unfold EntityKind.aliasedEntity?
          split
          · rename_i other isAlias
            exact absurd isAlias (notNamespaceAlias other)
          · rename_i other isAlias
            exact absurd isAlias (notAlias _)
          · rfl
      · rename_i notNamespaceAlias notAlias
        unfold EntityKind.aliasedEntity? at aliased
        split at aliased
        · exact absurd rfl (notNamespaceAlias _)
        · exact absurd rfl (notAlias _)
        · cases aliased

/-- An entity that is no alias stays so in an edit. -/
theorem Edit.standsAlone {change : Change} (edit : Edit before change after) {id : EntityId}
    (alone : before.StandsAlone id) : after.StandsAlone id := by
  obtain ⟨entity, known, notAlias⟩ := alone
  obtain ⟨later, found, altered⟩ := edit.entity_later known
  exact ⟨later, found, by rw [altered.kind_eq, notAlias]⟩

/-- An edit that files nothing but a valid draft leaves aliases to what is no alias. -/
theorem Edit.aliasesLead {change : Change} (edit : Edit before change after)
    (files : before.FilesValid change) {gone : EntityId → Prop} (lead : before.AliasesLead gone) :
    after.AliasesLead gone := by
  intro id entity target found aliased
  cases known : before.entities.get? id with
  | some old =>
      have altered := edit.alters_entity known found
      rw [altered.kind_eq] at aliased
      exact (lead id old target known aliased).imp_left edit.standsAlone
  | none =>
      obtain ⟨table, draft, -, -, filed, rfl, -⟩ := edit.entity_origin known found
      obtain ⟨kind, valid⟩ := files table draft id filed
      exact Or.inl (edit.standsAlone (standsAlone_of_validate valid aliased))

/-- After a release, what an alias stands for is no alias, or it is gone or its occupation of a slot
is over. -/
theorem Released.aliasesLead {released : TableId} (release : Released before released after)
    (ages : before.entities.Ages after.entities) {gone : EntityId → Prop}
    (lead : before.AliasesLead gone) :
    after.AliasesLead fun target => gone target ∨ after.entities.Spent target := by
  intro id entity target found aliased
  obtain ⟨old, known, rfl, -⟩ := release.entity_left found
  rw [Entity.forget_kind] at aliased
  rcases lead id old target known aliased with ⟨aimed, aimedKnown, notAlias⟩ | isGone
  · rcases Arena.live_or_spent aimedKnown ages with ⟨later, laterFound⟩ | spent
    · left
      obtain ⟨same, sameKnown, rfl, -⟩ := release.entity_left laterFound
      rw [aimedKnown, Option.some.injEq] at sameKnown
      exact ⟨_, laterFound, by rw [Entity.forget_kind, ← sameKnown, notAlias]⟩
    · exact Or.inr (Or.inr spent)
  · exact Or.inr (Or.inl isGone)

/-- Every operation on a sound store keeps aliases to what is no alias, or to occupations that are
over. -/
theorem Sound.aliasesLead_step (sound : store.Sound) (lead : store.AliasesLead store.entities.Spent)
    (operation : Operation) :
    (store.step operation).AliasesLead (store.step operation).entities.Spent := by
  have ages := (ages_step store operation).entities
  have stillOver {target : EntityId} (spent : store.entities.Spent target) :
      (store.step operation).entities.Spent target := spent.ages ages
  rcases sound.edits_of_step operation with edits | ⟨id, released⟩
  · have led : (store.step operation).AliasesLead store.entities.Spent :=
      edits.preserve (fun now => now.AliasesLead store.entities.Spent) lead
        fun _ _ _ leads files edit => edit.aliasesLead files leads
    intro id entity target found aliased
    exact (led id entity target found aliased).imp_right stillOver
  · intro member entity target found aliased
    rcases released.aliasesLead ages lead member entity target found aliased with
      alone | spent | spent
    · exact Or.inl alone
    · exact Or.inr (stillOver spent)
    · exact Or.inr spent

/-- In every store that can be reached, what an alias stands for is no alias, or its occupation of a
slot is over. -/
theorem aliasesLead_run (names : NamePool) (operations : List Operation) :
    ((SymbolStore.new names).run operations).AliasesLead
      ((SymbolStore.new names).run operations).entities.Spent := by
  have start : (SymbolStore.new names).AliasesLead (SymbolStore.new names).entities.Spent :=
    fun id entity target known => absurd known (by rw [SymbolStore.new]; simp [Arena.get?])
  refine (List.foldlRecOn operations SymbolStore.step
    (motive := fun now => now.Sound ∧ now.AliasesLead now.entities.Spent)
    ⟨sound_new names, start⟩ ?_).2
  rintro now ⟨sound, lead⟩ operation -
  exact ⟨sound.step operation, sound.aliasesLead_step lead operation⟩

end ScopeResolution.SymbolStore

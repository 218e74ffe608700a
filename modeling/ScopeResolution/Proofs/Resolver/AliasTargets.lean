import ScopeResolution.Proofs.Declaration.TypeEquivalence
import ScopeResolution.Proofs.Resolver.OverloadVerdicts

/-! # Repeated aliases

An alias is declared again by a draft whose target is the same as its own. Being the same target is
reflexive and symmetric, but it is transitive only up to one case (`AliasTarget.same_trans_iff`):
next to an entity, only the name in a type is looked at, so an entity between two types hides the
qualifiers and modifiers in which they differ (`AliasTarget.Blurs`). A using-declaration therefore
is declared again by types that are not the same (`useThenTypedef`); a typedef is not. The main
statement `repeated_alias_of_run` says for every run which drafts declare an alias again. -/

namespace ScopeResolution

namespace DeclType

variable {type type' : DeclType} {id : EntityId}

/-- A type names an entity if its base does and nothing is derived from it. -/
theorem namedEntity?_eq_some_iff :
    type.namedEntity? = some id ↔ type.base.code = .named id ∧ type.derived = [] := by
  unfold namedEntity?
  split
  · rename_i entity code derived
    simp [code, derived]
  · rename_i other
    constructor
    · intro absent
      cases absent
    · rintro ⟨code, derived⟩
      exact absurd derived (other id code)

/-- Types that are the same name the same entity. -/
theorem namedEntity?_of_same (same : DeclType.same .declaration type type' = true)
    (named : type.namedEntity? = some id) : type'.namedEntity? = some id := by
  obtain ⟨base, qualifiers, derived⟩ := type
  obtain ⟨base', qualifiers', derived'⟩ := type'
  obtain ⟨code, none⟩ := namedEntity?_eq_some_iff.1 named
  simp only [same_declaration_mk, Bool.and_eq_true, beq_iff_eq] at same
  have bothEmpty := Derived.isEmpty_eq_of_sameAll same.2
  simp only at none
  rw [none] at bothEmpty
  refine namedEntity?_eq_some_iff.2 ⟨?_, List.isEmpty_iff.1 bothEmpty.symm⟩
  rw [← same.1.1]
  exact code

/-- Types that name the same entity are the same if the modifiers and qualifiers beside the name
are. -/
theorem same_iff_of_namedEntity? (named : type.namedEntity? = some id)
    (named' : type'.namedEntity? = some id) :
    DeclType.same .declaration type type' = true ↔
      type.base = type'.base ∧ type.qualifiers = type'.qualifiers := by
  have none := (namedEntity?_eq_some_iff.1 named).2
  have none' := (namedEntity?_eq_some_iff.1 named').2
  obtain ⟨base, qualifiers, derived⟩ := type
  obtain ⟨base', qualifiers', derived'⟩ := type'
  simp only at none none'
  simp [none, none', same_declaration_mk, Derived.sameAll]

end DeclType

namespace AliasTarget

variable {first second third : AliasTarget}

/-- A target is the same as itself. -/
theorem same_self (target : AliasTarget) : target.same target = true := by
  cases target with
  | entity id => simp [same]
  | type declared => exact DeclType.same_self .declaration declared

/-- Targets are the same in either order or in none. -/
theorem same_comm (first second : AliasTarget) : first.same second = second.same first := by
  cases first with
  | entity id =>
      cases second with
      | entity id' => exact BEq.comm
      | type declared' => rfl
  | type declared =>
      cases second with
      | entity id' => rfl
      | type declared' =>
          exact Bool.eq_iff_iff.2 ⟨DeclType.same_symm .declaration declared declared',
            DeclType.same_symm .declaration declared' declared⟩

/-- What is the same as a type is the same as what is the same as the type. -/
theorem same_trans_of_type {declared : DeclType} (same : first.same (.type declared) = true)
    (same' : (AliasTarget.type declared).same third = true) : first.same third = true := by
  match first, third with
  | .entity id, .entity id' =>
    simp only [AliasTarget.same, beq_iff_eq] at same same' ⊢
    exact Option.some.inj (same.symm.trans same')
  | .entity id, .type declared' =>
    simp only [AliasTarget.same, beq_iff_eq] at same ⊢
    exact DeclType.namedEntity?_of_same same' same
  | .type declared'', .entity id' =>
    simp only [AliasTarget.same, beq_iff_eq] at same' ⊢
    exact DeclType.namedEntity?_of_same (DeclType.same_symm _ _ _ same) same'
  | .type declared'', .type declared' => exact DeclType.same_trans _ _ _ _ same same'

/-- An entity blurs two types when they differ in what is written beside the name: the modifiers of
the base, or its qualifiers. -/
def Blurs (middle first second : AliasTarget) : Prop :=
  ∃ id type type', middle = .entity id ∧ first = .type type ∧ second = .type type' ∧
    (type.base ≠ type'.base ∨ type.qualifiers ≠ type'.qualifiers)

/-- A type blurs nothing. -/
theorem not_blurs_type (declared : DeclType) (first second : AliasTarget) :
    ¬ (AliasTarget.type declared).Blurs first second := by
  rintro ⟨id, type, type', isEntity, -⟩
  cases isEntity

/-- Two types that are the same as an entity are the same, unless the entity blurs them. -/
theorem same_iff_of_entity {id : EntityId} {declared declared' : DeclType}
    (same : (AliasTarget.type declared).same (.entity id) = true)
    (same' : (AliasTarget.entity id).same (.type declared') = true) :
    (AliasTarget.type declared).same (.type declared') = true ↔
      ¬ (AliasTarget.entity id).Blurs (.type declared) (.type declared') := by
  simp only [AliasTarget.same, beq_iff_eq] at same same'
  rw [AliasTarget.same, DeclType.same_iff_of_namedEntity? same same']
  constructor
  · rintro ⟨base, qualifiers⟩ ⟨_, _, _, _, isFirst, isSecond, differ⟩
    cases isFirst
    cases isSecond
    exact differ.elim (absurd base) (absurd qualifiers)
  · intro clear
    constructor
    · by_contra differ
      exact clear ⟨id, declared, declared', rfl, rfl, rfl, Or.inl differ⟩
    · by_contra differ
      exact clear ⟨id, declared, declared', rfl, rfl, rfl, Or.inr differ⟩

/-- Two targets that are the same as a third one are the same, unless that one blurs them. -/
theorem same_trans_iff (same : first.same second = true) (same' : second.same third = true) :
    first.same third = true ↔ ¬ second.Blurs first third := by
  match first, second, third with
  | first, .type declared, third =>
    exact iff_of_true (same_trans_of_type same same') (not_blurs_type declared first third)
  | .entity id', .entity id, third =>
    have entities : id' = id := by simpa [AliasTarget.same] using same
    refine iff_of_true (entities ▸ same') ?_
    rintro ⟨_, _, _, _, isType, _⟩
    cases isType
  | .type declared, .entity id, .entity id' =>
    have entities : id = id' := by simpa [AliasTarget.same] using same'
    refine iff_of_true (entities ▸ same) ?_
    rintro ⟨_, _, _, _, _, isType, _⟩
    cases isType
  | .type declared, .entity id, .type declared' => exact same_iff_of_entity same same'

end AliasTarget

namespace Resolver

variable {resolver : Resolver} {table : Table} {draft : Draft} {target : AliasTarget}

/-- A draft of an alias is judged against an alias of its name alone. -/
theorem judge_of_alias {id : EntityId} {entity : Entity} {aliased : AliasTarget}
    (found : resolver.store.entities.get? id = some entity) (kind : entity.kind = .alias aliased)
    (drafted : draft.kind = .alias target) (place : TableId) :
    resolver.store.judge draft place ⟨[⟨id, .typedef⟩]⟩ .typedef =
      if target.same aliased then .ok { answer := .matched id }
      else resolver.store.conflictWith draft id := by
  show resolver.store.judgeAlias draft id = _
  unfold SymbolStore.judgeAlias
  rw [SymbolStore.entity_eq_ok_iff.2 found, ok_bind, kind, drafted]
  rfl

/-- What is declared under the name of an alias is that alias alone. -/
theorem priorAndRole_of_alias (linked : resolver.store.Linked)
    (overloaded : resolver.store.Overloaded) {place : TableId}
    (known : resolver.store.tables.get? place = some table) {id : EntityId} {entity : Entity}
    {aliased : AliasTarget} (listed : id ∈ table.entries draft.name)
    (found : resolver.store.entities.get? id = some entity) (kind : entity.kind = .alias aliased)
    (drafted : draft.kind = .alias target) :
    resolver.priorAndRole place draft = .ok (⟨[⟨id, .typedef⟩]⟩, .typedef) := by
  have notConstructor : draft.kind.slot ≠ .constructor := by simp [drafted, EntityKind.slot]
  have notLabel : draft.kind.slot ≠ .label := by simp [drafted, EntityKind.slot]
  obtain ⟨prior, looked, beside⟩ :=
    overloaded.besideHits_of_ne_label linked notLabel known
  have hits := SymbolStore.priorDeclarations_of_entries known notConstructor notLabel
  obtain ⟨hit, isHit, rfl⟩ := SymbolStore.exists_hit_of_hitsOf linked known
    (table.entries_subset_listed draft.name) (hits ▸ looked) listed
  obtain ⟨entity', found', role⟩ := beside.role_eq hit isHit
  rw [found, Option.some.injEq] at found'
  rw [← found', kind, EntityKind.role] at role
  -- An alias is neither a type nor a value, so nothing else has its name.
  have alone := beside.overloadSet.alone hit isHit (by rw [role]; rfl) (by rw [role]; rfl)
  have only : prior = ⟨[⟨hit.entity, .typedef⟩]⟩ := by
    obtain ⟨list⟩ := prior
    obtain ⟨entity, seen⟩ := hit
    simp only at alone role
    rw [alone, role]
  unfold priorAndRole
  rw [looked, only, SymbolStore.roleForDraft_eq_ok known, drafted]
  rfl

/-- A draft of an alias declares the alias of its name again exactly when the targets are the
same. -/
theorem redeclared_alias_iff (linked : resolver.store.Linked)
    (overloaded : resolver.store.Overloaded) {place : TableId}
    (known : resolver.store.tables.get? place = some table) {id : EntityId} {entity : Entity}
    {aliased : AliasTarget} (listed : id ∈ table.entries draft.name)
    (found : resolver.store.entities.get? id = some entity) (kind : entity.kind = .alias aliased)
    (drafted : draft.kind = .alias target) :
    (resolver.declareIn place draft).1 = .ok (.redeclared id) ↔ target.same aliased = true := by
  have looked := priorAndRole_of_alias linked overloaded known listed found kind drafted
  have judged : resolver.store.judge draft place ⟨[⟨id, .typedef⟩]⟩ .typedef =
      if target.same aliased then .ok { answer := .matched id }
      else resolver.store.conflictWith draft id := judge_of_alias found kind drafted place
  constructor
  · intro declared
    obtain ⟨judgement, isJudged, answer⟩ := judged_of_declareIn looked declared rfl
    by_contra differs
    rw [judged, if_neg differs] at isJudged
    rw [SymbolStore.answer_of_conflictWith isJudged] at answer
    cases answer
  · intro same
    rw [if_pos same] at judged
    exact declareIn_of_matched looked judged

/-- After every run in which no draft is filed without being judged, a draft of an alias declares the
alias of its name again exactly when its target is the same. Being the same is reflexive and
symmetric. Two targets that are both the same as a third one, such as the one of an alias that is
declared again, are the same as each other, unless the third one is an entity and they are types that
name it with other qualifiers or modifiers. -/
theorem repeated_alias_of_run (names : NamePool) (settings : Settings) (operations : List Operation)
    (checked : ∀ operation ∈ operations, operation.isUnchecked = false) :
    let resolver := (Resolver.new names settings).run operations
    (∀ place table id entity aliased, resolver.store.tables.get? place = some table →
        resolver.store.entities.get? id = some entity → entity.kind = .alias aliased →
          ∀ draft target, id ∈ table.entries draft.name → draft.kind = .alias target →
            ((resolver.declareIn place draft).1 = .ok (.redeclared id) ↔
              target.same aliased = true)) ∧
      (∀ target : AliasTarget, target.same target = true) ∧
      (∀ first second : AliasTarget, first.same second = second.same first) ∧
      ∀ first second third : AliasTarget, first.same second = true → second.same third = true →
        (first.same third = true ↔ ¬ second.Blurs first third) := by
  intro resolver
  obtain ⟨sound, overloaded⟩ := overloaded_run (sound_new names settings)
    (SymbolStore.overloaded_new names) checked
  refine ⟨?_, AliasTarget.same_self, AliasTarget.same_comm, ?_⟩
  · intro place table id entity aliased known found kind draft target listed drafted
    exact redeclared_alias_iff sound.linked overloaded known listed found kind drafted
  · intro first second third same same'
    exact AliasTarget.same_trans_iff same same'

/-- A class of a namespace is named by a using-declaration outside it. -/
def useThenTypedef : List Operation :=
  [.intern "N", .intern "C", .declare { name := ⟨0⟩, kind := .namespaceDecl },
    .declareIn ⟨1, 0⟩ { name := ⟨1⟩, kind := .classDecl .structKey false },
    .declare { name := ⟨1⟩, kind := .alias (.entity ⟨1, 0⟩) }]

/-- The class, with qualifiers. -/
def qualifiedClass (qualifiers : Qualifiers) : DeclType :=
  { DeclType.named ⟨1, 0⟩ with qualifiers }

/-- A draft that makes the name of the class a typedef of the class with qualifiers. -/
def typedefDraft (qualifiers : Qualifiers) : Draft where
  name := ⟨1⟩
  kind := .alias (.type (qualifiedClass qualifiers))

/-- The using-declaration is declared again by a typedef of the constant class. -/
theorem repeated_alias_of_useThenTypedef :
    let resolver := (Resolver.new {} {}).run useThenTypedef
    (∀ operation ∈ useThenTypedef, operation.isUnchecked = false) ∧
      (resolver.declareIn resolver.store.global (typedefDraft { isConst := true })).1 =
        .ok (.redeclared ⟨2, 0⟩) := by
  intro resolver
  have checked : ∀ operation ∈ useThenTypedef, operation.isUnchecked = false := by decide +kernel
  have entries : (resolver.store.tables.get? resolver.store.global).map (·.entries ⟨1⟩) =
      some [⟨2, 0⟩] := by decide +kernel
  have aliased : (resolver.store.entities.get? ⟨2, 0⟩).map (·.kind) =
      some (.alias (.entity ⟨1, 0⟩)) := rfl
  obtain ⟨table, known, listed⟩ := Option.map_eq_some_iff.1 entries
  obtain ⟨entity, found, kind⟩ := Option.map_eq_some_iff.1 aliased
  refine ⟨checked, ((repeated_alias_of_run {} {} useThenTypedef checked).1 _ table ⟨2, 0⟩ entity _
    known found kind (typedefDraft { isConst := true }) _ ?_ rfl).2 rfl⟩
  show _ ∈ table.entries ⟨1⟩
  rw [listed]
  exact List.mem_singleton_self _

/-- The using-declaration is declared again by typedefs of the constant class and of the class
itself, which are not the same type. So being the same target is not transitive. -/
theorem sameTarget_not_transitive :
    let resolver := (Resolver.new {} {}).run useThenTypedef
    let constant := typedefDraft { isConst := true }
    let plain := typedefDraft {}
    (resolver.declare constant).1 = .ok (.redeclared ⟨2, 0⟩) ∧
      ((resolver.step (.declare constant)).declare plain).1 = .ok (.redeclared ⟨2, 0⟩) ∧
      DeclType.same .declaration (qualifiedClass { isConst := true }) (qualifiedClass {}) = false ∧
      ¬ ∀ first second third : AliasTarget, first.same second = true →
        second.same third = true → first.same third = true := by
  refine ⟨by decide +kernel, by decide +kernel, by decide +kernel, fun transitive => ?_⟩
  have same := transitive (.type (qualifiedClass { isConst := true })) (.entity ⟨1, 0⟩)
    (.type (qualifiedClass {})) rfl rfl
  cases same

end Resolver

end ScopeResolution

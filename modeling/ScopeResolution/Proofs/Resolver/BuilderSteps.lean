import ScopeResolution.Proofs.Declaration.Judgement
import ScopeResolution.Proofs.Lookup.RoundTrip
import ScopeResolution.Resolver.Querying

/-! # The steps of a builder

A builder may declare a draft step by step: it searches a table for what is declared under the name,
finds the role of the draft, has the draft judged, and files it if it is new (`declareBy`). This has
the answer and the effect of declaring the draft in one go, whenever the search finds what the draft
is to be judged against (`declareBy_eq_declare`).

A lookup of the name finds that for every draft but constructors and labels, as long as no own entry
is an alias of an entity: the lookup follows such an alias, whereas a draft is judged against the
alias itself (`lookUpByName_eq`). Constructors and labels are found by no name, and have searches of
their own. They can be declared by name all the same while they are new there, if the own entries of
the name are compatible with them (`declareBy_eq_declare_of_admitted`). -/

namespace ScopeResolution

namespace SymbolStore

variable {store : SymbolStore}

/-- The hits that a list of entities gives are classified as they are if none of the entities is an
alias of another one. -/
theorem classify_of_hitsOf {entities : List EntityId} {hits : Hits}
    (looked : store.hitsOf entities = .ok hits)
    (plain : ∀ id ∈ entities, ∀ entity, store.entities.get? id = some entity →
      entity.kind.aliasedEntity? = none) : store.classify hits = .ok { hits } := by
  obtain ⟨role, roles, hitsFound⟩ := exists_hitsOf (roleOf_of_hitsOf looked)
  rw [looked, Except.ok.injEq] at hitsFound
  subst hitsFound
  refine classify_of_plain (Hits.nodup_entities_ofList _) fun hit isHit => ?_
  obtain ⟨id, listed, rfl⟩ := List.mem_map.1 (Hits.mem_ofList isHit)
  obtain ⟨entity, known, -⟩ := bind_eq_ok_iff.1 (roles id listed)
  rw [entity_eq_ok_iff] at known
  exact ⟨entity, known, plain id listed entity known⟩

/-- A draft is new beside hits of other roles that are compatible with its own. -/
theorem judge_of_others {draft : Draft} {target : TableId} {prior : Hits} {role : Role}
    (others : ∀ hit ∈ prior.toList, hit.role.compatible role = true ∧ hit.role ≠ role) :
    store.judge draft target prior role = .ok { answer := .accepted } := by
  have compatible : prior.toList.find? (fun hit => !hit.role.compatible role) = none :=
    List.find?_eq_none.2 fun hit isHit => by simp [(others hit isHit).1]
  have noneAlike : prior.toList.filter (·.role == role) = [] :=
    List.filter_eq_nil_iff.2 fun hit isHit => by simpa using (others hit isHit).2
  unfold judge
  rw [compatible, noneAlike]
  rfl

end SymbolStore

namespace Resolver

variable {resolver next : Resolver} {draft : Draft} {target : TableId}

/-! ## Steps and searches -/

/-- Files a draft that was judged to be new. -/
def insertNew (resolver : Resolver) (draft : Draft) : Except Failure Declared × Resolver :=
  match resolver.insert draft with
  | (.error failure, resolver) => (.error failure, resolver)
  | (.ok filed, resolver) => (.ok (.new filed), resolver)

/-- Declares a draft as a builder does that takes every step itself: it searches the table that the
draft is meant for, finds the role of the draft there, has the draft judged against what was found,
and files it if it is new. -/
def declareBy (search : Resolver → TableId → Draft → Except Failure Hits) (resolver : Resolver)
    (draft : Draft) : Except Failure Declared × Resolver :=
  match resolver.targetFor draft with
  | .error failure => (.error failure, resolver)
  | .ok target =>
    match search resolver target draft with
    | .error failure => (.error failure, resolver)
    | .ok prior =>
      match resolver.store.roleForDraft draft target with
      | .error failure => (.error failure, resolver)
      | .ok role =>
        match resolver.checkRedeclaration draft prior role with
        | (.error failure, resolver) => (.error failure, resolver)
        | (.ok verdict, resolver) =>
          match verdict.declared? with
          | some declared => (.ok declared, resolver)
          | none => resolver.insertNew draft

/-- The search for what the name of a draft stands for in a table, among the own entries. -/
def lookUpByName (resolver : Resolver) (target : TableId) (draft : Draft) :
    Except Failure Hits := do
  let found ← resolver.resolve draft.name (some target) .scope
  pure found.hits

/-- The search among the constructors of a class for a constructor, among the labels of a function
for a label, and by name for everything else. -/
def lookUpBySlot (resolver : Resolver) (target : TableId) (draft : Draft) : Except Failure Hits :=
  match draft.kind.slot with
  | .constructor => resolver.store.constructors target
  | .label => resolver.store.labelHits target draft.name
  | _ => resolver.lookUpByName target draft

/-- None of the own entries that have the name of a draft is an alias of an entity. -/
def Unaliased (resolver : Resolver) (draft : Draft) : Prop :=
  ∀ target table, resolver.targetFor draft = .ok target →
    resolver.store.tables.get? target = some table → ∀ id ∈ table.entries draft.name, ∀ entity,
      resolver.store.entities.get? id = some entity → entity.kind.aliasedEntity? = none

/-- A draft is judged to be new in the table that it is meant for, and the own entries that have its
name are compatible with it and have other roles. -/
def Admitted (resolver : Resolver) (draft : Draft) : Prop :=
  ∃ target table, resolver.targetFor draft = .ok target ∧
    resolver.store.tables.get? target = some table ∧ resolver.store.Accepted target draft ∧
    ∀ id ∈ table.entries draft.name, ∃ role, resolver.store.roleOf id = .ok role ∧
      role.compatible (draft.kind.role (table.kind == .classTable)) = true ∧
      role ≠ draft.kind.role (table.kind == .classTable)

/-! ## Steps of a declaration -/

/-- What a draft is meant for depends on the store and the open tables only. -/
theorem targetFor_congr (store : next.store = resolver.store)
    (scopes : next.scopes = resolver.scopes) : next.targetFor draft = resolver.targetFor draft := by
  unfold targetFor
  rw [store, scopes]

/-- What is new is filed in the table that it is meant for. -/
theorem insertNew_eq (meant : resolver.targetFor draft = .ok target) :
    resolver.insertNew draft = resolver.fileJudged target draft .accepted := by
  unfold insertNew insert
  rw [meant]
  rfl

/-- The last two steps, for a draft that is meant for a table: it is judged and filed there. -/
theorem declareBy_of_search {search : Resolver → TableId → Draft → Except Failure Hits}
    (meant : resolver.targetFor draft = .ok target) {prior : Hits} {role : Role}
    (searched : search resolver target draft = .ok prior)
    (seen : resolver.store.roleForDraft draft target = .ok role) :
    resolver.declareBy search draft =
      match resolver.judgeIn target draft prior role with
      | (.error failure, resolver) => (.error failure, resolver)
      | (.ok verdict, resolver) => resolver.fileJudged target draft verdict := by
  unfold declareBy checkRedeclaration
  simp only [meant, searched, seen]
  cases judged : resolver.judgeIn target draft prior role with
  | mk answer next =>
      -- The judgement may have been reported, but the draft is still meant for the same table.
      obtain ⟨store, scopes, -⟩ := settle_frame judged
      cases answer with
      | error failure => rfl
      | ok verdict =>
          cases verdict with
          | accepted => exact insertNew_eq ((targetFor_congr store scopes).trans meant)
          | matched entity => rfl
          | conflict entity => rfl

/-- The last two steps of declaring in a table: the draft is judged and filed there. -/
theorem declareIn_of_prior {prior : Hits} {role : Role}
    (found : resolver.store.priorDeclarations target draft = .ok prior)
    (seen : resolver.store.roleForDraft draft target = .ok role) :
    resolver.declareIn target draft =
      match resolver.judgeIn target draft prior role with
      | (.error failure, resolver) => (.error failure, resolver)
      | (.ok verdict, resolver) => resolver.fileJudged target draft verdict := by
  unfold declareIn priorAndRole
  rw [found, seen]
  rfl

/-- A draft that is judged to be new is filed, and nothing is reported. -/
theorem judgeIn_of_accepted {prior : Hits} {role : Role} {judgement : Judgement Verdict}
    (judged : resolver.store.judge draft target prior role = .ok judgement)
    (accepted : judgement.answer = .accepted) :
    resolver.judgeIn target draft prior role = (.ok .accepted, resolver) := by
  unfold judgeIn settle
  rw [judged]
  cases SymbolStore.judge_judged judged with
  | accepted => rfl
  | matched => cases accepted
  | conflict => cases accepted

/-- Step by step, a draft is declared as it is in one go, if the search finds what it is to be
judged against. -/
theorem declareBy_eq_declare {search : Resolver → TableId → Draft → Except Failure Hits}
    (finds : ∀ target, resolver.targetFor draft = .ok target →
      search resolver target draft = resolver.store.priorDeclarations target draft) :
    resolver.declareBy search draft = resolver.declare draft := by
  unfold declare
  cases meant : resolver.targetFor draft with
  | error failure => unfold declareBy; rw [meant]
  | ok target =>
      have searched := finds target meant
      cases found : resolver.store.priorDeclarations target draft with
      | error failure =>
          unfold declareBy declareIn priorAndRole
          simp only [meant, searched, found]
          rfl
      | ok prior =>
          rw [found] at searched
          cases seen : resolver.store.roleForDraft draft target with
          | error failure =>
              unfold declareBy declareIn priorAndRole
              simp only [meant, searched, found, seen]
              rfl
          | ok role =>
              rw [declareBy_of_search meant searched seen]
              exact (declareIn_of_prior found seen).symm

/-! ## Searching by name -/

/-- Own entries that are read off the table show whether one of them is an alias of an entity. -/
theorem unaliased_of_entries {members : List EntityId}
    (meant : resolver.targetFor draft = .ok target)
    (entries : (resolver.store.tables.get? target).map (·.entries draft.name) = some members)
    (plain : ∀ id ∈ members,
      (resolver.store.entities.get? id).bind (·.kind.aliasedEntity?) = none) :
    resolver.Unaliased draft := by
  intro target' table meant' known id listed entity found
  rw [meant, Except.ok.injEq] at meant'
  subst meant'
  rw [known, Option.map_some, Option.some.injEq] at entries
  have notAlias := plain id (entries ▸ listed)
  rwa [found, Option.bind_some] at notAlias

/-- A lookup of a name finds the own entries, if none of them is an alias of an entity. -/
theorem lookUpByName_eq (unaliased : resolver.Unaliased draft)
    (meant : resolver.targetFor draft = .ok target) :
    resolver.lookUpByName target draft = resolver.store.findInScope target draft.name := by
  unfold lookUpByName resolve SymbolStore.resolve SymbolStore.lookIn
  simp only
  cases found : resolver.store.findInScope target draft.name with
  | error failure => rfl
  | ok hits =>
      obtain ⟨table, known, entries⟩ := bind_eq_ok_iff.1 found
      have plain := unaliased target table meant (SymbolStore.table_eq_ok_iff.1 known)
      rw [ok_bind, SymbolStore.classify_of_hitsOf entries plain]
      rfl

/-- A constructor or label that is admitted is judged to be new by name, too. -/
theorem declareBy_eq_declare_of_admitted (unaliased : resolver.Unaliased draft)
    (admitted : resolver.Admitted draft) :
    resolver.declareBy lookUpByName draft = resolver.declare draft := by
  obtain ⟨target, table, meant, known, accepted, compatible⟩ := admitted
  obtain ⟨prior, role, judgement, found, seen, judged, isNew⟩ := accepted
  obtain ⟨roles, hasRole, looked⟩ := SymbolStore.exists_hitsOf fun id listed =>
    (compatible id listed).imp fun _ compatible => compatible.1
  have role_eq : draft.kind.role (table.kind == .classTable) = role := by
    rw [SymbolStore.roleForDraft_eq_ok known, Except.ok.injEq] at seen
    exact seen
  have searched : resolver.lookUpByName target draft =
      resolver.store.hitsOf (table.entries draft.name) := by
    rw [lookUpByName_eq unaliased meant, SymbolStore.findInScope_eq_hitsOf known]
  have others : ∀ hit ∈ (Hits.ofList ((table.entries draft.name).map
      fun id => ⟨id, roles id⟩)).toList, hit.role.compatible role = true ∧ hit.role ≠ role := by
    intro hit isHit
    obtain ⟨id, listed, rfl⟩ := List.mem_map.1 (Hits.mem_ofList isHit)
    obtain ⟨role', hasRole', compatible'⟩ := compatible id listed
    rw [hasRole id listed, Except.ok.injEq] at hasRole'
    rw [← role_eq]
    exact hasRole' ▸ compatible'
  calc resolver.declareBy lookUpByName draft
      = resolver.fileJudged target draft .accepted := by
        rw [declareBy_of_search meant (searched.trans looked) seen,
          judgeIn_of_accepted (SymbolStore.judge_of_others others) rfl]
    _ = resolver.declareIn target draft := by
        rw [declareIn_of_prior found seen, judgeIn_of_accepted judged isNew]
    _ = resolver.declare draft := by
        unfold declare
        rw [meant]

/-! ## When the steps agree -/

/-- Over every resolver, a draft that is neither a constructor nor a label is declared step by step
as it is in one go, answer and resolver alike, with a lookup of its name, if no own entry of that
name is an alias of an entity. So is a constructor or label, with the search for its slot in any
case, and with a lookup of its name if it is new there and compatible with what the name stands
for. -/
theorem builder_steps_agree (resolver : Resolver) (draft : Draft) :
    (draft.kind.slot ≠ .constructor → draft.kind.slot ≠ .label → resolver.Unaliased draft →
      resolver.declareBy lookUpByName draft = resolver.declare draft) ∧
    (draft.kind.slot = .constructor ∨ draft.kind.slot = .label →
      resolver.declareBy lookUpBySlot draft = resolver.declare draft ∧
      (resolver.Unaliased draft → resolver.Admitted draft →
        resolver.declareBy lookUpByName draft = resolver.declare draft)) := by
  refine ⟨fun notConstructor notLabel unaliased => ?_, fun special =>
    ⟨?_, declareBy_eq_declare_of_admitted⟩⟩
  · refine declareBy_eq_declare fun target meant => ?_
    rw [lookUpByName_eq unaliased meant, SymbolStore.priorDeclarations]
    split
    · exact absurd ‹_› notConstructor
    · exact absurd ‹_› notLabel
    · rfl
  · refine declareBy_eq_declare fun target _ => ?_
    unfold lookUpBySlot SymbolStore.priorDeclarations
    rcases special with slot | slot <;> rw [slot]

/-- An overload of a function, and the first label of a function, are declared step by step. -/
theorem builder_steps_overload :
    let declared := (Resolver.new {} {}).run [.intern "f", .declare (functionDraft ⟨0⟩ [])]
    let overload := functionDraft ⟨0⟩ [.int]
    let entered := declared.run [.intern "done", .openScope (.functionBody ⟨0, 0⟩)]
    let label : Draft := { name := ⟨1⟩, kind := .label }
    (declared.Unaliased overload ∧
      declared.declareBy lookUpByName overload = declared.declare overload ∧
      (declared.declareBy lookUpByName overload).1 = .ok (.new ⟨⟨1, 0⟩, 1⟩)) ∧
    (entered.Unaliased label ∧ entered.Admitted label ∧
      entered.declareBy lookUpBySlot label = entered.declare label ∧
      entered.declareBy lookUpByName label = entered.declare label ∧
      (entered.declareBy lookUpByName label).1 = .ok (.new ⟨⟨1, 0⟩, 0⟩)) := by
  intro declared overload entered label
  have unaliased : declared.Unaliased overload :=
    @unaliased_of_entries _ _ ⟨0, 0⟩ [⟨0, 0⟩] (by decide +kernel) (by decide +kernel)
      (by decide +kernel)
  have unlabelled : entered.Unaliased label :=
    @unaliased_of_entries _ _ ⟨1, 0⟩ [] (by decide +kernel) (by decide +kernel) (by decide +kernel)
  have admitted : entered.Admitted label := by
    have entries : (entered.store.tables.get? ⟨1, 0⟩).map (·.entries ⟨1⟩) = some [] := by
      decide +kernel
    obtain ⟨table, known, noEntries⟩ := Option.map_eq_some_iff.1 entries
    refine ⟨⟨1, 0⟩, table, by decide +kernel, known, ?_, fun id listed => ?_⟩
    · exact ⟨.empty, .label, { answer := .accepted }, by decide +kernel, by decide +kernel, rfl,
        rfl⟩
    · rw [noEntries] at listed
      exact (List.not_mem_nil listed).elim
  obtain ⟨byName, -⟩ := builder_steps_agree declared overload
  obtain ⟨-, special⟩ := builder_steps_agree entered label
  obtain ⟨bySlot, labelByName⟩ := special (Or.inr rfl)
  exact ⟨⟨unaliased, byName (by decide) (by decide) unaliased, by decide +kernel⟩, unlabelled,
    admitted, bySlot, labelByName unlabelled admitted, by decide +kernel⟩

/-! ## When the steps differ -/

/-- A draft of a constructor without parameters, under the first name. -/
def constructorDraft : Draft where
  name := ⟨0⟩
  kind := .function { type := DeclType.void.function {}, form := .constructor }

/-- By name, a second label of one name is new, and so is a constructor that is declared again, and
an alias that is declared again conflicts with what it stands for. In one go, the label is rejected,
and the constructor and the alias are the ones declared before. -/
theorem builder_steps_differ :
    let label : Draft := { name := ⟨1⟩, kind := .label }
    let «alias» : Draft := { name := ⟨1⟩, kind := .namespaceAlias ⟨0, 0⟩ }
    let labelled := (Resolver.new {} {}).run
      [.intern "f", .intern "done", .declare (functionDraft ⟨0⟩ []),
        .openScope (.functionBody ⟨0, 0⟩), .declare label]
    let constructed := (Resolver.new {} {}).run
      [.intern "C", .declare { name := ⟨0⟩, kind := .classDecl .structKey false },
        .openScope (.classBody ⟨0, 0⟩), .declare constructorDraft]
    let aliased := (Resolver.new {} {}).run
      [.intern "N", .intern "M", .declare { name := ⟨0⟩, kind := .namespaceDecl },
        .declare «alias»]
    ((labelled.declareBy lookUpByName label).1 = .ok (.new ⟨⟨2, 0⟩, 0⟩) ∧
      (labelled.declare label).1 = .ok (.rejected ⟨1, 0⟩)) ∧
    ((constructed.declareBy lookUpByName constructorDraft).1 = .ok (.new ⟨⟨2, 0⟩, 1⟩) ∧
      (constructed.declare constructorDraft).1 = .ok (.redeclared ⟨1, 0⟩)) ∧
    ((aliased.declareBy lookUpByName «alias»).1 = .ok (.rejected ⟨0, 0⟩) ∧
      (aliased.declare «alias»).1 = .ok (.redeclared ⟨1, 0⟩)) := by
  decide +kernel

end Resolver

end ScopeResolution

import ScopeResolution.Proofs.Resolver.QualifiedChains

/-! # The name of a class behind the class

In a chain, the name of a class behind that class stands for the constructors, wherever it comes in
the chain (`resolveQualified_of_repeatedName`). A constructor is no qualifier, so no name after it is
looked up any more, even if the class has a member class of its own name (`declareNamesake`). -/

namespace ScopeResolution

namespace SymbolStore

/-- What a table lists as constructors are constructors. -/
def ConstructorsFit (store : SymbolStore) : Prop :=
  ∀ id table, store.tables.get? id = some table → ∀ member ∈ table.constructors, ∀ entity,
    store.entities.get? member = some entity → entity.kind.slot = .constructor

/-- The store that holds nothing but the global table has no constructors. -/
theorem constructorsFit_new (names : NamePool) : (SymbolStore.new names).ConstructorsFit := by
  intro id table known member listed
  rw [(only_global known).2] at listed
  cases listed

namespace ConstructorsFit

variable {before after : SymbolStore}

/-- Every edit files constructors as constructors. -/
theorem edit {change : Change} (fit : before.ConstructorsFit) (linked : before.Linked)
    (edit : Edit before change after) : after.ConstructorsFit := by
  intro id table found member listed entity memberFound
  rcases edit.constructors_origin found with none | ⟨old, known, -, origin⟩
  · rw [none] at listed
    cases listed
  · have kept (listed : member ∈ old.constructors) : entity.kind.slot = .constructor := by
      obtain ⟨earlier, memberKnown, kind⟩ := edit.listed_kept linked known
        (old.constructors_subset_listed listed) memberFound
      rw [kind]
      exact fit id old known member listed earlier memberKnown
    rcases origin with same | ⟨draft, new, rfl, isConstructor, grown⟩
    · exact kept (same ▸ listed)
    · rw [grown, List.mem_append, List.mem_singleton] at listed
      rcases listed with earlier | rfl
      · exact kept earlier
      · rw [edit.filed.2, Option.some.injEq] at memberFound
        rw [← memberFound]
        exact isConstructor

/-- Releasing a table leaves constructors what they are. -/
theorem released {closed : TableId} (fit : before.ConstructorsFit)
    (released : Released before closed after) : after.ConstructorsFit := by
  intro id table found member listed entity memberFound
  obtain ⟨old, known, rfl, -⟩ := released.entity_left memberFound
  rw [Entity.forget_kind]
  exact fit id table (released.table_left found).1 member listed old known

end ConstructorsFit

variable {store : SymbolStore}

/-- A constructor stands for no class or namespace. -/
theorem qualifier?_of_constructor {id : EntityId} {entity : Entity}
    (known : store.entities.get? id = some entity)
    (isConstructor : entity.kind.slot = .constructor) : store.qualifier? id = none := by
  unfold qualifier?
  simp only [known, Option.bind_eq_bind, Option.bind_some]
  cases kind : entity.kind with
  | function info => rfl
  | _ => rw [kind] at isConstructor; cases isConstructor

variable {scopes : OpenScopes} {limit : Nat} {start : Option TableId}

/-- The name of a class behind the class stands for its constructors. -/
theorem segmentLookup_of_repeatedName {place : Place} {class_ : Entity} {table : Table}
    {found : Lookup} (known : store.entities.get? place.entity = some class_)
    (tableKnown : store.tables.get? place.table = some table) (isClass : table.kind = .classTable)
    (looked : store.segmentLookup scopes limit start (some place) class_.name = .ok found) :
    store.hitsOf table.constructors = .ok found.hits := by
  obtain ⟨nesting, -, member⟩ := bind_eq_ok_iff.1 looked
  unfold memberOf at member
  rw [entity_eq_ok_iff.2 known, ok_bind, table_eq_ok_iff.2 tableKnown, ok_bind, if_pos isClass,
    if_pos rfl] at member
  obtain ⟨hits, constructed, member⟩ := bind_eq_ok_iff.1 member
  cases member
  unfold constructors at constructed
  rwa [table_eq_ok_iff.2 tableKnown, ok_bind] at constructed

/-- Where the name of a class was looked up behind the class, there is no qualifier. -/
theorem qualifierOf_of_constructors (fit : store.ConstructorsFit) {id : TableId} {table : Table}
    {hits : Hits} (known : store.tables.get? id = some table)
    (looked : store.hitsOf table.constructors = .ok hits) : store.qualifierOf hits = none := by
  refine qualifierOf_eq_none_iff.2 fun hit isHit => ?_
  obtain ⟨listed, sees⟩ := sees_of_hitsOf looked hit isHit
  obtain ⟨entity, -, entityKnown, -⟩ := kind_of_roleOf sees
  exact qualifier?_of_constructor entityKnown (fit id table known _ listed entity entityKnown)

/-- A class or namespace has one body. -/
theorem HasBody.eq {first second : Place} (hasBody : store.HasBody first)
    (hasBody' : store.HasBody second) (same : first.entity = second.entity) : first = second := by
  obtain ⟨entity, known, -, body⟩ := hasBody
  obtain ⟨entity', known', -, body'⟩ := hasBody'
  rw [same, known', Option.some.injEq] at known
  rw [known, body, Option.some.injEq] at body'
  obtain ⟨id, region⟩ := first
  obtain ⟨id', region'⟩ := second
  cases same
  cases body'
  rfl

/-- Where the names of a chain lead is the body of a class or namespace. -/
theorem Passes.hasBody {look : Option Place → Name → Except Failure Lookup}
    {place last : Option Place} {passages : List Passage}
    (passes : store.Passes look place passages last)
    (hasBody : ∀ inner, place = some inner → store.HasBody inner) :
    ∀ inner, last = some inner → store.HasBody inner := by
  induction passes with
  | here => exact hasBody
  | pass _ _ nextBody _ ih =>
      refine ih ?_
      rintro _ ⟨⟩
      exact nextBody

/-- A chain whose first name is passed ends as the rest of it does. -/
theorem ChainEnd.after_pass {look : Option Place → Name → Except Failure Lookup} {mention : Mention}
    {segment : Lookup} {next : Place} {rest : List Mention} {place : Option Place}
    {before out : QualifiedLookup} {log after : DiagnosticLog} (notLast : rest ≠ [])
    (looked : store.LooksUp look place mention segment)
    (stands : store.qualifierOf segment.hits = some next.entity) (hasBody : store.HasBody next)
    (ends : store.ChainEnd look (mention :: rest) place before log out after) :
    store.ChainEnd look rest (some next)
      { before with qualifiers := before.qualifiers ++ [next.entity] } log out after := by
  -- The name is looked up once, so what it stands for and where that leads is the same.
  have same {found : Lookup} (looked' : store.LooksUp look place mention found) :
      found = segment := by
    have answer := looked.answer
    rw [looked'.answer, Except.ok.injEq] at answer
    exact answer
  have leads {found : Lookup} {inner : Place} (looked' : store.LooksUp look place mention found)
      (stands' : store.qualifierOf found.hits = some inner.entity)
      (hasBody' : store.HasBody inner) : inner = next := by
    rw [same looked', stands, Option.some.injEq] at stands'
    exact hasBody'.eq hasBody stands'.symm
  cases ends with
  | broken passes lookedLast noQualifier split notLast' onlyAmbiguities reports =>
      cases passes with
      | here =>
          obtain ⟨rfl, -⟩ := List.cons.inj split
          rw [same lookedLast, stands] at noQualifier
          cases noQualifier
      | pass looked' stands' hasBody' further =>
          obtain ⟨rfl, others⟩ := List.cons.inj split
          rw [leads looked' stands' hasBody'] at further
          exact .broken further lookedLast noQualifier others notLast' onlyAmbiguities reports
  | complete passes lookedLast split onlyAmbiguities reports =>
      cases passes with
      | here =>
          obtain ⟨-, isLast⟩ := List.cons.inj split
          exact absurd isLast notLast
      | pass looked' stands' hasBody' further =>
          obtain ⟨rfl, others⟩ := List.cons.inj split
          rw [leads looked' stands' hasBody'] at further ⊢
          rw [List.map_cons, List.append_cons before.qualifiers next.entity (List.map _ _)]
          exact .complete further lookedLast others onlyAmbiguities reports

/-- A chain of which some names are passed ends as the rest of it does. -/
theorem ChainEnd.after_passes {look : Option Place → Name → Except Failure Lookup}
    {place last : Option Place} {passages : List Passage} {rest : List Mention}
    {before out : QualifiedLookup} {log after : DiagnosticLog} (notLast : rest ≠ [])
    (passes : store.Passes look place passages last)
    (ends : store.ChainEnd look (passages.map (·.mention) ++ rest) place before log out after) :
    ∃ before', store.ChainEnd look rest last before' log out after := by
  induction passes generalizing before with
  | here => exact ⟨before, ends⟩
  | pass looked stands hasBody _ ih =>
      exact ih (ends.after_pass (List.append_ne_nil_of_right_ne_nil _ notLast) looked stands
        hasBody)

/-- A chain whose first name stands for no class or namespace ends there: that name is the answer if
it is the last one, and otherwise nothing is found, which is reported. -/
theorem ChainEnd.of_noQualifier {look : Option Place → Name → Except Failure Lookup}
    {place : Option Place} {mention : Mention} {rest : List Mention} {before out : QualifiedLookup}
    {log after : DiagnosticLog}
    (noQualifier : ∀ segment, store.LooksUp look place mention segment →
      store.qualifierOf segment.hits = none)
    (ends : store.ChainEnd look (mention :: rest) place before log out after) :
    (rest = [] ∧ ∃ segment, store.LooksUp look place mention segment ∧ out.hits = segment.hits) ∨
      rest ≠ [] ∧ out = {} ∧ ∃ ambiguities : List Problem,
        (∀ problem ∈ ambiguities, problem.IsAmbiguity) ∧
          log.Reports
            (ambiguities ++ [.notAScope (store.nameText mention.name) mention.location]) after := by
  have notPassed {segment : Lookup} {qualifier : EntityId}
      (looked : store.LooksUp look place mention segment)
      (stands : store.qualifierOf segment.hits = some qualifier) : False := by
    rw [noQualifier segment looked] at stands
    cases stands
  cases ends with
  | broken passes looked _ split notLast onlyAmbiguities reports =>
      cases passes with
      | here =>
          obtain ⟨rfl, rfl⟩ := List.cons.inj split
          exact Or.inr ⟨notLast, rfl, _, onlyAmbiguities, reports⟩
      | pass looked stands =>
          obtain ⟨rfl, -⟩ := List.cons.inj split
          exact (notPassed looked stands).elim
  | complete passes looked split =>
      cases passes with
      | here =>
          obtain ⟨rfl, rfl⟩ := List.cons.inj split
          exact Or.inl ⟨rfl, _, looked, rfl⟩
      | pass looked stands =>
          obtain ⟨rfl, -⟩ := List.cons.inj split
          exact (notPassed looked stands).elim

end SymbolStore

namespace Resolver

/-- In every state that can be reached, what is listed as constructors are constructors. -/
theorem constructorsFit_run (names : NamePool) (settings : Settings) (operations : List Operation) :
    ((Resolver.new names settings).run operations).store.ConstructorsFit :=
  (run_keeps SymbolStore.ConstructorsFit (sound_new names settings)
    (SymbolStore.constructorsFit_new names) operations fun _ sound fit operation _ =>
      step_keeps SymbolStore.ConstructorsFit sound fit operation
        (fun _ _ _ linked fit _ edit => fit.edit linked edit)
        fun _ _ _ _ _ fit _ _ released => fit.released released).2

/-- In every state that can be reached, the name of a class behind the class stands for the
constructors of the class, whether more names follow or not. At the end of a chain, the chain stands
for them. Anywhere else, the chain stands for nothing, and it is reported that the name is no
qualifier. -/
theorem resolveQualified_of_repeatedName (names : NamePool) (settings : Settings)
    (operations : List Operation) (resolver after : Resolver) (name : QualifiedName)
    (start : Option TableId) (out : QualifiedLookup) (passages : List Passage) (place : Place)
    (class_ : Entity) (key : ClassKey) (isTemplate : Bool) (mention : Mention)
    (rest : List Mention)
    (reached : resolver = (Resolver.new names settings).run operations)
    (passes : resolver.store.Passes (resolver.look name start) none passages (some place))
    (split : name.segments = passages.map (·.mention) ++ mention :: rest)
    (found : resolver.store.entities.get? place.entity = some class_)
    (isClass : class_.kind = .classDecl key isTemplate) (repeats : mention.name = class_.name)
    (resolved : resolver.resolveQualified name start = (.ok out, after)) :
    (rest = [] → resolver.store.constructors place.table = .ok out.hits) ∧
      (rest ≠ [] → out = {} ∧ ∃ ambiguities : List Problem,
        (∀ problem ∈ ambiguities, problem.IsAmbiguity) ∧
          resolver.log.Reports (ambiguities ++
            [.notAScope (resolver.store.nameText mention.name) mention.location]) after.log) := by
  obtain ⟨sound, embodied⟩ := embodied_run names settings operations
  have fit := constructorsFit_run names settings operations
  rw [← reached] at sound embodied fit
  have nonempty : name.segments ≠ [] := by
    rw [split]
    exact List.append_ne_nil_of_right_ne_nil _ (List.cons_ne_nil _ _)
  have ends := chainEnd_of_resolveQualified sound.linked embodied nonempty resolved
  rw [split] at ends
  obtain ⟨before, ends⟩ := ends.after_passes (List.cons_ne_nil _ _) passes
  have hasBody := passes.hasBody (fun _ same => by cases same) place rfl
  obtain ⟨_, known, -, body⟩ := id hasBody
  rw [found, Option.some.injEq] at known
  subst known
  obtain ⟨table, tableKnown, tableKind⟩ := embodied.classTable found isClass body
  have constructed {segment : Lookup}
      (looked : resolver.store.LooksUp (resolver.look name start) (some place) mention segment) :
      resolver.store.hitsOf table.constructors = .ok segment.hits := by
    have answer := looked.answer
    rw [repeats] at answer
    exact SymbolStore.segmentLookup_of_repeatedName found tableKnown tableKind answer
  -- Constructors stand for no class or namespace, so the chain ends at this name.
  rcases ends.of_noQualifier fun segment looked =>
      SymbolStore.qualifierOf_of_constructors fit tableKnown (constructed looked) with
    ⟨isLast, segment, looked, hits⟩ | ⟨notLast, nothing⟩
  · refine ⟨fun _ => ?_, fun notLast => absurd isLast notLast⟩
    rw [SymbolStore.constructors, SymbolStore.table_eq_ok_iff.2 tableKnown, hits]
    exact constructed looked
  · exact ⟨fun isLast => absurd isLast notLast, fun _ => nothing⟩

/-- A class with a member class of its own name, which has a data member. -/
def declareNamesake : List Operation :=
  [.intern "C", .intern "x", .declare { name := ⟨0⟩, kind := .classDecl .structKey false },
    .declareIn ⟨1, 0⟩ { name := ⟨0⟩, kind := .classDecl .structKey false },
    .declareIn ⟨2, 0⟩ { name := ⟨1⟩, kind := .object .int .unwritten }]

/-- The chain of the class, its member class of the same name and the data member. -/
def namesakeChain : QualifiedName where
  segments := [{ name := ⟨0⟩ }, { name := ⟨0⟩, location := ⟨0, ⟨3, 4⟩⟩ }, { name := ⟨1⟩ }]

/-- The chain ends at the second name, which is reported. -/
theorem namesakeChain_broken :
    let resolver := (Resolver.new {} {}).run declareNamesake
    (resolver.resolveQualified namesakeChain none).1 = .ok {} ∧
      ∃ ambiguities : List Problem, (∀ problem ∈ ambiguities, problem.IsAmbiguity) ∧
        resolver.log.Reports (ambiguities ++
          [.notAScope (resolver.store.nameText ⟨0⟩) ⟨0, ⟨3, 4⟩⟩])
          (resolver.resolveQualified namesakeChain none).2.log := by
  intro resolver
  have answered : (resolver.resolveQualified namesakeChain none).1 = .ok {} := by decide +kernel
  obtain ⟨class_, found, facts⟩ := Option.map_eq_some_iff.1 (show
    (resolver.store.entities.get? ⟨0, 0⟩).map (fun entity =>
      (entity.kind.regionKind?, entity.name, entity.body)) =
        some (some .classTable, ⟨0⟩, some ⟨1, 0⟩) by decide +kernel)
  obtain ⟨kind, name, body⟩ : class_.kind.regionKind? = some .classTable ∧ class_.name = ⟨0⟩ ∧
      class_.body = some ⟨1, 0⟩ := by simpa only [Prod.mk.injEq] using facts
  obtain ⟨key, isTemplate, isClass⟩ := EntityKind.regionKind?_eq_classTable_iff.1 kind
  have first : resolver.store.LooksUp (resolver.look namesakeChain none) none { name := ⟨0⟩ }
      { hits := ⟨[⟨⟨0, 0⟩, .classRole⟩]⟩ } :=
    SymbolStore.looksUp_of_segmentLookup (embodied_run {} {} declareNamesake).2
      (fun _ same => by cases same) (by decide +kernel)
  have passes : resolver.store.Passes (resolver.look namesakeChain none) none
      [⟨{ name := ⟨0⟩ }, { hits := ⟨[⟨⟨0, 0⟩, .classRole⟩]⟩ }, ⟨⟨0, 0⟩, ⟨1, 0⟩⟩⟩]
      (some ⟨⟨0, 0⟩, ⟨1, 0⟩⟩) :=
    .pass first (by decide +kernel) ⟨class_, found, by rw [isClass]; rfl, body⟩ (.here _)
  exact ⟨answered, ((resolveQualified_of_repeatedName {} {} declareNamesake resolver _ namesakeChain
    none {} _ _ class_ key isTemplate { name := ⟨0⟩, location := ⟨0, ⟨3, 4⟩⟩ } [{ name := ⟨1⟩ }] rfl
    passes rfl found isClass name.symm (Prod.ext answered rfl)).2 (List.cons_ne_nil _ _)).2⟩

/-- The data member is found in the member class, and that class in the other one, but the chain of
their names does not lead to it. -/
theorem namesakeChain_misses_member :
    let resolver := (Resolver.new {} {}).run declareNamesake
    resolver.store.classLookup resolver.nesting ⟨1, 0⟩ ⟨0⟩ = .ok ⟨[⟨⟨1, 0⟩, .classRole⟩]⟩ ∧
      resolver.store.classLookup resolver.nesting ⟨2, 0⟩ ⟨1⟩ = .ok ⟨[⟨⟨2, 0⟩, .dataMember⟩]⟩ ∧
      resolver.store.regionOf ⟨0, 0⟩ = .ok (some ⟨1, 0⟩) ∧
      resolver.store.regionOf ⟨1, 0⟩ = .ok (some ⟨2, 0⟩) ∧
      namesakeChain.segments.map (·.name) = [⟨0⟩, ⟨0⟩, ⟨1⟩] ∧
      (resolver.resolveQualified namesakeChain none).1 = .ok {} := by
  decide +kernel

end Resolver

end ScopeResolution

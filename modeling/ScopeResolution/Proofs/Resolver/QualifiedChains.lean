import ScopeResolution.Proofs.Lookup.Qualifiers

/-! # Chains of names

The lookup of a chain passes its names one after the other (`Passes`). It looks the first name up
like an unqualified one and every further name in the body of the class or namespace that the hits
on the name before it stand for, and nowhere else: what it finds there are own entries of a
namespace, own or inherited members of a class, or its constructors (`FoundIn`). So a chain ends in
one of two ways (`resolveQualified_of_run`): at the first name, the last one apart, that stands for
no class or namespace, where nothing is found and that is reported; or behind its last name, where
the other ones stand for the qualifiers. -/

namespace ScopeResolution

/-- A name of a chain that is followed by others. -/
structure Passage where
  /-- The name with its place. -/
  mention : Mention
  /-- What the name was found to be. -/
  found : Lookup
  /-- The class or namespace in which the next name is looked up. -/
  next : Place

namespace SymbolStore

/-- An entity is found in a class or namespace under a name. -/
inductive FoundIn (store : SymbolStore) (place : Place) (name : Name) : EntityId → Prop where
  /-- It is a constructor of the class whose name that is. -/
  | constructor {id : EntityId} {class_ : Entity} {table : Table}
      (known : store.entities.get? place.entity = some class_) (repeats : class_.name = name)
      (tableKnown : store.tables.get? place.table = some table) (isClass : table.kind = .classTable)
      (listed : id ∈ table.constructors) : FoundIn store place name id
  /-- It is what an own or inherited member of the class counts as. -/
  | member {source id : EntityId} {table : Table}
      (tableKnown : store.tables.get? place.table = some table) (isClass : table.kind = .classTable)
      (hasMember : store.HasMember place.entity name source) (counts : store.CountsAs source id) :
      FoundIn store place name id
  /-- It is what an own entry of the namespace counts as. -/
  | entry {source id : EntityId} {table : Table}
      (tableKnown : store.tables.get? place.table = some table)
      (isNamespace : table.kind = .namespaceTable) (listed : source ∈ table.entries name)
      (counts : store.CountsAs source id) : FoundIn store place name id

/-- A name of a chain was looked up, in a class or namespace or, for the first name, like an
unqualified one; `look` looks names up. -/
structure LooksUp (store : SymbolStore) (look : Option Place → Name → Except Failure Lookup)
    (place : Option Place) (mention : Mention) (found : Lookup) : Prop where
  /-- This is the answer to the lookup. -/
  answer : look place mention.name = .ok found
  /-- Entities are shown in their roles. -/
  sees : store.SeesAll found.hits
  /-- All that is found in a class or namespace is found in there. -/
  confined : ∀ inner, place = some inner → ∀ hit ∈ found.hits.toList,
    store.FoundIn inner mention.name hit.entity

/-- Names of a chain are passed one after the other, from where the first one is looked up to where
the name after them is. -/
inductive Passes (store : SymbolStore) (look : Option Place → Name → Except Failure Lookup) :
    Option Place → List Passage → Option Place → Prop where
  /-- No name is passed. -/
  | here (place : Option Place) : Passes store look place [] place
  /-- A name is passed that stands for a class or namespace, then the others in there. -/
  | pass {place last : Option Place} {mention : Mention} {found : Lookup} {next : Place}
      {rest : List Passage} (looked : store.LooksUp look place mention found)
      (stands : store.qualifierOf found.hits = some next.entity) (hasBody : store.HasBody next)
      (further : Passes store look (some next) rest last) :
      Passes store look place (⟨mention, found, next⟩ :: rest) last

variable {store : SymbolStore}

/-- The body of a class or namespace is there, and a class table or a namespace table. -/
theorem HasBody.table (embodied : store.Embodied) {place : Place} (hasBody : store.HasBody place) :
    ∃ entity table, store.entities.get? place.entity = some entity ∧
      entity.body = some place.table ∧ store.tables.get? place.table = some table ∧
      (table.kind = .classTable ∨ table.kind = .namespaceTable) := by
  obtain ⟨entity, known, opens, body⟩ := hasBody
  obtain ⟨region, table, body', tableKnown, kind⟩ := embodied place.entity entity known opens
  rw [body, Option.some.injEq] at body'
  subst body'
  refine ⟨entity, table, known, body, tableKnown, ?_⟩
  rw [EntityKind.opensRegion_iff, kind, Option.some.injEq, Option.some.injEq] at opens
  exact opens

/-- What is found in a class or namespace is found in there, in its role. -/
theorem foundIn_of_memberOf (embodied : store.Embodied) {nesting : Nesting} {place : Place}
    {name : Name} {found : Lookup} (hasBody : store.HasBody place)
    (looked : store.memberOf nesting place name = .ok found) :
    ∀ hit ∈ found.hits.toList, store.Sees hit ∧ store.FoundIn place name hit.entity := by
  obtain ⟨entity, table, known, body, tableKnown, kind⟩ := hasBody.table embodied
  unfold memberOf at looked
  rw [entity_eq_ok_iff.2 known, ok_bind, table_eq_ok_iff.2 tableKnown, ok_bind] at looked
  intro hit isHit
  split at looked
  · rename_i isClass
    split at looked
    · rename_i repeats
      obtain ⟨hits, constructed, looked⟩ := bind_eq_ok_iff.1 looked
      cases looked
      unfold constructors at constructed
      rw [table_eq_ok_iff.2 tableKnown, ok_bind] at constructed
      obtain ⟨listed, sees⟩ := sees_of_hitsOf constructed hit isHit
      exact ⟨sees, .constructor known repeats tableKnown isClass listed⟩
    · obtain ⟨hits, members, classified⟩ := bind_eq_ok_iff.1 looked
      have declared := declared_of_classLookup known body tableKnown isClass members
      obtain ⟨sees, source, isSource, counts⟩ :=
        sees_of_classify (fun hit isHit => (declared hit isHit).2) classified hit isHit
      exact ⟨sees, .member tableKnown isClass (declared source isSource).1 counts⟩
  · rename_i notClass
    obtain ⟨hits, own, classified⟩ := bind_eq_ok_iff.1 looked
    rw [findInScope_eq_hitsOf tableKnown] at own
    have listed := sees_of_hitsOf own
    obtain ⟨sees, source, isSource, counts⟩ :=
      sees_of_classify (fun hit isHit => (listed hit isHit).2) classified hit isHit
    exact ⟨sees, .entry tableKnown (kind.resolve_left notClass) (listed source isSource).1 counts⟩

variable {scopes : OpenScopes} {limit : Nat} {start : Option TableId}

/-- A name of a chain is looked up in the class or namespace before it. -/
theorem looksUp_of_segmentLookup (embodied : store.Embodied) {place : Option Place}
    (hasBody : ∀ inner, place = some inner → store.HasBody inner) {mention : Mention}
    {found : Lookup}
    (looked : store.segmentLookup scopes limit start place mention.name = .ok found) :
    store.LooksUp (store.segmentLookup scopes limit start) place mention found := by
  cases place with
  | none => exact ⟨looked, sees_of_resolve looked, nofun⟩
  | some inner =>
      obtain ⟨nesting, -, member⟩ := bind_eq_ok_iff.1 looked
      have foundIn := foundIn_of_memberOf embodied (hasBody inner rfl) member
      refine ⟨looked, fun hit isHit => (foundIn hit isHit).1, ?_⟩
      rintro _ ⟨⟩ hit isHit
      exact (foundIn hit isHit).2

/-- How the lookup of a chain that starts in a place ends. -/
inductive ChainEnd (store : SymbolStore) (look : Option Place → Name → Except Failure Lookup)
    (segments : List Mention) (place : Option Place) (before : QualifiedLookup)
    (log : DiagnosticLog) : QualifiedLookup → DiagnosticLog → Prop where
  /-- A name that is followed by others stands for no class or namespace. That is reported, and
  nothing is found. -/
  | broken {passages : List Passage} {last : Option Place} {mention : Mention} {found : Lookup}
      {rest : List Mention} {ambiguities : List Problem} {after : DiagnosticLog}
      (passes : store.Passes look place passages last)
      (looked : store.LooksUp look last mention found)
      (noQualifier : store.qualifierOf found.hits = none)
      (split : segments = passages.map (·.mention) ++ mention :: rest) (notLast : rest ≠ [])
      (onlyAmbiguities : ∀ problem ∈ ambiguities, problem.IsAmbiguity)
      (reports : log.Reports
        (ambiguities ++ [.notAScope (store.nameText mention.name) mention.location]) after) :
      ChainEnd store look segments place before log {} after
  /-- The last name is looked up, and the ones before it stand for the qualifiers. -/
  | complete {passages : List Passage} {last : Option Place} {mention : Mention} {found : Lookup}
      {synonyms : List EntityId} {ambiguities : List Problem} {after : DiagnosticLog}
      (passes : store.Passes look place passages last)
      (looked : store.LooksUp look last mention found)
      (split : segments = passages.map (·.mention) ++ [mention])
      (onlyAmbiguities : ∀ problem ∈ ambiguities, problem.IsAmbiguity)
      (reports : log.Reports ambiguities after) :
      ChainEnd store look segments place before log
        { hits := found.hits
          qualifiers := before.qualifiers ++ passages.map (·.next.entity)
          synonyms } after

/-- A chain ends behind its last name. -/
theorem ChainEnd.single {look : Option Place → Name → Except Failure Lookup}
    {place : Option Place} {mention : Mention} {found : Lookup}
    (looked : store.LooksUp look place mention found) (before : QualifiedLookup)
    (synonyms : List EntityId) (log : DiagnosticLog) :
    store.ChainEnd look [mention] place before log { before with hits := found.hits, synonyms }
      log := by
  have ends : store.ChainEnd look [mention] place before log
      { hits := found.hits, qualifiers := before.qualifiers ++ [], synonyms } log :=
    .complete (.here place) looked rfl (fun _ listed => absurd listed List.not_mem_nil)
      log.reports_nil
  rwa [List.append_nil] at ends

/-- A chain ends as the rest of it does once its first name is passed. -/
theorem ChainEnd.pass {look : Option Place → Name → Except Failure Lookup} {mention : Mention}
    {segment : Lookup} {next : Place} {rest : List Mention} {place : Option Place}
    {before found out : QualifiedLookup} {log middle after : DiagnosticLog}
    {ambiguities : List Problem} (looked : store.LooksUp look place mention segment)
    (stands : store.qualifierOf segment.hits = some next.entity) (hasBody : store.HasBody next)
    (onlyAmbiguities : ∀ problem ∈ ambiguities, problem.IsAmbiguity)
    (reports : log.Reports ambiguities middle)
    (qualifiers : found.qualifiers = before.qualifiers ++ [next.entity])
    (ends : store.ChainEnd look rest (some next) found middle out after) :
    store.ChainEnd look (mention :: rest) place before log out after := by
  cases ends with
  | broken passes lookedLast noQualifier split notLast later laterReports =>
      refine .broken (.pass looked stands hasBody passes) lookedLast noQualifier
        (by rw [split]; rfl) notLast (List.forall_mem_append.2 ⟨onlyAmbiguities, later⟩) ?_
      rw [List.append_assoc]
      exact reports.trans laterReports
  | complete passes lookedLast split later laterReports =>
      rw [qualifiers, List.append_assoc]
      exact .complete (.pass looked stands hasBody passes) lookedLast (by rw [split]; rfl)
        (List.forall_mem_append.2 ⟨onlyAmbiguities, later⟩) (reports.trans laterReports)

/-- The lookup of a chain that gives an answer ends in one of these ways: by induction on the names
that are left. -/
theorem chainEnd_of_followChain (linked : store.Linked) (embodied : store.Embodied)
    {segments : List Mention} (nonempty : segments ≠ []) {place : Option Place}
    (hasBody : ∀ inner, place = some inner → store.HasBody inner) {found out : QualifiedLookup}
    {log after : DiagnosticLog}
    (followed : store.followChain scopes limit start segments place found log = (.ok out, after)) :
    store.ChainEnd (store.segmentLookup scopes limit start) segments place found log out after := by
  induction segments generalizing place found log with
  | nil => exact absurd rfl nonempty
  | cons mention rest ih =>
      rw [followChain] at followed
      split at followed
      · cases followed
      · rename_i segment looked
        have looksUp := looksUp_of_segmentLookup embodied hasBody looked
        simp only at followed
        split at followed
        · rename_i isLast
          rw [List.isEmpty_iff] at isLast
          subst isLast
          cases followed
          exact .single looksUp found (found.synonyms ++ segment.synonyms) _
        · rename_i notLast
          rw [List.isEmpty_iff] at notLast
          cases entered : store.enter mention segment.hits log with
          | mk answer middle =>
              rw [entered] at followed
              cases answer with
              | error failure => cases followed
              | ok place? =>
                  obtain ⟨ambiguities, onlyAmbiguities, cases⟩ :=
                    enter_cases embodied looksUp.sees entered
                  rcases cases with ⟨next, rfl, stands, nextBody, reports⟩ |
                    ⟨rfl, noQualifier, reports⟩
                  · obtain ⟨entity, known, -, body⟩ := id nextBody
                    simp only [addQualifier_of_body linked known body] at followed
                    refine .pass looksUp stands nextBody onlyAmbiguities reports rfl
                      (ih notLast ?_ followed)
                    rintro _ ⟨⟩
                    exact nextBody
                  · cases followed
                    exact .broken (.here place) looksUp noQualifier rfl notLast onlyAmbiguities
                      reports

/-- The classes and namespaces behind the names that are passed are there. -/
theorem Passes.opens {look : Option Place → Name → Except Failure Lookup}
    {place last : Option Place} {passages : List Passage} (passes : store.Passes look place passages last) :
    ∀ passage ∈ passages, ∃ entity, store.entities.get? passage.next.entity = some entity ∧
      entity.kind.opensRegion = true := by
  induction passes with
  | here => exact fun _ listed => absurd listed List.not_mem_nil
  | pass _ _ hasBody _ ih =>
      obtain ⟨entity, known, opens, -⟩ := hasBody
      exact List.forall_mem_cons.2 ⟨⟨entity, known, opens⟩, ih⟩

end SymbolStore

namespace Resolver

/-- How a resolver looks up the names of a chain, for which a table to start from may be given. -/
def look (resolver : Resolver) (name : QualifiedName) (start : Option TableId) :
    Option Place → Name → Except Failure Lookup :=
  resolver.store.segmentLookup resolver.scopes resolver.settings.maxDepth
    (if name.isGlobal then some resolver.store.global else start)

/-- The lookup of a chain in a state that can be reached ends in one of two ways, if it gives an
answer. -/
theorem chainEnd_of_resolveQualified {resolver after : Resolver} {name : QualifiedName}
    {start : Option TableId} {out : QualifiedLookup} (linked : resolver.store.Linked)
    (embodied : resolver.store.Embodied) (nonempty : name.segments ≠ [])
    (resolved : resolver.resolveQualified name start = (.ok out, after)) :
    resolver.store.ChainEnd (resolver.look name start) name.segments none {} resolver.log out
      after.log := by
  unfold resolveQualified SymbolStore.resolveQualified at resolved
  obtain ⟨answered, rfl⟩ := Prod.mk.inj resolved
  exact SymbolStore.chainEnd_of_followChain linked embodied nonempty (fun _ same => by cases same)
    (Prod.ext answered rfl)

/-- The lookup of a chain in a state that can be reached, where it gives an answer, ends in one of
two ways. Either a name that is followed by others, after names that stand for classes and
namespaces, has no hit that stands for one: then nothing is found, and that this name is no qualifier
is reported. Or the last name is looked up, the others stand for the qualifiers, which are classes
and namespaces that are there, and no such report is made. In both cases, all names but the first one
are looked up in the class or namespace before them, where all that they are found to be is found in
there. -/
theorem resolveQualified_of_run (names : NamePool) (settings : Settings)
    (operations : List Operation) (resolver after : Resolver) (name : QualifiedName)
    (start : Option TableId) (out : QualifiedLookup)
    (reached : resolver = (Resolver.new names settings).run operations)
    (nonempty : name.segments ≠ [])
    (resolved : resolver.resolveQualified name start = (.ok out, after)) :
    ∃ passages last mention found ambiguities,
      resolver.store.Passes (resolver.look name start) none passages last ∧
      resolver.store.LooksUp (resolver.look name start) last mention found ∧
      (∀ problem ∈ ambiguities, problem.IsAmbiguity) ∧
      ((∃ rest, rest ≠ [] ∧ name.segments = passages.map (·.mention) ++ mention :: rest ∧
          (∀ hit ∈ found.hits.toList, resolver.store.qualifier? hit.entity = none) ∧ out = {} ∧
          resolver.log.Reports (ambiguities ++
            [.notAScope (resolver.store.nameText mention.name) mention.location]) after.log) ∨
        name.segments = passages.map (·.mention) ++ [mention] ∧ out.hits = found.hits ∧
          out.qualifiers = passages.map (·.next.entity) ∧
          out.qualifiers.length + 1 = name.segments.length ∧
          (∀ qualifier ∈ out.qualifiers, ∃ entity,
            resolver.store.entities.get? qualifier = some entity ∧
              entity.kind.opensRegion = true) ∧
          resolver.log.Reports ambiguities after.log) := by
  obtain ⟨sound, embodied⟩ := embodied_run names settings operations
  rw [← reached] at sound embodied
  have ends := chainEnd_of_resolveQualified sound.linked embodied nonempty resolved
  cases ends with
  | broken passes looked noQualifier split notLast onlyAmbiguities reports =>
      exact ⟨_, _, _, _, _, passes, looked, onlyAmbiguities, Or.inl ⟨_, notLast, split,
        SymbolStore.qualifierOf_eq_none_iff.1 noQualifier, rfl, reports⟩⟩
  | @complete passages _ _ _ _ _ _ passes looked split onlyAmbiguities reports =>
      refine ⟨_, _, _, _, _, passes, looked, onlyAmbiguities, Or.inr ⟨split, rfl, rfl, ?_, ?_,
        reports⟩⟩
      · rw [split, List.nil_append, List.length_append, List.length_map, List.length_map]
        rfl
      · rw [List.nil_append]
        exact List.forall_mem_map.2 passes.opens

/-- A namespace with a class that has a member, a class derived from that, and a typedef of the
second class. -/
def declareTypedef : List Operation :=
  [.intern "N", .intern "B", .intern "C", .intern "T", .intern "m",
    .declare { name := ⟨0⟩, kind := .namespaceDecl },
    .declareIn ⟨1, 0⟩ { name := ⟨1⟩, kind := .classDecl .structKey false },
    .declareIn ⟨2, 0⟩ { name := ⟨4⟩, kind := .object .int .unwritten },
    .declareIn ⟨1, 0⟩ { name := ⟨2⟩, kind := .classDecl .structKey false },
    .addBase ⟨3, 0⟩ { entity := ⟨1, 0⟩ },
    .declareIn ⟨1, 0⟩ { name := ⟨3⟩, kind := .alias (.type (.named ⟨3, 0⟩)) }]

/-- The chain of the namespace, the typedef and the member passes the namespace and the class that
the typedef is a name of, and finds the inherited member. -/
theorem resolveQualified_of_typedef :
    let resolver := (Resolver.new {} {}).run declareTypedef
    let chain : QualifiedName :=
      { isGlobal := true, segments := [{ name := ⟨0⟩ }, { name := ⟨3⟩ }, { name := ⟨4⟩ }] }
    (resolver.resolveQualified chain none).1 =
        .ok { hits := ⟨[⟨⟨2, 0⟩, .dataMember⟩]⟩, qualifiers := [⟨0, 0⟩, ⟨3, 0⟩] } ∧
      ∃ passages last mention found,
        resolver.store.Passes (resolver.look chain none) none passages last ∧
        resolver.store.LooksUp (resolver.look chain none) last mention found ∧
        chain.segments = passages.map (·.mention) ++ [mention] ∧
        passages.map (·.next.entity) = [⟨0, 0⟩, ⟨3, 0⟩] ∧
        found.hits = ⟨[⟨⟨2, 0⟩, .dataMember⟩]⟩ := by
  intro resolver chain
  have answered : (resolver.resolveQualified chain none).1 =
      .ok { hits := ⟨[⟨⟨2, 0⟩, .dataMember⟩]⟩, qualifiers := [⟨0, 0⟩, ⟨3, 0⟩] } := by
    decide +kernel
  obtain ⟨passages, last, mention, found, ambiguities, passes, looked, -, ends⟩ :=
    resolveQualified_of_run {} {} declareTypedef resolver (resolver.resolveQualified chain none).2
      chain none _ rfl (List.cons_ne_nil _ _) (Prod.ext answered rfl)
  rcases ends with ⟨_, -, -, -, nothing, -⟩ | ⟨split, hits, qualifiers, -⟩
  · cases nothing
  · exact ⟨answered, passages, last, mention, found, passes, looked, split, qualifiers.symm,
      hits.symm⟩

end Resolver

end ScopeResolution

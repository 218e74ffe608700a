import ScopeResolution.Lookup.Qualified
import ScopeResolution.Proofs.Lookup.Inheritance
import ScopeResolution.Proofs.Resolver.Overloads
import ScopeResolution.Proofs.SymbolStore.Catalogue

/-! # Looking up qualified names

The way that the lookup of a chain of names takes from the global table inwards. At each name it
finds an overload set, of which nothing is an alias of an entity when one hit is not
(`classify_of_plain`), and in which a class or namespace is the only qualifier (`scopeOf_of_region`).
So the chain of the names around an entity leads to that entity, over exactly the classes and
namespaces that it lies in (`followChain_of_leads`). -/

namespace ScopeResolution

namespace SymbolStore

variable {store : SymbolStore}

/-! ## Finding the own entries of a table -/

/-- Without peers, a search finds the own entries of a table and nothing else. -/
theorem findSymbol_of_entries (nesting : Nesting) {id : TableId} {name : Name} {table : Table}
    (known : store.tables.get? id = some table) (present : table.entries name ≠ [])
    (noPeers : table.peers = []) {hits : Hits}
    (found : store.hitsOf (table.entries name) = .ok hits) (distinct : hits.entities.Nodup) :
    store.findSymbol nesting id name = .ok hits := by
  have visited (nesting : Nesting) (deeper : TableId → Reached → Except Failure Reached) :
      store.visitStep (store.members nesting name) deeper id {} = .ok ⟨[id], hits⟩ := by
    unfold visitStep
    rw [if_neg List.not_mem_nil, table_eq_ok_iff.2 known, ok_bind,
      members_of_own nesting (Or.inl present), found, ok_bind, noPeers, Hits.extend_empty distinct]
    rfl
  unfold findSymbol
  cases levels : nesting.levels with
  | zero => rw [visit, visited]; rfl
  | succ levels => rw [visit, visited]; rfl

/-! ## Hits that are no aliases -/

/-- Hits on distinct entities, all there and none an alias of another one, are classified as they
are. -/
theorem classify_of_plain {hits : Hits} (distinct : hits.entities.Nodup)
    (plain : ∀ hit ∈ hits.toList, ∃ entity, store.entities.get? hit.entity = some entity ∧
      entity.kind.aliasedEntity? = none) : store.classify hits = .ok { hits } := by
  have folded (list : List Hit) (found : Lookup) (among : list ⊆ hits.toList) :
      list.foldlM store.follow found = .ok { found with hits := found.hits.extend list } := by
    induction list generalizing found with
    | nil => rfl
    | cons hit rest ih =>
        obtain ⟨entity, known, notAlias⟩ := plain hit (among List.mem_cons_self)
        have followed : store.follow found hit = .ok { found with hits := found.hits.add hit } := by
          unfold follow
          rw [entity_eq_ok_iff.2 known, ok_bind, notAlias]
          rfl
        rw [List.foldlM_cons, followed, ok_bind,
          ih _ fun _ listed => among (List.mem_cons_of_mem _ listed)]
        rfl
  unfold classify
  rw [folded hits.toList {} (List.Subset.refl _), Hits.extend_empty distinct]

namespace BesideHits

variable {hits : Hits} {member : Bool} {hit : Hit} {entity : Entity}

/-- Beside a hit that is no alias of an entity, none is. -/
theorem plain (besideHits : store.BesideHits member hits) (isHit : hit ∈ hits.toList)
    (known : store.entities.get? hit.entity = some entity)
    (notAlias : entity.kind.aliasedEntity? = none) : ∀ other ∈ hits.toList,
      ∃ entity', store.entities.get? other.entity = some entity' ∧
        entity'.kind.aliasedEntity? = none := by
  intro other isOther
  by_cases same : other = hit
  · exact ⟨entity, by rw [same, known], notAlias⟩
  · obtain ⟨first, second, known', -, -, -, coexist⟩ := besideHits.coexist isOther isHit same
    exact ⟨first, known', coexist.aliasedEntity?_eq_none⟩

/-- Beside a class or namespace, all hits are values. -/
theorem isValue (besideHits : store.BesideHits member hits) (isHit : hit ∈ hits.toList)
    (known : store.entities.get? hit.entity = some entity)
    (opens : entity.kind.opensRegion = true) {other : Hit} (isOther : other ∈ hits.toList)
    (differ : other ≠ hit) : other.role.isValue = true := by
  obtain ⟨first, second, -, known', role, -, coexist⟩ := besideHits.coexist isOther isHit differ
  rw [known, Option.some.injEq] at known'
  subst known'
  -- No value stands beside nothing, so the region is that of a class, and there is no second type.
  have isType : (entity.kind.role member).isType = true := by
    rcases coexist.symm.isType_or_isValue with isType | isValue
    · exact isType
    · cases kind : entity.kind with
      | classDecl key isTemplate => cases isTemplate <;> cases key <;> rfl
      | namespaceDecl => rw [kind] at isValue; cases isValue
      | _ => rw [kind] at opens; cases opens
  rw [role]
  refine coexist.isType_or_isValue.resolve_left fun isType' => ?_
  rw [coexist.symm.not_isType isType] at isType'
  cases isType'

end BesideHits

/-! ## Qualifiers -/

/-- A value is no qualifier: neither a class, nor a namespace, nor a typedef. -/
theorem addScope_of_isValue {hit : Hit} (isValue : hit.role.isValue = true) (candidates : Hits) :
    store.addScope candidates hit = .ok candidates := by
  obtain ⟨entity, role⟩ := hit
  cases role <;> first | rfl | cases isValue

/-- A class or namespace is a qualifier. -/
theorem addScope_of_region {hit : Hit} {kind : EntityKind} {member : Bool}
    (role : hit.role = kind.role member) (opens : kind.opensRegion = true) (candidates : Hits) :
    store.addScope candidates hit = .ok (candidates.add hit) := by
  unfold addScope
  rw [role]
  cases kind with
  | classDecl key isTemplate => cases isTemplate <;> cases key <;> rfl
  | namespaceDecl => rfl
  | _ => cases opens

/-- A class or namespace among hits beside each other is the qualifier that they stand for. -/
theorem scopeOf_of_region {hits : Hits} {member : Bool} {hit : Hit} {entity : Entity}
    (besideHits : store.BesideHits member hits) (isHit : hit ∈ hits.toList)
    (known : store.entities.get? hit.entity = some entity)
    (opens : entity.kind.opensRegion = true) (mention : Mention) :
    store.scopeOf mention hits = .ok { answer := some hit.entity } := by
  have role : hit.role = entity.kind.role member := by
    obtain ⟨entity', known', role⟩ := besideHits.role_eq hit isHit
    rw [known, Option.some.injEq] at known'
    rw [role, known']
  -- The hits before the class or namespace add nothing, and so do those after it.
  have folded (list : List Hit) (among : list ⊆ hits.toList) (candidates : Hits) :
      list.foldlM store.addScope candidates =
        .ok (if hit ∈ list then candidates.add hit else candidates) := by
    induction list generalizing candidates with
    | nil => rfl
    | cons first rest ih =>
        have later := ih fun _ listed => among (List.mem_cons_of_mem _ listed)
        rw [List.foldlM_cons]
        by_cases same : first = hit
        · subst same
          have again : (candidates.add first).add first = candidates.add first :=
            if_pos (Hits.mem_entities_add.2 (Or.inr rfl))
          rw [addScope_of_region role opens, ok_bind, later, again, ite_self,
            if_pos List.mem_cons_self]
        · have isValue := besideHits.isValue isHit known opens (among List.mem_cons_self) same
          rw [addScope_of_isValue isValue, ok_bind, later]
          simp only [List.mem_cons, Ne.symm same, false_or]
  unfold scopeOf
  rw [folded hits.toList (List.Subset.refl _), if_pos isHit]
  rfl

/-- A class or namespace is the place of its body. -/
theorem placeOf_of_region {id : EntityId} {entity : Entity} {region : TableId}
    (known : store.entities.get? id = some entity) (opens : entity.kind.opensRegion = true)
    (body : entity.body = some region) : store.placeOf (some id) = .ok (some ⟨id, region⟩) := by
  have itself : regionEntity? id entity = some id := by
    unfold regionEntity?
    cases kind : entity.kind <;> rw [kind] at opens <;> first | rfl | cases opens
  unfold placeOf regionOf
  simp only [entity_eq_ok_iff.2 known, ok_bind, itself, if_pos opens, body]
  rfl

/-- Hits on a class or namespace lead to its body, and nothing is reported. -/
theorem enter_of_region {hits : Hits} {member : Bool} {hit : Hit} {entity : Entity}
    {region : TableId} (besideHits : store.BesideHits member hits) (isHit : hit ∈ hits.toList)
    (known : store.entities.get? hit.entity = some entity)
    (opens : entity.kind.opensRegion = true) (body : entity.body = some region)
    (mention : Mention) (log : DiagnosticLog) :
    store.enter mention hits log = (.ok (some ⟨hit.entity, region⟩), log) := by
  unfold enter
  rw [scopeOf_of_region besideHits isHit known opens]
  simp only [DiagnosticLog.settle, placeOf_of_region known opens body]

/-- A class or namespace whose body a lookup has come to is the next qualifier. -/
theorem addQualifier_of_body (linked : store.Linked) {owner : EntityId} {region : Entity}
    {inner : TableId} (found : store.entities.get? owner = some region)
    (body : region.body = some inner) (answer : QualifiedLookup) :
    store.addQualifier answer ⟨owner, inner⟩ =
      .ok { answer with qualifiers := answer.qualifiers ++ [owner] } := by
  obtain ⟨table, known, owned, -⟩ := linked.body owner region inner found body
  have notGlobal : table.kind ≠ .globalTable := by
    intro isGlobal
    rw [owner?_of_global isGlobal] at owned
    cases owned
  unfold addQualifier
  rw [table_eq_ok_iff.2 known, ok_bind, if_neg notGlobal]
  rfl

/-! ## The way inwards -/

/-- A class or namespace around an entity. -/
structure Enclosure where
  /-- The class or namespace. -/
  entity : EntityId
  /-- Its name. -/
  name : Name
  /-- Whether its body is that of a class. -/
  isClass : Bool
deriving DecidableEq, Repr, Inhabited

/-- The classes and namespaces around a table, outermost first, where there is nothing else between
the table and the global one. -/
inductive Enclosed (store : SymbolStore) : TableId → List Enclosure → Prop where
  /-- Nothing is around the global table. -/
  | outermost : Enclosed store store.global []
  /-- The body of a class or namespace is nested in a table. -/
  | within {id outer : TableId} {table : Table} {owner : EntityId} {entity : Entity}
      {enclosures : List Enclosure} (known : store.tables.get? id = some table)
      (isRegion : table.kind = .classTable ∨ table.kind = .namespaceTable)
      (owned : table.owner? = some owner) (found : store.entities.get? owner = some entity)
      (parent : table.parent? = some outer) (further : Enclosed store outer enclosures) :
      Enclosed store id (enclosures ++ [⟨owner, entity.name, table.kind == .classTable⟩])

/-- No class on the way to an entity has the name that follows it on the way, except that the last
one may have the name of its constructor. -/
def Unhidden (entity : Entity) : List Enclosure → Prop
  | [] => True
  | [last] =>
    last.isClass = true → (entity.kind.slot = .constructor ↔ entity.name = last.name)
  | outer :: inner :: rest =>
    (outer.isClass = true → inner.name ≠ outer.name) ∧ Unhidden entity (inner :: rest)

/-- The classes and namespaces on the way inwards from one table to another, outermost first. -/
inductive Leads (store : SymbolStore) : TableId → List Enclosure → TableId → Prop where
  /-- The way ends where it starts. -/
  | here {id : TableId} : Leads store id [] id
  /-- The way leads into the body of a class or namespace of the table. -/
  | inward {outer inner final : TableId} {enclosure : Enclosure} {rest : List Enclosure}
      {entity : Entity} {table : Table}
      (found : store.entities.get? enclosure.entity = some entity) (owner : entity.owner = outer)
      (opens : entity.kind.opensRegion = true) (body : entity.body = some inner)
      (name : entity.name = enclosure.name) (known : store.tables.get? inner = some table)
      (isClass : enclosure.isClass = (table.kind == .classTable))
      (further : Leads store inner rest final) : Leads store outer (enclosure :: rest) final

/-- A way goes on inwards from where it ends. -/
theorem Leads.trans {outer inner final : TableId} {first rest : List Enclosure}
    (leads : store.Leads outer first inner) (further : store.Leads inner rest final) :
    store.Leads outer (first ++ rest) final := by
  induction leads with
  | here => exact further
  | inward found owner opens body name known isClass _ ih =>
      exact .inward found owner opens body name known isClass (ih further)

/-- What the way of a lookup inwards relies on. -/
structure Navigable (store : SymbolStore) (limit : Nat) : Prop where
  /-- The links are sound. -/
  linked : store.Linked
  /-- Entities under one name stand beside each other. -/
  overloaded : store.Overloaded
  /-- All entities are in their places. -/
  catalogued : store.Catalogued fun _ => True
  /-- Lookups may be nested. -/
  deep : 1 ≤ limit
  /-- The global table has no peers. -/
  noPeers : ∀ table, store.tables.get? store.global = some table → table.peers = []

namespace Navigable

variable {limit : Nat} {id final : TableId} {enclosures outer : List Enclosure}

/-- The way from the global table to a table leads over the classes and namespaces around it. -/
theorem leads_of_enclosed (navigable : store.Navigable limit)
    (enclosed : store.Enclosed id enclosures) : store.Leads store.global enclosures id := by
  induction enclosed with
  | outermost => exact .here
  | @within id outer table owner entity enclosures known isRegion owned found parent _ ih =>
      have notLocal : table.kind.isLocal = false := by
        rcases isRegion with kind | kind <;> rw [kind] <;> rfl
      have notGlobal : id ≠ store.global := by
        rintro rfl
        obtain ⟨root, rootKnown, isGlobal⟩ := navigable.linked.global
        rw [known, Option.some.injEq] at rootKnown
        rcases isRegion with kind | kind <;> rw [rootKnown, isGlobal] at kind <;> cases kind
      obtain ⟨owner', entity', owned', found', body, opens⟩ :=
        navigable.linked.region_opens known notLocal notGlobal
      rw [owned, Option.some.injEq] at owned'
      subst owned'
      rw [found, Option.some.injEq] at found'
      subst found'
      -- The body is nested in the table that the class or namespace belongs to.
      have nested := navigable.catalogued.nested owner entity id table found body known
      rw [parent, Option.some.injEq] at nested
      exact ih.trans (.inward found nested.symm opens body rfl known rfl .here)

/-- Where the lookup of a chain has come: to the global table, or into a class or namespace. -/
inductive At (store : SymbolStore) : Option Place → TableId → List Enclosure → Prop where
  /-- No name has been looked up yet. -/
  | start : At store none store.global []
  /-- The last name led into the body of a class or namespace. -/
  | inside {inner : TableId} {enclosure : Enclosure} {entity : Entity} {table : Table}
      (found : store.entities.get? enclosure.entity = some entity)
      (name : entity.name = enclosure.name) (known : store.tables.get? inner = some table)
      (isClass : enclosure.isClass = (table.kind == .classTable)) :
      At store (some ⟨enclosure.entity, inner⟩) inner [enclosure]

/-- The hits on an entity, with others that stand beside it. -/
def Finds (store : SymbolStore) (hits : Hits) (id : EntityId) : Prop :=
  (∃ member, store.BesideHits member hits) ∧ ∃ hit ∈ hits.toList, hit.entity = id

variable (scopes : OpenScopes) {place : Option Place} {member : EntityId} {entity : Entity}
  {table : Table}

/-- The lookup of a name finds the entries of that name where it has come to, unless it is the name
of the class there. -/
theorem segmentLookup_of_entry (navigable : store.Navigable limit)
    (isAt : At store place id outer) (known : store.tables.get? id = some table)
    (found : store.entities.get? member = some entity)
    (notAlias : entity.kind.aliasedEntity? = none) (isEntry : member ∈ table.entries entity.name)
    (unhidden : ∀ enclosure ∈ outer, enclosure.isClass = true → entity.name ≠ enclosure.name) :
    ∃ hits, store.segmentLookup scopes limit (some store.global) place entity.name =
      .ok { hits } ∧ Finds store hits member := by
  have present : table.entries entity.name ≠ [] := List.ne_nil_of_mem isEntry
  obtain ⟨hits, hits_eq, besideHits⟩ := besideHits_of_pairwise navigable.linked known
    (table.entries_subset_listed entity.name)
    (navigable.overloaded.entries id table known entity.name)
  obtain ⟨hit, isHit, rfl⟩ := exists_hit_of_hitsOf navigable.linked known
    (table.entries_subset_listed entity.name) hits_eq isEntry
  have classified : store.classify hits = .ok { hits } :=
    classify_of_plain besideHits.nodup (besideHits.plain isHit found notAlias)
  refine ⟨hits, ?_, ⟨_, besideHits⟩, hit, isHit, rfl⟩
  cases isAt with
  | start =>
      have searched := findSymbol_of_entries (.start limit) known present
        (navigable.noPeers table known) hits_eq besideHits.nodup
      show store.resolve scopes (.start limit) .symbol (some store.global) entity.name = _
      unfold resolve lookIn
      simp only [searched, ok_bind, classified]
  | @inside _ enclosure owner table' ownerFound name known' isClass =>
      rw [known, Option.some.injEq] at known'
      subst known'
      have deeper : ∃ nesting, (Nesting.start limit).deeper = .ok nesting := by
        obtain ⟨levels, rfl⟩ := Nat.exists_eq_add_of_le' navigable.deep
        exact ⟨_, rfl⟩
      obtain ⟨nesting, deeper⟩ := deeper
      unfold segmentLookup memberOf
      simp only [deeper, ok_bind, entity_eq_ok_iff.2 ownerFound, table_eq_ok_iff.2 known]
      by_cases class_ : table.kind = .classTable
      · have other : ¬ owner.name = entity.name := by
          rw [name]
          exact (unhidden enclosure List.mem_cons_self (by rw [isClass, class_]; rfl)).symm
        rw [if_pos class_, if_neg other]
        simp only [classLookup, table_eq_ok_iff.2 known, ok_bind,
          members_of_own nesting (Or.inl present), hits_eq, classified]
      · rw [if_neg class_]
        simp only [findInScope, table_eq_ok_iff.2 known, ok_bind, hits_eq, classified]

/-- The lookup of the name of a class in its body finds its constructors. -/
theorem segmentLookup_of_constructor (navigable : store.Navigable limit) {enclosure : Enclosure}
    (isAt : At store place id [enclosure]) (known : store.tables.get? id = some table)
    (isClass : enclosure.isClass = true) (isConstructor : member ∈ table.constructors) :
    ∃ hits, store.segmentLookup scopes limit (some store.global) place enclosure.name =
      .ok { hits } ∧ Finds store hits member := by
  obtain ⟨hits, hits_eq, besideHits⟩ := besideHits_of_pairwise navigable.linked known
    table.constructors_subset_listed (navigable.overloaded.constructors id table known)
  refine ⟨hits, ?_, ⟨_, besideHits⟩, exists_hit_of_hitsOf navigable.linked known
    table.constructors_subset_listed hits_eq isConstructor⟩
  cases isAt with
  | @inside _ _ owner table' ownerFound name known' isClass' =>
      rw [known, Option.some.injEq] at known'
      subst known'
      have class_ : table.kind = .classTable := by
        rw [isClass] at isClass'
        simpa using isClass'.symm
      obtain ⟨levels, rfl⟩ := Nat.exists_eq_add_of_le' navigable.deep
      have looked : store.constructors id = .ok hits := by
        rw [SymbolStore.constructors, table_eq_ok_iff.2 known]
        exact hits_eq
      show store.memberOf _ _ enclosure.name = _
      unfold memberOf
      simp only [entity_eq_ok_iff.2 ownerFound, table_eq_ok_iff.2 known, ok_bind, if_pos class_,
        if_pos name, looked]
      rfl

/-- The lookup of the name of an entity finds it where the way to it ends. -/
theorem segmentLookup_of_member (navigable : store.Navigable limit)
    (isAt : At store place id outer) (known : store.tables.get? id = some table)
    (notFunction : table.function? = none) (found : store.entities.get? member = some entity)
    (owner : entity.owner = id) (notAlias : entity.kind.aliasedEntity? = none)
    (unhidden : Unhidden entity outer) :
    ∃ hits, store.segmentLookup scopes limit (some store.global) place entity.name =
      .ok { hits } ∧ Finds store hits member := by
  obtain ⟨table', known', lists⟩ := navigable.catalogued.listed member entity found trivial
  rw [owner, known, Option.some.injEq] at known'
  subst known'
  by_cases isMember : entity.kind.slot.isMember = true
  · -- What is a member has another name than the class, if it is in one.
    refine navigable.segmentLookup_of_entry scopes isAt known found notAlias
      (lists.mem_entries isMember) ?_
    intro enclosure isOuter isClass sameName
    cases isAt with
    | start => cases isOuter
    | inside =>
        rw [List.mem_singleton.1 isOuter] at isClass sameName
        rw [(unhidden isClass).2 sameName] at isMember
        cases isMember
  · cases slot : entity.kind.slot with
    | constructor =>
        rw [slot] at lists
        have isConstructor : member ∈ table.constructors := lists
        have class_ : table.kind = .classTable := by
          obtain ⟨form, members, peers⟩ := table
          cases form <;> first | rfl | cases isConstructor
        cases isAt with
        | start =>
            obtain ⟨root, rootKnown, isGlobal⟩ := navigable.linked.global
            rw [known, Option.some.injEq] at rootKnown
            rw [rootKnown, isGlobal] at class_
            cases class_
        | @inside _ enclosure _ table' ownerFound name known' isClass =>
            rw [known, Option.some.injEq] at known'
            have isClass : enclosure.isClass = true := by rw [isClass, ← known', class_]; rfl
            rw [(unhidden isClass).1 slot]
            exact navigable.segmentLookup_of_constructor scopes (.inside ownerFound name known (by
              rw [isClass, class_]; rfl)) known isClass isConstructor
    | parameter =>
        rw [slot, Table.Lists, Table.params, notFunction] at lists
        cases lists
    | label =>
        rw [slot, Table.Lists, Table.labels, notFunction] at lists
        cases lists
    | member => rw [slot] at isMember; exact absurd rfl isMember
    | destructor => rw [slot] at isMember; exact absurd rfl isMember
    | conversion => rw [slot] at isMember; exact absurd rfl isMember

/-- The next name on the way is not that of the class that the lookup has come to. -/
theorem unhidden_next {enclosure : Enclosure} {rest : List Enclosure}
    (isAt : At store place id outer) (unhidden : Unhidden entity (outer ++ enclosure :: rest)) :
    (∀ other ∈ outer, other.isClass = true → enclosure.name ≠ other.name) ∧
      Unhidden entity ([enclosure] ++ rest) := by
  cases isAt with
  | start => exact ⟨fun _ isOuter => (List.not_mem_nil isOuter).elim, unhidden⟩
  | inside =>
      refine ⟨fun other isOuter => ?_, unhidden.2⟩
      rw [List.mem_singleton.1 isOuter]
      exact unhidden.1

/-- A chain of the names on the way to an entity leads there over the classes and namespaces on the
way. -/
theorem followChain_of_leads (navigable : store.Navigable limit)
    (isAt : At store place id outer) (leads : store.Leads id enclosures final)
    (known : store.tables.get? final = some table) (notFunction : table.function? = none)
    (found : store.entities.get? member = some entity) (owner : entity.owner = final)
    (notAlias : entity.kind.aliasedEntity? = none) (unhidden : Unhidden entity (outer ++ enclosures))
    (mentions : List Mention)
    (names : mentions.map (·.name) = enclosures.map (·.name) ++ [entity.name])
    (start : QualifiedLookup) (log : DiagnosticLog) :
    ∃ hits, store.followChain scopes limit (some store.global) mentions place start log =
        (.ok { start with
          hits, qualifiers := start.qualifiers ++ enclosures.map (·.entity) }, log) ∧
      Finds store hits member := by
  induction leads generalizing place outer mentions start with
  | here =>
      obtain ⟨mention, rfl, name⟩ := List.map_eq_singleton_iff.1 names
      rw [List.append_nil] at unhidden
      obtain ⟨hits, looked, finds⟩ := navigable.segmentLookup_of_member scopes isAt known
        notFunction found owner notAlias unhidden
      refine ⟨hits, ?_, finds⟩
      unfold followChain
      simp only [name, looked, List.append_nil, List.map_nil, List.isEmpty_nil, if_true]
  | @inward outer' inner final enclosure rest region table' regionFound regionOwner opens body name
      innerKnown isClass further ih =>
      obtain ⟨mention, later, rfl, mentioned, laterNames⟩ := List.map_eq_cons_iff.1 names
      obtain ⟨distinct, unhidden⟩ := unhidden_next isAt unhidden
      obtain ⟨around, aroundKnown, lists⟩ :=
        navigable.catalogued.listed _ region regionFound trivial
      rw [regionOwner] at aroundKnown
      have plain : region.kind.aliasedEntity? = none ∧ region.kind.slot.isMember = true := by
        cases kind : region.kind <;> rw [kind] at opens <;> first | exact ⟨rfl, rfl⟩ | cases opens
      obtain ⟨hits, looked, ⟨member', besideHits⟩, hit, isHit, sameEntity⟩ :=
        navigable.segmentLookup_of_entry scopes isAt aroundKnown regionFound plain.1
          (lists.mem_entries plain.2) (by rw [name]; exact distinct)
      have entered := enter_of_region besideHits isHit (sameEntity ▸ regionFound) opens body mention
        log
      rw [sameEntity] at entered
      have notLast : later.isEmpty = false := by
        cases later with
        | nil => simp at laterNames
        | cons => rfl
      obtain ⟨last, followed, finds⟩ := ih (.inside regionFound name innerKnown isClass) known owner
        unhidden later laterNames
        { start with qualifiers := start.qualifiers ++ [enclosure.entity] }
      refine ⟨last, ?_, finds⟩
      rw [name] at looked
      unfold followChain
      simp only [mentioned, looked, notLast, entered, List.append_nil, Bool.false_eq_true, if_false,
        addQualifier_of_body navigable.linked regionFound body]
      rw [followed]
      simp only [List.map_cons, List.append_assoc, List.singleton_append]

end Navigable

end SymbolStore

end ScopeResolution

import ScopeResolution.Proofs.Lookup.PeerSearch
import ScopeResolution.Proofs.Resolver.MemberAccess

/-! # Hidden members

A class that declares a name itself hides what its bases declare under that name: the lookup in the
class stops at its own members. The search for a symbol, however, goes on to the tables that are
reached over peers, and a using directive may name a base of the very class it stands in. So the own
members always come first, everything after them is found over peers, and a member of a base is
among them only if a peer leads back to that base (`shadowing_of_run`). -/

namespace ScopeResolution

namespace SymbolStore

variable {store : SymbolStore} {name : Name} {nesting : Nesting}

/-! ## The table a search starts in -/

/-- A walk from one table visits that table first. -/
theorem VisitOrder.starts {id : TableId} {order : List TableId}
    (walk : store.VisitOrder [] [id] order) : ∃ rest, order = id :: rest := by
  cases walk with
  | skip again => exact absurd again List.not_mem_nil
  | @visit _ _ inner outer _ _ new known peers later => exact ⟨inner ++ outer, rfl⟩

/-- From a table without peers, no other table is reached. -/
theorem Reaches.eq_of_no_peers {id peer : TableId} (reaches : store.Reaches id peer)
    {table : Table} (known : store.tables.get? id = some table) (noPeers : table.peers = []) :
    peer = id := by
  rcases Relation.ReflTransGen.cases_head reaches with same | ⟨next, uses, -⟩
  · exact same.symm
  · obtain ⟨table', known', isPeer⟩ := uses
    rw [known, Option.some.injEq] at known'
    rw [← known', noPeers] at isPeer
    exact absurd isPeer List.not_mem_nil

/-- A search adds to the hits in the table it starts in. -/
theorem findSymbol_extends {id : TableId} {hits own : Hits}
    (success : store.findSymbol nesting id name = .ok hits)
    (looked : store.hitsIn nesting name id = .ok own) (distinct : own.entities.Nodup) :
    ∃ later, hits = own.extend later := by
  obtain ⟨order, results, walk, each, rfl⟩ := findSymbol_explores success
  obtain ⟨rest, rfl⟩ := walk.starts
  cases each with
  | @cons _ first _ others found each =>
      rw [looked, Except.ok.injEq] at found
      subst found
      refine ⟨others.flatMap (·.toList), ?_⟩
      rw [List.flatMap_cons, Hits.ofList, Hits.extend_append, Hits.extend_empty distinct]

/-- A search finds the hits in the table it starts in first, in their order. What it finds after
them are the further hits in the other tables that are reached. -/
theorem entities_findSymbol {id : TableId} {hits own : Hits}
    (success : store.findSymbol nesting id name = .ok hits)
    (looked : store.hitsIn nesting name id = .ok own) (distinct : own.entities.Nodup) :
    ∃ more, hits.entities = own.entities ++ more ∧
      ∀ member, member ∈ more ↔ member ∉ own.entities ∧
        ∃ peer found, peer ≠ id ∧ store.Reaches id peer ∧
          store.hitsIn nesting name peer = .ok found ∧ member ∈ found.entities := by
  obtain ⟨later, extended⟩ := findSymbol_extends success looked distinct
  obtain ⟨more, entities⟩ : ∃ more, hits.entities = own.entities ++ more :=
    ⟨_, by rw [extended, Hits.entities_extend]⟩
  have nodup : (own.entities ++ more).Nodup := by
    rw [← entities, extended]
    exact Hits.nodup_entities_extend distinct later
  refine ⟨more, entities, fun member => ?_⟩
  have mem_iff : member ∈ hits.entities ↔ _ := mem_findSymbol_iff success
  rw [entities, List.mem_append] at mem_iff
  constructor
  · intro isMore
    have notOwn : member ∉ own.entities := fun isOwn =>
      (List.nodup_append.1 nodup).2.2 member isOwn member isMore rfl
    obtain ⟨peer, found, reaches, foundIn, isHit⟩ := mem_iff.1 (Or.inr isMore)
    refine ⟨notOwn, peer, found, ?_, reaches, foundIn, isHit⟩
    -- In the first table, there are only the hits that come first.
    rintro rfl
    rw [looked, Except.ok.injEq] at foundIn
    exact notOwn (foundIn ▸ isHit)
  · rintro ⟨notOwn, peer, found, -, reaches, foundIn, isHit⟩
    exact (mem_iff.2 ⟨peer, found, reaches, foundIn, isHit⟩).resolve_left notOwn

/-- In the body of a class that has own members under a name, the hits are on these. -/
theorem hitsIn_of_own (linked : store.Linked) (distinct : store.DistinctEntries)
    (nesting : Nesting) {id : TableId} {table : Table} (known : store.tables.get? id = some table)
    (isClass : table.kind = .classTable) (own : table.entries name ≠ []) :
    ∃ hits, store.hitsIn nesting name id = .ok hits ∧ hits.entities = table.entries name := by
  obtain ⟨role, -, looked⟩ := linked.hitsOf_of_listed known (table.entries_subset_listed name)
  have hitsIn_eq : store.hitsIn nesting name id = store.hitsOf (table.entries name) := by
    unfold hitsIn classLookup
    rw [table_eq_ok_iff.2 known, ok_bind, if_pos isClass, ok_bind,
      members_of_own nesting (Or.inl own)]
  exact ⟨_, by rw [hitsIn_eq, looked], Hits.entities_ofList_map role (distinct id table known name)⟩

/-! ## Members of bases -/

/-- A class whose body lists a member under a name declares it. -/
theorem Declares.of_entries {class_ member : EntityId} (region : TableId)
    (body : (store.entities.get? class_).bind (·.body) = some region)
    (entries : (store.tables.get? region).map (fun table => (table.kind, table.entries name)) =
      some (.classTable, [member])) : store.Declares class_ name member := by
  obtain ⟨entity, known, isBody⟩ := Option.bind_eq_some_iff.1 body
  obtain ⟨table, tableKnown, shape⟩ := Option.map_eq_some_iff.1 entries
  obtain ⟨kind, entries_eq⟩ := Prod.mk.inj shape
  refine ⟨table, ⟨entity, region, known, isBody, tableKnown, kind⟩, ?_⟩
  rw [entries_eq]
  exact List.mem_singleton_self member

/-- A member is declared by one class only. -/
theorem Declares.unique (linked : store.Linked) {first second member : EntityId} {name' : Name}
    (declares : store.Declares first name member) (declares' : store.Declares second name' member) :
    first = second := by
  obtain ⟨entity, table, parent, body, known, owner, form⟩ := declares.owner linked
  obtain ⟨entity', table', parent', body', known', owner', form'⟩ := declares'.owner linked
  rw [known, Option.some.injEq] at known'
  subst known'
  rw [owner, Option.some.injEq] at owner'
  subst owner'
  rw [form] at form'
  injection form'

/-- Where a member of a class is hit, there is the body of that class or of one derived from it. -/
theorem inherits_of_hitsIn (linked : store.Linked) {id : TableId} {found : Hits}
    {declaring member : EntityId} (looked : store.hitsIn nesting name id = .ok found)
    (isHit : member ∈ found.entities) (declares : store.Declares declaring name member) :
    ∃ class_ entity, store.entities.get? class_ = some entity ∧ entity.body = some id ∧
      store.Inherits class_ declaring := by
  unfold hitsIn at looked
  obtain ⟨table, known, looked⟩ := bind_eq_ok_iff.1 looked
  rw [table_eq_ok_iff] at known
  by_cases isClass : table.kind = .classTable
  · rw [if_pos isClass] at looked
    have notGlobal : id ≠ store.global := by
      rintro rfl
      obtain ⟨root, rootKnown, isGlobal⟩ := linked.global
      rw [known, Option.some.injEq] at rootKnown
      rw [← rootKnown, isClass] at isGlobal
      cases isGlobal
    obtain ⟨class_, entity, -, classKnown, body⟩ :=
      linked.region id table known (by rw [isClass]; rfl) notGlobal
    obtain ⟨hit, hitListed, rfl⟩ := List.mem_map.1 isHit
    obtain ⟨⟨origin, inherits, originDeclares⟩, -⟩ :=
      declared_of_classLookup classKnown body known isClass looked hit hitListed
    rw [originDeclares.unique linked declares] at inherits
    exact ⟨class_, entity, classKnown, body, inherits⟩
  · -- Elsewhere, the hits belong to the table itself, which is the body of no class.
    exfalso
    rw [if_neg isClass, findInScope_eq_hitsOf known] at looked
    obtain ⟨hit, hitListed, rfl⟩ := List.mem_map.1 isHit
    have listed := (sees_of_hitsOf looked hit hitListed).1
    obtain ⟨entity, memberKnown, owner⟩ :=
      linked.listed id table known _ (table.entries_subset_listed name listed)
    obtain ⟨entity', table', parent, body, memberKnown', ownerKnown, form⟩ :=
      declares.owner linked
    rw [memberKnown, Option.some.injEq] at memberKnown'
    rw [← memberKnown', owner, known, Option.some.injEq] at ownerKnown
    rw [← ownerKnown] at form
    exact isClass (by unfold Table.kind; rw [form])

end SymbolStore

namespace Resolver

/-- No run makes a table list an entry twice under one name. -/
theorem distinctEntries_run (names : NamePool) (settings : Settings) (operations : List Operation) :
    ((Resolver.new names settings).run operations).store.DistinctEntries :=
  (run_keeps SymbolStore.DistinctEntries (sound_new names settings)
    (SymbolStore.distinctEntries_new names) operations
    fun _ sound distinct operation _ => step_keeps _ sound distinct operation
      (fun _ _ _ linked distinct _ edit => distinct.edit linked edit)
      fun _ _ _ _ _ distinct _ _ released => distinct.released released).2

/-- In every state that can be reached, a search that starts in a class with own members under a
name finds these first, in order. All else that it finds are the hits in other tables reached over
peers, so a member of another class, be it a base or not, is found only if one of these is the body
of that class or of a class derived from it. Without peers, the own members are all there is. -/
theorem shadowing_of_run (names : NamePool) (settings : Settings) (operations : List Operation) :
    let store := ((Resolver.new names settings).run operations).store
    ∀ (class_ : EntityId) (entity : Entity) (key : ClassKey) (isTemplate : Bool) (region : TableId)
        (table : Table) (name : Name) (nesting : Nesting) (hits : Hits),
      store.entities.get? class_ = some entity → entity.kind = .classDecl key isTemplate →
      entity.body = some region → store.tables.get? region = some table →
      table.entries name ≠ [] → store.findSymbol nesting region name = .ok hits →
        (∃ more, hits.entities = table.entries name ++ more ∧
          ∀ member, member ∈ more ↔ member ∉ table.entries name ∧
            ∃ peer found, peer ≠ region ∧ store.Reaches region peer ∧
              store.hitsIn nesting name peer = .ok found ∧ member ∈ found.entities) ∧
        (∀ base, base ≠ class_ → ∀ member ∈ hits.entities, store.Declares base name member →
          ∃ peer through derived, peer ≠ region ∧ store.Reaches region peer ∧
            store.entities.get? through = some derived ∧ derived.body = some peer ∧
            store.Inherits through base) ∧
        (table.peers = [] → hits.entities = table.entries name) := by
  intro store class_ entity key isTemplate region table name nesting hits known isClass body
    tableKnown own success
  obtain ⟨sound, embodied⟩ := embodied_run names settings operations
  have distinct := distinctEntries_run names settings operations
  have linked : store.Linked := sound.linked
  obtain ⟨_, regionKnown, kind⟩ := embodied.classTable known isClass body
  rw [tableKnown, Option.some.injEq] at regionKnown
  subst regionKnown
  obtain ⟨ownHits, looked, own_eq⟩ :=
    SymbolStore.hitsIn_of_own linked distinct nesting tableKnown kind own
  obtain ⟨more, entities, mem_more⟩ := SymbolStore.entities_findSymbol success looked
    (by rw [own_eq]; exact distinct region table tableKnown name)
  rw [own_eq] at entities
  simp only [own_eq] at mem_more
  refine ⟨⟨more, entities, mem_more⟩, ?_, ?_⟩
  · intro base differ member isHit declares
    rw [entities, List.mem_append] at isHit
    have isMore : member ∈ more := by
      refine isHit.resolve_left fun isOwn => differ ?_
      have ownDeclares : store.Declares class_ name member :=
        ⟨table, ⟨entity, region, known, body, tableKnown, kind⟩, isOwn⟩
      exact declares.unique linked ownDeclares
    obtain ⟨-, peer, found, apart, reaches, foundIn, isFound⟩ := (mem_more member).1 isMore
    obtain ⟨through, derived, throughKnown, isBody, inherits⟩ :=
      SymbolStore.inherits_of_hitsIn linked foundIn isFound declares
    exact ⟨peer, through, derived, apart, reaches, throughKnown, isBody, inherits⟩
  · intro noPeers
    have none : more = [] := by
      refine List.eq_nil_iff_forall_not_mem.2 fun member isMore => ?_
      obtain ⟨-, peer, found, apart, reaches, -⟩ := (mem_more member).1 isMore
      exact apart (reaches.eq_of_no_peers tableKnown noPeers)
    rw [entities, none, List.append_nil]

/-- An object with a name. -/
def objectDraft (name : Name) : Draft where
  name := name
  kind := .object .int .unwritten

/-- A class, a namespace, and a class that is derived from the first one, all with an object of one
name; a using directive in the derived class names the class or the namespace. -/
def deriveAndUse (used : EntityId) : List Operation :=
  [.intern "B", .intern "N", .intern "D", .intern "n",
    .declare { name := ⟨0⟩, kind := .classDecl .structKey false },
    .declareIn ⟨1, 0⟩ (objectDraft ⟨3⟩),
    .declare { name := ⟨1⟩, kind := .namespaceDecl }, .declareIn ⟨2, 0⟩ (objectDraft ⟨3⟩),
    .declare { name := ⟨2⟩, kind := .classDecl .structKey false },
    .addBase ⟨4, 0⟩ { entity := ⟨0, 0⟩ }, .declareIn ⟨3, 0⟩ (objectDraft ⟨3⟩),
    .openScope (.classBody ⟨4, 0⟩), .addUsing used]

/-- With the namespace, the objects of the derived class and of the namespace are found, and the one
of the base is hidden. -/
theorem shadowing_of_deriveAndUse :
    let store := ((Resolver.new {} {}).run (deriveAndUse ⟨2, 0⟩)).store
    ∃ hits, store.findSymbol (.start 8) ⟨3, 0⟩ ⟨3⟩ = .ok hits ∧
      hits.entities = [⟨5, 0⟩, ⟨3, 0⟩] ∧ store.Declares ⟨0, 0⟩ ⟨3⟩ ⟨1, 0⟩ ∧
      ∀ base, base ≠ ⟨4, 0⟩ → ∀ member ∈ hits.entities, store.Declares base ⟨3⟩ member →
        ∃ peer through derived, peer ≠ ⟨3, 0⟩ ∧ store.Reaches ⟨3, 0⟩ peer ∧
          store.entities.get? through = some derived ∧ derived.body = some peer ∧
          store.Inherits through base := by
  intro store
  have drafted : (store.entities.get? ⟨4, 0⟩).map
      (fun entity => (entity.kind.regionKind?, entity.body)) =
        some (some .classTable, some ⟨3, 0⟩) := by decide +kernel
  have filed : (store.tables.get? ⟨3, 0⟩).map (·.entries ⟨3⟩) = some [⟨5, 0⟩] := by
    decide +kernel
  obtain ⟨entity, known, shape⟩ := Option.map_eq_some_iff.1 drafted
  obtain ⟨kind, body⟩ := Prod.mk.inj shape
  obtain ⟨key, isTemplate, isClass⟩ := EntityKind.regionKind?_eq_classTable_iff.1 kind
  obtain ⟨table, tableKnown, entries⟩ := Option.map_eq_some_iff.1 filed
  have success : store.findSymbol (.start 8) ⟨3, 0⟩ ⟨3⟩ =
      .ok ⟨[⟨⟨5, 0⟩, .dataMember⟩, ⟨⟨3, 0⟩, .object⟩]⟩ := by decide +kernel
  obtain ⟨-, overPeers, -⟩ := shadowing_of_run {} {} (deriveAndUse ⟨2, 0⟩) ⟨4, 0⟩ entity key
    isTemplate ⟨3, 0⟩ table ⟨3⟩ (.start 8) _ known isClass body tableKnown (by simp [entries])
    success
  exact ⟨_, success, rfl, .of_entries ⟨1, 0⟩ (by decide +kernel) (by decide +kernel), overPeers⟩

/-- With the base, the object of the base is found behind that of the derived class, which does not
hide it. -/
theorem usedBase_not_hidden :
    let store := ((Resolver.new {} {}).run (deriveAndUse ⟨0, 0⟩)).store
    store.Declares ⟨4, 0⟩ ⟨3⟩ ⟨5, 0⟩ ∧ store.Inherits ⟨4, 0⟩ ⟨0, 0⟩ ∧
      store.Declares ⟨0, 0⟩ ⟨3⟩ ⟨1, 0⟩ ∧
      (store.entities.get? ⟨4, 0⟩).bind (·.body) = some ⟨3, 0⟩ ∧
      store.findSymbol (.start 8) ⟨3, 0⟩ ⟨3⟩ =
        .ok ⟨[⟨⟨5, 0⟩, .dataMember⟩, ⟨⟨1, 0⟩, .dataMember⟩]⟩ := by
  intro store
  have direct : ({ entity := ⟨0, 0⟩ } : Base) ∈ store.basesOf ⟨4, 0⟩ := by decide +kernel
  exact ⟨.of_entries ⟨3, 0⟩ (by decide +kernel) (by decide +kernel), ⟨_, .step direct (.here _)⟩,
    .of_entries ⟨1, 0⟩ (by decide +kernel) (by decide +kernel), by decide +kernel,
    by decide +kernel⟩

end Resolver

end ScopeResolution

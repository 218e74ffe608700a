import ScopeResolution.Proofs.Lookup.MemberOrigin
import ScopeResolution.Proofs.Lookup.RoundTrip
import ScopeResolution.Proofs.SymbolStore.Aliases

/-! # Classifying hits

Classifying puts what an alias stands for in the place of the alias, once: the target is not looked
at for being an alias itself. In a store that can be reached this is enough, because no alias is
declared for an alias, and the handle of a target that was released does not come to mean another
entity as long as generations do not repeat. So what comes out has no aliases, and classifying it
again changes nothing (`classification_of_run`). When generations repeat, an alias may come to stand
for a later one (`classification_after_wrap`). -/

namespace ScopeResolution.SymbolStore

variable {store : SymbolStore}

/-- What an alias stands for; none when the entity is no alias of another one. -/
def aliased? (store : SymbolStore) (id : EntityId) : Option EntityId := do
  let entity ← store.entities.get? id
  entity.kind.aliasedEntity?

/-- Whether an entity is an alias of another one. -/
def isAlias (store : SymbolStore) (id : EntityId) : Bool := (store.aliased? id).isSome

/-- The entity that is meant by another one: what an alias stands for, and itself otherwise. -/
def meaning (store : SymbolStore) (id : EntityId) : EntityId := (store.aliased? id).getD id

/-- What stands in the place of a hit once it is classified. -/
inductive StandsFor (store : SymbolStore) (hit : Hit) : Hit → Prop where
  /-- A hit on what is no alias stays as it is. -/
  | itself {entity : Entity} (known : store.entities.get? hit.entity = some entity)
      (notAlias : entity.kind.aliasedEntity? = none) : StandsFor store hit hit
  /-- A hit on an alias becomes one on its target, in the role of the target. -/
  | target {entity : Entity} {target : EntityId} {role : Role}
      (known : store.entities.get? hit.entity = some entity)
      (aliased : entity.kind.aliasedEntity? = some target) (seen : store.roleOf target = .ok role) :
      StandsFor store hit ⟨target, role⟩

/-- What stands in the place of a hit is on the entity that is meant. -/
theorem StandsFor.entity_eq {hit other : Hit} (stands : store.StandsFor hit other) :
    other.entity = store.meaning hit.entity := by
  cases stands with
  | itself known notAlias => simp [meaning, aliased?, known, notAlias]
  | target known aliased => simp [meaning, aliased?, known, aliased]

/-- Hits and what stands in their places are on entities and what is meant by them. -/
theorem map_entity_of_standFor {hits others : List Hit}
    (stand : List.Forall₂ store.StandsFor hits others) :
    others.map (·.entity) = (hits.map (·.entity)).map store.meaning := by
  induction stand with
  | nil => rfl
  | cons first rest ih =>
      rw [List.map_cons, List.map_cons, List.map_cons, ih, first.entity_eq]

/-- Following a hit adds what stands in its place, and the entity to the synonyms if it is an alias
that is not among them. -/
theorem follow_eq_ok {found next : Lookup} {hit : Hit}
    (followed : store.follow found hit = .ok next) :
    ∃ other, store.StandsFor hit other ∧ next.hits = found.hits.add other ∧
      next.synonyms =
        if store.isAlias hit.entity = true ∧ hit.entity ∉ found.synonyms then
          found.synonyms ++ [hit.entity]
        else found.synonyms := by
  unfold follow at followed
  obtain ⟨entity, known, followed⟩ := bind_eq_ok_iff.1 followed
  rw [entity_eq_ok_iff] at known
  cases aliased : entity.kind.aliasedEntity? with
  | none =>
      rw [aliased] at followed
      cases followed
      refine ⟨hit, .itself known aliased, rfl, ?_⟩
      simp [isAlias, aliased?, known, aliased]
  | some target =>
      rw [aliased] at followed
      obtain ⟨role, seen, followed⟩ := bind_eq_ok_iff.1 followed
      cases followed
      refine ⟨⟨target, role⟩, .target known aliased seen, rfl, ?_⟩
      by_cases present : hit.entity ∈ found.synonyms
      · simp [isAlias, aliased?, known, aliased, present]
      · simp [isAlias, aliased?, known, aliased, present]

/-- Following hits one after the other adds what stands in their places, and the aliases among them
to the synonyms. The synonyms are collected as the entities of hits are, so they are told here by
hits on them. -/
theorem foldlM_follow_eq_ok {list : List Hit} {found result : Lookup} {synonyms : Hits}
    (folded : list.foldlM store.follow found = .ok result)
    (collected : found.synonyms = synonyms.entities) :
    ∃ others, List.Forall₂ store.StandsFor list others ∧ result.hits = found.hits.extend others ∧
      result.synonyms =
        (synonyms.extend (list.filter fun hit => store.isAlias hit.entity)).entities := by
  induction list generalizing found synonyms with
  | nil =>
      cases folded
      exact ⟨[], .nil, rfl, collected⟩
  | cons hit rest ih =>
      rw [List.foldlM_cons] at folded
      obtain ⟨next, followed, folded⟩ := bind_eq_ok_iff.1 folded
      obtain ⟨other, stands, hits_eq, synonyms_eq⟩ := follow_eq_ok followed
      cases isAlias : store.isAlias hit.entity with
      | false =>
          have unchanged : next.synonyms = synonyms.entities := by
            rw [synonyms_eq, isAlias, if_neg (by simp), collected]
          obtain ⟨others, stand, more, allSynonyms⟩ := ih folded unchanged
          refine ⟨other :: others, .cons stands stand, ?_, ?_⟩
          · rw [more, hits_eq, Hits.extend_cons]
          · rw [allSynonyms, List.filter_cons_of_neg (by simp [isAlias])]
      | true =>
          have grown : next.synonyms = (synonyms.add hit).entities := by
            rw [synonyms_eq, isAlias, collected]
            unfold Hits.add
            by_cases present : hit.entity ∈ synonyms.entities
            · rw [if_neg (by simp [present]), if_pos present]
            · rw [if_pos ⟨rfl, present⟩, if_neg present]
              exact (@List.map_append _ _ Hit.entity synonyms.toList [hit]).symm
          obtain ⟨others, stand, more, allSynonyms⟩ := ih folded grown
          refine ⟨other :: others, .cons stands stand, ?_, ?_⟩
          · rw [more, hits_eq, Hits.extend_cons]
          · rw [allSynonyms, List.filter_cons_of_pos (by simpa using isAlias), Hits.extend_cons]

/-- Classifying hits collects what stands in their places, and the aliases among them. -/
theorem classify_eq_ok {raw : Hits} {found : Lookup} (classified : store.classify raw = .ok found) :
    ∃ others, List.Forall₂ store.StandsFor raw.toList others ∧ found.hits = .ofList others ∧
      found.synonyms =
        (Hits.ofList (raw.toList.filter fun hit => store.isAlias hit.entity)).entities :=
  @foldlM_follow_eq_ok _ _ _ _ .empty classified rfl

/-- When aliases stand for nothing but what is no alias, or for what is gone, what stands in the
place of a hit is no alias. -/
theorem StandsFor.standsAlone {hit other : Hit} (stands : store.StandsFor hit other)
    (lead : store.AliasesLead store.entities.Spent) (countable : store.entities.Countable) :
    store.StandsAlone other.entity := by
  cases stands with
  | itself known notAlias => exact ⟨_, known, notAlias⟩
  | @target _ target role known aliased seen =>
      rcases lead _ _ target known aliased with alone | spent
      · exact alone
      · -- The target was seen in a role, so it is there.
        obtain ⟨entity, -, there, -⟩ := kind_of_roleOf seen
        rw [spent.stale countable] at there
        cases there

/-- In every store that can be reached, the outcome of classifying hits is on what is meant by the
entities that were hit, each one once and in the order of the first hits, and the synonyms are the
aliases that were hit, each one once. As long as no slot for entities was released so often that
generations repeat, for which it takes as many operations as there are generations, the outcome has
no alias in it, and classifying it again changes nothing and finds no synonyms. -/
theorem classification_of_run (names : NamePool) (operations : List Operation) (raw : Hits)
    (found : Lookup)
    (classified : ((SymbolStore.new names).run operations).classify raw = .ok found) :
    let store := (SymbolStore.new names).run operations
    (∃ others, List.Forall₂ store.StandsFor raw.toList others ∧ found.hits = .ofList others) ∧
      found.hits.entities = (raw.entities.map store.meaning).eraseDups ∧
      found.hits.entities.Nodup ∧
      found.synonyms = (raw.entities.filter store.isAlias).eraseDups ∧ found.synonyms.Nodup ∧
      (operations.length < UInt32.size ∨ store.entities.Countable →
        (∀ id ∈ found.hits.entities, store.StandsAlone id) ∧
          store.classify found.hits = .ok { hits := found.hits }) := by
  intro store
  obtain ⟨others, stand, hits_eq, synonyms_eq⟩ := classify_eq_ok classified
  have distinct : found.hits.entities.Nodup := by
    rw [hits_eq]
    exact Hits.nodup_entities_ofList others
  refine ⟨⟨others, stand, hits_eq⟩, ?_, distinct, ?_, ?_, fun few => ?_⟩
  · rw [hits_eq, Hits.entities_ofList, map_entity_of_standFor stand, Hits.entities]
  · rw [synonyms_eq, Hits.entities_ofList, Hits.entities, List.filter_map]
    rfl
  · rw [synonyms_eq]
    exact Hits.nodup_entities_ofList _
  · have countable : store.entities.Countable := few.elim (countable_run names) id
    have alone : ∀ hit ∈ found.hits.toList, store.StandsAlone hit.entity := by
      intro hit isHit
      rw [hits_eq] at isHit
      have among : hit ∈ others := Hits.mem_ofList isHit
      obtain ⟨index, inBounds, rfl⟩ := List.mem_iff_getElem.1 among
      have stands := stand.get (stand.length_eq ▸ inBounds) inBounds
      exact stands.standsAlone (aliasesLead_run names operations) countable
    refine ⟨fun id isEntity => ?_, classify_of_plain distinct alone⟩
    obtain ⟨hit, isHit, rfl⟩ := List.mem_map.1 isEntity
    exact alone hit isHit

/-- A namespace and an alias of it. -/
def namespaceWithAlias : List Operation :=
  let root := (SymbolStore.new {}).global
  [.addEntity root { name := ⟨0⟩, kind := .namespaceDecl },
    .addEntity root { name := ⟨1⟩, kind := .namespaceAlias ⟨0, 0⟩ }]

/-- Hits on the alias and on its namespace are classified as one hit on the namespace, which stays
so when it is classified again. -/
theorem classification_of_namespaceWithAlias :
    let store := (SymbolStore.new {}).run namespaceWithAlias
    let raw : Hits := ⟨[⟨⟨1, 0⟩, .namespaceAlias⟩, ⟨⟨0, 0⟩, .namespaceRole⟩]⟩
    let found : Lookup := { hits := ⟨[⟨⟨0, 0⟩, .namespaceRole⟩]⟩, synonyms := [⟨1, 0⟩] }
    store.classify raw = .ok found ∧ namespaceWithAlias.length < UInt32.size ∧
      store.StandsAlone ⟨0, 0⟩ ∧ store.classify found.hits = .ok { hits := found.hits } := by
  intro store raw found
  have classified : store.classify raw = .ok found := by decide +kernel
  have short : namespaceWithAlias.length < UInt32.size := by decide
  obtain ⟨-, -, -, -, -, settled⟩ := classification_of_run {} namespaceWithAlias raw found classified
  obtain ⟨alone, again⟩ := settled (.inl short)
  exact ⟨classified, short, alone ⟨0, 0⟩ List.mem_cons_self, again⟩

/-! ## When generations repeat -/

/-- A function, an enumeration in its body and an alias of the enumeration; then the body is
released. -/
def aliasOfReleased : List Operation :=
  let root := (SymbolStore.new {}).global
  [.addEntity root { name := ⟨0⟩, kind := .function { type := DeclType.void.function {} } },
    .openFunction ⟨0, 0⟩,
    .addEntity ⟨1, 0⟩ { name := ⟨1⟩, kind := .enumDecl },
    .addEntity root { name := ⟨2⟩, kind := .alias (.entity ⟨1, 0⟩) },
    .removeTable ⟨1, 0⟩]

/-- A label outside of functions, which is refused. -/
def strayLabel : Operation := .addEntity (SymbolStore.new {}).global { name := ⟨3⟩, kind := .label }

/-- An alias of the function. -/
def laterAlias : Operation :=
  .addEntity (SymbolStore.new {}).global { name := ⟨4⟩, kind := .alias (.entity ⟨0, 0⟩) }

/-- An alias of an entity that is released, and another alias when the slot of the entity has come
round to the generation that the first alias names. -/
def aliasAfterWrap : List Operation :=
  aliasOfReleased ++ List.replicate (UInt32.size - 1) strayLabel ++ [laterAlias]

/-- The refused labels do nothing but use up the generations of the slot. -/
theorem run_aliasAfterWrap :
    (SymbolStore.new {}).run aliasAfterWrap =
      (((SymbolStore.new {}).run aliasOfReleased).emptied 1 UInt32.size).step laterAlias := by
  obtain ⟨root, known, outside⟩ :
      ∃ root, ((SymbolStore.new {}).run aliasOfReleased).table (SymbolStore.new {}).global
        = .ok root ∧ root.kind ≠ .functionTable := ⟨_, rfl, by decide +kernel⟩
  have rounds : ((SymbolStore.new {}).run aliasOfReleased).run
      (List.replicate (UInt32.size - 1) strayLabel) =
        ((SymbolStore.new {}).run aliasOfReleased).emptied 1 (1 + (UInt32.size - 1)) :=
    run_strayLabels known outside rfl rfl rfl _
  -- The rounds are counted by that lemma and never carried out.
  unfold run at rounds ⊢
  rw [aliasAfterWrap, List.foldl_append, List.foldl_append, rounds]
  rfl

/-- After so many releases of one slot that its generations repeat, an alias of an entity that was
released stands for a later alias: classifying what is found under its name gives that alias, and
classifying that again gives something else. -/
theorem classification_after_wrap :
    let store := (SymbolStore.new {}).run aliasAfterWrap
    let raw : Hits := ⟨[⟨⟨2, 0⟩, .typedef⟩]⟩
    let found : Lookup := { hits := ⟨[⟨⟨1, 0⟩, .typedef⟩]⟩, synonyms := [⟨2, 0⟩] }
    store.findInScope store.global ⟨2⟩ = .ok raw ∧ store.classify raw = .ok found ∧
      store.isAlias ⟨1, 0⟩ = true ∧
      store.classify found.hits =
        .ok { hits := ⟨[⟨⟨0, 0⟩, .function⟩]⟩, synonyms := [⟨1, 0⟩] } := by
  intro store raw found
  have reached : store =
      (((SymbolStore.new {}).run aliasOfReleased).emptied 1 UInt32.size).step laterAlias :=
    run_aliasAfterWrap
  rw [reached]
  decide +kernel

end ScopeResolution.SymbolStore

import ScopeResolution.Proofs.Lookup.RoundTrip
import ScopeResolution.Proofs.Resolver.ScopeStack
import ScopeResolution.Resolver.Querying

/-! # The names around an entity lead to it

In a run in which no draft is filed without being judged, every entity is in its place
(`catalogued_run`), so the chain of the names around an entity, read from the global table, stands
for that entity among others of its name, and its qualifiers stand for the classes and namespaces
around it. The main statement is `resolveQualified_of_enclosed`. -/

namespace ScopeResolution.Resolver

variable {resolver : Resolver}

/-- Every operation keeps entities in their places, if labels are not kept track of or the operation
judges what it files. -/
theorem catalogued_step (sound : resolver.store.Sound) {slots : EntrySlot → Prop}
    (catalogued : resolver.store.Catalogued slots) {operation : Operation}
    (checked : slots .label → operation.isUnchecked = false) :
    (resolver.step operation).store.Catalogued slots := by
  rcases store_of_step sound operation with edits | ⟨-, closed, released⟩
  · have both := edits.preserve (fun now => now.Linked ∧ now.Catalogued slots)
      ⟨sound.linked, catalogued⟩ fun before change after holds files edit => by
        refine ⟨holds.1.edit edit, holds.2.edit holds.1 edit fun hasLabels => ?_⟩
        cases change with
        | file target draft id =>
            intro isLabel table known
            exact SymbolStore.label?_of_accepted
              (Operation.accepted_of_files (checked hasLabels) (files target draft id rfl)) isLabel
              known
        | _ => trivial
    exact both.2
  · exact catalogued.released released

/-- Every run keeps entities in their places, if labels are not kept track of or all operations
judge what they file. -/
theorem catalogued_run (sound : resolver.store.Sound) {slots : EntrySlot → Prop}
    (catalogued : resolver.store.Catalogued slots) {operations : List Operation}
    (checked : slots .label → ∀ operation ∈ operations, operation.isUnchecked = false) :
    (resolver.run operations).store.Catalogued slots :=
  (run_keeps (·.Catalogued slots) sound catalogued operations
    fun _ sound catalogued operation listed => catalogued_step sound catalogued fun hasLabels =>
      checked hasLabels operation listed).2

/-- The table of an entity that nothing but classes and namespaces are around is no table of a
function. -/
theorem function?_of_enclosed {store : SymbolStore} (linked : store.Linked) {id : TableId}
    {enclosures : List SymbolStore.Enclosure} (enclosed : store.Enclosed id enclosures) :
    ∃ table, store.tables.get? id = some table ∧ table.function? = none := by
  have notFunction {table : Table} (other : table.kind ≠ .functionTable) :
      table.function? = none := by
    obtain ⟨form, members, peers⟩ := table
    cases form <;> first | rfl | exact absurd rfl other
  cases enclosed with
  | outermost =>
      obtain ⟨root, known, isGlobal⟩ := linked.global
      exact ⟨root, known, notFunction (by rw [isGlobal]; decide)⟩
  | @within _ _ table _ _ _ known isRegion =>
      refine ⟨table, known, notFunction ?_⟩
      rcases isRegion with kind | kind <;> rw [kind] <;> decide

/-- The names around an entity lead to it: after a run in which no draft is filed without being
judged, the global-qualified chain of the names of the classes and namespaces around an entity, with
the name of the entity at its end, stands for the entity. The qualifiers are those classes and
namespaces, and nothing is reported. The entity is no alias of another entity, and no class on the
way has the name that follows it, unless that is its constructor. -/
theorem resolveQualified_of_enclosed (names : NamePool) (settings : Settings)
    (operations : List Operation) (resolver : Resolver) (id : EntityId) (entity : Entity)
    (enclosures : List SymbolStore.Enclosure) (segments : List Mention) (start : Option TableId)
    (reached : resolver = (Resolver.new names settings).run operations)
    (checked : ∀ operation ∈ operations, operation.isUnchecked = false)
    (deep : 1 ≤ resolver.settings.maxDepth)
    (noPeers : ∀ table, resolver.store.tables.get? resolver.store.global = some table →
      table.peers = [])
    (found : resolver.store.entities.get? id = some entity)
    (notAlias : entity.kind.aliasedEntity? = none)
    (enclosed : resolver.store.Enclosed entity.owner enclosures)
    (unhidden : SymbolStore.Unhidden entity enclosures)
    (spelled : segments.map (·.name) = enclosures.map (·.name) ++ [entity.name]) :
    ∃ answer, resolver.resolveQualified { isGlobal := true, segments } start =
        (.ok answer, resolver) ∧
      answer.qualifiers = enclosures.map (·.entity) ∧ id ∈ answer.hits.entities := by
  have checked_run := overloaded_run (sound_new names settings) (SymbolStore.overloaded_new names)
    checked
  have catalogued := catalogued_run (sound_new names settings)
    (SymbolStore.catalogued_new names fun _ => True) fun _ => checked
  rw [← reached] at checked_run catalogued
  have navigable : resolver.store.Navigable resolver.settings.maxDepth :=
    ⟨checked_run.1.linked, checked_run.2, catalogued, deep, noPeers⟩
  obtain ⟨table, known, notFunction⟩ := function?_of_enclosed navigable.linked enclosed
  obtain ⟨hits, followed, -, hit, isHit, same⟩ := navigable.followChain_of_leads
    resolver.scopes .start (navigable.leads_of_enclosed enclosed) known notFunction
    found rfl notAlias unhidden segments spelled {} resolver.log
  refine ⟨{ hits, qualifiers := enclosures.map (·.entity) }, ?_, rfl,
    List.mem_map.2 ⟨hit, isHit, same⟩⟩
  unfold resolveQualified SymbolStore.resolveQualified
  simp only [if_true, followed]
  rfl

/-- A namespace with a class, which has a constructor, a data member and an inner class of the name
of the namespace. -/
def declareNested : List Operation :=
  [.intern "N", .intern "C", .intern "m", .declare { name := ⟨0⟩, kind := .namespaceDecl },
    .openScope (.namespaceBody ⟨0, 0⟩),
    .declare { name := ⟨1⟩, kind := .classDecl .structKey false }, .openScope (.classBody ⟨1, 0⟩),
    .declare {
      name := ⟨1⟩
      kind := .function { type := DeclType.void.function {}, form := .constructor } },
    .declare { name := ⟨2⟩, kind := .object .int .unwritten },
    .declare { name := ⟨0⟩, kind := .classDecl .structKey false }]

/-- The chain of three names leads to the constructor of the class in the namespace. -/
theorem resolveQualified_of_constructor :
    let resolver := (Resolver.new {} {}).run declareNested
    ∃ answer, resolver.resolveQualified
        { isGlobal := true, segments := [{ name := ⟨0⟩ }, { name := ⟨1⟩ }, { name := ⟨1⟩ }] } none =
        (.ok answer, resolver) ∧
      answer.qualifiers = [⟨0, 0⟩, ⟨1, 0⟩] ∧ ⟨2, 0⟩ ∈ answer.hits.entities := by
  intro resolver
  obtain ⟨entity, found, facts⟩ := Option.map_eq_some_iff.1 (show
    (resolver.store.entities.get? ⟨2, 0⟩).map (fun entity =>
      (entity.name, entity.owner, entity.kind.slot, entity.kind.aliasedEntity?)) =
      some (⟨1⟩, ⟨2, 0⟩, .constructor, none) by decide +kernel)
  obtain ⟨namespace_, namespaceFound, namespaceName⟩ := Option.map_eq_some_iff.1
    (show (resolver.store.entities.get? ⟨0, 0⟩).map (·.name) = some ⟨0⟩ by decide +kernel)
  obtain ⟨class_, classFound, className⟩ := Option.map_eq_some_iff.1
    (show (resolver.store.entities.get? ⟨1, 0⟩).map (·.name) = some ⟨1⟩ by decide +kernel)
  obtain ⟨outer, outerKnown, outerFacts⟩ := Option.map_eq_some_iff.1
    (show (resolver.store.tables.get? ⟨1, 0⟩).map (fun table =>
        (table.kind, table.owner?, table.parent?)) =
      some (.namespaceTable, some ⟨0, 0⟩, some resolver.store.global) by decide +kernel)
  obtain ⟨inner, innerKnown, innerFacts⟩ := Option.map_eq_some_iff.1
    (show (resolver.store.tables.get? ⟨2, 0⟩).map (fun table =>
        (table.kind, table.owner?, table.parent?)) =
      some (.classTable, some ⟨1, 0⟩, some ⟨1, 0⟩) by decide +kernel)
  simp only [Prod.mk.injEq] at facts outerFacts innerFacts
  have enclosed := SymbolStore.Enclosed.within innerKnown (Or.inl innerFacts.1) innerFacts.2.1
    classFound innerFacts.2.2 (.within outerKnown (Or.inr outerFacts.1) outerFacts.2.1
      namespaceFound outerFacts.2.2 .outermost)
  rw [← facts.2.1, className, namespaceName, outerFacts.1, innerFacts.1] at enclosed
  refine resolveQualified_of_enclosed {} {} declareNested resolver ⟨2, 0⟩ entity _ _ none rfl
    (by decide +kernel) (by decide +kernel) ?_ found facts.2.2.2 enclosed ?_ ?_
  · intro table known
    obtain ⟨root, rootKnown, noPeers⟩ := Option.map_eq_some_iff.1
      (show (resolver.store.tables.get? resolver.store.global).map (·.peers) = some [] by
        decide +kernel)
    rw [known, Option.some.injEq] at rootKnown
    rw [rootKnown, noPeers]
  · exact ⟨fun same => absurd same (by decide), fun _ => ⟨fun _ => facts.1, fun _ => facts.2.2.1⟩⟩
  · rw [facts.1]
    rfl

end ScopeResolution.Resolver

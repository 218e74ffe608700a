import Mathlib.Data.List.Pairwise
import ScopeResolution.Proofs.Declaration.Coexistence
import ScopeResolution.Proofs.Resolver.Operation

/-! # Overload sets

What may be declared under one name of one table, when every draft is judged before it is filed. The
entities under a name stand beside each other two by two, and so do the constructors of a class
(`Overloaded`). Filing an accepted draft preserves this, and so does everything else that happens
to a store (`overloaded_step`); the main statement `overloads_of_run` reads off it what a lookup can
find. -/

namespace ScopeResolution

namespace SymbolStore

/-- Two entities stand beside each other, if both are there. -/
def Beside (store : SymbolStore) (member : Bool) (first second : EntityId) : Prop :=
  ∀ entity entity', store.entities.get? first = some entity →
    store.entities.get? second = some entity' →
      EntityKind.Coexist member entity.kind entity'.kind

/-- Standing beside each other is mutual. -/
theorem Beside.symm {store : SymbolStore} {member : Bool} {first second : EntityId}
    (beside : store.Beside member first second) : store.Beside member second first :=
  fun entity entity' known known' => (beside entity' entity known' known).symm

/-- The entities that tables list under one name stand beside each other. -/
structure Overloaded (store : SymbolStore) : Prop where
  /-- The own entries under a name do. -/
  entries : ∀ id table, store.tables.get? id = some table → ∀ name,
    (table.entries name).Pairwise (store.Beside (table.kind == .classTable))
  /-- The constructors do. -/
  constructors : ∀ id table, store.tables.get? id = some table →
    table.constructors.Pairwise (store.Beside (table.kind == .classTable))

/-! ## Entries in a relation -/

/-- Two entities are of kinds in a relation, if both are there. -/
def Related (store : SymbolStore) (relation : EntityKind → EntityKind → Prop)
    (first second : EntityId) : Prop :=
  ∀ entity entity', store.entities.get? first = some entity →
    store.entities.get? second = some entity' → relation entity.kind entity'.kind

/-- The entities that a table lists under one name are of kinds in a relation, each with those
after it. Which relation it is depends on the kind of the table. -/
def RelatedEntries (store : SymbolStore)
    (relation : TableKind → EntityKind → EntityKind → Prop) : Prop :=
  ∀ id table, store.tables.get? id = some table → ∀ name,
    (table.entries name).Pairwise (store.Related (relation table.kind))

variable {before after : SymbolStore}

/-- In the store that holds nothing but the global table, any list is in any relation. -/
theorem pairwise_related_new (names : NamePool) (relation : EntityKind → EntityKind → Prop)
    (list : List EntityId) : list.Pairwise ((SymbolStore.new names).Related relation) := by
  refine List.pairwise_of_forall ?_
  intro first second entity entity' known
  rw [show (SymbolStore.new names).entities.get? first = none from Arena.get?_empty first] at known
  cases known

/-- Entities that are what they were are in the relation that they were in. -/
theorem pairwise_related_of_kept {relation : EntityKind → EntityKind → Prop}
    {list : List EntityId} (pairwise : list.Pairwise (before.Related relation))
    (kept : ∀ id ∈ list, ∀ later, after.entities.get? id = some later →
      ∃ entity, before.entities.get? id = some entity ∧ later.kind = entity.kind) :
    list.Pairwise (after.Related relation) := by
  refine pairwise.imp_of_mem fun {first second} firstListed secondListed related => ?_
  intro later later' known known'
  obtain ⟨entity, old, kind⟩ := kept first firstListed later known
  obtain ⟨entity', old', kind'⟩ := kept second secondListed later' known'
  rw [kind, kind']
  exact related entity entity' old old'

/-- After an edit, what a table listed before is what it was. -/
theorem Edit.listed_kept {change : Change} (linked : before.Linked)
    (edit : Edit before change after) {id : TableId} {table : Table}
    (known : before.tables.get? id = some table) {member : EntityId}
    (listed : member ∈ table.listed) {later : Entity}
    (found : after.entities.get? member = some later) :
    ∃ entity, before.entities.get? member = some entity ∧ later.kind = entity.kind := by
  obtain ⟨entity, old, -⟩ := linked.listed id table known member listed
  obtain ⟨kept, keptFound, altered⟩ := edit.entity_later old
  rw [found, Option.some.injEq] at keptFound
  exact ⟨entity, old, by rw [keptFound, altered.kind_eq]⟩

/-- A draft at the end of a list is in the relation to all that it joins. -/
theorem Edit.pairwise_append {change : Change} (linked : before.Linked)
    (edit : Edit before change after) {relation : EntityKind → EntityKind → Prop}
    {target : TableId} {draft : Draft} {id : EntityId} {table : Table}
    (known : before.tables.get? target = some table)
    (created : after.entities.get? id = some (draft.toEntity target)) {members : List EntityId}
    (listed : members ⊆ table.listed)
    (joins : ∀ member ∈ members, ∀ entity, before.entities.get? member = some entity →
      relation entity.kind draft.kind)
    (pairwise : members.Pairwise (before.Related relation)) :
    (members ++ [id]).Pairwise (after.Related relation) := by
  have kept (member : EntityId) (isMember : member ∈ members) (later : Entity)
      (found : after.entities.get? member = some later) :=
    edit.listed_kept linked known (listed isMember) found
  refine List.pairwise_append.2 ⟨pairwise_related_of_kept pairwise kept,
    List.pairwise_singleton _ _, fun member isMember new isNew => ?_⟩
  -- The new entity is the draft, and the others are what they were.
  rw [List.mem_singleton.1 isNew]
  intro entity entity' found found'
  rw [created, Option.some.injEq] at found'
  obtain ⟨old, oldFound, kind⟩ := kept member isMember entity found
  rw [kind, ← found']
  exact joins member isMember old oldFound

/-- A draft that is neither a constructor nor a label is judged against the own entries of its
name. -/
theorem priorDeclarations_of_entries {target : TableId} {draft : Draft} {table : Table}
    (known : before.tables.get? target = some table)
    (notConstructor : draft.kind.slot ≠ .constructor) (notLabel : draft.kind.slot ≠ .label) :
    before.priorDeclarations target draft = before.hitsOf (table.entries draft.name) := by
  unfold priorDeclarations
  split
  · exact absurd ‹_› notConstructor
  · exact absurd ‹_› notLabel
  · exact findInScope_eq_hitsOf known _

/-- A constructor is judged against the constructors of the class. -/
theorem priorDeclarations_of_constructor {target : TableId} {draft : Draft} {table : Table}
    (known : before.tables.get? target = some table)
    (isConstructor : draft.kind.slot = .constructor) :
    before.priorDeclarations target draft = before.hitsOf table.constructors := by
  unfold priorDeclarations
  rw [isConstructor]
  show before.constructors target = _
  rw [SymbolStore.constructors, table_eq_ok_iff.2 known]
  rfl

namespace RelatedEntries

variable {relation : TableKind → EntityKind → EntityKind → Prop}

/-- An edit keeps the entries under one name in a relation, if the drafts that it files are accepted
and an accepted draft is in the relation to the entries of its name. -/
theorem edit (related : before.RelatedEntries relation) (linked : before.Linked) {change : Change}
    (edit : Edit before change after)
    (accepted : ∀ target draft id, change = .file target draft id → before.Accepted target draft)
    (joins : ∀ target draft table, before.tables.get? target = some table →
      before.priorDeclarations target draft = before.hitsOf (table.entries draft.name) →
      before.Accepted target draft → ∀ member ∈ table.entries draft.name, ∀ entity,
        before.entities.get? member = some entity → relation table.kind entity.kind draft.kind) :
    after.RelatedEntries relation := by
  intro id table found name
  rcases edit.entries_origin found name with none | ⟨old, known, kind, origin⟩
  · rw [none]
    exact List.Pairwise.nil
  · rw [kind]
    have listed := old.entries_subset_listed name
    rcases origin with same | ⟨draft, new, rfl, rfl, notConstructor, notLabel, appended | alone⟩
    · rw [same]
      exact pairwise_related_of_kept (related id old known name) fun _ isMember _ =>
        edit.listed_kept linked known (listed isMember)
    · -- The draft was judged against the entries that it joins.
      rw [appended]
      exact edit.pairwise_append linked known edit.filed.2 listed
        (joins id draft old known (priorDeclarations_of_entries known notConstructor notLabel)
          (accepted id draft new rfl)) (related id old known draft.name)
    · -- A member hides the parameters of its name.
      rw [alone]
      exact List.pairwise_singleton _ _

/-- Releasing a table keeps the entries under one name in a relation. -/
theorem released (related : before.RelatedEntries relation) {id : TableId}
    (released : Released before id after) : after.RelatedEntries relation := by
  intro other table found name
  refine pairwise_related_of_kept (related other table (released.table_left found).1 name)
    fun member _ later memberFound => ?_
  obtain ⟨old, known, rfl, -⟩ := released.entity_left memberFound
  exact ⟨old, known, Entity.forget_kind old id⟩

end RelatedEntries

/-- In the store that holds nothing but the global table, there is nothing to stand beside. -/
theorem overloaded_new (names : NamePool) : (SymbolStore.new names).Overloaded :=
  ⟨fun _ _ _ _ => pairwise_related_new names _ _, fun _ _ _ => pairwise_related_new names _ _⟩

namespace Overloaded

/-- Standing beside each other is a relation between the kinds of the entries. -/
theorem relatedEntries {store : SymbolStore} (overloaded : store.Overloaded) :
    store.RelatedEntries fun kind => EntityKind.Coexist (kind == .classTable) :=
  overloaded.entries

/-- Every edit preserves that entities under one name stand beside each other, if the drafts that it
files are accepted. -/
theorem edit (overloaded : before.Overloaded) (linked : before.Linked) {change : Change}
    (edit : Edit before change after)
    (accepted : ∀ target draft id, change = .file target draft id →
      before.Accepted target draft) : after.Overloaded := by
  constructor
  · exact overloaded.relatedEntries.edit linked edit accepted
      fun _ draft table known looked accepted _ isMember _ =>
        coexist_of_accepted linked known (table.entries_subset_listed draft.name) looked accepted
          isMember
  · intro id table found
    rcases edit.constructors_origin found with none | ⟨old, known, kind, origin⟩
    · rw [none]
      exact List.Pairwise.nil
    · rw [kind]
      have listed := old.constructors_subset_listed
      have pairwise := overloaded.constructors id old known
      rcases origin with same | ⟨draft, new, rfl, isConstructor, appended⟩
      · rw [same]
        exact pairwise_related_of_kept pairwise fun _ isMember _ =>
          edit.listed_kept linked known (listed isMember)
      · rw [appended]
        exact edit.pairwise_append linked known edit.filed.2 listed
          (fun _ isMember _ => coexist_of_accepted linked known listed
            (priorDeclarations_of_constructor known isConstructor)
            (accepted id draft new rfl) isMember) pairwise

/-- Releasing a table preserves that entities under one name stand beside each other. -/
theorem released (overloaded : before.Overloaded) {id : TableId}
    (released : Released before id after) : after.Overloaded := by
  refine ⟨overloaded.relatedEntries.released released, fun other table found => ?_⟩
  refine pairwise_related_of_kept (overloaded.constructors other table
    (released.table_left found).1) fun member _ later memberFound => ?_
  obtain ⟨old, known, rfl, -⟩ := released.entity_left memberFound
  exact ⟨old, known, Entity.forget_kind old id⟩

end Overloaded

/-! ## What lookups find -/

/-- Of the functions among some hits, no two of one role have the same parameters and the same
qualifiers. -/
def DistinctOverloads (store : SymbolStore) (hits : Hits) : Prop :=
  ∀ first ∈ hits.toList, ∀ second ∈ hits.toList, first.entity ≠ second.entity →
    first.role = second.role → first.role.isFunctionLike = true →
      ∀ entity entity' type signature type' signature',
        store.entities.get? first.entity = some entity →
        store.entities.get? second.entity = some entity' →
        entity.kind.callable? = some (type, signature) →
        entity'.kind.callable? = some (type', signature') →
          ¬ (signature.sameParameters signature' = true ∧
            signature.qualifiers = signature'.qualifiers)

/-- Hits that may be declared under one name of one table. -/
structure OverloadSet (store : SymbolStore) (hits : Hits) : Prop where
  /-- At most one of them is a type. -/
  one_type : ∀ first ∈ hits.toList, ∀ second ∈ hits.toList, first.role.isType = true →
    second.role.isType = true → first = second
  /-- The values are all functions, or there is one value. -/
  values : (∀ hit ∈ hits.toList, hit.role.isValue = true → hit.role.isFunctionLike = true) ∨
    ∃ only ∈ hits.toList, ∀ hit ∈ hits.toList, hit.role.isValue = true → hit = only
  /-- What is neither a type nor a value is alone. -/
  alone : ∀ hit ∈ hits.toList, hit.role.isType = false → hit.role.isValue = false →
    hits.toList = [hit]
  /-- The functions are different overloads. -/
  overloads : store.DistinctOverloads hits

/-- Hits on entities that stand beside each other, each with its role. -/
structure BesideHits (store : SymbolStore) (member : Bool) (hits : Hits) : Prop where
  /-- No entity is hit twice. -/
  nodup : hits.entities.Nodup
  /-- A hit has the role of its entity. -/
  role_eq : ∀ hit ∈ hits.toList, ∃ entity, store.entities.get? hit.entity = some entity ∧
    hit.role = entity.kind.role member
  /-- Two hits are on entities that stand beside each other. -/
  beside : ∀ first ∈ hits.toList, ∀ second ∈ hits.toList, first ≠ second →
    store.Beside member first.entity second.entity

variable {store : SymbolStore}

/-- The hits on a list of entities that stand beside each other. -/
theorem besideHits_of_pairwise (linked : store.Linked) {id : TableId} {table : Table}
    (known : store.tables.get? id = some table) {members : List EntityId}
    (listed : members ⊆ table.listed)
    (pairwise : members.Pairwise (store.Beside (table.kind == .classTable))) :
    ∃ hits, store.hitsOf members = .ok hits ∧
      store.BesideHits (table.kind == .classTable) hits := by
  obtain ⟨roles, roles_eq, hits_eq⟩ := linked.hitsOf_of_listed known listed
  have nodup := Hits.nodup_entities_ofList
    (members.map fun member => (⟨member, roles member⟩ : Hit))
  have member_of {hit : Hit}
      (found : hit ∈ (Hits.ofList (members.map fun member => ⟨member, roles member⟩)).toList) :
      hit.entity ∈ members ∧ hit.role = roles hit.entity := by
    obtain ⟨member, isMember, rfl⟩ := List.mem_map.1 (Hits.mem_ofList found)
    exact ⟨isMember, rfl⟩
  refine ⟨_, hits_eq, nodup, ?_, ?_⟩
  · intro hit found
    obtain ⟨isMember, role⟩ := member_of found
    obtain ⟨entity, entityKnown, owner⟩ := linked.listed id table known _ (listed isMember)
    have seen := roleOf_eq_ok entityKnown (by rw [owner, known])
    rw [roles_eq _ isMember, Except.ok.injEq] at seen
    exact ⟨entity, entityKnown, by rw [role, seen]⟩
  · -- Standing beside each other is mutual, so the order in the list does not matter.
    intro first firstFound second secondFound differ
    have entities_differ : first.entity ≠ second.entity := fun same =>
      differ (Hits.eq_of_entity_eq nodup firstFound secondFound same)
    have mutual_ : Std.Symm (store.Beside (table.kind == .classTable)) := ⟨fun _ _ => Beside.symm⟩
    exact pairwise.forall (member_of firstFound).1 (member_of secondFound).1 entities_differ

/-- What a draft is judged against stands beside each other, unless that is a label. -/
theorem Overloaded.besideHits_of_ne_label (overloaded : store.Overloaded) (linked : store.Linked)
    {target : TableId} {draft : Draft} (notLabel : draft.kind.slot ≠ .label) {table : Table}
    (known : store.tables.get? target = some table) :
    ∃ prior, store.priorDeclarations target draft = .ok prior ∧
      store.BesideHits (table.kind == .classTable) prior := by
  by_cases isConstructor : draft.kind.slot = .constructor
  · rw [priorDeclarations_of_constructor known isConstructor]
    exact besideHits_of_pairwise linked known table.constructors_subset_listed
      (overloaded.constructors target table known)
  · rw [priorDeclarations_of_entries known isConstructor notLabel]
    exact besideHits_of_pairwise linked known (table.entries_subset_listed draft.name)
      (overloaded.entries target table known draft.name)

namespace BesideHits

variable {hits : Hits} {member : Bool}

/-- Two hits are on entities of kinds that stand beside each other. -/
theorem coexist (besideHits : store.BesideHits member hits) {first second : Hit}
    (firstFound : first ∈ hits.toList) (secondFound : second ∈ hits.toList)
    (differ : first ≠ second) :
    ∃ entity entity', store.entities.get? first.entity = some entity ∧
      store.entities.get? second.entity = some entity' ∧
      first.role = entity.kind.role member ∧ second.role = entity'.kind.role member ∧
      EntityKind.Coexist member entity.kind entity'.kind := by
  obtain ⟨entity, known, role⟩ := besideHits.role_eq first firstFound
  obtain ⟨entity', known', role'⟩ := besideHits.role_eq second secondFound
  exact ⟨entity, entity', known, known', role, role',
    besideHits.beside first firstFound second secondFound differ entity entity' known known'⟩

/-- The functions among them are different overloads. -/
theorem distinctOverloads (besideHits : store.BesideHits member hits) :
    store.DistinctOverloads hits := by
  intro first firstFound second secondFound differ sameRole _ entity entity' type signature type'
    signature' known known' callable callable'
  have hits_differ : first ≠ second := fun same => differ (by rw [same])
  obtain ⟨found, found', foundKnown, foundKnown', role, role', coexist⟩ :=
    besideHits.coexist firstFound secondFound hits_differ
  rw [known, Option.some.injEq] at foundKnown
  rw [known', Option.some.injEq] at foundKnown'
  subst foundKnown foundKnown'
  have overloads := coexist.overloads (by rw [← role, ← role', sameRole]) type signature type'
    signature' callable callable'
  rintro ⟨parameters, qualifiers⟩
  unfold Signature.sameOverload at overloads
  rw [parameters, qualifiers] at overloads
  simp at overloads

/-- They may be declared under one name of one table. -/
theorem overloadSet (besideHits : store.BesideHits member hits) : store.OverloadSet hits := by
  refine ⟨?_, ?_, ?_, besideHits.distinctOverloads⟩
  · intro first firstFound second secondFound isType isType'
    by_contra differ
    obtain ⟨entity, entity', -, -, role, role', coexist⟩ :=
      besideHits.coexist firstFound secondFound differ
    rw [role] at isType
    rw [role', coexist.not_isType isType] at isType'
    cases isType'
  · by_cases functions :
        ∀ hit ∈ hits.toList, hit.role.isValue = true → hit.role.isFunctionLike = true
    · exact Or.inl functions
    · -- A value that is no function is the one value: another one would make it a function.
      obtain ⟨only, functions⟩ := not_forall.1 functions
      obtain ⟨onlyFound, functions⟩ := not_forall.1 functions
      obtain ⟨isValue, notFunction⟩ := not_forall.1 functions
      refine Or.inr ⟨only, onlyFound, fun hit found isValue' => ?_⟩
      by_contra differ
      obtain ⟨entity, entity', -, -, role, role', coexist⟩ :=
        besideHits.coexist onlyFound found (Ne.symm differ)
      rw [role] at isValue notFunction
      rw [role'] at isValue'
      exact notFunction (coexist.isFunctionLike_of_isValue isValue isValue')
  · intro hit found notType notValue
    have only : ∀ other ∈ hits.toList, other = hit := by
      intro other otherFound
      by_contra differ
      obtain ⟨entity, entity', -, -, role, role', coexist⟩ :=
        besideHits.coexist found otherFound (Ne.symm differ)
      rw [role] at notType notValue
      rcases coexist.isType_or_isValue with isType | isValue
      · rw [notType] at isType
        cases isType
      · rw [notValue] at isValue
        cases isValue
    -- A list without repetitions in which there is nothing else.
    have once : hits.toList.Nodup :=
      List.Nodup.of_map (fun hit : Hit => hit.entity) besideHits.nodup
    refine List.perm_singleton.1
      ((List.perm_ext_iff_of_nodup once (List.nodup_singleton hit)).2 fun other => ?_)
    rw [List.mem_singleton]
    constructor
    · exact only other
    · rintro rfl
      exact found

end BesideHits

end SymbolStore

namespace Resolver

/-- Whether an operation files drafts without judging them. -/
def Operation.isUnchecked : Operation → Bool
  | .insert _ => true
  | .insertInto _ _ => true
  | _ => false

/-- An operation that judges what it files files accepted drafts. -/
theorem Operation.accepted_of_files {operation : Operation} {start : Resolver} {now : SymbolStore}
    {target : TableId} {draft : Draft} (checked : operation.isUnchecked = false)
    (files : operation.Files start now target draft) : now.Accepted target draft := by
  cases operation with
  | declare => exact files.2.2
  | declareIn => exact files.2.2
  | insert => cases checked
  | insertInto => cases checked
  | _ => cases files

variable {resolver : Resolver}

/-- Every operation that judges what it files preserves that entities under one name stand beside
each other. -/
theorem overloaded_step (sound : resolver.store.Sound) (overloaded : resolver.store.Overloaded)
    {operation : Operation} (checked : operation.isUnchecked = false) :
    (resolver.step operation).store.Overloaded :=
  step_keeps SymbolStore.Overloaded sound overloaded operation
    (fun _ _ _ linked overloaded files edit => overloaded.edit linked edit
      fun target draft id same => Operation.accepted_of_files checked (files target draft id same))
    fun _ _ _ _ _ overloaded _ _ released => overloaded.released released

/-- Every run of operations that judge what they file preserves that entities under one name stand
beside each other. -/
theorem overloaded_run (sound : resolver.store.Sound) (overloaded : resolver.store.Overloaded)
    {operations : List Operation}
    (checked : ∀ operation ∈ operations, operation.isUnchecked = false) :
    (resolver.run operations).store.Sound ∧ (resolver.run operations).store.Overloaded :=
  run_keeps SymbolStore.Overloaded sound overloaded operations
    fun _ sound overloaded operation listed =>
      overloaded_step sound overloaded (checked operation listed)

/-- After every run in which no draft is filed without being judged, the entries of every table
under every name are ones that may be declared together, and the constructors of every class are
different overloads. -/
theorem overloads_of_run (names : NamePool) (settings : Settings) (operations : List Operation)
    (checked : ∀ operation ∈ operations, operation.isUnchecked = false) :
    let store := ((Resolver.new names settings).run operations).store
    ∀ id table, store.tables.get? id = some table →
      (∀ name, ∃ hits, store.findInScope id name = .ok hits ∧ store.OverloadSet hits) ∧
        ∃ hits, store.constructors id = .ok hits ∧ store.DistinctOverloads hits := by
  intro store id table known
  obtain ⟨sound, overloaded⟩ := overloaded_run (sound_new names settings)
    (SymbolStore.overloaded_new names) checked
  have linked := sound.linked
  refine ⟨fun name => ?_, ?_⟩
  · obtain ⟨hits, found, besideHits⟩ := SymbolStore.besideHits_of_pairwise linked known
      (table.entries_subset_listed name) (overloaded.entries id table known name)
    refine ⟨hits, ?_, besideHits.overloadSet⟩
    rw [SymbolStore.findInScope, SymbolStore.table_eq_ok_iff.2 known]
    exact found
  · obtain ⟨hits, found, besideHits⟩ := SymbolStore.besideHits_of_pairwise linked known
      table.constructors_subset_listed (overloaded.constructors id table known)
    refine ⟨hits, ?_, besideHits.distinctOverloads⟩
    rw [SymbolStore.constructors, SymbolStore.table_eq_ok_iff.2 known]
    exact found

/-- One name is declared for a function without parameters, for one with a parameter, for a class
and for the first function once more. -/
def declareOverloads : List Operation :=
  [.intern "f", .declare (functionDraft ⟨0⟩ []), .declare (functionDraft ⟨0⟩ [.int]),
    .declare { name := ⟨0⟩, kind := .classDecl .structKey false }, .declare (functionDraft ⟨0⟩ [])]

/-- Two functions and a class are declared under one name, and they form an overload set. -/
theorem overloads_of_declareOverloads :
    let store := ((Resolver.new {} {}).run declareOverloads).store
    (∀ operation ∈ declareOverloads, operation.isUnchecked = false) ∧
      (store.findInScope store.global ⟨0⟩).map (fun hits => hits.toList.length) = .ok 3 ∧
      ∃ hits, store.findInScope store.global ⟨0⟩ = .ok hits ∧ store.OverloadSet hits := by
  intro store
  have checked : ∀ operation ∈ declareOverloads, operation.isUnchecked = false := by decide +kernel
  obtain ⟨table, known⟩ : ∃ table, store.tables.get? store.global = some table :=
    Option.isSome_iff_exists.1 (by decide +kernel)
  exact ⟨checked, by decide +kernel,
    (overloads_of_run {} {} declareOverloads checked store.global table known).1 ⟨0⟩⟩

end Resolver

end ScopeResolution

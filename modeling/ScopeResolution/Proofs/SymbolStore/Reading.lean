import Mathlib.Data.List.Nodup
import ScopeResolution.Resolver.Basic

/-! # Reading the store

What the questions to a symbol store answer, as conditions on its two maps from handles to values.
A question that meets no stale handle has an answer, and the answer is read off the entities and
tables that it meets. -/

namespace ScopeResolution

/-- Two steps succeed when the first one does, and the second one does after it. -/
theorem bind_eq_ok_iff {α β : Type} {step : Except Failure α} {next : α → Except Failure β}
    {result : β} :
    (step >>= next) = .ok result ↔ ∃ value, step = .ok value ∧ next value = .ok result := by
  cases step with
  | error failure => simp [bind, Except.bind]
  | ok value => simp [bind, Except.bind]

/-- A step that succeeds hands its value to the next one. -/
@[simp] theorem ok_bind {α β : Type} (value : α) (next : α → Except Failure β) :
    (Except.ok value >>= next) = next value := rfl

/-- An answer succeeds with itself. -/
theorem pure_eq_ok_iff {α : Type} {value result : α} :
    (pure value : Except Failure α) = .ok result ↔ value = result := by
  simp [pure, Except.pure]

namespace Hits

variable {hits : Hits} {list : List Hit} {hit : Hit}

/-- Hits keep what they hold when more is added. -/
theorem mem_toList_add {added : Hit} :
    hit ∈ (hits.add added).toList ↔
      hit ∈ hits.toList ∨ hit = added ∧ added.entity ∉ hits.entities := by
  unfold add
  split
  · rename_i known
    simp [known]
  · rename_i new
    simp [new]

/-- A hit that was collected was there before, or is one of those that were added. -/
theorem mem_extend (collected : hit ∈ (hits.extend list).toList) :
    hit ∈ hits.toList ∨ hit ∈ list := by
  induction list generalizing hits with
  | nil => exact Or.inl collected
  | cons first rest ih =>
      rw [extend_cons] at collected
      rcases ih collected with known | later
      · rcases mem_toList_add.1 known with known | ⟨rfl, -⟩
        · exact Or.inl known
        · exact Or.inr List.mem_cons_self
      · exact Or.inr (List.mem_cons_of_mem _ later)

/-- The entities found are those found before and those of the hits that are added. -/
theorem mem_entities_extend {entity : EntityId} :
    entity ∈ (hits.extend list).entities ↔
      entity ∈ hits.entities ∨ entity ∈ list.map (·.entity) := by
  induction list generalizing hits with
  | nil => simp
  | cons first rest ih =>
      rw [extend_cons, ih, mem_entities_add, List.map_cons, List.mem_cons, or_assoc]

/-- Adding hits keeps entities distinct. -/
theorem nodup_entities_extend (distinct : hits.entities.Nodup) (list : List Hit) :
    (hits.extend list).entities.Nodup := by
  induction list generalizing hits with
  | nil => exact distinct
  | cons first rest ih => exact ih (nodup_entities_add distinct first)

/-- Collected hits are among those that were collected. -/
theorem mem_ofList (collected : hit ∈ (ofList list).toList) : hit ∈ list :=
  (mem_extend collected).resolve_left (List.not_mem_nil)

/-- Collected hits have distinct entities. -/
theorem nodup_entities_ofList (list : List Hit) : (ofList list).entities.Nodup := by
  have distinct : empty.entities.Nodup := List.nodup_nil
  exact nodup_entities_extend distinct list

/-- Hits with distinct entities are equal when their entities are. -/
theorem eq_of_entity_eq (distinct : hits.entities.Nodup) {first second : Hit}
    (firstMem : first ∈ hits.toList) (secondMem : second ∈ hits.toList)
    (same : first.entity = second.entity) : first = second :=
  List.inj_on_of_nodup_map distinct firstMem secondMem same

/-- New hits with distinct entities go to the end as they are. -/
theorem extend_of_nodup (before list : List Hit)
    (distinct : ((before ++ list).map (·.entity)).Nodup) :
    (⟨before⟩ : Hits).extend list = ⟨before ++ list⟩ := by
  induction list generalizing before with
  | nil => rw [extend_nil, List.append_nil]
  | cons hit rest ih =>
      have new : hit.entity ∉ (⟨before⟩ : Hits).entities := by
        rw [List.map_append, List.nodup_append] at distinct
        intro known
        exact distinct.2.2 _ known _ List.mem_cons_self rfl
      have added : (⟨before⟩ : Hits).add hit = ⟨before ++ [hit]⟩ := if_neg new
      rw [extend_cons, added, ih _ (by rwa [List.append_assoc, List.singleton_append]),
        List.append_assoc, List.singleton_append]

/-- Hits that are collected again stay what they are. -/
theorem extend_empty {hits : Hits} (distinct : hits.entities.Nodup) :
    Hits.empty.extend hits.toList = hits :=
  extend_of_nodup [] hits.toList distinct

/-- Adding hits adds their entities at the end, each one once and in the order of the first hits on
them. -/
theorem entities_extend (hits : Hits) (list : List Hit) :
    (hits.extend list).entities =
      hits.entities ++ ((list.map (·.entity)).filter (· ∉ hits.entities)).eraseDups := by
  induction list generalizing hits with
  | nil => simp
  | cons hit rest ih =>
      rw [extend_cons, ih, List.map_cons]
      unfold add
      split
      · rename_i known
        rw [List.filter_cons_of_neg (by simpa using known)]
      · rename_i new
        have entities : (⟨hits.toList ++ [hit]⟩ : Hits).entities = hits.entities ++ [hit.entity] :=
          List.map_append
        rw [List.filter_cons_of_pos (by simpa using new), List.eraseDups_cons, List.filter_filter,
          entities, List.append_assoc, List.singleton_append]
        congr 4
        funext entity
        simp [not_or, Bool.and_comm, Bool.beq_eq_decide_eq]

/-- Collected hits are on the entities that were hit, each one once and in the order of the first
hits on them. -/
theorem entities_ofList (list : List Hit) :
    (ofList list).entities = (list.map (·.entity)).eraseDups := by
  have added := entities_extend empty list
  have every : ((list.map (·.entity)).filter (· ∉ empty.entities)) = list.map (·.entity) :=
    List.filter_eq_self.2 fun _ _ => rfl
  rwa [every] at added

/-- Hits on distinct entities are collected as they are. -/
theorem entities_ofList_map (role : EntityId → Role) {entities : List EntityId}
    (distinct : entities.Nodup) :
    (ofList (entities.map fun id => ⟨id, role id⟩)).entities = entities := by
  have same : (entities.map fun id => (⟨id, role id⟩ : Hit)).map (·.entity) = entities := by
    simp [Function.comp_def]
  have collected : ofList (entities.map fun id => ⟨id, role id⟩) =
      ⟨entities.map fun id => ⟨id, role id⟩⟩ := extend_of_nodup [] _ (by rwa [List.nil_append, same])
  rw [collected, Hits.entities, same]

/-- Hits that are added together may be added one after the other. -/
theorem extend_append (hits : Hits) (first second : List Hit) :
    hits.extend (first ++ second) = (hits.extend first).extend second :=
  List.foldl_append

end Hits

namespace SymbolStore

variable {store : SymbolStore}

/-- An entity is found when its handle is not stale. -/
@[simp] theorem entity_eq_ok_iff {id : EntityId} {entity : Entity} :
    store.entity id = .ok entity ↔ store.entities.get? id = some entity := by
  unfold SymbolStore.entity
  split
  · rename_i known
    simp [known]
  · rename_i stale
    simp [stale]

/-- A table is found when its handle is not stale. -/
@[simp] theorem table_eq_ok_iff {id : TableId} {table : Table} :
    store.table id = .ok table ↔ store.tables.get? id = some table := by
  unfold SymbolStore.table
  split
  · rename_i known
    simp [known]
  · rename_i stale
    simp [stale]

/-- The role of an entity is that of its kind in the table that it belongs to. -/
theorem roleOf_eq_ok {id : EntityId} {entity : Entity} {table : Table}
    (known : store.entities.get? id = some entity)
    (listing : store.tables.get? entity.owner = some table) :
    store.roleOf id = .ok (entity.kind.role (table.kind == .classTable)) := by
  unfold roleOf
  rw [entity_eq_ok_iff.2 known, ok_bind, table_eq_ok_iff.2 listing]
  rfl

/-- The role of a draft is that of its kind in the table. -/
theorem roleForDraft_eq_ok {target : TableId} {table : Table}
    (known : store.tables.get? target = some table) (draft : Draft) :
    store.roleForDraft draft target = .ok (draft.kind.role (table.kind == .classTable)) := by
  unfold roleForDraft
  rw [table_eq_ok_iff.2 known]
  rfl

/-- The own entries under a name are those of the table. -/
theorem findInScope_eq_hitsOf {id : TableId} {table : Table}
    (known : store.tables.get? id = some table) (name : Name) :
    store.findInScope id name = store.hitsOf (table.entries name) := by
  unfold findInScope
  rw [table_eq_ok_iff.2 known]
  rfl

/-- Adding entities with their roles to hits. -/
theorem foldlM_hits_eq_ok (role : EntityId → Role) (entities : List EntityId) (hits : Hits)
    (known : ∀ id ∈ entities, store.roleOf id = .ok (role id)) :
    entities.foldlM (fun hits entity => do
        let role ← store.roleOf entity
        pure (hits.add ⟨entity, role⟩)) hits =
      Except.ok (hits.extend (entities.map fun id => ⟨id, role id⟩)) := by
  induction entities generalizing hits with
  | nil => rfl
  | cons first rest ih =>
      rw [List.foldlM_cons, known first List.mem_cons_self]
      exact ih _ fun id listed => known id (List.mem_cons_of_mem _ listed)

/-- Entities with known roles give the hits on them, each once and in order. -/
theorem hitsOf_eq_ok (role : EntityId → Role) (entities : List EntityId)
    (known : ∀ id ∈ entities, store.roleOf id = .ok (role id)) :
    store.hitsOf entities = .ok (.ofList (entities.map fun id => ⟨id, role id⟩)) :=
  foldlM_hits_eq_ok role entities Hits.empty known

/-- Entities that have roles give the hits on them, in these roles. -/
theorem exists_hitsOf {entities : List EntityId}
    (known : ∀ id ∈ entities, ∃ role, store.roleOf id = .ok role) :
    ∃ role : EntityId → Role, (∀ id ∈ entities, store.roleOf id = .ok (role id)) ∧
      store.hitsOf entities = .ok (.ofList (entities.map fun id => ⟨id, role id⟩)) := by
  have roles (id : EntityId) : ∃ role, id ∈ entities → store.roleOf id = .ok role := by
    by_cases among : id ∈ entities
    · obtain ⟨role, seen⟩ := known id among
      exact ⟨role, fun _ => seen⟩
    · exact ⟨.unknown, fun present => absurd present among⟩
  -- The roles of all entities at once, so that the hits can be written down.
  choose role role_eq using roles
  exact ⟨role, role_eq, hitsOf_eq_ok role entities role_eq⟩

/-- Hits are found on entities that have roles only. -/
theorem roleOf_of_hitsOf {entities : List EntityId} {hits : Hits}
    (looked : store.hitsOf entities = .ok hits) :
    ∀ id ∈ entities, ∃ role, store.roleOf id = .ok role := by
  unfold hitsOf at looked
  generalize Hits.empty = start at looked
  induction entities generalizing start with
  | nil => exact fun _ listed => (List.not_mem_nil listed).elim
  | cons first rest ih =>
      rw [List.foldlM_cons] at looked
      obtain ⟨added, step, looked⟩ := bind_eq_ok_iff.1 looked
      obtain ⟨role, seen, -⟩ := bind_eq_ok_iff.1 step
      intro id listed
      rcases List.mem_cons.1 listed with rfl | later
      · exact ⟨role, seen⟩
      · exact ih added looked id later

/-- The body that an entity stands for is that of a class or namespace, and of the entity itself if
it is one. -/
theorem region_of_regionOf {id : EntityId} {body : TableId}
    (found : store.regionOf id = .ok (some body)) :
    ∃ owner entity, store.entities.get? owner = some entity ∧ entity.kind.opensRegion = true ∧
      entity.body = some body ∧
      ∀ named, store.entities.get? id = some named → named.kind.opensRegion = true →
        owner = id := by
  unfold regionOf at found
  obtain ⟨entity, known, found⟩ := bind_eq_ok_iff.1 found
  rw [entity_eq_ok_iff] at known
  cases meant : regionEntity? id entity with
  | none => rw [meant] at found; cases found
  | some target =>
      rw [meant] at found
      obtain ⟨aimed, knownTarget, answer⟩ := bind_eq_ok_iff.1 found
      rw [pure_eq_ok_iff] at answer
      split at answer
      · rename_i opens
        refine ⟨target, aimed, entity_eq_ok_iff.1 knownTarget, opens, answer, ?_⟩
        -- A class or namespace stands for itself; only an alias stands for something else.
        intro named same opensNamed
        rw [known, Option.some.injEq] at same
        subst same
        unfold regionEntity? at meant
        split at meant <;> simp_all [EntityKind.opensRegion]
      · cases answer

/-- The body of a wanted kind is the body that the entity stands for, and of that kind. -/
theorem bodyOfKind_eq_ok {id : EntityId} {kind : TableKind} {body : TableId}
    (found : store.bodyOfKind id kind = .ok body) :
    store.regionOf id = .ok (some body) ∧
      ∃ table, store.tables.get? body = some table ∧ table.kind = kind := by
  -- Both ways to miss end in a failure, after the name of the entity was asked for.
  have malformed (result : TableId) : (do
      let name ← store.qualifiedName id
      throw (.malformedEntity name (.opensNo kind)) : Except Failure TableId) ≠ .ok result := by
    intro same
    obtain ⟨name, -, thrown⟩ := bind_eq_ok_iff.1 same
    cases thrown
  unfold bodyOfKind at found
  obtain ⟨region, answer, found⟩ := bind_eq_ok_iff.1 found
  cases region with
  | none => exact absurd found (malformed _)
  | some region =>
      obtain ⟨table, known, found⟩ := bind_eq_ok_iff.1 found
      rw [table_eq_ok_iff] at known
      split at found
      · rename_i fits
        rw [pure_eq_ok_iff] at found
        subst found
        exact ⟨answer, table, known, fits⟩
      · exact absurd found (malformed _)

/-- The body that is found for a qualifier or a using directive is the one that the entity stands
for. -/
theorem bodyOrDefect_eq_ok {defect : Defect} {id : EntityId} {body : TableId}
    (found : store.bodyOrDefect defect id = .ok body) : store.regionOf id = .ok (some body) := by
  unfold bodyOrDefect at found
  obtain ⟨region, answer, found⟩ := bind_eq_ok_iff.1 found
  cases region with
  | none => cases found
  | some region =>
      rw [pure_eq_ok_iff] at found
      rw [answer, found]

end SymbolStore

end ScopeResolution

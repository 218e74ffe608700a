import Mathlib.Data.Set.Card
import ScopeResolution.Proofs.Lookup.Inheritance

/-! # Searches over peers

The search for a symbol looks into a table and into all tables reachable over peers (`Reaches`), in
the order of a depth-first walk that takes peers as they were registered and visits no table twice
(`VisitOrder`). What it finds are the hits in those tables, one table after the other
(`findSymbol_explores`), so the order of the peers changes the order of the hits at most
(`Rearranged.findSymbol_entities`). A table that was visited is not visited again, so a search never
goes deeper than there are tables to reach (`findSymbol_succeeds`). The statements come together in
`peer_search_of_run`. -/

namespace ScopeResolution

/-- Two tables that differ in the order of their peers at most. -/
structure Table.Rearranged (table table' : Table) : Prop where
  /-- The shape is the same. -/
  form : table'.form = table.form
  /-- The members are the same. -/
  members : table'.members = table.members
  /-- The peers are the same, in some order. -/
  peers : table'.peers.Perm table.peers

namespace Table.Rearranged

variable {table table' : Table}

/-- The entries are the same. -/
theorem entries_eq (same : table.Rearranged table') (name : Name) :
    table'.entries name = table.entries name := by
  rw [entries, entries, same.members, function?, function?, same.form]

/-- What class tables hold is the same. -/
theorem class?_eq (same : table.Rearranged table') : table'.class? = table.class? := by
  rw [class?, class?, same.form]

/-- The kind is the same. -/
theorem kind_eq (same : table.Rearranged table') : table'.kind = table.kind := by
  rw [kind, kind, same.form]

end Table.Rearranged

namespace SymbolStore

variable {store : SymbolStore} {name : Name}

/-! ## Walks over peers -/

/-- A table has another one as a peer. -/
def Uses (store : SymbolStore) (id peer : TableId) : Prop :=
  ∃ table, store.tables.get? id = some table ∧ peer ∈ table.peers

/-- A table is reached from another one over peers, in any number of steps. -/
def Reaches (store : SymbolStore) : TableId → TableId → Prop := Relation.ReflTransGen store.Uses

/-- The order of the first visits of a depth-first walk that has some tables to go to and some
behind it: it skips what it has seen, and it goes to the peers of a new table before it goes on. -/
inductive VisitOrder (store : SymbolStore) :
    (seen toVisit : List TableId) → (order : List TableId) → Prop where
  /-- There is nowhere to go. -/
  | done {seen : List TableId} : VisitOrder store seen [] []
  /-- The next table was seen before. -/
  | skip {seen rest order : List TableId} {id : TableId} (again : id ∈ seen)
      (later : VisitOrder store seen rest order) : VisitOrder store seen (id :: rest) order
  /-- The next table is new. -/
  | visit {seen rest inner outer : List TableId} {id : TableId} {table : Table} (new : id ∉ seen)
      (known : store.tables.get? id = some table)
      (peers : VisitOrder store (id :: seen) table.peers inner)
      (later : VisitOrder store (inner.reverse ++ id :: seen) rest outer) :
      VisitOrder store seen (id :: rest) (id :: inner ++ outer)

namespace VisitOrder

variable {seen toVisit rest order order' : List TableId} {id : TableId}

/-- A walk from one table goes on with the others. -/
theorem cons (first : store.VisitOrder seen [id] order)
    (later : store.VisitOrder (order.reverse ++ seen) rest order') :
    store.VisitOrder seen (id :: rest) (order ++ order') := by
  cases first with
  | skip again done =>
      cases done
      exact .skip again later
  | visit new known peers done =>
      cases done
      rw [List.append_nil] at later ⊢
      rw [List.reverse_cons, List.append_assoc, List.singleton_append] at later
      exact .visit new known peers later

/-- A walk visits no table twice, and none that it has seen. -/
theorem nodup (walk : store.VisitOrder seen toVisit order) :
    order.Nodup ∧ ∀ id ∈ order, id ∉ seen := by
  induction walk with
  | done => exact ⟨List.nodup_nil, fun _ visited => (List.not_mem_nil visited).elim⟩
  | skip again later ih => exact ih
  | @visit seen rest inner outer id table new known peers later innerIh outerIh =>
      obtain ⟨innerNodup, innerNew⟩ := innerIh
      obtain ⟨outerNodup, outerNew⟩ := outerIh
      have outer_apart (other : TableId) (visited : other ∈ outer) :
          other ∉ inner ∧ other ≠ id ∧ other ∉ seen := by
        simpa [not_or] using outerNew other visited
      have inner_apart (other : TableId) (visited : other ∈ inner) : other ≠ id ∧ other ∉ seen := by
        simpa [not_or] using innerNew other visited
      refine ⟨?_, ?_⟩
      · rw [List.cons_append, List.nodup_cons, List.mem_append, not_or, List.nodup_append]
        exact ⟨⟨fun visited => (inner_apart id visited).1 rfl,
            fun visited => (outer_apart id visited).2.1 rfl⟩, innerNodup, outerNodup,
          fun first isInner second isOuter same => (outer_apart second isOuter).1 (same ▸ isInner)⟩
      · intro other visited
        rcases List.mem_append.1 visited with early | late
        · rcases List.mem_cons.1 early with rfl | isInner
          · exact new
          · exact (inner_apart other isInner).2
        · exact (outer_apart other late).2.2

/-- A walk visits only what is reached from where it goes to. -/
theorem reaches (walk : store.VisitOrder seen toVisit order) :
    ∀ id ∈ order, ∃ start ∈ toVisit, store.Reaches start id := by
  induction walk with
  | done => exact fun _ visited => (List.not_mem_nil visited).elim
  | skip again later ih =>
      intro other visited
      obtain ⟨start, isRest, reaches⟩ := ih other visited
      exact ⟨start, List.mem_cons_of_mem _ isRest, reaches⟩
  | @visit seen rest inner outer id table new known peers later innerIh outerIh =>
      intro other visited
      rcases List.mem_append.1 visited with early | late
      · rcases List.mem_cons.1 early with rfl | isInner
        · exact ⟨other, List.mem_cons_self, .refl⟩
        · obtain ⟨peer, isPeer, reaches⟩ := innerIh other isInner
          exact ⟨id, List.mem_cons_self, reaches.head ⟨table, known, isPeer⟩⟩
      · obtain ⟨start, isRest, reaches⟩ := outerIh other late
        exact ⟨start, List.mem_cons_of_mem _ isRest, reaches⟩

/-- Where a walk goes to is visited unless it was seen, and so are the peers of what it visits. -/
theorem covers (walk : store.VisitOrder seen toVisit order) :
    (∀ id ∈ toVisit, id ∈ order ∨ id ∈ seen) ∧
      ∀ id ∈ order, ∀ peer, store.Uses id peer → peer ∈ order ∨ peer ∈ seen := by
  induction walk with
  | done => exact ⟨fun _ next => (List.not_mem_nil next).elim,
      fun _ visited => (List.not_mem_nil visited).elim⟩
  | skip again later ih =>
      refine ⟨fun other next => ?_, ih.2⟩
      rcases List.mem_cons.1 next with rfl | isRest
      · exact Or.inr again
      · exact ih.1 other isRest
  | @visit seen rest inner outer id table new known peers later innerIh outerIh =>
      -- What either part of the walk covers, the whole walk covers.
      have of_inner {other : TableId} (covered : other ∈ inner ∨ other ∈ id :: seen) :
          other ∈ id :: inner ++ outer ∨ other ∈ seen := by
        simp only [List.mem_cons, List.mem_append] at covered ⊢
        tauto
      have of_outer {other : TableId}
          (covered : other ∈ outer ∨ other ∈ inner.reverse ++ id :: seen) :
          other ∈ id :: inner ++ outer ∨ other ∈ seen := by
        simp only [List.mem_cons, List.mem_append, List.mem_reverse] at covered ⊢
        tauto
      refine ⟨fun other next => ?_, fun other visited peer uses => ?_⟩
      · rcases List.mem_cons.1 next with rfl | isRest
        · exact Or.inl List.mem_cons_self
        · exact of_outer (outerIh.1 other isRest)
      · rcases List.mem_append.1 visited with early | late
        · rcases List.mem_cons.1 early with rfl | isInner
          · obtain ⟨table', known', isPeer⟩ := uses
            rw [known, Option.some.injEq] at known'
            exact of_inner (innerIh.1 peer (known' ▸ isPeer))
          · exact of_inner (innerIh.2 other isInner peer uses)
        · exact of_outer (outerIh.2 other late peer uses)

/-- A walk from one table that has seen nothing visits exactly what is reached from there. -/
theorem mem_iff (walk : store.VisitOrder [] [id] order) {other : TableId} :
    other ∈ order ↔ store.Reaches id other := by
  constructor
  · intro visited
    obtain ⟨start, isStart, reaches⟩ := walk.reaches other visited
    rwa [List.mem_singleton.1 isStart] at reaches
  · intro reaches
    induction reaches with
    | refl => exact (walk.covers.1 id (List.mem_singleton_self id)).resolve_right List.not_mem_nil
    | tail _ uses visited => exact (walk.covers.2 _ visited _ uses).resolve_right List.not_mem_nil

end VisitOrder

/-! ## What a search finds -/

/-- The hits in one table: the members of a class, inherited ones included, and the own entries of
any other table. -/
def hitsIn (store : SymbolStore) (nesting : Nesting) (name : Name) (id : TableId) :
    Except Failure Hits := do
  let table ← store.table id
  if table.kind = .classTable then store.classLookup nesting id name else store.findInScope id name

/-- The members that a search finds in a table are the hits in it, whatever the levels left. -/
theorem hitsIn_of_members {nesting : Nesting} {levels : Nat} (fewer : levels ≤ nesting.levels)
    {id : TableId} {table : Table} (known : store.tables.get? id = some table) {hits : Hits}
    (found : store.members ⟨nesting.limit, levels⟩ name table = .ok hits) :
    store.hitsIn nesting name id = .ok hits := by
  unfold hitsIn
  rw [table_eq_ok_iff.2 known, ok_bind]
  split
  · unfold classLookup
    rw [table_eq_ok_iff.2 known, ok_bind]
    exact members_mono fewer found
  · rename_i notClass
    rw [members_of_own _ (Or.inr (Table.bases_of_not_class notClass))] at found
    rw [findInScope_eq_hitsOf known, found]

/-- A search has visited tables in some order, and gathered the hits in them; `look` looks into one
table. -/
structure Explored (store : SymbolStore) (look : TableId → Except Failure Hits)
    (before : Reached) (toVisit : List TableId) (after : Reached) (order : List TableId) :
    Prop where
  /-- The order is that of a depth-first walk. -/
  walk : store.VisitOrder before.visited toVisit order
  /-- The tables are marked as visited. -/
  visited : after.visited = order.reverse ++ before.visited
  /-- The hits in them are added in that order. -/
  hits : gather look order before.hits = .ok after.hits

variable {look : TableId → Except Failure Hits}

/-- The peers of a table are explored one after the other when each one is. -/
theorem explored_of_foldlM {deeper : TableId → Reached → Except Failure Reached}
    (explores : ∀ id before after, deeper id before = .ok after →
      ∃ order, store.Explored look before [id] after order)
    {peers : List TableId} {before after : Reached}
    (success : peers.foldlM (fun reached peer => deeper peer reached) before = .ok after) :
    ∃ order, store.Explored look before peers after order := by
  induction peers generalizing before with
  | nil =>
      cases success
      exact ⟨[], .done, rfl, rfl⟩
  | cons first rest ih =>
      rw [List.foldlM_cons] at success
      obtain ⟨middle, first_eq, rest_eq⟩ := bind_eq_ok_iff.1 success
      obtain ⟨order, explored⟩ := explores first before middle first_eq
      obtain ⟨order', explored'⟩ := ih rest_eq
      refine ⟨order ++ order', explored.walk.cons (explored.visited ▸ explored'.walk), ?_, ?_⟩
      · rw [explored'.visited, explored.visited, List.reverse_append, List.append_assoc]
      · unfold gather
        rw [List.foldlM_append]
        exact bind_eq_ok_iff.2 ⟨middle.hits, explored.hits, explored'.hits⟩

/-- A visit explores a table when the visits of its peers explore them. -/
theorem explored_of_visitStep {own : Table → Except Failure Hits}
    {deeper : TableId → Reached → Except Failure Reached}
    (looks : ∀ id table hits, store.tables.get? id = some table → own table = .ok hits →
      look id = .ok hits)
    (explores : ∀ id before after, deeper id before = .ok after →
      ∃ order, store.Explored look before [id] after order)
    {id : TableId} {before after : Reached}
    (success : store.visitStep own deeper id before = .ok after) :
    ∃ order, store.Explored look before [id] after order := by
  unfold visitStep at success
  split at success
  · rename_i again
    cases success
    exact ⟨[], .skip again .done, rfl, rfl⟩
  · rename_i new
    obtain ⟨table, known, success⟩ := bind_eq_ok_iff.1 success
    rw [table_eq_ok_iff] at known
    obtain ⟨found, own_eq, success⟩ := bind_eq_ok_iff.1 success
    obtain ⟨inner, explored⟩ := explored_of_foldlM explores success
    refine ⟨id :: inner ++ [], .visit new known explored.walk .done, ?_, ?_⟩
    · rw [explored.visited, List.append_nil, List.reverse_cons, List.append_assoc,
        List.singleton_append]
    · rw [List.append_nil, gather_cons, looks id table found known own_eq, ok_bind]
      exact explored.hits

/-- A visit explores a table and what is reached from it: by induction on the levels that are
left. -/
theorem explored_of_visit (nesting : Nesting) {levels : Nat} (fewer : levels ≤ nesting.levels)
    {id : TableId} {before after : Reached}
    (success : store.visit nesting.limit name levels id before = .ok after) :
    ∃ order, store.Explored (store.hitsIn nesting name) before [id] after order := by
  induction levels generalizing id before after with
  | zero =>
      unfold visit at success
      exact explored_of_visitStep (fun _ _ _ known => hitsIn_of_members fewer known)
        (fun _ _ _ failed => by cases failed) success
  | succ levels ih =>
      unfold visit at success
      exact explored_of_visitStep (fun _ _ _ known => hitsIn_of_members fewer known)
        (fun _ _ _ => ih (Nat.le_of_succ_le fewer)) success

/-- A search finds the hits in the tables that a depth-first walk visits, one after the other. -/
theorem findSymbol_explores {nesting : Nesting} {id : TableId} {hits : Hits}
    (success : store.findSymbol nesting id name = .ok hits) :
    ∃ (order : List TableId) (results : List Hits), store.VisitOrder [] [id] order ∧
      List.Forall₂ (fun table found => store.hitsIn nesting name table = .ok found) order results ∧
      hits = .ofList (results.flatMap (·.toList)) := by
  unfold findSymbol at success
  obtain ⟨reached, visited, hits_eq⟩ := bind_eq_ok_iff.1 success
  rw [pure_eq_ok_iff] at hits_eq
  obtain ⟨order, explored⟩ := explored_of_visit nesting (Nat.le_refl nesting.levels) visited
  obtain ⟨results, each, collected⟩ := gather_eq_ok_iff.1 explored.hits
  exact ⟨order, results, explored.walk, each, by rw [← hits_eq, collected]; rfl⟩

/-- A search finds what is hit in some table reached from where it starts. -/
theorem mem_findSymbol_iff {nesting : Nesting} {id : TableId} {hits : Hits}
    (success : store.findSymbol nesting id name = .ok hits) {entity : EntityId} :
    entity ∈ hits.entities ↔ ∃ table found, store.Reaches id table ∧
      store.hitsIn nesting name table = .ok found ∧ entity ∈ found.entities := by
  obtain ⟨order, results, walk, each, rfl⟩ := findSymbol_explores success
  have same : order.map (store.hitsIn nesting name) = results.map .ok := by
    rwa [← List.forall₂_eq_eq_eq, List.forall₂_map_left_iff, List.forall₂_map_right_iff]
  have result_iff {found : Hits} :
      found ∈ results ↔ ∃ table ∈ order, store.hitsIn nesting name table = .ok found := by
    rw [← List.mem_map, same]
    simp
  rw [Hits.entities_ofList, List.mem_eraseDups, List.map_flatMap, List.mem_flatMap]
  simp only [result_iff, walk.mem_iff]
  constructor
  · rintro ⟨found, ⟨table, reaches, looked⟩, hit⟩
    exact ⟨table, found, reaches, looked, hit⟩
  · rintro ⟨table, found, reaches, looked, hit⟩
    exact ⟨found, ⟨table, reaches, looked⟩, hit⟩

/-! ## The order of the peers -/

/-- Two stores that differ in the order of the peers of their tables at most. -/
structure Rearranged (store store' : SymbolStore) : Prop where
  /-- The entities are the same. -/
  entities : store'.entities.get? = store.entities.get?
  /-- The tables are the same but for the order of their peers. -/
  tables : ∀ id, Option.Rel Table.Rearranged (store.tables.get? id) (store'.tables.get? id)

namespace Rearranged

variable {store' : SymbolStore} {table table' : Table}

/-- The entities are found as they are. -/
theorem entity_eq (rearranged : store.Rearranged store') (id : EntityId) :
    store'.entity id = store.entity id := by
  unfold SymbolStore.entity
  rw [rearranged.entities]

/-- A table is there in both stores or in none. -/
theorem get?_cases (rearranged : store.Rearranged store') (id : TableId) :
    (∃ table table', store.tables.get? id = some table ∧ store'.tables.get? id = some table' ∧
        table.Rearranged table') ∨
      store.tables.get? id = none ∧ store'.tables.get? id = none := by
  have related := rearranged.tables id
  generalize store.tables.get? id = found, store'.tables.get? id = found' at related
  cases related with
  | some same => exact Or.inl ⟨_, _, rfl, rfl, same⟩
  | none => exact Or.inr ⟨rfl, rfl⟩

/-- A table is found in both stores, or not found in both. -/
theorem table_cases (rearranged : store.Rearranged store') (id : TableId) :
    (∃ table table', store.table id = .ok table ∧ store'.table id = .ok table' ∧
        table.Rearranged table') ∨
      ∃ failure, store.table id = .error failure ∧ store'.table id = .error failure := by
  unfold SymbolStore.table
  rcases rearranged.get?_cases id with ⟨table, table', known, known', same⟩ | ⟨stale, stale'⟩
  · rw [known, known']
    exact Or.inl ⟨table, table', rfl, rfl, same⟩
  · rw [stale, stale']
    exact Or.inr ⟨_, rfl, rfl⟩

/-- Entities are seen in the same roles. -/
theorem roleOf_eq (rearranged : store.Rearranged store') (id : EntityId) :
    store'.roleOf id = store.roleOf id := by
  unfold roleOf
  rw [rearranged.entity_eq]
  cases store.entity id with
  | error failure => rfl
  | ok entity =>
      rw [ok_bind, ok_bind]
      rcases rearranged.table_cases entity.owner with
        ⟨table, table', found, found', same⟩ | ⟨failure, failed, failed'⟩
      · rw [found, found', ok_bind, ok_bind, same.kind_eq]
      · rw [failed, failed']

/-- Entities give the same hits. -/
theorem hitsOf_eq (rearranged : store.Rearranged store') (entities : List EntityId) :
    store'.hitsOf entities = store.hitsOf entities := by
  unfold hitsOf
  simp only [rearranged.roleOf_eq]

/-- Bases give the same hits when further tables do. -/
theorem baseHits_eq (rearranged : store.Rearranged store')
    {deeper deeper' : Table → Except Failure Hits}
    (further : ∀ table table', table.Rearranged table' → deeper' table' = deeper table)
    (bases : List Base) : store'.baseHits deeper' bases = store.baseHits deeper bases := by
  unfold baseHits
  congr 1
  funext hits base
  unfold baseTable?
  rw [rearranged.entity_eq]
  cases store.entity base.entity with
  | error failure => rfl
  | ok entity =>
      simp only [ok_bind]
      cases entity.body with
      | none => rfl
      | some region =>
          rcases rearranged.table_cases region with
            ⟨table, table', found, found', same⟩ | ⟨failure, failed, failed'⟩
          · simp only [found, found', ok_bind, same.class?_eq]
            split
            · simp only [pure_bind, further table table' same]
            · rfl
          · simp only [failed, failed']
            rfl

/-- Tables have the same members, inherited ones included: by induction on the levels that are
left. -/
theorem members_eq (rearranged : store.Rearranged store') (limit levels : Nat)
    (same : table.Rearranged table') :
    store'.members ⟨limit, levels⟩ name table' = store.members ⟨limit, levels⟩ name table := by
  have one_level {deeper deeper' : Table → Except Failure Hits}
      (further : ∀ table table', table.Rearranged table' → deeper' table' = deeper table)
      {table table' : Table} (same : table.Rearranged table') :
      store'.memberStep name deeper' table' = store.memberStep name deeper table := by
    unfold memberStep
    rw [same.entries_eq, Table.bases, Table.bases, same.class?_eq, rearranged.baseHits_eq further]
    simp only [rearranged.hitsOf_eq]
  unfold members
  induction levels generalizing table table' with
  | zero => exact one_level (fun _ _ _ => rfl) same
  | succ levels ih => exact one_level (fun _ _ => ih) same

/-- Tables have the same hits. -/
theorem hitsIn_eq (rearranged : store.Rearranged store') (nesting : Nesting) (id : TableId) :
    store'.hitsIn nesting name id = store.hitsIn nesting name id := by
  unfold hitsIn classLookup findInScope
  rcases rearranged.table_cases id with
    ⟨table, table', found, found', same⟩ | ⟨failure, failed, failed'⟩
  · simp only [found, found', ok_bind, same.kind_eq, same.entries_eq, rearranged.hitsOf_eq]
    rw [rearranged.members_eq nesting.limit nesting.levels same]
  · rw [failed, failed']
    rfl

/-- The same tables are reached. -/
theorem reaches_iff (rearranged : store.Rearranged store') {id other : TableId} :
    store'.Reaches id other ↔ store.Reaches id other := by
  have uses_eq : store'.Uses = store.Uses := by
    funext first second
    unfold Uses
    rcases rearranged.get?_cases first with ⟨table, table', known, known', same⟩ | ⟨stale, stale'⟩
    · simp only [known, known', Option.some.injEq, exists_eq_left', same.peers.mem_iff]
    · rw [stale, stale']
  unfold Reaches
  rw [uses_eq]

/-- The same entities are found. -/
theorem findSymbol_entities (rearranged : store.Rearranged store') {nesting : Nesting}
    {id : TableId} {hits hits' : Hits} (success : store.findSymbol nesting id name = .ok hits)
    (success' : store'.findSymbol nesting id name = .ok hits') (entity : EntityId) :
    entity ∈ hits'.entities ↔ entity ∈ hits.entities := by
  rw [mem_findSymbol_iff success, mem_findSymbol_iff success']
  simp only [rearranged.reaches_iff, rearranged.hitsIn_eq]

end Rearranged

/-! ## Searches that succeed -/

/-- A loop succeeds when each step does, as long as the steps keep an invariant. -/
theorem foldlM_succeeds {α β : Type} {step : α → β → Except Failure α} (invariant : α → Prop)
    {list : List β}
    (each : ∀ state, ∀ item ∈ list, invariant state →
      ∃ next, step state item = .ok next ∧ invariant next)
    {start : α} (holds : invariant start) : ∃ final, list.foldlM step start = .ok final := by
  induction list generalizing start with
  | nil => exact ⟨start, rfl⟩
  | cons first rest ih =>
      obtain ⟨next, first_eq, kept⟩ := each start first List.mem_cons_self holds
      rw [List.foldlM_cons, first_eq, ok_bind]
      exact ih (fun state item listed => each state item (List.mem_cons_of_mem _ listed)) kept

/-- What is reached from a table, but was not visited yet. -/
def unvisited (store : SymbolStore) (root : TableId) (visited : List TableId) : Set TableId :=
  {id | store.Reaches root id ∧ id ∉ visited}

/-- All that is reached is there, and nothing of it is the table of a class. -/
def ReachesPlainTables (store : SymbolStore) (root : TableId) : Prop :=
  ∀ id, store.Reaches root id →
    ∃ table, store.tables.get? id = some table ∧ table.kind ≠ .classTable

variable {root : TableId}

/-- Only finitely many tables are there to be visited. -/
theorem finite_unvisited (plain : store.ReachesPlainTables root) (visited : List TableId) :
    (store.unvisited root visited).Finite := by
  refine (List.finite_toSet (store.tables.entries.map (·.1))).subset fun id isLeft => ?_
  obtain ⟨table, known, -⟩ := plain id isLeft.1
  exact List.mem_map.2 ⟨_, Arena.mem_entries_iff.2 known, rfl⟩

/-- A visit succeeds when at least as many levels are left as there are tables to visit: by
induction on the levels. -/
theorem visit_succeeds (linked : store.Linked) (plain : store.ReachesPlainTables root)
    (name : Name) (limit levels : Nat) {id : TableId} (reached : Reached)
    (reaches : store.Reaches root id)
    (enough : (store.unvisited root reached.visited).ncard ≤ levels) :
    ∃ after, store.visit limit name levels id reached = .ok after := by
  induction levels generalizing id reached with
  | zero =>
      -- Nothing is left to visit, so the table was visited before.
      have again : id ∈ reached.visited := by
        by_contra new
        have none_left := (Set.ncard_eq_zero (finite_unvisited plain _)).1 (Nat.le_zero.1 enough)
        exact Set.notMem_empty id (none_left ▸ ⟨reaches, new⟩)
      exact ⟨reached, by rw [visit, visitStep, if_pos again]⟩
  | succ levels ih =>
      unfold visit visitStep
      split
      · exact ⟨reached, rfl⟩
      · rename_i new
        obtain ⟨table, known, notClass⟩ := plain id reaches
        obtain ⟨role, -, own⟩ :=
          linked.hitsOf_of_listed known (table.entries_subset_listed name)
        rw [table_eq_ok_iff.2 known, ok_bind,
          members_of_own _ (Or.inr (Table.bases_of_not_class notClass)), own, ok_bind]
        -- The table itself is not left to visit any more, and the visits of peers add none.
        refine foldlM_succeeds
          (fun now => (store.unvisited root now.visited).ncard ≤ levels) ?_ ?_
        · intro now peer listed few
          obtain ⟨after, visited⟩ := ih now (reaches.tail ⟨table, known, listed⟩) few
          refine ⟨after, visited, le_trans (Set.ncard_le_ncard ?_ (finite_unvisited plain _)) few⟩
          obtain ⟨order, explored⟩ :=
            explored_of_visit ⟨limit, levels⟩ (Nat.le_refl levels) visited
          intro other isLeft
          refine ⟨isLeft.1, fun before => isLeft.2 ?_⟩
          rw [explored.visited]
          exact List.mem_append_right _ before
        · refine Nat.le_of_lt_succ (lt_of_lt_of_le (Set.ncard_lt_ncard ?_ ?_) enough)
          · refine Set.ssubset_iff_exists.2 ⟨fun other isLeft => ?_, id, ⟨reaches, new⟩, ?_⟩
            · exact ⟨isLeft.1, fun before => isLeft.2 (List.mem_cons_of_mem _ before)⟩
            · exact fun isLeft => isLeft.2 List.mem_cons_self
          · exact finite_unvisited plain _

/-- A search succeeds when it may go as deep as there are tables to reach. -/
theorem findSymbol_succeeds (linked : store.Linked) (plain : store.ReachesPlainTables root)
    (name : Name) {nesting : Nesting}
    (enough : {id | store.Reaches root id}.ncard ≤ nesting.levels) :
    ∃ hits, store.findSymbol nesting root name = .ok hits := by
  have all_left : store.unvisited root [] = {id | store.Reaches root id} := by
    ext id
    simp [unvisited]
  obtain ⟨reached, visited⟩ := visit_succeeds linked plain name nesting.limit nesting.levels
    {} .refl (by rwa [all_left])
  exact ⟨reached.hits, by rw [findSymbol, visited]; rfl⟩

/-- In every store that can be reached, a search that succeeds finds the hits in the tables reached
over peers, in the order in which a depth-first walk visits them: it finds each entity once, and
which ones it finds does not depend on the order of the peers. If the tables reached are there and
none is that of a class, the search succeeds as soon as it may go as deep as there are such
tables. -/
theorem peer_search_of_run (names : NamePool) (operations : List Operation) :
    let store := (SymbolStore.new names).run operations
    ∀ id name limit,
      (∀ hits, store.findSymbol (.start limit) id name = .ok hits →
        hits.entities.Nodup ∧
        (∃ (order : List TableId) (results : List Hits),
          store.VisitOrder [] [id] order ∧ order.Nodup ∧
          (∀ table, table ∈ order ↔ store.Reaches id table) ∧
          List.Forall₂ (fun table found => store.hitsIn (.start limit) name table = .ok found)
            order results ∧
          hits = .ofList (results.flatMap (·.toList)) ∧
          hits.entities = (results.flatMap (·.entities)).eraseDups) ∧
        (∀ entity, entity ∈ hits.entities ↔ ∃ table found, store.Reaches id table ∧
          store.hitsIn (.start limit) name table = .ok found ∧ entity ∈ found.entities) ∧
        ∀ (store' : SymbolStore) (hits' : Hits), store.Rearranged store' →
          store'.findSymbol (.start limit) id name = .ok hits' →
            ∀ entity, entity ∈ hits'.entities ↔ entity ∈ hits.entities) ∧
      (store.ReachesPlainTables id → {table | store.Reaches id table}.ncard ≤ limit →
        ∃ hits, store.findSymbol (.start limit) id name = .ok hits) := by
  intro store id name limit
  have linked : store.Linked := ((sound_new names).run operations).linked
  refine ⟨fun hits success => ?_, fun plain enough => findSymbol_succeeds linked plain name enough⟩
  obtain ⟨order, results, walk, each, rfl⟩ := findSymbol_explores success
  refine ⟨Hits.nodup_entities_ofList _, ?_, fun entity => mem_findSymbol_iff success, ?_⟩
  · refine ⟨order, results, walk, walk.nodup.1, fun table => walk.mem_iff, each, rfl, ?_⟩
    rw [Hits.entities_ofList, List.map_flatMap]
    rfl
  · exact fun store' hits' rearranged success' =>
      rearranged.findSymbol_entities success success'

/-- Two namespaces that are peers of each other, with an enumeration in the first. -/
def peersInCircle : List Operation :=
  let root := (SymbolStore.new {}).global
  [.addEntity root { name := ⟨0⟩, kind := .namespaceDecl },
    .addEntity root { name := ⟨1⟩, kind := .namespaceDecl },
    .addEntity ⟨1, 0⟩ { name := ⟨2⟩, kind := .enumDecl }, .addPeer ⟨1, 0⟩ ⟨2, 0⟩,
    .addPeer ⟨2, 0⟩ ⟨1, 0⟩]

/-- From the second namespace, two tables are reached, and a search that may go two levels deep
finds the enumeration, once. -/
theorem peersInCircle_searched :
    let store := (SymbolStore.new {}).run peersInCircle
    (store.ReachesPlainTables ⟨2, 0⟩ ∧ {table | store.Reaches ⟨2, 0⟩ table}.ncard ≤ 2) ∧
      ∃ hits, store.findSymbol (.start 2) ⟨2, 0⟩ ⟨2⟩ = .ok hits ∧ hits.entities.Nodup ∧
        hits.entities = [⟨2, 0⟩] := by
  intro store
  have only_peer {id only peer : TableId}
      (shown : (store.tables.get? id).map (·.peers) = some [only]) (uses : store.Uses id peer) :
      peer = only := by
    obtain ⟨table, known, isPeer⟩ := uses
    rw [known, Option.map_some, Option.some.injEq] at shown
    rwa [shown, List.mem_singleton] at isPeer
  have among {id : TableId} (reaches : store.Reaches ⟨2, 0⟩ id) :
      id ∈ ({⟨1, 0⟩, ⟨2, 0⟩} : Set TableId) := by
    induction reaches with
    | refl => exact Or.inr rfl
    | tail _ uses before =>
        rcases before with rfl | rfl
        · exact Or.inr (only_peer (by decide +kernel) uses)
        · exact Or.inl (only_peer (by decide +kernel) uses)
  have plain : store.ReachesPlainTables ⟨2, 0⟩ := by
    intro id reaches
    have shown : (store.tables.get? id).map (·.kind) = some .namespaceTable := by
      rcases among reaches with rfl | rfl <;> decide +kernel
    obtain ⟨table, known, kind⟩ := Option.map_eq_some_iff.1 shown
    exact ⟨table, known, by rw [kind]; decide⟩
  have enough : {table | store.Reaches ⟨2, 0⟩ table}.ncard ≤ 2 :=
    calc {table | store.Reaches ⟨2, 0⟩ table}.ncard
        ≤ ({⟨1, 0⟩, ⟨2, 0⟩} : Set TableId).ncard :=
          Set.ncard_le_ncard (fun _ => among) (Set.toFinite _)
      _ = 2 := Set.ncard_pair (by decide)
  obtain ⟨finds, succeeds⟩ := peer_search_of_run {} peersInCircle ⟨2, 0⟩ ⟨2⟩ 2
  obtain ⟨hits, success⟩ := succeeds plain enough
  have enumeration : store.findSymbol (.start 2) ⟨2, 0⟩ ⟨2⟩ = .ok ⟨[⟨⟨2, 0⟩, .enum⟩]⟩ := by
    decide +kernel
  have same := success.symm.trans enumeration
  rw [Except.ok.injEq] at same
  exact ⟨⟨plain, enough⟩, hits, success, (finds hits success).1, by rw [same]; rfl⟩

end SymbolStore

end ScopeResolution

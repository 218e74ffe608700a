import ScopeResolution.Lookup.Unqualified
import ScopeResolution.Proofs.SymbolStore.References

/-! # Searches in a store without broken references

A search goes from the open tables over peers and bases to further tables, and over aliases to what
they stand for. In a store with sound links in which every such reference leads somewhere
(`Searchable`), it never meets a stale handle: it finds entities that are there, or it is nested too
deep, and there is no other way to fail (`Answers`). The main statement is `resolve_answers`. -/

namespace ScopeResolution

/-- An answer is as wanted, or missing because the lookup is nested too deep. -/
def Answers {α : Type} (wanted : α → Prop) : Except Failure α → Prop
  | .ok value => wanted value
  | .error failure => ∃ limit, failure = .recursionLimit limit

namespace Answers

variable {α β : Type} {wanted : α → Prop}

/-- An answer that is missing because the lookup is nested too deep. -/
theorem tooDeep (limit : Nat) : Answers wanted (.error (.recursionLimit limit)) := ⟨limit, rfl⟩

/-- A step whose answer is used by a second one. -/
theorem bind {step : Except Failure β} {next : β → Except Failure α} {between : β → Prop}
    (first : Answers between step) (second : ∀ value, between value → Answers wanted (next value)) :
    Answers wanted (step >>= next) := by
  cases step with
  | ok value => exact second value first
  | error failure => exact first

/-- Steps over a list, each of which keeps what is wanted. -/
theorem foldlM {step : α → β → Except Failure α} {list : List β} {start : α}
    (holds : wanted start)
    (each : ∀ state, ∀ item ∈ list, wanted state → Answers wanted (step state item)) :
    Answers wanted (list.foldlM step start) := by
  induction list generalizing start with
  | nil => exact holds
  | cons first rest ih =>
      refine bind (each start first List.mem_cons_self holds) fun state kept => ih kept ?_
      exact fun state item listed => each state item (List.mem_cons_of_mem _ listed)

/-- Such an answer is never missing because of a stale handle. -/
theorem ne_staleHandle {answer : Except Failure α} (answers : Answers wanted answer)
    (what : Referent) : answer ≠ .error (.staleHandle what) := by
  rintro rfl
  obtain ⟨limit, same⟩ := answers
  cases same

end Answers

namespace SymbolStore

/-- A store can be searched when its links are sound and no reference leads to what is gone. -/
structure Searchable (store : SymbolStore) : Prop where
  /-- The links are sound. -/
  linked : store.Linked
  /-- What is referred to is there. -/
  unbroken : ∀ id reference, store.Refers id reference → store.Has reference

/-- All entities found are there. -/
def AllKnown (store : SymbolStore) (hits : Hits) : Prop := ∀ id ∈ hits.entities, store.Known id

variable {store : SymbolStore} {hits : Hits} {id : EntityId}

/-- One more known hit. -/
theorem AllKnown.add (allKnown : store.AllKnown hits) (known : store.Known id) (role : Role) :
    store.AllKnown (hits.add ⟨id, role⟩) := by
  intro other found
  rcases Hits.mem_entities_add.1 found with older | rfl
  · exact allKnown other older
  · exact known

/-- More known hits. -/
theorem AllKnown.extend (allKnown : store.AllKnown hits) {more : Hits}
    (moreKnown : store.AllKnown more) : store.AllKnown (hits.extend more.toList) := by
  intro other found
  rcases Hits.mem_entities_extend.1 found with older | new
  · exact allKnown other older
  · exact moreKnown other new

/-- No hits are known hits. -/
theorem allKnown_empty : store.AllKnown .empty := fun _ found => (List.not_mem_nil found).elim

/-- The role of a known entity is found. -/
theorem roleOf_answers (known : store.Known id) : Answers (fun _ => True) (store.roleOf id) := by
  obtain ⟨entity, table, entityKnown, tableKnown⟩ := known
  rw [roleOf_eq_ok entityKnown tableKnown]
  trivial

/-- Known entities are found. -/
theorem hitsOf_answers {entities : List EntityId} (known : ∀ id ∈ entities, store.Known id) :
    Answers store.AllKnown (store.hitsOf entities) := by
  refine .foldlM allKnown_empty fun hits id listed allKnown => ?_
  exact .bind (roleOf_answers (known id listed)) fun role _ => allKnown.add (known id listed) role

namespace Searchable

variable (searchable : store.Searchable)

include searchable

/-- What a table lists is known. -/
theorem known_of_listed {id : TableId} {table : Table} {member : EntityId}
    (known : store.tables.get? id = some table) (listed : member ∈ table.listed) :
    store.Known member := by
  obtain ⟨entity, found, owner⟩ := searchable.linked.listed id table known member listed
  exact ⟨entity, table, found, by rw [owner, known]⟩

/-- The own entries of a table are found. -/
theorem findInScope_answers {id : TableId} {table : Table}
    (known : store.tables.get? id = some table) (name : Name) :
    Answers store.AllKnown (store.findInScope id name) := by
  rw [findInScope_eq_hitsOf known]
  exact hitsOf_answers fun member entry =>
    searchable.known_of_listed known (table.entries_subset_listed name entry)

/-- The class of a known base is found. -/
theorem baseTable?_answers {base : EntityId} (known : store.Known base) :
    Answers (fun table? => ∀ table, table? = some table →
      ∃ id, store.tables.get? id = some table) (store.baseTable? base) := by
  obtain ⟨entity, -, found, -⟩ := known
  unfold baseTable?
  rw [entity_eq_ok_iff.2 found, ok_bind]
  cases body : entity.body with
  | none => exact fun _ same => nomatch same
  | some region =>
      obtain ⟨table, regionKnown, -⟩ := searchable.linked.body base entity region found body
      simp only [table_eq_ok_iff.2 regionKnown, ok_bind]
      intro other same
      split at same
      · cases same; exact ⟨region, regionKnown⟩
      · cases same

/-- A search one level deep is answered when searches in further tables are. -/
theorem memberStep_answers (name : Name) {deeper : Table → Except Failure Hits}
    (further : ∀ id table, store.tables.get? id = some table →
      Answers store.AllKnown (deeper table)) {id : TableId} {table : Table}
    (known : store.tables.get? id = some table) :
    Answers store.AllKnown (store.memberStep name deeper table) := by
  unfold memberStep
  split
  · refine .foldlM allKnown_empty fun hits base listed allKnown => ?_
    have refers : store.Refers id (.entity base.entity) :=
      .onward known (List.mem_append_right _ (List.mem_map.2 ⟨base, listed, rfl⟩))
    refine .bind (searchable.baseTable?_answers (searchable.unbroken id _ refers)) ?_
    intro table? isKnown
    cases table? with
    | none => exact allKnown
    | some baseTable =>
        obtain ⟨baseId, baseKnown⟩ := isKnown baseTable rfl
        exact .bind (further baseId baseTable baseKnown) fun inherited inheritedKnown =>
          allKnown.extend inheritedKnown
  · exact hitsOf_answers fun member entry =>
      searchable.known_of_listed known (table.entries_subset_listed name entry)

/-- The members of a table, inherited ones included, are found unless the classes are nested too
deep: by induction on the levels that are left. -/
theorem members_answers (limit levels : Nat) (name : Name) {id : TableId} {table : Table}
    (known : store.tables.get? id = some table) :
    Answers store.AllKnown (store.members ⟨limit, levels⟩ name table) := by
  unfold members
  induction levels generalizing id table with
  | zero => exact searchable.memberStep_answers name (fun _ _ _ => .tooDeep limit) known
  | succ levels ih => exact searchable.memberStep_answers name (fun _ _ known => ih known) known

/-- A visit is answered when the visits of further tables are. -/
theorem visitStep_answers {own : Table → Except Failure Hits}
    {deeper : TableId → Reached → Except Failure Reached}
    (found : ∀ id table, store.tables.get? id = some table → Answers store.AllKnown (own table))
    (further : ∀ id table reached, store.tables.get? id = some table →
      store.AllKnown reached.hits →
        Answers (fun reached => store.AllKnown reached.hits) (deeper id reached))
    {id : TableId} {table : Table} {reached : Reached}
    (known : store.tables.get? id = some table) (allKnown : store.AllKnown reached.hits) :
    Answers (fun reached => store.AllKnown reached.hits)
      (store.visitStep own deeper id reached) := by
  unfold visitStep
  split
  · exact allKnown
  · rw [table_eq_ok_iff.2 known, ok_bind]
    refine .bind (found id table known) fun hits hitsKnown => ?_
    refine .foldlM (allKnown.extend hitsKnown) fun reached peer listed reachedKnown => ?_
    have refers : store.Refers id (.table peer) :=
      .onward known (List.mem_append_left _ (List.mem_map.2 ⟨peer, listed, rfl⟩))
    obtain ⟨peerTable, peerKnown⟩ := searchable.unbroken id _ refers
    exact further peer peerTable reached peerKnown reachedKnown

/-- The tables reachable over peers are visited unless they are nested too deep: by induction on the
levels that are left. -/
theorem visit_answers (limit levels : Nat) (name : Name) {id : TableId} {table : Table}
    {reached : Reached} (known : store.tables.get? id = some table)
    (allKnown : store.AllKnown reached.hits) :
    Answers (fun reached => store.AllKnown reached.hits)
      (store.visit limit name levels id reached) := by
  induction levels generalizing id table reached with
  | zero =>
      unfold visit
      exact searchable.visitStep_answers
        (fun _ _ known => searchable.members_answers limit 0 name known)
        (fun _ _ _ _ _ => .tooDeep limit) known allKnown
  | succ levels ih =>
      unfold visit
      exact searchable.visitStep_answers
        (fun _ _ known => searchable.members_answers limit (levels + 1) name known)
        (fun _ _ _ known allKnown => ih known allKnown) known allKnown

/-- A name is looked up in a table that is there. -/
theorem lookIn_answers (nesting : Nesting) (reach : Reach) (name : Name) {id : TableId}
    {table : Table} (known : store.tables.get? id = some table) :
    Answers store.AllKnown (store.lookIn nesting reach name id) := by
  cases reach with
  | symbol =>
      have visited : Answers (fun reached => store.AllKnown reached.hits)
          (store.visit nesting.limit name nesting.levels id {}) :=
        searchable.visit_answers nesting.limit nesting.levels name known allKnown_empty
      exact .bind visited fun reached allKnown => allKnown
  | scope => exact searchable.findInScope_answers known name

/-- A name is looked up in tables that are there. -/
theorem firstHits_answers (nesting : Nesting) (reach : Reach) (name : Name) {tables : List TableId}
    (known : ∀ id ∈ tables, ∃ table, store.tables.get? id = some table) :
    Answers store.AllKnown (store.firstHits nesting reach name tables) := by
  induction tables with
  | nil => exact allKnown_empty
  | cons first rest ih =>
      obtain ⟨table, firstKnown⟩ := known first List.mem_cons_self
      refine .bind (searchable.lookIn_answers nesting reach name firstKnown) fun hits allKnown => ?_
      split
      · exact ih fun id listed => known id (List.mem_cons_of_mem _ listed)
      · exact allKnown

/-- What known hits stand for is found: an alias refers to what is there. -/
theorem classify_answers (allKnown : store.AllKnown hits) :
    Answers (fun found => store.AllKnown found.hits) (store.classify hits) := by
  refine .foldlM allKnown_empty fun found hit listed foundKnown => ?_
  have hitKnown := allKnown hit.entity (List.mem_map_of_mem listed)
  obtain ⟨entity, -, entityKnown, -⟩ := id hitKnown
  unfold follow
  rw [entity_eq_ok_iff.2 entityKnown, ok_bind]
  cases stands : entity.kind.aliasedEntity? with
  | none => exact foundKnown.add hitKnown hit.role
  | some target =>
      have targetKnown := searchable.unbroken _ _ (.standIn entityKnown stands)
      exact .bind (roleOf_answers targetKnown) fun role _ => foundKnown.add targetKnown role

/-- A name is looked up in the open tables, or in one table, when these are there: the lookup finds
entities that are there, or it is nested too deep. -/
theorem resolve_answers {scopes : OpenScopes}
    (isOpen : ∀ id ∈ scopes.toList, ∃ table, store.tables.get? id = some table) (nesting : Nesting)
    (reach : Reach) {start : Option TableId}
    (starts : ∀ id, start = some id → ∃ table, store.tables.get? id = some table) (name : Name) :
    Answers (fun found => store.AllKnown found.hits)
      (store.resolve scopes nesting reach start name) := by
  unfold resolve
  cases start with
  | none =>
      exact .bind (searchable.firstHits_answers nesting reach name isOpen) fun hits allKnown =>
        searchable.classify_answers allKnown
  | some id =>
      obtain ⟨table, known⟩ := starts id rfl
      exact .bind (searchable.lookIn_answers nesting reach name known) fun hits allKnown =>
        searchable.classify_answers allKnown

end Searchable

end SymbolStore

end ScopeResolution

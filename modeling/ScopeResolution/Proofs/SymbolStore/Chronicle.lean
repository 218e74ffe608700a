import ScopeResolution.Proofs.SymbolStore.Catalogue

/-! # The declarations behind a store

A store does not remember in which order its entities were declared. A chronicle does: it is a list
of declarations, one for each entity of the store, and it says what the tables list and in which
order (`Chronicle`). Edits that file nothing leave a chronicle as it is (`Chronicle.edit`), and when
a table is released, the declarations of the entities that are gone are struck out
(`Chronicle.released`). -/

namespace ScopeResolution

/-- An entity, with the declaration that filed it. -/
structure DeclaredEntity where
  /-- The table that it was declared in. -/
  target : TableId
  /-- What was declared. -/
  draft : Draft
  /-- The handle that it got, and its index. -/
  filed : Filed
deriving Inhabited

namespace DeclaredEntity

/-- The handle of the entity. -/
def id (declared : DeclaredEntity) : EntityId := declared.filed.entity

/-- The entity is one of those that lookups in a table find under a name. Constructors and labels
are found in other ways. -/
def EntryOf (declared : DeclaredEntity) (table : TableId) (name : Name) : Prop :=
  declared.target = table ∧ declared.draft.name = name ∧
    declared.draft.kind.slot ≠ .constructor ∧ declared.draft.kind.slot ≠ .label

instance (declared : DeclaredEntity) (table : TableId) (name : Name) :
    Decidable (declared.EntryOf table name) :=
  inferInstanceAs (Decidable (_ ∧ _ ∧ _ ∧ _))

/-- The entity is one of the constructors of a table. -/
def ConstructorOf (declared : DeclaredEntity) (table : TableId) : Prop :=
  declared.target = table ∧ declared.draft.kind.slot = .constructor

instance (declared : DeclaredEntity) (table : TableId) : Decidable (declared.ConstructorOf table) :=
  inferInstanceAs (Decidable (_ ∧ _))

end DeclaredEntity

variable {history : List DeclaredEntity} {declared : DeclaredEntity}

/-- The entities that lookups in a table find under a name, in the order of their declarations. -/
def entriesIn (history : List DeclaredEntity) (table : TableId) (name : Name) : List EntityId :=
  (history.filter (·.EntryOf table name)).map (·.id)

/-- The constructors of a table, in the order of their declarations. -/
def constructorsIn (history : List DeclaredEntity) (table : TableId) : List EntityId :=
  (history.filter (·.ConstructorOf table)).map (·.id)

/-- One more declaration puts an entity at the end of the entries that it is one of. -/
theorem entriesIn_append (table : TableId) (name : Name) :
    entriesIn (history ++ [declared]) table name =
      entriesIn history table name ++
        if declared.EntryOf table name then [declared.id] else [] := by
  unfold entriesIn
  rw [List.filter_append, List.map_append]
  by_cases isEntry : declared.EntryOf table name <;> simp [isEntry]

/-- One more declaration puts an entity at the end of the constructors that it is one of. -/
theorem constructorsIn_append (table : TableId) :
    constructorsIn (history ++ [declared]) table =
      constructorsIn history table ++
        if declared.ConstructorOf table then [declared.id] else [] := by
  unfold constructorsIn
  rw [List.filter_append, List.map_append]
  by_cases isConstructor : declared.ConstructorOf table <;> simp [isConstructor]

/-! ## What a table lists -/

/-- A table lists what was declared in it, in the order of the declarations, and the index of each
member is its place there. -/
structure Table.Follows (table : Table) (id : TableId) (history : List DeclaredEntity) : Prop where
  /-- The entries under a name are in order. -/
  entries_eq : ∀ name, table.entries name = entriesIn history id name
  /-- The constructors are in order. -/
  constructors_eq : table.constructors = constructorsIn history id
  /-- Members are where their indices say. -/
  index : ∀ declared ∈ history, declared.target = id →
    declared.draft.kind.slot.isMember = true →
      (table.entries declared.draft.name)[declared.filed.index]? = some declared.id

namespace Table.Follows

variable {table after : Table} {id : TableId}

/-- A table without entries lists what was declared in it if nothing was. -/
theorem empty (entries : ∀ name, table.entries name = []) (constructors : table.constructors = [])
    (none : ∀ declared ∈ history, declared.target ≠ id) : table.Follows id history where
  entries_eq name := by
    have noEntries : history.filter (·.EntryOf id name) = [] :=
      List.filter_eq_nil_iff.2 fun declared listed isEntry =>
        none declared listed (of_decide_eq_true isEntry).1
    rw [entries, entriesIn, noEntries, List.map_nil]
  constructors_eq := by
    have noConstructors : history.filter (·.ConstructorOf id) = [] :=
      List.filter_eq_nil_iff.2 fun declared listed isConstructor =>
        none declared listed (of_decide_eq_true isConstructor).1
    rw [constructors, constructorsIn, noConstructors, List.map_nil]
  index declared listed isTarget := absurd isTarget (none declared listed)

/-- A table that lists the same lists what was declared in it. -/
theorem congr (follows : table.Follows id history)
    (entries : ∀ name, after.entries name = table.entries name)
    (constructors : after.constructors = table.constructors) : after.Follows id history where
  entries_eq name := (entries name).trans (follows.entries_eq name)
  constructors_eq := constructors.trans follows.constructors_eq
  index declared listed isTarget isMember := by
    rw [entries]
    exact follows.index declared listed isTarget isMember

/-- Declarations in other tables may be struck out. -/
theorem filter (follows : table.Follows id history) {keeps : DeclaredEntity → Bool}
    (kept : ∀ declared ∈ history, declared.target = id → keeps declared = true) :
    table.Follows id (history.filter keeps) := by
  -- What is picked out of the history belongs to this table, so none of it is struck out.
  have same (picks : DeclaredEntity → Bool)
      (own : ∀ declared, picks declared = true → declared.target = id) :
      (history.filter keeps).filter picks = history.filter picks := by
    rw [List.filter_filter]
    refine List.filter_congr fun declared listed => ?_
    by_cases picked : picks declared = true
    · rw [picked, kept declared listed (own declared picked)]
      rfl
    · rw [Bool.not_eq_true] at picked
      rw [picked]
      rfl
  constructor
  · intro name
    rw [follows.entries_eq, entriesIn, entriesIn, same _ fun _ isEntry =>
      (of_decide_eq_true isEntry).1]
  · rw [follows.constructors_eq, constructorsIn, constructorsIn, same _ fun _ isConstructor =>
      (of_decide_eq_true isConstructor).1]
  · intro declared listed
    exact follows.index declared (List.mem_of_mem_filter listed)

/-- A declaration in another table changes nothing. -/
theorem append_of_ne (follows : table.Follows id history) (other : declared.target ≠ id) :
    table.Follows id (history ++ [declared]) where
  entries_eq name := by
    have notEntry : ¬ declared.EntryOf id name := fun isEntry => other isEntry.1
    rw [entriesIn_append, if_neg notEntry, List.append_nil, follows.entries_eq]
  constructors_eq := by
    have notConstructor : ¬ declared.ConstructorOf id := fun isConstructor => other isConstructor.1
    rw [constructorsIn_append, if_neg notConstructor, List.append_nil, follows.constructors_eq]
  index earlier listed isTarget := by
    rcases List.mem_append.1 listed with known | new
    · exact follows.index earlier known isTarget
    · rw [List.mem_singleton.1 new] at isTarget
      exact absurd isTarget other

/-- A table that takes in what is declared goes on listing what was declared in it, if members and
parameters do not share names. -/
theorem append (follows : table.Follows id history) (isTarget : declared.target = id)
    (filing : table.Filing declared.draft.name declared.id declared.draft.kind.slot after)
    (shown : declared.draft.kind.slot.isMember = true →
      table.entries declared.draft.name = table.members.get declared.draft.name)
    (unhidden : declared.draft.kind.slot = .parameter →
      table.members.get declared.draft.name = [])
    (index : declared.draft.kind.slot.isMember = true →
      declared.filed.index = (table.members.get declared.draft.name).length) :
    after.Follows id (history ++ [declared]) := by
  have entries (name : Name) := filing.entries_append shown unhidden name
  constructor
  · intro name
    rw [entries, follows.entries_eq, entriesIn_append]
    congr 2
    simp only [DeclaredEntity.EntryOf, isTarget, true_and, eq_comm]
  · rw [filing.constructors_append, follows.constructors_eq, constructorsIn_append]
    simp only [DeclaredEntity.ConstructorOf, isTarget, true_and]
  · intro earlier listed ofTable isMember
    rw [entries]
    rcases List.mem_append.1 listed with known | new
    · have place := follows.index earlier known ofTable isMember
      rw [List.getElem?_append_left (List.getElem?_eq_some_iff.1 place).1, place]
    · rw [List.mem_singleton.1 new] at isMember ⊢
      rw [if_pos ⟨rfl, EntrySlot.ne_of_isMember isMember⟩, shown isMember, index isMember,
        List.getElem?_concat_length]

end Table.Follows

namespace SymbolStore

/-! ## What a store holds -/

/-- A history of declarations, one for each entity of a store. -/
structure Chronicle (store : SymbolStore) (history : List DeclaredEntity) : Prop where
  /-- What was declared is there. -/
  known : ∀ declared ∈ history, ∃ entity, store.entities.get? declared.id = some entity ∧
    declared.draft.Describes declared.target entity
  /-- What is there was declared. -/
  complete : ∀ id entity, store.entities.get? id = some entity →
    ∃ declared ∈ history, declared.id = id
  /-- No entity was declared twice. -/
  distinct : (history.map (·.id)).Nodup
  /-- Every table lists what was declared in it, in order. -/
  follows : ∀ id table, store.tables.get? id = some table → table.Follows id history

/-- The declarations whose entities are still there. -/
def remaining (store : SymbolStore) (history : List DeclaredEntity) : List DeclaredEntity :=
  history.filter fun declared => store.entities.contains declared.id

variable {store before after : SymbolStore}

/-- Nothing was declared in the store that holds nothing but the global table. -/
theorem chronicle_new (names : NamePool) : (SymbolStore.new names).Chronicle [] where
  known declared listed := absurd listed List.not_mem_nil
  complete id entity known := by cases (Arena.get?_empty id).symm.trans known
  distinct := List.nodup_nil
  follows id table known := by
    rw [(only_global known).2]
    exact .empty (fun _ => rfl) rfl fun declared listed => absurd listed List.not_mem_nil

namespace Chronicle

/-- Nothing in a chronicle, or in a part of it, is to be struck out. -/
theorem remaining_eq (chronicle : store.Chronicle history) {part : List DeclaredEntity}
    (among : part ⊆ history) : store.remaining part = part := by
  refine List.filter_eq_self.2 fun declared listed => ?_
  obtain ⟨entity, known, -⟩ := chronicle.known declared (among listed)
  exact (Arena.contains_eq_true_iff _ _).2 ⟨entity, known⟩

/-- Nothing that is there was declared in a table that is not. -/
theorem target_ne_of_stale (chronicle : store.Chronicle history)
    (catalogued : store.Catalogued fun _ => True) {table : TableId}
    (stale : store.tables.get? table = none) (listed : declared ∈ history) :
    declared.target ≠ table := by
  rintro rfl
  obtain ⟨entity, known, describes⟩ := chronicle.known declared listed
  obtain ⟨owner, ownerKnown, -⟩ := catalogued.listed declared.id entity known trivial
  rw [describes.owner_eq, stale] at ownerKnown
  cases ownerKnown

/-- What is picked out of a chronicle is what fits in the store. -/
theorem mem_picked_iff (chronicle : store.Chronicle history) {picks : DeclaredEntity → Prop}
    [DecidablePred picks] {fits : Entity → Prop}
    (same : ∀ declared entity, declared.draft.Describes declared.target entity →
      (picks declared ↔ fits entity))
    {id : EntityId} : id ∈ (history.filter (picks ·)).map (·.id) ↔
      ∃ entity, store.entities.get? id = some entity ∧ fits entity := by
  simp only [List.mem_map, List.mem_filter, decide_eq_true_eq]
  constructor
  · rintro ⟨declared, ⟨listed, picked⟩, rfl⟩
    obtain ⟨entity, known, describes⟩ := chronicle.known declared listed
    exact ⟨entity, known, (same declared entity describes).1 picked⟩
  · rintro ⟨entity, known, fit⟩
    obtain ⟨declared, listed, rfl⟩ := chronicle.complete id entity known
    obtain ⟨entity', known', describes⟩ := chronicle.known declared listed
    rw [known, Option.some.injEq] at known'
    subst known'
    exact ⟨declared, ⟨listed, (same declared entity describes).2 fit⟩, rfl⟩

/-- The entries of a table under a name are the entities that belong to it and have that name,
constructors and labels apart. -/
theorem mem_entriesIn_iff (chronicle : store.Chronicle history) {table : TableId} {name : Name}
    {id : EntityId} : id ∈ entriesIn history table name ↔
      ∃ entity, store.entities.get? id = some entity ∧ entity.owner = table ∧ entity.name = name ∧
        entity.kind.slot ≠ .constructor ∧ entity.kind.slot ≠ .label :=
  chronicle.mem_picked_iff fun declared entity describes => by
    rw [describes.owner_eq, describes.name_eq, describes.kind_eq, DeclaredEntity.EntryOf]

/-- The constructors of a table are the constructors that belong to it. -/
theorem mem_constructorsIn_iff (chronicle : store.Chronicle history) {table : TableId}
    {id : EntityId} : id ∈ constructorsIn history table ↔
      ∃ entity, store.entities.get? id = some entity ∧ entity.owner = table ∧
        entity.kind.slot = .constructor :=
  chronicle.mem_picked_iff fun declared entity describes => by
    rw [describes.owner_eq, describes.kind_eq, DeclaredEntity.ConstructorOf]

/-- What is picked out of a chronicle is on distinct entities. -/
theorem nodup_picked (chronicle : store.Chronicle history) (picks : DeclaredEntity → Bool) :
    ((history.filter picks).map (·.id)).Nodup :=
  chronicle.distinct.sublist (List.filter_sublist.map _)

/-- A chronicle is one of every store that holds the same. -/
theorem congr (chronicle : before.Chronicle history)
    (entities : after.entities.get? = before.entities.get?)
    (tables : after.tables.get? = before.tables.get?) : after.Chronicle history where
  known declared listed := by
    rw [entities]
    exact chronicle.known declared listed
  complete id entity found := chronicle.complete id entity (by rw [← entities, found])
  distinct := chronicle.distinct
  follows id table found := chronicle.follows id table (by rw [← tables, found])

/-- An edit that files nothing leaves a chronicle as it is. -/
theorem edit (chronicle : before.Chronicle history)
    (catalogued : before.Catalogued fun _ => True) {change : Change}
    (edit : Edit before change after)
    (filesNone : ∀ target draft id, change ≠ .file target draft id) : after.Chronicle history where
  known declared listed := by
    obtain ⟨entity, known, describes⟩ := chronicle.known declared listed
    obtain ⟨later, laterFound, altered⟩ := edit.entity_later known
    exact ⟨later, laterFound, altered.describes describes⟩
  complete id entity found := by
    cases known : before.entities.get? id with
    | some old => exact chronicle.complete id old known
    | none =>
        obtain ⟨target, draft, -, -, same, -⟩ := edit.entity_origin known found
        exact absurd same (filesNone target draft id)
  distinct := chronicle.distinct
  follows id table found := by
    cases known : before.tables.get? id with
    | some old =>
        have follows := chronicle.follows id old known
        cases edit.alters known found with
        | keep => exact follows
        | revise revision =>
            have same := revision.sameContents
            exact follows.congr same.entries_eq same.constructors_eq
        | file => exact absurd rfl (filesNone _ _ _)
    | none =>
        have untargeted (declared : DeclaredEntity) (listed : declared ∈ history) :
            declared.target ≠ id := chronicle.target_ne_of_stale catalogued known listed
        rcases edit.table_origin known found with ⟨_, _, -, -, opened, -⟩ | ⟨_, _, -, rfl⟩
        · exact .empty opened.entries_eq opened.constructors_eq untargeted
        · exact .empty (fun _ => rfl) rfl untargeted

/-- When a table is released, the declarations of what is gone are struck out. -/
theorem released (chronicle : before.Chronicle history) (linked : before.Linked) {id : TableId}
    (released : Released before id after) : after.Chronicle (after.remaining history) where
  known declared listed := by
    obtain ⟨listed, remains⟩ := List.mem_filter.1 listed
    obtain ⟨entity, found⟩ := (Arena.contains_eq_true_iff _ _).1 remains
    obtain ⟨old, known, rfl, -⟩ := released.entity_left found
    obtain ⟨old', known', describes⟩ := chronicle.known declared listed
    rw [known, Option.some.injEq] at known'
    subst known'
    exact ⟨_, found, describes.forget id⟩
  complete member entity found := by
    obtain ⟨old, known, -⟩ := released.entity_left found
    obtain ⟨declared, listed, rfl⟩ := chronicle.complete member old known
    have remains := (Arena.contains_eq_true_iff after.entities declared.id).2 ⟨entity, found⟩
    exact ⟨declared, List.mem_filter.2 ⟨listed, remains⟩, rfl⟩
  distinct := chronicle.nodup_picked _
  follows inner table found := by
    obtain ⟨known, isOutside⟩ := released.table_left found
    refine (chronicle.follows inner table known).filter fun declared listed isTarget => ?_
    obtain ⟨entity, entityKnown, describes⟩ := chronicle.known declared listed
    have outside : ¬ before.Within id entity.owner := by rwa [describes.owner_eq, isTarget]
    exact (Arena.contains_eq_true_iff _ _).2 ⟨_, released.entity_stays linked entityKnown outside⟩

end Chronicle

end SymbolStore

end ScopeResolution

import ScopeResolution.Proofs.Lookup.BasePaths

/-! # Where inherited members come from

The lookup of a member goes from a class to its body and from there to the bodies of its bases, and
stops at the first own entries on each way. What it finds is declared by a class that the first one
is derived from, or by the first one itself (`declared_of_classLookup`). The search for a path of
bases goes from class to class and stops nowhere, so it cannot miss such a class without failing
(`unreached_of_basePath`). Neither needs to know that the bases are there: an answer shows that
everything on the way to it is. -/

namespace ScopeResolution

/-- A loop of steps that keep an invariant ends with it. -/
theorem foldlM_keeps {α β : Type} {step : α → β → Except Failure α} (invariant : α → Prop)
    {list : List β} {start result : α} (holds : invariant start)
    (success : list.foldlM step start = .ok result)
    (each : ∀ state, ∀ item ∈ list, ∀ next, invariant state → step state item = .ok next →
      invariant next) : invariant result := by
  induction list generalizing start with
  | nil =>
      cases success
      exact holds
  | cons first rest ih =>
      rw [List.foldlM_cons] at success
      obtain ⟨middle, first_eq, rest_eq⟩ := bind_eq_ok_iff.1 success
      exact ih (each start first List.mem_cons_self middle holds first_eq) rest_eq
        fun state item listed => each state item (List.mem_cons_of_mem _ listed)

namespace SymbolStore

variable {store : SymbolStore} {name : Name}

/-- A hit shows an entity in its role. -/
def Sees (store : SymbolStore) (hit : Hit) : Prop := store.roleOf hit.entity = .ok hit.role

/-- The role of an entity is told by its kind and by whether a class lists it. -/
theorem kind_of_roleOf {id : EntityId} {role : Role} (told : store.roleOf id = .ok role) :
    ∃ entity member, store.entities.get? id = some entity ∧ role = entity.kind.role member := by
  obtain ⟨entity, known, told⟩ := bind_eq_ok_iff.1 told
  obtain ⟨owner, -, told⟩ := bind_eq_ok_iff.1 told
  cases told
  exact ⟨entity, _, entity_eq_ok_iff.1 known, rfl⟩

/-- The hits on some entities show these in their roles. -/
theorem sees_of_hitsOf {entities : List EntityId} {hits : Hits}
    (looked : store.hitsOf entities = .ok hits) :
    ∀ hit ∈ hits.toList, hit.entity ∈ entities ∧ store.Sees hit := by
  obtain ⟨role, roles, found⟩ := exists_hitsOf (roleOf_of_hitsOf looked)
  rw [looked, Except.ok.injEq] at found
  subst found
  intro hit isHit
  obtain ⟨id, listed, rfl⟩ := List.mem_map.1 (Hits.mem_ofList isHit)
  exact ⟨listed, roles id listed⟩

/-- A table is that of a class, and the body of an entity. -/
def ClassBodyOf (store : SymbolStore) (id : EntityId) (table : Table) : Prop :=
  ∃ entity region, store.entities.get? id = some entity ∧ entity.body = some region ∧
    store.tables.get? region = some table ∧ table.kind = .classTable

/-- A class declares a member under a name itself. -/
def Declares (store : SymbolStore) (id : EntityId) (name : Name) (member : EntityId) : Prop :=
  ∃ table, store.ClassBodyOf id table ∧ member ∈ table.entries name

/-- A class, or one that it is derived from, declares a member under a name. -/
def HasMember (store : SymbolStore) (id : EntityId) (name : Name) (member : EntityId) : Prop :=
  ∃ declaring, store.Inherits id declaring ∧ store.Declares declaring name member

/-- The table that is found for a base is the body of that class. -/
theorem classBodyOf_of_baseTable? {base : EntityId} {table : Table}
    (found : store.baseTable? base = .ok (some table)) : store.ClassBodyOf base table := by
  unfold baseTable? at found
  obtain ⟨entity, known, found⟩ := bind_eq_ok_iff.1 found
  cases body : entity.body with
  | none => rw [body] at found; cases found
  | some region =>
      rw [body] at found
      obtain ⟨inner, tableKnown, found⟩ := bind_eq_ok_iff.1 found
      rw [pure_eq_ok_iff] at found
      split at found
      · rename_i isClass
        cases found
        exact ⟨entity, region, entity_eq_ok_iff.1 known, body, table_eq_ok_iff.1 tableKnown,
          Table.class?_isSome_iff.1 isClass⟩
      · cases found

/-- The direct bases of a class are those that its body lists. -/
theorem ClassBodyOf.basesOf_eq {id : EntityId} {table : Table}
    (isBody : store.ClassBodyOf id table) : store.basesOf id = table.bases := by
  obtain ⟨entity, region, known, body, tableKnown, -⟩ := isBody
  unfold basesOf
  rw [known, Option.bind_some, body, Option.bind_some, tableKnown]

/-! ## What a lookup finds -/

/-- A hit is an own entry of a table, or a member of one of its bases. -/
def Supplies (store : SymbolStore) (name : Name) (table : Table) (hit : Hit) : Prop :=
  (hit.entity ∈ table.entries name ∨
    ∃ base ∈ table.bases, store.HasMember base.entity name hit.entity) ∧ store.Sees hit

/-- What the body of a class supplies is a member of that class. -/
theorem Supplies.hasMember {id : EntityId} {table : Table} {hit : Hit}
    (supplies : store.Supplies name table hit) (isBody : store.ClassBodyOf id table) :
    store.HasMember id name hit.entity := by
  rcases supplies.1 with own | ⟨base, direct, declaring, ⟨path, chain⟩, declares⟩
  · exact ⟨id, ⟨[], .here id⟩, table, isBody, own⟩
  · rw [← isBody.basesOf_eq] at direct
    exact ⟨declaring, ⟨base :: path, .step direct chain⟩, declares⟩

/-- A search one level deep finds what tables supply if the searches below it do. -/
theorem supplies_of_memberStep {deeper : Table → Except Failure Hits}
    (below : ∀ table hits, deeper table = .ok hits →
      ∀ hit ∈ hits.toList, store.Supplies name table hit)
    {table : Table} {hits : Hits} (found : store.memberStep name deeper table = .ok hits) :
    ∀ hit ∈ hits.toList, store.Supplies name table hit := by
  unfold memberStep at found
  split at found
  · refine foldlM_keeps (fun hits : Hits => ∀ hit ∈ hits.toList, store.Supplies name table hit)
      (fun _ isHit => absurd isHit List.not_mem_nil) found
      fun before base direct next supplied looked => ?_
    obtain ⟨inner?, bodyFound, looked⟩ := bind_eq_ok_iff.1 looked
    cases inner? with
    | none =>
        cases looked
        exact supplied
    | some inner =>
        obtain ⟨inherited, innerFound, looked⟩ := bind_eq_ok_iff.1 looked
        cases looked
        intro hit isHit
        rcases Hits.mem_extend isHit with earlier | new
        · exact supplied hit earlier
        · have supplies := below inner inherited innerFound hit new
          have isBody := classBodyOf_of_baseTable? bodyFound
          exact ⟨Or.inr ⟨base, direct, supplies.hasMember isBody⟩, supplies.2⟩
  · intro hit isHit
    obtain ⟨own, sees⟩ := sees_of_hitsOf found hit isHit
    exact ⟨Or.inl own, sees⟩

/-- A lookup finds what tables supply: by induction on the levels that are left. -/
theorem supplies_of_members {nesting : Nesting} {table : Table} {hits : Hits}
    (found : store.members nesting name table = .ok hits) :
    ∀ hit ∈ hits.toList, store.Supplies name table hit := by
  unfold members at found
  generalize nesting.levels = levels at found
  induction levels generalizing table hits with
  | zero => exact supplies_of_memberStep (fun _ _ failed => by cases failed) found
  | succ levels ih => exact supplies_of_memberStep (fun _ _ deeper => ih deeper) found

/-- What a lookup in the body of a class finds are members of that class, in their roles. -/
theorem declared_of_classLookup {id : EntityId} {entity : Entity} {region : TableId} {table : Table}
    (known : store.entities.get? id = some entity) (body : entity.body = some region)
    (tableKnown : store.tables.get? region = some table) (isClass : table.kind = .classTable)
    {nesting : Nesting} {hits : Hits} (found : store.classLookup nesting region name = .ok hits) :
    ∀ hit ∈ hits.toList, store.HasMember id name hit.entity ∧ store.Sees hit := by
  unfold classLookup at found
  rw [table_eq_ok_iff.2 tableKnown, ok_bind] at found
  intro hit isHit
  have supplies := supplies_of_members found hit isHit
  exact ⟨supplies.hasMember ⟨entity, region, known, body, tableKnown, isClass⟩, supplies.2⟩

/-! ## What the search for a path misses -/

variable {start target : EntityId} {limit : Nat}

/-- The class that a search starts from is there if the search answers that there is no path. -/
theorem known_of_missed {deeper : EntityId → Except Failure (Option (List Base))}
    (missed : store.pathStep target deeper start = .ok none) :
    ∃ entity, store.entities.get? start = some entity := by
  unfold pathStep at missed
  split at missed
  · cases missed
  · obtain ⟨inner?, bodyFound, -⟩ := bind_eq_ok_iff.1 missed
    obtain ⟨entity, known, -⟩ := bind_eq_ok_iff.1 bodyFound
    exact ⟨entity, entity_eq_ok_iff.1 known⟩

/-- A search that finds no path has found none from any of the bases. -/
theorem unreached_of_pathStep (linked : store.Linked)
    {deeper : EntityId → Except Failure (Option (List Base))}
    (below : ∀ id, deeper id = .ok none → ¬ store.Inherits id target)
    (missed : store.pathStep target deeper start = .ok none) : ¬ store.Inherits start target := by
  obtain ⟨entity, known⟩ := known_of_missed missed
  rw [pathStep_eq linked known] at missed
  split at missed
  · cases missed
  · rename_i differ
    rcases firstPath_cases deeper (store.basesOf start) with
      ⟨_, _, _, _, -, -, -, found⟩ | ⟨noneFound, -⟩ | ⟨_, _, _, -, failed⟩
    · rw [found] at missed
      cases missed
    · intro inherits
      obtain ⟨base, direct, further⟩ := inherits.base_of_ne differ
      exact below base.entity (noneFound base direct) further
    · rw [failed] at missed
      cases missed

/-- There is no chain of bases where the search for a path finds none. -/
theorem unreached_of_basePath (linked : store.Linked) {nesting : Nesting}
    (missed : store.basePath nesting start target = .ok none) : ¬ store.Inherits start target := by
  unfold basePath at missed
  generalize nesting.levels = levels at missed
  induction levels generalizing start with
  | zero => exact unreached_of_pathStep linked (fun _ failed => by cases failed) missed
  | succ levels ih => exact unreached_of_pathStep linked (fun _ deeper => ih deeper) missed

end SymbolStore

end ScopeResolution

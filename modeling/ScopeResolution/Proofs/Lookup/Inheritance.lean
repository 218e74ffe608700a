import ScopeResolution.Lookup.Search
import ScopeResolution.Proofs.SymbolStore.Catalogue
import ScopeResolution.Proofs.SymbolStore.Operation

/-! # Inherited members

The members of a class under a name are its own entries; without any, they are the hits in its
direct bases one after the other (`classLookup_eq`). So a lookup descends along the bases of the
classes that defer to them, and it is nested too deep exactly when one way down takes more steps
than the limit allows (`classLookup_cases`). A lookup that is not nested too deep finds the same at
every larger limit (`members_mono`), which makes the hits in the bases those of lookups that start
there (`inherited_members_of_run`). -/

namespace ScopeResolution

/-- A loop of steps that succeed whenever those of another loop do, with the same results. -/
theorem foldlM_mono {α β : Type} {step step' : α → β → Except Failure α} {list : List β}
    (mono : ∀ state, ∀ item ∈ list, ∀ result, step state item = .ok result →
      step' state item = .ok result) {start result : α}
    (success : list.foldlM step start = .ok result) : list.foldlM step' start = .ok result := by
  induction list generalizing start with
  | nil => exact success
  | cons first rest ih =>
      rw [List.foldlM_cons] at success ⊢
      obtain ⟨middle, first_eq, rest_eq⟩ := bind_eq_ok_iff.1 success
      rw [mono start first List.mem_cons_self middle first_eq]
      exact ih (fun state item listed => mono state item (List.mem_cons_of_mem _ listed)) rest_eq

/-- A class table is one that holds what class tables hold. -/
theorem Table.class?_isSome_iff {table : Table} :
    table.class?.isSome = true ↔ table.kind = .classTable := by
  unfold class? kind
  cases table.form <;> simp

/-- Tables that are not those of classes have no bases. -/
theorem Table.bases_of_not_class {table : Table} (notClass : table.kind ≠ .classTable) :
    table.bases = [] := by
  have absent := mt Table.class?_isSome_iff.1 notClass
  rw [Option.not_isSome_iff_eq_none] at absent
  rw [Table.bases, absent]
  rfl

namespace SymbolStore

variable {store : SymbolStore} {name : Name}

/-- The members of a table are its own entries where these hide what bases would add, or where there
are no bases. -/
theorem members_of_own (nesting : Nesting) {table : Table}
    (own : table.entries name ≠ [] ∨ table.bases = []) :
    store.members nesting name table = store.hitsOf (table.entries name) := by
  have step (deeper : Table → Except Failure Hits) :
      store.memberStep name deeper table = store.hitsOf (table.entries name) := by
    unfold memberStep
    split
    · rename_i noEntries
      rw [noEntries, own.resolve_left fun present => present noEntries]
      rfl
    · rfl
  unfold members
  cases nesting.levels with
  | zero => exact step _
  | succ levels => exact step _

/-- Adds the hits in some tables, those in earlier tables first; `look` looks into one table. -/
def gather (look : TableId → Except Failure Hits) (tables : List TableId) (found : Hits) :
    Except Failure Hits :=
  tables.foldlM (fun found id => do
    let more ← look id
    pure (found.extend more.toList)) found

/-- The hits in a first table come before those in the others. -/
theorem gather_cons (look : TableId → Except Failure Hits) (id : TableId) (rest : List TableId)
    (found : Hits) :
    gather look (id :: rest) found =
      look id >>= fun more => gather look rest (found.extend more.toList) := by
  unfold gather
  rw [List.foldlM_cons, bind_assoc]
  rfl

/-- The hits in some tables are found when those in each of them are. -/
theorem gather_eq_ok_iff {look : TableId → Except Failure Hits} {tables : List TableId}
    {found hits : Hits} :
    gather look tables found = .ok hits ↔
      ∃ results : List Hits, List.Forall₂ (fun id result => look id = .ok result) tables results ∧
        hits = found.extend (results.flatMap (·.toList)) := by
  induction tables generalizing found with
  | nil =>
      constructor
      · rintro success
        cases success
        exact ⟨[], .nil, rfl⟩
      · rintro ⟨results, each, rfl⟩
        cases each
        rfl
  | cons first rest ih =>
      rw [gather_cons]
      constructor
      · intro success
        obtain ⟨more, looked, rest_eq⟩ := bind_eq_ok_iff.1 success
        obtain ⟨results, each, rfl⟩ := ih.1 rest_eq
        refine ⟨more :: results, .cons looked each, ?_⟩
        rw [List.flatMap_cons, Hits.extend_append]
      · rintro ⟨results, each, rfl⟩
        cases each with
        | @cons _ more _ results looked each =>
            rw [looked, ok_bind]
            refine ih.2 ⟨results, each, ?_⟩
            rw [List.flatMap_cons, Hits.extend_append]

/-- When a look into a table succeeds or fails in one way, the hits in some tables are found, or a
look into one of them fails. -/
theorem gather_cases (look : TableId → Except Failure Hits) {failure : Failure}
    {tables : List TableId} (found : Hits)
    (each : ∀ id ∈ tables, (∃ result, look id = .ok result) ∨ look id = .error failure) :
    ((∀ id ∈ tables, ∃ result, look id = .ok result) ∧
        ∃ hits, gather look tables found = .ok hits) ∨
      (∃ id ∈ tables, look id = .error failure) ∧ gather look tables found = .error failure := by
  induction tables generalizing found with
  | nil => exact Or.inl ⟨fun _ listed => (List.not_mem_nil listed).elim, found, rfl⟩
  | cons first rest ih =>
      rw [gather_cons]
      rcases each first List.mem_cons_self with ⟨result, looked⟩ | failed
      · rw [looked, ok_bind]
        rcases ih (found.extend result.toList)
          fun id listed => each id (List.mem_cons_of_mem _ listed) with
          ⟨others, hits⟩ | ⟨⟨id, listed, failed⟩, stops⟩
        · exact Or.inl ⟨List.forall_mem_cons.2 ⟨⟨result, looked⟩, others⟩, hits⟩
        · exact Or.inr ⟨⟨id, List.mem_cons_of_mem _ listed, failed⟩, stops⟩
      · refine Or.inr ⟨⟨first, List.mem_cons_self, failed⟩, ?_⟩
        rw [failed]
        rfl

/-! ## Deeper lookups -/

/-- A search one level deep finds what it finds when the searches below it find the same. -/
theorem memberStep_mono {deeper deeper' : Table → Except Failure Hits}
    (mono : ∀ table hits, deeper table = .ok hits → deeper' table = .ok hits) {table : Table}
    {hits : Hits} (success : store.memberStep name deeper table = .ok hits) :
    store.memberStep name deeper' table = .ok hits := by
  unfold memberStep at success ⊢
  split at success
  · refine foldlM_mono ?_ success
    intro state base _ result step_eq
    obtain ⟨table?, body_eq, rest_eq⟩ := bind_eq_ok_iff.1 step_eq
    rw [body_eq, ok_bind]
    cases table? with
    | none => exact rest_eq
    | some inner =>
        obtain ⟨inherited, deeper_eq, result_eq⟩ := bind_eq_ok_iff.1 rest_eq
        simp only [mono inner inherited deeper_eq, ok_bind]
        exact result_eq
  · exact success

/-- What a lookup finds, it finds with more levels left, too. -/
theorem members_mono {limit limit' levels levels' : Nat} (more : levels ≤ levels') {table : Table}
    {hits : Hits} (success : store.members ⟨limit, levels⟩ name table = .ok hits) :
    store.members ⟨limit', levels'⟩ name table = .ok hits := by
  unfold members at success ⊢
  induction levels generalizing levels' table hits with
  | zero =>
      -- No search below succeeds, so it does not matter what the others would find.
      cases levels' with
      | zero => exact memberStep_mono (fun _ _ found => by cases found) success
      | succ levels' => exact memberStep_mono (fun _ _ found => by cases found) success
  | succ levels ih =>
      obtain ⟨below, rfl⟩ : ∃ below, levels' = below + 1 := ⟨levels' - 1, by omega⟩
      exact memberStep_mono (fun _ _ found => ih (Nat.le_of_succ_le_succ more) found) success

/-- What a lookup in a table finds, it finds with more levels left, too. -/
theorem classLookup_mono {limit limit' levels levels' : Nat} (more : levels ≤ levels')
    {id : TableId} {hits : Hits} (success : store.classLookup ⟨limit, levels⟩ id name = .ok hits) :
    store.classLookup ⟨limit', levels'⟩ id name = .ok hits := by
  unfold classLookup at success ⊢
  obtain ⟨table, known, found⟩ := bind_eq_ok_iff.1 success
  rw [known, ok_bind]
  exact members_mono more found

/-! ## The way down -/

/-- The body of a base, when it is that of a class. -/
def baseBody? (store : SymbolStore) (base : Base) : Option TableId := do
  let entity ← store.entities.get? base.entity
  let body ← entity.body
  let table ← store.tables.get? body
  if table.kind = .classTable then some body else none

/-- The class bodies of the direct bases of a table, in the order in which the bases were added. -/
def baseBodies (store : SymbolStore) (table : Table) : List TableId :=
  table.bases.filterMap store.baseBody?

/-- A table defers to the class body of a direct base when it has no own entries under a name. -/
def Defers (store : SymbolStore) (name : Name) (id base : TableId) : Prop :=
  ∃ table, store.tables.get? id = some table ∧ table.entries name = [] ∧
    base ∈ store.baseBodies table

/-- A lookup can descend some number of steps, from tables to the bodies of bases that they defer
to. -/
def Descends (store : SymbolStore) (name : Name) (steps : Nat) (id : TableId) : Prop :=
  ∃ chain : Nat → TableId, chain 0 = id ∧
    ∀ step < steps, store.Defers name (chain step) (chain (step + 1))

/-- No step is always possible. -/
theorem descends_zero (id : TableId) : store.Descends name 0 id :=
  ⟨fun _ => id, rfl, fun _ before => (Nat.not_lt_zero _ before).elim⟩

/-- The first step of a descent leads to a base, and the others descend from there. -/
theorem descends_succ_iff {steps : Nat} {id : TableId} :
    store.Descends name (steps + 1) id ↔
      ∃ base, store.Defers name id base ∧ store.Descends name steps base := by
  constructor
  · rintro ⟨chain, rfl, each⟩
    refine ⟨chain 1, each 0 (Nat.succ_pos steps), fun step => chain (step + 1), rfl, ?_⟩
    exact fun step before => each (step + 1) (Nat.succ_lt_succ before)
  · rintro ⟨base, defers, chain, rfl, each⟩
    refine ⟨fun step => step.casesOn id chain, rfl, fun step before => ?_⟩
    cases step with
    | zero => exact defers
    | succ step => exact each step (Nat.lt_of_succ_lt_succ before)

/-- The body of a base is a class table that is there. -/
theorem known_of_baseBody? {base : Base} {id : TableId} (isBody : store.baseBody? base = some id) :
    ∃ body, store.tables.get? id = some body ∧ body.kind = .classTable := by
  unfold baseBody? at isBody
  simp only [Option.bind_eq_bind, Option.bind_eq_some_iff] at isBody
  obtain ⟨entity, -, region, -, body, known, same⟩ := isBody
  split at same
  · rename_i isClass
    cases same
    exact ⟨body, known, isClass⟩
  · cases same

/-- A table that another one defers to is there. -/
theorem known_of_mem_baseBodies {table : Table} {id : TableId}
    (listed : id ∈ store.baseBodies table) : ∃ body, store.tables.get? id = some body := by
  obtain ⟨base, -, isBody⟩ := List.mem_filterMap.1 listed
  obtain ⟨body, known, -⟩ := known_of_baseBody? isBody
  exact ⟨body, known⟩

/-- All bases of all tables are there. -/
def BasesKnown (store : SymbolStore) : Prop :=
  ∀ id table base, store.tables.get? id = some table → base ∈ table.bases →
    ∃ entity, store.entities.get? base.entity = some entity

/-- Whether all bases are there is seen by going through the tables. -/
instance (store : SymbolStore) : Decidable store.BasesKnown :=
  decidable_of_iff (∀ entry ∈ store.tables.entries, ∀ base ∈ entry.2.bases,
      (store.entities.get? base.entity).isSome = true) <| by
    constructor
    · intro each id table base known listed
      exact Option.isSome_iff_exists.1 (each (id, table) (Arena.mem_entries_iff.2 known) base listed)
    · rintro basesKnown ⟨id, table⟩ entered base listed
      exact Option.isSome_iff_exists.2 (basesKnown id table base (Arena.mem_entries_iff.1 entered)
        listed)

/-- The table of a base that is there is found. -/
theorem baseTable?_eq_ok (linked : store.Linked) {base : Base} {entity : Entity}
    (known : store.entities.get? base.entity = some entity) :
    store.baseTable? base.entity = .ok ((store.baseBody? base).bind store.tables.get?) := by
  unfold baseTable? baseBody?
  rw [entity_eq_ok_iff.2 known, ok_bind, known]
  simp only [Option.bind_eq_bind, Option.bind_some]
  cases body : entity.body with
  | none => rfl
  | some region =>
      obtain ⟨table, found, -⟩ := linked.body base.entity entity region known body
      simp only [table_eq_ok_iff.2 found, ok_bind, found, Option.bind_some,
        Table.class?_isSome_iff]
      split
      · rw [Option.bind_some, found]; rfl
      · rfl

/-- The hits in the bases of a table are those in the class bodies of the bases. -/
theorem baseHits_eq_gather (linked : store.Linked) {deeper : Table → Except Failure Hits}
    {look : TableId → Except Failure Hits}
    (looks : ∀ id table, store.tables.get? id = some table → look id = deeper table)
    {bases : List Base}
    (known : ∀ base ∈ bases, ∃ entity, store.entities.get? base.entity = some entity) :
    store.baseHits deeper bases = gather look (bases.filterMap store.baseBody?) .empty := by
  unfold baseHits
  generalize Hits.empty = found
  induction bases generalizing found with
  | nil => rfl
  | cons base rest ih =>
      obtain ⟨entity, baseKnown⟩ := known base List.mem_cons_self
      have others := ih fun other listed => known other (List.mem_cons_of_mem _ listed)
      rw [List.foldlM_cons, baseTable?_eq_ok linked baseKnown, ok_bind]
      cases isBody : store.baseBody? base with
      | none =>
          rw [List.filterMap_cons_none isBody]
          exact others found
      | some id =>
          obtain ⟨table, tableKnown, -⟩ := known_of_baseBody? isBody
          rw [List.filterMap_cons_some isBody, gather_cons, looks id table tableKnown,
            Option.bind_some, tableKnown]
          cases looked : deeper table with
          | error failure => simp only [looked]; rfl
          | ok inherited => simp only [looked, ok_bind]; exact others _

/-- How a lookup one level deeper looks into a table; below the last level, it fails. -/
def lookBelow (store : SymbolStore) (nesting : Nesting) (name : Name) (id : TableId) :
    Except Failure Hits := do
  let below ← nesting.deeper
  store.classLookup below id name

/-- What a lookup one level deeper finds, a lookup that starts there finds, too. -/
theorem classLookup_of_lookBelow {nesting : Nesting} {id : TableId} {hits : Hits}
    (found : store.lookBelow nesting name id = .ok hits) :
    store.classLookup nesting id name = .ok hits := by
  obtain ⟨limit, levels⟩ := nesting
  cases levels with
  | zero => cases found
  | succ levels => exact classLookup_mono (Nat.le_succ levels) found

/-- The lookup in a table that has no own entries finds the hits one level deeper in its bases, and
any other lookup finds the own entries. -/
theorem classLookup_eq (linked : store.Linked) (basesKnown : store.BasesKnown) {id : TableId}
    {table : Table} (known : store.tables.get? id = some table) (nesting : Nesting) (name : Name) :
    store.classLookup nesting id name =
      if table.entries name = [] then
        gather (store.lookBelow nesting name) (store.baseBodies table) .empty
      else store.hitsOf (table.entries name) := by
  have one_level {deeper : Table → Except Failure Hits}
      (looks : ∀ id table, store.tables.get? id = some table →
        store.lookBelow nesting name id = deeper table) :
      store.memberStep name deeper table =
        if table.entries name = [] then
          gather (store.lookBelow nesting name) (store.baseBodies table) .empty
        else store.hitsOf (table.entries name) := by
    unfold memberStep
    rw [baseHits_eq_gather linked looks fun base => basesKnown id table base known]
    cases table.entries name with
    | nil => exact (if_pos rfl).symm
    | cons first rest => exact (if_neg (List.cons_ne_nil first rest)).symm
  have classLookup_known {id : TableId} {table : Table} (nesting : Nesting)
      (known : store.tables.get? id = some table) :
      store.classLookup nesting id name = store.members nesting name table := by
    unfold classLookup
    rw [table_eq_ok_iff.2 known, ok_bind]
  rw [classLookup_known nesting known]
  obtain ⟨limit, levels⟩ := nesting
  cases levels with
  | zero => exact one_level fun _ _ _ => rfl
  | succ levels => exact one_level fun _ _ inner => classLookup_known ⟨limit, levels⟩ inner

/-- A lookup in a table that is there is nested too deep when it can descend below the last level,
and it finds hits when it cannot, if that holds of the lookups one level deeper. -/
theorem classLookup_cases_of_below (linked : store.Linked) (basesKnown : store.BasesKnown)
    {name : Name} {limit levels : Nat} {id : TableId} {table : Table}
    (known : store.tables.get? id = some table)
    (below : ∀ base ∈ store.baseBodies table,
      store.Descends name levels base ∧
          store.lookBelow ⟨limit, levels⟩ name base = .error (.recursionLimit limit) ∨
        ¬ store.Descends name levels base ∧
          ∃ hits, store.lookBelow ⟨limit, levels⟩ name base = .ok hits) :
    store.Descends name (levels + 1) id ∧
        store.classLookup ⟨limit, levels⟩ id name = .error (.recursionLimit limit) ∨
      ¬ store.Descends name (levels + 1) id ∧
        ∃ hits, store.classLookup ⟨limit, levels⟩ id name = .ok hits := by
  have defers {base : TableId} :
      store.Defers name id base ↔ table.entries name = [] ∧ base ∈ store.baseBodies table := by
    unfold Defers
    simp only [known, Option.some.injEq, exists_eq_left']
  rw [classLookup_eq linked basesKnown known, descends_succ_iff]
  simp only [defers]
  split
  · rename_i noneOwn
    rcases gather_cases (store.lookBelow ⟨limit, levels⟩ name) .empty
      fun base listed => (below base listed).symm.imp And.right And.right with
      ⟨others, hits⟩ | ⟨⟨base, listed, failed⟩, stops⟩
    · refine Or.inr ⟨?_, hits⟩
      rintro ⟨base, ⟨-, listed⟩, descends⟩
      obtain ⟨result, looked⟩ := others base listed
      rcases below base listed with ⟨-, failed⟩ | ⟨ends, -⟩
      · rw [looked] at failed
        cases failed
      · exact ends descends
    · refine Or.inl ⟨⟨base, ⟨noneOwn, listed⟩, ?_⟩, stops⟩
      rcases below base listed with ⟨descends, -⟩ | ⟨-, hits, looked⟩
      · exact descends
      · rw [looked] at failed
        cases failed
  · rename_i someOwn
    obtain ⟨role, -, hits⟩ := linked.hitsOf_of_listed known (table.entries_subset_listed name)
    exact Or.inr ⟨fun ⟨_, ⟨noneOwn, _⟩, _⟩ => someOwn noneOwn, _, hits⟩

/-- A lookup in a table that is there is nested too deep when it can descend below the last level,
and it finds hits when it cannot: by induction on the levels that are left. -/
theorem classLookup_cases (linked : store.Linked) (basesKnown : store.BasesKnown) (name : Name)
    (limit levels : Nat) {id : TableId} {table : Table}
    (known : store.tables.get? id = some table) :
    store.Descends name (levels + 1) id ∧
        store.classLookup ⟨limit, levels⟩ id name = .error (.recursionLimit limit) ∨
      ¬ store.Descends name (levels + 1) id ∧
        ∃ hits, store.classLookup ⟨limit, levels⟩ id name = .ok hits := by
  induction levels generalizing id table with
  | zero =>
      exact classLookup_cases_of_below linked basesKnown known fun base _ =>
        Or.inl ⟨descends_zero base, rfl⟩
  | succ levels ih =>
      refine classLookup_cases_of_below linked basesKnown known fun base listed => ?_
      obtain ⟨body, bodyKnown⟩ := known_of_mem_baseBodies listed
      exact ih bodyKnown

/-- In a store that can be reached and in which all bases are there, the lookup of a name in a class
is nested too deep exactly when it can descend one step more than the limit allows, over classes
that have no own entries. Any other lookup finds the own entries in order; without own entries, it
finds what lookups in the direct bases find, one base after the other, each entity once. -/
theorem inherited_members_of_run (names : NamePool) (operations : List Operation) :
    let store := (SymbolStore.new names).run operations
    store.BasesKnown → ∀ id table, store.tables.get? id = some table → ∀ name limit,
      (store.classLookup (.start limit) id name = .error (.recursionLimit limit) ↔
        ∃ chain : Nat → TableId, chain 0 = id ∧
          ∀ step < limit + 1, store.Defers name (chain step) (chain (step + 1))) ∧
      (store.classLookup (.start limit) id name ≠ .error (.recursionLimit limit) →
        ∃ hits, store.classLookup (.start limit) id name = .ok hits) ∧
      ∀ hits, store.classLookup (.start limit) id name = .ok hits →
        (table.entries name ≠ [] → ∃ role : EntityId → Role,
          (∀ member ∈ table.entries name, store.roleOf member = .ok (role member)) ∧
          hits.toList = (table.entries name).map fun member => ⟨member, role member⟩) ∧
        (table.entries name = [] → ∃ inherited : List Hits,
          List.Forall₂ (fun base found => store.classLookup (.start limit) base name = .ok found)
            (store.baseBodies table) inherited ∧
          hits = .ofList (inherited.flatMap (·.toList)) ∧
          hits.entities = (inherited.flatMap (·.entities)).eraseDups) := by
  intro store basesKnown id table known name limit
  obtain ⟨sound, distinct⟩ := (sound_new names).run_keeps DistinctEntries
    (distinctEntries_new names)
    (fun _ _ _ linked distinct edit => distinct.edit linked edit)
    (fun _ _ _ _ distinct released => distinct.released released) operations
  have linked : store.Linked := sound.linked
  have cases := classLookup_cases linked basesKnown name limit limit known
  refine ⟨?_, ?_, ?_⟩
  · rcases cases with ⟨descends, failed⟩ | ⟨ends, hits, found⟩
    · exact iff_of_true failed descends
    · refine iff_of_false (fun failed => ?_) ends
      rw [Nesting.start, found] at failed
      cases failed
  · intro succeeds
    rcases cases with ⟨-, failed⟩ | ⟨-, found⟩
    · exact absurd failed succeeds
    · exact found
  · intro hits found
    rw [classLookup_eq linked basesKnown known] at found
    constructor
    · intro someOwn
      rw [if_neg someOwn] at found
      obtain ⟨role, roles, own⟩ := linked.hitsOf_of_listed known (table.entries_subset_listed name)
      rw [own, Except.ok.injEq] at found
      refine ⟨role, roles, ?_⟩
      rw [← found, Hits.ofList, Hits.empty, Hits.extend_of_nodup]
      · rfl
      · simpa [Function.comp_def] using distinct id table known name
    · intro noneOwn
      rw [if_pos noneOwn] at found
      obtain ⟨inherited, each, rfl⟩ := gather_eq_ok_iff.1 found
      refine ⟨inherited, each.imp fun base hits looked => ?_, rfl, ?_⟩
      · -- What is found one level deeper is found from the start, too.
        exact classLookup_of_lookBelow looked
      · rw [← Hits.ofList, Hits.entities_ofList, List.map_flatMap]
        rfl

/-- A class with an enumeration, and a class derived from it. -/
def deriveOnce : List Operation :=
  let root := (SymbolStore.new {}).global
  [.addEntity root { name := ⟨0⟩, kind := .classDecl .structKey false },
    .addEntity root { name := ⟨1⟩, kind := .classDecl .structKey false },
    .addEntity ⟨1, 0⟩ { name := ⟨2⟩, kind := .enumDecl }, .addBase ⟨2, 0⟩ { entity := ⟨0, 0⟩ }]

/-- The enumeration is found as a member of the derived class, but its lookup needs one level below
the first. -/
theorem deriveOnce_descends_once :
    let store := (SymbolStore.new {}).run deriveOnce
    store.BasesKnown ∧
      (∃ chain : Nat → TableId, chain 0 = ⟨2, 0⟩ ∧
        ∀ step < 0 + 1, store.Defers ⟨2⟩ (chain step) (chain (step + 1))) ∧
      ∃ hits, store.classLookup (.start 1) ⟨2, 0⟩ ⟨2⟩ = .ok hits ∧ hits.entities = [⟨2, 0⟩] := by
  intro store
  have basesKnown : store.BasesKnown := by
    intro id table base known listed
    have each : ∀ entry ∈ store.tables.entries, ∀ base ∈ entry.2.bases,
        (store.entities.get? base.entity).isSome = true := by decide +kernel
    exact Option.isSome_iff_exists.1 (each _ (Arena.mem_entries_iff.2 known) base listed)
  obtain ⟨table, known⟩ : ∃ table, store.tables.get? ⟨2, 0⟩ = some table :=
    Option.isSome_iff_exists.1 (by decide +kernel)
  have members := inherited_members_of_run {} deriveOnce basesKnown ⟨2, 0⟩ table known ⟨2⟩
  obtain ⟨hits, success⟩ := (members 1).2.1 (by decide +kernel)
  have enumeration : store.classLookup (.start 1) ⟨2, 0⟩ ⟨2⟩ = .ok ⟨[⟨⟨2, 0⟩, .enum⟩]⟩ := by
    decide +kernel
  have same := success.symm.trans enumeration
  rw [Except.ok.injEq] at same
  exact ⟨basesKnown, (members 0).1.1 (by decide +kernel), hits, success, by rw [same]; rfl⟩

end SymbolStore

end ScopeResolution

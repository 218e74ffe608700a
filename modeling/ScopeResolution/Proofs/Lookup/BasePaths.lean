import ScopeResolution.Proofs.Lookup.Inheritance

/-! # Paths over bases

The search for a path from a class to another goes through the bases of the first one in order, and
through the bases of each of these, until it meets the second one. It remembers nothing of the
classes it has been to; what keeps it from missing a path is that it gives up wherever it is nested
too deep. So there are three answers (`PathAnswer`): the leftmost chain of bases that leads to the
other class, that there is no such chain, or a failure, which shows that there is some chain of more
steps than the limit allows (`base_paths_of_run`). -/

namespace ScopeResolution.SymbolStore

/-- The direct bases of a class, which its body lists; none without a body, or when the body is not
that of a class. -/
def basesOf (store : SymbolStore) (id : EntityId) : List Base :=
  match (store.entities.get? id).bind fun entity => entity.body.bind store.tables.get? with
  | some body => body.bases
  | none => []

/-- Bases of which each one is a direct base of the one before it, from a class to another. -/
inductive BaseChain (store : SymbolStore) : EntityId → List Base → EntityId → Prop where
  /-- No step leads from a class to itself. -/
  | here (id : EntityId) : BaseChain store id [] id
  /-- The first step leads to a direct base. -/
  | step {start target : EntityId} {base : Base} {path : List Base}
      (direct : base ∈ store.basesOf start) (further : BaseChain store base.entity path target) :
      BaseChain store start (base :: path) target

/-- One class is reached from another one over bases, or is that class. -/
def Inherits (store : SymbolStore) (start target : EntityId) : Prop :=
  ∃ path, store.BaseChain start path target

/-- A chain of bases that goes no further once it is there, and takes the first direct base that the
class is reached from wherever it has a choice. -/
inductive LeftmostChain (store : SymbolStore) (target : EntityId) : EntityId → List Base → Prop where
  /-- The chain is there. -/
  | here : LeftmostChain store target target []
  /-- The class is reached from a direct base, and from none of the earlier ones. -/
  | step {start : EntityId} {base : Base} {earlier later path : List Base}
      (differ : start ≠ target) (direct : store.basesOf start = earlier ++ base :: later)
      (first : ∀ other ∈ earlier, ¬ store.Inherits other.entity target)
      (further : LeftmostChain store target base.entity path) :
      LeftmostChain store target start (base :: path)

/-- The answers to the search for a path that has to be shorter than some number of steps. -/
inductive PathAnswer (store : SymbolStore) (limit : Nat) (target : EntityId) (steps : Nat)
    (start : EntityId) : Except Failure (Option (List Base)) → Prop where
  /-- The leftmost chain is short enough. -/
  | found {path : List Base} (leftmost : store.LeftmostChain target start path)
      (short : path.length < steps) : PathAnswer store limit target steps start (.ok (some path))
  /-- There is no chain. -/
  | missing (unreached : ¬ store.Inherits start target) :
      PathAnswer store limit target steps start (.ok none)
  /-- Some chain, to whatever class, is not short enough. -/
  | tooDeep {path : List Base} {stop : EntityId} (chain : store.BaseChain start path stop)
      (long : steps ≤ path.length) :
      PathAnswer store limit target steps start (.error (.recursionLimit limit))

variable {store : SymbolStore} {start target : EntityId} {limit steps : Nat}

/-- A class that is reached from another one is reached from a direct base of that one. -/
theorem Inherits.base_of_ne (inherits : store.Inherits start target) (differ : start ≠ target) :
    ∃ base ∈ store.basesOf start, store.Inherits base.entity target := by
  obtain ⟨path, chain⟩ := inherits
  cases chain with
  | here => exact absurd rfl differ
  | @step _ _ base path direct further => exact ⟨base, direct, path, further⟩

namespace LeftmostChain

variable {path : List Base}

/-- A leftmost chain is a chain. -/
theorem baseChain (leftmost : store.LeftmostChain target start path) :
    store.BaseChain start path target := by
  induction leftmost with
  | here => exact .here target
  | step _ direct _ _ ih => exact .step (by rw [direct]; simp) ih

/-- A leftmost chain is empty exactly when it starts where it leads. -/
theorem eq_nil_iff (leftmost : store.LeftmostChain target start path) :
    path = [] ↔ start = target := by
  cases leftmost with
  | here => exact iff_of_true rfl rfl
  | step differ => exact iff_of_false (List.cons_ne_nil _ _) differ

end LeftmostChain

/-! ## The search through the bases of a class -/

/-- The direct bases of a class that is there are found. -/
theorem pathStep_eq (linked : store.Linked) {entity : Entity}
    (known : store.entities.get? start = some entity)
    (deeper : EntityId → Except Failure (Option (List Base))) :
    store.pathStep target deeper start =
      if start = target then .ok (some []) else firstPath deeper (store.basesOf start) := by
  unfold pathStep baseTable? basesOf
  rw [entity_eq_ok_iff.2 known, ok_bind, known, Option.bind_some]
  cases body : entity.body with
  | none => rfl
  | some region =>
      obtain ⟨table, found, -⟩ := linked.body start entity region known body
      simp only [table_eq_ok_iff.2 found, ok_bind, Option.bind_some, found]
      by_cases isClass : table.kind = .classTable
      · simp only [if_pos (Table.class?_isSome_iff.2 isClass)]
        rfl
      · simp only [if_neg (mt Table.class?_isSome_iff.1 isClass), Table.bases_of_not_class isClass]
        rfl

/-- The search through some bases ends at the first one with a path when there is none before it,
and without a path when there is none at all. -/
theorem firstPath_cases (deeper : EntityId → Except Failure (Option (List Base)))
    (bases : List Base) :
    (∃ earlier base later path, bases = earlier ++ base :: later ∧
        (∀ other ∈ earlier, deeper other.entity = .ok none) ∧
        deeper base.entity = .ok (some path) ∧
        firstPath deeper bases = .ok (some (base :: path))) ∨
      (∀ base ∈ bases, deeper base.entity = .ok none) ∧ firstPath deeper bases = .ok none ∨
      ∃ base ∈ bases, ∃ failure, deeper base.entity = .error failure ∧
        firstPath deeper bases = .error failure := by
  induction bases with
  | nil => exact Or.inr (Or.inl ⟨nofun, rfl⟩)
  | cons head rest ih =>
      rw [firstPath]
      cases looked : deeper head.entity with
      | error failure => exact Or.inr (Or.inr ⟨head, List.mem_cons_self, failure, looked, rfl⟩)
      | ok path? =>
          cases path? with
          | some path => exact Or.inl ⟨[], head, rest, path, rfl, nofun, looked, rfl⟩
          | none =>
              rcases ih with ⟨earlier, base, later, path, split, none_earlier, found, result⟩ |
                ⟨none_found, result⟩ | ⟨base, listed, failure, failed, result⟩
              · exact Or.inl ⟨head :: earlier, base, later, path, by rw [split]; rfl,
                  List.forall_mem_cons.2 ⟨looked, none_earlier⟩, found, result⟩
              · exact Or.inr (Or.inl ⟨List.forall_mem_cons.2 ⟨looked, none_found⟩, result⟩)
              · exact Or.inr (Or.inr ⟨base, List.mem_cons_of_mem _ listed, failure, failed, result⟩)

/-- The search through the bases of a class answers as it should if the searches from these do, of
which each may take one step less. -/
theorem pathAnswer_of_below (linked : store.Linked) {entity : Entity}
    (known : store.entities.get? start = some entity)
    {deeper : EntityId → Except Failure (Option (List Base))}
    (below : ∀ base ∈ store.basesOf start,
      store.PathAnswer limit target steps base.entity (deeper base.entity)) :
    store.PathAnswer limit target (steps + 1) start (store.pathStep target deeper start) := by
  have unreached {base : Base} (direct : base ∈ store.basesOf start)
      (answered : deeper base.entity = .ok none) : ¬ store.Inherits base.entity target := by
    have answer := below base direct
    rw [answered] at answer
    cases answer with
    | missing unreached => exact unreached
  rw [pathStep_eq linked known]
  split
  · rename_i same
    subst same
    exact .found .here (Nat.succ_pos steps)
  · rename_i differ
    rcases firstPath_cases deeper (store.basesOf start) with
      ⟨earlier, base, later, path, split, none_earlier, found, result⟩ | ⟨none_found, result⟩ |
        ⟨base, direct, failure, failed, result⟩
    · rw [result]
      have direct : base ∈ store.basesOf start := by rw [split]; simp
      have answer := below base direct
      rw [found] at answer
      cases answer with
      | found leftmost short =>
          refine .found (.step differ split (fun other among => ?_) leftmost)
            (Nat.succ_lt_succ short)
          exact unreached (by rw [split]; exact List.mem_append_left _ among)
            (none_earlier other among)
    · rw [result]
      refine .missing fun inherits => ?_
      obtain ⟨base, direct, further⟩ := inherits.base_of_ne differ
      exact unreached direct (none_found base direct) further
    · rw [result]
      have answer := below base direct
      rw [failed] at answer
      cases answer with
      | tooDeep chain long => exact .tooDeep (.step direct chain) (Nat.succ_le_succ long)

/-- The bases of all classes are there if the bases of all tables are. -/
theorem BasesKnown.known (basesKnown : store.BasesKnown) {base : Base}
    (direct : base ∈ store.basesOf start) :
    ∃ entity, store.entities.get? base.entity = some entity := by
  unfold basesOf at direct
  split at direct
  · rename_i body found
    obtain ⟨entity, -, found⟩ := Option.bind_eq_some_iff.1 found
    obtain ⟨region, -, found⟩ := Option.bind_eq_some_iff.1 found
    exact basesKnown region body base found direct
  · cases direct

/-- The search for a path answers as it should: by induction on the levels that are left. Below the
last one, every search fails, and the chain without steps is too long already. -/
theorem pathAnswer_of_run (linked : store.Linked) (basesKnown : store.BasesKnown)
    (levels : Nat) {entity : Entity} (known : store.entities.get? start = some entity) :
    store.PathAnswer limit target (levels + 1) start
      (Nesting.run limit (store.pathStep target) levels start) := by
  induction levels generalizing start entity with
  | zero =>
      exact pathAnswer_of_below linked known fun base _ =>
        .tooDeep (.here base.entity) (Nat.zero_le _)
  | succ levels ih =>
      refine pathAnswer_of_below linked known fun base direct => ?_
      obtain ⟨entity', known'⟩ := basesKnown.known direct
      exact ih known'

/-- In a store that can be reached and in which all bases are there, a path that is found from one
class to another is a chain of bases that leads there in as many steps as the limit allows, and the
leftmost one; when none is found, there is no chain that leads there; and a search that fails is
nested too deep, and shows that some chain has more steps than the limit allows. -/
theorem base_paths_of_run (names : NamePool) (operations : List Operation) :
    let store := (SymbolStore.new names).run operations
    store.BasesKnown → ∀ start entity, store.entities.get? start = some entity → ∀ target limit,
      (∀ path, store.basePath (.start limit) start target = .ok (some path) →
        store.BaseChain start path target ∧ (path = [] ↔ start = target) ∧ path.length ≤ limit ∧
          store.LeftmostChain target start path) ∧
      (store.basePath (.start limit) start target = .ok none →
        ∀ path, ¬ store.BaseChain start path target) ∧
      ∀ failure, store.basePath (.start limit) start target = .error failure →
        failure = .recursionLimit limit ∧
          ∃ path stop, store.BaseChain start path stop ∧ limit < path.length := by
  intro store basesKnown start entity known target limit
  have linked : store.Linked := ((sound_new names).run operations).linked
  have answer : store.PathAnswer limit target (limit + 1) start
      (store.basePath (.start limit) start target) :=
    pathAnswer_of_run linked basesKnown limit known
  refine ⟨fun path found => ?_, fun missed path chain => ?_, fun failure failed => ?_⟩
  · rw [found] at answer
    cases answer with
    | found leftmost short =>
        exact ⟨leftmost.baseChain, leftmost.eq_nil_iff, Nat.le_of_lt_succ short, leftmost⟩
  · rw [missed] at answer
    cases answer with
    | missing unreached => exact unreached ⟨path, chain⟩
  · rw [failed] at answer
    cases answer with
    | tooDeep chain long => exact ⟨rfl, _, _, chain, long⟩

/-- A class, two classes derived from it, and a class derived from these two. -/
def deriveDiamond : List Operation :=
  let root := (SymbolStore.new {}).global
  [.addEntity root { name := ⟨0⟩, kind := .classDecl .structKey false },
    .addEntity root { name := ⟨1⟩, kind := .classDecl .structKey false },
    .addEntity root { name := ⟨2⟩, kind := .classDecl .structKey false },
    .addEntity root { name := ⟨3⟩, kind := .classDecl .structKey false },
    .addBase ⟨2, 0⟩ { entity := ⟨0, 0⟩ }, .addBase ⟨3, 0⟩ { entity := ⟨0, 0⟩ },
    .addBase ⟨4, 0⟩ { entity := ⟨1, 0⟩ }, .addBase ⟨4, 0⟩ { entity := ⟨2, 0⟩ }]

/-- From the last class, the leftmost chain to the first one goes over the second one, and there is
none the other way round. Two steps are more than a limit of one allows. -/
theorem deriveDiamond_leftmost :
    let store := (SymbolStore.new {}).run deriveDiamond
    store.BasesKnown ∧
      store.LeftmostChain ⟨0, 0⟩ ⟨3, 0⟩ [{ entity := ⟨1, 0⟩ }, { entity := ⟨0, 0⟩ }] ∧
      (∀ path, ¬ store.BaseChain ⟨0, 0⟩ path ⟨3, 0⟩) ∧
      ∃ path stop, store.BaseChain ⟨3, 0⟩ path stop ∧ 1 < path.length := by
  intro store
  have basesKnown : store.BasesKnown := by decide +kernel
  obtain ⟨first, firstKnown⟩ : ∃ entity, store.entities.get? ⟨0, 0⟩ = some entity :=
    Option.isSome_iff_exists.1 (by decide +kernel)
  obtain ⟨last, lastKnown⟩ : ∃ entity, store.entities.get? ⟨3, 0⟩ = some entity :=
    Option.isSome_iff_exists.1 (by decide +kernel)
  have up := base_paths_of_run {} deriveDiamond basesKnown ⟨3, 0⟩ last lastKnown ⟨0, 0⟩
  have down := base_paths_of_run {} deriveDiamond basesKnown ⟨0, 0⟩ first firstKnown ⟨3, 0⟩
  obtain ⟨-, -, -, leftmost⟩ := (up 2).1 [{ entity := ⟨1, 0⟩ }, { entity := ⟨0, 0⟩ }]
    (by decide +kernel)
  exact ⟨basesKnown, leftmost, (down 0).2.1 (by decide +kernel),
    ((up 1).2.2 (.recursionLimit 1) (by decide +kernel)).2⟩

end ScopeResolution.SymbolStore

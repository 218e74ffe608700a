import Mathlib.Data.List.Induction
import ScopeResolution.Proofs.SymbolStore.Ageing
import ScopeResolution.Proofs.SymbolStore.Ancestry

/-! # Chains of parents

Tables are nested in tables that were there first, and a handle to a table that is gone never comes
to mean another one, as long as generations do not repeat. So from every table in every store that
can be reached, the way outwards ends: at the global table, or at a handle that is stale
(`climbable_run`). The names of the owners along the way are therefore found by a loop that needs no
bound (`NamesAround`), and the bound that the search for them carries is never met
(`Climb.namesAround`). -/

namespace ScopeResolution.SymbolStore

variable {store before after : SymbolStore} {gone : TableId → Prop} {id : TableId}
  {tables : List TableId}

/-! ## Every store can be climbed -/

/-- In the store that holds nothing but the global table there is nothing to climb. -/
theorem climbable_new (names : NamePool) (gone : TableId → Prop) :
    (SymbolStore.new names).Climbable gone := by
  intro id table known
  exact ⟨[id], .outermost known (by rw [(only_global known).2]; rfl)⟩

/-- What counts as gone may be more. -/
theorem Climbable.mono {more : TableId → Prop} (climbable : store.Climbable gone)
    (among : ∀ outer, gone outer → more outer) : store.Climbable more := by
  intro id table known
  obtain ⟨tables, climb⟩ := climbable id table known
  exact ⟨tables, climb.mono among⟩

/-- After a release one can climb to an end, which may be a table that is gone since. -/
theorem Climbable.released {closed : TableId} (climbable : before.Climbable gone)
    (released : Released before closed after) (ages : before.tables.Ages after.tables) :
    after.Climbable fun outer => gone outer ∨ after.tables.Spent outer := by
  intro id table alive
  obtain ⟨tables, climb⟩ := climbable id table (released.table_left alive).1
  exact climb.released released ages alive

/-- Every operation on a sound store leaves one that can be climbed to the global table or to a handle
whose occupation is over. -/
theorem Sound.climbable_step (sound : store.Sound) (catalogued : store.Catalogued (· ≠ .label))
    (climbable : store.Climbable store.tables.Spent) (operation : Operation) :
    (store.step operation).Climbable (store.step operation).tables.Spent := by
  have ages := (ages_step store operation).tables
  have stillOver (outer : TableId) (spent : store.tables.Spent outer) :
      (store.step operation).tables.Spent outer := spent.ages ages
  rcases sound.edits_of_step operation with edits | ⟨closed, released⟩
  · -- The tables that are over at the start are so throughout, so they may count as gone.
    obtain ⟨-, -, climbs⟩ := edits.preserve
      (fun now => now.Linked ∧ now.Catalogued (· ≠ .label) ∧ now.Climbable store.tables.Spent)
      ⟨sound.linked, catalogued, climbable⟩
      fun now change next ⟨linked, catalogued, climbs⟩ _ edit =>
        ⟨linked.edit edit, catalogued.edit linked edit fun label => absurd rfl label,
          climbs.edit catalogued edit⟩
    exact climbs.mono stillOver
  · refine (climbable.released released ages).mono fun outer ended => ?_
    rcases ended with old | new
    · exact stillOver outer old
    · exact new

/-- In every store that can be reached, what is no label is listed by its owner. -/
theorem catalogued_of_run (names : NamePool) (operations : List Operation) :
    ((SymbolStore.new names).run operations).Catalogued (· ≠ .label) :=
  ((sound_new names).run_keeps (fun now => now.Catalogued (· ≠ .label))
    (catalogued_new names _)
    (fun _ _ _ linked catalogued edit =>
      catalogued.edit linked edit fun label => absurd rfl label)
    (fun _ _ _ _ catalogued released => catalogued.released released) operations).2

/-- In every store that can be reached, one can climb to the global table or to a handle whose
occupation is over. -/
theorem climbable_run (names : NamePool) (operations : List Operation) :
    ((SymbolStore.new names).run operations).Climbable
      ((SymbolStore.new names).run operations).tables.Spent := by
  induction operations using List.reverseRecOn with
  | nil => exact climbable_new names _
  | append_singleton earlier operation ih =>
      have sound := (sound_new names).run earlier
      rw [show (SymbolStore.new names).run (earlier ++ [operation]) =
        ((SymbolStore.new names).run earlier).step operation by simp [run]]
      exact sound.climbable_step (catalogued_of_run names earlier) ih operation

/-- Only the global table is nested in nothing. -/
theorem Linked.eq_global (linked : store.Linked) {table : Table}
    (known : store.tables.get? id = some table) (parent : table.parent? = none) :
    id = store.global := by
  by_contra notGlobal
  have noOwner : table.owner? = none ∧ table.kind.isLocal = false := by
    obtain ⟨form, members, peers⟩ := table
    cases form <;> simp [Table.parent?] at parent
    exact ⟨rfl, rfl⟩
  obtain ⟨owner, entity, owned, -⟩ := linked.region id table known noOwner.2 notGlobal
  rw [noOwner.1] at owned
  cases owned

/-! ## The names along the way -/

/-- How the names of the owners around a table are found, innermost first: table by table, without a
bound, until there is nothing around or something is gone. -/
inductive NamesAround (store : SymbolStore) :
    Option TableId → Except Failure (List Name) → Prop where
  /-- There is nothing around. -/
  | outside : NamesAround store none (.ok [])
  /-- The table is gone. -/
  | noTable {id : TableId} (isGone : store.tables.get? id = none) :
      NamesAround store (some id) (.error (.staleHandle .table))
  /-- The entity whose body the table is is gone. -/
  | noOwner {id : TableId} {table : Table} {owner : EntityId}
      (known : store.tables.get? id = some table) (owned : table.owner? = some owner)
      (isGone : store.entities.get? owner = none) :
      NamesAround store (some id) (.error (.staleHandle .entity))
  /-- The table is the body of nothing. -/
  | unowned {id : TableId} {table : Table} {answer : Except Failure (List Name)}
      (known : store.tables.get? id = some table) (owned : table.owner? = none)
      (further : NamesAround store table.parent? answer) : NamesAround store (some id) answer
  /-- The table is the body of an entity. -/
  | owned {id : TableId} {table : Table} {owner : EntityId} {entity : Entity}
      {answer : Except Failure (List Name)} (known : store.tables.get? id = some table)
      (owned : table.owner? = some owner) (found : store.entities.get? owner = some entity)
      (further : NamesAround store table.parent? answer) :
      NamesAround store (some id) (answer.map (entity.name :: ·))

/-- How the qualified name of an entity is found: its own name comes after those around it. -/
inductive NameOf (store : SymbolStore) (id : EntityId) : Except Failure String → Prop where
  /-- The entity is gone. -/
  | noEntity (isGone : store.entities.get? id = none) : NameOf store id (.error (.staleHandle .entity))
  /-- The names around the entity are joined. -/
  | joined {entity : Entity} {around : Except Failure (List Name)}
      (found : store.entities.get? id = some entity)
      (names : NamesAround store (some entity.owner) around) :
      NameOf store id (around.map fun outer =>
        "::".intercalate ((entity.name :: outer).reverse.map store.nameText))

/-- The names around a table are found, or something on the way is stale. -/
theorem NamesAround.ok_or_stale {start : Option TableId} {answer : Except Failure (List Name)}
    (names : store.NamesAround start answer) :
    (∃ found, answer = .ok found) ∨ ∃ what, answer = .error (.staleHandle what) := by
  induction names with
  | outside => exact Or.inl ⟨[], rfl⟩
  | noTable => exact Or.inr ⟨.table, rfl⟩
  | noOwner => exact Or.inr ⟨.entity, rfl⟩
  | unowned _ _ _ ih => exact ih
  | owned _ _ _ _ ih =>
      rcases ih with ⟨found, rfl⟩ | ⟨what, rfl⟩
      · exact Or.inl ⟨_, rfl⟩
      · exact Or.inr ⟨what, rfl⟩

/-- The qualified name of an entity is found, or something on the way is stale. -/
theorem NameOf.ok_or_stale {id : EntityId} {answer : Except Failure String}
    (name : store.NameOf id answer) :
    (∃ text, answer = .ok text) ∨ ∃ what, answer = .error (.staleHandle what) := by
  cases name with
  | noEntity => exact Or.inr ⟨.entity, rfl⟩
  | joined found names =>
      rcases names.ok_or_stale with ⟨outer, rfl⟩ | ⟨what, rfl⟩
      · exact Or.inl ⟨_, rfl⟩
      · exact Or.inr ⟨what, rfl⟩

/-- Around a table that is gone, no names are found, however many steps are allowed. -/
theorem ownerNames_of_gone (isGone : store.tables.get? id = none) (steps : Nat) :
    store.ownerNames steps (some id) = .error (.staleHandle .table) := by
  cases steps with
  | zero => rfl
  | succ steps => simp [ownerNames, table, isGone, bind, Except.bind]

/-- One more step finds the name of the owner of a table. -/
theorem namesAround_succ {table : Table} {steps : Nat} (known : store.tables.get? id = some table)
    (further : store.NamesAround table.parent? (store.ownerNames steps table.parent?)) :
    store.NamesAround (some id) (store.ownerNames (steps + 1) (some id)) := by
  unfold ownerNames
  rw [table_eq_ok_iff.2 known, ok_bind]
  cases owned : table.owner? with
  | none =>
      have same : (store.ownerNames steps table.parent? >>= fun outer => pure ([] ++ outer)) =
          store.ownerNames steps table.parent? := by
        cases store.ownerNames steps table.parent? <;> rfl
      simp only [pure_bind, same]
      exact .unowned known owned further
  | some owner =>
      cases found : store.entities.get? owner with
      | none =>
          have stale : store.entity owner = .error (.staleHandle .entity) := by simp [entity, found]
          simp only [stale]
          exact .noOwner known owned found
      | some entity =>
          have named : (store.ownerNames steps table.parent? >>= fun outer =>
              pure ([entity.name] ++ outer)) =
                (store.ownerNames steps table.parent?).map (entity.name :: ·) := by
            cases store.ownerNames steps table.parent? <;> rfl
          simp only [entity_eq_ok_iff.2 found, ok_bind, pure_bind, named]
          exact .owned known owned found further

/-- The search that counts its steps finds what the loop finds, if it may take as many steps as there
are tables on the way. -/
theorem Climb.namesAround (climb : store.Climb gone id tables)
    (lost : ∀ outer, gone outer → store.tables.get? outer = none) {steps : Nat}
    (enough : tables.length ≤ steps) :
    store.NamesAround (some id) (store.ownerNames steps (some id)) := by
  induction climb generalizing steps with
  | outermost known parent =>
      obtain ⟨rest, rfl⟩ : ∃ rest, steps = rest + 1 := Nat.exists_eq_add_of_le' enough
      refine namesAround_succ known ?_
      have nothing : store.ownerNames rest none = .ok [] := by cases rest <;> rfl
      rw [parent, nothing]
      exact .outside
  | stranded known parent isGone =>
      obtain ⟨rest, rfl⟩ : ∃ rest, steps = rest + 1 := Nat.exists_eq_add_of_le' enough
      refine namesAround_succ known ?_
      rw [parent, ownerNames_of_gone (lost _ isGone)]
      exact .noTable (lost _ isGone)
  | nested known parent _ ih =>
      simp only [List.length_cons] at enough
      obtain ⟨rest, rfl⟩ : ∃ rest, steps = rest + 1 :=
        Nat.exists_eq_add_of_le' (Nat.le_trans (Nat.le_add_left 1 _) enough)
      refine namesAround_succ known ?_
      rw [parent]
      exact ih (by omega)

/-- Where one can climb, the qualified name of every entity is what the loop finds. -/
theorem Climbable.nameOf (climbable : store.Climbable gone)
    (lost : ∀ outer, gone outer → store.tables.get? outer = none) (id : EntityId) :
    store.NameOf id (store.qualifiedName id) := by
  unfold qualifiedName
  cases found : store.entities.get? id with
  | none =>
      have stale : store.entity id = .error (.staleHandle .entity) := by simp [entity, found]
      rw [stale]
      exact .noEntity found
  | some entity =>
      have around : store.NamesAround (some entity.owner)
          (store.ownerNames store.tables.capacity (some entity.owner)) := by
        cases known : store.tables.get? entity.owner with
        | none =>
            rw [ownerNames_of_gone known]
            exact .noTable known
        | some table =>
            obtain ⟨tables, climb⟩ := climbable _ table known
            exact climb.namesAround lost
              (Arena.length_le_capacity (climb.nodup lost) climb.known_of_mem)
      rw [entity_eq_ok_iff.2 found, ok_bind]
      have joined := NameOf.joined found around
      cases names : store.ownerNames store.tables.capacity (some entity.owner) <;>
        rw [names] at joined <;> exact joined

/-- In every store that can be reached, as long as no slot for tables was released so often that
generations repeat, the way outwards from a table meets pairwise distinct tables that are there, no
more than there are tables, and it ends at the global table or at a table that is nested in one that
is gone. So the loop that looks for a qualified name ends for every entity, with the name or with the
failure of a stale handle, and this is the answer to a question for the name. -/
theorem parent_chains_of_run (names : NamePool) (operations : List Operation)
    (countable : ((SymbolStore.new names).run operations).tables.Countable) :
    let store := (SymbolStore.new names).run operations
    let gone outer := store.tables.get? outer = none
    (∀ id table, store.tables.get? id = some table → ∃ tables, store.Climb gone id tables ∧
      tables.Nodup ∧ (∀ other ∈ tables, ∃ table, store.tables.get? other = some table) ∧
      tables.length ≤ store.tables.live ∧
      ∃ last table, tables.getLast? = some last ∧ store.tables.get? last = some table ∧
        (last = store.global ∧ table.parent? = none ∨
          ∃ outer, table.parent? = some outer ∧ gone outer)) ∧
    ∀ id, store.NameOf id (store.qualifiedName id) ∧
      ((∃ text, store.qualifiedName id = .ok text) ∨
        ∃ what, store.qualifiedName id = .error (.staleHandle what)) := by
  intro store gone
  have sound : store.Sound := (sound_new names).run operations
  have climbable : store.Climbable gone :=
    (climbable_run names operations).mono fun outer spent => spent.stale countable
  have lost : ∀ outer, gone outer → store.tables.get? outer = none := fun _ isGone => isGone
  constructor
  · intro id table known
    obtain ⟨tables, climb⟩ := climbable id table known
    obtain ⟨last, end', isLast, lastKnown, ends⟩ := climb.getLast?_eq
    refine ⟨tables, climb, climb.nodup lost, climb.known_of_mem,
      climb.length_le_live lost sound.wellFormed.tables, last, end', isLast, lastKnown, ?_⟩
    cases parent : end'.parent? with
    | none => exact Or.inl ⟨sound.linked.eq_global lastKnown parent, rfl⟩
    | some outer => exact Or.inr ⟨outer, rfl, ends outer parent⟩
  · intro id
    have name := climbable.nameOf lost id
    exact ⟨name, name.ok_or_stale⟩

/-- A function with a block in a block. The outer block is released, and its slot is taken by another
block of the function. -/
def strandBlock : List Operation :=
  let root := (SymbolStore.new {}).global
  [.addEntity root { name := ⟨0⟩, kind := .function { type := DeclType.void.function {} } },
    .openFunction ⟨0, 0⟩,
    .openBlock .block ⟨1, 0⟩,
    .openBlock .block ⟨2, 0⟩,
    .removeTable ⟨2, 0⟩,
    .openBlock .block ⟨1, 0⟩]

/-- The inner block is left behind: the way outwards from it ends at once, and does not go on through
the block that has taken the slot, from which it leads to the global table. -/
theorem strandBlock_strands :
    let store := (SymbolStore.new {}).run strandBlock
    let gone outer := store.tables.get? outer = none
    store.tables.Countable ∧ store.Climb gone ⟨3, 0⟩ [⟨3, 0⟩] ∧
      store.Climb gone ⟨2, 1⟩ [⟨2, 1⟩, ⟨1, 0⟩, store.global] ∧
      ∃ tables, store.Climb gone ⟨3, 0⟩ tables ∧ tables.Nodup ∧ tables.length ≤ 4 := by
  intro store gone
  have countable : store.tables.Countable := by
    unfold Arena.Countable
    decide +kernel
  have live : store.tables.live = 4 := by decide +kernel
  have parents : (store.tables.get? ⟨3, 0⟩).map Table.parent? = some (some ⟨2, 0⟩) ∧
      (store.tables.get? ⟨2, 1⟩).map Table.parent? = some (some ⟨1, 0⟩) ∧
      (store.tables.get? ⟨1, 0⟩).map Table.parent? = some (some store.global) ∧
      (store.tables.get? store.global).map Table.parent? = some none := by decide +kernel
  obtain ⟨strandedParent, reusedParent, bodyParent, rootParent⟩ := parents
  obtain ⟨stranded, strandedKnown, strandedIn⟩ := Option.map_eq_some_iff.1 strandedParent
  obtain ⟨reused, reusedKnown, reusedIn⟩ := Option.map_eq_some_iff.1 reusedParent
  obtain ⟨body, bodyKnown, bodyIn⟩ := Option.map_eq_some_iff.1 bodyParent
  obtain ⟨root, rootKnown, rootIn⟩ := Option.map_eq_some_iff.1 rootParent
  have isGone : gone ⟨2, 0⟩ := by
    show store.tables.get? ⟨2, 0⟩ = none
    decide +kernel
  obtain ⟨tables, climb, distinct, -, few, -⟩ :=
    (parent_chains_of_run {} strandBlock countable).1 ⟨3, 0⟩ stranded strandedKnown
  exact ⟨countable, .stranded strandedKnown strandedIn isGone,
    .nested reusedKnown reusedIn (.nested bodyKnown bodyIn (.outermost rootKnown rootIn)),
    tables, climb, distinct, live ▸ few⟩

end ScopeResolution.SymbolStore

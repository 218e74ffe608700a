import ScopeResolution.Proofs.SymbolStore.Removal

/-! # Runs of store operations

The states that a store can get into, by operations in any order that succeed or fail. Every
operation keeps a store sound (`Sound.step`), so every store that can be reached is sound
(`Sound.run`), and its links are as the main statement `links_of_run` spells them out. What a run
keeps only as long as something stays is the matter of `foldl_keeps_while`. -/

namespace ScopeResolution

/-- A property that steps keep where they lead to live states, a run keeps that never leaves those. -/
theorem foldl_keeps_while {State Step : Type} {step : State → Step → State}
    (invariant live : State → Prop) {start : State} {steps : List Step}
    (kept : ∀ state, ∀ next ∈ steps, invariant state → live (step state next) →
      invariant (step state next))
    (holds : invariant start) (alive : ∀ count, live ((steps.take count).foldl step start)) :
    invariant (steps.foldl step start) := by
  induction steps generalizing start with
  | nil => exact holds
  | cons next rest ih =>
      -- A prefix of the rest is a prefix of all steps that is longer by one.
      refine ih (fun state later listed => kept state later (List.mem_cons_of_mem next listed))
        (kept start next List.mem_cons_self holds (alive 1)) fun count => ?_
      exact alive (count + 1)

/-- A value that is there after each of the first steps, up to the last one, is there all along. -/
theorem exists_along {State Step Value : Type} {step : State → Step → State} {start : State}
    {steps : List Step} (value : State → Option Value)
    (each : ∀ count ≤ steps.length, (value ((steps.take count).foldl step start)).isSome = true)
    (count : Nat) : ∃ found, value ((steps.take count).foldl step start) = some found := by
  rcases Nat.le_total count steps.length with within | beyond
  · exact Option.isSome_iff_exists.1 (each count within)
  · rw [List.take_of_length_le beyond, ← List.take_length (l := steps)]
    exact Option.isSome_iff_exists.1 (each steps.length (Nat.le_refl _))

namespace SymbolStore

/-- The operations that may change a store. -/
inductive Operation where
  /-- Declares an entity in a table. -/
  | addEntity (target : TableId) (draft : Draft)
  /-- Opens a new body of a function. -/
  | openFunction (id : EntityId)
  /-- Opens a block in a table. -/
  | openBlock (opener : BlockOpener) (parent : TableId)
  /-- Releases a table with everything within it. -/
  | removeTable (id : TableId)
  /-- Adds a peer to a table. -/
  | addPeer (target peer : TableId)
  /-- Adds a base to a class table. -/
  | addBase (target : TableId) (base : Base)
  /-- Marks the class of a table complete. -/
  | complete (target : TableId)
  /-- Makes a text a name. -/
  | intern (text : String)

/-- The store that an operation hands back, or the one that it was asked of when it fails. -/
def after {α : Type} (store : SymbolStore) (answer : Except Failure α) (state : α → SymbolStore) :
    SymbolStore :=
  match answer with
  | .ok result => state result
  | .error _ => store

/-- The store after an operation, whether it fails or not. An operation that answers without a store
when it fails does so before it changes anything, so the store that is left is the one that was
asked. -/
def step (store : SymbolStore) : Operation → SymbolStore
  | .addEntity target draft => (store.addEntity target draft).2
  | .openFunction id => store.after (store.openFunction id) (·.2)
  | .openBlock opener parent => store.after (store.openBlock opener parent) (·.2)
  | .removeTable id => store.after (store.removeTable id) (·.2)
  | .addPeer target peer => (store.addPeer target peer).2
  | .addBase target base => store.after (store.addBase target base) id
  | .complete target => store.after (store.complete target) id
  | .intern text => (store.intern text).2

/-- The store after some operations, one after the other. -/
def run (store : SymbolStore) (operations : List Operation) : SymbolStore :=
  operations.foldl step store

/-- A store is sound when its arenas are well formed and its links are sound. -/
structure Sound (store : SymbolStore) : Prop where
  /-- The arenas are well formed. -/
  wellFormed : store.WellFormed
  /-- The links are sound. -/
  linked : store.Linked

/-- The store that holds nothing but the global table is sound. -/
theorem sound_new (names : NamePool) : (SymbolStore.new names).Sound :=
  ⟨wellFormed_new names, linked_new names⟩

variable {store : SymbolStore}

/-- An operation that keeps the store when it fails, and a property when it succeeds, keeps that
property. -/
theorem after_of_ok {α : Type} {invariant : SymbolStore → Prop} {answer : Except Failure α}
    {state : α → SymbolStore} (holds : invariant store)
    (success : ∀ result, answer = .ok result → invariant (state result)) :
    invariant (store.after answer state) := by
  cases answer with
  | error failure => exact holds
  | ok result => exact success result rfl

namespace Sound

variable (invariant : SymbolStore → Prop)

/-- Edits of a sound store keep it sound, and they keep what every edit of a store with sound links
keeps. -/
theorem edits {later : SymbolStore} (sound : store.Sound) (holds : invariant store)
    (edit : ∀ before change after, before.Linked → invariant before →
      Edit before change after → invariant after)
    {allowed : SymbolStore → Change → Prop}
    (result : Edits allowed store later ∧ later.WellFormed) : later.Sound ∧ invariant later := by
  obtain ⟨linked, kept⟩ := result.1.preserve (fun now => now.Linked ∧ invariant now)
    ⟨sound.linked, holds⟩ fun before change after both _ edited =>
      ⟨both.1.edit edited, edit before change after both.1 both.2 edited⟩
  exact ⟨⟨result.2, linked⟩, kept⟩

/-- Releasing a table keeps a store sound. -/
theorem removeTable {later : SymbolStore} (sound : store.Sound) {id : TableId} {count : Nat}
    (removed : store.removeTable id = .ok (count, later)) : later.Sound := by
  obtain ⟨released, wellFormed⟩ := removeTable_released sound.linked sound.wellFormed removed
  exact ⟨wellFormed, sound.linked.released released⟩

/-- Every operation, whether it fails or not, keeps a store sound, and it keeps what edits and the
release of a table keep. -/
theorem step_keeps (sound : store.Sound) (holds : invariant store)
    (edit : ∀ before change after, before.Linked → invariant before →
      Edit before change after → invariant after)
    (released : ∀ before id after, before.Linked → invariant before →
      Released before id after → invariant after)
    (operation : Operation) :
    (store.step operation).Sound ∧ invariant (store.step operation) := by
  have wellFormed := sound.wellFormed
  have single {later : SymbolStore} {change : Change}
      (result : Edit store change later ∧ later.WellFormed) : later.Sound ∧ invariant later :=
    have edits : Edits (fun _ _ => True) store later := .single _ trivial result.1
    sound.edits invariant holds edit ⟨edits, result.2⟩
  have succeeding {α : Type} {answer : Except Failure α} {state : α → SymbolStore}
      (success : ∀ result, answer = .ok result →
        (state result).Sound ∧ invariant (state result)) :
      (store.after answer state).Sound ∧ invariant (store.after answer state) :=
    @after_of_ok store α (fun now => now.Sound ∧ invariant now) answer state ⟨sound, holds⟩ success
  cases operation with
  | addEntity target draft =>
      exact sound.edits invariant holds edit (addEntity_edits (fun _ _ => True) wellFormed target
        draft trivial (fun _ _ => trivial) fun _ _ _ _ _ _ _ => trivial)
  | openFunction id =>
      refine succeeding fun result opened => ?_
      have edit := openFunction_edit wellFormed opened
      exact single ⟨edit.1, edit.2.1⟩
  | openBlock opener parent =>
      exact succeeding fun result opened => single (openBlock_edit wellFormed opened)
  | removeTable id =>
      refine succeeding fun result removed => ⟨sound.removeTable removed, ?_⟩
      exact released store id _ sound.linked holds
        (removeTable_released sound.linked wellFormed removed).1
  | addPeer target peer =>
      exact sound.edits invariant holds edit
        (addPeer_edits (fun _ _ => True) wellFormed target peer trivial trivial)
  | addBase target base =>
      exact succeeding fun result added => single (addBase_edit wellFormed added)
  | complete target =>
      exact succeeding fun result done => single (complete_edit wellFormed done)
  | intern text => exact single (intern_edit wellFormed text)

/-- Every run keeps a store sound, and it keeps what edits and the release of a table keep. -/
theorem run_keeps (sound : store.Sound) (holds : invariant store)
    (edit : ∀ before change after, before.Linked → invariant before →
      Edit before change after → invariant after)
    (released : ∀ before id after, before.Linked → invariant before →
      Released before id after → invariant after)
    (operations : List Operation) :
    (store.run operations).Sound ∧ invariant (store.run operations) := by
  refine List.foldlRecOn operations SymbolStore.step
    (motive := fun now => now.Sound ∧ invariant now) ⟨sound, holds⟩ ?_
  rintro now ⟨sound, holds⟩ operation -
  exact sound.step_keeps invariant holds edit released operation

/-- Every operation keeps a store sound, whether it fails or not. -/
theorem step (sound : store.Sound) (operation : Operation) : (store.step operation).Sound :=
  (sound.step_keeps (fun _ => True) trivial (fun _ _ _ _ _ _ => trivial)
    (fun _ _ _ _ _ _ => trivial) operation).1

/-- Every run keeps a store sound. -/
theorem run (sound : store.Sound) (operations : List Operation) :
    (store.run operations).Sound :=
  List.foldlRecOn operations SymbolStore.step sound fun _ sound operation _ => sound.step operation

end Sound

/-! ## What an operation makes of the store -/

/-- A change files no draft but one that was found fit for tables of some kind. -/
def FilesValid (store : SymbolStore) (change : Change) : Prop :=
  ∀ target draft id, change = .file target draft id → ∃ kind, store.validate draft kind = .ok ()

/-- Adding an entity edits the store, and files nothing but a valid draft. -/
theorem addEntity_filesValid (wellFormed : store.WellFormed) (target : TableId) (draft : Draft) :
    Edits FilesValid store (store.addEntity target draft).2 := by
  have unchanged : Edits FilesValid store store := Relation.ReflTransGen.refl
  cases found : store.table target with
  | error failure =>
      unfold addEntity
      rw [found]
      exact unchanged
  | ok table =>
      cases valid : store.validate draft table.kind with
      | error failure =>
          unfold addEntity
          simp only [found, valid]
          exact unchanged
      | ok =>
          have files (id : EntityId) : FilesValid store (.file target draft id) := by
            intro _ other _ same
            have sameDraft : draft = other := (Change.file.inj same).2.1
            exact ⟨table.kind, sameDraft ▸ valid⟩
          exact (addEntity_edits FilesValid wellFormed target draft (by simp [FilesValid])
            (fun id _ => files id) fun _ _ _ _ _ _ _ => by simp [FilesValid]).1

/-- Every operation edits the store, and files nothing but a valid draft, or releases one table. -/
theorem Sound.edits_of_step (sound : store.Sound) (operation : Operation) :
    Edits FilesValid store (store.step operation) ∨
      ∃ id, Released store id (store.step operation) := by
  have wellFormed := sound.wellFormed
  have unchanged : Edits FilesValid store store := Relation.ReflTransGen.refl
  have revised {later : SymbolStore} {id : TableId} (edit : Edit store (.revise id) later) :
      Edits FilesValid store later := .single (.revise id) (by simp [FilesValid]) edit
  cases operation with
  | addEntity target draft => exact Or.inl (addEntity_filesValid wellFormed target draft)
  | openFunction id =>
      refine Or.inl (after_of_ok unchanged fun result opened => ?_)
      have edit := (openFunction_edit wellFormed opened).1
      exact .single (.openBody id result.1) (by simp [FilesValid]) edit
  | openBlock opener parent =>
      refine Or.inl (after_of_ok unchanged fun result opened => ?_)
      have edit := (openBlock_edit wellFormed opened).1
      exact .single (.openBlock parent result.1) (by simp [FilesValid]) edit
  | removeTable id =>
      cases removed : store.removeTable id with
      | error failure =>
          refine Or.inl ?_
          show Edits _ store (store.after (store.removeTable id) _)
          rw [removed]
          exact unchanged
      | ok result =>
          refine Or.inr ⟨id, ?_⟩
          show Released store id (store.after (store.removeTable id) _)
          rw [removed]
          exact (removeTable_released sound.linked wellFormed removed).1
  | addPeer target peer =>
      exact Or.inl (addPeer_edits FilesValid wellFormed target peer (by simp [FilesValid])
        (by simp [FilesValid])).1
  | addBase target base =>
      exact Or.inl (after_of_ok unchanged fun _ added => revised (addBase_edit wellFormed added).1)
  | complete target =>
      exact Or.inl (after_of_ok unchanged fun _ done => revised (complete_edit wellFormed done).1)
  | intern text =>
      exact Or.inl (.single .rest (by simp [FilesValid]) (intern_edit wellFormed text).1)

/-- In every store that can be reached, what a table lists in any slot is there and belongs to that
table, the body of an entity is there and belongs to that entity, and the table of a class or
namespace is the body of its owner. So the own entries and the constructors of a table are always
found. -/
theorem links_of_run (names : NamePool) (operations : List Operation) :
    let store := (SymbolStore.new names).run operations
    (∀ id table, store.tables.get? id = some table → ∀ member ∈ table.listed,
      ∃ entity, store.entities.get? member = some entity ∧ entity.owner = id) ∧
    (∀ id entity region, store.entities.get? id = some entity → entity.body = some region →
      ∃ table, store.tables.get? region = some table ∧ table.owner? = some id) ∧
    (∀ id table, store.tables.get? id = some table →
      table.kind = .classTable ∨ table.kind = .namespaceTable → id ≠ store.global →
        ∃ owner entity, table.owner? = some owner ∧ store.entities.get? owner = some entity ∧
          entity.body = some id) ∧
    ∀ id table, store.tables.get? id = some table →
      (∀ name, ∃ hits, store.findInScope id name = .ok hits) ∧
        ∃ hits, store.constructors id = .ok hits := by
  intro store
  have linked : store.Linked := ((sound_new names).run operations).linked
  refine ⟨linked.listed, ?_, ?_, ?_⟩
  · intro id entity region found body
    obtain ⟨table, regionFound, owner, -⟩ := linked.body id entity region found body
    exact ⟨table, regionFound, owner⟩
  · intro id table found isRegion notGlobal
    refine linked.region id table found ?_ notGlobal
    rcases isRegion with kind | kind <;> rw [kind] <;> rfl
  · intro id table found
    refine ⟨fun name => ?_, ?_⟩
    · obtain ⟨role, -, hits⟩ := linked.findInScope_eq_ok found name
      exact ⟨_, hits⟩
    · obtain ⟨role, -, hits⟩ := linked.constructors_eq_ok found
      exact ⟨_, hits⟩

end SymbolStore

end ScopeResolution

import ScopeResolution.Proofs.Resolver.DeclarationEffect
import ScopeResolution.Proofs.Resolver.ScopeStack

/-! # Operations that fail

Several operations change something before they can fail: closing a scope pops the table before it is
released, filing a draft keeps the entity before the table takes it in, and a refused directive has
made its own name a name. In every state that a run can reach, such an operation either cannot fail
any more at that point or takes back what it did, so that no failure is to be seen in the scopes, the
entities, the tables or the log (`unchanged_of_failed_operation`). Closing several scopes at once is
not of that kind, nor is what may report a problem. -/

namespace ScopeResolution.Resolver

variable {resolver before after : Resolver} {failure : Failure}

/-- Whether an operation succeeds, and with which failure it ends if it does not. -/
def outcome (resolver : Resolver) : Operation → Except Failure Unit
  | .openScope construct => (resolver.openScope construct).map fun _ => ()
  | .closeScope => resolver.closeScope.1.map fun _ => ()
  | .closeScopeChecked expected => (resolver.closeScopeChecked expected).1.map fun _ => ()
  | .pushChain qualifiers => (resolver.pushChain qualifiers).map fun _ => ()
  | .popChain count => (resolver.popChain count).1
  | .declare draft => (resolver.declare draft).1.map fun _ => ()
  | .declareIn target draft => (resolver.declareIn target draft).1.map fun _ => ()
  | .insert draft => (resolver.insert draft).1.map fun _ => ()
  | .insertInto target draft => (resolver.insertInto target draft).1.map fun _ => ()
  | .addUsing used => (resolver.addUsing used).1
  | .addBase derived base => (resolver.addBase derived base).map fun _ => ()
  | .sealClass id => (resolver.sealClass id).map fun _ => ()
  | .intern _ => .ok ()
  | .resolve name start reach => (resolver.resolve name start reach).map fun _ => ()
  | .resolveQualified name start => (resolver.resolveQualified name start).1.map fun _ => ()
  | .findLabel name => (resolver.findLabel name).map fun _ => ()
  | .effectiveAccess member through =>
    (resolver.effectiveAccess member through).map fun _ => ()
  | .checkRedeclaration draft prior role =>
    (resolver.checkRedeclaration draft prior role).1.map fun _ => ()
  | .unique mention query hits => (resolver.unique mention query hits).1.map fun _ => ()
  | .typeName mention hits => (resolver.typeName mention hits).1.map fun _ => ()
  | .consult question => (resolver.settle (question resolver.store)).1
  | .reportUndefined mention => (resolver.reportUndefined mention).1

/-- The operations that open or close one scope or a chain of qualifiers, file a draft without
judging it, or revise a table. -/
def Operation.isAtomic : Operation → Bool
  | .openScope _ | .closeScope | .closeScopeChecked _ | .pushChain _ | .insert _ | .insertInto _ _
  | .addUsing _ | .addBase _ _ | .sealClass _ => true
  | _ => false

/-- Two resolvers are the same but for names and for slots that hold nothing. -/
structure Unchanged (before after : Resolver) : Prop where
  /-- The entities are the same. -/
  entities_eq : after.store.entities.get? = before.store.entities.get?
  /-- The tables are the same. -/
  tables_eq : after.store.tables.get? = before.store.tables.get?
  /-- The global table is the same. -/
  global_eq : after.store.global = before.store.global
  /-- The open tables are the same. -/
  scopes_eq : after.scopes = before.scopes
  /-- The log is the same. -/
  log_eq : after.log = before.log
  /-- The settings are the same. -/
  settings_eq : after.settings = before.settings

namespace Unchanged

/-- A resolver is the same as itself. -/
theorem refl (resolver : Resolver) : resolver.Unchanged resolver := ⟨rfl, rfl, rfl, rfl, rfl, rfl⟩

/-- A failure of an operation that hands back no resolver leaves the one that it was asked of. -/
theorem of_after {α : Type} {answer : Except Failure α} (state : α → Resolver)
    (failed : (answer.map fun _ => ()) = .error failure) :
    resolver.Unchanged (resolver.after answer state) := by
  cases answer with
  | error reason => exact refl resolver
  | ok result => cases failed

/-- Another store with the same entities and tables makes no difference. -/
theorem of_store {store : SymbolStore}
    (entities : store.entities.get? = resolver.store.entities.get?)
    (tables : store.tables.get? = resolver.store.tables.get?)
    (global : store.global = resolver.store.global) :
    resolver.Unchanged { resolver with store } := ⟨entities, tables, global, rfl, rfl, rfl⟩

end Unchanged

/-- A scope that cannot be closed stays open. -/
theorem unchanged_of_closeScope (sound : resolver.Sound)
    (failed : resolver.closeScope.1 = .error failure) :
    resolver.Unchanged resolver.closeScope.2 := by
  -- No table is released in vain, so only the global scope cannot be closed.
  have none_open := (sound.closeScope_error failed).2
  have popped : resolver.scopes.pop = .error .globalClosed := by
    unfold OpenScopes.pop
    rw [none_open]
  unfold closeScope
  rw [popped]
  exact .refl resolver

/-- A draft that is refused leaves no entity behind. -/
theorem unchanged_of_insertInto (sound : resolver.store.Sound) {target : TableId} {draft : Draft}
    (failed : (resolver.insertInto target draft).1 = .error failure) :
    resolver.Unchanged (resolver.insertInto target draft).2 := by
  have refused : resolver.store.addEntity target draft =
      (.error failure, (resolver.store.addEntity target draft).2) := Prod.ext failed rfl
  have same := SymbolStore.addEntity_error sound.wellFormed refused
  exact .of_store same.entities_eq same.tables_eq same.global_eq

/-- A directive that is refused leaves at most its own name behind. -/
theorem unchanged_of_addUsing {used : EntityId}
    (failed : (resolver.addUsing used).1 = .error failure) :
    resolver.Unchanged (resolver.addUsing used).2 := by
  simp only [addUsing] at failed ⊢
  split at failed
  · exact .refl resolver
  · rename_i target peer _
    show resolver.Unchanged { resolver with store := (resolver.store.addPeer target peer).2 }
    have refused : (resolver.store.addPeer target peer).1 = .error failure := failed
    unfold SymbolStore.addPeer at refused ⊢
    split
    · exact .refl resolver
    · exact .refl resolver
    · split
      · rename_i taken
        simp only [*] at refused
        cases refused
      · exact .of_store rfl rfl rfl

/-- In a state that a run can reach, an operation that fails changes nothing but the names, if it is
one of those that report no problem and close at most one scope. -/
theorem Sound.unchanged_of_outcome (sound : resolver.Sound) {operation : Operation}
    (atomic : operation.isAtomic = true) (failed : resolver.outcome operation = .error failure) :
    resolver.Unchanged (resolver.step operation) := by
  have reason {α : Type} {answer : Except Failure α}
      (failed : (answer.map fun _ => ()) = .error failure) : answer = .error failure := by
    cases answer with
    | error reason => exact congrArg Except.error (Except.error.inj failed)
    | ok result => cases failed
  cases operation with
  | openScope construct => exact .of_after _ failed
  | closeScope => exact unchanged_of_closeScope sound (reason failed)
  | closeScopeChecked expected =>
      have failed := reason failed
      show resolver.Unchanged (resolver.closeScopeChecked expected).2
      unfold closeScopeChecked at failed ⊢
      by_cases innermost : resolver.scopes.current = expected
      · simp only [if_pos innermost] at failed ⊢
        exact unchanged_of_closeScope sound failed
      · simp only [if_neg innermost]
        exact .refl resolver
  | pushChain qualifiers => exact .of_after _ failed
  | insert draft =>
      have failed := reason failed
      show resolver.Unchanged (resolver.insert draft).2
      simp only [Resolver.insert] at failed ⊢
      split at failed
      · exact .refl resolver
      · exact unchanged_of_insertInto sound.store failed
  | insertInto target draft => exact unchanged_of_insertInto sound.store (reason failed)
  | addUsing used => exact unchanged_of_addUsing failed
  | addBase derived base => exact .of_after _ failed
  | sealClass id => exact .of_after _ failed
  | _ => cases atomic

/-- After every run, an operation that opens or closes one scope or a chain of qualifiers, files a
draft without judging it, or revises a table changes nothing when it fails: the open tables, the
entities, the tables and the log are what they were. -/
theorem unchanged_of_failed_operation (names : NamePool) (settings : Settings)
    (operations : List Operation) (operation : Operation) (failure : Failure)
    (atomic : operation.isAtomic = true)
    (failed : ((Resolver.new names settings).run operations).outcome operation = .error failure) :
    ((Resolver.new names settings).run operations).Unchanged
      (((Resolver.new names settings).run operations).step operation) :=
  (sound_run names settings operations).unchanged_of_outcome atomic failed

/-- A draft of a destructor. -/
def destructorDraft (name : Name) : Draft where
  name := name
  kind := .function { type := DeclType.void.function {}, form := .destructor }

/-- A class gets a destructor. -/
def fileDestructor : List Operation :=
  [.intern "C", .intern "~C", .declare { name := ⟨0⟩, kind := .classDecl .structKey false },
    .insertInto ⟨1, 0⟩ (destructorDraft ⟨1⟩)]

/-- Filing another destructor in it fails only when an entity was kept for it already, and changes
nothing. -/
theorem unchanged_of_secondDestructor :
    let resolver := (Resolver.new {} {}).run fileDestructor
    resolver.outcome (.insertInto ⟨1, 0⟩ (destructorDraft ⟨1⟩)) =
        .error (.refused "~C" .duplicateDestructor) ∧
      (resolver.step (.insertInto ⟨1, 0⟩ (destructorDraft ⟨1⟩))).store.entities.capacity =
        resolver.store.entities.capacity + 1 ∧
      resolver.Unchanged (resolver.step (.insertInto ⟨1, 0⟩ (destructorDraft ⟨1⟩))) := by
  intro resolver
  have failed : resolver.outcome (.insertInto ⟨1, 0⟩ (destructorDraft ⟨1⟩)) =
      .error (.refused "~C" .duplicateDestructor) := by decide +kernel
  exact ⟨failed, by decide +kernel,
    unchanged_of_failed_operation {} {} fileDestructor _ _ rfl failed⟩

end ScopeResolution.Resolver

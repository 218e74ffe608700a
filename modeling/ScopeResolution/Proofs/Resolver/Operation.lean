import ScopeResolution.Proofs.Declaration.Coexistence
import ScopeResolution.Proofs.SymbolStore.Operation
import ScopeResolution.Resolver.Querying

/-! # Runs of resolver operations

The states that a resolver can get into, by operations in any order that succeed or fail. Every
operation is a sequence of moves, each of which edits the store, opens a table or closes one
(`step_leads`), and the operation says which moves it may make (`Operation.Permits`). What all moves
preserve, or all that some operations may make, holds after every run of such operations. -/

namespace ScopeResolution

namespace Resolver

/-- The operations of a resolver. -/
inductive Operation where
  /-- Opens the scope of a construct. -/
  | openScope (construct : Construct)
  /-- Closes the innermost scope. -/
  | closeScope
  /-- Closes the innermost scope, which must be that of a table. -/
  | closeScopeChecked (expected : TableId)
  /-- Opens the bodies of qualifiers. -/
  | pushChain (qualifiers : List EntityId)
  /-- Closes a number of scopes without releasing anything. -/
  | popChain (count : Nat)
  /-- Declares a draft at this point. -/
  | declare (draft : Draft)
  /-- Declares a draft in a table. -/
  | declareIn (target : TableId) (draft : Draft)
  /-- Files a draft at this point without judging it. -/
  | insert (draft : Draft)
  /-- Files a draft in a table without judging it. -/
  | insertInto (target : TableId) (draft : Draft)
  /-- Makes the members of a class or namespace visible from here. -/
  | addUsing (used : EntityId)
  /-- Adds a base to a class. -/
  | addBase (derived : EntityId) (base : Base)
  /-- Marks a class complete. -/
  | sealClass (id : EntityId)
  /-- Makes a text a name. -/
  | intern (text : String)
  /-- Looks a name up. -/
  | resolve (name : Name) (start : Option TableId) (reach : Reach)
  /-- Looks a chain of names up. -/
  | resolveQualified (name : QualifiedName) (start : Option TableId)
  /-- Looks a label up. -/
  | findLabel (name : Name)
  /-- Asks how a member can be reached through a class. -/
  | effectiveAccess (member through : EntityId)
  /-- Judges a draft against given hits. -/
  | checkRedeclaration (draft : Draft) (prior : Hits) (role : Role)
  /-- Narrows hits to the one that answers a query. -/
  | unique (mention : Mention) (query : Role) (hits : Hits)
  /-- Narrows hits to the name of a type. -/
  | typeName (mention : Mention) (hits : Hits)
  /-- Asks the store a question whose answer may come with a problem to report. -/
  | consult (question : SymbolStore → Except Failure (Judgement Unit))
  /-- Reports that a name stands for nothing. -/
  | reportUndefined (mention : Mention)

/-- The resolver that an operation hands back, or the one that it was asked of when it fails. -/
def after {α : Type} (resolver : Resolver) (answer : Except Failure α) (state : α → Resolver) :
    Resolver :=
  match answer with
  | .ok result => state result
  | .error _ => resolver

/-- The resolver after an operation, whether it fails or not. Opening a scope or the bodies of
qualifiers, adding a base and completing a class answer without a state when they fail, because they
fail before they change anything; so the resolver that is left is the one that was asked. -/
def step (resolver : Resolver) : Operation → Resolver
  | .openScope construct => resolver.after (resolver.openScope construct) (·.2)
  | .closeScope => resolver.closeScope.2
  | .closeScopeChecked expected => (resolver.closeScopeChecked expected).2
  | .pushChain qualifiers => resolver.after (resolver.pushChain qualifiers) (·.2)
  | .popChain count => (resolver.popChain count).2
  | .declare draft => (resolver.declare draft).2
  | .declareIn target draft => (resolver.declareIn target draft).2
  | .insert draft => (resolver.insert draft).2
  | .insertInto target draft => (resolver.insertInto target draft).2
  | .addUsing used => (resolver.addUsing used).2
  | .addBase derived base => resolver.after (resolver.addBase derived base) id
  | .sealClass id => resolver.after (resolver.sealClass id) (·)
  | .intern text => (resolver.intern text).2
  | .resolve name start reach =>
    resolver.after (resolver.resolve name start reach) fun _ => resolver
  | .resolveQualified name start => (resolver.resolveQualified name start).2
  | .findLabel name => resolver.after (resolver.findLabel name) fun _ => resolver
  | .effectiveAccess member through =>
    resolver.after (resolver.effectiveAccess member through) fun _ => resolver
  | .checkRedeclaration draft prior role => (resolver.checkRedeclaration draft prior role).2
  | .unique mention query hits => (resolver.unique mention query hits).2
  | .typeName mention hits => (resolver.typeName mention hits).2
  | .consult question => (resolver.settle (question resolver.store)).2
  | .reportUndefined mention => (resolver.reportUndefined mention).2

/-- The resolver after some operations, one after the other. -/
def run (resolver : Resolver) (operations : List Operation) : Resolver :=
  operations.foldl step resolver

/-- A draft of a function that takes parameters of some types and returns nothing. -/
def functionDraft (name : Name) (params : List DeclType) : Draft where
  name := name
  kind := .function { type := DeclType.void.function { params } }

/-! ## Moves -/

/-- The kinds of moves that operations are made of. -/
inductive Action where
  /-- The store is edited, and no scope is opened or closed. -/
  | edit (change : SymbolStore.Change)
  /-- A new body of a function is opened. -/
  | openFunction (id : EntityId) (body : TableId)
  /-- A new block is opened. -/
  | openBlock (block : TableId)
  /-- The body that an entity stands for is opened. -/
  | enter (entity : EntityId) (region : TableId)
  /-- The innermost table is closed and stays in the store. -/
  | drop
  /-- The innermost table is closed, and released if it is of no further use. -/
  | close

/-- What the kinds of moves make of a resolver. -/
inductive Move (before : Resolver) : Action → Resolver → Prop where
  /-- An edit of the store leaves the scopes alone. -/
  | edit {after : Resolver} {change : SymbolStore.Change}
      (edit : before.store.Edit change after.store) (scopes : after.scopes = before.scopes)
      (settings : after.settings = before.settings) : Move before (.edit change) after
  /-- A function gets a new body, which becomes the innermost table. -/
  | openFunction {after : Resolver} {id : EntityId} {body : TableId} {entity : Entity}
      (edit : before.store.Edit (.openBody id body) after.store)
      (known : before.store.entities.get? id = some entity)
      (notRegion : entity.kind.opensRegion = false)
      (scopes : after.scopes = before.scopes.push body)
      (settings : after.settings = before.settings) : Move before (.openFunction id body) after
  /-- The innermost table gets a block inside it, which becomes the innermost one. -/
  | openBlock {after : Resolver} {block : TableId}
      (edit : before.store.Edit (.openBlock before.scopes.current block) after.store)
      (scopes : after.scopes = before.scopes.push block)
      (settings : after.settings = before.settings) : Move before (.openBlock block) after
  /-- The body of a class or namespace becomes the innermost table. -/
  | enter {after : Resolver} {entity : EntityId} {region : TableId}
      (found : before.store.regionOf entity = .ok (some region))
      (store : after.store = before.store) (scopes : after.scopes = before.scopes.push region)
      (settings : after.settings = before.settings) : Move before (.enter entity region) after
  /-- The innermost table is no longer open, and that is all. -/
  | drop {after : Resolver} {closed : TableId}
      (popped : before.scopes.pop = .ok (closed, after.scopes))
      (store : after.store = before.store) (settings : after.settings = before.settings) :
      Move before .drop after
  /-- The innermost table is closed and stays, as it belongs to no function. -/
  | keep {after : Resolver} {closed : TableId}
      (popped : before.scopes.pop = .ok (closed, after.scopes))
      (kept : before.settings.discardClosedScopes = true → ∀ table,
        before.store.tables.get? closed = some table → table.kind.isLocal = false)
      (store : after.store = before.store) (settings : after.settings = before.settings) :
      Move before .close after
  /-- The innermost table is closed and released. -/
  | release {after : Resolver} {closed : TableId} {table : Table}
      (popped : before.scopes.pop = .ok (closed, after.scopes))
      (known : before.store.tables.get? closed = some table) (isLocal : table.kind.isLocal = true)
      (released : before.store.Released closed after.store)
      (settings : after.settings = before.settings) : Move before .close after

/-- A sequence of moves, each one allowed in the state that it starts from. -/
def Moves (allowed : Resolver → Action → Prop) : Resolver → Resolver → Prop :=
  Relation.ReflTransGen fun before after =>
    ∃ action, allowed before action ∧ Move before action after

namespace Moves

variable {allowed : Resolver → Action → Prop} {before after : Resolver}

/-- One allowed move is a sequence. -/
theorem single (action : Action) (permitted : allowed before action)
    (move : Move before action after) : Moves allowed before after :=
  Relation.ReflTransGen.single ⟨action, permitted, move⟩

/-- What every allowed move preserves is preserved by a sequence of them. -/
theorem preserve (invariant : Resolver → Prop) (moves : Moves allowed before after)
    (holds : invariant before)
    (step : ∀ before action after, invariant before → allowed before action →
      Move before action after → invariant after) : invariant after := by
  induction moves with
  | refl => exact holds
  | tail _ move ih =>
      obtain ⟨action, permitted, move⟩ := move
      exact step _ action _ ih permitted move

/-- A sequence of edits of the store, with the scopes left alone. -/
theorem of_edits {allowedEdit : SymbolStore → SymbolStore.Change → Prop}
    (edits : SymbolStore.Edits allowedEdit before.store after.store)
    (scopes : after.scopes = before.scopes) (settings : after.settings = before.settings)
    (rest : ∀ now, allowed now (.edit .rest))
    (weaker : ∀ now change, allowedEdit now.store change → allowed now (.edit change)) :
    Moves allowed before after := by
  -- The log changes in no edit, so the last state is reached by one more move.
  suffices reached : ∀ store, SymbolStore.Edits allowedEdit before.store store →
      Moves allowed before { before with store } by
    exact (reached _ edits).tail ⟨_, rest _, .edit (.rest rfl rfl rfl) scopes settings⟩
  intro store edits
  induction edits with
  | refl => exact Relation.ReflTransGen.refl
  | tail _ edit ih =>
      obtain ⟨change, permitted, edit⟩ := edit
      exact ih.tail ⟨_, weaker _ change permitted, .edit edit rfl rfl⟩

end Moves

namespace Operation

/-- The operation may file a draft in a table. -/
def Files (operation : Operation) (start : Resolver) (now : SymbolStore) (target : TableId)
    (draft : Draft) : Prop :=
  match operation with
  | .declare meant => meant = draft ∧ start.targetFor draft = .ok target ∧ now.Accepted target draft
  | .declareIn given meant => meant = draft ∧ given = target ∧ now.Accepted target draft
  | .insert meant => meant = draft ∧ start.targetFor draft = .ok target
  | .insertInto given meant => meant = draft ∧ given = target
  | _ => False

/-- The operation may revise a table. -/
def Revises (operation : Operation) (start : Resolver) (id : TableId) : Prop :=
  match operation with
  | .addUsing _ => start.usingTarget = .ok id
  | .addBase derived _ => start.store.bodyOfKind derived .classTable = .ok id
  | .sealClass sealed => start.store.bodyOfKind sealed .classTable = .ok id
  | _ => False

/-- The changes of the store that the operation may make when it starts from a resolver. Bodies are
opened for classes and namespaces that the operation itself declares. -/
def Makes (operation : Operation) (start : Resolver) (now : SymbolStore) :
    SymbolStore.Change → Prop
  | .rest => True
  | .file target draft _ => operation.Files start now target draft
  | .openBody id _ => start.store.entities.get? id = none ∧
      ∃ entity, now.entities.get? id = some entity ∧ entity.kind.opensRegion = true
  | .openBlock _ _ => False
  | .revise id => operation.Revises start id

/-- The operation may open the body that an entity stands for. -/
def Enters (operation : Operation) (entity : EntityId) : Prop :=
  match operation with
  | .openScope (.namespaceBody id) => id = entity
  | .openScope (.classBody id) => id = entity
  | .pushChain qualifiers => entity ∈ qualifiers
  | _ => False

/-- The moves that the operation may make when it starts from a resolver. -/
def Permits (operation : Operation) (start now : Resolver) : Action → Prop
  | .edit change => operation.Makes start now.store change
  | .openFunction id _ => operation = .openScope (.functionBody id)
  | .openBlock _ => ∃ opener, operation = .openScope (.block opener)
  | .enter entity _ => operation.Enters entity ∧ now.store = start.store
  | .drop => ∃ count, operation = .popChain count
  | .close => (operation = .closeScope ∨ operation = .closeScopeChecked start.scopes.current) ∧
      now.scopes = start.scopes

end Operation

variable {resolver next : Resolver}

/-- Settling a judgement changes the log alone. -/
theorem settle_frame {α : Type} {judged : Except Failure (Judgement α)} {answer : Except Failure α}
    (settled : resolver.settle judged = (answer, next)) :
    next.store = resolver.store ∧ next.scopes = resolver.scopes ∧
      next.settings = resolver.settings := by
  rw [← (Prod.mk.inj settled).2]
  exact ⟨rfl, rfl, rfl⟩

/-- A judgement that is settled gives its answer. -/
theorem settle_eq_ok {α : Type} {judged : Except Failure (Judgement α)} {answer : α}
    (settled : resolver.settle judged = (.ok answer, next)) :
    ∃ judgement, judged = .ok judgement ∧ judgement.answer = answer := by
  have answered := congrArg Prod.fst settled
  simp only [settle, DiagnosticLog.settle] at answered
  split at answered
  · cases answered
  · cases answered
    exact ⟨_, rfl, rfl⟩
  · rename_i given problem
    split at answered
    · cases answered
      exact ⟨_, rfl, rfl⟩
    · cases answered

/-- What a draft is judged against is what is declared under its name, and its role in the table. -/
theorem priorAndRole_eq_ok {target : TableId} {draft : Draft} {prior : Hits} {role : Role}
    (looked : resolver.priorAndRole target draft = .ok (prior, role)) :
    resolver.store.priorDeclarations target draft = .ok prior ∧
      resolver.store.roleForDraft draft target = .ok role := by
  unfold priorAndRole at looked
  obtain ⟨prior', priorFound, looked⟩ := bind_eq_ok_iff.1 looked
  obtain ⟨role', roleFound, looked⟩ := bind_eq_ok_iff.1 looked
  cases looked
  exact ⟨priorFound, roleFound⟩

/-- A draft that is accepted is filed. -/
theorem fileJudged_accepted (target : TableId) (draft : Draft) :
    (resolver.fileJudged target draft .accepted).2 = (resolver.insertInto target draft).2 := by
  unfold fileJudged
  simp only [Verdict.declared?]
  split
  · rename_i inserted
    rw [inserted]
  · rename_i inserted
    rw [inserted]

/-- Closing a table that is gone fails, and leaves it closed. -/
theorem closeScope_stale {closed : TableId} {scopes : OpenScopes}
    (popped : resolver.scopes.pop = .ok (closed, scopes))
    (stale : resolver.store.tables.get? closed = none) :
    resolver.closeScope.2 = { resolver with scopes } := by
  unfold closeScope discard
  rw [popped]
  by_cases discards : resolver.settings.discardClosedScopes = true
  · have missing : resolver.store.table closed = .error (.staleHandle .table) := by
      unfold SymbolStore.table
      rw [stale]
    simp only [if_pos discards, missing]
    rfl
  · simp only [if_neg discards]

/-- Closing a table leaves it in the store, unless it belongs to a function and the settings say
that it is discarded. -/
theorem closeScope_keep {closed : TableId} {scopes : OpenScopes} {table : Table}
    (popped : resolver.scopes.pop = .ok (closed, scopes))
    (known : resolver.store.tables.get? closed = some table)
    (stays : resolver.settings.discardClosedScopes = true → table.kind.isLocal = false) :
    resolver.closeScope = (.ok closed, { resolver with scopes }) := by
  unfold closeScope discard
  rw [popped]
  by_cases discards : resolver.settings.discardClosedScopes = true
  · simp only [if_pos discards, SymbolStore.table_eq_ok_iff.2 known, ok_bind, stays discards]
    rfl
  · simp only [if_neg discards]

/-- Closing a table of a function releases it when the settings say that it is discarded. -/
theorem closeScope_release (sound : resolver.store.Sound) {closed : TableId} {scopes : OpenScopes}
    {table : Table} (popped : resolver.scopes.pop = .ok (closed, scopes))
    (discards : resolver.settings.discardClosedScopes = true)
    (known : resolver.store.tables.get? closed = some table) (isLocal : table.kind.isLocal = true) :
    ∃ store, resolver.closeScope = (.ok closed, { resolver with scopes, store }) ∧
      resolver.store.Released closed store ∧ store.WellFormed := by
  -- The global table belongs to no function, so this one can be released.
  have ne_global : closed ≠ resolver.store.global := by
    rintro rfl
    obtain ⟨root, rootKnown, isGlobal⟩ := sound.linked.global
    rw [known, Option.some.injEq] at rootKnown
    rw [rootKnown, isGlobal] at isLocal
    cases isLocal
  obtain ⟨count, store, removed⟩ := SymbolStore.removeTable_eq_ok ne_global known
  refine ⟨store, ?_, SymbolStore.removeTable_released sound.linked sound.wellFormed removed⟩
  unfold closeScope discard
  rw [popped]
  simp only [if_pos discards, SymbolStore.table_eq_ok_iff.2 known, ok_bind, if_pos isLocal, removed]
  rfl

/-- Closing a scope fails and changes nothing, closes the innermost table alone, or releases it
too. -/
theorem closeScope_cases (sound : resolver.store.Sound) :
    resolver.closeScope.2 = resolver ∨
      ∃ closed scopes, resolver.scopes.pop = .ok (closed, scopes) ∧
        (resolver.closeScope.2 = { resolver with scopes } ∧
            (resolver.settings.discardClosedScopes = true → ∀ table,
              resolver.store.tables.get? closed = some table → table.kind.isLocal = false) ∨
          ∃ table store, resolver.settings.discardClosedScopes = true ∧
            resolver.store.tables.get? closed = some table ∧
            table.kind.isLocal = true ∧ resolver.closeScope.2 = { resolver with scopes, store } ∧
            resolver.store.Released closed store ∧ store.WellFormed) := by
  cases popped : resolver.scopes.pop with
  | error failure =>
      unfold closeScope
      rw [popped]
      exact Or.inl rfl
  | ok found =>
      obtain ⟨closed, scopes⟩ := found
      refine Or.inr ⟨closed, scopes, rfl, ?_⟩
      cases known : resolver.store.tables.get? closed with
      | none =>
          -- This cannot happen when the open tables are there, which is not known here yet.
          exact Or.inl ⟨closeScope_stale popped known, fun _ table found => nomatch found⟩
      | some table =>
          by_cases stays : resolver.settings.discardClosedScopes = true → table.kind.isLocal = false
          · refine Or.inl ⟨congrArg Prod.snd (closeScope_keep popped known stays), ?_⟩
            rintro discards _ ⟨⟩
            exact stays discards
          · obtain ⟨discards, isLocal⟩ := Classical.not_imp.1 stays
            have isLocal : table.kind.isLocal = true := by simpa using isLocal
            obtain ⟨store, closes, released, wellFormed⟩ :=
              closeScope_release sound popped discards known isLocal
            exact Or.inr ⟨table, store, discards, rfl, isLocal, congrArg Prod.snd closes, released,
              wellFormed⟩

/-- An operation leads from a sound resolver to another one by moves that it may make. -/
structure Leads (operation : Operation) (before after : Resolver) : Prop where
  /-- The moves. -/
  moves : Moves (operation.Permits before) before after
  /-- The arenas stay well formed. -/
  wellFormed : after.store.WellFormed

namespace Leads

variable {operation : Operation} {before after : Resolver}

/-- An operation that changes the log at most. -/
theorem idle (sound : before.store.Sound) (store : after.store = before.store)
    (scopes : after.scopes = before.scopes) (settings : after.settings = before.settings) :
    Leads operation before after := by
  refine ⟨.single (.edit .rest) trivial (.edit ?_ scopes settings), ?_⟩
  · rw [store]
    exact .rest rfl rfl rfl
  · rw [store]
    exact sound.wellFormed

/-- An operation that fails and changes nothing, or succeeds as an operation should. -/
theorem of_ok {α : Type} {answer : Except Failure α} {state : α → Resolver}
    (sound : before.store.Sound)
    (success : ∀ result, answer = .ok result → Leads operation before (state result)) :
    Leads operation before (before.after answer state) := by
  cases answer with
  | error failure => exact .idle sound rfl rfl rfl
  | ok result => exact success result rfl

/-- An operation that edits the store. -/
theorem of_edits (edits : SymbolStore.Edits (operation.Makes before) before.store after.store ∧
      after.store.WellFormed)
    (scopes : after.scopes = before.scopes) (settings : after.settings = before.settings) :
    Leads operation before after :=
  ⟨.of_edits edits.1 scopes settings (fun _ => trivial) fun _ _ permitted => permitted, edits.2⟩

/-- An operation that files a draft, if it may. -/
theorem of_insertInto (sound : before.store.Sound) {target : TableId} {draft : Draft}
    (files : operation.Files before before.store target draft)
    (store : after.store = (before.store.addEntity target draft).2)
    (scopes : after.scopes = before.scopes) (settings : after.settings = before.settings) :
    Leads operation before after := by
  refine .of_edits ?_ scopes settings
  rw [store]
  exact SymbolStore.addEntity_edits _ sound.wellFormed target draft trivial (fun _ _ => files)
    fun _ _ _ entity fresh known opens => ⟨fresh, entity, known, opens⟩

/-- An operation that declares a draft in a table, if it may file it there once it is accepted. -/
theorem of_declareIn (sound : before.store.Sound) {target : TableId} {draft : Draft}
    (files : before.store.Accepted target draft →
      operation.Files before before.store target draft) :
    Leads operation before (before.declareIn target draft).2 := by
  unfold declareIn
  cases looked : before.priorAndRole target draft with
  | error failure => exact .idle sound rfl rfl rfl
  | ok found =>
      obtain ⟨prior, role⟩ := found
      simp only
      cases judged : before.judgeIn target draft prior role with
      | mk answer next =>
          obtain ⟨store, scopes, settings⟩ := settle_frame judged
          cases answer with
          | error failure => exact .idle sound store scopes settings
          | ok verdict =>
              obtain ⟨judgement, judgedOk, answered⟩ := settle_eq_ok judged
              cases verdict with
              | matched entity => exact .idle sound store scopes settings
              | conflict entity => exact .idle sound store scopes settings
              | accepted =>
                  -- The judgement may have been reported, but the store is still the same.
                  obtain ⟨priorFound, roleFound⟩ := priorAndRole_eq_ok looked
                  have accepted : before.store.Accepted target draft :=
                    ⟨prior, role, judgement, priorFound, roleFound, judgedOk, answered⟩
                  simp only
                  rw [fileJudged_accepted]
                  refine .of_insertInto sound (files accepted) ?_ scopes settings
                  rw [← store]
                  rfl

/-- Opening the body of a class or namespace makes it the innermost table. -/
theorem of_bodyOfKind (sound : before.store.Sound) {id : EntityId} {kind : TableKind}
    {region : TableId} (found : before.store.bodyOfKind id kind = .ok region)
    (enters : operation.Enters id) : Leads operation before (before.push region) :=
  ⟨.single (.enter id region) ⟨enters, rfl⟩
      (.enter (SymbolStore.bodyOfKind_eq_ok found).1 rfl rfl rfl), sound.wellFormed⟩

/-- Opening a scope opens one table. -/
theorem openScope (sound : before.store.Sound) (construct : Construct) :
    Leads (.openScope construct) before (before.step (.openScope construct)) := by
  refine of_ok sound fun result opened => ?_
  obtain ⟨table, next⟩ := result
  unfold Resolver.openScope at opened
  obtain ⟨entered, found, opened⟩ := bind_eq_ok_iff.1 opened
  obtain ⟨table', store⟩ := entered
  cases opened
  have region {id : EntityId} {kind : TableKind}
      (mapped : (before.store.bodyOfKind id kind).map (·, before.store) = .ok (table, store)) :
      before.store.bodyOfKind id kind = .ok table ∧ before.store = store := by
    cases found : before.store.bodyOfKind id kind with
    | error failure => rw [found] at mapped; cases mapped
    | ok body => rw [found] at mapped; cases mapped; exact ⟨rfl, rfl⟩
  cases construct with
  | namespaceBody id =>
      obtain ⟨body, rfl⟩ := region found
      exact of_bodyOfKind sound body rfl
  | classBody id =>
      obtain ⟨body, rfl⟩ := region found
      exact of_bodyOfKind sound body rfl
  | functionBody id =>
      obtain ⟨edit, wellFormed, entity, known, notRegion⟩ :=
        SymbolStore.openFunction_edit sound.wellFormed found
      exact ⟨.single (.openFunction id table) rfl (.openFunction edit known notRegion rfl rfl),
        wellFormed⟩
  | block opener =>
      obtain ⟨edit, wellFormed⟩ := SymbolStore.openBlock_edit sound.wellFormed found
      exact ⟨.single (.openBlock table) ⟨opener, rfl⟩ (.openBlock edit rfl rfl), wellFormed⟩

/-- Closing a scope closes the innermost table, and releases it when it belongs to a function and
the settings say so. -/
theorem closeScope (sound : before.store.Sound)
    (permitted : operation.Permits before before .close) :
    Leads operation before before.closeScope.2 := by
  rcases closeScope_cases sound with same | ⟨closed, scopes, popped, closes⟩
  · rw [same]
    exact .idle sound rfl rfl rfl
  · rcases closes with ⟨closes, stays⟩ |
      ⟨table, store, -, known, isLocal, closes, released, wellFormed⟩
    · rw [closes]
      exact ⟨.single .close permitted (.keep popped stays rfl rfl), sound.wellFormed⟩
    · rw [closes]
      exact ⟨.single .close permitted (.release popped known isLocal released rfl), wellFormed⟩

/-- Opening the bodies of qualifiers opens them one after the other. -/
theorem pushChain (sound : before.store.Sound) (qualifiers : List EntityId) :
    Leads (.pushChain qualifiers) before (before.step (.pushChain qualifiers)) := by
  refine of_ok sound fun result pushed => ?_
  unfold Resolver.pushChain at pushed
  obtain ⟨bodies, mapped, pushed⟩ := bind_eq_ok_iff.1 pushed
  cases pushed
  refine ⟨?_, sound.wellFormed⟩
  -- The bodies are all found before the first one is opened, in the one store there is.
  suffices reached : ∀ (rest : List EntityId) (bodies : List TableId) (scopes : OpenScopes),
      rest ⊆ qualifiers → rest.mapM (before.store.bodyOrDefect .notQualifier) = .ok bodies →
      Moves (Operation.Permits (.pushChain qualifiers) before) { before with scopes }
        { before with scopes := scopes.pushAll bodies } from
    reached qualifiers bodies before.scopes (fun _ => id) mapped
  intro rest
  induction rest with
  | nil =>
      intro bodies scopes _ mapped
      cases mapped
      exact Relation.ReflTransGen.refl
  | cons first rest ih =>
      intro bodies scopes among mapped
      rw [List.mapM_cons] at mapped
      obtain ⟨body, found, mapped⟩ := bind_eq_ok_iff.1 mapped
      obtain ⟨others, foundOthers, mapped⟩ := bind_eq_ok_iff.1 mapped
      cases mapped
      have entered : Move { before with scopes } (.enter first body)
          { before with scopes := scopes.push body } :=
        .enter (SymbolStore.bodyOrDefect_eq_ok found) rfl rfl rfl
      have later := ih others (scopes.push body)
        (fun _ listed => among (List.mem_cons_of_mem _ listed)) foundOthers
      exact Relation.ReflTransGen.head
        ⟨.enter first body, ⟨among List.mem_cons_self, rfl⟩, entered⟩ later

/-- Closing a number of scopes closes the innermost tables one after the other. -/
theorem popChain (sound : before.store.Sound) (count : Nat) :
    Leads (.popChain count) before (before.step (.popChain count)) := by
  refine ⟨?_, sound.wellFormed⟩
  -- The tables closed before the stack runs out stay closed.
  suffices reached : ∀ (left : Nat) (scopes : OpenScopes),
      Moves (Operation.Permits (.popChain count) before) { before with scopes }
        { before with scopes := (scopes.popMany left).2 } from reached count before.scopes
  intro left
  induction left with
  | zero => exact fun scopes => Relation.ReflTransGen.refl
  | succ left ih =>
      intro scopes
      rw [OpenScopes.popMany]
      cases popped : scopes.pop with
      | error failure => exact Relation.ReflTransGen.refl
      | ok found =>
          obtain ⟨closed, outer⟩ := found
          have dropped : Move { before with scopes } .drop { before with scopes := outer } :=
            .drop popped rfl rfl
          exact Relation.ReflTransGen.head ⟨.drop, ⟨count, rfl⟩, dropped⟩ (ih outer)

end Leads

/-- Every operation of a sound resolver, whether it fails or not, is a sequence of moves that it may
make. -/
theorem step_leads (sound : resolver.store.Sound) (operation : Operation) :
    Leads operation resolver (resolver.step operation) := by
  cases operation with
  | openScope construct => exact .openScope sound construct
  | closeScope => exact .closeScope sound ⟨Or.inl rfl, rfl⟩
  | closeScopeChecked expected =>
      show Leads _ _ (resolver.closeScopeChecked expected).2
      unfold closeScopeChecked
      by_cases innermost : resolver.scopes.current = expected
      · rw [if_pos innermost]
        exact .closeScope sound ⟨Or.inr (by rw [innermost]), rfl⟩
      · rw [if_neg innermost]
        exact .idle sound rfl rfl rfl
  | pushChain qualifiers => exact .pushChain sound qualifiers
  | popChain count => exact .popChain sound count
  | declare draft =>
      show Leads _ _ (resolver.declare draft).2
      unfold declare
      cases meant : resolver.targetFor draft with
      | error failure => exact .idle sound rfl rfl rfl
      | ok target => exact .of_declareIn sound fun accepted => ⟨rfl, meant, accepted⟩
  | declareIn target draft => exact .of_declareIn sound fun accepted => ⟨rfl, rfl, accepted⟩
  | insert draft =>
      show Leads _ _ (resolver.insert draft).2
      unfold insert
      cases meant : resolver.targetFor draft with
      | error failure => exact .idle sound rfl rfl rfl
      | ok target => exact .of_insertInto sound ⟨rfl, meant⟩ rfl rfl rfl
  | insertInto target draft => exact .of_insertInto sound ⟨rfl, rfl⟩ rfl rfl rfl
  | addUsing used =>
      show Leads _ _ (resolver.addUsing used).2
      unfold addUsing
      simp only
      split
      · exact .idle sound rfl rfl rfl
      · rename_i target peer sides
        obtain ⟨peer', -, sides⟩ := bind_eq_ok_iff.1 sides
        obtain ⟨target', meant, sides⟩ := bind_eq_ok_iff.1 sides
        cases sides
        exact .of_edits (SymbolStore.addPeer_edits _ sound.wellFormed target peer trivial meant)
          rfl rfl
  | addBase derived base =>
      refine .of_ok sound fun result added => ?_
      unfold addBase at added
      obtain ⟨role, -, added⟩ := bind_eq_ok_iff.1 added
      split at added
      · obtain ⟨body, found, added⟩ := bind_eq_ok_iff.1 added
        obtain ⟨store, grown, added⟩ := bind_eq_ok_iff.1 added
        cases added
        obtain ⟨edit, wellFormed⟩ := SymbolStore.addBase_edit sound.wellFormed grown
        exact .of_edits ⟨.single (.revise body) found edit, wellFormed⟩ rfl rfl
      · obtain ⟨name, -, thrown⟩ := bind_eq_ok_iff.1 added
        cases thrown
  | sealClass id =>
      refine .of_ok sound fun result completed => ?_
      unfold sealClass at completed
      obtain ⟨body, found, completed⟩ := bind_eq_ok_iff.1 completed
      obtain ⟨store, closed, completed⟩ := bind_eq_ok_iff.1 completed
      cases completed
      obtain ⟨edit, wellFormed⟩ := SymbolStore.complete_edit sound.wellFormed closed
      exact .of_edits ⟨.single (.revise body) found edit, wellFormed⟩ rfl rfl
  | intern text =>
      obtain ⟨edit, wellFormed⟩ := SymbolStore.intern_edit sound.wellFormed text
      exact .of_edits ⟨.single .rest trivial edit, wellFormed⟩ rfl rfl
  | checkRedeclaration draft prior role =>
      show Leads _ _ (resolver.checkRedeclaration draft prior role).2
      unfold checkRedeclaration
      cases resolver.targetFor draft with
      | error failure => exact .idle sound rfl rfl rfl
      | ok target => exact .idle sound rfl rfl rfl
  | resolve name start reach => exact .of_ok sound fun _ _ => .idle sound rfl rfl rfl
  | findLabel name => exact .of_ok sound fun _ _ => .idle sound rfl rfl rfl
  | effectiveAccess member through => exact .of_ok sound fun _ _ => .idle sound rfl rfl rfl
  | resolveQualified name start => exact .idle sound rfl rfl rfl
  | unique mention query hits => exact .idle sound rfl rfl rfl
  | typeName mention hits => exact .idle sound rfl rfl rfl
  | consult question => exact .idle sound rfl rfl rfl
  | reportUndefined mention => exact .idle sound rfl rfl rfl

/-- A resolver that has read nothing yet has a sound store. -/
theorem sound_new (names : NamePool) (settings : Settings) :
    (Resolver.new names settings).store.Sound := SymbolStore.sound_new names

/-- A move keeps what its edit or the release of a table keeps; only an edit that is the move itself
files a draft. -/
theorem Move.keeps {invariant : SymbolStore → Prop} {before after : Resolver} {action : Action}
    (move : Move before action after) (holds : invariant before.store)
    (edit : ∀ change, (∀ target draft id, change = .file target draft id → action = .edit change) →
      SymbolStore.Edit before.store change after.store → invariant after.store)
    (released : ∀ id table, before.store.tables.get? id = some table →
      table.kind.isLocal = true → SymbolStore.Released before.store id after.store →
        invariant after.store) : invariant after.store := by
  cases move with
  | edit edited => exact edit _ (fun _ _ _ _ => rfl) edited
  | openFunction edited => exact edit (.openBody _ _) (fun _ _ _ same => nomatch same) edited
  | openBlock edited => exact edit (.openBlock _ _) (fun _ _ _ same => nomatch same) edited
  | enter _ store => rwa [store]
  | drop _ store => rwa [store]
  | keep _ _ store => rwa [store]
  | release _ known isLocal release => exact released _ _ known isLocal release

/-- Every move keeps the links of the store sound. -/
theorem Move.linked {before after : Resolver} {action : Action} (move : Move before action after)
    (linked : before.store.Linked) : after.store.Linked :=
  move.keeps linked (fun _ _ edit => linked.edit edit) fun _ _ _ _ released =>
    linked.released released

/-- Every operation keeps the store sound, whether it fails or not. -/
theorem sound_step (sound : resolver.store.Sound) (operation : Operation) :
    (resolver.step operation).store.Sound := by
  have leads := step_leads sound operation
  exact ⟨leads.wellFormed, leads.moves.preserve (·.store.Linked) sound.linked
    fun _ _ _ linked _ move => move.linked linked⟩

/-- An operation keeps what is kept by the release of a table and by all edits that file nothing but
what the operation may file. -/
theorem step_keeps (invariant : SymbolStore → Prop) (sound : resolver.store.Sound)
    (holds : invariant resolver.store) (operation : Operation)
    (edit : ∀ before change after, before.Linked → invariant before →
      (∀ target draft id, change = .file target draft id →
        operation.Files resolver before target draft) →
      SymbolStore.Edit before change after → invariant after)
    (released : ∀ before id table after, before.Linked → invariant before →
      before.tables.get? id = some table → table.kind.isLocal = true →
      SymbolStore.Released before id after → invariant after) :
    invariant (resolver.step operation).store := by
  refine ((step_leads sound operation).moves.preserve
    (fun now => now.store.Linked ∧ invariant now.store) ⟨sound.linked, holds⟩
    fun before action after both permitted move => ⟨move.linked both.1, move.keeps both.2
      (fun change own => edit _ change _ both.1 both.2 ?_)
      fun id table known isLocal => released _ id table _ both.1 both.2 known isLocal⟩).2
  rintro target draft id rfl
  -- The edit is what the operation was permitted to make.
  rw [own target draft id rfl] at permitted
  exact permitted

/-- Every run keeps the store sound, and it keeps what its operations keep of sound stores. -/
theorem run_keeps (invariant : SymbolStore → Prop) (sound : resolver.store.Sound)
    (holds : invariant resolver.store) (operations : List Operation)
    (step : ∀ resolver : Resolver, resolver.store.Sound → invariant resolver.store →
      ∀ operation ∈ operations, invariant (resolver.step operation).store) :
    (resolver.run operations).store.Sound ∧ invariant (resolver.run operations).store := by
  refine List.foldlRecOn operations Resolver.step
    (motive := fun now => now.store.Sound ∧ invariant now.store) ⟨sound, holds⟩ ?_
  rintro now ⟨sound, holds⟩ operation listed
  exact ⟨sound_step sound operation, step now sound holds operation listed⟩

/-! ## What an operation makes of the store -/

/-- The changes of the store in which the operation files no draft but those that it may. -/
def Operation.FilesOnly (operation : Operation) (start : Resolver) (now : SymbolStore)
    (change : SymbolStore.Change) : Prop :=
  ∀ target draft id, change = .file target draft id → operation.Files start now target draft

/-- Closing a scope leaves the store alone, or releases a table. -/
theorem store_of_closeScope (sound : resolver.store.Sound) :
    resolver.closeScope.2.store = resolver.store ∨
      resolver.settings.discardClosedScopes = true ∧
        ∃ closed, resolver.store.Released closed resolver.closeScope.2.store := by
  rcases closeScope_cases sound with same | ⟨closed, scopes, -, closes⟩
  · exact Or.inl (by rw [same])
  · rcases closes with ⟨closes, -⟩ | ⟨table, store, discards, -, -, closes, released, -⟩
    · exact Or.inl (by rw [closes])
    · exact Or.inr ⟨discards, closed, by rw [closes]; exact released⟩

/-- Every operation edits the store, or releases one table if closed scopes are discarded. -/
theorem store_of_step (sound : resolver.store.Sound) (operation : Operation) :
    SymbolStore.Edits (operation.FilesOnly resolver) resolver.store
        (resolver.step operation).store ∨
      resolver.settings.discardClosedScopes = true ∧
        ∃ closed, resolver.store.Released closed (resolver.step operation).store := by
  have unchanged {store : SymbolStore} (same : store = resolver.store) :
      SymbolStore.Edits (operation.FilesOnly resolver) resolver.store store := by
    rw [same]
    exact Relation.ReflTransGen.refl
  by_cases closes : operation = .closeScope ∨ ∃ expected, operation = .closeScopeChecked expected
  · rcases closes with rfl | ⟨expected, rfl⟩
    · exact (store_of_closeScope sound).imp_left unchanged
    · show SymbolStore.Edits _ _ (resolver.closeScopeChecked expected).2.store ∨
        resolver.settings.discardClosedScopes = true ∧
          ∃ closed, resolver.store.Released closed (resolver.closeScopeChecked expected).2.store
      unfold closeScopeChecked
      by_cases innermost : resolver.scopes.current = expected
      · simp only [if_pos innermost]
        exact (store_of_closeScope sound).imp_left unchanged
      · simp only [if_neg innermost]
        exact Or.inl (unchanged rfl)
  · -- No other operation closes a table, so each of its moves edits the store or leaves it alone.
    refine Or.inl ((step_leads sound operation).moves.preserve
      (fun now => SymbolStore.Edits (operation.FilesOnly resolver) resolver.store now.store)
      (unchanged rfl) fun before action after edits permitted move => ?_)
    have tail {change : SymbolStore.Change} (edit : before.store.Edit change after.store)
        (files : operation.FilesOnly resolver before.store change) :
        SymbolStore.Edits (operation.FilesOnly resolver) resolver.store after.store :=
      Relation.ReflTransGen.tail edits ⟨change, files, edit⟩
    cases move with
    | @edit _ change edit =>
        refine tail edit ?_
        rintro target draft id rfl
        exact permitted
    | openFunction edit => exact tail edit fun _ _ _ same => nomatch same
    | openBlock edit => exact tail edit fun _ _ _ same => nomatch same
    | enter _ store => rwa [store]
    | drop _ store => rwa [store]
    | keep _ _ store => rwa [store]
    | release =>
        rcases permitted.1 with same | same
        · exact absurd (Or.inl same) closes
        · exact absurd (Or.inr ⟨_, same⟩) closes

end Resolver

end ScopeResolution

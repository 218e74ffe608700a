import ScopeResolution.Proofs.Lookup.DeepSearch
import ScopeResolution.Proofs.Resolver.Handles
import ScopeResolution.Proofs.Resolver.OpenFunctions
import ScopeResolution.Proofs.Resolver.Recording

/-! # References that last

Peers, bases and what aliases stand for may lie anywhere, and releasing a table does not look for
who refers to what goes with it. So a closed scope can leave a broken reference behind, which a
later lookup meets (`lookup_meets_staleHandle`). It cannot when every reference, at the time it is
recorded, lasts as long as the table that it is recorded in (`Lasts`): what is referred to lies in
no function, or in a function or block that was opened no later than the one around that table.
What lasts goes on to last, whatever is opened or closed (`Lasts.passage`), and so no lookup meets a
stale handle (`lookup_meets_no_staleHandle`). -/

namespace ScopeResolution

/-- What has the home `outer` lasts as long as what has the home `inner`: it is outside of all
functions, or its home was opened no later than the other one. -/
def OpenScopes.Shelters (scopes : OpenScopes) : Option TableId → Option TableId → Prop
  | none, _ => True
  | some _, none => False
  | some outer, some inner => ∃ below, inner :: below <:+ scopes.inner ∧ outer ∈ inner :: below

namespace SymbolStore

/-- Where what is referred to lies: a table lies in itself, an entity in the table that it belongs
to. -/
def LiesIn (store : SymbolStore) : Reference → TableId → Prop
  | .table id, place => place = id
  | .entity id, place => store.BelongsTo id place

namespace LiesIn

variable {before after : SymbolStore} {reference : Reference} {place : TableId}

/-- What is referred to stays where it lies when the store is edited. -/
theorem edit (liesIn : before.LiesIn reference place) {change : Change}
    (edit : before.Edit change after) : after.LiesIn reference place := by
  cases reference with
  | table => exact liesIn
  | entity =>
      obtain ⟨entity, known, owner⟩ := liesIn
      obtain ⟨later, found, altered⟩ := edit.entity_later known
      exact ⟨later, found, by rw [altered.owner_eq, owner]⟩

/-- What is referred to stays where it lies when a table elsewhere is released. -/
theorem released (liesIn : before.LiesIn reference place) (linked : before.Linked)
    {closed : TableId} (released : before.Released closed after)
    (outside : ¬ before.Within closed place) : after.LiesIn reference place := by
  cases reference with
  | table => exact liesIn
  | entity member =>
      obtain ⟨entity, known, owner⟩ := liesIn
      have notOwned : ¬ before.OwnedWithin closed member := by
        rintro ⟨listing, table, within, listingKnown, owned⟩
        have same := linked.owner_eq listingKnown (table.owned_subset_listed owned) known
        exact outside (owner ▸ same ▸ within)
      refine ⟨entity.forget closed, ?_, by rw [Entity.forget_owner, owner]⟩
      rw [released.entity_kept member notOwned, known]
      rfl

end LiesIn

end SymbolStore

namespace Resolver

/-- What is referred to lasts as long as a table. -/
def Lasts (resolver : Resolver) (reference : Reference) (id : TableId) : Prop :=
  ∃ place outer inner, resolver.store.LiesIn reference place ∧ resolver.store.Home place outer ∧
    resolver.store.Home id inner ∧ resolver.scopes.Shelters outer inner

/-- Everything that is referred to lasts as long as the table that refers to it. -/
def RefersLasting (resolver : Resolver) : Prop :=
  ∀ id reference, resolver.store.Refers id reference → resolver.Lasts reference id

/-- The operation drops no open function, and what it records a reference to lasts as long as the
table that it records it in. -/
structure Operation.Prudent (resolver : Resolver) (operation : Operation) : Prop where
  /-- Only bodies of classes and namespaces are closed without being discarded. -/
  dropsRegions : operation.DropsRegions resolver
  /-- What is recorded lasts. -/
  recordsLasting : ∀ id reference, operation.Records resolver id reference →
    resolver.Lasts reference id

variable {resolver before after : Resolver} {id : TableId} {reference : Reference}

/-- Shelter stays when further tables are opened. -/
theorem shelters_of_suffix {scopes further : OpenScopes} {outer inner : Option TableId}
    (shelters : scopes.Shelters outer inner) (suffix : scopes.inner <:+ further.inner) :
    further.Shelters outer inner := by
  cases outer with
  | none => trivial
  | some outer =>
      cases inner with
      | none => exact shelters
      | some inner =>
          obtain ⟨below, isSuffix, among⟩ := shelters
          exact ⟨below, isSuffix.trans suffix, among⟩

/-- Shelter stays when tables are closed, if the home of what is sheltered is not among them. -/
theorem shelters_of_append {scopes fewer : OpenScopes} {outer inner : Option TableId}
    (shelters : scopes.Shelters outer inner) {above : List TableId}
    (split : scopes.inner = above ++ fewer.inner) (stays : ∀ home ∈ above, inner ≠ some home) :
    fewer.Shelters outer inner := by
  cases outer with
  | none => trivial
  | some outer =>
      cases inner with
      | none => exact shelters
      | some inner =>
          obtain ⟨below, isSuffix, among⟩ := shelters
          refine ⟨below, ?_, among⟩
          rw [split] at isSuffix
          rcases List.suffix_or_suffix_of_suffix isSuffix (List.suffix_append above fewer.inner)
            with shorter | ⟨between, longer⟩
          · exact shorter
          -- Otherwise the home would begin what was closed, unless nothing more was.
          · cases between with
            | nil => exact ⟨[], longer.symm⟩
            | cons first rest =>
                obtain ⟨before, whole⟩ := isSuffix
                rw [← longer, ← List.append_assoc, List.append_cancel_right_eq] at whole
                rw [List.cons_append, List.cons.injEq] at longer
                refine absurd rfl (stays inner ?_)
                rw [← whole, ← longer.1]
                exact List.mem_append_right _ List.mem_cons_self

namespace Lasts

/-- What lasts is there. -/
theorem has (lasts : resolver.Lasts reference id) : resolver.store.Has reference := by
  obtain ⟨place, outer, inner, liesIn, placeHome, -⟩ := lasts
  obtain ⟨table, known⟩ := placeHome.known
  cases reference with
  | table => exact ⟨table, by rw [← known, liesIn]⟩
  | entity =>
      obtain ⟨entity, found, owner⟩ := liesIn
      exact ⟨entity, table, found, by rw [owner, known]⟩

/-- What lasts goes on to last when the store is edited and further tables are opened. -/
theorem edit (lasts : before.Lasts reference id) {change : SymbolStore.Change}
    (edit : before.store.Edit change after.store)
    (scopes : before.scopes.inner <:+ after.scopes.inner) : after.Lasts reference id := by
  obtain ⟨place, outer, inner, liesIn, placeHome, home, shelters⟩ := lasts
  exact ⟨place, outer, inner, liesIn.edit edit, placeHome.edit edit, home.edit edit,
    shelters_of_suffix shelters scopes⟩

/-- A move that closes nothing lets everything last. -/
theorem move (lasts : before.Lasts reference id) {action : Action} (opens : action.Opens before)
    (move : Move before action after) : after.Lasts reference id := by
  have pushed {table : TableId} (scopes : after.scopes = before.scopes.push table) :
      before.scopes.inner <:+ after.scopes.inner := by
    rw [scopes]
    exact List.suffix_cons _ _
  cases move with
  | edit edit scopes => exact lasts.edit edit (by simp only [scopes, List.suffix_rfl])
  | openFunction edit _ _ scopes => exact lasts.edit edit (pushed scopes)
  | openBlock edit scopes => exact lasts.edit edit (pushed scopes)
  | enter _ store scopes =>
      have same : before.store.Edit .rest after.store := by
        rw [store]
        exact .rest rfl rfl rfl
      exact lasts.edit same (pushed scopes)
  | drop => exact opens.elim
  | keep => exact opens.elim
  | release => exact opens.elim

/-- What lasts as long as a table that is not released is not released either: it has another home
than what is. -/
theorem discards (lasts : before.Lasts reference id) (orderly : before.Orderly) {closed : TableId}
    {table : Table} (popped : before.scopes.pop = .ok (closed, after.scopes))
    (known : before.store.tables.get? closed = some table) (isLocal : table.kind.isLocal = true)
    (released : before.store.Released closed after.store) {later : Table}
    (alive : after.store.tables.get? id = some later) : after.Lasts reference id := by
  obtain ⟨place, outer, inner, liesIn, placeHome, home, shelters⟩ := lasts
  have linked := orderly.sound.store.linked
  have pushed := OpenScopes.of_pop_eq_ok popped
  have homeLater := home.released linked orderly.catalogued released alive
  have ne_closed : inner ≠ some closed := by
    rintro rfl
    obtain ⟨gone, found, -⟩ := homeLater.isLocal
    rw [released.table_gone closed Relation.ReflTransGen.refl] at found
    cases found
  have split : before.scopes.inner = [closed] ++ after.scopes.inner := by rw [pushed]; rfl
  have sheltersLater : after.scopes.Shelters outer inner := by
    refine shelters_of_append shelters split fun other among => ?_
    rw [List.mem_singleton.1 among]
    exact ne_closed
  have outside : ¬ before.store.Within closed place := by
    intro within
    have isHome := orderly.housed.home_of_within orderly.sound.nested linked orderly.catalogued
      popped known isLocal within
    rw [placeHome.unique isHome] at sheltersLater
    cases inner with
    | none => exact sheltersLater
    | some inner =>
        -- The closed table is open once only.
        obtain ⟨below, isSuffix, among⟩ := sheltersLater
        have apart := orderly.sound.nested.apart
        rw [pushed] at apart
        exact List.rel_of_pairwise_cons apart (isSuffix.subset among) table known isLocal
          Relation.ReflTransGen.refl
  obtain ⟨around, placeKnown⟩ := placeHome.known
  have placeAlive : after.store.tables.get? place = some around := by
    rw [released.table_kept place outside, placeKnown]
  exact ⟨place, outer, inner, liesIn.released linked released outside,
    placeHome.released linked orderly.catalogued released placeAlive, homeLater, sheltersLater⟩

/-- What lasts as long as a table that survives an operation goes on to do so. -/
theorem passage (lasts : before.Lasts reference id) (orderly : before.Orderly)
    (passage : Passage before after) {later : Table}
    (alive : after.store.tables.get? id = some later) : after.Lasts reference id := by
  cases passage with
  | opens moves =>
      exact moves.preserve (·.Lasts reference id) lasts fun _ _ _ lasts opens move =>
        lasts.move opens move
  | leaves inner regions store =>
      obtain ⟨place, outer, home, liesIn, placeHome, isHome, shelters⟩ := lasts
      rw [← store] at liesIn placeHome isHome
      refine ⟨place, outer, home, liesIn, placeHome, isHome, shelters_of_append shelters inner ?_⟩
      rintro other isAbove rfl
      obtain ⟨table, known, isLocal⟩ := isHome.isLocal
      rw [store] at known
      rw [regions other isAbove table known] at isLocal
      cases isLocal
  | discards popped known isLocal released =>
      exact lasts.discards orderly popped known isLocal released alive

end Lasts

/-- A table that refers to something is there. -/
theorem known_of_refers (orderly : resolver.Orderly) (refers : resolver.store.Refers id reference) :
    ∃ table, resolver.store.tables.get? id = some table := by
  cases refers with
  | onward known listed => exact ⟨_, known⟩
  | @standIn member target entity known stands =>
      have isMember : entity.kind.slot = .member := by
        cases kind : entity.kind <;> rw [kind] at stands <;> first | rfl | cases stands
      obtain ⟨table, owner, -⟩ := orderly.catalogued.listed member entity known isMember
      exact ⟨table, owner⟩

/-- When what an operation records lasts, everything that is referred to lasts after it. -/
theorem RefersLasting.step (lasting : resolver.RefersLasting) (orderly : resolver.Orderly)
    {operation : Operation} (prudent : operation.Prudent resolver) :
    (resolver.step operation).RefersLasting := by
  intro id reference refers
  obtain ⟨table, alive⟩ := known_of_refers (orderly.step prudent.dropsRegions) refers
  have lasts : resolver.Lasts reference id := by
    rcases refers_of_step orderly.sound.store refers with older | recorded
    · exact lasting id reference older
    · exact prudent.recordsLasting id reference recorded
  exact lasts.passage orderly (orderly.passage prudent.dropsRegions) alive

/-- A resolver that has read nothing yet refers to nothing. -/
theorem refersLasting_new (names : NamePool) (settings : Settings) :
    (Resolver.new names settings).RefersLasting := by
  intro id reference refers
  cases refers with
  | onward known listed =>
      rw [(SymbolStore.only_global known).2] at listed
      cases listed
  | standIn known => cases (Arena.get?_empty _).symm.trans known

/-- A prudent run leads to a resolver in good order, in which everything that is referred to
lasts. -/
theorem orderly_run (orderly : resolver.Orderly) (lasting : resolver.RefersLasting)
    {operations : List Operation} (prudent : Throughout Operation.Prudent resolver operations) :
    (resolver.run operations).Orderly ∧ (resolver.run operations).RefersLasting := by
  refine prudent.keeps (fun now => now.Orderly ∧ now.RefersLasting) ?_
    ⟨orderly, lasting⟩
  rintro now operation prudent ⟨orderly, lasting⟩
  exact ⟨orderly.step prudent.dropsRegions, lasting.step orderly prudent⟩

/-- In a resolver in good order, in which everything that is referred to lasts, a lookup in the open
tables is answered unless it is nested too deep. -/
theorem resolve_answers_of_orderly (orderly : resolver.Orderly) (lasting : resolver.RefersLasting)
    (name : Name) (reach : Reach) :
    Answers (fun found => resolver.store.AllKnown found.hits)
      (resolver.resolve name none reach) := by
  have searchable : resolver.store.Searchable :=
    ⟨orderly.sound.store.linked, fun id reference refers => (lasting id reference refers).has⟩
  exact searchable.resolve_answers orderly.sound.nested.live resolver.nesting reach
    (fun _ same => by cases same) name

/-- Closed scopes break no reference that lasted when it was recorded. When closed scopes are
discarded, only bodies of classes and namespaces are dropped from the stack, and each peer, base and
alias target lies, when it is recorded, in no function, or in a function or block opened no later
than the one around the table that refers to it, then no lookup in the open tables ever meets a
stale handle, and everything that a table refers to is there. -/
theorem lookup_meets_no_staleHandle (names : NamePool) (settings : Settings)
    (operations : List Operation) (resolver : Resolver) (name : Name)
    (reached : resolver = (Resolver.new names settings).run operations)
    (discards : settings.discardClosedScopes = true)
    (prudent : Throughout Operation.Prudent (Resolver.new names settings) operations) :
    (∀ what, resolver.resolve name none .symbol ≠ .error (.staleHandle what)) ∧
      ∀ id reference, resolver.store.Refers id reference → resolver.store.Has reference := by
  obtain ⟨orderly, lasting⟩ := orderly_run (orderly_new names discards)
    (refersLasting_new names settings) prudent
  rw [← reached] at orderly lasting
  exact ⟨(resolve_answers_of_orderly orderly lasting name .symbol).ne_staleHandle,
    fun id reference refers => (lasting id reference refers).has⟩

/-- A function has a class, and in a block a class derived from it. A using directive in the block
makes a namespace visible in the function, and the namespace has another name, too. -/
def deriveInBlock : List Operation :=
  [.intern "f", .intern "N", .intern "M", .intern "C", .intern "D",
    .declare { name := ⟨1⟩, kind := .namespaceDecl },
    .declare { name := ⟨2⟩, kind := .namespaceAlias ⟨0, 0⟩ }, .declare (functionDraft ⟨0⟩ []),
    .openScope (.functionBody ⟨2, 0⟩),
    .declare { name := ⟨3⟩, kind := .classDecl .structKey false }, .openScope (.block .block),
    .declare { name := ⟨4⟩, kind := .classDecl .structKey false },
    .addBase ⟨4, 0⟩ { entity := ⟨3, 0⟩ }, .addUsing ⟨0, 0⟩, .closeScope]

/-- Once the block is closed, no lookup in the function meets a stale handle. -/
theorem deriveInBlock_meets_no_staleHandle :
    let resolver := (Resolver.new {} {}).run deriveInBlock
    (∀ what, resolver.resolve ⟨4⟩ none .symbol ≠ .error (.staleHandle what)) ∧
      ∀ id reference, resolver.store.Refers id reference → resolver.store.Has reference := by
  intro resolver
  refine lookup_meets_no_staleHandle {} {} deriveInBlock resolver ⟨4⟩ rfl rfl ?_
  have quiet {resolver : Resolver} {operation : Operation}
      (dropsNothing : ∀ count, operation ≠ .popChain count)
      (recordsNothing : ∀ id reference, ¬ operation.Records resolver id reference) :
      operation.Prudent resolver :=
    ⟨fun count same => absurd same (dropsNothing count), fun id reference recorded =>
      absurd recorded (recordsNothing id reference)⟩
  have plain {resolver : Resolver} {draft : Draft} (noAlias : draft.kind.aliasedEntity? = none) :
      (Operation.declare draft).Prudent resolver := by
    refine quiet nofun fun id reference recorded => ?_
    cases recorded with
    | declare _ _ stands =>
        rw [noAlias] at stands
        cases stands
  refine ⟨quiet nofun nofun, quiet nofun nofun, quiet nofun nofun, quiet nofun nofun,
    quiet nofun nofun, plain rfl, ⟨nofun, ?_⟩, plain rfl, quiet nofun nofun, plain rfl,
    quiet nofun nofun, plain rfl, ⟨nofun, ?_⟩, ⟨nofun, ?_⟩, quiet nofun nofun, trivial⟩
  · -- The namespace and its other name both belong to the global table.
    intro id reference recorded
    cases recorded with
    | declare _ meant stands =>
        cases stands
        cases meant
        exact ⟨⟨0, 0⟩, none, none, ⟨_, rfl, rfl⟩, .outermost rfl rfl rfl, .outermost rfl rfl rfl,
          trivial⟩
  · -- The base belongs to the function, and the class derived from it to the block inside.
    intro id reference recorded
    have body : ((Resolver.new {} {}).run (deriveInBlock.take 12)).store.bodyOfKind ⟨4, 0⟩
        .classTable = .ok ⟨5, 0⟩ := rfl
    cases recorded with
    | addBase _ meant =>
        cases body.symm.trans meant
        exact ⟨⟨2, 0⟩, some ⟨2, 0⟩, some ⟨4, 0⟩, ⟨_, rfl, rfl⟩, .here rfl rfl,
          .outward rfl rfl rfl (.here rfl rfl), [⟨2, 0⟩], ⟨[], rfl⟩, by decide⟩
  · -- The directive belongs to the function, and the namespace is outside of all functions.
    intro id reference recorded
    let before := (Resolver.new {} {}).run (deriveInBlock.take 13)
    have body : before.store.bodyOrDefect .notUsable ⟨0, 0⟩ = .ok ⟨1, 0⟩ := rfl
    have target : before.usingTarget = .ok ⟨2, 0⟩ := rfl
    cases recorded with
    | addUsing _ found meant =>
        cases body.symm.trans found
        cases target.symm.trans meant
        exact ⟨⟨1, 0⟩, none, some ⟨2, 0⟩, rfl, .outward rfl rfl rfl (.outermost rfl rfl rfl),
          .here rfl rfl, trivial⟩

/-! ## References that do not last -/

/-- A using directive in a block names the members of a class in the block. It belongs to the
function, and the block is closed. -/
def useBlockClass : List Operation :=
  [.intern "f", .intern "C", .intern "x", .declare (functionDraft ⟨0⟩ []),
    .openScope (.functionBody ⟨0, 0⟩), .openScope (.block .block),
    .declare { name := ⟨1⟩, kind := .classDecl .structKey false }, .addUsing ⟨1, 0⟩, .closeScope]

/-- A class outside of all functions is derived from a class in a function. The function is closed,
and the body of the first class is opened. -/
def deriveFromLocalClass : List Operation :=
  [.intern "f", .intern "G", .intern "C", .declare (functionDraft ⟨0⟩ []),
    .declare { name := ⟨1⟩, kind := .classDecl .structKey false },
    .openScope (.functionBody ⟨0, 0⟩),
    .declare { name := ⟨2⟩, kind := .classDecl .structKey false },
    .addBase ⟨1, 0⟩ { entity := ⟨2, 0⟩ }, .closeScope, .openScope (.classBody ⟨1, 0⟩)]

/-- A class in a function gets a second name outside of all functions, and the function is
closed. -/
def renameLocalClass : List Operation :=
  [.intern "f", .intern "C", .intern "x", .declare (functionDraft ⟨0⟩ []),
    .openScope (.functionBody ⟨0, 0⟩),
    .declare { name := ⟨1⟩, kind := .classDecl .structKey false },
    .declareIn ⟨0, 0⟩ { name := ⟨2⟩, kind := .alias (.entity ⟨1, 0⟩) }, .closeScope]

/-- A class in a block is derived from a class of the function around it. The block is only dropped
from the stack, the function is closed, and the body of the first class is opened. -/
def dropBlock : List Operation :=
  [.intern "f", .intern "C", .intern "D", .declare (functionDraft ⟨0⟩ []),
    .openScope (.functionBody ⟨0, 0⟩),
    .declare { name := ⟨1⟩, kind := .classDecl .structKey false }, .openScope (.block .block),
    .declare { name := ⟨2⟩, kind := .classDecl .structKey false },
    .addBase ⟨2, 0⟩ { entity := ⟨1, 0⟩ }, .popChain 1, .closeScope,
    .openScope (.classBody ⟨2, 0⟩)]

/-- A lookup can meet a stale handle although no operation was given one: when a scope is closed,
nothing looks for the peers, bases and alias targets in it that tables outside of it name. -/
theorem lookup_meets_staleHandle :
    ({} : Settings).discardClosedScopes = true ∧
      ∀ run ∈ [(useBlockClass, Referent.table), (deriveFromLocalClass, .entity),
          (renameLocalClass, .entity), (dropBlock, .entity)],
        Throughout Operation.IsLive (Resolver.new {} {}) run.1 ∧
          ((Resolver.new {} {}).run run.1).resolve ⟨2⟩ none .symbol =
            .error (.staleHandle run.2) := by
  refine ⟨rfl, ?_⟩
  simp only [List.forall_mem_cons, List.not_mem_nil, false_implies, implies_true, and_true]
  exact ⟨⟨by decide +kernel, rfl⟩, ⟨by decide +kernel, rfl⟩, ⟨by decide +kernel, rfl⟩,
    ⟨by decide +kernel, rfl⟩⟩

end Resolver

end ScopeResolution

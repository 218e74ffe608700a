import Mathlib.Data.List.Chain
import ScopeResolution.Proofs.Resolver.Operation

/-! # The scope stack

Which tables are open, and how they lie in the store. Closing a function releases a whole tree of
tables, and bodies of classes and namespaces can be opened any number of times. What keeps the open
tables from being released is that the table of a function or block is opened once, when nothing is
within it yet, so none of the tables below it on the stack ever gets within it (`Nested`). Every
move preserves that (`Move.nested`), and the main statement `open_tables_of_run` follows. -/

namespace ScopeResolution

/-- The innermost open table is the first one. -/
theorem OpenScopes.toList_eq_cons (scopes : OpenScopes) :
    scopes.toList = scopes.current :: scopes.toList.tail := by
  obtain ⟨global, inner⟩ := scopes
  cases inner with
  | nil => rfl
  | cons first rest => rfl

/-- Opening a table puts it in front of the others. -/
theorem OpenScopes.toList_push (scopes : OpenScopes) (table : TableId) :
    (scopes.push table).toList = table :: scopes.toList := rfl

/-- Closing a table takes it from the front. -/
theorem OpenScopes.of_pop_eq_ok {scopes outer : OpenScopes} {closed : TableId}
    (popped : scopes.pop = .ok (closed, outer)) :
    scopes = outer.push closed := by
  obtain ⟨global, inner⟩ := scopes
  unfold OpenScopes.pop at popped
  cases inner with
  | nil => cases popped
  | cons first rest => cases popped; rfl

namespace SymbolStore

/-- If the upper table is a block, it is nested in the lower one, which belongs to a function. -/
def RestsOn (store : SymbolStore) (upper lower : TableId) : Prop :=
  ∀ table, store.tables.get? upper = some table → table.kind = .blockTable →
    table.parent? = some lower ∧
      ∃ outer, store.tables.get? lower = some outer ∧ outer.kind.isLocal = true

/-- If the upper table belongs to a function, the lower one is not within it. -/
def Apart (store : SymbolStore) (upper lower : TableId) : Prop :=
  ∀ table, store.tables.get? upper = some table → table.kind.isLocal = true →
    ¬ store.Within upper lower

/-- The first function table on the way from a table outwards, along the tables that each one is
nested in. -/
inductive FirstFunction (store : SymbolStore) : TableId → TableId → Prop where
  /-- The table is that of a function. -/
  | here {id : TableId} {table : Table} (known : store.tables.get? id = some table)
      (isFunction : table.kind = .functionTable) : FirstFunction store id id
  /-- The table is not that of a function, and the way goes on from the table around it. -/
  | outward {id outer found : TableId} {table : Table}
      (known : store.tables.get? id = some table) (notFunction : table.kind ≠ .functionTable)
      (parent : table.parent? = some outer) (further : FirstFunction store outer found) :
      FirstFunction store id found

end SymbolStore

namespace Resolver

/-- How the open tables lie in the store. -/
structure Nested (resolver : Resolver) : Prop where
  /-- The outermost open table is the global one. -/
  global_eq : resolver.scopes.global = resolver.store.global
  /-- The open tables are there. -/
  live : ∀ id ∈ resolver.scopes.toList, ∃ table, resolver.store.tables.get? id = some table
  /-- Each open block rests on the table around it. -/
  rests : resolver.scopes.toList.IsChain resolver.store.RestsOn
  /-- No open table gets released with a table of a function above it. -/
  apart : resolver.scopes.inner.Pairwise resolver.store.Apart

/-- In a resolver that has read nothing yet, the global table alone is open. -/
theorem nested_new (names : NamePool) (settings : Settings) :
    (Resolver.new names settings).Nested where
  global_eq := rfl
  live := by
    intro id isOpen
    obtain ⟨root, known, -⟩ := (sound_new names settings).linked.global
    rw [List.mem_singleton.1 isOpen]
    exact ⟨root, known⟩
  rests := List.isChain_singleton _
  apart := List.Pairwise.nil

namespace Nested

variable {before after : Resolver}

/-- The tables that stay open lie as they did, when each of them stays in its place and none of
them gets within another table. -/
theorem transfer (nested : Nested before) (above : List TableId)
    (scopes : before.scopes.toList = above ++ after.scopes.toList)
    (inner : before.scopes.inner = above ++ after.scopes.inner)
    (scopes_global : after.scopes.global = before.scopes.global)
    (store_global : after.store.global = before.store.global)
    (kept : ∀ id ∈ after.scopes.toList, ∀ table, before.store.tables.get? id = some table →
      ∃ later, after.store.tables.get? id = some later ∧ table.SamePlace later)
    (within : ∀ upper lower table, before.store.tables.get? lower = some table →
      after.store.Within upper lower → before.store.Within upper lower) : Nested after := by
  have was_open {id : TableId} (isOpen : id ∈ after.scopes.toList) :
      id ∈ before.scopes.toList := by
    rw [scopes]
    exact List.mem_append_right _ isOpen
  have found {id : TableId} (isOpen : id ∈ after.scopes.toList) :
      ∃ old later, before.store.tables.get? id = some old ∧
        after.store.tables.get? id = some later ∧ old.SamePlace later := by
    obtain ⟨old, known⟩ := nested.live id (was_open isOpen)
    obtain ⟨later, knownLater, place⟩ := kept id isOpen old known
    exact ⟨old, later, known, knownLater, place⟩
  refine ⟨by rw [scopes_global, store_global, nested.global_eq], ?_, ?_, ?_⟩
  · intro id isOpen
    obtain ⟨old, later, -, known, -⟩ := found isOpen
    exact ⟨later, known⟩
  · -- Blocks rest on what they rested on, as tables change neither kind nor place.
    have rests : after.scopes.toList.IsChain before.store.RestsOn := by
      have whole := nested.rests
      rw [scopes] at whole
      exact whole.right_of_append
    refine rests.imp_of_mem_imp fun upper lower upperOpen lowerOpen restsOn => ?_
    intro table known isBlock
    obtain ⟨old, later, oldKnown, laterKnown, place⟩ := found upperOpen
    rw [known, Option.some.injEq] at laterKnown
    subst laterKnown
    rw [place.kind_eq] at isBlock
    obtain ⟨parent, outer, outerKnown, isLocal⟩ := restsOn old oldKnown isBlock
    obtain ⟨outer', knownOuter, outerPlace⟩ := kept lower lowerOpen outer outerKnown
    exact ⟨by rw [place.parent?_eq, parent], outer', knownOuter, by
      rw [outerPlace.kind_eq, isLocal]⟩
  · -- What lies within a table after the change was there before, and lay within it then.
    have apart : after.scopes.inner.Pairwise before.store.Apart := by
      have whole := nested.apart
      rw [inner] at whole
      exact (List.pairwise_append.1 whole).2.1
    have inner_open {id : TableId} (isInner : id ∈ after.scopes.inner) :
        id ∈ after.scopes.toList := List.mem_append_left _ isInner
    refine apart.imp_of_mem fun {upper lower} upperOpen lowerOpen isApart => ?_
    intro table known isLocal isWithin
    obtain ⟨old, later, oldKnown, laterKnown, place⟩ := found (inner_open upperOpen)
    obtain ⟨lowerTable, -, lowerKnown, -⟩ := found (inner_open lowerOpen)
    rw [known, Option.some.injEq] at laterKnown
    subst laterKnown
    rw [place.kind_eq] at isLocal
    exact isApart old oldKnown isLocal (within upper lower lowerTable lowerKnown isWithin)

/-- An edit of the store leaves the open tables as they lie. -/
theorem edit (nested : Nested before) {change : SymbolStore.Change}
    (edit : before.store.Edit change after.store) (scopes : after.scopes = before.scopes) :
    Nested after := by
  refine nested.transfer [] (by rw [scopes]; rfl) (by rw [scopes]; rfl)
    (by rw [scopes]) edit.global_eq ?_ ?_
  · exact fun id _ table known => edit.table_kept known
  · exact fun upper lower table known isWithin => edit.within known isWithin

/-- Closing a table without releasing it leaves the others as they lie. -/
theorem pop (nested : Nested before) {closed : TableId}
    (popped : before.scopes.pop = .ok (closed, after.scopes)) (store : after.store = before.store) :
    Nested after := by
  have pushed := OpenScopes.of_pop_eq_ok popped
  refine nested.transfer [closed] (by rw [pushed]; rfl) (by rw [pushed]; rfl)
    (by rw [pushed]; rfl) (by rw [store]) ?_ ?_
  · intro id _ table known
    exact ⟨table, by rw [store, known], .of_form_eq rfl⟩
  · intro upper lower table _ isWithin
    rwa [← store]

/-- Closing a table of a function and releasing it leaves the others as they lie: none of them is
within it. -/
theorem release (nested : Nested before) (linked : before.store.Linked) {closed : TableId}
    {table : Table} (popped : before.scopes.pop = .ok (closed, after.scopes))
    (known : before.store.tables.get? closed = some table) (isLocal : table.kind.isLocal = true)
    (released : before.store.Released closed after.store) : Nested after := by
  have pushed := OpenScopes.of_pop_eq_ok popped
  have outside (id : TableId) (isOpen : id ∈ after.scopes.toList) :
      ¬ before.store.Within closed id := by
    intro isWithin
    rcases List.mem_append.1 isOpen with isInner | isGlobal
    · have apart := nested.apart
      rw [pushed] at apart
      exact List.rel_of_pairwise_cons apart isInner table known isLocal isWithin
    · -- The global table is still there, so it was not within the released one.
      obtain ⟨root, rootKnown, -⟩ := (linked.released released).global
      have same : id = after.store.global := by
        rw [List.mem_singleton.1 isGlobal, released.global_eq, ← nested.global_eq, pushed]
        rfl
      exact (released.table_left rootKnown).2 (same ▸ isWithin)
  refine nested.transfer [closed] (by rw [pushed]; rfl) (by rw [pushed]; rfl)
    (by rw [pushed]; rfl) released.global_eq ?_ ?_
  · intro id isOpen old oldKnown
    exact ⟨old, by rw [released.table_kept id (outside id isOpen), oldKnown], .of_form_eq rfl⟩
  · exact fun upper lower _ _ isWithin => released.within isWithin

/-- Opening one more table, which lies apart from the open ones and rests on the innermost of them
if it is a block. -/
theorem push (nested : Nested before) {opened : TableId} {table : Table}
    (store : after.store = before.store) (scopes : after.scopes = before.scopes.push opened)
    (known : before.store.tables.get? opened = some table)
    (rests : before.store.RestsOn opened before.scopes.current)
    (apart : ∀ lower ∈ before.scopes.inner, before.store.Apart opened lower) : Nested after := by
  refine ⟨?_, ?_, ?_, ?_⟩
  · rw [scopes, store]
    exact nested.global_eq
  · rw [scopes, store]
    intro id isOpen
    rcases List.mem_cons.1 isOpen with rfl | older
    · exact ⟨table, known⟩
    · exact nested.live id older
  · rw [scopes, store, OpenScopes.toList_push, before.scopes.toList_eq_cons]
    have chain := nested.rests
    rw [before.scopes.toList_eq_cons] at chain
    exact chain.cons_cons rests
  · rw [scopes, store]
    exact List.Pairwise.cons apart nested.apart

end Nested

/-- Every move keeps the open tables as they should lie. -/
theorem Move.nested {before after : Resolver} {action : Action} (move : Move before action after)
    (linked : before.store.Linked) (nested : Nested before) : Nested after := by
  cases move with
  | edit edit scopes => exact nested.edit edit scopes
  | openFunction edit known notRegion scopes =>
      have edited : Nested { before with store := after.store } := nested.edit edit rfl
      obtain ⟨fresh, owner, body, -, bodyKnown, opened⟩ := edit.opened
      -- The body is no block, and nothing that was there before lies within a fresh table.
      refine edited.push rfl scopes bodyKnown ?_ fun lower isOpen => ?_
      · intro table found isBlock
        rw [bodyKnown, Option.some.injEq] at found
        exact absurd (found ▸ isBlock) opened.not_block
      · intro table _ _
        obtain ⟨old, oldKnown⟩ := nested.live lower (List.mem_append_left _ isOpen)
        exact edit.not_within_of_fresh oldKnown fresh
  | openBlock edit scopes =>
      have edited : Nested { before with store := after.store } := nested.edit edit rfl
      obtain ⟨fresh, ⟨outer, outerKnown, isLocal⟩, opener, blockKnown⟩ := edit.openedBlock
      refine edited.push rfl scopes blockKnown ?_ fun lower isOpen => ?_
      · intro table found _
        rw [blockKnown, Option.some.injEq] at found
        obtain ⟨later, laterKnown, place⟩ := edit.table_kept outerKnown
        exact ⟨by rw [← found]; rfl, later, laterKnown, by rw [place.kind_eq, isLocal]⟩
      · intro table _ _
        obtain ⟨old, oldKnown⟩ := nested.live lower (List.mem_append_left _ isOpen)
        exact edit.not_within_of_fresh oldKnown fresh
  | @enter _ entity region found store scopes =>
      obtain ⟨owner, record, known, opens, body, -⟩ := SymbolStore.region_of_regionOf found
      obtain ⟨table, regionKnown, -, isLocal⟩ := linked.body owner record region known body
      rw [opens] at isLocal
      -- The body of a class or namespace belongs to no function, so both conditions are void.
      refine nested.push store scopes regionKnown ?_ fun lower _ => ?_
      · intro other otherKnown isBlock
        rw [regionKnown, Option.some.injEq] at otherKnown
        rw [otherKnown, isBlock] at isLocal
        cases isLocal
      · intro other otherKnown otherLocal
        rw [regionKnown, Option.some.injEq] at otherKnown
        rw [otherKnown, otherLocal] at isLocal
        cases isLocal
  | drop popped store => exact nested.pop popped store
  | keep popped _ store => exact nested.pop popped store
  | release popped known isLocal released =>
      exact nested.release linked popped known isLocal released

/-- A resolver is sound when its store is and its open tables lie as they should. -/
structure Sound (resolver : Resolver) : Prop where
  /-- The store is sound. -/
  store : resolver.store.Sound
  /-- The open tables lie as they should. -/
  nested : resolver.Nested

variable {resolver : Resolver}

/-- Every operation keeps a resolver sound, whether it fails or not. -/
theorem Sound.step (sound : resolver.Sound) (operation : Operation) :
    (resolver.step operation).Sound := by
  refine ⟨sound_step sound.store operation, ?_⟩
  have moves := (step_leads sound.store operation).moves
  have both := moves.preserve (fun now => now.store.Linked ∧ now.Nested)
    ⟨sound.store.linked, sound.nested⟩ fun _ _ _ holds _ move =>
      ⟨move.linked holds.1, move.nested holds.1 holds.2⟩
  exact both.2

/-- Every run from a sound resolver leads to a sound one. -/
theorem Sound.run (sound : resolver.Sound) (operations : List Operation) :
    (resolver.run operations).Sound :=
  List.foldlRecOn operations Resolver.step sound fun _ sound operation _ => sound.step operation

/-- Every run leads to a sound resolver. -/
theorem sound_run (names : NamePool) (settings : Settings) (operations : List Operation) :
    ((Resolver.new names settings).run operations).Sound := by
  have start : (Resolver.new names settings).Sound :=
    ⟨sound_new names settings, nested_new names settings⟩
  exact start.run operations

/-! ## What the stack guarantees -/

namespace Sound

/-- Closing a scope fails only when no other table than the global one is open. -/
theorem closeScope_error (sound : resolver.Sound) {failure : Failure}
    (failed : resolver.closeScope.1 = .error failure) :
    failure = .globalClosed ∧ resolver.scopes.inner = [] := by
  cases popped : resolver.scopes.pop with
  | error reason =>
      unfold closeScope at failed
      rw [popped] at failed
      cases failed
      unfold OpenScopes.pop at popped
      split at popped
      · rename_i none_open
        cases popped
        exact ⟨rfl, none_open⟩
      · cases popped
  | ok found =>
      obtain ⟨closed, scopes⟩ := found
      have isOpen : closed ∈ resolver.scopes.toList := by
        rw [OpenScopes.of_pop_eq_ok popped, OpenScopes.toList_push]
        exact List.mem_cons_self
      obtain ⟨table, known⟩ := sound.nested.live closed isOpen
      -- The closed table is there, so it can be kept as well as released.
      by_cases stays : resolver.settings.discardClosedScopes = true → table.kind.isLocal = false
      · rw [closeScope_keep popped known stays] at failed
        cases failed
      · obtain ⟨discards, isLocal⟩ := Classical.not_imp.1 stays
        obtain ⟨store, closes, -⟩ :=
          closeScope_release sound.store popped discards known (by simpa using isLocal)
        rw [closes] at failed
        cases failed

/-- An open block lies directly above the table that it is nested in. -/
theorem block_above_parent (sound : resolver.Sound) {above below : List TableId} {id : TableId}
    {table : Table} (split : resolver.scopes.toList = above ++ id :: below)
    (known : resolver.store.tables.get? id = some table) (isBlock : table.kind = .blockTable) :
    ∃ outer rest, below = outer :: rest ∧ table.parent? = some outer := by
  cases below with
  | nil =>
      -- The outermost table is the global one, which is no block.
      obtain ⟨root, rootKnown, isGlobal⟩ := sound.store.linked.global
      have last := congrArg List.getLast? split
      rw [OpenScopes.toList, List.getLast?_append_cons, List.getLast?_append_cons] at last
      cases last
      rw [← sound.nested.global_eq] at rootKnown
      rw [known, Option.some.injEq] at rootKnown
      rw [rootKnown, isGlobal] at isBlock
      cases isBlock
  | cons outer rest =>
      have chain := sound.nested.rests
      rw [split, List.isChain_append_cons_cons] at chain
      exact ⟨outer, rest, rfl, (chain.2.1 table known isBlock).1⟩

end Sound

/-! ## The function around a point -/

/-- A search among open tables that finds a function finds the first one on the way outwards. -/
theorem firstFunction_of_functionAmong {store : SymbolStore} {tables : List TableId}
    {first found : TableId} {outer : List TableId} (split : tables = first :: outer)
    (chain : tables.IsChain store.RestsOn)
    (answer : OpenScopes.functionAmong store tables = .ok found) :
    store.FirstFunction first found := by
  induction tables generalizing first outer with
  | nil => cases split
  | cons id rest ih =>
      cases split
      rw [OpenScopes.functionAmong] at answer
      obtain ⟨table, known, answer⟩ := bind_eq_ok_iff.1 answer
      rw [SymbolStore.table_eq_ok_iff] at known
      split at answer
      · -- The next open table is the one around this block, so both searches go on there.
        rename_i isBlock
        cases rest with
        | nil => cases answer
        | cons next further =>
            rw [List.isChain_cons_cons] at chain
            refine .outward known (by rw [isBlock]; decide) (chain.1 table known isBlock).1 ?_
            exact ih rfl chain.2 answer
      · rename_i isFunction
        cases answer
        exact .here known isFunction
      · cases answer

/-- A search among open tables finds a function when the innermost one belongs to a function. -/
theorem functionAmong_eq_ok {store : SymbolStore} {global : TableId} {root : Table}
    (rootKnown : store.tables.get? global = some root) (notLocal : root.kind.isLocal = false)
    {inner : List TableId} {first : TableId} {outer : List TableId}
    (split : inner ++ [global] = first :: outer) {table : Table}
    (known : store.tables.get? first = some table) (isLocal : table.kind.isLocal = true)
    (chain : (inner ++ [global]).IsChain store.RestsOn) :
    ∃ found, OpenScopes.functionAmong store (inner ++ [global]) = .ok found := by
  induction inner generalizing first outer table with
  | nil =>
      cases split
      rw [rootKnown, Option.some.injEq] at known
      rw [known, isLocal] at notLocal
      cases notLocal
  | cons id rest ih =>
      cases split
      rw [List.cons_append, OpenScopes.functionAmong, SymbolStore.table_eq_ok_iff.2 known, ok_bind]
      cases kind : table.kind with
      | functionTable => exact ⟨id, rfl⟩
      | blockTable =>
          cases next : rest ++ [global] with
          | nil => simp at next
          | cons around further =>
              rw [List.cons_append, next, List.isChain_cons_cons] at chain
              -- A block rests on a table of a function, so the search never leaves the function.
              obtain ⟨-, outside, aroundKnown, aroundLocal⟩ := chain.1 table known kind
              rw [← next] at chain ⊢
              exact ih next aroundKnown aroundLocal chain.2
      | globalTable => rw [kind] at isLocal; cases isLocal
      | namespaceTable => rw [kind] at isLocal; cases isLocal
      | classTable => rw [kind] at isLocal; cases isLocal

namespace Sound

/-- The function around a point is found exactly when the innermost table belongs to a function. -/
theorem nearestFunction_eq_ok_iff (sound : resolver.Sound) :
    (∃ found, resolver.scopes.nearestFunction resolver.store = .ok found) ↔
      ∃ table, resolver.store.tables.get? resolver.scopes.current = some table ∧
        table.kind.isLocal = true := by
  have split := resolver.scopes.toList_eq_cons
  constructor
  · rintro ⟨found, answer⟩
    unfold OpenScopes.nearestFunction at answer
    rw [split, OpenScopes.functionAmong] at answer
    obtain ⟨table, known, answer⟩ := bind_eq_ok_iff.1 answer
    refine ⟨table, SymbolStore.table_eq_ok_iff.1 known, ?_⟩
    cases kind : table.kind with
    | functionTable => rfl
    | blockTable => rfl
    | _ => rw [kind] at answer; cases answer
  · rintro ⟨table, known, isLocal⟩
    obtain ⟨root, rootKnown, isGlobal⟩ := sound.store.linked.global
    rw [← sound.nested.global_eq] at rootKnown
    exact functionAmong_eq_ok rootKnown (by rw [isGlobal]; rfl) split known isLocal
      sound.nested.rests

/-- The function around a point is the first one on the way outwards from the innermost table. -/
theorem firstFunction_of_nearestFunction (sound : resolver.Sound) {found : TableId}
    (answer : resolver.scopes.nearestFunction resolver.store = .ok found) :
    resolver.store.FirstFunction resolver.scopes.current found :=
  firstFunction_of_functionAmong resolver.scopes.toList_eq_cons sound.nested.rests answer

end Sound

/-- After every run, the open tables are there, so that a scope fails to close only when the global
table alone is open; an open block lies directly above the table that it is nested in; and the
function around this point is found exactly when the innermost table is that of a function or a
block, as the first function on the way outwards. -/
theorem open_tables_of_run (names : NamePool) (settings : Settings)
    (operations : List Operation) :
    let resolver := (Resolver.new names settings).run operations
    (∀ id ∈ resolver.scopes.toList, ∃ table, resolver.store.tables.get? id = some table) ∧
    (∀ failure, resolver.closeScope.1 = .error failure →
      failure = .globalClosed ∧ resolver.scopes.inner = []) ∧
    (∀ above id below table, resolver.scopes.toList = above ++ id :: below →
      resolver.store.tables.get? id = some table → table.kind = .blockTable →
        ∃ outer rest, below = outer :: rest ∧ table.parent? = some outer) ∧
    ((∃ found, resolver.scopes.nearestFunction resolver.store = .ok found) ↔
      ∃ table, resolver.store.tables.get? resolver.scopes.current = some table ∧
        (table.kind = .functionTable ∨ table.kind = .blockTable)) ∧
    ∀ found, resolver.scopes.nearestFunction resolver.store = .ok found →
      resolver.store.FirstFunction resolver.scopes.current found := by
  intro resolver
  have sound : resolver.Sound := sound_run names settings operations
  refine ⟨sound.nested.live, fun failure => sound.closeScope_error,
    fun above id below table => sound.block_above_parent, ?_,
    fun found => sound.firstFunction_of_nearestFunction⟩
  rw [sound.nearestFunction_eq_ok_iff]
  have isLocal_iff (kind : TableKind) :
      kind.isLocal = true ↔ kind = .functionTable ∨ kind = .blockTable := by
    cases kind <;> decide
  constructor
  · rintro ⟨table, known, isLocal⟩
    exact ⟨table, known, (isLocal_iff table.kind).1 isLocal⟩
  · rintro ⟨table, known, isLocal⟩
    exact ⟨table, known, (isLocal_iff table.kind).2 isLocal⟩

end Resolver

end ScopeResolution

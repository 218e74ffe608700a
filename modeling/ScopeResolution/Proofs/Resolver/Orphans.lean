import Mathlib.Data.List.Duplicate
import ScopeResolution.Proofs.Resolver.Lifetimes
import ScopeResolution.Proofs.SymbolStore.Ancestry

/-! # Tables that are neither leaked nor orphaned

When closed scopes are discarded, and only bodies of classes and namespaces are dropped from the
stack, every table of a function or block that is there is open, and it is open once
(`Orderly.count_eq_one`). What is around a table is there, too: the owner of a class or namespace is
listed in the table around its body, and an open block rests on the table around it. The body of a
function is all that remembers its owner, once the function was given another body; but it was
opened above the tables that its owner lies in, so that the owner lasts as long as the body
(`BodiesSupported`). No release leaves an orphan behind (`Upheld`), and hence whatever a table lists
has a qualified name (`tables_of_run`). When closed scopes are kept, nothing is released at all, and
there are qualified names, too (`named_of_run`). -/

namespace ScopeResolution

/-- A table that belongs to a function is a block, which has no owner, or the body of an entity. -/
theorem Table.cases_of_isLocal (table : Table) (isLocal : table.kind.isLocal = true) :
    (table.kind = .blockTable ∧ table.owner? = none) ∨ table.kind = .functionTable ∧
      ∃ owner outer, table.owner? = some owner ∧ table.parent? = some outer := by
  obtain ⟨form, members, peers⟩ := table
  cases form with
  | functionBody owner parent body => exact Or.inr ⟨rfl, owner, parent, rfl, rfl⟩
  | block opener parent => exact Or.inl ⟨rfl, rfl⟩
  | _ => cases isLocal

namespace Resolver

variable {resolver before after : Resolver} {id : TableId}

/-! ## The open tables -/

/-- The table of a function or block is open exactly once. -/
theorem Orderly.count_eq_one (orderly : resolver.Orderly) {table : Table}
    (known : resolver.store.tables.get? id = some table) (isLocal : table.kind.isLocal = true) :
    resolver.scopes.toList.count id = 1 := by
  have notGlobal : id ≠ resolver.scopes.global := by
    rintro rfl
    obtain ⟨root, rootKnown, isGlobal⟩ := orderly.sound.store.linked.global
    rw [← orderly.sound.nested.global_eq, known, Option.some.injEq] at rootKnown
    rw [rootKnown, isGlobal] at isLocal
    cases isLocal
  -- A table that is open twice would not lie apart from itself.
  have notTwice : ¬ 2 ≤ resolver.scopes.inner.count id := by
    intro twice
    rw [← List.duplicate_iff_two_le_count, List.duplicate_iff_sublist] at twice
    have apart := orderly.sound.nested.apart.sublist twice
    exact List.rel_of_pairwise_cons apart List.mem_cons_self table known isLocal .refl
  have once := List.count_pos_iff.2 (orderly.housed.isOpen id table known isLocal)
  rw [OpenScopes.toList, List.count_append, List.count_singleton, beq_false_of_ne notGlobal.symm]
  simp only [Bool.false_eq_true, if_false]
  omega

/-! ## What supports a body -/

/-- The owner of each body of a function, and the table that the body is nested in, last as long as
the body. -/
def BodiesSupported (resolver : Resolver) : Prop :=
  ∀ id table, resolver.store.tables.get? id = some table → table.kind = .functionTable →
    (∀ owner, table.owner? = some owner → resolver.Lasts (.entity owner) id) ∧
      ∀ outer, table.parent? = some outer → resolver.Lasts (.table outer) id

/-- A resolver that has read nothing yet has no bodies of functions. -/
theorem bodiesSupported_new (names : NamePool) (settings : Settings) :
    (Resolver.new names settings).BodiesSupported := by
  intro id table known isFunction
  rw [(SymbolStore.only_global known).2] at isFunction
  cases isFunction

/-- What lies in some table lasts as long as a body that is opened on top of all open tables. -/
theorem lasts_of_opened (housed : before.Housed) {change : SymbolStore.Change}
    (edit : before.store.Edit change after.store) {body place : TableId}
    (scopes : after.scopes = before.scopes.push body) {table around : Table}
    (found : after.store.tables.get? body = some table) (isLocal : table.kind.isLocal = true)
    (known : before.store.tables.get? place = some around) {reference : Reference}
    (liesIn : before.store.LiesIn reference place) : after.Lasts reference body := by
  obtain ⟨home, isHome⟩ := housed.settled place around known
  refine ⟨place, home, some body, liesIn.edit edit, isHome.edit edit, .here found isLocal, ?_⟩
  cases home with
  | none => trivial
  | some home =>
      obtain ⟨table, homeKnown, homeLocal⟩ := isHome.isLocal
      refine ⟨before.scopes.inner, by rw [scopes]; exact List.suffix_rfl, ?_⟩
      exact List.mem_cons_of_mem _ (housed.isOpen home table homeKnown homeLocal)

/-- A move that closes nothing leaves every table in its place. -/
theorem Move.table_kept {action : Action} (move : Move before action after)
    (opens : action.Opens before) {table : Table}
    (known : before.store.tables.get? id = some table) :
    ∃ later, after.store.tables.get? id = some later ∧ table.SamePlace later := by
  cases move with
  | edit edit => exact edit.table_kept known
  | openFunction edit => exact edit.table_kept known
  | openBlock edit => exact edit.table_kept known
  | enter _ store => exact ⟨table, by rw [store, known], .of_form_eq rfl⟩
  | drop => exact opens.elim
  | keep => exact opens.elim
  | release => exact opens.elim

/-- A body of a function that a move makes is opened on top of all open tables. -/
theorem Move.function_opened {action : Action} (move : Move before action after)
    (opens : action.Opens before) {table : Table} (stale : before.store.tables.get? id = none)
    (found : after.store.tables.get? id = some table) (isFunction : table.kind = .functionTable) :
    ∃ holder entity, before.store.Edit (.openBody holder id) after.store ∧
      before.store.entities.get? holder = some entity ∧ table.OpenedFor holder entity ∧
      after.scopes = before.scopes.push id := by
  cases move with
  | edit edit =>
      rcases edit.table_origin stale found with
        ⟨holder, entity, rfl, known, opened, -⟩ | ⟨parent, opener, rfl, -⟩
      · obtain ⟨entity', known', region⟩ := opens
        have belongs := opened.isLocal_eq
        rw [known, Option.some.injEq] at known'
        rw [isFunction, known', region] at belongs
        cases belongs
      · exact opens.elim
  | openFunction edit known notRegion scopes =>
      rcases edit.table_origin stale found with
        ⟨holder, entity, same, known, opened, -⟩ | ⟨_, _, same, -⟩
      · cases same
        exact ⟨_, entity, edit, known, opened, scopes⟩
      · cases same
  | openBlock edit =>
      rcases edit.table_origin stale found with ⟨_, _, same, -⟩ | ⟨_, _, -, rfl⟩
      · cases same
      · cases isFunction
  | enter _ store => rw [store, stale] at found; cases found
  | drop => exact opens.elim
  | keep => exact opens.elim
  | release => exact opens.elim

namespace BodiesSupported

/-- A move that closes nothing keeps bodies supported. -/
theorem move (supported : before.BodiesSupported) (housed : before.Housed)
    (catalogued : before.store.Catalogued (· ≠ .label)) {action : Action}
    (opens : action.Opens before) (move : Move before action after) : after.BodiesSupported := by
  intro id table found isFunction
  cases known : before.store.tables.get? id with
  | some old =>
      obtain ⟨later, laterFound, place⟩ := move.table_kept opens known
      rw [found, Option.some.injEq] at laterFound
      subst laterFound
      rw [place.kind_eq] at isFunction
      rw [place.owner?_eq, place.parent?_eq]
      obtain ⟨ofOwner, ofParent⟩ := supported id old known isFunction
      exact ⟨fun owner owned => (ofOwner owner owned).move opens move,
        fun outer parent => (ofParent outer parent).move opens move⟩
  | none =>
      obtain ⟨holder, entity, edit, holderKnown, opened, scopes⟩ :=
        move.function_opened opens known found isFunction
      obtain ⟨around, aroundKnown, -⟩ :=
        catalogued.listed holder entity holderKnown (edit.slot_ne_label holderKnown)
      have isLocal : table.kind.isLocal = true := by rw [isFunction]; rfl
      rw [opened.owner?_eq, opened.parent?_eq]
      refine ⟨?_, ?_⟩
      · rintro _ ⟨⟩
        exact lasts_of_opened housed edit scopes found isLocal aroundKnown
          ⟨entity, holderKnown, rfl⟩
      · rintro _ ⟨⟩
        exact lasts_of_opened housed edit scopes found isLocal aroundKnown rfl

/-- Every operation keeps bodies supported, in one of the three ways. -/
theorem passage (supported : before.BodiesSupported) (orderly : before.Orderly)
    (catalogued : before.store.Catalogued (· ≠ .label)) (passage : Passage before after) :
    after.BodiesSupported := by
  -- A body that was there before keeps what supports it, unless it is released itself.
  have kept (same : ∀ id table, after.store.tables.get? id = some table →
      before.store.tables.get? id = some table) : after.BodiesSupported := by
    intro id table found isFunction
    obtain ⟨ofOwner, ofParent⟩ := supported id table (same id table found) isFunction
    exact ⟨fun owner owned => (ofOwner owner owned).passage orderly passage found,
      fun outer parent => (ofParent outer parent).passage orderly passage found⟩
  cases passage with
  | opens moves =>
      have all := moves.preserve (fun now => now.store.Linked ∧
        now.store.Catalogued (· ≠ .label) ∧ now.Housed ∧ now.BodiesSupported)
        ⟨orderly.sound.store.linked, catalogued, orderly.housed, supported⟩ ?_
      · exact all.2.2.2
      rintro now action next ⟨linked, catalogued, housed, supported⟩ opens move
      have members : now.store.Catalogued (· = .member) :=
        catalogued.mono fun slot isMember => by rw [isMember]; decide
      exact ⟨move.linked linked, move.catalogued opens linked catalogued (absurd rfl),
        housed.move members opens move, supported.move housed catalogued opens move⟩
  | leaves inner regions store => exact kept fun id table found => by rwa [← store]
  | discards popped known isLocal released =>
      exact kept fun id table found => (released.table_left found).1

end BodiesSupported

/-! ## What is around a table -/

/-- A resolver in good order whose tables have all that they need around them. -/
structure Upheld (resolver : Resolver) : Prop where
  /-- The resolver is in good order. -/
  orderly : resolver.Orderly
  /-- Entities other than labels are listed where they belong. -/
  catalogued : resolver.store.Catalogued (· ≠ .label)
  /-- The bodies of functions are supported. -/
  supported : resolver.BodiesSupported

namespace Upheld

/-- A resolver that has read nothing yet has all that it needs. -/
theorem new (names : NamePool) {settings : Settings}
    (discards : settings.discardClosedScopes = true) : (Resolver.new names settings).Upheld where
  orderly := orderly_new names discards
  catalogued := SymbolStore.catalogued_new names _
  supported := bodiesSupported_new names settings

/-- Every operation keeps it so. -/
theorem step (upheld : resolver.Upheld) {operation : Operation}
    (regions : operation.DropsRegions resolver) : (resolver.step operation).Upheld where
  orderly := upheld.orderly.step regions
  catalogued := catalogued_step upheld.orderly.sound.store upheld.catalogued (absurd rfl)
  supported := upheld.supported.passage upheld.orderly upheld.catalogued
    (upheld.orderly.passage regions)

/-- The body of a class or namespace is nested where its owner is listed. -/
theorem region_known (upheld : resolver.Upheld) {table : Table}
    (known : resolver.store.tables.get? id = some table) (notLocal : table.kind.isLocal = false)
    (notGlobal : id ≠ resolver.store.global) :
    ∃ owner entity outer, table.owner? = some owner ∧
      resolver.store.entities.get? owner = some entity ∧ table.parent? = some entity.owner ∧
      resolver.store.tables.get? entity.owner = some outer := by
  obtain ⟨owner, entity, owned, found, body, opens⟩ :=
    upheld.orderly.sound.store.linked.region_opens known notLocal notGlobal
  have notLabel : entity.kind.slot ≠ .label := by
    rw [EntityKind.slot_of_opensRegion opens]
    decide
  obtain ⟨outer, outerKnown, -⟩ := upheld.catalogued.listed owner entity found notLabel
  exact ⟨owner, entity, outer, owned, found,
    upheld.catalogued.nested owner entity id table found body known, outerKnown⟩

/-- An open block rests on a table that is there. -/
theorem block_known (upheld : resolver.Upheld) {table : Table}
    (known : resolver.store.tables.get? id = some table) (isBlock : table.kind = .blockTable) :
    ∃ outer around, table.parent? = some outer ∧
      resolver.store.tables.get? outer = some around := by
  have isOpen : id ∈ resolver.scopes.toList :=
    List.mem_append_left _ (upheld.orderly.housed.isOpen id table known (by rw [isBlock]; rfl))
  obtain ⟨above, below, split⟩ := List.append_of_mem isOpen
  obtain ⟨outer, rest, rfl, parent⟩ :=
    upheld.orderly.sound.block_above_parent split known isBlock
  obtain ⟨around, aroundKnown⟩ :=
    upheld.orderly.sound.nested.live outer (by rw [split]; simp)
  exact ⟨outer, around, parent, aroundKnown⟩

/-- A table that is not the global one is nested in a table that is there. -/
theorem parent_known (upheld : resolver.Upheld) {table : Table}
    (known : resolver.store.tables.get? id = some table) (notGlobal : id ≠ resolver.store.global) :
    ∃ outer around, table.parent? = some outer ∧
      resolver.store.tables.get? outer = some around := by
  cases isLocal : table.kind.isLocal with
  | false =>
      obtain ⟨-, entity, outer, -, -, parent, outerKnown⟩ :=
        upheld.region_known known isLocal notGlobal
      exact ⟨entity.owner, outer, parent, outerKnown⟩
  | true =>
      rcases table.cases_of_isLocal isLocal with ⟨isBlock, -⟩ | ⟨isFunction, _, outer, -, parent⟩
      · exact upheld.block_known known isBlock
      · have lasts := (upheld.supported id table known isFunction).2 outer parent
        obtain ⟨around, aroundKnown⟩ := lasts.has
        exact ⟨outer, around, parent, aroundKnown⟩

/-- When tables have all that they need around them, none is nested in one that is gone. -/
theorem parentsKnown (upheld : resolver.Upheld) : resolver.store.ParentsKnown := by
  intro id table outer known parent
  have notGlobal : id ≠ resolver.store.global := by
    rintro rfl
    obtain ⟨root, rootKnown, isGlobal⟩ := upheld.orderly.sound.store.linked.global
    rw [known, Option.some.injEq] at rootKnown
    rw [rootKnown, SymbolStore.parent?_of_global isGlobal] at parent
    cases parent
  obtain ⟨outer', around, parent', aroundKnown⟩ := upheld.parent_known known notGlobal
  rw [parent, Option.some.injEq] at parent'
  exact ⟨around, parent' ▸ aroundKnown⟩

/-- When tables have all that they need around them, the owner of every live body is live. -/
theorem ownersKnown (upheld : resolver.Upheld) : resolver.store.OwnersKnown := by
  intro id table owner known owned
  cases isLocal : table.kind.isLocal with
  | false =>
      have notGlobal : id ≠ resolver.store.global := by
        rintro rfl
        obtain ⟨root, rootKnown, isGlobal⟩ := upheld.orderly.sound.store.linked.global
        rw [known, Option.some.injEq] at rootKnown
        rw [rootKnown, SymbolStore.owner?_of_global isGlobal] at owned
        cases owned
      obtain ⟨owner', entity, -, owned', found, -⟩ := upheld.region_known known isLocal notGlobal
      rw [owned, Option.some.injEq] at owned'
      exact ⟨entity, owned' ▸ found⟩
  | true =>
      rcases table.cases_of_isLocal isLocal with ⟨-, ownerless⟩ | ⟨isFunction, -⟩
      · rw [ownerless] at owned
        cases owned
      · have lasts := (upheld.supported id table known isFunction).1 owner owned
        obtain ⟨entity, -, found, -⟩ := lasts.has
        exact ⟨entity, found⟩

/-- Every operation keeps a store rooted: no release leaves an orphan behind. -/
theorem rooted_step (upheld : resolver.Upheld) (rooted : resolver.store.Rooted)
    {operation : Operation} (regions : operation.DropsRegions resolver) :
    (resolver.step operation).store.Rooted := by
  rcases store_of_step upheld.orderly.sound.store operation with edits | ⟨-, closed, released⟩
  · have all := edits.preserve (fun now => now.Linked ∧ now.Catalogued (· ≠ .label) ∧ now.Rooted)
      ⟨upheld.orderly.sound.store.linked, upheld.catalogued, rooted⟩
      fun before change after holds _ edit => ⟨holds.1.edit edit,
        holds.2.1.edit holds.1 edit (absurd rfl), holds.2.2.edit holds.2.1 edit⟩
    exact all.2.2
  · exact rooted.released released (upheld.step regions).parentsKnown

/-- Every run that drops nothing but bodies of classes and namespaces leaves tables with all that they
need around them, and with their ways outwards. -/
theorem run (upheld : resolver.Upheld) (rooted : resolver.store.Rooted)
    {operations : List Operation}
    (regions : Throughout Operation.DropsRegions resolver operations) :
    (resolver.run operations).Upheld ∧ (resolver.run operations).store.Rooted := by
  refine regions.keeps (fun now => now.Upheld ∧ now.store.Rooted) ?_ ⟨upheld, rooted⟩
  rintro now operation regions ⟨upheld, rooted⟩
  exact ⟨upheld.step regions, upheld.rooted_step rooted regions⟩

end Upheld

/-- As long as closed scopes are kept, no operation releases anything, and what is around a table
stays around it. -/
theorem rooted_of_keeping (sound : resolver.store.Sound)
    (keeps : resolver.settings.discardClosedScopes = false)
    (catalogued : resolver.store.Catalogued (· ≠ .label)) (rooted : resolver.store.Rooted)
    (owners : resolver.store.OwnersKnown) (operations : List Operation) :
    (resolver.run operations).store.Rooted ∧ (resolver.run operations).store.OwnersKnown := by
  induction operations generalizing resolver with
  | nil => exact ⟨rooted, owners⟩
  | cons operation rest ih =>
      have edits := (store_of_step sound operation).resolve_right fun ⟨discards, _⟩ => by
        rw [keeps] at discards
        cases discards
      obtain ⟨-, catalogued', rooted', owners'⟩ := edits.preserve
        (fun now => now.Linked ∧ now.Catalogued (· ≠ .label) ∧ now.Rooted ∧ now.OwnersKnown)
        ⟨sound.linked, catalogued, rooted, owners⟩ fun before change after holds _ edit =>
          ⟨holds.1.edit edit, holds.2.1.edit holds.1 edit (absurd rfl),
            holds.2.2.1.edit holds.2.1 edit, holds.2.2.2.edit edit⟩
      exact ih (sound_step sound operation) (by rw [settings_step sound, keeps]) catalogued' rooted'
        owners'

/-- What a table lists has a qualified name, after every run in which closed scopes are kept, or only
bodies of classes and namespaces are dropped from the stack. -/
theorem named_of_run (names : NamePool) (settings : Settings) (operations : List Operation)
    (regions : settings.discardClosedScopes = true →
      Throughout Operation.DropsRegions (Resolver.new names settings) operations)
    {table : Table} {member : EntityId}
    (known : ((Resolver.new names settings).run operations).store.tables.get? id = some table)
    (listed : member ∈ table.listed) :
    ∃ text, ((Resolver.new names settings).run operations).store.qualifiedName member =
      .ok text := by
  obtain ⟨sound, rooted, owners⟩ :
      ((Resolver.new names settings).run operations).store.Sound ∧
      ((Resolver.new names settings).run operations).store.Rooted ∧
      ((Resolver.new names settings).run operations).store.OwnersKnown := by
    cases discards : settings.discardClosedScopes with
    | true =>
        obtain ⟨upheld, rooted⟩ :=
          (Upheld.new names discards).run (SymbolStore.rooted_new names) (regions discards)
        exact ⟨upheld.orderly.sound.store, rooted, upheld.ownersKnown⟩
    | false =>
        refine ⟨(sound_run names settings operations).store, ?_⟩
        exact rooted_of_keeping (sound_new names settings) discards
          (SymbolStore.catalogued_new names _) (SymbolStore.rooted_new names)
          (SymbolStore.ownersKnown_new names) operations
  exact rooted.qualifiedName_eq_ok sound.linked owners known listed

/-- No table is leaked, and none is orphaned. When closed scopes are discarded, and only bodies of
classes and namespaces are dropped from the stack, then after every run the open tables are there,
and every table of a function or block is open exactly once; every table but the global one is
nested in one that is there; what a table lists has a qualified name; and when the global table
alone is open, every other table is the body of a class or namespace that is there. -/
theorem tables_of_run (names : NamePool) (settings : Settings) (operations : List Operation)
    (discards : settings.discardClosedScopes = true)
    (regions : Throughout Operation.DropsRegions (Resolver.new names settings) operations) :
    let resolver := (Resolver.new names settings).run operations
    (∀ id ∈ resolver.scopes.toList, ∃ table, resolver.store.tables.get? id = some table) ∧
    (∀ id table, resolver.store.tables.get? id = some table →
      table.kind = .functionTable ∨ table.kind = .blockTable →
        resolver.scopes.toList.count id = 1) ∧
    (∀ id table, resolver.store.tables.get? id = some table → id ≠ resolver.store.global →
      ∃ outer around, table.parent? = some outer ∧
        resolver.store.tables.get? outer = some around) ∧
    (∀ id table, resolver.store.tables.get? id = some table → ∀ member ∈ table.listed,
      ∃ text, resolver.store.qualifiedName member = .ok text) ∧
    (resolver.scopes.inner = [] → ∀ id table, resolver.store.tables.get? id = some table →
      id = resolver.store.global ∨ ∃ owner entity,
        resolver.store.entities.get? owner = some entity ∧ entity.kind.opensRegion = true ∧
          entity.body = some id) := by
  intro resolver
  obtain ⟨upheld, rooted⟩ : resolver.Upheld ∧ resolver.store.Rooted :=
    (Upheld.new names discards).run (SymbolStore.rooted_new names) regions
  have linked := upheld.orderly.sound.store.linked
  refine ⟨upheld.orderly.sound.nested.live, ?_, fun id table => upheld.parent_known, ?_, ?_⟩
  · intro id table known isLocal
    refine upheld.orderly.count_eq_one known ?_
    rcases isLocal with kind | kind <;> rw [kind] <;> rfl
  · exact fun id table known member listed =>
      rooted.qualifiedName_eq_ok linked upheld.ownersKnown known listed
  · intro noneOpen id table known
    by_cases isGlobal : id = resolver.store.global
    · exact Or.inl isGlobal
    · have notLocal : table.kind.isLocal = false := by
        by_contra isLocal
        have isOpen := upheld.orderly.housed.isOpen id table known (by simpa using isLocal)
        rw [noneOpen] at isOpen
        cases isOpen
      obtain ⟨owner, entity, -, found, body, opens⟩ := linked.region_opens known notLocal isGlobal
      exact Or.inr ⟨owner, entity, found, opens, body⟩

/-- A function is opened, and opened again before it is closed. Its second body gets a class, which
is entered and left. -/
def reopenFunction : List Operation :=
  [.intern "f", .intern "C", .declare (functionDraft ⟨0⟩ []), .openScope (.functionBody ⟨0, 0⟩),
    .openScope (.functionBody ⟨0, 0⟩),
    .declare { name := ⟨1⟩, kind := .classDecl .structKey false },
    .openScope (.classBody ⟨1, 0⟩), .popChain 1]

/-- Both bodies are open once, though the function remembers the second one only. -/
theorem reopenFunction_keeps_both :
    let resolver := (Resolver.new {} {}).run reopenFunction
    Throughout Operation.DropsRegions (Resolver.new {} {}) reopenFunction ∧
      resolver.scopes.toList.count ⟨1, 0⟩ = 1 ∧ resolver.scopes.toList.count ⟨2, 0⟩ = 1 ∧
      (resolver.store.entities.get? ⟨0, 0⟩).map (·.body) = some (some ⟨2, 0⟩) := by
  intro resolver
  have regions : Throughout Operation.DropsRegions (Resolver.new {} {}) reopenFunction := by
    refine ⟨nofun, nofun, nofun, nofun, nofun, nofun, nofun, ?_, trivial⟩
    rintro _ ⟨⟩ id dropped table known
    let before := (Resolver.new {} {}).run (reopenFunction.take 7)
    have among : id ∈ before.scopes.inner.take 1 := dropped
    have innermost : before.scopes.inner.take 1 = [⟨3, 0⟩] := by decide +kernel
    have shown : (before.store.tables.get? ⟨3, 0⟩).map (·.kind) = some .classTable := by
      decide +kernel
    rw [innermost, List.mem_singleton] at among
    rw [← among] at shown
    obtain ⟨table', known', isClass⟩ := Option.map_eq_some_iff.1 shown
    rw [Option.some.inj (known.symm.trans known'), isClass]
    rfl
  have once {id : TableId} (shown : (resolver.store.tables.get? id).map (·.kind) =
      some .functionTable) : resolver.scopes.toList.count id = 1 := by
    obtain ⟨table, known, isFunction⟩ := Option.map_eq_some_iff.1 shown
    exact (tables_of_run {} {} reopenFunction rfl regions).2.1 id table known (Or.inl isFunction)
  exact ⟨regions, once (by decide +kernel), once (by decide +kernel), by decide +kernel⟩

end Resolver

end ScopeResolution

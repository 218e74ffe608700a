import ScopeResolution.Proofs.Resolver.QualifiedNames
import ScopeResolution.Proofs.SymbolStore.Home

/-! # The open functions

When closed scopes are discarded, and only bodies of classes and namespaces are dropped from the
stack without being closed, the tables of functions and blocks that are there are those that are
open (`Housed`). Under these conditions an operation does one of three things (`Passage`): it opens
tables, it closes bodies of classes and namespaces, or it closes and releases the innermost table.
What is released with that table is what has it as its home (`home_of_within`). -/

namespace ScopeResolution

/-- Closing a number of scopes takes them from the front. -/
theorem OpenScopes.popMany_eq (scopes : OpenScopes) (count : Nat) :
    (scopes.popMany count).2 = { scopes with inner := scopes.inner.drop count } := by
  induction count generalizing scopes with
  | zero => rfl
  | succ count ih =>
      obtain ⟨global, inner⟩ := scopes
      cases inner with
      | nil => rfl
      | cons first rest => exact ih { global, inner := rest }

namespace Resolver

/-- Each operation of a run is allowed in the state that it starts from. -/
def Throughout (allowed : Resolver → Operation → Prop) : Resolver → List Operation → Prop
  | _, [] => True
  | resolver, operation :: rest =>
    allowed resolver operation ∧ Throughout allowed (resolver.step operation) rest

/-- What operations keep where they are allowed, a run keeps in which all of them are. -/
theorem Throughout.keeps {allowed : Resolver → Operation → Prop} (invariant : Resolver → Prop)
    (step : ∀ resolver operation, allowed resolver operation → invariant resolver →
      invariant (resolver.step operation)) {resolver : Resolver} {operations : List Operation}
    (throughout : Throughout allowed resolver operations) (holds : invariant resolver) :
    invariant (resolver.run operations) := by
  induction operations generalizing resolver with
  | nil => exact holds
  | cons operation rest ih => exact ih throughout.2 (step resolver operation throughout.1 holds)

instance Throughout.decidable {allowed : Resolver → Operation → Prop}
    [∀ resolver operation, Decidable (allowed resolver operation)] :
    ∀ resolver operations, Decidable (Throughout allowed resolver operations)
  | _, [] => isTrue trivial
  | resolver, operation :: rest =>
    have : Decidable (Throughout allowed (resolver.step operation) rest) :=
      Throughout.decidable _ rest
    inferInstanceAs (Decidable (_ ∧ _))

/-- The scopes that the operation closes without releasing anything are bodies of classes and
namespaces. -/
def Operation.DropsRegions (resolver : Resolver) (operation : Operation) : Prop :=
  ∀ count, operation = .popChain count → ∀ id ∈ resolver.scopes.inner.take count, ∀ table,
    resolver.store.tables.get? id = some table → table.kind.isLocal = false

/-- The moves that close nothing, and open the tables of functions and blocks that they make. -/
def Action.Opens (now : Resolver) : Action → Prop
  | .edit (.openBody id _) => ∃ entity, now.store.entities.get? id = some entity ∧
      entity.kind.opensRegion = true
  | .edit (.openBlock _ _) => False
  | .drop => False
  | .close => False
  | _ => True

/-- What an operation does when closed scopes are discarded and only bodies of classes and
namespaces are dropped. -/
inductive Passage (before after : Resolver) : Prop where
  /-- It closes nothing. -/
  | opens (moves : Moves Action.Opens before after) : Passage before after
  /-- It closes bodies of classes and namespaces, which stay. -/
  | leaves {above : List TableId} (inner : before.scopes.inner = above ++ after.scopes.inner)
      (regions : ∀ id ∈ above, ∀ table, before.store.tables.get? id = some table →
        table.kind.isLocal = false)
      (store : after.store = before.store) : Passage before after
  /-- It closes and releases the innermost table, that of a function or block. -/
  | discards {closed : TableId} {table : Table}
      (popped : before.scopes.pop = .ok (closed, after.scopes))
      (known : before.store.tables.get? closed = some table) (isLocal : table.kind.isLocal = true)
      (released : before.store.Released closed after.store) : Passage before after

variable {resolver before after : Resolver}

/-- An operation other than the closing ones closes nothing. -/
theorem Operation.opens_of_permits {operation : Operation} {action : Action} {now : Resolver}
    (permitted : operation.Permits resolver now action) (notClose : operation ≠ .closeScope)
    (notChecked : ∀ expected, operation ≠ .closeScopeChecked expected)
    (notPop : ∀ count, operation ≠ .popChain count) : action.Opens now := by
  cases action with
  | edit change =>
      cases change with
      | openBody => exact permitted.2
      | openBlock => exact permitted
      | _ => trivial
  | drop =>
      obtain ⟨count, same⟩ := permitted
      exact notPop count same
  | close =>
      rcases permitted.1 with same | same
      · exact notClose same
      · exact notChecked _ same
  | _ => trivial

/-- Closing a scope closes a body that stays or releases the innermost table. -/
theorem passage_of_closeScope (sound : resolver.store.Sound)
    (discards : resolver.settings.discardClosedScopes = true) :
    Passage resolver resolver.closeScope.2 := by
  rcases closeScope_cases sound with same | ⟨closed, scopes, popped, closes⟩
  · rw [same]
    exact .opens Relation.ReflTransGen.refl
  · have pushed := OpenScopes.of_pop_eq_ok popped
    rcases closes with ⟨same, stays⟩ | ⟨table, store, -, known, isLocal, same, released, -⟩
    · rw [same]
      refine @Passage.leaves _ _ [closed] (by rw [pushed]; rfl) ?_ rfl
      intro id isClosed
      rw [List.mem_singleton.1 isClosed]
      exact stays discards
    · rw [same]
      exact .discards popped known isLocal released

/-- Every operation does one of these. -/
theorem passage_of_step (sound : resolver.store.Sound)
    (discards : resolver.settings.discardClosedScopes = true) {operation : Operation}
    (regions : operation.DropsRegions resolver) : Passage resolver (resolver.step operation) := by
  by_cases isClose : operation = .closeScope
  · rw [isClose]
    exact passage_of_closeScope sound discards
  by_cases isChecked : ∃ expected, operation = .closeScopeChecked expected
  · obtain ⟨expected, rfl⟩ := isChecked
    show Passage resolver (resolver.closeScopeChecked expected).2
    unfold closeScopeChecked
    by_cases innermost : resolver.scopes.current = expected
    · simp only [if_pos innermost]
      exact passage_of_closeScope sound discards
    · simp only [if_neg innermost]
      exact .opens Relation.ReflTransGen.refl
  by_cases isPop : ∃ count, operation = .popChain count
  · obtain ⟨count, rfl⟩ := isPop
    refine @Passage.leaves _ _ (resolver.scopes.inner.take count) ?_ (regions count rfl) rfl
    show _ = _ ++ (resolver.scopes.popMany count).2.inner
    rw [OpenScopes.popMany_eq, List.take_append_drop]
  · refine .opens (Relation.ReflTransGen.mono ?_ _ _ (step_leads sound operation).moves)
    rintro now next ⟨action, permitted, move⟩
    exact ⟨action, Operation.opens_of_permits permitted isClose (not_exists.1 isChecked)
      (not_exists.1 isPop), move⟩

/-- No operation changes the settings. -/
theorem settings_step (sound : resolver.store.Sound) (operation : Operation) :
    (resolver.step operation).settings = resolver.settings :=
  (step_leads sound operation).moves.preserve (·.settings = resolver.settings) rfl
    fun _ _ _ same _ move => by cases move <;> simp only [*]

/-- A move that closes nothing keeps entities in their places, if labels are not kept track of. -/
theorem Move.catalogued {action : Action} (move : Move before action after)
    (opens : action.Opens before) (linked : before.store.Linked) {slots : EntrySlot → Prop}
    (catalogued : before.store.Catalogued slots) (noLabels : ¬ slots .label) :
    after.store.Catalogued slots := by
  cases move with
  | edit edit => exact catalogued.edit linked edit fun labels => absurd labels noLabels
  | openFunction edit => exact catalogued.edit linked edit fun labels => absurd labels noLabels
  | openBlock edit => exact catalogued.edit linked edit fun labels => absurd labels noLabels
  | enter _ store => rwa [store]
  | drop => exact opens.elim
  | keep => exact opens.elim
  | release => exact opens.elim

/-- All tables are settled, and those of functions and blocks are open. -/
structure Housed (resolver : Resolver) : Prop where
  /-- Every table has a home, or is outside of all functions. -/
  settled : resolver.store.Settled
  /-- The tables of functions and blocks are open. -/
  isOpen : ∀ id table, resolver.store.tables.get? id = some table → table.kind.isLocal = true →
    id ∈ resolver.scopes.inner

/-- A resolver that has read nothing yet has no tables of functions. -/
theorem housed_new (names : NamePool) (settings : Settings) :
    (Resolver.new names settings).Housed where
  settled := .new names
  isOpen := by
    intro id table known isLocal
    rw [(SymbolStore.only_global known).2] at isLocal
    cases isLocal

namespace Housed

/-- An edit that makes no table of a function or block but those that are opened with it. -/
theorem edit (housed : before.Housed) (catalogued : before.store.Catalogued (· = .member))
    {change : SymbolStore.Change} (edit : before.store.Edit change after.store)
    (scopes : before.scopes.inner ⊆ after.scopes.inner)
    (opened : ∀ id table, before.store.tables.get? id = none →
      after.store.tables.get? id = some table → table.kind.isLocal = true →
        id ∈ after.scopes.inner) : after.Housed where
  settled := housed.settled.edit catalogued edit
  isOpen := by
    intro id table found isLocal
    cases known : before.store.tables.get? id with
    | none => exact opened id table known found isLocal
    | some old =>
        obtain ⟨later, laterFound, place⟩ := edit.table_kept known
        rw [found, Option.some.injEq] at laterFound
        rw [laterFound, place.kind_eq] at isLocal
        exact scopes (housed.isOpen id old known isLocal)

/-- A move that closes nothing keeps tables housed. -/
theorem move (housed : before.Housed) (catalogued : before.store.Catalogued (· = .member))
    {action : Action} (opens : action.Opens before) (move : Move before action after) :
    after.Housed := by
  have pushed {id : TableId} (scopes : after.scopes = before.scopes.push id) :
      before.scopes.inner ⊆ after.scopes.inner := by
    rw [scopes]
    exact List.subset_cons_self _ _
  cases move with
  | @edit _ change edit scopes =>
      refine housed.edit catalogued edit (by rw [scopes]; exact List.Subset.refl _) ?_
      intro id table stale found isLocal
      rcases edit.table_origin stale found with
        ⟨holder, entity, rfl, known, opened, -⟩ | ⟨parent, opener, rfl, -⟩
      · -- Such a body is that of a class or namespace.
        obtain ⟨entity', known', region⟩ := opens
        rw [known, Option.some.injEq] at known'
        rw [opened.isLocal_eq, known', region] at isLocal
        cases isLocal
      · exact opens.elim
  | openFunction edit known notRegion scopes =>
      refine housed.edit catalogued edit (pushed scopes) ?_
      intro id table stale found _
      rcases edit.table_origin stale found with ⟨_, _, same, -⟩ | ⟨_, _, same, -⟩
      · cases same
        rw [scopes]
        exact List.mem_cons_self
      · cases same
  | openBlock edit scopes =>
      refine housed.edit catalogued edit (pushed scopes) ?_
      intro id table stale found _
      rcases edit.table_origin stale found with ⟨_, _, same, -⟩ | ⟨_, _, same, -⟩
      · cases same
      · cases same
        rw [scopes]
        exact List.mem_cons_self
  | enter _ store scopes =>
      refine ⟨by rw [store]; exact housed.settled, ?_⟩
      rw [store]
      exact fun id table known isLocal => pushed scopes (housed.isOpen id table known isLocal)
  | drop => exact opens.elim
  | keep => exact opens.elim
  | release => exact opens.elim

/-- Every operation keeps tables housed, in one of the three ways. -/
theorem passage (housed : before.Housed) (linked : before.store.Linked)
    (catalogued : before.store.Catalogued (· = .member)) (passage : Passage before after) :
    after.Housed := by
  cases passage with
  | opens moves =>
      have all := moves.preserve (fun now => now.store.Linked ∧
        now.store.Catalogued (· = .member) ∧ now.Housed) ⟨linked, catalogued, housed⟩ ?_
      · exact all.2.2
      rintro now action next ⟨linked, catalogued, housed⟩ opens move
      exact ⟨move.linked linked, move.catalogued opens linked catalogued nofun,
        housed.move catalogued opens move⟩
  | leaves inner regions store =>
      refine ⟨by rw [store]; exact housed.settled, ?_⟩
      rw [store]
      intro id table known isLocal
      have isOpen := housed.isOpen id table known isLocal
      rw [inner] at isOpen
      refine (List.mem_append.1 isOpen).resolve_left fun isAbove => ?_
      rw [regions id isAbove table known] at isLocal
      cases isLocal
  | discards popped known isLocal released =>
      refine ⟨housed.settled.released linked catalogued released, ?_⟩
      intro id table found isLocal
      obtain ⟨was, outside⟩ := released.table_left found
      have isOpen := housed.isOpen id table was isLocal
      rw [OpenScopes.of_pop_eq_ok popped] at isOpen
      refine (List.mem_cons.1 isOpen).resolve_left fun same => outside ?_
      rw [same]
      exact Relation.ReflTransGen.refl

/-- What is within the innermost table has it as its home, when that is the table of a function or
block: by induction on the way inwards, on which no other open table is met. -/
theorem home_of_within (housed : before.Housed) (nested : before.Nested)
    (linked : before.store.Linked) (catalogued : before.store.Catalogued (· = .member))
    {closed id : TableId} {outer : OpenScopes} {table : Table}
    (popped : before.scopes.pop = .ok (closed, outer))
    (known : before.store.tables.get? closed = some table) (isLocal : table.kind.isLocal = true)
    (within : before.store.Within closed id) : before.store.Home id (some closed) := by
  induction within with
  | refl => exact .here known isLocal
  | @tail around inner isWithin held ih =>
      have opened := held
      obtain ⟨listing, member, entity, listingKnown, owned, memberKnown, body⟩ := opened
      obtain ⟨region, regionKnown, -⟩ := linked.body member entity inner memberKnown body
      cases inFunction : region.kind.isLocal with
      | false =>
          have parent := catalogued.nested member entity inner region memberKnown body regionKnown
          rw [linked.owner_eq listingKnown (listing.owned_subset_listed owned) memberKnown] at parent
          exact .outward regionKnown inFunction parent ih
      | true =>
          have isOpen := housed.isOpen inner region regionKnown inFunction
          have apart := nested.apart
          rw [OpenScopes.of_pop_eq_ok popped] at isOpen apart
          rcases List.mem_cons.1 isOpen with rfl | isOuter
          · exact .here regionKnown inFunction
          · exact absurd (isWithin.tail held)
              (List.rel_of_pairwise_cons apart isOuter table known isLocal)

end Housed

/-- A resolver in good order, when closed scopes are discarded. -/
structure Orderly (resolver : Resolver) : Prop where
  /-- The links are sound, and the open tables lie as they should. -/
  sound : resolver.Sound
  /-- Members are listed where they belong, and bodies are nested there. -/
  catalogued : resolver.store.Catalogued (· = .member)
  /-- The tables of functions and blocks are open. -/
  housed : resolver.Housed
  /-- Closed scopes are discarded. -/
  discards : resolver.settings.discardClosedScopes = true

/-- A resolver that has read nothing yet is in good order. -/
theorem orderly_new (names : NamePool) {settings : Settings}
    (discards : settings.discardClosedScopes = true) : (Resolver.new names settings).Orderly where
  sound := ⟨sound_new names settings, nested_new names settings⟩
  catalogued := SymbolStore.catalogued_new names _
  housed := housed_new names settings
  discards := discards

namespace Orderly

/-- In a resolver in good order, an operation does one of the three things. -/
theorem passage (orderly : resolver.Orderly) {operation : Operation}
    (regions : operation.DropsRegions resolver) : Passage resolver (resolver.step operation) :=
  passage_of_step orderly.sound.store orderly.discards regions

/-- Every operation keeps a resolver in good order. -/
theorem step (orderly : resolver.Orderly) {operation : Operation}
    (regions : operation.DropsRegions resolver) : (resolver.step operation).Orderly where
  sound := orderly.sound.step operation
  catalogued := catalogued_step orderly.sound.store orderly.catalogued fun same => nomatch same
  housed := orderly.housed.passage orderly.sound.store.linked orderly.catalogued
    (orderly.passage regions)
  discards := by rw [settings_step orderly.sound.store, orderly.discards]

end Orderly

end Resolver

end ScopeResolution

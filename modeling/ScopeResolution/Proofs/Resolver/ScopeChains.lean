import Mathlib.Data.List.Infix
import ScopeResolution.Proofs.Resolver.OpenFunctions

/-! # Chains of scopes

The bodies of a chain of qualifiers are opened together, and closed together by their number. What
is opened and closed in between leaves them alone as long as it is balanced, so closing the chain
brings back the scopes from before it (`chains_open_and_close`). The same holds of a resolver, whose
operations may fail in between, as long as the chain is never cut into (`popChain_of_pushChain`).
Closing more tables than are open does not fail as a whole: all of them but the global one are
closed first. -/

namespace ScopeResolution

namespace OpenScopes

/-- What can be done to open scopes. -/
inductive Shift where
  /-- Open a table. -/
  | push (table : TableId)
  /-- Close the innermost table. -/
  | pop
  /-- Open a chain of tables, the outermost first. -/
  | pushAll (tables : List TableId)
  /-- Close a number of tables. -/
  | popMany (count : Nat)
deriving DecidableEq

/-- How many tables a shift opens. -/
def Shift.opens : Shift → Nat
  | .push _ => 1
  | .pop => 0
  | .pushAll tables => tables.length
  | .popMany _ => 0

/-- How many tables a shift is to close. -/
def Shift.closes : Shift → Nat
  | .push _ => 0
  | .pop => 1
  | .pushAll _ => 0
  | .popMany count => count

/-- The scopes after a shift, whether it fails or not. -/
def shift (scopes : OpenScopes) : Shift → OpenScopes
  | .push table => scopes.push table
  | .pop =>
    match scopes.pop with
    | .ok (_, outer) => outer
    | .error _ => scopes
  | .pushAll tables => scopes.pushAll tables
  | .popMany count => (scopes.popMany count).2

/-- The scopes after some shifts, one after the other. -/
def shiftAll (scopes : OpenScopes) (shifts : List Shift) : OpenScopes := shifts.foldl shift scopes

/-- How many tables some shifts open. -/
def openedBy : List Shift → Nat
  | [] => 0
  | first :: rest => first.opens + openedBy rest

/-- How many tables some shifts are to close. -/
def closedBy : List Shift → Nat
  | [] => 0
  | first :: rest => first.closes + closedBy rest

/-- Up to any point, no more tables are closed than were opened, and in the end as many. -/
def Balanced (shifts : List Shift) : Prop :=
  (∀ front ∈ shifts.inits, closedBy front ≤ openedBy front) ∧ closedBy shifts = openedBy shifts

instance Balanced.decidable (shifts : List Shift) : Decidable (Balanced shifts) :=
  inferInstanceAs (Decidable (_ ∧ _))

variable {scopes : OpenScopes} {above outer : List TableId}

/-- The tables of a chain come before those that were open, the last one first. -/
theorem pushAll_eq (scopes : OpenScopes) (tables : List TableId) :
    scopes.pushAll tables = { scopes with inner := tables.reverse ++ scopes.inner } := by
  induction tables generalizing scopes with
  | nil => rfl
  | cons first rest ih =>
      show (scopes.push first).pushAll rest = _
      rw [ih]
      simp [push]

/-- Closing a number of tables fails when there are fewer besides the global one. -/
theorem popMany_fst (scopes : OpenScopes) (count : Nat) :
    (scopes.popMany count).1 =
      if count ≤ scopes.inner.length then .ok () else .error .globalClosed := by
  induction count generalizing scopes with
  | zero => rfl
  | succ count ih =>
      obtain ⟨global, inner⟩ := scopes
      cases inner with
      | nil => rfl
      | cons first rest =>
          show (popMany { global, inner := rest } count).1 = _
          rw [ih]
          simp

/-- Closing as many tables as lie above some brings those back. -/
theorem popMany_above (inner : scopes.inner = above ++ outer) :
    scopes.popMany above.length = (.ok (), { scopes with inner := outer }) := by
  refine Prod.ext ?_ ?_
  · rw [popMany_fst, if_pos (by simp [inner])]
  · simp [popMany_eq, inner]

/-- A shift that closes no more than the upper tables leaves the lower ones as they are. -/
theorem shift_above (shift : Shift) (inner : scopes.inner = above ++ outer)
    (covered : shift.closes ≤ above.length + shift.opens) :
    ∃ left, scopes.shift shift = { scopes with inner := left ++ outer } ∧
      left.length + shift.closes = above.length + shift.opens := by
  obtain ⟨global, _⟩ := scopes
  subst inner
  cases shift with
  | push table => exact ⟨table :: above, rfl, rfl⟩
  | pop =>
      cases above with
      | nil => exact absurd covered (by simp [Shift.closes, Shift.opens])
      | cons first left => exact ⟨left, rfl, rfl⟩
  | pushAll tables =>
      refine ⟨tables.reverse ++ above, ?_, ?_⟩
      · simp [OpenScopes.shift, pushAll_eq]
      · simp [Shift.closes, Shift.opens, Nat.add_comm]
  | popMany count =>
      have enough : count ≤ above.length := covered
      refine ⟨above.drop count, ?_, ?_⟩
      · rw [OpenScopes.shift, popMany_eq, List.drop_append_of_le_length enough]
      · simp [Shift.closes, Shift.opens, enough]

/-- Shifts that never close more than the upper tables and what they opened leave the lower tables
as they are. -/
theorem shiftAll_above (shifts : List Shift) (inner : scopes.inner = above ++ outer)
    (covered : ∀ front ∈ shifts.inits, closedBy front ≤ above.length + openedBy front) :
    ∃ left, scopes.shiftAll shifts = { scopes with inner := left ++ outer } ∧
      left.length + closedBy shifts = above.length + openedBy shifts := by
  induction shifts generalizing scopes above with
  | nil => exact ⟨above, by rw [← inner]; rfl, rfl⟩
  | cons first rest ih =>
      have coveredFirst := covered [first] (by simp)
      obtain ⟨next, shifted, level⟩ :=
        shift_above first inner (by simpa [closedBy, openedBy] using coveredFirst)
      have nextInner : (scopes.shift first).inner = next ++ outer := by rw [shifted]
      -- Besides its own tables, the rest may close what the first shift left above.
      have coveredRest : ∀ front ∈ rest.inits,
          closedBy front ≤ next.length + openedBy front := by
        intro front isFront
        have whole := covered (first :: front) (by simpa using isFront)
        simp only [closedBy, openedBy] at whole ⊢
        omega
      obtain ⟨left, reached, balance⟩ := ih nextInner coveredRest
      refine ⟨left, ?_, ?_⟩
      · show (scopes.shift first).shiftAll rest = _
        rw [reached, shifted]
      · simp only [closedBy, openedBy] at balance ⊢
        omega

/-- Balanced shifts bring back the scopes. -/
theorem shiftAll_of_balanced {shifts : List Shift} (balanced : Balanced shifts) :
    scopes.shiftAll shifts = scopes := by
  obtain ⟨never, level⟩ := balanced
  -- Nothing counts as above at first, so nothing is left above in the end.
  obtain ⟨left, reached, balance⟩ := shiftAll_above shifts (List.nil_append scopes.inner).symm
    fun front isFront => Nat.le_trans (never front isFront) (Nat.le_add_left _ _)
  have nil : left = [] := by
    rw [level] at balance
    exact List.eq_nil_of_length_eq_zero (Nat.add_right_cancel balance)
  rw [reached, nil, List.nil_append]

/-- A chain of tables is opened, and closed again by its number, and what lies between is balanced:
this brings back the scopes from before. Closing any number of tables closes exactly that many when
they are open besides the global one; otherwise it fails, and all but the global one are closed. -/
theorem chains_open_and_close (scopes : OpenScopes) :
    (∀ tables shifts, Balanced shifts →
      ((scopes.pushAll tables).shiftAll shifts).popMany tables.length = (.ok (), scopes)) ∧
    ∀ count,
      (count ≤ scopes.inner.length ∧
        scopes.popMany count = (.ok (), { scopes with inner := scopes.inner.drop count })) ∨
      (scopes.inner.length < count ∧
        scopes.popMany count = (.error .globalClosed, { scopes with inner := [] })) := by
  constructor
  · intro tables shifts balanced
    rw [shiftAll_of_balanced balanced, pushAll_eq, ← List.length_reverse]
    exact popMany_above rfl
  · intro count
    rcases Nat.lt_or_ge scopes.inner.length count with tooMany | enough
    · refine Or.inr ⟨tooMany, Prod.ext ?_ ?_⟩
      · rw [popMany_fst, if_neg (Nat.not_le_of_lt tooMany)]
      · rw [popMany_eq, List.drop_eq_nil_of_le (Nat.le_of_lt tooMany)]
    · refine Or.inl ⟨enough, Prod.ext ?_ ?_⟩
      · rw [popMany_fst, if_pos enough]
      · rw [popMany_eq]

/-- A chain of two tables is opened above another one. In between, tables are opened and closed one
by one and by their number. -/
theorem chain_around_shifts :
    let scopes : OpenScopes := { global := ⟨0, 0⟩, inner := [⟨1, 0⟩] }
    let shifts : List Shift := [.push ⟨4, 0⟩, .pushAll [⟨5, 0⟩, ⟨6, 0⟩], .pop, .popMany 2]
    Balanced shifts ∧
      ((scopes.pushAll [⟨2, 0⟩, ⟨3, 0⟩]).shiftAll shifts).popMany 2 = (.ok (), scopes) ∧
      scopes.popMany 1 = (.ok (), { global := ⟨0, 0⟩ }) := by
  intro scopes shifts
  have balanced : Balanced shifts := by decide
  obtain ⟨closes, counts⟩ := chains_open_and_close scopes
  have one : scopes.popMany 1 = (.ok (), { scopes with inner := scopes.inner.drop 1 }) :=
    ((counts 1).resolve_right fun tooMany => absurd tooMany.1 (by decide)).2
  exact ⟨balanced, closes _ shifts balanced, one⟩

/-- Two tables cannot be closed when there is one besides the global one. That one is closed all the
same. -/
theorem popMany_of_one :
    let scopes : OpenScopes := { global := ⟨0, 0⟩, inner := [⟨1, 0⟩] }
    (scopes.popMany 2).1 = .error .globalClosed ∧ (scopes.popMany 2).2 ≠ scopes := by
  decide

end OpenScopes

namespace Resolver

variable {resolver opened before after : Resolver} {outer : List TableId}

/-- No move changes the global table of the scopes. -/
theorem Move.scopes_global {action : Action} (move : Move before action after) :
    after.scopes.global = before.scopes.global := by
  cases move with
  | edit _ scopes => rw [scopes]
  | openFunction _ _ _ scopes => rw [scopes]; rfl
  | openBlock _ scopes => rw [scopes]; rfl
  | enter _ _ scopes => rw [scopes]; rfl
  | drop popped => rw [OpenScopes.of_pop_eq_ok popped]; rfl
  | keep popped => rw [OpenScopes.of_pop_eq_ok popped]; rfl
  | release popped => rw [OpenScopes.of_pop_eq_ok popped]; rfl

/-- A move that closes nothing leaves what is open. -/
theorem Move.scopes_suffix {action : Action} (move : Move before action after)
    (opens : action.Opens before) : before.scopes.inner <:+ after.scopes.inner := by
  cases move with
  | edit _ scopes => rw [scopes]
  | openFunction _ _ _ scopes => rw [scopes]; exact List.suffix_cons _ _
  | openBlock _ scopes => rw [scopes]; exact List.suffix_cons _ _
  | enter _ _ scopes => rw [scopes]; exact List.suffix_cons _ _
  | drop => exact opens.elim
  | keep => exact opens.elim
  | release => exact opens.elim

/-- Closing a scope opens nothing. -/
theorem closeScope_suffix (sound : resolver.store.Sound) :
    resolver.closeScope.2.scopes.inner <:+ resolver.scopes.inner := by
  rcases closeScope_cases sound with same | ⟨closed, scopes, popped, closes⟩
  · rw [same]
  · have outer : scopes.inner <:+ resolver.scopes.inner := by
      rw [OpenScopes.of_pop_eq_ok popped]
      exact List.suffix_cons _ _
    rcases closes with ⟨same, -⟩ | ⟨table, store, -, -, -, same, -⟩
    · rwa [same]
    · rwa [same]

/-- An operation leaves what is open and may open more, or leaves a part of it and opens nothing. -/
theorem step_suffix (sound : resolver.store.Sound) (operation : Operation) :
    resolver.scopes.inner <:+ (resolver.step operation).scopes.inner ∨
      (resolver.step operation).scopes.inner <:+ resolver.scopes.inner := by
  by_cases isClose : operation = .closeScope
  · rw [isClose]
    exact Or.inr (closeScope_suffix sound)
  by_cases isChecked : ∃ expected, operation = .closeScopeChecked expected
  · obtain ⟨expected, rfl⟩ := isChecked
    show _ ∨ (resolver.closeScopeChecked expected).2.scopes.inner <:+ _
    unfold closeScopeChecked
    by_cases innermost : resolver.scopes.current = expected
    · simp only [if_pos innermost]
      exact Or.inr (closeScope_suffix sound)
    · simp only [if_neg innermost]
      exact Or.inr (List.suffix_refl _)
  by_cases isPop : ∃ count, operation = .popChain count
  · obtain ⟨count, rfl⟩ := isPop
    show _ ∨ (resolver.scopes.popMany count).2.inner <:+ _
    rw [OpenScopes.popMany_eq]
    exact Or.inr (List.drop_suffix _ _)
  · refine Or.inl ((step_leads sound operation).moves.preserve
      (resolver.scopes.inner <:+ ·.scopes.inner) (List.suffix_refl _) ?_)
    intro before action after isOpen permitted move
    have opens := Operation.opens_of_permits permitted isClose (not_exists.1 isChecked)
      (not_exists.1 isPop)
    exact isOpen.trans (move.scopes_suffix opens)

/-- What is open stays open as long as there are never fewer open tables. -/
theorem run_suffix (sound : resolver.store.Sound) (operations : List Operation)
    (isOuter : outer <:+ resolver.scopes.inner)
    (never : ∀ front ∈ operations.inits,
      outer.length ≤ (resolver.run front).scopes.inner.length) :
    outer <:+ (resolver.run operations).scopes.inner := by
  refine (foldl_keeps_while (fun now : Resolver => now.store.Sound ∧ outer <:+ now.scopes.inner)
    (fun now => outer.length ≤ now.scopes.inner.length) ?_ ⟨sound, isOuter⟩ fun count =>
      never _ ((List.mem_inits _ _).2 (List.take_prefix count operations))).2
  rintro now operation - ⟨sound, isOuter⟩ enough
  -- Where the operation closes tables, what is left is still longer than the outer part.
  exact ⟨sound_step sound operation, (step_suffix sound operation).elim isOuter.trans fun part =>
    List.suffix_of_suffix_length_le isOuter part enough⟩

/-- No run changes the global table of the scopes. -/
theorem run_scopes_global (sound : resolver.store.Sound) (operations : List Operation) :
    (resolver.run operations).scopes.global = resolver.scopes.global := by
  refine (List.foldlRecOn operations Resolver.step
    (motive := fun now => now.store.Sound ∧ now.scopes.global = resolver.scopes.global)
    ⟨sound, rfl⟩ ?_).2
  rintro now ⟨sound, same⟩ operation -
  exact ⟨sound_step sound operation, (step_leads sound operation).moves.preserve
    (·.scopes.global = resolver.scopes.global) same
    fun _ _ _ same _ move => move.scopes_global.trans same⟩

/-- A chain of qualifiers opens as many tables as it says, and does nothing to the store. -/
theorem pushChain_eq_ok {qualifiers : List EntityId} {count : Nat}
    (opens : resolver.pushChain qualifiers = .ok (count, opened)) :
    opened.store = resolver.store ∧ ∃ above, above.length = count ∧
      opened.scopes = { resolver.scopes with inner := above ++ resolver.scopes.inner } := by
  unfold pushChain at opens
  obtain ⟨bodies, -, made⟩ := bind_eq_ok_iff.1 opens
  cases made
  exact ⟨rfl, bodies.reverse, List.length_reverse, OpenScopes.pushAll_eq _ _⟩

/-- The bodies of qualifiers are opened. Then come operations, of which some may fail, but there are
never fewer open tables than at first, and in the end as many. Closing as many as there are
qualifiers brings back the scopes from before. -/
theorem popChain_of_pushChain (sound : resolver.store.Sound) {qualifiers : List EntityId}
    {count : Nat} (opens : resolver.pushChain qualifiers = .ok (count, opened))
    (operations : List Operation)
    (never : ∀ front ∈ operations.inits,
      opened.scopes.depth ≤ (opened.run front).scopes.depth)
    (level : (opened.run operations).scopes.depth = opened.scopes.depth) :
    ((opened.run operations).popChain count).1 = .ok () ∧
      ((opened.run operations).popChain count).2.scopes = resolver.scopes := by
  obtain ⟨store, above, rfl, scopes⟩ := pushChain_eq_ok opens
  have sound : opened.store.Sound := by rwa [store]
  simp only [OpenScopes.depth, Nat.add_le_add_iff_right, Nat.add_right_cancel_iff] at never level
  have isOpen : opened.scopes.inner <:+ (opened.run operations).scopes.inner :=
    run_suffix sound operations (List.suffix_refl _) never
  have inner : (opened.run operations).scopes.inner = above ++ resolver.scopes.inner := by
    rw [← isOpen.eq_of_length level.symm, scopes]
  have global : (opened.run operations).scopes.global = resolver.scopes.global := by
    rw [run_scopes_global sound, scopes]
  have closes := OpenScopes.popMany_above inner
  rw [global] at closes
  exact ⟨congrArg Prod.fst closes, congrArg Prod.snd closes⟩

end Resolver

end ScopeResolution

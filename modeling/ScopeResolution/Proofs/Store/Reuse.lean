import ScopeResolution.Proofs.Store.Arena

/-! # Slots that are used again

The count of releases of a slot never falls, and its value stays until the count grows
(`Arena.Ages`). So a handle to a value either goes on meaning one, or its occupation of the slot is
over for good (`live_or_spent`). A handle whose occupation is over is stale as long as the count of
releases fits in 32 bits (`Spent.stale`); after that, generations repeat. Only allocating uses them
up, by one each time (`Wears`), and a value that is released at once uses up one and leaves no other
trace (`release_alloc`). -/

namespace ScopeResolution.Arena

variable {kind : Referent} {α : Type}

/-- What a slot may become: its releases are counted on, and a value is there until it is
released. -/
structure Slot.Continues (before after : Slot α) : Prop where
  /-- No release is forgotten. -/
  releases_le : before.releases ≤ after.releases
  /-- Without a release, a slot that held a value still holds one. -/
  held : before.releases = after.releases → before.value.isSome = true → after.value.isSome = true

/-- A slot may stay as it is. -/
theorem Slot.Continues.refl (slot : Slot α) : slot.Continues slot := ⟨Nat.le_refl _, fun _ => id⟩

/-- What a slot may become in two steps, it may become. -/
theorem Slot.Continues.trans {first second third : Slot α} (early : first.Continues second)
    (late : second.Continues third) : first.Continues third := by
  have grown := early.releases_le
  have grownOn := late.releases_le
  refine ⟨Nat.le_trans grown grownOn, fun same holds => ?_⟩
  -- No release in all means none in either step.
  have inFirst : first.releases = second.releases := by omega
  have inSecond : second.releases = third.releases := by omega
  exact late.held inSecond (early.held inFirst holds)

/-- An arena ages into another one when each of its slots may become the one there. -/
def Ages (before after : Arena kind α) : Prop :=
  ∀ (index : Nat) (slot : Slot α), before.slots[index]? = some slot →
    ∃ later, after.slots[index]? = some later ∧ slot.Continues later

namespace Ages

variable {before middle after : Arena kind α}

/-- An arena ages into itself. -/
theorem refl (arena : Arena kind α) : arena.Ages arena :=
  fun _ slot found => ⟨slot, found, .refl slot⟩

/-- Ageing twice is ageing, slot by slot. -/
theorem trans (early : before.Ages middle) (late : middle.Ages after) : before.Ages after := by
  intro index slot found
  obtain ⟨between, foundBetween, continues⟩ := early index slot found
  obtain ⟨later, foundLater, continuesOn⟩ := late index between foundBetween
  exact ⟨later, foundLater, continues.trans continuesOn⟩

/-- An arena ages when one slot is exchanged for what it may become. -/
theorem exchange {index : Nat} {new : Slot α}
    (continues : ∀ old, before.slots[index]? = some old → old.Continues new)
    (exchanged : after.slots = before.slots.setIfInBounds index new) : before.Ages after := by
  intro other slot found
  have inBounds : other < before.slots.size := (Array.getElem?_eq_some_iff.1 found).1
  rw [exchanged, Array.getElem?_setIfInBounds]
  by_cases here : index = other
  · subst here
    exact ⟨new, by simp [inBounds], continues slot found⟩
  · exact ⟨slot, by rw [if_neg here, found], .refl slot⟩

/-- An arena ages when a slot is added. -/
theorem push {new : Slot α} (pushed : after.slots = before.slots.push new) :
    before.Ages after := by
  intro other slot found
  have inBounds : other < before.slots.size := (Array.getElem?_eq_some_iff.1 found).1
  exact ⟨slot, by rw [pushed, Array.getElem?_push, if_neg (by omega), found], .refl slot⟩

variable (arena : Arena kind α) (handle : Handle kind)

/-- Allocating fills a slot that was released as often. -/
theorem alloc (value : α) : arena.Ages (arena.alloc value).2 := by
  unfold Arena.alloc
  split
  · rename_i index free freed
    refine exchange (fun old found => ?_) rfl
    rw [found]
    exact ⟨Nat.le_refl _, fun _ _ => rfl⟩
  · exact push rfl

/-- Replacing a value releases nothing. -/
theorem set (value : α) : arena.Ages (arena.set handle value) := by
  unfold Arena.set
  split
  · rename_i slot found
    split
    · refine exchange (fun old same => ?_) rfl
      rw [found, Option.some.injEq] at same
      subst same
      exact ⟨Nat.le_refl _, fun _ _ => rfl⟩
    · exact refl arena
  · exact refl arena

/-- Changing a value releases nothing. -/
theorem modify (change : α → α) : arena.Ages (arena.modify handle change) := by
  unfold Arena.modify
  split
  · exact set arena handle _
  · exact refl arena

/-- Releasing a value counts one release more. -/
theorem release : arena.Ages (arena.release handle) := by
  unfold Arena.release
  split
  · rename_i slot found
    split
    · refine exchange (fun old same => ?_) rfl
      rw [found, Option.some.injEq] at same
      subst same
      exact ⟨Nat.le_succ _, fun same => absurd same (Nat.ne_of_lt (Nat.lt_succ_self _))⟩
    · exact refl arena
  · exact refl arena

end Ages

/-- The occupation that a handle names is over: the slot was released since. -/
def Spent (arena : Arena kind α) (handle : Handle kind) : Prop :=
  ∃ slot, arena.slots[handle.index]? = some slot ∧ handle.generation.toNat < slot.releases

/-- How often a slot was released; never, when there is no such slot. -/
def releasesAt (arena : Arena kind α) (index : Nat) : Nat :=
  (arena.slots[index]?.map (·.releases)).getD 0

/-- No slot was released as often as generations can tell apart. -/
def Countable (arena : Arena kind α) : Prop := ∀ slot ∈ arena.slots, slot.releases < UInt32.size

variable {before after arena : Arena kind α} {handle : Handle kind}

/-- An occupation that is over stays so. -/
theorem Spent.ages (spent : before.Spent handle) (ages : before.Ages after) :
    after.Spent handle := by
  obtain ⟨slot, found, ended⟩ := spent
  obtain ⟨later, foundLater, continues⟩ := ages _ slot found
  exact ⟨later, foundLater, Nat.lt_of_lt_of_le ended continues.releases_le⟩

/-- A handle to a value refers to one later, or its occupation is over. -/
theorem live_or_spent {value : α} (known : before.get? handle = some value)
    (ages : before.Ages after) :
    (∃ later, after.get? handle = some later) ∨ after.Spent handle := by
  obtain ⟨slot, found, current, holds⟩ := slot_of_get? known
  obtain ⟨later, foundLater, continues⟩ := ages _ slot found
  rcases Nat.eq_or_lt_of_le continues.releases_le with same | more
  · left
    have holding : later.value.isSome = true := continues.held same (by rw [holds]; rfl)
    obtain ⟨kept, keeps⟩ := Option.isSome_iff_exists.1 holding
    have sameGeneration : later.generation = handle.generation := by
      rw [← current, Slot.generation, Slot.generation, same]
    exact ⟨kept, get?_eq_some_iff.2 ⟨later, foundLater, sameGeneration, keeps⟩⟩
  · refine Or.inr ⟨later, foundLater, ?_⟩
    -- A generation is at most the count that it is taken from.
    have atMost : handle.generation.toNat ≤ slot.releases := by
      rw [← current, Slot.generation, UInt32.toNat_ofNat']
      exact Nat.mod_le _ _
    omega

/-- A handle whose occupation is over is stale, as long as generations do not repeat. -/
theorem Spent.stale (spent : arena.Spent handle) (countable : arena.Countable) :
    arena.get? handle = none := by
  obtain ⟨slot, found, ended⟩ := spent
  have fits := countable slot (Array.mem_of_getElem? found)
  have other : slot.generation ≠ handle.generation := by
    intro same
    rw [← same, Slot.generation, UInt32.toNat_ofNat_of_lt' fits] at ended
    exact Nat.lt_irrefl _ ended
  rw [get?_of_slot found, if_neg other]

/-- No slot was released too often when none was by its number. -/
theorem countable_of_releasesAt (few : ∀ index, arena.releasesAt index < UInt32.size) :
    arena.Countable := by
  intro slot listed
  obtain ⟨index, found⟩ := Array.getElem?_of_mem listed
  have bound := few index
  rwa [releasesAt, found] at bound

/-! ## Using up generations -/

/-- How much of a slot is used up: its releases, and its value, which is yet to be released. -/
def Slot.wear (slot : Slot α) : Nat := slot.releases + slot.value.toList.length

/-- How much of a slot is used up; nothing of a slot that is not there. -/
def wearAt (arena : Arena kind α) (index : Nat) : Nat := (arena.slots[index]?.map Slot.wear).getD 0

/-- An arena wears by a number at most when no slot of it is used up by more than that. -/
def Wears (count : Nat) (before after : Arena kind α) : Prop :=
  ∀ index, after.wearAt index ≤ before.wearAt index + count

namespace Wears

variable {early late count : Nat} {middle : Arena kind α}

/-- An arena that stays does not wear. -/
theorem refl (arena : Arena kind α) : Wears 0 arena arena := fun _ => Nat.le_refl _

/-- What wears twice wears by the sum. -/
theorem trans (first : Wears early before middle) (second : Wears late middle after) :
    Wears (early + late) before after := by
  intro index
  have atFirst := first index
  have atSecond := second index
  omega

/-- The wear of an arena may be told by a greater number. -/
theorem mono (wears : Wears early before after) (le : early ≤ late) : Wears late before after :=
  fun index => Nat.le_trans (wears index) (Nat.add_le_add_left le _)

/-- When one slot is exchanged for another, an arena wears by as much as that is used up more. -/
theorem exchange {index : Nat} {new : Slot α}
    (used : ∀ old, before.slots[index]? = some old → new.wear ≤ old.wear + count)
    (exchanged : after.slots = before.slots.setIfInBounds index new) :
    Wears count before after := by
  intro other
  rw [wearAt, wearAt, exchanged, Array.getElem?_setIfInBounds]
  by_cases here : index = other
  · subst here
    by_cases inBounds : index < before.slots.size
    · have found := Array.getElem?_eq_getElem inBounds
      simpa [inBounds] using used _ found
    · simp [inBounds]
  · rw [if_neg here]
    exact Nat.le_add_right _ _

variable (arena : Arena kind α) (handle : Handle kind)

/-- Allocating uses up one slot by one. -/
theorem alloc (value : α) : Wears 1 arena (arena.alloc value).2 := by
  unfold Arena.alloc
  split
  · rename_i index free freed
    refine exchange (fun old found => ?_) rfl
    simp [found, Slot.wear]
  · intro index
    simp only [wearAt, Array.getElem?_push]
    split
    · simp [Slot.wear]
    · exact Nat.le_add_right _ _

/-- Replacing a value uses nothing up. -/
theorem set (value : α) : Wears 0 arena (arena.set handle value) := by
  unfold Arena.set
  split
  · rename_i slot found
    split
    · rename_i live
      refine exchange (fun old same => ?_) rfl
      rw [found, Option.some.injEq] at same
      subst same
      obtain ⟨held, known⟩ := (contains_eq_true_iff arena handle).1 live
      obtain ⟨slot', found', -, holds⟩ := slot_of_get? known
      rw [found, Option.some.injEq] at found'
      simp [Slot.wear, found', holds]
    · exact refl arena
  · exact refl arena

/-- Changing a value uses nothing up. -/
theorem modify (change : α → α) : Wears 0 arena (arena.modify handle change) := by
  unfold Arena.modify
  split
  · exact set arena handle _
  · exact refl arena

/-- Releasing a value uses up no more than keeping it did. -/
theorem release : Wears 0 arena (arena.release handle) := by
  cases known : arena.get? handle with
  | none =>
      rw [release_of_get?_eq_none known]
      exact refl arena
  | some value =>
      obtain ⟨slot, found, -, holds⟩ := slot_of_get? known
      rw [release_of_slot known found]
      refine exchange (fun old same => ?_) rfl
      rw [found, Option.some.injEq] at same
      simp [← same, Slot.wear, holds]

end Wears

/-- No slot was released too often when none is used up so far. -/
theorem countable_of_wearAt (few : ∀ index, arena.wearAt index < UInt32.size) :
    arena.Countable := by
  refine countable_of_releasesAt fun index => Nat.lt_of_le_of_lt ?_ (few index)
  unfold releasesAt wearAt
  cases arena.slots[index]? with
  | none => exact Nat.le_refl 0
  | some slot => exact Nat.le_add_right slot.releases _

/-- The arena with a slot that is empty after so many releases. -/
def emptied (arena : Arena kind α) (index releases : Nat) : Arena kind α :=
  { arena with slots := arena.slots.setIfInBounds index ⟨releases, none⟩ }

/-- A slot that is empty after so many releases stays as it is. -/
theorem emptied_self {index releases : Nat}
    (found : arena.slots[index]? = some ⟨releases, none⟩) : arena.emptied index releases = arena := by
  obtain ⟨inBounds, held⟩ := Array.getElem?_eq_some_iff.1 found
  rw [emptied, ← held, Array.setIfInBounds_def, dif_pos inBounds, Array.set_getElem_self]

/-- Of two counts for one slot, the later one stands. -/
@[simp] theorem emptied_emptied (index earlier releases : Nat) :
    (arena.emptied index earlier).emptied index releases = arena.emptied index releases := by
  simp [emptied]

/-- The slot with its new count. -/
theorem slot_emptied {index : Nat} {slot : Slot α} (found : arena.slots[index]? = some slot)
    (releases : Nat) :
    (arena.emptied index releases).slots[index]? = some ⟨releases, none⟩ := by
  have inBounds : index < arena.slots.size := (Array.getElem?_eq_some_iff.1 found).1
  simp [emptied, inBounds]

/-- A value that is released as soon as it is allocated uses up one generation of the slot that was
freed last, and leaves no other trace. -/
theorem release_alloc {index : Nat} {free : List Nat} {slot : Slot α}
    (freed : arena.free = index :: free) (found : arena.slots[index]? = some slot) (value : α) :
    (arena.alloc value).2.release (arena.alloc value).1 =
      arena.emptied index (slot.releases + 1) := by
  have inBounds : index < arena.slots.size := (Array.getElem?_eq_some_iff.1 found).1
  have filled : (arena.slots.setIfInBounds index ⟨slot.releases, some value⟩)[index]? =
      some ⟨slot.releases, some value⟩ := by simp [inBounds]
  rw [alloc_of_free value freed found,
    release_of_slot (get?_eq_some_iff.2 ⟨_, filled, rfl, rfl⟩) filled]
  simp [emptied, freed]

end ScopeResolution.Arena

import Mathlib.Data.List.Perm.Subperm
import Mathlib.Logic.Function.Basic
import ScopeResolution.Store.Arena

/-! # Arenas as partial maps

A well-formed arena is a partial map from handles to values, whatever the order in which its slots
were freed and used again. Allocating a value extends the map at a handle that was stale until then
(`get?_alloc`, `get?_alloc_fresh`), replacing a value changes it at one handle (`get?_set`), and
releasing a value takes one handle out (`get?_release`). -/

namespace ScopeResolution

/-- Handles are equal when they name the same occupation of the same slot. -/
theorem Handle.eq_iff {kind : Referent} {first second : Handle kind} :
    first = second ↔ first.index = second.index ∧ first.generation = second.generation := by
  obtain ⟨index, generation⟩ := first
  obtain ⟨index', generation'⟩ := second
  exact Iff.of_eq (Handle.mk.injEq ..)

/-- Changing a map at a handle changes it at the occupation of the slot that the handle names. -/
theorem Handle.update_apply {kind : Referent} {α : Type} (map : Handle kind → α)
    (handle : Handle kind) (value : α) (other : Handle kind) :
    Function.update map handle value other =
      if other.index = handle.index ∧ other.generation = handle.generation then value
      else map other := by
  simp only [Function.update_apply, Handle.eq_iff]

namespace Arena

variable {kind : Referent} {α : Type}

/-- An arena is well formed when its free list names its empty slots, each once, and its count is
that of its other slots. -/
structure WellFormed (arena : Arena kind α) : Prop where
  /-- No slot is freed twice. -/
  free_nodup : arena.free.Nodup
  /-- The freed slots are the empty ones. -/
  mem_free : ∀ index,
    index ∈ arena.free ↔ ∃ slot, arena.slots[index]? = some slot ∧ slot.value = none
  /-- The count is that of the slots that hold a value. -/
  live_eq : arena.live = arena.slots.toList.countP (·.value.isSome)

variable {arena : Arena kind α} {handle : Handle kind} {value : α}

/-- A handle refers to a value when the slot holds it in the occupation that the handle names. -/
theorem get?_eq_some_iff :
    arena.get? handle = some value ↔
      ∃ slot, arena.slots[handle.index]? = some slot ∧
        slot.generation = handle.generation ∧ slot.value = some value := by
  unfold get?
  cases found : arena.slots[handle.index]? with
  | none => simp
  | some slot =>
      by_cases same : slot.generation = handle.generation
      · simp [same]
      · simp [same]

/-- A handle that is not stale is another one than a handle that is. -/
theorem ne_of_stale {other : Handle kind} (known : arena.get? handle = some value)
    (stale : arena.get? other = none) : handle ≠ other := by
  rintro rfl
  rw [stale] at known
  cases known

/-- A handle into an empty slot is stale. -/
theorem get?_of_empty_slot {slot : Slot α} (found : arena.slots[handle.index]? = some slot)
    (empty : slot.value = none) : arena.get? handle = none := by
  rw [get?, found]
  simp [empty]

/-- The value that a handle refers to is read from the slot that it names. -/
theorem get?_of_slot {slot : Slot α} (found : arena.slots[handle.index]? = some slot) :
    arena.get? handle = if slot.generation = handle.generation then slot.value else none := by
  rw [get?, found]

/-- Arenas whose slots agree at an index agree on the handles into it. -/
theorem get?_congr {first second : Arena kind α}
    (same : first.slots[handle.index]? = second.slots[handle.index]?) :
    first.get? handle = second.get? handle := by
  rw [get?, get?, same]

/-- What the map becomes when one slot is exchanged for another. -/
theorem get?_exchange {before after : Arena kind α} {index : Nat} {old new : Slot α}
    (found : before.slots[index]? = some old)
    (exchanged : after.slots = before.slots.setIfInBounds index new) (other : Handle kind) :
    after.get? other =
      if other.index = index then
        if new.generation = other.generation then new.value else none
      else before.get? other := by
  have inBounds : index < before.slots.size := (Array.getElem?_eq_some_iff.1 found).1
  split
  · rename_i here
    exact get?_of_slot (by rw [exchanged, here]; simp [inBounds])
  · rename_i elsewhere
    exact get?_congr (by rw [exchanged, Array.getElem?_setIfInBounds, if_neg (Ne.symm elsewhere)])

/-! ## The empty arena -/

/-- The arena without slots is well formed. -/
theorem wellFormed_empty : (empty : Arena kind α).WellFormed where
  free_nodup := List.nodup_nil
  mem_free index := by simp [empty]
  live_eq := rfl

/-! ## Allocating -/

/-- A well-formed arena with a freed slot has that slot, and it is empty. -/
theorem WellFormed.slot_of_free {index : Nat} {free : List Nat} (wellFormed : arena.WellFormed)
    (freed : arena.free = index :: free) :
    ∃ slot, arena.slots[index]? = some slot ∧ slot.value = none :=
  (wellFormed.mem_free index).1 (by rw [freed]; exact List.mem_cons_self)

/-- What allocating does when a slot is free. -/
theorem alloc_of_free {index : Nat} {free : List Nat} {slot : Slot α} (value : α)
    (freed : arena.free = index :: free) (found : arena.slots[index]? = some slot) :
    arena.alloc value =
      (⟨index, slot.generation⟩,
        { slots := arena.slots.setIfInBounds index ⟨slot.releases, some value⟩
          free
          live := arena.live + 1 }) := by
  unfold alloc
  rw [freed]
  simp [found, Slot.generation]

/-- What allocating does when no slot is free. -/
theorem alloc_of_full (value : α) (full : arena.free = []) :
    arena.alloc value =
      (⟨arena.slots.size, 0⟩,
        { slots := arena.slots.push ⟨0, some value⟩, free := [], live := arena.live + 1 }) := by
  unfold alloc
  rw [full]

/-- The handle of a new value was stale. -/
theorem get?_alloc_fresh (wellFormed : arena.WellFormed) (value : α) :
    arena.get? (arena.alloc value).1 = none := by
  cases freed : arena.free with
  | nil =>
      rw [alloc_of_full value freed]
      simp [get?]
  | cons index free =>
      obtain ⟨slot, found, empty⟩ := wellFormed.slot_of_free freed
      rw [alloc_of_free value freed found]
      exact get?_of_empty_slot found empty

/-- Allocating extends the map at the handle of the new value. -/
theorem get?_alloc (wellFormed : arena.WellFormed) (value : α) :
    (arena.alloc value).2.get? =
      Function.update arena.get? (arena.alloc value).1 (some value) := by
  funext other
  cases freed : arena.free with
  | nil =>
      rw [alloc_of_full value freed, Handle.update_apply]
      by_cases last : other.index = arena.slots.size
      · -- The slot is new, so no handle into it meant anything before.
        have stale : arena.get? other = none := by simp [get?, last]
        have found : (arena.slots.push ⟨0, some value⟩)[other.index]? = some ⟨0, some value⟩ := by
          simp [last]
        rw [stale, get?_of_slot found]
        simp [last, Slot.generation, eq_comm]
      · rw [if_neg fun same => last same.1]
        exact get?_congr (by rw [Array.getElem?_push, if_neg last])
  | cons index free =>
      obtain ⟨slot, found, empty⟩ := wellFormed.slot_of_free freed
      rw [alloc_of_free value freed found, Handle.update_apply,
        get?_exchange found rfl]
      by_cases here : other.index = index
      · -- The slot was empty, so every handle into it was stale.
        have stale : arena.get? other = none :=
          get?_of_empty_slot (by rw [here]; exact found) empty
        simp [here, stale, Slot.generation, eq_comm]
      · rw [if_neg here, if_neg fun same => here same.1]

/-- Allocating keeps an arena well formed. -/
theorem WellFormed.alloc (wellFormed : arena.WellFormed) (value : α) :
    (arena.alloc value).2.WellFormed := by
  cases freed : arena.free with
  | nil =>
      rw [alloc_of_full value freed]
      refine ⟨List.nodup_nil, fun index => ?_, ?_⟩
      · have none_free := wellFormed.mem_free index
        rw [freed] at none_free
        rw [none_free, Array.getElem?_push]
        split
        · rename_i last
          simp [last]
        · rfl
      · simp [wellFormed.live_eq]
  | cons index free =>
      obtain ⟨slot, found, empty⟩ := wellFormed.slot_of_free freed
      have inBounds : index < arena.slots.size := (Array.getElem?_eq_some_iff.1 found).1
      have distinct := wellFormed.free_nodup
      rw [freed, List.nodup_cons] at distinct
      rw [alloc_of_free value freed found]
      -- The slot leaves the free list as it ceases to be empty.
      refine ⟨distinct.2, fun other => ?_, ?_⟩
      · have freed_iff := wellFormed.mem_free other
        rw [freed, List.mem_cons] at freed_iff
        rw [Array.getElem?_setIfInBounds]
        by_cases same : index = other
        · subst same
          simp [inBounds, distinct.1]
        · rw [if_neg same, ← freed_iff]
          simp [Ne.symm same]
      · have slot_eq : arena.slots[index] = slot := (Array.getElem?_eq_some_iff.1 found).2
        rw [Array.toList_setIfInBounds, List.countP_set (by simpa using inBounds)]
        simp [wellFormed.live_eq, slot_eq, empty]

/-! ## Replacing -/

/-- A handle to a value names a slot of its arena. -/
theorem slot_of_get? (known : arena.get? handle = some value) :
    ∃ slot, arena.slots[handle.index]? = some slot ∧ slot.generation = handle.generation ∧
      slot.value = some value :=
  get?_eq_some_iff.1 known

/-- What replacing a value does. -/
theorem set_of_slot {slot : Slot α} {old : α} (known : arena.get? handle = some old)
    (found : arena.slots[handle.index]? = some slot) (value : α) :
    arena.set handle value =
      { arena with
        slots := arena.slots.setIfInBounds handle.index ⟨slot.releases, some value⟩ } := by
  unfold set
  rw [found]
  simp [contains, known]

/-- Replacing a value changes the map at its handle. -/
theorem get?_set {old : α} (known : arena.get? handle = some old) (value : α) :
    (arena.set handle value).get? = Function.update arena.get? handle (some value) := by
  obtain ⟨slot, found, current, -⟩ := slot_of_get? known
  funext other
  rw [set_of_slot known found, Handle.update_apply, get?_exchange found rfl]
  by_cases here : other.index = handle.index
  · have atOther : arena.slots[other.index]? = some slot := by rw [here]; exact found
    rw [if_pos here, get?_of_slot atOther, ← current]
    by_cases same : other.generation = slot.generation
    · exact (if_pos same.symm).trans (if_pos ⟨here, same⟩).symm
    · rw [if_neg (Ne.symm same)]
      exact (if_neg (Ne.symm same)).trans (if_neg fun both => same both.2).symm
  · rw [if_neg here, if_neg fun same => here same.1]

/-- Replacing a value leaves the count alone. -/
@[simp] theorem live_set (value : α) : (arena.set handle value).live = arena.live := by
  unfold set
  split
  · split <;> rfl
  · rfl

/-- Replacing a value keeps an arena well formed. -/
theorem WellFormed.set (wellFormed : arena.WellFormed) {old : α}
    (known : arena.get? handle = some old) (value : α) : (arena.set handle value).WellFormed := by
  obtain ⟨slot, found, -, held⟩ := slot_of_get? known
  obtain ⟨inBounds, slot_eq⟩ := Array.getElem?_eq_some_iff.1 found
  rw [set_of_slot known found]
  refine ⟨wellFormed.free_nodup, fun index => ?_, ?_⟩
  · rw [wellFormed.mem_free index, Array.getElem?_setIfInBounds]
    by_cases same : handle.index = index
    · rw [← same, found]
      simp [held, inBounds]
    · rw [if_neg same]
  · have pos : 0 < arena.slots.toList.countP (·.value.isSome) := by
      rw [List.countP_pos_iff]
      exact ⟨slot, by simpa using Array.mem_of_getElem? found, by simp [held]⟩
    rw [Array.toList_setIfInBounds, List.countP_set (by simpa using inBounds)]
    simp only [wellFormed.live_eq, Array.getElem_toList, slot_eq, held]
    simp only [Option.isSome_some, if_true]
    omega

/-- Changing a value changes the map at its handle; a stale handle stays stale. -/
theorem get?_modify (change : α → α) :
    (arena.modify handle change).get? =
      Function.update arena.get? handle ((arena.get? handle).map change) := by
  cases known : arena.get? handle with
  | none =>
      rw [Option.map_none, ← known, Function.update_eq_self]
      simp [modify, known]
  | some value =>
      rw [modify, known]
      exact get?_set known (change value)

/-- Changing a value leaves the count alone. -/
@[simp] theorem live_modify (change : α → α) : (arena.modify handle change).live = arena.live := by
  unfold modify
  split
  · exact live_set _
  · rfl

/-- Changing a value keeps an arena well formed. -/
theorem WellFormed.modify (wellFormed : arena.WellFormed) (handle : Handle kind)
    (change : α → α) : (arena.modify handle change).WellFormed := by
  unfold Arena.modify
  split
  · rename_i value known
    exact wellFormed.set known (change value)
  · exact wellFormed

/-! ## Releasing -/

/-- What releasing a value does. -/
theorem release_of_slot {slot : Slot α} (known : arena.get? handle = some value)
    (found : arena.slots[handle.index]? = some slot) :
    arena.release handle =
      { slots := arena.slots.setIfInBounds handle.index ⟨slot.releases + 1, none⟩
        free := handle.index :: arena.free
        live := arena.live - 1 } := by
  unfold release
  rw [found]
  simp [contains, known]

/-- Releasing a value takes its handle out of the map. -/
theorem get?_release :
    (arena.release handle).get? = Function.update arena.get? handle none := by
  cases known : arena.get? handle with
  | none => rw [release_of_get?_eq_none known, ← known, Function.update_eq_self]
  | some value =>
      obtain ⟨slot, found, current, -⟩ := slot_of_get? known
      funext other
      rw [release_of_slot known found, Handle.update_apply,
        get?_exchange found rfl, ite_self]
      by_cases here : other.index = handle.index
      · have atOther : arena.slots[other.index]? = some slot := by rw [here]; exact found
        rw [if_pos here, get?_of_slot atOther, ← current]
        -- Handles into this slot to other occupations were stale before.
        by_cases same : slot.generation = other.generation
        · simp [here, same]
        · simp [same]
      · rw [if_neg here, if_neg fun same => here same.1]

/-- What is handed out on release is what the handle referred to. -/
theorem take_eq : arena.take handle = (arena.get? handle, arena.release handle) := by
  cases known : arena.get? handle with
  | none => simp [take, contains, known, release_of_get?_eq_none]
  | some value =>
      obtain ⟨slot, found, -, held⟩ := slot_of_get? known
      simp [take, contains, known, found, held]

/-- In a well-formed arena with a value, the count is not zero. -/
theorem WellFormed.live_pos (wellFormed : arena.WellFormed)
    (known : arena.get? handle = some value) : 0 < arena.live := by
  obtain ⟨slot, found, -, held⟩ := slot_of_get? known
  rw [wellFormed.live_eq, List.countP_pos_iff]
  exact ⟨slot, by simpa using Array.mem_of_getElem? found, by simp [held]⟩

/-- Releasing a value counts one value less. -/
theorem WellFormed.live_release (wellFormed : arena.WellFormed)
    (known : arena.get? handle = some value) : (arena.release handle).live + 1 = arena.live := by
  have pos := wellFormed.live_pos known
  obtain ⟨slot, found, -⟩ := slot_of_get? known
  rw [release_of_slot known found]
  show arena.live - 1 + 1 = arena.live
  omega

/-- Releasing a value keeps an arena well formed. -/
theorem WellFormed.release (wellFormed : arena.WellFormed) (handle : Handle kind) :
    (arena.release handle).WellFormed := by
  cases known : arena.get? handle with
  | none => rw [release_of_get?_eq_none known]; exact wellFormed
  | some value =>
      obtain ⟨slot, found, -, held⟩ := slot_of_get? known
      obtain ⟨inBounds, slot_eq⟩ := Array.getElem?_eq_some_iff.1 found
      -- The slot holds a value, so it is not freed twice.
      have occupied : handle.index ∉ arena.free := by
        rw [wellFormed.mem_free, found]
        simp [held]
      rw [release_of_slot known found]
      refine ⟨List.nodup_cons.2 ⟨occupied, wellFormed.free_nodup⟩, fun index => ?_, ?_⟩
      · rw [List.mem_cons, wellFormed.mem_free index, Array.getElem?_setIfInBounds]
        by_cases same : handle.index = index
        · rw [← same]
          simp [inBounds]
        · rw [if_neg same]
          simp [Ne.symm same]
      · rw [Array.toList_setIfInBounds, List.countP_set (by simpa using inBounds)]
        simp [wellFormed.live_eq, slot_eq, held]

/-- There are at most as many values as slots. -/
theorem WellFormed.live_le_capacity (wellFormed : arena.WellFormed) :
    arena.live ≤ arena.capacity := by
  rw [wellFormed.live_eq, capacity, ← Array.length_toList]
  exact List.countP_le_length

/-! ## Listing -/

/-- The values are listed with the handles that refer to them. -/
theorem mem_entries_iff : (handle, value) ∈ arena.entries ↔ arena.get? handle = some value := by
  rw [get?_eq_some_iff, entries, List.mem_filterMap]
  constructor
  · rintro ⟨⟨slot, index⟩, numbered, listed⟩
    have found := List.mem_zipIdx_iff_getElem?.1 numbered
    rw [Array.getElem?_toList] at found
    obtain ⟨held, holds, same⟩ := Option.map_eq_some_iff.1 listed
    cases same
    exact ⟨slot, found, rfl, holds⟩
  · rintro ⟨slot, found, current, holds⟩
    refine ⟨(slot, handle.index), List.mem_zipIdx_iff_getElem?.2 ?_, ?_⟩
    · rwa [Array.getElem?_toList]
    · rw [Option.map_eq_some_iff]
      exact ⟨value, holds, by rw [current]⟩

/-- The values are listed in slot order, one for each slot that holds a value. -/
theorem pairwise_entries (arena : Arena kind α) :
    arena.entries.Pairwise fun first second => first.1.index < second.1.index := by
  have numbered : arena.slots.toList.zipIdx.Pairwise fun first second => first.2 < second.2 := by
    rw [← List.pairwise_map (f := Prod.snd), List.zipIdx_map_snd]
    exact List.pairwise_lt_range'
  refine numbered.filterMap _ fun first second before entry isFirst other isSecond => ?_
  obtain ⟨value, -, rfl⟩ := Option.map_eq_some_iff.1 isFirst
  obtain ⟨value', -, rfl⟩ := Option.map_eq_some_iff.1 isSecond
  exact before

/-- As many values are listed as are counted. -/
theorem WellFormed.length_entries (wellFormed : arena.WellFormed) :
    arena.entries.length = arena.live := by
  have slots : arena.slots.toList.zipIdx.map Prod.fst = arena.slots.toList := List.zipIdx_map_fst ..
  calc arena.entries.length
      = arena.slots.toList.zipIdx.countP (fun numbered => numbered.1.value.isSome) := by
        rw [entries, List.length_filterMap_eq_countP]
        exact List.countP_congr fun numbered _ => by simp
    _ = (arena.slots.toList.zipIdx.map Prod.fst).countP (·.value.isSome) := by
        rw [List.countP_map]
        rfl
    _ = arena.live := by rw [slots, wellFormed.live_eq]

/-- At most as many values are listed as there are slots. -/
theorem length_entries_le_capacity : arena.entries.length ≤ arena.capacity := by
  have numbered : arena.slots.toList.zipIdx.length = arena.capacity := by
    rw [List.length_zipIdx, Array.length_toList, capacity]
  rw [← numbered]
  exact List.length_filterMap_le _ _

/-- Distinct handles that refer to values are among those that are listed. -/
theorem subperm_entries {handles : List (Handle kind)} (distinct : handles.Nodup)
    (live : ∀ handle ∈ handles, ∃ value, arena.get? handle = some value) :
    handles.Subperm (arena.entries.map (·.1)) := by
  refine distinct.subperm fun handle among => ?_
  obtain ⟨value, known⟩ := live handle among
  exact List.mem_map.2 ⟨_, mem_entries_iff.2 known, rfl⟩

/-- Handles that refer to values are no more than there are slots. -/
theorem length_le_capacity {handles : List (Handle kind)} (distinct : handles.Nodup)
    (live : ∀ handle ∈ handles, ∃ value, arena.get? handle = some value) :
    handles.length ≤ arena.capacity :=
  calc handles.length
      ≤ (arena.entries.map (·.1)).length := (subperm_entries distinct live).length_le
    _ = arena.entries.length := List.length_map _
    _ ≤ arena.capacity := length_entries_le_capacity

/-- Handles that refer to values are no more than there are values. -/
theorem WellFormed.length_le_live (wellFormed : arena.WellFormed) {handles : List (Handle kind)}
    (distinct : handles.Nodup)
    (live : ∀ handle ∈ handles, ∃ value, arena.get? handle = some value) :
    handles.length ≤ arena.live :=
  calc handles.length
      ≤ (arena.entries.map (·.1)).length := (subperm_entries distinct live).length_le
    _ = arena.entries.length := List.length_map _
    _ = arena.live := wellFormed.length_entries

end Arena

end ScopeResolution

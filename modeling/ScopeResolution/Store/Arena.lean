/-! # Arenas with generation-checked handles

An arena keeps values in numbered slots. A handle names a slot and the occupation of the slot that
it was issued for, so that releasing a value makes every handle to it stale, for good, even after
the slot is used again. Freed slots are used again, the last one freed first. -/

namespace ScopeResolution

/-- The kinds of things that handles refer to. -/
inductive Referent where
  /-- A declared entity. -/
  | entity
  /-- A symbol table. -/
  | table
deriving DecidableEq, Repr, Inhabited

/-- The word for the kind in messages. -/
def Referent.text : Referent → String
  | .entity => "entity"
  | .table => "table"

/-- A reference to one occupation of a slot. -/
structure Handle (of : Referent) where
  /-- The number of the slot. -/
  index : Nat
  /-- Which occupation of the slot is meant. -/
  generation : UInt32
deriving DecidableEq, Repr, Inhabited

namespace Handle

variable {kind : Referent}

instance : LawfulBEq (Handle kind) := inferInstance

/-- The slot after a number sign, and the generation after the letter v. -/
def text (handle : Handle kind) : String :=
  s!"#{handle.index}v{handle.generation.toNat}"

/-- Orders handles by slot, then by generation. -/
protected def compare (first second : Handle kind) : Ordering :=
  (Ord.compare first.index second.index).then
    (Ord.compare first.generation.toNat second.generation.toNat)

end Handle

/-- One place for a value. -/
structure Arena.Slot (α : Type) where
  /-- How often a value was released from this slot. -/
  releases : Nat := 0
  /-- The value kept here now. -/
  value : Option α
deriving Repr, Inhabited

/-- The generation that handles to the present value carry: the releases, counted in 32 bits. -/
def Arena.Slot.generation {α : Type} (slot : Arena.Slot α) : UInt32 := UInt32.ofNat slot.releases

/-- Values in slots, together with the slots that are free. -/
structure Arena (kind : Referent) (α : Type) where
  /-- The slots, in the order in which they were first used. -/
  slots : Array (Arena.Slot α) := #[]
  /-- The freed slots, last freed first. -/
  free : List Nat := []
  /-- The number of values kept. -/
  live : Nat := 0
deriving Repr, Inhabited

namespace Arena

variable {kind : Referent} {α : Type}

/-- The arena without slots. -/
def empty : Arena kind α := {}

/-- The value that a handle refers to; none when the handle is stale. -/
def get? (arena : Arena kind α) (handle : Handle kind) : Option α :=
  match arena.slots[handle.index]? with
  | some slot => if slot.generation = handle.generation then slot.value else none
  | none => none

/-- Whether a handle refers to a value. -/
def contains (arena : Arena kind α) (handle : Handle kind) : Bool :=
  (arena.get? handle).isSome

/-- Keeps a value in the last freed slot, or in a new one when no slot is free. -/
def alloc (arena : Arena kind α) (value : α) : Handle kind × Arena kind α :=
  match arena.free with
  | index :: free =>
    let releases := (arena.slots[index]?.map (·.releases)).getD 0
    (⟨index, UInt32.ofNat releases⟩,
      { slots := arena.slots.setIfInBounds index ⟨releases, some value⟩
        free
        live := arena.live + 1 })
  | [] =>
    (⟨arena.slots.size, 0⟩,
      { slots := arena.slots.push ⟨0, some value⟩
        free := []
        live := arena.live + 1 })

/-- Replaces the value that a handle refers to; changes nothing when the handle is stale. -/
def set (arena : Arena kind α) (handle : Handle kind) (value : α) : Arena kind α :=
  match arena.slots[handle.index]? with
  | some slot =>
    if arena.contains handle then
      { arena with slots := arena.slots.setIfInBounds handle.index { slot with value := some value } }
    else arena
  | none => arena

/-- Changes the value that a handle refers to; changes nothing when the handle is stale. -/
def modify (arena : Arena kind α) (handle : Handle kind) (change : α → α) : Arena kind α :=
  match arena.get? handle with
  | some value => arena.set handle (change value)
  | none => arena

/-- Releases the value that a handle refers to; changes nothing when the handle is stale. -/
def release (arena : Arena kind α) (handle : Handle kind) : Arena kind α :=
  match arena.slots[handle.index]? with
  | some slot =>
    if arena.contains handle then
      { slots := arena.slots.setIfInBounds handle.index ⟨slot.releases + 1, none⟩
        free := handle.index :: arena.free
        live := arena.live - 1 }
    else arena
  | none => arena

/-- Releases the value that a handle refers to and hands it out; a stale handle gives nothing and
changes nothing. -/
def take (arena : Arena kind α) (handle : Handle kind) : Option α × Arena kind α :=
  if arena.contains handle then
    (arena.slots[handle.index]?.bind (·.value), arena.release handle)
  else (none, arena)

/-- The handles that refer to values, with the values, in slot order. -/
def entries (arena : Arena kind α) : List (Handle kind × α) :=
  arena.slots.toList.zipIdx.filterMap fun (slot, index) =>
    slot.value.map fun value => (⟨index, slot.generation⟩, value)

/-- The text that lists the handles with their values, in slot order; `write` gives the text of a
value. -/
def describe (arena : Arena kind α) (write : α → String) : String :=
  let items := arena.entries.map fun (handle, value) => handle.text ++ ": " ++ write value
  "\x7b" ++ ", ".intercalate items ++ "\x7d"

/-- The number of slots, free ones included. -/
def capacity (arena : Arena kind α) : Nat := arena.slots.size

@[simp] theorem get?_empty (handle : Handle kind) : (empty : Arena kind α).get? handle = none := by
  simp [empty, get?]

theorem contains_eq_true_iff (arena : Arena kind α) (handle : Handle kind) :
    arena.contains handle = true ↔ ∃ value, arena.get? handle = some value := by
  simp [contains, Option.isSome_iff_exists]

/-- A stale handle releases nothing. -/
theorem release_of_get?_eq_none {arena : Arena kind α} {handle : Handle kind}
    (stale : arena.get? handle = none) : arena.release handle = arena := by
  unfold release
  split <;> simp [contains, stale]

end Arena

end ScopeResolution

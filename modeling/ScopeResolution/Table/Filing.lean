import ScopeResolution.Table.Basic

/-! # Filing into symbol tables

How tables take in entities, base classes and using peers, and when they refuse. A table decides
only whether it has the slot and is still open; whether a declaration is legal is not its concern. -/

namespace ScopeResolution

/-- The places of a table in which an entity can be filed. -/
inductive EntrySlot where
  /-- The members. -/
  | member
  /-- The constructors of a class. -/
  | constructor
  /-- The destructor of a class. -/
  | destructor
  /-- The conversion operators of a class. -/
  | conversion
  /-- The parameters of a function. -/
  | parameter
  /-- The labels of a function. -/
  | label
deriving DecidableEq, Repr, Inhabited

namespace EntrySlot

/-- The words for a slot in messages. -/
def text : EntrySlot → String
  | .member => "member"
  | .constructor => "constructor"
  | .destructor => "destructor"
  | .conversion => "conversion operator"
  | .parameter => "parameter"
  | .label => "label"

/-- All slots. -/
def all : List EntrySlot :=
  [.member, .constructor, .destructor, .conversion, .parameter, .label]

theorem mem_all (slot : EntrySlot) : slot ∈ all := by cases slot <;> decide

end EntrySlot

/-- The slot in which an entity of a kind is filed. -/
def EntityKind.slot : EntityKind → EntrySlot
  | .parameter .. => .parameter
  | .label => .label
  | .function info =>
    match info.form with
    | .constructor => .constructor
    | .destructor => .destructor
    | .conversion => .conversion
    | .plain | .operator => .member
  | _ => .member

/-- Why a table refuses a change. -/
inductive Refusal where
  /-- Tables of this kind have no such slot. -/
  | slotNotAllowed (slot : EntrySlot) (kind : TableKind)
  /-- The class is complete. -/
  | complete
  /-- The class has a destructor already. -/
  | duplicateDestructor
deriving DecidableEq, Repr, Inhabited

/-- What a reader is told about a refusal. -/
def Refusal.message : Refusal → String
  | .slotNotAllowed slot kind => s!"a {kind.text} table has no {slot.text} slot"
  | .complete => "the class is complete and can no longer change"
  | .duplicateDestructor => "the class already has a destructor"

/-- Puts a label under its name: in the place of an earlier label of the same name, else at the
end. -/
def FunctionBody.putLabel (name : Name) (entity : EntityId) :
    List (Name × EntityId) → List (Name × EntityId)
  | [] => [(name, entity)]
  | (other, earlier) :: rest =>
    if other = name then (name, entity) :: rest
    else (other, earlier) :: FunctionBody.putLabel name entity rest

namespace Table

/-- Files an entity among the members; the index is its place in its overload set. -/
def fileMember (table : Table) (name : Name) (entity : EntityId) : Nat × Table :=
  ((table.members.get name).length, { table with members := table.members.insert name entity })

/-- Files an entity in a slot of a class. -/
def fileInClass (table : Table) (owner : EntityId) (parent : TableId) (body : ClassBody)
    (slot : EntrySlot) (name : Name) (entity : EntityId) : Except Refusal (Nat × Table) :=
  let withBody (body : ClassBody) : Table := { table with form := .classBody owner parent body }
  if body.isSealed then .error .complete
  else
    match slot with
    | .member => .ok (table.fileMember name entity)
    | .constructor =>
      .ok (body.constructors.length,
        withBody { body with constructors := body.constructors ++ [entity] })
    | .destructor =>
      if body.destructor.isSome then .error .duplicateDestructor
      else .ok ((withBody { body with destructor := some entity }).fileMember name entity)
    | .conversion =>
      .ok ((withBody { body with conversions := body.conversions ++ [entity] }).fileMember name
        entity)
    | .parameter | .label => .error (.slotNotAllowed slot .classTable)

/-- Files an entity in a slot of a function. -/
def fileInFunction (table : Table) (owner : EntityId) (parent : TableId) (body : FunctionBody)
    (slot : EntrySlot) (name : Name) (entity : EntityId) : Except Refusal (Nat × Table) :=
  let withBody (body : FunctionBody) : Table :=
    { table with form := .functionBody owner parent body }
  match slot with
  | .member => .ok (table.fileMember name entity)
  | .parameter =>
    .ok (body.params.length, withBody { body with params := body.params ++ [(name, entity)] })
  | .label =>
    .ok (0, withBody { body with labels := FunctionBody.putLabel name entity body.labels })
  | .constructor | .destructor | .conversion => .error (.slotNotAllowed slot .functionTable)

/-- Files an entity under a name in a slot; the index is its place in the slot. -/
def file (table : Table) (slot : EntrySlot) (name : Name) (entity : EntityId) :
    Except Refusal (Nat × Table) :=
  match table.form with
  | .classBody owner parent body => table.fileInClass owner parent body slot name entity
  | .functionBody owner parent body => table.fileInFunction owner parent body slot name entity
  | _ =>
    if slot = .member then .ok (table.fileMember name entity)
    else .error (.slotNotAllowed slot table.kind)

/-- The table with a further peer, unless it is one already. -/
def withPeer (table : Table) (peer : TableId) : Table :=
  if peer ∈ table.peers then table else { table with peers := table.peers ++ [peer] }

/-- Lets lookups consult another table after this one. -/
def addPeer (table : Table) (peer : TableId) : Except Refusal Table :=
  match table.form with
  | .classBody _ _ body => if body.isSealed then .error .complete else .ok (table.withPeer peer)
  | .block .. => .error (.slotNotAllowed .member .blockTable)
  | _ => .ok (table.withPeer peer)

/-- Adds a direct base to a class table; other tables refuse it. -/
def addBase (table : Table) (base : Base) : Except Refusal Table :=
  match table.form with
  | .classBody owner parent body =>
    if body.isSealed then .error .complete
    else .ok { table with form := .classBody owner parent { body with bases := body.bases ++ [base] } }
  | _ => .error (.slotNotAllowed .member .classTable)

/-- Marks a class complete; none when the table is not that of a class. -/
def complete? (table : Table) : Option Table :=
  match table.form with
  | .classBody owner parent body =>
    some { table with form := .classBody owner parent { body with isSealed := true } }
  | _ => none

end Table

end ScopeResolution

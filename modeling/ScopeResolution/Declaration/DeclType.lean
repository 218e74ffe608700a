import ScopeResolution.Store.Arena

/-! # Declared types

A declared type is a base type with its own qualifiers and a list of nodes derived from it,
outermost first. A pointer to an array of integers is the base `int` with the nodes pointer, array;
a function that returns a pointer is its signature followed by a pointer. -/

namespace ScopeResolution

/-- A handle to an entity. -/
abbrev EntityId := Handle .entity

/-- A handle to a symbol table. -/
abbrev TableId := Handle .table

/-- What a base type names. -/
inductive BaseCode where
  /-- The type without values. -/
  | void
  /-- Truth values. -/
  | bool
  /-- Characters. -/
  | char
  /-- Wide characters. -/
  | wideChar
  /-- Integers. -/
  | int
  /-- Single precision numbers. -/
  | float
  /-- Double precision numbers. -/
  | double
  /-- A declared class, union, enumeration or template type parameter. -/
  | named (entity : EntityId)
deriving DecidableEq, Repr, Inhabited

/-- The sign modifier of a base type. -/
inductive Sign where
  /-- No sign is written. -/
  | unwritten
  /-- Written as signed. -/
  | signed
  /-- Written as unsigned. -/
  | unsigned
deriving DecidableEq, Repr, Inhabited

/-- The size modifier of a base type. -/
inductive Size where
  /-- No size is written. -/
  | unwritten
  /-- Written as short. -/
  | short
  /-- Written as long. -/
  | long
  /-- Written as long twice. -/
  | longLong
deriving DecidableEq, Repr, Inhabited

/-- A base type with its modifiers. -/
structure BaseType where
  /-- What the type names. -/
  code : BaseCode
  /-- The sign modifier. -/
  sign : Sign := .unwritten
  /-- The size modifier. -/
  size : Size := .unwritten
deriving DecidableEq, Repr, Inhabited

/-- The qualifiers `const` and `volatile`. -/
structure Qualifiers where
  /-- Whether `const` is written. -/
  isConst : Bool := false
  /-- Whether `volatile` is written. -/
  isVolatile : Bool := false
deriving DecidableEq, Repr, Inhabited

/-- The calling convention of a function type. -/
inductive Convention where
  /-- The convention of the platform. -/
  | unwritten
  /-- The caller cleans the stack. -/
  | cdecl
  /-- The callee cleans the stack. -/
  | stdcall
  /-- The first arguments travel in registers. -/
  | fastcall
deriving DecidableEq, Repr, Inhabited

mutual

/-- A declared type. -/
structure DeclType where
  /-- The base type. -/
  base : BaseType
  /-- The qualifiers of the base type. -/
  qualifiers : Qualifiers := {}
  /-- The nodes derived from the base, outermost first. -/
  derived : List Derived := []

/-- One step that derives a type from the type of the nodes after it. -/
inductive Derived where
  /-- A pointer with qualifiers of its own. -/
  | pointer (qualifiers : Qualifiers)
  /-- A reference. -/
  | reference
  /-- An array, of unknown bound when no size is given. -/
  | array (size : Option Nat)
  /-- A pointer to a member of a class, with qualifiers of its own. -/
  | memberPointer (owner : EntityId) (qualifiers : Qualifiers)
  /-- A function that returns the type of the nodes after it. -/
  | function (signature : Signature)

/-- What a function type says beside the type it returns. -/
structure Signature where
  /-- The parameter types, in order. -/
  params : List DeclType := []
  /-- The qualifiers of the object that a member function is called on. -/
  qualifiers : Qualifiers := {}
  /-- The exception specification, if one is written; the empty list promises no exception. -/
  throws : Option (List DeclType) := none
  /-- Whether further arguments are accepted. -/
  variadic : Bool := false
  /-- The calling convention. -/
  convention : Convention := .unwritten

end

namespace DeclType

instance : Inhabited DeclType := ⟨{ base := default }⟩

/-- A base type without modifiers, qualifiers or derived nodes. -/
def ofCode (code : BaseCode) : DeclType := { base := { code } }

/-- The type of integers. -/
def int : DeclType := ofCode .int

/-- The type without values. -/
def void : DeclType := ofCode .void

/-- The type that a declared entity names. -/
def named (entity : EntityId) : DeclType := ofCode (.named entity)

/-- The type that a new outermost node derives. -/
def derive (type : DeclType) (node : Derived) : DeclType :=
  { type with derived := node :: type.derived }

/-- An unqualified pointer to a type. -/
def pointer (type : DeclType) : DeclType := type.derive (.pointer {})

/-- A reference to a type. -/
def reference (type : DeclType) : DeclType := type.derive .reference

/-- An array of a type. -/
def array (type : DeclType) (size : Option Nat) : DeclType := type.derive (.array size)

/-- An unqualified pointer to a member of a class. -/
def memberPointer (type : DeclType) (owner : EntityId) : DeclType :=
  type.derive (.memberPointer owner {})

/-- A function that returns a type. -/
def function (returns : DeclType) (signature : Signature) : DeclType :=
  returns.derive (.function signature)

/-- The signature of a function type. -/
def signature? (type : DeclType) : Option Signature :=
  match type.derived with
  | .function signature :: _ => some signature
  | _ => none

/-- Whether a type is a function type. -/
def isFunction (type : DeclType) : Bool := type.signature?.isSome

/-- The type that a function type returns. -/
def returnType? (type : DeclType) : Option DeclType :=
  match type.derived with
  | .function _ :: rest => some { type with derived := rest }
  | _ => none

/-- The entity that a type without derived nodes names. -/
def namedEntity? (type : DeclType) : Option EntityId :=
  match type.base.code, type.derived with
  | .named entity, [] => some entity
  | _, _ => none

end DeclType

end ScopeResolution

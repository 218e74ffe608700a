import ScopeResolution.Declaration.DeclType
import ScopeResolution.Source.Location
import ScopeResolution.Store.NamePool

/-! # Entities

An entity is one declared thing with a name: its kind, the table that lists it, its access, and the
table of its body if it has one. A draft is an entity that no table lists yet. -/

namespace ScopeResolution

/-- The access level of a member or of a base class. -/
inductive Access where
  /-- Open to all code. -/
  | publicAccess
  /-- Open to the class and the classes derived from it. -/
  | protectedAccess
  /-- Open to the class alone. -/
  | privateAccess
deriving DecidableEq, Repr, Inhabited

namespace Access

/-- How restrictive a level is. -/
def rank : Access → Nat
  | .publicAccess => 0
  | .protectedAccess => 1
  | .privateAccess => 2

/-- The more restrictive of two levels. -/
def stricter (first second : Access) : Access :=
  if first.rank ≤ second.rank then second else first

/-- The keyword of a level. -/
def text : Access → String
  | .publicAccess => "public"
  | .protectedAccess => "protected"
  | .privateAccess => "private"

@[simp] theorem rank_stricter (first second : Access) :
    (first.stricter second).rank = max first.rank second.rank := by
  cases first <;> cases second <;> rfl

end Access

/-- The storage class written on a declaration. -/
inductive Storage where
  /-- No storage class is written. -/
  | unwritten
  /-- Defined elsewhere. -/
  | external
  /-- One instance for the whole run. -/
  | static
  /-- Lives as long as its block runs. -/
  | automatic
  /-- Wished for in a register. -/
  | register
  /-- May change inside an object that is otherwise constant. -/
  | mutable
deriving DecidableEq, Repr, Inhabited

/-- The special form that a function takes. -/
inductive FunctionForm where
  /-- An ordinary function or member function. -/
  | plain
  /-- A constructor. -/
  | constructor
  /-- A destructor. -/
  | destructor
  /-- An operator. -/
  | operator
  /-- A conversion operator. -/
  | conversion
deriving DecidableEq, Repr, Inhabited

/-- How a function relates to templates. -/
inductive TemplateForm where
  /-- Not a template. -/
  | ordinary
  /-- A template. -/
  | template
  /-- An explicit specialization of a template. -/
  | specialization
deriving DecidableEq, Repr, Inhabited

/-- What is known of a function. -/
structure FunctionInfo where
  /-- The declared type. -/
  type : DeclType
  /-- The special form. -/
  form : FunctionForm := .plain
  /-- The relation to templates. -/
  template : TemplateForm := .ordinary
  /-- The storage class. -/
  storage : Storage := .unwritten
  /-- Whether the function is virtual. -/
  isVirtual : Bool := false
deriving Inhabited

/-- The keyword that declares a class. -/
inductive ClassKey where
  /-- Declared as class. -/
  | classKey
  /-- Declared as struct. -/
  | structKey
  /-- Declared as union. -/
  | unionKey
deriving DecidableEq, Repr, Inhabited

/-- What an alias stands for. -/
inductive AliasTarget where
  /-- Another entity. -/
  | entity (target : EntityId)
  /-- A type. -/
  | type (target : DeclType)
deriving Inhabited

/-- What a template parameter stands for. -/
inductive TemplateParameter where
  /-- A type. -/
  | type
  /-- A value of a type. -/
  | value (type : DeclType)
  /-- A template. -/
  | template
deriving Inhabited

/-- What an entity is. -/
inductive EntityKind where
  /-- A variable, or a data member of a class. -/
  | object (type : DeclType) (storage : Storage)
  /-- A function parameter. -/
  | parameter (type : DeclType) (position : Nat) (hasDefault : Bool)
  /-- A function of any form. -/
  | function (info : FunctionInfo)
  /-- A class, struct or union. -/
  | classDecl (key : ClassKey) (isTemplate : Bool)
  /-- An enumeration. -/
  | enumDecl
  /-- A constant of an enumeration. -/
  | enumerator (value : Int) (enumeration : Option EntityId)
  /-- A namespace. -/
  | namespaceDecl
  /-- Another name for a namespace. -/
  | namespaceAlias (target : EntityId)
  /-- A typedef or a using-declaration. -/
  | alias (target : AliasTarget)
  /-- A template parameter. -/
  | templateParameter (parameter : TemplateParameter)
  /-- A statement label. -/
  | label
  /-- Declared, but not classified yet. -/
  | unspecified
deriving Inhabited

namespace EntityKind

/-- The word for a kind in messages. -/
def describe : EntityKind → String
  | .object .. => "object"
  | .parameter .. => "parameter"
  | .function info =>
    match info.form with
    | .plain => "function"
    | .constructor => "constructor"
    | .destructor => "destructor"
    | .operator => "operator"
    | .conversion => "conversion operator"
  | .classDecl .unionKey _ => "union"
  | .classDecl _ _ => "class"
  | .enumDecl => "enum"
  | .enumerator .. => "enumerator"
  | .namespaceDecl => "namespace"
  | .namespaceAlias _ => "namespace alias"
  | .alias _ => "typedef"
  | .templateParameter _ => "template parameter"
  | .label => "label"
  | .unspecified => "entity"

/-- The declared type of a kind that has one. -/
def type? : EntityKind → Option DeclType
  | .object type _ => some type
  | .parameter type _ _ => some type
  | .function info => some info.type
  | .templateParameter (.value type) => some type
  | .alias (.type type) => some type
  | _ => none

/-- What is known of a function; none for the other kinds. -/
def function? : EntityKind → Option FunctionInfo
  | .function info => some info
  | _ => none

/-- Whether an entity of this kind gets a body as soon as it is declared. -/
def opensRegion : EntityKind → Bool
  | .classDecl .. => true
  | .namespaceDecl => true
  | _ => false

/-- The entity that a using-declaration or a namespace alias stands for. -/
def aliasedEntity? : EntityKind → Option EntityId
  | .namespaceAlias target => some target
  | .alias (.entity target) => some target
  | _ => none

/-- The entity behind a typedef or a using-declaration: the one it stands for, or the one that its
type names. -/
def typedefEntity? : EntityKind → Option EntityId
  | .alias (.entity target) => some target
  | .alias (.type type) => type.namedEntity?
  | _ => none

end EntityKind

/-- A declared thing that a table lists. -/
structure Entity where
  /-- The name. -/
  name : Name
  /-- The table that lists the entity. -/
  owner : TableId
  /-- What the entity is. -/
  kind : EntityKind
  /-- The declared access. -/
  access : Access := .publicAccess
  /-- Where the entity is declared. -/
  location : Location := {}
  /-- The table of the body: of a class or namespace, or of a function that was opened. -/
  body : Option TableId := none
deriving Inhabited

/-- A declaration that no table lists yet. -/
structure Draft where
  /-- The name. -/
  name : Name
  /-- What is declared. -/
  kind : EntityKind
  /-- The declared access. -/
  access : Access := .publicAccess
  /-- Where it is declared. -/
  location : Location := {}
deriving Inhabited

/-- The entity that a draft becomes in a table, before it has a body. -/
def Draft.toEntity (draft : Draft) (owner : TableId) : Entity where
  name := draft.name
  owner := owner
  kind := draft.kind
  access := draft.access
  location := draft.location

end ScopeResolution

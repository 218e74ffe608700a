import ScopeResolution.Declaration.Entity

/-! # Roles

A role says how an entity is seen through a lookup. It follows from the kind of the entity and from
whether a class lists it; no entity stores it. -/

namespace ScopeResolution

/-- How an entity is seen. -/
inductive Role where
  /-- A variable outside a class. -/
  | object
  /-- A variable that a class lists. -/
  | dataMember
  /-- A function parameter. -/
  | parameter
  /-- A free function. -/
  | function
  /-- A member function. -/
  | method
  /-- A constructor. -/
  | constructor
  /-- A destructor. -/
  | destructor
  /-- A free operator. -/
  | operator
  /-- A member operator. -/
  | memberOperator
  /-- A conversion operator. -/
  | conversionOperator
  /-- A function template. -/
  | functionTemplate
  /-- An explicit specialization of a function template. -/
  | functionSpecialization
  /-- A class or struct. -/
  | classRole
  /-- A union. -/
  | union
  /-- An enumeration. -/
  | enum
  /-- A class template. -/
  | classTemplate
  /-- A template parameter that stands for a type. -/
  | typeParameter
  /-- A template parameter that stands for a value. -/
  | valueParameter
  /-- A template parameter that stands for a template. -/
  | templateParameter
  /-- A namespace. -/
  | namespaceRole
  /-- A namespace alias that was not followed. -/
  | namespaceAlias
  /-- An enumerator outside a class. -/
  | enumerator
  /-- An enumerator that a class lists. -/
  | memberEnumerator
  /-- A typedef. -/
  | typedef
  /-- A statement label. -/
  | label
  /-- An entity that is not classified. -/
  | unknown
deriving DecidableEq, Repr, Inhabited

namespace Role

/-- The words for a role in messages. -/
def text : Role → String
  | .object => "object"
  | .dataMember => "data member"
  | .parameter => "parameter"
  | .function => "function"
  | .method => "method"
  | .constructor => "constructor"
  | .destructor => "destructor"
  | .operator => "operator"
  | .memberOperator => "member operator"
  | .conversionOperator => "conversion operator"
  | .functionTemplate => "function template"
  | .functionSpecialization => "function template specialization"
  | .classRole => "class"
  | .union => "union"
  | .enum => "enum"
  | .classTemplate => "class template"
  | .typeParameter => "template type parameter"
  | .valueParameter => "template value parameter"
  | .templateParameter => "template template parameter"
  | .namespaceRole => "namespace"
  | .namespaceAlias => "namespace alias"
  | .enumerator => "enumerator"
  | .memberEnumerator => "member enumerator"
  | .typedef => "typedef"
  | .label => "label"
  | .unknown => "unknown"

/-- All roles. -/
def all : List Role :=
  [.object, .dataMember, .parameter, .function, .method, .constructor, .destructor, .operator,
    .memberOperator, .conversionOperator, .functionTemplate, .functionSpecialization, .classRole,
    .union, .enum, .classTemplate, .typeParameter, .valueParameter, .templateParameter,
    .namespaceRole, .namespaceAlias, .enumerator, .memberEnumerator, .typedef, .label, .unknown]

theorem mem_all (role : Role) : role ∈ all := by cases role <;> decide

/-- Whether a role is that of a class, a union or a class template. -/
def isClass : Role → Bool
  | .classRole | .union | .classTemplate => true
  | _ => false

/-- Whether a role is that of a type which may share its name with a value. -/
def isType (role : Role) : Bool := role.isClass || role == .enum

/-- Whether a role is that of a function of any form. -/
def isFunctionLike : Role → Bool
  | .function | .method | .constructor | .destructor | .operator | .memberOperator
  | .conversionOperator | .functionTemplate | .functionSpecialization => true
  | _ => false

/-- Whether a role is that of a function that may be declared outside a class. -/
def isFreeFunction : Role → Bool
  | .function | .operator | .functionTemplate | .functionSpecialization => true
  | _ => false

/-- Whether a role is that of a value which may share its name with a type. -/
def isValue (role : Role) : Bool :=
  role.isFunctionLike
    || role matches .object | .dataMember | .enumerator | .memberEnumerator | .valueParameter

/-- Whether a hit in the first role answers a query for the second. Members of a class answer a
query for the same thing outside a class. -/
def answers (role query : Role) : Bool :=
  role == query
    || (role == .dataMember && query == .object)
    || (role == .memberEnumerator && query == .enumerator)

end Role

/-- The role of a function, where `member` says whether a class lists it. The relation to templates
decides before the form does. -/
def FunctionInfo.role (info : FunctionInfo) (member : Bool) : Role :=
  match info.template, info.form with
  | .template, _ => .functionTemplate
  | .specialization, _ => .functionSpecialization
  | .ordinary, .constructor => .constructor
  | .ordinary, .destructor => .destructor
  | .ordinary, .conversion => .conversionOperator
  | .ordinary, .operator => if member then .memberOperator else .operator
  | .ordinary, .plain => if member then .method else .function

/-- The role of an entity of a kind, where `member` says whether a class lists it. -/
def EntityKind.role (kind : EntityKind) (member : Bool) : Role :=
  match kind with
  | .object .. => if member then .dataMember else .object
  | .parameter .. => .parameter
  | .function info => info.role member
  | .classDecl _ true => .classTemplate
  | .classDecl .unionKey false => .union
  | .classDecl _ false => .classRole
  | .enumDecl => .enum
  | .enumerator .. => if member then .memberEnumerator else .enumerator
  | .namespaceDecl => .namespaceRole
  | .namespaceAlias _ => .namespaceAlias
  | .alias _ => .typedef
  | .templateParameter .type => .typeParameter
  | .templateParameter (.value _) => .valueParameter
  | .templateParameter .template => .templateParameter
  | .label => .label
  | .unspecified => .unknown

end ScopeResolution

import ScopeResolution.Table.OverloadSets

/-! # Symbol tables

A symbol table is one declarative region: the global region, the body of a namespace, class or
function, or a block. This module holds the shapes of tables and what can be read off them. -/

namespace ScopeResolution

/-- The kinds of tables. -/
inductive TableKind where
  /-- The global region. -/
  | globalTable
  /-- The body of a namespace. -/
  | namespaceTable
  /-- The body of a class. -/
  | classTable
  /-- The body of a function: its parameters and its outermost block. -/
  | functionTable
  /-- A block or a catch handler inside a function. -/
  | blockTable
deriving DecidableEq, Repr, Inhabited

namespace TableKind

/-- The word for a kind in messages. -/
def text : TableKind → String
  | .globalTable => "global"
  | .namespaceTable => "namespace"
  | .classTable => "class"
  | .functionTable => "function"
  | .blockTable => "block"

/-- Whether tables of this kind belong to a function. -/
def isLocal : TableKind → Bool
  | .functionTable | .blockTable => true
  | _ => false

/-- Whether tables of this kind may hold namespaces. -/
def holdsNamespaces : TableKind → Bool
  | .globalTable | .namespaceTable => true
  | _ => false

end TableKind

/-- One base class of a class. -/
structure Base where
  /-- The base class. -/
  entity : EntityId
  /-- The access that the derivation grants. -/
  access : Access := .publicAccess
  /-- Whether the derivation is virtual. -/
  isVirtual : Bool := false
deriving DecidableEq, Repr, Inhabited

/-- What a class table holds beside its members. Constructors are listed here only, because inside
a class its name denotes the class; the destructor and the conversion operators are members too. -/
structure ClassBody where
  /-- The direct bases, in order. -/
  bases : List Base := []
  /-- The constructors, in order. -/
  constructors : List EntityId := []
  /-- The destructor, if one is declared. -/
  destructor : Option EntityId := none
  /-- The conversion operators, in order. -/
  conversions : List EntityId := []
  /-- Whether the class is complete, so that nothing may change. -/
  isSealed : Bool := false
deriving DecidableEq, Repr, Inhabited

/-- What a function table holds beside the members of its outermost block. -/
structure FunctionBody where
  /-- The parameters, in order. -/
  params : List (Name × EntityId) := []
  /-- The labels, in the order in which their names were first used. -/
  labels : List (Name × EntityId) := []
deriving DecidableEq, Repr, Inhabited

/-- What opens a block. -/
inductive BlockOpener where
  /-- A compound statement. -/
  | block
  /-- A catch handler. -/
  | handler
deriving DecidableEq, Repr, Inhabited

/-- The shapes of tables. -/
inductive TableForm where
  /-- The global region, which is nested in nothing. -/
  | globalRegion
  /-- The body of a namespace. -/
  | namespaceBody (owner : EntityId) (parent : TableId)
  /-- The body of a class. -/
  | classBody (owner : EntityId) (parent : TableId) (body : ClassBody)
  /-- The body of a function. -/
  | functionBody (owner : EntityId) (parent : TableId) (body : FunctionBody)
  /-- A block. -/
  | block (opener : BlockOpener) (parent : TableId)
deriving DecidableEq, Repr, Inhabited

/-- A declarative region. -/
structure Table where
  /-- The shape. -/
  form : TableForm
  /-- The members: what ordinary lookup finds. -/
  members : OverloadSets := {}
  /-- The tables that lookup consults after this one, in the order of their using directives. -/
  peers : List TableId := []
deriving DecidableEq, Repr, Inhabited

namespace Table

/-- The kind of a table. -/
def kind (table : Table) : TableKind :=
  match table.form with
  | .globalRegion => .globalTable
  | .namespaceBody .. => .namespaceTable
  | .classBody .. => .classTable
  | .functionBody .. => .functionTable
  | .block .. => .blockTable

/-- The table in which a table is nested. -/
def parent? (table : Table) : Option TableId :=
  match table.form with
  | .globalRegion => none
  | .namespaceBody _ parent => some parent
  | .classBody _ parent _ => some parent
  | .functionBody _ parent _ => some parent
  | .block _ parent => some parent

/-- The entity whose body a table is. -/
def owner? (table : Table) : Option EntityId :=
  match table.form with
  | .namespaceBody owner _ => some owner
  | .classBody owner _ _ => some owner
  | .functionBody owner _ _ => some owner
  | _ => none

/-- What a class table holds beside its members. -/
def class? (table : Table) : Option ClassBody :=
  match table.form with
  | .classBody _ _ body => some body
  | _ => none

/-- What a function table holds beside its members. -/
def function? (table : Table) : Option FunctionBody :=
  match table.form with
  | .functionBody _ _ body => some body
  | _ => none

/-- The own entries under a name. In a function, its locals hide its parameters. -/
def entries (table : Table) (name : Name) : List EntityId :=
  match table.members.get name, table.function? with
  | [], some body => (body.params.filter (·.1 == name)).map (·.2)
  | members, _ => members

/-- The names with entries of their own, in declaration order; in a function, the parameters come
after the locals. -/
def names (table : Table) : List Name :=
  let members := table.members.names
  match table.function? with
  | some body =>
    body.params.foldl (fun names param => if param.1 ∈ names then names else names ++ [param.1])
      members
  | none => members

/-- The constructors of a class table; none for other tables. -/
def constructors (table : Table) : List EntityId := (table.class?.map (·.constructors)).getD []

/-- All entities that a table lists, each once. -/
def owned (table : Table) : List EntityId :=
  let members := table.members.entities
  match table.form with
  | .classBody _ _ body => members ++ body.constructors
  | .functionBody _ _ body => body.params.map (·.2) ++ members ++ body.labels.map (·.2)
  | _ => members

/-- The label of a function table under a name. -/
def label? (table : Table) (name : Name) : Option EntityId :=
  table.function?.bind fun body => body.labels.lookup name

end Table

end ScopeResolution

import ScopeResolution.Proofs.Resolver.Operation

/-! # The handles that operations are given

Which entities and tables an operation is given handles to, those that its draft mentions in its
types included, and what it means that none of these handles is stale (`Operation.IsLive`). -/

namespace ScopeResolution

/-- The entity that a base type names. -/
def BaseCode.entities : BaseCode → List EntityId
  | .named entity => [entity]
  | _ => []

mutual

/-- The entities that a type mentions. -/
def DeclType.entities (type : DeclType) : List EntityId :=
  match type with
  | ⟨base, _, derived⟩ => base.code.entities ++ Derived.entitiesOfAll derived
termination_by structural type

/-- The entities that nodes mention. -/
def Derived.entitiesOfAll (nodes : List Derived) : List EntityId :=
  match nodes with
  | [] => []
  | node :: rest => Derived.entities node ++ Derived.entitiesOfAll rest
termination_by structural nodes

/-- The entities that a node mentions. -/
def Derived.entities (node : Derived) : List EntityId :=
  match node with
  | .memberPointer owner _ => [owner]
  | .function signature => Signature.entities signature
  | _ => []
termination_by structural node

/-- The entities that a signature mentions. -/
def Signature.entities (signature : Signature) : List EntityId :=
  match signature with
  | ⟨params, _, throws, _, _⟩ => DeclType.entitiesOfAll params ++ DeclType.entitiesOfThrows throws
termination_by structural signature

/-- The entities that an exception specification mentions. -/
def DeclType.entitiesOfThrows (throws : Option (List DeclType)) : List EntityId :=
  match throws with
  | none => []
  | some types => DeclType.entitiesOfAll types
termination_by structural throws

/-- The entities that types mention. -/
def DeclType.entitiesOfAll (types : List DeclType) : List EntityId :=
  match types with
  | [] => []
  | type :: rest => DeclType.entities type ++ DeclType.entitiesOfAll rest
termination_by structural types

end

/-- The entities that a kind mentions: those of its type, the enumeration of an enumerator, and what
an alias stands for. -/
def EntityKind.entities (kind : EntityKind) : List EntityId :=
  match kind with
  | .enumerator _ enumeration => enumeration.toList
  | _ => kind.aliasedEntity?.toList ++ (kind.type?.map DeclType.entities).getD []

/-- The entity whose body a construct opens. -/
def Construct.entities : Construct → List EntityId
  | .namespaceBody entity | .classBody entity | .functionBody entity => [entity]
  | .block _ => []

namespace Resolver

namespace Operation

/-- The entities that an operation is given handles to. -/
def entities : Operation → List EntityId
  | .openScope construct => construct.entities
  | .pushChain qualifiers => qualifiers
  | .declare draft | .declareIn _ draft | .insert draft | .insertInto _ draft =>
    draft.kind.entities
  | .addUsing used => [used]
  | .addBase derived base => [derived, base.entity]
  | .sealClass id => [id]
  | .effectiveAccess member through => [member, through]
  | .checkRedeclaration draft prior _ => draft.kind.entities ++ prior.entities
  | .unique _ _ hits | .typeName _ hits => hits.entities
  | _ => []

/-- The tables that an operation is given handles to. -/
def tables : Operation → List TableId
  | .closeScopeChecked expected => [expected]
  | .declareIn target _ | .insertInto target _ => [target]
  | .resolve _ start _ | .resolveQualified _ start => start.toList
  | _ => []

/-- No handle that the operation is given is stale. -/
def IsLive (resolver : Resolver) (operation : Operation) : Prop :=
  (∀ id ∈ operation.entities, resolver.store.entities.contains id = true) ∧
    ∀ id ∈ operation.tables, resolver.store.tables.contains id = true

instance (resolver : Resolver) (operation : Operation) : Decidable (operation.IsLive resolver) :=
  inferInstanceAs (Decidable (_ ∧ _))

end Operation

end Resolver

end ScopeResolution

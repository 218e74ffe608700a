import ScopeResolution.Declaration.TypeEquality
import ScopeResolution.Report.Problem
import ScopeResolution.SymbolStore.Basic

/-! # Redeclarations

A draft is judged against the entities that are declared under its name already: it may be new, it
may declare one of them again, or it may conflict with one of them, which is a problem to report. -/

namespace ScopeResolution

/-- The verdict on a draft. -/
inductive Verdict where
  /-- The draft declares something new. -/
  | accepted
  /-- The draft declares this entity again. -/
  | matched (entity : EntityId)
  /-- The draft conflicts with this entity. -/
  | conflict (entity : EntityId)
deriving DecidableEq, Repr, Inhabited

/-- Whether an entity of one role and a draft of another may stand beside each other or be the same
declaration. Types share names with values, and functions of all forms share one overload set. -/
def Role.compatible (prior new : Role) : Bool :=
  prior == new
    || (prior.isType && new.isValue)
    || (new.isType && prior.isValue)
    || (prior.isFunctionLike && new.isFunctionLike)

/-- Whether an object may be declared again with another storage class: an external one may be
defined, and so may a static data member. -/
def Storage.compatible (prior new : Storage) (role : Role) : Bool :=
  prior == new
    || (prior == .external && new == .unwritten)
    || (role == .dataMember && prior == .static && new == .unwritten)

/-- Whether two alias targets are the same. An entity is the same as the type that names it. -/
def AliasTarget.same (first second : AliasTarget) : Bool :=
  match first, second with
  | .entity target, .entity target' => target == target'
  | .type declared, .type declared' => DeclType.same .declaration declared declared'
  | .entity target, .type declared => declared.namedEntity? == some target
  | .type declared, .entity target => declared.namedEntity? == some target

/-- Whether two kinds are aliases of the same target. -/
def EntityKind.sameAlias (prior new : EntityKind) : Bool :=
  match prior, new with
  | .namespaceAlias target, .namespaceAlias target' => target == target'
  | .alias target, .alias target' => target'.same target
  | _, _ => false

/-- Whether two kinds are objects that may be the same declaration. -/
def EntityKind.sameObject (role : Role) (prior new : EntityKind) : Bool :=
  match prior, new with
  | .object type storage, .object type' storage' =>
    DeclType.same .declaration type type' && storage.compatible storage' role
  | _, _ => false

/-- The type of a function with its signature. -/
def EntityKind.callable? : EntityKind → Option (DeclType × Signature)
  | .function info => info.type.signature?.map fun signature => (info.type, signature)
  | _ => none

/-- Whether two signatures stand for the same overload: parameters and qualifiers agree. -/
def Signature.sameOverload (prior new : Signature) : Bool :=
  prior.sameParameters new && prior.qualifiers == new.qualifiers

/-- The type of a function that stands for the same overload as a signature. -/
def EntityKind.overloadType? (kind : EntityKind) (signature : Signature) : Option DeclType :=
  match kind.callable? with
  | some (type, prior) => if prior.sameOverload signature then some type else none
  | none => none

namespace SymbolStore

/-- The first of some entities whose kind a test accepts, with what the test makes of it. -/
def firstOfKind {α : Type} (store : SymbolStore) (test : EntityKind → Option α) :
    List EntityId → Except Failure (Option (EntityId × α))
  | [] => .ok none
  | id :: rest => do
    let entity ← store.entity id
    match test entity.kind with
    | some result => pure (some (id, result))
    | none => store.firstOfKind test rest

/-- The verdict that a draft conflicts with an entity of its own role. -/
def conflictWith (store : SymbolStore) (draft : Draft) (prior : EntityId) :
    Except Failure (Judgement Verdict) := do
  let name ← store.qualifiedName prior
  let entity ← store.entity prior
  pure
    { answer := .conflict prior
      problem :=
        some (.redeclaration (store.nameText draft.name) draft.location name entity.location) }

/-- The verdict that a draft of a role conflicts with an entity of another role. -/
def conflictOfKind (store : SymbolStore) (draft : Draft) (prior : Hit) (role : Role) :
    Except Failure (Judgement Verdict) := do
  let name ← store.qualifiedName prior.entity
  pure
    { answer := .conflict prior.entity
      problem :=
        some (.conflictingKind (store.nameText draft.name) draft.location role name prior.role) }

/-- Judges an object: it declares the first prior one again that it may be the same as. -/
def judgeObject (store : SymbolStore) (draft : Draft) (role : Role) (first : EntityId)
    (rest : List EntityId) : Except Failure (Judgement Verdict) := do
  match draft.kind with
  | .object .. =>
    let test (prior : EntityKind) : Option Unit :=
      if prior.sameObject role draft.kind then some () else none
    match ← store.firstOfKind test (first :: rest) with
    | some (prior, ()) => pure { answer := .matched prior }
    | none => store.conflictWith draft first
  | _ => store.conflictWith draft first

/-- Judges a function: against a prior one with the same parameters if there is one; otherwise it is
a new overload, which a function or block may not hold. -/
def judgeFunction (store : SymbolStore) (draft : Draft) (target : TableId) (role : Role)
    (first : EntityId) (rest : List EntityId) : Except Failure (Judgement Verdict) := do
  match draft.kind.callable? with
  | none => throw (.malformedEntity (store.nameText draft.name) .noSignature)
  | some (new, signature) =>
    match ← store.firstOfKind (·.overloadType? signature) (first :: rest) with
    | some (prior, type) =>
      if DeclType.same .declaration type new then pure { answer := .matched prior }
      else store.conflictWith draft prior
    | none =>
      if role.isFreeFunction then
        let table ← store.table target
        if table.kind.isLocal then
          pure
            { answer := .conflict first
              problem := some (.localOverload (store.nameText draft.name) draft.location) }
        else pure { answer := .accepted }
      else pure { answer := .accepted }

/-- Judges an alias: it declares the first prior one again if it stands for the same. -/
def judgeAlias (store : SymbolStore) (draft : Draft) (first : EntityId) :
    Except Failure (Judgement Verdict) := do
  let prior ← store.entity first
  if prior.kind.sameAlias draft.kind then pure { answer := .matched first }
  else store.conflictWith draft first

/-- Judges a draft against the entities of its own role. -/
def judgeSameRole (store : SymbolStore) (draft : Draft) (target : TableId) (role : Role)
    (first : EntityId) (rest : List EntityId) : Except Failure (Judgement Verdict) :=
  if role.isFunctionLike then store.judgeFunction draft target role first rest
  else if role.isType || role == .namespaceRole then .ok { answer := .matched first }
  else
    match role with
    | .object | .dataMember => store.judgeObject draft role first rest
    | .typedef | .namespaceAlias => store.judgeAlias draft first
    | _ => store.conflictWith draft first

/-- Judges a draft of a role, meant for a table, against what is declared under its name. -/
def judge (store : SymbolStore) (draft : Draft) (target : TableId) (prior : Hits) (role : Role) :
    Except Failure (Judgement Verdict) :=
  match prior.toList.find? fun hit => !hit.role.compatible role with
  | some hit => store.conflictOfKind draft hit role
  | none =>
    match (prior.toList.filter (·.role == role)).map (·.entity) with
    | [] => .ok { answer := .accepted }
    | first :: rest => store.judgeSameRole draft target role first rest

end SymbolStore

end ScopeResolution

import ScopeResolution.Declaration.Redeclaration
import ScopeResolution.Resolver.Basic

/-! # Declaring

How a resolver declares a draft: it looks up what is declared under the name, judges the draft
against that, and files it if it is new. -/

namespace ScopeResolution

/-- What became of a draft. -/
inductive Declared where
  /-- It was filed. -/
  | new (filed : Filed)
  /-- It declares this entity again. -/
  | redeclared (entity : EntityId)
  /-- It conflicts with this entity, which was reported. -/
  | rejected (entity : EntityId)
deriving DecidableEq, Repr, Inhabited

namespace Declared

/-- The entity that the draft stands for from now on. -/
def entity : Declared → EntityId
  | .new filed => filed.entity
  | .redeclared entity => entity
  | .rejected entity => entity

/-- Whether a new entity was filed. -/
def isNew : Declared → Bool
  | .new _ => true
  | _ => false

end Declared

/-- What a draft that is not new becomes, by the verdict on it. -/
def Verdict.declared? : Verdict → Option Declared
  | .accepted => none
  | .matched entity => some (.redeclared entity)
  | .conflict entity => some (.rejected entity)

namespace SymbolStore

/-- The label of a function table as a hit. -/
def labelHits (store : SymbolStore) (target : TableId) (name : Name) : Except Failure Hits := do
  match ← store.findLabel target name with
  | some label => pure (.ofList [⟨label, .label⟩])
  | none => pure .empty

/-- What is declared in a table under the name of a draft. Constructors are declared beside other
constructors only, labels beside other labels. -/
def priorDeclarations (store : SymbolStore) (target : TableId) (draft : Draft) :
    Except Failure Hits :=
  match draft.kind.slot with
  | .constructor => store.constructors target
  | .label => store.labelHits target draft.name
  | _ => store.findInScope target draft.name

end SymbolStore

namespace Resolver

/-- The table that a draft is meant for: the function around it for a label, else the innermost
one. -/
def targetFor (resolver : Resolver) (draft : Draft) : Except Failure TableId :=
  match draft.kind with
  | .label => resolver.scopes.nearestFunction resolver.store
  | _ => .ok resolver.scopes.current

/-- Files a draft in a table without judging it. -/
def insertInto (resolver : Resolver) (target : TableId) (draft : Draft) :
    Except Failure Filed × Resolver :=
  let (filed, store) := resolver.store.addEntity target draft
  (filed, { resolver with store })

/-- Files a draft in the table that it is meant for, without judging it. -/
def insert (resolver : Resolver) (draft : Draft) : Except Failure Filed × Resolver :=
  match resolver.targetFor draft with
  | .error failure => (.error failure, resolver)
  | .ok target => resolver.insertInto target draft

/-- Judges a draft, and reports what is wrong with it. -/
def judgeIn (resolver : Resolver) (target : TableId) (draft : Draft) (prior : Hits) (role : Role) :
    Except Failure Verdict × Resolver :=
  resolver.settle (resolver.store.judge draft target prior role)

/-- Judges a draft as if it was filed in the table that it is meant for. -/
def checkRedeclaration (resolver : Resolver) (draft : Draft) (prior : Hits) (role : Role) :
    Except Failure Verdict × Resolver :=
  match resolver.targetFor draft with
  | .error failure => (.error failure, resolver)
  | .ok target => resolver.judgeIn target draft prior role

/-- Files a draft that was judged, if it is new. -/
def fileJudged (resolver : Resolver) (target : TableId) (draft : Draft) (verdict : Verdict) :
    Except Failure Declared × Resolver :=
  match verdict.declared? with
  | some declared => (.ok declared, resolver)
  | none =>
    match resolver.insertInto target draft with
    | (.error failure, resolver) => (.error failure, resolver)
    | (.ok filed, resolver) => (.ok (.new filed), resolver)

/-- What a draft is judged against in a table, and its role there. -/
def priorAndRole (resolver : Resolver) (target : TableId) (draft : Draft) :
    Except Failure (Hits × Role) := do
  let prior ← resolver.store.priorDeclarations target draft
  let role ← resolver.store.roleForDraft draft target
  pure (prior, role)

/-- Declares a draft in a table. -/
def declareIn (resolver : Resolver) (target : TableId) (draft : Draft) :
    Except Failure Declared × Resolver :=
  match resolver.priorAndRole target draft with
  | .error failure => (.error failure, resolver)
  | .ok (prior, role) =>
    match resolver.judgeIn target draft prior role with
    | (.error failure, resolver) => (.error failure, resolver)
    | (.ok verdict, resolver) => resolver.fileJudged target draft verdict

/-- Declares a draft in the table that it is meant for. -/
def declare (resolver : Resolver) (draft : Draft) : Except Failure Declared × Resolver :=
  match resolver.targetFor draft with
  | .error failure => (.error failure, resolver)
  | .ok target => resolver.declareIn target draft

/-- The table that a using directive at this point belongs to: the function around a block, else the
innermost table. -/
def usingTarget (resolver : Resolver) : Except Failure TableId := do
  let current := resolver.scopes.current
  let table ← resolver.store.table current
  if table.kind = .blockTable then resolver.scopes.nearestFunction resolver.store
  else pure current

/-- Makes the members of a class or namespace visible from here. -/
def addUsing (resolver : Resolver) (used : EntityId) : Except Failure Unit × Resolver :=
  let sides : Except Failure (TableId × TableId) := do
    let peer ← resolver.store.bodyOrDefect .notUsable used
    let target ← resolver.usingTarget
    pure (target, peer)
  match sides with
  | .error failure => (.error failure, resolver)
  | .ok (target, peer) =>
    let (answer, store) := resolver.store.addPeer target peer
    (answer, { resolver with store })

/-- Adds a direct base to the class that an entity stands for. -/
def addBase (resolver : Resolver) (derived : EntityId) (base : Base) : Except Failure Resolver := do
  let role ← resolver.store.roleOf base.entity
  if role.isClass then
    let body ← resolver.store.bodyOfKind derived .classTable
    let store ← resolver.store.addBase body base
    pure { resolver with store }
  else
    let name ← resolver.store.qualifiedName base.entity
    throw (.malformedEntity name .notBase)

/-- Marks a class complete. -/
def sealClass (resolver : Resolver) (id : EntityId) : Except Failure Resolver := do
  let body ← resolver.store.bodyOfKind id .classTable
  let store ← resolver.store.complete body
  pure { resolver with store }

end Resolver

end ScopeResolution

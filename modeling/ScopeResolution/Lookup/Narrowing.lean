import ScopeResolution.Report.Problem
import ScopeResolution.SymbolStore.Basic

/-! # Narrowing hits

Narrowing asks whether hits stand for one thing of a kind. Where several entities do, the first one
is the answer, and the judgement carries an ambiguity to report. -/

namespace ScopeResolution

/-- Whether a class or an enumeration may share its name with other hits. -/
inductive Sharing where
  /-- Every hit must be of the wanted kind. -/
  | exclusive
  /-- Hits of other kinds do not count. -/
  | overloaded
deriving DecidableEq, Repr, Inhabited

/-- Where a name is written: the name, and its place in the source text. -/
structure Mention where
  /-- The name. -/
  name : Name
  /-- Its place. -/
  location : Location := {}
deriving DecidableEq, Repr, Inhabited

namespace SymbolStore

/-- The distinct qualified names of candidates, in order. -/
def candidateNames (store : SymbolStore) (candidates : List Hit) : Except Failure (List String) :=
  candidates.foldlM (fun names hit => do
    let name ← store.qualifiedName hit.entity
    pure (if name ∈ names then names else names ++ [name])) []

/-- The entity of the first candidate; an ambiguity if another candidate has another entity. -/
def pick (store : SymbolStore) (mention : Mention) (candidates : List Hit) :
    Except Failure (Judgement (Option EntityId)) :=
  match candidates with
  | [] => .ok { answer := none }
  | first :: rest =>
    if rest.all (·.entity == first.entity) then .ok { answer := some first.entity }
    else do
      let names ← store.candidateNames candidates
      pure
        { answer := some first.entity
          problem := some (.ambiguous (store.nameText mention.name) mention.location names) }

/-- The one entity that answers a query for a role. -/
def unique (store : SymbolStore) (mention : Mention) (query : Role) (hits : Hits) :
    Except Failure (Judgement (Option EntityId)) :=
  store.pick mention (hits.answering query)

/-- The one entity among hits of a kind. -/
def ofKind (store : SymbolStore) (mention : Mention) (accepts : Role → Bool) (sharing : Sharing)
    (hits : Hits) : Except Failure (Judgement (Option EntityId)) :=
  if sharing = .exclusive && hits.toList.any (fun hit => !accepts hit.role) then
    .ok { answer := none }
  else store.pick mention (hits.toList.filter fun hit => accepts hit.role)

/-- The one namespace among hits. -/
def namespaceOf (store : SymbolStore) (mention : Mention) (hits : Hits) :
    Except Failure (Judgement (Option EntityId)) :=
  store.unique mention .namespaceRole hits

/-- The one class template among hits. -/
def classTemplateOf (store : SymbolStore) (mention : Mention) (hits : Hits) :
    Except Failure (Judgement (Option EntityId)) :=
  store.unique mention .classTemplate hits

/-- The one class, union or class template among hits. -/
def classOf (store : SymbolStore) (mention : Mention) (sharing : Sharing) (hits : Hits) :
    Except Failure (Judgement (Option EntityId)) :=
  store.ofKind mention Role.isClass sharing hits

/-- The one enumeration among hits. -/
def enumerationOf (store : SymbolStore) (mention : Mention) (sharing : Sharing) (hits : Hits) :
    Except Failure (Judgement (Option EntityId)) :=
  store.ofKind mention (· == .enum) sharing hits

/-- The readings of hits as the name of a type; the first one that has any hit counts. -/
def typeReadings : List (Role → Bool) :=
  [(· == .typeParameter), (· == .typedef), Role.isClass, (· == .enum)]

/-- The hits of the first reading that has any. -/
def typeCandidates (hits : Hits) : List (Role → Bool) → List Hit
  | [] => []
  | accepts :: rest =>
    match hits.toList.filter fun hit => accepts hit.role with
    | [] => typeCandidates hits rest
    | candidates => candidates

/-- The hit that hits stand for as the name of a type. -/
def typeNameOf (store : SymbolStore) (mention : Mention) (hits : Hits) :
    Except Failure (Judgement (Option Hit)) := do
  let candidates := typeCandidates hits typeReadings
  let picked ← store.pick mention candidates
  pure { answer := candidates.head?, problem := picked.problem }

/-- The class that a typedef stands for, if it stands for one. -/
def typedefClass? (store : SymbolStore) (typedef : EntityId) : Except Failure (Option EntityId) := do
  let entity ← store.entity typedef
  match entity.kind.typedefEntity? with
  | none => pure none
  | some target => do
    let role ← store.roleOf target
    pure (if role.isClass then some target else none)

/-- Adds a hit to the candidates for a qualifier: classes and namespaces count, and a typedef of a
class counts as that class. -/
def addScope (store : SymbolStore) (candidates : Hits) (hit : Hit) : Except Failure Hits :=
  if hit.role.isClass || hit.role == .namespaceRole then .ok (candidates.add hit)
  else if hit.role == .typedef then do
    match ← store.typedefClass? hit.entity with
    | none => pure candidates
    | some target => do
      let role ← store.roleOf target
      pure (candidates.add ⟨target, role⟩)
  else .ok candidates

/-- The class or namespace that hits stand for as a qualifier. -/
def scopeOf (store : SymbolStore) (mention : Mention) (hits : Hits) :
    Except Failure (Judgement (Option EntityId)) := do
  let candidates ← hits.toList.foldlM store.addScope .empty
  store.pick mention candidates.toList

end SymbolStore

end ScopeResolution

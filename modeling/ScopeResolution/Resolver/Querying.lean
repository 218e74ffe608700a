import ScopeResolution.Lookup.Qualified
import ScopeResolution.Report.Suggestion
import ScopeResolution.Resolver.Basic
import ScopeResolution.SymbolStore.Listing

/-! # Querying

What a resolver answers about names: what they stand for, which of several hits is meant, how a name
that stands for nothing may have been meant, and how a member can be reached. -/

namespace ScopeResolution.Resolver

/-- Looks a name up, in the table `start` if there is one, else in the open tables. -/
def resolve (resolver : Resolver) (name : Name) (start : Option TableId) (reach : Reach) :
    Except Failure Lookup :=
  resolver.store.resolve resolver.scopes resolver.nesting reach start name

/-- Looks a chain of names up, and reports what is wrong with its qualifiers. -/
def resolveQualified (resolver : Resolver) (name : QualifiedName) (start : Option TableId) :
    Except Failure QualifiedLookup × Resolver :=
  let (answer, log) :=
    resolver.store.resolveQualified resolver.scopes resolver.settings.maxDepth start name
      resolver.log
  (answer, { resolver with log })

/-- The label of the function around this point under a name. -/
def findLabel (resolver : Resolver) (name : Name) : Except Failure (Option EntityId) := do
  let table ← resolver.scopes.nearestFunction resolver.store
  resolver.store.findLabel table name

/-- The one entity among hits that answers a query for a role; an ambiguity is reported. -/
def unique (resolver : Resolver) (mention : Mention) (query : Role) (hits : Hits) :
    Except Failure (Option EntityId) × Resolver :=
  resolver.settle (resolver.store.unique mention query hits)

/-- The hit that hits stand for as the name of a type; an ambiguity is reported. -/
def typeName (resolver : Resolver) (mention : Mention) (hits : Hits) :
    Except Failure (Option Hit) × Resolver :=
  resolver.settle (resolver.store.typeNameOf mention hits)

/-- The names that are visible in the open tables, innermost first. -/
def visibleNames (resolver : Resolver) : Except Failure (List Name) := do
  let names ← resolver.scopes.toList.mapM resolver.store.visibleNames
  pure names.flatten

/-- That a name stands for nothing, with what may have been meant. -/
def undefined (resolver : Resolver) (mention : Mention) : Except Failure (Judgement Unit) := do
  let visible ← resolver.visibleNames
  let suggestions := Suggestion.suggest resolver.store.names mention.name visible
  let name := resolver.store.nameText mention.name
  pure { answer := (), problem := some (.undefined name mention.location suggestions) }

/-- Reports that a name stands for nothing. -/
def reportUndefined (resolver : Resolver) (mention : Mention) : Except Failure Unit × Resolver :=
  resolver.settle (resolver.undefined mention)

/-- The access to a member that is named through an object of a class; none when the member belongs
neither to that class nor to a base of it. -/
def effectiveAccess (resolver : Resolver) (member through : EntityId) :
    Except Failure (Option Access) := do
  let entity ← resolver.store.entity member
  let owner ← resolver.store.table entity.owner
  match owner.form with
  | .classBody declaring _ _ => do
    let path ← resolver.store.basePath resolver.nesting through declaring
    pure (path.map entity.access.through)
  | _ => pure (some entity.access)

end ScopeResolution.Resolver

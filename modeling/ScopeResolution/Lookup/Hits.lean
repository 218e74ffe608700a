import ScopeResolution.Declaration.Role

/-! # Lookup hits

The hits of a lookup are entities with the roles that they were seen in. A list of hits is in lookup
order and holds each entity once, in the role that it was first seen in. -/

namespace ScopeResolution

/-- An entity found by a lookup. -/
structure Hit where
  /-- The entity. -/
  entity : EntityId
  /-- How it was seen. -/
  role : Role
deriving DecidableEq, Repr, Inhabited

/-- The hits of a lookup, in lookup order. -/
structure Hits where
  /-- The hits. -/
  toList : List Hit := []
deriving DecidableEq, Repr, Inhabited

namespace Hits

/-- No hits. -/
def empty : Hits := {}

/-- The entities found, in lookup order. -/
def entities (hits : Hits) : List EntityId := hits.toList.map (·.entity)

/-- Adds a hit at the end, unless its entity was found before. -/
def add (hits : Hits) (hit : Hit) : Hits :=
  if hit.entity ∈ hits.entities then hits else ⟨hits.toList ++ [hit]⟩

/-- Adds hits one after the other. -/
def extend (hits : Hits) (more : List Hit) : Hits := more.foldl add hits

/-- Collects hits, keeping the first of each entity. -/
def ofList (list : List Hit) : Hits := empty.extend list

/-- Whether nothing was found. -/
def isEmpty (hits : Hits) : Bool := hits.toList.isEmpty

/-- The number of entities found. -/
def size (hits : Hits) : Nat := hits.toList.length

/-- The first hit. -/
def first? (hits : Hits) : Option Hit := hits.toList.head?

/-- The hits that answer a query for a role. -/
def answering (hits : Hits) (query : Role) : List Hit :=
  hits.toList.filter (·.role.answers query)

/-- Whether there is exactly one entity, and it answers a query for a role. -/
def isUnique (hits : Hits) (query : Role) : Bool :=
  match hits.toList with
  | [] => false
  | first :: rest =>
    first.role.answers query
      && rest.all fun hit => hit.role.answers query && hit.entity == first.entity

/-- Whether several entities answer a query for a role. -/
def isAmbiguous (hits : Hits) (query : Role) : Bool :=
  match hits.answering query with
  | [] => false
  | first :: rest => rest.any fun hit => hit.entity != first.entity

@[simp] theorem extend_nil (hits : Hits) : hits.extend [] = hits := rfl

@[simp] theorem extend_cons (hits : Hits) (hit : Hit) (more : List Hit) :
    hits.extend (hit :: more) = (hits.add hit).extend more := rfl

/-- Adding a hit adds its entity and no other. -/
theorem mem_entities_add {hits : Hits} {hit : Hit} {entity : EntityId} :
    entity ∈ (hits.add hit).entities ↔ entity ∈ hits.entities ∨ entity = hit.entity := by
  unfold add
  split
  · rename_i present
    constructor
    · exact Or.inl
    · rintro (known | rfl)
      · exact known
      · exact present
  · simp [entities]

/-- Adding a hit keeps entities distinct. -/
theorem nodup_entities_add {hits : Hits} (distinct : hits.entities.Nodup) (hit : Hit) :
    (hits.add hit).entities.Nodup := by
  unfold add
  split
  · exact distinct
  · rename_i absent
    simp only [entities, List.map_append, List.map_cons, List.map_nil]
    refine List.nodup_append.2 ⟨distinct, by simp, ?_⟩
    rintro first firstMem second secondMem rfl
    simp only [List.mem_singleton] at secondMem
    exact absent (secondMem ▸ firstMem)

end Hits

end ScopeResolution

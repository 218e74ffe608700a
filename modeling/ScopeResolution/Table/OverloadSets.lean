import ScopeResolution.Declaration.Entity

/-! # Overload sets

The entities that share a name, for each name of a table: names in the order in which they were
first declared, and under each name the entities in the order in which they were declared. -/

namespace ScopeResolution

/-- Names with the entities declared under them. -/
structure OverloadSets where
  /-- The sets, in the order of their first declarations. -/
  sets : List (Name × List EntityId) := []
deriving DecidableEq, Repr, Inhabited

namespace OverloadSets

/-- Adds an entity at the end of the set of its name, which joins the end of the list if it is
new. -/
def insertInto (name : Name) (entity : EntityId) :
    List (Name × List EntityId) → List (Name × List EntityId)
  | [] => [(name, [entity])]
  | (other, entities) :: rest =>
    if other = name then (other, entities ++ [entity]) :: rest
    else (other, entities) :: insertInto name entity rest

/-- The overload sets with one more entity under a name. -/
def insert (overloads : OverloadSets) (name : Name) (entity : EntityId) : OverloadSets :=
  ⟨insertInto name entity overloads.sets⟩

/-- The entities under a name, in declaration order. -/
def get (overloads : OverloadSets) (name : Name) : List EntityId :=
  (overloads.sets.lookup name).getD []

/-- The names, in the order of their first declarations. -/
def names (overloads : OverloadSets) : List Name := overloads.sets.map (·.1)

/-- All entities, set by set. -/
def entities (overloads : OverloadSets) : List EntityId := overloads.sets.flatMap (·.2)

/-- A new entity goes to the end of the set of its name, and leaves the other sets alone. -/
theorem get_insert (overloads : OverloadSets) (name query : Name) (entity : EntityId) :
    (overloads.insert name entity).get query =
      if query = name then overloads.get query ++ [entity] else overloads.get query := by
  obtain ⟨sets⟩ := overloads
  simp only [get, insert]
  induction sets with
  | nil =>
    by_cases same : query = name
    · simp [insertInto, same]
    · have differs : (query == name) = false := by simpa using same
      simp [insertInto, List.lookup_cons, differs, same]
  | cons set rest ih =>
    obtain ⟨other, entities⟩ := set
    by_cases found : other = name
    · subst found
      by_cases same : query = other
      · subst same; simp [insertInto]
      · have differs : (query == other) = false := by simpa using same
        simp [insertInto, List.lookup_cons, differs, same]
    · by_cases same : query = other
      · subst same
        simp [insertInto, found]
      · have differs : (query == other) = false := by simpa using same
        simpa [insertInto, found, List.lookup_cons, differs] using ih

end OverloadSets

end ScopeResolution

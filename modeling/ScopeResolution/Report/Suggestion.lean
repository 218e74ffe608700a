import ScopeResolution.Store.NamePool
import ScopeResolution.Text.EditDistance

/-! # Spelling suggestions

The visible names that are spelled almost like a name that stands for nothing. -/

namespace ScopeResolution.Suggestion

/-- The greatest edit distance of a suggestion. -/
def maxDistance : Nat := 3

/-- The greatest number of suggestions. -/
def maxCount : Nat := 3

/-- A text with its distance from the text that was meant. -/
structure Candidate where
  /-- The distance. -/
  distance : Nat
  /-- The text. -/
  text : String
deriving DecidableEq, Repr, Inhabited

/-- Orders candidates by distance, and by text where the distances agree. -/
def Candidate.precedes (first second : Candidate) : Bool :=
  first.distance < second.distance
    || (first.distance == second.distance && first.text ≤ second.text)

/-- The texts of the other visible names that are close enough to a name. -/
def candidates (pool : NamePool) (name : Name) (visible : List Name) : List Candidate :=
  let target := (pool.text name).toList
  let candidate (other : Name) : Candidate :=
    let text := pool.text other
    ⟨Text.EditDistance.distance target text.toList, text⟩
  ((visible.filter (· != name)).map candidate).filter (·.distance ≤ maxDistance)

/-- The closest distinct texts, closest first. -/
def suggest (pool : NamePool) (name : Name) (visible : List Name) : List String :=
  let sorted := (candidates pool name visible).mergeSort Candidate.precedes
  (sorted.map (·.text)).eraseReps.take maxCount

end ScopeResolution.Suggestion

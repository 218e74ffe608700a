/-! # Pooled names

A pool gives each distinct text one number, so that names compare as numbers. -/

namespace ScopeResolution

/-- The number that a pool gave to a text. -/
structure Name where
  /-- The place of the text in its pool. -/
  index : Nat
deriving DecidableEq, Repr, Inhabited

/-- The distinct texts met so far, in order of first appearance. -/
structure NamePool where
  /-- The texts; the name of a text is its place here. -/
  texts : Array String := #[]
deriving DecidableEq, Repr, Inhabited

namespace NamePool

/-- The name of a text, if the pool has met it. -/
def find? (pool : NamePool) (text : String) : Option Name :=
  (pool.texts.idxOf? text).map Name.mk

/-- The name of a text, which joins the pool if it is new. -/
def intern (pool : NamePool) (text : String) : Name × NamePool :=
  match pool.find? text with
  | some name => (name, pool)
  | none => (⟨pool.texts.size⟩, ⟨pool.texts.push text⟩)

/-- The text of a name; none when the name belongs to another pool. -/
def text? (pool : NamePool) (name : Name) : Option String := pool.texts[name.index]?

/-- The text of a name of this pool. -/
def text (pool : NamePool) (name : Name) : String := (pool.text? name).getD ""

/-- The number of distinct texts. -/
def size (pool : NamePool) : Nat := pool.texts.size

/-- The text that tells how many texts a pool has met. -/
def describe (pool : NamePool) : String := "Interner \x7b len: " ++ toString pool.size ++ " \x7d"

end NamePool

end ScopeResolution

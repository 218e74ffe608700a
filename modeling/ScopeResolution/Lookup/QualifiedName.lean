import ScopeResolution.Lookup.Narrowing
import ScopeResolution.Text.Blank

/-! # Qualified names

A qualified name is a chain of names joined by double colons, which starts at the global table when
a double colon comes first. Blanks around each name do not count. -/

namespace ScopeResolution

/-- A chain of names. -/
structure QualifiedName where
  /-- Whether the chain starts at the global table. -/
  isGlobal : Bool := false
  /-- The names with their places, outermost first. -/
  segments : List Mention
deriving DecidableEq, Repr, Inhabited

namespace QualifiedName

/-- The chain of one name. -/
def simple (mention : Mention) : QualifiedName := { segments := [mention] }

/-- The last name. -/
def last? (name : QualifiedName) : Option Mention := name.segments.getLast?

/-- The pieces of a text between double colons. Each double colon is the first one after the one
before it. -/
def pieces : List Char → List (List Char)
  | [] => [[]]
  | ':' :: ':' :: rest => [] :: pieces rest
  | char :: rest =>
    match pieces rest with
    | [] => [[char]]
    | piece :: others => (char :: piece) :: others

/-- The number of bytes in the UTF-8 form of a text. -/
def byteCount (text : List Char) : Nat := (text.map (·.utf8Size)).foldr (· + ·) 0

/-- The bytes of the name in a piece that starts at a place of a file: those between its blanks. -/
def nameLocation (file start : Nat) (piece : List Char) : Location :=
  let rest := Text.trimStart piece
  let first := start + (byteCount piece - byteCount rest)
  ⟨file, ⟨first, first + byteCount (Text.trimEnd rest)⟩⟩

/-- Reads pieces, the first of which starts at a place of a file, until one holds no name. The
names read up to there join the pool in any case. -/
def readPieces (file : Nat) : (start : Nat) → List (List Char) → NamePool →
    Option (List Mention) × NamePool
  | _, [], pool => (some [], pool)
  | start, piece :: rest, pool =>
    match Text.trim piece with
    | [] => (none, pool)
    | chars =>
      let (name, pool) := pool.intern (String.ofList chars)
      let (segments, pool) := readPieces file (start + byteCount piece + 2) rest pool
      (segments.map (⟨name, nameLocation file start piece⟩ :: ·), pool)

/-- Whether a text starts with a double colon, with the text after it. -/
def splitGlobal : List Char → Bool × List Char
  | ':' :: ':' :: rest => (true, rest)
  | text => (false, text)

/-- Reads a text that starts at a location; none when a piece of it holds no name. -/
def parse (text : String) (start : Location) (pool : NamePool) : Option QualifiedName × NamePool :=
  let (isGlobal, body) := splitGlobal text.toList
  let first := start.extent.start + if isGlobal then 2 else 0
  let (segments, pool) := readPieces start.file first (pieces body) pool
  (segments.map fun segments => { isGlobal, segments }, pool)

theorem pieces_ne_nil (text : List Char) : pieces text ≠ [] := by
  fun_cases pieces text <;> simp_all

end QualifiedName

end ScopeResolution

/-! # Source locations

Byte extents inside a source file, and the locations that declarations and diagnostics carry.
Their texts are what diagnostics print. -/

namespace ScopeResolution

/-- A half-open range of bytes in a source file. -/
structure Extent where
  /-- The first byte. -/
  start : Nat := 0
  /-- One past the last byte. -/
  stop : Nat := 0
deriving DecidableEq, Repr, Inhabited

namespace Extent

/-- The two ends, joined by two dots. -/
def text (extent : Extent) : String := s!"{extent.start}..{extent.stop}"

/-- The smallest extent that reaches from the earlier start to the later stop. -/
def cover (first second : Extent) : Extent :=
  ⟨min first.start second.start, max first.stop second.stop⟩

end Extent

/-- An extent together with the number of its file. -/
structure Location where
  /-- The number of the file. -/
  file : Nat := 0
  /-- The bytes inside the file. -/
  extent : Extent := {}
deriving DecidableEq, Repr, Inhabited

namespace Location

/-- The location of things that no source text declares. -/
def synthetic : Location := {}

/-- The text of the file alone. -/
def fileText (location : Location) : String := s!"file{location.file}"

/-- The file, a colon, and the extent. -/
def text (location : Location) : String := s!"{location.fileText}:{location.extent.text}"

end Location

end ScopeResolution

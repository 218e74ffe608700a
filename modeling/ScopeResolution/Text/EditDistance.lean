/-! # Edit distance

The least number of single-character insertions, deletions and substitutions between two texts,
computed row by row: the row of a prefix of the source lists its distances to all prefixes of the
target. A row needs the one above it only. So the distance is also computed in two rows of a fixed
width, which change places after each character of the source: the row that is out of use is written
over, whatever it holds. -/

namespace ScopeResolution.Text.EditDistance

/-- Continues a row to the right of the entry `left`. The list `above` holds the part of the
previous row that starts above that entry. -/
def extendRow (char : Char) : (target : List Char) → (above : List Nat) → (left : Nat) → List Nat
  | next :: target, diagonal :: up :: above, left =>
    let entry := min (min (up + 1) (left + 1)) (diagonal + if char = next then 0 else 1)
    entry :: extendRow char target (up :: above) entry
  | _, _, _ => []

/-- The row after `previous`, for a source that is longer by the character `char`. -/
def nextRow (char : Char) (target : List Char) (previous : List Nat) : List Nat :=
  match previous with
  | [] => []
  | first :: _ => (first + 1) :: extendRow char target previous (first + 1)

/-- The row of the empty source: every prefix of the target costs its length. -/
def firstRow (target : List Char) : List Nat := List.range (target.length + 1)

/-- The row of the whole source. -/
def lastRow (source target : List Char) : List Nat :=
  source.foldl (fun row char => nextRow char target row) (firstRow target)

/-- The edit distance between two texts. -/
def distance (source target : List Char) : Nat := (lastRow source target).getLastD 0

/-! ## Two rows that change places -/

/-- A row of a fixed width, with an entry for each prefix of the target. -/
abbrev Row (target : List Char) : Type := Vector Nat (target.length + 1)

/-- Writes the entry after the one at `index`, from the latter and from the two entries of the row
above. -/
def writeEntry (char : Char) (target : List Char) (above : Row target) (index : Nat)
    (inside : index < target.length) (row : Row target) : Row target :=
  row.set (index + 1) (min (min (above[index + 1] + 1) (row[index] + 1))
    (above[index] + if char = target[index] then 0 else 1))

/-- Writes over a row from left to right. The first entry is the number of the row. -/
def overwrite (char : Char) (number : Nat) (target : List Char) (above row : Row target) :
    Row target :=
  target.length.fold (writeEntry char target above) (row.set 0 number)

/-- The two rows in use. -/
structure Rows (target : List Char) where
  /-- The row that was written last. -/
  above : Row target
  /-- The row to be written over next. -/
  spare : Row target

/-- Writes over the spare row, which changes places with the row above it. -/
def Rows.advance {target : List Char} (rows : Rows target) (char : Char) (number : Nat) :
    Rows target :=
  ⟨overwrite char number target rows.above rows.spare, rows.above⟩

/-- Advances with each character of a text. The rows written are numbered from `first` on. -/
def Rows.advanceAll {target : List Char} (rows : Rows target) (text : List Char) (first : Nat) :
    Rows target :=
  (text.zipIdx first).foldl (fun rows numbered => rows.advance numbered.1 numbered.2) rows

/-- The edit distance between two texts, computed in two rows. The spare row can hold anything. -/
def distanceInPlace (source target : List Char) (spare : Row target) : Nat :=
  if source.isEmpty then target.length
  else if target.isEmpty then source.length
  else
    let start : Rows target := ⟨Vector.range (target.length + 1), spare⟩
    (start.advanceAll source 1).above[target.length]

end ScopeResolution.Text.EditDistance

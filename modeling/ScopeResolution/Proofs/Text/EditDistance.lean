import Mathlib.Data.List.Induction
import ScopeResolution.Proofs.Text.EditScript
import ScopeResolution.Text.EditDistance

/-! # Edit distances are lengths of shortest scripts

The row of a text lists the fewest edits between it and each prefix of the target. The first row
does (`firstRow_eq`), and so does each row that is made from the one above it (`nextRow_rowOf`),
because the recursion for the fewest edits can start at the last characters. Two rows that change
places are written with the same entries, and what the row that is written over holds does not
matter (`overwrite_filled`). So both ways to compute a distance give the length of a shortest
script, as the main statement says (`distance_isLeast`). -/

namespace ScopeResolution.Text.EditDistance

variable {source target : List Char}

/-! ## Rows made anew -/

/-- The fewest edits between a text and a prefix `done` of the target, followed by those for the
longer prefixes along the `rest` of the target. -/
def rowOf (source : List Char) : (done rest : List Char) → List Nat
  | done, [] => [fewestEdits source done]
  | done, next :: rest => fewestEdits source done :: rowOf source (done ++ [next]) rest

/-- A row starts with the fewest edits for the prefix it is at. -/
theorem exists_rowOf_eq_cons (source done rest : List Char) :
    ∃ further, rowOf source done rest = fewestEdits source done :: further := by
  cases rest with
  | nil => exact ⟨[], rfl⟩
  | cons next rest => exact ⟨rowOf source (done ++ [next]) rest, rfl⟩

/-- The row of the empty text lists the lengths of the prefixes. -/
theorem rowOf_nil (done rest : List Char) :
    rowOf [] done rest = List.range' done.length (rest.length + 1) := by
  induction rest generalizing done with
  | nil => simp [rowOf]
  | cons next rest ih =>
    rw [rowOf, ih, fewestEdits_nil_left, List.length_append, List.length_cons, List.length_nil,
      List.length_cons, ← List.range'_succ]

/-- The first row is that of the empty text. -/
theorem firstRow_eq (target : List Char) : firstRow target = rowOf [] [] target := by
  rw [firstRow, rowOf_nil, List.range_eq_range', List.length_nil]

/-- A row is continued from the one above it. -/
theorem extendRow_rowOf (source : List Char) (char : Char) (done rest : List Char) :
    fewestEdits (source ++ [char]) done ::
        extendRow char rest (rowOf source done rest) (fewestEdits (source ++ [char]) done) =
      rowOf (source ++ [char]) done rest := by
  induction rest generalizing done with
  | nil => rfl
  | cons next rest ih =>
    obtain ⟨further, above⟩ := exists_rowOf_eq_cons source (done ++ [next]) rest
    rw [rowOf, rowOf, above, extendRow, ← fewestEdits_concat, ← above, ih]

/-- The row after that of a text is the row of the text with one more character. -/
theorem nextRow_rowOf (source target : List Char) (char : Char) :
    nextRow char target (rowOf source [] target) = rowOf (source ++ [char]) [] target := by
  obtain ⟨further, above⟩ := exists_rowOf_eq_cons source [] target
  have first : fewestEdits source [] + 1 = fewestEdits (source ++ [char]) [] := by simp
  rw [above, nextRow, ← above, first, extendRow_rowOf]

/-- The last row is that of the whole source. -/
theorem lastRow_eq (source target : List Char) :
    lastRow source target = rowOf source [] target := by
  induction source using List.reverseRecOn with
  | nil => exact firstRow_eq target
  | append_singleton source char ih =>
    rw [← nextRow_rowOf, ← ih, lastRow, lastRow, List.foldl_append, List.foldl_cons, List.foldl_nil]

/-- A row ends with the fewest edits for the whole target. -/
theorem getLastD_rowOf (source done rest : List Char) (default : Nat) :
    (rowOf source done rest).getLastD default = fewestEdits source (done ++ rest) := by
  induction rest generalizing done default with
  | nil => simp [rowOf]
  | cons next rest ih => rw [rowOf, List.getLastD_cons, ih, ← List.append_cons]

/-- The distance between two texts is the number of edits that the recursion says. -/
theorem distance_eq_fewestEdits (source target : List Char) :
    distance source target = fewestEdits source target := by
  rw [distance, lastRow_eq, getLastD_rowOf, List.nil_append]

/-! ## Rows that are written over -/

/-- Up to the entry with the number `last`, the entries of a row are the fewest edits between a text
and the prefixes of the target. Nothing is said of the entries behind. -/
def FilledTo (source : List Char) (last : Nat) (row : Row target) : Prop :=
  ∀ index, (inside : index ≤ target.length) → index ≤ last →
    row[index] = fewestEdits source (target.take index)

/-- All entries of a row are the fewest edits between a text and the prefixes of the target. -/
def Filled (source : List Char) (row : Row target) : Prop := FilledTo source target.length row

/-- The row that the computation starts from is that of the empty text. -/
theorem filled_range : Filled [] (Vector.range (target.length + 1) : Row target) := by
  intro index inside _
  rw [Vector.getElem_range, fewestEdits_nil_left, List.length_take_of_le inside]

/-- One more entry is right after the ones in front of it. -/
theorem FilledTo.writeEntry {above row : Row target} {char : Char} {index : Nat}
    (inside : index < target.length) (filledAbove : Filled source above)
    (filled : FilledTo (source ++ [char]) index row) :
    FilledTo (source ++ [char]) (index + 1) (writeEntry char target above index inside row) := by
  intro place placed upTo
  rcases Nat.lt_or_eq_of_le upTo with before | here
  · have stays : index + 1 ≠ place := by omega
    rw [EditDistance.writeEntry, Vector.getElem_set_ne _ _ stays]
    exact filled place placed (Nat.le_of_lt_succ before)
  · -- Both prefixes have one more character here, so the recursion starts at the last ones.
    subst here
    have diagonal := filledAbove index inside.le inside.le
    have up := filledAbove (index + 1) inside inside
    have left := filled index inside.le le_rfl
    rw [EditDistance.writeEntry, Vector.getElem_set_self, diagonal, up, left,
      List.take_succ_eq_append_getElem inside, fewestEdits_concat]

/-- Writing on from the first entry keeps the entries right that are behind the writer. -/
theorem FilledTo.fold {above row : Row target} {char : Char} (filledAbove : Filled source above)
    (first : FilledTo (source ++ [char]) 0 row) (last : Nat) (within : last ≤ target.length) :
    FilledTo (source ++ [char]) last
      (last.fold (fun index inside =>
        EditDistance.writeEntry char target above index (inside.trans_le within)) row) := by
  induction last with
  | zero => exact first
  | succ last ih =>
    rw [Nat.fold_succ]
    exact (ih (Nat.le_of_succ_le within)).writeEntry within filledAbove

/-- A row that is written over another one has the right entries, whatever that one held. -/
theorem overwrite_filled {above : Row target} (char : Char) (filledAbove : Filled source above)
    (row : Row target) :
    Filled (source ++ [char]) (overwrite char (source.length + 1) target above row) := by
  have first : FilledTo (source ++ [char]) 0 (row.set 0 (source.length + 1)) := by
    intro index inside upTo
    obtain rfl : index = 0 := Nat.le_zero.1 upTo
    simp
  exact first.fold filledAbove target.length le_rfl

/-- When the row above is that of a text, advancing with more characters makes it the row of the
text with these characters added. -/
theorem advanceAll_filled (more : List Char) (rows : Rows target)
    (filled : Filled source rows.above) :
    Filled (source ++ more) (rows.advanceAll more (source.length + 1)).above := by
  induction more generalizing source rows with
  | nil => rwa [List.append_nil]
  | cons char more ih =>
    have advanced : Filled (source ++ [char]) (rows.advance char (source.length + 1)).above :=
      overwrite_filled char filled rows.spare
    have rest := ih _ advanced
    rwa [List.length_append, List.length_singleton, ← List.append_cons] at rest

/-- Two rows that change places tell the fewest edits, whatever the spare one held. -/
theorem distanceInPlace_eq_fewestEdits (source target : List Char) (spare : Row target) :
    distanceInPlace source target spare = fewestEdits source target := by
  rw [distanceInPlace]
  split_ifs with noSource noTarget
  · rw [List.isEmpty_iff.1 noSource, fewestEdits_nil_left]
  · rw [List.isEmpty_iff.1 noTarget, fewestEdits_nil_right]
  · have filled := advanceAll_filled source ⟨Vector.range (target.length + 1), spare⟩ filled_range
    have last := filled target.length le_rfl le_rfl
    rwa [List.take_length] at last

/-! ## Distances -/

/-- The distance between two texts is the length of a shortest script of insertions, deletions and
substitutions of single characters that turns the first text into the second one. Two rows that
change places give the same number, whatever the spare row holds at the start. -/
theorem distance_isLeast (source target : List Char) :
    IsLeast {count | ∃ script : List Edit,
      performAll? script source = some target ∧ script.length = count} (distance source target) ∧
    ∀ spare : Row target, distanceInPlace source target spare = distance source target := by
  rw [distance_eq_fewestEdits]
  exact ⟨isLeast_fewestEdits source target, distanceInPlace_eq_fewestEdits source target⟩

example :
    performAll? [⟨0, .substitution 's'⟩, ⟨4, .substitution 'i'⟩, ⟨6, .insertion 'g'⟩]
        "kitten".toList = some "sitting".toList ∧
      distance "kitten".toList "sitting".toList = 3 := by
  decide

end ScopeResolution.Text.EditDistance

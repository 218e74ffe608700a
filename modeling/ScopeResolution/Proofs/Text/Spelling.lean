import Mathlib.Data.List.DropRight
import ScopeResolution.Text.Blank

/-! # Spellings of names

A name is written with blanks around it, and blanks are no part of its ends. So what is left of a
text between its blanks is the name that it spells (`Spelling.trim_chars`), and every text but one of
blanks alone spells a name (`exists_spelling`). -/

namespace ScopeResolution.Text

/-- Nothing is left of a text when it has no other characters than blanks. -/
theorem trim_eq_nil_iff {text : List Char} :
    trim text = [] ↔ ∀ char ∈ text, isBlank char = true := by
  unfold trim trimEnd trimStart
  rw [← List.rdropWhile, List.rdropWhile_eq_nil_iff]
  constructor
  · intro blank
    -- The first character that is left would not be a blank.
    refine List.dropWhile_eq_nil_iff.1 (by_contra fun more => ?_)
    have head := blank _ (List.head_mem more)
    rw [List.head_dropWhile_not isBlank more] at head
    cases head
  · intro blank char left
    exact blank char ((List.dropWhile_sublist _).subset left)

/-- A name as it is written. -/
structure Spelling where
  /-- The blanks in front of the name. -/
  lead : List Char
  /-- The name. -/
  name : List Char
  /-- The blanks after the name. -/
  trail : List Char
  /-- There are blanks in front. -/
  leadBlank : ∀ char ∈ lead, isBlank char = true
  /-- There are blanks after it. -/
  trailBlank : ∀ char ∈ trail, isBlank char = true
  /-- The name is not empty. -/
  nonempty : name ≠ []
  /-- The name does not start with a blank. -/
  starts : isBlank (name.head nonempty) = false
  /-- The name does not end with a blank. -/
  ends : isBlank (name.getLast nonempty) = false

namespace Spelling

/-- The text that is written. -/
def chars (spelling : Spelling) : List Char := spelling.lead ++ spelling.name ++ spelling.trail

variable (spelling : Spelling)

/-- The text after the leading blanks is the name with the trailing ones. -/
theorem trimStart_chars : trimStart spelling.chars = spelling.name ++ spelling.trail := by
  obtain ⟨first, rest, named⟩ := List.exists_cons_of_ne_nil spelling.nonempty
  have starts := spelling.starts
  simp only [named, List.head_cons] at starts
  rw [trimStart, chars, List.append_assoc, List.dropWhile_append_of_pos spelling.leadBlank, named,
    List.cons_append, List.dropWhile_cons_of_neg (by simp [starts])]

/-- The name is what is left before the trailing blanks. -/
theorem trimEnd_name_append : trimEnd (spelling.name ++ spelling.trail) = spelling.name := by
  have trailing : ∀ char ∈ spelling.trail.reverse, isBlank char = true := fun char among =>
    spelling.trailBlank char (List.mem_reverse.1 among)
  rw [trimEnd, List.reverse_append, List.dropWhile_append_of_pos trailing]
  exact List.rdropWhile_eq_self_iff.2 fun _ => by simp [spelling.ends]

/-- What is left between the blanks is the name. -/
theorem trim_chars : trim spelling.chars = spelling.name := by
  rw [trim, trimStart_chars, trimEnd_name_append]

/-- A spelling is not of blanks alone. -/
theorem exists_bare : ∃ char ∈ spelling.chars, isBlank char = false :=
  ⟨_, List.mem_append_left _ (List.mem_append_right _ (List.head_mem spelling.nonempty)),
    spelling.starts⟩

/-- What is no blank stands in the name. -/
theorem mem_name_of_mem_chars {char : Char} (among : char ∈ spelling.chars)
    (bare : isBlank char = false) : char ∈ spelling.name := by
  rcases List.mem_append.1 among with inFront | trailing
  · rcases List.mem_append.1 inFront with leading | inName
    · rw [spelling.leadBlank char leading] at bare
      cases bare
    · exact inName
  · rw [spelling.trailBlank char trailing] at bare
    cases bare

end Spelling

/-- A text that is not of blanks alone spells a name. -/
theorem exists_spelling {text : List Char} (bare : ∃ char ∈ text, isBlank char = false) :
    ∃ spelling : Spelling, spelling.chars = text := by
  have left : trim text ≠ [] := by
    intro nothing
    obtain ⟨char, among, notBlank⟩ := bare
    rw [trim_eq_nil_iff.1 nothing char among] at notBlank
    cases notBlank
  have split : trim text ++ (trimStart text).rtakeWhile isBlank = trimStart text :=
    List.rdropWhile_append_rtakeWhile
  have starts : isBlank ((trim text).head left) = false := by
    -- The name starts where the text after the leading blanks does.
    have same : (trim text ++ (trimStart text).rtakeWhile isBlank).head (by simp [left]) =
        (trim text).head left := List.head_append_of_ne_nil left
    simp only [split] at same
    rw [← same]
    exact List.head_dropWhile_not isBlank _
  have ends : ¬ isBlank ((trim text).getLast left) = true :=
    List.rdropWhile_last_not isBlank (trimStart text) left
  refine ⟨⟨text.takeWhile isBlank, trim text, (trimStart text).rtakeWhile isBlank,
    fun _ => List.mem_takeWhile_imp, fun _ => List.mem_rtakeWhile_imp, left, starts,
    by simpa using ends⟩, ?_⟩
  rw [Spelling.chars, List.append_assoc, split, trimStart, List.takeWhile_append_dropWhile]

end ScopeResolution.Text

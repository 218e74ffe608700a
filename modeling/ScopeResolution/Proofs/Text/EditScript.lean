import Mathlib.Order.Bounds.Defs
import Mathlib.Order.MinMax

/-! # Shortest scripts of edits

A script edits a text step by step: at any position it inserts, deletes or substitutes a character,
and a later step can work on what an earlier one has left. The fewest edits between two texts are
told by a recursion on the first characters. One edit makes them fewer by at most one
(`fewestEdits_le_of_change`), so no script is shorter, and the recursion itself shows how to write a
script of that length (`turns_fewestEdits`). As the main statement says (`isLeast_fewestEdits`), it
is the length of a shortest script. The recursion can be read from the last characters as well
(`fewestEdits_concat`). -/

namespace ScopeResolution.Text.EditDistance

/-- A change of a single character. -/
inductive Change where
  /-- The character is inserted. -/
  | insertion (char : Char)
  /-- The character that stands there is deleted. -/
  | deletion
  /-- The character takes the place of the one that stands there. -/
  | substitution (char : Char)
deriving DecidableEq, Repr

/-- Changes the front of a text. An empty text has no character to delete or to substitute. -/
def Change.atFront? : Change → List Char → Option (List Char)
  | .insertion char, text => some (char :: text)
  | .deletion, _ :: text => some text
  | .substitution char, _ :: text => some (char :: text)
  | _, [] => none

/-- Changes a text at a position, which is the number of characters that stand before it. -/
def Change.at? (change : Change) : (position : Nat) → List Char → Option (List Char)
  | 0, text => change.atFront? text
  | _ + 1, [] => none
  | position + 1, char :: text => (change.at? position text).map (char :: ·)

/-- A step of a script. -/
structure Edit where
  /-- Where the text is changed. -/
  position : Nat
  /-- How it is changed. -/
  change : Change
deriving DecidableEq, Repr

/-- The text after one edit. -/
def Edit.perform? (edit : Edit) (text : List Char) : Option (List Char) :=
  edit.change.at? edit.position text

/-- The text after the edits of a script, one after the other. -/
def performAll? (script : List Edit) (text : List Char) : Option (List Char) :=
  script.foldlM (fun text edit => edit.perform? text) text

/-- The fewest edits between two texts, by recursion: one of the first characters is left out, or
both of them are matched. -/
def fewestEdits : List Char → List Char → Nat
  | [], [] => 0
  | [], _ :: target => fewestEdits [] target + 1
  | _ :: source, [] => fewestEdits source [] + 1
  | char :: source, next :: target =>
    min (min (fewestEdits source (next :: target) + 1) (fewestEdits (char :: source) target + 1))
      (fewestEdits source target + if char = next then 0 else 1)
termination_by source target => source.length + target.length

variable {source target changed text : List Char} {script : List Edit}

/-! ## The recursion -/

@[simp] theorem fewestEdits_nil_left (target : List Char) :
    fewestEdits [] target = target.length := by
  induction target with
  | nil => rw [fewestEdits, List.length_nil]
  | cons next target ih => rw [fewestEdits, ih, List.length_cons]

@[simp] theorem fewestEdits_nil_right (source : List Char) :
    fewestEdits source [] = source.length := by
  induction source with
  | nil => rw [fewestEdits, List.length_nil]
  | cons char source ih => rw [fewestEdits, ih, List.length_cons]

theorem fewestEdits_cons_cons (char next : Char) (source target : List Char) :
    fewestEdits (char :: source) (next :: target) =
      min (min (fewestEdits source (next :: target) + 1) (fewestEdits (char :: source) target + 1))
        (fewestEdits source target + if char = next then 0 else 1) := by
  rw [fewestEdits]

/-- No edit is needed between a text and itself. -/
@[simp] theorem fewestEdits_self (text : List Char) : fewestEdits text text = 0 := by
  induction text with
  | nil => rw [fewestEdits]
  | cons char text ih => rw [fewestEdits_cons_cons, ih, if_pos rfl, Nat.add_zero, Nat.min_zero]

/-- The recursion can start at the last characters too. -/
theorem fewestEdits_concat (source target : List Char) (char next : Char) :
    fewestEdits (source ++ [char]) (target ++ [next]) =
      min (min (fewestEdits source (target ++ [next]) + 1)
        (fewestEdits (source ++ [char]) target + 1))
        (fewestEdits source target + if char = next then 0 else 1) := by
  -- A first choice is followed by a last one, or the other way round. Where both texts have a first
  -- character, either side is the least of the same nine numbers.
  fun_induction fewestEdits source target with
  | case1 => simp [fewestEdits_cons_cons]
  | case2 first target ih =>
    simp only [List.nil_append] at ih
    simp only [List.nil_append, List.cons_append, fewestEdits_cons_cons, ih, fewestEdits_nil_left,
      List.length_append, List.length_cons, List.length_nil, ← Nat.add_min_add_right]
    ac_rfl
  | case3 first source ih =>
    simp only [List.nil_append] at ih
    simp only [List.nil_append, List.cons_append, fewestEdits_cons_cons, ih, fewestEdits_nil_right,
      List.length_append, List.length_cons, List.length_nil, ← Nat.add_min_add_right]
    ac_rfl
  | case4 first source second target bothFirst sourceFirst neither =>
    simp only [List.cons_append] at bothFirst sourceFirst
    simp only [List.cons_append, fewestEdits_cons_cons, bothFirst, sourceFirst, neither,
      ← Nat.add_min_add_right]
    ac_rfl

/-! ## No script is shorter -/

/-- An insertion in front of the source takes one more edit at most. -/
theorem fewestEdits_cons_left_le (char : Char) (source target : List Char) :
    fewestEdits (char :: source) target ≤ fewestEdits source target + 1 := by
  cases target with
  | nil => simp
  | cons next target =>
    rw [fewestEdits_cons_cons]
    omega

/-- An insertion in front of the target takes one more edit at most. -/
theorem fewestEdits_cons_right_le (next : Char) (source target : List Char) :
    fewestEdits source (next :: target) ≤ fewestEdits source target + 1 := by
  cases source with
  | nil => simp
  | cons char source =>
    rw [fewestEdits_cons_cons]
    omega

/-- A deletion at the front of the source takes one more edit at most. -/
theorem fewestEdits_le_cons_left (char : Char) (source target : List Char) :
    fewestEdits source target ≤ fewestEdits (char :: source) target + 1 := by
  induction target with
  | nil =>
    simp only [fewestEdits_nil_right, List.length_cons]
    omega
  | cons next target ih =>
    have grown := fewestEdits_cons_right_le next source target
    rw [fewestEdits_cons_cons]
    omega

/-- A substitution at the front of the source takes one more edit at most. -/
theorem fewestEdits_substituted_le (char other : Char) (source target : List Char) :
    fewestEdits (char :: source) target ≤ fewestEdits (other :: source) target + 1 := by
  induction target with
  | nil => simp
  | cons next target ih =>
    have matched : (if char = next then 0 else 1) ≤ 1 := by split <;> simp
    rw [fewestEdits_cons_cons, fewestEdits_cons_cons]
    omega

/-- An edit behind the first character of the source makes as much difference as it does to the
text after that character. -/
theorem fewestEdits_cons_le_cons (char : Char)
    (near : ∀ target, fewestEdits source target ≤ fewestEdits changed target + 1)
    (target : List Char) :
    fewestEdits (char :: source) target ≤ fewestEdits (char :: changed) target + 1 := by
  induction target with
  | nil => simpa using near []
  | cons next target ih =>
    have shorter := near (next :: target)
    have matched := near target
    rw [fewestEdits_cons_cons, fewestEdits_cons_cons]
    omega

/-- One change of the source spares one edit at most. -/
theorem fewestEdits_le_of_change {change : Change} {position : Nat}
    (changes : change.at? position source = some changed) (target : List Char) :
    fewestEdits source target ≤ fewestEdits changed target + 1 := by
  induction position generalizing source changed target with
  | zero =>
    match change, source, changes with
    | .insertion char, source, rfl => exact fewestEdits_le_cons_left char source target
    | .deletion, char :: source, rfl => exact fewestEdits_cons_left_le char source target
    | .substitution other, char :: source, rfl =>
      exact fewestEdits_substituted_le char other source target
  | succ position ih =>
    match source, changes with
    | char :: source, changes =>
      obtain ⟨rest, changesRest, rfl⟩ := Option.map_eq_some_iff.1 changes
      exact fewestEdits_cons_le_cons char (ih changesRest) target

/-- A script that turns one text into another has at least as many edits as the recursion says. -/
theorem fewestEdits_le_length (turns : performAll? script source = some target) :
    fewestEdits source target ≤ script.length := by
  induction script generalizing source with
  | nil =>
    obtain rfl : source = target := Option.some.inj turns
    simp
  | cons edit script ih =>
    obtain ⟨changed, changes, turns⟩ := Option.bind_eq_some_iff.1 turns
    have spared := fewestEdits_le_of_change changes target
    have rest := ih turns
    rw [List.length_cons]
    omega

/-! ## A shortest script -/

/-- The same edit of a text that has one more character in front. -/
def Edit.behind (edit : Edit) : Edit := { edit with position := edit.position + 1 }

/-- A script leaves a character alone that stands in front of all its edits. -/
theorem performAll?_behind (script : List Edit) (char : Char) (text : List Char) :
    performAll? (script.map Edit.behind) (char :: text) =
      (performAll? script text).map (char :: ·) := by
  induction script generalizing text with
  | nil => rfl
  | cons edit script ih =>
    show ((edit.perform? text).map (char :: ·)).bind (performAll? (script.map Edit.behind)) =
      ((edit.perform? text).bind (performAll? script)).map (char :: ·)
    cases edit.perform? text with
    | none => rfl
    | some changed => exact ih changed

/-- Some script of so many edits turns a text into another one. -/
def Turns (source target : List Char) (count : Nat) : Prop :=
  ∃ script : List Edit, performAll? script source = some target ∧ script.length = count

namespace Turns

variable {count other : Nat}

/-- The smaller of two numbers of edits is one of them. -/
theorem least (turns : Turns source target count) (alsoTurns : Turns source target other) :
    Turns source target (min count other) := by
  rcases min_choice count other with first | second
  · rwa [first]
  · rwa [second]

/-- The character in front stays, and what stands behind it is edited. -/
theorem keep (char : Char) (turns : Turns source target count) :
    Turns (char :: source) (char :: target) count := by
  obtain ⟨script, turns, rfl⟩ := turns
  have keeps : performAll? (script.map Edit.behind) (char :: source) = some (char :: target) := by
    rw [performAll?_behind, turns, Option.map_some]
  exact ⟨script.map Edit.behind, keeps, List.length_map _⟩

/-- The front is changed first. -/
theorem change (change : Change) (changes : change.atFront? source = some changed)
    (turns : Turns changed target count) : Turns source target (count + 1) := by
  obtain ⟨script, turns, rfl⟩ := turns
  refine ⟨⟨0, change⟩ :: script, ?_, rfl⟩
  show (change.atFront? source).bind (performAll? script) = some target
  rw [changes, Option.bind_some, turns]

/-- The character in front is deleted. -/
theorem delete (char : Char) (turns : Turns source target count) :
    Turns (char :: source) target (count + 1) :=
  turns.change .deletion rfl

/-- A character is inserted in front. -/
theorem insert (next : Char) (turns : Turns source target count) :
    Turns source (next :: target) (count + 1) :=
  (turns.keep next).change (.insertion next) rfl

/-- The characters in front are matched, by a substitution if they differ. -/
theorem match_front (char next : Char) (turns : Turns source target count) :
    Turns (char :: source) (next :: target) (count + if char = next then 0 else 1) := by
  by_cases same : char = next
  · rw [if_pos same, same]
    exact turns.keep next
  · rw [if_neg same]
    exact (turns.keep next).change (.substitution next) rfl

end Turns

/-- Some script has as many edits as the recursion says. -/
theorem turns_fewestEdits (source target : List Char) :
    Turns source target (fewestEdits source target) := by
  fun_induction fewestEdits source target with
  | case1 => exact ⟨[], rfl, rfl⟩
  | case2 next target inserted => exact inserted.insert next
  | case3 char source deleted => exact deleted.delete char
  | case4 char source next target deleted inserted matched =>
    exact ((deleted.delete char).least (inserted.insert next)).least (matched.match_front char next)

/-- The fewest edits between two texts are the length of a shortest script. -/
theorem isLeast_fewestEdits (source target : List Char) :
    IsLeast {count | Turns source target count} (fewestEdits source target) := by
  refine ⟨turns_fewestEdits source target, ?_⟩
  rintro count ⟨script, turns, rfl⟩
  exact fewestEdits_le_length turns

end ScopeResolution.Text.EditDistance

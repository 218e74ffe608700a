import Mathlib.Data.List.Dedup
import Mathlib.Data.List.Destutter
import Mathlib.Data.List.Permutation
import Mathlib.Data.String.Basic
import ScopeResolution.Report.Suggestion

/-! # Which spellings are suggested

The candidates for a suggestion are sorted by their distance and their text, repetitions side by
side are erased, and what stands behind the third place is cut off. As the text tells the distance,
equal texts come to stand side by side, so no repetition is left, and the order is strict
(`pairwise_ranking`). There is only one way to list given texts in a strict order. So neither the
order of the visible names nor how often they are listed makes a difference, as the main statement
`suggestions_are_nearest` says. -/

namespace ScopeResolution

/-- Erasing repetitions side by side goes through a list, and keeps each item that differs from the
last one kept. -/
theorem eraseReps_eq_destutter {α : Type} [DecidableEq α] (list : List α) :
    list.eraseReps = list.destutter (· ≠ ·) := by
  -- The loop keeps what it has in reverse, with the last item apart.
  have loop_eq (last : α) (rest kept : List α) :
      List.eraseRepsBy.loop (· == ·) last rest kept =
        kept.reverse ++ rest.destutter' (· ≠ ·) last := by
    induction rest generalizing last kept with
    | nil => simp [List.eraseRepsBy.loop]
    | cons next rest ih =>
        by_cases same : last = next
        · simp [List.eraseRepsBy.loop, same, ih]
        · simp [List.eraseRepsBy.loop, beq_false_of_ne same, same, ih]
  cases list with
  | nil => rfl
  | cons first rest => exact loop_eq first rest []

namespace Suggestion

/-- How far a text is from the one that was meant. -/
def distanceFrom (target text : String) : Nat :=
  Text.EditDistance.distance target.toList text.toList

/-- The first text comes before the second one among the suggestions for a text that was meant: it
is closer, or as close and before it in the order of texts. -/
def Nearer (target first second : String) : Prop :=
  distanceFrom target first < distanceFrom target second ∨
    (distanceFrom target first = distanceFrom target second ∧ first < second)

/-- The text is that of another visible name, and within reach of the text of a name. -/
def IsClose (pool : NamePool) (name : Name) (visible : List Name) (text : String) : Prop :=
  ∃ other ∈ visible, other ≠ name ∧ pool.text other = text ∧
    distanceFrom (pool.text name) text ≤ 3

/-- The close texts in order, each of them once. -/
def ranking (pool : NamePool) (name : Name) (visible : List Name) : List String :=
  (((candidates pool name visible).mergeSort Candidate.precedes).map (·.text)).eraseReps

variable {pool : NamePool} {name : Name} {visible : List Name} {target first second : String}

/-! ## The order of suggestions -/

/-- Of two texts, at most one comes before the other. -/
theorem Nearer.asymm (before : Nearer target first second) : ¬ Nearer target second first := by
  intro after
  rcases before with closer | ⟨same, less⟩
  · rcases after with farther | ⟨same, -⟩
    · exact Nat.lt_asymm closer farther
    · exact Nat.ne_of_lt closer same.symm
  · rcases after with farther | ⟨-, more⟩
    · exact Nat.ne_of_lt farther same.symm
    · exact String.lt_irrefl _ (String.lt_trans less more)

/-- A candidate precedes another one when it is closer, or as close and not behind it in the order
of texts. -/
theorem Candidate.precedes_iff {first second : Candidate} :
    first.precedes second = true ↔ first.distance < second.distance ∨
      (first.distance = second.distance ∧ first.text ≤ second.text) := by
  simp [precedes]

/-- Candidates precede one another in turn. -/
theorem Candidate.precedes_trans (first second third : Candidate)
    (before : first.precedes second = true) (after : second.precedes third = true) :
    first.precedes third = true := by
  rw [precedes_iff] at before after ⊢
  rcases before with closer | ⟨same, less⟩
  · left
    omega
  · rcases after with closer' | ⟨same', less'⟩
    · left
      omega
    · exact Or.inr ⟨same.trans same', String.le_trans less less'⟩

/-- Of two candidates, one precedes the other. -/
theorem Candidate.precedes_total (first second : Candidate) :
    (first.precedes second || second.precedes first) = true := by
  rw [Bool.or_eq_true, precedes_iff, precedes_iff]
  rcases Nat.lt_trichotomy first.distance second.distance with closer | same | farther
  · exact Or.inl (Or.inl closer)
  · exact (String.le_total first.text second.text).imp (fun less => Or.inr ⟨same, less⟩)
      fun less => Or.inr ⟨same.symm, less⟩
  · exact Or.inr (Or.inl farther)

/-! ## The ranking -/

/-- The candidates are the close texts, with their distances. -/
theorem mem_candidates {candidate : Candidate} :
    candidate ∈ candidates pool name visible ↔ IsClose pool name visible candidate.text ∧
      candidate.distance = distanceFrom (pool.text name) candidate.text := by
  simp only [candidates, List.mem_filter, List.mem_map, bne_iff_ne, maxDistance]
  constructor
  · rintro ⟨⟨other, ⟨listed, different⟩, rfl⟩, within⟩
    exact ⟨⟨other, listed, different, rfl, of_decide_eq_true within⟩, rfl⟩
  · rintro ⟨⟨other, listed, different, read, within⟩, told⟩
    obtain ⟨distance, text⟩ := candidate
    obtain rfl : pool.text other = text := read
    obtain rfl : distance = distanceFrom (pool.text name) (pool.text other) := told
    exact ⟨⟨other, ⟨listed, different⟩, rfl⟩, decide_eq_true within⟩

/-- The texts of the sorted candidates are in order, with repetitions side by side. -/
theorem pairwise_sorted (pool : NamePool) (name : Name) (visible : List Name) :
    (((candidates pool name visible).mergeSort Candidate.precedes).map (·.text)).Pairwise
      fun first second => Nearer (pool.text name) first second ∨ first = second := by
  have sorted := List.pairwise_mergeSort Candidate.precedes_trans Candidate.precedes_total
    (candidates pool name visible)
  refine List.pairwise_map.2 (sorted.imp_of_mem fun {first second} isFirst isSecond before => ?_)
  -- The distance of a candidate is that of its text.
  have firstTold := (mem_candidates.1 (List.mem_mergeSort.1 isFirst)).2
  have secondTold := (mem_candidates.1 (List.mem_mergeSort.1 isSecond)).2
  rw [Candidate.precedes_iff, firstTold, secondTold] at before
  rcases before with closer | ⟨same, less⟩
  · exact Or.inl (Or.inl closer)
  · rcases le_iff_lt_or_eq.1 less with less | equal
    · exact Or.inl (Or.inr ⟨same, less⟩)
    · exact Or.inr equal

/-- As the candidates are sorted, erasing repetitions side by side leaves no repetition. -/
theorem ranking_eq_dedup (pool : NamePool) (name : Name) (visible : List Name) :
    ranking pool name visible =
      (((candidates pool name visible).mergeSort Candidate.precedes).map (·.text)).dedup := by
  have antisymm : Std.Antisymm fun first second =>
      Nearer (pool.text name) first second ∨ first = second :=
    ⟨fun first second before after => before.elim
      (fun nearer => after.elim (fun farther => absurd farther nearer.asymm) Eq.symm) id⟩
  rw [ranking, eraseReps_eq_destutter, (pairwise_sorted pool name visible).destutter_eq_dedup]

/-- The texts that are ranked are the close ones. -/
theorem mem_ranking {text : String} :
    text ∈ ranking pool name visible ↔ IsClose pool name visible text := by
  simp only [ranking_eq_dedup, List.mem_dedup, List.mem_map, List.mem_mergeSort, mem_candidates]
  constructor
  · rintro ⟨candidate, ⟨isClose, -⟩, rfl⟩
    exact isClose
  · intro isClose
    exact ⟨⟨distanceFrom (pool.text name) text, text⟩, ⟨isClose, rfl⟩, rfl⟩

/-- No text is ranked twice. -/
theorem nodup_ranking : (ranking pool name visible).Nodup := by
  rw [ranking_eq_dedup]
  exact List.nodup_dedup _

/-- Each text that is ranked comes before those behind it. -/
theorem pairwise_ranking : (ranking pool name visible).Pairwise (Nearer (pool.text name)) := by
  have sorted : (ranking pool name visible).Pairwise
      fun first second => Nearer (pool.text name) first second ∨ first = second := by
    rw [ranking_eq_dedup]
    exact (pairwise_sorted pool name visible).sublist (List.dedup_sublist _)
  exact (sorted.and nodup_ranking).imp fun both => both.1.resolve_right both.2

/-- Names that are listed in another order, or more often, are ranked the same. -/
theorem ranking_congr {listed : List Name} (same : ∀ other, other ∈ listed ↔ other ∈ visible) :
    ranking pool name listed = ranking pool name visible := by
  have members (text : String) :
      text ∈ ranking pool name listed ↔ text ∈ ranking pool name visible := by
    simp only [mem_ranking, IsClose, same]
  refine List.Perm.eq_of_pairwise (fun first second _ _ before after => ?_) pairwise_ranking
    pairwise_ranking ((List.perm_ext_iff_of_nodup nodup_ranking nodup_ranking).2 members)
  exact absurd after before.asymm

/-- The suggestions for a name are the first three of the close texts, or all of them if there are
fewer, where the closer ones come first and those that are as close stand in the order of texts. No
text is suggested twice, and names that are listed in another order or more often make no
difference. -/
theorem suggestions_are_nearest (pool : NamePool) (name : Name) (visible : List Name) :
    (∃ ranked : List String, suggest pool name visible = ranked.take 3 ∧
      ranked.Pairwise (Nearer (pool.text name)) ∧
      ∀ text, text ∈ ranked ↔ IsClose pool name visible text) ∧
    (suggest pool name visible).Nodup ∧
    ∀ listed : List Name, (∀ other, other ∈ listed ↔ other ∈ visible) →
      suggest pool name listed = suggest pool name visible := by
  have first_three (listed : List Name) :
      suggest pool name listed = (ranking pool name listed).take 3 := rfl
  refine ⟨⟨_, first_three visible, pairwise_ranking, fun _ => mem_ranking⟩, ?_,
    fun listed same => ?_⟩
  · rw [first_three]
    exact nodup_ranking.sublist (List.take_sublist 3 _)
  · rw [first_three, first_three, ranking_congr same]

/-- The names around a misspelled one: three of them are one edit away, another one two edits, and
one is out of reach. -/
def namesAroundCount : NamePool :=
  ⟨#["count", "counter", "mount", "cont", "unrelated_name", "court"]⟩

/-- They are listed in disorder and with repetitions, and the name itself is among them. The three
that are one edit away are suggested, in the order of texts. -/
theorem suggestions_for_count :
    let visible : List Name := [⟨0⟩, ⟨1⟩, ⟨2⟩, ⟨3⟩, ⟨4⟩, ⟨5⟩]
    let listed : List Name := [⟨5⟩, ⟨2⟩, ⟨1⟩, ⟨5⟩, ⟨0⟩, ⟨4⟩, ⟨3⟩, ⟨2⟩]
    (∀ other, other ∈ listed ↔ other ∈ visible) ∧
      suggest namesAroundCount ⟨0⟩ listed = ["cont", "court", "mount"] := by
  intro visible listed
  have same (other : Name) : other ∈ listed ↔ other ∈ visible := by
    simp only [listed, visible, List.mem_cons, List.not_mem_nil, or_false]
    grind
  obtain ⟨-, -, noMatter⟩ := suggestions_are_nearest namesAroundCount ⟨0⟩ visible
  have inOrder : suggest namesAroundCount ⟨0⟩ visible = ["cont", "court", "mount"] := by cbv
  exact ⟨same, (noMatter listed same).trans inOrder⟩

end Suggestion

end ScopeResolution

import ScopeResolution.Proofs.Table.Slots

/-! # What a table owns

A table owns every entity that was filed in it once, however the slots are mixed and the names
repeated, with one exception: a label of a name in use takes the place of the earlier label, which the
table does not own any more. One filing adds an entity to what a table owns beside its labels, or it
puts a label (`Filing.owns`), and from there one goes on to any number of filings
(`owned_of_fileAll`). -/

namespace ScopeResolution

namespace FunctionBody

variable {labels : List (Name × EntityId)}

/-- A label takes the place of the label of the same name, if there is one. -/
theorem putLabel_perm (distinct : (labels.map (·.1)).Nodup) (name : Name) (id : EntityId) :
    (putLabel name id labels).Perm ((name, id) :: labels.filter (·.1 ≠ name)) := by
  induction labels with
  | nil => exact List.Perm.refl _
  | cons first rest ih =>
      obtain ⟨other, earlier⟩ := first
      rw [List.map_cons, List.nodup_cons] at distinct
      by_cases same : other = name
      · subst same
        have others : rest.filter (·.1 ≠ other) = rest := by
          refine List.filter_eq_self.2 fun label listed => decide_eq_true fun same => distinct.1 ?_
          exact List.mem_map.2 ⟨label, listed, same⟩
        rw [putLabel, if_pos rfl, List.filter_cons_of_neg (by simp), others]
      · rw [putLabel, if_neg same, List.filter_cons_of_pos (by simpa using same)]
        exact ((ih distinct.2).cons _).trans (List.Perm.swap ..)

/-- The names of labels stay distinct when a label is put. -/
theorem nodup_putLabel (distinct : (labels.map (·.1)).Nodup) (name : Name) (id : EntityId) :
    ((putLabel name id labels).map (·.1)).Nodup := by
  refine ((putLabel_perm distinct name id).map _).nodup_iff.2 (List.nodup_cons.2 ⟨?_, ?_⟩)
  · simp
  · exact distinct.sublist (List.filter_sublist.map _)

end FunctionBody

/-- Something to file in a table: an entity under a name in a slot. -/
structure Entry where
  /-- The slot. -/
  slot : EntrySlot
  /-- The name. -/
  name : Name
  /-- The entity. -/
  entity : EntityId
deriving DecidableEq, Repr, Inhabited

namespace Entry

/-- The entry is a label of a name. -/
def Labels (entry : Entry) (name : Name) : Prop := entry.slot = .label ∧ entry.name = name

instance (entry : Entry) (name : Name) : Decidable (entry.Labels name) :=
  inferInstanceAs (Decidable (_ ∧ _))

/-- One of the entries is a label of a name. -/
def Labelled (entries : List Entry) (name : Name) : Prop := ∃ entry ∈ entries, entry.Labels name

instance (entries : List Entry) (name : Name) : Decidable (Labelled entries name) :=
  inferInstanceAs (Decidable (∃ _ ∈ _, _))

@[simp] theorem not_labelled_nil (name : Name) : ¬ Labelled [] name := by simp [Labelled]

@[simp] theorem labelled_cons {entry : Entry} {later : List Entry} {name : Name} :
    Labelled (entry :: later) name ↔ entry.Labels name ∨ Labelled later name := by
  simp [Labelled]

/-- The entry is a label, and one of the later entries is a label of the same name. -/
def Replaced (entry : Entry) (later : List Entry) : Prop :=
  entry.slot = .label ∧ Labelled later entry.name

instance (entry : Entry) (later : List Entry) : Decidable (entry.Replaced later) :=
  inferInstanceAs (Decidable (_ ∧ _))

/-- The entries that are not replaced by later ones. -/
def unreplaced : List Entry → List Entry
  | [] => []
  | entry :: later => if entry.Replaced later then unreplaced later else entry :: unreplaced later

/-- Entries that are not replaced are among all. -/
theorem unreplaced_sublist (entries : List Entry) : (unreplaced entries).Sublist entries := by
  induction entries with
  | nil => exact List.Sublist.refl _
  | cons entry later ih =>
      rw [unreplaced]
      split
      · exact ih.cons _
      · exact ih.cons_cons _

/-- No entry is replaced when no two labels have the same name. -/
theorem unreplaced_eq_self {entries : List Entry}
    (unrepeated : entries.Pairwise fun entry other =>
      entry.slot = .label → ¬ other.Labels entry.name) : unreplaced entries = entries := by
  induction entries with
  | nil => rfl
  | cons entry later ih =>
      obtain ⟨first, others⟩ := List.pairwise_cons.1 unrepeated
      have stays : ¬ entry.Replaced later := fun ⟨isLabel, other, listed, labels⟩ =>
        first other listed isLabel labels
      rw [unreplaced, if_neg stays, ih others]

end Entry

namespace Table

/-- A table that owns nothing has no labels and nothing beside them. -/
theorem eq_nil_of_owned_eq_nil {table : Table} (none : table.owned = []) :
    table.unlabelled = [] ∧ table.labels = [] := by
  have nothing := table.owned_perm
  rw [none] at nothing
  simpa using nothing.nil_eq

variable {table after : Table} {name : Name} {id : EntityId} {slot : EntrySlot} {index : Nat}

/-- Files entries one after the other; a refusal ends it. -/
def fileAll (table : Table) : List Entry → Except Refusal Table
  | [] => .ok table
  | entry :: later =>
    match table.file entry.slot entry.name entry.entity with
    | .error refusal => .error refusal
    | .ok (_, next) => next.fileAll later

/-- The entries that are filed are taken in one after the other. -/
theorem fileAll_cons_eq_ok {entry : Entry} {later : List Entry}
    (filed : table.fileAll (entry :: later) = .ok after) :
    ∃ next, Filing table entry.name entry.entity entry.slot next ∧
      next.fileAll later = .ok after := by
  rw [fileAll] at filed
  split at filed
  · cases filed
  · exact ⟨_, filing_of_file ‹_›, filed⟩

/-- The labels of a table that none of some entries replaces. -/
def labelsBeside (table : Table) (entries : List Entry) : List EntityId :=
  (table.labels.filter fun label => ¬ Entry.Labelled entries label.1).map (·.2)

/-- A label that is put is one of those that later entries leave, unless they replace it, and it
replaces a label itself. -/
theorem labelsBeside_perm {next : Table} {entry : Entry} {later : List Entry}
    (distinct : (table.labels.map (·.1)).Nodup) (isLabel : entry.slot = .label)
    (put : next.labels = FunctionBody.putLabel entry.name entry.entity table.labels) :
    (next.labelsBeside later).Perm ((if entry.Replaced later then [] else [entry.entity]) ++
      table.labelsBeside (entry :: later)) := by
  have others : (table.labels.filter (·.1 ≠ entry.name)).filter
        (fun label => ¬ Entry.Labelled later label.1) =
      table.labels.filter fun label => ¬ Entry.Labelled (entry :: later) label.1 := by
    rw [List.filter_filter]
    refine List.filter_congr fun label _ => ?_
    simp [Entry.Labels, isLabel, eq_comm, Bool.and_comm]
  have replaced := FunctionBody.putLabel_perm distinct entry.name entry.entity
  rw [← put] at replaced
  refine ((replaced.filter _).map _).trans ?_
  rw [labelsBeside, ← others]
  by_cases labelled : Entry.Labelled later entry.name
  · rw [if_pos ⟨isLabel, labelled⟩, List.filter_cons_of_neg (by simpa using labelled)]
    exact List.Perm.refl _
  · rw [if_neg fun replaced => labelled replaced.2,
      List.filter_cons_of_pos (by simpa using labelled)]
    exact List.Perm.refl _

/-- After some filings, a table owns what it did and what was filed, each once, but for the labels that
were replaced. -/
theorem owned_of_fileAll {entries : List Entry} (distinct : (table.labels.map (·.1)).Nodup)
    (filed : table.fileAll entries = .ok after) :
    after.owned.Perm (table.unlabelled ++
      (table.labelsBeside entries ++ (Entry.unreplaced entries).map (·.entity))) := by
  induction entries generalizing table with
  | nil =>
      cases filed
      have all : after.labels.filter (fun label => ¬ Entry.Labelled [] label.1) = after.labels :=
        List.filter_eq_self.2 fun _ _ => by simp
      rw [labelsBeside, all, Entry.unreplaced, List.map_nil, List.append_nil]
      exact after.owned_perm
  | cons entry later ih =>
      obtain ⟨next, filing, filed⟩ := fileAll_cons_eq_ok filed
      rcases filing.owns with ⟨noLabel, joined, same⟩ | ⟨isLabel, same, put⟩
      · have owned := ih (same ▸ distinct) filed
        have beside : next.labelsBeside later = table.labelsBeside (entry :: later) := by
          simp [labelsBeside, same, Entry.Labels, noLabel]
        have stays : ¬ entry.Replaced later := fun replaced => noLabel replaced.1
        rw [beside] at owned
        rw [Entry.unreplaced, if_neg stays, List.map_cons]
        refine (owned.trans (joined.append_right _)).trans ?_
        simp only [← List.append_assoc]
        exact List.perm_middle.symm
      · have nextDistinct : (next.labels.map (·.1)).Nodup := by
          rw [put]
          exact FunctionBody.nodup_putLabel distinct entry.name entry.entity
        have owned := ih nextDistinct filed
        rw [same] at owned
        refine owned.trans (List.Perm.append_left _ ?_)
        refine ((labelsBeside_perm distinct isLabel put).append_right _).trans ?_
        by_cases replaced : entry.Replaced later
        · simp [Entry.unreplaced, replaced]
        · simp only [Entry.unreplaced, if_neg replaced, List.singleton_append, List.map_cons]
          exact List.perm_middle.symm

/-- A table that owned nothing owns what was filed in it and not replaced, each entity once. -/
theorem owned_of_fileAll_of_owned_eq_nil {entries : List Entry} (empty : table.owned = [])
    (filed : table.fileAll entries = .ok after) :
    after.owned.Perm ((Entry.unreplaced entries).map (·.entity)) := by
  obtain ⟨nothing, noLabels⟩ := eq_nil_of_owned_eq_nil empty
  have owned := owned_of_fileAll (by simp [noLabels]) filed
  simpa [nothing, noLabels, labelsBeside] using owned

end Table

end ScopeResolution

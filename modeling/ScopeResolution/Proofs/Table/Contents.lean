import Mathlib.Tactic.Tauto
import ScopeResolution.Table.Filing

/-! # The contents of tables

What a table lists in any of its slots, and what filing an entity and revising a table make of it.
Filing adds one entity to one slot, so that everything else about the table follows from a case
analysis on the slot (`Filing`). Revising a table, by a peer, by a base or by its completion,
leaves what it lists alone (`Revised.sameContents`). -/

namespace ScopeResolution

namespace OverloadSets

/-- One more entity is among those of all sets, once more than before. -/
theorem entities_insert_perm (overloads : OverloadSets) (name : Name)
    (id : EntityId) : (overloads.insert name id).entities.Perm (id :: overloads.entities) := by
  obtain ⟨sets⟩ := overloads
  simp only [entities, insert]
  induction sets with
  | nil => exact List.Perm.refl _
  | cons set rest ih =>
      obtain ⟨other, members⟩ := set
      rw [insertInto]
      split
      · simp only [List.flatMap_cons, List.append_assoc, List.singleton_append]
        exact List.perm_middle
      · simp only [List.flatMap_cons]
        exact (ih.append_left members).trans List.perm_middle

/-- One more entity is added to the entities of all sets. -/
theorem mem_entities_insert {overloads : OverloadSets} {name : Name} {id entity : EntityId} :
    entity ∈ (overloads.insert name id).entities ↔ entity = id ∨ entity ∈ overloads.entities :=
  (overloads.entities_insert_perm name id).mem_iff.trans List.mem_cons

/-- The entities under one name are among the entities of all sets. -/
theorem get_subset_entities (overloads : OverloadSets) (name : Name) :
    overloads.get name ⊆ overloads.entities := by
  intro entity listed
  obtain ⟨sets⟩ := overloads
  simp only [get, entities] at listed ⊢
  cases found : sets.lookup name with
  | none => simp [found] at listed
  | some members =>
      rw [found, Option.getD_some] at listed
      obtain ⟨set, known, rfl⟩ : ∃ set ∈ sets, set.2 = members := by
        obtain ⟨before, after, split, -⟩ := List.lookup_eq_some_iff.1 found
        exact ⟨(name, members), by simp [split], rfl⟩
      exact List.mem_flatMap.2 ⟨set, known, listed⟩

end OverloadSets

namespace FunctionBody

/-- Putting a label adds its entity to those of the labels and takes at most the entity of an
earlier label of the same name away. -/
theorem mem_putLabel {name : Name} {id : EntityId} {labels : List (Name × EntityId)}
    {label : Name × EntityId} (listed : label ∈ putLabel name id labels) :
    label = (name, id) ∨ label ∈ labels := by
  induction labels with
  | nil => simpa [putLabel] using listed
  | cons first rest ih =>
      obtain ⟨other, earlier⟩ := first
      rw [putLabel] at listed
      split at listed
      · rw [List.mem_cons] at listed ⊢
        tauto
      · rw [List.mem_cons] at listed ⊢
        tauto

/-- A label of a new name goes to the end. -/
theorem putLabel_of_unused {name : Name} (id : EntityId) {labels : List (Name × EntityId)}
    (unused : labels.lookup name = none) : putLabel name id labels = labels ++ [(name, id)] := by
  induction labels with
  | nil => rfl
  | cons first rest ih =>
      obtain ⟨other, earlier⟩ := first
      rw [List.lookup_cons] at unused
      split at unused
      · cases unused
      · rename_i differs
        have other_ne : ¬ other = name := by
          intro same
          simp [same] at differs
        rw [putLabel, if_neg other_ne, ih unused, List.cons_append]

end FunctionBody

namespace Table

/-- Every entity that a table lists in any slot, as often as it is listed. -/
def listed (table : Table) : List EntityId :=
  table.members.entities ++
    match table.form with
    | .classBody _ _ body => body.constructors ++ body.destructor.toList ++ body.conversions
    | .functionBody _ _ body => body.params.map (·.2) ++ body.labels.map (·.2)
    | _ => []

/-- The parameters of a function table; none for other tables. -/
def params (table : Table) : List (Name × EntityId) := (table.function?.map (·.params)).getD []

/-- The labels of a function table; none for other tables. -/
def labels (table : Table) : List (Name × EntityId) := (table.function?.map (·.labels)).getD []

/-- What a table owns beside its labels. -/
def unlabelled (table : Table) : List EntityId :=
  table.params.map (·.2) ++ table.members.entities ++ table.constructors

/-- A table owns its labels and what it owns beside them. -/
theorem owned_perm (table : Table) :
    table.owned.Perm (table.unlabelled ++ table.labels.map (·.2)) := by
  obtain ⟨form, members, peers⟩ := table
  cases form <;> simp [owned, unlabelled, params, labels, constructors, function?, class?]

/-- The label under a name is looked up among the labels. -/
theorem label?_eq (table : Table) (name : Name) : table.label? name = table.labels.lookup name := by
  unfold label? labels
  cases table.function? <;> rfl

/-- What a table owns is listed in it. -/
theorem owned_subset_listed (table : Table) : table.owned ⊆ table.listed := by
  obtain ⟨form, members, peers⟩ := table
  intro entity known
  cases form <;> simp [owned, listed] at known ⊢ <;> tauto

/-- The entries under a name are listed. -/
theorem entries_subset_listed (table : Table) (name : Name) :
    table.entries name ⊆ table.listed := by
  intro entity known
  unfold entries at known
  split at known
  · -- No member has the name, and the parameters of that name show.
    rename_i body _ isFunction
    have params : entity ∈ body.params.map (·.2) := by
      simp only [List.mem_map, List.mem_filter] at known ⊢
      obtain ⟨param, ⟨listed, -⟩, rfl⟩ := known
      exact ⟨param, listed, rfl⟩
    obtain ⟨form, members, peers⟩ := table
    cases form <;> simp [function?] at isFunction
    subst isFunction
    simp only [listed, List.mem_append]
    exact Or.inr (Or.inl params)
  · exact List.mem_append_left _ (table.members.get_subset_entities name known)

/-- The constructors are listed. -/
theorem constructors_subset_listed (table : Table) : table.constructors ⊆ table.listed := by
  obtain ⟨form, members, peers⟩ := table
  intro entity known
  cases form <;> simp [constructors, listed, class?] at known ⊢
  exact Or.inr (Or.inl known)

/-- Two states of a table are in the same place when they are of one kind, nested in one table and
the body of one entity. -/
structure SamePlace (before after : Table) : Prop where
  /-- The kind stays. -/
  kind_eq : after.kind = before.kind
  /-- The table around it stays. -/
  parent?_eq : after.parent? = before.parent?
  /-- The owner stays. -/
  owner?_eq : after.owner? = before.owner?

/-- Tables of one form are in the same place. -/
theorem SamePlace.of_form_eq {before after : Table} (same : after.form = before.form) :
    SamePlace before after :=
  ⟨by rw [kind, kind, same], by rw [parent?, parent?, same], by rw [owner?, owner?, same]⟩

/-- Two states of one class table are in the same place. -/
theorem SamePlace.of_class {before after : Table} {owner : EntityId} {parent : TableId}
    {body body' : ClassBody} (form : before.form = .classBody owner parent body)
    (form' : after.form = .classBody owner parent body') : SamePlace before after :=
  ⟨by rw [kind, kind, form, form'], by rw [parent?, parent?, form, form'],
    by rw [owner?, owner?, form, form']⟩

/-- Two states of one function table are in the same place. -/
theorem SamePlace.of_function {before after : Table} {owner : EntityId} {parent : TableId}
    {body body' : FunctionBody} (form : before.form = .functionBody owner parent body)
    (form' : after.form = .functionBody owner parent body') : SamePlace before after :=
  ⟨by rw [kind, kind, form, form'], by rw [parent?, parent?, form, form'],
    by rw [owner?, owner?, form, form']⟩

/-! ## Filing -/

/-- What filing an entity under a name in a slot makes of a table. A class takes entities in as long
as it is not complete, and one destructor at most. -/
inductive Filing (table : Table) (name : Name) (id : EntityId) : EntrySlot → Table → Prop where
  /-- A member joins the set of its name. -/
  | member (unsealed : ∀ body, table.class? = some body → body.isSealed = false) :
      Filing table name id .member { table with members := table.members.insert name id }
  /-- A constructor joins the constructors alone. -/
  | constructor {owner : EntityId} {parent : TableId} {body : ClassBody}
      (form : table.form = .classBody owner parent body) (unsealed : body.isSealed = false) :
      Filing table name id .constructor
        { table with
          form := .classBody owner parent { body with constructors := body.constructors ++ [id] } }
  /-- A destructor takes the place for it and is a member too. -/
  | destructor {owner : EntityId} {parent : TableId} {body : ClassBody}
      (form : table.form = .classBody owner parent body) (unsealed : body.isSealed = false)
      (vacant : body.destructor = none) :
      Filing table name id .destructor
        { table with
          form := .classBody owner parent { body with destructor := some id }
          members := table.members.insert name id }
  /-- A conversion operator joins the conversion operators and is a member too. -/
  | conversion {owner : EntityId} {parent : TableId} {body : ClassBody}
      (form : table.form = .classBody owner parent body) (unsealed : body.isSealed = false) :
      Filing table name id .conversion
        { table with
          form := .classBody owner parent { body with conversions := body.conversions ++ [id] }
          members := table.members.insert name id }
  /-- A parameter joins the parameters. -/
  | parameter {owner : EntityId} {parent : TableId} {body : FunctionBody}
      (form : table.form = .functionBody owner parent body) :
      Filing table name id .parameter
        { table with
          form := .functionBody owner parent { body with params := body.params ++ [(name, id)] } }
  /-- A label takes the place of its name among the labels. -/
  | label {owner : EntityId} {parent : TableId} {body : FunctionBody}
      (form : table.form = .functionBody owner parent body) :
      Filing table name id .label
        { table with
          form := .functionBody owner parent
            { body with labels := FunctionBody.putLabel name id body.labels } }

variable {table after : Table} {name : Name} {id : EntityId} {slot : EntrySlot} {index : Nat}

/-- What a class table makes of an entity that it takes in. -/
theorem filing_of_fileInClass {owner : EntityId} {parent : TableId} {body : ClassBody}
    (form : table.form = .classBody owner parent body)
    (filed : table.fileInClass owner parent body slot name id = .ok (index, after)) :
    Filing table name id slot after := by
  unfold fileInClass at filed
  split at filed
  · cases filed
  · rename_i notSealed
    have unsealed : body.isSealed = false := by simpa using notSealed
    cases slot with
    | member =>
        cases filed
        exact .member fun other isClass => by
          simp only [class?, form, Option.some.injEq] at isClass
          rw [← isClass, unsealed]
    | constructor => cases filed; exact .constructor form unsealed
    | destructor =>
        simp only at filed
        split at filed
        · cases filed
        · rename_i vacant
          cases filed
          exact .destructor form unsealed (by simpa using vacant)
    | conversion => cases filed; exact .conversion form unsealed
    | parameter => cases filed
    | label => cases filed

/-- What a function table makes of an entity that it takes in. -/
theorem filing_of_fileInFunction {owner : EntityId} {parent : TableId} {body : FunctionBody}
    (form : table.form = .functionBody owner parent body)
    (filed : table.fileInFunction owner parent body slot name id = .ok (index, after)) :
    Filing table name id slot after := by
  unfold fileInFunction at filed
  cases slot with
  | member => cases filed; exact .member fun other isClass => by simp [class?, form] at isClass
  | parameter => cases filed; exact .parameter form
  | label => cases filed; exact .label form
  | constructor => cases filed
  | destructor => cases filed
  | conversion => cases filed

/-- Filing succeeds in one way for each slot. -/
theorem filing_of_file (filed : table.file slot name id = .ok (index, after)) :
    Filing table name id slot after := by
  unfold file at filed
  split at filed
  · exact filing_of_fileInClass ‹_› filed
  · exact filing_of_fileInFunction ‹_› filed
  · rename_i notClass notFunction
    split at filed
    · rename_i isMember
      cases filed
      rw [isMember]
      refine .member fun body isClass => ?_
      unfold class? at isClass
      split at isClass
      · exact absurd ‹_› (notClass _ _ _)
      · cases isClass
    · cases filed

/-- No table but that of a function takes a label. -/
theorem file_label_of_kind_ne {table : Table} (outside : table.kind ≠ .functionTable) (name : Name)
    (id : EntityId) : ∃ refusal, table.file .label name id = .error refusal := by
  unfold file
  split
  · unfold fileInClass
    split
    · exact ⟨_, rfl⟩
    · exact ⟨_, rfl⟩
  · rename_i form
    exact absurd (by rw [kind, form]) outside
  · exact ⟨_, rfl⟩

namespace Filing

/-- Filing keeps a table in its place. -/
theorem samePlace (filing : Filing table name id slot after) : SamePlace table after := by
  cases filing with
  | member => exact .of_form_eq rfl
  | constructor form => exact .of_class form rfl
  | destructor form => exact .of_class form rfl
  | conversion form => exact .of_class form rfl
  | parameter form => exact .of_function form rfl
  | label form => exact .of_function form rfl

/-- A table lists nothing new but the entity that is filed. -/
theorem mem_listed (filing : Filing table name id slot after) {entity : EntityId}
    (listed : entity ∈ after.listed) : entity = id ∨ entity ∈ table.listed := by
  cases filing with
  | member =>
      simp only [Table.listed, List.mem_append, OverloadSets.mem_entities_insert] at listed ⊢
      tauto
  | constructor form =>
      simp only [Table.listed, form, List.mem_append, List.mem_singleton] at listed ⊢
      tauto
  | destructor form unsealed vacant =>
      simp only [Table.listed, form, vacant, List.mem_append, OverloadSets.mem_entities_insert,
        Option.toList_some, List.mem_singleton] at listed ⊢
      tauto
  | conversion form =>
      simp only [Table.listed, form, List.mem_append, OverloadSets.mem_entities_insert,
        List.mem_singleton] at listed ⊢
      tauto
  | parameter form =>
      simp only [Table.listed, form, List.mem_append, List.map_append, List.map_cons, List.map_nil,
        List.mem_singleton] at listed ⊢
      tauto
  | label form =>
      simp only [Table.listed, form, List.mem_append] at listed ⊢
      rcases listed with member | param | label
      · exact Or.inr (Or.inl member)
      · exact Or.inr (Or.inr (Or.inl param))
      · obtain ⟨pair, put, rfl⟩ := List.mem_map.1 label
        rcases FunctionBody.mem_putLabel put with rfl | earlier
        · exact Or.inl rfl
        · exact Or.inr (Or.inr (Or.inr (List.mem_map_of_mem earlier)))

/-- An entity that is filed in another slot than the labels joins what a table owns beside its labels,
once; one that is filed among the labels leaves that alone. -/
theorem owns (filing : Filing table name id slot after) :
    slot ≠ .label ∧ after.unlabelled.Perm (id :: table.unlabelled) ∧
        after.labels = table.labels ∨
      slot = .label ∧ after.unlabelled = table.unlabelled ∧
        after.labels = FunctionBody.putLabel name id table.labels := by
  -- A member stands in the middle of what is owned beside the labels.
  have member (params constructors : List EntityId) :
      (params ++ (table.members.insert name id).entities ++ constructors).Perm
        (id :: (params ++ table.members.entities ++ constructors)) := by
    have joined := table.members.entities_insert_perm name id
    exact ((joined.append_left params).append_right constructors).trans
      (List.perm_middle.append_right constructors)
  obtain ⟨form, members, peers⟩ := table
  cases filing with
  | member => exact Or.inl ⟨by decide, member _ _, rfl⟩
  | constructor isClass =>
      cases isClass
      refine Or.inl ⟨by decide, ?_, rfl⟩
      simp only [unlabelled, constructors, class?, Option.map_some, Option.getD_some,
        ← List.append_assoc]
      exact List.perm_append_singleton id _
  | destructor isClass => cases isClass; exact Or.inl ⟨by decide, member _ _, rfl⟩
  | conversion isClass => cases isClass; exact Or.inl ⟨by decide, member _ _, rfl⟩
  | parameter isFunction =>
      cases isFunction
      refine Or.inl ⟨by decide, ?_, rfl⟩
      simp only [unlabelled, params, function?, Option.map_some, Option.getD_some, List.map_append,
        List.append_assoc, List.map_cons, List.map_nil, List.singleton_append]
      exact List.perm_middle
  | label isFunction => cases isFunction; exact Or.inr ⟨rfl, rfl, rfl⟩

/-- A table owns nothing new but the entity that is filed. -/
theorem mem_owned (filing : Filing table name id slot after) {entity : EntityId}
    (owned : entity ∈ after.owned) : entity = id ∨ entity ∈ table.owned := by
  rw [after.owned_perm.mem_iff, List.mem_append] at owned
  rw [table.owned_perm.mem_iff, List.mem_append]
  rcases filing.owns with ⟨-, joined, same⟩ | ⟨-, same, put⟩
  · rw [joined.mem_iff, List.mem_cons, same] at owned
    tauto
  · rw [same, put] at owned
    rcases owned with beside | label
    · exact Or.inr (Or.inl beside)
    · obtain ⟨pair, listed, rfl⟩ := List.mem_map.1 label
      rcases FunctionBody.mem_putLabel listed with rfl | earlier
      · exact Or.inl rfl
      · exact Or.inr (Or.inr (List.mem_map_of_mem earlier))

/-- A table owns what it owned and the entity that is filed, unless that is a label of a name in
use. -/
theorem mem_owned_of (filing : Filing table name id slot after)
    (unused : slot = .label → table.label? name = none) {entity : EntityId}
    (owned : entity = id ∨ entity ∈ table.owned) : entity ∈ after.owned := by
  rw [table.owned_perm.mem_iff, List.mem_append] at owned
  rw [after.owned_perm.mem_iff, List.mem_append]
  rcases filing.owns with ⟨-, joined, same⟩ | ⟨isLabel, same, put⟩
  · rw [joined.mem_iff, List.mem_cons, same]
    tauto
  · -- No label of the name is replaced, so the labels grow at the end.
    have free := unused isLabel
    rw [label?_eq] at free
    rw [same, put, FunctionBody.putLabel_of_unused id free]
    simp only [List.map_append, List.map_cons, List.map_nil, List.mem_append, List.mem_singleton]
    tauto

/-- The constructors of a table grow at their end by a constructor that is filed. -/
theorem constructors_append (filing : Filing table name id slot after) :
    after.constructors = table.constructors ++ if slot = .constructor then [id] else [] := by
  cases filing with
  | member => simp [Table.constructors, class?]
  | constructor form => simp [Table.constructors, class?, form]
  | destructor form => simp [Table.constructors, class?, form]
  | conversion form => simp [Table.constructors, class?, form]
  | parameter form => simp [Table.constructors, class?, form]
  | label form => simp [Table.constructors, class?, form]

/-- The constructors of a table grow by a constructor that is filed, and by nothing else. -/
theorem constructors_cases (filing : Filing table name id slot after) :
    after.constructors = table.constructors ∨
      slot = .constructor ∧ after.constructors = table.constructors ++ [id] := by
  rw [filing.constructors_append]
  by_cases isConstructor : slot = .constructor
  · exact Or.inr ⟨isConstructor, by rw [if_pos isConstructor]⟩
  · exact Or.inl (by rw [if_neg isConstructor, List.append_nil])

end Filing

/-- The members under a name hide the parameters of that name. -/
theorem entries_of_members (table : Table) {query : Name}
    (present : table.members.get query ≠ []) :
    table.entries query = table.members.get query := by
  unfold entries
  split
  · exact absurd ‹_› present
  · rfl

/-- Where no member has a name, its entries are the parameters of that name. -/
theorem entries_of_no_members (table : Table) {query : Name}
    (absent : table.members.get query = []) :
    table.entries query =
      ((table.function?.map (·.params)).getD []).filterMap
        fun param => if param.1 = query then some param.2 else none := by
  unfold entries
  cases isFunction : table.function? with
  | none => simp [absent]
  | some body =>
      simp only [absent, Option.map_some, Option.getD_some]
      induction body.params with
      | nil => rfl
      | cons param rest ih =>
          by_cases same : param.1 = query
          · simp [same, ih]
          · simp [same, ih]

/-- Tables with the same members and parameters under a name have the same entries under it. -/
theorem entries_congr {before after : Table} {query : Name}
    (members : after.members.get query = before.members.get query)
    (params : after.function?.map (·.params) = before.function?.map (·.params)) :
    after.entries query = before.entries query := by
  by_cases absent : before.members.get query = []
  · rw [entries_of_no_members before absent, entries_of_no_members after (members.trans absent),
      params]
  · rw [entries_of_members before absent, entries_of_members after (by rw [members]; exact absent),
      members]

/-- A new member goes to the end of the entries of its name, or hides them when they are
parameters. -/
theorem entries_insert (before after : Table) (name query : Name) (id : EntityId)
    (members : after.members = before.members.insert name id)
    (params : after.function?.map (·.params) = before.function?.map (·.params)) :
    after.entries query = before.entries query ∨
      query = name ∧
        (after.entries query = before.entries query ++ [id] ∨ after.entries query = [id]) := by
  by_cases same : query = name
  · -- There is a member of the name now, so the entries are the members.
    have grown : after.members.get query = before.members.get query ++ [id] := by
      rw [members, OverloadSets.get_insert, if_pos same]
    refine Or.inr ⟨same, ?_⟩
    rw [entries_of_members after (by rw [grown]; simp), grown]
    by_cases absent : before.members.get query = []
    · exact Or.inr (by rw [absent, List.nil_append])
    · exact Or.inl (by rw [entries_of_members before absent])
  · refine Or.inl (entries_congr ?_ params)
    rw [members, OverloadSets.get_insert, if_neg same]

/-- A new parameter goes to the end of the entries of its name, unless members hide it. -/
theorem entries_append_param (before after : Table) (name query : Name) (id : EntityId)
    {params : List (Name × EntityId)} (members : after.members = before.members)
    (known : before.function?.map (·.params) = some params)
    (grown : after.function?.map (·.params) = some (params ++ [(name, id)])) :
    after.entries query = before.entries query ∨
      query = name ∧ after.entries query = before.entries query ++ [id] := by
  -- Where a member has the name, no parameter of that name shows, old or new.
  by_cases absent : before.members.get query = []
  · rw [entries_of_no_members before absent, known,
      entries_of_no_members after (by rw [members]; exact absent), grown]
    by_cases same : name = query
    · exact Or.inr ⟨same.symm, by simp [same]⟩
    · exact Or.inl (by simp [same])
  · refine Or.inl ?_
    rw [entries_of_members before absent, entries_of_members after (by rw [members]; exact absent),
      members]

namespace Filing

/-- What filing makes of the entries under a name: it leaves them alone, or the entity is filed
under that name among the members or the parameters, and then it goes to their end or hides them
all. -/
theorem entries_cases (filing : Filing table name id slot after) (query : Name) :
    after.entries query = table.entries query ∨
      (query = name ∧ slot ≠ .constructor ∧ slot ≠ .label) ∧
        (after.entries query = table.entries query ++ [id] ∨ after.entries query = [id]) := by
  cases filing with
  | member =>
      have grown := entries_insert table
        { table with members := table.members.insert name id } name query id rfl rfl
      exact grown.imp_right fun filed => ⟨⟨filed.1, by decide, by decide⟩, filed.2⟩
  | constructor form => exact Or.inl (entries_congr rfl (by simp [function?, form]))
  | destructor form =>
      refine (entries_insert table _ name query id rfl (by simp [function?, form])).imp_right ?_
      exact fun filed => ⟨⟨filed.1, by decide, by decide⟩, filed.2⟩
  | conversion form =>
      refine (entries_insert table _ name query id rfl (by simp [function?, form])).imp_right ?_
      exact fun filed => ⟨⟨filed.1, by decide, by decide⟩, filed.2⟩
  | @parameter owner parent body form =>
      -- A parameter never hides anything, so of the two ways to grow only the first is left.
      let grown : FunctionBody := { body with params := body.params ++ [(name, id)] }
      have filed := entries_append_param table
        { table with form := .functionBody owner parent grown } name query id rfl
        (by rw [function?, form]; rfl) rfl
      exact filed.imp_right fun filed => ⟨⟨filed.1, by decide, by decide⟩, Or.inl filed.2⟩
  | label form => exact Or.inl (entries_congr rfl (by simp [function?, form]))

end Filing

/-! ## Revising -/

/-- What a peer, a base or its completion makes of a table. -/
inductive Revised (table : Table) : Table → Prop where
  /-- The table gets a further peer. -/
  | peer {after : Table} (peer : TableId) (added : table.addPeer peer = .ok after) :
      Revised table after
  /-- The class gets a further base. -/
  | base {after : Table} (base : Base) (added : table.addBase base = .ok after) :
      Revised table after
  /-- The class is complete. -/
  | completed {after : Table} (completed : table.complete? = some after) : Revised table after

/-- Two states of a table list the same entities in the same slots. -/
structure SameContents (before after : Table) : Prop extends SamePlace before after where
  /-- The members stay. -/
  members_eq : after.members = before.members
  /-- What is listed in any slot stays. -/
  listed_eq : after.listed = before.listed
  /-- What is owned stays. -/
  owned_eq : after.owned = before.owned
  /-- The constructors stay. -/
  constructors_eq : after.constructors = before.constructors
  /-- The parameters and labels stay. -/
  function?_eq : after.function? = before.function?

/-- Tables that differ in their peers alone have the same contents. -/
theorem SameContents.of_form_eq {before after : Table} (form : after.form = before.form)
    (members : after.members = before.members) : SameContents before after where
  toSamePlace := .of_form_eq form
  members_eq := members
  listed_eq := by rw [listed, listed, form, members]
  owned_eq := by rw [owned, owned, form, members]
  constructors_eq := by rw [constructors, constructors, class?, class?, form]
  function?_eq := by rw [function?, function?, form]

/-- Class tables that differ in their bases and their state alone have the same contents. -/
theorem SameContents.of_class {before after : Table} {owner : EntityId} {parent : TableId}
    {body : ClassBody} (form : before.form = .classBody owner parent body) {bases : List Base}
    {isSealed : Bool}
    (form' : after.form = .classBody owner parent { body with bases, isSealed })
    (members : after.members = before.members) : SameContents before after where
  toSamePlace := .of_class form form'
  members_eq := members
  listed_eq := by rw [listed, listed, form, form', members]
  owned_eq := by rw [owned, owned, form, form', members]
  constructors_eq := by simp only [constructors, class?, form, form', Option.map_some]
  function?_eq := by rw [function?, function?, form, form']

/-- The same contents give the same entries. -/
theorem SameContents.entries_eq {before after : Table} (same : SameContents before after)
    (query : Name) : after.entries query = before.entries query := by
  rw [entries, entries, same.members_eq, same.function?_eq]

/-- Revising a table leaves its contents alone. -/
theorem Revised.sameContents (revised : Revised table after) : SameContents table after := by
  cases revised with
  | peer peer added =>
      have keeps (other : TableId) : SameContents table (table.withPeer other) := by
        unfold withPeer
        split
        · exact .of_form_eq rfl rfl
        · exact .of_form_eq rfl rfl
      unfold addPeer at added
      split at added
      · split at added
        · cases added
        · cases added; exact keeps peer
      · cases added
      · cases added; exact keeps peer
  | base base added =>
      unfold addBase at added
      split at added
      · rename_i form
        split at added
        · cases added
        · cases added; exact .of_class form rfl rfl
      · cases added
  | completed completed =>
      unfold complete? at completed
      split at completed
      · rename_i form
        cases completed; exact .of_class form rfl rfl
      · cases completed

end Table

end ScopeResolution

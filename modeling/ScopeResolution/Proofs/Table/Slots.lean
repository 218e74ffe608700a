import ScopeResolution.Proofs.Table.Contents

/-! # The slots of tables

A table lists each entity in one slot under one name (`Table.Lists`); destructors and conversion
operators are listed as members too, which is where lookups find them. Filing an entity puts it at
the end of its slot and leaves the rest of the table alone (`Filing.eq_append`, `gains_append`), and a
table that changes goes on listing what it listed (`Filing.lists_kept`). -/

namespace ScopeResolution

/-- The shape of a table with one more entity at the end of a slot. -/
def TableForm.append (form : TableForm) (slot : EntrySlot) (name : Name) (id : EntityId) :
    TableForm :=
  match form, slot with
  | .classBody owner parent body, .constructor =>
    .classBody owner parent { body with constructors := body.constructors ++ [id] }
  | .classBody owner parent body, .destructor =>
    .classBody owner parent { body with destructor := some id }
  | .classBody owner parent body, .conversion =>
    .classBody owner parent { body with conversions := body.conversions ++ [id] }
  | .functionBody owner parent body, .parameter =>
    .functionBody owner parent { body with params := body.params ++ [(name, id)] }
  | .functionBody owner parent body, .label =>
    .functionBody owner parent { body with labels := body.labels ++ [(name, id)] }
  | form, _ => form

/-- Whether what is filed in a slot is a member too, so that ordinary lookup finds it. -/
def EntrySlot.isMember : EntrySlot → Bool
  | .member | .destructor | .conversion => true
  | .constructor | .parameter | .label => false

/-- Constructors and labels are no members. -/
theorem EntrySlot.ne_of_isMember {slot : EntrySlot} (isMember : slot.isMember = true) :
    slot ≠ .constructor ∧ slot ≠ .label := by
  constructor <;> rintro rfl <;> cases isMember

/-- What is neither a constructor, a label nor a parameter is a member. -/
theorem EntrySlot.isMember_of_ne {slot : EntrySlot} (notConstructor : slot ≠ .constructor)
    (notLabel : slot ≠ .label) (notParameter : slot ≠ .parameter) : slot.isMember = true := by
  cases slot <;> first | rfl | contradiction

namespace Table

/-- A table with one more entity under a name, at the end of a slot. -/
def append (table : Table) (slot : EntrySlot) (name : Name) (id : EntityId) : Table :=
  { table with
    form := table.form.append slot name id
    members := if slot.isMember then table.members.insert name id else table.members }

/-- A table lists an entity in a slot under a name. Constructors are listed under no name. -/
def Lists (table : Table) (slot : EntrySlot) (name : Name) (id : EntityId) : Prop :=
  match slot with
  | .constructor => id ∈ table.constructors
  | .parameter => (name, id) ∈ table.params
  | .label => (name, id) ∈ table.labels
  | .member | .destructor | .conversion => id ∈ table.members.get name

/-- A table gains an entity under a name at the end of a slot, and is otherwise the same: nested in
the same table, the body of the same entity, and with the same peers. -/
structure Gains (before : Table) (slot : EntrySlot) (name : Name) (id : EntityId)
    (after : Table) : Prop where
  /-- A member comes after the members of its name, and so do destructors and conversion
  operators. -/
  members_eq : ∀ query, after.members.get query =
    before.members.get query ++ if slot.isMember = true ∧ query = name then [id] else []
  /-- In a class, constructors and conversion operators come after those before them, and a
  destructor takes the place for it. -/
  class?_eq : after.class? = before.class?.map fun body =>
    { body with
      constructors := body.constructors ++ if slot = .constructor then [id] else []
      destructor := if slot = .destructor then some id else body.destructor
      conversions := body.conversions ++ if slot = .conversion then [id] else [] }
  /-- In a function, parameters and labels come after those before them, under their names. -/
  function?_eq : after.function? = before.function?.map fun body =>
    { params := body.params ++ if slot = .parameter then [(name, id)] else []
      labels := body.labels ++ if slot = .label then [(name, id)] else [] }
  /-- The table stays in its place. -/
  samePlace : SamePlace before after
  /-- The peers stay. -/
  peers_eq : after.peers = before.peers

/-- A table with one more entity at the end of a slot has gained that entity. -/
theorem gains_append (table : Table) (slot : EntrySlot) (name : Name) (id : EntityId) :
    table.Gains slot name id (table.append slot name id) where
  members_eq query := by
    by_cases isMember : slot.isMember = true
    · by_cases same : query = name
      · simp [append, isMember, OverloadSets.get_insert, same]
      · simp [append, isMember, OverloadSets.get_insert, same]
    · simp [append, isMember]
  class?_eq := by
    obtain ⟨form, members, peers⟩ := table
    cases form with
    | classBody => cases slot <;> simp [append, TableForm.append, class?]
    | _ => cases slot <;> rfl
  function?_eq := by
    obtain ⟨form, members, peers⟩ := table
    cases form with
    | functionBody => cases slot <;> simp [append, TableForm.append, function?]
    | _ => cases slot <;> rfl
  samePlace := by
    obtain ⟨form, members, peers⟩ := table
    constructor <;> cases form <;> cases slot <;> rfl
  peers_eq := rfl

variable {table after : Table} {name : Name} {id : EntityId} {slot : EntrySlot}

namespace Filing

/-- Filing puts an entity at the end of its slot and leaves the rest of the table alone, unless it
is a label of a name in use. -/
theorem eq_append (filing : Filing table name id slot after)
    (unused : slot = .label → table.label? name = none) : after = table.append slot name id := by
  obtain ⟨form, members, peers⟩ := table
  cases filing with
  | member =>
      -- No shape of table keeps its members apart.
      have same : form.append .member name id = form := by cases form <;> rfl
      simp only [append, same, EntrySlot.isMember, if_true]
  | constructor isClass => cases isClass; rfl
  | destructor isClass => cases isClass; rfl
  | conversion isClass => cases isClass; rfl
  | parameter isFunction => cases isFunction; rfl
  | label isFunction =>
      cases isFunction
      have free := unused rfl
      simp only [label?, function?, Option.bind_some] at free
      rw [FunctionBody.putLabel_of_unused id free]
      rfl

/-- A table lists what is filed in it. -/
theorem lists_new (filing : Filing table name id slot after)
    (unused : slot = .label → table.label? name = none) : after.Lists slot name id := by
  rw [filing.eq_append unused]
  obtain ⟨form, members, peers⟩ := table
  cases filing with
  | member => simp [append, Lists, EntrySlot.isMember, OverloadSets.get_insert]
  | destructor => simp [append, Lists, EntrySlot.isMember, OverloadSets.get_insert]
  | conversion => simp [append, Lists, EntrySlot.isMember, OverloadSets.get_insert]
  | constructor isClass => cases isClass; simp [append, Lists, TableForm.append, constructors, class?]
  | parameter isFunction =>
      cases isFunction; simp [append, Lists, TableForm.append, params, function?]
  | label isFunction => cases isFunction; simp [append, Lists, TableForm.append, labels, function?]

/-- The members under a name stay when an entity is filed. -/
theorem members_kept (filing : Filing table name id slot after) (query : Name) :
    table.members.get query ⊆ after.members.get query := by
  have grown : table.members.get query ⊆ (table.members.insert name id).get query := by
    rw [OverloadSets.get_insert]
    split
    · exact List.subset_append_left _ _
    · exact List.Subset.refl _
  cases filing with
  | member => exact grown
  | destructor => exact grown
  | conversion => exact grown
  | constructor => exact List.Subset.refl _
  | parameter => exact List.Subset.refl _
  | label => exact List.Subset.refl _

/-- The parameters stay when an entity is filed. -/
theorem params_kept (filing : Filing table name id slot after) : table.params ⊆ after.params := by
  cases filing with
  | member => exact List.Subset.refl _
  | parameter form => simp [params, function?, form]
  | _ form => simp [params, function?, form]

/-- The labels stay when an entity is filed, unless it is a label of a name in use. -/
theorem labels_kept (filing : Filing table name id slot after)
    (unused : slot = .label → table.label? name = none) : table.labels ⊆ after.labels := by
  cases filing with
  | member => exact List.Subset.refl _
  | label form =>
      have free := unused rfl
      rw [label?, function?, form] at free
      simp [labels, function?, form, FunctionBody.putLabel_of_unused id free]
  | _ form => simp [labels, function?, form]

/-- The constructors stay when an entity is filed. -/
theorem constructors_kept (filing : Filing table name id slot after) :
    table.constructors ⊆ after.constructors := by
  rcases filing.constructors_cases with same | ⟨-, grown⟩
  · rw [same]
    exact List.Subset.refl _
  · rw [grown]
    exact List.subset_append_left _ _

/-- The entries under a name grow at their end by what is filed under it, unless that is a
constructor or a label. No parameter of the name may be there for a member to hide, and no member for
it to be hidden by. -/
theorem entries_append (filing : Filing table name id slot after)
    (shown : slot.isMember = true → table.entries name = table.members.get name)
    (unhidden : slot = .parameter → table.members.get name = []) (query : Name) :
    after.entries query = table.entries query ++
      if query = name ∧ slot ≠ .constructor ∧ slot ≠ .label then [id] else [] := by
  have kept (members : after.members = table.members)
      (params : after.function?.map (·.params) = table.function?.map (·.params)) :
      after.entries query = table.entries query :=
    entries_congr (by rw [members]) params
  have member (isMember : slot.isMember = true)
      (members : after.members = table.members.insert name id)
      (params : after.function?.map (·.params) = table.function?.map (·.params)) :
      after.entries query = table.entries query ++ if query = name then [id] else [] := by
    by_cases same : query = name
    · subst same
      have grown : after.members.get query = table.members.get query ++ [id] := by
        rw [members, OverloadSets.get_insert, if_pos rfl]
      rw [if_pos rfl, entries_of_members after (by rw [grown]; simp), grown, shown isMember]
    · rw [if_neg same, List.append_nil]
      exact entries_congr (by rw [members, OverloadSets.get_insert, if_neg same]) params
  have parameter {params : List (Name × EntityId)} (absent : table.members.get name = [])
      (members : after.members = table.members)
      (known : table.function?.map (·.params) = some params)
      (grown : after.function?.map (·.params) = some (params ++ [(name, id)])) :
      after.entries query = table.entries query ++ if query = name then [id] else [] := by
    by_cases same : query = name
    · subst same
      rw [if_pos rfl, entries_of_no_members after (by rw [members]; exact absent), grown,
        entries_of_no_members table absent, known]
      simp
    · -- The parameters of other names are the same as before.
      rw [if_neg same, List.append_nil]
      exact (entries_append_param table after name query id members known grown).resolve_right
        fun filed => same filed.1
  cases filing with
  | member => simpa using member rfl rfl rfl
  | destructor form => simpa using member rfl rfl (by simp [function?, form])
  | conversion form => simpa using member rfl rfl (by simp [function?, form])
  | parameter form =>
      simpa using parameter (unhidden rfl) rfl (by rw [function?, form]; rfl) rfl
  | constructor form => simpa using kept rfl (by simp [function?, form])
  | label form => simpa using kept rfl (by simp [function?, form])

end Filing

/-- A table files a member under the index that follows those of the members of its name. -/
theorem index_of_file {index : Nat} (filed : table.file slot name id = .ok (index, after))
    (isMember : slot.isMember = true) : index = (table.members.get name).length := by
  unfold file fileInClass fileInFunction fileMember at filed
  cases slot with
  | member => grind
  | destructor => grind
  | conversion => grind
  | _ => cases isMember

/-- A table that has at least what another one has in each slot lists what that one lists. -/
theorem Lists.mono (lists : table.Lists slot name id)
    (members : table.members.get name ⊆ after.members.get name)
    (constructors : table.constructors ⊆ after.constructors)
    (params : table.params ⊆ after.params)
    (labels : slot = .label → table.labels ⊆ after.labels) : after.Lists slot name id := by
  cases slot with
  | constructor => exact constructors lists
  | parameter => exact params lists
  | label => exact labels rfl lists
  | member => exact members lists
  | destructor => exact members lists
  | conversion => exact members lists

/-- A table goes on listing what it listed when an entity is filed; a label of a name in use takes
the place of another label only. -/
theorem Filing.lists_kept (filing : Filing table name id slot after) {slot' : EntrySlot}
    {name' : Name} {id' : EntityId}
    (unused : slot = .label → slot' = .label → table.label? name = none)
    (lists : table.Lists slot' name' id') : after.Lists slot' name' id' :=
  lists.mono (filing.members_kept name') filing.constructors_kept filing.params_kept
    fun isLabel => filing.labels_kept fun filesLabel => unused filesLabel isLabel

/-- A table that is revised goes on listing what it listed. -/
theorem Revised.lists_kept (revised : Revised table after) (lists : table.Lists slot name id) :
    after.Lists slot name id := by
  have same := revised.sameContents
  refine lists.mono ?_ ?_ ?_ fun _ => ?_
  · rw [same.members_eq]
    exact List.Subset.refl _
  · rw [same.constructors_eq]
    exact List.Subset.refl _
  · rw [params, params, same.function?_eq]
    exact List.Subset.refl _
  · rw [labels, labels, same.function?_eq]
    exact List.Subset.refl _

/-- What a table lists in a slot is among all that it owns. -/
theorem Lists.mem_owned (lists : table.Lists slot name id) : id ∈ table.owned := by
  have member (listed : id ∈ table.members.get name) : id ∈ table.owned := by
    have known := table.members.get_subset_entities name listed
    obtain ⟨form, members, peers⟩ := table
    cases form <;> simp only [owned, List.mem_append] <;> tauto
  obtain ⟨form, members, peers⟩ := table
  cases slot with
  | constructor =>
      cases form <;> simp [Lists, constructors, class?] at lists
      exact List.mem_append_right _ lists
  | parameter =>
      cases form <;> simp [Lists, params, function?] at lists
      exact List.mem_append_left _ (List.mem_append_left _ (List.mem_map_of_mem lists))
  | label =>
      cases form <;> simp [Lists, labels, function?] at lists
      exact List.mem_append_right _ (List.mem_map_of_mem lists)
  | member => exact member lists
  | destructor => exact member lists
  | conversion => exact member lists

/-- What a table lists in a slot is among all that it lists. -/
theorem Lists.mem_listed (lists : table.Lists slot name id) : id ∈ table.listed :=
  table.owned_subset_listed lists.mem_owned

/-- The label under a name is listed under it. -/
theorem lists_of_label? (labelled : table.label? name = some id) : table.Lists .label name id := by
  unfold label? at labelled
  obtain ⟨body, isFunction, found⟩ := Option.bind_eq_some_iff.1 labelled
  obtain ⟨before, after, split, -⟩ := List.lookup_eq_some_iff.1 found
  simp [Lists, labels, isFunction, split]

/-- What is listed in a slot of members is among the members of its name. -/
theorem Lists.mem_members (lists : table.Lists slot name id) (isMember : slot.isMember = true) :
    id ∈ table.members.get name := by
  cases slot <;> first | exact lists | cases isMember

/-- What is listed as a member shows among the entries of its name. -/
theorem Lists.mem_entries (lists : table.Lists slot name id) (isMember : slot.isMember = true) :
    id ∈ table.entries name := by
  have member := lists.mem_members isMember
  rw [table.entries_of_members (List.ne_nil_of_mem member)]
  exact member

/-- A parameter shows among the entries of its name where no member has that name. -/
theorem Lists.mem_entries_of_parameter (lists : table.Lists .parameter name id)
    (absent : table.members.get name = []) : id ∈ table.entries name := by
  rw [table.entries_of_no_members absent]
  exact List.mem_filterMap.2 ⟨(name, id), lists, if_pos rfl⟩

end Table

end ScopeResolution

import ScopeResolution.Proofs.Lookup.MemberOrigin
import ScopeResolution.Proofs.Resolver.OverloadVerdicts

/-! # Overloads in functions and blocks

A function or block does not take a free function beside another one of its role
(`declaresByRole_of_run`). Only functions of the same role are looked at for that, so functions of
different roles, such as a function and a function template, do form an overload set in a function
(`declareTemplateInside`). -/

namespace ScopeResolution

/-- Two entities of these kinds that no class lists are not free functions of one role. -/
def EntityKind.DifferInRole (first second : EntityKind) : Prop :=
  (first.role false).isFreeFunction = true → first.role false ≠ second.role false

/-- A table of a function or block is not one of a class. -/
theorem TableKind.ne_classTable_of_isLocal {kind : TableKind} (isLocal : kind.isLocal = true) :
    (kind == .classTable) = false := by
  cases kind <;> first | rfl | cases isLocal

namespace SymbolStore

variable {store : SymbolStore} {id target : TableId} {table : Table} {draft : Draft}

/-- The entries of a function or block under one name hold no two free functions of one role. -/
def OneOfEachRole (store : SymbolStore) : Prop :=
  store.RelatedEntries fun kind first second =>
    kind.isLocal = true → EntityKind.DifferInRole first second

/-- A draft that a function or block takes is no free function of the role of an entry. -/
theorem differInRole_of_accepted (linked : store.Linked)
    (known : store.tables.get? target = some table) (isLocal : table.kind.isLocal = true)
    (looked : store.priorDeclarations target draft = store.hitsOf (table.entries draft.name))
    (accepted : store.Accepted target draft) {member : EntityId}
    (isMember : member ∈ table.entries draft.name) {entity : Entity}
    (found : store.entities.get? member = some entity) :
    EntityKind.DifferInRole entity.kind draft.kind := by
  intro isFree same
  obtain ⟨prior, judgement, isHit, judged, isAccepted⟩ := judged_of_accepted linked known
    (table.entries_subset_listed draft.name) looked accepted isMember found
  rw [TableKind.ne_classTable_of_isLocal isLocal] at isHit judged
  -- The entry is one that the draft is judged against as a function.
  obtain ⟨-, first, rest, -, judged⟩ := (judge_accepted_function judged isAccepted isHit).2 same
  exact judgeFunction_answer_of_isLocal known isLocal (same ▸ isFree) judged isAccepted

/-- The entries of a local table are seen in the roles of their kinds outside a class. -/
theorem role_of_local_entry (linked : store.Linked) (known : store.tables.get? id = some table)
    (isLocal : table.kind.isLocal = true) {name : Name} {member : EntityId}
    (isMember : member ∈ table.entries name) :
    ∃ entity, store.entities.get? member = some entity ∧
      store.roleOf member = .ok (entity.kind.role false) := by
  obtain ⟨entity, found, owner⟩ :=
    linked.listed id table known member (table.entries_subset_listed name isMember)
  have seen := roleOf_eq_ok found (by rw [owner, known])
  rw [TableKind.ne_classTable_of_isLocal isLocal] at seen
  exact ⟨entity, found, seen⟩

end SymbolStore

namespace Resolver

variable {resolver : Resolver} {id : TableId} {table : Table}

/-- Every run of operations that judge what they file gives functions and blocks at most one free
function of each role under one name. -/
theorem oneOfEachRole_run (names : NamePool) (settings : Settings) {operations : List Operation}
    (checked : ∀ operation ∈ operations, operation.isUnchecked = false) :
    ((Resolver.new names settings).run operations).store.Sound ∧
      ((Resolver.new names settings).run operations).store.OneOfEachRole := by
  refine run_keeps SymbolStore.OneOfEachRole (sound_new names settings)
    (fun _ _ _ _ => SymbolStore.pairwise_related_new names _ _) operations
    fun _ sound holds operation listed => step_keeps SymbolStore.OneOfEachRole sound holds operation
      (fun before _ _ linked holds files edit => ?_) fun _ _ _ _ _ holds _ _ => holds.released
  refine SymbolStore.RelatedEntries.edit holds linked edit (fun target draft id filed =>
    Operation.accepted_of_files (checked operation listed) (files target draft id filed)) ?_
  exact fun _ _ _ known looked accepted _ isMember _ found isLocal =>
    SymbolStore.differInRole_of_accepted linked known isLocal looked accepted isMember found

/-- A draft of a free function is no label. -/
theorem slot_ne_label_of_isFreeFunction {draft : Draft} {role : Role}
    (seen : resolver.store.roleForDraft draft id = .ok role) (isFree : role.isFreeFunction = true) :
    draft.kind.slot ≠ .label := by
  intro isLabel
  obtain ⟨owner, -, seen⟩ := bind_eq_ok_iff.1 seen
  cases seen
  rw [EntityKind.eq_label_of_slot isLabel] at isFree
  cases isFree

/-- A function or block files no free function beside an entry of the same role. -/
theorem not_new_of_role (linked : resolver.store.Linked)
    (known : resolver.store.tables.get? id = some table) (isLocal : table.kind.isLocal = true)
    {draft : Draft} {role : Role} (notConstructor : draft.kind.slot ≠ .constructor)
    (drafted : resolver.store.roleForDraft draft id = .ok role)
    (isFree : role.isFreeFunction = true) {member : EntityId}
    (isMember : member ∈ table.entries draft.name)
    (told : resolver.store.roleOf member = .ok role) (filed : Filed) :
    (resolver.declareIn id draft).1 ≠ .ok (.new filed) := by
  intro answered
  have looked := SymbolStore.priorDeclarations_of_entries known notConstructor
    (slot_ne_label_of_isFreeFunction drafted isFree)
  obtain ⟨entity, found, seen⟩ := SymbolStore.role_of_local_entry linked known isLocal isMember
  have differ := SymbolStore.differInRole_of_accepted linked known isLocal looked
    (accepted_of_new answered) isMember found
  rw [told, Except.ok.injEq] at seen
  rw [SymbolStore.roleForDraft_eq_ok known, TableKind.ne_classTable_of_isLocal isLocal,
    Except.ok.injEq] at drafted
  exact differ (seen ▸ isFree) (by rw [← seen, drafted])

/-- A free function is filed beside entries of other roles that are compatible with its own. -/
theorem declareIn_of_otherRoles (linked : resolver.store.Linked)
    (known : resolver.store.tables.get? id = some table) {draft : Draft} {role : Role}
    (notConstructor : draft.kind.slot ≠ .constructor)
    (drafted : resolver.store.roleForDraft draft id = .ok role)
    (isFree : role.isFreeFunction = true)
    (others : ∀ member ∈ table.entries draft.name, ∃ other,
      resolver.store.roleOf member = .ok other ∧ other ≠ role ∧ other.compatible role = true) :
    (resolver.declareIn id draft).1 = (resolver.insertInto id draft).1.map .new := by
  have looked := SymbolStore.priorDeclarations_of_entries known notConstructor
    (slot_ne_label_of_isFreeFunction drafted isFree)
  obtain ⟨roles, -, hits⟩ :=
    linked.hitsOf_of_listed known (table.entries_subset_listed draft.name)
  rw [hits] at looked
  refine declareIn_of_accepted (by unfold priorAndRole; rw [looked, drafted]; rfl)
    (SymbolStore.judge_of_others fun hit isHit => ?_)
  obtain ⟨isMember, sees⟩ := SymbolStore.sees_of_hitsOf hits hit isHit
  obtain ⟨other, told, differs, compatible⟩ := others hit.entity isMember
  rw [show resolver.store.roleOf hit.entity = .ok hit.role from sees, Except.ok.injEq] at told
  rw [told]
  exact ⟨compatible, differs⟩

/-- How a table takes the free functions of a name: by their roles. -/
structure DeclaresByRole (resolver : Resolver) (id : TableId) (table : Table) (name : Name) :
    Prop where
  /-- There are no two of one role. -/
  one : (table.entries name).Pairwise fun first second => ∀ role, role.isFreeFunction = true →
    resolver.store.roleOf first = .ok role → resolver.store.roleOf second ≠ .ok role
  /-- None is filed beside another one of its role. -/
  refused : ∀ draft role, draft.name = name → draft.kind.slot ≠ .constructor →
    resolver.store.roleForDraft draft id = .ok role → role.isFreeFunction = true →
    ∀ member ∈ table.entries name, resolver.store.roleOf member = .ok role →
      ∀ filed, (resolver.declareIn id draft).1 ≠ .ok (.new filed)
  /-- What has other roles does not keep one from being filed, if the roles are compatible. -/
  taken : ∀ draft role, draft.name = name → draft.kind.slot ≠ .constructor →
    resolver.store.roleForDraft draft id = .ok role → role.isFreeFunction = true →
    (∀ member ∈ table.entries name, ∃ other, resolver.store.roleOf member = .ok other ∧
      other ≠ role ∧ other.compatible role = true) →
    (resolver.declareIn id draft).1 = (resolver.insertInto id draft).1.map .new

/-- After every run in which no draft is filed without being judged, each function and each block
holds at most one free function of each role under one name. It takes no other function of such a
role, but it does take functions of other roles. -/
theorem declaresByRole_of_run (names : NamePool) (settings : Settings) (operations : List Operation)
    (checked : ∀ operation ∈ operations, operation.isUnchecked = false) :
    let resolver := (Resolver.new names settings).run operations
    ∀ id table, resolver.store.tables.get? id = some table → table.kind.isLocal = true →
      ∀ name, resolver.DeclaresByRole id table name := by
  intro resolver id table known isLocal name
  obtain ⟨sound, holds⟩ := oneOfEachRole_run names settings checked
  have linked := sound.linked
  constructor
  · refine (holds id table known name).imp_of_mem fun isFirst isSecond differ => ?_
    intro role isFree told told'
    obtain ⟨entity, found, seen⟩ :=
      SymbolStore.role_of_local_entry linked known isLocal isFirst
    obtain ⟨entity', found', seen'⟩ :=
      SymbolStore.role_of_local_entry linked known isLocal isSecond
    rw [told, Except.ok.injEq] at seen
    rw [told', Except.ok.injEq] at seen'
    exact differ entity entity' found found' isLocal (seen ▸ isFree) (seen ▸ seen')
  · rintro draft role rfl notConstructor drafted isFree member isMember told filed
    exact not_new_of_role linked known isLocal notConstructor drafted isFree isMember told filed
  · rintro draft role rfl notConstructor drafted isFree others
    exact declareIn_of_otherRoles linked known notConstructor drafted isFree others

/-- A draft of a function template that takes a number. -/
def templateDraft (name : Name) : Draft where
  name := name
  kind := .function
    { type := DeclType.void.function { params := [.int] }, template := .template }

/-- In a function, a function of another name is declared. -/
def declareInside : List Operation :=
  [.intern "f", .intern "g", .declare (functionDraft ⟨0⟩ []), .openScope (.functionBody ⟨0, 0⟩),
    .declare (functionDraft ⟨1⟩ [])]

/-- Another function of that name is not filed there, but a function template is. -/
theorem declaresByRole_of_declareInside :
    let resolver := (Resolver.new {} {}).run declareInside
    (∀ operation ∈ declareInside, operation.isUnchecked = false) ∧
      (resolver.store.tables.get? ⟨1, 0⟩).map (·.kind) = some .functionTable ∧
      (∀ filed, (resolver.declareIn ⟨1, 0⟩ (functionDraft ⟨1⟩ [.int])).1 ≠ .ok (.new filed)) ∧
      (resolver.declareIn ⟨1, 0⟩ (templateDraft ⟨1⟩)).1 = .ok (.new ⟨⟨2, 0⟩, 1⟩) := by
  intro resolver
  have checked : ∀ operation ∈ declareInside, operation.isUnchecked = false := by decide +kernel
  have shape : (resolver.store.tables.get? ⟨1, 0⟩).map
      (fun table => (table.kind, table.entries ⟨1⟩)) = some (.functionTable, [⟨1, 0⟩]) := by
    decide +kernel
  obtain ⟨table, known, same⟩ := Option.map_eq_some_iff.1 shape
  obtain ⟨kind, entries⟩ := Prod.mk.inj same
  have declares := declaresByRole_of_run {} {} declareInside checked ⟨1, 0⟩ table known
    (by rw [kind]; rfl) ⟨1⟩
  refine ⟨checked, by rw [known, Option.map_some, kind],
    declares.refused _ .function rfl (by decide) (by decide +kernel) rfl ⟨1, 0⟩
      (by rw [entries]; exact List.mem_singleton_self _) (by decide +kernel), ?_⟩
  rw [declares.taken (templateDraft ⟨1⟩) .functionTemplate rfl (by decide) (by decide +kernel) rfl
    fun member isMember => ⟨.function, ?_, by decide, by decide⟩]
  · decide +kernel
  · rw [entries, List.mem_singleton] at isMember
    rw [isMember]
    decide +kernel

/-- In a function, a function and a function template of one name are declared. -/
def declareTemplateInside : List Operation :=
  declareInside ++ [.declare (templateDraft ⟨1⟩)]

/-- The function holds two free functions of one name. -/
theorem declareTemplateInside_overloads :
    let resolver := (Resolver.new {} {}).run declareTemplateInside
    (∀ operation ∈ declareTemplateInside, operation.isUnchecked = false) ∧
      (resolver.store.tables.get? ⟨1, 0⟩).map (fun table => (table.kind, table.entries ⟨1⟩)) =
        some (.functionTable, [⟨1, 0⟩, ⟨2, 0⟩]) ∧
      resolver.store.roleOf ⟨1, 0⟩ = .ok .function ∧
      resolver.store.roleOf ⟨2, 0⟩ = .ok .functionTemplate ∧
      Role.function.isFreeFunction = true ∧ Role.functionTemplate.isFreeFunction = true := by
  decide +kernel

end Resolver

end ScopeResolution

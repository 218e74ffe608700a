import Mathlib.Tactic.Tauto
import ScopeResolution.Proofs.Declaration.TypeEquality
import ScopeResolution.Proofs.SymbolStore.Links
import ScopeResolution.Resolver.Declaring

/-! # Declarations that stand beside each other

Two entities may stand beside each other under one name when their roles are compatible, and when
two of one role are functions of different overloads (`EntityKind.Coexist`). A draft that is judged
to be new may stand beside everything that is declared under its name (`coexist_of_accepted`). -/

namespace ScopeResolution

/-- Whether an entity and a draft have compatible roles does not depend on which one is new. -/
theorem Role.compatible_comm (first second : Role) :
    first.compatible second = second.compatible first := by
  rw [Bool.eq_iff_iff]
  simp only [Role.compatible, Bool.or_eq_true, Bool.and_eq_true, beq_iff_eq]
  have same : first = second ↔ second = first := eq_comm
  tauto

/-- No type is a value. -/
theorem Role.isValue_of_isType {role : Role} (isType : role.isType = true) :
    role.isValue = false := by
  cases role <;> first | rfl | cases isType

/-- Every function is a value. -/
theorem Role.isValue_of_isFunctionLike {role : Role} (isFunction : role.isFunctionLike = true) :
    role.isValue = true := by
  unfold Role.isValue
  rw [isFunction]
  rfl

/-- Entities of two kinds may stand beside each other under one name; `member` says whether a class
lists them. -/
structure EntityKind.Coexist (member : Bool) (first second : EntityKind) : Prop where
  /-- Their roles are compatible. -/
  compatible : (first.role member).compatible (second.role member) = true
  /-- If they have the same role, that is one of a function. -/
  isFunctionLike : first.role member = second.role member →
    (first.role member).isFunctionLike = true
  /-- If they have the same role, they stand for different overloads. -/
  overloads : first.role member = second.role member → ∀ type signature type' signature',
    first.callable? = some (type, signature) → second.callable? = some (type', signature') →
      signature.sameOverload signature' = false

namespace EntityKind.Coexist

variable {member : Bool} {first second : EntityKind}

/-- Standing beside each other is mutual. -/
theorem symm (coexist : Coexist member first second) : Coexist member second first where
  compatible := by rw [Role.compatible_comm, coexist.compatible]
  isFunctionLike same := by
    rw [same]
    exact coexist.isFunctionLike same.symm
  overloads same type signature type' signature' callable callable' := by
    rw [Signature.sameOverload_comm]
    exact coexist.overloads same.symm type' signature' type signature callable' callable

/-- A type stands beside no other type. -/
theorem not_isType (coexist : Coexist member first second)
    (isType : (first.role member).isType = true) : (second.role member).isType = false := by
  have notValue := Role.isValue_of_isType isType
  by_contra other
  have isType' : (second.role member).isType = true := by simpa using other
  have notValue' := Role.isValue_of_isType isType'
  have compatible := coexist.compatible
  -- None of the four ways to be compatible is left.
  have differ : first.role member ≠ second.role member := by
    intro same
    rw [Role.isValue_of_isFunctionLike (coexist.isFunctionLike same)] at notValue
    cases notValue
  have notFunction : (first.role member).isFunctionLike = false := by
    by_contra function
    rw [Role.isValue_of_isFunctionLike (by simpa using function)] at notValue
    cases notValue
  simp [Role.compatible, differ, notValue, notValue', notFunction] at compatible

/-- A value that stands beside another one is a function. -/
theorem isFunctionLike_of_isValue (coexist : Coexist member first second)
    (isValue : (first.role member).isValue = true)
    (isValue' : (second.role member).isValue = true) :
    (first.role member).isFunctionLike = true := by
  by_cases same : first.role member = second.role member
  · exact coexist.isFunctionLike same
  · have notType : (first.role member).isType = false := by
      by_contra isType
      rw [Role.isValue_of_isType (by simpa using isType)] at isValue
      cases isValue
    have notType' : (second.role member).isType = false := by
      by_contra isType
      rw [Role.isValue_of_isType (by simpa using isType)] at isValue'
      cases isValue'
    have compatible := coexist.compatible
    simp [Role.compatible, same, notType, notType'] at compatible
    exact compatible.1

/-- What stands beside another entity is a type or a value. -/
theorem isType_or_isValue (coexist : Coexist member first second) :
    (first.role member).isType = true ∨ (first.role member).isValue = true := by
  have compatible := coexist.compatible
  simp only [Role.compatible, Bool.or_eq_true, Bool.and_eq_true, beq_iff_eq] at compatible
  -- The four ways to be compatible: one role, a type first, a type second, two functions.
  rcases compatible with ((same | ⟨isType, -⟩) | ⟨-, isValue⟩) | ⟨isFunction, -⟩
  · exact Or.inr (Role.isValue_of_isFunctionLike (coexist.isFunctionLike same))
  · exact Or.inl isType
  · exact Or.inr isValue
  · exact Or.inr (Role.isValue_of_isFunctionLike isFunction)

/-- What stands beside another entity is no parameter: a parameter is neither a type nor a value. -/
theorem slot_ne_parameter (coexist : Coexist member first second) : first.slot ≠ .parameter := by
  intro isParameter
  have typeOrValue := coexist.isType_or_isValue
  cases first with
  | parameter => rcases typeOrValue with isType | isValue <;> contradiction
  | function info =>
      simp only [EntityKind.slot] at isParameter
      split at isParameter <;> cases isParameter
  | _ => cases isParameter

/-- What stands beside another entity is no alias of an entity: an alias is neither a type nor a
value. -/
theorem aliasedEntity?_eq_none (coexist : Coexist member first second) :
    first.aliasedEntity? = none := by
  have typeOrValue := coexist.isType_or_isValue
  cases first with
  | namespaceAlias => rcases typeOrValue with isType | isValue <;> contradiction
  | «alias» => rcases typeOrValue with isType | isValue <;> contradiction
  | _ => rfl

end EntityKind.Coexist

/-- Only labels are filed among the labels. -/
theorem EntityKind.eq_label_of_slot {kind : EntityKind} (isLabel : kind.slot = .label) :
    kind = .label := by
  cases kind with
  | label => rfl
  | function info =>
      simp only [EntityKind.slot] at isLabel
      split at isLabel <;> cases isLabel
  | _ => cases isLabel

namespace SymbolStore

/-- A draft is judged to be new in a table. -/
def Accepted (store : SymbolStore) (target : TableId) (draft : Draft) : Prop :=
  ∃ prior role judgement, store.priorDeclarations target draft = .ok prior ∧
    store.roleForDraft draft target = .ok role ∧
    store.judge draft target prior role = .ok judgement ∧ judgement.answer = .accepted

variable {store : SymbolStore} {draft : Draft} {target : TableId} {role : Role}
  {judgement : Judgement Verdict}

/-! ## Judging -/

/-- A search for a kind that finds none met entities of other kinds only. -/
theorem firstOfKind_eq_none {α : Type} {test : EntityKind → Option α} {ids : List EntityId}
    (missed : store.firstOfKind test ids = .ok none) :
    ∀ id ∈ ids, ∀ entity, store.entities.get? id = some entity → test entity.kind = none := by
  induction ids with
  | nil => intro id listed; cases listed
  | cons first rest ih =>
      rw [firstOfKind] at missed
      obtain ⟨entity, known, missed⟩ := bind_eq_ok_iff.1 missed
      rw [entity_eq_ok_iff] at known
      cases tested : test entity.kind with
      | some result => rw [tested] at missed; cases missed
      | none =>
          rw [tested] at missed
          intro id listed entity' known'
          rcases List.mem_cons.1 listed with rfl | later
          · rw [known, Option.some.injEq] at known'
            rw [← known', tested]
          · exact ih missed id later entity' known'

/-- A conflict is not accepted. -/
theorem conflictWith_answer {prior : EntityId}
    (judged : store.conflictWith draft prior = .ok judgement) : judgement.answer ≠ .accepted := by
  unfold conflictWith at judged
  obtain ⟨name, -, judged⟩ := bind_eq_ok_iff.1 judged
  obtain ⟨entity, -, judged⟩ := bind_eq_ok_iff.1 judged
  cases judged
  intro accepted
  cases accepted

/-- No object is accepted beside another entity of its role. -/
theorem judgeObject_answer {first : EntityId} {rest : List EntityId}
    (judged : store.judgeObject draft role first rest = .ok judgement) :
    judgement.answer ≠ .accepted := by
  unfold judgeObject at judged
  split at judged
  · obtain ⟨found, -, judged⟩ := bind_eq_ok_iff.1 judged
    cases found with
    | none => exact conflictWith_answer judged
    | some prior =>
        cases judged
        intro accepted
        cases accepted
  · exact conflictWith_answer judged

/-- No alias is accepted beside another entity of its role. -/
theorem judgeAlias_answer {first : EntityId}
    (judged : store.judgeAlias draft first = .ok judgement) : judgement.answer ≠ .accepted := by
  unfold judgeAlias at judged
  obtain ⟨prior, -, judged⟩ := bind_eq_ok_iff.1 judged
  split at judged
  · cases judged
    intro accepted
    cases accepted
  · exact conflictWith_answer judged

/-- A function is accepted beside others of its role when none of them stands for its overload. -/
theorem judgeFunction_accepted {first : EntityId} {rest : List EntityId}
    (judged : store.judgeFunction draft target role first rest = .ok judgement)
    (accepted : judgement.answer = .accepted) :
    ∃ new signature, draft.kind.callable? = some (new, signature) ∧
      ∀ id ∈ first :: rest, ∀ entity, store.entities.get? id = some entity →
        entity.kind.overloadType? signature = none := by
  unfold judgeFunction at judged
  cases callable : draft.kind.callable? with
  | none => rw [callable] at judged; cases judged
  | some pair =>
      obtain ⟨new, signature⟩ := pair
      rw [callable] at judged
      obtain ⟨found, searched, judged⟩ := bind_eq_ok_iff.1 judged
      cases found with
      | none =>
          -- Whether overloads are allowed here makes no difference to what was found.
          exact ⟨new, signature, rfl, firstOfKind_eq_none searched⟩
      | some prior =>
          simp only at judged
          split at judged
          · cases judged
            cases accepted
          · exact absurd accepted (conflictWith_answer judged)

/-- No free function is accepted in a function or block beside another one of its role. -/
theorem judgeFunction_answer_of_isLocal {first : EntityId} {rest : List EntityId} {table : Table}
    (known : store.tables.get? target = some table) (isLocal : table.kind.isLocal = true)
    (isFree : role.isFreeFunction = true)
    (judged : store.judgeFunction draft target role first rest = .ok judgement) :
    judgement.answer ≠ .accepted := by
  intro accepted
  unfold judgeFunction at judged
  split at judged
  · cases judged
  · obtain ⟨found, -, judged⟩ := bind_eq_ok_iff.1 judged
    cases found with
    | some prior =>
        simp only at judged
        split at judged
        · cases judged
          cases accepted
        · exact conflictWith_answer judged accepted
    | none =>
        simp only [isFree, table_eq_ok_iff.2 known, isLocal, ok_bind, if_true] at judged
        cases judged
        cases accepted

/-- Only functions are accepted beside others of their role. -/
theorem judgeSameRole_accepted {first : EntityId} {rest : List EntityId}
    (judged : store.judgeSameRole draft target role first rest = .ok judgement)
    (accepted : judgement.answer = .accepted) :
    role.isFunctionLike = true ∧
      store.judgeFunction draft target role first rest = .ok judgement := by
  unfold judgeSameRole at judged
  split at judged
  · rename_i isFunction
    exact ⟨isFunction, judged⟩
  · split at judged
    · cases judged
      cases accepted
    · split at judged
      · exact absurd accepted (judgeObject_answer judged)
      · exact absurd accepted (judgeObject_answer judged)
      · exact absurd accepted (judgeAlias_answer judged)
      · exact absurd accepted (judgeAlias_answer judged)
      · exact absurd accepted (conflictWith_answer judged)

/-- A draft that is accepted is judged as a function against the hits of its own role, if there are
any, and the others are compatible with it. -/
theorem judge_accepted_function {prior : Hits}
    (judged : store.judge draft target prior role = .ok judgement)
    (accepted : judgement.answer = .accepted) {hit : Hit} (found : hit ∈ prior.toList) :
    hit.role.compatible role = true ∧
      (hit.role = role → role.isFunctionLike = true ∧ ∃ first rest, hit.entity ∈ first :: rest ∧
        store.judgeFunction draft target role first rest = .ok judgement) := by
  unfold judge at judged
  split at judged
  · unfold conflictOfKind at judged
    obtain ⟨name, -, judged⟩ := bind_eq_ok_iff.1 judged
    cases judged
    cases accepted
  · rename_i compatible
    refine ⟨by simpa using List.find?_eq_none.1 compatible hit found, fun sameRole => ?_⟩
    -- The hit is one of those of the same role, which are judged one by one.
    have among : hit.entity ∈ (prior.toList.filter (·.role == role)).map (·.entity) :=
      List.mem_map_of_mem (List.mem_filter.2 ⟨found, by simpa using sameRole⟩)
    split at judged
    · rename_i none_left
      rw [none_left] at among
      cases among
    · rename_i first rest split_
      rw [split_] at among
      obtain ⟨isFunction, judged⟩ := judgeSameRole_accepted judged accepted
      exact ⟨isFunction, first, rest, among, judged⟩

/-- A draft is accepted when its role is compatible with those of all hits, and when those of its
own role are functions of other overloads. -/
theorem judge_accepted {prior : Hits} (judged : store.judge draft target prior role = .ok judgement)
    (accepted : judgement.answer = .accepted) {hit : Hit} (found : hit ∈ prior.toList) :
    hit.role.compatible role = true ∧
      (hit.role = role → role.isFunctionLike = true ∧
        ∃ new signature, draft.kind.callable? = some (new, signature) ∧
          ∀ entity, store.entities.get? hit.entity = some entity →
            entity.kind.overloadType? signature = none) := by
  obtain ⟨compatible, same⟩ := judge_accepted_function judged accepted found
  refine ⟨compatible, fun sameRole => ?_⟩
  obtain ⟨isFunction, first, rest, among, judged⟩ := same sameRole
  obtain ⟨new, signature, callable, others⟩ := judgeFunction_accepted judged accepted
  exact ⟨isFunction, new, signature, callable, others hit.entity among⟩

/-! ## Accepted drafts -/

/-- A list of entities is found as hits on all of them, each with its role. -/
theorem exists_hit {members : List EntityId} {roles : EntityId → Role} {member : EntityId}
    (listed : member ∈ members) :
    (⟨member, roles member⟩ : Hit) ∈
      (Hits.ofList (members.map fun member => ⟨member, roles member⟩)).toList := by
  have found : member ∈
      (Hits.ofList (members.map fun member => ⟨member, roles member⟩)).entities := by
    unfold Hits.ofList
    rw [Hits.mem_entities_extend]
    refine Or.inr ?_
    rw [List.map_map]
    exact List.mem_map.2 ⟨member, listed, rfl⟩
  obtain ⟨hit, collected, same⟩ := List.mem_map.1 found
  obtain ⟨other, -, rfl⟩ := List.mem_map.1 (Hits.mem_ofList collected)
  cases same
  exact collected

/-- A list of entities that a table lists is found as hits on all of them. -/
theorem exists_hit_of_hitsOf (linked : store.Linked) {table : Table}
    (known : store.tables.get? target = some table) {members : List EntityId}
    (listed : members ⊆ table.listed) {prior : Hits} (looked : store.hitsOf members = .ok prior)
    {id : EntityId}
    (isMember : id ∈ members) : ∃ hit ∈ prior.toList, hit.entity = id := by
  obtain ⟨roles, -, hits⟩ := linked.hitsOf_of_listed known listed
  rw [looked, Except.ok.injEq] at hits
  rw [hits]
  exact ⟨_, exists_hit isMember, rfl⟩

/-- A draft that is accepted is judged in the role that it has in the table, and against each entity
in the role that this one has there. -/
theorem judged_of_accepted (linked : store.Linked) {table : Table}
    (known : store.tables.get? target = some table) {members : List EntityId}
    (listed : members ⊆ table.listed)
    (looked : store.priorDeclarations target draft = store.hitsOf members)
    (accepted : store.Accepted target draft) {member : EntityId} (isMember : member ∈ members)
    {entity : Entity} (found : store.entities.get? member = some entity) :
    ∃ prior judgement, ⟨member, entity.kind.role (table.kind == .classTable)⟩ ∈ Hits.toList prior ∧
      store.judge draft target prior (draft.kind.role (table.kind == .classTable)) =
        .ok judgement ∧ judgement.answer = .accepted := by
  obtain ⟨prior, role, judgement, priorFound, roleFound, judged, isAccepted⟩ := accepted
  obtain ⟨roles, roles_eq, hits⟩ := linked.hitsOf_of_listed known listed
  have role_eq : role = draft.kind.role (table.kind == .classTable) := by
    rw [roleForDraft_eq_ok known, Except.ok.injEq] at roleFound
    exact roleFound.symm
  -- Both roles are read in the same table, so they depend on the two kinds alone.
  have member_role : roles member = entity.kind.role (table.kind == .classTable) := by
    have owner := linked.owner_eq known (listed isMember) found
    have seen := roleOf_eq_ok found (by rw [owner, known])
    rw [roles_eq member isMember, Except.ok.injEq] at seen
    exact seen
  rw [looked, hits, Except.ok.injEq] at priorFound
  subst priorFound
  refine ⟨_, judgement, ?_, role_eq ▸ judged, isAccepted⟩
  rw [← member_role]
  exact exists_hit isMember

/-- A draft that is accepted may stand beside everything that it is judged against. -/
theorem coexist_of_accepted (linked : store.Linked) {table : Table}
    (known : store.tables.get? target = some table) {members : List EntityId}
    (listed : members ⊆ table.listed)
    (looked : store.priorDeclarations target draft = store.hitsOf members)
    (accepted : store.Accepted target draft) {member : EntityId} (isMember : member ∈ members)
    {entity : Entity} (found : store.entities.get? member = some entity) :
    EntityKind.Coexist (table.kind == .classTable) entity.kind draft.kind := by
  obtain ⟨prior, judgement, isHit, judged, isAccepted⟩ :=
    judged_of_accepted linked known listed looked accepted isMember found
  obtain ⟨compatible, same⟩ := judge_accepted judged isAccepted isHit
  refine ⟨compatible, fun sameRole => ?_, fun sameRole => ?_⟩
  · rw [show entity.kind.role _ = draft.kind.role _ from sameRole]
    exact (same sameRole).1
  · intro type signature type' signature' callable callable'
    obtain ⟨-, new, signature'', callable'', others⟩ := same sameRole
    rw [callable', Option.some.injEq, Prod.mk.injEq] at callable''
    have differs := others entity found
    unfold EntityKind.overloadType? at differs
    rw [callable, ← callable''.2] at differs
    simpa using differs

/-- A label is accepted where there is none of its name. -/
theorem label?_of_accepted {table : Table}
    (accepted : store.Accepted target draft) (isLabel : draft.kind.slot = .label)
    (known : store.tables.get? target = some table) : table.label? draft.name = none := by
  obtain ⟨prior, role, judgement, priorFound, roleFound, judged, isAccepted⟩ := accepted
  cases labelled : table.label? draft.name with
  | none => rfl
  | some label =>
      have kind := EntityKind.eq_label_of_slot isLabel
      have hits : prior = .ofList [⟨label, .label⟩] := by
        unfold priorDeclarations labelHits findLabel at priorFound
        rw [isLabel] at priorFound
        simp only [table_eq_ok_iff.2 known, ok_bind] at priorFound
        rw [labelled] at priorFound
        cases priorFound
        rfl
      -- A label is accepted beside another one only if labels are functions.
      have role_eq : role = .label := by
        rw [roleForDraft_eq_ok known, kind, Except.ok.injEq] at roleFound
        exact roleFound.symm
      have found : (⟨label, .label⟩ : Hit) ∈ prior.toList := by
        rw [hits]
        exact List.mem_cons_self
      have isFunction := ((judge_accepted judged isAccepted found).2 role_eq.symm).1
      rw [role_eq] at isFunction
      cases isFunction

end SymbolStore

end ScopeResolution

import ScopeResolution.Proofs.Resolver.Overloads

/-! # Drafts that are declared again

The verdict on a draft that is judged against hits of which one is on an entity of its own kind, when
the hits stand beside each other. The others are compatible with the draft and stand for other
overloads, so the verdict is on that entity: the draft declares it again, or conflicts with it if
nothing of its kind may be declared again (`judge_of_besideHits`). -/

namespace ScopeResolution

/-- Whether a draft of this kind may be declared again, where it stands for the same entity. -/
def EntityKind.isRepeatable : EntityKind → Bool
  | .object .. | .function _ | .classDecl .. | .enumDecl | .namespaceDecl | .namespaceAlias _
  | .alias _ => true
  | .parameter .. | .enumerator .. | .templateParameter _ | .label | .unspecified => false

/-- A role is compatible with itself. -/
theorem Role.compatible_self (role : Role) : role.compatible role = true := by
  simp [Role.compatible]

/-- Functions have the roles of functions. -/
theorem FunctionInfo.isFunctionLike_role (info : FunctionInfo) (member : Bool) :
    (info.role member).isFunctionLike = true := by
  unfold FunctionInfo.role
  split <;> first | rfl | (split <;> rfl)

/-- What has the role of a function is a function. -/
theorem EntityKind.eq_function_of_role {kind : EntityKind} {member : Bool}
    (isFunction : (kind.role member).isFunctionLike = true) : ∃ info, kind = .function info := by
  cases kind with
  | function info => exact ⟨info, rfl⟩
  | object => cases member <;> cases isFunction
  | enumerator => cases member <;> cases isFunction
  | classDecl key isTemplate => cases isTemplate <;> cases key <;> cases isFunction
  | templateParameter parameter => cases parameter <;> cases isFunction
  | _ => cases isFunction

/-- Functions may be declared again. -/
theorem EntityKind.isRepeatable_of_isFunctionLike {kind : EntityKind} {member : Bool}
    (isFunction : (kind.role member).isFunctionLike = true) : kind.isRepeatable = true := by
  obtain ⟨info, rfl⟩ := EntityKind.eq_function_of_role isFunction
  rfl

namespace SymbolStore

variable {store : SymbolStore} {draft : Draft} {target : TableId} {role : Role} {id : EntityId}
  {judgement : Judgement Verdict}

/-- A search for a kind that only one of the entities has finds that one. -/
theorem firstOfKind_of_only {α : Type} {test : EntityKind → Option α} {ids : List EntityId}
    {entity : Entity} {result : α} (known : store.entities.get? id = some entity)
    (passes : test entity.kind = some result) (among : id ∈ ids)
    (others : ∀ other ∈ ids, other ≠ id → ∀ entity', store.entities.get? other = some entity' →
      test entity'.kind = none) {found : Option (EntityId × α)}
    (searched : store.firstOfKind test ids = .ok found) : found = some (id, result) := by
  induction ids with
  | nil => cases among
  | cons first rest ih =>
      rw [firstOfKind] at searched
      obtain ⟨entity', known', searched⟩ := bind_eq_ok_iff.1 searched
      rw [entity_eq_ok_iff] at known'
      by_cases here : first = id
      · subst here
        rw [known, Option.some.injEq] at known'
        rw [← known', passes] at searched
        exact (pure_eq_ok_iff.1 searched).symm
      · rw [others first List.mem_cons_self here entity' known'] at searched
        exact ih ((List.mem_cons.1 among).resolve_left fun same => here same.symm)
          (fun other listed => others other (List.mem_cons_of_mem _ listed)) searched

/-- A conflict with an entity of the same role is one with that entity. -/
theorem answer_of_conflictWith (judged : store.conflictWith draft id = .ok judgement) :
    judgement.answer = .conflict id := by
  unfold conflictWith at judged
  obtain ⟨name, -, judged⟩ := bind_eq_ok_iff.1 judged
  obtain ⟨entity, -, judged⟩ := bind_eq_ok_iff.1 judged
  cases judged
  rfl

/-- A function is judged to declare the one entity of its overload again. -/
theorem judgeFunction_of_only {first : EntityId} {rest : List EntityId} {entity : Entity}
    (known : store.entities.get? id = some entity) (kind : entity.kind = draft.kind)
    (among : id ∈ first :: rest)
    (others : ∀ other ∈ first :: rest, other ≠ id → ∀ entity',
      store.entities.get? other = some entity' → ∀ type signature,
        draft.kind.callable? = some (type, signature) →
          entity'.kind.overloadType? signature = none)
    (judged : store.judgeFunction draft target role first rest = .ok judgement) :
    judgement.answer = .matched id := by
  unfold judgeFunction at judged
  cases callable : draft.kind.callable? with
  | none => rw [callable] at judged; cases judged
  | some pair =>
      obtain ⟨type, signature⟩ := pair
      rw [callable] at judged
      obtain ⟨found, searched, judged⟩ := bind_eq_ok_iff.1 judged
      have itself : entity.kind.overloadType? signature = some type :=
        EntityKind.overloadType?_self (by rw [kind, callable])
      have only := firstOfKind_of_only known itself among
        (fun other listed differs entity' known' =>
          others other listed differs entity' known' type signature callable) searched
      rw [only] at judged
      simp only [DeclType.same_self, if_true] at judged
      cases judged
      rfl

/-- An object is judged to declare an object of the same kind again. -/
theorem judgeObject_of_first {rest : List EntityId} {entity : Entity}
    (known : store.entities.get? id = some entity) (kind : entity.kind = draft.kind)
    {type : DeclType} {storage : Storage} (isObject : draft.kind = .object type storage)
    (judged : store.judgeObject draft role id rest = .ok judgement) :
    judgement.answer = .matched id := by
  unfold judgeObject at judged
  rw [isObject] at judged
  simp only [firstOfKind, entity_eq_ok_iff.2 known, ok_bind, kind, isObject,
    EntityKind.sameObject_self, if_true] at judged
  cases judged
  rfl

/-- An alias is judged to declare an alias of the same kind again. -/
theorem judgeAlias_of_first {entity : Entity} (known : store.entities.get? id = some entity)
    (kind : entity.kind = draft.kind)
    (isAlias : draft.kind matches .alias _ | .namespaceAlias _)
    (judged : store.judgeAlias draft id = .ok judgement) : judgement.answer = .matched id := by
  unfold judgeAlias at judged
  rw [entity_eq_ok_iff.2 known, ok_bind, kind, EntityKind.sameAlias_self isAlias, if_pos rfl]
    at judged
  cases judged
  rfl

/-- A draft of no function is judged against the first entity of its role: it declares that one
again, or conflicts with it if nothing of its kind may be declared again. -/
theorem judgeSameRole_of_first {rest : List EntityId} {entity : Entity} {member : Bool}
    (known : store.entities.get? id = some entity) (kind : entity.kind = draft.kind)
    (notFunction : (draft.kind.role member).isFunctionLike = false)
    (judged : store.judgeSameRole draft target (draft.kind.role member) id rest = .ok judgement) :
    judgement.answer = if draft.kind.isRepeatable then .matched id else .conflict id := by
  unfold judgeSameRole at judged
  rw [notFunction] at judged
  cases shape : draft.kind with
  | object type storage =>
      rw [shape] at judged
      cases member <;> exact judgeObject_of_first known kind shape judged
  | function info =>
      rw [shape, EntityKind.role, info.isFunctionLike_role] at notFunction
      cases notFunction
  | classDecl key isTemplate =>
      rw [shape] at judged
      cases isTemplate <;> cases key <;> (cases judged; rfl)
  | enumDecl => rw [shape] at judged; cases judged; rfl
  | namespaceDecl => rw [shape] at judged; cases judged; rfl
  | namespaceAlias aliased =>
      rw [shape] at judged
      exact judgeAlias_of_first known kind (by rw [shape]) judged
  | «alias» aliased =>
      rw [shape] at judged
      exact judgeAlias_of_first known kind (by rw [shape]) judged
  | enumerator value enumeration =>
      rw [shape] at judged
      cases member <;> exact answer_of_conflictWith judged
  | templateParameter parameter =>
      rw [shape] at judged
      cases parameter <;> exact answer_of_conflictWith judged
  | parameter type position hasDefault => rw [shape] at judged; exact answer_of_conflictWith judged
  | label => rw [shape] at judged; exact answer_of_conflictWith judged
  | unspecified => rw [shape] at judged; exact answer_of_conflictWith judged

/-- Hits that stand beside one on an entity are on entities that may stand beside it. -/
theorem BesideHits.coexist_kind {prior : Hits} {member : Bool} {entity : Entity} {kind : EntityKind}
    (besideHits : store.BesideHits member prior) {hit other : Hit} (isHit : hit ∈ prior.toList)
    (known : store.entities.get? hit.entity = some entity) (same : entity.kind = kind)
    (isOther : other ∈ prior.toList) (differ : other ≠ hit) :
    ∃ beside, store.entities.get? other.entity = some beside ∧
      other.role = beside.kind.role member ∧ EntityKind.Coexist member beside.kind kind := by
  obtain ⟨first, second, known₁, known₂, role, -, coexist⟩ :=
    besideHits.coexist isOther isHit differ
  rw [known, Option.some.injEq] at known₂
  subst known₂
  exact ⟨first, known₁, role, same ▸ coexist⟩

/-- Among entities of one role that may stand beside an entity of the kind of the draft, the draft
declares that entity again, or conflicts with it if nothing of its kind may be declared again. -/
theorem judgeSameRole_of_coexist {member : Bool} {entity : Entity} {first : EntityId}
    {rest : List EntityId} (known : store.entities.get? id = some entity)
    (kind : entity.kind = draft.kind) (among : id ∈ first :: rest)
    (others : ∀ other ∈ first :: rest, other ≠ id → ∃ beside,
      store.entities.get? other = some beside ∧
        beside.kind.role member = draft.kind.role member ∧
        EntityKind.Coexist member beside.kind draft.kind)
    (judged : store.judgeSameRole draft target (draft.kind.role member) first rest =
      .ok judgement) :
    judgement.answer = if draft.kind.isRepeatable then .matched id else .conflict id := by
  by_cases isFunction : (draft.kind.role member).isFunctionLike = true
  · -- The other functions of the role stand for other overloads.
    have overloads : ∀ other ∈ first :: rest, other ≠ id → ∀ beside,
        store.entities.get? other = some beside → ∀ type signature,
          draft.kind.callable? = some (type, signature) →
            beside.kind.overloadType? signature = none := by
      intro other listed differ beside known' type signature callable
      obtain ⟨beside', known'', role, coexist⟩ := others other listed differ
      rw [known', Option.some.injEq] at known''
      subst known''
      unfold EntityKind.overloadType?
      cases callable' : beside.kind.callable? with
      | none => rfl
      | some pair =>
          obtain ⟨type', signature'⟩ := pair
          simp only [coexist.overloads role type' signature' type signature callable' callable]
          rfl
    unfold judgeSameRole at judged
    rw [if_pos isFunction] at judged
    rw [judgeFunction_of_only known kind among overloads judged,
      if_pos (EntityKind.isRepeatable_of_isFunctionLike isFunction)]
  · -- Nothing else has the role, so the entity is the first one of it.
    have only : first = id := by
      by_contra differ
      obtain ⟨beside, -, role, coexist⟩ := others first List.mem_cons_self differ
      exact isFunction (role ▸ coexist.isFunctionLike role)
    rw [only] at judged
    exact judgeSameRole_of_first known kind (by simpa using isFunction) judged

/-- A draft that is judged against hits beside each other, one of them on an entity of its own kind,
declares that entity again, or conflicts with it if nothing of its kind may be declared again. -/
theorem judge_of_besideHits {prior : Hits} {member : Bool} {entity : Entity}
    (besideHits : store.BesideHits member prior) {hit : Hit} (isHit : hit ∈ prior.toList)
    (known : store.entities.get? hit.entity = some entity) (kind : entity.kind = draft.kind)
    (judged : store.judge draft target prior (draft.kind.role member) = .ok judgement) :
    judgement.answer =
      if draft.kind.isRepeatable then .matched hit.entity else .conflict hit.entity := by
  have role_eq : hit.role = draft.kind.role member := by
    obtain ⟨entity', known', role⟩ := besideHits.role_eq hit isHit
    rw [known, Option.some.injEq] at known'
    rw [role, ← known', kind]
  have compatible : prior.toList.find? (fun hit => !hit.role.compatible (draft.kind.role member)) =
      none := by
    refine List.find?_eq_none.2 fun other isOther => ?_
    by_cases same : other = hit
    · simp [same, role_eq, Role.compatible_self]
    · obtain ⟨beside, -, role, coexist⟩ := besideHits.coexist_kind isHit known kind isOther same
      simp [role, coexist.compatible]
  have among : hit.entity ∈
      (prior.toList.filter (·.role == draft.kind.role member)).map (·.entity) :=
    List.mem_map_of_mem (List.mem_filter.2 ⟨isHit, by simp [role_eq]⟩)
  unfold judge at judged
  rw [compatible] at judged
  simp only at judged
  split at judged
  · rename_i none_left
    rw [none_left] at among
    cases among
  · rename_i first rest sameRole
    rw [sameRole] at among
    refine judgeSameRole_of_coexist known kind among (fun other listed differ => ?_) judged
    rw [← sameRole] at listed
    obtain ⟨found, filtered, rfl⟩ := List.mem_map.1 listed
    obtain ⟨isFound, hasRole⟩ := List.mem_filter.1 filtered
    obtain ⟨beside, known', role, coexist⟩ :=
      besideHits.coexist_kind isHit known kind isFound fun same => differ (by rw [same])
    exact ⟨beside, known', by rw [← role]; simpa using hasRole, coexist⟩

end SymbolStore

end ScopeResolution

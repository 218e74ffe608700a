import ScopeResolution.Proofs.Declaration.TypeEquivalence
import ScopeResolution.Proofs.Resolver.BuilderSteps
import ScopeResolution.Proofs.Resolver.Orphans
import ScopeResolution.Proofs.Resolver.Stability

/-! # Verdicts on overloads

A function that is declared in a namespace or class is judged against the functions of its own role
under its name. No two of these stand for the same overload, so the draft stands for the overload of
one of them at most, and no other one can have its type. The three verdicts (`OverloadVerdict`) are
told apart by this alone, and do not depend on the order in which the functions are gone through
(`OverloadVerdict.eq`). What a declaration makes of the verdict is the main statement
`overloads_partition_of_run`. A conflict is reported with the qualified name of the function that was
there before; the declaration fails where there is none, which takes a table dropped from the stack
that outlives the tables around it (`clash_meets_staleHandle`). -/

namespace ScopeResolution

/-! ## Types and overloads -/

/-- Signatures that agree stand for the same overload. -/
theorem Signature.sameOverload_of_same {first second : Signature}
    (same : Signature.same .declaration first second = true) :
    first.sameOverload second = true := by
  cases first
  cases second
  simp only [Signature.same, Bool.and_eq_true] at same
  simp only [Signature.sameOverload, Signature.sameParameters, Bool.and_eq_true]
  exact same.1.1

/-- A type that is the same as a function type is a function type, and stands for the same
overload. -/
theorem DeclType.sameOverload_of_same {found type : DeclType} {signature : Signature}
    (same : DeclType.same .declaration found type = true)
    (isFunction : type.signature? = some signature) :
    ∃ prior, found.signature? = some prior ∧ prior.sameOverload signature = true := by
  obtain ⟨base, qualifiers, derived⟩ := found
  obtain ⟨base', qualifiers', derived'⟩ := type
  rw [DeclType.same_declaration_mk, Bool.and_eq_true] at same
  cases derived' with
  | nil => cases isFunction
  | cons node rest =>
      cases node with
      | function signature' =>
          obtain rfl : signature' = signature := Option.some.inj isFunction
          cases derived with
          | nil => cases same.2
          | cons node' rest' =>
              simp only [Derived.sameAll, Bool.and_eq_true] at same
              cases node' with
              | function prior => exact ⟨prior, rfl, Signature.sameOverload_of_same same.2.1⟩
              | _ => simp [Derived.same] at same
      | _ => cases isFunction

/-- A function has the role of one. -/
theorem EntityKind.isFunctionLike_of_callable {kind : EntityKind} {type : DeclType}
    {signature : Signature} (callable : kind.callable? = some (type, signature)) (member : Bool) :
    (kind.role member).isFunctionLike = true := by
  cases kind with
  | function info => exact info.isFunctionLike_role member
  | _ => cases callable

/-- No function is filed as a label. -/
theorem EntityKind.slot_ne_label_of_callable {kind : EntityKind} {type : DeclType}
    {signature : Signature} (callable : kind.callable? = some (type, signature)) :
    kind.slot ≠ .label := by
  cases kind with
  | function info => cases form : info.form <;> simp [EntityKind.slot, form]
  | _ => cases callable

/-- The declared type of a function is the one that its signature is read off. -/
theorem EntityKind.type?_of_callable {kind : EntityKind} {type : DeclType} {signature : Signature}
    (callable : kind.callable? = some (type, signature)) : kind.type? = some type := by
  cases kind with
  | function info =>
      obtain ⟨_, -, same⟩ := Option.map_eq_some_iff.1 callable
      rw [EntityKind.type?, (Prod.mk.inj same).1]
  | _ => cases callable

/-- The signature of a function is that of its type. -/
theorem EntityKind.signature?_of_callable {kind : EntityKind} {type : DeclType}
    {signature : Signature} (callable : kind.callable? = some (type, signature)) :
    type.signature? = some signature := by
  cases kind with
  | function info =>
      obtain ⟨_, signed, same⟩ := Option.map_eq_some_iff.1 callable
      rw [← (Prod.mk.inj same).1, ← (Prod.mk.inj same).2, signed]
  | _ => cases callable

/-- The kinds that pass for an overload are those of functions with its parameters and
qualifiers. -/
theorem EntityKind.overloadType?_eq_some_iff {kind : EntityKind} {type : DeclType}
    {signature : Signature} : kind.overloadType? signature = some type ↔
      ∃ prior, kind.callable? = some (type, prior) ∧ prior.sameOverload signature = true := by
  unfold EntityKind.overloadType?
  cases kind.callable? with
  | none => simp
  | some pair =>
      obtain ⟨type', prior⟩ := pair
      by_cases same : prior.sameOverload signature = true
      · simp [same]
      · simp [same]

/-- What is declared again was matched. -/
theorem Verdict.declared?_eq_redeclared_iff {verdict : Verdict} {id : EntityId} :
    verdict.declared? = some (.redeclared id) ↔ verdict = .matched id := by
  cases verdict <;> simp [Verdict.declared?]

/-- What is rejected is in conflict. -/
theorem Verdict.declared?_eq_rejected_iff {verdict : Verdict} {id : EntityId} :
    verdict.declared? = some (.rejected id) ↔ verdict = .conflict id := by
  cases verdict <;> simp [Verdict.declared?]

/-- The entities among some hits that have a role. -/
def Hits.ofRole (hits : Hits) (role : Role) : List EntityId :=
  (hits.toList.filter (·.role == role)).map (·.entity)

/-- An entity has a role among some hits if it was hit in that role. -/
theorem Hits.mem_ofRole {hits : Hits} {role : Role} {id : EntityId} :
    id ∈ hits.ofRole role ↔ ∃ hit ∈ hits.toList, hit.role = role ∧ hit.entity = id := by
  simp [ofRole, and_assoc]

namespace SymbolStore

/-- An entity is a function with the parameters and the qualifiers of a signature. -/
def Overloads (store : SymbolStore) (signature : Signature) (id : EntityId) : Prop :=
  ∃ entity type prior, store.entities.get? id = some entity ∧
    entity.kind.callable? = some (type, prior) ∧ prior.sameOverload signature = true

/-- An entity is declared with the same type. -/
def DeclaredAs (store : SymbolStore) (type : DeclType) (id : EntityId) : Prop :=
  ∃ entity found, store.entities.get? id = some entity ∧ entity.kind.type? = some found ∧
    DeclType.same .declaration found type = true

/-- Whether an entity is an overload is seen from its kind. -/
instance (store : SymbolStore) (signature : Signature) (id : EntityId) :
    Decidable (store.Overloads signature id) :=
  decidable_of_iff (((store.entities.get? id).bind (·.kind.overloadType? signature)).isSome) <| by
    simp only [Option.isSome_iff_exists, Option.bind_eq_some_iff,
      EntityKind.overloadType?_eq_some_iff]
    constructor
    · rintro ⟨type, entity, known, prior, overload⟩
      exact ⟨entity, type, prior, known, overload⟩
    · rintro ⟨entity, type, prior, known, overload⟩
      exact ⟨type, entity, known, prior, overload⟩

/-- Whether an entity is declared with the same type is seen by comparing its type. -/
instance (store : SymbolStore) (type : DeclType) (id : EntityId) :
    Decidable (store.DeclaredAs type id) :=
  decidable_of_iff (((store.entities.get? id).bind (·.kind.type?)).any
      (DeclType.same .declaration · type)) <| by
    simp only [Option.any_eq_true, Option.bind_eq_some_iff]
    constructor
    · rintro ⟨found, ⟨entity, known, declared⟩, same⟩
      exact ⟨entity, found, known, declared, same⟩
    · rintro ⟨entity, found, known, declared, same⟩
      exact ⟨found, ⟨entity, known, declared⟩, same⟩

/-- A function of a type and a signature clashes with one of some functions: it stands for the
overload of that one, and none of them has its type. -/
structure Clashes (store : SymbolStore) (own : List EntityId) (type : DeclType)
    (signature : Signature) (id : EntityId) : Prop where
  /-- The function is one of them. -/
  among : id ∈ own
  /-- It is the same overload. -/
  overloads : store.Overloads signature id
  /-- The type is another one for all of them. -/
  differs : ∀ other ∈ own, ¬ store.DeclaredAs type other

/-- The verdicts on a function of a type and a signature that is judged against some functions. -/
inductive OverloadVerdict (store : SymbolStore) (draft : Draft) (own : List EntityId)
    (type : DeclType) (signature : Signature) : Except Failure (Judgement Verdict) → Prop where
  /-- One of them has its type, and is declared again. -/
  | again {id : EntityId} (among : id ∈ own) (same : store.DeclaredAs type id) :
      OverloadVerdict store draft own type signature (.ok { answer := .matched id })
  /-- It clashes with one of them. -/
  | clash {id : EntityId} (clashes : store.Clashes own type signature id) :
      OverloadVerdict store draft own type signature (store.conflictWith draft id)
  /-- It is the same overload as none of them. -/
  | fresh (others : ∀ id ∈ own, ¬ store.Overloads signature id) :
      OverloadVerdict store draft own type signature (.ok { answer := .accepted })

/-- Functions of which no two are the same overload. -/
structure SeparateOverloads (store : SymbolStore) (own : List EntityId) : Prop where
  /-- They are functions that are there. -/
  function : ∀ id ∈ own, ∃ entity info, store.entities.get? id = some entity ∧
    entity.kind = .function info
  /-- Two of them have other parameters or other qualifiers. -/
  distinct : ∀ first ∈ own, ∀ second ∈ own, ∀ signature, store.Overloads signature first →
    store.Overloads signature second → first = second

variable {store : SymbolStore} {draft : Draft} {own others : List EntityId} {type : DeclType}
  {signature : Signature} {target : TableId} {role : Role} {member : Bool} {prior : Hits}
  {id : EntityId}

/-- A function with the same type stands for the same overload. -/
theorem SeparateOverloads.overloads_of_declaredAs (separate : store.SeparateOverloads own)
    (isFunction : type.signature? = some signature) (among : id ∈ own)
    (same : store.DeclaredAs type id) : store.Overloads signature id := by
  obtain ⟨entity, found, known, declared, same⟩ := same
  obtain ⟨entity', info, known', kind⟩ := separate.function id among
  rw [known, Option.some.injEq] at known'
  subst known'
  rw [kind] at declared
  obtain rfl : info.type = found := Option.some.inj declared
  obtain ⟨prior, signed, overload⟩ := DeclType.sameOverload_of_same same isFunction
  refine ⟨entity, info.type, prior, known, ?_, overload⟩
  rw [kind, EntityKind.callable?, signed]
  rfl

/-- Two verdicts on a function that is judged against the same functions, in whatever order, are the
same. -/
theorem OverloadVerdict.eq {result result' : Except Failure (Judgement Verdict)}
    (verdict : OverloadVerdict store draft own type signature result)
    (verdict' : OverloadVerdict store draft others type signature result')
    (separate : store.SeparateOverloads own) (isFunction : type.signature? = some signature)
    (same : ∀ id, id ∈ others ↔ id ∈ own) : result = result' := by
  have overload {id : EntityId} (among : id ∈ own) (declared : store.DeclaredAs type id) :=
    separate.overloads_of_declaredAs isFunction among declared
  cases verdict with
  | @again id among declared =>
      cases verdict' with
      | @again id' among' declared' =>
          have among' := (same id').1 among'
          rw [separate.distinct id among id' among' signature (overload among declared)
            (overload among' declared')]
      | clash clashes' => exact absurd declared (clashes'.differs id ((same id).2 among))
      | fresh others' => exact absurd (overload among declared) (others' id ((same id).2 among))
  | @clash id clashes =>
      cases verdict' with
      | @again id' among' declared' =>
          exact absurd declared' (clashes.differs id' ((same id').1 among'))
      | @clash id' clashes' =>
          rw [separate.distinct id clashes.among id' ((same id').1 clashes'.among) signature
            clashes.overloads clashes'.overloads]
      | fresh others' => exact absurd clashes.overloads (others' id ((same id).2 clashes.among))
  | fresh others =>
      cases verdict' with
      | @again id' among' declared' =>
          have among' := (same id').1 among'
          exact absurd (overload among' declared') (others id' among')
      | @clash id' clashes' =>
          exact absurd clashes'.overloads (others id' ((same id').1 clashes'.among))
      | fresh => rfl

/-- A function that is judged to be declared again has the type of the function that was there. -/
theorem OverloadVerdict.of_matched {judgement : Judgement Verdict}
    (verdict : OverloadVerdict store draft own type signature (.ok judgement))
    (answer : judgement.answer = .matched id) : id ∈ own ∧ store.DeclaredAs type id := by
  generalize judged : Except.ok judgement = result at verdict
  cases verdict with
  | again among same =>
      cases judged
      cases answer
      exact ⟨among, same⟩
  | clash =>
      rw [answer_of_conflictWith judged.symm] at answer
      cases answer
  | fresh =>
      cases judged
      cases answer

/-- A function that is judged to conflict with another one clashes with it. -/
theorem OverloadVerdict.of_conflict {judgement : Judgement Verdict}
    (verdict : OverloadVerdict store draft own type signature (.ok judgement))
    (answer : judgement.answer = .conflict id) : store.Clashes own type signature id := by
  generalize judged : Except.ok judgement = result at verdict
  cases verdict with
  | again =>
      cases judged
      cases answer
  | clash clashes =>
      rw [answer_of_conflictWith judged.symm] at answer
      cases answer
      exact clashes
  | fresh =>
      cases judged
      cases answer

/-! ## Judging a function -/

/-- A search for a kind among entities that are there finds one of them, or shows that all are of
other kinds. -/
theorem firstOfKind_cases {α : Type} (test : EntityKind → Option α) {ids : List EntityId}
    (known : ∀ id ∈ ids, ∃ entity, store.entities.get? id = some entity) :
    (∃ id ∈ ids, ∃ entity result, store.entities.get? id = some entity ∧
        test entity.kind = some result ∧ store.firstOfKind test ids = .ok (some (id, result))) ∨
      (∀ id ∈ ids, ∀ entity, store.entities.get? id = some entity → test entity.kind = none) ∧
        store.firstOfKind test ids = .ok none := by
  induction ids with
  | nil => exact Or.inr ⟨nofun, rfl⟩
  | cons first rest ih =>
      obtain ⟨entity, found⟩ := known first List.mem_cons_self
      rw [firstOfKind, entity_eq_ok_iff.2 found, ok_bind]
      cases tested : test entity.kind with
      | some result =>
          exact Or.inl ⟨first, List.mem_cons_self, entity, result, found, tested, rfl⟩
      | none =>
          rcases ih fun id listed => known id (List.mem_cons_of_mem _ listed) with
            ⟨id, listed, later⟩ | ⟨missed, searched⟩
          · exact Or.inl ⟨id, List.mem_cons_of_mem _ listed, later⟩
          · refine Or.inr ⟨fun id listed entity' found' => ?_, searched⟩
            rcases List.mem_cons.1 listed with rfl | later
            · rw [found, Option.some.injEq] at found'
              rw [← found', tested]
            · exact missed id later entity' found'

/-- A function is judged against functions of which no two are the same overload: the first one with
its parameters and qualifiers is the only one. -/
theorem judgeFunction_verdict {first : EntityId} {rest : List EntityId}
    (separate : store.SeparateOverloads (first :: rest))
    (callable : draft.kind.callable? = some (type, signature)) {table : Table}
    (known : store.tables.get? target = some table) (notLocal : table.kind.isLocal = false) :
    OverloadVerdict store draft (first :: rest) type signature
      (store.judgeFunction draft target role first rest) := by
  have live (id : EntityId) (among : id ∈ first :: rest) :
      ∃ entity, store.entities.get? id = some entity := by
    obtain ⟨entity, -, found, -⟩ := separate.function id among
    exact ⟨entity, found⟩
  unfold judgeFunction
  simp only [callable]
  rcases firstOfKind_cases (·.overloadType? signature) live with
    ⟨id, among, entity, found, entityKnown, passes, searched⟩ | ⟨missed, searched⟩
  · rw [searched, ok_bind]
    obtain ⟨prior, isCallable, overload⟩ := EntityKind.overloadType?_eq_some_iff.1 passes
    have overloads : store.Overloads signature id :=
      ⟨entity, found, prior, entityKnown, isCallable, overload⟩
    have declared := EntityKind.type?_of_callable isCallable
    by_cases same : DeclType.same .declaration found type = true
    · simp only [if_pos same]
      exact .again among ⟨entity, found, entityKnown, declared, same⟩
    · simp only [if_neg same]
      refine .clash ⟨among, overloads, fun other isOther isDeclared => ?_⟩
      -- What has the type stands for the overload, so it is the function that was found.
      obtain rfl := separate.distinct other isOther id among signature
        (separate.overloads_of_declaredAs (EntityKind.signature?_of_callable callable) isOther
          isDeclared) overloads
      obtain ⟨entity', found', known', declared', same'⟩ := isDeclared
      rw [entityKnown, Option.some.injEq] at known'
      rw [← known', declared, Option.some.injEq] at declared'
      exact same (declared' ▸ same')
  · rw [searched, ok_bind, SymbolStore.table_eq_ok_iff.2 known]
    have others (id : EntityId) (among : id ∈ first :: rest) :
        ¬ store.Overloads signature id := by
      rintro ⟨entity, found, prior, entityKnown, isCallable, overload⟩
      have passes := EntityKind.overloadType?_eq_some_iff.2 ⟨prior, isCallable, overload⟩
      rw [missed id among entity entityKnown] at passes
      cases passes
    simp only [ok_bind, notLocal, Bool.false_eq_true, if_false, ite_self]
    exact .fresh others

/-- Of hits that stand beside each other, the functions of one role are different overloads. -/
theorem BesideHits.separateOverloads (besideHits : store.BesideHits member prior)
    (isFunction : role.isFunctionLike = true) : store.SeparateOverloads (prior.ofRole role) := by
  constructor
  · intro id among
    obtain ⟨hit, isHit, rfl, rfl⟩ := Hits.mem_ofRole.1 among
    obtain ⟨entity, known, hasRole⟩ := besideHits.role_eq hit isHit
    obtain ⟨info, kind⟩ := EntityKind.eq_function_of_role (hasRole ▸ isFunction)
    exact ⟨entity, info, known, kind⟩
  · intro first isFirst second isSecond signature overloads overloads'
    obtain ⟨hit, isHit, rfl, rfl⟩ := Hits.mem_ofRole.1 isFirst
    obtain ⟨hit', isHit', sameRole, rfl⟩ := Hits.mem_ofRole.1 isSecond
    obtain ⟨entity, type, prior, known, callable, same⟩ := overloads
    obtain ⟨entity', type', prior', known', callable', same'⟩ := overloads'
    by_contra differ
    rw [Signature.sameOverload_comm] at same'
    have clash := Signature.sameOverload_trans same same'
    rw [Signature.sameOverload, Bool.and_eq_true, beq_iff_eq] at clash
    exact besideHits.distinctOverloads hit isHit hit' isHit' differ sameRole.symm isFunction entity
      entity' type prior type' prior' known known' callable callable' clash

/-- The order of hits that stand beside each other does not matter. -/
theorem BesideHits.perm (besideHits : store.BesideHits member prior) {prior' : Hits}
    (perm : prior'.toList.Perm prior.toList) : store.BesideHits member prior' where
  nodup := (perm.map _).nodup_iff.2 besideHits.nodup
  role_eq hit isHit := besideHits.role_eq hit (perm.mem_iff.1 isHit)
  beside first isFirst second isSecond :=
    besideHits.beside first (perm.mem_iff.1 isFirst) second (perm.mem_iff.1 isSecond)

/-- A function is judged by the overloads of its own role, if all that is declared under its name is
compatible with it. -/
theorem judge_verdict (besideHits : store.BesideHits member prior)
    (isFunction : role.isFunctionLike = true)
    (callable : draft.kind.callable? = some (type, signature)) {table : Table}
    (known : store.tables.get? target = some table) (notLocal : table.kind.isLocal = false)
    (compatible : ∀ hit ∈ prior.toList, hit.role.compatible role = true) :
    OverloadVerdict store draft (prior.ofRole role) type signature
      (store.judge draft target prior role) := by
  have separate := besideHits.separateOverloads isFunction
  have none_incompatible : prior.toList.find? (fun hit => !hit.role.compatible role) = none :=
    List.find?_eq_none.2 fun hit isHit => by simp [compatible hit isHit]
  unfold judge
  rw [none_incompatible]
  simp only
  split
  · rename_i sameRole
    have own : prior.ofRole role = [] := sameRole
    rw [own]
    exact .fresh nofun
  · rename_i first rest sameRole
    have own : prior.ofRole role = first :: rest := sameRole
    rw [own] at separate ⊢
    unfold judgeSameRole
    rw [if_pos isFunction]
    exact judgeFunction_verdict separate callable known notLocal

end SymbolStore

namespace Resolver

variable {resolver : Resolver} {target : TableId} {draft : Draft} {prior : Hits} {role : Role}
  {id : EntityId}

/-! ## Declaring a function -/

/-- A draft that is judged to be new is filed. -/
theorem declareIn_of_accepted (looked : resolver.priorAndRole target draft = .ok (prior, role))
    (judged : resolver.store.judge draft target prior role = .ok { answer := .accepted }) :
    (resolver.declareIn target draft).1 = (resolver.insertInto target draft).1.map .new := by
  unfold declareIn judgeIn settle
  simp only [looked, judged, DiagnosticLog.settle, fileJudged, Verdict.declared?]
  generalize resolver.insertInto target draft = filed
  obtain ⟨answer, next⟩ := filed
  cases answer <;> rfl

/-- A draft that conflicts with an entity without a qualified name is not judged. -/
theorem declareIn_of_unnamed (looked : resolver.priorAndRole target draft = .ok (prior, role))
    (judged : resolver.store.judge draft target prior role = resolver.store.conflictWith draft id)
    {failure : Failure} (unnamed : resolver.store.qualifiedName id = .error failure) :
    (resolver.declareIn target draft).1 = .error failure := by
  unfold declareIn judgeIn settle
  simp only [looked, judged, SymbolStore.conflictWith, unnamed]
  rfl

/-- A draft that conflicts with an entity is rejected, unless the report of that uses the budget
up. -/
theorem declareIn_of_conflict (looked : resolver.priorAndRole target draft = .ok (prior, role))
    (judged : resolver.store.judge draft target prior role = resolver.store.conflictWith draft id)
    {text : String} (named : resolver.store.qualifiedName id = .ok text) {entity : Entity}
    (known : resolver.store.entities.get? id = some entity) :
    (resolver.declareIn target draft).1 = .ok (.rejected id) ∨
      ∃ exhausted, (resolver.declareIn target draft).1 = .error (.budgetExhausted exhausted) := by
  unfold declareIn judgeIn settle
  simp only [looked, judged, SymbolStore.conflictWith, named, ok_bind,
    SymbolStore.entity_eq_ok_iff.2 known]
  simp only [pure, Except.pure, DiagnosticLog.settle]
  rcases resolver.log.report_cases (.redeclaration (resolver.store.nameText draft.name)
    draft.location text entity.location) with reported | ⟨exhausted, reported⟩
  · rw [reported]
    exact Or.inl rfl
  · rw [reported]
    exact Or.inr ⟨exhausted, rfl⟩

/-- A draft that has an answer and is not new was judged, and the verdict says what it is. -/
theorem judged_of_declareIn (looked : resolver.priorAndRole target draft = .ok (prior, role))
    {declared : Declared} (answered : (resolver.declareIn target draft).1 = .ok declared)
    (notNew : declared.isNew = false) :
    ∃ judgement, resolver.store.judge draft target prior role = .ok judgement ∧
      judgement.answer.declared? = some declared := by
  obtain ⟨found, seen⟩ := priorAndRole_eq_ok looked
  obtain ⟨prior', role', judgement, found', seen', judged, answer⟩ := declareIn_eq_ok answered
  rw [found, Except.ok.injEq] at found'
  rw [seen, Except.ok.injEq] at seen'
  subst found' seen'
  refine ⟨judgement, judged, answer.resolve_right fun ⟨_, isNew⟩ => ?_⟩
  rw [notNew] at isNew
  cases isNew

/-- How a function of a type and a signature is declared in a table, by what it is judged against and
its role. -/
structure OverloadPartition (resolver : Resolver) (target : TableId) (draft : Draft)
    (type : DeclType) (signature : Signature) (prior : Hits) (role : Role) : Prop where
  /-- At most one function of the role stands for the same overload. -/
  unique : ∀ first ∈ prior.ofRole role, ∀ second ∈ prior.ofRole role,
    resolver.store.Overloads signature first → resolver.store.Overloads signature second →
      first = second
  /-- It declares the function again that has its type. -/
  redeclared_iff : ∀ id, (resolver.declareIn target draft).1 = .ok (.redeclared id) ↔
    id ∈ prior.ofRole role ∧ resolver.store.DeclaredAs type id
  /-- It is rejected only if it clashes. -/
  clashes_of_rejected : ∀ id, (resolver.declareIn target draft).1 = .ok (.rejected id) →
    resolver.store.Clashes (prior.ofRole role) type signature id
  /-- If it clashes with a function that has a qualified name, it is rejected, unless the report of
  that uses the error budget up. -/
  rejected : ∀ id text, resolver.store.Clashes (prior.ofRole role) type signature id →
    resolver.store.qualifiedName id = .ok text →
      (resolver.declareIn target draft).1 = .ok (.rejected id) ∨
        ∃ exhausted, (resolver.declareIn target draft).1 = .error (.budgetExhausted exhausted)
  /-- If it clashes with a function without a qualified name, the declaration fails. -/
  unnamed : ∀ id failure, resolver.store.Clashes (prior.ofRole role) type signature id →
    resolver.store.qualifiedName id = .error failure →
      (resolver.declareIn target draft).1 = .error failure
  /-- It is accepted as a new overload if it is the same as no other one, and then it is filed. -/
  accepted : (∀ id ∈ prior.ofRole role, ¬ resolver.store.Overloads signature id) →
    resolver.store.judge draft target prior role = .ok { answer := .accepted } ∧
      (resolver.declareIn target draft).1 = (resolver.insertInto target draft).1.map .new
  /-- The verdict does not depend on the order of what it is judged against. -/
  order : ∀ prior' : Hits, prior'.toList.Perm prior.toList →
    resolver.store.judge draft target prior' role = resolver.store.judge draft target prior role

/-- What the declaration of a function comes to, by the verdict on it. As there is one verdict only,
it is enough to know which one it would be. -/
theorem overloadPartition_of_besideHits {member : Bool}
    (besideHits : resolver.store.BesideHits member prior)
    (looked : resolver.priorAndRole target draft = .ok (prior, role))
    (isFunction : role.isFunctionLike = true) {type : DeclType} {signature : Signature}
    (callable : draft.kind.callable? = some (type, signature)) {table : Table}
    (known : resolver.store.tables.get? target = some table)
    (notLocal : table.kind.isLocal = false)
    (compatible : ∀ hit ∈ prior.toList, hit.role.compatible role = true) :
    resolver.OverloadPartition target draft type signature prior role := by
  have separate := besideHits.separateOverloads isFunction
  have signed := EntityKind.signature?_of_callable callable
  have verdict :=
    SymbolStore.judge_verdict besideHits isFunction callable known notLocal compatible
  have judge_eq {result : Except Failure (Judgement Verdict)}
      (other : resolver.store.OverloadVerdict draft (prior.ofRole role) type signature result) :
      resolver.store.judge draft target prior role = result :=
    verdict.eq other separate signed fun _ => Iff.rfl
  constructor
  · intro first isFirst second isSecond
    exact separate.distinct first isFirst second isSecond signature
  · intro id
    constructor
    · intro declared
      obtain ⟨judgement, judged, answer⟩ := judged_of_declareIn looked declared rfl
      exact (judged ▸ verdict).of_matched (Verdict.declared?_eq_redeclared_iff.1 answer)
    · rintro ⟨among, same⟩
      exact declareIn_of_matched looked (judge_eq (.again among same))
  · intro id declared
    obtain ⟨judgement, judged, answer⟩ := judged_of_declareIn looked declared rfl
    exact (judged ▸ verdict).of_conflict (Verdict.declared?_eq_rejected_iff.1 answer)
  · intro id text clashes named
    obtain ⟨entity, -, -, found, -⟩ := clashes.overloads
    exact declareIn_of_conflict looked (judge_eq (.clash clashes)) named found
  · intro id failure clashes unnamed
    exact declareIn_of_unnamed looked (judge_eq (.clash clashes)) unnamed
  · intro others
    have judged := judge_eq (.fresh others)
    exact ⟨judged, declareIn_of_accepted looked judged⟩
  · intro prior' perm
    have verdict' := SymbolStore.judge_verdict (besideHits.perm perm) isFunction callable known
      notLocal fun hit isHit => compatible hit (perm.mem_iff.1 isHit)
    exact (verdict.eq verdict' separate signed fun id => ((perm.filter _).map _).mem_iff).symm

/-- A function of a name without parameters, which returns a number. -/
def numberDraft (name : Name) : Draft where
  name := name
  kind := .function { type := DeclType.int.function {} }

/-- Two functions of one name are declared, one with a parameter and one without. -/
def declareTwice : List Operation :=
  [.intern "f", .declare (functionDraft ⟨0⟩ []), .declare (functionDraft ⟨0⟩ [.int])]

/-- In a block of a function, a class with a member function is declared. The block is dropped from
the stack, and the function is closed. -/
def dropAndClose : List Operation :=
  [.intern "f", .intern "C", .declare (functionDraft ⟨0⟩ []), .openScope (.functionBody ⟨0, 0⟩),
    .openScope (.block .block), .declare { name := ⟨1⟩, kind := .classDecl .structKey false },
    .declareIn ⟨3, 0⟩ (functionDraft ⟨0⟩ []), .popChain 1, .closeScope]

end Resolver

end ScopeResolution

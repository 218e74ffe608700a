import ScopeResolution.Proofs.Lookup.Qualifiers
import ScopeResolution.Proofs.SymbolStore.Ancestry
import ScopeResolution.Proofs.SymbolStore.Operation

/-! # What narrowing comes to

Hits hold each entity once, however they were collected (`nodup_entities_built`). So to ask whether
one entity or several answer a query is to count hits, and every way to narrow hits comes to the same
three outcomes: no candidate and no answer, one candidate that is the answer, or several candidates of
which the first is the answer and an ambiguity is reported (`Narrowed`). The ways differ in what they
take for candidates, which `narrowing_is_consistent` says for each. -/

namespace ScopeResolution

/-! ## Collecting hits -/

namespace Hits

/-- The ways to go on from hits. -/
inductive Build where
  /-- One hit is added. -/
  | push (hit : Hit)
  /-- Several hits are added. -/
  | extend (list : List Hit)
  /-- Hits are collected anew. -/
  | collect (list : List Hit)
  /-- All hits are dropped. -/
  | clear

/-- The hits after one way to go on. -/
def build (hits : Hits) : Build → Hits
  | .push hit => hits.add hit
  | .extend list => hits.extend list
  | .collect list => .ofList list
  | .clear => .empty

/-- The hits after several ways to go on from none. -/
def built (steps : List Build) : Hits := steps.foldl build .empty

/-- Built hits have distinct entities. -/
theorem nodup_entities_built (steps : List Build) : (built steps).entities.Nodup := by
  have start : empty.entities.Nodup := List.nodup_nil
  unfold built
  generalize empty = hits at start
  induction steps generalizing hits with
  | nil => exact start
  | cons step rest ih =>
      refine ih _ ?_
      cases step with
      | push hit => exact nodup_entities_add start hit
      | extend list => exact nodup_entities_extend start list
      | collect list => exact nodup_entities_ofList list
      | clear => exact List.nodup_nil

variable {hits : Hits} {query : Role}

/-- Some of the hits have distinct entities when all have. -/
theorem nodup_of_sublist (distinct : hits.entities.Nodup) {list : List Hit}
    (among : list.Sublist hits.toList) : (list.map (·.entity)).Nodup :=
  distinct.sublist (among.map _)

/-- Of entries with distinct entities, the second is on another entity than the first. -/
theorem second_ne {first second : Hit} {rest : List Hit}
    (distinct : ((first :: second :: rest).map (·.entity)).Nodup) :
    second.entity ≠ first.entity := by
  intro same
  simp [same] at distinct

/-- Hits on distinct entities stand for one entity that answers a query when there is one hit, and it
answers the query. -/
theorem isUnique_iff (distinct : hits.entities.Nodup) :
    hits.isUnique query = true ↔ ∃ hit, hits.toList = [hit] ∧ hit.role.answers query = true := by
  obtain ⟨list⟩ := hits
  unfold isUnique
  cases list with
  | nil => simp
  | cons first rest =>
      cases rest with
      | nil => simp
      | cons second rest =>
          have differ : second.entity ≠ first.entity := second_ne distinct
          simp [differ]

/-- Of entries with distinct entities, some entity is another one than the first when there are
two. -/
theorem any_ne_iff {first : Hit} {rest : List Hit}
    (distinct : ((first :: rest).map (·.entity)).Nodup) :
    (rest.any fun hit => hit.entity != first.entity) = true ↔ rest ≠ [] := by
  cases rest with
  | nil => simp
  | cons second rest =>
      have differ : second.entity ≠ first.entity := second_ne distinct
      simp [differ]

/-- Several entities answer a query when two hits or more do, if the hits are on distinct
entities. -/
theorem isAmbiguous_iff (distinct : hits.entities.Nodup) :
    hits.isAmbiguous query = true ↔ 2 ≤ (hits.answering query).length := by
  have answering : ((hits.answering query).map (·.entity)).Nodup :=
    nodup_of_sublist distinct List.filter_sublist
  unfold isAmbiguous
  cases answers : hits.answering query with
  | nil => simp
  | cons first rest =>
      rw [answers] at answering
      rw [any_ne_iff answering, List.length_cons]
      cases rest <;> simp

end Hits

/-! ## Candidates -/

namespace Hits

/-- The hits in roles of a kind. -/
def inRole (hits : Hits) (accepts : Role → Bool) : List Hit :=
  hits.toList.filter fun hit => accepts hit.role

/-- The candidates for an entity of a kind: the hits of that kind, and none of them if a hit of
another kind may not stand beside them. -/
def ofKind (hits : Hits) (accepts : Role → Bool) : Sharing → List Hit
  | .exclusive => if hits.toList.all fun hit => accepts hit.role then hits.toList else []
  | .overloaded => hits.inRole accepts

/-- The candidates for the name of a type: the type parameters among the hits, else the typedefs,
else the classes, else the enumerations. -/
def typeGroup (hits : Hits) : List Hit :=
  ([hits.inRole (· == .typeParameter), hits.inRole (· == .typedef), hits.inRole Role.isClass,
    hits.inRole (· == .enum)].find? fun group => !group.isEmpty).getD []

variable {hits : Hits}

/-- The candidates for an entity of a kind are among the hits, in their order. -/
theorem ofKind_sublist (hits : Hits) (accepts : Role → Bool) (sharing : Sharing) :
    (hits.ofKind accepts sharing).Sublist hits.toList := by
  cases sharing with
  | exclusive =>
      show (if hits.toList.all _ then hits.toList else []).Sublist hits.toList
      split
      · exact List.Sublist.refl _
      · exact List.nil_sublist _
  | overloaded => exact List.filter_sublist

/-- The candidates for the name of a type are among the hits, in their order. -/
theorem typeGroup_sublist (hits : Hits) : hits.typeGroup.Sublist hits.toList := by
  unfold typeGroup
  cases found : List.find? _ _ with
  | none => exact List.nil_sublist _
  | some group =>
      have isGroup := List.mem_of_find?_eq_some found
      simp only [List.mem_cons, List.not_mem_nil, or_false] at isGroup
      rcases isGroup with rfl | rfl | rfl | rfl <;> exact List.filter_sublist

/-- A role that no other one answers for is asked for by itself. -/
theorem answering_eq_inRole {query : Role} (notObject : query ≠ .object)
    (notEnumerator : query ≠ .enumerator) : hits.answering query = hits.inRole (· == query) := by
  refine List.filter_congr fun hit _ => ?_
  unfold Role.answers
  rw [beq_false_of_ne notObject, beq_false_of_ne notEnumerator]
  simp

end Hits

namespace SymbolStore

variable {store : SymbolStore} {mention : Mention} {hits : Hits} {log : DiagnosticLog}

/-- What a hit stands for as a qualifier: a hit in the role of a class or namespace for itself, one in
the role of a typedef for the class that its entity is a typedef of, if it is one of a class. -/
def scopeHit? (store : SymbolStore) (hit : Hit) : Option Hit :=
  if hit.role.isClass || hit.role == .namespaceRole then some hit
  else if hit.role == .typedef then do
    let entity ← store.entities.get? hit.entity
    let target ← entity.kind.typedefEntity?
    let role ← (store.roleOf target).toOption
    if role.isClass then some ⟨target, role⟩ else none
  else none

/-- The candidates for a qualifier: what the hits stand for, each entity once. -/
def scopeHits (store : SymbolStore) (hits : Hits) : List Hit :=
  (Hits.ofList (hits.toList.filterMap store.scopeHit?)).toList

/-- The hits are on entities that are there with everything around them, and so are the targets of
those in the role of typedefs. -/
structure Placed (store : SymbolStore) (hits : Hits) : Prop where
  /-- The entities are there with everything around them. -/
  surrounded : ∀ hit ∈ hits.toList, store.Surrounded hit.entity
  /-- So is what they are typedefs of. -/
  targets : ∀ hit ∈ hits.toList, hit.role = .typedef → ∀ entity target,
    store.entities.get? hit.entity = some entity → entity.kind.typedefEntity? = some target →
      store.Surrounded target

/-- What is there with everything around it has a role. -/
theorem Surrounded.roleOf_eq_ok {id : EntityId} (surrounded : store.Surrounded id) :
    ∃ role, store.roleOf id = .ok role := by
  obtain ⟨entity, tables, known, ancestry, -⟩ := surrounded
  have owner : ∃ table, store.tables.get? entity.owner = some table := by
    cases ancestry with
    | outermost tableKnown => exact ⟨_, tableKnown⟩
    | nested tableKnown => exact ⟨_, tableKnown⟩
  obtain ⟨table, tableKnown⟩ := owner
  exact ⟨_, SymbolStore.roleOf_eq_ok known tableKnown⟩

/-- A hit in the role of a typedef is found to stand for its class, if it is a typedef of one. -/
theorem addScope_eq_ok (placed : store.Placed hits) {hit : Hit} (isHit : hit ∈ hits.toList)
    (candidates : Hits) :
    store.addScope candidates hit = .ok (candidates.extend (store.scopeHit? hit).toList) := by
  unfold addScope scopeHit?
  by_cases opens : (hit.role.isClass || hit.role == .namespaceRole) = true
  · rw [if_pos opens, if_pos opens]
    rfl
  · rw [if_neg opens, if_neg opens]
    by_cases isTypedef : (hit.role == .typedef) = true
    · rw [if_pos isTypedef, if_pos isTypedef]
      obtain ⟨entity, -, known, -⟩ := placed.surrounded hit isHit
      unfold typedefClass?
      rw [entity_eq_ok_iff.2 known, ok_bind, known]
      cases stands : entity.kind.typedefEntity? with
      | none =>
          simp only [Option.bind_eq_bind, Option.bind_some, stands]
          rfl
      | some target =>
          have isRole : hit.role = .typedef := by simpa using isTypedef
          obtain ⟨role, seen⟩ :=
            (placed.targets hit isHit isRole entity target known stands).roleOf_eq_ok
          have isSome : (Except.ok role : Except Failure Role).toOption = some role := rfl
          simp only [Option.bind_eq_bind, Option.bind_some, stands, seen, ok_bind, isSome]
          by_cases isClass : role.isClass = true
          · rw [if_pos isClass, if_pos isClass]
            show (do
              let role ← store.roleOf target
              pure (candidates.add ⟨target, role⟩)) = _
            rw [seen]
            rfl
          · rw [if_neg isClass, if_neg isClass]
            rfl
    · rw [if_neg isTypedef, if_neg isTypedef]
      rfl

/-- The candidates for a qualifier are collected from what the hits stand for. -/
theorem foldlM_addScope (placed : store.Placed hits) {list : List Hit}
    (among : list ⊆ hits.toList) (candidates : Hits) :
    list.foldlM store.addScope candidates =
      .ok (candidates.extend (list.filterMap store.scopeHit?)) := by
  induction list generalizing candidates with
  | nil => rfl
  | cons hit rest ih =>
      rw [List.foldlM_cons, addScope_eq_ok placed (among List.mem_cons_self), ok_bind,
        ih fun _ listed => among (List.mem_cons_of_mem _ listed), List.filterMap_cons]
      cases store.scopeHit? hit with
      | none => rfl
      | some candidate => rfl

/-- What a hit stands for as a qualifier is there with everything around it. -/
theorem Placed.scopeHit? (placed : store.Placed hits) {hit candidate : Hit}
    (isHit : hit ∈ hits.toList) (stands : store.scopeHit? hit = some candidate) :
    store.Surrounded candidate.entity := by
  unfold SymbolStore.scopeHit? at stands
  split at stands
  · cases stands
    exact placed.surrounded hit isHit
  · split at stands
    · rename_i isTypedef
      have isRole : hit.role = .typedef := by simpa using isTypedef
      obtain ⟨entity, known, stands⟩ := Option.bind_eq_some_iff.1 stands
      obtain ⟨target, isTarget, stands⟩ := Option.bind_eq_some_iff.1 stands
      obtain ⟨role, -, stands⟩ := Option.bind_eq_some_iff.1 stands
      split at stands
      · cases stands
        exact placed.targets hit isHit isRole entity target known isTarget
      · cases stands
    · cases stands

/-- The candidates for the name of a type are those of the first group that has any. -/
theorem typeCandidates_eq (hits : Hits) (readings : List (Role → Bool)) :
    typeCandidates hits readings =
      ((readings.map hits.inRole).find? fun group => !group.isEmpty).getD [] := by
  induction readings with
  | nil => rfl
  | cons accepts rest ih =>
      rw [typeCandidates, List.map_cons, List.find?_cons, Hits.inRole]
      cases hits.toList.filter fun hit => accepts hit.role with
      | nil => exact ih
      | cons first others => rfl

/-! ## Outcomes -/

/-- What narrowing to candidates comes to: an answer, which is what the candidate means, or a failure,
and the log afterwards. -/
inductive Narrowed {α : Type} (store : SymbolStore) (mention : Mention) (log : DiagnosticLog)
    (means : Hit → α) : List Hit → Except Failure (Option α) × DiagnosticLog → Prop where
  /-- Without candidates there is no answer, and nothing is reported. -/
  | nothing : Narrowed store mention log means [] (.ok none, log)
  /-- One candidate is the answer, and nothing is reported. -/
  | sole (hit : Hit) : Narrowed store mention log means [hit] (.ok (some (means hit)), log)
  /-- Of several candidates the first is the answer, and one ambiguity is reported. -/
  | several {first second : Hit} {rest : List Hit} {names : List String} {after : DiagnosticLog}
      (named : store.candidateNames (first :: second :: rest) = .ok names)
      (reports : log.Reports
        [.ambiguous (store.nameText mention.name) mention.location names] after)
      (lasts : after.exhausted = false) :
      Narrowed store mention log means (first :: second :: rest) (.ok (some (means first)), after)
  /-- Of several candidates none is the answer when the report uses the error budget up. -/
  | exhausted {first second : Hit} {rest : List Hit} {names : List String}
      {after : DiagnosticLog} {exhausted : BudgetExhausted}
      (named : store.candidateNames (first :: second :: rest) = .ok names)
      (reports : log.Reports
        [.ambiguous (store.nameText mention.name) mention.location names] after)
      (usedUp : after.exhausted = true) :
      Narrowed store mention log means (first :: second :: rest)
        (.error (.budgetExhausted exhausted), after)

/-- Candidates with qualified names have names to report. -/
theorem candidateNames_eq_ok {candidates : List Hit}
    (named : ∀ hit ∈ candidates, ∃ text, store.qualifiedName hit.entity = .ok text) :
    ∃ names, store.candidateNames candidates = .ok names := by
  have folded (start : List String) : ∃ names, candidates.foldlM (fun names hit => do
      let name ← store.qualifiedName hit.entity
      pure (if name ∈ names then names else names ++ [name])) start = Except.ok names := by
    induction candidates generalizing start with
    | nil => exact ⟨start, rfl⟩
    | cons first rest ih =>
        obtain ⟨text, text_eq⟩ := named first List.mem_cons_self
        rw [List.foldlM_cons, text_eq]
        exact ih (fun hit listed => named hit (List.mem_cons_of_mem _ listed)) _
  exact folded []

/-- Settling an answer with a problem reports the problem, and hands the answer on if the budget
lasts. -/
theorem settle_problem {α : Type} (log : DiagnosticLog) (answer : α) (problem : Problem) :
    (log.append problem.toDiagnostic).exhausted = false ∧
        log.settle (.ok ⟨answer, some problem⟩) = (.ok answer, log.append problem.toDiagnostic) ∨
      (log.append problem.toDiagnostic).exhausted = true ∧ ∃ exhausted,
        log.settle (.ok ⟨answer, some problem⟩) =
          (.error (.budgetExhausted exhausted), log.append problem.toDiagnostic) := by
  unfold DiagnosticLog.settle DiagnosticLog.report DiagnosticLog.record
  cases lasts : (log.append problem.toDiagnostic).exhausted with
  | false => exact Or.inl ⟨rfl, by simp [lasts]⟩
  | true => exact Or.inr ⟨rfl, ⟨log.budget.maxErrors⟩, by simp [lasts]⟩

/-- Picking among candidates on distinct entities with qualified names narrows to them, whatever the
first one is taken to mean. -/
theorem narrowed_of_pick {α : Type} {candidates : List Hit} (means : Hit → α)
    (distinct : (candidates.map (·.entity)).Nodup)
    (named : ∀ hit ∈ candidates, ∃ text, store.qualifiedName hit.entity = .ok text)
    {judged : Except Failure (Judgement (Option α))}
    (picked : ∀ judgement, store.pick mention candidates = .ok judgement →
      judged = .ok ⟨candidates.head?.map means, judgement.problem⟩) :
    store.Narrowed mention log means candidates (log.settle judged) := by
  match candidates with
  | [] =>
      rw [picked _ rfl]
      exact .nothing
  | [hit] =>
      rw [picked _ rfl]
      exact .sole hit
  | first :: second :: rest =>
      obtain ⟨names, names_eq⟩ := candidateNames_eq_ok named
      have differ : ¬ (second :: rest).all (·.entity == first.entity) = true := by
        intro same
        simp only [List.all_cons, Bool.and_eq_true, beq_iff_eq] at same
        exact Hits.second_ne distinct same.1
      have pick_eq : store.pick mention (first :: second :: rest) =
          .ok ⟨some first.entity,
            some (.ambiguous (store.nameText mention.name) mention.location names)⟩ := by
        unfold pick
        simp only
        rw [if_neg differ, names_eq]
        rfl
      rw [picked _ pick_eq]
      rcases settle_problem log (some (means first))
        (.ambiguous (store.nameText mention.name) mention.location names) with
        ⟨lasts, settled⟩ | ⟨usedUp, exhausted, settled⟩
      · exact settled ▸ .several names_eq (log.reports_append _) lasts
      · exact settled ▸ .exhausted names_eq (log.reports_append _) usedUp

/-- Picking among candidates hands out the entity of the first one. -/
theorem narrowed_pick {candidates : List Hit} (distinct : (candidates.map (·.entity)).Nodup)
    (named : ∀ hit ∈ candidates, ∃ text, store.qualifiedName hit.entity = .ok text) :
    store.Narrowed mention log (·.entity) candidates
      (log.settle (store.pick mention candidates)) := by
  refine narrowed_of_pick _ distinct named fun judgement picked => ?_
  obtain ⟨answer, problem⟩ := judgement
  obtain ⟨rfl, -⟩ := @pick_eq_ok store mention ⟨candidates⟩ answer problem picked
  rw [picked, Hits.entities, List.head?_map]

/-- Candidates among hits on distinct entities, with everything around these, are narrowed to. -/
theorem Placed.narrowed_pick (placed : store.Placed hits) (distinct : hits.entities.Nodup)
    {candidates : List Hit} (among : candidates.Sublist hits.toList) :
    store.Narrowed mention log (·.entity) candidates
      (log.settle (store.pick mention candidates)) :=
  SymbolStore.narrowed_pick (Hits.nodup_of_sublist distinct among) fun hit listed =>
    (placed.surrounded hit (among.subset listed)).qualifiedName_eq_ok

/-- The entity of a kind is picked among the candidates for it. -/
theorem ofKind_eq_pick (accepts : Role → Bool) (sharing : Sharing) :
    store.ofKind mention accepts sharing hits = store.pick mention (hits.ofKind accepts sharing) := by
  cases sharing with
  | overloaded => rfl
  | exclusive =>
      unfold ofKind Hits.ofKind
      by_cases every : (hits.toList.all fun hit => accepts hit.role) = true
      · have none_other : (hits.toList.any fun hit => !accepts hit.role) = false := by
          rw [List.any_eq_false]
          intro hit listed
          simp [List.all_eq_true.1 every hit listed]
        have kept : (hits.toList.filter fun hit => accepts hit.role) = hits.toList :=
          List.filter_eq_self.2 (List.all_eq_true.1 every)
        simp [every, none_other, kept]
      · have other : (hits.toList.any fun hit => !accepts hit.role) = true := by
          simpa using every
        simp [every, other, pick]

/-- The name of a type is narrowed to the first group of candidates that has any. -/
theorem Placed.narrowed_typeNameOf (placed : store.Placed hits) (distinct : hits.entities.Nodup) :
    store.Narrowed mention log id hits.typeGroup (log.settle (store.typeNameOf mention hits)) := by
  have among := hits.typeGroup_sublist
  refine narrowed_of_pick id (Hits.nodup_of_sublist distinct among)
    (fun hit listed => (placed.surrounded hit (among.subset listed)).qualifiedName_eq_ok)
    fun judgement picked => ?_
  have candidates : typeCandidates hits typeReadings = hits.typeGroup :=
    typeCandidates_eq hits typeReadings
  unfold typeNameOf
  simp only [candidates, picked, ok_bind, Option.map_id_fun, id]
  rfl

/-- A qualifier is narrowed to what the hits stand for as one. -/
theorem Placed.narrowed_scopeOf (placed : store.Placed hits) :
    store.Narrowed mention log (·.entity) (store.scopeHits hits)
      (log.settle (store.scopeOf mention hits)) := by
  have collected : store.scopeOf mention hits = store.pick mention (store.scopeHits hits) := by
    unfold scopeOf
    rw [foldlM_addScope placed (List.Subset.refl _) .empty, ok_bind]
    rfl
  rw [collected]
  refine SymbolStore.narrowed_pick (Hits.nodup_entities_ofList _) fun candidate listed => ?_
  obtain ⟨hit, isHit, stands⟩ := List.mem_filterMap.1 (Hits.mem_ofList listed)
  exact (placed.scopeHit? isHit stands).qualifiedName_eq_ok

/-- Narrowing writes into the log when there are several candidates, and only then. -/
theorem Narrowed.log_ne_iff {α : Type} {means : Hit → α} {candidates : List Hit}
    {outcome : Except Failure (Option α) × DiagnosticLog}
    (narrowed : store.Narrowed mention log means candidates outcome) :
    outcome.2 ≠ log ↔ 2 ≤ candidates.length := by
  have longer {problem : Problem} {after : DiagnosticLog} (reports : log.Reports [problem] after) :
      after ≠ log := by
    rintro rfl
    simp [DiagnosticLog.Reports] at reports
  cases narrowed with
  | nothing => simp
  | sole hit => simp
  | several named reports lasts => simp [longer reports]
  | exhausted named reports usedUp => simp [longer reports]

/-- However hits were built, they hold each entity once; they are unique for a role when there is one
hit, which answers it, and ambiguous when two or more hits answer it. When the hits are on entities
that are there with everything around them, and so are the targets of the typedefs among them, then
every way to narrow them comes to one of the outcomes of narrowing, each for its own candidates; and
the narrowing to a role writes into the log exactly when the hits are ambiguous for it. -/
theorem narrowing_is_consistent (store : SymbolStore) (mention : Mention) (log : DiagnosticLog)
    (steps : List Hits.Build) (query : Role) (placed : store.Placed (Hits.built steps)) :
    let hits := Hits.built steps
    hits.entities.Nodup ∧
    (hits.isUnique query = true ↔ ∃ hit, hits.toList = [hit] ∧ hit.role.answers query = true) ∧
    (hits.isAmbiguous query = true ↔ 2 ≤ (hits.answering query).length) ∧
    ((log.settle (store.unique mention query hits)).2 ≠ log ↔ hits.isAmbiguous query = true) ∧
    store.Narrowed mention log (·.entity) (hits.answering query)
      (log.settle (store.unique mention query hits)) ∧
    store.Narrowed mention log (·.entity) (hits.inRole (· == .namespaceRole))
      (log.settle (store.namespaceOf mention hits)) ∧
    store.Narrowed mention log (·.entity) (hits.inRole (· == .classTemplate))
      (log.settle (store.classTemplateOf mention hits)) ∧
    (∀ sharing, store.Narrowed mention log (·.entity) (hits.ofKind Role.isClass sharing)
      (log.settle (store.classOf mention sharing hits))) ∧
    (∀ sharing, store.Narrowed mention log (·.entity) (hits.ofKind (· == .enum) sharing)
      (log.settle (store.enumerationOf mention sharing hits))) ∧
    store.Narrowed mention log (·.entity) (store.scopeHits hits)
      (log.settle (store.scopeOf mention hits)) ∧
    store.Narrowed mention log id hits.typeGroup (log.settle (store.typeNameOf mention hits)) := by
  intro hits
  have distinct : hits.entities.Nodup := Hits.nodup_entities_built steps
  have unique (role : Role) : store.Narrowed mention log (·.entity) (hits.answering role)
      (log.settle (store.unique mention role hits)) :=
    placed.narrowed_pick distinct List.filter_sublist
  have ofKind (accepts : Role → Bool) (sharing : Sharing) :
      store.Narrowed mention log (·.entity) (hits.ofKind accepts sharing)
        (log.settle (store.ofKind mention accepts sharing hits)) := by
    rw [ofKind_eq_pick]
    exact placed.narrowed_pick distinct (hits.ofKind_sublist accepts sharing)
  refine ⟨distinct, Hits.isUnique_iff distinct, Hits.isAmbiguous_iff distinct, ?_, unique query,
    ?_, ?_, ofKind Role.isClass, ofKind (· == .enum), placed.narrowed_scopeOf,
    placed.narrowed_typeNameOf distinct⟩
  · rw [Hits.isAmbiguous_iff distinct]
    exact (unique query).log_ne_iff
  · rw [← Hits.answering_eq_inRole (by decide) (by decide)]
    exact unique .namespaceRole
  · rw [← Hits.answering_eq_inRole (by decide) (by decide)]
    exact unique .classTemplate

/-! ## Typedefs of classes -/

/-- What the global table lists is there with everything around it. -/
theorem Linked.surrounded_of_global (linked : store.Linked) {id : EntityId} {entity : Entity}
    (known : store.entities.get? id = some entity) (owner : entity.owner = store.global) :
    store.Surrounded id := by
  obtain ⟨root, rootKnown, isGlobal⟩ := linked.global
  have form : root.form = .globalRegion := by
    unfold Table.kind at isGlobal
    split at isGlobal <;> first | assumption | cases isGlobal
  refine ⟨entity, [store.global], known, ?_, ?_⟩
  · rw [owner]
    exact .outermost rootKnown (by rw [Table.parent?, form])
  · intro outer listed table holder found owned
    rw [List.mem_singleton.1 listed, rootKnown, Option.some.injEq] at found
    rw [← found, Table.owner?, form] at owned
    cases owned

/-- Two classes, and a typedef of the first one. -/
def classesAndTypedef : List Operation :=
  let root := (SymbolStore.new {}).global
  [.addEntity root { name := ⟨0⟩, kind := .classDecl .structKey false },
    .addEntity root { name := ⟨1⟩, kind := .classDecl .structKey false },
    .addEntity root { name := ⟨2⟩, kind := .alias (.entity ⟨0, 0⟩) }]

/-- The typedef and the second class are two candidates for a qualifier, so the first one of these,
which is the first class, is picked, and an ambiguity is reported. -/
theorem narrowing_of_classesAndTypedef :
    let store := (SymbolStore.new {}).run classesAndTypedef
    let steps : List Hits.Build := [.push ⟨⟨2, 0⟩, .typedef⟩, .push ⟨⟨1, 0⟩, .classRole⟩]
    let mention : Mention := { name := ⟨3⟩ }
    store.Placed (Hits.built steps) ∧
      store.scopeHits (Hits.built steps) = [⟨⟨0, 0⟩, .classRole⟩, ⟨⟨1, 0⟩, .classRole⟩] ∧
      store.Narrowed mention {} (·.entity) [⟨⟨0, 0⟩, .classRole⟩, ⟨⟨1, 0⟩, .classRole⟩]
        (DiagnosticLog.settle {} (store.scopeOf mention (Hits.built steps))) := by
  intro store steps mention
  have linked : store.Linked := ((sound_new {}).run classesAndTypedef).linked
  have surrounded (id : EntityId)
      (listed : (store.entities.get? id).map (·.owner) = some store.global) :
      store.Surrounded id := by
    obtain ⟨entity, known, owner⟩ := Option.map_eq_some_iff.1 listed
    exact linked.surrounded_of_global known owner
  have placed : store.Placed (Hits.built steps) := by
    constructor
    · intro hit isHit
      rcases List.mem_cons.1 isHit with rfl | isHit
      · exact surrounded ⟨2, 0⟩ (by decide +kernel)
      · rw [List.mem_singleton.1 isHit]
        exact surrounded ⟨1, 0⟩ (by decide +kernel)
    · intro hit isHit isTypedef entity target known stands
      rcases List.mem_cons.1 isHit with rfl | isHit
      · have aimed : (store.entities.get? ⟨2, 0⟩).bind (·.kind.typedefEntity?) = some ⟨0, 0⟩ := by
          decide +kernel
        rw [known, Option.bind_some, stands, Option.some.injEq] at aimed
        rw [aimed]
        exact surrounded ⟨0, 0⟩ (by decide +kernel)
      · rw [List.mem_singleton.1 isHit] at isTypedef
        cases isTypedef
  have candidates : store.scopeHits (Hits.built steps) =
      [⟨⟨0, 0⟩, .classRole⟩, ⟨⟨1, 0⟩, .classRole⟩] := by decide +kernel
  obtain ⟨-, -, -, -, -, -, -, -, -, scope, -⟩ :=
    narrowing_is_consistent store mention {} steps .classRole placed
  exact ⟨placed, candidates, candidates ▸ scope⟩

/-- Two classes in a block of a function whose body is released without the block, and a typedef of
each of them. -/
def strandedClasses : List Operation :=
  let root := (SymbolStore.new {}).global
  [.addEntity root { name := ⟨0⟩, kind := .function { type := DeclType.void.function {} } },
    .openFunction ⟨0, 0⟩, .openBlock .block ⟨1, 0⟩,
    .addEntity ⟨2, 0⟩ { name := ⟨1⟩, kind := .classDecl .structKey false },
    .addEntity ⟨2, 0⟩ { name := ⟨2⟩, kind := .classDecl .structKey false }, .removeTable ⟨1, 0⟩,
    .addEntity root { name := ⟨3⟩, kind := .alias (.entity ⟨1, 0⟩) },
    .addEntity root { name := ⟨4⟩, kind := .alias (.entity ⟨2, 0⟩) }]

/-- The typedefs are there with everything around them, and so are the classes, but not all that is
around these: the narrowing to a qualifier fails, as the ambiguity takes their qualified names. -/
theorem scopeOf_of_strandedClasses :
    let store := (SymbolStore.new {}).run strandedClasses
    let hits := Hits.built [.push ⟨⟨3, 0⟩, .typedef⟩, .push ⟨⟨4, 0⟩, .typedef⟩]
    let mention : Mention := { name := ⟨5⟩ }
    (∀ hit ∈ hits.toList, store.Surrounded hit.entity ∧
      ∃ entity target aimed, store.entities.get? hit.entity = some entity ∧
        entity.kind.typedefEntity? = some target ∧ store.entities.get? target = some aimed) ∧
      store.scopeHits hits = [⟨⟨1, 0⟩, .classRole⟩, ⟨⟨2, 0⟩, .classRole⟩] ∧
      store.scopeOf mention hits = .error (.staleHandle .table) ∧
      ¬ store.Narrowed mention {} (·.entity) (store.scopeHits hits)
        (DiagnosticLog.settle {} (store.scopeOf mention hits)) := by
  intro store hits mention
  have linked : store.Linked := ((sound_new {}).run strandedClasses).linked
  have stands (id target : EntityId)
      (listed : (store.entities.get? id).map (fun entity =>
        (entity.owner, entity.kind.typedefEntity?)) = some (store.global, some target))
      (there : (store.entities.get? target).isSome = true) :
      store.Surrounded id ∧ ∃ entity target aimed, store.entities.get? id = some entity ∧
        entity.kind.typedefEntity? = some target ∧ store.entities.get? target = some aimed := by
    obtain ⟨entity, known, shown⟩ := Option.map_eq_some_iff.1 listed
    obtain ⟨aimed, aimedKnown⟩ := Option.isSome_iff_exists.1 there
    obtain ⟨owner, isTarget⟩ := Prod.mk.inj shown
    exact ⟨linked.surrounded_of_global known owner, entity, target, aimed, known, isTarget,
      aimedKnown⟩
  have candidates : store.scopeHits hits =
      [⟨⟨1, 0⟩, .classRole⟩, ⟨⟨2, 0⟩, .classRole⟩] := by decide +kernel
  have failed : store.scopeOf mention hits = .error (.staleHandle .table) := by rfl
  refine ⟨?_, candidates, failed, ?_⟩
  · intro hit isHit
    rcases List.mem_cons.1 isHit with rfl | isHit
    · exact stands ⟨3, 0⟩ ⟨1, 0⟩ (by decide +kernel) (by decide +kernel)
    · rw [List.mem_singleton.1 isHit]
      exact stands ⟨4, 0⟩ ⟨2, 0⟩ (by decide +kernel) (by decide +kernel)
  · rw [candidates, failed]
    intro narrowed
    cases narrowed

end SymbolStore

end ScopeResolution

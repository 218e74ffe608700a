import ScopeResolution.Proofs.Lookup.MemberOrigin
import ScopeResolution.Proofs.Lookup.RoundTrip
import ScopeResolution.Proofs.Resolver.Bodies
import ScopeResolution.Proofs.Resolver.Repetition

/-! # What hits stand for as a qualifier

Every search shows entities in their roles (`sees_of_resolve`). So among its hits the classes, the
namespaces and the typedefs of classes can be told by their roles, and the first one of these is what
the hits stand for as a qualifier (`qualifierOf`). A lookup that goes on after a qualifier goes on in
the body of that class or namespace, which reports an ambiguity at most; it ends for no other reason
than that there is no qualifier among the hits, which it reports (`enter_cases`). -/

namespace ScopeResolution

/-- The problem is that several entities answer the same query. -/
def Problem.IsAmbiguity (problem : Problem) : Prop :=
  ∃ name location candidates, problem = .ambiguous name location candidates

namespace DiagnosticLog

variable {log middle after : DiagnosticLog}

/-- Problems were reported one after the other, and nothing else was. -/
def Reports (before : DiagnosticLog) (problems : List Problem) (after : DiagnosticLog) : Prop :=
  after.entries = before.entries ++ problems.map (·.toDiagnostic)

/-- Nothing is reported where nothing happens. -/
theorem reports_nil (log : DiagnosticLog) : log.Reports [] log := (List.append_nil _).symm

/-- A problem stands in the log as it is reported. -/
theorem reports_append (log : DiagnosticLog) (problem : Problem) :
    log.Reports [problem] (log.append problem.toDiagnostic) := by
  rw [Reports, append_entries, log.admitted_toDiagnostic]
  rfl

/-- Problems that are reported later stand after the others. -/
theorem Reports.trans {first second : List Problem} (reports : log.Reports first middle)
    (later : middle.Reports second after) : log.Reports (first ++ second) after := by
  unfold Reports at reports later ⊢
  rw [later, reports, List.map_append, List.append_assoc]

/-- A report that succeeds adds the problem. -/
theorem reports_of_report {problem : Problem} {answer : Except Failure Unit}
    (reported : log.report problem = (answer, after)) : log.Reports [problem] after := by
  have same : after = log.append problem.toDiagnostic := by
    rw [← log.report_snd problem, reported]
  rw [same]
  exact log.reports_append problem

/-- A judgement that is settled gives its answer, and its problem is reported. -/
theorem settle_eq_ok {α : Type} {judged : Except Failure (Judgement α)} {answer : α}
    (settled : log.settle judged = (.ok answer, after)) :
    ∃ problem, judged = .ok ⟨answer, problem⟩ ∧ log.Reports problem.toList after := by
  unfold settle at settled
  split at settled
  · cases settled
  · cases settled
    exact ⟨none, rfl, reports_nil _⟩
  · rename_i problem
    split at settled
    · rename_i reported
      cases settled
      exact ⟨some problem, rfl, reports_of_report reported⟩
    · cases settled

end DiagnosticLog

/-- The role of a function is none of the roles of other entities. -/
theorem FunctionInfo.role_ne (info : FunctionInfo) (member : Bool) {role : Role}
    (other : role.isFunctionLike = false) : info.role member ≠ role := by
  intro same
  rw [← same, info.isFunctionLike_role] at other
  cases other

namespace EntityKind

variable {kind : EntityKind}

/-- The roles of a class, a union and a class template are those of classes, and of nothing else. -/
theorem isClass_role_iff (member : Bool) :
    (kind.role member).isClass = true ↔ kind.regionKind? = some .classTable := by
  cases kind with
  | classDecl key isTemplate => cases key <;> cases isTemplate <;> exact iff_of_true rfl rfl
  | function info =>
      have notClass : (info.role member).isClass = false := by
        have isFunction := info.isFunctionLike_role member
        cases role : info.role member <;> first | rfl | (rw [role] at isFunction; cases isFunction)
      simp [role, notClass, regionKind?]
  | templateParameter parameter => cases parameter <;> simp [role, Role.isClass, regionKind?]
  | _ => cases member <;> simp [role, Role.isClass, regionKind?]

/-- The role of a namespace is that of namespaces, and of nothing else. -/
theorem role_eq_namespaceRole_iff (member : Bool) :
    kind.role member = .namespaceRole ↔ kind.regionKind? = some .namespaceTable := by
  cases kind with
  | classDecl key isTemplate => cases key <;> cases isTemplate <;> simp [role, regionKind?]
  | function info =>
      have notNamespace : info.role member ≠ .namespaceRole := info.role_ne member rfl
      simp [role, notNamespace, regionKind?]
  | templateParameter parameter => cases parameter <;> simp [role, regionKind?]
  | _ => cases member <;> simp [role, regionKind?]

/-- The role of a typedef is that of typedefs and using-declarations, and of nothing else. -/
theorem role_eq_typedef_iff (member : Bool) :
    kind.role member = .typedef ↔ ∃ target, kind = .alias target := by
  cases kind with
  | classDecl key isTemplate => cases key <;> cases isTemplate <;> simp [role]
  | function info =>
      have notTypedef : info.role member ≠ .typedef := info.role_ne member rfl
      simp [role, notTypedef]
  | templateParameter parameter => cases parameter <;> simp [role]
  | _ => cases member <;> simp [role]

/-- Classes and namespaces are what gets a body when it is declared. -/
theorem opensRegion_iff :
    kind.opensRegion = true ↔
      kind.regionKind? = some .classTable ∨ kind.regionKind? = some .namespaceTable := by
  cases kind with
  | classDecl => exact iff_of_true rfl (Or.inl rfl)
  | namespaceDecl => exact iff_of_true rfl (Or.inr rfl)
  | _ => simp [opensRegion, regionKind?]

end EntityKind

namespace SymbolStore

variable {store : SymbolStore}

/-! ## Searches show entities in their roles -/

/-- All hits show entities in their roles. -/
def SeesAll (store : SymbolStore) (hits : Hits) : Prop := ∀ hit ∈ hits.toList, store.Sees hit

/-- No hits show entities in their roles. -/
theorem seesAll_empty : store.SeesAll .empty := fun _ isHit => absurd isHit List.not_mem_nil

/-- More hits that show entities in their roles. -/
theorem SeesAll.extend {hits more : Hits} (sees : store.SeesAll hits)
    (seesMore : store.SeesAll more) : store.SeesAll (hits.extend more.toList) := by
  intro hit isHit
  rcases Hits.mem_extend isHit with earlier | new
  · exact sees hit earlier
  · exact seesMore hit new

/-- The visit of a table shows entities in their roles if the visits of its peers do. -/
theorem seesAll_of_visitStep {nesting : Nesting} {name : Name}
    {deeper : TableId → Reached → Except Failure Reached}
    (below : ∀ id before after, store.SeesAll before.hits → deeper id before = .ok after →
      store.SeesAll after.hits)
    {id : TableId} {before after : Reached} (sees : store.SeesAll before.hits)
    (visited : store.visitStep (store.members nesting name) deeper id before = .ok after) :
    store.SeesAll after.hits := by
  unfold visitStep at visited
  split at visited
  · cases visited
    exact sees
  · obtain ⟨table, -, visited⟩ := bind_eq_ok_iff.1 visited
    obtain ⟨found, own, visited⟩ := bind_eq_ok_iff.1 visited
    refine foldlM_keeps (fun reached : Reached => store.SeesAll reached.hits) ?_ visited
      fun state peer _ next seen looked => below peer state next seen looked
    exact sees.extend fun hit isHit => (supplies_of_members own hit isHit).2

/-- A search over peers shows entities in their roles: by induction on the levels that are left. -/
theorem seesAll_of_visit {limit levels : Nat} {name : Name} {id : TableId} {before after : Reached}
    (sees : store.SeesAll before.hits)
    (visited : store.visit limit name levels id before = .ok after) : store.SeesAll after.hits := by
  induction levels generalizing id before after with
  | zero => exact seesAll_of_visitStep (fun _ _ _ _ failed => by cases failed) sees visited
  | succ levels ih =>
      exact seesAll_of_visitStep (fun _ _ _ seen deeper => ih seen deeper) sees visited

/-- A search in one table shows entities in their roles. -/
theorem seesAll_of_lookIn {nesting : Nesting} {reach : Reach} {name : Name} {id : TableId}
    {hits : Hits} (looked : store.lookIn nesting reach name id = .ok hits) :
    store.SeesAll hits := by
  cases reach with
  | symbol =>
      obtain ⟨reached, visited, same⟩ := bind_eq_ok_iff.1 looked
      cases same
      exact seesAll_of_visit seesAll_empty visited
  | scope =>
      obtain ⟨table, -, own⟩ := bind_eq_ok_iff.1 looked
      exact fun hit isHit => (sees_of_hitsOf own hit isHit).2

/-- A search in one table after the other shows entities in their roles. -/
theorem seesAll_of_firstHits {nesting : Nesting} {reach : Reach} {name : Name}
    {tables : List TableId} {hits : Hits}
    (looked : store.firstHits nesting reach name tables = .ok hits) : store.SeesAll hits := by
  induction tables with
  | nil =>
      cases looked
      exact seesAll_empty
  | cons first rest ih =>
      obtain ⟨own, found, looked⟩ := bind_eq_ok_iff.1 looked
      split at looked
      · exact ih looked
      · cases looked
        exact seesAll_of_lookIn found

/-- An entity counts as another one when it is an alias of it, and as itself when it is no alias. -/
def CountsAs (store : SymbolStore) (id target : EntityId) : Prop :=
  ∃ entity, store.entities.get? id = some entity ∧ entity.kind.aliasedEntity?.getD id = target

/-- What is found once aliases are followed shows in its role, and is what a hit counts as. -/
theorem sees_of_classify {hits : Hits} {found : Lookup} (sees : store.SeesAll hits)
    (classified : store.classify hits = .ok found) :
    ∀ hit ∈ found.hits.toList, store.Sees hit ∧
      ∃ source ∈ hits.toList, store.CountsAs source.entity hit.entity := by
  refine foldlM_keeps (fun found : Lookup => ∀ hit ∈ found.hits.toList, store.Sees hit ∧
    ∃ source ∈ hits.toList, store.CountsAs source.entity hit.entity)
    (fun _ isHit => absurd isHit List.not_mem_nil) classified
    fun before source listed after shown followed => ?_
  unfold follow at followed
  obtain ⟨entity, known, followed⟩ := bind_eq_ok_iff.1 followed
  rw [entity_eq_ok_iff] at known
  intro hit isHit
  cases stands : entity.kind.aliasedEntity? with
  | none =>
      rw [stands] at followed
      cases followed
      rcases Hits.mem_toList_add.1 isHit with earlier | ⟨rfl, -⟩
      · exact shown hit earlier
      · exact ⟨sees hit listed, hit, listed, entity, known, by rw [stands, Option.getD_none]⟩
  | some target =>
      rw [stands] at followed
      obtain ⟨role, roleFound, followed⟩ := bind_eq_ok_iff.1 followed
      cases followed
      rcases Hits.mem_toList_add.1 isHit with earlier | ⟨rfl, -⟩
      · exact shown hit earlier
      · exact ⟨roleFound, source, listed, entity, known, by rw [stands, Option.getD_some]⟩

/-- The lookup of a name shows entities in their roles. -/
theorem sees_of_resolve {scopes : OpenScopes} {nesting : Nesting} {reach : Reach}
    {start : Option TableId} {name : Name} {found : Lookup}
    (resolved : store.resolve scopes nesting reach start name = .ok found) :
    store.SeesAll found.hits := by
  have classified {hits : Hits} (sees : store.SeesAll hits)
      (classified : store.classify hits = .ok found) : store.SeesAll found.hits :=
    fun hit isHit => (sees_of_classify sees classified hit isHit).1
  unfold resolve at resolved
  cases start with
  | none =>
      obtain ⟨hits, looked, resolved⟩ := bind_eq_ok_iff.1 resolved
      exact classified (seesAll_of_firstHits looked) resolved
  | some id =>
      obtain ⟨hits, looked, resolved⟩ := bind_eq_ok_iff.1 resolved
      exact classified (seesAll_of_lookIn looked) resolved

/-! ## Qualifiers -/

/-- The class or namespace that an entity stands for as a qualifier: itself, or for a typedef the
class that it is a name of. -/
def qualifier? (store : SymbolStore) (id : EntityId) : Option EntityId := do
  let entity ← store.entities.get? id
  if entity.kind.opensRegion then some id
  else do
    let target ← entity.kind.typedefEntity?
    let class_ ← store.entities.get? target
    if class_.kind.regionKind? = some .classTable then some target else none

/-- The class or namespace that hits stand for as a qualifier: the one of the first hit that has
one. -/
def qualifierOf (store : SymbolStore) (hits : Hits) : Option EntityId :=
  hits.toList.findSome? (store.qualifier? ·.entity)

/-- A qualifier is a class or namespace that is there. -/
theorem opens_of_qualifier? {id qualifier : EntityId}
    (stands : store.qualifier? id = some qualifier) :
    ∃ entity, store.entities.get? qualifier = some entity ∧ entity.kind.opensRegion = true := by
  unfold qualifier? at stands
  obtain ⟨entity, known, stands⟩ := Option.bind_eq_some_iff.1 stands
  split at stands
  · rename_i opens
    cases stands
    exact ⟨entity, known, opens⟩
  · obtain ⟨target, -, stands⟩ := Option.bind_eq_some_iff.1 stands
    obtain ⟨class_, classKnown, stands⟩ := Option.bind_eq_some_iff.1 stands
    split at stands
    · rename_i isClass
      cases stands
      obtain ⟨key, isTemplate, kind⟩ := EntityKind.regionKind?_eq_classTable_iff.1 isClass
      exact ⟨class_, classKnown, by rw [kind]; rfl⟩
    · cases stands

/-- The qualifier of hits is a class or namespace that is there. -/
theorem opens_of_qualifierOf {hits : Hits} {qualifier : EntityId}
    (stands : store.qualifierOf hits = some qualifier) :
    ∃ entity, store.entities.get? qualifier = some entity ∧ entity.kind.opensRegion = true := by
  obtain ⟨hit, -, stands⟩ := List.exists_of_findSome?_eq_some stands
  exact opens_of_qualifier? stands

/-- Hits have no qualifier when none of them has one. -/
theorem qualifierOf_eq_none_iff {hits : Hits} :
    store.qualifierOf hits = none ↔ ∀ hit ∈ hits.toList, store.qualifier? hit.entity = none :=
  List.findSome?_eq_none_iff

/-- The first of some hits stays when one is added, and is the one that is added when there is
none. -/
theorem head?_entities_add (hits : Hits) (hit : Hit) :
    (hits.add hit).entities.head? = hits.entities.head?.or (some hit.entity) := by
  obtain ⟨list⟩ := hits
  unfold Hits.add
  split
  · cases list with
    | nil => rename_i among; cases among
    | cons => rfl
  · cases list <;> rfl

/-- What a typedef stands for as a qualifier is the class that it is a name of. -/
theorem typedefClass?_eq_ok {id : EntityId} {entity : Entity} {answer : Option EntityId}
    (known : store.entities.get? id = some entity) (notRegion : entity.kind.opensRegion = false)
    (asked : store.typedefClass? id = .ok answer) : store.qualifier? id = answer := by
  unfold typedefClass? at asked
  unfold qualifier?
  rw [entity_eq_ok_iff.2 known, ok_bind] at asked
  simp only [known, Option.bind_eq_bind, Option.bind_some, notRegion, Bool.false_eq_true, if_false]
  cases aimed : entity.kind.typedefEntity? with
  | none =>
      rw [aimed] at asked
      cases asked
      rfl
  | some named =>
      rw [aimed] at asked
      obtain ⟨role, told, asked⟩ := bind_eq_ok_iff.1 asked
      obtain ⟨class_, member, classKnown, rfl⟩ := kind_of_roleOf told
      rw [pure_eq_ok_iff] at asked
      simp only [← asked, classKnown, Option.bind_some, EntityKind.isClass_role_iff]

/-- A class or namespace is its own qualifier. -/
theorem qualifier?_of_opens {id : EntityId} {entity : Entity}
    (known : store.entities.get? id = some entity) (opens : entity.kind.opensRegion = true) :
    store.qualifier? id = some id := by
  unfold qualifier?
  simp only [known, Option.bind_eq_bind, Option.bind_some, opens, if_true]

/-- A hit adds its qualifier to the candidates, if it has one. -/
theorem head?_of_addScope {candidates next : Hits} {hit : Hit} (sees : store.Sees hit)
    (added : store.addScope candidates hit = .ok next) :
    next.entities.head? = candidates.entities.head?.or (store.qualifier? hit.entity) := by
  obtain ⟨entity, member, known, role⟩ := kind_of_roleOf sees
  by_cases opens : entity.kind.opensRegion = true
  · rw [addScope_of_region role opens candidates, Except.ok.injEq] at added
    rw [← added, head?_entities_add, qualifier?_of_opens known opens]
  · have notScope : (hit.role.isClass || hit.role == .namespaceRole) = false := by
      rw [EntityKind.opensRegion_iff, ← EntityKind.isClass_role_iff member,
        ← EntityKind.role_eq_namespaceRole_iff member, ← role] at opens
      simpa using opens
    have notRegion : entity.kind.opensRegion = false := by simpa using opens
    unfold addScope at added
    rw [if_neg (by rw [notScope]; decide)] at added
    by_cases isTypedef : hit.role = .typedef
    · rw [if_pos (by rw [isTypedef]; rfl)] at added
      obtain ⟨target?, asked, added⟩ := bind_eq_ok_iff.1 added
      rw [typedefClass?_eq_ok known notRegion asked]
      cases target? with
      | none =>
          cases added
          rw [Option.or_none]
      | some target =>
          obtain ⟨targetRole, -, added⟩ := bind_eq_ok_iff.1 added
          cases added
          rw [head?_entities_add]
    · rw [if_neg (by simpa using isTypedef)] at added
      cases added
      -- What is neither region nor typedef stands for nothing.
      have noTarget : entity.kind.typedefEntity? = none := by
        rw [role, EntityKind.role_eq_typedef_iff] at isTypedef
        cases kind : entity.kind with
        | «alias» target => exact absurd ⟨target, kind⟩ isTypedef
        | _ => rfl
      have noQualifier : store.qualifier? hit.entity = none := by
        unfold qualifier?
        simp only [known, Option.bind_eq_bind, Option.bind_some, notRegion, Bool.false_eq_true,
          if_false, noTarget, Option.bind_none]
      rw [noQualifier, Option.or_none]

/-- The first of some candidates is picked, and an ambiguity is all that can be reported. -/
theorem pick_eq_ok {mention : Mention} {candidates : Hits} {answer : Option EntityId}
    {problem : Option Problem}
    (picked : store.pick mention candidates.toList = .ok ⟨answer, problem⟩) :
    answer = candidates.entities.head? ∧ ∀ reported ∈ problem, reported.IsAmbiguity := by
  obtain ⟨list⟩ := candidates
  unfold pick at picked
  cases list with
  | nil =>
      cases picked
      exact ⟨rfl, fun _ isSome => nomatch isSome⟩
  | cons first rest =>
      simp only at picked
      split at picked
      · cases picked
        exact ⟨rfl, fun _ isSome => nomatch isSome⟩
      · obtain ⟨names, -, picked⟩ := bind_eq_ok_iff.1 picked
        cases picked
        refine ⟨rfl, fun reported same => ?_⟩
        cases same
        exact ⟨_, _, _, rfl⟩

/-- Hits stand for their qualifier, and an ambiguity is all that can be reported. -/
theorem scopeOf_eq_ok {mention : Mention} {hits : Hits} {answer : Option EntityId}
    {problem : Option Problem} (sees : store.SeesAll hits)
    (judged : store.scopeOf mention hits = .ok ⟨answer, problem⟩) :
    answer = store.qualifierOf hits ∧ ∀ reported ∈ problem, reported.IsAmbiguity := by
  have collected (list : List Hit) (candidates final : Hits) (among : list ⊆ hits.toList)
      (folded : list.foldlM store.addScope candidates = .ok final) :
      final.entities.head? =
        candidates.entities.head?.or (list.findSome? (store.qualifier? ·.entity)) := by
    induction list generalizing candidates with
    | nil =>
        cases folded
        rw [List.findSome?_nil, Option.or_none]
    | cons first rest ih =>
        rw [List.foldlM_cons] at folded
        obtain ⟨next, added, folded⟩ := bind_eq_ok_iff.1 folded
        rw [ih next (fun _ listed => among (List.mem_cons_of_mem _ listed)) folded,
          head?_of_addScope (sees first (among List.mem_cons_self)) added, List.findSome?_cons,
          Option.or_assoc]
        cases store.qualifier? first.entity <;> rfl
  unfold scopeOf at judged
  obtain ⟨candidates, folded, picked⟩ := bind_eq_ok_iff.1 judged
  obtain ⟨first, onlyAmbiguity⟩ := pick_eq_ok picked
  refine ⟨?_, onlyAmbiguity⟩
  rw [first, collected hits.toList .empty candidates (List.Subset.refl _) folded]
  rfl

/-- A place is the body of a class or namespace that is there. -/
def HasBody (store : SymbolStore) (place : Place) : Prop :=
  ∃ entity, store.entities.get? place.entity = some entity ∧ entity.kind.opensRegion = true ∧
    entity.body = some place.table

/-- A lookup that goes on after a qualifier goes on in the body of the class or namespace that the
hits stand for. It ends where they stand for none, and reports that. In both cases, an ambiguity is
all else that it can report. -/
theorem enter_cases (embodied : store.Embodied) {mention : Mention} {hits : Hits}
    (sees : store.SeesAll hits) {log after : DiagnosticLog} {place? : Option Place}
    (entered : store.enter mention hits log = (.ok place?, after)) :
    ∃ ambiguities : List Problem, (∀ problem ∈ ambiguities, problem.IsAmbiguity) ∧
      ((∃ place, place? = some place ∧ store.qualifierOf hits = some place.entity ∧
          store.HasBody place ∧ log.Reports ambiguities after) ∨
        place? = none ∧ store.qualifierOf hits = none ∧
          log.Reports (ambiguities ++ [.notAScope (store.nameText mention.name) mention.location])
            after) := by
  unfold enter at entered
  split at entered
  · cases entered
  · rename_i picked middle settled
    obtain ⟨problem, judged, reports⟩ := DiagnosticLog.settle_eq_ok settled
    obtain ⟨rfl, onlyAmbiguity⟩ := scopeOf_eq_ok sees judged
    refine ⟨problem.toList,
      fun reported listed => onlyAmbiguity reported (by simpa using listed), ?_⟩
    cases stands : store.qualifierOf hits with
    | none =>
        rw [stands] at entered
        simp only [placeOf] at entered
        split at entered
        · cases entered
        · rename_i reported
          cases entered
          exact Or.inr ⟨rfl, rfl, reports.trans (DiagnosticLog.reports_of_report reported)⟩
    | some qualifier =>
        obtain ⟨entity, known, opens⟩ := opens_of_qualifierOf stands
        obtain ⟨region, table, body, -, -⟩ := embodied qualifier entity known opens
        rw [stands, placeOf_of_region known opens body] at entered
        cases entered
        exact Or.inl ⟨⟨qualifier, region⟩, rfl, rfl, ⟨entity, known, opens, body⟩, reports⟩

end SymbolStore

end ScopeResolution

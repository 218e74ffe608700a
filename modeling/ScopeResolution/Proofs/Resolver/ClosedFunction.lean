import ScopeResolution.Proofs.Resolver.ScopeStack
import ScopeResolution.Proofs.SymbolStore.Confinement

/-! # Closed functions

What is left of a function body once it is closed. While the body is open, operations at the current
point declare entities, open blocks and the bodies of new functions and classes, and close what they
opened; all of it stays confined to the tables opened on the way (`InsideFunction`). When the
settings say that closed scopes are discarded, closing the body therefore leaves the open tables and
the store as they were before it was opened (`closed_function_leaves_no_trace`). -/

namespace ScopeResolution

/-- Whether an entity of this kind is a class, struct or union. -/
def EntityKind.isClass : EntityKind → Bool
  | .classDecl _ _ => true
  | _ => false

/-- A class gets a body as soon as it is declared. -/
theorem EntityKind.opensRegion_of_isClass {kind : EntityKind} (isClass : kind.isClass = true) :
    kind.opensRegion = true := by
  cases kind with
  | classDecl => rfl
  | _ => cases isClass

namespace Resolver

/-- An entity that is new since a resolver, and a class if it is there. -/
def NewClass (start now : Resolver) (id : EntityId) : Prop :=
  start.store.entities.get? id = none ∧
    ∀ entity ∈ now.store.entities.get? id, entity.kind.isClass = true

instance (start now : Resolver) (id : EntityId) : Decidable (start.NewClass now id) :=
  inferInstanceAs (Decidable (_ ∧ _))

/-- The operations between the opening of a function body and its closing: opening blocks and the
bodies of new functions and classes, closing what was opened, declaring entities at the current
point, using directives, bases for new classes and their completion, and lookups. -/
def Operation.Inside (start : Resolver) (body : TableId) (now : Resolver) : Operation → Prop
  | .openScope (.block _) => True
  | .openScope (.functionBody id) => start.store.entities.get? id = none
  | .openScope (.classBody id) => start.NewClass now id
  | .openScope (.namespaceBody _) => False
  | .closeScope => now.scopes.current ≠ body
  | .closeScopeChecked _ => now.scopes.current ≠ body
  | .pushChain _ => False
  | .popChain _ => False
  | .declareIn target _ => target = now.scopes.current
  | .insert _ => False
  | .insertInto _ _ => False
  | .addBase derived _ => start.NewClass now derived
  | .sealClass id => start.NewClass now id
  | _ => True

/-- Each operation of a run is one between the opening of a function body and its closing. -/
def InsideRun (start : Resolver) (body : TableId) : Resolver → List Operation → Prop
  | _, [] => True
  | now, operation :: rest =>
    operation.Inside start body now ∧ InsideRun start body (now.step operation) rest

/-- Everything that is new since a function body was opened is confined to the tables above it on
the stack, which are new too. -/
structure InsideFunction (start : Resolver) (owner : EntityId) (body : TableId)
    (above : List TableId) (now : Resolver) : Prop where
  /-- The store is confined. -/
  confined : start.store.Confined owner body (above ++ [body]) now.store
  /-- The tables that were open then are open below the body. -/
  inner_eq : now.scopes.inner = above ++ body :: start.scopes.inner
  /-- The outermost table stays. -/
  global_eq : now.scopes.global = start.scopes.global
  /-- The settings stay. -/
  settings_eq : now.settings = start.settings
  /-- The body is that of a function. -/
  isFunction : ∃ table, now.store.tables.get? body = some table ∧ table.kind = .functionTable

/-- The moves between the opening of a function body and its closing. -/
def Action.Inside (start : Resolver) (body : TableId) (now : Resolver) : Action → Prop
  | .edit change => change.Inside start.store now.store ∧
      (∀ parent block, change ≠ .openBlock parent block) ∧
      ∀ id region, change = .openBody id region → ∃ entity,
        now.store.entities.get? id = some entity ∧ entity.kind.opensRegion = true
  | .openFunction id _ => start.store.entities.get? id = none
  | .openBlock _ => True
  | .enter entity _ => start.NewClass now entity
  | .drop => False
  | .close => now.scopes.current ≠ body

namespace InsideFunction

variable {start now after : Resolver} {owner : EntityId} {body : TableId} {above : List TableId}

/-- The innermost table is new. -/
theorem current_mem (inside : InsideFunction start owner body above now) :
    now.scopes.current ∈ above ++ [body] := by
  rw [OpenScopes.current, inside.inner_eq]
  cases above with
  | nil => exact List.mem_cons_self
  | cons first rest => exact List.mem_cons_self

/-- A search among open tables finds a function no further out than the first one of a list. -/
theorem functionAmong_mem {store : SymbolStore} {above below : List TableId} {body found : TableId}
    {table : Table} (known : store.tables.get? body = some table)
    (isFunction : table.kind = .functionTable)
    (answer : OpenScopes.functionAmong store (above ++ body :: below) = .ok found) :
    found ∈ above ++ [body] := by
  induction above with
  | nil =>
      rw [List.nil_append, OpenScopes.functionAmong, SymbolStore.table_eq_ok_iff.2 known, ok_bind,
        isFunction] at answer
      cases answer
      exact List.mem_cons_self
  | cons first rest ih =>
      rw [List.cons_append, OpenScopes.functionAmong] at answer
      obtain ⟨other, -, answer⟩ := bind_eq_ok_iff.1 answer
      split at answer
      · exact List.mem_cons_of_mem _ (ih answer)
      · cases answer
        exact List.mem_cons_self
      · cases answer

/-- The function around this point is new. -/
theorem nearestFunction_mem (inside : InsideFunction start owner body above now) {found : TableId}
    (answer : now.scopes.nearestFunction now.store = .ok found) : found ∈ above ++ [body] := by
  obtain ⟨table, known, isFunction⟩ := inside.isFunction
  unfold OpenScopes.nearestFunction OpenScopes.toList at answer
  rw [inside.inner_eq, List.append_assoc, List.cons_append] at answer
  exact functionAmong_mem known isFunction answer

/-- The table that a draft is meant for is new. -/
theorem new_of_targetFor (inside : InsideFunction start owner body above now) {draft : Draft}
    {target : TableId} (meant : now.targetFor draft = .ok target) :
    start.store.tables.get? target = none := by
  refine inside.confined.opened_new target ?_
  unfold targetFor at meant
  split at meant
  · exact inside.nearestFunction_mem meant
  · cases meant
    exact inside.current_mem

/-- The table that a using directive belongs to is new. -/
theorem new_of_usingTarget (inside : InsideFunction start owner body above now) {target : TableId}
    (meant : now.usingTarget = .ok target) : start.store.tables.get? target = none := by
  refine inside.confined.opened_new target ?_
  unfold usingTarget at meant
  obtain ⟨table, -, meant⟩ := bind_eq_ok_iff.1 meant
  split at meant
  · exact inside.nearestFunction_mem meant
  · cases meant
    exact inside.current_mem

/-- The body of a new class is new. -/
theorem new_of_regionOf (inside : InsideFunction start owner body above now) {id : EntityId}
    {region : TableId} (newClass : start.NewClass now id)
    (found : now.store.regionOf id = .ok (some region)) :
    start.store.tables.get? region = none := by
  obtain ⟨holder, entity, known, opens, isBody, isSelf⟩ := SymbolStore.region_of_regionOf found
  have named : ∃ named, now.store.entities.get? id = some named := by
    unfold SymbolStore.regionOf at found
    obtain ⟨named, known', -⟩ := bind_eq_ok_iff.1 found
    exact ⟨named, SymbolStore.entity_eq_ok_iff.1 known'⟩
  obtain ⟨named, namedKnown⟩ := named
  -- The entity is a class, so it stands for itself and not for one that was there before.
  have same := isSelf named namedKnown
    (EntityKind.opensRegion_of_isClass (newClass.2 named namedKnown))
  rw [same] at known
  exact inside.confined.body_new id entity region known newClass.1 isBody

/-- Opening the body of a function leads inside it. -/
theorem open_ (sound : start.Sound)
    (opens : start.openScope (.functionBody owner) = .ok (body, after)) :
    InsideFunction start owner body [] after := by
  unfold openScope at opens
  obtain ⟨entered, found, opens⟩ := bind_eq_ok_iff.1 opens
  obtain ⟨table, store⟩ := entered
  cases opens
  obtain ⟨edit, -, entity, known, notRegion⟩ :=
    SymbolStore.openFunction_edit sound.store.wellFormed found
  refine ⟨.open_ known notRegion edit, rfl, rfl, rfl, ?_⟩
  obtain ⟨-, owner', bodyTable, ownerKnown, bodyKnown, opened⟩ := edit.opened
  rw [known, Option.some.injEq] at ownerKnown
  subst ownerKnown
  have isLocal := opened.isLocal_eq
  rw [notRegion] at isLocal
  refine ⟨bodyTable, bodyKnown, ?_⟩
  cases kind : bodyTable.kind with
  | functionTable => rfl
  | blockTable => exact absurd kind opened.not_block
  | _ => rw [kind] at isLocal; cases isLocal

/-- An edit of the store inside a function, which may open a table there, leads to a state inside
it. -/
theorem of_edit {above' : List TableId} {change : SymbolStore.Change}
    (inside : InsideFunction start owner body above now) (linked : now.store.Linked)
    (edit : now.store.Edit change after.store) (allowed : change.Inside start.store now.store)
    (grown : above ++ [body] ⊆ above' ++ [body])
    (opened_new : ∀ id ∈ above' ++ [body], start.store.tables.get? id = none)
    (opens : ∀ id table, now.store.tables.get? id = none → after.store.tables.get? id = some table →
      table.kind.isLocal = true → id ∈ above' ++ [body])
    (inner : after.scopes.inner = above' ++ body :: start.scopes.inner)
    (global : after.scopes.global = now.scopes.global) (settings : after.settings = now.settings) :
    InsideFunction start owner body above' after := by
  refine ⟨inside.confined.edit linked edit allowed grown opened_new opens, inner,
    by rw [global, inside.global_eq], by rw [settings, inside.settings_eq], ?_⟩
  obtain ⟨table, known, isFunction⟩ := inside.isFunction
  obtain ⟨later, laterKnown, place⟩ := edit.table_kept known
  exact ⟨later, laterKnown, by rw [place.kind_eq, isFunction]⟩

/-- An edit inside a function that opens a table of a function or block leads to a state inside it,
with that table on top. -/
theorem of_opening {opened : TableId} {change : SymbolStore.Change}
    (inside : InsideFunction start owner body above now) (linked : now.store.Linked)
    (edit : now.store.Edit change after.store) (allowed : change.Inside start.store now.store)
    (fresh : now.store.tables.get? opened = none)
    (only : ∀ id table, now.store.tables.get? id = none →
      after.store.tables.get? id = some table → id = opened)
    (scopes : after.scopes = now.scopes.push opened) (settings : after.settings = now.settings) :
    InsideFunction start owner body (opened :: above) after := by
  refine inside.of_edit linked edit allowed (fun _ listed => List.mem_cons_of_mem _ listed) ?_ ?_ ?_
    (by rw [scopes]; rfl) settings
  · intro id isOpened
    rcases List.mem_cons.1 isOpened with rfl | older
    · exact inside.confined.new_of_stale_table fresh
    · exact inside.confined.opened_new id older
  · intro id table stale found _
    rw [only id table stale found]
    exact List.mem_cons_self
  · rw [scopes]
    exact congrArg (opened :: ·) inside.inner_eq

/-- Closing a table above the body takes the first of those tables away. -/
theorem of_pop (inside : InsideFunction start owner body above now) {closed : TableId}
    {scopes : OpenScopes} (popped : now.scopes.pop = .ok (closed, scopes))
    (notBody : now.scopes.current ≠ body) :
    ∃ rest, above = closed :: rest ∧ closed ≠ body ∧
      scopes.inner = rest ++ body :: start.scopes.inner ∧ scopes.global = now.scopes.global := by
  have pushed := OpenScopes.of_pop_eq_ok popped
  have inner := inside.inner_eq
  have current : now.scopes.current = closed := by rw [pushed]; rfl
  rw [pushed] at inner
  cases above with
  | nil =>
      exact absurd (current.trans (List.cons.inj inner).1) notBody
  | cons first rest =>
      obtain ⟨same, others⟩ := List.cons.inj inner
      subst same
      exact ⟨rest, rfl, current ▸ notBody, others, by rw [pushed]; rfl⟩

/-- Every move that is one inside the function leads to a state inside it. -/
theorem move {action : Action} (inside : InsideFunction start owner body above now)
    (discards : start.settings.discardClosedScopes = true) (start_linked : start.store.Linked)
    (linked : now.store.Linked) (nested : now.Nested) (nested_after : after.Nested)
    (allowed : action.Inside start body now) (move : Move now action after) :
    ∃ above', InsideFunction start owner body above' after := by
  cases move with
  | @edit _ change edit scopes settings =>
      obtain ⟨change_allowed, no_block, region⟩ := allowed
      refine ⟨above, inside.of_edit linked edit change_allowed (fun _ => id)
        inside.confined.opened_new ?_ (by rw [scopes, inside.inner_eq]) (by rw [scopes]) settings⟩
      -- The edit opens bodies of classes and namespaces at most, and those belong to no function.
      intro id table stale found isLocal
      rcases edit.table_origin stale found with ⟨holder, entity, same, known, opened, -⟩ |
        ⟨parent, opener, same, -⟩
      · obtain ⟨entity', known', opens⟩ := region holder id same
        rw [known, Option.some.injEq] at known'
        rw [opened.isLocal_eq, known', opens] at isLocal
        cases isLocal
      · exact absurd same (no_block parent id)
  | @openFunction _ id region entity edit known notRegion scopes settings =>
      refine ⟨region :: above,
        inside.of_opening linked edit allowed edit.opened.1 ?_ scopes settings⟩
      intro other table stale found
      rcases edit.table_origin stale found with ⟨holder, _, same, -⟩ | ⟨parent, opener, same, -⟩
      · cases same; rfl
      · cases same
  | @openBlock _ block edit scopes settings =>
      refine ⟨block :: above,
        inside.of_opening linked edit trivial edit.openedBlock.1 ?_ scopes settings⟩
      intro other table stale found
      rcases edit.table_origin stale found with ⟨holder, _, same, -⟩ | ⟨parent, opener, same, -⟩
      · cases same
      · cases same; rfl
  | @enter _ entity region found store scopes settings =>
      have new := inside.new_of_regionOf allowed found
      refine ⟨region :: above, ?_, ?_, by rw [scopes]; exact inside.global_eq,
        by rw [settings, inside.settings_eq], by rw [store]; exact inside.isFunction⟩
      · rw [store]
        exact inside.confined.enter linked new
      · rw [scopes]
        exact congrArg (region :: ·) inside.inner_eq
  | drop => exact allowed.elim
  | @keep _ closed popped kept store settings =>
      obtain ⟨rest, rfl, notBody, inner, global⟩ := inside.of_pop popped allowed
      have isOpen : closed ∈ now.scopes.toList := by
        rw [OpenScopes.toList, inside.inner_eq]
        exact List.mem_cons_self
      -- Closed scopes are discarded, so what stays belongs to no function and anchors nothing.
      obtain ⟨table, known⟩ := nested.live closed isOpen
      have notLocal := kept (by rw [inside.settings_eq, discards]) table known
      refine ⟨rest, ?_, inner, by rw [global, inside.global_eq],
        by rw [settings, inside.settings_eq], by rw [store]; exact inside.isFunction⟩
      rw [store]
      exact inside.confined.leave known notLocal
  | @release _ closed table popped known isLocal released settings =>
      obtain ⟨rest, rfl, notBody, inner, global⟩ := inside.of_pop popped allowed
      refine ⟨rest, inside.confined.release start_linked linked notBody released, inner,
        by rw [global, inside.global_eq], by rw [settings, inside.settings_eq], ?_⟩
      -- The body is still open, so it is still there, and still that of a function.
      have isOpen : body ∈ after.scopes.toList := by
        rw [OpenScopes.toList, inner]
        exact List.mem_append_left _ (List.mem_append_right _ List.mem_cons_self)
      obtain ⟨later, laterKnown⟩ := nested_after.live body isOpen
      obtain ⟨table', known', isFunction⟩ := inside.isFunction
      have same := (released.table_left laterKnown).1
      rw [known', Option.some.injEq] at same
      exact ⟨later, laterKnown, by rw [← same, isFunction]⟩

/-- The moves of an operation inside the function are moves inside it. -/
theorem action_inside (inside : InsideFunction start owner body above now) {operation : Operation}
    (allowed : operation.Inside start body now) {middle : Resolver} {action : Action}
    (permitted : operation.Permits now middle action) : action.Inside start body middle := by
  cases action with
  | edit change =>
      refine ⟨?_, ?_, ?_⟩
      · cases change with
        | rest => trivial
        | file target draft id =>
            have files : operation.Files now middle.store target draft := permitted
            -- A draft that was judged takes no earlier label's place.
            have unused (accepted : middle.store.Accepted target draft) :
                SymbolStore.Change.NoRelabel middle.store (.file target draft id) :=
              fun isLabel _ known => SymbolStore.label?_of_accepted accepted isLabel known
            cases operation with
            | declare meant => exact ⟨inside.new_of_targetFor files.2.1, unused files.2.2⟩
            | declareIn given meant =>
                obtain ⟨-, rfl, accepted⟩ := files
                have isCurrent : given = now.scopes.current := allowed
                refine ⟨inside.confined.opened_new given ?_, unused accepted⟩
                rw [isCurrent]
                exact inside.current_mem
            | insert => exact allowed.elim
            | insertInto => exact allowed.elim
            | _ => exact files.elim
        | openBody id region => exact inside.confined.new_of_stale_entity permitted.1
        | openBlock => trivial
        | revise id =>
            have revises : operation.Revises now id := permitted
            cases operation with
            | addUsing used => exact inside.new_of_usingTarget revises
            | addBase derived base =>
                exact inside.new_of_regionOf allowed (SymbolStore.bodyOfKind_eq_ok revises).1
            | sealClass sealed =>
                exact inside.new_of_regionOf allowed (SymbolStore.bodyOfKind_eq_ok revises).1
            | _ => exact revises.elim
      · rintro parent block rfl
        exact permitted.elim
      · rintro id region rfl
        exact permitted.2
  | openFunction id region =>
      have opens : operation = .openScope (.functionBody id) := permitted
      subst opens
      exact allowed
  | openBlock => trivial
  | enter entity region =>
      obtain ⟨enters, store⟩ := permitted
      -- Of the operations that enter a body, only the opening of a new class is inside.
      have newClass : start.NewClass now entity := by
        cases operation with
        | openScope construct =>
            cases construct with
            | namespaceBody => exact allowed.elim
            | classBody id =>
                have same : id = entity := enters
                exact same ▸ allowed
            | _ => exact enters.elim
        | pushChain => exact allowed.elim
        | _ => exact enters.elim
      refine ⟨newClass.1, fun record known => newClass.2 record ?_⟩
      rwa [← store]
  | drop =>
      obtain ⟨count, same⟩ := permitted
      subst same
      exact allowed
  | close =>
      obtain ⟨closes, scopes⟩ := permitted
      show middle.scopes.current ≠ body
      rw [scopes]
      rcases closes with rfl | rfl
      · exact allowed
      · exact allowed

/-- Every operation inside the function leads to a state inside it, whether it fails or not. -/
theorem step (inside : InsideFunction start owner body above now)
    (discards : start.settings.discardClosedScopes = true) (start_linked : start.store.Linked)
    (sound : now.Sound) {operation : Operation} (allowed : operation.Inside start body now) :
    ∃ above', InsideFunction start owner body above' (now.step operation) := by
  have moves := (step_leads sound.store operation).moves
  -- The moves carry the links and the stack along, which each of them relies on.
  have all := moves.preserve
    (fun middle => middle.store.Linked ∧ middle.Nested ∧
      ∃ above, InsideFunction start owner body above middle)
    ⟨sound.store.linked, sound.nested, above, inside⟩ ?_
  · exact all.2.2
  rintro before action after ⟨linked, nested, above', inside'⟩ permitted made
  have nested_after := made.nested linked nested
  exact ⟨made.linked linked, nested_after, inside'.move discards start_linked linked nested
    nested_after (inside.action_inside allowed permitted) made⟩

/-- Every run inside the function leads to a state inside it. -/
theorem run (inside : InsideFunction start owner body above now)
    (discards : start.settings.discardClosedScopes = true) (start_linked : start.store.Linked)
    (sound : now.Sound) {operations : List Operation}
    (allowed : InsideRun start body now operations) :
    ∃ above', InsideFunction start owner body above' (now.run operations) := by
  induction operations generalizing now above with
  | nil => exact ⟨above, inside⟩
  | cons operation rest ih =>
      obtain ⟨above', inside'⟩ := inside.step discards start_linked sound allowed.1
      exact ih inside' (sound.step operation) allowed.2

/-- When the body of the function is innermost, nothing is open above it: it was opened once. -/
theorem above_eq_nil (inside : InsideFunction start owner body above now) (nested : now.Nested)
    (innermost : now.scopes.current = body) : above = [] := by
  cases above with
  | nil => rfl
  | cons first rest =>
      have first_eq : first = body := by
        rw [← innermost, OpenScopes.current, inside.inner_eq]
        rfl
      -- The body would be open twice, and no table of a function lies apart from itself.
      obtain ⟨table, known, isFunction⟩ := inside.isFunction
      have apart := nested.apart
      rw [inside.inner_eq, first_eq, List.cons_append] at apart
      have twice := List.rel_of_pairwise_cons apart
        (List.mem_append_right rest (List.mem_cons_self (a := body)))
      exact absurd Relation.ReflTransGen.refl (twice table known (by rw [isFunction]; rfl))

end InsideFunction

/-- A function that is closed leaves no trace, when closed scopes are discarded: after its body was
opened and closed, with any operations inside it in between, the open tables, the entities and the
tables are what they were before. -/
theorem closed_function_leaves_no_trace (names : NamePool) (settings : Settings)
    (earlier : List Operation) (start opened : Resolver) (owner : EntityId) (body : TableId)
    (entity : Entity) (operations : List Operation)
    (reached : start = (Resolver.new names settings).run earlier)
    (discards : start.settings.discardClosedScopes = true)
    (known : start.store.entities.get? owner = some entity) (vacant : entity.body = none)
    (opens : start.openScope (.functionBody owner) = .ok (body, opened))
    (inside : InsideRun start body opened operations)
    (innermost : (opened.run operations).scopes.current = body) :
    ∃ closed, (opened.run operations).closeScope = (.ok body, closed) ∧
      closed.scopes = start.scopes ∧
      closed.store.entities.get? = start.store.entities.get? ∧
      closed.store.tables.get? = start.store.tables.get? ∧
      closed.store.global = start.store.global ∧ closed.settings = start.settings := by
  have sound : start.Sound := by
    rw [reached]
    exact sound_run names settings earlier
  have opened_sound : opened.Sound := by
    have stepped : start.step (.openScope (.functionBody owner)) = opened := by
      show start.after (start.openScope _) _ = _
      rw [opens]
      rfl
    rw [← stepped]
    exact sound.step _
  -- At the end of the run, the body is the one open table above those that were open before.
  have last_sound := opened_sound.run operations
  obtain ⟨above, last⟩ := (InsideFunction.open_ sound opens).run discards sound.store.linked
    opened_sound inside
  have none_above := last.above_eq_nil last_sound.nested innermost
  subst none_above
  obtain ⟨table, bodyKnown, isFunction⟩ := last.isFunction
  have popped : (opened.run operations).scopes.pop = .ok (body, start.scopes) := by
    have inner := last.inner_eq
    have global := last.global_eq
    unfold OpenScopes.pop
    rw [inner]
    simp only [List.nil_append, global]
  -- Releasing the body takes everything new with it.
  obtain ⟨store, closes, released, -⟩ := closeScope_release last_sound.store popped
    (by rw [last.settings_eq, discards]) bodyKnown (by rw [isFunction]; rfl)
  obtain ⟨entities, tables, global⟩ :=
    last.confined.restored sound.store.linked known vacant released
  exact ⟨_, closes, rfl, entities, tables, global, last.settings_eq⟩

/-- The resolver that has read the declaration of a function. -/
def functionDeclared : Resolver :=
  (Resolver.new {} {}).run [.intern "f", .declare (functionDraft ⟨0⟩ [])]

/-- The resolver inside that function. -/
def functionOpened : Resolver := functionDeclared.step (.openScope (.functionBody ⟨0, 0⟩))

/-- A block inside the function declares a class, whose member function is opened and closed; a
using directive makes the class visible, the class is completed, and the function gets a label. -/
def usingLocalClass : List Operation :=
  [.intern "C", .openScope (.block .block),
    .declare { name := ⟨1⟩, kind := .classDecl .structKey false }, .openScope (.classBody ⟨1, 0⟩),
    .declare (functionDraft ⟨0⟩ []), .openScope (.functionBody ⟨2, 0⟩), .closeScope, .closeScope,
    .addUsing ⟨1, 0⟩, .sealClass ⟨1, 0⟩, .declare { name := ⟨1⟩, kind := .label }, .closeScope]

/-- A function with a local class in a block and with a label leaves no trace when it is closed. -/
theorem local_class_leaves_no_trace :
    functionDeclared.openScope (.functionBody ⟨0, 0⟩) = .ok (⟨1, 0⟩, functionOpened) ∧
      InsideRun functionDeclared ⟨1, 0⟩ functionOpened usingLocalClass ∧
      ∃ closed, (functionOpened.run usingLocalClass).closeScope = (.ok ⟨1, 0⟩, closed) ∧
        closed.scopes = functionDeclared.scopes ∧
        closed.store.entities.get? = functionDeclared.store.entities.get? ∧
        closed.store.tables.get? = functionDeclared.store.tables.get? ∧
        closed.store.global = functionDeclared.store.global ∧
        closed.settings = functionDeclared.settings := by
  have opens :
      functionDeclared.openScope (.functionBody ⟨0, 0⟩) = .ok (⟨1, 0⟩, functionOpened) := rfl
  have inside : InsideRun functionDeclared ⟨1, 0⟩ functionOpened usingLocalClass := by
    refine ⟨trivial, trivial, trivial, ?_, trivial, ?_, ?_, ?_, trivial, ?_, trivial, ?_, trivial⟩
    · show NewClass _ _ _
      decide +kernel
    · rfl
    · show _ ≠ _
      decide +kernel
    · show _ ≠ _
      decide +kernel
    · show NewClass _ _ _
      decide +kernel
    · show _ ≠ _
      decide +kernel
  refine ⟨opens, inside, ?_⟩
  exact closed_function_leaves_no_trace {} {} [.intern "f", .declare (functionDraft ⟨0⟩ [])]
    functionDeclared functionOpened ⟨0, 0⟩ ⟨1, 0⟩ ((functionDraft ⟨0⟩ []).toEntity ⟨0, 0⟩)
    usingLocalClass rfl rfl rfl rfl opens inside (by decide +kernel)

end Resolver

end ScopeResolution

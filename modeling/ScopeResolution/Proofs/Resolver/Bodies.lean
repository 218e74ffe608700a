import ScopeResolution.Proofs.Resolver.DeclarationEffect
import ScopeResolution.Proofs.SymbolStore.Home

/-! # The bodies of classes and namespaces

In every state that can be reached, every class has a class table as its body and every namespace a
namespace table (`embodied_run`). A class or namespace gets its body in the operation that files it,
though not in the same edit, so the invariant holds between operations and not between edits. It
never loses the body, because closing a scope releases only tables of functions and blocks. -/

namespace ScopeResolution

/-- The kind of the table that an entity of a kind gets as its body when it is declared. -/
def EntityKind.regionKind? : EntityKind → Option TableKind
  | .classDecl .. => some .classTable
  | .namespaceDecl => some .namespaceTable
  | _ => none

/-- The body of a class or namespace belongs to no function. -/
theorem EntityKind.isLocal_of_regionKind? {kind : EntityKind} {region : TableKind}
    (meant : kind.regionKind? = some region) : region.isLocal = false := by
  cases kind <;> cases meant <;> rfl

/-- The entities with class tables as bodies are the classes. -/
theorem EntityKind.regionKind?_eq_classTable_iff {kind : EntityKind} :
    kind.regionKind? = some .classTable ↔ ∃ key isTemplate, kind = .classDecl key isTemplate := by
  constructor
  · intro meant
    cases kind with
    | classDecl key isTemplate => exact ⟨key, isTemplate, rfl⟩
    | _ => cases meant
  · rintro ⟨key, isTemplate, rfl⟩
    rfl

/-- A new class or namespace gets a body of its kind. -/
theorem Entity.regionKind?_of_bodyForm? {entity : Entity} {id : EntityId} {form : TableForm}
    (opens : entity.kind.opensRegion = true) (formed : entity.bodyForm? id = some form) :
    entity.kind.regionKind? = some (Table.kind { form }) := by
  unfold Entity.bodyForm? at formed
  cases kind : entity.kind with
  | classDecl => rw [kind] at formed; cases formed; rfl
  | namespaceDecl => rw [kind] at formed; cases formed; rfl
  | _ => rw [kind] at opens; cases opens

namespace SymbolStore

/-- An entity has a table of the right kind as its body. -/
def Houses (store : SymbolStore) (entity : Entity) : Prop :=
  ∃ region table, entity.body = some region ∧ store.tables.get? region = some table ∧
    entity.kind.regionKind? = some table.kind

/-- Every class and every namespace has a body of its kind. -/
def Embodied (store : SymbolStore) : Prop :=
  ∀ id entity, store.entities.get? id = some entity → entity.kind.opensRegion = true →
    store.Houses entity

/-- The store that holds nothing but the global table has no entity without a body. -/
theorem embodied_new (names : NamePool) : (SymbolStore.new names).Embodied :=
  fun id _ found => nomatch (Arena.get?_empty id).symm.trans found

namespace Embodied

variable {store before after : SymbolStore}

/-- An edit that files no class or namespace keeps bodies. -/
theorem edit {change : Change} (embodied : before.Embodied) (edit : Edit before change after)
    (noRegion : ∀ target draft id, change = .file target draft id →
      draft.kind.opensRegion = false) : after.Embodied := by
  intro id entity found opens
  cases known : before.entities.get? id with
  | none =>
      obtain ⟨target, draft, -, -, filed, rfl, -⟩ := edit.entity_origin known found
      rw [Draft.toEntity, noRegion target draft id filed] at opens
      cases opens
  | some old =>
      have altered := edit.alters_entity known found
      rw [altered.kind_eq] at opens
      obtain ⟨region, table, body, tableKnown, kind⟩ := embodied id old known opens
      obtain ⟨table', tableFound, place⟩ := edit.table_kept tableKnown
      exact ⟨region, table', altered.body_eq opens body, tableFound, by
        rw [altered.kind_eq, place.kind_eq, kind]⟩

/-- Releasing the table of a function or block keeps the bodies of what is left. -/
theorem released {closed : TableId} {table : Table} (embodied : before.Embodied)
    (linked : after.Linked) (known : before.tables.get? closed = some table)
    (isLocal : table.kind.isLocal = true) (released : Released before closed after) :
    after.Embodied := by
  intro id entity found opens
  obtain ⟨old, oldKnown, rfl, -⟩ := released.entity_left found
  rw [Entity.forget_kind] at opens
  obtain ⟨region, body, isBody, bodyKnown, kind⟩ := embodied id old oldKnown opens
  have other : region ≠ closed := by
    rintro rfl
    rw [bodyKnown, Option.some.injEq] at known
    rw [← known, EntityKind.isLocal_of_regionKind? kind] at isLocal
    cases isLocal
  have kept : (old.forget closed).body = some region :=
    Entity.forget_body_eq_some_iff.2 ⟨isBody, other⟩
  obtain ⟨body', bodyFound, -⟩ := linked.body id _ region found kept
  have same := (released.table_left bodyFound).1
  rw [bodyKnown, Option.some.injEq] at same
  exact ⟨region, body', kept, bodyFound, by rw [Entity.forget_kind, kind, same]⟩

/-- A table that takes a draft in gives it a body if it is a class or namespace, and leaves the
others theirs. -/
theorem takes {target : TableId} {table : Table} {draft : Draft} {id : EntityId}
    (embodied : before.Embodied) (known : before.tables.get? target = some table)
    (takes : before.Takes target table draft id after) : after.Embodied := by
  obtain ⟨fresh, filing, takesIn, global_eq, -, -, -⟩ := takes
  cases takesIn with
  | bodiless noRegion entities tables =>
      refine embodied.edit (.file known fresh filing entities tables global_eq) ?_
      rintro _ _ _ ⟨⟩
      exact noRegion
  | @embodied body form opensNew formed freshBody entities tables =>
      intro member entity found opens
      rw [entities, Function.update_apply] at found
      split at found
      · cases found
        refine ⟨body, { form }, rfl, by rw [tables, Function.update_self], ?_⟩
        exact Entity.regionKind?_of_bodyForm? opensNew formed
      · obtain ⟨region, old, isBody, oldKnown, kind⟩ := embodied member entity found opens
        -- The body of another entity is not the new one, but it may be the table that grows.
        have other := Arena.ne_of_stale oldKnown freshBody
        by_cases here : region = target
        · subst here
          rw [known, Option.some.injEq] at oldKnown
          subst oldKnown
          refine ⟨region, _, isBody, by
            rw [tables, Function.update_of_ne other, Function.update_self], ?_⟩
          rw [filing.samePlace.kind_eq, kind]
        · exact ⟨region, old, isBody, by
            rw [tables, Function.update_of_ne other, Function.update_of_ne here, oldKnown], kind⟩

/-- Declaring an entity in a table, whether it succeeds or not, gives every class and namespace its
body. -/
theorem addEntity (embodied : store.Embodied) (wellFormed : store.WellFormed) (target : TableId)
    (draft : Draft) : (store.addEntity target draft).2.Embodied := by
  by_cases opens : draft.kind.opensRegion = true
  · cases added : store.addEntity target draft with
    | mk answer after =>
        cases answer with
        | error failure =>
            have same := addEntity_error wellFormed added
            intro id entity found opens
            rw [same.entities_eq] at found
            obtain ⟨region, table, body, known, kind⟩ := embodied id entity found opens
            exact ⟨region, table, body, by rw [same.tables_eq, known], kind⟩
        | ok filed =>
            have slot := EntityKind.slot_of_opensRegion opens
            cases found : store.table target with
            | error failure =>
                unfold SymbolStore.addEntity at added
                rw [found] at added
                cases added
            | ok table =>
                rw [table_eq_ok_iff] at found
                refine embodied.takes found (addEntity_takes wellFormed found ?_ added)
                rw [slot]
                exact fun isLabel => nomatch isLabel
  · have noRegion : draft.kind.opensRegion = false := by simpa using opens
    have edits := (addEntity_edits (fun _ change => ∀ target' draft' id,
      change = .file target' draft' id → draft'.kind.opensRegion = false) wellFormed target draft
      (fun _ _ _ same => nomatch same) (fun _ _ => by rintro _ _ _ ⟨⟩; exact noRegion)
      fun _ _ _ _ _ _ _ _ _ _ same => nomatch same).1
    exact edits.preserve Embodied embodied fun _ _ _ holds files edit => holds.edit edit files

/-- The body of a class, in a store in which classes have bodies, is a class table. -/
theorem classTable (embodied : store.Embodied) {id : EntityId} {entity : Entity}
    {key : ClassKey} {isTemplate : Bool} {region : TableId}
    (known : store.entities.get? id = some entity)
    (isClass : entity.kind = .classDecl key isTemplate) (body : entity.body = some region) :
    ∃ table, store.tables.get? region = some table ∧ table.kind = .classTable := by
  obtain ⟨region', table, body', tableKnown, kind⟩ :=
    embodied id entity known (by rw [isClass]; rfl)
  rw [body, Option.some.injEq] at body'
  rw [isClass] at kind
  exact ⟨table, by rw [body', tableKnown], (Option.some.inj kind).symm⟩

end Embodied

end SymbolStore

namespace Resolver

variable {resolver : Resolver}

/-- A declaration in a table leaves the store alone, or adds the draft to it. -/
theorem store_of_declareIn (target : TableId) (draft : Draft) :
    (resolver.declareIn target draft).2.store = resolver.store ∨
      (resolver.declareIn target draft).2.store = (resolver.store.addEntity target draft).2 := by
  unfold declareIn
  cases resolver.priorAndRole target draft with
  | error failure => exact Or.inl rfl
  | ok found =>
      simp only
      cases judged : resolver.judgeIn target draft found.1 found.2 with
      | mk answer next =>
          have store := (settle_frame judged).1
          cases answer with
          | error failure => exact Or.inl store
          | ok verdict =>
              cases verdict with
              | matched entity => exact Or.inl store
              | conflict entity => exact Or.inl store
              | accepted =>
                  simp only
                  rw [fileJudged_accepted, ← store]
                  exact Or.inr rfl

/-- An operation that files nothing leaves classes and namespaces their bodies. -/
theorem embodied_of_moves (sound : resolver.store.Sound) (embodied : resolver.store.Embodied)
    {operation : Operation}
    (filesNone : ∀ now target draft, ¬ operation.Files resolver now target draft) :
    (resolver.step operation).store.Embodied :=
  step_keeps SymbolStore.Embodied sound embodied operation
    (fun _ _ _ _ embodied files edit => embodied.edit edit fun target draft id filed =>
      absurd (files target draft id filed) (filesNone _ _ _))
    fun _ _ _ _ linked embodied known isLocal released =>
      embodied.released (linked.released released) known isLocal released

/-- Every operation gives the classes and namespaces that it files their bodies, and leaves the
others theirs. -/
theorem embodied_step (sound : resolver.store.Sound) (embodied : resolver.store.Embodied)
    (operation : Operation) : (resolver.step operation).store.Embodied := by
  have adds (target : TableId) (draft : Draft) :=
    embodied.addEntity sound.wellFormed target draft
  have declares (target : TableId) (draft : Draft) :
      (resolver.declareIn target draft).2.store.Embodied := by
    rcases store_of_declareIn target draft with same | same
    · rw [same]; exact embodied
    · rw [same]; exact adds target draft
  -- The operations that may file a draft do so with all that belongs to it.
  cases operation with
  | declare draft =>
      show (resolver.declare draft).2.store.Embodied
      unfold declare
      cases resolver.targetFor draft with
      | error failure => exact embodied
      | ok target => exact declares target draft
  | declareIn target draft => exact declares target draft
  | insert draft =>
      show (resolver.insert draft).2.store.Embodied
      unfold insert
      cases resolver.targetFor draft with
      | error failure => exact embodied
      | ok target => exact adds target draft
  | insertInto target draft => exact adds target draft
  | _ => exact embodied_of_moves sound embodied fun _ _ _ => id

/-- In every state that can be reached, every class and every namespace has a body of its kind. -/
theorem embodied_run (names : NamePool) (settings : Settings) (operations : List Operation) :
    ((Resolver.new names settings).run operations).store.Sound ∧
      ((Resolver.new names settings).run operations).store.Embodied :=
  run_keeps SymbolStore.Embodied (sound_new names settings) (SymbolStore.embodied_new names)
    operations fun _ sound embodied operation _ => embodied_step sound embodied operation

end Resolver

end ScopeResolution

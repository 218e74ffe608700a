import ScopeResolution.Proofs.Lookup.MemberOrigin
import ScopeResolution.Proofs.Resolver.Bodies

/-! # Access to members that are found

Looking a member up and asking how it can be reached are two searches over the bases of a class. The
first one goes from bodies to bodies and is cut short where a name is hidden, the second one goes
from classes to classes towards the owner of the member. They agree in every state that can be
reached (`effectiveAccess_of_classLookup`): what the first one finds is out of reach for the second
one only by nesting too deep, and it is never reached with more rights than the member and each base
on the way to it grant. -/

namespace ScopeResolution

/-- The access over bases is one of the levels on the way, and none of them is stricter. -/
theorem Access.through_spec (access : Access) (path : List Base) :
    access.through path ∈ access :: path.map (·.access) ∧
      ∀ level ∈ access :: path.map (·.access), level.rank ≤ (access.through path).rank := by
  induction path generalizing access with
  | nil => simp [through]
  | cons base rest ih =>
      obtain ⟨among, strictest⟩ := ih (access.stricter base.access)
      have through_eq : access.through (base :: rest) =
          (access.stricter base.access).through rest := rfl
      have first := strictest _ List.mem_cons_self
      rw [rank_stricter] at first
      rw [through_eq, List.map_cons]
      constructor
      · have stricter : access.stricter base.access = access ∨
            access.stricter base.access = base.access := by
          unfold stricter
          split
          · exact Or.inr rfl
          · exact Or.inl rfl
        rcases List.mem_cons.1 among with same | later
        · rw [same]
          rcases stricter with same | same <;> rw [same] <;> simp
        · exact List.mem_cons_of_mem _ (List.mem_cons_of_mem _ later)
      · intro level listed
        rcases List.mem_cons.1 listed with rfl | listed
        · exact le_trans (le_max_left _ _) first
        · rcases List.mem_cons.1 listed with rfl | later
          · exact le_trans (le_max_right _ _) first
          · exact strictest level (List.mem_cons_of_mem _ later)

namespace SymbolStore

variable {store : SymbolStore}

/-- A member that a class declares belongs to the body of that class. -/
theorem Declares.owner (linked : store.Linked) {declaring : EntityId} {name : Name}
    {member : EntityId} (declares : store.Declares declaring name member) :
    ∃ entity table parent body, store.entities.get? member = some entity ∧
      store.tables.get? entity.owner = some table ∧
      table.form = .classBody declaring parent body := by
  obtain ⟨table, ⟨class_, region, classKnown, hasBody, tableKnown, isClass⟩, listed⟩ := declares
  obtain ⟨entity, known, owner⟩ :=
    linked.listed region table tableKnown member (table.entries_subset_listed name listed)
  obtain ⟨table', tableKnown', owned, -⟩ := linked.body declaring class_ region classKnown hasBody
  rw [tableKnown, Option.some.injEq] at tableKnown'
  subst tableKnown'
  unfold Table.kind at isClass
  unfold Table.owner? at owned
  cases form : table.form with
  | classBody owner parent body =>
      rw [form] at owned
      cases owned
      exact ⟨entity, table, parent, body, known, by rw [owner, tableKnown], form⟩
  | _ => rw [form] at isClass; cases isClass

end SymbolStore

namespace Resolver

variable {resolver : Resolver}

/-- The access to a member of a class is that over the path to the class, if there is a path. -/
theorem effectiveAccess_eq {member through declaring : EntityId} {entity : Entity} {table : Table}
    {parent : TableId} {body : ClassBody}
    (known : resolver.store.entities.get? member = some entity)
    (owner : resolver.store.tables.get? entity.owner = some table)
    (form : table.form = .classBody declaring parent body) :
    resolver.effectiveAccess member through = (do
      let path ← resolver.store.basePath resolver.nesting through declaring
      pure (path.map entity.access.through)) := by
  unfold effectiveAccess
  rw [SymbolStore.entity_eq_ok_iff.2 known, ok_bind, SymbolStore.table_eq_ok_iff.2 owner, ok_bind,
    form]

/-- Lookup and access agree in every state that can be reached: what is found under a name in the
body of a class is never out of reach through that class. If the access to it can be told, there is
a path of bases from the class to the one whose body lists it, and the access is the strictest one
of the member and of the bases on that path. -/
theorem effectiveAccess_of_classLookup (names : NamePool) (settings : Settings)
    (operations : List Operation) (resolver : Resolver) (class_ : EntityId) (entity : Entity)
    (key : ClassKey) (isTemplate : Bool) (region : TableId) (nesting : Nesting) (name : Name)
    (hits : Hits) (member : EntityId)
    (reached : resolver = (Resolver.new names settings).run operations)
    (found : resolver.store.entities.get? class_ = some entity)
    (isClass : entity.kind = .classDecl key isTemplate) (body : entity.body = some region)
    (looked : resolver.store.classLookup nesting region name = .ok hits)
    (isHit : member ∈ hits.entities) :
    resolver.effectiveAccess member class_ ≠ .ok none ∧
      ∀ access, resolver.effectiveAccess member class_ = .ok (some access) →
        ∃ memberEntity table declaring path,
          resolver.store.entities.get? member = some memberEntity ∧
          resolver.store.tables.get? memberEntity.owner = some table ∧
          table.kind = .classTable ∧ table.owner? = some declaring ∧
          resolver.store.basePath resolver.nesting class_ declaring = .ok (some path) ∧
          memberEntity.access.rank ≤ access.rank ∧
          (∀ base ∈ path, base.access.rank ≤ access.rank) ∧
          access ∈ memberEntity.access :: path.map (·.access) := by
  obtain ⟨sound, embodied⟩ := embodied_run names settings operations
  rw [← reached] at sound embodied
  obtain ⟨classTable, tableKnown, tableKind⟩ := embodied.classTable found isClass body
  obtain ⟨hit, hitListed, rfl⟩ := List.mem_map.1 isHit
  obtain ⟨⟨declaring, inherits, declares⟩, -⟩ :=
    SymbolStore.declared_of_classLookup found body tableKnown tableKind looked hit hitListed
  obtain ⟨memberEntity, table, parent, classBody, known, owner, form⟩ :=
    declares.owner sound.linked
  rw [effectiveAccess_eq known owner form]
  constructor
  · intro missed
    obtain ⟨path, answered, none_eq⟩ := bind_eq_ok_iff.1 missed
    rw [pure_eq_ok_iff, Option.map_eq_none_iff] at none_eq
    subst none_eq
    exact SymbolStore.unreached_of_basePath sound.linked answered inherits
  · intro access told
    obtain ⟨path, answered, some_eq⟩ := bind_eq_ok_iff.1 told
    rw [pure_eq_ok_iff, Option.map_eq_some_iff] at some_eq
    obtain ⟨path, rfl, rfl⟩ := some_eq
    obtain ⟨among, strictest⟩ := memberEntity.access.through_spec path
    refine ⟨memberEntity, table, declaring, path, known, owner, ?_, ?_, answered,
      strictest _ List.mem_cons_self, fun base listed => ?_, among⟩
    · unfold Table.kind; rw [form]
    · unfold Table.owner?; rw [form]
    · exact strictest _ (List.mem_cons_of_mem _ (List.mem_map_of_mem listed))

/-- A class with a protected member, a class that is privately derived from it, and one that is
derived from that. -/
def derivePrivately : List Operation :=
  [.intern "A", .intern "B", .intern "C", .intern "m",
    .declare { name := ⟨0⟩, kind := .classDecl .classKey false },
    .declareIn ⟨1, 0⟩ {
      name := ⟨3⟩, kind := .object .int .unwritten, access := .protectedAccess },
    .declare { name := ⟨1⟩, kind := .classDecl .classKey false },
    .declare { name := ⟨2⟩, kind := .classDecl .classKey false },
    .addBase ⟨2, 0⟩ { entity := ⟨0, 0⟩, access := .privateAccess },
    .addBase ⟨3, 0⟩ { entity := ⟨2, 0⟩, access := .publicAccess }]

/-- The member is found in the last class, and is private there because of the first derivation. -/
theorem effectiveAccess_of_derivePrivately :
    let resolver := (Resolver.new {} {}).run derivePrivately
    resolver.store.classLookup resolver.nesting ⟨3, 0⟩ ⟨3⟩ = .ok ⟨[⟨⟨1, 0⟩, .dataMember⟩]⟩ ∧
      resolver.effectiveAccess ⟨1, 0⟩ ⟨3, 0⟩ = .ok (some .privateAccess) ∧
      ∃ memberEntity table declaring path,
        resolver.store.entities.get? ⟨1, 0⟩ = some memberEntity ∧
        resolver.store.tables.get? memberEntity.owner = some table ∧
        table.kind = .classTable ∧ table.owner? = some declaring ∧
        resolver.store.basePath resolver.nesting ⟨3, 0⟩ declaring = .ok (some path) ∧
        memberEntity.access.rank ≤ Access.privateAccess.rank ∧
        (∀ base ∈ path, base.access.rank ≤ Access.privateAccess.rank) ∧
        Access.privateAccess ∈ memberEntity.access :: path.map (·.access) := by
  intro resolver
  obtain ⟨entity, found, facts⟩ := Option.map_eq_some_iff.1 (show
    (resolver.store.entities.get? ⟨3, 0⟩).map (fun entity =>
      (entity.kind.regionKind?, entity.body)) = some (some .classTable, some ⟨3, 0⟩) by
        decide +kernel)
  obtain ⟨kind, body⟩ := Prod.mk.inj facts
  obtain ⟨key, isTemplate, isClass⟩ := EntityKind.regionKind?_eq_classTable_iff.1 kind
  have looked : resolver.store.classLookup resolver.nesting ⟨3, 0⟩ ⟨3⟩ =
      .ok ⟨[⟨⟨1, 0⟩, .dataMember⟩]⟩ := by decide +kernel
  have told : resolver.effectiveAccess ⟨1, 0⟩ ⟨3, 0⟩ = .ok (some .privateAccess) := by
    decide +kernel
  have reachable := effectiveAccess_of_classLookup {} {} derivePrivately resolver ⟨3, 0⟩ entity key
    isTemplate ⟨3, 0⟩ resolver.nesting ⟨3⟩ _ ⟨1, 0⟩ rfl found isClass body looked
    List.mem_cons_self
  exact ⟨looked, told, reachable.2 _ told⟩

end Resolver

end ScopeResolution

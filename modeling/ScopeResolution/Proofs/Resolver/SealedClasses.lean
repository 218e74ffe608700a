import ScopeResolution.Proofs.Resolver.Stability

/-! # Complete classes are frozen

Four functions of the store change a table that is there, and each of them asks first whether the
table is that of a complete class. So from the moment when a class is complete until its table is
released, the table is the same in every state, whichever way it is reached: by opening the class, as
a qualifier, over an alias, by a using directive or by a declaration from outside
(`sealed_of_run`). What was declared before may still be declared again. -/

namespace ScopeResolution

/-! ## The table -/

namespace Table

variable {table after : Table}

/-- A table is that of a complete class. -/
def IsSealed (table : Table) : Prop := ∃ body, table.class? = some body ∧ body.isSealed = true

/-- The table of a complete class has the form of a class. -/
theorem IsSealed.form_eq (isSealed : table.IsSealed) :
    ∃ owner parent body, table.form = .classBody owner parent body ∧ body.isSealed = true := by
  obtain ⟨body, isClass, complete⟩ := isSealed
  unfold class? at isClass
  split at isClass
  · rename_i owner parent _ form
    cases isClass
    exact ⟨owner, parent, body, form, complete⟩
  · cases isClass

/-- A complete class takes in no entity, in any slot. -/
theorem IsSealed.file_eq (isSealed : table.IsSealed) (slot : EntrySlot) (name : Name)
    (id : EntityId) : table.file slot name id = .error .complete := by
  obtain ⟨owner, parent, body, form, complete⟩ := isSealed.form_eq
  unfold file
  rw [form]
  exact if_pos complete

/-- A complete class gets no further peer. -/
theorem IsSealed.addPeer_eq (isSealed : table.IsSealed) (peer : TableId) :
    table.addPeer peer = .error .complete := by
  obtain ⟨owner, parent, body, form, complete⟩ := isSealed.form_eq
  unfold addPeer
  rw [form]
  exact if_pos complete

/-- A complete class gets no further base. -/
theorem IsSealed.addBase_eq (isSealed : table.IsSealed) (base : Base) :
    table.addBase base = .error .complete := by
  obtain ⟨owner, parent, body, form, complete⟩ := isSealed.form_eq
  unfold addBase
  rw [form]
  exact if_pos complete

/-- Completing a complete class again changes nothing. -/
theorem IsSealed.complete?_eq (isSealed : table.IsSealed) : table.complete? = some table := by
  obtain ⟨owner, parent, body, form, complete⟩ := isSealed.form_eq
  have same : { body with isSealed := true } = body := by rw [← complete]
  unfold complete?
  rw [form]
  simp only [same, ← form]

/-- What takes an entity in is not the table of a complete class. -/
theorem Filing.not_isSealed {name : Name} {id : EntityId} {slot : EntrySlot}
    (filing : Filing table name id slot after) : ¬ table.IsSealed := by
  rintro ⟨body, isClass, complete⟩
  have not_class {owner : EntityId} {parent : TableId} {other : ClassBody}
      (form : table.form = .classBody owner parent other) (unsealed : other.isSealed = false) :
      False := by
    rw [class?, form, Option.some.injEq] at isClass
    rw [isClass, complete] at unsealed
    cases unsealed
  have not_function {owner : EntityId} {parent : TableId} {other : FunctionBody}
      (form : table.form = .functionBody owner parent other) : False := by
    rw [class?, form] at isClass
    cases isClass
  cases filing with
  | member unsealed =>
      rw [unsealed body isClass] at complete
      cases complete
  | constructor form unsealed => exact not_class form unsealed
  | destructor form unsealed => exact not_class form unsealed
  | conversion form unsealed => exact not_class form unsealed
  | parameter form => exact not_function form
  | label form => exact not_function form

/-- A revision of the table of a complete class is the table itself. -/
theorem Revised.eq_of_isSealed (revised : Revised table after) (isSealed : table.IsSealed) :
    after = table := by
  cases revised with
  | peer peer added =>
      rw [isSealed.addPeer_eq] at added
      cases added
  | base base added =>
      rw [isSealed.addBase_eq] at added
      cases added
  | completed completed =>
      rw [isSealed.complete?_eq] at completed
      cases completed
      rfl

end Table

/-! ## The store -/

namespace SymbolStore

variable {store before after : SymbolStore} {id : TableId} {table : Table}

/-- A handle refers to the table of a complete class. -/
structure Sealed (store : SymbolStore) (id : TableId) (table : Table) : Prop where
  /-- The table is there. -/
  known : store.tables.get? id = some table
  /-- It is that of a complete class. -/
  isSealed : table.IsSealed

/-- A table takes in nothing: what is addressed to it fails. -/
structure Refuses (store : SymbolStore) (id : TableId) : Prop where
  /-- It takes in no entity. -/
  addEntity : ∀ draft, ∃ failure, (store.addEntity id draft).1 = .error failure
  /-- It gets no peer. -/
  addPeer : ∀ peer, ∃ failure, (store.addPeer id peer).1 = .error failure
  /-- It gets no base. -/
  addBase : ∀ base, ∃ failure, store.addBase id base = .error failure

/-- The table of a complete class takes in nothing. -/
theorem Sealed.refuses (isSealed : store.Sealed id table) : store.Refuses id := by
  have known : store.table id = .ok table := table_eq_ok_iff.2 isSealed.known
  refine ⟨fun draft => ?_, fun peer => ?_, fun base => ?_⟩
  · unfold SymbolStore.addEntity
    rw [known]
    cases valid : store.validate draft table.kind with
    | error failure =>
        simp only [valid]
        exact ⟨failure, rfl⟩
    | ok =>
        simp only [valid, isSealed.isSealed.file_eq]
        exact ⟨_, rfl⟩
  · unfold SymbolStore.addPeer
    rw [known]
    cases store.table peer with
    | error failure => exact ⟨failure, rfl⟩
    | ok other =>
        simp only [isSealed.isSealed.addPeer_eq]
        exact ⟨_, rfl⟩
  · unfold SymbolStore.addBase
    cases store.entity base.entity with
    | error failure => exact ⟨failure, rfl⟩
    | ok entity =>
        simp only [ok_bind, known, isSealed.isSealed.addBase_eq]
        exact ⟨_, rfl⟩

/-- No edit changes the table of a complete class. -/
theorem Edit.sealed {change : Change} (edit : Edit before change after)
    (isSealed : before.Sealed id table) : after.Sealed id table := by
  obtain ⟨later, found, altered⟩ := edit.table_later isSealed.known
  cases altered with
  | keep => exact ⟨found, isSealed.isSealed⟩
  | file filing => exact absurd isSealed.isSealed filing.not_isSealed
  | revise revision =>
      rw [revision.eq_of_isSealed isSealed.isSealed] at found
      exact ⟨found, isSealed.isSealed⟩

/-- The release of a table leaves the table of a complete class as it is, if it leaves it there. -/
theorem Released.sealed {released : TableId} (release : Released before released after)
    (isSealed : before.Sealed id table) {left : Table}
    (live : after.tables.get? id = some left) : after.Sealed id table := by
  have known := (release.table_left live).1
  rw [isSealed.known, Option.some.injEq] at known
  rw [← known] at live
  exact ⟨live, isSealed.isSealed⟩

/-- Neither edits nor the release of a table change the table of a complete class, as long as it is
there. -/
theorem Sealed.kept (isSealed : before.Sealed id table) {allowed : SymbolStore → Change → Prop}
    (changed : Edits allowed before after ∨ ∃ released, Released before released after)
    (live : ∃ left, after.tables.get? id = some left) : after.Sealed id table := by
  rcases changed with edits | ⟨released, release⟩
  · exact edits.preserve (·.Sealed id table) isSealed fun _ _ _ now _ edit => edit.sealed now
  · obtain ⟨left, there⟩ := live
    exact release.sealed isSealed there

/-- In a run of a store, the table of a complete class stays the same as long as it is there. -/
theorem Sealed.run (isSealed : store.Sealed id table) (sound : store.Sound)
    {operations : List Operation}
    (live : ∀ count, ∃ left,
      (store.run (operations.take count)).tables.get? id = some left) :
    (store.run operations).Sealed id table := by
  refine (foldl_keeps_while (fun now : SymbolStore => now.Sound ∧ now.Sealed id table)
    (fun now => ∃ left, now.tables.get? id = some left) ?_ ⟨sound, isSealed⟩ live).2
  rintro now operation - ⟨sound, isSealed⟩ there
  exact ⟨sound.step operation, isSealed.kept (sound.edits_of_step operation) there⟩

end SymbolStore

/-! ## The resolver -/

namespace Resolver

variable {resolver : Resolver} {id : TableId} {table : Table}

/-- In a run of a resolver, the table of a complete class stays the same as long as it is there. -/
theorem sealed_run (sound : resolver.store.Sound) (isSealed : resolver.store.Sealed id table)
    {operations : List Operation}
    (live : ∀ count, ∃ left,
      (resolver.run (operations.take count)).store.tables.get? id = some left) :
    (resolver.run operations).store.Sealed id table := by
  refine (foldl_keeps_while
    (fun now : Resolver => now.store.Sound ∧ now.store.Sealed id table)
    (fun now => ∃ left, now.store.tables.get? id = some left) ?_ ⟨sound, isSealed⟩ live).2
  rintro now operation - ⟨sound, isSealed⟩ there
  have changed := (store_of_step sound operation).imp_right And.right
  exact ⟨sound_step sound operation, isSealed.kept changed there⟩

/-- A table takes in nothing, whichever way it is addressed, and what it lists can be declared
again. -/
structure Refuses (resolver : Resolver) (id : TableId) (table : Table) : Prop where
  /-- Nothing is filed in it. -/
  insertInto : ∀ draft, ∃ failure, (resolver.insertInto id draft).1 = .error failure
  /-- Nothing is filed at this point when it is the table meant. -/
  insert : ∀ draft, resolver.targetFor draft = .ok id →
    ∃ failure, (resolver.insert draft).1 = .error failure
  /-- No using directive is added at this point when it is the table meant. -/
  addUsing : ∀ used, resolver.usingTarget = .ok id →
    ∃ failure, (resolver.addUsing used).1 = .error failure
  /-- No base is added to an entity that stands for its class. -/
  addBase : ∀ derived base, resolver.store.bodyOfKind derived .classTable = .ok id →
    ∃ failure, resolver.addBase derived base = .error failure
  /-- Nothing new is declared in it. -/
  not_new : ∀ draft filed, (resolver.declareIn id draft).1 ≠ .ok (.new filed)
  /-- A draft that is judged to repeat an entity is declared again as that entity, and the table
  lists it. -/
  redeclared : ∀ draft prior role judgement entity,
    resolver.priorAndRole id draft = .ok (prior, role) →
    resolver.store.judge draft id prior role = .ok judgement →
    judgement.answer = .matched entity →
    (resolver.declareIn id draft).1 = .ok (.redeclared entity) ∧ entity ∈ table.listed

/-- A draft that is judged to repeat an entity is declared again as that entity. -/
theorem redeclared_of_judge {target : TableId} {draft : Draft} {prior : Hits} {role : Role}
    {judgement : Judgement Verdict} {entity : EntityId}
    (looked : resolver.priorAndRole target draft = .ok (prior, role))
    (judged : resolver.store.judge draft target prior role = .ok judgement)
    (matched : judgement.answer = .matched entity) :
    (resolver.declareIn target draft).1 = .ok (.redeclared entity) ∧ entity ∈ prior.entities := by
  -- Nothing is reported with such a judgement, so the error budget cannot stand in the way.
  cases SymbolStore.judge_judged judged with
  | accepted => cases matched
  | conflict => cases matched
  | matched among =>
      cases matched
      exact ⟨declareIn_of_matched looked judged, among⟩

/-- The table of a complete class takes in nothing, whichever way it is addressed. -/
theorem refuses_of_sealed (sound : resolver.store.Sound)
    (isSealed : resolver.store.Sealed id table) : resolver.Refuses id table := by
  have insertInto (resolver : Resolver) (isSealed : resolver.store.Sealed id table)
      (draft : Draft) : ∃ failure, (resolver.insertInto id draft).1 = .error failure :=
    isSealed.refuses.addEntity draft
  refine ⟨insertInto resolver isSealed, ?_, ?_, ?_, ?_, ?_⟩
  · intro draft meant
    unfold insert
    rw [meant]
    exact insertInto resolver isSealed draft
  · intro used meant
    unfold addUsing
    simp only [meant]
    cases resolver.store.bodyOrDefect .notUsable used with
    | error failure => exact ⟨failure, rfl⟩
    | ok peer => exact isSealed.refuses.addPeer peer
  · intro derived base meant
    obtain ⟨refusal, refused⟩ := isSealed.refuses.addBase base
    unfold addBase
    cases resolver.store.roleOf base.entity with
    | error failure => exact ⟨failure, rfl⟩
    | ok role =>
        by_cases isClass : role.isClass = true
        · exact ⟨refusal, by simp only [ok_bind, if_pos isClass, meant, refused]; rfl⟩
        · simp only [ok_bind, if_neg isClass]
          cases resolver.store.qualifiedName base.entity with
          | error failure => exact ⟨failure, rfl⟩
          | ok name => exact ⟨_, rfl⟩
  · intro draft filed declared
    -- What is declared as new was filed, and the table of a complete class files nothing.
    obtain ⟨other, known, takes⟩ := takes_of_new sound declared
    rw [isSealed.known, Option.some.injEq] at known
    subst known
    exact takes.filing.not_isSealed isSealed.isSealed
  · intro draft prior role judgement entity looked judged matched
    obtain ⟨declared, among⟩ := redeclared_of_judge looked judged matched
    exact ⟨declared, SymbolStore.mem_listed_of_priorDeclarations sound.linked isSealed.known
      (priorAndRole_eq_ok looked).1 among⟩

/-- A class with one member is completed in a store. -/
def completeInStore : List SymbolStore.Operation :=
  let root := (SymbolStore.new {}).global
  [.addEntity root { name := ⟨0⟩, kind := .classDecl .structKey false },
    .addEntity ⟨1, 0⟩ { name := ⟨1⟩, kind := .object .int .static }, .complete ⟨1, 0⟩]

/-- Another member and a peer are meant for the class of a store. -/
def changeInStore : List SymbolStore.Operation :=
  [.addEntity ⟨1, 0⟩ { name := ⟨2⟩, kind := .object .int .static }, .addPeer ⟨1, 0⟩ ⟨0, 0⟩]

/-- A class with one member is declared and completed. -/
def completeByResolver : List Operation :=
  [.declare { name := ⟨0⟩, kind := .classDecl .structKey false },
    .declareIn ⟨1, 0⟩ { name := ⟨1⟩, kind := .object .int .static }, .sealClass ⟨0, 0⟩]

/-- The class is opened, and another member is declared in it. -/
def changeByResolver : List Operation :=
  [.openScope (.classBody ⟨0, 0⟩), .declare { name := ⟨2⟩, kind := .object .int .static }]

/-- The table of the class with one member. -/
def completeTable : Table where
  form := .classBody ⟨0, 0⟩ ⟨0, 0⟩ { isSealed := true }
  members := ({} : OverloadSets).insert ⟨1⟩ ⟨1, 0⟩

end Resolver

end ScopeResolution

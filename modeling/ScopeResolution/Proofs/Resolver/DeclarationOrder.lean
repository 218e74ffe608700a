import ScopeResolution.Proofs.Resolver.QualifiedNames
import ScopeResolution.Proofs.Resolver.Recording
import ScopeResolution.Proofs.Resolver.Stability
import ScopeResolution.Proofs.SymbolStore.Chronicle

/-! # The order of declarations

A run has a history: the declarations that were answered with a new entity, in order, without those
whose entities are gone by now (`Resolver.historyAfter`). It is a chronicle of the store
(`chronicle_run`), as a declaration puts its entity at the end of what is listed
(`Chronicle.takes`). That needs the judgement of the draft: a member filed beside a parameter of its
name would hide it. So lookups in one table find all that was declared there and is left, in
declaration order (`declaration_order_of_run`), even where a slot was used again in between
(`declareAroundBody`). -/

namespace ScopeResolution

namespace SymbolStore

variable {before after store : SymbolStore} {history : List DeclaredEntity}
  {declared : DeclaredEntity}

/-- The index that a store answers for a new member is the number of members that the table had of its
name. -/
theorem index_of_addEntity {target : TableId} {table : Table} {draft : Draft} {filed : Filed}
    (known : store.tables.get? target = some table) (isMember : draft.kind.slot.isMember = true)
    (added : (store.addEntity target draft).1 = .ok filed) :
    filed.index = (table.members.get draft.name).length := by
  unfold addEntity at added
  rw [table_eq_ok_iff.2 known] at added
  simp only at added
  split at added
  · cases added
  · split at added
    · cases added
    · rename_i placed
      cases added
      exact Table.index_of_file placed isMember

namespace Chronicle

/-- A member is accepted only where no parameter has its name, so it goes to the end of the entries
of that name. -/
theorem entries_of_accepted_member (chronicle : store.Chronicle history) (linked : store.Linked)
    (catalogued : store.Catalogued fun _ => True) {target : TableId} {table : Table} {draft : Draft}
    (known : store.tables.get? target = some table) (isMember : draft.kind.slot.isMember = true)
    (accepted : store.Accepted target draft) :
    table.entries draft.name = table.members.get draft.name := by
  by_cases absent : table.members.get draft.name = []
  · rw [absent, List.eq_nil_iff_forall_not_mem]
    intro member isEntry
    obtain ⟨notConstructor, notLabel⟩ := EntrySlot.ne_of_isMember isMember
    have inHistory : member ∈ entriesIn history target draft.name := by
      rwa [← (chronicle.follows target table known).entries_eq]
    obtain ⟨entity, found, rfl, named, slot⟩ := chronicle.mem_entriesIn_iff.1 inHistory
    have notParameter :=
      (not_parameter_of_accepted linked known found isEntry notConstructor notLabel accepted).2
    -- So the entry is a member of the name, but there is none.
    obtain ⟨table', known', lists⟩ := catalogued.listed member entity found trivial
    rw [known, Option.some.injEq] at known'
    subst known'
    have isListed := lists.mem_members (EntrySlot.isMember_of_ne slot.1 slot.2 notParameter)
    rw [named, absent] at isListed
    exact List.not_mem_nil isListed
  · exact table.entries_of_members absent

/-- A table that takes in what is declared has it at the end of the history. -/
theorem takes (chronicle : before.Chronicle history) (linked : before.Linked)
    (catalogued : before.Catalogued fun _ => True) {table : Table}
    (known : before.tables.get? declared.target = some table)
    (accepted : before.Accepted declared.target declared.draft)
    (index : declared.draft.kind.slot.isMember = true →
      declared.filed.index = (table.members.get declared.draft.name).length)
    (takes : before.Takes declared.target table declared.draft declared.id after) :
    after.Chronicle (history ++ [declared]) := by
  obtain ⟨body, entities⟩ := takes.takesIn.entities_eq
  have other {earlier : DeclaredEntity} (listed : earlier ∈ history) : earlier.id ≠ declared.id := by
    obtain ⟨entity, found, -⟩ := chronicle.known earlier listed
    exact Arena.ne_of_stale found takes.fresh
  constructor
  · intro earlier listed
    rw [entities]
    rcases List.mem_append.1 listed with older | new
    · rw [Function.update_of_ne (other older)]
      exact chronicle.known earlier older
    · rw [List.mem_singleton.1 new, Function.update_self]
      exact ⟨_, rfl, declared.draft.describes_toEntity declared.target body⟩
  · intro id entity found
    rw [entities, Function.update_apply] at found
    split at found
    · rename_i new
      exact ⟨declared, List.mem_append_right _ (List.mem_singleton_self _), new.symm⟩
    · obtain ⟨earlier, listed, same⟩ := chronicle.complete id entity found
      exact ⟨earlier, List.mem_append_left _ listed, same⟩
  · rw [List.map_append, List.map_singleton, ← List.concat_eq_append]
    refine chronicle.distinct.concat fun repeated => ?_
    obtain ⟨earlier, listed, same⟩ := List.mem_map.1 repeated
    exact other listed same
  · intro id later found
    rcases takes.takesIn.table_cases known found with
      ⟨rfl, rfl⟩ | ⟨elsewhere, old⟩ | ⟨elsewhere, stale, entries, constructors⟩
    · exact (chronicle.follows _ table known).append rfl takes.filing
        (fun isMember =>
          chronicle.entries_of_accepted_member linked catalogued known isMember accepted)
        (fun isParameter => members_of_accepted_parameter linked known isParameter accepted) index
    · exact (chronicle.follows id later old).append_of_ne (Ne.symm elsewhere)
    · refine .empty entries constructors fun earlier listed => ?_
      rcases List.mem_append.1 listed with older | new
      · exact chronicle.target_ne_of_stale catalogued stale older
      · rw [List.mem_singleton.1 new]
        exact Ne.symm elsewhere

end Chronicle

end SymbolStore

namespace Resolver

/-! ## The history of a run -/

/-- What declaring a draft in a table declares: an entity, if the draft is new. -/
def declaredIn (resolver : Resolver) (target : TableId) (draft : Draft) : Option DeclaredEntity :=
  match (resolver.declareIn target draft).1 with
  | .ok (.new filed) => some ⟨target, draft, filed⟩
  | _ => none

/-- What an operation declares. -/
def declaredBy (resolver : Resolver) : Operation → Option DeclaredEntity
  | .declare draft =>
    match resolver.targetFor draft with
    | .ok target => resolver.declaredIn target draft
    | .error _ => none
  | .declareIn target draft => resolver.declaredIn target draft
  | _ => none

/-- The history after an operation: what is gone is struck out, and what is declared comes last. -/
def record (resolver : Resolver) (history : List DeclaredEntity) (operation : Operation) :
    List DeclaredEntity :=
  (resolver.step operation).store.remaining history ++ (resolver.declaredBy operation).toList

/-- The history after a run: the declarations of the entities that are still there, in order. -/
def historyAfter (resolver : Resolver) (history : List DeclaredEntity) :
    List Operation → List DeclaredEntity
  | [] => history
  | operation :: rest =>
    (resolver.step operation).historyAfter (resolver.record history operation) rest

variable {resolver : Resolver} {history : List DeclaredEntity}

/-- A draft that is answered as a new entity was added to the store. -/
theorem addEntity_of_new {target : TableId} {draft : Draft} {filed : Filed}
    (declared : (resolver.declareIn target draft).1 = .ok (.new filed)) :
    (resolver.store.addEntity target draft).1 = .ok filed := by
  unfold declareIn at declared
  cases looked : resolver.priorAndRole target draft with
  | error failure => rw [looked] at declared; cases declared
  | ok found =>
      rw [looked] at declared
      simp only at declared
      cases judged : resolver.judgeIn target draft found.1 found.2 with
      | mk answer next =>
          obtain ⟨store, -, -⟩ := settle_frame judged
          rw [judged] at declared
          cases answer with
          | error failure => cases declared
          | ok verdict =>
              cases verdict with
              | matched entity => cases declared
              | conflict entity => cases declared
              | accepted =>
                  simp only [fileJudged, Verdict.declared?, insertInto, store] at declared
                  split at declared
                  · cases declared
                  · rename_i inserted
                    cases declared
                    exact (Prod.mk.inj inserted).1

/-- A declaration in a table leads to a chronicle that goes on with what it declares. -/
theorem chronicle_declareIn (sound : resolver.store.Sound)
    (catalogued : resolver.store.Catalogued fun _ => True)
    (chronicle : resolver.store.Chronicle history) (target : TableId) (draft : Draft) :
    (resolver.declareIn target draft).2.store.Chronicle
      (history ++ (resolver.declaredIn target draft).toList) := by
  by_cases new : ∃ filed, (resolver.declareIn target draft).1 = .ok (.new filed)
  · obtain ⟨filed, isNew⟩ := new
    obtain ⟨table, known, takes⟩ := takes_of_new sound isNew
    have declared : resolver.declaredIn target draft = some ⟨target, draft, filed⟩ := by
      unfold declaredIn
      rw [isNew]
    rw [declared, Option.toList_some]
    exact chronicle.takes sound.linked catalogued known (accepted_of_new isNew)
      (fun isMember => SymbolStore.index_of_addEntity known isMember (addEntity_of_new isNew)) takes
  · have declared : resolver.declaredIn target draft = none := by
      unfold declaredIn
      split
      · exact absurd ⟨_, ‹_›⟩ new
      · rfl
    have same := sameContents_of_declareIn sound fun filed isNew => new ⟨filed, isNew⟩
    rw [declared, Option.toList_none, List.append_nil]
    exact chronicle.congr same.entities_eq same.tables_eq

/-- An operation that files nothing leaves the chronicle as it is, but for what it releases. -/
theorem chronicle_of_filesNone (sound : resolver.store.Sound)
    (catalogued : resolver.store.Catalogued fun _ => True)
    (chronicle : resolver.store.Chronicle history) {operation : Operation}
    (filesNone : ∀ now target draft, ¬ operation.Files resolver now target draft) :
    (resolver.step operation).store.Chronicle
      ((resolver.step operation).store.remaining history) := by
  rcases store_of_step sound operation with edits | ⟨-, closed, released⟩
  · have all := edits.preserve
      (fun now => now.Linked ∧ now.Catalogued (fun _ => True) ∧ now.Chronicle history)
      ⟨sound.linked, catalogued, chronicle⟩ fun before change after holds files edit => by
        have notFile (target : TableId) (draft : Draft) (id : EntityId) :
            change ≠ .file target draft id :=
          fun same => filesNone before target draft (files target draft id same)
        obtain ⟨linked, catalogued, chronicle⟩ := holds
        refine ⟨linked.edit edit, catalogued.edit linked edit fun _ => ?_,
          chronicle.edit catalogued edit notFile⟩
        cases change with
        | file target draft id => exact absurd rfl (notFile target draft id)
        | _ => trivial
    rw [all.2.2.remaining_eq (List.Subset.refl _)]
    exact all.2.2
  · exact chronicle.released sound.linked released

/-- Every operation that judges what it files leads to a chronicle that goes on with what it
declares. -/
theorem chronicle_step (sound : resolver.store.Sound)
    (catalogued : resolver.store.Catalogued fun _ => True)
    (chronicle : resolver.store.Chronicle history) {operation : Operation}
    (checked : operation.isUnchecked = false) :
    (resolver.step operation).store.Chronicle (resolver.record history operation) := by
  have declares (target : TableId) (draft : Draft) :
      (resolver.declareIn target draft).2.store.Chronicle
        ((resolver.declareIn target draft).2.store.remaining history ++
          (resolver.declaredIn target draft).toList) := by
    have next := chronicle_declareIn sound catalogued chronicle target draft
    rwa [next.remaining_eq (List.subset_append_left _ _)]
  have idle (filesNone : ∀ now target draft, ¬ operation.Files resolver now target draft)
      (declared : resolver.declaredBy operation = none) :
      (resolver.step operation).store.Chronicle (resolver.record history operation) := by
    unfold record
    rw [declared, Option.toList_none, List.append_nil]
    exact chronicle_of_filesNone sound catalogued chronicle filesNone
  cases operation with
  | insert => cases checked
  | insertInto => cases checked
  | declareIn target draft => exact declares target draft
  | declare draft =>
      cases meant : resolver.targetFor draft with
      | ok target =>
          have same : resolver.declare draft = resolver.declareIn target draft := by
            unfold declare
            rw [meant]
          have declared :
              resolver.declaredBy (.declare draft) = resolver.declaredIn target draft := by
            simp only [declaredBy, meant]
          unfold record
          rw [declared]
          show (resolver.declare draft).2.store.Chronicle
            ((resolver.declare draft).2.store.remaining history ++ _)
          rw [same]
          exact declares target draft
      | error failure =>
          refine idle ?_ (by simp only [declaredBy, meant])
          rintro now target _ ⟨rfl, found, -⟩
          rw [meant] at found
          cases found
  | _ => exact idle (fun _ _ _ => id) rfl

/-- Every run of operations that judge what they file leads to a chronicle of what they declare. -/
theorem chronicle_run (sound : resolver.store.Sound)
    (catalogued : resolver.store.Catalogued fun _ => True)
    (chronicle : resolver.store.Chronicle history) {operations : List Operation}
    (checked : ∀ operation ∈ operations, operation.isUnchecked = false) :
    (resolver.run operations).store.Chronicle (resolver.historyAfter history operations) := by
  induction operations generalizing resolver history with
  | nil => exact chronicle
  | cons operation rest ih =>
      have isChecked := checked operation List.mem_cons_self
      exact ih (sound_step sound operation) (catalogued_step sound catalogued fun _ => isChecked)
        (chronicle_step sound catalogued chronicle isChecked)
        fun later listed => checked later (List.mem_cons_of_mem _ listed)

/-- After every run in which no draft is filed without being judged, the entries of every table
under a name are the entities that belong to it and have that name, constructors and labels apart,
and its constructors are the constructors that belong to it; each comes once, and in the order of
the declarations. A member, the destructor and a conversion operator is where the index says that
its declaration was answered with. -/
theorem declaration_order_of_run (names : NamePool) (settings : Settings)
    (operations : List Operation)
    (checked : ∀ operation ∈ operations, operation.isUnchecked = false) :
    let store := ((Resolver.new names settings).run operations).store
    let history := (Resolver.new names settings).historyAfter [] operations
    ∀ id table, store.tables.get? id = some table →
      (∀ name, ∃ hits, store.findInScope id name = .ok hits ∧
        hits.entities = entriesIn history id name ∧ hits.entities.Nodup ∧
        ∀ member, member ∈ hits.entities ↔ ∃ entity, store.entities.get? member = some entity ∧
          entity.owner = id ∧ entity.name = name ∧
          entity.kind.slot ≠ .constructor ∧ entity.kind.slot ≠ .label) ∧
      (∃ hits, store.constructors id = .ok hits ∧
        hits.entities = constructorsIn history id ∧ hits.entities.Nodup ∧
        ∀ member, member ∈ hits.entities ↔ ∃ entity, store.entities.get? member = some entity ∧
          entity.owner = id ∧ entity.kind.slot = .constructor) ∧
      ∀ declared ∈ history, declared.target = id → declared.draft.kind.slot.isMember = true →
        ∃ hits, store.findInScope id declared.draft.name = .ok hits ∧
          hits.entities[declared.filed.index]? = some declared.id := by
  intro store history id table known
  have sound : store.Sound := (sound_run names settings operations).store
  have chronicle : store.Chronicle history :=
    chronicle_run (sound_new names settings)
      (SymbolStore.catalogued_new names _) (SymbolStore.chronicle_new names) checked
  have follows := chronicle.follows id table known
  have entries (name : Name) : ∃ hits, store.findInScope id name = .ok hits ∧
      hits.entities = table.entries name := by
    obtain ⟨role, -, looked⟩ := sound.linked.findInScope_eq_ok known name
    refine ⟨_, looked, Hits.entities_ofList_map role ?_⟩
    rw [follows.entries_eq]
    exact chronicle.nodup_picked _
  refine ⟨fun name => ?_, ?_, fun declared listed isTarget isMember => ?_⟩
  · obtain ⟨hits, looked, same⟩ := entries name
    rw [follows.entries_eq] at same
    refine ⟨hits, looked, same, ?_, fun member => ?_⟩
    · rw [same]
      exact chronicle.nodup_picked _
    · rw [same]
      exact chronicle.mem_entriesIn_iff
  · obtain ⟨role, -, looked⟩ := sound.linked.constructors_eq_ok known
    have distinct : table.constructors.Nodup := by
      rw [follows.constructors_eq]
      exact chronicle.nodup_picked _
    have same := Hits.entities_ofList_map role distinct
    refine ⟨_, looked, same.trans follows.constructors_eq, by rwa [same], fun member => ?_⟩
    rw [same, follows.constructors_eq]
    exact chronicle.mem_constructorsIn_iff
  · obtain ⟨hits, looked, same⟩ := entries declared.draft.name
    refine ⟨hits, looked, ?_⟩
    rw [same]
    exact follows.index declared listed isTarget isMember

/-- A function is declared in the global table while the body of another one is open, and an overload
of it when that body, with a local in it, is closed. -/
def declareAroundBody : List Operation :=
  [.intern "g", .intern "f", .intern "x", .declare (functionDraft ⟨0⟩ []),
    .openScope (.functionBody ⟨0, 0⟩), .declare { name := ⟨2⟩, kind := .object .int .unwritten },
    .declareIn ⟨0, 0⟩ (functionDraft ⟨1⟩ []), .closeScope,
    .declareIn ⟨0, 0⟩ (functionDraft ⟨1⟩ [.int])]

/-- The overload takes the slot of the local, but comes after the function that it overloads. -/
theorem declaration_order_of_declareAroundBody :
    let store := ((Resolver.new {} {}).run declareAroundBody).store
    (∀ operation ∈ declareAroundBody, operation.isUnchecked = false) ∧
      ∃ hits, store.findInScope ⟨0, 0⟩ ⟨1⟩ = .ok hits ∧ hits.entities = [⟨2, 0⟩, ⟨1, 1⟩] ∧
        ∀ member, member ∈ hits.entities ↔ ∃ entity, store.entities.get? member = some entity ∧
          entity.owner = ⟨0, 0⟩ ∧ entity.name = ⟨1⟩ ∧
          entity.kind.slot ≠ .constructor ∧ entity.kind.slot ≠ .label := by
  intro store
  have checked : ∀ operation ∈ declareAroundBody, operation.isUnchecked = false := by
    decide +kernel
  obtain ⟨table, known⟩ : ∃ table, store.tables.get? ⟨0, 0⟩ = some table :=
    Option.isSome_iff_exists.1 (by decide +kernel)
  obtain ⟨entries, -, -⟩ :=
    declaration_order_of_run {} {} declareAroundBody checked ⟨0, 0⟩ table known
  obtain ⟨hits, looked, inOrder, -, isEntry_iff⟩ := entries ⟨1⟩
  refine ⟨checked, hits, looked, inOrder.trans ?_, isEntry_iff⟩
  decide +kernel

end Resolver

end ScopeResolution

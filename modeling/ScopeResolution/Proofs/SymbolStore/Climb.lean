import ScopeResolution.Proofs.Store.Reuse
import ScopeResolution.Proofs.SymbolStore.Removal

/-! # Climbing outwards

From a table one climbs to the table that it is nested in, and so on, until there is nothing around
or the table around is gone (`Climb`). A climb that ends meets no table twice: from where it has
been before, it would go on as it did and never end (`Climb.nodup`). So it is no longer than there
are tables (`Climb.length_le_live`). Edits move no table, so climbs stay as they are (`Climb.edit`);
when tables are released, a climb may end earlier, at a handle that is over for good
(`Climb.released`). -/

namespace ScopeResolution.SymbolStore

/-- The tables that are met on the way outwards from a table, which comes first. What counts as gone
is a parameter. -/
inductive Climb (store : SymbolStore) (gone : TableId → Prop) : TableId → List TableId → Prop where
  /-- The table is nested in nothing. -/
  | outermost {id : TableId} {table : Table} (known : store.tables.get? id = some table)
      (parent : table.parent? = none) : Climb store gone id [id]
  /-- The table is nested in one that is gone. -/
  | stranded {id outer : TableId} {table : Table} (known : store.tables.get? id = some table)
      (parent : table.parent? = some outer) (isGone : gone outer) : Climb store gone id [id]
  /-- The table is nested in another one. -/
  | nested {id outer : TableId} {table : Table} {around : List TableId}
      (known : store.tables.get? id = some table) (parent : table.parent? = some outer)
      (further : Climb store gone outer around) : Climb store gone id (id :: around)

/-- From every table that is there, one can climb outwards to an end. -/
def Climbable (store : SymbolStore) (gone : TableId → Prop) : Prop :=
  ∀ id table, store.tables.get? id = some table → ∃ tables, store.Climb gone id tables

variable {store before after : SymbolStore} {gone : TableId → Prop} {id : TableId}
  {tables : List TableId}

namespace Climb

/-- A climb ends there too if more counts as gone. -/
theorem mono {more : TableId → Prop} (climb : store.Climb gone id tables)
    (among : ∀ outer, gone outer → more outer) : store.Climb more id tables := by
  induction climb with
  | outermost known parent => exact .outermost known parent
  | stranded known parent isGone => exact .stranded known parent (among _ isGone)
  | nested known parent _ ih => exact .nested known parent ih

/-- A climb starts at a table that is there. -/
theorem known (climb : store.Climb gone id tables) :
    ∃ table, store.tables.get? id = some table := by
  cases climb with
  | outermost known => exact ⟨_, known⟩
  | stranded known => exact ⟨_, known⟩
  | nested known => exact ⟨_, known⟩

/-- The tables that are met are there. -/
theorem known_of_mem (climb : store.Climb gone id tables) :
    ∀ other ∈ tables, ∃ table, store.tables.get? other = some table := by
  induction climb with
  | outermost known => simpa using ⟨_, known⟩
  | stranded known => simpa using ⟨_, known⟩
  | nested known _ _ ih =>
      intro other listed
      rcases List.mem_cons.1 listed with rfl | further
      · exact ⟨_, known⟩
      · exact ih other further

/-- From a table that is met, the climb is the rest of it. -/
theorem suffix_of_mem (climb : store.Climb gone id tables) :
    ∀ other ∈ tables, ∃ rest, store.Climb gone other rest ∧ rest <:+ tables := by
  induction climb with
  | outermost known parent =>
      intro other listed
      rw [List.mem_singleton.1 listed]
      exact ⟨_, .outermost known parent, List.suffix_rfl⟩
  | stranded known parent isGone =>
      intro other listed
      rw [List.mem_singleton.1 listed]
      exact ⟨_, .stranded known parent isGone, List.suffix_rfl⟩
  | nested known parent further ih =>
      intro other listed
      rcases List.mem_cons.1 listed with rfl | isFurther
      · exact ⟨_, .nested known parent further, List.suffix_rfl⟩
      · obtain ⟨rest, climb, suffix⟩ := ih other isFurther
        exact ⟨rest, climb, suffix.trans (List.suffix_cons _ _)⟩

/-- A climb ends at a table that is nested in nothing, or in one that is gone. -/
theorem getLast?_eq (climb : store.Climb gone id tables) :
    ∃ last table, tables.getLast? = some last ∧ store.tables.get? last = some table ∧
      ∀ outer, table.parent? = some outer → gone outer := by
  induction climb with
  | @outermost id table known parent =>
      exact ⟨id, table, rfl, known, fun outer nested => by rw [parent] at nested; cases nested⟩
  | @stranded id outer table known parent isGone =>
      refine ⟨id, table, rfl, known, fun other nested => ?_⟩
      rw [parent, Option.some.injEq] at nested
      exact nested ▸ isGone
  | @nested id outer table around known parent further ih =>
      obtain ⟨last, end', isLast, rest⟩ := ih
      have nonempty : around ≠ [] := by
        rintro rfl
        cases isLast
      exact ⟨last, end', by rw [List.getLast?_cons_of_ne_nil nonempty, isLast], rest⟩

section Unique

variable (lost : ∀ outer, gone outer → store.tables.get? outer = none)

include lost

/-- There is one way outwards. -/
theorem unique (climb : store.Climb gone id tables) {others : List TableId}
    (other : store.Climb gone id others) : tables = others := by
  have same {id : TableId} {table table' : Table} (known : store.tables.get? id = some table)
      (known' : store.tables.get? id = some table') : table' = table := by
    rw [known, Option.some.injEq] at known'
    exact known'.symm
  -- A table around another one is not gone if the climb goes on there.
  have apart {outer : TableId} {around : List TableId} (isGone : gone outer)
      (further : store.Climb gone outer around) : False := by
    obtain ⟨table, known⟩ := further.known
    rw [lost outer isGone] at known
    cases known
  induction climb generalizing others with
  | outermost known parent =>
      cases other with
      | outermost => rfl
      | stranded => rfl
      | nested known' parent' =>
          rw [same known known', parent] at parent'
          cases parent'
  | stranded known parent isGone =>
      cases other with
      | outermost => rfl
      | stranded => rfl
      | nested known' parent' further =>
          rw [same known known', parent, Option.some.injEq] at parent'
          exact (apart isGone (parent' ▸ further)).elim
  | nested known parent further ih =>
      cases other with
      | outermost known' parent' =>
          rw [same known known', parent] at parent'
          cases parent'
      | stranded known' parent' isGone =>
          rw [same known known', parent, Option.some.injEq] at parent'
          exact (apart (parent' ▸ isGone) further).elim
      | nested known' parent' further' =>
          rw [same known known', parent, Option.some.injEq] at parent'
          rw [ih (parent' ▸ further')]

/-- No table is met twice: the climb would go on from there as it did before, and never end. -/
theorem nodup (climb : store.Climb gone id tables) : tables.Nodup := by
  induction climb with
  | outermost => exact List.nodup_singleton _
  | stranded => exact List.nodup_singleton _
  | @nested id outer table around known parent further ih =>
      refine List.nodup_cons.2 ⟨fun again => ?_, ih⟩
      obtain ⟨rest, climb, suffix⟩ := further.suffix_of_mem id again
      have same := climb.unique lost (.nested known parent further)
      have shorter := suffix.length_le
      simp only [same, List.length_cons] at shorter
      omega

/-- A climb is no longer than there are tables. -/
theorem length_le_live (climb : store.Climb gone id tables) (wellFormed : store.tables.WellFormed) :
    tables.length ≤ store.tables.live :=
  wellFormed.length_le_live (climb.nodup lost) climb.known_of_mem

end Unique

/-- Edits move no table. -/
theorem edit {change : Change} (climb : before.Climb gone id tables)
    (edit : Edit before change after) : after.Climb gone id tables := by
  induction climb with
  | outermost known parent =>
      obtain ⟨later, found, place⟩ := edit.table_kept known
      exact .outermost found (by rw [place.parent?_eq, parent])
  | stranded known parent isGone =>
      obtain ⟨later, found, place⟩ := edit.table_kept known
      exact .stranded found (by rw [place.parent?_eq, parent]) isGone
  | nested known parent _ ih =>
      obtain ⟨later, found, place⟩ := edit.table_kept known
      exact .nested found (by rw [place.parent?_eq, parent]) ih

/-- From a table that survives a release, one climbs as before or ends at a table that is gone since;
its occupation of a slot is over. -/
theorem released {closed : TableId} (climb : before.Climb gone id tables)
    (released : Released before closed after) (ages : before.tables.Ages after.tables) {table : Table}
    (alive : after.tables.get? id = some table) :
    ∃ left, after.Climb (fun outer => gone outer ∨ after.tables.Spent outer) id left := by
  induction climb generalizing table with
  | outermost known parent =>
      rw [(released.table_left alive).1, Option.some.injEq] at known
      exact ⟨_, .outermost alive (by rw [known, parent])⟩
  | stranded known parent isGone =>
      rw [(released.table_left alive).1, Option.some.injEq] at known
      exact ⟨_, .stranded alive (by rw [known, parent]) (Or.inl isGone)⟩
  | nested known parent further ih =>
      rw [(released.table_left alive).1, Option.some.injEq] at known
      obtain ⟨outer, outerKnown⟩ := further.known
      rcases Arena.live_or_spent outerKnown ages with ⟨later, outerAlive⟩ | spent
      · obtain ⟨left, climb⟩ := ih outerAlive
        exact ⟨_, .nested alive (by rw [known, parent]) climb⟩
      · exact ⟨_, .stranded alive (by rw [known, parent]) (Or.inr spent)⟩

end Climb

end ScopeResolution.SymbolStore

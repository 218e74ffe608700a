import Mathlib.Data.List.Induction
import Mathlib.Data.List.Nodup
import ScopeResolution.Proofs.Store.Reuse

/-! # Histories of arenas

What became of every handle, told by the calls that an arena was asked for. The events of a history
say which handles were issued for which values and which values were handed out again; the arena
itself remembers neither. Its map agrees with the events after any calls (`Records.get?_iff`). As
long as no slot was released so often that generations repeat, no handle is issued twice
(`nodup_handles`), and a handle that is stale stays so through every later use of its slot
(`stale_of_stale`). The main statement is `handles_are_never_confused`. -/

namespace ScopeResolution.Arena

variable {kind : Referent} {α : Type}

/-- What an arena can be asked for. -/
inductive Call (kind : Referent) (α : Type) where
  /-- Keep a value. -/
  | alloc (value : α)
  /-- Release the value of a handle and hand it out. -/
  | take (handle : Handle kind)

/-- What a call did. -/
inductive Event (kind : Referent) (α : Type) where
  /-- A handle was issued for a value. -/
  | issued (handle : Handle kind) (value : α)
  /-- A handle was given back; the answer is the value that it referred to, if it was not stale. -/
  | taken (handle : Handle kind) (answer : Option α)
deriving DecidableEq

/-- What a call does, and the arena after it. -/
def answer (arena : Arena kind α) : Call kind α → Event kind α × Arena kind α
  | .alloc value =>
    let (handle, arena) := arena.alloc value
    (.issued handle value, arena)
  | .take handle =>
    let (value, arena) := arena.take handle
    (.taken handle value, arena)

/-- An arena, with everything that was done to it since it was empty, first things first. -/
structure History (kind : Referent) (α : Type) where
  /-- The arena now. -/
  arena : Arena kind α := empty
  /-- What was done to it. -/
  events : List (Event kind α) := []

/-- The history after one more call. -/
def History.next (history : History kind α) (call : Call kind α) : History kind α :=
  let (event, arena) := history.arena.answer call
  ⟨arena, history.events ++ [event]⟩

/-- The history of an arena that was asked for some calls, one after the other. -/
def historyOf (calls : List (Call kind α)) : History kind α := calls.foldl History.next {}

/-- The handle that an event issues. -/
def Event.handle? : Event kind α → Option (Handle kind)
  | .issued handle _ => some handle
  | .taken _ _ => none

/-- Whether an event releases the value of a slot. -/
def Event.releases (index : Nat) : Event kind α → Bool
  | .issued _ _ => false
  | .taken handle answer => answer.isSome && handle.index == index

/-- The handles that were issued, first ones first. -/
def issuedIn (events : List (Event kind α)) : List (Handle kind) := events.filterMap Event.handle?

/-- How often a value of a slot was released. -/
def releasesIn (events : List (Event kind α)) (index : Nat) : Nat :=
  events.countP (Event.releases index)

/-- A handle was issued for a value and was not given back since. -/
def HeldIn (events : List (Event kind α)) (handle : Handle kind) (value : α) : Prop :=
  ∃ earlier later, events = earlier ++ .issued handle value :: later ∧
    ∀ answer, .taken handle answer ∉ later

/-! ## One more event -/

section Events

variable {events : List (Event kind α)} {handle other : Handle kind} {value held : α}

/-- An event is the last one, or it is followed by what is left. -/
theorem append_eq_split_iff {event last : Event kind α} {earlier later : List (Event kind α)} :
    events ++ [last] = earlier ++ event :: later ↔
      (events = earlier ∧ last = event ∧ later = []) ∨
        ∃ rest, later = rest ++ [last] ∧ events = earlier ++ event :: rest := by
  rcases List.eq_nil_or_concat later with rfl | ⟨rest, final, rfl⟩
  · simp
  · have regroup : earlier ++ event :: (rest ++ [final]) = (earlier ++ event :: rest) ++ [final] := by
      simp
    rw [List.concat_eq_append, regroup]
    constructor
    · intro same
      obtain ⟨before, last⟩ := List.append_inj' same rfl
      simp only [List.cons.injEq, and_true] at last
      exact Or.inr ⟨rest, by rw [last], before⟩
    · rintro (⟨-, -, empty⟩ | ⟨rest', same, before⟩)
      · simp at empty
      · obtain ⟨sameRest, last⟩ := List.append_inj' same rfl
        rw [before, sameRest, last]

/-- When a handle is issued, it is held for its value, and the others are held as before. -/
theorem heldIn_append_issued :
    HeldIn (events ++ [.issued handle value]) other held ↔
      (other = handle ∧ held = value) ∨ HeldIn events other held := by
  constructor
  · rintro ⟨earlier, later, split, kept⟩
    rcases append_eq_split_iff.1 split with ⟨-, last, -⟩ | ⟨rest, rfl, before⟩
    · simp only [Event.issued.injEq] at last
      exact Or.inl ⟨last.1.symm, last.2.symm⟩
    · exact Or.inr ⟨earlier, rest, before, fun answer given =>
        kept answer (List.mem_append_left _ given)⟩
  · rintro (⟨rfl, rfl⟩ | ⟨earlier, later, rfl, kept⟩)
    · exact ⟨events, [], rfl, by simp⟩
    · refine ⟨earlier, later ++ [.issued handle value], by simp, fun answer given => ?_⟩
      have inLater : .taken other answer ∈ later := by simpa using given
      exact kept answer inLater

/-- When a handle is given back, it is held no more, and the others are held as before. -/
theorem heldIn_append_taken {answer : Option α} :
    HeldIn (events ++ [.taken handle answer]) other held ↔
      other ≠ handle ∧ HeldIn events other held := by
  constructor
  · rintro ⟨earlier, later, split, kept⟩
    rcases append_eq_split_iff.1 split with ⟨-, last, -⟩ | ⟨rest, rfl, before⟩
    · cases last
    · refine ⟨fun same => kept answer (by simp [same]), earlier, rest, before, fun answer given => ?_⟩
      exact kept answer (List.mem_append_left _ given)
  · rintro ⟨different, earlier, later, rfl, kept⟩
    refine ⟨earlier, later ++ [.taken handle answer], by simp, fun answer' given => ?_⟩
    rcases List.mem_append.1 given with inLater | last
    · exact kept answer' inLater
    · have same : other = handle := by simp at last; exact last.1
      exact different same

/-- A handle that is held was issued. -/
theorem mem_issuedIn_of_heldIn (held : HeldIn events handle value) : handle ∈ issuedIn events := by
  obtain ⟨earlier, later, rfl, -⟩ := held
  simp [issuedIn, Event.handle?]

end Events

/-! ## The arena of a history -/

variable {arena : Arena kind α} {events : List (Event kind α)}

/-- Allocating releases nothing. -/
theorem releasesAt_alloc (wellFormed : arena.WellFormed) (value : α) (index : Nat) :
    (arena.alloc value).2.releasesAt index = arena.releasesAt index := by
  cases freed : arena.free with
  | nil =>
      rw [alloc_of_full value freed, releasesAt, releasesAt, Array.getElem?_push]
      by_cases last : index = arena.slots.size
      · simp [last]
      · rw [if_neg last]
  | cons free rest =>
      obtain ⟨slot, found, -⟩ := wellFormed.slot_of_free freed
      have inBounds : free < arena.slots.size := (Array.getElem?_eq_some_iff.1 found).1
      rw [alloc_of_free value freed found, releasesAt, releasesAt, Array.getElem?_setIfInBounds]
      by_cases here : free = index
      · rw [if_pos here, if_pos inBounds, ← here, found]
        rfl
      · rw [if_neg here]

/-- Releasing a value counts one release of its slot. -/
theorem releasesAt_release (handle : Handle kind) (index : Nat) :
    (arena.release handle).releasesAt index =
      arena.releasesAt index +
        if (arena.get? handle).isSome && handle.index == index then 1 else 0 := by
  cases known : arena.get? handle with
  | none => simp [release_of_get?_eq_none known]
  | some value =>
      obtain ⟨slot, found, -⟩ := slot_of_get? known
      have inBounds : handle.index < arena.slots.size := (Array.getElem?_eq_some_iff.1 found).1
      rw [release_of_slot known found, releasesAt, releasesAt, Array.getElem?_setIfInBounds]
      by_cases here : handle.index = index
      · rw [if_pos here, if_pos inBounds, ← here, found]
        simp
      · simp [here]

/-- If later no slot was released too often, none was before. -/
theorem Countable.of_ages {before after : Arena kind α} (countable : after.Countable)
    (ages : before.Ages after) : before.Countable := by
  intro slot listed
  obtain ⟨index, found⟩ := Array.getElem?_of_mem listed
  obtain ⟨later, foundLater, continues⟩ := ages index slot found
  exact Nat.lt_of_le_of_lt continues.releases_le (countable later (Array.mem_of_getElem? foundLater))

/-- What an arena holds is what its events say. -/
structure Records (arena : Arena kind α) (events : List (Event kind α)) : Prop where
  /-- The free list and the count fit the slots. -/
  wellFormed : arena.WellFormed
  /-- Releases are counted. -/
  releasesAt_eq : ∀ index, arena.releasesAt index = releasesIn events index
  /-- A handle refers to the value that it is held for. -/
  get?_iff : ∀ handle value, arena.get? handle = some value ↔ HeldIn events handle value
  /-- A handle that was issued refers to a value, or its occupation is over. -/
  live_or_spent : ∀ handle ∈ issuedIn events,
    (∃ value, arena.get? handle = some value) ∨ arena.Spent handle

namespace Records

/-- Nothing was done to the empty arena. -/
theorem empty : Records (Arena.empty : Arena kind α) [] where
  wellFormed := wellFormed_empty
  releasesAt_eq index := rfl
  get?_iff handle value := by simp [HeldIn]
  live_or_spent handle listed := absurd listed List.not_mem_nil

/-- A handle that was issued refers to a value later, too, or its occupation is over. -/
theorem later (records : arena.Records events) {after : Arena kind α} (ages : arena.Ages after)
    {handle : Handle kind} (listed : handle ∈ issuedIn events) :
    (∃ value, after.get? handle = some value) ∨ after.Spent handle := by
  rcases records.live_or_spent handle listed with ⟨value, known⟩ | spent
  · exact Arena.live_or_spent known ages
  · exact Or.inr (spent.ages ages)

/-- Allocating is recorded as the issue of a handle. -/
theorem alloc (records : arena.Records events) (value : α) :
    (arena.alloc value).2.Records (events ++ [.issued (arena.alloc value).1 value]) where
  wellFormed := records.wellFormed.alloc value
  releasesAt_eq index := by
    rw [releasesAt_alloc records.wellFormed, records.releasesAt_eq]
    simp [releasesIn, Event.releases]
  get?_iff handle held := by
    rw [heldIn_append_issued, ← records.get?_iff, get?_alloc records.wellFormed,
      Function.update_apply]
    by_cases same : handle = (arena.alloc value).1
    · -- The handle was stale before, so it was held for nothing.
      have stale := get?_alloc_fresh records.wellFormed value
      simp [same, stale, eq_comm]
    · simp [same]
  live_or_spent handle listed := by
    have issued : handle ∈ issuedIn events ∨ handle = (arena.alloc value).1 := by
      simpa [issuedIn, Event.handle?] using listed
    rcases issued with old | new
    · exact records.later (.alloc arena value) old
    · left
      exact ⟨value, by rw [get?_alloc records.wellFormed, new, Function.update_self]⟩

/-- Taking a value out is recorded with the answer. -/
theorem take (records : arena.Records events) (handle : Handle kind) :
    (arena.take handle).2.Records (events ++ [.taken handle (arena.take handle).1]) := by
  rw [take_eq]
  constructor
  · exact records.wellFormed.release handle
  · intro index
    rw [releasesAt_release, records.releasesAt_eq]
    simp [releasesIn, Event.releases, List.countP_singleton]
  · intro other held
    rw [heldIn_append_taken, ← records.get?_iff, get?_release, Function.update_apply]
    by_cases same : other = handle
    · simp [same]
    · simp [same]
  · intro other listed
    have issued : other ∈ issuedIn events := by simpa [issuedIn, Event.handle?] using listed
    exact records.later (.release arena handle) issued

/-- A handle that is issued was not issued before, as long as generations do not repeat: an earlier
one refers to another value or is over. -/
theorem alloc_not_issued (records : arena.Records events) (value : α)
    (countable : (arena.alloc value).2.Countable) : (arena.alloc value).1 ∉ issuedIn events := by
  intro again
  rcases records.live_or_spent _ again with ⟨other, known⟩ | spent
  · rw [get?_alloc_fresh records.wellFormed value] at known
    cases known
  · have stale := (spent.ages (.alloc arena value)).stale countable
    rw [get?_alloc records.wellFormed, Function.update_self] at stale
    cases stale

end Records

/-! ## Runs -/

/-- An arena ages with every call. -/
theorem ages_answer (arena : Arena kind α) (call : Call kind α) :
    arena.Ages (arena.answer call).2 := by
  cases call with
  | alloc value => exact .alloc arena value
  | take handle =>
      show arena.Ages (arena.take handle).2
      rw [take_eq]
      exact .release arena handle

/-- Every call is recorded. -/
theorem Records.answer (records : arena.Records events) (call : Call kind α) :
    (arena.answer call).2.Records (events ++ [(arena.answer call).1]) := by
  cases call with
  | alloc value => exact records.alloc value
  | take handle => exact records.take handle

/-- One more call is the last one. -/
theorem historyOf_append (calls : List (Call kind α)) (call : Call kind α) :
    historyOf (calls ++ [call]) = (historyOf calls).next call := by
  simp [historyOf]

variable (calls : List (Call kind α))

/-- After any calls, the arena holds what its events say. -/
theorem records_historyOf : (historyOf calls).arena.Records (historyOf calls).events := by
  induction calls using List.reverseRecOn with
  | nil => exact Records.empty
  | append_singleton earlier call ih =>
      rw [historyOf_append]
      exact ih.answer call

/-- An arena ages with any calls. -/
theorem ages_historyOf (more : List (Call kind α)) :
    (historyOf calls).arena.Ages (historyOf (calls ++ more)).arena := by
  induction more using List.reverseRecOn with
  | nil =>
      rw [List.append_nil]
      exact .refl _
  | append_singleton more call ih =>
      rw [← List.append_assoc, historyOf_append]
      exact ih.trans (ages_answer _ call)

/-- No handle is issued twice, as long as generations do not repeat. -/
theorem nodup_handles (countable : (historyOf calls).arena.Countable) :
    (issuedIn (historyOf calls).events).Nodup := by
  induction calls using List.reverseRecOn with
  | nil => exact List.nodup_nil
  | append_singleton earlier call ih =>
      have distinct := ih (countable.of_ages (ages_historyOf earlier [call]))
      have records := records_historyOf earlier
      rw [historyOf_append] at countable ⊢
      cases call with
      | alloc value =>
          have new := records.alloc_not_issued value countable
          have grown : issuedIn ((historyOf earlier).next (.alloc value)).events =
              issuedIn (historyOf earlier).events ++ [((historyOf earlier).arena.alloc value).1] := by
            simp [issuedIn, History.next, answer, Event.handle?]
          rw [grown, ← List.concat_eq_append]
          exact distinct.concat new
      | take handle =>
          have same : issuedIn ((historyOf earlier).next (.take handle)).events =
              issuedIn (historyOf earlier).events := by
            simp [issuedIn, History.next, answer, Event.handle?]
          rwa [same]

/-- A handle that was issued and is stale stays stale, as long as generations do not repeat. -/
theorem stale_of_stale (more : List (Call kind α)) {handle : Handle kind}
    (issued : handle ∈ issuedIn (historyOf calls).events)
    (stale : (historyOf calls).arena.get? handle = none)
    (countable : (historyOf (calls ++ more)).arena.Countable) :
    (historyOf (calls ++ more)).arena.get? handle = none := by
  have spent : (historyOf calls).arena.Spent handle := by
    rcases (records_historyOf calls).live_or_spent handle issued with ⟨value, known⟩ | spent
    · rw [stale] at known
      cases known
    · exact spent
  exact (spent.ages (ages_historyOf calls more)).stale countable

/-- As many values are counted as there are issued handles that refer to one. -/
theorem live_eq_length_issued (countable : (historyOf calls).arena.Countable) :
    (historyOf calls).arena.live =
      ((issuedIn (historyOf calls).events).filter (historyOf calls).arena.contains).length := by
  have records := records_historyOf calls
  have wellFormed := records.wellFormed
  have listedOnce : ((historyOf calls).arena.entries.map (·.1)).Nodup :=
    List.pairwise_map.2 <| (pairwise_entries _).imp fun before same => by
      rw [same] at before
      exact Nat.lt_irrefl _ before
  have issuedOnce := (nodup_handles calls countable).filter (historyOf calls).arena.contains
  have same : ((historyOf calls).arena.entries.map (·.1)).Perm
      ((issuedIn (historyOf calls).events).filter (historyOf calls).arena.contains) := by
    refine (List.perm_ext_iff_of_nodup listedOnce issuedOnce).2 fun handle => ?_
    rw [List.mem_filter, contains_eq_true_iff]
    constructor
    · intro listed
      obtain ⟨⟨handle, value⟩, among, rfl⟩ := List.mem_map.1 listed
      have known := mem_entries_iff.1 among
      exact ⟨mem_issuedIn_of_heldIn ((records.get?_iff handle value).1 known), value, known⟩
    · rintro ⟨-, value, known⟩
      exact List.mem_map.2 ⟨(handle, value), mem_entries_iff.2 known, rfl⟩
  calc (historyOf calls).arena.live
      = ((historyOf calls).arena.entries.map (·.1)).length := by
        rw [List.length_map, wellFormed.length_entries]
    _ = _ := same.length_eq

/-- After any calls on an arena that was empty, in which no slot was released so often that
generations repeat: the handles that were issued are pairwise distinct; a handle refers to a value
exactly if it was issued for that value and not given back since; what was issued and is stale stays
stale; a value is handed out exactly when the handle refers to it; the count is that of the handles
that refer to values; and the listing has exactly these handles with their values, in slot order. -/
theorem handles_are_never_confused
    (few : ∀ index, releasesIn (historyOf calls).events index < UInt32.size) :
    let arena := (historyOf calls).arena
    let events := (historyOf calls).events
    (issuedIn events).Nodup ∧
      (∀ handle value, arena.get? handle = some value ↔ HeldIn events handle value) ∧
      (∀ earlier more, earlier ++ more = calls → ∀ handle ∈ issuedIn (historyOf earlier).events,
        (historyOf earlier).arena.get? handle = none → arena.get? handle = none) ∧
      (∀ handle, (arena.take handle).1 = arena.get? handle) ∧
      arena.live = ((issuedIn events).filter arena.contains).length ∧
      (∀ handle value, (handle, value) ∈ arena.entries ↔ HeldIn events handle value) ∧
      arena.entries.Pairwise fun first second => first.1.index < second.1.index := by
  intro arena events
  have records : arena.Records events := records_historyOf calls
  have countable : arena.Countable :=
    countable_of_releasesAt fun index => by rw [records.releasesAt_eq]; exact few index
  refine ⟨nodup_handles calls countable, records.get?_iff, ?_, fun handle => by rw [take_eq],
    live_eq_length_issued calls countable, fun handle value => ?_, pairwise_entries arena⟩
  · rintro earlier more rfl handle issued stale
    exact stale_of_stale earlier more issued stale countable
  · rw [mem_entries_iff, records.get?_iff]

/-- Two values are kept, the first is released and its slot is used again; then the first handle is
given back once more. -/
def reuseFirstSlot : List (Call .entity String) :=
  [.alloc "a", .alloc "b", .take ⟨0, 0⟩, .alloc "c", .take ⟨0, 0⟩]

/-- The first handle stays stale although its slot is used again, and the new handle refers to the
new value. -/
theorem handles_of_reuseFirstSlot :
    let arena := (historyOf reuseFirstSlot).arena
    let events := (historyOf reuseFirstSlot).events
    (∀ index, releasesIn events index < UInt32.size) ∧
      issuedIn events = [⟨0, 0⟩, ⟨1, 0⟩, ⟨0, 1⟩] ∧ (issuedIn events).Nodup ∧
      arena.get? ⟨0, 0⟩ = none ∧ HeldIn events ⟨0, 1⟩ "c" ∧ (arena.take ⟨0, 0⟩).1 = none ∧
      arena.live = 2 ∧ arena.entries = [(⟨0, 1⟩, "c"), (⟨1, 0⟩, "b")] := by
  intro arena events
  have few : ∀ index, releasesIn events index < UInt32.size := by
    intro index
    have five : events.length = 5 := by decide
    exact Nat.lt_of_le_of_lt List.countP_le_length (five ▸ by decide)
  obtain ⟨distinct, refers, stays, given, counted, listed, -⟩ :=
    handles_are_never_confused reuseFirstSlot few
  have stale : arena.get? ⟨0, 0⟩ = none :=
    stays (reuseFirstSlot.take 3) (reuseFirstSlot.drop 3) rfl ⟨0, 0⟩ (by decide) (by decide)
  refine ⟨few, by decide, distinct, stale, ?_, (given _).trans stale, ?_, by decide⟩
  · exact (refers _ _).1 (by decide)
  · rw [counted]
    decide

end ScopeResolution.Arena

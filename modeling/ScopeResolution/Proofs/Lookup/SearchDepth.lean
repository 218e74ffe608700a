import ScopeResolution.Proofs.Lookup.PeerSearch

/-! # How deep a search over peers goes

A search that is nested too deep has followed a chain of distinct tables, each a peer of the one
before it (`PeerChain`). Whether there is a level left for a peer is asked before it is known whether
the peer is new. So the chain is as long as the limit, and its last table has one more peer
(`chain_of_visit`): that is either a further table, and then the nesting is deeper than the limit, or
a table of the chain itself, which was visited already (`chain_of_findSymbol`). The main statement
`search_depth_of_run` says so for every store that can be reached; two namespaces that are peers of
each other show that the second case happens (`peersOfEachOther_tooDeep`). -/

namespace ScopeResolution.SymbolStore

variable {store : SymbolStore} {name : Name} {id peer root : TableId} {further : List TableId}

/-! ## Chains of peers -/

/-- From a table, further tables are nested one in the search of the other: all of them are
distinct, and each is a peer of the one before it. -/
structure PeerChain (store : SymbolStore) (start : TableId) (further : List TableId) : Prop where
  /-- Each table uses the next one. -/
  uses : (start :: further).IsChain store.Uses
  /-- No table comes twice. -/
  nodup : (start :: further).Nodup

namespace PeerChain

/-- A table alone. -/
theorem nil (id : TableId) : store.PeerChain id [] :=
  ⟨List.isChain_singleton id, List.nodup_singleton id⟩

/-- A chain from a peer starts one table earlier, unless it comes back there. -/
theorem cons (isChain : store.PeerChain peer further) (uses : store.Uses id peer)
    (new : id ∉ peer :: further) : store.PeerChain id (peer :: further) :=
  ⟨List.isChain_cons_cons.2 ⟨uses, isChain.uses⟩, List.nodup_cons.2 ⟨new, isChain.nodup⟩⟩

/-- A chain goes on with a peer of its last table that is not in it. -/
theorem concat (isChain : store.PeerChain id further)
    (uses : store.Uses (further.getLastD id) peer) (new : peer ∉ id :: further) :
    store.PeerChain id (further ++ [peer]) := by
  induction further generalizing id with
  | nil =>
      have notBack : id ∉ [peer] := fun same =>
        new (List.mem_singleton.2 (List.mem_singleton.1 same).symm)
      exact (nil peer).cons uses notBack
  | cons next rest ih =>
      have notFirst : id ∉ next :: (rest ++ [peer]) := by
        have first := (List.nodup_cons.1 isChain.nodup).1
        simp only [List.mem_cons, List.mem_append, List.not_mem_nil, or_false, not_or] at first new ⊢
        exact ⟨first.1, first.2, Ne.symm new.1⟩
      have inner : store.PeerChain next rest :=
        ⟨(List.isChain_cons_cons.1 isChain.uses).2, (List.nodup_cons.1 isChain.nodup).2⟩
      have longer : store.PeerChain next (rest ++ [peer]) :=
        ih inner (by rwa [List.getLastD_cons] at uses) fun again => new (List.mem_cons_of_mem _ again)
      exact longer.cons (List.isChain_cons_cons.1 isChain.uses).1 notFirst

end PeerChain

/-! ## Searches that fail -/

/-- A loop that fails does so at one of its items, after the items before it. -/
theorem foldlM_eq_error {α β : Type} {step : α → β → Except Failure α} {list : List β} {start : α}
    {failure : Failure} (failed : list.foldlM step start = .error failure) :
    ∃ before item after state, list = before ++ item :: after ∧
      before.foldlM step start = .ok state ∧ step state item = .error failure := by
  induction list generalizing start with
  | nil => cases failed
  | cons first rest ih =>
      rw [List.foldlM_cons] at failed
      cases stepped : step start first with
      | error other =>
          rw [stepped] at failed
          cases failed
          exact ⟨[], first, rest, start, rfl, rfl, stepped⟩
      | ok next =>
          rw [stepped] at failed
          obtain ⟨before, item, after, state, rfl, reached, item_failed⟩ := ih failed
          refine ⟨first :: before, item, after, state, rfl, ?_, item_failed⟩
          rw [List.foldlM_cons, stepped]
          exact reached

/-- A visit fails only at a new table, on the way to one of its peers, when the peers before that
one were visited. -/
theorem visitStep_eq_error (linked : store.Linked) (plain : store.ReachesPlainTables root)
    {nesting : Nesting} {deeper : TableId → Reached → Except Failure Reached} {reached : Reached}
    (reaches : store.Reaches root id) {failure : Failure}
    (failed : store.visitStep (store.members nesting name) deeper id reached = .error failure) :
    id ∉ reached.visited ∧ ∃ (hits : Hits) (before : List TableId) (peer : TableId)
      (now : Reached), store.Uses id peer ∧
        before.foldlM (fun now peer => deeper peer now) ⟨id :: reached.visited, hits⟩ = .ok now ∧
        deeper peer now = .error failure := by
  unfold visitStep at failed
  split at failed
  · cases failed
  · rename_i new
    refine ⟨new, ?_⟩
    obtain ⟨table, known, notClass⟩ := plain id reaches
    obtain ⟨role, -, own⟩ := linked.hitsOf_of_listed known (table.entries_subset_listed name)
    rw [table_eq_ok_iff.2 known, ok_bind,
      members_of_own _ (Or.inr (Table.bases_of_not_class notClass)), own, ok_bind] at failed
    -- The table and its own entries are there, so what fails is the loop over the peers.
    obtain ⟨before, peer, after, now, peers, earlier, peer_failed⟩ := foldlM_eq_error failed
    have uses : store.Uses id peer := ⟨table, known, by simp [peers]⟩
    exact ⟨_, before, peer, now, uses, earlier, peer_failed⟩

/-- A visit that fails is nested too deep: a chain of tables that were not visited yet takes up all
the levels that are left, and its last table has a peer. By induction on these levels. -/
theorem chain_of_visit (linked : store.Linked) (plain : store.ReachesPlainTables root)
    {limit levels : Nat} {reached : Reached} (reaches : store.Reaches root id) {failure : Failure}
    (failed : store.visit limit name levels id reached = .error failure) :
    failure = .recursionLimit limit ∧ ∃ further beyond, store.PeerChain id further ∧
      further.length = levels ∧ (∀ table ∈ id :: further, table ∉ reached.visited) ∧
      store.Uses (further.getLastD id) beyond := by
  induction levels generalizing id reached with
  | zero =>
      obtain ⟨new, hits, before, peer, now, uses, -, peer_failed⟩ :=
        visitStep_eq_error linked plain reaches failed
      cases peer_failed
      refine ⟨rfl, [], peer, .nil id, rfl, fun table isId => ?_, uses⟩
      rw [List.mem_singleton.1 isId]
      exact new
  | succ levels ih =>
      obtain ⟨new, hits, before, peer, now, uses, earlier, peer_failed⟩ :=
        visitStep_eq_error linked plain reaches failed
      obtain ⟨tooDeep, further, beyond, isChain, length, unvisited, usesBeyond⟩ :=
        ih (reaches.tail uses) peer_failed
      -- The table itself is visited by now, and so is what was visited before it.
      obtain ⟨order, explored⟩ : ∃ order, store.Explored (store.hitsIn ⟨limit, levels⟩ name)
          ⟨id :: reached.visited, hits⟩ before now order :=
        explored_of_foldlM (fun _ _ _ => explored_of_visit ⟨limit, levels⟩ (Nat.le_refl levels))
          earlier
      have visited : id :: reached.visited ⊆ now.visited := by
        rw [explored.visited]
        exact List.subset_append_right _ _
      have notAgain : id ∉ peer :: further := fun again =>
        unvisited id again (visited List.mem_cons_self)
      refine ⟨tooDeep, peer :: further, beyond, isChain.cons uses notAgain, ?_, ?_, ?_⟩
      · rw [List.length_cons, length]
      · intro table isTable wasVisited
        rcases List.mem_cons.1 isTable with rfl | isFurther
        · exact new wasVisited
        · exact unvisited table isFurther (visited (List.mem_cons_of_mem _ wasVisited))
      · rwa [List.getLastD_cons]

/-- A search that fails is nested too deep: some chain is longer than there were levels, or one is
as long and its last table has a peer that is in the chain. -/
theorem chain_of_findSymbol (linked : store.Linked) (plain : store.ReachesPlainTables root)
    {nesting : Nesting} {failure : Failure}
    (failed : store.findSymbol nesting root name = .error failure) :
    failure = .recursionLimit nesting.limit ∧
      ((∃ further, store.PeerChain root further ∧ nesting.levels < further.length) ∨
        ∃ further peer, store.PeerChain root further ∧ further.length = nesting.levels ∧
          store.Uses (further.getLastD root) peer ∧ peer ∈ root :: further) := by
  have visit_failed : store.visit nesting.limit name nesting.levels root {} = .error failure := by
    unfold findSymbol at failed
    cases visited : store.visit nesting.limit name nesting.levels root {} with
    | error other =>
        rw [visited] at failed
        cases failed
        rfl
    | ok reached =>
        rw [visited] at failed
        cases failed
  obtain ⟨tooDeep, further, peer, isChain, length, -, uses⟩ :=
    chain_of_visit linked plain .refl visit_failed
  refine ⟨tooDeep, ?_⟩
  by_cases again : peer ∈ root :: further
  · exact Or.inr ⟨further, peer, isChain, length, uses, again⟩
  · refine Or.inl ⟨further ++ [peer], isChain.concat uses again, ?_⟩
    rw [List.length_append, length, List.length_singleton]
    exact Nat.lt_succ_self _

/-- In every store that can be reached, a search over tables that are there and not those of classes
fails only when it is nested too deep. Then there is a chain of distinct tables, each a peer of the
one before it, that is deeper than the limit; or there is one exactly as deep as the limit, and its
last table has a peer in the chain, which was visited already. So the search succeeds as soon as it
may go deeper than every chain. -/
theorem search_depth_of_run (names : NamePool) (operations : List Operation) :
    let store := (SymbolStore.new names).run operations
    ∀ start name limit, store.ReachesPlainTables start →
      (∀ failure, store.findSymbol (.start limit) start name = .error failure →
        failure = .recursionLimit limit ∧
          ((∃ further, store.PeerChain start further ∧ limit < further.length) ∨
            ∃ further peer, store.PeerChain start further ∧ further.length = limit ∧
              store.Uses (further.getLastD start) peer ∧ peer ∈ start :: further)) ∧
      ((∀ further, store.PeerChain start further → further.length < limit) →
        ∃ hits, store.findSymbol (.start limit) start name = .ok hits) := by
  intro store start name limit plain
  have linked : store.Linked := ((sound_new names).run operations).linked
  have fails := fun failure => @chain_of_findSymbol store name start linked plain (.start limit)
    failure
  refine ⟨fails, fun shallow => ?_⟩
  cases found : store.findSymbol (.start limit) start name with
  | ok hits => exact ⟨hits, rfl⟩
  | error failure =>
      obtain ⟨-, ⟨further, isChain, deeper⟩ | ⟨further, _, isChain, asDeep, -⟩⟩ :=
        fails failure found
      · exact absurd (shallow further isChain) (Nat.lt_asymm deeper)
      · exact absurd asDeep (Nat.ne_of_lt (shallow further isChain))

/-! ## Two namespaces that use each other -/

/-- Two namespaces that are peers of each other and hold nothing. -/
def peersOfEachOther : List Operation :=
  let root := (SymbolStore.new {}).global
  [.addEntity root { name := ⟨0⟩, kind := .namespaceDecl },
    .addEntity root { name := ⟨1⟩, kind := .namespaceDecl }, .addPeer ⟨1, 0⟩ ⟨2, 0⟩,
    .addPeer ⟨2, 0⟩ ⟨1, 0⟩]

/-- Each namespace uses the other one, and no other table uses anything. -/
theorem uses_peersOfEachOther (uses : ((SymbolStore.new {}).run peersOfEachOther).Uses id peer) :
    id = ⟨1, 0⟩ ∧ peer = ⟨2, 0⟩ ∨ id = ⟨2, 0⟩ ∧ peer = ⟨1, 0⟩ := by
  obtain ⟨table, known, isPeer⟩ := uses
  have all : ∀ entry ∈ ((SymbolStore.new {}).run peersOfEachOther).tables.entries,
      ∀ peer ∈ entry.2.peers, entry.1 = ⟨1, 0⟩ ∧ peer = ⟨2, 0⟩ ∨
        entry.1 = ⟨2, 0⟩ ∧ peer = ⟨1, 0⟩ := by decide +kernel
  exact all _ (Arena.mem_entries_iff.2 known) peer isPeer

/-- What is reached from the first namespace is there, and is not the table of a class. -/
theorem plain_peersOfEachOther :
    ((SymbolStore.new {}).run peersOfEachOther).ReachesPlainTables ⟨1, 0⟩ := by
  intro id reaches
  have among : id = ⟨1, 0⟩ ∨ id = ⟨2, 0⟩ := by
    rcases Relation.ReflTransGen.cases_tail reaches with rfl | ⟨before, -, uses⟩
    · exact Or.inl rfl
    · exact (uses_peersOfEachOther uses).elim (fun both => Or.inr both.2) fun both => Or.inl both.2
  have shown : (((SymbolStore.new {}).run peersOfEachOther).tables.get? id).map (·.kind) =
      some .namespaceTable := by
    rcases among with rfl | rfl <;> decide +kernel
  obtain ⟨table, known, kind⟩ := Option.map_eq_some_iff.1 shown
  exact ⟨table, known, by rw [kind]; decide⟩

/-- A chain from the first namespace has one further table at most. -/
theorem chain_peersOfEachOther
    (isChain : ((SymbolStore.new {}).run peersOfEachOther).PeerChain ⟨1, 0⟩ further) :
    further.length ≤ 1 := by
  match further with
  | [] => exact Nat.zero_le 1
  | [second] => exact Nat.le_refl 1
  | second :: third :: rest =>
    -- The third table is a peer of the second namespace, so it is the first one again.
    obtain ⟨first_uses, uses⟩ := List.isChain_cons_cons.1 isChain.uses
    obtain ⟨second_uses, -⟩ := List.isChain_cons_cons.1 uses
    obtain ⟨-, rfl⟩ | ⟨same, -⟩ := uses_peersOfEachOther first_uses
    · obtain ⟨same, -⟩ | ⟨-, rfl⟩ := uses_peersOfEachOther second_uses
      · cases same
      · have nodup := isChain.nodup
        simp at nodup
    · cases same

/-- From one of the namespaces, a search succeeds that may go two levels deep; one that may go one
level deep fails, and for the second of the reasons. -/
theorem search_depth_of_peersOfEachOther :
    let store := (SymbolStore.new {}).run peersOfEachOther
    (store.ReachesPlainTables ⟨1, 0⟩ ∧
      (∀ further, store.PeerChain ⟨1, 0⟩ further → further.length < 2) ∧
      store.findSymbol (.start 1) ⟨1, 0⟩ ⟨2⟩ = .error (.recursionLimit 1)) ∧
    (∃ hits, store.findSymbol (.start 2) ⟨1, 0⟩ ⟨2⟩ = .ok hits) ∧
      ∃ further peer, store.PeerChain ⟨1, 0⟩ further ∧ further.length = 1 ∧
        store.Uses (further.getLastD ⟨1, 0⟩) peer ∧ peer ∈ ⟨1, 0⟩ :: further := by
  intro store
  have plain : store.ReachesPlainTables ⟨1, 0⟩ := plain_peersOfEachOther
  have shallow (further : List TableId) (isChain : store.PeerChain ⟨1, 0⟩ further) :
      further.length < 2 := Nat.lt_succ_of_le (chain_peersOfEachOther isChain)
  have failed : store.findSymbol (.start 1) ⟨1, 0⟩ ⟨2⟩ = .error (.recursionLimit 1) := by
    decide +kernel
  refine ⟨⟨plain, shallow, failed⟩, ?_, ?_⟩
  · exact (search_depth_of_run {} peersOfEachOther ⟨1, 0⟩ ⟨2⟩ 2 plain).2 shallow
  · obtain ⟨-, ⟨further, isChain, deeper⟩ | back⟩ :=
      (search_depth_of_run {} peersOfEachOther ⟨1, 0⟩ ⟨2⟩ 1 plain).1 _ failed
    · exact absurd (shallow further isChain) (Nat.not_lt.2 deeper)
    · exact back

/-- From one of the namespaces, a search that may go one level deep is nested too deep, although no
chain of peers is deeper than one level: what fails is the way back to the namespace itself. -/
theorem peersOfEachOther_tooDeep :
    let store := (SymbolStore.new {}).run peersOfEachOther
    store.ReachesPlainTables ⟨1, 0⟩ ∧
      store.findSymbol (.start 1) ⟨1, 0⟩ ⟨2⟩ = .error (.recursionLimit 1) ∧
      ¬ ∃ further, store.PeerChain ⟨1, 0⟩ further ∧ 1 < further.length := by
  refine ⟨plain_peersOfEachOther, by decide +kernel, ?_⟩
  rintro ⟨further, isChain, deeper⟩
  exact absurd (chain_peersOfEachOther isChain) (Nat.not_le.2 deeper)

end ScopeResolution.SymbolStore

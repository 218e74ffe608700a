import ScopeResolution.SymbolStore.Basic

/-! # Listings

What can be seen of a table at a glance: the names that are visible in it, and a text that lists its
contents line by line. -/

namespace ScopeResolution.SymbolStore

/-- The names of a table and of its direct peers. -/
def visibleNames (store : SymbolStore) (id : TableId) : Except Failure (List Name) := do
  let table ← store.table id
  let peers ← table.peers.mapM store.table
  pure (table.names ++ peers.flatMap Table.names)

/-- The name of a table: that of its owner, or a word in angle brackets. -/
def title (store : SymbolStore) (id : TableId) (table : Table) : Except Failure String :=
  match table.owner? with
  | some owner => store.qualifiedName owner
  | none => .ok (if id = store.global then "<global>" else "<block>")

/-- The line for a base. -/
def baseLine (store : SymbolStore) (base : Base) : Except Failure String := do
  let name ← store.qualifiedName base.entity
  let virtuality := if base.isVirtual then " virtual" else ""
  pure s!"  base {base.access.text}{virtuality} {name}"

/-- The lines for what a class holds beside its members, its state apart. -/
def classLines (store : SymbolStore) (body : ClassBody) : Except Failure (List String) := do
  let bases ← body.bases.mapM store.baseLine
  let count := body.constructors.length
  pure (bases ++ if count = 0 then [] else [s!"  constructors: {count}"])

/-- The line for the parameters of a function. -/
def functionLines (store : SymbolStore) (body : FunctionBody) : Except Failure (List String) := do
  let names ← body.params.mapM fun (_, param) => do
    let entity ← store.entity param
    pure (store.nameText entity.name)
  pure ["  params: (" ++ ", ".intercalate names ++ ")"]

/-- The line for the entries under a name. -/
def nameLine (store : SymbolStore) (id : TableId) (name : Name) : Except Failure String := do
  let hits ← store.findInScope id name
  let roles := ", ".intercalate (hits.toList.map (·.role.text))
  pure s!"  {store.nameText name}: {roles}"

/-- The contents of a table, line by line. -/
def dump (store : SymbolStore) (id : TableId) : Except Failure String := do
  let table ← store.table id
  let title ← store.title id table
  let classLines ← match table.class? with
    | some body => store.classLines body
    | none => pure []
  let functionLines ← match table.function? with
    | some body => store.functionLines body
    | none => pure []
  let nameLines ← table.names.mapM (store.nameLine id)
  let complete := (table.class?.map (·.isSealed)).getD false
  let lines :=
    s!"{table.kind.text} {title}" :: classLines ++ functionLines ++ nameLines
      ++ if complete then ["  (sealed)"] else []
  pure ("\n".intercalate lines)

end ScopeResolution.SymbolStore

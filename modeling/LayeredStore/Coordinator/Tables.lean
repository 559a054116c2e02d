import LayeredStore.Coordinator.Flush

/-!
# `LayeredStore.Coordinator.Tables`: registering and writing tables

* `addTable` registers a table at the depth that all tables share.
* `writeEntry` writes to a table: into its newest live layer, or into
  its root if no layer is live.
-/

set_option autoImplicit false

namespace LayeredStore

namespace Operation

/-- Registers a table over a store and answers its place. It starts
with an empty layer for every level. -/
def addTable (name root : String) : Operation Nat := do
  ensureRunning
  let c ← getCoordinator
  if (c.tableIndex? name).isSome then reject (.duplicateTable name)
  else
    let chain := Chain.padded name root c.levels c.pending c.openSeq?
    update fun c => { c with tables := c.tables ++ [chain] }.bump
    note (.tableRegistered name c.depth c.pending)
    return c.tables.length

/-- Writes an entry to a table's root. -/
def writeDirect (chain : Chain) (key : Bytes) (entry : Entry) : Operation Unit := do
  match ← writeRoot chain [(key, entry)] with
  | none => return ()
  | some source => fail (.ioFailure chain.name source)

/-- Writes an entry to a table. Pending layers would hide a value in
the root, so they are flushed before one is written there. -/
def writeEntry (table : Nat) (key : Bytes) (entry : Entry) : Operation Unit := do
  ensureRunning
  let c ← getCoordinator
  match c.tables[table]? with
  | none => return ()
  | some chain =>
    if 0 < chain.depth then update (·.modifyTable table (·.modifyHead (·.put key entry)))
    else
      if 0 < c.pending then flushOldest c.pending
      writeDirect chain key entry

end Operation

end LayeredStore

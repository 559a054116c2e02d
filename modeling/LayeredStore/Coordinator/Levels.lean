import LayeredStore.Coordinator.Flush

/-!
# `LayeredStore.Coordinator.Levels`: pushing and discarding levels

The steps by which the chains of all tables grow and shrink together.

* `solidify` makes the oldest live layers pending, and flushes when too
  many are.
* `advance` pushes a layer on every table, making room first: it is
  `makeRoom` and then `pushLevel`.
* `retreat` discards the newest live layer of every table.
-/

set_option autoImplicit false

namespace LayeredStore

namespace Coordinator

/-- A table is not at the depth that all tables share. -/
def depthMismatch (c : Coordinator) (chain : Chain) : StateError :=
  .depthMismatch chain.name c.depth chain.depth

/-- Puts an empty layer on the tables one by one: those in `pushed` have
theirs, and `rest` are still to come. A table that does not have as many
layers as there are levels ends this, and those in `pushed` are put
back. It is answered with the tables as they are then. -/
def pushTables (c : Coordinator) :
    (pushed rest : List Chain) → Except (Chain × List Chain) (List Chain)
  | pushed, [] => .ok pushed
  | pushed, chain :: rest =>
    if chain.layers.length ≠ c.levels.length then
      .error (chain, pushed.map (·.discardHead) ++ chain :: rest)
    else c.pushTables (pushed ++ [chain.push c.nextSeq]) rest

/-- The next sequence number becomes that of the newest level. -/
def addLevel (c : Coordinator) : Coordinator :=
  { c with levels := c.levels ++ [c.nextSeq], nextSeq := c.nextSeq + 1 }

end Coordinator

namespace Operation

/-- Makes the `count` oldest live layers of every table pending, and
flushes all that are pending once they are too many. -/
def solidify (count : Nat) : Operation Unit := do
  update fun c => (c.solidify count).bump.clampCursor
  let c ← getCoordinator
  note (.layersPending c.pending)
  if c.maxFlushCount ≤ c.pending then flushOldest c.pending

/-- Makes room for one more live layer: on a full chain the oldest live
layers become pending. -/
def makeRoom : Operation Unit := do
  let c ← getCoordinator
  if c.maxSize ≤ c.depth then solidify (c.depth + 1 - c.maxSize)

/-- Pushes a layer on every table and answers its sequence number. If a
table is out of step, the tables before it give their new layer back. -/
def pushLevel : Operation Nat := do
  let c ← getCoordinator
  match c.pushTables [] c.tables with
  | .error (chain, tables) =>
    update fun c => { c with tables := tables }
    refuse (c.depthMismatch chain)
  | .ok tables =>
    update fun c => { c with tables := tables }.addLevel.bump
    let depth := (← getCoordinator).depth
    note (.layerPushed c.nextSeq depth)
    publish (.pushLayer c.nextSeq depth)
    return c.nextSeq

/-- Pushes a layer on every table, making room first. -/
def advance : Operation Nat := do
  makeRoom
  pushLevel

/-- Discards the newest live layer of every table, for this operation.
`verified?` is given for a pop. -/
def retreat (operation : String) (verified? : Option Bool) : Operation Unit := do
  let c ← getCoordinator
  if c.depth = 0 then refuse (.emptyChain operation)
  else
    let seq := c.levels.getLast?.getD 0
    -- The cursor may have left out layers that are not live any more.
    update fun c => c.discardHead.bump.clampCursor
    let depth := (← getCoordinator).depth
    note (.layerDiscarded operation seq depth)
    match verified? with
    | some verified => publish (.popLayer seq depth verified)
    | none => publish (.revokeLayer seq depth)

end Operation

end LayeredStore

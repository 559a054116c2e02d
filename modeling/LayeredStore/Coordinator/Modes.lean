import LayeredStore.Coordinator.Sessions

/-!
# `LayeredStore.Coordinator.Modes`: modes, cursor and limits

* `enable` and `disable` switch between sessions that can be rolled
  back and sessions that write straight into the roots.
* `setCursor` chooses where reads are served from.
* `setMaxSize` and `setMaxFlushCount` set the two limits, and enforce
  them at once.
-/

set_option autoImplicit false

namespace LayeredStore

namespace Operation

/-- Sessions opened from here on can be rolled back. -/
def enable : Operation Unit := do
  ensureRunning
  let c ← getCoordinator
  if c.enabled then return ()
  else if c.openUnit.isSome then refuse (.sessionOpen "enable")
  else
    update fun c => { c with enabled := true }.bump
    note .enabled

/-- Sessions opened from here on write straight into the roots. -/
def disable : Operation Unit := do
  ensureRunning
  let c ← getCoordinator
  if !c.enabled then return ()
  else if c.openUnit.isSome then refuse (.sessionOpen "disable")
  else if !c.levels.isEmpty then refuse (.chainNotDrained c.depth c.pending)
  else
    update fun c => { c with enabled := false }.bump
    note .disabled

/-- Serves reads from the cursor; at the head, `offset` of the newest
live layers are left out. -/
def setCursor (cursor : Cursor) (offset : Nat) : Operation Unit := do
  ensureRunning
  let c ← getCoordinator
  match cursor with
  | .solidity =>
    if 0 < offset then reject (.offsetWithSolidity offset)
    else update fun c => { c with view := .solidity }
  | .head =>
    if c.depth < offset then reject (.offsetExceedsDepth offset c.depth)
    else update fun c => { c with view := .head offset }

/-- Allows this many live layers. -/
def setMaxSize (limit : Nat) : Operation Unit := do
  ensureRunning
  if limit = 0 then reject .zeroMaxSize
  else
    update fun c => { c with maxSize := limit }
    let c ← getCoordinator
    if limit < c.depth then solidify (c.depth - limit)

/-- Flushes from now on when this many layers are pending. -/
def setMaxFlushCount (limit : Nat) : Operation Unit := do
  ensureRunning
  if limit = 0 then reject .zeroMaxFlushCount
  else
    update fun c => { c with maxFlushCount := limit }
    let c ← getCoordinator
    if limit ≤ c.pending then flushOldest c.pending

end Operation

end LayeredStore

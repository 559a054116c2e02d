import LayeredStore.Coordinator.Sessions

/-!
# `LayeredStore.Coordinator.History`: going back and settling

The operations that shorten history at either end.

* `revoke` discards the newest level, which may be that of the open
  unit of work.
* `popMany` discards several committed levels, or none of them.
* `merge` moves the pending layers and the oldest live one into the
  roots.
-/

set_option autoImplicit false

namespace LayeredStore

namespace Coordinator

/-- Why these layers of a table cannot be popped, if they cannot. The
levels are those of the layers. -/
def checkPop? (operation : String) (verify : Bool) (table : String) :
    (level : Nat) → List Layer → List Nat → Option StateError
  | level, layer :: layers, seq :: levels =>
    if layer.seq ≠ seq then
      some (.malformedChain table level "layer sequence number differs from the other tables")
    else if !layer.committed then some (.uncommittedLayer operation seq)
    else if verify && !layer.sealMatches then some (.sealMismatch table seq)
    else checkPop? operation verify table (level + 1) layers levels
  | _, _, _ => none

/-- Why the `count` newest layers of the tables cannot be popped, if
they cannot: the first fault in the order of the tables, in each from
the oldest of these layers. -/
def notPoppable? (c : Coordinator) (operation : String) (count : Nat) (verify : Bool) :
    Option StateError :=
  let lowest := c.levels.length - count
  c.tables.findSome? fun chain =>
    if chain.layers.length ≠ c.levels.length then some (c.depthMismatch chain)
    else checkPop? operation verify chain.name lowest (chain.layers.drop lowest)
      (c.levels.drop lowest)

end Coordinator

namespace Operation

/-- Discards the newest level. If it is that of the open unit of work,
the unit is revoked. -/
def revoke : Operation Unit := do
  ensureRunning
  let c ← getCoordinator
  if !c.enabled then
    if c.openUnit.isSome then revokeUnit
    else
      update fun c => { c with passThroughRevokes := c.passThroughRevokes + 1 }
      note .revokedWhileDisabled
  else if c.depth = 0 then refuse (.emptyChain "revoke")
  else if c.openUnit.any (·.seq = c.levels.getLast?) then revokeUnit
  else retreat "revoke" none

/-- Moves every pending layer and the oldest live one into the
roots. -/
def merge : Operation Unit := do
  ensureRunning
  let c ← getCoordinator
  match c.levels[c.pending]? with
  | none => refuse (.emptyChain "merge")
  | some oldestLive =>
    if c.openSeq? = some oldestLive then refuse (.uncommittedLayer "merge" oldestLive)
    else flushOldest (c.pending + 1)

/-- Discards the newest live layer `count` times. -/
def retreatMany (operation : String) (verify : Bool) : (count : Nat) → Operation Unit
  | 0 => return ()
  | count + 1 => do
    retreat operation (some verify)
    retreatMany operation verify count

/-- Discards the `count` newest levels, all of them committed. Every
layer is looked at before any is discarded. -/
def popMany (count : Nat) (verify : Bool) : Operation Unit := do
  ensureRunning
  let operation := if verify then "pop" else "fast pop"
  let c ← getCoordinator
  if c.openUnit.isSome then refuse (.sessionOpen operation)
  else if count = 0 then return ()
  else if c.depth = 0 then refuse (.emptyChain operation)
  else if c.depth < count then reject (.countExceedsDepth count c.depth)
  else match c.notPoppable? operation count verify with
    | some error => refuse error
    | none => retreatMany operation verify count

end Operation

end LayeredStore

import LayeredStore.Coordinator.Sessions
import LayeredStore.Coordinator.Consistency

/-!
# `LayeredStore.Coordinator.Lifecycle`: starting and stopping

* `check` carries out the record of an interrupted flush and then
  checks the chains.
* `stop` revokes what is open (`revokeLeft`), flushes what is left
  (`flushLeft`), and refuses all operations from then on.
-/

set_option autoImplicit false

namespace LayeredStore

/-- What a check found. -/
structure CheckReport where
  /-- How many levels are live. -/
  depth : Nat
  /-- How many levels are pending. -/
  pending : Nat
  /-- How many tables there are. -/
  tables : Nat
  /-- How many entries of an interrupted flush were carried out. -/
  recoveredKeys : Nat
  /-- How many revokes found nothing to roll back. -/
  passThroughRevokes : Nat
  deriving DecidableEq, Repr

namespace Operation

/-- Carries out the record of an interrupted flush, unless the database
has stopped. -/
def recoverRunning : Operation Nat := do
  let c ← getCoordinator
  if c.halted || c.shutDown then return 0 else recover

/-- Carries out the record of an interrupted flush, and then checks the
chains. -/
def check : Operation CheckReport := do
  let recovered ← recoverRunning
  let c ← getCoordinator
  match checkChains? c.tables c.levels c.pending with
  | some error => refuse error
  | none => return ⟨c.depth, c.pending, c.tables.length, recovered, c.passThroughRevokes⟩

/-- Moves every layer into the roots, unless the database halted. -/
def flushAll : Operation Unit := do
  let c ← getCoordinator
  if c.halted then
    note .shuttingDownHalted
    refuse .halted
  else flushOldest c.levels.length

/-- Revokes the unit of work that is open when the database stops. -/
def revokeLeft : Operation Unit := do
  note .shuttingDownWithSession
  match ← attempt revokeUnit with
  | .ok () => return ()
  | .error error => note (.shutdownRevokeFailed error)

/-- Flushes what is left, and stops also if this fails. -/
def flushLeft : Operation Unit := do
  let flushed ← attempt flushAll
  update fun c => { c with shutDown := true, publishing := false }.bump
  note .shutDown
  conclude flushed

/-- Stops for good. -/
def stop : Operation Unit := do
  let c ← getCoordinator
  if c.shutDown then return ()
  else
    if c.openUnit.isSome then revokeLeft
    flushLeft

end Operation

end LayeredStore

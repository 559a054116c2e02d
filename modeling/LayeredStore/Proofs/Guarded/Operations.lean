import LayeredStore.Proofs.Guarded.Basic

/-!
# `LayeredStore.Proofs.Guarded.Operations`: operations that can slip

Every operation once more, with every step on the numbers of the chains
guarded. The first step whose guard fails ends the whole operation in
its `Slip`: nothing that catches an error catches that.

Only what takes such a step, or calls what does, stands here; the rest
is used as it is. The generation and the number of pass-through revokes
are counted without a guard: they are compared and reported, and no
place or length is computed from them.
-/

set_option autoImplicit false

namespace LayeredStore

/-- An operation that can slip. -/
abbrev Guarded (α : Type) := ExceptT Slip Operation α

namespace Guarded

open Operation

variable {α : Type}

/-- How a guarded operation ends on a world. -/
def perform (guarded : Guarded α) (w : World) : Except Fault (Except Slip α) × World :=
  Operation.perform guarded.run w

/-- Changes the coordinator's state. -/
def amend (f : Coordinator → Except Slip Coordinator) : Guarded Unit := do
  let changed ← f (← getCoordinator)
  update fun _ => changed

/-- Answers an error of the operation, but not a slip. -/
def attempt (guarded : Guarded α) : Guarded (Except Error α) := ExceptT.mk do
  match ← Operation.attempt guarded.run with
  | .ok (.ok result) => return .ok (.ok result)
  | .ok (.error slip) => return .error slip
  | .error error => return .ok (.error error)

/-- Runs the operation under the lock. -/
def locked (guarded : Guarded α) : Guarded α := ExceptT.mk (Operation.locked guarded.run)

/-! ### Flushes, pushes and discards -/

def flushOldest (count : Nat) : Guarded Unit := do
  let c ← getCoordinator
  let count := min count c.levels.length
  if count = 0 then return ()
  else
    let record ← c.guardedNetRecord count
    flushWrite journalName (writeRecord c.journal record)
    applyRecord record
    amend fun c => do (← c.guardedDropOldest count).guardedClampCursor
    flushWrite journalName (write c.journal Journal.clearBatch)
    update (·.bump)
    let depth ← (← getCoordinator).guardedDepth
    note (.flushed count record.size depth)
    publish (.flush count record.size depth)

def solidify (count : Nat) : Guarded Unit := do
  amend fun c => do (← c.guardedSolidify count).bump.guardedClampCursor
  let c ← getCoordinator
  note (.layersPending c.pending)
  if c.maxFlushCount ≤ c.pending then flushOldest c.pending

def makeRoom : Guarded Unit := do
  let c ← getCoordinator
  if c.maxSize ≤ (← c.guardedDepth) then
    solidify (← minus (← plus (← c.guardedDepth) 1) c.maxSize)

def pushLevel : Guarded Nat := do
  let c ← getCoordinator
  match ← c.guardedPushTables [] c.tables with
  | .error (chain, tables) =>
    update fun c => { c with tables := tables }
    refuse (← c.guardedDepthMismatch chain)
  | .ok tables =>
    amend fun c => do return (← { c with tables := tables }.guardedAddLevel).bump
    let depth ← (← getCoordinator).guardedDepth
    note (.layerPushed c.nextSeq depth)
    publish (.pushLayer c.nextSeq depth)
    return c.nextSeq

def advance : Guarded Nat := do
  makeRoom
  pushLevel

def retreat (operation : String) (verified? : Option Bool) : Guarded Unit := do
  let c ← getCoordinator
  if (← c.guardedDepth) = 0 then refuse (.emptyChain operation)
  else
    let seq := c.levels.getLast?.getD 0
    amend fun c => do (← c.guardedDiscardHead).bump.guardedClampCursor
    let depth ← (← getCoordinator).guardedDepth
    note (.layerDiscarded operation seq depth)
    match verified? with
    | some verified => publish (.popLayer seq depth verified)
    | none => publish (.revokeLayer seq depth)

/-! ### Sessions -/

def openSession (force : Bool) : Guarded Session := do
  ensureRunning
  let c ← getCoordinator
  let id := c.statuses.length
  match c.openUnit with
  | some unit =>
    update (·.joinUnit unit)
    let c ← getCoordinator
    note (.nestedSessionOpened ((c.openUnit.map c.openCount).getD 0))
    return ⟨id, unit.seq.isNone, true⟩
  | none =>
    if !c.enabled && !force then
      update (·.openNewUnit none)
      return ⟨id, true, false⟩
    else
      let forced := !c.enabled
      if forced then update fun c => { c with enabled := true, disableOnExit := true }
      match ← attempt advance with
      | .ok seq =>
        update (·.openNewUnit (some seq))
        return ⟨id, false, false⟩
      | .error error =>
        if forced then update (·.unforce)
        fail error

def revokeUnit : Guarded Unit := do
  match (← getCoordinator).openUnit with
  | none => return ()
  | some unit =>
    update fun c => { c with openUnit := none }.resolveOpen unit .revoked
    match unit.seq with
    | none =>
      update fun c => { c with passThroughRevokes := c.passThroughRevokes + 1 }
      note .passThroughRevoked
    | some _ => retreat "revoke" none
    leaveForced

def sealUnit (seq : Nat) : Guarded Unit := do
  amend (·.guardedSealHeads)
  let c ← getCoordinator
  note (.unitCommitted seq (← c.guardedDepth))
  publish (.commitSession seq (← c.guardedHeadsDigest))

def settleForced : Guarded Unit := do
  let c ← getCoordinator
  if c.disableOnExit then
    flushOldest c.levels.length
    leaveForced

def finishUnit : Guarded Unit := do
  match (← getCoordinator).openUnit with
  | none => return ()
  | some unit =>
    update fun c => { c with openUnit := none }
    if let some seq := unit.seq then sealUnit seq
    settleForced

def commitSession (session : Nat) : Guarded Unit := do
  match (← getCoordinator).status session with
  | .committed => misuse .alreadyCommitted
  | .revoked | .abandoned => misuse .commitAfterRevoke
  | .opened =>
    ensureRunning
    if !(← getCoordinator).owns session then misuse .noOpenSession
    update (·.setStatus session .committed)
    let c ← getCoordinator
    match c.openUnit with
    | none => return ()
    | some unit =>
      if 0 < c.openCount unit then return ()
      else if unit.poisoned then
        revokeUnit
        misuse .nestedSessionAbandoned
      else finishUnit

def commitInnermost : Guarded Unit := do
  match (← getCoordinator).innermost? with
  | none => misuse .noOpenSession
  | some session => commitSession session

def abandonSession (session : Nat) (status : SessionStatus) : Guarded Unit := do
  let c ← getCoordinator
  if c.isOpen session then
    update (·.setStatus session status)
    match c.openUnit with
    | none => return ()
    | some unit =>
      if unit.sessions.contains session then
        update fun c => { c with openUnit := some { unit with poisoned := true } }
        if 0 < (← getCoordinator).openCount unit then note (.nestedSessionFailed status)
        else revokeUnit

/-! ### History, modes and limits -/

def revoke : Guarded Unit := do
  ensureRunning
  let c ← getCoordinator
  if !c.enabled then
    if c.openUnit.isSome then revokeUnit
    else
      update fun c => { c with passThroughRevokes := c.passThroughRevokes + 1 }
      note .revokedWhileDisabled
  else if (← c.guardedDepth) = 0 then refuse (.emptyChain "revoke")
  else if c.openUnit.any (·.seq = c.levels.getLast?) then revokeUnit
  else retreat "revoke" none

def merge : Guarded Unit := do
  ensureRunning
  let c ← getCoordinator
  if (← c.guardedDepth) = 0 then refuse (.emptyChain "merge")
  else
    let oldestLive ← item c.levels c.pending
    if c.openSeq? = some oldestLive then refuse (.uncommittedLayer "merge" oldestLive)
    else flushOldest (← plus c.pending 1)

def retreatMany (operation : String) (verify : Bool) : (count : Nat) → Guarded Unit
  | 0 => return ()
  | count + 1 => do
    retreat operation (some verify)
    retreatMany operation verify count

def popMany (count : Nat) (verify : Bool) : Guarded Unit := do
  ensureRunning
  let operation := if verify then "pop" else "fast pop"
  let c ← getCoordinator
  if c.openUnit.isSome then refuse (.sessionOpen operation)
  else if count = 0 then return ()
  else if (← c.guardedDepth) = 0 then refuse (.emptyChain operation)
  else if (← c.guardedDepth) < count then reject (.countExceedsDepth count (← c.guardedDepth))
  else match ← c.guardedNotPoppable? operation count verify with
    | some error => refuse error
    | none => retreatMany operation verify count

def disable : Guarded Unit := do
  ensureRunning
  let c ← getCoordinator
  if !c.enabled then return ()
  else if c.openUnit.isSome then refuse (.sessionOpen "disable")
  else if !c.levels.isEmpty then refuse (.chainNotDrained (← c.guardedDepth) c.pending)
  else
    update fun c => { c with enabled := false }.bump
    note .disabled

def setCursor (cursor : Cursor) (offset : Nat) : Guarded Unit := do
  ensureRunning
  let c ← getCoordinator
  match cursor with
  | .solidity =>
    if 0 < offset then reject (.offsetWithSolidity offset)
    else update fun c => { c with view := .solidity }
  | .head =>
    if (← c.guardedDepth) < offset then reject (.offsetExceedsDepth offset (← c.guardedDepth))
    else update fun c => { c with view := .head offset }

def setMaxSize (limit : Nat) : Guarded Unit := do
  ensureRunning
  if limit = 0 then reject .zeroMaxSize
  else
    update fun c => { c with maxSize := limit }
    let c ← getCoordinator
    if limit < (← c.guardedDepth) then solidify (← minus (← c.guardedDepth) limit)

def setMaxFlushCount (limit : Nat) : Guarded Unit := do
  ensureRunning
  if limit = 0 then reject .zeroMaxFlushCount
  else
    update fun c => { c with maxFlushCount := limit }
    let c ← getCoordinator
    if limit ≤ c.pending then flushOldest c.pending

/-! ### Tables, starting and stopping -/

def addTable (name root : String) : Guarded Nat := do
  ensureRunning
  let c ← getCoordinator
  if (c.tableIndex? name).isSome then reject (.duplicateTable name)
  else
    let chain := Chain.padded name root c.levels c.pending c.openSeq?
    update fun c => { c with tables := c.tables ++ [chain] }.bump
    let c ← getCoordinator
    note (.tableRegistered name (← c.guardedDepth) c.pending)
    minus c.tables.length 1

def writeEntry (table : Nat) (key : Bytes) (entry : Entry) : Guarded Unit := do
  ensureRunning
  let c ← getCoordinator
  match c.tables[table]? with
  | none => return ()
  | some chain =>
    if 0 < (← chain.guardedDepth) then update (·.modifyTable table (·.modifyHead (·.put key entry)))
    else
      if 0 < c.pending then flushOldest c.pending
      writeDirect chain key entry

def check : Guarded CheckReport := do
  let recovered ← recoverRunning
  let c ← getCoordinator
  match ← guardedCheckChains? c.tables c.levels c.pending with
  | some error => refuse error
  | none => return ⟨← c.guardedDepth, c.pending, c.tables.length, recovered, c.passThroughRevokes⟩

def flushAll : Guarded Unit := do
  let c ← getCoordinator
  if c.halted then
    note .shuttingDownHalted
    refuse .halted
  else flushOldest c.levels.length

def revokeLeft : Guarded Unit := do
  note .shuttingDownWithSession
  match ← attempt revokeUnit with
  | .ok () => return ()
  | .error error => note (.shutdownRevokeFailed error)

def flushLeft : Guarded Unit := do
  let flushed ← attempt flushAll
  update fun c => { c with shutDown := true, publishing := false }.bump
  note .shutDown
  (conclude flushed : Operation Unit)

def stop : Guarded Unit := do
  let c ← getCoordinator
  if c.shutDown then return ()
  else
    if c.openUnit.isSome then revokeLeft
    flushLeft

/-! ### Handles and commands -/

def dropSession (session : Session) : Guarded Unit := do
  if (← getCoordinator).isOpen session.id then
    note .sessionAbandoned
    if (← get).db.poisoned then note .abandonLocked
    else
      match ← attempt (locked (abandonSession session.id .abandoned)) with
      | .ok () => pure ()
      | .error error => note (.abandonFailed error)

/-- Runs the guarded operation that uses the handle up, and lets go of
the handle unless it slips. -/
def useUp (session : Session) (guarded : Guarded Unit) : Guarded Unit := ExceptT.mk fun w =>
  match guarded.run w with
  | .ok (.ok ()) w => (dropSession session).run w
  | .ok (.error slip) w => .ok (.error slip) w
  | .error fault w =>
    match (dropSession session).run w with
    | .ok (.ok ()) w => .error fault w
    | .ok (.error slip) w => .ok (.error slip) w
    | .error later w => .error later w

def shutdown : Guarded Unit := do
  if (← get).db.poisoned then refuse .lockPoisoned
  else
    let stopped ← attempt (locked stop)
    Database.stopBus
    (conclude stopped : Operation Unit)

def close : Guarded Unit := do
  match ← attempt shutdown with
  | .ok () => return ()
  | .error error => note (.dropFailed error)

/-- Carries a command out. -/
def carryOut : Command → Guarded Reply
  | .addTable name root => do
    return .table (← locked do return ⟨← addTable name root, name⟩)
  | .openSession force => return .session (← locked (openSession force))
  | .commitSession session => do
    useUp session (locked (commitSession session.id))
    return .done
  | .revokeSession session => do
    useUp session (locked (abandonSession session.id .revoked))
    return .done
  | .dropSession session => do dropSession session; return .done
  | .commit => do locked commitInnermost; return .done
  | .revoke => do locked revoke; return .done
  | .merge => do locked merge; return .done
  | .popMany count verify => do locked (popMany count verify); return .done
  | .enable => do Database.enable; return .done
  | .disable => do locked disable; return .done
  | .setCursor cursor offset => do locked (setCursor cursor offset); return .done
  | .setMaxSize limit => do locked (setMaxSize limit); return .done
  | .setMaxFlushCount limit => do locked (setMaxFlushCount limit); return .done
  | .check => return .report (← locked check)
  | .shutdown => do shutdown; return .done
  | .write table key entry => do locked (writeEntry table.index key entry); return .done

/-! ### Reading -/

def get? (table : Table) (key : Bytes) : Guarded (Option Bytes) := locked do
  let w ← get
  w.db.coordinator.guardedGet? w.disk table.index key

def depth (_ : Table) : Guarded Nat := locked do
  (← getCoordinator).guardedDepth

def next (iter : TableIter) (w : World) :
    Except Slip (Option (Except Error (Bytes × Bytes)) × TableIter) := do
  let ended := { iter with done := true }
  if iter.done then return (none, iter)
  else if w.db.poisoned then return (some (.error (.illegalState .lockPoisoned)), ended)
  else if w.db.coordinator.generation ≠ iter.generation then
    return (some (.error (.illegalState .iteratorInvalidated)), ended)
  else match ← w.db.coordinator.guardedNextVisible? w.disk iter.table.index iter.after with
    | some (key, value) => return (some (.ok (key, value)), { iter with after := some key })
    | none => return (none, ended)

end Guarded

end LayeredStore

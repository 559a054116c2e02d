import LayeredStore.Coordinator.Levels

/-!
# `LayeredStore.Coordinator.Sessions`: opening and resolving units of work

The first session opens a unit of work, and sessions opened while it is
open join it. The unit is resolved when its last session is: it is
committed if all of them were committed, and revoked otherwise.

* `openSession` opens a session.
* `commitSession` resolves one as successful and `abandonSession` as
  failed; `commitInnermost` commits the newest that is open.
* `finishUnit` commits the unit, and `revokeUnit` discards it.
-/

set_option autoImplicit false

namespace LayeredStore

/-- What opening a session hands out. -/
structure Session where
  /-- The session's place in the list of all sessions. -/
  id : Nat
  /-- Whether it writes straight into the roots. -/
  passThrough : Bool
  /-- Whether it joined a unit of work that was open. -/
  nested : Bool
  deriving DecidableEq, Repr

namespace Coordinator

/-- Adds a session that is open. -/
def addSession (c : Coordinator) : Coordinator := { c with statuses := c.statuses ++ [.opened] }

/-- Opens a unit of work of one new session. -/
def openNewUnit (c : Coordinator) (seq : Option Nat) : Coordinator :=
  { c.addSession with openUnit := some ⟨seq, [c.statuses.length], false⟩ }

/-- Adds a new session to a unit of work, which is the open one. -/
def joinUnit (c : Coordinator) (unit : UnitOfWork) : Coordinator :=
  { c.addSession with
    openUnit := some { unit with sessions := unit.sessions ++ [c.statuses.length] } }

/-- The newest session of the open unit that is not resolved yet. -/
def innermost? (c : Coordinator) : Option Nat := do
  let unit ← c.openUnit
  unit.sessions.reverse.find? c.isOpen

/-- Whether the open unit is this session's. -/
def owns (c : Coordinator) (session : Nat) : Bool :=
  match c.openUnit with
  | some unit => unit.sessions.contains session
  | none => false

/-- Resolves every session of a unit that is open. -/
def resolveOpen (c : Coordinator) (unit : UnitOfWork) (status : SessionStatus) : Coordinator :=
  unit.sessions.foldl (fun c session =>
    if c.isOpen session then c.setStatus session status else c) c

/-- Commits the newest live layer of every table. -/
def sealHeads (c : Coordinator) : Coordinator := c.mapTables (·.modifyHead (·.commit))

/-- The digest over the newest live layers of all tables. -/
def headsDigest (c : Coordinator) : Digest :=
  Sha256.digest ((c.tables.filterMap (·.head?)).flatMap (·.digest))

end Coordinator

namespace Operation

/-- After a forced session, the database is disabled again. -/
def leaveForced : Operation Unit := do
  if (← getCoordinator).disableOnExit then update (·.unforce.bump)

/-- Opens a session. It joins the unit of work that is open; else it
opens one, with a layer of its own if the database is enabled or the
session is forced. -/
def openSession (force : Bool) : Operation Session := do
  ensureRunning
  let c ← getCoordinator
  let id := c.statuses.length
  match c.openUnit with
  | some unit =>
    update (·.joinUnit unit)
    let c ← getCoordinator
    note (.nestedSessionOpened ((c.openUnit.map c.openCount).getD 0))
    return ⟨id, unit.seq.isNone, true⟩
  | none =>
    if !c.enabled && !force then
      update (·.openNewUnit none)
      return ⟨id, true, false⟩
    else
      let forced := !c.enabled
      if forced then update fun c => { c with enabled := true, disableOnExit := true }
      match ← attempt advance with
      | .ok seq =>
        update (·.openNewUnit (some seq))
        return ⟨id, false, false⟩
      | .error error =>
        -- No unit of work was opened that the database could stay enabled for.
        if forced then update (·.unforce)
        fail error

/-- Discards the open unit of work. All its sessions that are open are
revoked. -/
def revokeUnit : Operation Unit := do
  match (← getCoordinator).openUnit with
  | none => return ()
  | some unit =>
    update fun c => { c with openUnit := none }.resolveOpen unit .revoked
    match unit.seq with
    | none =>
      update fun c => { c with passThroughRevokes := c.passThroughRevokes + 1 }
      note .passThroughRevoked
    | some _ => retreat "revoke" none
    leaveForced

/-- Commits the layer of a unit of work on every table. -/
def sealUnit (seq : Nat) : Operation Unit := do
  update (·.sealHeads)
  let c ← getCoordinator
  note (.unitCommitted seq c.depth)
  publish (.commitSession seq c.headsDigest)

/-- The layer of a forced unit of work goes straight into the roots. -/
def settleForced : Operation Unit := do
  let c ← getCoordinator
  if c.disableOnExit then
    flushOldest c.levels.length
    leaveForced

/-- Commits the open unit of work. -/
def finishUnit : Operation Unit := do
  match (← getCoordinator).openUnit with
  | none => return ()
  | some unit =>
    update fun c => { c with openUnit := none }
    if let some seq := unit.seq then sealUnit seq
    settleForced

/-- Resolves a session as successful. -/
def commitSession (session : Nat) : Operation Unit := do
  match (← getCoordinator).status session with
  | .committed => misuse .alreadyCommitted
  | .revoked | .abandoned => misuse .commitAfterRevoke
  | .opened =>
    ensureRunning
    if !(← getCoordinator).owns session then misuse .noOpenSession
    update (·.setStatus session .committed)
    let c ← getCoordinator
    match c.openUnit with
    | none => return ()
    | some unit =>
      if 0 < c.openCount unit then return ()
      -- A session of the unit has failed before, so none of it is kept.
      else if unit.poisoned then
        revokeUnit
        misuse .nestedSessionAbandoned
      else finishUnit

/-- Commits the newest session that is open. -/
def commitInnermost : Operation Unit := do
  match (← getCoordinator).innermost? with
  | none => misuse .noOpenSession
  | some session => commitSession session

/-- Resolves a session as failed. Its unit is discarded once none of
its sessions is open. -/
def abandonSession (session : Nat) (status : SessionStatus) : Operation Unit := do
  let c ← getCoordinator
  if c.isOpen session then
    update (·.setStatus session status)
    match c.openUnit with
    | none => return ()
    | some unit =>
      if unit.sessions.contains session then
        update fun c => { c with openUnit := some { unit with poisoned := true } }
        if 0 < (← getCoordinator).openCount unit then note (.nestedSessionFailed status)
        else revokeUnit

end Operation

end LayeredStore

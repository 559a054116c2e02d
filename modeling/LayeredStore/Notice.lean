import LayeredStore.Error

/-!
# `LayeredStore.Notice`: what the database tells its operator

Notices go to the operator's log, each at a severity. They are values
of a type of their own; `Notice.severity` and `Notice.text` say how
each is written.
-/

set_option autoImplicit false

namespace LayeredStore

/-- How a session stands. -/
inductive SessionStatus where
  /-- Not resolved yet. -/
  | opened
  /-- Resolved as successful. -/
  | committed
  /-- Resolved as failed, or its unit of work was revoked. -/
  | revoked
  /-- Let go without being resolved. -/
  | abandoned
  deriving DecidableEq, Repr

/-- The name of a status. -/
def SessionStatus.name : SessionStatus → String
  | .opened => "Open"
  | .committed => "Committed"
  | .revoked => "Revoked"
  | .abandoned => "Abandoned"

/-- How much a notice matters. -/
inductive Severity where
  | debug
  | info
  | warn
  | error
  deriving DecidableEq, Repr

/-- The name of a severity. -/
def Severity.name : Severity → String
  | .debug => "DEBUG"
  | .info => "INFO"
  | .warn => "WARN"
  | .error => "ERROR"

/-- What the operator is told. -/
inductive Notice where
  /-- A table was registered. -/
  | tableRegistered (name : String) (depth pending : Nat)
  /-- A session joined the open unit of work. -/
  | nestedSessionOpened (openSessions : Nat)
  /-- A session of the unit was not committed while others are open. -/
  | nestedSessionFailed (status : SessionStatus)
  /-- A session was let go without being resolved. -/
  | sessionAbandoned
  /-- An abandoned session could not be revoked. -/
  | abandonFailed (error : Error)
  /-- An abandoned session could not be revoked, for the lock is
  poisoned. -/
  | abandonLocked
  /-- A layer was pushed on every table. -/
  | layerPushed (seq depth : Nat)
  /-- A unit of work was committed. -/
  | unitCommitted (seq depth : Nat)
  /-- A unit of work without a layer was revoked. -/
  | passThroughRevoked
  /-- A revoke found nothing to roll back, for the database is
  disabled. -/
  | revokedWhileDisabled
  /-- The newest layer was discarded by this operation. -/
  | layerDiscarded (operation : String) (seq depth : Nat)
  /-- This many layers are pending now. -/
  | layersPending (pending : Nat)
  /-- The oldest layers were moved into the roots. -/
  | flushed (layers keys depth : Nat)
  /-- A flush failed, and the database halts. -/
  | flushFailed (table : String) (source : IoError)
  /-- The journal holds the record of an interrupted flush. -/
  | journalFound (keys : Nat)
  /-- Sessions can be rolled back from here on. -/
  | enabled
  /-- Sessions write straight into the roots from here on. -/
  | disabled
  /-- The database is shut down while a unit of work is open. -/
  | shuttingDownWithSession
  /-- The open unit of work could not be revoked at shutdown. -/
  | shutdownRevokeFailed (error : Error)
  /-- The database is shut down after it halted. -/
  | shuttingDownHalted
  /-- The database was shut down. -/
  | shutDown
  /-- A handler on the event bus had panicked. -/
  | busPanicked
  /-- The database could not be shut down when it was let go. -/
  | dropFailed (error : Error)
  deriving DecidableEq, Repr

namespace Notice

/-- How much a notice matters. -/
def severity : Notice → Severity
  | tableRegistered .. | nestedSessionOpened .. | sessionAbandoned | layerPushed ..
  | unitCommitted .. | layerDiscarded .. | layersPending .. | flushed .. => .debug
  | enabled | disabled | shutDown => .info
  | nestedSessionFailed .. | passThroughRevoked | revokedWhileDisabled | journalFound ..
  | shuttingDownWithSession | shuttingDownHalted => .warn
  | abandonFailed .. | abandonLocked | flushFailed .. | shutdownRevokeFailed .. | busPanicked
  | dropFailed .. => .error

/-- What a notice says. -/
def text : Notice → String
  | tableRegistered name depth pending =>
    s!"registered table {name} at depth {depth} (pending {pending})"
  | nestedSessionOpened openSessions => s!"nested session opened, {openSessions} sessions open"
  | nestedSessionFailed status =>
    s!"nested session resolved as {status.name}, unit of work will be revoked"
  | sessionAbandoned => "session abandoned without commit, revoking"
  | abandonFailed error => s!"failed to revoke abandoned session: {error.message}"
  | abandonLocked => "failed to revoke abandoned session: chain lock poisoned"
  | layerPushed seq depth => s!"pushed layer {seq} at depth {depth}"
  | unitCommitted seq depth => s!"committed unit of work {seq} at depth {depth}"
  | passThroughRevoked => "revoked a pass-through session, nothing was rolled back"
  | revokedWhileDisabled => "revoke while disabled, nothing was rolled back"
  | layerDiscarded operation seq depth => s!"{operation} layer {seq}, depth now {depth}"
  | layersPending pending => s!"{pending} layers now merge-eligible"
  | flushed layers keys depth =>
    s!"flushed {layers} layers ({keys} keys) into root, depth now {depth}"
  | flushFailed table source => s!"flush into {table} failed, halting: {source.message}"
  | journalFound keys => s!"found checkpoint of an interrupted flush, replaying {keys} keys"
  | enabled => "revoking database enabled"
  | disabled => "revoking database disabled"
  | shuttingDownWithSession => "shutting down with an open session, revoking it"
  | shutdownRevokeFailed error =>
    s!"failed to revoke the open session during shutdown: {error.message}"
  | shuttingDownHalted =>
    "shutting down a halted database, unflushed layers are left to the checkpoint"
  | shutDown => "revoking database shut down"
  | busPanicked => "event bus thread panicked"
  | dropFailed error => s!"failed to shut down revoking database on drop: {error.message}"

/-- The line of a notice in the operator's log. -/
def line (notice : Notice) : String := s!"{notice.severity.name} {notice.text}"

end Notice

end LayeredStore

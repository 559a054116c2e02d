import LayeredStore.Store

/-!
# `LayeredStore.Error`: what can go wrong

Errors are of four kinds, and the kind tells the caller how to react.

* `StateError`: the chains are not in a state that allows the
  operation. Halt; never retry.
* An I/O failure: a root or the journal could not be written. Stop.
* `SessionError`: a unit of work was resolved wrongly. This is a bug in
  the caller.
* `ArgumentError`: the input is rejected. Correct it and try again.

`Error.message` says an error in words.
-/

set_option autoImplicit false

namespace LayeredStore

/-- The chains are not in a state that allows the operation. -/
inductive StateError where
  /-- The operation needs a live layer and there is none. -/
  | emptyChain (operation : String)
  /-- A table's chain is not at the depth that all tables share. -/
  | depthMismatch (table : String) (expected found : Nat)
  /-- A table's layers are out of step with the coordinator's levels. -/
  | malformedChain (table : String) (level : Nat) (reason : String)
  /-- The operation would move or discard a layer whose unit of work is
  not committed. -/
  | uncommittedLayer (operation : String) (seq : Nat)
  /-- A layer's entries are not those that were sealed. -/
  | sealMismatch (table : String) (seq : Nat)
  /-- The operation cannot run while a unit of work is open. -/
  | sessionOpen (operation : String)
  /-- Only an empty chain can be disabled. -/
  | chainNotDrained (depth pending : Nat)
  /-- The chains changed while a table was being iterated. -/
  | iteratorInvalidated
  /-- The journal names a table that is not registered. -/
  | unknownJournalTable (table : String)
  /-- The program stopped in the middle of an earlier operation. -/
  | lockPoisoned
  /-- The database was shut down. -/
  | shutDown
  /-- An earlier flush failed halfway. -/
  | halted
  deriving DecidableEq, Repr

/-- A unit of work was resolved wrongly. -/
inductive SessionError where
  /-- There is no session to resolve. -/
  | noOpenSession
  /-- The session was committed before. -/
  | alreadyCommitted
  /-- The session was revoked before. -/
  | commitAfterRevoke
  /-- A session of the same unit was not committed, so the unit was
  revoked. -/
  | nestedSessionAbandoned
  deriving DecidableEq, Repr

/-- An argument is rejected. -/
inductive ArgumentError where
  /-- The cursor would hide more layers than are live. -/
  | offsetExceedsDepth (offset depth : Nat)
  /-- The solidity cursor hides no layers. -/
  | offsetWithSolidity (offset : Nat)
  /-- More layers would be popped than are live. -/
  | countExceedsDepth (count depth : Nat)
  /-- There is a table of that name. -/
  | duplicateTable (name : String)
  /-- No live layer would be allowed. -/
  | zeroMaxSize
  /-- No pending layer would ever be enough for a flush. -/
  | zeroMaxFlushCount
  deriving DecidableEq, Repr

/-- What an operation can fail with. -/
inductive Error where
  /-- The chains do not allow the operation. -/
  | illegalState (error : StateError)
  /-- The root of a table, or the journal, could not be written. -/
  | ioFailure (table : String) (source : IoError)
  /-- A unit of work was resolved wrongly. -/
  | sessionMisuse (error : SessionError)
  /-- An argument is rejected. -/
  | invalidArgument (error : ArgumentError)
  deriving DecidableEq, Repr

/-- The four kinds of errors. -/
inductive ErrorKind where
  | illegalState
  | ioFailure
  | sessionMisuse
  | invalidArgument
  deriving DecidableEq, Repr

/-- The error in words. -/
def StateError.message : StateError → String
  | .emptyChain operation => s!"cannot {operation} at depth 0"
  | .depthMismatch table expected found =>
    s!"table {table} is at depth {found}, expected {expected}"
  | .malformedChain table level reason =>
    s!"table {table} is malformed at level {level}: {reason}"
  | .uncommittedLayer operation seq => s!"cannot {operation} uncommitted layer {seq}"
  | .sealMismatch table seq => s!"layer {seq} of table {table} does not match its seal"
  | .sessionOpen operation => s!"cannot {operation} while a session is open"
  | .chainNotDrained depth pending =>
    s!"cannot disable with {depth} live and {pending} pending layers"
  | .iteratorInvalidated => "chain changed structurally during iteration"
  | .unknownJournalTable table => s!"checkpoint names unregistered table {table}"
  | .lockPoisoned => "chain lock poisoned"
  | .shutDown => "revoking database is shut down"
  | .halted => "revoking database halted after a failed flush"

/-- The error in words. -/
def SessionError.message : SessionError → String
  | .noOpenSession => "no unresolved session"
  | .alreadyCommitted => "session already committed"
  | .commitAfterRevoke => "session already revoked"
  | .nestedSessionAbandoned => "a nested session was abandoned, unit of work revoked"

/-- The error in words. -/
def ArgumentError.message : ArgumentError → String
  | .offsetExceedsDepth offset depth => s!"cursor offset {offset} exceeds depth {depth}"
  | .offsetWithSolidity offset => s!"solidity cursor takes no offset (got {offset})"
  | .countExceedsDepth count depth => s!"cannot pop {count} layers at depth {depth}"
  | .duplicateTable name => s!"table {name} is already registered"
  | .zeroMaxSize => "max size must be at least 1"
  | .zeroMaxFlushCount => "max flush count must be at least 1"

namespace Error

/-- The kind of an error. -/
def kind : Error → ErrorKind
  | illegalState _ => .illegalState
  | ioFailure _ _ => .ioFailure
  | sessionMisuse _ => .sessionMisuse
  | invalidArgument _ => .invalidArgument

/-- Whether the caller has to stop. -/
def fatal (error : Error) : Bool :=
  match error.kind with
  | .illegalState | .ioFailure => true
  | .sessionMisuse | .invalidArgument => false

/-- The I/O error behind an error. -/
def source? : Error → Option IoError
  | ioFailure _ source => some source
  | _ => none

/-- The error in words. -/
def message : Error → String
  | illegalState error => s!"illegal state: {error.message}"
  | ioFailure table source => s!"i/o failure on {table}: {source.message}"
  | sessionMisuse error => s!"session misuse: {error.message}"
  | invalidArgument error => s!"invalid argument: {error.message}"

end Error

end LayeredStore

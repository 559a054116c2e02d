import LayeredStore.Chain
import LayeredStore.Event
import LayeredStore.Notice

/-!
# `LayeredStore.Coordinator`: the state that moves all tables in step

The coordinator owns the chains of all tables. It keeps one list of
levels, the sequence numbers of the layers that every table holds, and
changes the chains only all together, so that no two tables are ever at
different points of history.

* `Configuration` is what a database is opened with.
* `UnitOfWork` is what the sessions open at one time share: a layer, or
  none for a pass-through unit, and the list of its sessions.
* `Coordinator` is the whole state; the functions below it read it, or
  change the chains of all tables in the same way.
-/

set_option autoImplicit false

namespace LayeredStore

/-- Where reads are served from. -/
inductive Cursor where
  /-- The newest layers. -/
  | head
  /-- The pending layers and the roots. -/
  | solidity
  deriving DecidableEq, Repr

/-- What a database is opened with. -/
structure Configuration where
  /-- How many layers may be live. -/
  maxSize : Nat := 256
  /-- How many pending layers force a flush. -/
  maxFlushCount : Nat := 500
  /-- Whether sessions can be rolled back from the start. -/
  enabled : Bool := true
  /-- Whether events are written to the event log. -/
  logEvents : Bool := false
  deriving DecidableEq, Repr

/-- What the sessions open at one time share. -/
structure UnitOfWork where
  /-- The sequence number of the unit's layer; `none` if it writes
  straight into the roots. -/
  seq : Option Nat
  /-- The sessions of the unit, in the order they were opened. -/
  sessions : List Nat
  /-- Whether one of them was resolved otherwise than by a commit. -/
  poisoned : Bool
  deriving DecidableEq, Repr

/-- The state that moves all tables in step. -/
structure Coordinator where
  /-- The chains of the tables, in the order of registration. -/
  tables : List Chain
  /-- The name of the store that journals flushes. -/
  journal : String
  /-- The sequence numbers of the layers of every table, oldest
  first. -/
  levels : List Nat
  /-- How many of the oldest levels are pending. -/
  pending : Nat
  /-- The sequence number of the next push. -/
  nextSeq : Nat
  /-- Whether sessions can be rolled back. -/
  enabled : Bool
  /-- Whether the database is enabled only until the open unit of work
  is resolved. -/
  disableOnExit : Bool
  /-- Where reads are served from. -/
  view : View
  /-- How many layers may be live. -/
  maxSize : Nat
  /-- How many pending layers force a flush. -/
  maxFlushCount : Nat
  /-- The open unit of work. -/
  openUnit : Option UnitOfWork
  /-- How every session ever opened stands, in the order they were
  opened. -/
  statuses : List SessionStatus
  /-- Grows with every change to the shape of the chains. -/
  generation : Nat
  /-- How many revokes found nothing to roll back. -/
  passThroughRevokes : Nat
  /-- Whether the database was shut down. -/
  shutDown : Bool
  /-- Whether a flush failed halfway. -/
  halted : Bool
  /-- Whether events are published. -/
  publishing : Bool
  /-- The events published so far, oldest first. -/
  published : List Event
  deriving DecidableEq

namespace Coordinator

/-- A coordinator without tables. A limit of zero counts as one. -/
def new (configuration : Configuration) (journal : String) (publishing : Bool) : Coordinator where
  tables := []
  journal := journal
  levels := []
  pending := 0
  nextSeq := 1
  enabled := configuration.enabled
  disableOnExit := false
  view := .head 0
  maxSize := max configuration.maxSize 1
  maxFlushCount := max configuration.maxFlushCount 1
  openUnit := none
  statuses := []
  generation := 0
  passThroughRevokes := 0
  shutDown := false
  halted := false
  publishing := publishing
  published := []

/-! ### Questions -/

/-- How many levels are live. -/
def depth (c : Coordinator) : Nat := c.levels.length - c.pending

/-- Where reads are served from. -/
def cursor (c : Coordinator) : Cursor :=
  match c.view with
  | .head _ => .head
  | .solidity => .solidity

/-- How many of the newest live layers reads leave out. -/
def cursorOffset (c : Coordinator) : Nat :=
  match c.view with
  | .head hidden => hidden
  | .solidity => 0

/-- The place of the table of that name. -/
def tableIndex? (c : Coordinator) (name : String) : Option Nat :=
  c.tables.findIdx? (·.name = name)

/-- The names of the tables, in the order of registration. -/
def tableNames (c : Coordinator) : List String := c.tables.map (·.name)

/-- Why structural operations are refused, if they are. -/
def stopped? (c : Coordinator) : Option StateError :=
  if c.halted then some .halted else if c.shutDown then some .shutDown else none

/-- The sequence number of the open unit's layer. -/
def openSeq? (c : Coordinator) : Option Nat := c.openUnit.bind (·.seq)

/-- How a session stands. -/
def status (c : Coordinator) (session : Nat) : SessionStatus :=
  c.statuses.getD session .abandoned

/-- Whether a session is not resolved yet. -/
def isOpen (c : Coordinator) (session : Nat) : Bool := c.status session = .opened

/-- How many sessions of a unit are not resolved yet. -/
def openCount (c : Coordinator) (unit : UnitOfWork) : Nat := (unit.sessions.filter c.isOpen).length

/-- The value that a table has at a key under the cursor. -/
def get? (c : Coordinator) (disk : Disk) (table : Nat) (key : Bytes) : Option Bytes := do
  let chain ← c.tables[table]?
  chain.get? (disk.contents chain.root) c.view key

/-- A table's first pair above the starting point under the cursor. -/
def nextVisible? (c : Coordinator) (disk : Disk) (table : Nat) (after : Option Bytes) :
    Option (Bytes × Bytes) := do
  let chain ← c.tables[table]?
  chain.nextVisible? (disk.contents chain.root) c.view after

/-! ### Changes -/

/-- Counts a change to the shape of the chains. -/
def bump (c : Coordinator) : Coordinator := { c with generation := c.generation + 1 }

/-- Resolves a session. -/
def setStatus (c : Coordinator) (session : Nat) (status : SessionStatus) : Coordinator :=
  { c with statuses := c.statuses.set session status }

/-- The cursor cannot leave out more layers than are live. -/
def clampCursor (c : Coordinator) : Coordinator :=
  match c.view with
  | .head hidden => { c with view := .head (min hidden c.depth) }
  | .solidity => c

/-- Changes one table. -/
def modifyTable (c : Coordinator) (table : Nat) (f : Chain → Chain) : Coordinator :=
  { c with tables := c.tables.modify table f }

/-- Changes every table in the same way. -/
def mapTables (c : Coordinator) (f : Chain → Chain) : Coordinator :=
  { c with tables := c.tables.map f }

/-- Discards the newest live layer of every table. -/
def discardHead (c : Coordinator) : Coordinator :=
  { c.mapTables (·.discardHead) with levels := c.levels.dropLast }

/-- Makes the `count` oldest live layers of every table pending. -/
def solidify (c : Coordinator) (count : Nat) : Coordinator :=
  { c.mapTables (·.solidify count) with pending := min (c.pending + count) c.levels.length }

/-- Takes the `count` oldest layers of every table away. -/
def dropOldest (c : Coordinator) (count : Nat) : Coordinator :=
  { c.mapTables (·.dropOldest count) with
    levels := c.levels.drop count
    pending := c.pending - count }

/-- Takes back what forcing a session on a disabled database changed. -/
def unforce (c : Coordinator) : Coordinator := { c with enabled := false, disableOnExit := false }

end Coordinator

end LayeredStore

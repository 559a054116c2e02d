import LayeredStore.Command

/-!
# `LayeredStore.Host`: databases opened one after the other

A host has one disk and opens databases over it, at most one at a time.
A database that was closed is kept, because handles on it may still be
in use.

* `Host.within` runs an operation on one of the databases.
* `Host.openDatabase` and `Host.closeDatabase` open and close one.
-/

set_option autoImplicit false

namespace LayeredStore

/-- A disk, and the databases opened over it so far. -/
structure Host where
  /-- The stores. -/
  disk : Disk
  /-- Every database opened so far, oldest first. -/
  databases : List Database
  /-- The place of the one that is open. -/
  current : Option Nat
  /-- What the operator was told so far, oldest first. -/
  notices : List Notice
  deriving DecidableEq

namespace Host

/-- A host that has not opened a database. -/
def empty : Host := ⟨.empty, [], none, []⟩

/-- The world that an operation on one of the databases acts on. -/
def world (host : Host) (index : Nat) : World where
  disk := host.disk
  db := host.databases.getD index (Database.new {} "" [])
  notices := host.notices

/-- The host after an operation on one of the databases. -/
def putWorld (host : Host) (index : Nat) (w : World) : Host :=
  { host with
    disk := w.disk
    databases := host.databases.set index w.db
    notices := w.notices }

/-- Runs an operation on one of the databases. -/
def within {α : Type} (host : Host) (index : Nat) (body : Operation α) :
    Except Fault α × Host :=
  let (outcome, w) := body.perform (host.world index)
  (outcome, host.putWorld index w)

/-- Opens a database over a journal. The one that is open has to be
closed before. -/
def openDatabase (host : Host) (configuration : Configuration) (journal : String)
    (handlers : List Handler) : Host :=
  { host with
    disk := host.disk.mention journal
    databases := host.databases ++ [Database.new configuration journal handlers]
    current := some host.databases.length }

/-- Closes the database that is open, by this operation. It is gone
also if a store stops the program. -/
def closeDatabase (host : Host) (closing : Operation Unit) : Except Fault Unit × Host :=
  match host.current with
  | none => (.ok (), host)
  | some index =>
    let (outcome, host) := host.within index closing
    (outcome, { host with current := none })

/-- Every call of a handler so far, in order. -/
def calls (host : Host) : List (Nat × Event) := host.databases.flatMap (·.heard.calls)

/-- Every event written to the event log so far, in order. -/
def loggedEvents (host : Host) : List Event := host.databases.flatMap (·.heard.logged)

end Host

end LayeredStore

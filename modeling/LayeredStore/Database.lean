import LayeredStore.Coordinator.History
import LayeredStore.Coordinator.Modes
import LayeredStore.Coordinator.Tables
import LayeredStore.Coordinator.Lifecycle

/-!
# `LayeredStore.Database`: the database as its users see it

Every operation takes the lock. Users hold handles: a `Session` for a
unit of work, a `Table` for reading and writing, a `TableIter` for
walking over a table. A session's handle is used up by committing,
revoking or dropping it, and one that is let go while its session is
still open revokes it.

* `Database.*` are the operations of the database itself.
* `Session.*`, `Table.*`, `TableIter.*` are those of the handles.
-/

set_option autoImplicit false

namespace LayeredStore

open Operation

/-- Whether sessions can be rolled back, and whether there is anything
to roll back. -/
inductive DatabaseMode where
  | disabled
  | enabledEmpty
  | enabledChained
  deriving DecidableEq, Repr

/-- The mode of a database. -/
def Coordinator.mode (c : Coordinator) : DatabaseMode :=
  if !c.enabled then .disabled
  else if c.depth = 0 && c.openUnit.isNone then .enabledEmpty
  else .enabledChained

/-- A handle on a registered table. -/
structure Table where
  /-- The table's place among the tables. -/
  index : Nat
  /-- The table's name. -/
  name : String
  deriving DecidableEq, Repr

/-- A walk over a table. -/
structure TableIter where
  /-- The table. -/
  table : Table
  /-- The generation of the chains when the walk began. -/
  generation : Nat
  /-- The key of the last pair. -/
  after : Option Bytes
  /-- Whether the walk has ended. -/
  done : Bool
  deriving DecidableEq, Repr

/-! ### Sessions -/

namespace Session

/-- How the session stands; this takes no lock. -/
def status (session : Session) (db : Database) : SessionStatus :=
  db.coordinator.status session.id

/-- Lets go of the handle. A session that is still open is
revoked. -/
def drop (session : Session) : Operation Unit := do
  if (← getCoordinator).isOpen session.id then
    note .sessionAbandoned
    if (← get).db.poisoned then note .abandonLocked
    else
      match ← attempt (locked (abandonSession session.id .abandoned)) with
      | .ok () => pure ()
      | .error error => note (.abandonFailed error)

/-- Runs the operation that uses the handle up, and lets go of the
handle however it ends. -/
def useUp (session : Session) (body : Operation Unit) : Operation Unit := fun w =>
  match body w with
  | .ok () w => session.drop w
  | .error fault w =>
    match session.drop w with
    | .ok () w => .error fault w
    | .error later w => .error later w

/-- Resolves the session as successful. -/
def commit (session : Session) : Operation Unit := session.useUp (locked (commitSession session.id))

/-- Resolves the session as failed. -/
def revoke (session : Session) : Operation Unit :=
  session.useUp (locked (abandonSession session.id .revoked))

end Session

/-! ### The database -/

namespace Database

/-- Registers a table over a store. -/
def addTable (name root : String) : Operation Table := locked do
  return ⟨← Operation.addTable name root, name⟩

/-- The handle on the table of that name, if there is one. -/
def table? (name : String) : Operation (Option Table) := locked do
  return ((← getCoordinator).tableIndex? name).map (⟨·, name⟩)

/-- The names of the tables, in the order of registration. -/
def tableNames : Operation (List String) := locked do
  return (← getCoordinator).tableNames

/-- Opens a session. -/
def openSession (force : Bool) : Operation Session := locked (Operation.openSession force)

/-- Commits the newest session that is open. -/
def commit : Operation Unit := locked commitInnermost

/-- Discards the newest level. -/
def revoke : Operation Unit := locked Operation.revoke

/-- Moves every pending layer and the oldest live one into the
roots. -/
def merge : Operation Unit := locked Operation.merge

/-- Discards the `count` newest levels, with their seals verified or
not. -/
def popMany (count : Nat) (verify : Bool) : Operation Unit :=
  locked (Operation.popMany count verify)

/-- Sessions opened from here on can be rolled back. -/
def enable : Operation Unit := locked Operation.enable

/-- Sessions opened from here on write straight into the roots. -/
def disable : Operation Unit := locked Operation.disable

/-- Chooses where reads are served from. -/
def setCursor (cursor : Cursor) (offset : Nat) : Operation Unit :=
  locked (Operation.setCursor cursor offset)

/-- Allows this many live layers. -/
def setMaxSize (limit : Nat) : Operation Unit := locked (Operation.setMaxSize limit)

/-- Flushes from now on when this many layers are pending. -/
def setMaxFlushCount (limit : Nat) : Operation Unit := locked (Operation.setMaxFlushCount limit)

/-- Completes an interrupted flush and checks the chains. -/
def check : Operation CheckReport := locked Operation.check

/-- Stops the bus, after everything published has arrived. -/
def stopBus : Operation Unit := do
  let w ← get
  if !w.db.busStopped then
    set { w with db := { w.db with busStopped := true } }
    if w.db.heard.panicked then note .busPanicked

/-- Stops the database and its bus. -/
def shutdown : Operation Unit := do
  if (← get).db.poisoned then refuse .lockPoisoned
  else
    let stopped ← attempt (locked stop)
    stopBus
    conclude stopped

/-- Lets go of the database, which shuts it down. -/
def drop : Operation Unit := do
  match ← attempt shutdown with
  | .ok () => return ()
  | .error error => note (.dropFailed error)

end Database

/-! ### Tables -/

namespace Table

/-- The value at a key under the cursor. -/
def get? (table : Table) (key : Bytes) : Operation (Option Bytes) := locked do
  let w ← get
  return w.db.coordinator.get? w.disk table.index key

/-- Whether there is a value at a key under the cursor. -/
def has (table : Table) (key : Bytes) : Operation Bool := do
  return (← table.get? key).isSome

/-- Writes an entry. -/
def write (table : Table) (key : Bytes) (entry : Entry) : Operation Unit :=
  locked (writeEntry table.index key entry)

/-- Sets a key to a value. -/
def put (table : Table) (key value : Bytes) : Operation Unit := table.write key (.value value)

/-- Removes a key. -/
def delete (table : Table) (key : Bytes) : Operation Unit := table.write key .tombstone

/-- How many layers are live above the table's root. -/
def depth (_ : Table) : Operation Nat := locked do
  return (← getCoordinator).depth

/-- Begins a walk over the table. -/
def iterate (table : Table) : Operation TableIter := locked do
  return ⟨table, (← getCoordinator).generation, none, false⟩

end Table

namespace TableIter

/-- The next step of a walk: a pair, an error that ends the walk, or
`none` at the end; and the walk after it. -/
def next (iter : TableIter) (w : World) : Option (Except Error (Bytes × Bytes)) × TableIter :=
  let ended := { iter with done := true }
  if iter.done then (none, iter)
  else if w.db.poisoned then (some (.error (.illegalState .lockPoisoned)), ended)
  else if w.db.coordinator.generation ≠ iter.generation then
    (some (.error (.illegalState .iteratorInvalidated)), ended)
  else match w.db.coordinator.nextVisible? w.disk iter.table.index iter.after with
    | some (key, value) => (some (.ok (key, value)), { iter with after := some key })
    | none => (none, ended)

/-- The next steps of a walk up to its end, at most `fuel` of them. -/
def collect (w : World) : (fuel : Nat) → TableIter → List (Except Error (Bytes × Bytes))
  | 0, _ => []
  | fuel + 1, iter =>
    match iter.next w with
    | (none, _) => []
    | (some item, iter) => item :: collect w fuel iter

end TableIter

/-- Walks over the whole table. -/
def Table.scan (table : Table) : Operation (List (Except Error (Bytes × Bytes))) := do
  let iter ← table.iterate
  let w ← get
  let keys : Nat := match w.db.coordinator.tables[table.index]? with
    | some chain => Chain.keyCount (w.disk.contents chain.root) chain.layers
    | none => 0
  return iter.collect w (keys + 1)

end LayeredStore

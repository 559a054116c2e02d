import LayeredStore.Coordinator
import LayeredStore.Journal

/-!
# `LayeredStore.World`: what operations act on

An operation acts on a database, on the disk below it and on the
operator's log. It can fail halfway, and then what it did before stays
done, so the state is kept beside the error.

* `Database` is a coordinator behind a lock, and who hears of its
  events.
* `World` is a database, the disk and the operator's log.
* `Operation` is an operation on a world, and `Operation.perform`
  carries it out.
* `locked` runs an operation under the lock: a panic inside poisons the
  lock, and a poisoned lock lets no one in.
-/

set_option autoImplicit false

namespace LayeredStore

/-- A coordinator behind a lock, and who hears of its events. -/
structure Database where
  /-- The state that moves all tables in step. -/
  coordinator : Coordinator
  /-- Whether the program stopped in the middle of an operation. -/
  poisoned : Bool
  /-- Who waits for the coordinator's events. -/
  listeners : Listeners
  /-- Whether the event bus was stopped. -/
  busStopped : Bool
  deriving DecidableEq

namespace Database

/-- A database without tables. -/
def new (configuration : Configuration) (journal : String) (handlers : List Handler) :
    Database :=
  let listeners : Listeners := ⟨handlers, configuration.logEvents⟩
  { coordinator := Coordinator.new configuration journal listeners.any
    poisoned := false
    listeners := listeners
    busStopped := false }

/-- What the listeners have been told once everything published so far
has arrived. -/
def heard (db : Database) : Heard := db.listeners.hear db.coordinator.published

end Database

/-- What an operation acts on. -/
structure World where
  /-- The stores. -/
  disk : Disk
  /-- The database. -/
  db : Database
  /-- What the operator was told so far, oldest first. -/
  notices : List Notice
  deriving DecidableEq

/-- How an operation can end without a result. -/
inductive Fault where
  /-- It reports an error. -/
  | error (error : Error)
  /-- A store stopped the program. -/
  | panic
  deriving DecidableEq, Repr

/-- An operation: it changes the world, and has a result or a fault.
What it changed before a fault stays changed. -/
abbrev Operation (α : Type) := EStateM Fault World α

namespace Operation

/-- How an operation ends on a world: its result or its fault, and the
world after it. -/
def perform {α : Type} (body : Operation α) (w : World) : Except Fault α × World :=
  match body w with
  | .ok result w => (.ok result, w)
  | .error fault w => (.error fault, w)

/-- The coordinator's state. -/
def getCoordinator : Operation Coordinator := do
  return (← get).db.coordinator

/-- Changes the coordinator's state. -/
def update (f : Coordinator → Coordinator) : Operation Unit :=
  modify fun w => { w with db := { w.db with coordinator := f w.db.coordinator } }

/-- Tells the operator. -/
def note (notice : Notice) : Operation Unit :=
  modify fun w => { w with notices := w.notices ++ [notice] }

/-- Publishes an event, as long as events are published. -/
def publish (event : Event) : Operation Unit :=
  update fun c => if c.publishing then { c with published := c.published ++ [event] } else c

/-- Fails with an error. -/
def fail {α : Type} (error : Error) : Operation α := throw (.error error)

/-- Fails because the chains do not allow the operation. -/
def refuse {α : Type} (error : StateError) : Operation α := fail (.illegalState error)

/-- Fails because an argument is rejected. -/
def reject {α : Type} (error : ArgumentError) : Operation α := fail (.invalidArgument error)

/-- Fails because a session was misused. -/
def misuse {α : Type} (error : SessionError) : Operation α := fail (.sessionMisuse error)

/-- Writes a batch to a store; the answer is the store's error, if it
reports one. -/
def write (store : String) (batch : Batch) : Operation (Option IoError) := do
  let w ← get
  let (outcome, disk) := w.disk.write store batch
  set { w with disk := disk }
  match outcome with
  | .ok () => return none
  | .error (.error error) => return some error
  | .error .crash => throw .panic

/-- Writes a batch to a chain's root; an empty batch is not written. -/
def writeRoot (chain : Chain) (batch : Batch) : Operation (Option IoError) :=
  if batch.isEmpty then return none else write chain.root batch

/-- Runs an operation and answers its error instead of failing with
it. -/
def attempt {α : Type} (body : Operation α) : Operation (Except Error α) := fun w =>
  match body w with
  | .ok result w => .ok (.ok result) w
  | .error (.error error) w => .ok (.error error) w
  | .error .panic w => .error .panic w

/-- The result, or fails with the error. -/
def conclude {α : Type} : Except Error α → Operation α
  | .ok result => return result
  | .error error => fail error

/-- Refuses the operation once the database has halted or was shut
down. -/
def ensureRunning : Operation Unit := do
  match (← getCoordinator).stopped? with
  | some error => refuse error
  | none => return ()

/-- Runs an operation under the lock. A panic inside poisons the lock,
and a poisoned lock lets no one in. -/
def locked {α : Type} (body : Operation α) : Operation α := fun w =>
  if w.db.poisoned then .error (.error (.illegalState .lockPoisoned)) w
  else match body w with
    | .error .panic w => .error .panic { w with db := { w.db with poisoned := true } }
    | result => result

end Operation

end LayeredStore

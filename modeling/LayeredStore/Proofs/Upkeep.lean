import LayeredStore.Proofs.Runs

/-!
# `LayeredStore.Proofs.Upkeep`: from the operations under the lock to every run

Some facts about a world hold because every operation under the lock
leaves them as it found them. What surrounds the operations is the same
for all of these facts: the lock, the handles of sessions, the bus and
the way in which a database is let go of. It is gone through here once.

* `Operation.Leaves I` is said of an end after which `I` holds, once a
  panic has poisoned the lock, and `Operation.Upholds I body` of an
  operation that ends like this wherever `I` holds.
* `World.Routine I`: all operations under the lock uphold `I` but the two
  that make room for live layers, and nothing that the database does
  outside of it breaks `I`. Then every other command keeps `I`
  (`Routine.run`), and so does letting go of the database
  (`Routine.drop`).
* `World.Service I`: those two uphold `I` as well. Then every command keeps
  it (`Service.run`).
* `World.Upkeep I`: a store that is set to fail does not break `I` either.
  Then every move keeps `I` (`Upkeep.act`), and so does every run
  (`Upkeep.play`).
-/

set_option autoImplicit false

namespace LayeredStore

open World

namespace Operation

variable {α β : Type} {I : World → Prop}

/-- How an operation ends after which `I` holds; a panic poisons the lock
first. -/
def Leaves (I : World → Prop) (r : Except Fault α) (w' : World) : Prop :=
  match r with
  | .error .panic => I w'.poison
  | _ => I w'

/-- If `I` holds before the operation, it holds after it. -/
def Upholds (I : World → Prop) (body : Operation α) : Prop :=
  ∀ w, I w → w.db.poisoned = false → body.Ends w (Leaves I)

/-- A lock that is poisoned lets no operation in. -/
theorem perform_locked_of_poisoned {w : World} (h : w.db.poisoned = true) (body : Operation α) :
    (locked body).perform w = (.error (.error (.illegalState .lockPoisoned)), w) := by
  unfold perform locked
  rw [if_pos h]

/-- Under the lock, such an operation keeps `I`. -/
theorem Upholds.locked {body : Operation α} (h : Upholds I body) {w : World} (hw : I w) :
    (locked body).Ends w fun _ w' => I w' :=
  locked_path (R := fun _ => I) (fun _ => hw) (h w hw)

/-- A sequence stops at the first fault. -/
theorem ends_bind_leaves {body : Operation α} {next : α → Operation β} {w : World}
    (h : body.Ends w (Leaves I)) (hnext : ∀ a w', I w' → (next a).Ends w' (Leaves I)) :
    (body >>= next).Ends w (Leaves I) := by
  rw [ends_bind]
  refine h.mono fun r w' hend => ?_
  match r, hend with
  | .ok a, hend => exact hnext a w' hend
  | .error (.error error), hend => exact hend
  | .error .panic, hend => exact hend

/-- What is made of an answer does not matter. -/
theorem Upholds.map {body : Operation α} (h : Upholds I body) (f : α → β) :
    Upholds I (do return f (← body)) := by
  intro w hw hpoisoned
  exact ends_bind_leaves (h w hw hpoisoned) fun _ _ hend => hend

/-- An operation that is made only by a database that runs. -/
theorem Upholds.ensureRunning {next : Unit → Operation α}
    (h : ∀ w, I w → w.Running → (next ()).Ends w (Leaves I)) :
    Upholds I (ensureRunning >>= next) := fun w hw hpoisoned =>
  ensureRunning_led (R := fun _ => I) hw fun hhalted => h w hw ⟨hpoisoned, hhalted⟩

end Operation

/-- Whether a command may make live layers pending before it does anything
else: opening a session makes room for a layer, and a lower limit of live
layers is enforced at once. -/
def Command.makesRoom : Command → Bool
  | .openSession _ | .setMaxSize _ => true
  | _ => false

namespace World

open Operation

/-- All operations under the lock uphold `I`, and so does what is done
outside of it. -/
structure Upkeep (I : World → Prop) : Prop where
  say : ∀ {w} notice, I w → I (w.say notice)
  bus : ∀ {w}, I w → I { w with db := { w.db with busStopped := true } }
  setPlan : ∀ {w} store plan, I w → I (w.withDisk (w.disk.setPlan store plan))
  addTable : ∀ name root, Upholds I (Operation.addTable name root)
  openSession : ∀ force, Upholds I (Operation.openSession force)
  commitSession : ∀ session, Upholds I (Operation.commitSession session)
  abandonSession : ∀ session status, Upholds I (Operation.abandonSession session status)
  revoke : Upholds I Operation.revoke
  merge : Upholds I Operation.merge
  popMany : ∀ count verify, Upholds I (Operation.popMany count verify)
  enable : Upholds I Operation.enable
  disable : Upholds I Operation.disable
  setCursor : ∀ cursor offset, Upholds I (Operation.setCursor cursor offset)
  setMaxSize : ∀ limit, Upholds I (Operation.setMaxSize limit)
  setMaxFlushCount : ∀ limit, Upholds I (Operation.setMaxFlushCount limit)
  check : Upholds I Operation.check
  stop : Upholds I Operation.stop
  writeEntry : ∀ table key entry, Upholds I (Operation.writeEntry table key entry)

/-- All operations under the lock that make no room for live layers uphold
`I`, and so does what the database does outside of it. No session is
resolved as open, and none is committed by being abandoned. -/
structure Routine (I : World → Prop) : Prop where
  say : ∀ {w} notice, I w → I (w.say notice)
  bus : ∀ {w}, I w → I { w with db := { w.db with busStopped := true } }
  addTable : ∀ name root, Upholds I (Operation.addTable name root)
  commitSession : ∀ session, Upholds I (Operation.commitSession session)
  abandonSession : ∀ session status, status ≠ .opened → status ≠ .committed →
    Upholds I (Operation.abandonSession session status)
  revoke : Upholds I Operation.revoke
  merge : Upholds I Operation.merge
  popMany : ∀ count verify, Upholds I (Operation.popMany count verify)
  enable : Upholds I Operation.enable
  disable : Upholds I Operation.disable
  setCursor : ∀ cursor offset, Upholds I (Operation.setCursor cursor offset)
  setMaxFlushCount : ∀ limit, Upholds I (Operation.setMaxFlushCount limit)
  check : Upholds I Operation.check
  stop : Upholds I Operation.stop
  writeEntry : ∀ table key entry, Upholds I (Operation.writeEntry table key entry)

/-- All operations under the lock uphold `I`, and so does what is done
outside of it. -/
structure Service (I : World → Prop) : Prop extends Routine I where
  openSession : ∀ force, Upholds I (Operation.openSession force)
  setMaxSize : ∀ limit, Upholds I (Operation.setMaxSize limit)

theorem Upkeep.service {I : World → Prop} (h : Upkeep I) : Service I :=
  { h with abandonSession := fun session status _ _ => h.abandonSession session status }

namespace Routine

variable {I : World → Prop} {w : World}

theorem commitInnermost (h : Routine I) : Upholds I Operation.commitInnermost := by
  intro w hw hpoisoned
  rw [Operation.ends_commitInnermost]
  cases w.db.coordinator.innermost? with
  | none => exact hw
  | some session => exact h.commitSession session w hw hpoisoned

/-- Letting go of a session revokes it if it is open. -/
theorem dropSession (h : Routine I) (hw : I w) (session : Session) :
    session.drop.Ends w fun _ w' => I w' := by
  apply Session.drop_rule
  case closed => exact fun _ => hw
  case lockedOut => exact fun _ _ => h.say _ (h.say _ hw)
  case abandoned =>
    intro _ _
    have hsay : I (w.say .sessionAbandoned) := h.say _ hw
    have hrevoke := (h.abandonSession session.id .abandoned nofun nofun).locked hsay
    refine hrevoke.mono fun r w' hend => ?_
    match r with
    | .ok () => exact hend
    | .error (.error error) => exact h.say _ hend
    | .error .panic => exact hend

/-- Using a handle up is the operation, and then letting go of the
handle. -/
theorem useUp (h : Routine I) (hw : I w) (session : Session) {body : Operation Unit}
    (hbody : Upholds I body) : (session.useUp (locked body)).Ends w fun _ w' => I w' := by
  rw [ends_useUp]
  refine (hbody.locked hw).mono fun r w₁ hw₁ => ?_
  refine (h.dropSession hw₁ session).mono fun later w' hend => ?_
  cases r <;> cases later <;> exact hend

theorem withoutBus (h : Routine I) (hw : I w) : I w.withoutBus := by
  unfold World.withoutBus
  dsimp only
  split
  · exact hw
  split
  · exact h.say _ (h.bus hw)
  · exact h.bus hw

theorem shutdown (h : Routine I) (hw : I w) : Database.shutdown.Ends w fun _ w' => I w' := by
  apply Database.shutdown_rule
  case lockedOut => exact fun _ => hw
  case stopped =>
    intro _
    refine (h.stop.locked hw).mono fun r w₁ hw₁ => ?_
    match r with
    | .ok () => exact h.withoutBus hw₁
    | .error (.error error) => exact h.withoutBus hw₁
    | .error .panic => exact hw₁

/-- Letting go of the database shuts it down. -/
theorem drop (h : Routine I) (hw : I w) : Database.drop.Ends w fun _ w' => I w' := by
  rw [Database.ends_drop]
  refine (h.shutdown hw).mono fun r w' hend => ?_
  match r with
  | .ok () => exact hend
  | .error (.error error) => exact h.say _ hend
  | .error .panic => exact hend

/-- Every command that makes no room keeps `I`, whatever it answers. -/
theorem run (h : Routine I) (hw : I w) {command : Command}
    (hroutine : command.makesRoom = false) : command.run.Ends w fun _ w' => I w' := by
  -- What a command answers does not matter, only its operation under the lock.
  cases command with
  | addTable name root => exact Ends.answer _ (((h.addTable name root).map _).locked hw)
  | openSession | setMaxSize => cases hroutine
  | commitSession session => exact Ends.done (h.useUp hw session (h.commitSession session.id))
  | revokeSession session =>
    exact Ends.done (h.useUp hw session (h.abandonSession session.id .revoked nofun nofun))
  | dropSession session => exact Ends.done (h.dropSession hw session)
  | commit => exact Ends.done (h.commitInnermost.locked hw)
  | revoke => exact Ends.done (h.revoke.locked hw)
  | merge => exact Ends.done (h.merge.locked hw)
  | popMany count verify => exact Ends.done ((h.popMany count verify).locked hw)
  | enable => exact Ends.done (h.enable.locked hw)
  | disable => exact Ends.done (h.disable.locked hw)
  | setCursor cursor offset => exact Ends.done ((h.setCursor cursor offset).locked hw)
  | setMaxFlushCount limit => exact Ends.done ((h.setMaxFlushCount limit).locked hw)
  | check => exact Ends.answer _ (h.check.locked hw)
  | shutdown => exact Ends.done (h.shutdown hw)
  | write table key entry =>
    exact Ends.done ((h.writeEntry table.index key entry).locked hw)

end Routine

namespace Service

variable {I : World → Prop} {w : World}

/-- Every command keeps `I`, whatever it answers. -/
theorem run (h : Service I) (hw : I w) (command : Command) :
    command.run.Ends w fun _ w' => I w' := by
  cases command with
  | openSession force => exact Ends.answer _ ((h.openSession force).locked hw)
  | setMaxSize limit => exact Ends.done ((h.setMaxSize limit).locked hw)
  | _ => exact h.toRoutine.run hw rfl

end Service

namespace Upkeep

variable {I : World → Prop} {w : World}

/-- Every move keeps `I`. -/
theorem act (h : Upkeep I) (hw : I w) (move : Move) : I (move.act w) := by
  cases move with
  | call command => exact h.service.run hw command
  | close => exact h.service.drop hw
  | setPlan store plan => exact h.setPlan store plan hw

/-- Every run keeps `I`. -/
theorem play (h : Upkeep I) (hw : I w) (moves : List Move) : I (w.play moves) := by
  induction moves generalizing w with
  | nil => exact hw
  | cons move moves ih => exact ih (h.act hw move)

end Upkeep

end World

end LayeredStore

import LayeredStore.Command

/-!
# `LayeredStore.Proofs.Outcome`: how operations end

`Operation.Ends body w Q` says that `body`, carried out on the world
`w`, ends with a result (or a fault) and a world of which `Q` holds.
There is one rule for each of the primitives that operations are built
of, so that `simp only` carries an operation out symbolically, and the
rules for sequences and loops:

* `ends_bind`: a sequence goes on after a result and stops at a fault.
* `Ends.answer`: where an operation leads does not depend on what is made
  of its answer.
* `ends_locked`: a lock that is poisoned lets no one in, and a panic
  poisons it.
* `ends_forM`: a loop keeps an invariant that says what is still to be
  done.
* `Ends.mono`: what an operation is known to do can be weakened. This is
  how callers use what is proved of an operation they call.
-/

set_option autoImplicit false

namespace LayeredStore

/-- The coordinator after it published an event. -/
def Coordinator.announce (c : Coordinator) (event : Event) : Coordinator :=
  if c.publishing then { c with published := c.published ++ [event] } else c

namespace World

/-- The world with another state of the coordinator. -/
def withCoordinator (w : World) (c : Coordinator) : World :=
  { w with db := { w.db with coordinator := c } }

/-- The world after the operator was told something. -/
def say (w : World) (notice : Notice) : World := { w with notices := w.notices ++ [notice] }

/-- The world with another disk. -/
def withDisk (w : World) (disk : Disk) : World := { w with disk := disk }

/-- The world after a panic under the lock. -/
def poison (w : World) : World := { w with db := { w.db with poisoned := true } }

end World

namespace Operation

variable {α β ι : Type}

/-- Carried out on `w`, the operation ends with a result and a world of
which `Q` holds. -/
def Ends (body : Operation α) (w : World) (Q : Except Fault α → World → Prop) : Prop :=
  Q (body.perform w).1 (body.perform w).2

theorem Ends.mono {body : Operation α} {w : World} {Q Q' : Except Fault α → World → Prop}
    (h : body.Ends w Q) (hQ : ∀ r w', Q r w' → Q' r w') : body.Ends w Q' :=
  hQ _ _ h

/-- The results and the faults can be looked at apart. -/
theorem Ends.mono_cases {body : Operation α} {w : World} {Q Q' : Except Fault α → World → Prop}
    (h : body.Ends w Q) (hok : ∀ a w', Q (.ok a) w' → Q' (.ok a) w')
    (herror : ∀ fault w', Q (.error fault) w' → Q' (.error fault) w') : body.Ends w Q' :=
  h.mono fun r w' h => match r, h with
    | .ok a, h => hok a w' h
    | .error fault, h => herror fault w' h

theorem Ends.and {body : Operation α} {w : World} {Q Q' : Except Fault α → World → Prop}
    (h : body.Ends w Q) (h' : body.Ends w Q') : body.Ends w fun r w' => Q r w' ∧ Q' r w' :=
  ⟨h, h'⟩

section Rules
variable (w : World)

theorem ends_pure (a : α) (Q : Except Fault α → World → Prop) :
    (pure a : Operation α).Ends w Q ↔ Q (.ok a) w := Iff.rfl

theorem ends_bind (body : Operation α) (next : α → Operation β)
    (Q : Except Fault β → World → Prop) :
    (body >>= next).Ends w Q ↔ body.Ends w fun r w' => match r with
      | .ok a => (next a).Ends w' Q
      | .error fault => Q (.error fault) w' := by
  -- Sequencing is defined by how the first part ends, and so are both sides.
  have h : (body >>= next) w = EStateM.bind body next w := rfl
  unfold Ends perform
  rw [h]
  unfold EStateM.bind
  cases body w <;> exact Iff.rfl

/-- An operation whose answer is changed. -/
theorem ends_map (body : Operation α) (f : α → β) (Q : Except Fault β → World → Prop) :
    (do return f (← body)).Ends w Q ↔ body.Ends w fun r w' => Q (r.map f) w' := by
  rw [ends_bind]
  unfold Ends
  rcases body.perform w with ⟨r, w'⟩
  cases r <;> exact Iff.rfl

theorem ends_ite (p : Prop) [Decidable p] (body other : Operation α)
    (Q : Except Fault α → World → Prop) :
    (if p then body else other).Ends w Q ↔ if p then body.Ends w Q else other.Ends w Q := by
  split <;> exact Iff.rfl

theorem ends_get (Q : Except Fault World → World → Prop) :
    (get : Operation World).Ends w Q ↔ Q (.ok w) w := Iff.rfl

theorem ends_set (w' : World) (Q : Except Fault Unit → World → Prop) :
    (set w' : Operation Unit).Ends w Q ↔ Q (.ok ()) w' := Iff.rfl

theorem ends_getCoordinator (Q : Except Fault Coordinator → World → Prop) :
    getCoordinator.Ends w Q ↔ Q (.ok w.db.coordinator) w := Iff.rfl

theorem ends_update (f : Coordinator → Coordinator) (Q : Except Fault Unit → World → Prop) :
    (update f).Ends w Q ↔ Q (.ok ()) (w.withCoordinator (f w.db.coordinator)) := Iff.rfl

theorem ends_note (notice : Notice) (Q : Except Fault Unit → World → Prop) :
    (note notice).Ends w Q ↔ Q (.ok ()) (w.say notice) := Iff.rfl

theorem ends_publish (event : Event) (Q : Except Fault Unit → World → Prop) :
    (publish event).Ends w Q ↔
      Q (.ok ()) (w.withCoordinator (w.db.coordinator.announce event)) := Iff.rfl

theorem ends_refuse (error : StateError) (Q : Except Fault α → World → Prop) :
    (refuse error : Operation α).Ends w Q ↔ Q (.error (.error (.illegalState error))) w := Iff.rfl

theorem ends_reject (error : ArgumentError) (Q : Except Fault α → World → Prop) :
    (reject error : Operation α).Ends w Q ↔
      Q (.error (.error (.invalidArgument error))) w := Iff.rfl

theorem ends_conclude (result : Except Error α) (Q : Except Fault α → World → Prop) :
    (conclude result).Ends w Q ↔ Q (result.mapError Fault.error) w := by
  cases result <;> exact Iff.rfl

theorem ends_ensureRunning (Q : Except Fault Unit → World → Prop) :
    ensureRunning.Ends w Q ↔ match w.db.coordinator.stopped? with
      | some error => Q (.error (.error (.illegalState error))) w
      | none => Q (.ok ()) w := by
  unfold ensureRunning
  simp only [ends_bind, ends_getCoordinator]
  cases w.db.coordinator.stopped? <;> exact Iff.rfl

theorem ends_attempt (body : Operation α) (Q : Except Fault (Except Error α) → World → Prop) :
    (attempt body).Ends w Q ↔ body.Ends w fun r w' => match r with
      | .ok a => Q (.ok (.ok a)) w'
      | .error (.error error) => Q (.ok (.error error)) w'
      | .error .panic => Q (.error .panic) w' := by
  unfold Ends perform attempt
  cases body w with
  | ok a w' => exact Iff.rfl
  | error fault w' => cases fault <;> exact Iff.rfl

theorem ends_locked (body : Operation α) (Q : Except Fault α → World → Prop) :
    (locked body).Ends w Q ↔
      if w.db.poisoned then Q (.error (.error (.illegalState .lockPoisoned))) w
      else body.Ends w fun r w' => match r with
        | .error .panic => Q (.error .panic) w'.poison
        | r => Q r w' := by
  unfold Ends perform locked
  by_cases hp : w.db.poisoned = true
  · simp only [if_pos hp]
  · simp only [if_neg hp]
    cases body w with
    | ok a w' => exact Iff.rfl
    | error fault w' => cases fault <;> exact Iff.rfl

/-- A handle is let go of however its operation ends, and the first fault
that follows replaces that of the operation. -/
theorem ends_useUp (session : Session) (body : Operation Unit)
    (Q : Except Fault Unit → World → Prop) :
    (session.useUp body).Ends w Q ↔
      body.Ends w fun r w' => session.drop.Ends w' fun later w'' => match r, later with
        | .error fault, .ok () => Q (.error fault) w''
        | _, later => Q later w'' := by
  unfold Ends perform Session.useUp
  cases body w with
  | ok u w' => simp only
  | error fault w' =>
    simp only
    cases session.drop w' <;> exact Iff.rfl

theorem ends_write (store : String) (batch : Batch)
    (Q : Except Fault (Option IoError) → World → Prop) :
    (write store batch).Ends w Q ↔
      match (w.disk.write store batch).1 with
      | .ok () => Q (.ok none) (w.withDisk (w.disk.write store batch).2)
      | .error (.error error) => Q (.ok (some error)) (w.withDisk (w.disk.write store batch).2)
      | .error .crash => Q (.error .panic) (w.withDisk (w.disk.write store batch).2) := by
  -- The disk after an attempt is kept also where the attempt fails, so the
  -- answer of the disk is looked at only once the disk has been replaced.
  unfold write
  rw [ends_bind, ends_get]
  show (do
    set (w.withDisk (w.disk.write store batch).2)
    match (w.disk.write store batch).1 with
    | .ok () => return none
    | .error (.error error) => return some error
    | .error .crash => throw .panic : Operation (Option IoError)).Ends w Q ↔ _
  rw [ends_bind, ends_set]
  cases (w.disk.write store batch).1 with
  | ok u => exact Iff.rfl
  | error failure => cases failure <;> exact Iff.rfl

end Rules

/-- Where an operation leads does not depend on what is made of its
answer. -/
theorem Ends.answer {body : Operation α} {w : World} {P : World → Prop} (f : α → β)
    (h : body.Ends w fun _ w' => P w') : (do return f (← body)).Ends w fun _ w' => P w' :=
  (ends_map w body f _).mpr h

/-- So it is where the answer is only that the operation is done. -/
theorem Ends.done {body : Operation Unit} {w : World} {P : World → Prop}
    (h : body.Ends w fun _ w' => P w') : (do body; return Reply.done).Ends w fun _ w' => P w' :=
  h.answer fun _ => Reply.done

/-- A loop ends as `Q` says, if `I` holds before it with all items to
do, each item keeps `I` for the items after it, and `Q` follows at the
end or at the first fault. -/
theorem ends_forM {body : ι → Operation Unit} {I : List ι → World → Prop}
    {Q : Except Fault Unit → World → Prop}
    (hstep : ∀ item rest w, I (item :: rest) w → (body item).Ends w fun r w' => match r with
      | .ok () => I rest w'
      | .error fault => Q (.error fault) w')
    (hdone : ∀ w, I [] w → Q (.ok ()) w) (items : List ι) (w : World) (h : I items w) :
    (items.forM body).Ends w Q := by
  induction items generalizing w with
  | nil => exact hdone w h
  | cons item rest ih =>
    show (body item >>= fun _ => rest.forM body).Ends w Q
    rw [ends_bind]
    refine (hstep item rest w h).mono fun r w' hr => ?_
    cases r with
    | ok u => exact ih w' hr
    | error fault => exact hr

end Operation

end LayeredStore

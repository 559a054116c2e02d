import LayeredStore.Proofs.Parallel.Basic

/-!
# `LayeredStore.Proofs.Parallel.Rules`: two runs of an operation, step by step

An operation is carried out in two worlds that are related in some way. The
rules follow how operations are put together, and are the same for every
relation that changes which treat all tables alike cannot break.

* `World.Parallel` says what is asked of such a relation.
* `perform_bind`, `perform_locked`, `perform_attempt`, ...: what an operation
  does, by its parts.
* `Operation.EndsBoth` says how two operations end together, and
  `Operation.Both` that they end in the same way, in worlds that are related
  again. It can leave out the runs in which the record of a flush is too
  long to be encoded.
* `EndsBoth.bind`: what follows a first part is compared where this ends.
* `both_get`: what is read of the two coordinators is the same but for the
  tables. `both_update`: both are changed by a change that treats all tables
  alike.
* `Both.attempt`, `Both.attempt_bind`, `Both.locked`, `useUp_both`: the
  operations around another.
-/

set_option autoImplicit false

namespace LayeredStore

namespace World

/-- The operator may have been told something, and the bus may have been
stopped. -/
structure Undisturbed (w w' : World) : Prop where
  disk : w'.disk = w.disk
  coordinator : w'.db.coordinator = w.db.coordinator
  poisoned : w'.db.poisoned = w.db.poisoned

theorem undisturbed_say (w : World) (notice : Notice) : w.Undisturbed (w.say notice) :=
  ⟨rfl, rfl, rfl⟩

/-- A relation between worlds whose coordinators are the same but for the
tables and the events published. It is kept by all that treats all tables
alike. -/
structure Parallel (R : World → World → Prop) : Prop where
  coordinator : ∀ {w v}, R w v → ∃ chains ahead published,
    w.db.coordinator = v.db.coordinator.retabled chains ahead published
  poisoned : ∀ {w v}, R w v → w.db.poisoned = v.db.poisoned
  update : ∀ {w v f}, R w v → v.db.coordinator.Evenly f →
    R (w.withCoordinator (f w.db.coordinator)) (v.withCoordinator (f v.db.coordinator))
  announce : ∀ {w v} {event event' : Event}, R w v → event.undigested = event'.undigested →
    R (w.withCoordinator (w.db.coordinator.announce event))
      (v.withCoordinator (v.db.coordinator.announce event'))
  poison : ∀ {w v}, R w v → R w.poison v.poison
  undisturbed : ∀ {w v w' v'}, R w v → w.Undisturbed w' → v.Undisturbed v' → R w' v'

end World

open World

namespace Operation

variable {α β : Type} {lax : Prop} {R : World → World → Prop} {w v : World}

/-! ### What is performed -/

theorem perform_bind (w : World) (body : Operation α) (next : α → Operation β) :
    (body >>= next).perform w = match body.perform w with
      | (.ok a, w') => (next a).perform w'
      | (.error fault, w') => (.error fault, w') := by
  have h : (body >>= next) w = EStateM.bind body next w := rfl
  unfold perform
  rw [h]
  unfold EStateM.bind
  cases body w <;> rfl

theorem perform_ensureRunning (w : World) :
    ensureRunning.perform w = match w.db.coordinator.stopped? with
      | some error => (.error (.error (.illegalState error)), w)
      | none => (.ok (), w) := by
  unfold ensureRunning
  rw [perform_bind]
  show ((match w.db.coordinator.stopped? with
    | some error => refuse error
    | none => pure () : Operation Unit).perform w) = _
  cases w.db.coordinator.stopped? <;> rfl

theorem perform_locked (w : World) (body : Operation α) :
    (locked body).perform w =
      if w.db.poisoned then (.error (.error (.illegalState .lockPoisoned)), w)
      else match body.perform w with
        | (.error .panic, w') => (.error .panic, w'.poison)
        | ended => ended := by
  unfold perform locked
  by_cases hp : w.db.poisoned = true
  · simp only [if_pos hp]
  · simp only [if_neg hp]
    cases body w with
    | ok a w' => rfl
    | error fault w' => cases fault <;> rfl

theorem perform_attempt (w : World) (body : Operation α) :
    (attempt body).perform w = match body.perform w with
      | (.ok a, w') => (.ok (.ok a), w')
      | (.error (.error error), w') => (.ok (.error error), w')
      | (.error .panic, w') => (.error .panic, w') := by
  unfold perform attempt
  cases body w with
  | ok a w' => rfl
  | error fault w' => cases fault <;> rfl

theorem perform_useUp (w : World) (session : Session) (body : Operation Unit) :
    (session.useUp body).perform w =
      match (body.perform w).1, session.drop.perform (body.perform w).2 with
      | .error fault, (.ok (), w'') => (.error fault, w'')
      | _, dropped => dropped := by
  unfold perform Session.useUp
  cases body w with
  | ok u w' => rfl
  | error fault w' =>
    simp only
    cases session.drop w' <;> rfl

/-! ### How two operations end together -/

/-- Two operations ended with the same result or fault, of which `P` holds
with the worlds that they ended in. Where this is lax, one of them may have
reported that the record of a flush is too long to be encoded. -/
inductive Ended (lax : Prop) (P : Except Fault α → World → World → Prop) :
    Except Fault α × World → Except Fault α × World → Prop
  | alike {r : Except Fault α} {w' v' : World} (h : P r w' v') : Ended lax P (r, w') (r, v')
  | unfit (hlax : lax) (w' : World) (ended : Except Fault α × World) :
      Ended lax P (.error (.error .unencodable), w') ended
  | unfit' (hlax : lax) (ended : Except Fault α × World) (v' : World) :
      Ended lax P ended (.error (.error .unencodable), v')

/-- The two operations end in this way together. -/
def EndsBoth (lax : Prop) (body body' : Operation α) (w v : World)
    (P : Except Fault α → World → World → Prop) : Prop :=
  Ended lax P (body.perform w) (body'.perform v)

/-- The two operations end in the same way, in worlds that are related. -/
def Both (lax : Prop) (R : World → World → Prop) (body body' : Operation α) (w v : World) : Prop :=
  EndsBoth lax body body' w v fun _ => R

/-- Where no run is left out, one operation ends as the other. -/
theorem endsBoth_iff {body body' : Operation α} {P : Except Fault α → World → World → Prop} :
    EndsBoth False body body' w v P ↔
      body.Ends w fun r w' => body'.Ends v fun r' v' => r = r' ∧ P r' w' v' := by
  unfold EndsBoth Ends
  generalize body.perform w = ended
  generalize body'.perform v = ended'
  constructor
  · intro h
    cases h with
    | alike h => exact ⟨rfl, h⟩
    | unfit hlax => exact hlax.elim
    | unfit' hlax => exact hlax.elim
  · obtain ⟨r, w'⟩ := ended
    obtain ⟨r', v'⟩ := ended'
    rintro ⟨rfl, h⟩
    exact .alike h

/-- How each of the two ends says how they end together. -/
theorem endsBoth_of_ends {body body' : Operation α} {P : Except Fault α → World → World → Prop}
    {Q Q' : Except Fault α → World → Prop} (hw : body.Ends w Q) (hv : body'.Ends v Q')
    (h : ∀ r w' r' v', Q r w' → Q' r' v' → Ended lax P (r, w') (r', v')) :
    EndsBoth lax body body' w v P := h _ _ _ _ hw hv

/-- More is known of how each of the two ends. -/
theorem EndsBoth.and {body body' : Operation α} {P : Except Fault α → World → World → Prop}
    {Q Q' : Except Fault α → World → Prop} (h : EndsBoth lax body body' w v P)
    (hw : body.Ends w Q) (hv : body'.Ends v Q') :
    EndsBoth lax body body' w v fun r w' v' => P r w' v' ∧ Q r w' ∧ Q' r v' := by
  unfold EndsBoth Ends at *
  generalize body.perform w = ended at h hw
  generalize body'.perform v = ended' at h hv
  cases h with
  | alike h => exact .alike ⟨h, hw, hv⟩
  | unfit hlax => exact .unfit hlax _ _
  | unfit' hlax => exact .unfit' hlax _ _

/-- Related worlds are related in every weaker way. -/
theorem Both.mono {R' : World → World → Prop} {body body' : Operation α}
    (h : Both lax R body body' w v) (himp : ∀ w' v', R w' v' → R' w' v') :
    Both lax R' body body' w v := by
  unfold Both EndsBoth at *
  generalize body.perform w = ended at h
  generalize body'.perform v = ended' at h
  cases h with
  | alike h => exact .alike (himp _ _ h)
  | unfit hlax => exact .unfit hlax _ _
  | unfit' hlax => exact .unfit' hlax _ _

/-- What holds if no run is left out holds also if some are. -/
theorem Both.weaken {body body' : Operation α} (h : Both False R body body' w v) :
    Both lax R body body' w v := by
  unfold Both EndsBoth at *
  generalize body.perform w = ended at h
  generalize body'.perform v = ended' at h
  cases h with
  | alike h => exact .alike h
  | unfit hlax => exact hlax.elim
  | unfit' hlax => exact hlax.elim

/-! ### Sequences -/

/-- What follows a first part is compared if the first part succeeds. If it
fails in both worlds, nothing follows. -/
theorem EndsBoth.bind {body body' : Operation α} {next next' : α → Operation β}
    {P : Except Fault α → World → World → Prop} {P' : Except Fault β → World → World → Prop}
    (h : EndsBoth lax body body' w v P)
    (hok : ∀ a w' v', P (.ok a) w' v' → EndsBoth lax (next a) (next' a) w' v' P')
    (herror : ∀ fault w' v', P (.error fault) w' v' → P' (.error fault) w' v') :
    EndsBoth lax (body >>= next) (body' >>= next') w v P' := by
  unfold EndsBoth at *
  rw [perform_bind, perform_bind]
  generalize body.perform w = ended at h
  generalize body'.perform v = ended' at h
  cases h with
  | @alike r w' v' h =>
    cases r with
    | ok a => exact hok a w' v' h
    | error fault => exact .alike (herror fault w' v' h)
  | unfit hlax => exact .unfit hlax _ _
  | unfit' hlax => exact .unfit' hlax _ _

theorem Both.bind {body body' : Operation α} {next next' : α → Operation β}
    (h : Both lax R body body' w v)
    (hnext : ∀ a w' v', R w' v' → Both lax R (next a) (next' a) w' v') :
    Both lax R (body >>= next) (body' >>= next') w v :=
  EndsBoth.bind h hnext fun _ _ _ hend => hend

/-- The same, where more is known of how the first parts end. -/
theorem Both.bind_of {body body' : Operation α} {next next' : α → Operation β}
    {Q Q' : Except Fault α → World → Prop} (h : Both lax R body body' w v)
    (hw : body.Ends w Q) (hv : body'.Ends v Q')
    (hnext : ∀ a w' v', R w' v' → Q (.ok a) w' → Q' (.ok a) v' →
      Both lax R (next a) (next' a) w' v') :
    Both lax R (body >>= next) (body' >>= next') w v :=
  (EndsBoth.and h hw hv).bind (fun a w' v' hend => hnext a w' v' hend.1 hend.2.1 hend.2.2)
    fun _ _ _ hend => hend.1

theorem both_pure (h : R w v) (a : α) : Both lax R (pure a) (pure a) w v := .alike h

theorem both_fail (h : R w v) (error : Error) :
    Both lax R (fail error : Operation α) (fail error) w v := .alike h

/-- Nothing follows a fault. -/
theorem both_fail_bind (h : R w v) (error : Error) {next next' : α → Operation β} :
    Both lax R (fail error >>= next) (fail error >>= next') w v := .alike h

theorem both_read {next next' : World → Operation α} (h : Both lax R (next w) (next' v) w v) :
    Both lax R (get >>= next) (get >>= next') w v := h

/-- Both coordinators are changed, in ways of their own. -/
theorem both_change {f f' : Coordinator → Coordinator} {next next' : Unit → Operation α}
    (h : Both lax R (next ()) (next' ()) (w.withCoordinator (f w.db.coordinator))
      (v.withCoordinator (f' v.db.coordinator))) :
    Both lax R (update f >>= next) (update f' >>= next') w v := h

theorem both_ite {p p' : Prop} [Decidable p] [Decidable p']
    {body body' other other' : Operation α} (hiff : p ↔ p')
    (hpos : p' → Both lax R body body' w v) (hneg : ¬p' → Both lax R other other' w v) :
    Both lax R (if p then body else other) (if p' then body' else other') w v := by
  by_cases h : p'
  · rw [if_pos h, if_pos (hiff.mpr h)]
    exact hpos h
  · rw [if_neg h, if_neg (mt hiff.mp h)]
    exact hneg h

/-! ### Reading and changing the coordinators -/

section
variable (hR : Parallel R)
include hR

theorem both_get (h : R w v) {next next' : Coordinator → Operation α}
    (hnext : ∀ chains ahead published,
      w.db.coordinator = v.db.coordinator.retabled chains ahead published →
      Both lax R (next (v.db.coordinator.retabled chains ahead published)) (next' v.db.coordinator)
        w v) :
    Both lax R (getCoordinator >>= next) (getCoordinator >>= next') w v := by
  obtain ⟨chains, ahead, published, hc⟩ := hR.coordinator h
  have hboth := hnext chains ahead published hc
  rw [← hc] at hboth
  exact hboth

theorem both_update (h : R w v) {f : Coordinator → Coordinator} (hf : v.db.coordinator.Evenly f)
    {next next' : Unit → Operation α}
    (hnext : R (w.withCoordinator (f w.db.coordinator)) (v.withCoordinator (f v.db.coordinator)) →
      Both lax R (next ()) (next' ()) (w.withCoordinator (f w.db.coordinator))
        (v.withCoordinator (f v.db.coordinator))) :
    Both lax R (update f >>= next) (update f >>= next') w v := both_change (hnext (hR.update h hf))

theorem update_both (h : R w v) {f : Coordinator → Coordinator}
    (hf : v.db.coordinator.Evenly f) : Both lax R (update f) (update f) w v :=
  .alike (hR.update h hf)

theorem both_note (h : R w v) (notice notice' : Notice) {next next' : Unit → Operation α}
    (hnext : R (w.say notice) (v.say notice') →
      Both lax R (next ()) (next' ()) (w.say notice) (v.say notice')) :
    Both lax R (note notice >>= next) (note notice' >>= next') w v :=
  hnext (hR.undisturbed h (undisturbed_say w notice) (undisturbed_say v notice'))

theorem note_both (h : R w v) (notice notice' : Notice) :
    Both lax R (note notice) (note notice') w v :=
  .alike (hR.undisturbed h (undisturbed_say w notice) (undisturbed_say v notice'))

theorem publish_both (h : R w v) {event event' : Event}
    (hsame : event.undigested = event'.undigested) :
    Both lax R (publish event) (publish event') w v := .alike (hR.announce h hsame)

theorem both_ensureRunning (h : R w v) {next next' : Unit → Operation α}
    (hnext : v.db.coordinator.stopped? = none → Both lax R (next ()) (next' ()) w v) :
    Both lax R (ensureRunning >>= next) (ensureRunning >>= next') w v := by
  obtain ⟨chains, ahead, published, hc⟩ := hR.coordinator h
  have hstopped : w.db.coordinator.stopped? = v.db.coordinator.stopped? := by
    rw [hc]
    rfl
  unfold Both EndsBoth
  rw [perform_bind, perform_bind, perform_ensureRunning, perform_ensureRunning, hstopped]
  cases hstopped' : v.db.coordinator.stopped? with
  | none => exact hnext hstopped'
  | some error => exact .alike h

/-! ### Operations around another -/

/-- Under the lock, a panic poisons both. -/
theorem Both.locked {body body' : Operation α} (h : R w v)
    (hbody : v.db.poisoned = false → Both lax R body body' w v) :
    Both lax R (locked body) (locked body') w v := by
  unfold Both EndsBoth at *
  rw [perform_locked, perform_locked, hR.poisoned h]
  cases hpoisoned : v.db.poisoned with
  | true => exact .alike h
  | false =>
    have hend := hbody hpoisoned
    generalize body.perform w = ended at hend
    generalize body'.perform v = ended' at hend
    simp only [Bool.false_eq_true, if_false]
    cases hend with
    | @alike r w' v' h' =>
      -- The same result came of both, so both locks are poisoned or neither is.
      match r with
      | .ok _ | .error (.error _) => exact .alike h'
      | .error .panic => exact .alike (hR.poison h')
    | unfit hlax => exact .unfit hlax _ _
    | unfit' hlax => exact .unfit' hlax _ _

end

/-- An error that is answered is the same in both worlds. -/
theorem Both.attempt {body body' : Operation α} (h : Both False R body body' w v) :
    Both lax R (attempt body) (attempt body') w v := by
  unfold Both EndsBoth at *
  rw [perform_attempt, perform_attempt]
  generalize body.perform w = ended at h
  generalize body'.perform v = ended' at h
  cases h with
  | @alike r w' v' h =>
    match r with
    | .ok _ | .error (.error _) | .error .panic => exact .alike h
  | unfit hlax => exact hlax.elim
  | unfit' hlax => exact hlax.elim

/-- Where some runs are left out for the error that is answered, what follows
has to report it after all. -/
theorem Both.attempt_bind {body body' : Operation α} {next : Except Error α → Operation β}
    (h : Both lax R body body' w v)
    (hnext : ∀ answer w' v', R w' v' → Both lax R (next answer) (next answer) w' v')
    (hreports : ∀ w', ∃ w'', (next (.error .unencodable)).perform w' =
      (.error (.error .unencodable), w'')) :
    Both lax R (Operation.attempt body >>= next) (Operation.attempt body' >>= next) w v := by
  unfold Both EndsBoth at *
  rw [perform_bind, perform_bind, perform_attempt, perform_attempt]
  generalize body.perform w = ended at h
  generalize body'.perform v = ended' at h
  cases h with
  | @alike r w' v' h =>
    match r with
    | .ok a => exact hnext (.ok a) w' v' h
    | .error (.error error) => exact hnext (.error error) w' v' h
    | .error .panic => exact .alike h
  | unfit hlax w' =>
    -- The error is answered, so it is `next` that reports it.
    obtain ⟨w'', hreports⟩ := hreports w'
    simp only [hreports]
    exact .unfit hlax _ _
  | unfit' hlax _ v' =>
    obtain ⟨v'', hreports⟩ := hreports v'
    simp only [hreports]
    exact .unfit' hlax _ _

/-- The handle is let go of in both worlds. Where runs are left out, letting
go of it must not fail, for its fault would be reported instead. -/
theorem useUp_both (session : Session) {body : Operation Unit} (h : Both lax R body body w v)
    (hdrop : ∀ w' v', R w' v' → Both False R session.drop session.drop w' v')
    (hok : lax → body.Ends w fun _ w' => session.drop.Ends w' fun r _ => r = .ok ())
    (hok' : lax → body.Ends v fun _ v' => session.drop.Ends v' fun r _ => r = .ok ()) :
    Both lax R (session.useUp body) (session.useUp body) w v := by
  unfold Both EndsBoth Ends at *
  rw [perform_useUp, perform_useUp]
  generalize body.perform w = ended at h hok
  generalize body.perform v = ended' at h hok'
  -- Either both operations end alike, or one of the runs is left out; then
  -- only the letting go of the other matters.
  cases h with
  | @alike r w' v' h =>
    have hdropped := hdrop w' v' h
    simp only
    generalize session.drop.perform w' = dropped at hdropped
    generalize session.drop.perform v' = dropped' at hdropped
    cases hdropped with
    | @alike later w'' v'' h' => cases r <;> cases later <;> exact .alike h'
    | unfit hlax => exact hlax.elim
    | unfit' hlax => exact hlax.elim
  | unfit hlax w' =>
    have hdropped := hok hlax
    simp only at hdropped ⊢
    generalize session.drop.perform w' = dropped at hdropped
    obtain ⟨later, w''⟩ := dropped
    obtain rfl : later = .ok () := hdropped
    exact .unfit hlax _ _
  | unfit' hlax _ v' =>
    have hdropped := hok' hlax
    simp only at hdropped ⊢
    generalize session.drop.perform v' = dropped at hdropped
    obtain ⟨later, v''⟩ := dropped
    obtain rfl : later = .ok () := hdropped
    exact .unfit' hlax _ _

end Operation

end LayeredStore

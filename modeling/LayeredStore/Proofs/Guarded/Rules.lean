import LayeredStore.Proofs.Guarded.Operations
import LayeredStore.Proofs.Parallel.Rules

/-!
# `LayeredStore.Proofs.Guarded.Rules`: a guarded operation beside its own

`Safe guarded body w` compares a guarded operation with the one that it
guards, both carried out on `w`. The number of the next layer does not
become smaller; and if the coordinator's numbers tally before and this
number still fits into 64 bits at the end, they tally afterwards and the
guarded operation does what the other does, without a slip.

That the numbers tally is asked for inside, so that the rules below can
be put together without it: it is carried from one step to the next.

* `Operation.Steady`: the operation leaves alone what the guards look
  at. These need no guards; `safe_lift` and `safe_steady` take them over.
* `safe_guard`, `safe_amend`: a guard that does not fail, and a guarded
  change to the coordinator.
* `Safe.bind`, `safe_ite`, `Safe.attempt`, `Safe.locked`, `safe_useUp`:
  one rule for each way to put operations together.
-/

set_option autoImplicit false

namespace LayeredStore

open Operation

variable {α β ι : Type}

/-! ### Operations that leave the numbers alone -/

/-- However the operation ends, the coordinator agrees with the one
before in what the guards look at. -/
def Operation.Steady (body : Operation α) : Prop :=
  ∀ w, body.Ends w fun _ w' => w.db.coordinator.SameNumbers w'.db.coordinator

namespace Operation

theorem steady_pure (a : α) : (pure a : Operation α).Steady := fun _ => .refl _

theorem steady_fail (error : Error) : (fail error : Operation α).Steady := fun _ => .refl _

theorem steady_getCoordinator : getCoordinator.Steady := fun _ => .refl _

theorem steady_note (notice : Notice) : (note notice).Steady := fun _ => .refl _

theorem steady_publish (event : Event) : (publish event).Steady :=
  fun w => w.db.coordinator.sameNumbers_announce event

theorem steady_update {f : Coordinator → Coordinator}
    (h : ∀ c : Coordinator, c.SameNumbers (f c)) :
    (update f).Steady := fun w => h w.db.coordinator

theorem steady_conclude (result : Except Error α) : (conclude result).Steady := by
  intro w
  rw [ends_conclude]
  exact .refl _

theorem steady_write (store : String) (batch : Batch) : (write store batch).Steady := by
  intro w
  rw [ends_write]
  cases (w.disk.write store batch).1 with
  | ok u => exact .refl _
  | error failure => cases failure <;> exact .refl _

theorem Steady.bind {body : Operation α} {next : α → Operation β} (h : body.Steady)
    (hnext : ∀ a, (next a).Steady) : (body >>= next).Steady := by
  intro w
  rw [ends_bind]
  refine (h w).mono fun r w' hsame => ?_
  cases r with
  | ok a => exact (hnext a w').mono fun _ _ => hsame.trans
  | error fault => exact hsame

theorem steady_ite {p : Prop} [Decidable p] {body other : Operation α} (h : body.Steady)
    (h' : other.Steady) : (if p then body else other).Steady := by
  split
  · exact h
  · exact h'

theorem Steady.locked {body : Operation α} (h : body.Steady) : (locked body).Steady := by
  intro w
  rw [ends_locked]
  split
  · exact .refl _
  · refine (h w).mono fun r w' hsame => ?_
    match r with
    | .ok _ | .error (.error _) | .error .panic => exact hsame

theorem steady_forM {body : ι → Operation Unit} (h : ∀ item, (body item).Steady) (items : List ι) :
    (items.forM body).Steady := by
  induction items with
  | nil => exact steady_pure ()
  | cons item items ih => exact (h item).bind fun _ => ih

theorem steady_ensureRunning : ensureRunning.Steady := by
  refine steady_getCoordinator.bind fun c => ?_
  cases c.stopped? with
  | none => exact steady_pure ()
  | some error => exact steady_fail _

theorem steady_writeRoot (chain : Chain) (batch : Batch) : (writeRoot chain batch).Steady :=
  steady_ite (steady_pure none) (steady_write _ _)

theorem steady_writeRecord (journal : String) (record : JournalRecord) :
    (writeRecord journal record).Steady :=
  steady_ite (steady_write _ _) (steady_pure _)

theorem steady_failFlush (table : String) (source : IoError) : (failFlush table source).Steady :=
  (steady_note _).bind fun _ => Steady.bind (steady_update fun _ => by constructor <;> rfl)
    fun _ => steady_fail _

theorem steady_flushWrite (table : String) {write : Operation (Option IoError)}
    (h : write.Steady) : (flushWrite table write).Steady := by
  refine h.bind fun outcome => ?_
  cases outcome with
  | none => exact steady_pure ()
  | some source => exact steady_failFlush table source

theorem steady_applyRecord (record : JournalRecord) : (applyRecord record).Steady := by
  refine steady_forM (fun table => steady_getCoordinator.bind fun c => ?_) _
  split
  · exact steady_fail _
  · exact steady_flushWrite _ (steady_writeRoot _ _)

theorem steady_writeDirect (chain : Chain) (key : Bytes) (entry : Entry) :
    (writeDirect chain key entry).Steady := by
  refine (steady_writeRoot chain _).bind fun outcome => ?_
  cases outcome with
  | none => exact steady_pure ()
  | some source => exact steady_fail _

theorem steady_replay (journal : String) (record : JournalRecord) :
    (replay journal record).Steady := by
  refine steady_ite ((steady_applyRecord record).bind fun _ => ?_) ?_
  all_goals
    refine (steady_write _ _).bind fun outcome => ?_
    cases outcome with
    | none => exact steady_pure ()
    | some source => exact steady_fail _

theorem steady_recoverRunning : recoverRunning.Steady := by
  refine steady_getCoordinator.bind fun c => steady_ite (steady_pure 0) ?_
  have hget : (get : Operation World).Steady := fun _ => .refl _
  refine hget.bind fun w => ?_
  dsimp only
  split
  · exact steady_fail _
  · exact steady_pure 0
  · exact (steady_note _).bind fun _ => (steady_replay _ _).bind fun _ => steady_pure _

theorem steady_leaveForced : leaveForced.Steady :=
  steady_getCoordinator.bind fun _ =>
    steady_ite (steady_update fun _ => by constructor <;> rfl) (steady_pure ())

theorem steady_enable : enable.Steady :=
  steady_ensureRunning.bind fun _ => steady_getCoordinator.bind fun _ =>
    steady_ite (steady_pure ()) <| steady_ite (steady_fail _) <|
      Steady.bind (steady_update fun _ => by constructor <;> rfl) fun _ => steady_note _

theorem steady_stopBus : Database.stopBus.Steady := by
  intro w
  unfold Database.stopBus
  simp only [ends_bind, ends_get, ends_ite, ends_set, ends_note, ends_pure]
  split
  · split <;> exact .refl _
  · exact .refl _

end Operation

namespace Guarded

/-! ### What is performed -/

section
variable (w : World)

theorem perform_lift (body : Operation α) :
    perform (liftM body) w = ((body.perform w).1.map .ok, (body.perform w).2) := by
  have hlift : (liftM body : Guarded α).run = (body >>= fun a => pure (.ok a)) := rfl
  rw [perform, hlift, Operation.perform_bind]
  generalize body.perform w = ended
  obtain ⟨r, w'⟩ := ended
  cases r <;> rfl

theorem perform_bind (guarded : Guarded α) (next : α → Guarded β) :
    perform (guarded >>= next) w = match perform guarded w with
      | (.ok (.ok a), w') => perform (next a) w'
      | (.ok (.error slip), w') => (.ok (.error slip), w')
      | (.error fault, w') => (.error fault, w') := by
  have hbind : (guarded >>= next).run = (guarded.run >>= ExceptT.bindCont next) := rfl
  unfold perform
  rw [hbind, Operation.perform_bind]
  generalize guarded.run.perform w = ended
  obtain ⟨r, w'⟩ := ended
  match r with
  | .ok (.ok _) | .ok (.error _) | .error _ => rfl

theorem perform_attempt (guarded : Guarded α) :
    perform (attempt guarded) w = match perform guarded w with
      | (.ok (.ok a), w') => (.ok (.ok (.ok a)), w')
      | (.ok (.error slip), w') => (.ok (.error slip), w')
      | (.error (.error error), w') => (.ok (.ok (.error error)), w')
      | (.error .panic, w') => (.error .panic, w') := by
  unfold perform attempt
  show (Operation.attempt guarded.run >>= _).perform w = _
  rw [Operation.perform_bind, Operation.perform_attempt]
  generalize guarded.run.perform w = ended
  obtain ⟨r, w'⟩ := ended
  match r with
  | .ok (.ok _) | .ok (.error _) | .error (.error _) | .error .panic => rfl

theorem perform_locked (guarded : Guarded α) :
    perform (locked guarded) w =
      if w.db.poisoned then (.error (.error (.illegalState .lockPoisoned)), w)
      else match perform guarded w with
        | (.error .panic, w') => (.error .panic, w'.poison)
        | ended => ended := by
  unfold perform
  show (Operation.locked guarded.run).perform w = _
  rw [Operation.perform_locked]
  generalize guarded.run.perform w = ended
  obtain ⟨r, w'⟩ := ended
  match r with
  | .ok _ | .error (.error _) | .error .panic => rfl

theorem perform_useUp (session : Session) (guarded : Guarded Unit) :
    perform (useUp session guarded) w = match perform guarded w with
      | (.ok (.ok ()), w') => perform (dropSession session) w'
      | (.ok (.error slip), w') => (.ok (.error slip), w')
      | (.error fault, w') => match perform (dropSession session) w' with
        | (.ok (.ok ()), w'') => (.error fault, w'')
        | dropped => dropped := by
  unfold perform useUp Operation.perform ExceptT.run ExceptT.mk
  dsimp only
  match guarded w with
  | .ok (.ok ()) w' => rfl
  | .ok (.error slip) w' => rfl
  | .error fault w' =>
    dsimp only
    match dropSession session w' with
    | .ok (.ok ()) w'' => rfl
    | .ok (.error slip) w'' => rfl
    | .error later w'' => rfl

end

/-! ### Safe operations -/

/-- Carried out on `w`, the operation takes no number of a layer back.
If the numbers tally before it, and that of the next layer still fits
into 64 bits after it, they tally after it, and the guarded operation
does the same and does not slip. -/
def Safe (guarded : Guarded α) (body : Operation α) (w : World) : Prop :=
  body.Ends w fun r w' => w.db.coordinator.nextSeq ≤ w'.db.coordinator.nextSeq ∧
    (w.db.coordinator.Tallies → w'.db.coordinator.nextSeq < 2 ^ 64 →
      w'.db.coordinator.Tallies ∧ guarded.perform w = (r.map .ok, w'))

variable {guarded : Guarded α} {body : Operation α} {w : World}

/-- What leaves the numbers alone needs no guards. -/
theorem safe_lift (h : body.Steady) : Safe (liftM body) body w := by
  have hsame := h w
  exact ⟨Nat.le_of_eq hsame.nextSeq.symm,
    fun htallies _ => ⟨htallies.congr hsame, perform_lift w body⟩⟩

theorem safe_pure (a : α) : Safe (pure a) (pure a) w := safe_lift (steady_pure a)

theorem safe_fail (error : Error) : Safe (fail error : Operation (Except Slip α)) (fail error) w :=
  ⟨Nat.le_refl _, fun htallies _ => ⟨htallies, rfl⟩⟩

/-- What follows a first part is safe where this succeeds, and more can
be known of where that is. -/
theorem Safe.bind_of {next : α → Guarded β} {next' : α → Operation β}
    {P : Except Fault α → World → Prop} (h : Safe guarded body w) (hend : body.Ends w P)
    (hnext : ∀ a w', P (.ok a) w' → Safe (next a) (next' a) w') :
    Safe (guarded >>= next) (body >>= next') w := by
  unfold Safe at *
  rw [ends_bind]
  refine (h.and hend).mono fun r w' hfirst => ?_
  obtain ⟨⟨hle, hfirst⟩, hend⟩ := hfirst
  cases r with
  | error fault =>
    refine ⟨hle, fun htallies hbound => ?_⟩
    obtain ⟨htallies', hperform⟩ := hfirst htallies hbound
    exact ⟨htallies', by rw [perform_bind, hperform]; rfl⟩
  | ok a =>
    refine (hnext a w' hend).mono fun r w'' hlater => ?_
    obtain ⟨hle', hlater⟩ := hlater
    refine ⟨Nat.le_trans hle hle', fun htallies hbound => ?_⟩
    -- The bound at the end is one in the middle, for the numbers only grow.
    obtain ⟨htallies', hperform⟩ := hfirst htallies (Nat.lt_of_le_of_lt hle' hbound)
    obtain ⟨htallies'', hperform'⟩ := hlater htallies' hbound
    exact ⟨htallies'', by rw [perform_bind, hperform]; exact hperform'⟩

theorem Safe.bind {next : α → Guarded β} {next' : α → Operation β} (h : Safe guarded body w)
    (hnext : ∀ a w', Safe (next a) (next' a) w') :
    Safe (guarded >>= next) (body >>= next') w :=
  h.bind_of (P := fun _ _ => True) trivial fun a w' _ => hnext a w'

theorem safe_steady {next : α → Guarded β} {next' : α → Operation β} (h : body.Steady)
    (hnext : ∀ a w', w.db.coordinator.SameNumbers w'.db.coordinator →
      Safe (next a) (next' a) w') : Safe (liftM body >>= next) (body >>= next') w :=
  (safe_lift h).bind_of (h w) fun a w' hsame => hnext a w' hsame

theorem safe_get {next : World → Guarded β} {next' : World → Operation β}
    (h : Safe (next w) (next' w) w) :
    Safe (liftM (get : Operation World) >>= next) (get >>= next') w := h

theorem safe_getCoordinator {next : Coordinator → Guarded β} {next' : Coordinator → Operation β}
    (h : Safe (next w.db.coordinator) (next' w.db.coordinator) w) :
    Safe (liftM getCoordinator >>= next) (getCoordinator >>= next') w := h

/-- The guarded operation may look at the coordinator alone. -/
theorem safe_look {next : Coordinator → Guarded α} (h : Safe (next w.db.coordinator) body w) :
    Safe (liftM getCoordinator >>= next) body w := h

/-- A guard that does not fail while the numbers tally. -/
theorem safe_guard {x : Except Slip β} {b : β} {next : β → Guarded α}
    (h : w.db.coordinator.Tallies → w.db.coordinator.nextSeq < 2 ^ 64 → x = .ok b)
    (hnext : Safe (next b) body w) : Safe (liftM x >>= next) body w := by
  refine Ends.mono hnext fun r w' hend => ⟨hend.1, fun htallies hbound => ?_⟩
  obtain ⟨htallies', hperform⟩ := hend.2 htallies hbound
  rw [h htallies (Nat.lt_of_le_of_lt hend.1 hbound)]
  exact ⟨htallies', hperform⟩

theorem safe_guard_pure {x : Except Slip α} {a : α}
    (h : w.db.coordinator.Tallies → w.db.coordinator.nextSeq < 2 ^ 64 → x = .ok a) :
    Safe (liftM x) (pure a) w := by
  refine ⟨Nat.le_refl _, fun htallies hbound => ⟨htallies, ?_⟩⟩
  rw [h htallies hbound]
  rfl

/-- A change without a guard that keeps the numbers tallying. -/
theorem safe_update {f : Coordinator → Coordinator}
    (hle : w.db.coordinator.nextSeq ≤ (f w.db.coordinator).nextSeq)
    (h : w.db.coordinator.Tallies → (f w.db.coordinator).Tallies) :
    Safe (liftM (update f)) (update f) w :=
  ⟨hle, fun htallies _ => ⟨h htallies, perform_lift w (update f)⟩⟩

/-- A guarded change that keeps the numbers tallying. -/
theorem safe_amend {f : Coordinator → Except Slip Coordinator} {f' : Coordinator → Coordinator}
    (hle : w.db.coordinator.nextSeq ≤ (f' w.db.coordinator).nextSeq)
    (h : w.db.coordinator.Tallies → (f' w.db.coordinator).nextSeq < 2 ^ 64 →
      f w.db.coordinator = .ok (f' w.db.coordinator) ∧ (f' w.db.coordinator).Tallies) :
    Safe (amend f) (update f') w := by
  refine ⟨hle, fun htallies hbound => ?_⟩
  obtain ⟨hf, htallies'⟩ := h htallies hbound
  refine ⟨htallies', ?_⟩
  have hamend : perform (amend f) w =
      perform (liftM (f w.db.coordinator) >>= fun changed => liftM (update fun _ => changed)) w :=
    rfl
  rw [hamend, hf]
  rfl

theorem safe_ite {p : Prop} [Decidable p] {other : Guarded α} {other' : Operation α}
    (hpos : p → Safe guarded body w) (hneg : ¬p → Safe other other' w) :
    Safe (if p then guarded else other) (if p then body else other') w := by
  split
  · exact hpos ‹_›
  · exact hneg ‹_›

theorem Safe.attempt (h : Safe guarded body w) :
    Safe (attempt guarded) (Operation.attempt body) w := by
  unfold Safe at *
  rw [ends_attempt]
  refine h.mono fun r w' hend => ?_
  match r with
  | .ok _ | .error (.error _) | .error .panic =>
    refine ⟨hend.1, fun htallies hbound => ?_⟩
    obtain ⟨htallies', hperform⟩ := hend.2 htallies hbound
    exact ⟨htallies', by rw [perform_attempt, hperform]; rfl⟩

/-- A lock that lets no one in needs no guards, and poisoning it changes
no number. -/
theorem Safe.locked (h : Safe guarded body w) :
    Safe (locked guarded) (Operation.locked body) w := by
  unfold Safe at *
  rw [ends_locked]
  split
  · rename_i hpoisoned
    refine ⟨Nat.le_refl _, fun htallies _ => ⟨htallies, ?_⟩⟩
    rw [perform_locked, if_pos hpoisoned]
    rfl
  · rename_i hpoisoned
    refine h.mono fun r w' hend => ?_
    match r with
    | .ok _ | .error (.error _) | .error .panic =>
      refine ⟨hend.1, fun htallies hbound => ?_⟩
      obtain ⟨htallies', hperform⟩ := hend.2 htallies hbound
      exact ⟨htallies', by rw [perform_locked, if_neg hpoisoned, hperform]; rfl⟩

theorem safe_useUp {session : Session} {guarded : Guarded Unit} {body : Operation Unit}
    (h : Safe guarded body w) (hdrop : ∀ w, Safe (dropSession session) session.drop w) :
    Safe (useUp session guarded) (session.useUp body) w := by
  unfold Safe at *
  rw [ends_useUp]
  refine h.mono fun r w' hend => (hdrop w').mono fun later w'' hlater => ?_
  obtain ⟨hle, hfirst⟩ := hend
  obtain ⟨hle', hsecond⟩ := hlater
  have hboth : w.db.coordinator.Tallies → w''.db.coordinator.nextSeq < 2 ^ 64 →
      w''.db.coordinator.Tallies ∧ perform guarded w = (r.map .ok, w') ∧
        perform (dropSession session) w' = (later.map .ok, w'') := by
    intro htallies hbound
    obtain ⟨htallies', hperform⟩ := hfirst htallies (Nat.lt_of_le_of_lt hle' hbound)
    obtain ⟨htallies'', hperform'⟩ := hsecond htallies' hbound
    exact ⟨htallies'', hperform, hperform'⟩
  match r, later with
  | .ok (), .ok () | .ok (), .error _ | .error _, .ok () | .error _, .error _ =>
    refine ⟨Nat.le_trans hle hle', fun htallies hbound => ?_⟩
    obtain ⟨htallies'', hperform, hperform'⟩ := hboth htallies hbound
    refine ⟨htallies'', ?_⟩
    rw [perform_useUp, hperform]
    dsimp only [Except.map]
    rw [hperform']
    rfl

end Guarded

end LayeredStore

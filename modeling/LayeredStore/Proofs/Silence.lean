import LayeredStore.Proofs.Runs

/-!
# `LayeredStore.Proofs.Silence`: which operations publish a commit

The event of a commit carries a digest, and what this digest covers has to
be known of every such event. So it has to be known first that no
operation publishes one but those that commit.

* `Coordinator.commits` are the numbers and digests of the commits
  published so far.
* `Operation.Silent` is said of an operation that publishes none, wherever
  it is carried out. There is one rule for each way in which operations are
  put together, and one lemma for each operation.
* `Command.silent_run` and `Database.silent_drop`: no move publishes a
  commit but the two that commit.
-/

set_option autoImplicit false

namespace LayeredStore

/-- The number and the digest of a commit, if the event is one. -/
def Event.commit? : Event → Option (Nat × Digest)
  | commitSession seq digest => some (seq, digest)
  | _ => none

/-- The commits published so far, oldest first. -/
def Coordinator.commits (c : Coordinator) : List (Nat × Digest) := c.published.filterMap (·.commit?)

theorem Coordinator.commits_announce (c : Coordinator) (event : Event) :
    (c.announce event).commits =
      if c.publishing then c.commits ++ event.commit?.toList else c.commits := by
  unfold announce commits
  split
  · rw [List.filterMap_append, List.filterMap_cons, List.filterMap_nil]
    cases event.commit? <;> rfl
  · rfl

theorem Coordinator.published_clampCursor (c : Coordinator) :
    c.clampCursor.published = c.published := by
  unfold clampCursor
  split <;> rfl

namespace Operation

open Coordinator (published_clampCursor)

variable {α β ι : Type}

/-- The operation publishes no commit, wherever it is carried out and
however it ends. -/
def Silent (body : Operation α) : Prop :=
  ∀ w, body.Ends w fun _ w' => w'.db.coordinator.commits = w.db.coordinator.commits

/-! ### How operations are put together -/

theorem silent_pure (a : α) : Silent (pure a) := fun _ => rfl

theorem Silent.bind {body : Operation α} {next : α → Operation β} (h : Silent body)
    (hnext : ∀ a, Silent (next a)) : Silent (body >>= next) := by
  intro w
  rw [ends_bind]
  refine (h w).mono fun r w' hr => ?_
  cases r with
  | ok a => exact (hnext a w').mono fun _ _ hend => hend.trans hr
  | error fault => exact hr

/-- What follows a part that can report a failure: one thing where it
reports none, another where it does. -/
theorem Silent.bindOption {body : Operation (Option α)} {next : Option α → Operation β}
    (h : Silent body) (hnone : Silent (next none)) (hsome : ∀ a, Silent (next (some a))) :
    Silent (body >>= next) := by
  refine h.bind fun result => ?_
  cases result with
  | none => exact hnone
  | some a => exact hsome a

theorem Silent.bindExcept {body : Operation (Except Error α)}
    {next : Except Error α → Operation β} (h : Silent body) (hok : ∀ a, Silent (next (.ok a)))
    (herror : ∀ error, Silent (next (.error error))) : Silent (body >>= next) := by
  refine h.bind fun result => ?_
  cases result with
  | ok a => exact hok a
  | error error => exact herror error

theorem Silent.ite {p : Prop} [Decidable p] {body other : Operation α} (h : Silent body)
    (hother : Silent other) : Silent (if p then body else other) := by
  split
  · exact h
  · exact hother

theorem silent_get : Silent get := fun _ => rfl

theorem silent_getCoordinator : Silent getCoordinator := fun _ => rfl

/-- A change to the coordinator that leaves the published events alone. -/
theorem silent_update {f : Coordinator → Coordinator} (h : ∀ c, (f c).published = c.published) :
    Silent (update f) := fun w =>
  congrArg (List.filterMap Event.commit?) (h w.db.coordinator)

theorem silent_note (notice : Notice) : Silent (note notice) := fun _ => rfl

theorem silent_publish {event : Event} (h : event.commit? = none) : Silent (publish event) := by
  intro w
  rw [ends_publish]
  show (w.db.coordinator.announce event).commits = w.db.coordinator.commits
  rw [Coordinator.commits_announce, h, Option.toList_none, List.append_nil, ite_self]

theorem silent_fail (error : Error) : Silent (fail error : Operation α) := fun _ => rfl

theorem silent_refuse (error : StateError) : Silent (refuse error : Operation α) := fun _ => rfl

theorem silent_reject (error : ArgumentError) : Silent (reject error : Operation α) := fun _ => rfl

theorem silent_conclude (result : Except Error α) : Silent (conclude result) := by
  cases result with
  | ok a => exact silent_pure a
  | error error => exact silent_fail error

theorem silent_write (store : String) (batch : Batch) : Silent (write store batch) := by
  intro w
  rw [ends_write]
  split <;> rfl

theorem Silent.attempt {body : Operation α} (h : Silent body) : Silent (attempt body) := by
  intro w
  rw [ends_attempt]
  refine (h w).mono fun r w' hr => ?_
  match r with
  | .ok _ => exact hr
  | .error (.error _) => exact hr
  | .error .panic => exact hr

theorem Silent.locked {body : Operation α} (h : Silent body) : Silent (locked body) := by
  intro w
  rw [ends_locked]
  split
  · rfl
  · refine (h w).mono fun r w' hr => ?_
    match r with
    | .ok _ => exact hr
    | .error (.error _) => exact hr
    | .error .panic => exact hr

theorem silent_forM {body : ι → Operation Unit} (h : ∀ item, Silent (body item))
    (items : List ι) : Silent (items.forM body) := by
  induction items with
  | nil => exact silent_pure ()
  | cons item items ih => exact (h item).bind fun _ => ih

theorem silent_ensureRunning : Silent ensureRunning := by
  intro w
  rw [ends_ensureRunning]
  split <;> rfl

/-! ### Flushes -/

theorem silent_flushWrite (table : String) {write : Operation (Option IoError)}
    (h : Silent write) : Silent (flushWrite table write) := by
  refine h.bindOption (silent_pure ()) fun source => (silent_note _).bind fun _ => ?_
  exact Silent.bind (silent_update fun _ => rfl) fun _ => silent_fail _

theorem silent_applyRecord (record : JournalRecord) : Silent (applyRecord record) := by
  refine silent_forM (fun table => silent_getCoordinator.bind fun c => ?_) _
  split
  · exact silent_refuse _
  · exact silent_flushWrite _ (Silent.ite (silent_pure _) (silent_write _ _))

/-- A flush publishes that it was made, and no commit. -/
theorem silent_flushOldest (count : Nat) : Silent (flushOldest count) := by
  refine silent_getCoordinator.bind fun c => Silent.ite (silent_pure ()) ?_
  refine (silent_flushWrite _ (Silent.ite (silent_write _ _) (silent_pure _))).bind fun _ => ?_
  refine (silent_applyRecord _).bind fun _ => ?_
  refine Silent.bind (silent_update fun c => published_clampCursor _) fun _ => ?_
  refine (silent_flushWrite _ (silent_write _ _)).bind fun _ => ?_
  refine Silent.bind (silent_update fun _ => rfl) fun _ => silent_getCoordinator.bind fun _ => ?_
  exact (silent_note _).bind fun _ => silent_publish rfl

/-- Nor does carrying out the record of a flush that was interrupted. -/
theorem silent_recoverRunning : Silent recoverRunning := by
  have hreplay : ∀ journal record, Silent (replay journal record) := by
    intro journal record
    -- The record is removed at the end, whether it says anything or not.
    refine Silent.ite ((silent_applyRecord _).bind fun _ => ?_) ?_
    · exact (silent_write _ _).bindOption (silent_pure ()) fun _ => silent_fail _
    · exact (silent_write _ _).bindOption (silent_pure ()) fun _ => silent_fail _
  refine silent_getCoordinator.bind fun c => Silent.ite (silent_pure 0) ?_
  refine silent_get.bind fun w => ?_
  dsimp only
  split
  · exact silent_fail _
  · exact silent_pure 0
  · exact (silent_note _).bind fun _ => (hreplay _ _).bind fun _ => silent_pure _

/-! ### Levels -/

theorem silent_solidify (count : Nat) : Silent (solidify count) := by
  refine Silent.bind (silent_update fun c => published_clampCursor _) fun _ => ?_
  refine silent_getCoordinator.bind fun c => (silent_note _).bind fun _ => ?_
  exact Silent.ite (silent_flushOldest _) (silent_pure ())

/-- A push publishes its layer, and no commit. -/
theorem silent_advance : Silent advance := by
  have hroom : Silent makeRoom :=
    silent_getCoordinator.bind fun c => Silent.ite (silent_solidify _) (silent_pure ())
  refine hroom.bind fun _ => silent_getCoordinator.bind fun c => ?_
  split
  · exact Silent.bind (silent_update fun _ => rfl) fun _ => silent_refuse _
  · refine Silent.bind (silent_update fun _ => rfl) fun _ => silent_getCoordinator.bind fun _ => ?_
    exact (silent_note _).bind fun _ => (silent_publish rfl).bind fun _ => silent_pure _

/-- A discard publishes the layer that is gone, and no commit. -/
theorem silent_retreat (operation : String) (verified? : Option Bool) :
    Silent (retreat operation verified?) := by
  refine silent_getCoordinator.bind fun c => Silent.ite (silent_refuse _) ?_
  refine Silent.bind (silent_update fun c => published_clampCursor _) fun _ => ?_
  refine silent_getCoordinator.bind fun _ => (silent_note _).bind fun _ => ?_
  cases verified? with
  | none => exact silent_publish rfl
  | some verified => exact silent_publish rfl

theorem silent_retreatMany (operation : String) (verify : Bool) (count : Nat) :
    Silent (retreatMany operation verify count) := by
  induction count with
  | zero => exact silent_pure ()
  | succ count ih => exact (silent_retreat _ _).bind fun _ => ih

/-! ### Sessions -/

theorem silent_leaveForced : Silent leaveForced :=
  silent_getCoordinator.bind fun _ => Silent.ite (silent_update fun _ => rfl) (silent_pure ())

theorem silent_settleForced : Silent settleForced :=
  silent_getCoordinator.bind fun _ =>
    Silent.ite ((silent_flushOldest _).bind fun _ => silent_leaveForced) (silent_pure ())

theorem silent_openSession (force : Bool) : Silent (openSession force) := by
  refine silent_ensureRunning.bind fun _ => silent_getCoordinator.bind fun c => ?_
  dsimp only
  split
  · refine Silent.bind (silent_update fun _ => rfl) fun _ => silent_getCoordinator.bind fun _ => ?_
    exact (silent_note _).bind fun _ => silent_pure _
  -- A session that is forced pushes its layer as any other does.
  have hopened : ∀ seq, Silent (do
      update (·.openNewUnit (some seq))
      return ⟨c.statuses.length, false, false⟩ : Operation Session) := fun seq =>
    Silent.bind (silent_update fun _ => rfl) fun _ => silent_pure _
  have hfailed : ∀ error, Silent (do
      if !c.enabled then update (·.unforce)
      fail error : Operation Session) := fun error =>
    Silent.ite (Silent.bind (silent_update fun _ => rfl) fun _ => silent_fail _) (silent_fail _)
  have hpush := silent_advance.attempt
  refine Silent.ite (Silent.bind (silent_update fun _ => rfl) fun _ => silent_pure _) ?_
  refine Silent.ite (Silent.bind (silent_update fun _ => rfl) fun _ => ?_) ?_
  · exact hpush.bindExcept hopened hfailed
  · exact hpush.bindExcept hopened hfailed

/-- A unit of work that is discarded is not committed. -/
theorem silent_revokeUnit : Silent revokeUnit := by
  refine silent_getCoordinator.bind fun c => ?_
  split
  · exact silent_pure ()
  rename_i unit hunit
  refine Silent.bind (silent_update fun c => ?_) fun _ => ?_
  · obtain ⟨statuses, hresolved⟩ :=
      Coordinator.resolveOpen_eq { c with openUnit := none } unit .revoked
    rw [hresolved]
  dsimp only
  split
  · refine Silent.bind (silent_update fun _ => rfl) fun _ => ?_
    exact (silent_note _).bind fun _ => silent_leaveForced
  · exact (silent_retreat _ _).bind fun _ => silent_leaveForced

theorem silent_abandonSession (session : Nat) (status : SessionStatus) :
    Silent (abandonSession session status) := by
  refine silent_getCoordinator.bind fun c => Silent.ite ?_ (silent_pure ())
  refine Silent.bind (silent_update fun _ => rfl) fun _ => ?_
  split
  · exact silent_pure ()
  · refine Silent.ite ?_ (silent_pure ())
    refine Silent.bind (silent_update fun _ => rfl) fun _ => silent_getCoordinator.bind fun _ => ?_
    exact Silent.ite (silent_note _) silent_revokeUnit

/-! ### History, modes and tables -/

theorem silent_revoke : Silent revoke := by
  refine silent_ensureRunning.bind fun _ => silent_getCoordinator.bind fun c => ?_
  refine Silent.ite (Silent.ite silent_revokeUnit ?_) (Silent.ite (silent_refuse _) ?_)
  · exact Silent.bind (silent_update fun _ => rfl) fun _ => silent_note _
  · exact Silent.ite silent_revokeUnit (silent_retreat _ _)

theorem silent_merge : Silent merge := by
  refine silent_ensureRunning.bind fun _ => silent_getCoordinator.bind fun c => ?_
  split
  · exact silent_refuse _
  · exact Silent.ite (silent_refuse _) (silent_flushOldest _)

theorem silent_popMany (count : Nat) (verify : Bool) : Silent (popMany count verify) := by
  refine silent_ensureRunning.bind fun _ => silent_getCoordinator.bind fun c => ?_
  refine Silent.ite (silent_refuse _) (Silent.ite (silent_pure ()) ?_)
  refine Silent.ite (silent_refuse _) (Silent.ite (silent_reject _) ?_)
  split
  · exact silent_refuse _
  · exact silent_retreatMany _ _ _

theorem silent_enable : Silent enable := by
  refine silent_ensureRunning.bind fun _ => silent_getCoordinator.bind fun c => ?_
  refine Silent.ite (silent_pure ()) (Silent.ite (silent_refuse _) ?_)
  exact Silent.bind (silent_update fun _ => rfl) fun _ => silent_note _

theorem silent_disable : Silent disable := by
  refine silent_ensureRunning.bind fun _ => silent_getCoordinator.bind fun c => ?_
  refine Silent.ite (silent_pure ())
    (Silent.ite (silent_refuse _) (Silent.ite (silent_refuse _) ?_))
  exact Silent.bind (silent_update fun _ => rfl) fun _ => silent_note _

theorem silent_setCursor (cursor : Cursor) (offset : Nat) : Silent (setCursor cursor offset) := by
  refine silent_ensureRunning.bind fun _ => silent_getCoordinator.bind fun c => ?_
  cases cursor with
  | solidity => exact Silent.ite (silent_reject _) (silent_update fun _ => rfl)
  | head => exact Silent.ite (silent_reject _) (silent_update fun _ => rfl)

theorem silent_setMaxSize (limit : Nat) : Silent (setMaxSize limit) := by
  refine silent_ensureRunning.bind fun _ => Silent.ite (silent_reject _) ?_
  refine Silent.bind (silent_update fun _ => rfl) fun _ => silent_getCoordinator.bind fun c => ?_
  exact Silent.ite (silent_solidify _) (silent_pure ())

theorem silent_setMaxFlushCount (limit : Nat) : Silent (setMaxFlushCount limit) := by
  refine silent_ensureRunning.bind fun _ => Silent.ite (silent_reject _) ?_
  refine Silent.bind (silent_update fun _ => rfl) fun _ => silent_getCoordinator.bind fun c => ?_
  exact Silent.ite (silent_flushOldest _) (silent_pure ())

theorem silent_addTable (name root : String) : Silent (addTable name root) := by
  refine silent_ensureRunning.bind fun _ => silent_getCoordinator.bind fun c => ?_
  refine Silent.ite (silent_reject _) (Silent.bind (silent_update fun _ => rfl) fun _ => ?_)
  exact (silent_note _).bind fun _ => silent_pure _

theorem silent_writeEntry (table : Nat) (key : Bytes) (entry : Entry) :
    Silent (writeEntry table key entry) := by
  have hdirect : ∀ chain, Silent (writeDirect chain key entry) := by
    intro chain
    exact Silent.bindOption (Silent.ite (silent_pure _) (silent_write _ _)) (silent_pure ())
      fun _ => silent_fail _
  refine silent_ensureRunning.bind fun _ => silent_getCoordinator.bind fun c => ?_
  split
  · exact silent_pure ()
  · refine Silent.ite (silent_update fun _ => rfl) ?_
    exact Silent.ite ((silent_flushOldest _).bind fun _ => hdirect _) (hdirect _)

/-! ### Starting and stopping -/

theorem silent_check : Silent check := by
  refine silent_recoverRunning.bind fun _ => silent_getCoordinator.bind fun c => ?_
  split
  · exact silent_refuse _
  · exact silent_pure _

theorem silent_stop : Silent stop := by
  have hflushAll : Silent flushAll := by
    refine silent_getCoordinator.bind fun c => ?_
    exact Silent.ite ((silent_note _).bind fun _ => silent_refuse _) (silent_flushOldest _)
  have hflush : Silent flushLeft := by
    refine hflushAll.attempt.bind fun _ => Silent.bind (silent_update fun _ => rfl) fun _ => ?_
    exact (silent_note _).bind fun _ => silent_conclude _
  have hrevoke : Silent revokeLeft := by
    refine (silent_note _).bind fun _ => ?_
    exact silent_revokeUnit.attempt.bindExcept (fun _ => silent_pure ()) fun _ => silent_note _
  refine silent_getCoordinator.bind fun c => Silent.ite (silent_pure ()) ?_
  exact Silent.ite (hrevoke.bind fun _ => hflush) hflush

end Operation

open Operation

/-! ### The database and its handles -/

/-- Letting go of a session revokes it, if anything. -/
theorem Session.silent_drop (session : Session) : Silent session.drop := by
  refine silent_getCoordinator.bind fun c => Silent.ite ?_ (silent_pure ())
  refine (silent_note _).bind fun _ => silent_get.bind fun w => Silent.ite (silent_note _) ?_
  exact (silent_abandonSession _ _).locked.attempt.bindExcept (fun _ => silent_pure ())
    fun _ => silent_note _

theorem Session.silent_revoke (session : Session) : Silent session.revoke := by
  intro w
  unfold Session.revoke
  rw [ends_useUp]
  refine ((silent_abandonSession session.id .revoked).locked w).mono fun r w₁ h => ?_
  refine (session.silent_drop w₁).mono fun later w₂ h' => ?_
  cases r <;> cases later <;> exact h'.trans h

namespace Database

theorem silent_shutdown : Silent shutdown := by
  have hbus : Silent stopBus := by
    intro w
    rw [ends_stopBus]
    unfold World.withoutBus
    dsimp only
    split
    · rfl
    · split <;> rfl
  refine silent_get.bind fun w => Silent.ite (silent_refuse _) ?_
  exact silent_stop.locked.attempt.bind fun _ => hbus.bind fun _ => silent_conclude _

/-- Letting go of the database commits nothing. -/
theorem silent_drop : Silent drop :=
  silent_shutdown.attempt.bindExcept (fun _ => silent_pure ()) fun _ => silent_note _

end Database

namespace Command

/-- The command commits a session. -/
def Commits : Command → Prop
  | commitSession _ | commit => True
  | _ => False

/-- The other commands publish no commit. -/
theorem silent_run {command : Command} (h : ¬command.Commits) : Silent command.run := by
  cases command with
  | addTable name root =>
    exact ((silent_addTable name root).bind fun _ => silent_pure _).locked.bind fun _ =>
      silent_pure _
  | openSession force => exact (silent_openSession force).locked.bind fun _ => silent_pure _
  | commitSession session => exact absurd trivial h
  | revokeSession session => exact session.silent_revoke.bind fun _ => silent_pure _
  | dropSession session => exact session.silent_drop.bind fun _ => silent_pure _
  | commit => exact absurd trivial h
  | revoke => exact silent_revoke.locked.bind fun _ => silent_pure _
  | merge => exact silent_merge.locked.bind fun _ => silent_pure _
  | popMany count verify => exact (silent_popMany count verify).locked.bind fun _ => silent_pure _
  | enable => exact silent_enable.locked.bind fun _ => silent_pure _
  | disable => exact silent_disable.locked.bind fun _ => silent_pure _
  | setCursor cursor offset =>
    exact (silent_setCursor cursor offset).locked.bind fun _ => silent_pure _
  | setMaxSize limit => exact (silent_setMaxSize limit).locked.bind fun _ => silent_pure _
  | setMaxFlushCount limit =>
    exact (silent_setMaxFlushCount limit).locked.bind fun _ => silent_pure _
  | check => exact silent_check.locked.bind fun _ => silent_pure _
  | shutdown => exact Database.silent_shutdown.bind fun _ => silent_pure _
  | write table key entry =>
    exact (silent_writeEntry table.index key entry).locked.bind fun _ => silent_pure _

end Command

end LayeredStore

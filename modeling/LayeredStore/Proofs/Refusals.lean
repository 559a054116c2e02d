import LayeredStore.Proofs.Routes

/-!
# `LayeredStore.Proofs.Refusals`: a call that is refused changes nothing

A call asks all its questions before it changes anything. If one of them
is answered with an error, the whole world is left as it was; and once
the call has begun to change something, only a store can stop it.

* `Error.Refuses` are the errors of calls that were refused, and
  `Request` are the calls that can be.
* `World.Accepted` is how an operation ends that is past its questions.
  `flushOldest_accepted`, `solidify_accepted`, `advance_accepted`,
  `revokeUnit_accepted`, `finishUnit_accepted` and
  `retreatMany_accepted` say so of what calls do then.
* `World.Unmoved` is how a call ends, and `Request.body_unmoved` says so
  of every one.
* `World.refused_changes_nothing`: the same in every state that a run
  reaches.
-/

set_option autoImplicit false

namespace LayeredStore

/-- The error says that a call was refused, and not that it was begun and
then stopped. A commit that finds its unit of work failed has resolved the
session, and with it the unit. -/
def Error.Refuses : Error → Prop
  | .illegalState _ => True
  | .invalidArgument _ => True
  | .sessionMisuse error => error ≠ .nestedSessionAbandoned
  | .ioFailure _ _ => False

/-- The calls that can be refused. -/
inductive Request where
  /-- Register a table over a store. -/
  | addTable (name root : String)
  /-- Write an entry to a table. -/
  | write (table : Nat) (key : Bytes) (entry : Entry)
  /-- Open a session. -/
  | openSession (force : Bool)
  /-- Resolve the newest session that is open as successful. -/
  | commitInnermost
  /-- Resolve a session as successful. -/
  | commitSession (session : Nat)
  /-- Resolve a session as failed. -/
  | abandonSession (session : Nat) (status : SessionStatus)
  /-- Discard the newest level. -/
  | revoke
  /-- Move the pending layers and the oldest live one into the roots. -/
  | merge
  /-- Discard the newest levels. -/
  | popMany (count : Nat) (verify : Bool)
  /-- Make sessions that can be rolled back. -/
  | enable
  /-- Make sessions that write straight into the roots. -/
  | disable
  /-- Choose where reads are served from. -/
  | setCursor (cursor : Cursor) (offset : Nat)
  /-- Limit the live layers. -/
  | setMaxSize (limit : Nat)
  /-- Limit the pending layers. -/
  | setMaxFlushCount (limit : Nat)
  deriving DecidableEq, Repr

namespace Request

/-- What a call does under the lock; what it answers does not matter
here. -/
def body : Request → Operation Unit
  | addTable name root => do let _ ← Operation.addTable name root
  | write table key entry => Operation.writeEntry table key entry
  | openSession force => do let _ ← Operation.openSession force
  | commitInnermost => Operation.commitInnermost
  | commitSession session => Operation.commitSession session
  | abandonSession session status => Operation.abandonSession session status
  | revoke => Operation.revoke
  | merge => Operation.merge
  | popMany count verify => Operation.popMany count verify
  | enable => Operation.enable
  | disable => Operation.disable
  | setCursor cursor offset => Operation.setCursor cursor offset
  | setMaxSize limit => Operation.setMaxSize limit
  | setMaxFlushCount limit => Operation.setMaxFlushCount limit

/-- Makes the call. -/
def run (request : Request) : Operation Unit := Operation.locked request.body

end Request

namespace World

variable {α β : Type}

/-- How an operation ends that nothing but a store can stop. -/
def Accepted (r : Except Fault α) : Prop :=
  ∀ error, r = .error (.error error) → ¬error.Refuses

/-- How a call ends: if it is refused, nothing has changed. -/
def Unmoved (w : World) (r : Except Fault α) (w' : World) : Prop :=
  ∀ error, r = .error (.error error) → error.Refuses → w' = w

theorem accepted_ok (a : α) : Accepted (.ok a : Except Fault α) := nofun

theorem accepted_panic : Accepted (.error .panic : Except Fault α) := nofun

theorem accepted_ioFailure (table : String) (source : IoError) :
    Accepted (.error (.error (.ioFailure table source)) : Except Fault α) := by
  intro error heq
  cases heq
  exact id

/-- Whether a fault is accepted does not depend on the result that was
asked for. -/
theorem Accepted.fault {fault : Fault} (h : Accepted (.error fault : Except Fault α)) :
    Accepted (.error fault : Except Fault β) :=
  fun error heq => h error (by cases heq; rfl)

theorem Accepted.unmoved {r : Except Fault α} (h : Accepted r) (w w' : World) : w.Unmoved r w' :=
  fun error heq hrefuses => absurd hrefuses (h error heq)

theorem unmoved_self (w : World) (r : Except Fault α) : w.Unmoved r w := fun _ _ _ => rfl

end World

open World

theorem FlushEnd.accepted {w w' : World} {n : Nat} {r : Except Fault Unit}
    (h : FlushEnd w n r w') : Accepted r := by
  cases h with
  | nothing | finished => exact accepted_ok _
  | unfit | halted | unclearedHalted => exact accepted_ioFailure _ _
  | crashed | unclearedCrashed => exact accepted_panic

namespace Operation

variable {w : World}

/-! ### Past the questions -/

theorem flushOldest_accepted (hnames : w.db.coordinator.tableNames.Nodup) (count : Nat) :
    (flushOldest count).Ends w fun r _ => Accepted r :=
  (flushOldest_ends w hnames count).mono fun _ _ hend => hend.accepted

theorem solidify_accepted (hnames : w.db.coordinator.tableNames.Nodup) (count : Nat) :
    (solidify count).Ends w fun r _ => Accepted r := by
  -- Making layers pending renames no table.
  have hsolid : (w.db.coordinator.solidify count).tableNames = w.db.coordinator.tableNames :=
    List.map_map
  have hsame := (Coordinator.sameStacks_bump (w.db.coordinator.solidify count)).trans
    (Coordinator.sameStacks_clampCursor _)
  have hnames' : (w.db.coordinator.solidify count).bump.clampCursor.tableNames.Nodup := by
    unfold Coordinator.tableNames at hsolid hnames ⊢
    rw [hsame.tables, hsolid]
    exact hnames
  refine solidify_rule fun w₁ hw₁ => ⟨fun _ => accepted_ok _, fun _ => ?_⟩
  exact flushOldest_accepted (hw₁ ▸ hnames') _

/-- Making room for a layer can be stopped by a store alone, and then the
tables are in step, so the layer is pushed. -/
theorem advance_accepted (hsound : w.db.coordinator.Sound) (hrun : w.Running)
    (hclosed : w.db.coordinator.openSeq? = none) : advance.Ends w fun r _ => Accepted r := by
  have hroom : makeRoom.Ends w fun r _ => Accepted r :=
    makeRoom_rule (fun _ => accepted_ok _) fun _ => solidify_accepted hsound.names _
  rw [ends_advance]
  refine (hroom.and (makeRoom_led hsound hrun hclosed)).mono fun r w₁ hend => ?_
  match r, hend with
  | .error fault, hend => exact hend.1.fault
  | .ok (), hend =>
    have hpath : Quietly w w₁ := hend.2.1
    dsimp only
    rw [ends_pushLevel (hpath.sound hsound)]
    exact accepted_ok _

theorem revokeUnit_accepted (hsound : w.db.coordinator.Sound) (hpoisoned : w.db.poisoned = false) :
    revokeUnit.Ends w fun r _ => Accepted r :=
  (revokeUnit_led hsound hpoisoned).mono fun _ _ hend => hend.1 ▸ accepted_ok ()

theorem finishUnit_accepted (hnames : w.db.coordinator.tableNames.Nodup) :
    finishUnit.Ends w fun r _ => Accepted r := by
  have hsettle : ∀ w' : World, w'.db.coordinator.tableNames = w.db.coordinator.tableNames →
      settleForced.Ends w' fun r _ => Accepted r := by
    intro w' hsame
    refine settleForced_rule (fun _ => accepted_ok _) fun _ => ?_
    exact (flushOldest_accepted (hsame ▸ hnames) _).mono_cases
      (fun _ w'' _ => (ends_leaveForced w'' _).mpr (accepted_ok ())) fun _ _ => id
  refine finishUnit_rule (fun _ => accepted_ok _) (fun _ _ _ => hsettle _ rfl)
    fun unit seq c _ _ hc => hsettle _ ?_
  -- A seal changes the newest layers, and publishing it no table at all.
  refine (congrArg (List.map Chain.name) (Coordinator.sameStacks_announce _ _).tables).trans ?_
  rw [hc]
  refine (List.map_map).trans (List.map_congr_left fun chain _ => ?_)
  show (chain.modifyHead _).name = chain.name
  unfold Chain.modifyHead
  split <;> rfl

/-- As many layers as are live can be discarded. -/
theorem retreatMany_accepted (operation : String) (verify : Bool) {count : Nat}
    (hcount : count ≤ w.db.coordinator.depth) :
    (retreatMany operation verify count).Ends w fun r _ => Accepted r := by
  induction count generalizing w with
  | zero => exact accepted_ok _
  | succ count ih =>
    rw [ends_retreatMany_succ, ends_retreat (Nat.lt_of_lt_of_le (Nat.succ_pos count) hcount)]
    refine ih ?_
    -- One layer less is live.
    have hsame := (Coordinator.sameStacks_bump w.db.coordinator.discardHead).trans
      ((Coordinator.sameStacks_clampCursor _).trans (Coordinator.sameStacks_announce _
        (discardEvent (w.db.coordinator.levels.getLast?.getD 0)
          w.db.coordinator.discardHead.bump.clampCursor.depth (some verify))))
    show count ≤ Coordinator.depth _
    rw [Coordinator.depth, World.withCoordinator, hsame.levels, hsame.pending]
    show count ≤ w.db.coordinator.levels.dropLast.length - w.db.coordinator.pending
    rw [List.length_dropLast]
    unfold Coordinator.depth at hcount
    omega

/-! ### The questions -/

theorem addTable_unmoved (name root : String) : (addTable name root).Ends w w.Unmoved := by
  exact addTable_rule (fun _ _ => w.unmoved_self _) (fun _ _ => w.unmoved_self _)
    fun _ _ => (accepted_ok _).unmoved _ _

theorem writeEntry_unmoved (hnames : w.db.coordinator.tableNames.Nodup) (table : Nat) (key : Bytes)
    (entry : Entry) : (writeEntry table key entry).Ends w w.Unmoved := by
  have hdirect : ∀ (chain : Chain) (w' : World),
      (writeDirect chain key entry).Ends w' w.Unmoved := by
    intro chain w'
    rw [ends_writeDirect]
    split
    · exact (accepted_ok _).unmoved _ _
    · exact (accepted_ioFailure _ _).unmoved _ _
    · exact accepted_panic.unmoved _ _
  exact writeEntry_rule (fun _ _ => w.unmoved_self _) (fun _ _ => w.unmoved_self _)
    (fun _ _ _ _ => (accepted_ok _).unmoved _ _)
    (fun chain _ _ _ _ => (flushOldest_accepted hnames _).mono_cases
      (fun _ w' _ => hdirect chain w') fun _ _ hend => hend.unmoved _ _)
    fun chain _ _ _ _ => hdirect chain w

theorem openSession_unmoved (hsound : w.db.coordinator.Sound) (hpoisoned : w.db.poisoned = false)
    (force : Bool) : (openSession force).Ends w w.Unmoved := by
  refine openSession_rule (fun _ _ => w.unmoved_self _)
    (fun _ _ _ => (accepted_ok _).unmoved _ _) (fun _ _ _ _ => (accepted_ok _).unmoved _ _)
    fun hstopped hunit _ => ?_
  -- Forcing enables the database before there is room for the layer, but
  -- making room is past all questions.
  have hsound' : (w.withCoordinator w.db.coordinator.force).db.coordinator.Sound :=
    hsound.congr (Coordinator.sameStacks_force _)
  have hrun : (w.withCoordinator w.db.coordinator.force).Running :=
    ⟨hpoisoned, Coordinator.halted_of_stopped?_eq_none hstopped⟩
  have hclosed : w.db.coordinator.openSeq? = none := Coordinator.openSeq?_of_none hunit
  refine (advance_accepted hsound' hrun hclosed).mono fun r w' hend => ?_
  match r, hend with
  | .ok seq, _ => exact (accepted_ok _).unmoved _ _
  | .error (.error error), hend => exact hend.fault.unmoved _ _
  | .error .panic, _ => exact accepted_panic.unmoved _ _

theorem commitSession_unmoved (hsound : w.db.coordinator.Sound) (hpoisoned : w.db.poisoned = false)
    (session : Nat) : (commitSession session).Ends w w.Unmoved := by
  refine commitSession_rule (fun _ => w.unmoved_self _) (fun _ => w.unmoved_self _)
    (fun _ _ _ => w.unmoved_self _) (fun _ _ _ => w.unmoved_self _) fun unit _ _ _ _ => ?_
  intro w₁
  -- From here on the session is resolved.
  have hsound' : w₁.db.coordinator.Sound :=
    hsound.congr (Coordinator.sameStacks_setStatus _ session .committed)
  refine ⟨fun _ => (accepted_ok _).unmoved _ _, fun _ _ => ?_, fun _ _ => ?_⟩
  · refine (revokeUnit_accepted hsound' hpoisoned).mono_cases (fun _ w' _ => ?_)
      fun _ _ hend => hend.unmoved _ _
    intro error heq hrefuses
    cases heq
    exact absurd rfl hrefuses
  · exact (finishUnit_accepted hsound'.names).mono fun _ _ hend => hend.unmoved _ _

theorem commitInnermost_unmoved (hsound : w.db.coordinator.Sound)
    (hpoisoned : w.db.poisoned = false) : commitInnermost.Ends w w.Unmoved := by
  rw [ends_commitInnermost]
  cases w.db.coordinator.innermost? with
  | none => exact w.unmoved_self _
  | some session => exact commitSession_unmoved hsound hpoisoned session

/-- Resolving a session as failed is never refused. -/
theorem abandonSession_accepted (hsound : w.db.coordinator.Sound)
    (hpoisoned : w.db.poisoned = false) (session : Nat) (status : SessionStatus) :
    (abandonSession session status).Ends w fun r _ => Accepted r := by
  refine abandonSession_rule (fun _ => accepted_ok _) (fun _ _ => accepted_ok _)
    fun unit c _ hunit _ hc => ⟨fun _ => accepted_ok _, fun _ => ?_⟩
  have hsame : w.db.coordinator.SameStacks c := by
    rw [hc]
    exact ⟨rfl, rfl, rfl, rfl, rfl, (Coordinator.openSeq?_of_some hunit).symm⟩
  exact revokeUnit_accepted (w := w.withCoordinator c) (hsound.congr hsame) hpoisoned

theorem revoke_unmoved (hsound : w.db.coordinator.Sound) (hpoisoned : w.db.poisoned = false) :
    revoke.Ends w w.Unmoved := by
  apply revoke_rule
  case refused => exact fun _ _ => w.unmoved_self _
  case counted => exact fun _ _ _ => (accepted_ok _).unmoved _ _
  case empty => exact fun _ _ _ => w.unmoved_self _
  case unit =>
    exact fun _ _ _ _ => (revokeUnit_accepted hsound hpoisoned).mono fun _ _ hend =>
      hend.unmoved _ _
  case level =>
    intro _ _ hdepth _
    rw [ends_retreat hdepth]
    exact (accepted_ok _).unmoved _ _

theorem merge_unmoved (hnames : w.db.coordinator.tableNames.Nodup) : merge.Ends w w.Unmoved := by
  exact merge_rule (fun _ _ => w.unmoved_self _) (fun _ _ => w.unmoved_self _)
    (fun _ _ _ _ => w.unmoved_self _) fun _ _ _ _ =>
      (flushOldest_accepted hnames _).mono fun _ _ hend => hend.unmoved _ _

/-- All layers are looked at before the first is discarded. -/
theorem popMany_unmoved (count : Nat) (verify : Bool) :
    (popMany count verify).Ends w w.Unmoved := by
  apply popMany_rule rfl
  case popped =>
    intro _ _ _ hcount _
    exact (retreatMany_accepted _ verify hcount).mono fun _ _ hend => hend.unmoved _ _
  all_goals
    intros
    exact w.unmoved_self _

theorem enable_unmoved : enable.Ends w w.Unmoved := by
  exact enable_rule (fun _ _ => w.unmoved_self _) (fun _ _ => w.unmoved_self _)
    (fun _ _ _ => w.unmoved_self _) fun _ _ _ => (accepted_ok _).unmoved _ _

theorem disable_unmoved : disable.Ends w w.Unmoved := by
  exact disable_rule (fun _ _ => w.unmoved_self _) (fun _ _ => w.unmoved_self _)
    (fun _ _ _ => w.unmoved_self _) (fun _ _ _ _ => w.unmoved_self _)
    fun _ _ _ _ => (accepted_ok _).unmoved _ _

theorem setCursor_unmoved (cursor : Cursor) (offset : Nat) :
    (setCursor cursor offset).Ends w w.Unmoved := by
  exact setCursor_rule (fun _ _ => w.unmoved_self _) (fun _ _ _ => w.unmoved_self _)
    (fun _ _ _ => w.unmoved_self _) (fun _ _ _ => (accepted_ok _).unmoved _ _)
    fun _ _ _ => (accepted_ok _).unmoved _ _

theorem setMaxSize_unmoved (hnames : w.db.coordinator.tableNames.Nodup) (limit : Nat) :
    (setMaxSize limit).Ends w w.Unmoved := by
  have hsolidify : ∀ count, (solidify count).Ends (w.withCoordinator { w.db.coordinator with
      maxSize := limit }) fun r _ => Accepted r := solidify_accepted hnames
  exact setMaxSize_rule (fun _ _ => w.unmoved_self _) (fun _ _ => w.unmoved_self _)
    (fun _ _ _ => (accepted_ok _).unmoved _ _)
    fun _ _ _ => (hsolidify _).mono fun _ _ hend => hend.unmoved _ _

theorem setMaxFlushCount_unmoved (hnames : w.db.coordinator.tableNames.Nodup) (limit : Nat) :
    (setMaxFlushCount limit).Ends w w.Unmoved := by
  have hflush : ∀ count, (flushOldest count).Ends (w.withCoordinator { w.db.coordinator with
      maxFlushCount := limit }) fun r _ => Accepted r := flushOldest_accepted hnames
  exact setMaxFlushCount_rule (fun _ _ => w.unmoved_self _) (fun _ _ => w.unmoved_self _)
    (fun _ _ _ => (accepted_ok _).unmoved _ _)
    fun _ _ _ => (hflush _).mono fun _ _ hend => hend.unmoved _ _

end Operation

open Operation

/-- A call that is refused leaves a sound database as it was. -/
theorem Request.body_unmoved {w : World} (hsound : w.db.coordinator.Sound)
    (hpoisoned : w.db.poisoned = false) (request : Request) : request.body.Ends w w.Unmoved := by
  -- What registering a table and opening a session answer is forgotten.
  have hforget : ∀ {α : Type} {body : Operation α}, body.Ends w w.Unmoved →
      (do let _ ← body : Operation Unit).Ends w w.Unmoved := by
    intro α body hbody
    rw [ends_bind]
    refine hbody.mono fun r w' hend => ?_
    match r, hend with
    | .ok _, _ => exact (accepted_ok _).unmoved _ _
    | .error fault, hend => exact fun error heq => hend error (by cases heq; rfl)
  cases request with
  | addTable name root => exact hforget (addTable_unmoved name root)
  | write table key entry => exact writeEntry_unmoved hsound.names table key entry
  | openSession force => exact hforget (openSession_unmoved hsound hpoisoned force)
  | commitInnermost => exact commitInnermost_unmoved hsound hpoisoned
  | commitSession session => exact commitSession_unmoved hsound hpoisoned session
  | abandonSession session status =>
    exact (abandonSession_accepted hsound hpoisoned session status).mono fun _ _ hend =>
      hend.unmoved _ _
  | revoke => exact revoke_unmoved hsound hpoisoned
  | merge => exact merge_unmoved hsound.names
  | popMany count verify => exact popMany_unmoved count verify
  | enable => exact enable_unmoved
  | disable => exact disable_unmoved
  | setCursor cursor offset => exact setCursor_unmoved cursor offset
  | setMaxSize limit => exact setMaxSize_unmoved hsound.names limit
  | setMaxFlushCount limit => exact setMaxFlushCount_unmoved hsound.names limit

/-- Under the lock too: a poisoned one refuses every call. -/
theorem Request.run_unmoved {w : World} (hsound : w.db.coordinator.Sound) (request : Request) :
    request.run.Ends w w.Unmoved := by
  unfold run
  rw [ends_locked]
  cases hpoisoned : w.db.poisoned with
  | true => exact w.unmoved_self _
  | false =>
    rw [if_neg Bool.false_ne_true]
    refine (request.body_unmoved hsound hpoisoned).mono fun r w' hend => ?_
    match r, hend with
    | .ok (), hend => exact hend
    | .error (.error error), hend => exact hend
    | .error .panic, _ => exact accepted_panic.unmoved _ _

namespace World

/-- In every state that a run reaches, a call that is refused, with
whatever arguments it was made, leaves the whole world as it was: the
database with its tables, levels, sessions, modes and events, every store
with what it counts, and what the operator was told. -/
theorem refused_changes_nothing (disk : Disk) (configuration : Configuration) (journal : String)
    (handlers : List Handler) (moves : List Move) (request : Request) (error : Error)
    (hrefuses : error.Refuses) :
    let w := (opened disk configuration journal handlers).play moves
    (request.run.perform w).1 = .error (.error error) → (request.run.perform w).2 = w :=
  fun herror => request.run_unmoved (play_sound disk configuration journal handlers moves) error
    herror hrefuses

/-- One layer is pending, and the only live one is that of an open unit of
work. A merge is refused, and neither layer moves. -/
theorem refused_changes_nothing_merge :
    let w := (opened .empty { maxSize := 1, maxFlushCount := 5 } "journal" []).play
      [.call (.addTable "a" "left"), .call (.openSession false),
        .call (.write ⟨0, "a"⟩ [1] (.value [10])), .call .commit, .call (.openSession false)]
    let error : Error := .illegalState (.uncommittedLayer "merge" 2)
    w.db.coordinator.levels = [1, 2] ∧ w.db.coordinator.pending = 1 ∧
      error.Refuses ∧ (Request.merge.run.perform w).1 = .error (.error error) ∧
      (Request.merge.run.perform w).2 = w := by
  intro w error
  have herror : (Request.merge.run.perform w).1 = .error (.error error) := by decide +kernel
  exact ⟨by decide +kernel, by decide +kernel, trivial, herror,
    refused_changes_nothing _ _ _ _ _ .merge error trivial herror⟩

end World

end LayeredStore

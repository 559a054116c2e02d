import LayeredStore.Proofs.Soundness

/-!
# `LayeredStore.Proofs.Execution`: the ways each operation goes

One rule for each operation of the coordinator. It lists the ways the
operation goes from a world, by what the operation finds there, and asks
of each that it ends as `Q` says: the operation ends so if each of them
does. Where it calls another operation, the rule asks this of the call.

What is said of an operation in the modules that follow is shown by its
rule, so that an operation which changes is opened again only here.

* `openSession_rule`, `commitSession_rule`, `abandonSession_rule` and the
  rules of what these call: sessions and units of work.
* `revoke_rule`, `popMany_rule`, `merge_rule`: history.
* `addTable_rule`, `writeEntry_rule`: tables.
* `enable_rule`, `disable_rule`, `setCursor_rule`, `setMaxSize_rule`,
  `setMaxFlushCount_rule`: modes, cursor and limits.
* `recoverRunning_rule`, `ends_check`, `stop_rule`: starting and stopping.
* `Session.drop_rule`, `Database.shutdown_rule`, `Database.ends_drop`: what
  users let go of.
-/

set_option autoImplicit false

namespace LayeredStore

namespace Coordinator

variable {c : Coordinator}

theorem halted_of_stopped?_eq_none (h : c.stopped? = none) : c.halted = false := by
  unfold stopped? at h
  split at h
  · cases h
  · rename_i hhalted
    exact Bool.eq_false_iff.mpr hhalted

theorem shutDown_of_stopped?_eq_none (h : c.stopped? = none) : c.shutDown = false := by
  rw [stopped?, halted_of_stopped?_eq_none h, if_neg Bool.false_ne_true] at h
  split at h
  · cases h
  · rename_i hshutDown
    exact Bool.eq_false_iff.mpr hshutDown

theorem stopped?_eq_none (hhalted : c.halted = false) (hshutDown : c.shutDown = false) :
    c.stopped? = none := by
  rw [stopped?, hhalted, hshutDown]
  rfl

/-- The coordinator after the database was enabled for a unit of work, if
it was disabled. -/
def force (c : Coordinator) : Coordinator :=
  { c with enabled := true, disableOnExit := c.disableOnExit || !c.enabled }

theorem force_of_enabled (h : c.enabled = true) : c.force = c := by
  rw [force, h, Bool.not_true, Bool.or_false, ← h]

theorem forced_eq_force (h : c.enabled = false) :
    { c with enabled := true, disableOnExit := true } = c.force := by
  rw [force, h, Bool.not_false, Bool.or_true]

/-- Sessions are resolved without a look at the unit of work that is
open. -/
theorem resolveOpen_withoutUnit (c : Coordinator) (unit : UnitOfWork) (status : SessionStatus) :
    { c with openUnit := none }.resolveOpen unit status =
      { c with openUnit := none, statuses := (c.resolveOpen unit status).statuses } := by
  unfold resolveOpen
  induction unit.sessions generalizing c with
  | nil => rfl
  | cons session rest ih =>
    rw [List.foldl_cons, List.foldl_cons]
    cases hopen : c.isOpen session with
    | true =>
      have hopen' : { c with openUnit := none }.isOpen session = true := hopen
      rw [hopen', if_pos rfl, if_pos rfl]
      exact ih (c.setStatus session status)
    | false =>
      have hopen' : { c with openUnit := none }.isOpen session = false := hopen
      rw [hopen', if_neg Bool.false_ne_true, if_neg Bool.false_ne_true]
      exact ih c

theorem owns_iff (session : Nat) :
    c.owns session = true ↔ ∃ unit, c.openUnit = some unit ∧ session ∈ unit.sessions := by
  unfold owns
  cases c.openUnit with
  | none => simp
  | some unit => simp

end Coordinator

namespace Operation

/-- The event that says how a layer was discarded. -/
def discardEvent (seq depth : Nat) : Option Bool → Event
  | some verified => .popLayer seq depth verified
  | none => .revokeLayer seq depth

section
variable {α : Type} {w : World} {Q : Except Fault Unit → World → Prop}

/-- An operation that asks first whether the database runs goes on only if
it does. -/
theorem ensureRunning_rule {Q : Except Fault α → World → Prop} {next : Unit → Operation α}
    (refused : ∀ error, w.db.coordinator.stopped? = some error →
      Q (.error (.error (.illegalState error))) w)
    (running : w.db.coordinator.stopped? = none → (next ()).Ends w Q) :
    (ensureRunning >>= next).Ends w Q := by
  rw [ends_bind, ends_ensureRunning]
  cases hstopped : w.db.coordinator.stopped? with
  | some error => exact refused error hstopped
  | none => exact running hstopped

/-! ### Levels -/

/-- The oldest live layers become pending, and all that are pending are
flushed if they are too many. -/
theorem solidify_rule {count : Nat}
    (solidified : ∀ w₁,
      w₁ = (w.withCoordinator (w.db.coordinator.solidify count).bump.clampCursor).say
        (.layersPending (w.db.coordinator.solidify count).bump.clampCursor.pending) →
      (w₁.db.coordinator.pending < w₁.db.coordinator.maxFlushCount → Q (.ok ()) w₁) ∧
      (w₁.db.coordinator.maxFlushCount ≤ w₁.db.coordinator.pending →
        (flushOldest w₁.db.coordinator.pending).Ends w₁ Q)) :
    (solidify count).Ends w Q := by
  obtain ⟨kept, flushed⟩ := solidified _ rfl
  unfold solidify
  simp only [ends_bind, ends_update, ends_getCoordinator, ends_note, ends_ite, ends_pure]
  split
  · exact flushed ‹_›
  · exact kept (Nat.lt_of_not_le ‹_›)

/-- Room is made on a full chain only. -/
theorem makeRoom_rule
    (roomy : w.db.coordinator.depth < w.db.coordinator.maxSize → Q (.ok ()) w)
    (full : w.db.coordinator.maxSize ≤ w.db.coordinator.depth →
      (solidify (w.db.coordinator.depth + 1 - w.db.coordinator.maxSize)).Ends w Q) :
    makeRoom.Ends w Q := by
  unfold makeRoom
  simp only [ends_bind, ends_getCoordinator, ends_ite, ends_pure]
  split
  · exact full ‹_›
  · exact roomy (Nat.lt_of_not_le ‹_›)

theorem ends_advance (w : World) (Q : Except Fault Nat → World → Prop) :
    advance.Ends w Q ↔ makeRoom.Ends w fun r w₁ => match r with
      | .ok _ => pushLevel.Ends w₁ Q
      | .error fault => Q (.error fault) w₁ := by
  unfold advance
  rw [ends_bind]
  exact ⟨fun h => h.mono_cases (fun _ _ => id) fun _ _ => id,
    fun h => h.mono_cases (fun _ _ => id) fun _ _ => id⟩

/-- How discarding the newest live layer ends. -/
theorem ends_retreat {w : World} (hdepth : 0 < w.db.coordinator.depth) (operation : String)
    (verified? : Option Bool) (Q : Except Fault Unit → World → Prop) :
    (retreat operation verified?).Ends w Q ↔
      let c := w.db.coordinator.discardHead.bump.clampCursor
      let seq := w.db.coordinator.levels.getLast?.getD 0
      let discarded := (w.withCoordinator c).say (.layerDiscarded operation seq c.depth)
      Q (.ok ()) (discarded.withCoordinator
        (c.announce (discardEvent seq c.depth verified?))) := by
  unfold retreat
  simp only [ends_bind, ends_getCoordinator, if_neg (Nat.ne_of_gt hdepth), ends_update, ends_note]
  cases verified? <;> exact Iff.rfl

/-- A chain without live layers has none to discard. -/
theorem ends_retreat_of_empty {w : World} (hempty : w.db.coordinator.depth = 0) (operation : String)
    (verified? : Option Bool) (Q : Except Fault Unit → World → Prop) :
    (retreat operation verified?).Ends w Q ↔
      Q (.error (.error (.illegalState (.emptyChain operation)))) w := by
  unfold retreat
  simp only [ends_bind, ends_getCoordinator, if_pos hempty, ends_refuse]

theorem ends_retreatMany_succ (w : World) (operation : String) (verify : Bool) (count : Nat)
    (Q : Except Fault Unit → World → Prop) :
    (retreatMany operation verify (count + 1)).Ends w Q ↔
      (retreat operation (some verify)).Ends w fun r w₁ => match r with
        | .ok _ => (retreatMany operation verify count).Ends w₁ Q
        | .error fault => Q (.error fault) w₁ := by
  show (do retreat operation (some verify); retreatMany operation verify count).Ends w Q ↔ _
  rw [ends_bind]
  exact ⟨fun h => h.mono_cases (fun _ _ => id) fun _ _ => id,
    fun h => h.mono_cases (fun _ _ => id) fun _ _ => id⟩

/-! ### Opening sessions -/

/-- A session joins the unit of work that is open. Where none is, it opens
one: without a layer in a database that is disabled, unless it is forced,
and else with a layer, for which the database is enabled. If the layer
cannot be pushed, this is taken back. -/
theorem openSession_rule {force : Bool} {Q : Except Fault Session → World → Prop}
    (refused : ∀ error, w.db.coordinator.stopped? = some error →
      Q (.error (.error (.illegalState error))) w)
    (joined : ∀ unit, w.db.coordinator.stopped? = none → w.db.coordinator.openUnit = some unit →
      Q (.ok ⟨w.db.coordinator.statuses.length, unit.seq.isNone, true⟩)
        ((w.withCoordinator (w.db.coordinator.joinUnit unit)).say (.nestedSessionOpened
          (((w.db.coordinator.joinUnit unit).openUnit.map
            (w.db.coordinator.joinUnit unit).openCount).getD 0))))
    (passed : w.db.coordinator.stopped? = none → w.db.coordinator.openUnit = none →
      w.db.coordinator.enabled = false → force = false →
      Q (.ok ⟨w.db.coordinator.statuses.length, true, false⟩)
        (w.withCoordinator (w.db.coordinator.openNewUnit none)))
    (pushed : w.db.coordinator.stopped? = none → w.db.coordinator.openUnit = none →
      w.db.coordinator.enabled = true ∨ force = true →
      advance.Ends (w.withCoordinator w.db.coordinator.force) fun r w₁ => match r with
        | .ok seq => Q (.ok ⟨w.db.coordinator.statuses.length, false, false⟩)
            (w₁.withCoordinator (w₁.db.coordinator.openNewUnit (some seq)))
        | .error (.error error) => Q (.error (.error error))
            (if w.db.coordinator.enabled then w₁ else w₁.withCoordinator w₁.db.coordinator.unforce)
        | .error .panic => Q (.error .panic) w₁) :
    (openSession force).Ends w Q := by
  unfold openSession
  refine ensureRunning_rule refused fun hstopped => ?_
  simp only [ends_bind, ends_getCoordinator]
  cases hunit : w.db.coordinator.openUnit with
  | some unit =>
    simp only [ends_bind, ends_update, ends_getCoordinator, ends_note, ends_pure]
    exact joined unit hstopped hunit
  | none =>
  -- Without a unit of work the mode decides: the session passes through, or a
  -- layer is pushed for it.
  by_cases hpass : (!w.db.coordinator.enabled && !force) = true
  · simp only [if_pos hpass, ends_bind, ends_update, ends_pure]
    simp only [Bool.and_eq_true, Bool.not_eq_true'] at hpass
    exact passed hstopped hunit hpass.1 hpass.2
  simp only [if_neg hpass]
  simp only [Bool.and_eq_true, Bool.not_eq_true', not_and_or, Bool.not_eq_false] at hpass
  have hpushed := pushed hstopped hunit hpass
  cases henabled : w.db.coordinator.enabled with
  | true =>
    -- A database that is enabled is not forced, so nothing is taken back.
    have hforce : w.withCoordinator w.db.coordinator.force = w := by
      rw [Coordinator.force_of_enabled henabled]
      rfl
    rw [hforce, henabled] at hpushed
    simp only [Bool.not_true, Bool.false_eq_true, if_false, ends_bind, ends_attempt]
    refine hpushed.mono fun r w₁ h => ?_
    match r, h with
    | .ok seq, h => exact h
    | .error (.error error), h => exact h
    | .error .panic, h => exact h
  | false =>
    rw [henabled] at hpushed
    simp only [Bool.not_false, if_true, ends_bind, ends_attempt, ends_update,
      Coordinator.forced_eq_force henabled]
    refine hpushed.mono fun r w₁ h => ?_
    match r, h with
    | .ok seq, h => exact h
    | .error (.error error), h => exact h
    | .error .panic, h => exact h

/-! ### Closing units of work -/

/-- After a forced unit of work the database is disabled again. -/
theorem ends_leaveForced (w : World) (Q : Except Fault Unit → World → Prop) :
    leaveForced.Ends w Q ↔ Q (.ok ()) (if w.db.coordinator.disableOnExit then
      w.withCoordinator w.db.coordinator.unforce.bump else w) := by
  unfold leaveForced
  simp only [ends_bind, ends_getCoordinator, ends_ite, ends_update, ends_pure]
  split <;> exact Iff.rfl

/-- The open unit of work is closed and its sessions are revoked. Its layer
is discarded; a unit without one is counted. -/
theorem revokeUnit_rule
    (idle : w.db.coordinator.openUnit = none → Q (.ok ()) w)
    (closed : ∀ unit c, w.db.coordinator.openUnit = some unit →
      c = { w.db.coordinator with
        openUnit := none, statuses := (w.db.coordinator.resolveOpen unit .revoked).statuses } →
      (unit.seq = none →
        leaveForced.Ends ((w.withCoordinator
          { c with passThroughRevokes := c.passThroughRevokes + 1 }).say .passThroughRevoked) Q) ∧
      (∀ seq, unit.seq = some seq →
        (retreat "revoke" none).Ends (w.withCoordinator c) fun r w₁ => match r with
          | .ok _ => leaveForced.Ends w₁ Q
          | .error fault => Q (.error fault) w₁)) :
    revokeUnit.Ends w Q := by
  unfold revokeUnit
  simp only [ends_bind, ends_getCoordinator]
  cases hunit : w.db.coordinator.openUnit with
  | none => exact idle hunit
  | some unit =>
    obtain ⟨hpassed, hlayered⟩ := closed unit _ hunit rfl
    simp only [ends_bind, ends_update, Coordinator.resolveOpen_withoutUnit]
    cases hseq : unit.seq with
    | none =>
      simp only [ends_bind, ends_update, ends_note]
      exact hpassed hseq
    | some seq =>
      rw [ends_bind]
      exact (hlayered seq hseq).mono_cases (fun _ _ => id) fun _ _ => id

/-- The layers of a forced unit of work go straight into the roots. -/
theorem settleForced_rule
    (plain : w.db.coordinator.disableOnExit = false → Q (.ok ()) w)
    (forced : w.db.coordinator.disableOnExit = true →
      (flushOldest w.db.coordinator.levels.length).Ends w fun r w₁ => match r with
        | .ok _ => leaveForced.Ends w₁ Q
        | .error fault => Q (.error fault) w₁) :
    settleForced.Ends w Q := by
  unfold settleForced
  simp only [ends_bind, ends_getCoordinator, ends_ite, ends_pure]
  split
  · exact (forced ‹_›).mono_cases (fun _ _ => id) fun _ _ => id
  · exact plain (Bool.eq_false_iff.mpr ‹_›)

/-- The open unit of work is closed, and its layer committed if it has one,
before the unit is settled. -/
theorem finishUnit_rule
    (idle : w.db.coordinator.openUnit = none → Q (.ok ()) w)
    (passed : ∀ unit, w.db.coordinator.openUnit = some unit → unit.seq = none →
      settleForced.Ends (w.withCoordinator w.db.coordinator.withoutUnit) Q)
    (sealed : ∀ unit seq c, w.db.coordinator.openUnit = some unit → unit.seq = some seq →
      c = w.db.coordinator.withoutUnit.sealHeads →
      settleForced.Ends (((w.withCoordinator c).say (.unitCommitted seq c.depth)).withCoordinator
        (c.announce (.commitSession seq c.headsDigest))) Q) :
    finishUnit.Ends w Q := by
  unfold finishUnit
  simp only [ends_bind, ends_getCoordinator]
  cases hunit : w.db.coordinator.openUnit with
  | none => exact idle hunit
  | some unit =>
    simp only [ends_bind, ends_update]
    cases hseq : unit.seq with
    | none => exact passed unit hunit hseq
    | some seq =>
      unfold sealUnit
      simp only [ends_bind, ends_update, ends_getCoordinator, ends_note, ends_publish]
      exact sealed unit seq _ hunit hseq rfl

/-! ### Resolving sessions -/

/-- Only a session that is open can be committed. Its unit of work waits for
the others, and the last of them decides what becomes of it. -/
theorem commitSession_rule {session : Nat}
    (committed : w.db.coordinator.status session = .committed →
      Q (.error (.error (.sessionMisuse .alreadyCommitted))) w)
    (failed : w.db.coordinator.status session = .revoked ∨
        w.db.coordinator.status session = .abandoned →
      Q (.error (.error (.sessionMisuse .commitAfterRevoke))) w)
    (refused : ∀ error, w.db.coordinator.isOpen session = true →
      w.db.coordinator.stopped? = some error → Q (.error (.error (.illegalState error))) w)
    (stray : w.db.coordinator.stopped? = none → w.db.coordinator.isOpen session = true →
      w.db.coordinator.owns session = false →
      Q (.error (.error (.sessionMisuse .noOpenSession))) w)
    (resolved : ∀ unit, w.db.coordinator.isOpen session = true →
      w.db.coordinator.stopped? = none → w.db.coordinator.openUnit = some unit →
      session ∈ unit.sessions →
      let w₁ := w.withCoordinator (w.db.coordinator.setStatus session .committed)
      (0 < w₁.db.coordinator.openCount unit → Q (.ok ()) w₁) ∧
      (¬0 < w₁.db.coordinator.openCount unit → unit.poisoned = true →
        revokeUnit.Ends w₁ fun r w' => match r with
          | .ok _ => Q (.error (.error (.sessionMisuse .nestedSessionAbandoned))) w'
          | .error fault => Q (.error fault) w') ∧
      (¬0 < w₁.db.coordinator.openCount unit → unit.poisoned = false → finishUnit.Ends w₁ Q)) :
    (commitSession session).Ends w Q := by
  unfold commitSession
  simp only [ends_bind, ends_getCoordinator]
  cases hstatus : w.db.coordinator.status session with
  | committed => exact committed hstatus
  | revoked => exact failed (.inl hstatus)
  | abandoned => exact failed (.inr hstatus)
  | opened =>
    -- The session is open: the unit of work has to be the one that it belongs
    -- to, and then the sessions left open decide.
    have hopen : w.db.coordinator.isOpen session = true := decide_eq_true hstatus
    refine ensureRunning_rule (fun error => refused error hopen) fun hstopped => ?_
    simp only [ends_bind, ends_getCoordinator]
    split
    · rename_i hstray
      exact stray hstopped hopen (by simpa using hstray)
    rename_i howns
    obtain ⟨unit, hunit, hmem⟩ :=
      (Coordinator.owns_iff session).mp (by simpa using howns)
    obtain ⟨hwaits, hrevokes, hfinishes⟩ := resolved unit hopen hstopped hunit hmem
    have hunit' : (w.withCoordinator (w.db.coordinator.setStatus session
        .committed)).db.coordinator.openUnit = some unit := hunit
    simp only [ends_bind, ends_update, ends_getCoordinator, hunit', ends_ite]
    split
    · exact hwaits ‹_›
    rename_i hlast
    split
    · exact (hrevokes hlast ‹_›).mono_cases (fun _ _ => id) fun _ _ => id
    · exact hfinishes hlast (Bool.eq_false_iff.mpr ‹_›)

theorem ends_commitInnermost (w : World) (Q : Except Fault Unit → World → Prop) :
    commitInnermost.Ends w Q ↔ match w.db.coordinator.innermost? with
      | none => Q (.error (.error (.sessionMisuse .noOpenSession))) w
      | some session => (commitSession session).Ends w Q := by
  unfold commitInnermost
  simp only [ends_bind, ends_getCoordinator]
  cases w.db.coordinator.innermost? <;> exact Iff.rfl

/-- A session that fails poisons its unit of work, which is discarded once
none of its sessions is open. -/
theorem abandonSession_rule {session : Nat} {status : SessionStatus}
    (closed : w.db.coordinator.isOpen session = false → Q (.ok ()) w)
    (stray : w.db.coordinator.isOpen session = true → w.db.coordinator.owns session = false →
      Q (.ok ()) (w.withCoordinator (w.db.coordinator.setStatus session status)))
    (resolved : ∀ unit c, w.db.coordinator.isOpen session = true →
      w.db.coordinator.openUnit = some unit → session ∈ unit.sessions →
      c = { w.db.coordinator.setStatus session status with
        openUnit := some { unit with poisoned := true } } →
      (0 < c.openCount unit →
        Q (.ok ()) ((w.withCoordinator c).say (.nestedSessionFailed status))) ∧
      (¬0 < c.openCount unit → revokeUnit.Ends (w.withCoordinator c) Q)) :
    (abandonSession session status).Ends w Q := by
  unfold abandonSession
  simp only [ends_bind, ends_getCoordinator, ends_ite, ends_pure, ends_update]
  split
  · rename_i hopen
    cases hunit : w.db.coordinator.openUnit with
    | none => exact stray hopen (by rw [Coordinator.owns, hunit])
    | some unit =>
      simp only [ends_ite, ends_bind, ends_update, ends_getCoordinator, ends_note, ends_pure]
      split
      · rename_i hmem
        obtain ⟨hwaits, hrevokes⟩ := resolved unit _ hopen hunit (by simpa using hmem) rfl
        split
        · exact hwaits ‹_›
        · exact hrevokes ‹_›
      · rename_i hmem
        exact stray hopen (by rw [Coordinator.owns, hunit]; exact Bool.eq_false_iff.mpr hmem)
  · exact closed (Bool.eq_false_iff.mpr ‹_›)

/-! ### History -/

/-- The newest level is discarded, or the unit of work that owns it. A
disabled database has no levels, but can have a unit of work. -/
theorem revoke_rule
    (refused : ∀ error, w.db.coordinator.stopped? = some error →
      Q (.error (.error (.illegalState error))) w)
    (counted : w.db.coordinator.stopped? = none → w.db.coordinator.enabled = false →
      w.db.coordinator.openUnit = none →
      Q (.ok ()) ((w.withCoordinator { w.db.coordinator with
        passThroughRevokes := w.db.coordinator.passThroughRevokes + 1 }).say .revokedWhileDisabled))
    (empty : w.db.coordinator.stopped? = none → w.db.coordinator.enabled = true →
      w.db.coordinator.depth = 0 → Q (.error (.error (.illegalState (.emptyChain "revoke")))) w)
    (unit : ∀ unit, w.db.coordinator.stopped? = none → w.db.coordinator.openUnit = some unit →
      w.db.coordinator.enabled = false ∨ 0 < w.db.coordinator.depth ∧
        unit.seq = w.db.coordinator.levels.getLast? →
      revokeUnit.Ends w Q)
    (level : w.db.coordinator.stopped? = none → w.db.coordinator.enabled = true →
      0 < w.db.coordinator.depth →
      (∀ unit, w.db.coordinator.openUnit = some unit →
        unit.seq ≠ w.db.coordinator.levels.getLast?) →
      (retreat "revoke" none).Ends w Q) :
    revoke.Ends w Q := by
  unfold revoke
  refine ensureRunning_rule refused fun hstopped => ?_
  simp only [ends_bind, ends_getCoordinator, ends_ite, ends_update, ends_note, ends_refuse]
  split
  · -- There are no levels, so it is the unit of work that is discarded, if one
    -- is open.
    rename_i hdisabled
    have hdisabled : w.db.coordinator.enabled = false := by simpa using hdisabled
    split
    · obtain ⟨unit', hunit⟩ := Option.isSome_iff_exists.mp ‹_›
      exact unit unit' hstopped hunit (.inl hdisabled)
    · exact counted hstopped hdisabled (Option.not_isSome_iff_eq_none.mp ‹_›)
  rename_i henabled
  have henabled : w.db.coordinator.enabled = true := by simpa using henabled
  split
  · exact empty hstopped henabled ‹_›
  rename_i hdepth
  have hdepth := Nat.pos_of_ne_zero hdepth
  split
  · rename_i hnewest
    obtain ⟨unit', hunit, hseq⟩ := (Option.any_eq_true _ _).mp hnewest
    exact unit unit' hstopped hunit (.inr ⟨hdepth, of_decide_eq_true hseq⟩)
  · rename_i hnewest
    exact level hstopped henabled hdepth fun unit' hunit hseq =>
      hnewest ((Option.any_eq_true _ _).mpr ⟨unit', hunit, decide_eq_true hseq⟩)

/-- The oldest live layer can be merged unless it is that of the open unit
of work. -/
theorem merge_rule
    (refused : ∀ error, w.db.coordinator.stopped? = some error →
      Q (.error (.error (.illegalState error))) w)
    (empty : w.db.coordinator.stopped? = none →
      w.db.coordinator.levels[w.db.coordinator.pending]? = none →
      Q (.error (.error (.illegalState (.emptyChain "merge")))) w)
    (uncommitted : ∀ seq, w.db.coordinator.stopped? = none →
      w.db.coordinator.levels[w.db.coordinator.pending]? = some seq →
      w.db.coordinator.openSeq? = some seq →
      Q (.error (.error (.illegalState (.uncommittedLayer "merge" seq)))) w)
    (flushed : ∀ seq, w.db.coordinator.stopped? = none →
      w.db.coordinator.levels[w.db.coordinator.pending]? = some seq →
      w.db.coordinator.openSeq? ≠ some seq →
      (flushOldest (w.db.coordinator.pending + 1)).Ends w Q) :
    merge.Ends w Q := by
  unfold merge
  refine ensureRunning_rule refused fun hstopped => ?_
  simp only [ends_bind, ends_getCoordinator]
  cases hlevel : w.db.coordinator.levels[w.db.coordinator.pending]? with
  | none => exact empty hstopped hlevel
  | some seq =>
    simp only [ends_ite, ends_refuse]
    split
    · exact uncommitted seq hstopped hlevel ‹_›
    · exact flushed seq hstopped hlevel ‹_›

/-- Levels are popped while no unit of work is open, and only if none of
their layers is at fault. -/
theorem popMany_rule {count : Nat} {verify : Bool} {operation : String}
    (hoperation : operation = if verify then "pop" else "fast pop")
    (refused : ∀ error, w.db.coordinator.stopped? = some error →
      Q (.error (.error (.illegalState error))) w)
    (sessionOpen : w.db.coordinator.stopped? = none → w.db.coordinator.openUnit.isSome = true →
      Q (.error (.error (.illegalState (.sessionOpen operation)))) w)
    (nothing : w.db.coordinator.stopped? = none → w.db.coordinator.openUnit = none → count = 0 →
      Q (.ok ()) w)
    (empty : w.db.coordinator.stopped? = none → w.db.coordinator.openUnit = none → 0 < count →
      w.db.coordinator.depth = 0 →
      Q (.error (.error (.illegalState (.emptyChain operation)))) w)
    (tooMany : w.db.coordinator.stopped? = none → w.db.coordinator.openUnit = none →
      0 < w.db.coordinator.depth → w.db.coordinator.depth < count →
      Q (.error (.error (.invalidArgument (.countExceedsDepth count w.db.coordinator.depth)))) w)
    (unpoppable : ∀ error, w.db.coordinator.stopped? = none → w.db.coordinator.openUnit = none →
      0 < count → count ≤ w.db.coordinator.depth →
      w.db.coordinator.notPoppable? operation count verify = some error →
      Q (.error (.error (.illegalState error))) w)
    (popped : w.db.coordinator.stopped? = none → w.db.coordinator.openUnit = none →
      0 < count → count ≤ w.db.coordinator.depth →
      w.db.coordinator.notPoppable? operation count verify = none →
      (retreatMany operation verify count).Ends w Q) :
    (popMany count verify).Ends w Q := by
  subst hoperation
  unfold popMany
  refine ensureRunning_rule refused fun hstopped => ?_
  simp only [ends_bind, ends_getCoordinator, ends_ite, ends_refuse, ends_reject, ends_pure]
  split
  · exact sessionOpen hstopped ‹_›
  rename_i hunit
  have hunit := Option.not_isSome_iff_eq_none.mp hunit
  split
  · exact nothing hstopped hunit ‹_›
  rename_i hcount
  have hcount := Nat.pos_of_ne_zero hcount
  split
  · exact empty hstopped hunit hcount ‹_›
  rename_i hdepth
  split
  · exact tooMany hstopped hunit (Nat.pos_of_ne_zero hdepth) ‹_›
  rename_i hle
  have hle := Nat.le_of_not_lt hle
  cases hfault : w.db.coordinator.notPoppable? _ count verify with
  | some error => exact unpoppable error hstopped hunit hcount hle hfault
  | none => exact popped hstopped hunit hcount hle hfault

/-! ### Tables -/

/-- A table is registered if its name is new. -/
theorem addTable_rule {name root : String} {Q : Except Fault Nat → World → Prop}
    (refused : ∀ error, w.db.coordinator.stopped? = some error →
      Q (.error (.error (.illegalState error))) w)
    (duplicate : w.db.coordinator.stopped? = none → name ∈ w.db.coordinator.tableNames →
      Q (.error (.error (.invalidArgument (.duplicateTable name)))) w)
    (registered : w.db.coordinator.stopped? = none → name ∉ w.db.coordinator.tableNames →
      Q (.ok w.db.coordinator.tables.length) ((w.withCoordinator { w.db.coordinator with
        tables := w.db.coordinator.tables ++ [Chain.padded name root w.db.coordinator.levels
          w.db.coordinator.pending w.db.coordinator.openSeq?] }.bump).say
        (.tableRegistered name w.db.coordinator.depth w.db.coordinator.pending))) :
    (addTable name root).Ends w Q := by
  unfold addTable
  refine ensureRunning_rule refused fun hstopped => ?_
  simp only [ends_bind, ends_getCoordinator, ends_ite, ends_reject, ends_update, ends_note,
    ends_pure, Coordinator.tableIndex?_isSome, List.contains_iff_mem]
  split
  · exact duplicate hstopped ‹_›
  · exact registered hstopped ‹_›

/-- How writing one entry to a root ends. -/
theorem ends_writeDirect (w : World) (chain : Chain) (key : Bytes) (entry : Entry)
    (Q : Except Fault Unit → World → Prop) :
    (writeDirect chain key entry).Ends w Q ↔
      match (w.disk.write chain.root [(key, entry)]).1 with
      | .ok () => Q (.ok ()) (w.withDisk (w.disk.write chain.root [(key, entry)]).2)
      | .error (.error source) => Q (.error (.error (.ioFailure chain.name source)))
          (w.withDisk (w.disk.write chain.root [(key, entry)]).2)
      | .error .crash => Q (.error .panic)
          (w.withDisk (w.disk.write chain.root [(key, entry)]).2) := by
  unfold writeDirect writeRoot
  rw [if_neg (by simp), ends_bind, ends_write]
  cases (w.disk.write chain.root [(key, entry)]).1 with
  | ok u => exact Iff.rfl
  | error failure => cases failure <;> exact Iff.rfl

/-- An entry goes into the newest layer of its table if one is live. Else it
goes into the root, once nothing is pending that would hide it there. -/
theorem writeEntry_rule {table : Nat} {key : Bytes} {entry : Entry}
    (refused : ∀ error, w.db.coordinator.stopped? = some error →
      Q (.error (.error (.illegalState error))) w)
    (unknown : w.db.coordinator.stopped? = none → w.db.coordinator.tables[table]? = none →
      Q (.ok ()) w)
    (put : ∀ chain, w.db.coordinator.stopped? = none →
      w.db.coordinator.tables[table]? = some chain → 0 < chain.depth →
      Q (.ok ()) (w.withCoordinator
        (w.db.coordinator.modifyTable table (·.modifyHead (·.put key entry)))))
    (flushed : ∀ chain, w.db.coordinator.stopped? = none →
      w.db.coordinator.tables[table]? = some chain → chain.depth = 0 →
      0 < w.db.coordinator.pending →
      (flushOldest w.db.coordinator.pending).Ends w fun r w₁ => match r with
        | .ok _ => (writeDirect chain key entry).Ends w₁ Q
        | .error fault => Q (.error fault) w₁)
    (direct : ∀ chain, w.db.coordinator.stopped? = none →
      w.db.coordinator.tables[table]? = some chain → chain.depth = 0 →
      w.db.coordinator.pending = 0 → (writeDirect chain key entry).Ends w Q) :
    (writeEntry table key entry).Ends w Q := by
  unfold writeEntry
  refine ensureRunning_rule refused fun hstopped => ?_
  simp only [ends_bind, ends_getCoordinator]
  cases hchain : w.db.coordinator.tables[table]? with
  | none => exact unknown hstopped hchain
  | some chain =>
  simp only [ends_ite, ends_update]
  split
  · exact put chain hstopped hchain ‹_›
  rename_i hdepth
  have hdepth := Nat.eq_zero_of_not_pos hdepth
  split
  · rw [ends_bind]
    exact (flushed chain hstopped hchain hdepth ‹_›).mono_cases (fun _ _ => id) fun _ _ => id
  · exact direct chain hstopped hchain hdepth (Nat.eq_zero_of_not_pos ‹_›)

/-! ### Modes, cursor and limits -/

/-- A disabled database is enabled while no unit of work is open. -/
theorem enable_rule
    (refused : ∀ error, w.db.coordinator.stopped? = some error →
      Q (.error (.error (.illegalState error))) w)
    (already : w.db.coordinator.stopped? = none → w.db.coordinator.enabled = true → Q (.ok ()) w)
    (sessionOpen : w.db.coordinator.stopped? = none → w.db.coordinator.enabled = false →
      w.db.coordinator.openUnit.isSome = true →
      Q (.error (.error (.illegalState (.sessionOpen "enable")))) w)
    (enabled : w.db.coordinator.stopped? = none → w.db.coordinator.enabled = false →
      w.db.coordinator.openUnit = none →
      Q (.ok ()) ((w.withCoordinator { w.db.coordinator with enabled := true }.bump).say
        .enabled)) :
    enable.Ends w Q := by
  unfold enable
  refine ensureRunning_rule refused fun hstopped => ?_
  simp only [ends_bind, ends_getCoordinator, ends_ite, ends_update, ends_note, ends_pure,
    ends_refuse]
  split
  · exact already hstopped ‹_›
  rename_i hdisabled
  have hdisabled := Bool.eq_false_iff.mpr hdisabled
  split
  · exact sessionOpen hstopped hdisabled ‹_›
  · exact enabled hstopped hdisabled (Option.not_isSome_iff_eq_none.mp ‹_›)

/-- An enabled database is disabled while no unit of work is open and no
layer is left. -/
theorem disable_rule
    (refused : ∀ error, w.db.coordinator.stopped? = some error →
      Q (.error (.error (.illegalState error))) w)
    (already : w.db.coordinator.stopped? = none → w.db.coordinator.enabled = false → Q (.ok ()) w)
    (sessionOpen : w.db.coordinator.stopped? = none → w.db.coordinator.enabled = true →
      w.db.coordinator.openUnit.isSome = true →
      Q (.error (.error (.illegalState (.sessionOpen "disable")))) w)
    (undrained : w.db.coordinator.stopped? = none → w.db.coordinator.enabled = true →
      w.db.coordinator.openUnit = none → w.db.coordinator.levels ≠ [] →
      Q (.error (.error (.illegalState (.chainNotDrained w.db.coordinator.depth
        w.db.coordinator.pending)))) w)
    (disabled : w.db.coordinator.stopped? = none → w.db.coordinator.enabled = true →
      w.db.coordinator.openUnit = none → w.db.coordinator.levels = [] →
      Q (.ok ()) ((w.withCoordinator { w.db.coordinator with enabled := false }.bump).say
        .disabled)) :
    disable.Ends w Q := by
  unfold disable
  refine ensureRunning_rule refused fun hstopped => ?_
  simp only [ends_bind, ends_getCoordinator, ends_ite, ends_update, ends_note, ends_pure,
    ends_refuse, Bool.not_eq_true', List.isEmpty_eq_false_iff]
  split
  · exact already hstopped ‹_›
  rename_i henabled
  have henabled := (Bool.eq_false_or_eq_true _).resolve_right henabled
  split
  · exact sessionOpen hstopped henabled ‹_›
  rename_i hunit
  have hunit := Option.not_isSome_iff_eq_none.mp hunit
  split
  · exact undrained hstopped henabled hunit ‹_›
  · exact disabled hstopped henabled hunit (Classical.not_not.mp ‹_›)

/-- The cursor leaves out live layers of the head only, and no more than
there are. -/
theorem setCursor_rule {cursor : Cursor} {offset : Nat}
    (refused : ∀ error, w.db.coordinator.stopped? = some error →
      Q (.error (.error (.illegalState error))) w)
    (solidityOffset : w.db.coordinator.stopped? = none → cursor = .solidity → 0 < offset →
      Q (.error (.error (.invalidArgument (.offsetWithSolidity offset)))) w)
    (tooFar : w.db.coordinator.stopped? = none → cursor = .head →
      w.db.coordinator.depth < offset →
      Q (.error (.error (.invalidArgument (.offsetExceedsDepth offset w.db.coordinator.depth)))) w)
    (solidity : w.db.coordinator.stopped? = none → cursor = .solidity → offset = 0 →
      Q (.ok ()) (w.withCoordinator { w.db.coordinator with view := .solidity }))
    (head : w.db.coordinator.stopped? = none → cursor = .head →
      offset ≤ w.db.coordinator.depth →
      Q (.ok ()) (w.withCoordinator { w.db.coordinator with view := .head offset })) :
    (setCursor cursor offset).Ends w Q := by
  unfold setCursor
  refine ensureRunning_rule refused fun hstopped => ?_
  simp only [ends_bind, ends_getCoordinator]
  cases cursor with
  | solidity =>
    simp only [ends_ite, ends_reject, ends_update]
    split
    · exact solidityOffset hstopped rfl ‹_›
    · exact solidity hstopped rfl (Nat.eq_zero_of_not_pos ‹_›)
  | head =>
    simp only [ends_ite, ends_reject, ends_update]
    split
    · exact tooFar hstopped rfl ‹_›
    · exact head hstopped rfl (Nat.le_of_not_lt ‹_›)

/-- A limit of live layers is enforced at once. -/
theorem setMaxSize_rule {limit : Nat}
    (refused : ∀ error, w.db.coordinator.stopped? = some error →
      Q (.error (.error (.illegalState error))) w)
    (zero : w.db.coordinator.stopped? = none → limit = 0 →
      Q (.error (.error (.invalidArgument .zeroMaxSize))) w)
    (kept : w.db.coordinator.stopped? = none → 0 < limit → w.db.coordinator.depth ≤ limit →
      Q (.ok ()) (w.withCoordinator { w.db.coordinator with maxSize := limit }))
    (solidified : w.db.coordinator.stopped? = none → 0 < limit → limit < w.db.coordinator.depth →
      (solidify (w.db.coordinator.depth - limit)).Ends
        (w.withCoordinator { w.db.coordinator with maxSize := limit }) Q) :
    (setMaxSize limit).Ends w Q := by
  unfold setMaxSize
  refine ensureRunning_rule refused fun hstopped => ?_
  simp only [ends_bind, ends_getCoordinator, ends_ite, ends_update, ends_pure, ends_reject]
  split
  · exact zero hstopped ‹_›
  rename_i hlimit
  have hlimit := Nat.pos_of_ne_zero hlimit
  split
  · exact solidified hstopped hlimit ‹_›
  · exact kept hstopped hlimit (Nat.le_of_not_lt ‹_›)

/-- So is a limit of pending layers. -/
theorem setMaxFlushCount_rule {limit : Nat}
    (refused : ∀ error, w.db.coordinator.stopped? = some error →
      Q (.error (.error (.illegalState error))) w)
    (zero : w.db.coordinator.stopped? = none → limit = 0 →
      Q (.error (.error (.invalidArgument .zeroMaxFlushCount))) w)
    (kept : w.db.coordinator.stopped? = none → 0 < limit → w.db.coordinator.pending < limit →
      Q (.ok ()) (w.withCoordinator { w.db.coordinator with maxFlushCount := limit }))
    (flushed : w.db.coordinator.stopped? = none → 0 < limit → limit ≤ w.db.coordinator.pending →
      (flushOldest w.db.coordinator.pending).Ends
        (w.withCoordinator { w.db.coordinator with maxFlushCount := limit }) Q) :
    (setMaxFlushCount limit).Ends w Q := by
  unfold setMaxFlushCount
  refine ensureRunning_rule refused fun hstopped => ?_
  simp only [ends_bind, ends_getCoordinator, ends_ite, ends_update, ends_pure, ends_reject]
  split
  · exact zero hstopped ‹_›
  rename_i hlimit
  have hlimit := Nat.pos_of_ne_zero hlimit
  split
  · exact flushed hstopped hlimit ‹_›
  · exact kept hstopped hlimit (Nat.lt_of_not_le ‹_›)

/-! ### Starting and stopping -/

/-- A record is carried out if the database runs and the record can be read
from the journal. -/
theorem recoverRunning_rule {Q : Except Fault Nat → World → Prop}
    (stopped : w.db.coordinator.halted = true ∨ w.db.coordinator.shutDown = true → Q (.ok 0) w)
    (unreadable : ∀ source, w.db.coordinator.halted = false → w.db.coordinator.shutDown = false →
      Journal.load (w.disk.contents w.db.coordinator.journal) = .error source →
      Q (.error (.error (.ioFailure journalName source))) w)
    (nothing : w.db.coordinator.halted = false → w.db.coordinator.shutDown = false →
      Journal.load (w.disk.contents w.db.coordinator.journal) = .ok none → Q (.ok 0) w)
    (found : ∀ record, w.db.coordinator.halted = false → w.db.coordinator.shutDown = false →
      Journal.load (w.disk.contents w.db.coordinator.journal) = .ok (some record) →
      (replay w.db.coordinator.journal record).Ends (w.say (.journalFound record.size))
        fun r w₁ => match r with
          | .ok _ => Q (.ok record.size) w₁
          | .error fault => Q (.error fault) w₁) :
    recoverRunning.Ends w Q := by
  unfold recoverRunning
  simp only [ends_bind, ends_getCoordinator, ends_ite, ends_pure]
  split
  · exact stopped (by simpa using ‹(_ || _) = true›)
  rename_i hrun
  obtain ⟨hhalted, hshutDown⟩ : w.db.coordinator.halted = false ∧
    w.db.coordinator.shutDown = false := by simpa using hrun
  unfold recover
  simp only [ends_bind, ends_get]
  cases hload : Journal.load (w.disk.contents w.db.coordinator.journal) with
  | error source => exact unreadable source hhalted hshutDown hload
  | ok record? =>
    cases record? with
    | none => exact nothing hhalted hshutDown hload
    | some record =>
      simp only [ends_bind, ends_note, ends_pure]
      exact (found record hhalted hshutDown hload).mono_cases (fun _ _ => id) fun _ _ => id

/-- A database that has stopped leaves its journal alone. -/
theorem ends_recoverRunning_of_stopped (hstopped : w.db.coordinator.halted = true ∨
    w.db.coordinator.shutDown = true) (Q : Except Fault Nat → World → Prop) :
    recoverRunning.Ends w Q ↔ Q (.ok 0) w := by
  have hskip : (w.db.coordinator.halted || w.db.coordinator.shutDown) = true :=
    (Bool.or_eq_true _ _).mpr hstopped
  unfold recoverRunning
  rw [ends_bind, ends_getCoordinator]
  simp only [if_pos hskip, ends_pure]

/-- The chains are checked after recovering. -/
theorem ends_check (w : World) (Q : Except Fault CheckReport → World → Prop) :
    check.Ends w Q ↔ recoverRunning.Ends w fun r w₁ => match r with
      | .ok recovered =>
        let c := w₁.db.coordinator
        match checkChains? c.tables c.levels c.pending with
        | some error => Q (.error (.error (.illegalState error))) w₁
        | none => Q (.ok ⟨c.depth, c.pending, c.tables.length, recovered, c.passThroughRevokes⟩) w₁
      | .error fault => Q (.error fault) w₁ := by
  unfold check
  rw [ends_bind]
  -- After recovering, the check only looks.
  have hafter : ∀ recovered (w₁ : World), (do
      let c ← getCoordinator
      match checkChains? c.tables c.levels c.pending with
      | some error => refuse error
      | none => return ⟨c.depth, c.pending, c.tables.length, recovered, c.passThroughRevokes⟩ :
      Operation CheckReport).Ends w₁ Q ↔
      match checkChains? w₁.db.coordinator.tables w₁.db.coordinator.levels
        w₁.db.coordinator.pending with
      | some error => Q (.error (.error (.illegalState error))) w₁
      | none => Q (.ok ⟨w₁.db.coordinator.depth, w₁.db.coordinator.pending,
          w₁.db.coordinator.tables.length, recovered,
          w₁.db.coordinator.passThroughRevokes⟩) w₁ := by
    intro recovered w₁
    simp only [ends_bind, ends_getCoordinator]
    cases checkChains? w₁.db.coordinator.tables w₁.db.coordinator.levels
      w₁.db.coordinator.pending <;> exact Iff.rfl
  exact ⟨fun h => h.mono_cases (fun recovered w₁ => (hafter recovered w₁).mp) fun _ _ => id,
    fun h => h.mono_cases (fun recovered w₁ => (hafter recovered w₁).mpr) fun _ _ => id⟩

/-- A database that halted flushes nothing when it stops. -/
theorem flushAll_rule
    (halted : w.db.coordinator.halted = true →
      Q (.error (.error (.illegalState .halted))) (w.say .shuttingDownHalted))
    (flushed : w.db.coordinator.halted = false →
      (flushOldest w.db.coordinator.levels.length).Ends w Q) :
    flushAll.Ends w Q := by
  unfold flushAll
  simp only [ends_bind, ends_getCoordinator, ends_ite, ends_note, ends_refuse]
  split
  · exact halted ‹_›
  · exact flushed (Bool.eq_false_iff.mpr ‹_›)

/-- That the open unit of work cannot be revoked is told, and no more. -/
theorem ends_revokeLeft (w : World) (Q : Except Fault Unit → World → Prop) :
    revokeLeft.Ends w Q ↔ revokeUnit.Ends (w.say .shuttingDownWithSession) fun r w₁ => match r with
      | .ok _ => Q (.ok ()) w₁
      | .error (.error error) => Q (.ok ()) (w₁.say (.shutdownRevokeFailed error))
      | .error .panic => Q (.error .panic) w₁ := by
  unfold revokeLeft
  simp only [ends_bind, ends_note, ends_attempt]
  constructor
  · refine fun h => h.mono fun r w₁ h => ?_
    match r, h with
    | .ok _, h => exact h
    | .error (.error _), h => exact h
    | .error .panic, h => exact h
  · refine fun h => h.mono fun r w₁ h => ?_
    match r, h with
    | .ok _, h => exact h
    | .error (.error _), h => exact h
    | .error .panic, h => exact h

/-- What is left is flushed, and the database stops also if this fails. -/
theorem ends_flushLeft (w : World) (Q : Except Fault Unit → World → Prop) :
    flushLeft.Ends w Q ↔ flushAll.Ends w fun r w₁ => match r with
      | .error .panic => Q (.error .panic) w₁
      | r => Q r ((w₁.withCoordinator
          { w₁.db.coordinator with shutDown := true, publishing := false }.bump).say
            .shutDown) := by
  unfold flushLeft
  simp only [ends_bind, ends_attempt, ends_update, ends_note, ends_conclude]
  constructor
  · refine fun h => h.mono fun r w₁ h => ?_
    match r, h with
    | .ok _, h => exact h
    | .error (.error _), h => exact h
    | .error .panic, h => exact h
  · refine fun h => h.mono fun r w₁ h => ?_
    match r, h with
    | .ok _, h => exact h
    | .error (.error _), h => exact h
    | .error .panic, h => exact h

theorem ends_flushLeft_of_halted (hhalted : w.db.coordinator.halted = true)
    (Q : Except Fault Unit → World → Prop) :
    flushLeft.Ends w Q ↔ Q (.error (.error (.illegalState .halted)))
      (((w.say .shuttingDownHalted).withCoordinator
        { w.db.coordinator with shutDown := true, publishing := false }.bump).say .shutDown) := by
  rw [ends_flushLeft]
  unfold flushAll
  rw [ends_bind, ends_getCoordinator]
  simp only [if_pos hhalted, ends_bind, ends_note, ends_refuse]
  exact Iff.rfl

/-- A database stops once: it revokes what is open and flushes what is
left. -/
theorem stop_rule
    (stopped : w.db.coordinator.shutDown = true → Q (.ok ()) w)
    (revoked : ∀ unit, w.db.coordinator.shutDown = false → w.db.coordinator.openUnit = some unit →
      revokeLeft.Ends w fun r w₁ => match r with
        | .ok _ => flushLeft.Ends w₁ Q
        | .error fault => Q (.error fault) w₁)
    (flushed : w.db.coordinator.shutDown = false → w.db.coordinator.openUnit = none →
      flushLeft.Ends w Q) :
    stop.Ends w Q := by
  unfold stop
  simp only [ends_bind, ends_getCoordinator, ends_ite, ends_pure]
  split
  · exact stopped ‹_›
  rename_i hshutDown
  have hshutDown := Bool.eq_false_iff.mpr hshutDown
  split
  · obtain ⟨unit, hunit⟩ := Option.isSome_iff_exists.mp ‹_›
    exact (revoked unit hshutDown hunit).mono_cases (fun _ _ => id) fun _ _ => id
  · exact flushed hshutDown (Option.not_isSome_iff_eq_none.mp ‹_›)

end

end Operation

open Operation

/-! ### What users let go of -/

/-- Letting go of a session that is open resolves it as failed. That this
cannot be done is told, and no more. -/
theorem Session.drop_rule {session : Session} {w : World} {Q : Except Fault Unit → World → Prop}
    (closed : w.db.coordinator.isOpen session.id = false → Q (.ok ()) w)
    (lockedOut : w.db.coordinator.isOpen session.id = true → w.db.poisoned = true →
      Q (.ok ()) ((w.say .sessionAbandoned).say .abandonLocked))
    (abandoned : w.db.coordinator.isOpen session.id = true → w.db.poisoned = false →
      (locked (abandonSession session.id .abandoned)).Ends (w.say .sessionAbandoned)
        fun r w₁ => match r with
          | .ok _ => Q (.ok ()) w₁
          | .error (.error error) => Q (.ok ()) (w₁.say (.abandonFailed error))
          | .error .panic => Q (.error .panic) w₁) :
    session.drop.Ends w Q := by
  unfold Session.drop
  simp only [ends_bind, ends_getCoordinator, ends_ite, ends_note, ends_get, ends_pure]
  split
  · rename_i hopen
    split
    · exact lockedOut hopen ‹_›
    · rw [ends_attempt]
      refine (abandoned hopen (Bool.eq_false_iff.mpr ‹_›)).mono fun r w₁ h => ?_
      match r, h with
      | .ok _, h => exact h
      | .error (.error _), h => exact h
      | .error .panic, h => exact h
  · exact closed (Bool.eq_false_iff.mpr ‹_›)

/-- The world once the bus has stopped. -/
def World.withoutBus (w : World) : World :=
  if w.db.busStopped then w
  else
    let stopped := { w with db := { w.db with busStopped := true } }
    if w.db.heard.panicked then stopped.say .busPanicked else stopped

namespace Database

variable {w : World} {Q : Except Fault Unit → World → Prop}

/-- Stopping the bus never fails. -/
theorem ends_stopBus (w : World) (Q : Except Fault Unit → World → Prop) :
    stopBus.Ends w Q ↔ Q (.ok ()) w.withoutBus := by
  unfold stopBus World.withoutBus
  simp only [ends_bind, ends_get, ends_ite, ends_set, ends_note, ends_pure]
  cases w.db.busStopped with
  | true => exact Iff.rfl
  | false => cases w.db.heard.panicked <;> exact Iff.rfl

/-- The bus is stopped also where stopping has failed, unless it has
stopped the program. -/
theorem shutdown_rule
    (lockedOut : w.db.poisoned = true → Q (.error (.error (.illegalState .lockPoisoned))) w)
    (stopped : w.db.poisoned = false → (locked stop).Ends w fun r w₁ => match r with
      | .error .panic => Q (.error .panic) w₁
      | r => Q r w₁.withoutBus) :
    shutdown.Ends w Q := by
  unfold shutdown
  simp only [ends_bind, ends_get, ends_ite, ends_refuse, ends_attempt, ends_stopBus]
  split
  · exact lockedOut ‹_›
  refine (stopped (Bool.eq_false_iff.mpr ‹_›)).mono fun r w₁ h => ?_
  match r, h with
  | .ok _, h => exact h
  | .error (.error _), h => exact h
  | .error .panic, h => exact h

/-- Letting go of a database shuts it down. That this fails is told, and no
more. -/
theorem ends_drop (w : World) (Q : Except Fault Unit → World → Prop) :
    drop.Ends w Q ↔ shutdown.Ends w fun r w₁ => match r with
      | .ok _ => Q (.ok ()) w₁
      | .error (.error error) => Q (.ok ()) (w₁.say (.dropFailed error))
      | .error .panic => Q (.error .panic) w₁ := by
  unfold drop
  simp only [ends_bind, ends_attempt]
  constructor
  · refine fun h => h.mono fun r w₁ h => ?_
    match r, h with
    | .ok _, h => exact h
    | .error (.error _), h => exact h
    | .error .panic, h => exact h
  · refine fun h => h.mono fun r w₁ h => ?_
    match r, h with
    | .ok _, h => exact h
    | .error (.error _), h => exact h
    | .error .panic, h => exact h

end Database

end LayeredStore

import LayeredStore.Proofs.Agreement
import LayeredStore.Proofs.Parallel.Rules

/-!
# `LayeredStore.Proofs.Parallel.Operations`: operations that treat all tables alike

All operations but registering a table, writing to one and checking the
chains treat all tables alike. Carried out in two worlds whose tables differ,
they end in the same way, as long as a flush does.

Where the tables have to be in step for this, both coordinators are assumed
to be sound.

* `Flushes`: what is assumed of a flush.
* `advance_both`, `retreat_both`, `commitSession_both`,
  `abandonSession_both`, ...: sessions and levels.
* `popMany_both`, `merge_both`, `setCursor_both`, ...: history, modes and
  limits.
* `shutdown_both`: stopping for good.
* `Command.run_both`: all commands that treat all tables alike.
-/

set_option autoImplicit false

namespace LayeredStore

open World

namespace Operation

/-- A flush ends in the same way in related worlds. -/
def Flushes (lax : Prop) (R : World → World → Prop) : Prop :=
  ∀ w v, R w v → ∀ count, Both lax R (flushOldest count) (flushOldest count) w v

section
variable {lax : Prop} {R : World → World → Prop} {w v : World} (hR : Parallel R)
include hR

/-! ### Levels -/

theorem retreat_both (h : R w v) (operation : String) (verified? : Option Bool) :
    Both lax R (retreat operation verified?) (retreat operation verified?) w v := by
  unfold retreat
  refine both_get hR h fun chains ahead published _ =>
    both_ite Iff.rfl (fun _ => both_fail h _) fun _ => ?_
  refine both_update hR h (((Coordinator.evenly_discardHead _).comp
    (Coordinator.evenly_bump _)).comp (Coordinator.evenly_clampCursor _)) fun h₁ => ?_
  refine both_get hR h₁ fun chains' ahead' published' _ => both_note hR h₁ _ _ fun h₂ => ?_
  cases verified? with
  | none => exact publish_both hR h₂ rfl
  | some verified => exact publish_both hR h₂ rfl

/-- Where all tables are in step, each of them gets a layer. -/
theorem pushLevel_both (h : R w v) (hw : w.db.coordinator.Sound) (hv : v.db.coordinator.Sound) :
    Both lax R pushLevel pushLevel w v := by
  unfold pushLevel
  refine both_get hR h fun chains ahead published hc => ?_
  rw [← hc, Coordinator.pushTables_of_none _ hw.outOfStep?_eq_none,
    Coordinator.pushTables_of_none _ hv.outOfStep?_eq_none]
  -- The pushes change each coordinator as a push on all of its tables does.
  have h₁ := hR.update h ((Coordinator.evenly_push _).comp (Coordinator.evenly_bump _))
  refine both_change ?_
  change Both lax R _ _ (w.withCoordinator w.db.coordinator.push.bump)
    (v.withCoordinator v.db.coordinator.push.bump)
  rw [show w.db.coordinator.nextSeq = v.db.coordinator.nextSeq from congrArg (·.nextSeq) hc]
  refine both_get hR h₁ fun chains' ahead' published' _ => both_note hR h₁ _ _ fun h₂ => ?_
  exact (publish_both hR h₂ rfl).bind fun _ w' v' h' => both_pure h' _

theorem solidify_both (hflush : Flushes lax R) (h : R w v) (count : Nat) :
    Both lax R (solidify count) (solidify count) w v := by
  unfold solidify
  refine both_update hR h (((Coordinator.evenly_solidify _ count).comp
    (Coordinator.evenly_bump _)).comp (Coordinator.evenly_clampCursor _)) fun h₁ => ?_
  refine both_get hR h₁ fun chains ahead published _ => both_note hR h₁ _ _ fun h₂ => ?_
  exact both_ite Iff.rfl (fun _ => hflush _ _ h₂ _) fun _ => both_pure h₂ ()

theorem makeRoom_both (hflush : Flushes lax R) (h : R w v) :
    Both lax R makeRoom makeRoom w v := by
  unfold makeRoom
  exact both_get hR h fun chains ahead published _ =>
    both_ite Iff.rfl (fun _ => solidify_both hR hflush h _) fun _ => both_pure h ()

theorem advance_both (hflush : Flushes lax R) (h : R w v) (hw : w.db.coordinator.Sound)
    (hv : v.db.coordinator.Sound) (hrun : v.Running) (hclosed : v.db.coordinator.openSeq? = none) :
    Both lax R advance advance w v := by
  obtain ⟨chains, ahead, published, hc⟩ := hR.coordinator h
  have hrun' : w.Running := ⟨(hR.poisoned h).trans hrun.1, (congrArg _ hc).trans hrun.2⟩
  have hclosed' : w.db.coordinator.openSeq? = none := by
    rw [hc]
    exact hclosed
  unfold advance
  refine (makeRoom_both hR hflush h).bind_of (makeRoom_led hw hrun' hclosed')
    (makeRoom_led hv hrun hclosed) fun _ w' v' h' hledw hledv => ?_
  exact pushLevel_both hR h' (Quietly.sound hledw.1 hw) (Quietly.sound hledv.1 hv)

/-! ### Sessions -/

theorem leaveForced_both (h : R w v) : Both lax R leaveForced leaveForced w v := by
  unfold leaveForced
  exact both_get hR h fun chains ahead published _ => both_ite Iff.rfl
    (fun _ => update_both hR h
      ((Coordinator.evenly_unforce _).comp (Coordinator.evenly_bump _)))
    fun _ => both_pure h ()

omit hR in
/-- How opening a session ends that gets a layer of its own. -/
def openLayered (forced : Bool) (id : Nat) : Operation Session := do
  match ← attempt advance with
  | .ok seq =>
    update (·.openNewUnit (some seq))
    return ⟨id, false, false⟩
  | .error error =>
    if forced then update (·.unforce)
    fail error

theorem openLayered_both (hflush : Flushes lax R) (h : R w v) (hw : w.db.coordinator.Sound)
    (hv : v.db.coordinator.Sound) (hrun : v.Running) (hclosed : v.db.coordinator.openSeq? = none)
    (forced : Bool) (id : Nat) :
    Both lax R (openLayered forced id) (openLayered forced id) w v := by
  unfold openLayered
  -- A record that is too long is reported again by both ways out.
  refine (advance_both hR hflush h hw hv hrun hclosed).attempt_bind (fun answer w' v' h' => ?_)
    fun w' => ?_
  · cases answer with
    | ok seq =>
      exact both_update hR h' (Coordinator.evenly_openNewUnit _ _) fun h₁ => both_pure h₁ _
    | error error =>
      refine both_ite Iff.rfl (fun _ => ?_) fun _ => both_fail h' error
      exact both_update hR h' (Coordinator.evenly_unforce _) fun h₁ => both_fail h₁ error
  · cases forced with
    | false => exact ⟨w', rfl⟩
    | true => exact ⟨w'.withCoordinator w'.db.coordinator.unforce, rfl⟩

theorem openSession_both (hflush : Flushes lax R) (h : R w v) (hw : w.db.coordinator.Sound)
    (hv : v.db.coordinator.Sound) (hpoisoned : v.db.poisoned = false) (force : Bool) :
    Both lax R (openSession force) (openSession force) w v := by
  unfold openSession
  refine both_ensureRunning hR h fun hstopped => both_get hR h fun chains ahead published _ => ?_
  have hrun : v.Running := ⟨hpoisoned, Coordinator.halted_of_stopped?_eq_none hstopped⟩
  simp only [Coordinator.openUnit_retabled]
  cases hunit : v.db.coordinator.openUnit with
  | some unit =>
    -- The session joins the open unit of work.
    refine both_update hR h (Coordinator.evenly_joinUnit _ unit) fun h₁ => ?_
    refine both_get hR h₁ fun chains' ahead' published' _ => both_note hR h₁ _ _ fun h₂ => ?_
    exact both_pure h₂ _
  | none =>
    -- It opens one: without a layer, or with one of its own, in forced mode if need be.
    have hclosed : v.db.coordinator.openSeq? = none := Coordinator.openSeq?_of_none hunit
    refine both_ite Iff.rfl (fun _ => ?_) fun _ => ?_
    · exact both_update hR h (Coordinator.evenly_openNewUnit _ none) fun h₁ => both_pure h₁ _
    · refine both_ite Iff.rfl (fun _ => ?_) fun _ =>
        openLayered_both hR hflush h hw hv hrun hclosed (!v.db.coordinator.enabled) _
      have heven : v.db.coordinator.Evenly fun c =>
        { c with enabled := true, disableOnExit := true } := .settings (fun _ _ _ => rfl) rfl rfl
      exact both_update hR h heven fun h₁ => openLayered_both hR hflush h₁
        (hw.congr ⟨rfl, rfl, rfl, rfl, rfl, rfl⟩) (hv.congr ⟨rfl, rfl, rfl, rfl, rfl, rfl⟩)
        hrun hclosed (!v.db.coordinator.enabled) _

theorem revokeUnit_both (h : R w v) : Both lax R revokeUnit revokeUnit w v := by
  unfold revokeUnit
  refine both_get hR h fun chains ahead published _ => ?_
  simp only [Coordinator.openUnit_retabled]
  cases v.db.coordinator.openUnit with
  | none => exact both_pure h ()
  | some unit =>
    refine both_update hR h ((Coordinator.evenly_setUnit _ none).comp
      (Coordinator.evenly_resolveOpen _ unit .revoked)) fun h₁ => ?_
    cases unit.seq with
    | none =>
      exact both_update hR h₁ (Coordinator.evenly_countRevoke _) fun h₂ =>
        both_note hR h₂ _ _ fun h₃ => leaveForced_both hR h₃
    | some seq =>
      exact (retreat_both hR h₁ "revoke" none).bind fun _ w' v' h' => leaveForced_both hR h'

/-- The digests over the newest layers of all tables are published, and
can differ. -/
theorem sealUnit_both (h : R w v) (seq : Nat) : Both lax R (sealUnit seq) (sealUnit seq) w v := by
  unfold sealUnit
  refine both_update hR h (Coordinator.evenly_sealHeads _) fun h₁ =>
    both_get hR h₁ fun chains ahead published _ => both_note hR h₁ _ _ fun h₂ => ?_
  exact publish_both hR h₂ (Event.undigested_commitSession seq _ _)

theorem settleForced_both (hflush : Flushes lax R) (h : R w v) :
    Both lax R settleForced settleForced w v := by
  unfold settleForced
  exact both_get hR h fun chains ahead published _ => both_ite Iff.rfl
    (fun _ => (hflush _ _ h _).bind fun _ w' v' h' => leaveForced_both hR h')
    fun _ => both_pure h ()

theorem finishUnit_both (hflush : Flushes lax R) (h : R w v) :
    Both lax R finishUnit finishUnit w v := by
  unfold finishUnit
  refine both_get hR h fun chains ahead published _ => ?_
  simp only [Coordinator.openUnit_retabled]
  cases v.db.coordinator.openUnit with
  | none => exact both_pure h ()
  | some unit =>
    refine both_update hR h (Coordinator.evenly_setUnit _ none) fun h₁ => ?_
    cases unit.seq with
    | none => exact settleForced_both hR hflush h₁
    | some seq =>
      exact (sealUnit_both hR h₁ seq).bind fun _ w' v' h' => settleForced_both hR hflush h'

theorem commitSession_both (hflush : Flushes lax R) (h : R w v) (session : Nat) :
    Both lax R (commitSession session) (commitSession session) w v := by
  unfold commitSession
  refine both_get hR h fun chains ahead published _ => ?_
  simp only [Coordinator.status_retabled]
  cases v.db.coordinator.status session with
  | committed => exact both_fail h _
  | revoked => exact both_fail h _
  | abandoned => exact both_fail h _
  | opened =>
    refine both_ensureRunning hR h fun _ => both_get hR h fun chains ahead published _ =>
      both_ite Iff.rfl (fun _ => both_fail_bind h _) fun _ => ?_
    refine both_update hR h (Coordinator.evenly_setStatus _ session .committed) fun h₁ =>
      both_get hR h₁ fun chains ahead published _ => ?_
    simp only [Coordinator.openUnit_retabled]
    generalize v.withCoordinator _ = v₁ at h₁ ⊢
    cases v₁.db.coordinator.openUnit with
    | none => exact both_pure h₁ ()
    | some unit =>
      refine both_ite Iff.rfl (fun _ => both_pure h₁ ()) fun _ =>
        both_ite Iff.rfl (fun _ => ?_) fun _ => finishUnit_both hR hflush h₁
      exact (revokeUnit_both hR h₁).bind fun _ w' v' h' => both_fail h' _

theorem commitInnermost_both (hflush : Flushes lax R) (h : R w v) :
    Both lax R commitInnermost commitInnermost w v := by
  unfold commitInnermost
  refine both_get hR h fun chains ahead published _ => ?_
  simp only [Coordinator.innermost?_retabled]
  cases v.db.coordinator.innermost? with
  | none => exact both_fail h _
  | some session => exact commitSession_both hR hflush h session

theorem abandonSession_both (h : R w v) (session : Nat) (status : SessionStatus) :
    Both lax R (abandonSession session status) (abandonSession session status) w v := by
  unfold abandonSession
  refine both_get hR h fun chains ahead published _ =>
    both_ite Iff.rfl (fun _ => ?_) fun _ => both_pure h ()
  refine both_update hR h (Coordinator.evenly_setStatus _ session status) fun h₁ => ?_
  simp only [Coordinator.openUnit_retabled]
  cases v.db.coordinator.openUnit with
  | none => exact both_pure h₁ ()
  | some unit =>
    refine both_ite Iff.rfl (fun _ => ?_) fun _ => both_pure h₁ ()
    refine both_update hR h₁ (Coordinator.evenly_setUnit _ _) fun h₂ =>
      both_get hR h₂ fun chains ahead published _ => both_ite Iff.rfl (fun _ => ?_) fun _ => ?_
    · exact note_both hR h₂ _ _
    · exact revokeUnit_both hR h₂

/-! ### History -/

theorem revoke_both (h : R w v) : Both lax R revoke revoke w v := by
  unfold revoke
  refine both_ensureRunning hR h fun _ => both_get hR h fun chains ahead published _ =>
    both_ite Iff.rfl (fun _ => ?_) fun _ => ?_
  · refine both_ite Iff.rfl (fun _ => revokeUnit_both hR h) fun _ => ?_
    exact both_update hR h (Coordinator.evenly_countRevoke _) fun h₁ => note_both hR h₁ _ _
  · exact both_ite Iff.rfl (fun _ => both_fail h _) fun _ =>
      both_ite Iff.rfl (fun _ => revokeUnit_both hR h) fun _ => retreat_both hR h "revoke" none

theorem merge_both (hflush : Flushes lax R) (h : R w v) : Both lax R merge merge w v := by
  unfold merge
  refine both_ensureRunning hR h fun _ => both_get hR h fun chains ahead published _ => ?_
  simp only [Coordinator.levels_retabled, Coordinator.pending_retabled]
  cases v.db.coordinator.levels[v.db.coordinator.pending]? with
  | none => exact both_fail h _
  | some oldestLive =>
    exact both_ite Iff.rfl (fun _ => both_fail h _) fun _ => hflush _ _ h _

theorem retreatMany_both (h : R w v) (operation : String) (verify : Bool) (count : Nat) :
    Both lax R (retreatMany operation verify count) (retreatMany operation verify count) w v := by
  induction count generalizing w v with
  | zero => exact both_pure h ()
  | succ count ih =>
    unfold retreatMany
    exact (retreat_both hR h operation (some verify)).bind fun _ w' v' h' => ih h'

/-- Where all tables are in step, every committed layer can be popped. -/
theorem popMany_both (h : R w v) (hw : w.db.coordinator.Sound) (hv : v.db.coordinator.Sound)
    (count : Nat) (verify : Bool) :
    Both lax R (popMany count verify) (popMany count verify) w v := by
  unfold popMany
  refine both_ensureRunning hR h fun _ => both_get hR h fun chains ahead published hc =>
    both_ite Iff.rfl (fun _ => both_fail h _) fun hunit => ?_
  have hclosed : v.db.coordinator.openSeq? = none :=
    Coordinator.openSeq?_of_none (Option.not_isSome_iff_eq_none.mp hunit)
  have hclosed' : w.db.coordinator.openSeq? = none := by
    rw [hc]
    exact hclosed
  refine both_ite Iff.rfl (fun _ => both_pure h ()) fun _ =>
    both_ite Iff.rfl (fun _ => both_fail h _) fun _ =>
    both_ite Iff.rfl (fun _ => both_fail h _) fun _ => ?_
  rw [← hc, hw.notPoppable?_eq_none hclosed', hv.notPoppable?_eq_none hclosed]
  exact retreatMany_both hR h _ verify count

/-! ### Modes, cursor and limits -/

theorem enable_both (h : R w v) : Both lax R enable enable w v := by
  unfold enable
  refine both_ensureRunning hR h fun _ => both_get hR h fun chains ahead published _ =>
    both_ite Iff.rfl (fun _ => both_pure h ()) fun _ =>
    both_ite Iff.rfl (fun _ => both_fail h _) fun _ => ?_
  exact both_update hR h (.settings (fun _ _ _ => rfl) rfl rfl) fun h₁ => note_both hR h₁ _ _

theorem disable_both (h : R w v) : Both lax R disable disable w v := by
  unfold disable
  refine both_ensureRunning hR h fun _ => both_get hR h fun chains ahead published _ =>
    both_ite Iff.rfl (fun _ => both_pure h ()) fun _ =>
    both_ite Iff.rfl (fun _ => both_fail h _) fun _ =>
    both_ite Iff.rfl (fun _ => both_fail h _) fun _ => ?_
  exact both_update hR h (.settings (fun _ _ _ => rfl) rfl rfl) fun h₁ => note_both hR h₁ _ _

theorem setCursor_both (h : R w v) (cursor : Cursor) (offset : Nat) :
    Both lax R (setCursor cursor offset) (setCursor cursor offset) w v := by
  unfold setCursor
  refine both_ensureRunning hR h fun _ => both_get hR h fun chains ahead published _ => ?_
  have hview : ∀ view, v.db.coordinator.Evenly fun c => { c with view := view } :=
    fun view => .settings (fun _ _ _ => rfl) rfl rfl
  cases cursor with
  | solidity =>
    exact both_ite Iff.rfl (fun _ => both_fail h _) fun _ => update_both hR h (hview _)
  | head =>
    exact both_ite Iff.rfl (fun _ => both_fail h _) fun _ => update_both hR h (hview _)

theorem setMaxSize_both (hflush : Flushes lax R) (h : R w v) (limit : Nat) :
    Both lax R (setMaxSize limit) (setMaxSize limit) w v := by
  unfold setMaxSize
  refine both_ensureRunning hR h fun _ => both_ite Iff.rfl (fun _ => both_fail h _) fun _ => ?_
  refine both_update hR h (.settings (fun _ _ _ => rfl) rfl rfl) fun h₁ =>
    both_get hR h₁ fun chains ahead published _ => ?_
  exact both_ite Iff.rfl (fun _ => solidify_both hR hflush h₁ _) fun _ => both_pure h₁ ()

theorem setMaxFlushCount_both (hflush : Flushes lax R) (h : R w v) (limit : Nat) :
    Both lax R (setMaxFlushCount limit) (setMaxFlushCount limit) w v := by
  unfold setMaxFlushCount
  refine both_ensureRunning hR h fun _ => both_ite Iff.rfl (fun _ => both_fail h _) fun _ => ?_
  refine both_update hR h (.settings (fun _ _ _ => rfl) rfl rfl) fun h₁ =>
    both_get hR h₁ fun chains ahead published _ => ?_
  exact both_ite Iff.rfl (fun _ => hflush _ _ h₁ _) fun _ => both_pure h₁ ()

/-! ### Stopping -/

theorem flushAll_both (hflush : Flushes lax R) (h : R w v) :
    Both lax R flushAll flushAll w v := by
  unfold flushAll
  refine both_get hR h fun chains ahead published _ =>
    both_ite Iff.rfl (fun _ => ?_) fun _ => hflush _ _ h _
  exact both_note hR h _ _ fun h₁ => both_fail h₁ _

theorem revokeLeft_both (h : R w v) : Both lax R revokeLeft revokeLeft w v := by
  unfold revokeLeft
  refine both_note hR h _ _ fun h₁ => (revokeUnit_both hR h₁).attempt.bind fun answer w' v' h' => ?_
  cases answer with
  | ok done => exact both_pure h' ()
  | error error => exact note_both hR h' _ _

omit hR in
theorem conclude_both {α : Type} (h : R w v) (result : Except Error α) :
    Both lax R (conclude result) (conclude result) w v := by
  cases result with
  | ok a => exact both_pure h a
  | error error => exact both_fail h error

theorem flushLeft_both (hflush : Flushes lax R) (h : R w v) :
    Both lax R flushLeft flushLeft w v := by
  unfold flushLeft
  refine (flushAll_both hR hflush h).attempt_bind (fun answer w' v' h' => ?_) fun w' => ⟨_, rfl⟩
  exact both_update hR h' (.settings (fun _ _ _ => rfl) rfl rfl) fun h₁ =>
    both_note hR h₁ _ _ fun h₂ => conclude_both h₂ answer

theorem stop_both (hflush : Flushes lax R) (h : R w v) : Both lax R stop stop w v := by
  unfold stop
  refine both_get hR h fun chains ahead published _ =>
    both_ite Iff.rfl (fun _ => both_pure h ()) fun _ =>
    both_ite Iff.rfl (fun _ => ?_) fun _ => flushLeft_both hR hflush h
  exact (revokeLeft_both hR h).bind fun _ w' v' h' => flushLeft_both hR hflush h'

end

end Operation

/-! ### Handles -/

namespace Session

open Operation

section
variable {lax : Prop} {R : World → World → Prop} {w v : World} (hR : Parallel R)
include hR

theorem drop_both (h : R w v) (session : Session) :
    Both lax R session.drop session.drop w v := by
  unfold drop
  refine both_get hR h fun chains ahead published _ =>
    both_ite Iff.rfl (fun _ => ?_) fun _ => both_pure h ()
  refine both_note hR h _ _ fun h₁ => both_read (both_ite (by rw [hR.poisoned h₁])
    (fun _ => note_both hR h₁ _ _) fun _ => ?_)
  refine (Both.locked hR h₁ fun _ =>
    abandonSession_both hR h₁ session.id .abandoned).attempt.bind fun answer w' v' h' => ?_
  cases answer with
  | ok done => exact both_pure h' ()
  | error error => exact note_both hR h' _ _

theorem commit_both (hflush : Flushes lax R) (h : R w v) (hw : w.db.coordinator.Sound)
    (hv : v.db.coordinator.Sound) (session : Session) :
    Both lax R session.commit session.commit w v := by
  have hok : ∀ w : World, w.db.coordinator.Sound →
      (locked (commitSession session.id)).Ends w fun _ w' =>
        session.drop.Ends w' fun r _ => r = .ok () := fun w hsound =>
    (locked_path (fun _ => .refl) fun hpoisoned =>
      commitSession_led hsound hpoisoned session.id).mono fun _ _ hpath =>
        session.drop_ok (Actually.sound hpath hsound)
  exact useUp_both session (Both.locked hR h fun _ => commitSession_both hR hflush h session.id)
    (fun _ _ h' => drop_both hR h' session) (fun _ => hok w hw) fun _ => hok v hv

theorem revoke_both (h : R w v) (session : Session) :
    Both lax R session.revoke session.revoke w v :=
  (useUp_both session (Both.locked hR h fun _ => abandonSession_both hR h session.id .revoked)
    (fun _ _ h' => drop_both hR h' session) False.elim False.elim).weaken

end

end Session

namespace Database

open Operation

/-- Whether the bus stops in a panic is told to the operator only. -/
theorem perform_stopBus (w : World) :
    ∃ w', stopBus.perform w = (.ok (), w') ∧ w.Undisturbed w' := by
  have hend : stopBus.Ends w fun r w' => r = .ok () ∧ w.Undisturbed w' := by
    unfold stopBus
    simp only [ends_bind, ends_get, ends_ite, ends_set, ends_note, ends_pure]
    split
    · split <;> exact ⟨trivial, rfl, rfl, rfl⟩
    · exact ⟨trivial, rfl, rfl, rfl⟩
  exact ⟨_, Prod.ext hend.1 rfl, hend.2⟩

section
variable {lax : Prop} {R : World → World → Prop} {w v : World} (hR : Parallel R)
include hR

theorem stopBus_both (h : R w v) : Both lax R stopBus stopBus w v := by
  obtain ⟨w', hw', hundisturbed⟩ := perform_stopBus w
  obtain ⟨v', hv', hundisturbed'⟩ := perform_stopBus v
  unfold Both EndsBoth
  rw [hw', hv']
  exact .alike (hR.undisturbed h hundisturbed hundisturbed')

theorem shutdown_both (hflush : Flushes lax R) (h : R w v) :
    Both lax R shutdown shutdown w v := by
  unfold shutdown
  refine both_read (both_ite (by rw [hR.poisoned h]) (fun _ => both_fail h _) fun _ => ?_)
  refine (Both.locked hR h fun _ => stop_both hR hflush h).attempt_bind
    (fun stopped w' v' h' => ?_) fun w' => ?_
  · exact (stopBus_both hR h').bind fun _ w'' v'' h'' => conclude_both h'' stopped
  · obtain ⟨w'', hstop, -⟩ := perform_stopBus w'
    refine ⟨w'', ?_⟩
    rw [perform_bind, hstop]
    rfl

end

end Database

/-! ### Commands -/

/-- The command treats all tables alike. -/
def Command.Uniform : Command → Prop
  | addTable _ _ | write _ _ _ | check => False
  | _ => True

open Operation in
/-- A command that treats all tables alike ends in the same way in related
worlds. -/
theorem Command.run_both {lax : Prop} {R : World → World → Prop} {w v : World} (hR : Parallel R)
    (hflush : Flushes lax R) (h : R w v) (hw : w.db.coordinator.Sound)
    (hv : v.db.coordinator.Sound) {command : Command} (huniform : command.Uniform) :
    Both lax R command.run command.run w v := by
  -- The answer of a command is made of that of its operation.
  have hanswer : ∀ {α : Type} {f : α → Reply} {body : Operation α}, Both lax R body body w v →
      Both lax R (do return f (← body)) (do return f (← body)) w v :=
    fun hbody => hbody.bind fun a _ _ h' => both_pure h' _
  cases command with
  | addTable | write | check => exact huniform.elim
  | openSession force =>
    exact hanswer (Both.locked hR h fun hpoisoned =>
      openSession_both hR hflush h hw hv hpoisoned force)
  | commitSession session =>
    exact hanswer (Session.commit_both hR hflush h hw hv session)
  | revokeSession session => exact hanswer (Session.revoke_both hR h session)
  | dropSession session => exact hanswer (Session.drop_both hR h session)
  | commit => exact hanswer (Both.locked hR h fun _ => commitInnermost_both hR hflush h)
  | revoke => exact hanswer (Both.locked hR h fun _ => revoke_both hR h)
  | merge => exact hanswer (Both.locked hR h fun _ => merge_both hR hflush h)
  | popMany count verify =>
    exact hanswer (Both.locked hR h fun _ => popMany_both hR h hw hv count verify)
  | enable => exact hanswer (Both.locked hR h fun _ => enable_both hR h)
  | disable => exact hanswer (Both.locked hR h fun _ => disable_both hR h)
  | setCursor cursor offset =>
    exact hanswer (Both.locked hR h fun _ => setCursor_both hR h cursor offset)
  | setMaxSize limit => exact hanswer (Both.locked hR h fun _ => setMaxSize_both hR hflush h limit)
  | setMaxFlushCount limit =>
    exact hanswer (Both.locked hR h fun _ => setMaxFlushCount_both hR hflush h limit)
  | shutdown => exact hanswer (Database.shutdown_both hR hflush h)

end LayeredStore

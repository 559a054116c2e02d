import LayeredStore.Proofs.Resolution

/-!
# `LayeredStore.Proofs.Routes`: every operation as a route of steps

Every operation makes steps of `Transitions.lean`, one after the other,
however it ends, and leaves the database in order.

* `openSession_steps`: opening a session joins the open unit of work or
  opens one; a layer is pushed only once there is room for it. In a
  disabled database there always is, so a forced session is opened in one
  step.
* `commitSession_steps`, `abandonSession_steps`: resolving a session.
* `Command.run_steps`, `Move.act_steps`: everything that users can do.
* `play_orderly`: so a database is in order after every run.
-/

set_option autoImplicit false

namespace LayeredStore

open World

namespace World

section
variable {move : Move} {w w' : World}

theorem Step.route (h : Step move w w') : w.Steps move w' := .single h

theorem Steps.say (h : Steps move w w') (notice : Notice) : w.Steps move (w'.say notice) :=
  h.tail (.aside (.refl _) rfl rfl)

theorem Steps.set (h : Steps move w w') {c : Coordinator} (hc : w'.db.coordinator.Alike c) :
    w.Steps move (w'.withCoordinator c) :=
  h.tail (.aside hc rfl rfl)

theorem Steps.turn (h : Steps move w w') {c : Coordinator} (hpoisoned : w'.db.poisoned = false)
    (hturn : w'.db.coordinator.Turn move c) :
    w.Steps move (w'.withCoordinator c) :=
  h.tail (.turn hpoisoned hturn (.refl _) rfl hpoisoned)

/-- While a layer is open some layer is live, so none is open where all are
pending. -/
theorem Orderly.open_lt_of_dry (h : w.Orderly)
    (hdry : w.db.coordinator.pending = w.db.coordinator.levels.length)
    (hopen : w.db.coordinator.openSeq?.isSome) :
    w.db.coordinator.levels.length < w.db.coordinator.levels.length := by
  have hlive := h.sound.openLive hopen
  rwa [hdry] at hlive

/-- The unit of work of an enabled database owns the newest layer, which
is live. -/
theorem Orderly.owns_newest (h : w.Orderly) {unit : UnitOfWork}
    (hunit : w.db.coordinator.openUnit = some unit) (henabled : w.db.coordinator.enabled = true) :
    ∃ seq, unit.seq = some seq ∧ w.db.coordinator.levels.getLast? = some seq ∧
      0 < w.db.coordinator.depth := by
  have hlayered := h.moded.layered unit hunit
  rw [henabled] at hlayered
  obtain ⟨seq, hseq⟩ := Option.isSome_iff_exists.mp hlayered
  have hopen : w.db.coordinator.openSeq? = some seq :=
    (Coordinator.openSeq?_of_some hunit).trans hseq
  have hlive := h.sound.openLive (Option.isSome_iff_exists.mpr ⟨seq, hopen⟩)
  exact ⟨seq, hseq, h.sound.openLast seq hopen, Nat.sub_pos_of_lt hlive⟩

end

end World

namespace Operation

section
variable {move : Move} {w : World}

/-! ### Flushes -/

/-- How an operation ends that moves layers but leaves sessions and modes
alone: at the end of a route, with the lock as it was, and after a
success the database still runs. -/
structure Moves (move : Move) (w : World) (r : Except Fault Unit)
    (w' : World) : Prop where
  path : Led (Steps move) w r w'
  modes : w.db.coordinator.SameModes w'.db.coordinator
  poisoned : w'.db.poisoned = w.db.poisoned
  running : r = .ok () → w'.Running

theorem Moves.after {w₁ w' : World} {r : Except Fault Unit} (h : Moves move w₁ r w')
    (hpath : Steps move w w₁) (hmodes : w.db.coordinator.SameModes w₁.db.coordinator)
    (hpoisoned : w₁.db.poisoned = w.db.poisoned) : Moves move w r w' :=
  ⟨h.path.after fun _ => hpath.trans, hmodes.trans h.modes, h.poisoned.trans hpoisoned, h.running⟩

theorem flushOldest_moves (h : w.Orderly) (hrun : w.Running) {count : Nat}
    (hopen : w.db.coordinator.openSeq?.isSome → count < w.db.coordinator.levels.length) :
    (flushOldest count).Ends w (Moves move w) := by
  refine ((flushOldest_ends w h.sound.names count).and (flushOldest_led h.sound hrun hopen)).mono
    fun r w' hend => ?_
  obtain ⟨hend, -, hrun'⟩ := hend
  have hn := Nat.min_le_right count w.db.coordinator.levels.length
  have hopen' : w.db.coordinator.openSeq?.isSome →
      min count w.db.coordinator.levels.length < w.db.coordinator.levels.length :=
    fun hsome => Nat.lt_of_le_of_lt (Nat.min_le_left _ _) (hopen hsome)
  refine ⟨?_, hend.sameModes, by rw [hend.database], hrun'⟩
  match r, hend with
  | .ok (), hend => exact (Step.flush hrun hn hopen' hend (by simp)).route
  | .error (.error error), hend => exact (Step.flush hrun hn hopen' hend (by simp)).route
  | .error .panic, hend => exact (Step.crash hrun hn hopen' hend).route

theorem solidify_moves (h : w.Orderly) (hrun : w.Running) {count : Nat}
    (hopen : w.db.coordinator.openSeq?.isSome → count < w.db.coordinator.depth) :
    (solidify count).Ends w (Moves move w) := by
  let c := (w.db.coordinator.solidify count).bump
  have hmodes : w.db.coordinator.SameModes c := ⟨rfl, rfl, rfl, rfl, rfl, id⟩
  have halike := c.alike_clampCursor
  -- In `w₁` the layers are pending. The flush at the limit starts from there.
  refine solidify_rule fun w₁ hw₁ => ?_
  have hc₁ : w₁.db.coordinator = c.clampCursor := by
    rw [hw₁]
    rfl
  have hpoisoned₁ : w₁.db.poisoned = w.db.poisoned := by
    rw [hw₁]
    rfl
  have hpath : Steps move w w₁ := by
    rw [hw₁]
    exact ((Steps.turn .refl hrun.1 (.solidify count hrun.2 hopen)).set halike).say _
  have hrun₁ : w₁.Running := by
    rw [hw₁]
    exact ⟨hrun.1, halike.halted.trans hrun.2⟩
  have hmodes₁ : w.db.coordinator.SameModes w₁.db.coordinator := by
    rw [hc₁]
    exact hmodes.trans halike.modes
  have horderly₁ := hpath.orderly h
  refine ⟨fun _ => ⟨hpath, hmodes₁, hpoisoned₁, fun _ => hrun₁⟩, fun _ => ?_⟩
  exact (flushOldest_moves horderly₁ hrun₁ horderly₁.sound.openLive).mono fun r w' hend =>
    hend.after hpath hmodes₁ hpoisoned₁

/-! ### Opening sessions -/

theorem makeRoom_moves (h : w.Orderly) (hrun : w.Running)
    (hunit : w.db.coordinator.openUnit = none) :
    makeRoom.Ends w (Moves move w) := by
  refine makeRoom_rule (fun _ => ⟨.refl, .refl _, rfl, fun _ => hrun⟩) fun _ => ?_
  refine solidify_moves h hrun fun hsome => ?_
  rw [Coordinator.openSeq?_of_none hunit] at hsome
  cases hsome

/-- Publishing does not touch what opening a unit of work looks at. -/
theorem alike_openNewUnit_announce (c : Coordinator) (event : Event) (seq : Option Nat) :
    (c.openNewUnit seq).Alike ((c.announce event).openNewUnit seq) := by
  unfold Coordinator.announce
  split <;> exact ⟨⟨rfl, rfl, rfl, rfl, rfl, rfl⟩, ⟨rfl, rfl, rfl, rfl, rfl, id⟩, rfl, rfl⟩

/-- A layer was pushed, and there is a route to where the unit of work is
opened that owns it. -/
def Pushed (move : Move) (w : World) (r : Except Fault Nat) (w' : World) :
    Prop :=
  ∃ seq, r = .ok seq ∧
    Steps move w (w'.withCoordinator (w'.db.coordinator.openNewUnit (some seq)))

/-- Pushing a layer and opening a unit of work over it is one step, which
enables the database if it is disabled. -/
theorem pushLevel_pushed (h : w.Orderly) (hrun : w.Running)
    (hunit : w.db.coordinator.openUnit = none) (hshutDown : w.db.coordinator.shutDown = false)
    (hopens : move.opens = true) :
    pushLevel.Ends (w.withCoordinator w.db.coordinator.force) (Pushed move w) := by
  have hsound : w.db.coordinator.force.Sound := h.sound.congr ⟨rfl, rfl, rfl, rfl, rfl, rfl⟩
  rw [ends_pushLevel (w := w.withCoordinator w.db.coordinator.force) hsound]
  exact ⟨_, rfl, .single (.turn hrun.1 (.push hopens hrun.2 hunit hshutDown)
    (alike_openNewUnit_announce _ _ _) rfl hrun.1)⟩

/-- In a disabled database that was enabled for a session there is room
for a layer, which is the only one. -/
theorem advance_forced (h : w.Orderly) (hdisabled : w.db.coordinator.enabled = false) :
    advance.Ends (w.withCoordinator w.db.coordinator.force) fun r w' =>
      r = .ok w.db.coordinator.nextSeq ∧
      (w.db.coordinator.force.push.bump.openNewUnit (some w.db.coordinator.nextSeq)).Alike
        (w'.db.coordinator.openNewUnit (some w.db.coordinator.nextSeq)) ∧
      w'.disk = w.disk ∧ w'.db.poisoned = w.db.poisoned := by
  have hsound : w.db.coordinator.force.Sound := h.sound.congr ⟨rfl, rfl, rfl, rfl, rfl, rfl⟩
  rw [ends_advance]
  refine makeRoom_rule (fun _ => ?_) fun hfull => ?_
  case refine_2 =>
    -- A disabled database has no layers.
    have hfull : w.db.coordinator.maxSize ≤ w.db.coordinator.levels.length - _ := hfull
    rw [(h.moded.disabled hdisabled).1] at hfull
    exact absurd h.moded.roomy (Nat.not_lt_of_le (Nat.le_trans hfull (Nat.sub_le _ _)))
  rw [ends_pushLevel (w := w.withCoordinator w.db.coordinator.force) hsound]
  exact ⟨rfl, alike_openNewUnit_announce _ _ _, rfl, rfl⟩

/-- A forced session of a disabled database is always opened. -/
theorem openSession_forced (h : w.Orderly) (hrun : w.Running)
    (hunit : w.db.coordinator.openUnit = none) (hshutDown : w.db.coordinator.shutDown = false)
    (hdisabled : w.db.coordinator.enabled = false) :
    (openSession true).Ends w fun r w' =>
      r = .ok ⟨w.db.coordinator.statuses.length, false, false⟩ ∧
      (w.db.coordinator.force.push.bump.openNewUnit (some w.db.coordinator.nextSeq)).Alike
        w'.db.coordinator ∧
      w'.disk = w.disk ∧ w'.db.poisoned = w.db.poisoned := by
  apply openSession_rule
  case refused =>
    intro error herror
    cases (Coordinator.stopped?_eq_none hrun.2 hshutDown).symm.trans herror
  case joined =>
    intro unit _ hsome
    cases hunit.symm.trans hsome
  case passed =>
    intro _ _ _ hforce
    cases hforce
  case pushed =>
    intro _ _ _
    refine (advance_forced h hdisabled).mono fun r w' hend => ?_
    obtain ⟨rfl, halike, hdisk, hpoisoned⟩ := hend
    exact ⟨rfl, halike, hdisk, hpoisoned⟩

/-- Opening a session that is to have a layer of its own. -/
theorem openSession_steps (h : w.Orderly) (hpoisoned : w.db.poisoned = false)
    (hopens : move.opens = true) (force : Bool) :
    (openSession force).Ends w (Led (Steps move) w) := by
  apply openSession_rule
  case refused => exact fun _ _ => .refl
  case joined =>
    exact fun unit _ hunit => (Steps.turn .refl hpoisoned (.join hopens unit hunit)).say _
  case passed =>
    exact fun hstopped hunit hdisabled _ => Steps.turn .refl hpoisoned (.passThrough hopens hunit
      hdisabled (Coordinator.shutDown_of_stopped?_eq_none hstopped))
  case pushed =>
  intro hstopped hunit _
  have hhalted := Coordinator.halted_of_stopped?_eq_none hstopped
  have hshutDown := Coordinator.shutDown_of_stopped?_eq_none hstopped
  cases henabled : w.db.coordinator.enabled with
  | false =>
    -- Enabling the database and pushing the layer is one step.
    refine (advance_forced h henabled).mono fun r w' hend => ?_
    obtain ⟨rfl, halike, hdisk, hpoisoned'⟩ := hend
    exact .single (.turn hpoisoned (.push hopens hhalted hunit hshutDown) halike hdisk
      (hpoisoned'.trans hpoisoned))
  | true =>
    have hforce : w.withCoordinator w.db.coordinator.force = w := by
      rw [Coordinator.force_of_enabled henabled]
      rfl
    rw [hforce, ends_advance]
    have hroom : makeRoom.Ends w (Moves move w) := makeRoom_moves h ⟨hpoisoned, hhalted⟩ hunit
    refine hroom.mono fun r w₁ hend => ?_
    obtain ⟨hpath, hmodes, -, hrun₁⟩ := hend
    cases r with
    | error fault => cases fault <;> exact hpath
    | ok =>
    have hpath : Steps move w w₁ := hpath
    have hpush : pushLevel.Ends _ (Pushed move w₁) := pushLevel_pushed (hpath.orderly h) (hrun₁ rfl)
      (hmodes.openUnit.trans hunit) (hmodes.shutDown.trans hshutDown) hopens
    rw [Coordinator.force_of_enabled (hmodes.enabled.trans henabled)] at hpush
    refine hpush.mono fun r w' hend => ?_
    obtain ⟨seq, rfl, hpath'⟩ := hend
    exact hpath.trans hpath'

/-! ### Resolving sessions -/

theorem commitSession_steps (h : w.Orderly) (hpoisoned : w.db.poisoned = false)
    (hresolves : move.resolves = true) (session : Nat) :
    (commitSession session).Ends w (Led (Steps move) w) := by
  by_cases hopen : w.db.coordinator.isOpen session = true ∧ w.db.coordinator.halted = false
  · exact (commitSession_resolves h ⟨hpoisoned, hopen.2⟩ hopen.1).mono fun r w' hend =>
      hend.led h hpoisoned hresolves hopen.1 nofun
  refine commitSession_rule (fun _ => .refl) (fun _ => .refl) (fun _ _ _ => .refl)
    (fun _ _ _ => .refl) fun unit hsession hstopped _ _ => ?_
  exact absurd ⟨hsession, Coordinator.halted_of_stopped?_eq_none hstopped⟩ hopen

theorem commitInnermost_steps (h : w.Orderly) (hpoisoned : w.db.poisoned = false)
    (hresolves : move.resolves = true) :
    commitInnermost.Ends w (Led (Steps move) w) := by
  rw [ends_commitInnermost]
  cases w.db.coordinator.innermost? with
  | none => exact .refl
  | some session => exact commitSession_steps h hpoisoned hresolves session

theorem abandonSession_steps (h : w.Orderly) (hpoisoned : w.db.poisoned = false)
    (hresolves : move.resolves = true) (session : Nat) {status : SessionStatus}
    (hopened : status ≠ .opened) (hcommitted : status ≠ .committed) :
    (abandonSession session status).Ends w (Led (Steps move) w) := by
  cases hopen : w.db.coordinator.isOpen session with
  | true =>
    exact (abandonSession_resolves h hopen hcommitted).mono fun r w' hend =>
      hend.led h hpoisoned hresolves hopen hopened
  | false =>
    exact abandonSession_rule (fun _ => .refl) (fun hsession => nomatch hopen.symm.trans hsession)
      fun _ _ hsession => nomatch hopen.symm.trans hsession

/-- How discarding the open unit of work ends: it succeeds, none is open
any more, and the lock is not poisoned. -/
def Discards (move : Move) (w : World) (r : Except Fault Unit)
    (w' : World) : Prop :=
  r = .ok () ∧ Steps move w w' ∧ w'.db.coordinator.openUnit = none ∧ w'.db.poisoned = false

theorem Discards.led {w' : World} {r : Except Fault Unit} (h : Discards move w r w') :
    Led (Steps move) w r w' := by
  rw [h.1]
  exact h.2.1

/-- Discarding the open unit of work, if there is one. -/
theorem revokeUnit_steps (h : w.Orderly) (hpoisoned : w.db.poisoned = false)
    (hresolves : move.resolves = true) :
    revokeUnit.Ends w (Discards move w) := by
  cases hunit : w.db.coordinator.openUnit with
  | none =>
    exact revokeUnit_rule (fun _ => ⟨rfl, .refl, hunit, hpoisoned⟩)
      fun _ _ hsome => nomatch hunit.symm.trans hsome
  | some unit =>
    refine (revokeUnit_lost h.sound hunit).mono fun r w' hend => ?_
    obtain ⟨rfl, hlost⟩ := hend
    have hcloses : w.db.coordinator.Closes unit
        (w.db.coordinator.resolveOpen unit .revoked).statuses :=
      Coordinator.closes_resolveOpen hunit nofun
    have hfailed := h.attended.not_allCommitted_resolveOpen hunit
    exact ⟨rfl, .single (.turn hpoisoned (.lose hresolves unit _ hcloses hfailed) hlost.coordinator
      hlost.disk (hlost.poisoned.trans hpoisoned)),
      hlost.coordinator.modes.openUnit.trans (Coordinator.openUnit_lose _),
      hlost.poisoned.trans hpoisoned⟩

/-! ### History -/

/-- How discarding a layer ends: it succeeds, the database runs on, and
no unit of work is open. -/
def Retreated (move : Move) (w : World) (r : Except Fault Unit)
    (w' : World) : Prop :=
  r = .ok () ∧ Steps move w w' ∧ w'.Running ∧ w'.db.coordinator.openUnit = none

/-- Discarding the newest live layer, where no unit of work is open. -/
theorem retreat_steps (hrun : w.Running) (hunit : w.db.coordinator.openUnit = none)
    (hdepth : 0 < w.db.coordinator.depth) (operation : String) (verified? : Option Bool) :
    (retreat operation verified?).Ends w (Retreated move w) := by
  rw [ends_retreat hdepth]
  have halike : w.db.coordinator.discardHead.bump.Alike _ :=
    (Coordinator.alike_clampCursor _).trans (Coordinator.alike_announce _ (discardEvent
      (w.db.coordinator.levels.getLast?.getD 0)
      w.db.coordinator.discardHead.bump.clampCursor.depth verified?))
  refine ⟨rfl, .single (.turn hrun.1 (.discard hrun.2 hunit (Nat.lt_of_sub_pos hdepth)) halike rfl
    hrun.1), ⟨hrun.1, halike.halted.trans hrun.2⟩, halike.modes.openUnit.trans hunit⟩

theorem retreatMany_steps (h : w.Orderly) (hrun : w.Running)
    (hunit : w.db.coordinator.openUnit = none) (operation : String) (verify : Bool) (count : Nat) :
    (retreatMany operation verify count).Ends w (Led (Steps move) w) := by
  -- Each discard leaves a database in order that runs and has no unit open.
  induction count generalizing w with
  | zero => exact .refl
  | succ count ih =>
    rw [ends_retreatMany_succ]
    by_cases hdepth : w.db.coordinator.depth = 0
    · rw [ends_retreat_of_empty hdepth]
      exact .refl
    have hretreat : ∀ verified?, (retreat operation verified?).Ends w (Retreated move w) :=
      retreat_steps hrun hunit (Nat.pos_of_ne_zero hdepth) operation
    refine (hretreat _).mono fun r w₁ hend => ?_
    obtain ⟨rfl, hpath, hrun₁, hunit₁⟩ := hend
    exact (ih (hpath.orderly h) hrun₁ hunit₁).mono fun r w' hend => hend.after fun _ => hpath.trans

theorem popMany_steps (h : w.Orderly) (hpoisoned : w.db.poisoned = false) (count : Nat)
    (verify : Bool) : (popMany count verify).Ends w (Led (Steps move) w) := by
  apply popMany_rule rfl
  case popped =>
    intro hstopped hunit _ _ _
    have hrun : w.Running := ⟨hpoisoned, Coordinator.halted_of_stopped?_eq_none hstopped⟩
    exact retreatMany_steps h hrun hunit _ _ _
  all_goals
    intros
    exact .refl

theorem revoke_steps (h : w.Orderly) (hpoisoned : w.db.poisoned = false)
    (hresolves : move.resolves = true) :
    revoke.Ends w (Led (Steps move) w) := by
  have hdiscards : revokeUnit.Ends w (Discards move w) := revokeUnit_steps h hpoisoned hresolves
  apply revoke_rule
  case refused => exact fun _ _ => .refl
  case counted => exact fun _ _ _ => (Steps.set .refl (Coordinator.alike_countRevoke _)).say _
  case empty => exact fun _ _ _ => .refl
  case unit => exact fun _ _ _ _ => hdiscards.mono fun _ _ hend => hend.led
  case level =>
    intro hstopped henabled hdepth hnewest
    -- The open unit of work would own the newest layer.
    have hunit : w.db.coordinator.openUnit = none := by
      cases hunit : w.db.coordinator.openUnit with
      | none => rfl
      | some unit =>
        obtain ⟨seq, hseq, hlast, -⟩ := h.owns_newest hunit henabled
        exact absurd (hseq.trans hlast.symm) (hnewest unit hunit)
    have hrun : w.Running := ⟨hpoisoned, Coordinator.halted_of_stopped?_eq_none hstopped⟩
    have hretreat : (retreat "revoke" none).Ends w (Retreated move w) :=
      retreat_steps hrun hunit hdepth _ _
    refine hretreat.mono fun r w' hend => ?_
    rw [hend.1]
    exact hend.2.1

theorem merge_steps (h : w.Orderly) (hpoisoned : w.db.poisoned = false) :
    merge.Ends w (Led (Steps move) w) := by
  refine merge_rule (fun _ _ => .refl) (fun _ _ => .refl) (fun _ _ _ _ => .refl)
    fun seq hstopped hlevel hne => ?_
  have hrun : w.Running := ⟨hpoisoned, Coordinator.halted_of_stopped?_eq_none hstopped⟩
  exact (flushOldest_moves h hrun (h.sound.pending_lt hlevel hne)).mono fun r w' hend => hend.path

/-! ### Modes, cursor and limits -/

theorem enable_steps (hpoisoned : w.db.poisoned = false) (henables : move.enables = true) :
    enable.Ends w (Led (Steps move) w) := by
  refine enable_rule (fun _ _ => .refl) (fun _ _ => .refl) (fun _ _ _ => .refl)
    fun hstopped hdisabled hunit => ?_
  have hhalted := Coordinator.halted_of_stopped?_eq_none hstopped
  exact (Steps.turn .refl hpoisoned (.enable hhalted hunit hdisabled henables)).say _

theorem disable_steps (hpoisoned : w.db.poisoned = false) (hdisables : move.disables = true) :
    disable.Ends w (Led (Steps move) w) := by
  refine disable_rule (fun _ _ => .refl) (fun _ _ => .refl) (fun _ _ _ => .refl)
    (fun _ _ _ _ => .refl) fun hstopped _ hunit hlevels => ?_
  have hhalted := Coordinator.halted_of_stopped?_eq_none hstopped
  exact (Steps.turn .refl hpoisoned (.disable hhalted hunit hlevels hdisables)).say _

theorem setCursor_steps (cursor : Cursor) (offset : Nat) :
    (setCursor cursor offset).Ends w (Led (Steps move) w) := by
  have hset : ∀ view, Steps move w (w.withCoordinator { w.db.coordinator with view := view }) :=
    fun view => Steps.set .refl
      ⟨⟨rfl, rfl, rfl, rfl, rfl, rfl⟩, ⟨rfl, rfl, rfl, rfl, rfl, id⟩, rfl, rfl⟩
  exact setCursor_rule (fun _ _ => .refl) (fun _ _ _ => .refl) (fun _ _ _ => .refl)
    (fun _ _ _ => hset _) fun _ _ _ => hset _

theorem setMaxSize_steps (h : w.Orderly) (hpoisoned : w.db.poisoned = false) (limit : Nat) :
    (setMaxSize limit).Ends w (Led (Steps move) w) := by
  have hpath : 0 < limit →
      Steps move w (w.withCoordinator { w.db.coordinator with maxSize := limit }) := fun hlimit =>
    Steps.set .refl
      ⟨⟨rfl, rfl, rfl, rfl, rfl, rfl⟩, ⟨rfl, rfl, rfl, rfl, rfl, fun _ => hlimit⟩, rfl, rfl⟩
  refine setMaxSize_rule (fun _ _ => .refl) (fun _ _ => .refl) (fun _ hlimit _ => hpath hlimit)
    fun hstopped hlimit hlive => ?_
  have hrun : w.Running := ⟨hpoisoned, Coordinator.halted_of_stopped?_eq_none hstopped⟩
  refine (solidify_moves ((hpath hlimit).orderly h) hrun fun _ => ?_).mono fun r w' hend =>
    hend.path.after fun _ => (hpath hlimit).trans
  exact Nat.sub_lt (Nat.zero_lt_of_lt hlive) hlimit

theorem setMaxFlushCount_steps (h : w.Orderly) (hpoisoned : w.db.poisoned = false) (limit : Nat) :
    (setMaxFlushCount limit).Ends w (Led (Steps move) w) := by
  have halike : w.db.coordinator.Alike { w.db.coordinator with maxFlushCount := limit } :=
    ⟨⟨rfl, rfl, rfl, rfl, rfl, rfl⟩, ⟨rfl, rfl, rfl, rfl, rfl, id⟩, rfl, rfl⟩
  have hpath : Steps move w _ := Steps.set .refl halike
  refine setMaxFlushCount_rule (fun _ _ => .refl) (fun _ _ => .refl) (fun _ _ _ => hpath)
    fun hstopped _ _ => ?_
  have hrun : w.Running := ⟨hpoisoned, Coordinator.halted_of_stopped?_eq_none hstopped⟩
  exact (flushOldest_moves (hpath.orderly h) hrun h.sound.openLive).mono
    fun r w' hend => hend.path.after fun _ => hpath.trans

/-! ### Tables -/

/-- A table is registered under a name that is not taken. -/
theorem addTable_steps (hpoisoned : w.db.poisoned = false) (hregisters : move.registers = true)
    (name root : String) :
    (addTable name root).Ends w (Led (Steps move) w) := by
  refine addTable_rule (fun _ _ => .refl) (fun _ _ => .refl) fun hstopped hfresh => ?_
  have hhalted := Coordinator.halted_of_stopped?_eq_none hstopped
  exact (Steps.turn .refl hpoisoned (.register name root hhalted hfresh hregisters)).say _

/-! ### Writing -/

/-- How writing an entry ends before the lock is left: nothing is done;
the entry is put into the newest layer; the flush is stopped that comes
first where no layer is live; or the entry is written to the root. -/
inductive Wrote (w : World) (table : Table) (key : Bytes) (entry : Entry) :
    Except Fault Unit → World → Prop
  | nothing {r : Except Fault Unit} (hr : r ≠ .error .panic)
      (hunknown : r = .ok () → w.db.coordinator.tables[table.index]? = none) :
      Wrote w table key entry r w
  | put {chain : Chain} (hrun : w.Running)
      (hchain : w.db.coordinator.tables[table.index]? = some chain)
      (hlive : w.db.coordinator.pending < w.db.coordinator.levels.length) :
      Wrote w table key entry (.ok ()) (w.withCoordinator
        (w.db.coordinator.modifyTable table.index (·.modifyHead (·.put key entry))))
  | stopped {w' : World} {fault : Fault} (hrun : w.Running)
      (hdry : w.db.coordinator.pending = w.db.coordinator.levels.length)
      (hflush : FlushEnd w w.db.coordinator.levels.length (.error fault) w') :
      Wrote w table key entry (.error fault) w'
  | direct {w₁ : World} {chain : Chain} {r : Except Fault Unit} (hrun : w.Running)
      (hchain : w.db.coordinator.tables[table.index]? = some chain)
      (hdry : w.db.coordinator.pending = w.db.coordinator.levels.length)
      (hflush : FlushEnd w w.db.coordinator.levels.length (.ok ()) w₁)
      (hr : r = .ok () ↔ (w₁.disk.write chain.root [(key, entry)]).1 = .ok ()) :
      Wrote w table key entry r (w₁.withDisk (w₁.disk.write chain.root [(key, entry)]).2)

/-- Writing to the root succeeds if the store takes the entry. -/
theorem writeDirect_ends (w : World) (chain : Chain) (key : Bytes) (entry : Entry) :
    (writeDirect chain key entry).Ends w fun r w' =>
      (r = .ok () ↔ (w.disk.write chain.root [(key, entry)]).1 = .ok ()) ∧
        w' = w.withDisk (w.disk.write chain.root [(key, entry)]).2 := by
  rw [ends_writeDirect]
  split <;> rename_i hwrite <;> rw [hwrite]
  · exact ⟨iff_of_true rfl rfl, rfl⟩
  · exact ⟨iff_of_false nofun nofun, rfl⟩
  · exact ⟨iff_of_false nofun nofun, rfl⟩

theorem writeEntry_wrote (h : w.Orderly) (hpoisoned : w.db.poisoned = false) (table : Table)
    (key : Bytes) (entry : Entry) :
    (writeEntry table.index key entry).Ends w (Wrote w table key entry) := by
  have hrun : w.db.coordinator.stopped? = none → w.Running := fun hstopped =>
    ⟨hpoisoned, Coordinator.halted_of_stopped?_eq_none hstopped⟩
  have hdepth : ∀ chain, w.db.coordinator.tables[table.index]? = some chain →
      chain.depth = w.db.coordinator.levels.length - w.db.coordinator.pending :=
    fun chain hchain => (h.sound.chains chain (List.mem_of_getElem? hchain)).depth_eq
  -- Where no layer is live, all levels are pending.
  have hdry : ∀ chain, w.db.coordinator.tables[table.index]? = some chain → chain.depth = 0 →
      w.db.coordinator.pending = w.db.coordinator.levels.length := by
    intro chain hchain hzero
    rw [hdepth chain hchain] at hzero
    exact Nat.le_antisymm h.sound.pending_le (Nat.le_of_sub_eq_zero hzero)
  have hdirect : ∀ chain w₁, w.Running → w.db.coordinator.tables[table.index]? = some chain →
      chain.depth = 0 → FlushEnd w w.db.coordinator.levels.length (.ok ()) w₁ →
      (writeDirect chain key entry).Ends w₁ (Wrote w table key entry) := by
    intro chain w₁ hrun hchain hzero hflush
    refine (writeDirect_ends w₁ chain key entry).mono fun r w' hend => ?_
    obtain ⟨hr, rfl⟩ := hend
    exact .direct hrun hchain (hdry chain hchain hzero) hflush hr
  apply writeEntry_rule
  case refused => exact fun _ _ => .nothing nofun nofun
  case unknown => exact fun _ hchain => .nothing nofun fun _ => hchain
  case put =>
    intro chain hstopped hchain hlive
    rw [hdepth chain hchain] at hlive
    exact .put (hrun hstopped) hchain (Nat.lt_of_sub_pos hlive)
  case flushed =>
    intro chain hstopped hchain hzero _
    have hdry := hdry chain hchain hzero
    refine (flushOldest_ends w h.sound.names _).mono fun r w₁ hend => ?_
    rw [hdry, Nat.min_self] at hend
    match r, hend with
    | .error fault, hend => exact .stopped (hrun hstopped) hdry hend
    | .ok (), hend => exact hdirect chain w₁ (hrun hstopped) hchain hzero hend
  case direct =>
    intro chain hstopped hchain hzero hpending
    have hdry := hdry chain hchain hzero
    exact hdirect chain w (hrun hstopped) hchain hzero (.nothing (hdry.symm.trans hpending))

/-- Writing an entry is a step, or a flush and a step. -/
theorem Wrote.led {table : Table} {key : Bytes} {entry : Entry} {r : Except Fault Unit} {w' : World}
    (h : Wrote w table key entry r w') (horderly : w.Orderly) :
    Led (Steps (.call (.write table key entry))) w r w' := by
  cases h with
  | nothing hr _ =>
    match r, hr with
    | .ok (), _ => exact .refl
    | .error (.error error), _ => exact .refl
    | .error .panic, hr => exact absurd rfl hr
  | put hrun _ hlive => exact .single (.put rfl hrun hlive)
  | @stopped _ fault hrun hdry hflush =>
    match fault, hflush with
    | .error error, hflush =>
      exact .single (.flush hrun (Nat.le_refl _) (horderly.open_lt_of_dry hdry) hflush nofun)
    | .panic, hflush =>
      exact .single (.crash hrun (Nat.le_refl _) (horderly.open_lt_of_dry hdry) hflush)
  | @direct w₁ chain _ hrun hchain hdry hflush _ =>
    have hpath : Steps (.call (.write table key entry)) w w₁ :=
      .single (.flush hrun (Nat.le_refl _) (horderly.open_lt_of_dry hdry) hflush nofun)
    have hrun₁ : w₁.Running := by
      refine ⟨?_, hflush.halted_of_ok.trans hrun.2⟩
      rw [hflush.database]
      exact hrun.1
    -- The flush has taken layers from the chain, which keeps its place and its
    -- root.
    have hchain₁ : ∃ chain₁, w₁.db.coordinator.tables[table.index]? = some chain₁ ∧
        chain₁.root = chain.root := by
      rcases hflush.sameStacks with hsame | hsame
      · exact ⟨chain, by rw [hsame.tables, hchain], rfl⟩
      · refine ⟨chain.dropOldest w.db.coordinator.levels.length, ?_, rfl⟩
        rw [hsame.tables]
        show (w.db.coordinator.tables.map _)[table.index]? = _
        rw [List.getElem?_map, hchain]
        rfl
    obtain ⟨chain₁, hchain₁, hroot⟩ := hchain₁
    have hwrite : Steps (.call (.write table key entry)) w
        (w₁.withDisk (w₁.disk.write chain₁.root [(key, entry)]).2) :=
      hpath.tail (.direct rfl hrun₁ hchain₁ hflush.levels_of_all)
    rw [hroot] at hwrite
    match r with
    | .ok () => exact hwrite
    | .error (.error error) => exact hwrite
    | .error .panic => exact hwrite.tail (.poison rfl)

theorem writeEntry_steps (h : w.Orderly) (hpoisoned : w.db.poisoned = false) (table : Table)
    (key : Bytes) (entry : Entry) :
    (writeEntry table.index key entry).Ends w
      (Led (Steps (.call (.write table key entry))) w) :=
  (writeEntry_wrote h hpoisoned table key entry).mono fun _ _ hend => hend.led h

/-! ### Starting and stopping -/

/-- What a replay leaves as it was: all of the database but whether it
has halted. -/
structure Replayed (w w' : World) : Prop where
  coordinator : { w.db.coordinator with halted := w'.db.coordinator.halted }.Alike
    w'.db.coordinator
  poisoned : w'.db.poisoned = w.db.poisoned

theorem Replayed.halt {w' : World} (h : Replayed w w') (table : String) (source : IoError) :
    Replayed w (w'.halt table source) where
  coordinator :=
    have hstacks := h.coordinator.layers
    have hmodes := h.coordinator.modes
    ⟨⟨hstacks.tables, hstacks.journal, hstacks.levels, hstacks.pending, hstacks.nextSeq,
        hstacks.openSeq?⟩,
      ⟨hmodes.openUnit, hmodes.statuses, hmodes.enabled, hmodes.disableOnExit, hmodes.shutDown,
        hmodes.roomy⟩, h.coordinator.generation, rfl⟩
  poisoned := h.poisoned

/-- A check replays a record, if the database runs and the journal holds
one. -/
theorem check_steps (h : w.Orderly) (hpoisoned : w.db.poisoned = false) :
    check.Ends w (Led (Steps (.call .check)) w) := by
  refine check_of_recoverRunning (fun _ hpath => (Steps.orderly hpath h).sound)
    (recoverRunning_led hpoisoned .refl fun hrun record hload => ?_)
  have hrecord := not_noRecord_of_load hload
  have hstart : Replayed w (w.say (.journalFound record.size)) := ⟨.refl _, rfl⟩
  refine (replay_keeps hstart _ record (fun _ hkept _ _ _ _ => ⟨hkept.coordinator, hkept.poisoned⟩)
    (fun _ hkept => ⟨hkept.coordinator, hkept.poisoned⟩)
    fun _ table source hkept => hkept.halt table source).mono fun r w' hkept => ?_
  have hpath : Steps (.call .check) w w' :=
    .single (.recover rfl hrun hrecord hkept.coordinator hkept.poisoned)
  match r with
  | .ok () => exact hpath
  | .error (.error error) => exact hpath
  | .error .panic => exact hpath.tail (.poison rfl)

/-- Flushing everything, where no unit of work is open. -/
theorem flushAll_steps (h : w.Orderly) (hpoisoned : w.db.poisoned = false)
    (hunit : w.db.coordinator.openUnit = none) :
    flushAll.Ends w fun r w' => Led (Steps move) w r w' ∧ w'.db.coordinator.openUnit = none ∧
      w'.db.poisoned = false := by
  refine flushAll_rule (fun _ => ⟨Steps.say .refl _, hunit, hpoisoned⟩) fun hhalted => ?_
  have hflush : (flushOldest w.db.coordinator.levels.length).Ends w (Moves move w) :=
    flushOldest_moves h ⟨hpoisoned, hhalted⟩ fun hsome => by
      rw [Coordinator.openSeq?_of_none hunit] at hsome
      cases hsome
  exact hflush.mono fun r w' hmoves =>
    ⟨hmoves.path, hmoves.modes.openUnit.trans hunit, hmoves.poisoned.trans hpoisoned⟩

/-- The revoke step of stopping always succeeds. -/
theorem revokeLeft_steps (h : w.Orderly) (hpoisoned : w.db.poisoned = false)
    (hresolves : move.resolves = true) :
    revokeLeft.Ends w (Discards move w) := by
  rw [ends_revokeLeft]
  have hsay : Steps move w (w.say .shuttingDownWithSession) := Steps.say .refl _
  have hdiscards : revokeUnit.Ends (w.say .shuttingDownWithSession)
    (Discards move (w.say .shuttingDownWithSession)) := revokeUnit_steps (hsay.orderly h) hpoisoned
    hresolves
  refine hdiscards.mono fun r w' hend => ?_
  obtain ⟨rfl, hpath, hunit, hpoisoned'⟩ := hend
  exact ⟨rfl, hsay.trans hpath, hunit, hpoisoned'⟩

theorem flushLeft_steps (h : w.Orderly) (hpoisoned : w.db.poisoned = false)
    (hunit : w.db.coordinator.openUnit = none) : flushLeft.Ends w (Led (Steps move) w) := by
  rw [ends_flushLeft]
  have hflush : flushAll.Ends w fun r w' => Led (Steps move) w r w' ∧
    w'.db.coordinator.openUnit = none ∧ w'.db.poisoned = false := flushAll_steps h hpoisoned hunit
  refine hflush.mono fun r w' hend => ?_
  obtain ⟨hpath, hunit', hpoisoned'⟩ := hend
  have hstop : Steps move w w' → Steps move w ((w'.withCoordinator
      { w'.db.coordinator with shutDown := true, publishing := false }.bump).say .shutDown) := by
    intro hpath
    have halike : { w'.db.coordinator with shutDown := true }.bump.Alike
        { w'.db.coordinator with shutDown := true, publishing := false }.bump :=
      ⟨⟨rfl, rfl, rfl, rfl, rfl, rfl⟩, ⟨rfl, rfl, rfl, rfl, rfl, id⟩, rfl, rfl⟩
    exact ((Steps.turn hpath hpoisoned' (.stop hunit')).set halike).say _
  match r, hpath with
  | .ok (), hpath => exact hstop hpath
  | .error (.error error), hpath => exact hstop hpath
  | .error .panic, hpath => exact hpath

theorem stop_steps (h : w.Orderly) (hpoisoned : w.db.poisoned = false)
    (hresolves : move.resolves = true) :
    stop.Ends w (Led (Steps move) w) := by
  refine stop_rule (fun _ => .refl) (fun _ _ _ => ?_) fun _ hunit =>
    flushLeft_steps h hpoisoned hunit
  have hdiscards : revokeLeft.Ends w (Discards move w) := revokeLeft_steps h hpoisoned hresolves
  refine hdiscards.mono fun r w₁ hend => ?_
  obtain ⟨rfl, hpath, hunit, hpoisoned₁⟩ := hend
  exact (flushLeft_steps (hpath.orderly h) hpoisoned₁ hunit).mono fun r w' hend =>
    hend.after fun _ => hpath.trans

/-- Under the lock, an operation makes its steps. -/
theorem locked_steps {α : Type} {body : Operation α}
    (h : w.db.poisoned = false → body.Ends w (Led (Steps move) w)) :
    (locked body).Ends w fun _ w' => Steps move w w' :=
  locked_path (fun _ => .refl) h

/-- Under a lock that is not poisoned, an operation that does not panic
ends as it does alone. -/
theorem locked_of_ne_panic {α : Type} {body : Operation α} {Q : Except Fault α → World → Prop}
    (hpoisoned : w.db.poisoned = false)
    (h : body.Ends w fun r w' => r ≠ .error .panic ∧ Q r w') : (locked body).Ends w Q := by
  rw [ends_locked, if_neg (by simp [hpoisoned])]
  refine h.mono fun r w' hend => ?_
  match r, hend with
  | .ok a, hend => exact hend.2
  | .error (.error error), hend => exact hend.2
  | .error .panic, hend => exact absurd rfl hend.1

end

end Operation

namespace Session

open Operation

variable {move : Move} {w : World}

/-- Letting go of a session revokes it if it is open. -/
theorem drop_steps (h : w.Orderly) (hresolves : move.resolves = true) (session : Session) :
    session.drop.Ends w fun _ w' => Steps move w w' := by
  have hsay : Steps move w (w.say .sessionAbandoned) := Steps.say .refl _
  apply drop_rule
  case closed => exact fun _ => .refl
  case lockedOut => exact fun _ _ => hsay.say _
  case abandoned =>
    intro _ _
    have hbody : (locked (abandonSession session.id .abandoned)).Ends _
        fun _ w' => Steps move (w.say .sessionAbandoned) w' := locked_steps fun hpoisoned =>
      abandonSession_steps (hsay.orderly h) hpoisoned hresolves session.id nofun nofun
    refine hbody.mono fun r w' hpath => ?_
    match r with
    | .ok () => exact hsay.trans hpath
    | .error (.error error) => exact Steps.say (hsay.trans hpath) _
    | .error .panic => exact hsay.trans hpath

/-- Using a handle up makes the steps of the operation, and then lets go
of the handle. -/
theorem useUp_steps (h : w.Orderly) (hresolves : move.resolves = true) (session : Session)
    {body : Operation Unit} (hbody : body.Ends w fun _ w' => Steps move w w') :
    (session.useUp body).Ends w fun _ w' => Steps move w w' := by
  rw [ends_useUp]
  refine hbody.mono fun r w₁ hpath => ?_
  have hdrop : session.drop.Ends w₁ fun _ w' => Steps move w₁ w' :=
    drop_steps (hpath.orderly h) hresolves session
  refine hdrop.mono fun later w' hpath' => ?_
  cases r <;> cases later <;> exact hpath.trans hpath'

end Session

namespace Database

open Operation

variable {move : Move} {w : World}

theorem withoutBus_steps (w : World) : Steps move w w.withoutBus := by
  have hstop : Steps move w { w with db := { w.db with busStopped := true } } :=
    .single (.aside (.refl _) rfl rfl)
  unfold World.withoutBus
  dsimp only
  split
  · exact .refl
  split
  · exact hstop.say _
  · exact hstop

theorem shutdown_steps (h : w.Orderly) (hresolves : move.resolves = true) :
    shutdown.Ends w fun _ w' => Steps move w w' := by
  apply shutdown_rule
  case lockedOut => exact fun _ => .refl
  case stopped =>
    intro _
    have hstop : (locked stop).Ends w fun _ w' => Steps move w w' :=
      locked_steps fun hpoisoned => stop_steps h hpoisoned hresolves
    refine hstop.mono fun r w₁ hpath => ?_
    match r with
    | .ok () => exact hpath.trans (withoutBus_steps w₁)
    | .error (.error error) => exact hpath.trans (withoutBus_steps w₁)
    | .error .panic => exact hpath

/-- Letting go of a database makes the steps of stopping it. -/
theorem drop_steps (h : w.Orderly) (hresolves : move.resolves = true) :
    drop.Ends w fun _ w' => Steps move w w' := by
  rw [ends_drop]
  have hshutdown : shutdown.Ends w fun _ w' => Steps move w w' := shutdown_steps h hresolves
  refine hshutdown.mono fun r w' hpath => ?_
  match r with
  | .ok () => exact hpath
  | .error (.error error) => exact hpath.say _
  | .error .panic => exact hpath

end Database

/-! ### Commands and moves -/

open Operation in
/-- Every command makes steps, whatever it answers. -/
theorem Command.run_steps {w : World} (h : w.Orderly) (command : Command) :
    command.run.Ends w fun _ w' => Steps (.call command) w w' := by
  cases command with
  | addTable name root =>
    refine Ends.answer _ (locked_steps fun hpoisoned => ?_)
    rw [ends_bind]
    have hbody : (Operation.addTable name root).Ends w
        (Led (Steps (.call (.addTable name root))) w) :=
      addTable_steps hpoisoned rfl name root
    refine hbody.mono fun r w' hend => ?_
    match r, hend with
    | .ok table, hend => exact hend
    | .error (.error error), hend => exact hend
    | .error .panic, hend => exact hend
  | openSession force =>
    exact Ends.answer _ (locked_steps fun hpoisoned => openSession_steps h hpoisoned rfl force)
  | commitSession session =>
    exact Ends.done (Session.useUp_steps h rfl session
      (locked_steps fun hpoisoned => commitSession_steps h hpoisoned rfl session.id))
  | revokeSession session =>
    exact Ends.done (Session.useUp_steps h rfl session
      (locked_steps fun hpoisoned => abandonSession_steps h hpoisoned rfl session.id nofun nofun))
  | dropSession session => exact Ends.done (Session.drop_steps h rfl session)
  | commit =>
    exact Ends.done (locked_steps fun hpoisoned => commitInnermost_steps h hpoisoned rfl)
  | revoke => exact Ends.done (locked_steps fun hpoisoned => revoke_steps h hpoisoned rfl)
  | merge => exact Ends.done (locked_steps fun hpoisoned => merge_steps h hpoisoned)
  | popMany count verify =>
    exact Ends.done (locked_steps fun hpoisoned => popMany_steps h hpoisoned count verify)
  | enable => exact Ends.done (locked_steps fun hpoisoned => enable_steps hpoisoned rfl)
  | disable => exact Ends.done (locked_steps fun hpoisoned => disable_steps hpoisoned rfl)
  | setCursor cursor offset =>
    exact Ends.done (locked_steps fun _ => setCursor_steps cursor offset)
  | setMaxSize limit =>
    exact Ends.done (locked_steps fun hpoisoned => setMaxSize_steps h hpoisoned limit)
  | setMaxFlushCount limit =>
    exact Ends.done (locked_steps fun hpoisoned => setMaxFlushCount_steps h hpoisoned limit)
  | check => exact Ends.answer _ (locked_steps fun hpoisoned => check_steps h hpoisoned)
  | shutdown => exact Ends.done (Database.shutdown_steps h rfl)
  | write table key entry =>
    exact Ends.done (locked_steps fun hpoisoned => writeEntry_steps h hpoisoned table key entry)

/-- How the lock is left after an operation that ends like this: poisoned
if a store has stopped the program. -/
def World.Unlocks (r : Except Fault Unit) (w w' : World) : Prop :=
  r ≠ .error .panic ∧ w' = w ∨ r = .error .panic ∧ w' = w.poison

theorem World.Unlocks.of_ok {w w' : World} (h : Unlocks (.ok ()) w w') : w' = w :=
  h.elim And.right fun h => nomatch h.1

open Operation in
/-- Writing to a table ends as writing an entry does, and the lock is
left. -/
theorem Command.write_wrote {w : World} (h : w.Orderly) (table : Table) (key : Bytes)
    (entry : Entry) :
    (Command.write table key entry).run.Ends w fun r w' => ∃ r₁ w₁, Wrote w table key entry r₁ w₁ ∧
      (r₁ = .ok () ↔ r = .ok .done) ∧ Unlocks r₁ w₁ w' := by
  show (do table.write key entry; return .done : Operation Reply).Ends w _
  rw [ends_bind]
  unfold Table.write
  rw [ends_locked]
  cases hpoisoned : w.db.poisoned with
  | true =>
    exact ⟨.error (.error (.illegalState .lockPoisoned)), w, .nothing nofun nofun,
      ⟨nofun, nofun⟩, .inl ⟨nofun, rfl⟩⟩
  | false =>
    rw [if_neg Bool.false_ne_true]
    refine (writeEntry_wrote h hpoisoned table key entry).mono fun r w' hend => ?_
    match r, hend with
    | .ok (), hend => exact ⟨_, w', hend, ⟨fun _ => rfl, fun _ => rfl⟩, .inl ⟨nofun, rfl⟩⟩
    | .error (.error error), hend => exact ⟨_, w', hend, ⟨nofun, nofun⟩, .inl ⟨nofun, rfl⟩⟩
    | .error .panic, hend => exact ⟨_, w', hend, ⟨nofun, nofun⟩, .inr ⟨rfl, rfl⟩⟩

/-- Every move makes steps. -/
theorem Move.act_steps {w : World} (h : w.Orderly) (move : Move) : Steps move w (move.act w) := by
  cases move with
  | call command =>
    have hpath : Steps (.call command) w (command.run.perform w).2 := command.run_steps h
    exact hpath
  | close =>
    have hpath : Steps .close w (Database.drop.perform w).2 := Database.drop_steps h rfl
    exact hpath
  | setPlan store plan => exact .single (.setPlan rfl)

namespace World

theorem Orderly.act {w : World} (h : w.Orderly) (move : Move) : (move.act w).Orderly :=
  (move.act_steps h).orderly h

theorem Orderly.play {w : World} (h : w.Orderly) (moves : List Move) : (w.play moves).Orderly := by
  induction moves generalizing w with
  | nil => exact h
  | cons move moves ih => exact ih (h.act move)

/-- Every move of a run makes steps. -/
theorem Orderly.steps_snoc {w : World} {moves : List Move} (h : (w.play moves).Orderly)
    (move : Move) : Steps move (w.play moves) (w.play (moves ++ [move])) := by
  rw [play_snoc]
  exact move.act_steps h

/-- A database is in order after every run. -/
theorem play_orderly (disk : Disk) (configuration : Configuration) (journal : String)
    (handlers : List Handler) (moves : List Move) :
    ((opened disk configuration journal handlers).play moves).Orderly :=
  (orderly_opened disk configuration journal handlers).play moves

end World

end LayeredStore

import LayeredStore.Proofs.Simulation.Basic

/-!
# `LayeredStore.Proofs.Simulation.Sessions`: sessions over plain maps

Opening and resolving sessions do what the plain model says.

* `openSession_follows`: making room, pushing a layer and opening a unit
  of work over it.
* `commitSession_follows`: the last session of a unit commits it, and a
  forced unit goes into the roots at once.
* `abandonSession_answers`: the last session of a poisoned unit discards
  it. This needs no disk, so it is said of any sound coordinator.
-/

set_option autoImplicit false

namespace LayeredStore

open World

theorem Coordinator.plain_force (c : Coordinator) (held : String → Contents) :
    c.force.plain held = (c.plain held).force := by
  have henabled : (c.plain held).enabled = c.enabled := rfl
  rw [PlainDatabase.force, henabled]
  cases hon : c.enabled with
  | true =>
    rw [Coordinator.force_of_enabled hon]
    rfl
  | false =>
    rw [← Coordinator.forced_eq_force hon]
    rfl

namespace Operation

section
variable {stores : String → Contents} {w : World}

/-! ### Opening sessions -/

/-- A chain that keeps its limit makes room by moving one layer. -/
theorem makeRoom_follows (h : w.Ready stores) (hclosed : w.db.coordinator.openSeq? = none)
    (hlimit : w.plain.live ≤ w.plain.maxSize) :
    makeRoom.Ends w (Follows stores (.ok (), w.plain.makeRoom)) := by
  have hlimit : w.db.coordinator.depth ≤ w.db.coordinator.maxSize := hlimit
  have hroom : w.plain.makeRoom = if w.db.coordinator.maxSize ≤ w.db.coordinator.depth then
      (w.plain.toPending 1).limitPending else w.plain := rfl
  rw [hroom]
  refine makeRoom_rule (fun hroomy => ?_) fun hfull => ?_
  · rw [if_neg (Nat.not_le_of_lt hroomy)]
    exact h.follows_self _
  · -- The chain is full and not more than full, so one layer is enough.
    have hone : w.db.coordinator.depth + 1 - w.db.coordinator.maxSize = 1 := by omega
    rw [if_pos hfull, hone]
    exact solidify_follows h fun hsome => by rw [hclosed] at hsome; cases hsome

/-- Pushing a layer appends an empty diff to every table. The layer is
open until its unit of work is, so the world is ready only then. -/
theorem advance_follows (h : w.Ready stores) (hclosed : w.db.coordinator.openSeq? = none)
    (hlimit : w.plain.live ≤ w.plain.maxSize) :
    advance.Ends w fun r w' => match r with
      | .ok seq => seq = w.plain.nextSeq ∧
        Follows stores (.ok (), w.plain.makeRoom.push.openNewUnit (some seq)) (.ok ())
          (w'.withCoordinator (w'.db.coordinator.openNewUnit (some seq)))
      | .error fault => fault = .error .unencodable := by
  rw [ends_advance]
  refine ((makeRoom_follows h hclosed hlimit).and (makeRoom_led h.sound h.running hclosed)).mono
    fun r w₁ hroom => ?_
  -- The flush that makes room may fail only at the encoding of its record.
  obtain ⟨rfl | ⟨rfl, hplain, hready⟩, hpath, -⟩ := hroom
  · rfl
  have hpath : Quietly w w₁ := hpath
  have hplain : w₁.plain = w.plain.makeRoom := hplain
  show pushLevel.Ends w₁ _
  rw [ends_pushLevel hready.sound]
  refine ⟨hpath.keeps.nextSeq, ?_⟩
  let c := w₁.db.coordinator
  let event := Event.pushLayer c.nextSeq c.push.bump.depth
  have hsame := (Coordinator.sameStacks_bump c.push).trans
    (Coordinator.sameStacks_announce c.push.bump event)
  have hsame := hsame.openNewUnit c.nextSeq
  have hsound := (hready.sound.push (hpath.closed hclosed)).congr hsame
  refine .inr ⟨rfl, ?_, hready.congr hsound ⟨rfl, rfl, Coordinator.halted_announce _ _⟩ ?_ ?_⟩
  · rw [← hplain]
    show ((c.push.bump.announce event).plain w₁.disk.contents).openNewUnit _ = _
    rw [Coordinator.plain_announce]
    show (c.push.plain w₁.disk.contents).openNewUnit _ = _
    rw [Coordinator.plain_push hready.sound]
    rfl
  · exact hsame.registered.trans (Coordinator.registered_mapTables c fun _ => ⟨rfl, rfl⟩)
  · exact hsame.journal

/-- Pushing a layer onto a chain that is enabled by now: what the plain
model says of the database it forced. -/
theorem advance_follows_forced {w₁ : World} (h : w₁.Ready stores)
    (hforce : w₁.plain = w.plain.force) (hclosed : w₁.db.coordinator.openSeq? = none)
    (hlimit : w.plain.live ≤ w.plain.maxSize) :
    advance.Ends w₁ fun r w' => match r with
      | .ok seq => seq = w.plain.nextSeq ∧
        Follows stores (.ok (), w.plain.force.makeRoom.push.openNewUnit (some w.plain.nextSeq))
          (.ok ()) (w'.withCoordinator (w'.db.coordinator.openNewUnit (some seq)))
      | .error fault => fault = .error .unencodable := by
  have hlive : w.plain.force.live ≤ w.plain.force.maxSize := by
    unfold PlainDatabase.force
    split <;> exact hlimit
  have hseq : w.plain.force.nextSeq = w.plain.nextSeq := by
    unfold PlainDatabase.force
    split <;> rfl
  refine (advance_follows h hclosed (hforce ▸ hlive)).mono fun r w' hend => ?_
  rw [hforce, hseq] at hend
  cases r with
  | ok seq =>
    obtain ⟨rfl, hend⟩ := hend
    exact ⟨rfl, hend⟩
  | error fault => exact hend

/-- Only a shutdown stops a world that is running. -/
theorem plain_shutDown_of_stopped (hrun : w.Running) {error : StateError}
    (herror : w.db.coordinator.stopped? = some error) :
    error = .shutDown ∧ w.plain.shutDown = true := by
  rw [Coordinator.stopped?, hrun.2, if_neg Bool.false_ne_true] at herror
  split at herror
  · cases herror
    exact ⟨rfl, ‹_›⟩
  · cases herror

theorem plain_not_shutDown (h : w.db.coordinator.stopped? = none) : ¬w.plain.shutDown = true :=
  Bool.eq_false_iff.mp (Coordinator.shutDown_of_stopped?_eq_none h)

theorem openSession_follows (h : w.Ready stores) (hlimit : w.plain.live ≤ w.plain.maxSize)
    (force : Bool) : (openSession force).Ends w (Follows stores (w.plain.openSession force)) := by
  have hopenUnit : w.plain.openUnit = w.db.coordinator.openUnit := rfl
  have henabled : w.plain.enabled = w.db.coordinator.enabled := rfl
  unfold PlainDatabase.openSession
  apply openSession_rule
  case refused =>
    intro error herror
    obtain ⟨rfl, hshutDown⟩ := plain_shutDown_of_stopped h.running herror
    rw [if_pos hshutDown]
    exact h.follows_self _
  case joined =>
    intro unit hstopped hunit
    rw [if_neg (plain_not_shutDown hstopped), hopenUnit, hunit]
    have hsame := Coordinator.sameStacks_joinUnit hunit
    exact h.follows ((Actually.set .refl hsame rfl).say rfl) ⟨rfl, rfl, rfl, rfl, rfl⟩
  case passed =>
    intro hstopped hunit hdisabled hforce
    rw [if_neg (plain_not_shutDown hstopped), hopenUnit, hunit, henabled, hdisabled, hforce]
    have hsame := Coordinator.sameStacks_openNewUnit (Coordinator.openSeq?_of_none hunit)
    exact h.follows (Actually.set .refl hsame rfl) ⟨rfl, rfl, rfl, rfl, rfl⟩
  case pushed =>
    -- The database is enabled, for this unit of work if it was not before.
    intro hstopped hunit hpushes
    have hpass : ¬(!w.db.coordinator.enabled && !force) = true := by
      rcases hpushes with hon | hon <;> simp [hon]
    simp only [if_neg (plain_not_shutDown hstopped), hopenUnit, hunit, henabled, if_neg hpass]
    have hready := h.acts (Actually.set .refl (Coordinator.sameStacks_force _) rfl) ⟨rfl, rfl, rfl⟩
    have hclosed : w.db.coordinator.openSeq? = none := Coordinator.openSeq?_of_none hunit
    refine (advance_follows_forced hready (Coordinator.plain_force _ _) hclosed hlimit).mono
      fun r w' hend => ?_
    cases r with
    | ok seq => exact hend.2.answer _
    | error fault =>
      obtain rfl := hend
      exact .inl rfl

/-! ### Resolving sessions -/

/-- Discarding the newest live layer. The tables are at the depth that
all share, also if the unit of work that owned the layer was closed right
before. -/
theorem retreat_answers
    (hdepths : ∀ chain ∈ w.db.coordinator.tables, chain.depth = w.db.coordinator.depth)
    (hdepth : 0 < w.db.coordinator.depth) (operation : String) (verified? : Option Bool) :
    (retreat operation verified?).Ends w (Answers (.ok (), w.plain.discard) w) := by
  rw [ends_retreat hdepth]
  refine ⟨rfl, ?_, rfl, rfl, ?_⟩
  · refine (Coordinator.plain_announce _ _).trans ?_
    exact Coordinator.plain_discardHead hdepths hdepth
  · exact (Coordinator.halted_announce _ _).trans (Coordinator.halted_clampCursor _)

theorem leaveForced_answers (w : World) :
    leaveForced.Ends w (Answers (.ok (), w.plain.leaveForced) w) := by
  have hforced : w.plain.leaveForced = if w.db.coordinator.disableOnExit then
      { w.plain with enabled := false, forced := false } else w.plain := rfl
  rw [ends_leaveForced, hforced]
  split
  · exact ⟨rfl, rfl, rfl, rfl, rfl⟩
  · exact answers_self w (.ok ())

theorem revokeUnit_answers (hsound : w.db.coordinator.Sound) :
    revokeUnit.Ends w (Answers (.ok (), w.plain.revokeUnit) w) := by
  have hopenUnit : w.plain.openUnit = w.db.coordinator.openUnit := rfl
  unfold PlainDatabase.revokeUnit
  rw [hopenUnit]
  refine revokeUnit_rule (fun hunit => ?_) fun unit c hunit hc => ?_
  · rw [hunit]
    exact answers_self w (.ok ())
  -- In `c` the unit of work is closed and its layer, if it has one, is still
  -- there. This is not sound, but its tables are as deep as in `w`.
  have hstill : w.Still (w.withCoordinator c) := by
    rw [hc]
    exact ⟨rfl, rfl, rfl⟩
  have hplain : (w.withCoordinator c).plain = w.plain.closeUnit unit := by
    rw [hc, Coordinator.resolveOpen_eq_resolveOpen]
    rfl
  rw [hunit]
  refine ⟨fun hseq => ?_, fun seq hseq => ?_⟩
  · simp only [hseq, ← hplain]
    exact (leaveForced_answers _).mono fun r w' h => h.after (hstill.trans ⟨rfl, rfl, rfl⟩)
  · have hlive := hsound.openLive (by rw [Coordinator.openSeq?_of_some hunit, hseq]; rfl)
    have hdepth : 0 < (w.withCoordinator c).db.coordinator.depth := by
      rw [hc]
      exact Nat.sub_pos_of_lt hlive
    have hdepths : ∀ chain ∈ (w.withCoordinator c).db.coordinator.tables,
        chain.depth = (w.withCoordinator c).db.coordinator.depth := by
      rw [hc]
      exact fun _ => hsound.depth_eq
    simp only [hseq, ← hplain]
    refine (retreat_answers hdepths hdepth "revoke" none).mono fun r w₂ h => ?_
    obtain ⟨rfl, hplain₂, hstill₂⟩ := h
    have hplain₂ : w₂.plain = (w.withCoordinator c).plain.discard := hplain₂
    refine (leaveForced_answers w₂).mono fun r w' h => ?_
    rw [hplain₂] at h
    exact h.after (hstill.trans hstill₂)

/-- The layers of a forced unit of work go into the roots with all
others. -/
theorem settleForced_follows (h : w.Ready stores) (hclosed : w.db.coordinator.openSeq? = none) :
    settleForced.Ends w (Follows stores (.ok (), if w.plain.forced then
      (w.plain.flatten w.plain.live).leaveForced else w.plain)) := by
  have hforced : w.plain.forced = w.db.coordinator.disableOnExit := rfl
  rw [hforced]
  refine settleForced_rule (fun hoff => ?_) fun hon => ?_
  · rw [hoff]
    exact h.follows_self _
  rw [if_pos hon]
  refine (flushOldest_all_follows h hclosed).mono fun r w₁ hend => ?_
  obtain rfl | ⟨rfl, hplain, hready⟩ := hend
  · exact .inl rfl
  have hplain : w₁.plain = w.plain.flatten w.plain.live := hplain
  refine ((leaveForced_answers w₁).and (leaveForced_acts .refl)).mono fun r w' hleave => ?_
  rw [hplain] at hleave
  exact hready.follows hleave.2.2.1 hleave.1

theorem finishUnit_follows (h : w.Ready stores) {unit : UnitOfWork}
    (hunit : w.db.coordinator.openUnit = some unit) :
    finishUnit.Ends w (Follows stores (.ok (), w.plain.finishUnit)) := by
  -- The unit of work is closed before the rest, and nothing else is seen of it.
  have hsettle : ∀ w₁, Actually w w₁ → w.Still w₁ → w₁.plain = { w.plain with openUnit := none } →
      w₁.db.coordinator.openSeq? = none →
      settleForced.Ends w₁ (Follows stores (.ok (), w.plain.finishUnit)) := by
    intro w₁ hpath hstill hplain hclosed
    have hend := settleForced_follows (h.acts hpath hstill) hclosed
    rw [hplain] at hend
    exact hend
  apply finishUnit_rule
  case idle => exact fun hnone => nomatch hunit.symm.trans hnone
  case passed =>
    intro unit hunit hseq
    have hclosed := Coordinator.sameStacks_withoutUnit
      ((Coordinator.openSeq?_of_some hunit).trans hseq)
    exact hsettle _ (Actually.set .refl hclosed rfl) ⟨rfl, rfl, rfl⟩ rfl rfl
  case sealed =>
    rintro unit seq _ hunit hseq rfl
    have hopen : w.db.coordinator.openSeq?.isSome := by
      rw [Coordinator.openSeq?_of_some hunit, hseq]
      rfl
    have hsealed : w.db.coordinator.withoutUnit.sealHeads.plain w.disk.contents =
        w.db.coordinator.withoutUnit.plain w.disk.contents := Coordinator.plain_sealHeads _
    have hpath := ((Quiet.commit hopen).path rfl).actually
    refine hsettle _ ?_ ⟨rfl, rfl, Coordinator.halted_announce _ _⟩ ?_ ?_
    · exact (hpath.say rfl).set (Coordinator.sameStacks_announce _ _)
        (Coordinator.halted_announce _ _)
    · exact (Coordinator.plain_announce _ _).trans hsealed
    · exact (Coordinator.sameStacks_announce _ _).openSeq?

theorem commitSession_follows (h : w.Ready stores) (session : Nat) :
    (commitSession session).Ends w (Follows stores (w.plain.commitSession session)) := by
  have hstatus : w.plain.status session = w.db.coordinator.status session := rfl
  have howns : w.plain.owns session = w.db.coordinator.owns session := rfl
  have hopenUnit : w.plain.openUnit = w.db.coordinator.openUnit := rfl
  have hopen : w.db.coordinator.isOpen session = true →
      w.db.coordinator.status session = .opened := of_decide_eq_true
  unfold PlainDatabase.commitSession
  rw [hstatus, howns, hopenUnit]
  -- The plain model asks the same questions in the same order, so each case of
  -- the rule decides all of its branches.
  apply commitSession_rule
  case committed =>
    intro hcommitted
    rw [hcommitted]
    exact h.follows_self _
  case failed =>
    rintro (hfailed | hfailed) <;> rw [hfailed] <;> exact h.follows_self _
  case refused =>
    intro error hsession herror
    obtain ⟨rfl, hshutDown⟩ := plain_shutDown_of_stopped h.running herror
    simp only [hopen hsession, if_pos hshutDown]
    exact h.follows_self _
  case stray =>
    intro hstopped hsession hstray
    simp only [hopen hsession, if_neg (plain_not_shutDown hstopped), hstray, Bool.not_false,
      if_true]
    exact h.follows_self _
  case resolved =>
    intro unit hsession hstopped hunit hmem w₁
    have howned := (Coordinator.owns_iff session).mpr ⟨unit, hunit, hmem⟩
    have hready : w₁.Ready stores :=
      h.acts (Actually.set .refl (Coordinator.sameStacks_setStatus _ session .committed) rfl)
        ⟨rfl, rfl, rfl⟩
    have hplain : w.plain.setStatus session .committed = w₁.plain := rfl
    have hcount : w₁.plain.openCount unit.sessions = w₁.db.coordinator.openCount unit := rfl
    simp only [hopen hsession, if_neg (plain_not_shutDown hstopped), howned, hunit, hplain, hcount,
      Bool.not_true, Bool.false_eq_true, if_false]
    refine ⟨fun hothers => ?_, fun hlast hpoisoned => ?_, fun hlast hsuccess => ?_⟩
    · rw [if_pos hothers]
      exact hready.follows_self _
    · rw [if_neg hlast, if_pos hpoisoned]
      refine ((revokeUnit_answers hready.sound).and
        (revokeUnit_led hready.sound hready.running.1)).mono fun r w' hrevoke => ?_
      obtain ⟨⟨rfl, hplain', hstill⟩, -, hpath, -⟩ := hrevoke
      exact hready.follows hpath ⟨rfl, hplain', hstill⟩
    · rw [if_neg hlast, hsuccess, if_neg Bool.false_ne_true]
      exact finishUnit_follows hready hunit

theorem commitInnermost_follows (h : w.Ready stores) :
    commitInnermost.Ends w (Follows stores w.plain.commit) := by
  have hinnermost : (w.plain.openUnit.bind fun unit =>
      unit.sessions.reverse.find? (w.plain.status · = .opened)) = w.db.coordinator.innermost? := rfl
  unfold PlainDatabase.commit
  rw [ends_commitInnermost, hinnermost]
  cases w.db.coordinator.innermost? with
  | none => exact h.follows_self _
  | some session => exact commitSession_follows h session

/-- Resolving a session as failed, which never fails itself. -/
theorem abandonSession_answers (hsound : w.db.coordinator.Sound) (session : Nat)
    (status : SessionStatus) :
    (abandonSession session status).Ends w
      (Answers (.ok (), w.plain.abandon session status) w) := by
  have hstatus : w.db.coordinator.isOpen session = decide (w.plain.status session = .opened) := rfl
  have hopenUnit : w.plain.openUnit = w.db.coordinator.openUnit := rfl
  have howns : w.plain.owns session = w.db.coordinator.owns session := rfl
  unfold PlainDatabase.abandon
  apply abandonSession_rule
  case closed =>
    intro hclosed
    rw [if_neg (of_decide_eq_false (hstatus ▸ hclosed))]
    exact answers_self w (.ok ())
  case stray =>
    intro hopen hstray
    rw [if_pos (of_decide_eq_true (hstatus ▸ hopen))]
    rw [← howns, PlainDatabase.owns] at hstray
    cases hunit : w.plain.openUnit with
    | none => exact ⟨rfl, rfl, rfl, rfl, rfl⟩
    | some unit =>
      rw [hunit] at hstray
      simp only [hstray, Bool.false_eq_true, if_false]
      exact ⟨rfl, rfl, rfl, rfl, rfl⟩
  case resolved =>
    intro unit c hopen hunit hmem hc
    -- The unit is poisoned on both sides, which leaves the stores alone.
    have hstill : w.Still (w.withCoordinator c) := by
      rw [hc]
      exact ⟨rfl, rfl, rfl⟩
    have hplain : { w.plain.setStatus session status with
        openUnit := some { unit with poisoned := true } } = (w.withCoordinator c).plain := by
      rw [hc]
      rfl
    have hsound : (w.withCoordinator c).db.coordinator.Sound := by
      rw [hc]
      exact hsound.congr ⟨rfl, rfl, rfl, rfl, rfl, (Coordinator.openSeq?_of_some hunit).symm⟩
    have hcount : (w.withCoordinator c).plain.openCount unit.sessions = c.openCount unit := rfl
    have hcontains : unit.sessions.contains session = true := List.contains_iff_mem.mpr hmem
    rw [if_pos (of_decide_eq_true (hstatus ▸ hopen)), hopenUnit, hunit]
    simp only [hcontains, if_true, hplain, hcount]
    refine ⟨fun hothers => ?_, fun hlast => ?_⟩
    · rw [if_pos hothers]
      exact ⟨rfl, rfl, hstill.trans ⟨rfl, rfl, rfl⟩⟩
    · rw [if_neg hlast]
      exact (revokeUnit_answers hsound).mono fun r w' hrevoke => hrevoke.after hstill

end

end Operation

end LayeredStore

import LayeredStore.Proofs.Transitions

/-!
# `LayeredStore.Proofs.Resolution`: how resolving a session ends

`World.Resolution` lists what can become of a session that is resolved:
its unit of work waits for the others; or it was the last one and the
unit is lost, kept, or kept and moved into the roots. `World.Lost` is
what is left of a unit that was discarded.

* `revokeUnit_lost`: discarding the open unit of work.
* `commitSession_resolves`: resolving an open session as successful,
  while the database runs.
* `abandonSession_resolves`: resolving an open session as failed.
* `Resolution.led`: each of these is a path of steps.
-/

set_option autoImplicit false

namespace LayeredStore

namespace Coordinator

/-- Where no session of the unit is open, none is resolved. -/
theorem resolveOpen_eq_self {c : Coordinator} {unit : UnitOfWork}
    (h : ¬0 < c.openCount unit) (status : SessionStatus) : c.resolveOpen unit status = c := by
  have hclosed : ∀ session ∈ unit.sessions, c.isOpen session = false := by
    intro session hmem
    by_contra hopen
    exact h ((openCount_pos_iff c unit).mpr ⟨session, hmem, by simpa using hopen⟩)
  unfold resolveOpen
  revert hclosed
  induction unit.sessions with
  | nil => exact fun _ => rfl
  | cons session rest ih =>
    intro hclosed
    rw [List.foldl_cons, hclosed session List.mem_cons_self, if_neg Bool.false_ne_true]
    exact ih fun other hmem => hclosed other (List.mem_cons_of_mem _ hmem)

/-- When the last session of a unit of work is committed, all were
committed unless the unit is poisoned. -/
theorem Attended.allCommitted_iff {c : Coordinator} (h : c.Attended) {unit : UnitOfWork}
    (hunit : c.openUnit = some unit) {session : Nat} (hsession : c.isOpen session = true)
    (hlast : ¬0 < (c.setStatus session .committed).openCount unit) :
    AllCommitted (c.statuses.set session .committed) unit ↔ unit.poisoned = false := by
  have hset : ∀ other, (c.statuses.set session .committed).getD other .abandoned =
      if session = other then .committed else c.status other := by
    intro other
    have hset := c.status_setStatus session .committed other
    simp only [lt_of_isOpen hsession, and_true] at hset
    exact hset
  have hcloses := closes_set hunit hsession hlast
  rw [← Bool.not_eq_true, h.poisoned unit hunit]
  constructor
  · rintro hall ⟨other, hother, hclosed, hfailed⟩
    have hcommitted := hall other hother
    rw [hcloses.stays other hclosed] at hcommitted
    exact hfailed hcommitted
  · intro hnone other hother
    rw [hset]
    split
    · rfl
    · rename_i hne
      -- No other session is open any more, and none has failed.
      by_contra hfailed
      refine hnone ⟨other, hother, ?_, hfailed⟩
      have hresolved := hcloses.resolved other hother
      rw [hset, if_neg hne] at hresolved
      exact (c.isOpen_eq_false_iff other).mpr hresolved

end Coordinator

namespace World

/-- What is left of a unit of work that was discarded, whose sessions
stand like this after it. -/
structure Lost (w : World) (unit : UnitOfWork) (statuses : List SessionStatus) (w' : World) :
    Prop where
  coordinator : (w.db.coordinator.lose unit statuses).Alike w'.db.coordinator
  disk : w'.disk = w.disk
  poisoned : w'.db.poisoned = w.db.poisoned
  revokes : w'.db.coordinator.passThroughRevokes =
    w.db.coordinator.passThroughRevokes + if unit.seq.isSome then 0 else 1

/-- What becomes of a session that is resolved, and of its unit of
work. -/
inductive Resolution (w : World) (session : Nat) (status : SessionStatus) :
    Except Fault Unit → World → Prop
  | waits {unit : UnitOfWork} {w' : World} (hunit : w.db.coordinator.openUnit = some unit)
      (hothers : 0 < (w.db.coordinator.setStatus session status).openCount unit)
      (hc : (w.db.coordinator.resolve unit session status).Alike w'.db.coordinator)
      (hdisk : w'.disk = w.disk) (hpoisoned : w'.db.poisoned = w.db.poisoned) :
      Resolution w session status (.ok ()) w'
  -- If the last session was to be committed, it learns that another has failed.
  | loses {unit : UnitOfWork} {w' : World} (hunit : w.db.coordinator.openUnit = some unit)
      (hlast : ¬0 < (w.db.coordinator.setStatus session status).openCount unit)
      (hfailed : ¬Coordinator.AllCommitted (w.db.coordinator.statuses.set session status) unit)
      (hlost : w.Lost unit (w.db.coordinator.statuses.set session status) w') :
      Resolution w session status (if status = .committed then
        .error (.error (.sessionMisuse .nestedSessionAbandoned)) else .ok ()) w'
  | keeps {unit : UnitOfWork} {w' : World} (hunit : w.db.coordinator.openUnit = some unit)
      (hlast : ¬0 < (w.db.coordinator.setStatus session status).openCount unit)
      (hall : Coordinator.AllCommitted (w.db.coordinator.statuses.set session status) unit)
      (hforced : w.db.coordinator.disableOnExit = false)
      (hc : (w.db.coordinator.keep unit
        (w.db.coordinator.statuses.set session status)).Alike w'.db.coordinator)
      (hdisk : w'.disk = w.disk) (hpoisoned : w'.db.poisoned = w.db.poisoned) :
      Resolution w session status (.ok ()) w'
  | settles {unit : UnitOfWork} {w₁ w₂ w' : World} {r : Except Fault Unit} (hrun : w.Running)
      (hunit : w.db.coordinator.openUnit = some unit)
      (hlast : ¬0 < (w.db.coordinator.setStatus session status).openCount unit)
      (hall : Coordinator.AllCommitted (w.db.coordinator.statuses.set session status) unit)
      (hforced : w.db.coordinator.disableOnExit = true)
      (hkeep : (w.db.coordinator.keep unit
        (w.db.coordinator.statuses.set session status)).Alike w₁.db.coordinator)
      (hdisk : w₁.disk = w.disk) (hpoisoned : w₁.db.poisoned = w.db.poisoned)
      (hflush : (Operation.flushOldest w₁.db.coordinator.levels.length).perform w₁ = (r, w₂))
      (hend : Led (fun w₂ w' => w₂.Concludes r w') w₂ r w') :
      Resolution w session status r w'

/-- How a flush of all layers ends, in the terms of `FlushEnd`. -/
theorem flushEnd_of_perform {w w' : World} {r : Except Fault Unit}
    (hnames : w.db.coordinator.tableNames.Nodup)
    (h : (Operation.flushOldest w.db.coordinator.levels.length).perform w = (r, w')) :
    FlushEnd w w.db.coordinator.levels.length r w' := by
  have hends := Operation.flushOldest_ends w hnames w.db.coordinator.levels.length
  unfold Operation.Ends at hends
  rwa [h, Nat.min_self] at hends

/-- Where no store is set to fail and the record can be encoded, such a
flush succeeds. -/
theorem eq_ok_of_perform {w w' : World} {r : Except Fault Unit}
    (hnames : w.db.coordinator.tableNames.Nodup) (hhealthy : w.disk.Healthy)
    (hfits : (w.db.coordinator.netRecord w.db.coordinator.levels.length).fits = true)
    (h : (Operation.flushOldest w.db.coordinator.levels.length).perform w = (r, w')) :
    r = .ok () := by
  rw [← Nat.min_self w.db.coordinator.levels.length] at hfits
  have hends := Operation.flushOldest_healthy w hnames hhealthy _ hfits
  unfold Operation.Ends at hends
  rw [h] at hends
  exact hends.1

/-- Whatever becomes of a session, it is a step that leads there. -/
theorem Resolution.led {move : Move} {w w' : World} {session : Nat}
    {status : SessionStatus} {r : Except Fault Unit} (h : w.Resolution session status r w')
    (horderly : w.Orderly) (hpoisoned : w.db.poisoned = false) (hresolves : move.resolves = true)
    (hsession : w.db.coordinator.isOpen session = true) (hstatus : status ≠ .opened) :
    Led (Steps move) w r w' := by
  cases h with
  | waits hunit hothers hc hdisk hpoisoned' =>
    exact .single (.turn hpoisoned
      (.resolve hresolves _ session status hunit hsession hstatus hothers) hc hdisk
      (hpoisoned'.trans hpoisoned))
  | loses hunit hlast hfailed hlost =>
    have hcloses := Coordinator.closes_set hunit hsession hlast
    have hstep : Steps move w w' := .single (.turn hpoisoned (.lose hresolves _ _ hcloses hfailed)
      hlost.coordinator hlost.disk (hlost.poisoned.trans hpoisoned))
    split <;> exact hstep
  | keeps hunit hlast hall hforced hc hdisk hpoisoned' =>
    have hcloses := Coordinator.closes_set hunit hsession hlast
    exact .single (.turn hpoisoned (.keep hresolves _ _ hcloses hall hforced) hc hdisk
      (hpoisoned'.trans hpoisoned))
  | @settles unit w₁ w₂ _ _ hrun hunit hlast hall hforced hkeep hdisk hpoisoned' hflush hend =>
    have hcloses := Coordinator.closes_set hunit hsession hlast
    have hnames := ((horderly.sound.keep hunit _).congr hkeep.layers).names
    refine hend.after fun w' hend => ?_
    exact .single (.settle hresolves hrun hcloses hall hforced hkeep hdisk
      (hpoisoned'.trans hpoisoned) (flushEnd_of_perform hnames hflush) hend
      fun hhealthy hfits => eq_ok_of_perform hnames hhealthy hfits hflush)

end World

open World

namespace Operation

/-- Once the layer of a lost unit is gone, all that is left is to disable
the database if the unit had enabled it. -/
theorem leaveForced_lost {w w₁ : World} {unit : UnitOfWork} {statuses : List SessionStatus}
    {left : Coordinator} (hforced : left.disableOnExit = w.db.coordinator.disableOnExit)
    (hlose : w.db.coordinator.lose unit statuses =
      if w.db.coordinator.disableOnExit then left.unforce.bump else left)
    (hc : left.Alike w₁.db.coordinator) (hdisk : w₁.disk = w.disk)
    (hpoisoned : w₁.db.poisoned = w.db.poisoned)
    (hrevokes : w₁.db.coordinator.passThroughRevokes =
      w.db.coordinator.passThroughRevokes + if unit.seq.isSome then 0 else 1) :
    leaveForced.Ends w₁ fun r w' => r = .ok () ∧ w.Lost unit statuses w' := by
  rw [ends_leaveForced, hc.modes.disableOnExit, hforced]
  refine ⟨rfl, ?_⟩
  split
  · rename_i hon
    rw [if_pos hon] at hlose
    exact ⟨hlose ▸ hc.unforce_bump, hdisk, hpoisoned, hrevokes⟩
  · rename_i hoff
    rw [if_neg hoff] at hlose
    exact ⟨hlose ▸ hc, hdisk, hpoisoned, hrevokes⟩

/-- The open unit of work is discarded, and all its open sessions are
revoked. -/
theorem revokeUnit_lost {w : World} (hsound : w.db.coordinator.Sound) {unit : UnitOfWork}
    (hunit : w.db.coordinator.openUnit = some unit) :
    revokeUnit.Ends w fun r w' => r = .ok () ∧
      w.Lost unit (w.db.coordinator.resolveOpen unit .revoked).statuses w' := by
  apply revokeUnit_rule
  case idle => exact fun hnone => nomatch hunit.symm.trans hnone
  case closed =>
  intro unit' closed hunit' hclosed
  obtain rfl : unit = unit' := Option.some.inj (hunit.symm.trans hunit')
  generalize (w.db.coordinator.resolveOpen unit .revoked).statuses = statuses at hclosed ⊢
  let left := if unit.seq.isSome then closed.discardHead.bump else closed
  have hforced : left.disableOnExit = w.db.coordinator.disableOnExit := by
    unfold left
    rw [hclosed]
    split <;> rfl
  have hlose : w.db.coordinator.lose unit statuses =
      if w.db.coordinator.disableOnExit then left.unforce.bump else left := by
    unfold left
    rw [hclosed]
    rfl
  have hrevokes : closed.passThroughRevokes = w.db.coordinator.passThroughRevokes := by
    rw [hclosed]
  constructor
  · intro hseq
    refine leaveForced_lost hforced hlose ?_ rfl rfl ?_
    · unfold left
      rw [hseq]
      exact Coordinator.alike_countRevoke closed
    · rw [hseq, ← hrevokes]
      rfl
  · intro seq hseq
    have hopen : w.db.coordinator.openSeq?.isSome := by
      rw [Coordinator.openSeq?_of_some hunit, hseq]
      rfl
    have hdepth : 0 < (w.withCoordinator closed).db.coordinator.depth := by
      rw [hclosed]
      exact Nat.sub_pos_of_lt (hsound.openLive hopen)
    rw [ends_retreat hdepth]
    refine leaveForced_lost hforced hlose ?_ rfl rfl ?_
    · unfold left
      rw [hseq]
      exact (Coordinator.alike_clampCursor _).trans (Coordinator.alike_announce _ _)
    · rw [hseq, ← hrevokes]
      show ((closed.discardHead.bump.clampCursor).announce _).passThroughRevokes = _
      unfold Coordinator.announce Coordinator.clampCursor
      split <;> split <;> rfl

/-- Once the last session of a poisoned unit of work is resolved, the
unit is discarded. No other session is left to be revoked. -/
theorem revokeUnit_resolved {w : World} (h : w.Orderly) {session : Nat} {status : SessionStatus}
    {unit : UnitOfWork} (hunit : w.db.coordinator.openUnit = some unit)
    (hlast : ¬0 < (w.db.coordinator.setStatus session status).openCount unit) :
    revokeUnit.Ends (w.withCoordinator (w.db.coordinator.resolve unit session status)) fun r w' =>
      r = .ok () ∧ w.Lost unit (w.db.coordinator.statuses.set session status) w' := by
  have hsound : (w.db.coordinator.resolve unit session status).Sound :=
    h.sound.congr ⟨rfl, rfl, rfl, rfl, rfl, (Coordinator.openSeq?_of_some hunit).symm⟩
  have hlast : ¬0 < (w.db.coordinator.resolve unit session status).openCount unit := hlast
  have hstatuses : ((w.db.coordinator.resolve unit session status).resolveOpen unit
      .revoked).statuses = w.db.coordinator.statuses.set session status := by
    rw [Coordinator.resolveOpen_eq_self hlast]
    rfl
  refine (revokeUnit_lost (w := w.withCoordinator (w.db.coordinator.resolve unit session status))
    hsound rfl).mono fun r w' hend => ?_
  obtain ⟨rfl, hlost⟩ := hend
  rw [← hstatuses]
  exact ⟨rfl, hlost.coordinator, hlost.disk, hlost.poisoned, hlost.revokes⟩

/-- Resolving an open session as failed. -/
theorem abandonSession_resolves {w : World} (h : w.Orderly) {session : Nat}
    (hsession : w.db.coordinator.isOpen session = true) {status : SessionStatus}
    (hcommitted : status ≠ .committed) :
    (abandonSession session status).Ends w (w.Resolution session status) := by
  apply abandonSession_rule
  case closed => exact fun hclosed => nomatch hsession.symm.trans hclosed
  case stray =>
    intro _ hstray
    have howns := (Coordinator.owns_iff session).mpr (h.attended.owned session hsession)
    exact nomatch howns.symm.trans hstray
  case resolved =>
  intro unit c _ hunit hmem hc
  -- The unit of work is poisoned whether others are open or not.
  have hresolve : c = w.db.coordinator.resolve unit session status := by
    rw [hc, Coordinator.resolve, bne_iff_ne.mpr hcommitted, Bool.or_true]
  rw [hresolve]
  refine ⟨fun hothers => .waits hunit hothers (.refl _) rfl rfl, fun hlast => ?_⟩
  refine (revokeUnit_resolved h hunit hlast).mono fun r w' hend => ?_
  obtain ⟨rfl, hlost⟩ := hend
  have hfailed :
      ¬Coordinator.AllCommitted (w.db.coordinator.statuses.set session status) unit := by
    intro hall
    have hset := w.db.coordinator.status_setStatus session status session
    rw [if_pos ⟨rfl, Coordinator.lt_of_isOpen hsession⟩] at hset
    exact hcommitted (hset.symm.trans (hall session hmem))
  have hend := World.Resolution.loses hunit hlast hfailed hlost
  rwa [if_neg hcommitted] at hend

/-- The layers of a forced unit of work are moved into the roots, and the
database is disabled again. -/
theorem settleForced_concludes {w : World} (hforced : w.db.coordinator.disableOnExit = true)
    (hnames : w.db.coordinator.tableNames.Nodup) :
    settleForced.Ends w fun r w' => ∃ w₂,
      (flushOldest w.db.coordinator.levels.length).perform w = (r, w₂) ∧
        Led (fun w₂ w' => w₂.Concludes r w') w₂ r w' := by
  refine settleForced_rule (fun hplain => nomatch hforced.symm.trans hplain) fun _ => ?_
  have hself : (flushOldest w.db.coordinator.levels.length).Ends w fun r w₂ =>
      (flushOldest w.db.coordinator.levels.length).perform w = (r, w₂) := rfl
  refine (hself.and (flushOldest_ends w hnames _)).mono fun r w₂ hend => ?_
  match r, hend.1, hend.2 with
  | .ok (), hperform, hflush =>
    dsimp only
    rw [ends_leaveForced, hflush.sameModes.disableOnExit, if_pos hforced]
    exact ⟨w₂, hperform, .refl _, rfl, rfl⟩
  | .error (.error _), hperform, _ => exact ⟨w₂, hperform, rfl⟩
  | .error .panic, hperform, _ => exact ⟨w₂, hperform, rfl⟩

/-- Once every session of a unit of work was committed, the unit is. -/
theorem finishUnit_resolved {w : World} (h : w.Orderly) (hrun : w.Running) {session : Nat}
    {unit : UnitOfWork} (hunit : w.db.coordinator.openUnit = some unit)
    (hlast : ¬0 < (w.db.coordinator.setStatus session .committed).openCount unit)
    (hall : Coordinator.AllCommitted (w.db.coordinator.statuses.set session .committed) unit) :
    finishUnit.Ends (w.withCoordinator (w.db.coordinator.setStatus session .committed))
      (w.Resolution session .committed) := by
  let statuses := w.db.coordinator.statuses.set session .committed
  let kept := w.db.coordinator.keep unit statuses
  have hforced : kept.disableOnExit = w.db.coordinator.disableOnExit :=
    (Coordinator.modes_keep statuses).2.1
  -- With a layer or without, the unit of work is closed before it is settled.
  have hsettle : ∀ w₁, kept.Alike w₁.db.coordinator → w₁.disk = w.disk →
      w₁.db.poisoned = w.db.poisoned →
      settleForced.Ends w₁ (w.Resolution session .committed) := by
    intro w₁ hkeep hdisk hpoisoned
    have hforced₁ := hkeep.modes.disableOnExit.trans hforced
    cases hon : w.db.coordinator.disableOnExit with
    | false =>
      refine settleForced_rule (fun _ => .keeps hunit hlast hall hon hkeep hdisk hpoisoned)
        fun hon₁ => nomatch hon₁.symm.trans (hforced₁.trans hon)
    | true =>
      have hsound₁ : w₁.db.coordinator.Sound := (h.sound.keep hunit statuses).congr hkeep.layers
      refine (settleForced_concludes (hforced₁.trans hon) hsound₁.names).mono fun r w' hend => ?_
      obtain ⟨w₂, hflush, hend⟩ := hend
      exact .settles hrun hunit hlast hall hon hkeep hdisk hpoisoned hflush hend
  have hclosed : kept = if unit.seq.isSome then
      { w.db.coordinator with openUnit := none, statuses := statuses }.sealHeads else
      { w.db.coordinator with openUnit := none, statuses := statuses } := rfl
  apply finishUnit_rule
  case idle => exact fun hnone => nomatch hunit.symm.trans hnone
  case passed =>
    intro unit' hunit' hseq
    obtain rfl : unit = unit' := Option.some.inj (hunit.symm.trans hunit')
    rw [hseq] at hclosed
    exact hsettle _ (hclosed ▸ .refl _) rfl rfl
  case sealed =>
    rintro unit' seq _ hunit' hseq rfl
    obtain rfl : unit = unit' := Option.some.inj (hunit.symm.trans hunit')
    rw [hseq] at hclosed
    exact hsettle _ (hclosed ▸ Coordinator.alike_announce _ _) rfl rfl

/-- Resolving an open session as successful. -/
theorem commitSession_resolves {w : World} (h : w.Orderly) (hrun : w.Running) {session : Nat}
    (hsession : w.db.coordinator.isOpen session = true) :
    (commitSession session).Ends w (w.Resolution session .committed) := by
  obtain ⟨unit, hunit, hmem⟩ := h.attended.owned session hsession
  have hstatus := (w.db.coordinator.isOpen_iff session).mp hsession
  -- A commit does not poison the unit of work.
  have hresolve : w.db.coordinator.resolve unit session .committed =
      w.db.coordinator.setStatus session .committed := by
    rw [Coordinator.resolve, bne_self_eq_false, Bool.or_false, ← hunit]
    rfl
  apply commitSession_rule
  case committed =>
    intro hclosed
    cases hstatus.symm.trans hclosed
  case failed =>
    intro hclosed
    simp [hstatus] at hclosed
  case refused =>
    intro error _ herror
    have hstopped := Coordinator.stopped?_eq_none hrun.2 (h.moded.shutDown_eq_false hunit)
    cases hstopped.symm.trans herror
  case stray =>
    intro _ _ hstray
    cases ((Coordinator.owns_iff session).mpr ⟨unit, hunit, hmem⟩).symm.trans hstray
  case resolved =>
    intro unit' _ _ hunit' _ w₁
    obtain rfl : unit = unit' := Option.some.inj (hunit.symm.trans hunit')
    refine ⟨fun hothers => .waits hunit hothers (hresolve ▸ .refl _) rfl rfl,
      fun hlast hpoisoned => ?_, fun hlast hsuccess => ?_⟩
    · have hrevoke := revokeUnit_resolved h hunit hlast
      rw [hresolve] at hrevoke
      have hfailed :=
        (h.attended.allCommitted_iff hunit hsession hlast).not.mpr (by simp [hpoisoned])
      refine hrevoke.mono fun r w' hend => ?_
      obtain ⟨rfl, hlost⟩ := hend
      exact .loses hunit hlast hfailed hlost
    · exact finishUnit_resolved h hrun hunit hlast
        ((h.attended.allCommitted_iff hunit hsession hlast).mpr hsuccess)

end Operation

end LayeredStore

import LayeredStore.Proofs.Execution
import LayeredStore.Proofs.Steps

/-!
# `LayeredStore.Proofs.Paths`: sessions and history as paths of steps

The operations that move the chains make the steps of `Steps.lean`, one
after the other, however they end. `World.Led` is what is said of an
end: the world is at the end of a path, and if a store stopped the
program, the world with its lock poisoned is.

* `flushOldest_led`, `solidify_led`, `makeRoom_led`: quiet paths, after
  which the database still runs if they succeed.
* `openSession_led`: a quiet path, which can end with one push.
* `revokeUnit_led`: discarding the open unit of work always succeeds.
* `commitSession_led`, `abandonSession_led`, `revoke_led`, `merge_led`,
  `popMany_led`: paths of `Act`s. All of these paths are exact.
-/

set_option autoImplicit false

namespace LayeredStore

namespace World

variable {α : Type}

/-- How an operation that starts in `w` ends: at the end of a path; a
panic poisons the lock there. -/
def Led (R : World → World → Prop) (w : World) (r : Except Fault α) (w' : World) : Prop :=
  match r with
  | .error .panic => R w w'.poison
  | _ => R w w'

section
variable {w w' w'' : World} {r : Except Fault α}

/-- A quiet step that leaves the stores alone. -/
theorem Quiet.path (h : Quiet w w') (hdisk : w'.disk = w.disk) : w.Quietly w' :=
  .single ⟨h, .inl hdisk⟩

theorem Quietly.say (h : Quietly w w') {notice : Notice} (hn : notice.discarded? = none) :
    w.Quietly (w'.say notice) := h.tail ⟨.say hn, .inl rfl⟩

theorem Quietly.set (h : Quietly w w') {c : Coordinator} (hsame : w'.db.coordinator.SameStacks c)
    (hhalted : c.halted = w'.db.coordinator.halted) : w.Quietly (w'.withCoordinator c) :=
  h.tail ⟨.settings hsame hhalted, .inl rfl⟩

theorem Actually.say (h : Actually w w') {notice : Notice} (hn : notice.discarded? = none) :
    w.Actually (w'.say notice) := h.tail ⟨.quiet (.say hn), .inl rfl⟩

theorem Actually.set (h : Actually w w') {c : Coordinator} (hsame : w'.db.coordinator.SameStacks c)
    (hhalted : c.halted = w'.db.coordinator.halted) : w.Actually (w'.withCoordinator c) :=
  h.tail ⟨.quiet (.settings hsame hhalted), .inl rfl⟩

/-- A path that goes on where another ended. -/
theorem Led.after {R S : World → World → Prop} (h : Led R w' r w'')
    (htrans : ∀ w'', R w' w'' → S w w'') : Led S w r w'' := by
  cases r with
  | ok a => exact htrans _ h
  | error fault => cases fault <;> exact htrans _ h

end

end World

namespace Coordinator

theorem sameStacks_joinUnit {c : Coordinator} {unit : UnitOfWork} (h : c.openUnit = some unit) :
    c.SameStacks (c.joinUnit unit) :=
  ⟨rfl, rfl, rfl, rfl, rfl, (openSeq?_of_some h).symm⟩

theorem sameStacks_openNewUnit {c : Coordinator} (h : c.openSeq? = none) :
    c.SameStacks (c.openNewUnit none) :=
  ⟨rfl, rfl, rfl, rfl, rfl, by rw [h]; rfl⟩

theorem SameStacks.openNewUnit {c c' : Coordinator} (h : c.SameStacks c') (seq : Nat) :
    (c.openNewUnit (some seq)).SameStacks (c'.openNewUnit (some seq)) :=
  ⟨h.tables, h.journal, h.levels, h.pending, h.nextSeq, rfl⟩

theorem sameStacks_force (c : Coordinator) : c.SameStacks c.force :=
  ⟨rfl, rfl, rfl, rfl, rfl, rfl⟩

theorem sameStacks_unforce (c : Coordinator) : c.SameStacks c.unforce :=
  ⟨rfl, rfl, rfl, rfl, rfl, rfl⟩

theorem sameStacks_withoutUnit {c : Coordinator} (h : c.openSeq? = none) :
    c.SameStacks c.withoutUnit := ⟨rfl, rfl, rfl, rfl, rfl, h.symm⟩

theorem SameStacks.symm {c c' : Coordinator} (h : c.SameStacks c') : c'.SameStacks c :=
  ⟨h.tables.symm, h.journal.symm, h.levels.symm, h.pending.symm, h.nextSeq.symm, h.openSeq?.symm⟩

theorem sameStacks_countRevoke (c : Coordinator) :
    c.SameStacks { c with passThroughRevokes := c.passThroughRevokes + 1 } :=
  ⟨rfl, rfl, rfl, rfl, rfl, rfl⟩

theorem sameStacks_setStatus (c : Coordinator) (session : Nat) (status : SessionStatus) :
    c.SameStacks (c.setStatus session status) := ⟨rfl, rfl, rfl, rfl, rfl, rfl⟩

/-- Resolving sessions changes nothing but how they stand. -/
theorem resolveOpen_eq (c : Coordinator) (unit : UnitOfWork) (status : SessionStatus) :
    ∃ statuses, c.resolveOpen unit status = { c with statuses := statuses } := by
  unfold resolveOpen
  induction unit.sessions generalizing c with
  | nil => exact ⟨c.statuses, rfl⟩
  | cons session rest ih =>
    rw [List.foldl_cons]
    split
    · obtain ⟨statuses, h⟩ := ih (c.setStatus session status)
      exact ⟨statuses, h⟩
    · exact ih c

theorem SameStacks.discardHead {c c' : Coordinator} (h : c.SameStacks c') :
    c.discardHead.SameStacks c'.discardHead where
  tables := by
    show c'.tables.map _ = c.tables.map _
    rw [h.tables]
  journal := h.journal
  levels := congrArg List.dropLast h.levels
  pending := h.pending
  nextSeq := h.nextSeq
  openSeq? := h.openSeq?

/-- The oldest live layer is not the newest layer, if this is the open
unit's and another one is the oldest. -/
theorem Sound.pending_lt {c : Coordinator} (h : c.Sound) {oldestLive : Nat}
    (hlevel : c.levels[c.pending]? = some oldestLive) (hne : c.openSeq? ≠ some oldestLive)
    (hopen : c.openSeq?.isSome) : c.pending + 1 < c.levels.length := by
  obtain ⟨seq, hseq⟩ := Option.isSome_iff_exists.mp hopen
  have hlast := h.openLast seq hseq
  obtain ⟨hlt, -⟩ := List.getElem?_eq_some_iff.mp hlevel
  rw [List.getLast?_eq_getElem?] at hlast
  by_contra hge
  have heq : c.pending = c.levels.length - 1 := by omega
  rw [heq, hlast] at hlevel
  exact hne (hseq.trans hlevel)

/-- The open unit's layer is the newest. -/
theorem Sound.openSeq?_eq_none {c : Coordinator} (h : c.Sound)
    (hnewest : ∀ unit, c.openUnit = some unit → unit.seq ≠ c.levels.getLast?) :
    c.openSeq? = none := by
  cases hopen : c.openSeq? with
  | none => rfl
  | some seq =>
    obtain ⟨unit, hunit, hseq⟩ := Option.bind_eq_some_iff.mp hopen
    exact absurd (hseq.trans (h.openLast seq hopen).symm) (hnewest unit hunit)

end Coordinator

open World

namespace Operation

/-- An operation that first asks whether the database runs makes its
steps if it does, and none if it does not. -/
theorem ensureRunning_led {α : Type} {R : World → World → Prop} {w : World}
    {next : Unit → Operation α} (hrefl : R w w)
    (h : w.db.coordinator.halted = false → (next ()).Ends w (Led R w)) :
    (ensureRunning >>= next).Ends w (Led R w) := by
  rw [ends_bind, ends_ensureRunning]
  cases hstopped : w.db.coordinator.stopped? with
  | some error => exact hrefl
  | none => exact h (Coordinator.halted_of_stopped?_eq_none hstopped)

/-- An operation ends where it ends under the lock, once a panic has
poisoned it. -/
theorem ends_led_locked {α : Type} {w : World} (hpoisoned : w.db.poisoned = false)
    (body : Operation α) :
    body.Ends w (Led (fun w w' => w' = ((locked body).perform w).2) w) := by
  have h : (locked body).Ends w fun _ w' => w' = ((locked body).perform w).2 := rfl
  rw [ends_locked, if_neg (Bool.eq_false_iff.mp hpoisoned)] at h
  refine h.mono fun r w' h => ?_
  match r, h with
  | .ok _, h => exact h
  | .error (.error _), h => exact h
  | .error .panic, h => exact h

/-! ### Flushes -/

theorem flushOldest_led {w : World} (hsound : w.db.coordinator.Sound) (hrun : w.Running)
    {count : Nat}
    (hopen : w.db.coordinator.openSeq?.isSome → count < w.db.coordinator.levels.length) :
    (flushOldest count).Ends w fun r w' => Led Quietly w r w' ∧ (r = .ok () → w'.Running) := by
  refine ((flushOldest_ends w hsound.names count).and
    (ends_led_locked hrun.1 (flushOldest count))).mono fun r w' h => ?_
  obtain ⟨h, hself⟩ := h
  have hn := Nat.min_le_right count w.db.coordinator.levels.length
  have hopen' : w.db.coordinator.openSeq?.isSome →
      min count w.db.coordinator.levels.length < w.db.coordinator.levels.length := by
    intro hsome
    have := hopen hsome
    omega
  match r, h, hself with
  | .ok (), h, hself =>
    refine ⟨.single ⟨.flush hrun hn hopen' h (by simp), .inr ⟨hrun, count, hself⟩⟩,
      fun _ => ⟨?_, ?_⟩⟩
    · rw [h.database]
      exact hrun.1
    · rw [h.halted_of_ok]
      exact hrun.2
  | .error (.error error), h, hself =>
    exact ⟨.single ⟨.flush hrun hn hopen' h (by simp), .inr ⟨hrun, count, hself⟩⟩,
      fun hr => by cases hr⟩
  | .error .panic, h, hself =>
    exact ⟨.single ⟨.crash hrun hn hopen' h, .inr ⟨hrun, count, hself⟩⟩, fun hr => by cases hr⟩

theorem solidify_led {w : World} (hsound : w.db.coordinator.Sound) (hrun : w.Running) {count : Nat}
    (hopen : w.db.coordinator.openSeq?.isSome → count < w.db.coordinator.depth) :
    (solidify count).Ends w fun r w' => Led Quietly w r w' ∧ (r = .ok () → w'.Running) := by
  let c := w.db.coordinator
  have hsame : (c.solidify count).SameStacks (c.solidify count).bump.clampCursor :=
    (Coordinator.sameStacks_bump _).trans (Coordinator.sameStacks_clampCursor _)
  have hhalted : (c.solidify count).bump.clampCursor.halted = c.halted :=
    Coordinator.halted_clampCursor _
  -- In `w₁` the layers are pending. The flush at the limit starts from there.
  refine solidify_rule fun w₁ hw₁ => ?_
  have hpath : Quietly w w₁ := by
    rw [hw₁]
    exact (((Quiet.solidify hopen).path rfl).set hsame hhalted).say rfl
  have hrun₁ : w₁.Running := by
    rw [hw₁]
    exact ⟨hrun.1, hhalted.trans hrun.2⟩
  have hsound₁ := hpath.sound hsound
  refine ⟨fun _ => ⟨hpath, fun _ => hrun₁⟩, fun _ => ?_⟩
  exact (flushOldest_led hsound₁ hrun₁ hsound₁.openLive).mono fun r w' h =>
    ⟨h.1.after fun _ => hpath.trans, h.2⟩

/-! ### Sessions -/

/-- Making room for a layer is a quiet path. -/
theorem makeRoom_led {w : World} (hsound : w.db.coordinator.Sound) (hrun : w.Running)
    (hclosed : w.db.coordinator.openSeq? = none) :
    makeRoom.Ends w fun r w' => Led Quietly w r w' ∧ (r = .ok () → w'.Running) := by
  refine makeRoom_rule (fun _ => ⟨.refl, fun _ => hrun⟩) fun _ => ?_
  exact solidify_led hsound hrun fun hsome => by rw [hclosed] at hsome; cases hsome

/-- How pushing a layer ends, where every table is in step. -/
theorem ends_pushLevel {w : World} (hsound : w.db.coordinator.Sound)
    (Q : Except Fault Nat → World → Prop) :
    pushLevel.Ends w Q ↔
      let c := w.db.coordinator.push.bump
      Q (.ok w.db.coordinator.nextSeq)
        (((w.withCoordinator c).say (.layerPushed w.db.coordinator.nextSeq c.depth)).withCoordinator
          (c.announce (.pushLayer w.db.coordinator.nextSeq c.depth))) := by
  rw [ends_pushLevel_cases, hsound.outOfStep?_eq_none]

/-- Opening a unit of work with a layer of its own pushes the layer, if
there is room for it. -/
theorem advance_led {w : World} (hsound : w.db.coordinator.Sound) (hrun : w.Running)
    (hclosed : w.db.coordinator.openSeq? = none) :
    advance.Ends w fun r w' => match r with
      | .ok seq => OpensExactly w (w'.withCoordinator (w'.db.coordinator.openNewUnit (some seq)))
      | .error fault => Led Quietly w (.error fault : Except Fault Nat) w' := by
  rw [ends_advance]
  refine (makeRoom_led hsound hrun hclosed).mono fun r w₁ h => ?_
  match r, h with
  | .error (.error error), h => exact h.1
  | .error .panic, h => exact h.1
  | .ok (), ⟨hpath, hrun₁⟩ =>
    have hpath : Quietly w w₁ := hpath
    have hsame := (Coordinator.sameStacks_bump w₁.db.coordinator.push).trans
      (Coordinator.sameStacks_announce _
        (.pushLayer w₁.db.coordinator.nextSeq w₁.db.coordinator.push.bump.depth))
    rw [ends_pushLevel (hpath.sound hsound)]
    -- The new layer is not committed, so the coordinator is sound again only
    -- once the unit of work that owns the layer is open.
    refine ⟨w₁, hpath, .inr ?_⟩
    exact
      { running := hrun₁ rfl
        closed := hpath.closed hclosed
        sameStacks := hsame.openNewUnit _
        running_after := ⟨(hrun₁ rfl).1, (Coordinator.halted_announce _ _).trans (hrun₁ rfl).2⟩
        disk := rfl
        discarded := discarded_say _ rfl }

theorem openSession_led {w : World} (hsound : w.db.coordinator.Sound)
    (hpoisoned : w.db.poisoned = false) (force : Bool) :
    (openSession force).Ends w fun r w' => Led OpensExactly w r w' := by
  apply openSession_rule
  case refused => exact fun _ _ => .of_quietly .refl
  case joined =>
    -- A nested session joins the unit of work and pushes nothing.
    intro unit _ hunit
    exact .of_quietly ((Quietly.set .refl (Coordinator.sameStacks_joinUnit hunit) rfl).say rfl)
  case passed =>
    -- Where nothing is to be rolled back, the unit of work has no layer.
    intro _ hunit _ _
    have hsame := Coordinator.sameStacks_openNewUnit (Coordinator.openSeq?_of_none hunit)
    exact .of_quietly (Quietly.set .refl hsame rfl)
  case pushed =>
    intro hstopped hunit _
    have hpath : Quietly w (w.withCoordinator w.db.coordinator.force) :=
      Quietly.set .refl (Coordinator.sameStacks_force _) rfl
    have hrun : w.Running := ⟨hpoisoned, Coordinator.halted_of_stopped?_eq_none hstopped⟩
    have hclosed := hpath.closed (Coordinator.openSeq?_of_none hunit)
    refine (advance_led (hpath.sound hsound) hrun hclosed).mono fun r w₁ h => ?_
    match r, h with
    | .ok seq, ⟨w₂, hpath₂, hend⟩ => exact ⟨w₂, hpath.trans hpath₂, hend⟩
    | .error .panic, h => exact .of_quietly (hpath.trans h)
    | .error (.error error), h =>
      have h : Quietly w w₁ := hpath.trans h
      dsimp only
      split
      · exact .of_quietly h
      · exact .of_quietly (Quietly.set h (Coordinator.sameStacks_unforce _) rfl)

/-- Discarding the newest live layer is a discard, also when the unit of
work that owns it was closed right before. -/
theorem retreat_acts {w : World} {c : Coordinator}
    (hsame : w.db.coordinator.withoutUnit.SameStacks c)
    (hhalted : c.halted = w.db.coordinator.halted) (hpoisoned : w.db.poisoned = false)
    (hallowed : w.db.coordinator.halted = false ∨ w.db.coordinator.openSeq?.isSome)
    (hlive : w.db.coordinator.pending < w.db.coordinator.levels.length) (operation : String)
    (verified? : Option Bool) :
    (retreat operation verified?).Ends (w.withCoordinator c) fun r w' =>
      r = .ok () ∧ Actually w w' ∧ w'.db.coordinator.openUnit = c.openUnit ∧
        w'.db.coordinator.halted = c.halted ∧ w'.db.poisoned = false := by
  -- The step starts in `w`, where the unit of work is still open, so what the
  -- operation finds in `c` is carried back to `w`.
  have hlevels : c.levels = w.db.coordinator.levels := hsame.levels
  have hpending : c.pending = w.db.coordinator.pending := hsame.pending
  have hdepth : 0 < (w.withCoordinator c).db.coordinator.depth := by
    show 0 < c.levels.length - c.pending
    rw [hlevels, hpending]
    omega
  obtain ⟨seq, hseq⟩ : ∃ seq, w.db.coordinator.levels.getLast? = some seq := by
    rw [← Option.isSome_iff_exists, List.getLast?_isSome]
    intro hnil
    rw [hnil] at hlive
    exact absurd hlive (Nat.not_lt_zero _)
  have hget : (w.withCoordinator c).db.coordinator.levels.getLast?.getD 0 = seq := by
    show c.levels.getLast?.getD 0 = seq
    rw [hlevels, hseq]
    rfl
  have hdiscard : w.db.coordinator.withoutUnit.discardHead.SameStacks
      c.discardHead.bump.clampCursor :=
    (hsame.discardHead.trans (Coordinator.sameStacks_bump _)).trans
      (Coordinator.sameStacks_clampCursor _)
  have hhalted' : c.discardHead.bump.clampCursor.halted = c.halted :=
    Coordinator.halted_clampCursor _
  have hunit : ∀ event, (c.discardHead.bump.clampCursor.announce event).openUnit = c.openUnit := by
    intro event
    unfold Coordinator.announce Coordinator.clampCursor
    split <;> split <;> rfl
  rw [ends_retreat hdepth, hget]
  have hact := Act.discard operation c.discardHead.bump.clampCursor.depth hpoisoned hallowed hlive
    hseq hdiscard (hhalted'.trans hhalted)
  have hpath : Actually w ((w.withCoordinator c.discardHead.bump.clampCursor).say
      (.layerDiscarded operation seq c.discardHead.bump.clampCursor.depth)) :=
    .single ⟨hact, .inl rfl⟩
  refine ⟨rfl, hpath.set (Coordinator.sameStacks_announce _ _) (Coordinator.halted_announce _ _),
    hunit _, ?_, hpoisoned⟩
  exact (Coordinator.halted_announce _ _).trans hhalted'

/-- Leaving a forced session changes settings only. -/
theorem leaveForced_acts {w₀ w : World} (h : Actually w₀ w) :
    leaveForced.Ends w fun r w' => r = .ok () ∧ Actually w₀ w' ∧
      w'.db.coordinator.openUnit = w.db.coordinator.openUnit ∧ w'.db.poisoned = w.db.poisoned := by
  rw [ends_leaveForced]
  refine ⟨rfl, ?_⟩
  split
  · have hsame := (Coordinator.sameStacks_unforce w.db.coordinator).trans
      (Coordinator.sameStacks_bump _)
    exact ⟨h.set hsame rfl, rfl, rfl⟩
  · exact ⟨h, rfl, rfl⟩

/-- Discarding the open unit of work always succeeds. -/
theorem revokeUnit_led {w : World} (hsound : w.db.coordinator.Sound)
    (hpoisoned : w.db.poisoned = false) :
    revokeUnit.Ends w fun r w' => r = .ok () ∧ Actually w w' ∧
      w'.db.coordinator.openUnit = none ∧ w'.db.poisoned = false := by
  refine revokeUnit_rule (fun hunit => ⟨rfl, .refl, hunit, hpoisoned⟩) fun unit c hunit hc => ?_
  have hsame : w.db.coordinator.withoutUnit.SameStacks c := by
    rw [hc]
    exact ⟨rfl, rfl, rfl, rfl, rfl, rfl⟩
  have hnone : c.openUnit = none := by rw [hc]
  have hhalted : c.halted = w.db.coordinator.halted := by rw [hc]
  have hopen := Coordinator.openSeq?_of_some hunit
  constructor
  · intro hseq
    have hclosed := Coordinator.sameStacks_withoutUnit (hopen.trans hseq)
    have hpath := (Actually.set .refl (hclosed.trans hsame) hhalted).set
      (Coordinator.sameStacks_countRevoke _) rfl
    refine (leaveForced_acts (hpath.say rfl)).mono fun r w' h => ?_
    exact ⟨h.1, h.2.1, h.2.2.1.trans hnone, h.2.2.2.trans hpoisoned⟩
  · intro seq hseq
    have hsome : w.db.coordinator.openSeq?.isSome := by
      rw [hopen, hseq]
      rfl
    refine (retreat_acts hsame hhalted hpoisoned (.inr hsome) (hsound.openLive hsome) _ _).mono
      fun r w₁ h => ?_
    obtain ⟨rfl, hpath, hunit₁, -, hpoisoned₁⟩ := h
    refine (leaveForced_acts hpath).mono fun r w' h => ?_
    exact ⟨h.1, h.2.1, h.2.2.1.trans (hunit₁.trans hnone), h.2.2.2.trans hpoisoned₁⟩

/-- Settling a forced session flushes everything. -/
theorem settleForced_led {w : World} (hsound : w.db.coordinator.Sound) (hrun : w.Running)
    (hclosed : w.db.coordinator.openSeq? = none) : settleForced.Ends w (Led Actually w) := by
  refine settleForced_rule (fun _ => .refl) fun _ => ?_
  refine (flushOldest_led hsound hrun fun hsome => ?_).mono fun r w₁ h => ?_
  · rw [hclosed] at hsome
    cases hsome
  match r, h.1 with
  | .ok (), hpath =>
    have hpath : Quietly w w₁ := hpath
    refine (leaveForced_acts hpath.actually).mono fun r w' h => ?_
    rw [h.1]
    exact h.2.1
  | .error (.error error), hpath => exact Quietly.actually hpath
  | .error .panic, hpath => exact Quietly.actually hpath

theorem finishUnit_led {w : World} (hsound : w.db.coordinator.Sound) (hrun : w.Running) :
    finishUnit.Ends w (Led Actually w) := by
  -- With a layer or without, the unit of work is closed before it is settled.
  have hsettle : ∀ w₁, Actually w w₁ → w₁.Running → w₁.db.coordinator.openSeq? = none →
      settleForced.Ends w₁ (Led Actually w) := by
    intro w₁ hpath hrun₁ hclosed
    exact (settleForced_led (hpath.sound hsound) hrun₁ hclosed).mono fun r w' h =>
      h.after fun _ => hpath.trans
  apply finishUnit_rule
  case idle => exact fun _ => .refl
  case passed =>
    intro unit hunit hseq
    have hclosed := Coordinator.sameStacks_withoutUnit
      ((Coordinator.openSeq?_of_some hunit).trans hseq)
    exact hsettle _ (Actually.set .refl hclosed rfl) hrun rfl
  case sealed =>
    rintro unit seq _ hunit hseq rfl
    have hopen : w.db.coordinator.openSeq?.isSome := by
      rw [Coordinator.openSeq?_of_some hunit, hseq]
      rfl
    have hpath := ((Quiet.commit hopen).path rfl).actually
    refine hsettle _ ?_ ⟨hrun.1, (Coordinator.halted_announce _ _).trans hrun.2⟩ ?_
    · exact (hpath.say rfl).set (Coordinator.sameStacks_announce _ _)
        (Coordinator.halted_announce _ _)
    · exact (Coordinator.sameStacks_announce _ _).openSeq?

/-- Resolving a session as successful. -/
theorem commitSession_led {w : World} (hsound : w.db.coordinator.Sound)
    (hpoisoned : w.db.poisoned = false) (session : Nat) :
    (commitSession session).Ends w (Led Actually w) := by
  apply commitSession_rule
  case committed => exact fun _ => .refl
  case failed => exact fun _ => .refl
  case refused => exact fun _ _ _ => .refl
  case stray => exact fun _ _ _ => .refl
  case resolved =>
    intro unit _ hstopped _ _ w₁
    have hpath : Actually w w₁ :=
      Actually.set .refl (Coordinator.sameStacks_setStatus _ session .committed) rfl
    refine ⟨fun _ => hpath, fun _ _ => ?_, fun _ _ => ?_⟩
    -- The last session decides: a poisoned unit of work is discarded after all.
    · refine (revokeUnit_led (hpath.sound hsound) hpoisoned).mono fun r w' h => ?_
      rw [h.1]
      exact hpath.trans h.2.1
    · have hrun₁ : w₁.Running := ⟨hpoisoned, Coordinator.halted_of_stopped?_eq_none hstopped⟩
      exact (finishUnit_led (hpath.sound hsound) hrun₁).mono fun r w' h =>
        h.after fun _ => hpath.trans

theorem commitInnermost_led {w : World} (hsound : w.db.coordinator.Sound)
    (hpoisoned : w.db.poisoned = false) : commitInnermost.Ends w (Led Actually w) := by
  rw [ends_commitInnermost]
  cases w.db.coordinator.innermost? with
  | none => exact .refl
  | some session => exact commitSession_led hsound hpoisoned session

/-- Resolving a session as failed. -/
theorem abandonSession_led {w : World} (hsound : w.db.coordinator.Sound)
    (hpoisoned : w.db.poisoned = false) (session : Nat) (status : SessionStatus) :
    (abandonSession session status).Ends w (Led Actually w) := by
  have hset := Coordinator.sameStacks_setStatus w.db.coordinator session status
  refine abandonSession_rule (fun _ => .refl) (fun _ _ => Actually.set .refl hset rfl)
    fun unit c _ hunit _ hc => ?_
  have hsame : w.db.coordinator.SameStacks c := by
    rw [hc]
    exact ⟨rfl, rfl, rfl, rfl, rfl, (Coordinator.openSeq?_of_some hunit).symm⟩
  have hpath : Actually w (w.withCoordinator c) := Actually.set .refl hsame (by rw [hc]; rfl)
  refine ⟨fun _ => hpath.say rfl, fun _ => ?_⟩
  refine (revokeUnit_led (hpath.sound hsound) hpoisoned).mono fun r w' h => ?_
  rw [h.1]
  exact hpath.trans h.2.1

/-! ### History -/

theorem revoke_led {w : World} (hsound : w.db.coordinator.Sound)
    (hpoisoned : w.db.poisoned = false) : revoke.Ends w (Led Actually w) := by
  apply revoke_rule
  case refused => exact fun _ _ => .refl
  case counted =>
    exact fun _ _ _ => (Actually.set .refl (Coordinator.sameStacks_countRevoke _) rfl).say rfl
  case empty => exact fun _ _ _ => .refl
  case unit =>
    exact fun _ _ _ _ => (revokeUnit_led hsound hpoisoned).mono fun r w' h => by
      rw [h.1]
      exact h.2.1
  case level =>
    intro hstopped _ hdepth hnewest
    have hclosed := Coordinator.sameStacks_withoutUnit (hsound.openSeq?_eq_none hnewest)
    refine (retreat_acts hclosed.symm rfl hpoisoned
      (.inl (Coordinator.halted_of_stopped?_eq_none hstopped)) (Nat.lt_of_sub_pos hdepth)
      "revoke" none).mono fun r w' h => ?_
    rw [h.1]
    exact h.2.1

theorem merge_led {w : World} (hsound : w.db.coordinator.Sound)
    (hpoisoned : w.db.poisoned = false) : merge.Ends w (Led Actually w) := by
  refine merge_rule (fun _ _ => .refl) (fun _ _ => .refl) (fun _ _ _ _ => .refl)
    fun seq hstopped hlevel hne => ?_
  have hrun : w.Running := ⟨hpoisoned, Coordinator.halted_of_stopped?_eq_none hstopped⟩
  exact (flushOldest_led hsound hrun (hsound.pending_lt hlevel hne)).mono
    fun r w' h => h.1.after fun _ => Quietly.actually

/-- Discarding layers one after the other, where no unit of work is
open. -/
theorem retreatMany_led {w : World} (hsound : w.db.coordinator.Sound) (hrun : w.Running)
    (hclosed : w.db.coordinator.openUnit = none) (operation : String) (verify : Bool)
    (count : Nat) : (retreatMany operation verify count).Ends w (Led Actually w) := by
  -- Each discard leaves a sound database that runs and has no unit open.
  induction count generalizing w with
  | zero => exact .refl
  | succ count ih =>
    rw [ends_retreatMany_succ]
    by_cases hdepth : w.db.coordinator.depth = 0
    · rw [ends_retreat_of_empty hdepth]
      exact .refl
    have hopen : w.db.coordinator.openSeq? = none := Coordinator.openSeq?_of_none hclosed
    have hlive : w.db.coordinator.pending < w.db.coordinator.levels.length :=
      Nat.lt_of_sub_pos (Nat.pos_of_ne_zero hdepth)
    refine (retreat_acts (Coordinator.sameStacks_withoutUnit hopen).symm rfl hrun.1
      (.inl hrun.2) hlive operation (some verify)).mono fun r w₁ h => ?_
    obtain ⟨rfl, hpath, hunit, hhalted, hpoisoned⟩ := h
    exact (ih (hpath.sound hsound) ⟨hpoisoned, hhalted.trans hrun.2⟩ (hunit.trans hclosed)).mono
      fun r w' h => h.after fun _ => hpath.trans

theorem popMany_led {w : World} (hsound : w.db.coordinator.Sound)
    (hpoisoned : w.db.poisoned = false) (count : Nat) (verify : Bool) :
    (popMany count verify).Ends w (Led Actually w) := by
  apply popMany_rule rfl
  case popped =>
    intro hstopped hunit _ _ _
    have hrun : w.Running := ⟨hpoisoned, Coordinator.halted_of_stopped?_eq_none hstopped⟩
    exact retreatMany_led hsound hrun hunit _ _ _
  all_goals
    intros
    exact .refl

end Operation

end LayeredStore

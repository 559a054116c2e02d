import LayeredStore.Proofs.Agreement
import LayeredStore.Proofs.Nesting
import LayeredStore.Proofs.Upkeep

/-!
# `LayeredStore.Proofs.Standing`: how a session stands after its commit

A session stands as committed from the moment at which it is committed,
before it is known what becomes of its unit of work. So what a commit
answers and how its session stands from then on can come apart.

A commit that is refused because the database does not run leaves its
session open, and no session is committed by such a database any more.
`World.StoppedBefore` says this of a session, and that every run keeps to
it is shown operation by operation: those that ask first whether the
database runs do nothing, and the others resolve sessions as failed only.

* `stoppedBefore_service` and `StoppedBefore.play`: no session is
  committed by a database that has stopped.
* `Command.commit_answers`: what a commit answers while the database runs;
  its session stands as committed whatever it is.
* `Command.commit_refused`: what it answers when it does not.
* `World.commit_agrees_with_status`: so the two agree, but for a commit
  that finds its unit of work poisoned or cannot write the layers of a
  forced one (`World.failed_commit_stands`).
-/

set_option autoImplicit false

namespace LayeredStore

open World

/-! ### A database that has stopped commits no session -/

namespace World

/-- The database has halted, and the session was not committed before. -/
def HaltedBefore (session : Nat) (w : World) : Prop :=
  w.db.coordinator.halted = true ∧ w.db.coordinator.status session ≠ .committed

/-- The database does not run any more, and the session was not committed
before. -/
def StoppedBefore (session : Nat) (w : World) : Prop :=
  ¬w.Running ∧ w.db.coordinator.status session ≠ .committed

theorem HaltedBefore.of_same {session : Nat} {w w' : World} (h : w.HaltedBefore session)
    (hhalted : w'.db.coordinator.halted = w.db.coordinator.halted)
    (hstatuses : w'.db.coordinator.statuses = w.db.coordinator.statuses) :
    w'.HaltedBefore session :=
  ⟨hhalted.trans h.1, by rw [Coordinator.status_congr hstatuses]; exact h.2⟩

end World

namespace Operation

variable {session : Nat} {w : World}

theorem retreat_halted (h : w.HaltedBefore session) (operation : String)
    (verified? : Option Bool) :
    (retreat operation verified?).Ends w (Leaves (HaltedBefore session)) := by
  rcases Nat.eq_zero_or_pos w.db.coordinator.depth with hzero | hpos
  · rw [ends_retreat_of_empty hzero]
    exact h
  · rw [ends_retreat hpos]
    refine h.of_same ?_ ?_
    · exact (Coordinator.halted_announce _ _).trans (Coordinator.halted_clampCursor _)
    · exact (Coordinator.sameModes_announce _ _).statuses.trans
        (Coordinator.sameModes_clampCursor _).statuses

theorem leaveForced_halted (h : w.HaltedBefore session) :
    leaveForced.Ends w (Leaves (HaltedBefore session)) := by
  rw [ends_leaveForced]
  split
  · exact h.of_same rfl rfl
  · exact h

/-- Discarding the open unit of work revokes its sessions. -/
theorem revokeUnit_halted (h : w.HaltedBefore session) :
    revokeUnit.Ends w (Leaves (HaltedBefore session)) := by
  apply revokeUnit_rule
  case idle => exact fun _ => h
  case closed =>
    intro unit c _ hc
    have hclosed : (w.withCoordinator c).HaltedBefore session := by
      subst hc
      refine ⟨h.1, ?_⟩
      show (w.db.coordinator.resolveOpen unit .revoked).status session ≠ .committed
      rw [Coordinator.status_resolveOpen]
      split
      · exact nofun
      · exact h.2
    exact ⟨fun _ => leaveForced_halted (hclosed.of_same rfl rfl), fun _ _ =>
      (retreat_halted hclosed "revoke" none).mono_cases (fun _ _ => leaveForced_halted)
        fun _ _ => id⟩

/-- Resolving a session as failed commits none. -/
theorem abandonSession_halted (h : w.HaltedBefore session) (other : Nat) {status : SessionStatus}
    (hstatus : status ≠ .committed) :
    (abandonSession other status).Ends w (Leaves (HaltedBefore session)) := by
  have hset : (w.db.coordinator.setStatus other status).status session ≠ .committed := by
    rw [Coordinator.status_setStatus]
    split
    · exact hstatus
    · exact h.2
  apply abandonSession_rule
  case closed => exact fun _ => h
  case stray => exact fun _ _ => ⟨h.1, hset⟩
  case resolved =>
    rintro unit c - - - rfl
    exact ⟨fun _ => ⟨h.1, hset⟩, fun _ => revokeUnit_halted ⟨h.1, hset⟩⟩

theorem check_halted (h : w.HaltedBefore session) :
    check.Ends w (Leaves (HaltedBefore session)) := by
  rw [ends_check, ends_recoverRunning_of_stopped (.inl h.1)]
  dsimp only
  split <;> exact h

theorem flushLeft_halted (h : w.HaltedBefore session) :
    flushLeft.Ends w (Leaves (HaltedBefore session)) := by
  rw [ends_flushLeft_of_halted h.1]
  exact h.of_same rfl rfl

theorem stop_halted (h : w.HaltedBefore session) :
    stop.Ends w (Leaves (HaltedBefore session)) := by
  apply stop_rule
  case stopped => exact fun _ => h
  case revoked =>
    -- The open unit of work is discarded first, and then nothing is flushed.
    intro unit _ _
    have hsay : (w.say .shuttingDownWithSession).HaltedBefore session := h
    rw [ends_revokeLeft]
    refine (revokeUnit_halted hsay).mono fun r w' hend => ?_
    match r, hend with
    | .ok (), hend => exact flushLeft_halted hend
    | .error (.error error), hend =>
      exact flushLeft_halted (w := w'.say (.shutdownRevokeFailed error)) hend
    | .error .panic, hend => exact hend
  case flushed => exact fun _ _ => flushLeft_halted h

/-- What a database that has halted leaves alone is left alone by one that
does not run: a poisoned lock lets no operation in. -/
theorem upholds_of_halted {α : Type} {body : Operation α}
    (hbody : ∀ w : World, w.HaltedBefore session → body.Ends w (Leaves (HaltedBefore session))) :
    Upholds (StoppedBefore session) body := by
  intro w h hpoisoned
  have hhalted : w.db.coordinator.halted = true := by
    by_contra hnot
    exact h.1 ⟨hpoisoned, Bool.eq_false_iff.mpr hnot⟩
  -- Whatever the lock is after the operation, a halted database does not run.
  have hstopped : ∀ w' : World, w'.HaltedBefore session → w'.StoppedBefore session :=
    fun w' hend => ⟨fun hrun => Bool.false_ne_true (hrun.2.symm.trans hend.1), hend.2⟩
  refine (hbody w ⟨hhalted, h.2⟩).mono fun r w' hend => ?_
  match r, hend with
  | .ok _, hend => exact hstopped w' hend
  | .error (.error _), hend => exact hstopped w' hend
  | .error .panic, hend => exact hstopped w'.poison hend

/-- An operation that asks first whether the database runs does
nothing. -/
theorem upholds_ensureRunning {α : Type} (next : Unit → Operation α) :
    Upholds (StoppedBefore session) (ensureRunning >>= next) :=
  Upholds.ensureRunning fun _ h hrun => absurd hrun h.1

theorem commitSession_halted (h : w.HaltedBefore session) (other : Nat) :
    (commitSession other).Ends w (Leaves (HaltedBefore session)) := by
  have hstopped : w.db.coordinator.stopped? = some .halted := if_pos h.1
  apply commitSession_rule
  case committed => exact fun _ => h
  case failed => exact fun _ => h
  case refused => exact fun _ _ _ => h
  case stray => exact fun _ _ _ => h
  case resolved =>
    intro _ _ hrun
    cases hstopped.symm.trans hrun

end Operation

namespace World

open Operation

variable {session : Nat} {w : World}

/-- No operation of a database that does not run commits a session. -/
theorem stoppedBefore_service (session : Nat) : Service (StoppedBefore session) where
  say _ h := h
  bus h := h
  addTable _ _ := upholds_ensureRunning _
  openSession _ := upholds_ensureRunning _
  commitSession other := upholds_of_halted fun _ h => commitSession_halted h other
  abandonSession other _ _ hstatus := upholds_of_halted fun _ h =>
    abandonSession_halted h other hstatus
  revoke := upholds_ensureRunning _
  merge := upholds_ensureRunning _
  popMany _ _ := upholds_ensureRunning _
  enable := upholds_ensureRunning _
  disable := upholds_ensureRunning _
  setCursor _ _ := upholds_ensureRunning _
  setMaxSize _ := upholds_ensureRunning _
  setMaxFlushCount _ := upholds_ensureRunning _
  check := upholds_of_halted fun _ => check_halted
  stop := upholds_of_halted fun _ => stop_halted
  writeEntry _ _ _ := upholds_ensureRunning _

theorem StoppedBefore.act (h : w.StoppedBefore session) (move : Move) :
    (move.act w).StoppedBefore session := by
  cases move with
  | call command => exact (stoppedBefore_service session).run h command
  | close => exact (stoppedBefore_service session).drop h
  | setPlan store plan => exact h

/-- So it is over every run. -/
theorem StoppedBefore.play (h : w.StoppedBefore session) (moves : List Move) :
    (w.play moves).StoppedBefore session := by
  induction moves generalizing w with
  | nil => exact h
  | cons move moves ih => exact ih (h.act move)

end World

/-! ### What a commit answers -/

/-- A commit through the database is one of the session opened last. -/
theorem Operation.ends_locked_commitInnermost {w : World} {session : Nat}
    (h : w.db.coordinator.innermost? = some session) (Q : Except Fault Unit → World → Prop) :
    (locked commitInnermost).Ends w Q ↔ (locked (commitSession session)).Ends w Q := by
  rw [ends_locked, ends_locked, ends_commitInnermost, h]

/-- What a commit can answer that is carried out: success, that another
session of the unit of work has failed, or that the layers of a forced
unit of work could not be written, unless a store stops the program. -/
def Answered {α : Type} (r : Except Fault α) : Prop :=
  (∃ a, r = .ok a) ∨ r = .error (.error (.sessionMisuse .nestedSessionAbandoned)) ∨
    (∃ table source, r = .error (.error (.ioFailure table source))) ∨ r = .error .panic

theorem World.Resolution.answered {w w' : World} {session : Nat} {r : Except Fault Unit}
    (h : w.Resolution session .committed r w') (horderly : w.Orderly) : Answered r := by
  cases h with
  | waits | keeps => exact .inl ⟨(), rfl⟩
  | loses => exact .inr (.inl rfl)
  | settles _ hunit _ _ _ hkeep _ _ hflush =>
    -- A forced unit of work is flushed, and only this can fail.
    have hnames := ((horderly.sound.keep hunit _).congr hkeep.layers).names
    cases flushEnd_of_perform hnames hflush with
    | nothing | finished => exact .inl ⟨(), rfl⟩
    | unfit | halted | unclearedHalted => exact .inr (.inr (.inl ⟨_, _, rfl⟩))
    | crashed | unclearedCrashed => exact .inr (.inr (.inr rfl))

namespace Operation

variable {w : World} {session : Nat}

/-- While the database runs, a session stands as committed after its
commit, whatever this answers. -/
theorem locked_commit_answers (h : w.Orderly) (hrun : w.Running)
    (hsession : w.db.coordinator.isOpen session = true) :
    (locked (commitSession session)).Ends w fun r w' =>
      Answered r ∧ w'.db.coordinator.status session = .committed := by
  rw [ends_locked, if_neg (by simp [hrun.1])]
  refine (commitSession_resolves h hrun hsession).mono fun r w' hend => ?_
  have hstatus : w'.db.coordinator.status session = .committed := by
    rw [Coordinator.status_congr (c := w.db.coordinator.setStatus session .committed)
      (hend.statuses h), Coordinator.status_setStatus,
      if_pos ⟨rfl, Coordinator.lt_of_isOpen hsession⟩]
  have hanswered := hend.answered h
  match r with
  | .ok () => exact ⟨hanswered, hstatus⟩
  | .error (.error error) => exact ⟨hanswered, hstatus⟩
  | .error .panic => exact ⟨hanswered, hstatus⟩

/-- A database that does not run refuses to commit a session: one that is
open because of how the database stands, and none as committed already
that is not. -/
theorem locked_commit_refused (hstopped : ¬w.Running) (session : Nat) :
    (locked (commitSession session)).Ends w fun r w' => w' = w ∧ ∃ error,
      r = .error (.error error) ∧
        (w.db.coordinator.isOpen session = true → ∃ reason, error = .illegalState reason) ∧
        (w.db.coordinator.status session ≠ .committed →
          error ≠ .sessionMisuse .alreadyCommitted) := by
  rw [ends_locked]
  split
  · exact ⟨rfl, _, rfl, fun _ => ⟨_, rfl⟩, fun _ => nofun⟩
  · rename_i hpoisoned
    have hhalted : w.db.coordinator.halted = true := by
      by_contra hnot
      exact hstopped ⟨Bool.eq_false_iff.mpr hpoisoned, Bool.eq_false_iff.mpr hnot⟩
    -- It does not run and the lock is free, so it has halted.
    have hrefused : w.db.coordinator.stopped? = some .halted := if_pos hhalted
    have hopened := w.db.coordinator.isOpen_iff session
    apply commitSession_rule
    case committed =>
      intro hcommitted
      rw [hcommitted] at hopened ⊢
      exact ⟨rfl, _, rfl, fun hopen => (nomatch hopened.mp hopen), fun hne => absurd rfl hne⟩
    case failed =>
      intro hfailed
      refine ⟨rfl, _, rfl, fun hopen => ?_, fun _ => nofun⟩
      simp [hopened.mp hopen] at hfailed
    case refused => exact fun _ _ _ => ⟨rfl, _, rfl, fun _ => ⟨_, rfl⟩, fun _ => nofun⟩
    case stray =>
      intro hrun
      cases hrefused.symm.trans hrun
    case resolved =>
      intro _ _ hrun
      cases hrefused.symm.trans hrun

end Operation

/-- Through its handle, a session is refused as it is under the lock: what
is left to do with the handle does not fail. -/
theorem Session.commit_refused {w : World} (hsound : w.db.coordinator.Sound)
    (hstopped : ¬w.Running) (handle : Session) :
    (Command.commitSession handle).run.Ends w fun r _ => ∃ error, r = .error (.error error) ∧
      (w.db.coordinator.isOpen handle.id = true → ∃ reason, error = .illegalState reason) ∧
      (w.db.coordinator.status handle.id ≠ .committed →
        error ≠ .sessionMisuse .alreadyCommitted) := by
  show (do handle.useUp (Operation.locked (Operation.commitSession handle.id)); return .done :
    Operation Reply).Ends w _
  rw [Operation.ends_bind, Operation.ends_useUp]
  refine (Operation.locked_commit_refused hstopped handle.id).mono fun r w' hend => ?_
  obtain ⟨rfl, error, rfl, hrefused⟩ := hend
  refine (Session.drop_ok hsound handle).mono fun later _ hlater => ?_
  subst hlater
  exact ⟨error, rfl, hrefused⟩

namespace Command

variable {w : World} {command : Command} {session : Nat}

/-- A commit of an open session while the database runs. -/
theorem commit_answers (h : w.Orderly) (hrun : w.Running)
    (hcommits : w.db.coordinator.Resolves command session .committed) :
    command.run.Ends w fun r w' =>
      Answered r ∧ w'.db.coordinator.status session = .committed := by
  have hanswer : ∀ {body : Operation Unit}, (body.Ends w fun r w' =>
      Answered r ∧ w'.db.coordinator.status session = .committed) →
      (do body; return .done : Operation Reply).Ends w fun r w' =>
        Answered r ∧ w'.db.coordinator.status session = .committed := by
    intro body hbody
    rw [Operation.ends_bind]
    refine hbody.mono fun r w' hend => ?_
    obtain ⟨⟨_, rfl⟩ | rfl | ⟨table, source, rfl⟩ | rfl, hstatus⟩ := hend
    · exact ⟨.inl ⟨_, rfl⟩, hstatus⟩
    · exact ⟨.inr (.inl rfl), hstatus⟩
    · exact ⟨.inr (.inr (.inl ⟨table, source, rfl⟩)), hstatus⟩
    · exact ⟨.inr (.inr (.inr rfl)), hstatus⟩
  cases hcommits with
  | commitSession handle hsession =>
    refine hanswer (Session.useUp_of_closed ?_)
    refine (Operation.locked_commit_answers h hrun hsession).mono fun r w' hend => ⟨hend, ?_⟩
    rw [Coordinator.isOpen_eq_false_iff, hend.2]
    exact nofun
  | commit _ hsession hnewest =>
    have hinnermost := h.attended.innermost?_eq hsession hnewest
    exact hanswer ((Operation.ends_locked_commitInnermost hinnermost _).mpr
      (Operation.locked_commit_answers h hrun hsession))

/-- A commit of an open session when the database does not run. -/
theorem commit_refused (h : w.Orderly) (hstopped : ¬w.Running)
    (hcommits : w.db.coordinator.Resolves command session .committed) :
    command.run.Ends w fun r _ => ∃ reason, r = .error (.error (.illegalState reason)) := by
  cases hcommits with
  | commitSession handle hsession =>
    refine (handle.commit_refused h.sound hstopped).mono fun r w' hend => ?_
    obtain ⟨error, rfl, hreason, -⟩ := hend
    obtain ⟨reason, rfl⟩ := hreason hsession
    exact ⟨reason, rfl⟩
  | commit _ hsession hnewest =>
    have hinnermost := h.attended.innermost?_eq hsession hnewest
    show (do Operation.locked Operation.commitInnermost; return .done : Operation Reply).Ends w _
    rw [Operation.ends_bind, Operation.ends_locked_commitInnermost hinnermost]
    refine (Operation.locked_commit_refused hstopped session).mono fun r w' hend => ?_
    obtain ⟨-, error, rfl, hreason, -⟩ := hend
    obtain ⟨reason, rfl⟩ := hreason hsession
    exact ⟨reason, rfl⟩

end Command

namespace World

/-- **What a commit answers and how its session stands.** After a run, an
open session is committed, through its handle or as the newest through
the database. If the commit succeeds, the session stands as committed
from then on. If it reports an error other than that the unit of work was
poisoned or that a store could not be written, the session never stands
as committed, and no later commit reports that it does. The session of a
commit that reports one of these two stands as committed from then on,
like that of one that has succeeded. -/
theorem commit_agrees_with_status (disk : Disk) (configuration : Configuration) (journal : String)
    (handlers : List Handler) (moves : List Move) (command : Command) (session : Nat)
    (hcommits : ((opened disk configuration journal handlers).play
      moves).db.coordinator.Resolves command session .committed) :
    let w := (opened disk configuration journal handlers).play moves
    let answer := (command.run.perform w).1
    let after := (Move.call command).act w
    (∀ reply, answer = .ok reply →
      ∀ later, (after.play later).db.coordinator.status session = .committed) ∧
    (∀ error, answer = .error (.error error) →
      error ≠ .sessionMisuse .nestedSessionAbandoned →
      (∀ table source, error ≠ .ioFailure table source) →
      ∀ later, (after.play later).db.coordinator.status session ≠ .committed ∧
        ∀ handle : Session, handle.id = session →
          ((Command.commitSession handle).run.perform (after.play later)).1 ≠
            .error (.error (.sessionMisuse .alreadyCommitted))) ∧
    ∀ error, answer = .error (.error error) →
      (error = .sessionMisuse .nestedSessionAbandoned ∨
        ∃ table source, error = .ioFailure table source) →
      ∀ later, (after.play later).db.coordinator.status session = .committed := by
  intro w answer after
  have horderly : w.Orderly := (orderly_opened disk configuration journal handlers).play moves
  have horderly' : after.Orderly := horderly.act (.call command)
  have hsession : w.db.coordinator.isOpen session = true := by
    cases hcommits <;> assumption
  by_cases hrun : w.Running
  · -- The commit is carried out, and a status that was given is not changed.
    obtain ⟨hanswered, hstatus⟩ := Command.commit_answers horderly hrun hcommits
    have hstatus : after.db.coordinator.status session = .committed := hstatus
    have hstands : ∀ later, (after.play later).db.coordinator.status session = .committed := by
      intro later
      have hlt : session < after.db.coordinator.statuses.length :=
        Coordinator.lt_of_status_ne (hstatus ▸ nofun)
      have hclosed : after.db.coordinator.isOpen session = false := by
        rw [Coordinator.isOpen_eq_false_iff, hstatus]
        exact nofun
      rw [(horderly'.remembers_play later).resolved session hlt hclosed, hstatus]
    refine ⟨fun _ _ => hstands, fun error herror hnested hstore => ?_, fun _ _ _ => hstands⟩
    have herror : (command.run.perform w).1 = .error (.error error) := herror
    rw [herror] at hanswered
    obtain ⟨_, h⟩ | h | ⟨table, source, h⟩ | h := hanswered
    · cases h
    · cases h
      exact absurd rfl hnested
    · cases h
      exact absurd rfl (hstore table source)
    · cases h
  · -- The commit is refused, and no later one is carried out.
    obtain ⟨reason, hreason⟩ := Command.commit_refused horderly hrun hcommits
    have hopen := (w.db.coordinator.isOpen_iff session).mp hsession
    have hstopped : after.StoppedBefore session :=
      StoppedBefore.act ⟨hrun, hopen ▸ nofun⟩ (.call command)
    have hanswer : answer = .error (.error (.illegalState reason)) := hreason
    refine ⟨fun reply h => ?_, fun _ _ _ _ later => ⟨(hstopped.play later).2, ?_⟩,
      fun error h hdiverges => ?_⟩
    · rw [hanswer] at h
      cases h
    · rintro handle rfl
      have hlater := hstopped.play later
      obtain ⟨error, herror, -, hnot⟩ :=
        handle.commit_refused (horderly'.play later).sound hlater.1
      rw [herror]
      exact fun h => hnot hlater.2 (Fault.error.inj (Except.error.inj h))
    · rw [hanswer] at h
      cases h
      rcases hdiverges with h | ⟨_, _, h⟩ <;> cases h

/-- A database that halts in a merge refuses to commit the session that is
open then, and that session is not committed, whatever is tried later. -/
theorem commit_agrees_with_status_halted :
    let moves : List Move := [.call (.addTable "a" "left"), .call (.openSession false),
      .call (.write ⟨0, "a"⟩ [1] (.value [10])), .call .commit, .call (.openSession false),
      .setPlan "left" (some ⟨0, .error (.refused "full")⟩), .call .merge]
    let w := (opened .empty {} "journal" []).play moves
    let later : List Move := [.setPlan "left" none, .call .commit, .call .check]
    w.db.coordinator.isOpen 1 = true ∧
      (Command.commit.run.perform w).1 = .error (.error (.illegalState .halted)) ∧
      ((Move.act w (.call .commit)).play later).db.coordinator.status 1 ≠ .committed ∧
      ((Command.commitSession ⟨1, false, false⟩).run.perform
          ((Move.act w (.call .commit)).play later)).1 ≠
        .error (.error (.sessionMisuse .alreadyCommitted)) := by
  intro moves w later
  have hsession : w.db.coordinator.isOpen 1 = true := by decide +kernel
  have hcount : w.db.coordinator.statuses.length = 2 := by decide +kernel
  have hcommits : w.db.coordinator.Resolves .commit 1 .committed :=
    .commit 1 hsession fun other hother => by
      have hlt := Coordinator.lt_of_isOpen hother
      omega
  have hanswer : (Command.commit.run.perform w).1 = .error (.error (.illegalState .halted)) := by
    decide +kernel
  have hagrees := commit_agrees_with_status .empty {} "journal" [] moves .commit 1 hcommits
  dsimp only [w] at *
  obtain ⟨hstatus, hlater⟩ :=
    hagrees.2.1 (.illegalState .halted) hanswer nofun (fun _ _ => nofun) later
  exact ⟨hsession, hanswer, hstatus, hlater ⟨1, false, false⟩ rfl⟩

/-- A commit answers that the unit of work was poisoned and is revoked, and
its session stands as committed all the same: later it is said to be
committed already. So it is with a forced unit of work whose layer cannot
be written. -/
theorem failed_commit_stands :
    let poisoned := (opened .empty {} "journal" []).play
      [.call (.addTable "a" "left"), .call (.openSession false), .call (.openSession false),
        .call (.dropSession ⟨1, false, true⟩)]
    let forced := (opened .empty { enabled := false } "journal" []).play
      [.call (.addTable "a" "left"), .call (.openSession true),
        .setPlan "journal" (some ⟨0, .error (.refused "full")⟩)]
    let unwritten : Error := .ioFailure Operation.journalName (.refused "full")
    let answers := fun (w : World) error =>
      (Command.commit.run.perform w).1 = .error (.error error) ∧
        (Move.act w (.call .commit)).db.coordinator.status 0 = .committed ∧
        ((Command.commitSession ⟨0, false, false⟩).run.perform (Move.act w (.call .commit))).1 =
          .error (.error (.sessionMisuse .alreadyCommitted))
    poisoned.db.coordinator.isOpen 0 = true ∧ forced.db.coordinator.isOpen 0 = true ∧
      answers poisoned (.sessionMisuse .nestedSessionAbandoned) ∧ answers forced unwritten := by
  decide +kernel

end World

end LayeredStore

import LayeredStore.Proofs.Aftermath

/-!
# `LayeredStore.Proofs.Nesting`: how nested sessions are resolved

Sessions opened while a unit of work is open join it, and they can be
resolved in any order, each through its handle or, the newest first,
through the database.

* `Command.resolves`: the commands that resolve a session do what
  `Resolved` of `Aftermath.lean` says, and `Command.eq_of_stale`: a
  session that is not open is not resolved again.
* `World.RevokedAll`: all sessions are revoked at once.
* `World.Opened`: a session is opened, as the newest of its unit.
* `nested_sessions`: so it is after every run.
-/

set_option autoImplicit false

namespace LayeredStore

open World

/-! ### Commands that resolve a session -/

namespace Coordinator

/-- A command that resolves a session that is open, and how the session
stands after it. A commit of the database is one of the session opened
last. -/
inductive Resolves (c : Coordinator) : Command → Nat → SessionStatus → Prop
  | commitSession (session : Session) (h : c.isOpen session.id = true) :
      Resolves c (.commitSession session) session.id .committed
  | revokeSession (session : Session) (h : c.isOpen session.id = true) :
      Resolves c (.revokeSession session) session.id .revoked
  | dropSession (session : Session) (h : c.isOpen session.id = true) :
      Resolves c (.dropSession session) session.id .abandoned
  | commit (id : Nat) (h : c.isOpen id = true)
      (hnewest : ∀ other, c.isOpen other = true → other ≤ id) : Resolves c .commit id .committed

/-- A command that resolves a session that is not open, or the newest
where none is. -/
inductive Stale (c : Coordinator) : Command → Prop
  | commitSession (session : Session) (h : c.isOpen session.id = false) :
      Stale c (.commitSession session)
  | revokeSession (session : Session) (h : c.isOpen session.id = false) :
      Stale c (.revokeSession session)
  | dropSession (session : Session) (h : c.isOpen session.id = false) :
      Stale c (.dropSession session)
  | commit (h : ∀ session, c.isOpen session = false) : Stale c .commit

end Coordinator

namespace Session

open Operation

variable {w : World} {session : Session}

/-- Letting go of a session that is resolved does nothing. -/
theorem drop_of_closed (h : w.db.coordinator.isOpen session.id = false) :
    session.drop.Ends w fun r w' => r = .ok () ∧ w' = w := by
  apply drop_rule
  case closed => exact fun _ => ⟨rfl, rfl⟩
  all_goals
    intro hopen
    cases h.symm.trans hopen

/-- A handle that is used up by resolving its session leaves nothing to
be let go of. -/
theorem useUp_of_closed {body : Operation Unit} {Q : Except Fault Unit → World → Prop}
    (h : body.Ends w fun r w' => Q r w' ∧ w'.db.coordinator.isOpen session.id = false) :
    (session.useUp body).Ends w Q := by
  rw [ends_useUp]
  refine h.mono fun r w₁ hend => ?_
  refine (drop_of_closed hend.2).mono fun later w' hdrop => ?_
  obtain ⟨rfl, rfl⟩ := hdrop
  cases r <;> exact hend.1

end Session

namespace Operation

variable {w : World}

/-- Where no store is set to fail, resolving a session under the lock
leads to its resolution. -/
theorem locked_resolves {body : Operation Unit} {session : Nat} {status : SessionStatus}
    (h : w.Orderly) (hrun : w.Running) (hhealthy : w.disk.Healthy)
    (hsession : w.db.coordinator.isOpen session = true) (hstatus : status ≠ .opened)
    (hbody : body.Ends w (w.Resolution session status)) :
    (locked body).Ends w fun r w' => w.Resolution session status r w' ∧
      w'.db.coordinator.isOpen session = false :=
  locked_of_ne_panic hrun.1 (hbody.mono fun _ _ hend =>
    ⟨hend.ne_panic h hhealthy, hend, hend.isOpen_eq_false h hsession hstatus⟩)

end Operation

/-- Letting go of a session that is open resolves it. -/
theorem Session.drop_resolves {w : World} {session : Session} (h : w.Orderly) (hrun : w.Running)
    (hhealthy : w.disk.Healthy) (hsession : w.db.coordinator.isOpen session.id = true) :
    session.drop.Ends w (w.Resolution session.id .abandoned) := by
  have hsay : (w.say .sessionAbandoned).Orderly := h.congr (.refl _) rfl
  apply Session.drop_rule
  case closed =>
    intro hclosed
    cases hclosed.symm.trans hsession
  case lockedOut =>
    intro _ hpoisoned
    cases hpoisoned.symm.trans hrun.1
  case abandoned =>
    intro _ _
    have habandoned : SessionStatus.abandoned ≠ .opened := nofun
    have hbody := Operation.locked_resolves (w := w.say .sessionAbandoned) hsay hrun hhealthy
      hsession habandoned (Operation.abandonSession_resolves hsay hsession nofun)
    refine hbody.mono fun r w' hend => ?_
    obtain rfl := hend.1.eq_ok hsay hsession nofun
    exact hend.1.of_say

namespace Coordinator

/-- The newest session of the open unit of work is the last in its list
that is open. -/
theorem Attended.innermost?_eq {c : Coordinator} (h : c.Attended) {session : Nat}
    (hopen : c.isOpen session = true)
    (hnewest : ∀ other, c.isOpen other = true → other ≤ session) :
    c.innermost? = some session := by
  obtain ⟨unit, hunit, hmem⟩ := h.owned session hopen
  obtain ⟨older, newer, hsessions⟩ := List.append_of_mem hmem
  have hascending := h.ascending unit hunit
  rw [hsessions, List.pairwise_append, List.pairwise_cons] at hascending
  unfold innermost?
  rw [hunit]
  show unit.sessions.reverse.find? c.isOpen = some session
  rw [hsessions, List.reverse_append, List.reverse_cons, List.append_assoc, List.find?_append]
  have hnone : newer.reverse.find? c.isOpen = none := by
    rw [List.find?_eq_none]
    intro other hother hopen'
    have hlt := hascending.2.1.1 other (List.mem_reverse.mp hother)
    exact absurd (hnewest other hopen') (Nat.not_le_of_lt hlt)
  rw [hnone, Option.none_or, List.singleton_append, List.find?_cons_of_pos hopen]

end Coordinator

/-- A command that resolves a session does what `Resolved` says. -/
theorem Command.resolves {w : World} (h : w.Orderly) (hrun : w.Running) (hhealthy : w.disk.Healthy)
    {unit : UnitOfWork} (hunit : w.db.coordinator.openUnit = some unit) {command : Command}
    {session : Nat} {status : SessionStatus}
    (hresolves : w.db.coordinator.Resolves command session status) :
    command.run.Ends w fun r w' => w.Resolved unit session status (r.map fun _ => ()) w' := by
  -- The command answers nothing but that the session was resolved.
  have hanswer : ∀ {body : Operation Unit}, w.db.coordinator.isOpen session = true →
      status ≠ .opened → body.Ends w (w.Resolution session status) →
      (do body; return .done : Operation Reply).Ends w fun r w' =>
        w.Resolved unit session status (r.map fun _ => ()) w' := by
    intro body hsession hstatus hbody
    refine (Operation.ends_map w body (fun _ => Reply.done) _).mpr (hbody.mono fun r w' hend => ?_)
    have hresolved := hend.resolved h hhealthy hunit hsession hstatus
    cases r <;> exact hresolved
  cases hresolves with
  | commitSession session hsession =>
    exact hanswer hsession nofun (Session.useUp_of_closed (Operation.locked_resolves h hrun hhealthy
      hsession nofun (Operation.commitSession_resolves h hrun hsession)))
  | revokeSession session hsession =>
    exact hanswer hsession nofun (Session.useUp_of_closed (Operation.locked_resolves h hrun hhealthy
      hsession nofun (Operation.abandonSession_resolves h hsession nofun)))
  | dropSession session hsession =>
    exact hanswer hsession nofun (Session.drop_resolves h hrun hhealthy hsession)
  | commit id hsession hnewest =>
    have hcommitted : SessionStatus.committed ≠ .opened := nofun
    refine hanswer hsession hcommitted ?_
    have hbody : Operation.commitInnermost.Ends w (w.Resolution session .committed) := by
      rw [Operation.ends_commitInnermost, h.attended.innermost?_eq hsession hnewest]
      exact Operation.commitSession_resolves h hrun hsession
    exact (Operation.locked_resolves h hrun hhealthy hsession hcommitted hbody).mono
      fun _ _ hend => hend.1

/-- A session that is not open is not resolved again: the world stays as
it is. -/
theorem Command.eq_of_stale {w : World} {command : Command} (h : w.db.coordinator.Stale command) :
    command.run.Ends w fun _ w' => w' = w := by
  -- Without a panic the lock adds nothing.
  have hlocked : ∀ {body : Operation Unit}, (body.Ends w fun r w' => r ≠ .error .panic ∧ w' = w) →
      (Operation.locked body).Ends w fun _ w' => w' = w := by
    intro body hbody
    cases hpoisoned : w.db.poisoned with
    | true =>
      rw [Operation.ends_locked, if_pos hpoisoned]
    | false => exact Operation.locked_of_ne_panic hpoisoned hbody
  cases h with
  | commitSession session hclosed =>
    refine Operation.Ends.done (Session.useUp_of_closed
      (Operation.Ends.mono (hlocked ?_) fun _ _ heq => ⟨heq, heq ▸ hclosed⟩))
    apply Operation.commitSession_rule
    case committed => exact fun _ => ⟨nofun, rfl⟩
    case failed => exact fun _ => ⟨nofun, rfl⟩
    case refused => exact fun _ _ _ => ⟨nofun, rfl⟩
    case stray => exact fun _ _ _ => ⟨nofun, rfl⟩
    case resolved =>
      intro _ hopen
      cases hclosed.symm.trans hopen
  | revokeSession session hclosed =>
    refine Operation.Ends.done (Session.useUp_of_closed
      (Operation.Ends.mono (hlocked ?_) fun _ _ heq => ⟨heq, heq ▸ hclosed⟩))
    apply Operation.abandonSession_rule
    case closed => exact fun _ => ⟨nofun, rfl⟩
    case stray =>
      intro hopen
      cases hclosed.symm.trans hopen
    case resolved =>
      intro _ _ hopen
      cases hclosed.symm.trans hopen
  | dropSession session hclosed =>
    exact Operation.Ends.done ((Session.drop_of_closed hclosed).mono fun _ _ hend => hend.2)
  | commit hnone =>
    refine Operation.Ends.done (hlocked ?_)
    have hinnermost : w.db.coordinator.innermost? = none := by
      unfold Coordinator.innermost?
      cases hunit : w.db.coordinator.openUnit with
      | none => rfl
      | some unit => exact List.find?_eq_none.mpr fun other _ => by simp [hnone other]
    rw [Operation.ends_commitInnermost, hinnermost]
    exact ⟨nofun, rfl⟩

/-! ### Revoking all sessions at once -/

namespace World

section
variable {w w' w'' : World} {unit : UnitOfWork}

/-- Every session that was open is revoked, and no unit of work is open
any more. -/
structure RevokedAll (w w' : World) : Prop where
  revoked : ∀ session, w.db.coordinator.isOpen session = true →
    w'.db.coordinator.status session = .revoked
  closed : w'.db.coordinator.openUnit = none

/-- Discarding the open unit of work revokes every session that is
open. -/
theorem Lost.revokedAll (h : w.Lost unit (w.db.coordinator.resolveOpen unit .revoked).statuses w')
    (horderly : w.Orderly) (hunit : w.db.coordinator.openUnit = some unit) : RevokedAll w w' where
  revoked session hopen := by
    rw [Coordinator.status_congr (h.coordinator.modes.statuses.trans (Coordinator.statuses_lose _))]
    rw [Coordinator.status_resolveOpen,
      if_pos ⟨horderly.attended.mem_of_isOpen hunit hopen, hopen⟩]
  closed := h.coordinator.modes.openUnit.trans (Coordinator.openUnit_lose _)

/-- Where no unit of work is open, no session is. -/
theorem RevokedAll.of_closed (horderly : w.Orderly) (hunit : w.db.coordinator.openUnit = none)
    (hunit' : w'.db.coordinator.openUnit = none) : RevokedAll w w' where
  revoked session hopen := by
    rw [horderly.attended.not_isOpen hunit] at hopen
    cases hopen
  closed := hunit'

/-- Moves that open no session leave it at that. -/
theorem RevokedAll.steps {move : Move} (h : RevokedAll w w') (horderly : w'.Orderly)
    (hopens : move.opens = false) (hpath : Steps move w' w'') : RevokedAll w w'' where
  revoked session hopen := by
    have hrevoked := h.revoked session hopen
    have hlt : session < w'.db.coordinator.statuses.length :=
      Coordinator.lt_of_status_ne (hrevoked ▸ nofun)
    have hclosed : w'.db.coordinator.isOpen session = false := by
      rw [Coordinator.isOpen_eq_false_iff, hrevoked]
      decide
    rw [(hpath.remembers horderly).resolved session hlt hclosed, hrevoked]
  closed := by
    cases hunit : w''.db.coordinator.openUnit with
    | none => rfl
    | some unit =>
      obtain ⟨_, hsome, -⟩ := hpath.sameUnit hopens unit hunit
      rw [h.closed] at hsome
      cases hsome

end

end World

namespace Operation

variable {w : World}

/-- Revoking discards the unit of work that is open. -/
theorem revoke_lost (h : w.Orderly) (hrun : w.Running) {unit : UnitOfWork}
    (hunit : w.db.coordinator.openUnit = some unit) :
    revoke.Ends w fun r w' => r = .ok () ∧
      w.Lost unit (w.db.coordinator.resolveOpen unit .revoked).statuses w' := by
  have hlost := revokeUnit_lost h.sound hunit
  -- The unit has no layer in a disabled database, and owns the newest level of
  -- an enabled one. So of the cases of the rule only its own is left.
  apply revoke_rule
  case refused =>
    intro error herror
    have hstopped := Coordinator.stopped?_eq_none hrun.2 (h.moded.shutDown_eq_false hunit)
    cases hstopped.symm.trans herror
  case counted =>
    intro _ _ hnone
    cases hunit.symm.trans hnone
  case empty =>
    intro _ henabled hempty
    obtain ⟨_, _, _, hdepth⟩ := h.owns_newest hunit henabled
    exact absurd hempty (Nat.ne_of_gt hdepth)
  case unit => exact fun _ _ _ _ => hlost
  case level =>
    intro _ henabled _ hnewest
    obtain ⟨seq, hseq, hlast, -⟩ := h.owns_newest hunit henabled
    exact absurd (hseq.trans hlast.symm) (hnewest unit hunit)

/-- Stopping revokes every session that is open, also where it fails. -/
theorem stop_revokes (h : w.Orderly) (hpoisoned : w.db.poisoned = false) :
    stop.Ends w (Led RevokedAll w) := by
  -- What follows the revoke step opens no session.
  have hrest : ∀ w₁, RevokedAll w w₁ → w₁.Orderly → w₁.db.poisoned = false →
      flushLeft.Ends w₁ (Led RevokedAll w) := by
    intro w₁ hrevoked horderly hpoisoned
    have hpath : flushLeft.Ends w₁ (Led (Steps .close) w₁) :=
      flushLeft_steps horderly hpoisoned hrevoked.closed
    exact hpath.mono fun r w' hend => hend.after fun _ => hrevoked.steps horderly rfl
  apply stop_rule
  case stopped =>
    exact fun hshut => RevokedAll.of_closed h (h.moded.stopped hshut) (h.moded.stopped hshut)
  case revoked =>
    intro unit _ hunit
    have hlost : revokeLeft.Ends w fun _ w' => RevokedAll w w' := by
      rw [ends_revokeLeft]
      have hsay : (w.say .shuttingDownWithSession).Orderly := h.congr (.refl _) rfl
      refine (revokeUnit_lost hsay.sound hunit).mono fun r w' hend => ?_
      obtain ⟨rfl, hlost⟩ := hend
      have hrevoked := hlost.revokedAll hsay hunit
      exact ⟨hrevoked.revoked, hrevoked.closed⟩
    have hdiscards : revokeLeft.Ends w (Discards .close w) := revokeLeft_steps h hpoisoned rfl
    refine (hdiscards.and hlost).mono fun r w₁ hend => ?_
    obtain ⟨⟨rfl, hpath, -, hpoisoned₁⟩, hrevoked⟩ := hend
    exact hrest w₁ hrevoked (hpath.orderly h) hpoisoned₁
  case flushed => exact fun _ hunit => hrest w (.of_closed h hunit hunit) h hpoisoned

end Operation

namespace Database

open Operation

variable {w : World}

/-- So does shutting down. -/
theorem shutdown_revokes (h : w.Orderly) (hpoisoned : w.db.poisoned = false) :
    shutdown.Ends w fun _ w' => RevokedAll w w' := by
  have hpath : (locked stop).Ends w fun _ w' => Steps .close w w' :=
    locked_steps fun hpoisoned => stop_steps h hpoisoned rfl
  have hstop : (locked stop).Ends w fun _ w' => RevokedAll w w' := by
    rw [ends_locked, if_neg (by simp [hpoisoned])]
    refine (stop_revokes h hpoisoned).mono fun r w' hend => ?_
    match r, hend with
    | .ok (), hend => exact hend
    | .error (.error error), hend => exact hend
    | .error .panic, hend => exact hend
  apply shutdown_rule
  case lockedOut =>
    intro hlocked
    cases hlocked.symm.trans hpoisoned
  case stopped =>
    intro _
    refine (hpath.and hstop).mono fun r w₁ hend => ?_
    obtain ⟨hpath, hrevoked⟩ := hend
    have hstop : Steps .close w₁ w₁.withoutBus := withoutBus_steps w₁
    have hbus : RevokedAll w w₁.withoutBus := hrevoked.steps (Steps.orderly hpath h) rfl hstop
    match r with
    | .ok () => exact hbus
    | .error (.error error) => exact hbus
    | .error .panic => exact hrevoked

/-- And so does letting go of the database. -/
theorem drop_revokes (h : w.Orderly) (hpoisoned : w.db.poisoned = false) :
    drop.Ends w fun _ w' => RevokedAll w w' := by
  rw [ends_drop]
  refine (shutdown_revokes h hpoisoned).mono fun r w' hend => ?_
  match r with
  | .ok () => exact hend
  | .error (.error error) => exact ⟨hend.revoked, hend.closed⟩
  | .error .panic => exact hend

end Database

/-! ### Opening sessions -/

namespace World

/-- A session was opened: it is the newest, and it was added to the unit
of work that was open, or opened one. -/
structure Opened (w : World) (session : Session) (w' : World) : Prop where
  id : session.id = w.db.coordinator.statuses.length
  statuses : w'.db.coordinator.statuses = w.db.coordinator.statuses ++ [.opened]
  unit : ∃ unit', w'.db.coordinator.openUnit = some unit' ∧ unit'.sessions =
    (w.db.coordinator.openUnit.elim [] (·.sessions)) ++ [session.id]
  /-- A session that joins a unit of work moves nothing. -/
  nested : ∀ unit, w.db.coordinator.openUnit = some unit →
    session.nested = true ∧ session.passThrough = unit.seq.isNone ∧
    w'.db.coordinator.openUnit = some { unit with sessions := unit.sessions ++ [session.id] } ∧
    w.db.coordinator.SameStacks w'.db.coordinator ∧ w'.disk = w.disk

end World

namespace Operation

variable {w : World}

theorem solidify_sameModes (hnames : w.db.coordinator.tableNames.Nodup) (count : Nat) :
    (solidify count).Ends w fun _ w' => w.db.coordinator.SameModes w'.db.coordinator := by
  apply solidify_rule
  rintro w₁ rfl
  have hpending : w.db.coordinator.SameModes (w.db.coordinator.solidify count).bump :=
    ⟨rfl, rfl, rfl, rfl, rfl, id⟩
  have hsolid := hpending.trans (Coordinator.sameModes_clampCursor _)
  have hregistered : (w.db.coordinator.solidify count).bump.registered =
      w.db.coordinator.registered := Coordinator.registered_mapTables _ fun _ => ⟨rfl, rfl⟩
  refine ⟨fun _ => hsolid, fun _ => ?_⟩
  refine (flushOldest_ends _ ?_ _).mono fun r w' hend => hsolid.trans hend.sameModes
  show (Coordinator.tableNames (Coordinator.clampCursor _)).Nodup
  rw [Coordinator.tableNames_eq] at hnames ⊢
  rw [(Coordinator.sameStacks_clampCursor _).registered, hregistered]
  exact hnames

theorem makeRoom_sameModes (hnames : w.db.coordinator.tableNames.Nodup) :
    makeRoom.Ends w fun _ w' => w.db.coordinator.SameModes w'.db.coordinator :=
  makeRoom_rule (fun _ => .refl _) fun _ => solidify_sameModes hnames _

/-- Pushing a layer does not touch sessions and modes. -/
theorem advance_sameModes (hnames : w.db.coordinator.tableNames.Nodup) :
    advance.Ends w fun _ w' => w.db.coordinator.SameModes w'.db.coordinator := by
  have hpush : ∀ w₁, w.db.coordinator.SameModes w₁.db.coordinator →
      pushLevel.Ends w₁ fun _ w' => w.db.coordinator.SameModes w'.db.coordinator := by
    intro w₁ hmodes
    rw [ends_pushLevel_cases]
    cases w₁.db.coordinator.outOfStep? with
    | some chain => exact hmodes.trans ⟨rfl, rfl, rfl, rfl, rfl, id⟩
    | none =>
      have hpushed : w₁.db.coordinator.SameModes w₁.db.coordinator.push.bump :=
        ⟨rfl, rfl, rfl, rfl, rfl, id⟩
      exact (hmodes.trans hpushed).trans (Coordinator.sameModes_announce _ _)
  rw [ends_advance]
  refine (makeRoom_sameModes hnames).mono fun r w₁ hend => ?_
  cases r with
  | ok => exact hpush w₁ hend
  | error fault => exact hend

/-- How opening a session ends: it is refused; it joins the unit of work
that is open; it opens one without a layer, or one with a layer that was
pushed once the database was enabled; or the layer cannot be pushed, and
no unit of work is open. -/
inductive SessionEnd (w : World) (force : Bool) : Except Fault Session → World → Prop
  | refused (error : Error) : SessionEnd w force (.error (.error error)) w
  | joined (unit : UnitOfWork) (notice : Notice) (hunit : w.db.coordinator.openUnit = some unit) :
      SessionEnd w force (.ok ⟨w.db.coordinator.statuses.length, unit.seq.isNone, true⟩)
        ((w.withCoordinator (w.db.coordinator.joinUnit unit)).say notice)
  | passThrough (hrun : w.Running) (hunit : w.db.coordinator.openUnit = none)
      (hdisabled : w.db.coordinator.enabled = false) (hforce : force = false) :
      SessionEnd w force (.ok ⟨w.db.coordinator.statuses.length, true, false⟩)
        (w.withCoordinator (w.db.coordinator.openNewUnit none))
  | layered (seq : Nat) (w₁ : World) (hrun : w.Running) (hunit : w.db.coordinator.openUnit = none)
      (henabled : w.db.coordinator.enabled = true ∨ force = true)
      (hmodes : w.db.coordinator.force.SameModes w₁.db.coordinator) :
      SessionEnd w force (.ok ⟨w.db.coordinator.statuses.length, false, false⟩)
        (w₁.withCoordinator (w₁.db.coordinator.openNewUnit (some seq)))
  | failed (fault : Fault) (w' : World) (hunit' : w'.db.coordinator.openUnit = none) :
      SessionEnd w force (.error fault) w'

theorem openSession_ends (h : w.Orderly) (hpoisoned : w.db.poisoned = false) (force : Bool) :
    (openSession force).Ends w (SessionEnd w force) := by
  apply openSession_rule
  case refused => exact fun _ _ => .refused _
  case joined => exact fun unit _ hunit => .joined unit _ hunit
  case passed =>
    exact fun hstopped => .passThrough ⟨hpoisoned, Coordinator.halted_of_stopped?_eq_none hstopped⟩
  case pushed =>
    intro hstopped hunit hopens
    have hrun : w.Running := ⟨hpoisoned, Coordinator.halted_of_stopped?_eq_none hstopped⟩
    refine (advance_sameModes (w := w.withCoordinator w.db.coordinator.force) h.sound.names).mono
      fun r w₁ hmodes => ?_
    have hunit₁ : w₁.db.coordinator.openUnit = none := hmodes.openUnit.trans hunit
    match r with
    | .ok seq => exact .layered seq w₁ hrun hunit hopens hmodes
    | .error .panic => exact .failed _ w₁ hunit₁
    | .error (.error _) =>
      refine .failed _ _ ?_
      split
      · exact hunit₁
      · exact hunit₁

/-- A session that is opened is the newest, and open. -/
theorem SessionEnd.opened {force : Bool} {session : Session} {w' : World}
    (h : SessionEnd w force (.ok session) w') : w.Opened session w' := by
  -- A unit of work is opened over the sessions there are.
  have hnew : ∀ (seq : Option Nat) (passThrough : Bool) (w₁ : World),
      w.db.coordinator.openUnit = none →
      w₁.db.coordinator.statuses = w.db.coordinator.statuses →
      w.Opened ⟨w.db.coordinator.statuses.length, passThrough, false⟩
        (w₁.withCoordinator (w₁.db.coordinator.openNewUnit seq)) := by
    intro seq passThrough w₁ hunit hstatuses
    refine ⟨rfl, congrArg (· ++ [SessionStatus.opened]) hstatuses, ⟨_, rfl, ?_⟩, fun unit h =>
      absurd (hunit.symm.trans h) nofun⟩
    rw [hunit, hstatuses]
    rfl
  cases h with
  | joined unit notice hunit =>
    refine ⟨rfl, rfl, ⟨_, rfl, ?_⟩, fun other hother => ?_⟩
    · rw [hunit]
      rfl
    · obtain rfl : unit = other := Option.some.inj (hunit.symm.trans hother)
      exact ⟨rfl, rfl, rfl, Coordinator.sameStacks_joinUnit hunit, rfl⟩
  | passThrough _ hunit => exact hnew none true w hunit rfl
  | layered seq w₁ _ hunit _ hmodes => exact hnew (some seq) false w₁ hunit hmodes.statuses

end Operation

/-- A database opens the sessions that the coordinator does. A panic
poisons the lock. -/
theorem Command.openSession_ends {w : World} (h : w.Orderly) (force : Bool) :
    (Command.openSession force).run.Ends w fun r w' => ∃ r₁ w₁, Operation.SessionEnd w force r₁ w₁ ∧
      r = r₁.map Reply.session ∧ w'.db.coordinator = w₁.db.coordinator ∧
      (∀ session, r₁ = .ok session → w' = w₁) := by
  show (do return .session (← Database.openSession force) : Operation Reply).Ends w _
  rw [Operation.ends_bind]
  unfold Database.openSession
  rw [Operation.ends_locked]
  cases hpoisoned : w.db.poisoned with
  | true => exact ⟨_, w, .refused _, rfl, rfl, nofun⟩
  | false =>
    rw [if_neg Bool.false_ne_true]
    refine (Operation.openSession_ends h hpoisoned force).mono fun r w' hend => ?_
    match r, hend with
    | .ok session, hend => exact ⟨_, w', hend, rfl, rfl, fun _ _ => rfl⟩
    | .error (.error _), hend => exact ⟨_, w', hend, rfl, rfl, nofun⟩
    | .error .panic, hend => exact ⟨_, w', hend, rfl, rfl, nofun⟩

/-- A session that a database opens is the newest, and open. -/
theorem Database.openSession_opened {w : World} (h : w.Orderly) (force : Bool) :
    (Command.openSession force).run.Ends w fun r w' =>
      ∀ session, r = .ok (.session session) → w.Opened session w' := by
  refine (Command.openSession_ends h force).mono fun r w' hend session hr => ?_
  obtain ⟨r₁, w₁, hopening, rfl, -, hsame⟩ := hend
  cases r₁ with
  | error fault => cases hr
  | ok opened =>
    cases hr
    rw [hsame session rfl]
    exact hopening.opened

/-- A database that runs can always discard the unit of work that is
open. -/
theorem Database.revoke_discards {w : World} (h : w.Orderly) (hrun : w.Running) {unit : UnitOfWork}
    (hunit : w.db.coordinator.openUnit = some unit) :
    Command.revoke.run.Ends w fun r w' =>
      r = .ok .done ∧ w.Discarded unit w' ∧ RevokedAll w w' := by
  show (do revoke; return .done : Operation Reply).Ends w _
  rw [Operation.ends_bind]
  unfold revoke
  refine Operation.locked_of_ne_panic hrun.1
    ((Operation.revoke_lost h hrun hunit).mono fun r w' hend => ?_)
  obtain ⟨rfl, hlost⟩ := hend
  exact ⟨nofun, rfl, hlost.discarded h hunit, hlost.revokedAll h hunit⟩

namespace World

/-- In every state that a run reaches, a session that is open belongs to
the open unit of work, and this unit has a session that is open. A
session that is opened is the newest of this unit. From here on, sessions
that are resolved stand as they do, and the unit stays open until none of
its sessions is (`Coordinator.Remembers`).

While the database runs and no store is set to fail, resolving one of the
sessions leaves the unit to the others that are open. If it was the last,
the unit's layer is committed on every table, and flushed if the unit was
forced and the record can be encoded, where all sessions of the unit were
committed; otherwise it is discarded on every table, and a commit says so
(`Resolved`). A session that is not open cannot be resolved again.
Revoking and shutting down revoke all sessions that are open. -/
theorem nested_sessions (disk : Disk) (configuration : Configuration) (journal : String)
    (handlers : List Handler) (moves : List Move) :
    let w := (opened disk configuration journal handlers).play moves
    let c := w.db.coordinator
    (∀ session, c.isOpen session = true → ∃ unit, c.openUnit = some unit ∧
      session ∈ unit.sessions) ∧
    (∀ unit, c.openUnit = some unit → ∃ session ∈ unit.sessions, c.isOpen session = true) ∧
    (∀ force session, ((Command.openSession force).run.perform w).1 = .ok (.session session) →
      w.Opened session ((Command.openSession force).run.perform w).2) ∧
    (∀ later, c.Remembers (w.play later).db.coordinator) ∧
    (w.Running → w.disk.Healthy → ∀ unit, c.openUnit = some unit → ∀ command session status,
      c.Resolves command session status →
      w.Resolved unit session status ((command.run.perform w).1.map fun _ => ())
        (command.run.perform w).2) ∧
    (∀ command, c.Stale command → (command.run.perform w).2 = w) ∧
    (w.Running → ∀ unit, c.openUnit = some unit →
      (Command.revoke.run.perform w).1 = .ok .done ∧
      w.Discarded unit (Command.revoke.run.perform w).2 ∧
      RevokedAll w (Command.revoke.run.perform w).2) ∧
    (w.db.poisoned = false →
      RevokedAll w (Command.shutdown.run.perform w).2 ∧ RevokedAll w (Move.close.act w)) := by
  intro w c
  have h : w.Orderly := play_orderly disk configuration journal handlers moves
  refine ⟨h.attended.owned, h.attended.awaited, fun force => Database.openSession_opened h force,
    fun later => h.remembers_play later, ?_, fun command hstale => Command.eq_of_stale hstale,
    ?_, ?_⟩
  · intro hrun hhealthy unit hunit command session status hresolves
    exact Command.resolves h hrun hhealthy hunit hresolves
  · intro hrun unit hunit
    exact Database.revoke_discards h hrun hunit
  · intro hpoisoned
    refine ⟨?_, Database.drop_revokes h hpoisoned⟩
    have hrevokes : Command.shutdown.run.Ends w fun _ w' => RevokedAll w w' :=
      Operation.Ends.done (Database.shutdown_revokes h hpoisoned)
    exact hrevokes

/-- Of two sessions of one unit the second is let go of, so the commit of
the first fails and the unit's layer is discarded. -/
theorem nested_sessions_abandoned :
    let w := (opened .empty {} "journal" []).play
      [.call (.addTable "a" "left"), .call (.openSession false), .call (.openSession false),
        .call (.write ⟨0, "a"⟩ [1] (.value [10])), .call (.dropSession ⟨1, false, true⟩)]
    let command : Command := .commitSession ⟨0, false, false⟩
    let unit : UnitOfWork := ⟨some 1, [0, 1], true⟩
    w.db.coordinator.openUnit = some unit ∧ w.db.coordinator.levels = [1] ∧
      (command.run.perform w).1.map (fun _ => ()) =
        .error (.error (.sessionMisuse .nestedSessionAbandoned)) ∧
      w.Discarded unit (command.run.perform w).2 := by
  intro w command unit
  have hnested := nested_sessions .empty {} "journal" []
    [.call (.addTable "a" "left"), .call (.openSession false), .call (.openSession false),
      .call (.write ⟨0, "a"⟩ [1] (.value [10])), .call (.dropSession ⟨1, false, true⟩)]
  have hrun : w.Running := ⟨by decide +kernel, by decide +kernel⟩
  have hhealthy : w.disk.Healthy := Disk.healthy_of_forall (by decide +kernel)
  have hunit : w.db.coordinator.openUnit = some unit := by decide +kernel
  have hstatuses : w.db.coordinator.statuses = [.opened, .abandoned] := by decide +kernel
  have hopen : w.db.coordinator.isOpen 0 = true := by decide +kernel
  have hlevels : w.db.coordinator.levels = [1] := by decide +kernel
  have hresolved := hnested.2.2.2.2.1 hrun hhealthy unit hunit command 0 .committed
    (.commitSession ⟨0, false, false⟩ hopen)
  -- Only the second session could still be open, and it was let go of.
  have hlast : ∀ other, other ≠ 0 → w.db.coordinator.isOpen other = false := by
    intro other hne
    rw [Coordinator.isOpen, Coordinator.status, hstatuses]
    obtain _ | _ | other := other
    · exact absurd rfl hne
    · rfl
    · rfl
  have habandoned : (command.run.perform w).2.db.coordinator.status 1 ≠ .committed := by
    rw [hresolved.statuses, if_neg Nat.one_ne_zero, Coordinator.status, hstatuses]
    decide
  have hend := hresolved.discarded hlast ⟨1, by decide, habandoned⟩
  exact ⟨hunit, hlevels, hend⟩

end World

end LayeredStore

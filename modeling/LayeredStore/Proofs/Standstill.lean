import LayeredStore.Proofs.Readers
import LayeredStore.Proofs.Resolution
import LayeredStore.Proofs.Upkeep

/-!
# `LayeredStore.Proofs.Standstill`: a database that has stopped

A database stops for good when a flush halts it or when it is shut down.
After a torn flush the journal holds the only record of how to complete
it, so nothing may be written from then on, whatever is called.

Most operations ask first whether the database runs. Those that do not
are the resolution of a session as failed, the check, the shutdown and
letting go of the database, and they come down to discarding the open
unit of work.

* `Coordinator.Stopped` says that the database has stopped, and
  `World.Rests` what may still happen to it: no write is attempted, and
  the chains stay as they are or lose the layer of the open unit of work.
* `rests_upkeep`, `play_rests`: so it is with every operation and every
  run.
* `stopped_writes_nothing`: what this says to readers, as `World.Stands`
  puts it.
-/

set_option autoImplicit false

namespace LayeredStore

/-- The database has halted, or it was shut down. -/
def Coordinator.Stopped (c : Coordinator) : Prop := c.halted = true ∨ c.shutDown = true

theorem Coordinator.Stopped.exists_stopped? {c : Coordinator} (h : c.Stopped) :
    ∃ error, c.stopped? = some error := by
  unfold stopped?
  split
  · exact ⟨.halted, rfl⟩
  · rename_i hhalted
    exact ⟨.shutDown, if_pos (h.resolve_left hhalted)⟩

theorem Coordinator.Stopped.of_stopped? {c : Coordinator} {error : StateError}
    (h : c.stopped? = some error) : c.Stopped := by
  unfold stopped? at h
  split at h
  · exact .inl ‹_›
  split at h
  · exact .inr ‹_›
  · cases h

namespace World

/-- No write was attempted and no store has changed. What had stopped is
still stopped. The chains are as they were, or the layer of the open unit
of work was discarded from them. -/
structure Rests (w w' : World) : Prop where
  attempts : w'.disk.attempts = w.disk.attempts
  contents : ∀ store, w'.disk.contents store = w.disk.contents store
  halted : w.db.coordinator.halted = true → w'.db.coordinator.halted = true
  shutDown : w.db.coordinator.shutDown = true → w'.db.coordinator.shutDown = true
  chains : w.db.coordinator.SameStacks w'.db.coordinator ∨
    w.db.coordinator.openSeq?.isSome ∧
      w.db.coordinator.withoutUnit.discardHead.SameStacks w'.db.coordinator

section
variable {w w' w'' : World} {unit : UnitOfWork}

/-- A change of what neither the chains nor the stores depend on. -/
theorem Rests.of_same (hdisk : w'.disk = w.disk)
    (hsame : w.db.coordinator.SameStacks w'.db.coordinator)
    (hhalted : w.db.coordinator.halted = true → w'.db.coordinator.halted = true)
    (hshutDown : w.db.coordinator.shutDown = true → w'.db.coordinator.shutDown = true) :
    w.Rests w' where
  attempts := congrArg Disk.attempts hdisk
  contents _ := by rw [hdisk]
  halted := hhalted
  shutDown := hshutDown
  chains := .inl hsame

theorem Rests.refl (w : World) : w.Rests w := .of_same rfl (.refl _) id id

theorem Rests.trans (h : w.Rests w') (h' : w'.Rests w'') : w.Rests w'' where
  attempts := h'.attempts.trans h.attempts
  contents store := (h'.contents store).trans (h.contents store)
  halted hhalted := h'.halted (h.halted hhalted)
  shutDown hshutDown := h'.shutDown (h.shutDown hshutDown)
  chains := by
    rcases h.chains, h'.chains with ⟨hsame | ⟨hopen, hsame⟩, hsame' | ⟨hopen', hsame'⟩⟩
    · exact .inl (hsame.trans hsame')
    · refine .inr ⟨hsame.openSeq? ▸ hopen', ?_⟩
      have hclosed : w.db.coordinator.withoutUnit.SameStacks w'.db.coordinator.withoutUnit :=
        ⟨hsame.tables, hsame.journal, hsame.levels, hsame.pending, hsame.nextSeq, rfl⟩
      exact hclosed.discardHead.trans hsame'
    · exact .inr ⟨hopen, hsame.trans hsame'⟩
    · -- There is no second layer to discard, for no unit of work is open any more.
      rw [hsame.openSeq?] at hopen'
      cases hopen'

/-- A panic changes nothing but the lock. -/
theorem Rests.poison (h : w.Rests w') : w.Rests w'.poison :=
  ⟨h.attempts, h.contents, h.halted, h.shutDown, h.chains⟩

theorem Rests.say (h : w.Rests w') (notice : Notice) : w.Rests (w'.say notice) :=
  ⟨h.attempts, h.contents, h.halted, h.shutDown, h.chains⟩

theorem Rests.stopped (h : w.Rests w') (hstopped : w.db.coordinator.Stopped) :
    w'.db.coordinator.Stopped :=
  hstopped.imp h.halted h.shutDown

theorem Rests.sound (h : w.Rests w') (hsound : w.db.coordinator.Sound) :
    w'.db.coordinator.Sound := by
  rcases h.chains with hsame | ⟨hopen, hsame⟩
  · exact hsound.congr hsame
  · exact (hsound.discardHead (hsound.openLive hopen)).congr hsame

/-- A unit of work that was discarded has lost its layer, if it had
one. -/
theorem Lost.rests {statuses : List SessionStatus} (h : w.Lost unit statuses w')
    (hunit : w.db.coordinator.openUnit = some unit) : w.Rests w' := by
  obtain ⟨-, -, hshutDown, hhalted, -⟩ : (w.db.coordinator.lose unit statuses).enabled = _ ∧ _ :=
    Coordinator.modes_lose statuses
  refine ⟨congrArg Disk.attempts h.disk, fun _ => by rw [h.disk],
    (h.coordinator.halted.trans hhalted).trans,
    (h.coordinator.modes.shutDown.trans hshutDown).trans, ?_⟩
  cases hseq : unit.seq with
  | none =>
    exact .inl ((Coordinator.sameStacks_lose_of_none statuses hunit hseq).trans
      h.coordinator.layers)
  | some seq =>
    refine .inr ⟨?_, (Coordinator.sameStacks_lose_of_some statuses hseq).trans h.coordinator.layers⟩
    rw [Coordinator.openSeq?_of_some hunit, hseq]
    rfl

end

end World

open World

namespace Operation

variable {α : Type} {w : World}

/-! ### Operations -/

/-- An operation that asks first whether the database runs does
nothing. -/
theorem ensureRunning_rests (hstopped : w.db.coordinator.Stopped) (next : Unit → Operation α) :
    (ensureRunning >>= next).Ends w fun _ w' => w.Rests w' := by
  obtain ⟨error, herror⟩ := hstopped.exists_stopped?
  rw [ends_bind, ends_ensureRunning, herror]
  exact .refl w

/-- Discarding the open unit of work takes its layer away, and nothing
else. -/
theorem revokeUnit_rests (hsound : w.db.coordinator.Sound) :
    revokeUnit.Ends w fun r w' => r = .ok () ∧ w.Rests w' := by
  cases hunit : w.db.coordinator.openUnit with
  | none =>
    apply revokeUnit_rule
    case idle => exact fun _ => ⟨rfl, .refl w⟩
    case closed =>
      intro _ _ hsome
      cases hunit.symm.trans hsome
  | some unit =>
    refine (revokeUnit_lost hsound hunit).mono fun r w' hend => ?_
    obtain ⟨rfl, hlost⟩ := hend
    exact ⟨rfl, hlost.rests hunit⟩

/-- Resolving a session as failed does not ask whether the database
runs. -/
theorem abandonSession_rests (hsound : w.db.coordinator.Sound) (session : Nat)
    (status : SessionStatus) :
    (abandonSession session status).Ends w fun _ w' => w.Rests w' := by
  apply abandonSession_rule
  case closed => exact fun _ => .refl w
  case stray =>
    exact fun _ _ => .of_same rfl (w.db.coordinator.sameStacks_setStatus session status) id id
  case resolved =>
    intro unit c _ hunit _ hc
    -- The unit of work is poisoned, and discarded after its last session.
    have hpoisoned : w.Rests (w.withCoordinator c) := by
      subst hc
      exact .of_same rfl ⟨rfl, rfl, rfl, rfl, rfl, (Coordinator.openSeq?_of_some hunit).symm⟩ id id
    exact ⟨fun _ => hpoisoned.say _, fun _ =>
      (revokeUnit_rests (hpoisoned.sound hsound)).mono fun _ _ hend => hpoisoned.trans hend.2⟩

/-- A session cannot be committed. -/
theorem commitSession_rests (hstopped : w.db.coordinator.Stopped) (session : Nat) :
    (commitSession session).Ends w fun _ w' => w.Rests w' := by
  obtain ⟨error, herror⟩ := hstopped.exists_stopped?
  apply commitSession_rule
  case committed => exact fun _ => .refl w
  case failed => exact fun _ => .refl w
  case refused => exact fun _ _ _ => .refl w
  case stray => exact fun _ _ _ => .refl w
  case resolved =>
    intro _ _ hrun
    cases herror.symm.trans hrun

/-- A check does not look into the journal. -/
theorem check_rests (hstopped : w.db.coordinator.Stopped) :
    check.Ends w fun _ w' => w.Rests w' := by
  rw [ends_check, ends_recoverRunning_of_stopped hstopped]
  dsimp only
  split <;> exact .refl w

/-- Of a database that has halted, nothing is flushed when it is shut
down. -/
theorem flushLeft_rests (hhalted : w.db.coordinator.halted = true) :
    flushLeft.Ends w fun _ w' => w.Rests w' := by
  rw [ends_flushLeft_of_halted hhalted]
  exact .of_same rfl ⟨rfl, rfl, rfl, rfl, rfl, rfl⟩ (fun _ => hhalted) fun _ => rfl

theorem stop_rests (hsound : w.db.coordinator.Sound) (hstopped : w.db.coordinator.Stopped) :
    stop.Ends w fun _ w' => w.Rests w' := by
  have hhalted : w.db.coordinator.shutDown = false → w.db.coordinator.halted = true :=
    fun hshutDown => hstopped.resolve_right (ne_true_of_eq_false hshutDown)
  apply stop_rule
  case stopped => exact fun _ => .refl w
  case revoked =>
    -- The open unit of work is discarded first.
    intro unit hshutDown _
    have hsay : w.Rests (w.say .shuttingDownWithSession) := (Rests.refl w).say _
    rw [ends_revokeLeft]
    refine (revokeUnit_rests (hsay.sound hsound)).mono fun r w₁ hend => ?_
    obtain ⟨rfl, hrests⟩ := hend
    have hrests := hsay.trans hrests
    exact (flushLeft_rests (hrests.halted (hhalted hshutDown))).mono fun _ _ => hrests.trans
  case flushed => exact fun hshutDown _ => flushLeft_rests (hhalted hshutDown)

/-- Such operations keep to what has become of a database that stopped
before. -/
theorem upholds_rests {body : Operation α} (hsound : w.db.coordinator.Sound)
    (hstopped : w.db.coordinator.Stopped)
    (hbody : ∀ w₁ : World, w₁.db.coordinator.Sound → w₁.db.coordinator.Stopped →
      body.Ends w₁ fun _ w' => w₁.Rests w') : Upholds w.Rests body := by
  intro w₁ hrests _
  refine (hbody w₁ (hrests.sound hsound) (hrests.stopped hstopped)).mono fun r w' hend => ?_
  match r with
  | .ok _ => exact hrests.trans hend
  | .error (.error _) => exact hrests.trans hend
  | .error .panic => exact (hrests.trans hend).poison

theorem upholds_rests_ensureRunning (hsound : w.db.coordinator.Sound)
    (hstopped : w.db.coordinator.Stopped) (next : Unit → Operation α) :
    Upholds w.Rests (ensureRunning >>= next) :=
  upholds_rests hsound hstopped fun _ _ hstopped => ensureRunning_rests hstopped next

end Operation

namespace World

open Operation

/-- Whatever is called, a database that has stopped stays at rest. -/
theorem rests_upkeep {w : World} (hsound : w.db.coordinator.Sound)
    (hstopped : w.db.coordinator.Stopped) : Upkeep w.Rests where
  say notice h := h.say notice
  bus h := ⟨h.attempts, h.contents, h.halted, h.shutDown, h.chains⟩
  setPlan _ _ h :=
    ⟨h.attempts, fun other => (Disk.contents_setPlan _ _ _ other).trans (h.contents other),
      h.halted, h.shutDown, h.chains⟩
  addTable _ _ := upholds_rests_ensureRunning hsound hstopped _
  openSession _ := upholds_rests_ensureRunning hsound hstopped _
  commitSession session := upholds_rests hsound hstopped fun _ _ hstopped =>
    commitSession_rests hstopped session
  abandonSession session status := upholds_rests hsound hstopped fun _ hsound _ =>
    abandonSession_rests hsound session status
  revoke := upholds_rests_ensureRunning hsound hstopped _
  merge := upholds_rests_ensureRunning hsound hstopped _
  popMany _ _ := upholds_rests_ensureRunning hsound hstopped _
  enable := upholds_rests_ensureRunning hsound hstopped _
  disable := upholds_rests_ensureRunning hsound hstopped _
  setCursor _ _ := upholds_rests_ensureRunning hsound hstopped _
  setMaxSize _ := upholds_rests_ensureRunning hsound hstopped _
  setMaxFlushCount _ := upholds_rests_ensureRunning hsound hstopped _
  check := upholds_rests hsound hstopped fun _ _ => check_rests
  stop := upholds_rests hsound hstopped fun _ => stop_rests
  writeEntry _ _ _ := upholds_rests_ensureRunning hsound hstopped _

/-- So it is over every run. -/
theorem play_rests {w : World} (hsound : w.db.coordinator.Sound)
    (hstopped : w.db.coordinator.Stopped) (moves : List Move) : w.Rests (w.play moves) :=
  (rests_upkeep hsound hstopped).play (.refl w) moves

/-! ### What readers see -/

/-- Through `view'`, every table of `w'` answers every lookup and every
step of a walk as it does in `w` through `view`. -/
def ReadsAlike (w : World) (view : View) (w' : World) (view' : View) : Prop :=
  ∀ table, (∀ key, w'.lookup? view' table key = w.lookup? view table key) ∧
    ∀ after, w'.next? view' table after = w.next? view table after

/-- Tables that are the same maps are read alike. -/
theorem readsAlike_of_mapThrough {w w' : World} (huniform : w.db.coordinator.Uniform)
    (huniform' : w'.db.coordinator.Uniform) {view view' : View}
    (h : ∀ table, w'.mapThrough view' table = w.mapThrough view table) :
    ReadsAlike w view w' view' := by
  refine fun table => ⟨fun key => ?_, fun after => ?_⟩
  · rw [lookup?_eq huniform', lookup?_eq huniform, h]
  · rw [next?_eq huniform', next?_eq huniform, h]

/-- What has become in `w'` of a database that had stopped in `w`. -/
structure Stands (w w' : World) : Prop where
  /-- No write to any store was attempted. -/
  attempts : w'.disk.attempts = w.disk.attempts
  contents : ∀ store, w'.disk.contents store = w.disk.contents store
  /-- What had stopped is still stopped. -/
  halted : w.db.coordinator.halted = true → w'.db.coordinator.halted = true
  shutDown : w.db.coordinator.shutDown = true → w'.db.coordinator.shutDown = true
  pending : w'.db.coordinator.pending = w.db.coordinator.pending
  /-- The chains are the same and the head reads as before; or the layer
  of the open unit of work is gone from every table, all other layers are
  the same, and the head reads as it did without this layer. -/
  chains :
    (w'.db.coordinator.tables = w.db.coordinator.tables ∧
      w'.db.coordinator.levels = w.db.coordinator.levels ∧
      ReadsAlike w (.head 0) w' (.head 0)) ∨
    ∃ seq, w.db.coordinator.openSeq? = some seq ∧ w'.db.coordinator.openSeq? = none ∧
      w.db.coordinator.levels = w'.db.coordinator.levels ++ [seq] ∧
      List.Forall₂ (fun chain chain' => ∃ head : Layer, head.seq = seq ∧
        chain = { chain' with layers := chain'.layers ++ [head] })
        w.db.coordinator.tables w'.db.coordinator.tables ∧
      ReadsAlike w (.head 1) w' (.head 0)

variable {w w' : World}

/-- The maps depend on what the roots hold, and on nothing else of the
disk. -/
theorem Rests.mapBelow (h : w.Rests w') (table count : Nat) :
    w'.mapBelow table count = (w.withCoordinator w'.db.coordinator).mapBelow table count := by
  apply mapBelow_congr
  · rfl
  · exact fun chain _ => h.contents chain.root

theorem Rests.stands (h : w.Rests w') (hsound : w.db.coordinator.Sound) : w.Stands w' := by
  have hsound' := h.sound hsound
  rcases h.chains with hsame | ⟨hopen, hsame⟩
  · refine ⟨h.attempts, h.contents, h.halted, h.shutDown, hsame.pending,
      .inl ⟨hsame.tables, hsame.levels, ?_⟩⟩
    refine readsAlike_of_mapThrough hsound.uniform hsound'.uniform fun table => ?_
    rw [mapThrough, mapThrough, hsame.shown, h.mapBelow]
    apply mapBelow_congr
    · exact hsame.tables
    · exact fun _ _ => rfl
  · obtain ⟨seq, hseq⟩ := Option.isSome_iff_exists.mp hopen
    have hlive := hsound.openLive hopen
    have hlast := hsound.openLast seq hseq
    have hlevels : w.db.coordinator.levels = w'.db.coordinator.levels ++ [seq] := by
      rw [hsame.levels]
      exact (List.dropLast_append_getLast? seq hlast).symm
    refine ⟨h.attempts, h.contents, h.halted, h.shutDown, hsame.pending,
      .inr ⟨seq, hseq, hsame.openSeq?, hlevels, ?_, ?_⟩⟩
    · rw [hsame.tables]
      refine List.forall₂_map_right_iff.mpr (List.forall₂_same.mpr fun chain hmem => ?_)
      have hstep := hsound.chains chain hmem
      obtain ⟨older, head, hlayers, hseqs⟩ := hstep.exists_head hlive
      refine ⟨head, ?_, ?_⟩
      · rw [hseqs, List.getLast?_concat] at hlast
        exact Option.some.inj hlast
      · rw [Chain.discardHead_of_concat hlayers (hstep.depth_pos hlive), ← hlayers]
    · refine readsAlike_of_mapThrough hsound.uniform hsound'.uniform fun table => ?_
      -- Both views leave out the newest layer, if it is still there.
      have hlength := congrArg List.length hlevels
      rw [List.length_append, List.length_singleton] at hlength
      have hcount : w'.db.coordinator.shown (.head 0) = w.db.coordinator.shown (.head 1) := by
        show w'.db.coordinator.levels.length - min 0 _ =
          w.db.coordinator.levels.length - min 1 (w.db.coordinator.levels.length - _)
        omega
      have hlt : w.db.coordinator.shown (.head 1) < w.db.coordinator.levels.length := by
        show w.db.coordinator.levels.length - min 1 (w.db.coordinator.levels.length - _) < _
        omega
      rw [mapThrough, mapThrough, hcount, h.mapBelow]
      exact mapBelow_discardHead hsound hsame hlt table

/-- In every state that a run reaches, if the database has halted or was
shut down, it stays so whatever is called from then on, and whichever
stores fail: no write is attempted, no layer is added and none is
changed, and the head reads as before. At most the layer of the open unit
of work is discarded. -/
theorem stopped_writes_nothing (disk : Disk) (configuration : Configuration) (journal : String)
    (handlers : List Handler) (moves later : List Move)
    (hstopped : ((opened disk configuration journal handlers).play moves).db.coordinator.Stopped) :
    Stands ((opened disk configuration journal handlers).play moves)
      ((opened disk configuration journal handlers).play (moves ++ later)) := by
  have hsound := play_sound disk configuration journal handlers moves
  rw [play_append]
  exact (play_rests hsound hstopped later).stands hsound

/-- A flush is stopped at the second root while a unit of work is open.
All that follows, with the store in order again, is that the unit's layer
is discarded. -/
theorem stopped_writes_nothing_torn_flush :
    let moves := [Move.call (.addTable "a" "left"), .call (.addTable "b" "right"),
      .call (.openSession false), .call (.write ⟨0, "a"⟩ [1] (.value [10])),
      .call (.write ⟨1, "b"⟩ [1] (.value [20])), .call (.commitSession ⟨0, false, false⟩),
      .call (.openSession false), .call (.write ⟨0, "a"⟩ [1] (.value [11])),
      .setPlan "right" (some ⟨0, .error (.refused "full")⟩), .call .merge]
    let later := [Move.setPlan "right" none, .call (.write ⟨0, "a"⟩ [2] (.value [12])),
      .call .check, .call (.commitSession ⟨1, false, false⟩), .call .shutdown, .close]
    let w := (opened .empty {} "journal" []).play moves
    w.db.coordinator.Stopped ∧ w.db.coordinator.levels = [1, 2] ∧
      ((opened .empty {} "journal" []).play (moves ++ later)).db.coordinator.levels = [1] ∧
      Stands w ((opened .empty {} "journal" []).play (moves ++ later)) := by
  intro moves later w
  have hstopped : w.db.coordinator.Stopped := .inl (by decide +kernel)
  exact ⟨hstopped, by decide +kernel, by decide +kernel,
    stopped_writes_nothing .empty {} "journal" [] moves later hstopped⟩

end World

end LayeredStore

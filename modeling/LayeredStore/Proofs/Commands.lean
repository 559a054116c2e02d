import LayeredStore.Proofs.Paths
import LayeredStore.Command

/-!
# `LayeredStore.Proofs.Commands`: every command is a path of steps

What `Paths.lean` says of sessions and history is said here of the other
operations, and then of everything that users can do.

* `Command.run_path`: opening a session is a quiet path that can end
  with one push, registering a table is at most one registration,
  writing is a quiet path that can end with one write, and any other
  command is a path of `Act`s. The paths are exact but for that of a
  check, which can replay a record.
* `Database.drop_path`: so is letting go of a database. After the revoke
  step of shutting down, which leads to `World.revoked`, the path is
  quiet.
-/

set_option autoImplicit false

namespace LayeredStore

open World

namespace Operation

/-! ### Modes, cursor and limits -/

theorem enable_led {w : World} : enable.Ends w (Led Actually w) := by
  have hsame : w.db.coordinator.SameStacks { w.db.coordinator with enabled := true }.bump :=
    ⟨rfl, rfl, rfl, rfl, rfl, rfl⟩
  exact enable_rule (fun _ _ => .refl) (fun _ _ => .refl) (fun _ _ _ => .refl)
    fun _ _ _ => (Actually.set .refl hsame rfl).say rfl

theorem disable_led {w : World} : disable.Ends w (Led Actually w) := by
  have hsame : w.db.coordinator.SameStacks { w.db.coordinator with enabled := false }.bump :=
    ⟨rfl, rfl, rfl, rfl, rfl, rfl⟩
  exact disable_rule (fun _ _ => .refl) (fun _ _ => .refl) (fun _ _ _ => .refl)
    (fun _ _ _ _ => .refl) fun _ _ _ _ => (Actually.set .refl hsame rfl).say rfl

theorem setCursor_led {w : World} (cursor : Cursor) (offset : Nat) :
    (setCursor cursor offset).Ends w (Led Actually w) := by
  have hset : ∀ view, Actually w (w.withCoordinator { w.db.coordinator with view := view }) := by
    intro view
    have hsame : w.db.coordinator.SameStacks { w.db.coordinator with view := view } :=
      ⟨rfl, rfl, rfl, rfl, rfl, rfl⟩
    exact Actually.set .refl hsame rfl
  exact setCursor_rule (fun _ _ => .refl) (fun _ _ _ => .refl) (fun _ _ _ => .refl)
    (fun _ _ _ => hset _) fun _ _ _ => hset _

theorem setMaxSize_led {w : World} (hsound : w.db.coordinator.Sound)
    (hpoisoned : w.db.poisoned = false) (limit : Nat) :
    (setMaxSize limit).Ends w (Led Actually w) := by
  have hsame : w.db.coordinator.SameStacks { w.db.coordinator with maxSize := limit } :=
    ⟨rfl, rfl, rfl, rfl, rfl, rfl⟩
  have hpath := Quietly.set .refl hsame rfl
  refine setMaxSize_rule (fun _ _ => .refl) (fun _ _ => .refl) (fun _ _ _ => hpath.actually)
    fun hstopped hlimit hlive => ?_
  have hrun : w.Running := ⟨hpoisoned, Coordinator.halted_of_stopped?_eq_none hstopped⟩
  refine (solidify_led (hpath.sound hsound) hrun fun _ => ?_).mono fun r w' h =>
    h.1.after fun _ h' => Quietly.actually (hpath.trans h')
  exact Nat.sub_lt (Nat.zero_lt_of_lt hlive) hlimit

theorem setMaxFlushCount_led {w : World} (hsound : w.db.coordinator.Sound)
    (hpoisoned : w.db.poisoned = false) (limit : Nat) :
    (setMaxFlushCount limit).Ends w (Led Actually w) := by
  have hsame : w.db.coordinator.SameStacks { w.db.coordinator with maxFlushCount := limit } :=
    ⟨rfl, rfl, rfl, rfl, rfl, rfl⟩
  have hpath := Quietly.set .refl hsame rfl
  refine setMaxFlushCount_rule (fun _ _ => .refl) (fun _ _ => .refl)
    (fun _ _ _ => hpath.actually) fun hstopped _ _ => ?_
  have hrun : w.Running := ⟨hpoisoned, Coordinator.halted_of_stopped?_eq_none hstopped⟩
  exact (flushOldest_led (hpath.sound hsound) hrun hsound.openLive).mono
    fun r w' h => h.1.after fun _ h' => Quietly.actually (hpath.trans h')

/-! ### Tables -/

/-- Registering a table registers it, or changes nothing. -/
theorem addTable_led {w : World} (hpoisoned : w.db.poisoned = false) (name root : String) :
    (addTable name root).Ends w (Led (fun w w' => w' = w ∨ Registers name root w w') w) := by
  refine addTable_rule (fun _ _ => .inl rfl) (fun _ _ => .inl rfl) fun hstopped hfresh => ?_
  have hrun : w.Running := ⟨hpoisoned, Coordinator.halted_of_stopped?_eq_none hstopped⟩
  exact .inr ⟨hrun, hfresh, ⟨rfl, rfl, rfl, rfl, rfl, rfl⟩, hrun, rfl, discarded_say _ rfl⟩

/-- Writing to a root while no layer is left is a direct write. -/
theorem writeDirect_led {w : World} (hrun : w.Running) {chain chain' : Chain}
    (hmem : chain' ∈ w.db.coordinator.tables) (hroot : chain'.root = chain.root)
    (hlevels : w.db.coordinator.levels = []) (key : Bytes) (entry : Entry) :
    (writeDirect chain key entry).Ends w (Led WritesExactly w) := by
  have hput := Puts.direct [(key, entry)] hrun hmem hlevels
  rw [hroot] at hput
  rw [ends_writeDirect]
  split
  · exact ⟨w, _, .refl, .inr hput, .inl rfl⟩
  · exact ⟨w, _, .refl, .inr hput, .inl rfl⟩
  · exact ⟨w, _, .refl, .inr hput, .inr rfl⟩

/-- Writing an entry puts it into the newest layer, or, once every layer
is in the root, into the root. -/
theorem writeEntry_led {w : World} (hsound : w.db.coordinator.Sound)
    (hpoisoned : w.db.poisoned = false) (table : Nat) (key : Bytes) (entry : Entry) :
    (writeEntry table key entry).Ends w (Led WritesExactly w) := by
  apply writeEntry_rule
  case refused => exact fun _ _ => .of_quietly .refl
  case unknown => exact fun _ _ => .of_quietly .refl
  case put => exact fun _ _ _ _ => ⟨w, _, .refl, .inr (Puts.put table key entry), .inl rfl⟩
  case direct =>
    intro chain hstopped hchain hdepth hpending
    have hmem := List.mem_of_getElem? hchain
    have hrun : w.Running := ⟨hpoisoned, Coordinator.halted_of_stopped?_eq_none hstopped⟩
    rw [(hsound.chains chain hmem).depth_eq, hpending] at hdepth
    exact writeDirect_led hrun hmem rfl (List.eq_nil_of_length_eq_zero hdepth) key entry
  case flushed =>
    -- No layer is live. Those that are pending are flushed before the root is
    -- written, or they would hide what is written.
    intro chain hstopped hchain hdepth hpending
    have hmem := List.mem_of_getElem? hchain
    have hrun : w.Running := ⟨hpoisoned, Coordinator.halted_of_stopped?_eq_none hstopped⟩
    rw [(hsound.chains chain hmem).depth_eq] at hdepth
    refine ((flushOldest_ends w hsound.names _).and
      (flushOldest_led hsound hrun hsound.openLive)).mono fun r w₁ h => ?_
    obtain ⟨hend, hpath, hrun₁⟩ := h
    match r, hend, hpath with
    | .error (.error error), _, hpath => exact .of_quietly hpath
    | .error .panic, _, hpath => exact .of_quietly hpath
    | .ok (), hend, hpath =>
    have hpath : Quietly w w₁ := hpath
    -- All levels are pending, so none is left after the flush.
    have hmin : min w.db.coordinator.pending w.db.coordinator.levels.length =
        w.db.coordinator.levels.length := Nat.min_eq_right (Nat.le_of_sub_eq_zero hdepth)
    rw [hmin] at hend
    have hsame := hend.sameStacks_of_ok (Nat.lt_of_lt_of_le hpending hsound.pending_le)
    have hmem₁ : chain.dropOldest w.db.coordinator.levels.length ∈ w₁.db.coordinator.tables := by
      rw [hsame.tables]
      exact List.mem_map_of_mem hmem
    have hlevels₁ : w₁.db.coordinator.levels = [] := by
      rw [hsame.levels]
      exact List.drop_length
    refine (writeDirect_led (hrun₁ rfl) hmem₁ rfl hlevels₁ key entry).mono fun r w' h =>
      h.after fun w'' hwrites => ?_
    obtain ⟨w₂, w₃, hpath₂, hput, hend⟩ := hwrites
    exact ⟨w₂, w₃, hpath.trans hpath₂, hput, hend⟩

/-! ### Starting and stopping -/

/-- Writing a record to the roots keeps what each of these writes keeps and
what halting the database keeps. -/
theorem applyRecord_keeps {I : World → Prop} {w : World} (h : I w) (record : JournalRecord)
    (hroot : ∀ w, I w → ∀ chain ∈ w.db.coordinator.tables, ∀ batch,
      (chain.name, batch) ∈ record.tables → I (w.withDisk (w.disk.write chain.root batch).2))
    (hhalt : ∀ w table source, I w → I (World.halt w table source)) :
    (applyRecord record).Ends w fun _ w' => I w' := by
  apply ends_forM (I := fun rest w' => I w' ∧ ∀ table ∈ rest, table ∈ record.tables)
  · rintro table rest w₁ ⟨h, hrest⟩
    have hrest' : ∀ table ∈ rest, table ∈ record.tables :=
      fun other ho => hrest other (List.mem_cons_of_mem _ ho)
    unfold applyTable
    simp only [ends_bind, ends_getCoordinator]
    cases hfind : w₁.db.coordinator.tables.find? (·.name = table.1) with
    | none => exact h
    | some chain =>
      have hmem := List.mem_of_find?_eq_some hfind
      have hname : chain.name = table.1 := of_decide_eq_true (List.find?_some hfind :)
      have htable : (chain.name, table.2) ∈ record.tables := hname ▸ hrest table List.mem_cons_self
      have hwritten := hroot w₁ h chain hmem table.2 htable
      simp only [writeRoot]
      split
      · exact ⟨h, hrest'⟩
      · rw [ends_flushWrite_write]
        split
        · exact ⟨hwritten, hrest'⟩
        · exact hhalt _ _ _ hwritten
        · exact hwritten
  · exact fun _ h => h.1
  · exact ⟨h, fun _ h => h⟩

/-- Carrying a record out keeps besides what removing it keeps. -/
theorem replay_keeps {I : World → Prop} {w : World} (h : I w) (journal : String)
    (record : JournalRecord)
    (hroot : ∀ w, I w → ∀ chain ∈ w.db.coordinator.tables, ∀ batch,
      (chain.name, batch) ∈ record.tables → I (w.withDisk (w.disk.write chain.root batch).2))
    (hclear : ∀ w, I w → I (w.withDisk (w.disk.write journal Journal.clearBatch).2))
    (hhalt : ∀ w table source, I w → I (World.halt w table source)) :
    (replay journal record).Ends w fun _ w' => I w' := by
  have happly := applyRecord_keeps h record hroot hhalt
  unfold replay
  simp only [ends_ite]
  split
  · rw [ends_bind]
    refine happly.mono fun r w₁ h => ?_
    cases r with
    | ok =>
      simp only [ends_bind, ends_write]
      split <;> exact hclear _ h
    | error fault => exact h
  · rw [ends_bind, ends_write]
    split <;> exact hclear _ h

/-- Carrying a record out leaves the stacks alone and discards
nothing. -/
theorem replay_stacks (w : World) (journal : String) (record : JournalRecord) :
    (replay journal record).Ends w fun _ w' =>
      w.db.coordinator.SameStacks w'.db.coordinator ∧ w'.discarded = w.discarded :=
  replay_keeps ⟨.refl _, rfl⟩ journal record (fun _ h _ _ _ _ => h) (fun _ h => h)
    fun _ _ _ h => ⟨h.1.trans (Coordinator.sameStacks_halted _), (discarded_say _ rfl).trans h.2⟩

/-- Where the journal holds no record, there is nothing to recover. -/
theorem recoverRunning_of_noRecord {w : World} (hrecord : w.NoRecord) :
    recoverRunning.Ends w fun r w' => r = .ok 0 ∧ w' = w := by
  have hload : Journal.load (w.disk.contents w.db.coordinator.journal) = .ok none := by
    unfold NoRecord at hrecord
    rw [Journal.load, hrecord]
  apply recoverRunning_rule
  case stopped => exact fun _ => ⟨rfl, rfl⟩
  case nothing => exact fun _ _ _ => ⟨rfl, rfl⟩
  case unreadable => exact fun _ _ _ hfault => nomatch hload.symm.trans hfault
  case found => exact fun _ _ _ hfound => nomatch hload.symm.trans hfound

/-- A journal from which a record can be read holds one. -/
theorem not_noRecord_of_load {w : World} {record : JournalRecord}
    (hload : Journal.load (w.disk.contents w.db.coordinator.journal) = .ok (some record)) :
    ¬w.NoRecord := by
  intro hnone
  unfold NoRecord at hnone
  rw [Journal.load, hnone] at hload
  cases hload

/-- Recovering replays a record, if the database runs and a record can be
read from the journal. -/
theorem recoverRunning_led {R : World → World → Prop} {w : World}
    (hpoisoned : w.db.poisoned = false) (hrefl : R w w) (hreplay : w.Running → ∀ record,
      Journal.load (w.disk.contents w.db.coordinator.journal) = .ok (some record) →
      (replay w.db.coordinator.journal record).Ends (w.say (.journalFound record.size)) (Led R w)) :
    recoverRunning.Ends w (Led R w) := by
  refine recoverRunning_rule (fun _ => hrefl) (fun _ _ _ _ => hrefl) (fun _ _ _ => hrefl)
    fun record hhalted _ hload => ?_
  refine (hreplay ⟨hpoisoned, hhalted⟩ record hload).mono fun r w' h => ?_
  match r, h with
  | .ok (), h => exact h
  | .error (.error error), h => exact h
  | .error .panic, h => exact h

/-- After recovering, a check finds the chains of a sound coordinator in
order. -/
theorem check_of_recoverRunning {R : World → World → Prop} {w : World}
    (hsound : ∀ w', R w w' → w'.db.coordinator.Sound)
    (h : recoverRunning.Ends w (Led R w)) : check.Ends w (Led R w) := by
  rw [ends_check]
  refine h.mono fun r w' h => ?_
  match r, h with
  | .error (.error error), h => exact h
  | .error .panic, h => exact h
  | .ok recovered, h =>
    simp only [(hsound w' h).checkChains?_eq_none]
    exact h

/-- A check replays a record, if the database runs and the journal holds
one. -/
theorem check_led {w : World} (hsound : w.db.coordinator.Sound)
    (hpoisoned : w.db.poisoned = false) : check.Ends w (Led Acts w) := by
  refine check_of_recoverRunning (fun _ hpath => Acts.sound hpath hsound)
    (recoverRunning_led hpoisoned .refl fun hrun record hload => ?_)
  have hrecord := not_noRecord_of_load hload
  -- What the replay writes does not matter, only that it moves no layers.
  refine (replay_stacks _ _ record).mono fun r w' h => ?_
  have hpath : Acts w w' := .single (.recover hrun hrecord h.1 (h.2.trans (discarded_say _ rfl)))
  match r with
  | .ok () => exact hpath
  | .error (.error error) => exact hpath
  | .error .panic => exact hpath.tail .poison

/-- Where the journal holds no record, a check changes nothing. -/
theorem check_led_of_noRecord {w : World} (hsound : w.db.coordinator.Sound)
    (hrecord : w.NoRecord) : check.Ends w (Led Actually w) := by
  refine check_of_recoverRunning (fun _ hpath => Actually.sound hpath hsound)
    ((recoverRunning_of_noRecord hrecord).mono fun r w' h => ?_)
  obtain ⟨rfl, rfl⟩ := h
  exact .refl

/-- Flushing everything, where no unit of work is open. -/
theorem flushAll_led {w : World} (hsound : w.db.coordinator.Sound)
    (hpoisoned : w.db.poisoned = false) (hclosed : w.db.coordinator.openSeq? = none) :
    flushAll.Ends w (Led Quietly w) := by
  refine flushAll_rule (fun _ => Quietly.say .refl rfl) fun hhalted => ?_
  refine (flushOldest_led hsound ⟨hpoisoned, hhalted⟩ fun hsome => ?_).mono fun r w' h => h.1
  rw [hclosed] at hsome
  cases hsome

/-- The revoke step of stopping always succeeds. -/
theorem revokeLeft_led {w : World} (hsound : w.db.coordinator.Sound)
    (hpoisoned : w.db.poisoned = false) :
    revokeLeft.Ends w fun r w' => r = .ok () ∧ Actually w w' ∧
      w'.db.coordinator.openUnit = none ∧ w'.db.poisoned = false := by
  rw [ends_revokeLeft]
  have hsay : Actually w (w.say .shuttingDownWithSession) := Actually.say .refl rfl
  refine (revokeUnit_led (hsay.sound hsound) hpoisoned).mono fun r w' h => ?_
  obtain ⟨rfl, hpath, hunit, hpoisoned'⟩ := h
  exact ⟨rfl, hsay.trans hpath, hunit, hpoisoned'⟩

theorem flushLeft_led {w : World} (hsound : w.db.coordinator.Sound)
    (hpoisoned : w.db.poisoned = false) (hunit : w.db.coordinator.openUnit = none) :
    flushLeft.Ends w (Led Quietly w) := by
  have hclosed : w.db.coordinator.openSeq? = none := Coordinator.openSeq?_of_none hunit
  rw [ends_flushLeft]
  refine (flushAll_led hsound hpoisoned hclosed).mono fun r w' h => ?_
  have hend : ∀ w', Quietly w w' → Quietly w ((w'.withCoordinator
      { w'.db.coordinator with shutDown := true, publishing := false }.bump).say .shutDown) := by
    intro w' hpath
    have hsame : w'.db.coordinator.SameStacks
        { w'.db.coordinator with shutDown := true, publishing := false }.bump :=
      ⟨rfl, rfl, rfl, rfl, rfl, rfl⟩
    exact (Quietly.set hpath hsame rfl).say rfl
  match r, h with
  | .ok (), h => exact hend w' h
  | .error (.error error), h => exact hend w' h
  | .error .panic, h => exact h

end Operation

/-- The world after the revoke step of stopping a database, if there is
one to make. -/
def World.revoked (w : World) : World :=
  if w.db.poisoned || w.db.coordinator.shutDown || w.db.coordinator.openUnit.isNone then w
  else (Operation.revokeLeft.perform w).2

namespace Operation

theorem revoked_acts {w : World} (hsound : w.db.coordinator.Sound) : Actually w w.revoked := by
  unfold World.revoked
  split
  · exact .refl
  · rename_i h
    simp only [Bool.or_eq_true, not_or, Bool.not_eq_true] at h
    have hpath : revokeLeft.Ends w fun _ w' => Actually w w' :=
      (revokeLeft_led hsound h.1.1).mono fun r w' h => h.2.1
    exact hpath

/-- After its revoke step, stopping is a quiet path. -/
theorem stop_led {w : World} (hsound : w.db.coordinator.Sound) (hpoisoned : w.db.poisoned = false) :
    stop.Ends w (Led Quietly w.revoked) := by
  apply stop_rule
  case stopped =>
    intro hshut
    rw [World.revoked, hshut, Bool.or_true, Bool.true_or, if_pos rfl]
    exact .refl
  case revoked =>
    intro unit hshut hunit
    have hrevoked : w.revoked = (revokeLeft.perform w).2 := by
      rw [World.revoked, hpoisoned, hshut, hunit]
      rfl
    -- That the revoke step leads to `w.revoked` is how this world is defined.
    have hself : revokeLeft.Ends w fun _ w' => w' = w.revoked := hrevoked.symm
    refine ((revokeLeft_led hsound hpoisoned).and hself).mono fun r w₁ h => ?_
    obtain ⟨⟨rfl, hpath, hunit, hpoisoned₁⟩, rfl⟩ := h
    exact flushLeft_led (hpath.sound hsound) hpoisoned₁ hunit
  case flushed =>
    intro _ hunit
    have hrevoked : w.revoked = w := by
      rw [World.revoked, hunit, Option.isNone_none, Bool.or_true, if_pos rfl]
    rw [hrevoked]
    exact flushLeft_led hsound hpoisoned hunit

/-! ### Under the lock -/

/-- Under the lock, an operation makes its steps, or none if the lock is
poisoned. -/
theorem locked_path {α : Type} {R : World → World → Prop} {w : World} {body : Operation α}
    (hrefl : w.db.poisoned = true → R w w) (h : w.db.poisoned = false → body.Ends w (Led R w)) :
    (locked body).Ends w fun _ w' => R w w' := by
  rw [ends_locked]
  split
  · exact hrefl ‹_›
  · rename_i hpoisoned
    refine (h (Bool.eq_false_iff.mpr hpoisoned)).mono fun r w' h => ?_
    match r, h with
    | .ok a, h => exact h
    | .error (.error error), h => exact h
    | .error .panic, h => exact h

end Operation

namespace Session

open Operation

/-- Letting go of a session revokes it if it is open. -/
theorem drop_path {w : World} (hsound : w.db.coordinator.Sound) (session : Session) :
    session.drop.Ends w fun _ w' => Actually w w' := by
  have hsay : Actually w (w.say .sessionAbandoned) := Actually.say .refl rfl
  apply drop_rule
  case closed => exact fun _ => .refl
  case lockedOut => exact fun _ _ => hsay.say rfl
  case abandoned =>
    intro _ _
    refine (locked_path (fun _ => .refl) fun hpoisoned =>
      abandonSession_led (hsay.sound hsound) hpoisoned session.id .abandoned).mono fun r w' h => ?_
    match r with
    | .ok () => exact hsay.trans h
    | .error (.error error) => exact Actually.say (hsay.trans h) rfl
    | .error .panic => exact hsay.trans h

/-- Using a handle up makes the steps of the operation, and then lets go
of the handle. -/
theorem useUp_path {w : World} (hsound : w.db.coordinator.Sound) (session : Session)
    {body : Operation Unit} (h : body.Ends w fun _ w' => Actually w w') :
    (session.useUp body).Ends w fun _ w' => Actually w w' := by
  rw [ends_useUp]
  refine h.mono fun r w₁ hpath => ?_
  refine (drop_path (hpath.sound hsound) session).mono fun later w' hpath' => ?_
  cases r <;> cases later <;> exact hpath.trans hpath'

theorem commit_path {w : World} (hsound : w.db.coordinator.Sound) (session : Session) :
    session.commit.Ends w fun _ w' => Actually w w' :=
  useUp_path hsound session
    (locked_path (fun _ => .refl) fun hpoisoned => commitSession_led hsound hpoisoned session.id)

theorem revoke_path {w : World} (hsound : w.db.coordinator.Sound) (session : Session) :
    session.revoke.Ends w fun _ w' => Actually w w' :=
  useUp_path hsound session
    (locked_path (fun _ => .refl) fun hpoisoned =>
      abandonSession_led hsound hpoisoned session.id .revoked)

end Session

namespace Database

open Operation

theorem withoutBus_quiets (w : World) : Quietly w w.withoutBus := by
  have hstop : Quietly w { w with db := { w.db with busStopped := true } } :=
    (Quiet.bus true).path rfl
  unfold World.withoutBus
  dsimp only
  split
  · exact .refl
  split
  · exact hstop.say rfl
  · exact hstop

/-- After its revoke step, shutting down is a quiet path. -/
theorem shutdown_quiets {w : World} (hsound : w.db.coordinator.Sound) :
    shutdown.Ends w fun _ w' => Quietly w.revoked w' := by
  have hpoisoned : w.db.poisoned = true → Quietly w.revoked w := by
    intro hpoisoned
    rw [World.revoked, hpoisoned, Bool.true_or, Bool.true_or, if_pos rfl]
  apply shutdown_rule
  case lockedOut => exact hpoisoned
  case stopped =>
    intro _
    refine (locked_path (R := fun _ w' => Quietly w.revoked w') hpoisoned fun hpoisoned =>
      stop_led hsound hpoisoned).mono fun r w₁ hpath => ?_
    match r with
    | .ok () => exact hpath.trans (withoutBus_quiets w₁)
    | .error (.error error) => exact hpath.trans (withoutBus_quiets w₁)
    | .error .panic => exact hpath

/-- So is letting go of the database. -/
theorem drop_quiets {w : World} (hsound : w.db.coordinator.Sound) :
    drop.Ends w fun _ w' => Quietly w.revoked w' := by
  rw [ends_drop]
  refine (shutdown_quiets hsound).mono fun r w' hpath => ?_
  match r with
  | .ok () => exact hpath
  | .error (.error error) => exact hpath.say rfl
  | .error .panic => exact hpath

theorem shutdown_path {w : World} (hsound : w.db.coordinator.Sound) :
    shutdown.Ends w fun _ w' => Actually w w' :=
  (shutdown_quiets hsound).mono fun _ _ hpath => (revoked_acts hsound).trans hpath.actually

/-- Letting go of a database is a path of steps. -/
theorem drop_path {w : World} (hsound : w.db.coordinator.Sound) :
    drop.Ends w fun _ w' => Actually w w' :=
  (drop_quiets hsound).mono fun _ _ hpath => (revoked_acts hsound).trans hpath.actually

end Database

/-! ### Commands -/

/-- The steps that a command makes: opening a session ends a quiet path
with at most one push, registering a table registers it or does nothing,
writing ends a quiet path with at most one write, and any other command
is a path of steps. Only a check makes steps that are not exact. -/
def Command.Path : Command → World → World → Prop
  | addTable name root => fun w w' => w' = w ∨ Registers name root w w'
  | openSession _ => OpensExactly
  | write .. => WritesExactly
  | check => Acts
  | _ => Actually

open Operation in
/-- Every command makes the steps that are listed for it, whatever it
answers. -/
theorem Command.run_path {w : World} (hsound : w.db.coordinator.Sound) (command : Command) :
    command.run.Ends w fun _ w' => command.Path w w' := by
  cases command with
  | addTable name root =>
    refine Ends.answer _ (locked_path (fun _ => .inl rfl) fun hpoisoned => ?_)
    rw [ends_bind]
    refine (addTable_led hpoisoned name root).mono fun r w' h => ?_
    match r, h with
    | .ok table, h => exact h
    | .error (.error error), h => exact h
    | .error .panic, h => exact h
  | openSession force =>
    exact Ends.answer _ (locked_path (fun _ => OpensExactly.of_quietly .refl) fun hpoisoned =>
      openSession_led hsound hpoisoned force)
  | commitSession session => exact Ends.done (session.commit_path hsound)
  | revokeSession session => exact Ends.done (session.revoke_path hsound)
  | dropSession session => exact Ends.done (session.drop_path hsound)
  | commit => exact Ends.done (locked_path (fun _ => .refl) (commitInnermost_led hsound))
  | revoke => exact Ends.done (locked_path (fun _ => .refl) (revoke_led hsound))
  | merge => exact Ends.done (locked_path (fun _ => .refl) (merge_led hsound))
  | popMany count verify =>
    exact Ends.done (locked_path (fun _ => .refl) fun hpoisoned =>
      popMany_led hsound hpoisoned count verify)
  | enable => exact Ends.done (locked_path (fun _ => .refl) fun _ => enable_led)
  | disable => exact Ends.done (locked_path (fun _ => .refl) fun _ => disable_led)
  | setCursor cursor offset =>
    exact Ends.done (locked_path (fun _ => .refl) fun _ => setCursor_led cursor offset)
  | setMaxSize limit =>
    exact Ends.done (locked_path (fun _ => .refl) fun hpoisoned =>
      setMaxSize_led hsound hpoisoned limit)
  | setMaxFlushCount limit =>
    exact Ends.done (locked_path (fun _ => .refl) fun hpoisoned =>
      setMaxFlushCount_led hsound hpoisoned limit)
  | check => exact Ends.answer _ (locked_path (fun _ => .refl) (check_led hsound))
  | shutdown => exact Ends.done (Database.shutdown_path hsound)
  | write table key entry =>
    exact Ends.done (locked_path (fun _ => WritesExactly.of_quietly .refl) fun hpoisoned =>
      writeEntry_led hsound hpoisoned table.index key entry)

end LayeredStore

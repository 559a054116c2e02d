import LayeredStore.Proofs.Aftermath
import LayeredStore.Proofs.Nesting
import LayeredStore.Proofs.Views

/-!
# `LayeredStore.Proofs.Shutdown`: what is durable once a database is shut down

Shutting down discards the open unit of work and then moves all layers
that are left into the roots in one flush. So what is in the roots
afterwards is what was committed, and no more.

* `Coordinator.committedOnly` is a coordinator with the open unit of work
  left out. `Lost.committedOnly` says that discarding the unit leaves
  these layers.
* `flushLeft_drains`, `stop_drains`: where no store fails, the roots then
  hold what the layers came to, and no layer is left (`World.Drained`).
* `World.Closed` is a database that was shut down without a fault.
  `Command.run_closed`: nothing moves it any more, and what would is
  refused.
* `World.shutdown_keeps_committed`: so it is in every state that a run
  reaches.
-/

set_option autoImplicit false

namespace LayeredStore

/-- The chain with the layer of this number left out. -/
def Chain.leaveOut (chain : Chain) (seq? : Option Nat) : Chain :=
  { chain with layers := chain.layers.filter fun layer => seq? ≠ some layer.seq }

namespace Coordinator

/-- The coordinator with the open unit of work left out, and the layer
that it owns. -/
def committedOnly (c : Coordinator) : Coordinator :=
  { c with
    tables := c.tables.map (·.leaveOut c.openSeq?)
    levels := c.levels.filter fun seq => c.openSeq? ≠ some seq
    openUnit := none }

variable {c : Coordinator}

/-- Where no unit of work has a layer, none is left out. -/
theorem sameStacks_committedOnly_of_none (hclosed : c.openSeq? = none) :
    c.SameStacks c.committedOnly where
  tables := by
    show c.tables.map (·.leaveOut c.openSeq?) = c.tables
    rw [hclosed]
    refine (List.map_congr_left fun chain _ => ?_).trans (List.map_id _)
    show chain.leaveOut none = chain
    unfold Chain.leaveOut
    rw [List.filter_eq_self.mpr (fun _ _ => by simp)]
  journal := rfl
  levels := by
    show c.levels.filter _ = c.levels
    rw [hclosed]
    exact List.filter_eq_self.mpr fun _ _ => by simp
  pending := rfl
  nextSeq := rfl
  openSeq? := hclosed.symm

/-- The layer of the open unit of work is the newest, so leaving it out is
discarding the newest. -/
theorem Sound.sameStacks_committedOnly (h : c.Sound) {seq : Nat} (hopen : c.openSeq? = some seq) :
    c.withoutUnit.discardHead.SameStacks c.committedOnly where
  tables := by
    show c.tables.map (·.leaveOut c.openSeq?) = c.tables.map (·.discardHead)
    refine List.map_congr_left fun chain hmem => ?_
    obtain ⟨older, head, hlayers, hhead, -, hdepth⟩ := h.exists_unit_head hopen hmem
    -- The layers below the newest are committed, so none of them is the unit's.
    have holder : ∀ layer ∈ older, c.openSeq? ≠ some layer.seq := by
      intro layer hlayer
      have hstep := h.chains chain hmem
      exact (hstep.committed layer (hlayers ▸ List.mem_append_left _ hlayer)).mp
        (hstep.committed_older h.increasing h.openLast hlayers hlayer)
    rw [Chain.discardHead_of_concat hlayers hdepth, Chain.leaveOut, hlayers, List.filter_append,
      List.filter_eq_self.mpr fun layer hlayer => decide_eq_true (holder layer hlayer),
      List.filter_eq_nil_iff.mpr, List.append_nil]
    intro layer hlayer
    rw [List.mem_singleton.mp hlayer, hopen, hhead]
    simp
  journal := rfl
  levels := by
    show c.levels.filter _ = c.levels.dropLast
    have hlast := h.openLast seq hopen
    obtain ⟨older, hlevels⟩ := List.getLast?_eq_some_iff.mp hlast
    have hlt : ∀ level ∈ c.levels.dropLast, level < seq := fun level =>
      h.lt_of_mem_dropLast hlast
    rw [hlevels, List.dropLast_concat] at hlt ⊢
    rw [List.filter_append, List.filter_eq_self.mpr, List.filter_eq_nil_iff.mpr, List.append_nil]
    · intro level hlevel
      rw [List.mem_singleton.mp hlevel, hopen]
      simp
    · intro level hlevel
      rw [hopen]
      simpa using (Nat.ne_of_lt (hlt level hlevel)).symm
  pending := rfl
  nextSeq := rfl
  openSeq? := rfl

theorem Sound.committedOnly (h : c.Sound) : c.committedOnly.Sound := by
  cases hopen : c.openSeq? with
  | none => exact h.congr (sameStacks_committedOnly_of_none hopen)
  | some seq =>
    have hlive := h.openLive (Option.isSome_iff_exists.mpr ⟨seq, hopen⟩)
    exact (h.discardHead hlive).congr (h.sameStacks_committedOnly hopen)

end Coordinator

namespace World

variable {w w' w₁ : World}

/-- What is left of a unit of work that was discarded are the committed
layers. -/
theorem Lost.committedOnly {unit : UnitOfWork} {statuses : List SessionStatus}
    (h : w.Lost unit statuses w') (hsound : w.db.coordinator.Sound)
    (hunit : w.db.coordinator.openUnit = some unit) :
    w.db.coordinator.committedOnly.SameStacks w'.db.coordinator := by
  cases hseq : unit.seq with
  | none =>
    have hclosed := (Coordinator.openSeq?_of_some hunit).trans hseq
    exact (Coordinator.sameStacks_committedOnly_of_none hclosed).symm.trans
      ((Coordinator.sameStacks_lose_of_none statuses hunit hseq).trans h.coordinator.layers)
  | some seq =>
    have hopen := (Coordinator.openSeq?_of_some hunit).trans hseq
    exact (hsound.sameStacks_committedOnly hopen).symm.trans
      ((Coordinator.sameStacks_lose_of_some statuses hseq).trans h.coordinator.layers)

/-- All layers were moved into the roots, and the database was shut
down. -/
structure Drained (w w' : World) : Prop where
  shutDown : w'.db.coordinator.shutDown = true
  halted : w'.db.coordinator.halted = false
  poisoned : w'.db.poisoned = w.db.poisoned
  openUnit : w'.db.coordinator.openUnit = none
  statuses : w'.db.coordinator.statuses = w.db.coordinator.statuses
  journal : w'.db.coordinator.journal = w.db.coordinator.journal
  tables : w'.db.coordinator.tables = w.db.coordinator.tables.map fun chain =>
    { chain with layers := [], pending := 0 }
  levels : w'.db.coordinator.levels = []
  pending : w'.db.coordinator.pending = 0
  roots : ∀ chain ∈ w.db.coordinator.tables, w'.disk.contents chain.root =
    (w.disk.contents chain.root).overlay (Chain.diffs chain.layers)
  record : w.NoRecord → w'.NoRecord

/-- What shutting down makes of a database. Every root holds what its
table read as at the head, with the open unit of work left out. No layer
is left, the sessions that were open are revoked, and a journal without a
record is left without one. -/
structure ShutDown (w w' : World) : Prop where
  shutDown : w'.db.coordinator.shutDown = true
  halted : w'.db.coordinator.halted = false
  poisoned : w'.db.poisoned = w.db.poisoned
  openUnit : w'.db.coordinator.openUnit = none
  roots : ∀ (table : Nat) (chain : Chain), w.db.coordinator.tables[table]? = some chain →
    (w.withCoordinator w.db.coordinator.committedOnly).ReadsAtHead table
      (w'.disk.contents chain.root)
  tables : w'.db.coordinator.tables = w.db.coordinator.tables.map fun chain =>
    { chain with layers := [], pending := 0 }
  levels : w'.db.coordinator.levels = []
  pending : w'.db.coordinator.pending = 0
  statuses : ∀ session, w'.db.coordinator.status session =
    if w.db.coordinator.isOpen session then .revoked else w.db.coordinator.status session
  record : w.NoRecord → w'.NoRecord

/-- What the roots take in are the committed layers, once the open unit of
work was discarded. -/
theorem Drained.shutDown_of_committedOnly (h : w₁.Drained w') (hsound : w.db.coordinator.Sound)
    (hsame : w.db.coordinator.committedOnly.SameStacks w₁.db.coordinator)
    (hdisk : w₁.disk = w.disk) (hpoisoned : w₁.db.poisoned = w.db.poisoned)
    (hstatuses : ∀ session, w₁.db.coordinator.status session =
      if w.db.coordinator.isOpen session then .revoked else w.db.coordinator.status session) :
    w.ShutDown w' where
  shutDown := h.shutDown
  halted := h.halted
  poisoned := h.poisoned.trans hpoisoned
  openUnit := h.openUnit
  roots table chain hchain := by
    have hsound' : (w.withCoordinator w.db.coordinator.committedOnly).db.coordinator.Sound :=
      hsound.committedOnly
    -- The chain that is drained is this one without the layer of the open
    -- unit.
    have hleft : w.db.coordinator.committedOnly.tables[table]? =
        some (chain.leaveOut w.db.coordinator.openSeq?) := by
      show (w.db.coordinator.tables.map _)[table]? = _
      rw [List.getElem?_map, hchain]
      rfl
    have hmem : chain.leaveOut w.db.coordinator.openSeq? ∈ w₁.db.coordinator.tables := by
      rw [hsame.tables]
      exact List.mem_of_getElem? hleft
    have hroot : w'.disk.contents chain.root = (w.disk.contents chain.root).overlay
        (Chain.diffs (chain.leaveOut w.db.coordinator.openSeq?).layers) := by
      rw [← hdisk]
      exact h.roots _ hmem
    have hlength := (hsound'.chains _ (List.mem_of_getElem? hleft)).length_layers
    rw [readsAtHead_iff hsound', headMap, mapBelow]
    show w.db.coordinator.committedOnly.tables[table]?.map _ = _
    rw [hleft, Option.map_some, ← hlength, List.take_length, hroot]
    rfl
  tables := by
    rw [h.tables, hsame.tables]
    exact List.map_map
  levels := h.levels
  pending := h.pending
  statuses session := by
    rw [← hstatuses]
    exact Coordinator.status_congr h.statuses session
  record hrecord := h.record (by
    rw [NoRecord, hdisk, hsame.journal]
    exact hrecord)

end World

open World

namespace FlushEnd

variable {w w' : World}

/-- A flush of all layers that succeeds leaves none, and the roots hold
what the layers came to. -/
theorem drains (h : FlushEnd w w.db.coordinator.levels.length (.ok ()) w')
    (hsound : w.db.coordinator.Sound) (hstores : w.db.coordinator.DistinctStores) :
    (w'.db.coordinator.tables = w.db.coordinator.tables.map fun chain =>
        { chain with layers := [], pending := 0 }) ∧
      w'.db.coordinator.levels = [] ∧ w'.db.coordinator.pending = 0 ∧
      w'.db.coordinator.journal = w.db.coordinator.journal ∧
      ∀ chain ∈ w.db.coordinator.tables, w'.disk.contents chain.root =
        (w.disk.contents chain.root).overlay (Chain.diffs chain.layers) := by
  have hpending := hsound.pending_le
  rcases h.effect hstores with ⟨hsame, hzero, -⟩ | ⟨hsame, hroots⟩
  · -- There was no layer to begin with, and so nothing was done.
    have hlength := hzero rfl
    have hw : w' = w := by
      cases h with
      | nothing => rfl
      | finished hn => exact absurd hn (by omega)
    have hlayers : ∀ chain ∈ w.db.coordinator.tables, chain.layers = [] ∧ chain.pending = 0 := by
      intro chain hmem
      have hstep := hsound.chains chain hmem
      refine ⟨List.eq_nil_of_length_eq_zero (hstep.length_layers.trans hlength), ?_⟩
      rw [hstep.pending]
      omega
    subst hw
    refine ⟨?_, List.eq_nil_of_length_eq_zero hlength, by omega, rfl, fun chain hmem => ?_⟩
    · refine (List.map_id _).symm.trans (List.map_congr_left fun chain hmem => ?_)
      rw [← (hlayers chain hmem).1, ← (hlayers chain hmem).2]
      rfl
    · rw [(hlayers chain hmem).1]
      rfl
  · refine ⟨?_, hsame.levels.trans List.drop_length, ?_, hsame.journal, fun chain hmem => ?_⟩
    · -- All layers are gone, so nothing is left of any chain but its root.
      refine hsame.tables.trans (List.map_congr_left fun chain hmem => ?_)
      have hstep := hsound.chains chain hmem
      rw [Chain.dropOldest, ← hstep.length_layers, List.drop_length, Nat.min_self]
      have hle : chain.pending - chain.layers.length = 0 := by
        rw [hstep.pending, hstep.length_layers]
        omega
      rw [hle]
    · refine hsame.pending.trans ?_
      show w.db.coordinator.pending - w.db.coordinator.levels.length = 0
      omega
    · rw [hroots chain hmem, ← (hsound.chains chain hmem).length_layers, List.take_length]

end FlushEnd

namespace Operation

variable {w : World}

/-- Where no store fails and the record can be encoded, all that is left is
flushed. -/
theorem flushLeft_drains (hsound : w.db.coordinator.Sound)
    (hstores : w.db.coordinator.DistinctStores) (hhealthy : w.disk.Healthy)
    (hhalted : w.db.coordinator.halted = false) (hunit : w.db.coordinator.openUnit = none)
    (hfits : ¬w.Unencodable) : flushLeft.Ends w fun r w' => r = .ok () ∧ w.Drained w' := by
  have hfits : (w.db.coordinator.netRecord (min w.db.coordinator.levels.length
      w.db.coordinator.levels.length)).fits = true := by
    rw [Nat.min_self]
    exact Bool.not_eq_false _ ▸ hfits
  rw [ends_flushLeft]
  apply flushAll_rule
  case halted =>
    intro hhalt
    cases hhalt.symm.trans hhalted
  case flushed =>
  intro _
  -- No store fails and the record fits, so the flush goes through.
  refine ((flushOldest_ends w hsound.names _).and
    (flushOldest_healthy w hsound.names hhealthy _ hfits)).mono fun r w₁ hend => ?_
  obtain ⟨hend, rfl, -⟩ := hend
  rw [Nat.min_self] at hend
  obtain ⟨htables, hlevels, hpending, hjournal, hroots⟩ := hend.drains hsound hstores
  have hmodes := hend.sameModes
  have hpoisoned : w₁.db.poisoned = w.db.poisoned := by rw [hend.database]
  refine ⟨rfl,
    { shutDown := rfl
      halted := hend.halted_of_ok.trans hhalted
      poisoned := hpoisoned
      openUnit := hmodes.openUnit.trans hunit
      statuses := hmodes.statuses
      journal := hjournal
      tables := htables
      levels := hlevels
      pending := hpending
      roots := hroots
      record := fun hrecord => ?_ }⟩
  have hnone := hend.journal_of_ok hrecord
  rw [← hjournal] at hnone
  exact hnone

/-- Stopping discards the open unit of work and flushes all that is
left. -/
theorem stop_drains (h : w.Orderly) (hstores : w.db.coordinator.DistinctStores)
    (hhealthy : w.disk.Healthy) (hhalted : w.db.coordinator.halted = false)
    (hshutDown : w.db.coordinator.shutDown = false)
    (hfits : ¬(w.withCoordinator w.db.coordinator.committedOnly).Unencodable) :
    stop.Ends w fun r w' => r = .ok () ∧ w.ShutDown w' := by
  -- Whatever was open, the flush starts where the committed layers are left.
  have hflush : ∀ w₁ : World, w.db.coordinator.committedOnly.SameStacks w₁.db.coordinator →
      w₁.disk = w.disk → w₁.db.poisoned = w.db.poisoned → w₁.db.coordinator.halted = false →
      w₁.db.coordinator.openUnit = none →
      (∀ session, w₁.db.coordinator.status session =
        if w.db.coordinator.isOpen session then .revoked else w.db.coordinator.status session) →
      flushLeft.Ends w₁ fun r w' => r = .ok () ∧ w.ShutDown w' := by
    intro w₁ hsame hdisk hpoisoned hhalted hunit hstatuses
    have hsound₁ : w₁.db.coordinator.Sound := h.sound.committedOnly.congr hsame
    have hregistered : w₁.db.coordinator.registered = w.db.coordinator.registered :=
      hsame.registered.trans (w.db.coordinator.registered_mapTables fun _ => ⟨rfl, rfl⟩)
    have hstores₁ : w₁.db.coordinator.DistinctStores :=
      hstores.of_registered (hregistered ▸ List.prefix_refl _) hsame.journal
    have hfits₁ : ¬w₁.Unencodable := by
      rw [Unencodable, Coordinator.netRecord, hsame.tables, hsame.levels]
      exact hfits
    refine (flushLeft_drains hsound₁ hstores₁ (hdisk ▸ hhealthy) hhalted hunit hfits₁).mono
      fun r w' hend => ⟨hend.1, ?_⟩
    exact hend.2.shutDown_of_committedOnly h.sound hsame hdisk hpoisoned hstatuses
  apply stop_rule
  case stopped =>
    intro hstopped
    cases hstopped.symm.trans hshutDown
  case revoked =>
    intro unit _ hunit
    have hsay : (w.say .shuttingDownWithSession).Orderly := h.congr (.refl _) rfl
    rw [ends_revokeLeft]
    refine (revokeUnit_lost hsay.sound hunit).mono fun r w₁ hend => ?_
    obtain ⟨rfl, hlost⟩ := hend
    have hsame : w.db.coordinator.committedOnly.SameStacks w₁.db.coordinator :=
      hlost.committedOnly hsay.sound hunit
    have hhalted₁ : w₁.db.coordinator.halted = w.db.coordinator.halted :=
      hlost.coordinator.halted.trans (Coordinator.modes_lose _).2.2.2.1
    refine hflush w₁ hsame hlost.disk hlost.poisoned (hhalted₁.trans hhalted)
      (hlost.coordinator.modes.openUnit.trans (Coordinator.openUnit_lose _)) fun session => ?_
    rw [Coordinator.status_congr
      (hlost.coordinator.modes.statuses.trans (Coordinator.statuses_lose _))]
    refine (w.db.coordinator.status_resolveOpen unit .revoked session).trans ?_
    -- An open session is one of the unit's.
    by_cases hopen : w.db.coordinator.isOpen session = true
    · rw [if_pos ⟨h.attended.mem_of_isOpen hunit hopen, hopen⟩, if_pos hopen]
    · rw [if_neg fun hand => hopen hand.2, if_neg hopen]
  case flushed =>
    intro _ hunit
    refine hflush w (Coordinator.sameStacks_committedOnly_of_none
      (Coordinator.openSeq?_of_none hunit)).symm rfl rfl hhalted hunit fun session => ?_
    rw [h.attended.not_isOpen hunit, if_neg Bool.false_ne_true]

end Operation

/-! ### After it -/

namespace World

variable {w w' : World}

/-- A database that was shut down without a fault, with its bus. -/
structure Closed (w : World) : Prop where
  poisoned : w.db.poisoned = false
  halted : w.db.coordinator.halted = false
  shutDown : w.db.coordinator.shutDown = true
  openUnit : w.db.coordinator.openUnit = none
  sessions : ∀ session, w.db.coordinator.isOpen session = false
  busStopped : w.db.busStopped = true

theorem ShutDown.closed (h : w.ShutDown w') (hpoisoned : w.db.poisoned = false)
    (hbus : w'.db.busStopped = true) : w'.Closed where
  poisoned := h.poisoned.trans hpoisoned
  halted := h.halted
  shutDown := h.shutDown
  openUnit := h.openUnit
  sessions session := by
    rw [Coordinator.isOpen_eq_false_iff, h.statuses]
    split
    · nofun
    · rename_i hopen
      exact (Coordinator.isOpen_eq_false_iff _ _).mp (Bool.eq_false_iff.mpr hopen)
  busStopped := hbus

/-- What shutting down has made of a database is seen in its coordinator,
its disk and its lock. -/
theorem ShutDown.congr {w'' : World} (h : w.ShutDown w')
    (hcoordinator : w''.db.coordinator = w'.db.coordinator) (hdisk : w''.disk = w'.disk)
    (hpoisoned : w''.db.poisoned = w'.db.poisoned) : w.ShutDown w'' where
  shutDown := hcoordinator ▸ h.shutDown
  halted := hcoordinator ▸ h.halted
  poisoned := hpoisoned.trans h.poisoned
  openUnit := hcoordinator ▸ h.openUnit
  roots := hdisk ▸ h.roots
  tables := hcoordinator ▸ h.tables
  levels := hcoordinator ▸ h.levels
  pending := hcoordinator ▸ h.pending
  statuses := hcoordinator ▸ h.statuses
  record hrecord := by
    rw [NoRecord, hcoordinator, hdisk]
    exact h.record hrecord

end World

namespace Database

open Operation

variable {w : World}

theorem withoutBus_stopped (w : World) :
    w.withoutBus.db.coordinator = w.db.coordinator ∧ w.withoutBus.disk = w.disk ∧
      w.withoutBus.db.poisoned = w.db.poisoned ∧ w.withoutBus.db.busStopped = true := by
  unfold World.withoutBus
  dsimp only
  split
  · exact ⟨rfl, rfl, rfl, ‹_›⟩
  · split <;> exact ⟨rfl, rfl, rfl, rfl⟩

/-- Shutting down a database that runs succeeds, and closes it. -/
theorem shutdown_closes (h : w.Orderly) (hrun : w.Running)
    (hshutDown : w.db.coordinator.shutDown = false) (hstores : w.db.coordinator.DistinctStores)
    (hhealthy : w.disk.Healthy)
    (hfits : ¬(w.withCoordinator w.db.coordinator.committedOnly).Unencodable) :
    shutdown.Ends w fun r w' => r = .ok () ∧ w.ShutDown w' ∧ w'.Closed := by
  have hstop : (locked stop).Ends w fun r w' => r = .ok () ∧ w.ShutDown w' :=
    locked_of_ne_panic hrun.1 ((stop_drains h hstores hhealthy hrun.2 hshutDown hfits).mono
      fun r w' hend => ⟨hend.1 ▸ nofun, hend⟩)
  apply shutdown_rule
  case lockedOut =>
    intro hpoisoned
    cases hpoisoned.symm.trans hrun.1
  case stopped =>
    intro _
    refine hstop.mono fun r w₁ hend => ?_
    obtain ⟨rfl, hdown⟩ := hend
    obtain ⟨hcoordinator, hdisk, hpoisoned, hbus⟩ := withoutBus_stopped w₁
    have hdown := hdown.congr hcoordinator hdisk hpoisoned
    exact ⟨rfl, hdown, hdown.closed hrun.1 hbus⟩

/-- Shutting down what is closed succeeds and changes nothing. -/
theorem shutdown_of_closed (h : w.Closed) : shutdown.Ends w fun r w' => r = .ok () ∧ w' = w := by
  have hbus : w.withoutBus = w := if_pos h.busStopped
  apply shutdown_rule
  case lockedOut =>
    intro hpoisoned
    cases hpoisoned.symm.trans h.poisoned
  case stopped =>
    intro _
    refine locked_of_ne_panic h.poisoned ?_
    apply stop_rule
    case stopped => exact fun _ => ⟨nofun, rfl, hbus⟩
    all_goals
      intros
      simp_all [h.shutDown]

end Database

/-- Whether the command asks first whether the database runs. The others
resolve sessions, check the chains or stop the database. -/
def Command.needsRunning : Command → Bool
  | addTable .. | openSession .. | revoke | merge | popMany .. | enable | disable | setCursor ..
  | setMaxSize .. | setMaxFlushCount .. | write .. => true
  | commitSession .. | revokeSession .. | dropSession .. | commit | check | shutdown => false

namespace Operation

variable {α β : Type} {w : World}

/-- The operation is refused because the database was shut down, and
nothing has changed. -/
def ShutOut (w : World) (r : Except Fault α) (w' : World) : Prop :=
  r = .error (.error (.illegalState .shutDown)) ∧ w' = w

theorem ensureRunning_shutOut (h : w.Closed) (next : Unit → Operation α) :
    (ensureRunning >>= next).Ends w (ShutOut w) := by
  have hstopped : w.db.coordinator.stopped? = some .shutDown := by
    rw [Coordinator.stopped?, h.halted, h.shutDown]
    rfl
  rw [ends_bind, ends_ensureRunning, hstopped]
  exact ⟨rfl, rfl⟩

theorem bind_shutOut {body : Operation α} (hbody : body.Ends w (ShutOut w))
    (next : α → Operation β) : (body >>= next).Ends w (ShutOut w) := by
  rw [ends_bind]
  refine hbody.mono fun r w' hend => ?_
  obtain ⟨rfl, rfl⟩ := hend
  exact ⟨rfl, rfl⟩

theorem locked_shutOut (h : w.Closed) {body : Operation α} (hbody : body.Ends w (ShutOut w)) :
    (locked body).Ends w (ShutOut w) :=
  locked_of_ne_panic h.poisoned (hbody.mono fun _ _ hend => ⟨hend.1 ▸ nofun, hend⟩)

end Operation

open Operation

/-- A command has changed nothing. If it needs the database to run, it was
refused because the database was shut down; and to shut it down again is
no error. -/
def Command.Idle (command : Command) (w : World) (r : Except Fault Reply) (w' : World) : Prop :=
  w' = w ∧ (command.needsRunning = true → r = .error (.error (.illegalState .shutDown))) ∧
    (command = .shutdown → r = .ok .done)

/-- Nothing changes a closed database any more. -/
theorem Command.run_closed {w : World} (h : w.Closed) (command : Command) :
    command.run.Ends w (command.Idle w) := by
  have hrefused : ∀ {body : Operation Reply} {command : Command}, command ≠ .shutdown →
      body.Ends w (ShutOut w) → body.Ends w (command.Idle w) :=
    fun hne hbody => hbody.mono fun r w' hend =>
      ⟨hend.2, fun _ => hend.1, fun heq => absurd heq hne⟩
  -- No session is open, so what resolves one has nothing to do.
  have hstale : ∀ {command : Command}, command ≠ .shutdown → command.needsRunning = false →
      w.db.coordinator.Stale command → command.run.Ends w (command.Idle w) :=
    fun hne hneeds hstale => (Command.eq_of_stale hstale).mono fun r w' hend =>
      ⟨hend, fun hneeds' => absurd (hneeds.symm.trans hneeds') nofun, fun heq => absurd heq hne⟩
  cases command with
  | addTable name root =>
    exact hrefused nofun (bind_shutOut
      (locked_shutOut h (bind_shutOut (ensureRunning_shutOut h _) _)) _)
  | openSession | revoke | merge | popMany | enable | disable | setCursor | setMaxSize
  | setMaxFlushCount | write =>
    exact hrefused nofun (bind_shutOut (locked_shutOut h (ensureRunning_shutOut h _)) _)
  | commitSession session => exact hstale nofun rfl (.commitSession session (h.sessions session.id))
  | revokeSession session => exact hstale nofun rfl (.revokeSession session (h.sessions session.id))
  | dropSession session => exact hstale nofun rfl (.dropSession session (h.sessions session.id))
  | commit => exact hstale nofun rfl (.commit h.sessions)
  | check =>
    have hcheck : (locked Operation.check).Ends w fun _ w' => w' = w := by
      refine locked_of_ne_panic h.poisoned ?_
      rw [ends_check, ends_recoverRunning_of_stopped (.inr h.shutDown)]
      dsimp only
      split <;> exact ⟨nofun, rfl⟩
    exact (Ends.answer Reply.report hcheck).mono fun r w' hend => ⟨hend, nofun, nofun⟩
  | shutdown =>
    show (do Database.shutdown; return .done : Operation Reply).Ends w _
    rw [ends_bind]
    refine (Database.shutdown_of_closed h).mono fun r w' hend => ?_
    obtain ⟨rfl, rfl⟩ := hend
    exact ⟨rfl, nofun, fun _ => rfl⟩

namespace World

variable {w : World}

/-- A closed database stays as it is, whatever is called. -/
theorem Closed.act (h : w.Closed) (move : Move) :
    (move.act w).db = w.db ∧ (move.act w).Closed := by
  cases move with
  | call command =>
    have hsame : (Move.call command).act w = w := (command.run_closed h).1
    exact ⟨congrArg World.db hsame, hsame.symm ▸ h⟩
  | close =>
    have hsame : Database.drop.Ends w fun _ w' => w' = w := by
      rw [Database.ends_drop]
      refine (Database.shutdown_of_closed h).mono fun r w' hend => ?_
      obtain ⟨rfl, rfl⟩ := hend
      exact rfl
    have hsame : Move.close.act w = w := hsame
    exact ⟨congrArg World.db hsame, hsame.symm ▸ h⟩
  | setPlan store plan =>
    exact ⟨rfl, h.poisoned, h.halted, h.shutDown, h.openUnit, h.sessions, h.busStopped⟩

theorem Closed.play (h : w.Closed) (moves : List Move) :
    (w.play moves).db = w.db ∧ (w.play moves).Closed := by
  induction moves generalizing w with
  | nil => exact ⟨rfl, h⟩
  | cons move moves ih =>
    obtain ⟨hdb, hclosed⟩ := h.act move
    obtain ⟨hdb', hclosed'⟩ := ih hclosed
    exact ⟨hdb'.trans hdb, hclosed'⟩

/-- Shutting a database down in any state that a run reaches, with any
unit of work open, succeeds and makes what was committed durable: every
root holds what its table read as at the head without the open unit of
work, no layer is left, the sessions that were open are revoked, and the
journal holds no record if it held none before (`ShutDown`). From then on,
whatever is called, the database stays as it is; what needs it to run is
refused for being shut down, and shutting it down again succeeds.

The stores are distinct and none is set to fail, and the lengths in what
is to be flushed fit into the four bytes that a record has for each. -/
theorem shutdown_keeps_committed (disk : Disk) (configuration : Configuration) (journal : String)
    (handlers : List Handler) (moves : List Move) :
    let w := (opened disk configuration journal handlers).play moves
    let w' := (Command.shutdown.run.perform w).2
    w.Running → w.db.coordinator.shutDown = false → w.db.coordinator.DistinctStores →
    w.disk.Healthy → ¬(w.withCoordinator w.db.coordinator.committedOnly).Unencodable →
    (Command.shutdown.run.perform w).1 = .ok .done ∧ w.ShutDown w' ∧
    ∀ (later : List Move) (command : Command), let v := w'.play later
      v.db = w'.db ∧ (command.run.perform v).2 = v ∧
      (command.needsRunning = true →
        (command.run.perform v).1 = .error (.error (.illegalState .shutDown))) ∧
      (command = .shutdown → (command.run.perform v).1 = .ok .done) := by
  intro w w' hrun hshutDown hstores hhealthy hfits
  have h : w.Orderly := play_orderly disk configuration journal handlers moves
  have hcloses : Command.shutdown.run.Ends w fun r w' =>
      r = .ok .done ∧ w.ShutDown w' ∧ w'.Closed := by
    show (do Database.shutdown; return .done : Operation Reply).Ends w _
    rw [ends_bind]
    have hshut := Database.shutdown_closes h hrun hshutDown hstores hhealthy hfits
    refine hshut.mono fun r w' hend => ?_
    obtain ⟨rfl, hend⟩ := hend
    exact ⟨rfl, hend⟩
  obtain ⟨hok, hdown, hclosed⟩ := hcloses
  refine ⟨hok, hdown, fun later command => ?_⟩
  obtain ⟨hdb, hclosed'⟩ := hclosed.play later
  exact ⟨hdb, command.run_closed hclosed'⟩

/-- The layer of a first unit of work is pending, and a second unit is
open, with two sessions, when the database is shut down. The root holds
what the first has written, and nothing of the second. -/
theorem shutdown_keeps_committed_open_unit :
    let w := (opened .empty { maxSize := 1, maxFlushCount := 5 } "journal" []).play
      [.call (.addTable "a" "left"), .call (.addTable "b" "right"), .call (.openSession false),
        .call (.write ⟨0, "a"⟩ [1] (.value [10])), .call .commit, .call (.openSession false),
        .call (.openSession false), .call (.write ⟨0, "a"⟩ [1] (.value [20])),
        .call (.write ⟨1, "b"⟩ [2] (.value [30]))]
    let w' := (Command.shutdown.run.perform w).2
    w.db.coordinator.levels = [1, 2] ∧ w.db.coordinator.pending = 1 ∧
      w.db.coordinator.openUnit = some ⟨some 2, [1, 2], false⟩ ∧
      (Command.shutdown.run.perform w).1 = .ok .done ∧ w.ShutDown w' ∧
      (w'.disk.contents "left").get? [1] = some [10] ∧
      (w'.disk.contents "right").get? [2] = none := by
  intro w w'
  have hrun : w.Running := ⟨by decide +kernel, by decide +kernel⟩
  have hstores : w.db.coordinator.DistinctStores :=
    (Coordinator.distinctStores_iff _).mpr (by decide +kernel)
  have hfits : ¬(w.withCoordinator w.db.coordinator.committedOnly).Unencodable := by
    unfold Unencodable
    decide +kernel
  obtain ⟨hok, hdown, -⟩ := shutdown_keeps_committed _ _ _ _ _ hrun (by decide +kernel) hstores
    (Disk.healthy_of_forall (by decide +kernel)) hfits
  exact ⟨by decide +kernel, by decide +kernel, by decide +kernel, hok, hdown, by decide +kernel,
    by decide +kernel⟩

end World

end LayeredStore

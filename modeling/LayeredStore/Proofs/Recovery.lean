import LayeredStore.Proofs.Runs
import LayeredStore.Proofs.RoundTrip
import Mathlib.Algebra.GroupWithZero.Nat

/-!
# `LayeredStore.Proofs.Recovery`: a flush survives a crash

A flush is stopped at one of its writes, the database is let go of, and
databases are opened over the same stores until one of them is checked
with success. Then the roots hold either what they held before the
flush, or all that the flush was to write, and no mixture.

Between the crash and that check the disk is in one of two states. It is
`Settled` if the record never reached the journal, or was removed again:
the roots hold what they should. It is `Interrupted` if the journal
holds the record: carrying it out makes the roots hold what they should,
however much of it was carried out before.

* `drop_idle`: a database that has stopped, or has no layers, writes
  nothing when it is let go of.
* `FlushEnd.leftBehind`: what a stopped flush leaves.
* `checks_interrupted`, `checks_settled`: what checks make of it.
* `flush_survives_crash`: so the flush is undone or done, in all tables.
-/

set_option autoImplicit false

namespace LayeredStore

open World Operation

/-! ### Databases with nothing to write -/

namespace World

/-- A database that has stopped, or has no layers, has nothing to
write. -/
def Idle (w : World) : Prop := w.Running → w.db.coordinator.levels = []

/-- Nothing was written, and there is still nothing to write. -/
def Idles (w w' : World) : Prop :=
  w'.disk = w.disk ∧ w'.db.poisoned = w.db.poisoned ∧ w'.Idle

variable {w w' : World}

/-- A step of a database that has stopped writes nothing. -/
theorem Act.disk_of_stopped (h : Act w w') (hstopped : ¬w.Running) :
    w'.disk = w.disk ∧ ¬w'.Running := by
  have hstopped' : ¬w'.Running := fun hrun => hstopped (h.keeps.running hrun)
  refine ⟨?_, hstopped'⟩
  -- The steps that write are all made by databases that run.
  cases h with
  | poison | discard => rfl
  | recover hrun => exact absurd hrun hstopped
  | quiet h =>
    cases h with
    | say | settings | bus | solidify | commit => rfl
    | flush hrun | crash hrun => exact absurd hrun hstopped

theorem Acts.disk_of_stopped (h : Acts w w') (hstopped : ¬w.Running) :
    w'.disk = w.disk ∧ ¬w'.Running := by
  induction h with
  | refl => exact ⟨rfl, hstopped⟩
  | tail _ hstep ih =>
    obtain ⟨hdisk, hstopped'⟩ := hstep.disk_of_stopped ih.2
    exact ⟨hdisk.trans ih.1, hstopped'⟩

end World

namespace Operation

variable {w : World}

/-- Discarding a layer writes nothing. -/
theorem retreat_idles (hidle : w.Idle) (operation : String) (verified? : Option Bool) :
    (retreat operation verified?).Ends w fun _ w' => w.Idles w' := by
  by_cases hdepth : w.db.coordinator.depth = 0
  · rw [ends_retreat_of_empty hdepth]
    exact ⟨rfl, rfl, hidle⟩
  · -- There is a layer, so by `hidle` the database has stopped.
    rw [ends_retreat (Nat.pos_of_ne_zero hdepth)]
    refine ⟨rfl, rfl, fun hrun => ?_⟩
    have hhalted : w.db.coordinator.halted = false := by
      have hhalted := hrun.2
      simpa [withCoordinator, Coordinator.bump, Coordinator.discardHead, Coordinator.mapTables]
        using hhalted
    have hnil := hidle ⟨hrun.1, hhalted⟩
    rw [Coordinator.depth, hnil] at hdepth
    exact absurd (Nat.zero_sub _) hdepth

/-- Discarding a unit of work writes nothing. -/
theorem revokeUnit_idles (hidle : w.Idle) : revokeUnit.Ends w fun _ w' => w.Idles w' := by
  have hleave : ∀ w', w.Idles w' → leaveForced.Ends w' fun _ w'' => w.Idles w'' := by
    intro w' h
    rw [ends_leaveForced]
    split <;> exact h
  apply revokeUnit_rule
  case idle => exact fun _ => ⟨rfl, rfl, hidle⟩
  case closed =>
    intro unit c _ hc
    have hclosed : (w.withCoordinator c).Idle := by
      subst hc
      exact hidle
    have hretreat : (retreat "revoke" none).Ends (w.withCoordinator c) fun _ w' => w.Idles w' :=
      retreat_idles hclosed "revoke" none
    exact ⟨fun _ => hleave _ ⟨rfl, rfl, hclosed⟩,
      fun _ _ => hretreat.mono_cases (fun _ => hleave) fun _ _ => id⟩

/-- Stopping writes nothing. -/
theorem stop_idles (hidle : w.Idle) (hpoisoned : w.db.poisoned = false) :
    stop.Ends w fun _ w' => w'.disk = w.disk := by
  have hflush : ∀ w', w.Idles w' → flushLeft.Ends w' fun _ w'' => w''.disk = w.disk := by
    intro w' h
    obtain ⟨hdisk, hpoisoned', hidle'⟩ := h
    have hall : flushAll.Ends w' fun _ w'' => w''.disk = w.disk := by
      apply flushAll_rule
      case halted => exact fun _ => hdisk
      case flushed =>
        -- The database runs, so there is no level to flush.
        intro hhalted
        have hnil := hidle' ⟨hpoisoned'.trans hpoisoned, hhalted⟩
        unfold flushOldest
        simp only [ends_bind, ends_getCoordinator, ends_ite, ends_pure, hnil, List.length_nil,
          Nat.min_self, if_true]
        exact hdisk
    rw [ends_flushLeft]
    refine hall.mono fun r w'' h => ?_
    match r with
    | .ok () => exact h
    | .error (.error error) => exact h
    | .error .panic => exact h
  apply stop_rule
  case stopped => exact fun _ => rfl
  case revoked =>
    intro unit _ _
    have hsay : (w.say .shuttingDownWithSession).Idle := hidle
    rw [ends_revokeLeft]
    refine (revokeUnit_idles hsay).mono fun r w' h => ?_
    match r with
    | .ok () => exact hflush w' h
    | .error (.error error) => exact hflush _ h
    | .error .panic => exact h.1
  case flushed => exact fun _ _ => hflush w ⟨rfl, rfl, hidle⟩

end Operation

/-- Letting go of a database that has nothing to write writes
nothing. -/
theorem Database.drop_idle {w : World} (hidle : w.Idle) :
    (Database.drop.perform w).2.disk = w.disk := by
  -- Stopping the bus publishes at most a notice.
  have hbus : ∀ w' : World, w'.withoutBus.disk = w'.disk := by
    intro w'
    unfold World.withoutBus
    dsimp only
    split
    · rfl
    · split <;> rfl
  have hshutdown : Database.shutdown.Ends w fun _ w' => w'.disk = w.disk := by
    apply Database.shutdown_rule
    case lockedOut => exact fun _ => rfl
    case stopped =>
      intro hpoisoned
      rw [ends_locked, if_neg (ne_true_of_eq_false hpoisoned)]
      refine (stop_idles hidle hpoisoned).mono fun r w' h => ?_
      match r with
      | .ok () => exact (hbus w').trans h
      | .error (.error error) => exact (hbus w').trans h
      | .error .panic => exact h
  have hdrop : Database.drop.Ends w fun _ w' => w'.disk = w.disk := by
    rw [Database.ends_drop]
    refine hshutdown.mono fun r w' h => ?_
    match r with
    | .ok () => exact h
    | .error (.error error) => exact h
    | .error .panic => exact h
  exact hdrop

/-! ### Databases opened after a crash -/

/-- How a database is opened again: how the stores are set to fail from
then on, its configuration and its handlers, and the tables in the order
in which they are registered, each with its root. -/
structure Restart where
  plans : List (String × Option FaultPlan)
  configuration : Configuration
  handlers : List Handler
  tables : List (String × String)

namespace Restart

/-- The moves that set the stores and register the tables. -/
def moves (restart : Restart) : List Move :=
  restart.plans.map (fun plan => .setPlan plan.1 plan.2) ++
    restart.tables.map fun table => .call (.addTable table.1 table.2)

/-- The database opened over a disk, with its tables registered. -/
def world (restart : Restart) (journal : String) (disk : Disk) : World :=
  (opened disk restart.configuration journal restart.handlers).play restart.moves

/-- The check of the database, and the world after it. -/
def check (restart : Restart) (journal : String) (disk : Disk) :
    Except Fault CheckReport × World :=
  Database.check.perform (restart.world journal disk)

end Restart

/-- Databases are opened over a disk one after the other, each checked
once and let go of: what each check answers, and the disk after it. -/
def checks (journal : String) : Disk → List Restart → List (Except Fault CheckReport × Disk)
  | _, [] => []
  | disk, restart :: restarts =>
    let (result, w) := restart.check journal disk
    (result, w.disk) :: checks journal (Database.drop.perform w).2.disk restarts

/-- A database was opened over a disk and these tables were registered,
and nothing else has happened. -/
structure World.Fresh (w : World) (journal : String) (disk : Disk)
    (tables : List (String × String)) : Prop where
  running : w.Running
  notShut : w.db.coordinator.shutDown = false
  levels : w.db.coordinator.levels = []
  journal : w.db.coordinator.journal = journal
  registered : w.db.coordinator.registered = tables
  contents : ∀ store, w.disk.contents store = disk.contents store

section
variable {w : World} {journal : String} {disk : Disk} {tables : List (String × String)}

theorem World.Fresh.setPlan (h : w.Fresh journal disk tables) (store : String)
    (plan : Option FaultPlan) : ((Move.setPlan store plan).act w).Fresh journal disk tables :=
  { h with contents := fun other => (Disk.contents_setPlan _ _ _ other).trans (h.contents other) }

theorem World.Fresh.addTable (h : w.Fresh journal disk tables) {name : String} (root : String)
    (hname : name ∉ tables.map (·.1)) :
    ((Move.call (.addTable name root)).act w).Fresh journal disk (tables ++ [(name, root)]) := by
  have hstopped := Coordinator.stopped?_eq_none h.running.2 h.notShut
  have hrun : (Command.addTable name root).run.Ends w fun _ w' =>
      w'.Fresh journal disk (tables ++ [(name, root)]) := by
    unfold Command.run Database.addTable
    rw [ends_bind, ends_locked, if_neg (ne_true_of_eq_false h.running.1), ends_bind]
    apply addTable_rule
    case refused =>
      intro error herror
      cases hstopped.symm.trans herror
    case duplicate =>
      intro _ htaken
      rw [Coordinator.tableNames_eq, h.registered] at htaken
      exact absurd htaken hname
    case registered =>
      refine fun _ _ => { h with registered := ?_ }
      rw [← h.registered]
      exact List.map_append
  exact hrun

/-- A database opened over a disk, with its tables registered under
distinct names, is fresh. -/
theorem Restart.fresh (restart : Restart) (journal : String) (disk : Disk)
    (hnames : (restart.tables.map (·.1)).Nodup) :
    (restart.world journal disk).Fresh journal disk restart.tables := by
  have hplans : ∀ (plans : List (String × Option FaultPlan)) (w : World),
      w.Fresh journal disk [] →
        (w.play (plans.map fun plan => .setPlan plan.1 plan.2)).Fresh journal disk [] := by
    intro plans
    induction plans with
    | nil => exact fun _ h => h
    | cons plan plans ih => exact fun w h => ih _ (h.setPlan plan.1 plan.2)
  -- Each table comes under a name that those before it do not have.
  have htables : ∀ (todo tables : List (String × String)) (w : World),
      ((tables ++ todo).map (·.1)).Nodup → w.Fresh journal disk tables →
        (w.play (todo.map fun table => .call (.addTable table.1 table.2))).Fresh journal disk
          (tables ++ todo) := by
    intro todo
    induction todo with
    | nil =>
      intro tables w _ h
      rw [List.append_nil]
      exact h
    | cons table todo ih =>
      intro tables w hnodup h
      have hname : table.1 ∉ tables.map (·.1) := by
        rw [List.map_append, List.nodup_append] at hnodup
        intro hmem
        exact hnodup.2.2 _ hmem _ List.mem_cons_self rfl
      rw [List.append_cons] at hnodup ⊢
      exact ih (tables ++ [table]) _ hnodup (h.addTable table.2 hname)
  have hopened :
      (opened disk restart.configuration journal restart.handlers).Fresh journal disk [] :=
    ⟨⟨rfl, rfl⟩, rfl, rfl, rfl, rfl, fun _ => rfl⟩
  rw [Restart.world, Restart.moves, play_append]
  exact htables restart.tables [] _ hnames (hplans restart.plans _ hopened)

end

/-! ### The disk after a crash -/

/-- The journal holds no record, and the roots hold what they should. -/
structure Settled (c : Coordinator) (held : Chain → Contents) (d : Disk) : Prop where
  record : (d.contents c.journal).get? Journal.key = none
  roots : ∀ chain ∈ c.tables, d.contents chain.root = held chain

/-- The journal holds the record of a flush of the `n` oldest layers, and
carrying it out makes the roots hold what they should. -/
structure Interrupted (c : Coordinator) (n : Nat) (held : Chain → Contents) (d : Disk) : Prop where
  record : Journal.load (d.contents c.journal) = .ok (some (c.netRecord n))
  roots : ∀ chain ∈ c.tables,
    (d.contents chain.root).apply (chain.netOldest n).diff.toList = held chain

section
variable {c : Coordinator} {n : Nat} {held : Chain → Contents} {d d' : Disk}

theorem Settled.congr (h : Settled c held d)
    (hcontents : ∀ store, d'.contents store = d.contents store) : Settled c held d' where
  record := by
    rw [hcontents]
    exact h.record
  roots chain hmem := (hcontents chain.root).trans (h.roots chain hmem)

theorem Interrupted.congr (h : Interrupted c n held d)
    (hcontents : ∀ store, d'.contents store = d.contents store) : Interrupted c n held d' where
  record := by
    rw [hcontents]
    exact h.record
  roots chain hmem := by
    rw [hcontents]
    exact h.roots chain hmem

/-- Carrying out a part of the record leaves the rest to be done. -/
theorem Interrupted.after (h : Interrupted c n held d) (hstores : c.DistinctStores)
    {done failed : List (String × Batch)} (hafter : d.After done failed d')
    (hdone : done <+: c.netWrites n) : Interrupted c n held d' where
  record := by
    rw [hafter.contents, Contents.afterWrites_of_forall_ne fun write hwrite =>
      Coordinator.journal_ne_of_mem_netWrites hstores (hdone.subset hwrite)]
    exact h.record
  roots chain hmem := by
    rw [hafter.contents]
    have hnodup := Coordinator.netWrites_stores_nodup hstores n
    rcases Contents.afterWrites_of_prefix (d.contents chain.root) chain.root hnodup hdone
      with heq | heq
    · rw [heq]
      exact h.roots chain hmem
    · -- An entry says what a key holds, so saying it twice changes nothing.
      rw [heq, Coordinator.afterWrites_netWrites hstores n hmem, Contents.apply_apply]
      exact h.roots chain hmem

/-- A flush that was stopped after its record was written is
interrupted. -/
theorem interrupted_of_after (hstores : c.DistinctStores) (hfits : (c.netRecord n).fits = true)
    {done failed : List (String × Batch)}
    (hafter : d.After ((c.journal, Journal.recordBatch (c.netRecord n)) :: done) failed d')
    (hdone : done <+: c.netWrites n) :
    Interrupted c n
      (fun chain => (d.contents chain.root).overlay (Chain.diffs (chain.layers.take n))) d' where
  record := by
    rw [hafter.contents, ← List.singleton_append, Contents.afterWrites_append,
      Contents.afterWrites_singleton, Contents.afterWrites_of_forall_ne fun write hwrite =>
        Coordinator.journal_ne_of_mem_netWrites hstores (hdone.subset hwrite)]
    exact Journal.load_apply_recordBatch hfits _
  roots chain hmem := by
    have hrecord : (d.contents chain.root).afterWrites chain.root
        [(c.journal, Journal.recordBatch (c.netRecord n))] = d.contents chain.root :=
      Contents.afterWrites_singleton_of_ne (hstores.journal_ne hmem)
    have hnodup := Coordinator.netWrites_stores_nodup hstores n
    rw [hafter.contents, ← List.singleton_append, Contents.afterWrites_append, hrecord]
    rcases Contents.afterWrites_of_prefix (d.contents chain.root) chain.root hnodup hdone
      with heq | heq
    · rw [heq, chain.apply_netOldest]
    · rw [heq, Coordinator.afterWrites_netWrites hstores n hmem, Contents.apply_apply,
        chain.apply_netOldest]

/-- Once all of the record was carried out, its removal settles the
disk. -/
theorem settled_of_clear (hstores : c.DistinctStores)
    (hall : ∀ chain ∈ c.tables, d.contents chain.root = held chain)
    (hafter : d.After [c.clearWrite] [] d') : Settled c held d' where
  record := by
    rw [hafter.contents]
    exact c.get?_afterWrites_clearWrite _
  roots chain hmem := by
    have hne : c.clearWrite.1 ≠ chain.root := hstores.journal_ne hmem
    rw [hafter.contents, Contents.afterWrites_singleton_of_ne hne]
    exact hall chain hmem

end

namespace Operation

variable {c : Coordinator} {n : Nat} {held : Chain → Contents} {w : World}

/-- Removing the record, once all of it was carried out. -/
private theorem clear_interrupted (hstores : c.DistinctStores)
    (h : Interrupted c n held w.disk)
    (hall : ∀ chain ∈ c.tables, w.disk.contents chain.root = held chain) :
    (do
      match ← write c.journal Journal.clearBatch with
      | none => return ()
      | some source => fail (.ioFailure journalName source) : Operation Unit).Ends w fun r w' =>
        match r with
        | .ok () => Settled c held w'.disk
        | .error _ => Interrupted c n held w'.disk := by
  rw [ends_bind, ends_write]
  cases hw : (w.disk.write c.journal Journal.clearBatch).1 with
  | ok u => exact settled_of_clear hstores hall (Disk.after_write_ok hw)
  | error failure =>
    have hcontents := (Disk.after_write_error hw).contents
    cases failure <;> exact h.congr hcontents

/-- Carrying the record out settles the disk, or leaves it
interrupted. -/
theorem replay_interrupted (hstores : c.DistinctStores)
    (hknown : ∀ chain ∈ c.tables, w.db.coordinator.rootOf? chain.name = some chain.root)
    (h : Interrupted c n held w.disk) :
    (replay c.journal (c.netRecord n)).Ends w fun r w' => match r with
      | .ok () => Settled c held w'.disk
      | .error _ => Interrupted c n held w'.disk := by
  unfold replay
  simp only [ends_ite]
  split
  · rw [ends_bind]
    have hroots := Coordinator.rootWrites_netRecord hknown n
    refine (applyRecord_ends w _ (Coordinator.isSome_rootOf?_netRecord hknown n)).mono
      fun r w₁ hend => ?_
    cases hend with
    | @all d hafter =>
      rw [hroots] at hafter
      refine clear_interrupted hstores (h.after hstores hafter (List.prefix_refl _)) ?_
      intro chain hmem
      show d.contents chain.root = _
      rw [hafter.contents, Coordinator.afterWrites_netWrites hstores n hmem]
      exact h.roots chain hmem
    | halted hsplit hafter =>
      rw [hroots] at hsplit
      exact h.after hstores hafter ⟨_, hsplit.symm⟩
    | crashed hsplit hafter =>
      rw [hroots] at hsplit
      exact h.after hstores hafter ⟨_, hsplit.symm⟩
  · rename_i hempty
    -- A record without entries is carried out as it is.
    refine clear_interrupted hstores h fun chain hmem => ?_
    have hnil : (chain.netOldest n).diff.toList = [] := by
      have hall : (c.netRecord n).isEmpty = true := by simpa using hempty
      have htable : (chain.name, (chain.netOldest n).diff.toList) ∈ (c.netRecord n).tables :=
        List.mem_map_of_mem hmem
      exact List.isEmpty_iff.mp (List.all_eq_true.mp hall _ htable)
    have hroot := h.roots chain hmem
    rw [hnil] at hroot
    exact hroot

/-- A check of a fresh database carries out the record of an interrupted
flush, and answers the number of its entries; or it fails, and the flush
stays interrupted. -/
theorem check_interrupted (hstores : c.DistinctStores) (hsound : w.db.coordinator.Sound)
    (hrun : w.Running) (hshut : w.db.coordinator.shutDown = false)
    (hjournal : w.db.coordinator.journal = c.journal)
    (hknown : ∀ chain ∈ c.tables, w.db.coordinator.rootOf? chain.name = some chain.root)
    (h : Interrupted c n held w.disk) :
    check.Ends w fun r w' => match r with
      | .ok report => Settled c held w'.disk ∧ report.recoveredKeys = (c.netRecord n).size
      | .error _ => Interrupted c n held w'.disk := by
  have hload : Journal.load (w.disk.contents w.db.coordinator.journal) =
      .ok (some (c.netRecord n)) := by
    rw [hjournal]
    exact h.record
  rw [ends_check]
  -- The record that is found is that of the interrupted flush.
  apply recoverRunning_rule
  case stopped =>
    intro hstopped
    simp [hrun.2, hshut] at hstopped
  case unreadable =>
    intro _ _ _ hother
    cases hload.symm.trans hother
  case nothing =>
    intro _ _ hother
    cases hload.symm.trans hother
  case found =>
  intro _ _ _ hfound
  obtain rfl : c.netRecord n = _ := Option.some.inj (Except.ok.inj (hload.symm.trans hfound))
  rw [hjournal]
  have hstacks := replay_stacks (w.say (.journalFound (c.netRecord n).size)) c.journal
    (c.netRecord n)
  have hreplay := replay_interrupted (w := w.say (.journalFound (c.netRecord n).size)) hstores
    hknown h
  refine (hreplay.and hstacks).mono fun r w' hend => ?_
  obtain ⟨hdisk, hsame, -⟩ := hend
  match r, hdisk with
  | .error fault, hdisk => exact hdisk
  | .ok (), hdisk =>
    have hsound' : w'.db.coordinator.Sound := hsound.congr hsame
    simp only [hsound'.checkChains?_eq_none]
    exact ⟨hdisk, trivial⟩

/-- A check where the journal holds no record writes nothing and recovers
nothing. -/
theorem check_settled (hsound : w.db.coordinator.Sound)
    (hrecord : (w.disk.contents w.db.coordinator.journal).get? Journal.key = none) :
    check.Ends w fun r w' => w'.disk = w.disk ∧
      ∀ report, r = .ok report → report.recoveredKeys = 0 := by
  rw [ends_check]
  refine (recoverRunning_of_noRecord hrecord).mono fun r w' hend => ?_
  obtain ⟨rfl, rfl⟩ := hend
  simp only [hsound.checkChains?_eq_none]
  refine ⟨trivial, fun report hreport => ?_⟩
  cases hreport
  rfl

end Operation

/-! ### One restart after the other -/

section
variable {c : Coordinator} {n : Nat} {held : Chain → Contents} {d : Disk} {restart : Restart}

theorem Restart.sound (restart : Restart) (journal : String) (d : Disk) :
    (restart.world journal d).db.coordinator.Sound :=
  play_sound d restart.configuration journal restart.handlers restart.moves

/-- The tables of a restart have distinct names. -/
theorem names_nodup (hsound : c.Sound) (hperm : restart.tables.Perm c.registered) :
    (restart.tables.map (·.1)).Nodup := by
  have hnames := hsound.names
  rw [Coordinator.tableNames_eq] at hnames
  exact (hperm.map _).nodup_iff.mpr hnames

/-- The tables of a restart are those of the database before the crash,
whatever the order in which they were registered. -/
theorem Restart.rootOf? (hsound : c.Sound) (hperm : restart.tables.Perm c.registered) :
    ∀ chain ∈ c.tables, (restart.world c.journal d).db.coordinator.rootOf? chain.name =
      some chain.root := by
  intro chain hmem
  have hfresh := restart.fresh c.journal d (names_nodup hsound hperm)
  have hregistered : (chain.name, chain.root) ∈
      (restart.world c.journal d).db.coordinator.registered := by
    rw [hfresh.registered, hperm.mem_iff]
    exact List.mem_map_of_mem hmem
  obtain ⟨chain', hmem', heq⟩ := List.mem_map.mp hregistered
  obtain ⟨hname, hroot⟩ := Prod.mk.inj heq
  rw [← hname, ← hroot]
  exact Coordinator.rootOf?_of_mem (restart.sound c.journal d).names hmem'

/-- Letting go of a database that was opened and checked writes
nothing. -/
theorem Restart.drop_check (hnames : (restart.tables.map (·.1)).Nodup) (journal : String)
    (d : Disk) : (Database.drop.perform (restart.check journal d).2).2.disk =
      (restart.check journal d).2.disk := by
  have hfresh := restart.fresh journal d hnames
  have hpath : Database.check.Ends (restart.world journal d) fun _ w' =>
      Acts (restart.world journal d) w' :=
    locked_path (fun _ => .refl) fun hpoisoned => check_led (restart.sound journal d) hpoisoned
  have hpath : Acts (restart.world journal d) (restart.check journal d).2 := hpath
  refine Database.drop_idle fun _ => ?_
  have hlevels := hpath.keeps.levels
  -- The steps of a check add no level, and the database was opened with none.
  rw [hfresh.levels] at hlevels
  exact List.subset_nil.mp hlevels

/-- A check of a database opened over a disk with an interrupted flush
completes the flush, or fails and leaves it interrupted. -/
theorem Restart.check_interrupted (hsound : c.Sound) (hstores : c.DistinctStores)
    (hperm : restart.tables.Perm c.registered) (h : Interrupted c n held d) :
    (∀ report, (restart.check c.journal d).1 = .ok report →
      Settled c held (restart.check c.journal d).2.disk ∧
        report.recoveredKeys = (c.netRecord n).size) ∧
    ∀ fault, (restart.check c.journal d).1 = .error fault →
      Interrupted c n held (restart.check c.journal d).2.disk := by
  have hfresh := restart.fresh c.journal d (names_nodup hsound hperm)
  have hcheck : Database.check.Ends (restart.world c.journal d) fun r w =>
      (∀ report, r = .ok report → Settled c held w.disk ∧
        report.recoveredKeys = (c.netRecord n).size) ∧
      ∀ fault, r = .error fault → Interrupted c n held w.disk := by
    unfold Database.check
    rw [ends_locked, hfresh.running.1]
    simp only [Bool.false_eq_true, if_false]
    refine (Operation.check_interrupted hstores (restart.sound c.journal d) hfresh.running
      hfresh.notShut hfresh.journal (Restart.rootOf? hsound hperm)
      (h.congr hfresh.contents)).mono fun r w hend => ?_
    match r, hend with
    | .ok report, hend => exact ⟨fun _ heq => by cases heq; exact hend, nofun⟩
    | .error (.error error), hend => exact ⟨nofun, fun _ _ => hend⟩
    | .error .panic, hend => exact ⟨nofun, fun _ _ => hend⟩
  exact hcheck

/-- A check of a database opened over a settled disk leaves the disk
settled. -/
theorem Restart.check_settled (hnames : (restart.tables.map (·.1)).Nodup)
    (h : Settled c held d) : Settled c held (restart.check c.journal d).2.disk ∧
      ∀ report, (restart.check c.journal d).1 = .ok report → report.recoveredKeys = 0 := by
  have hfresh := restart.fresh c.journal d hnames
  have hsettled := h.congr hfresh.contents
  have hrecord : ((restart.world c.journal d).disk.contents
      (restart.world c.journal d).db.coordinator.journal).get? Journal.key = none := by
    rw [hfresh.journal]
    exact hsettled.record
  have hcheck : Database.check.Ends (restart.world c.journal d) fun r w =>
      Settled c held w.disk ∧ ∀ report, r = .ok report → report.recoveredKeys = 0 := by
    unfold Database.check
    rw [ends_locked, hfresh.running.1]
    simp only [Bool.false_eq_true, if_false]
    refine (Operation.check_settled (restart.sound c.journal d) hrecord).mono fun r w hend => ?_
    obtain ⟨hdisk, hreport⟩ := hend
    match r, hreport with
    | .ok report, hreport => exact ⟨hdisk ▸ hsettled, hreport⟩
    | .error (.error error), hreport => exact ⟨hdisk ▸ hsettled, hreport⟩
    | .error .panic, _ => exact ⟨hdisk ▸ hsettled, nofun⟩
  exact hcheck

theorem checks_cons (journal : String) (d : Disk) (restart : Restart) (restarts : List Restart) :
    checks journal d (restart :: restarts) =
      ((restart.check journal d).1, (restart.check journal d).2.disk) ::
        checks journal (Database.drop.perform (restart.check journal d).2).2.disk restarts := rfl

/-- On a settled disk every check leaves the disk settled and recovers
nothing. -/
theorem checks_settled {restarts : List Restart} (hsound : c.Sound)
    (hperm : ∀ restart ∈ restarts, restart.tables.Perm c.registered) (h : Settled c held d) :
    ∀ result ∈ checks c.journal d restarts, Settled c held result.2 ∧
      ∀ report, result.1 = .ok report → report.recoveredKeys = 0 := by
  induction restarts generalizing d with
  | nil => exact fun _ hmem => by cases hmem
  | cons restart restarts ih =>
    have hnames := names_nodup hsound (hperm restart List.mem_cons_self)
    have hcheck := Restart.check_settled hnames h
    intro result hmem
    rw [checks_cons, Restart.drop_check hnames] at hmem
    rcases List.mem_cons.mp hmem with rfl | hmem
    · exact hcheck
    · exact ih (fun other ho => hperm other (List.mem_cons_of_mem _ ho)) hcheck.1 result hmem

/-- After an interrupted flush, the first check that succeeds completes
it and answers the number of its entries, and any check that succeeds
leaves the disk settled. -/
theorem checks_interrupted {restarts : List Restart} (hsound : c.Sound)
    (hstores : c.DistinctStores)
    (hperm : ∀ restart ∈ restarts, restart.tables.Perm c.registered) (h : Interrupted c n held d)
    {earlier later : List (Except Fault CheckReport × Disk)} {report : CheckReport} {d' : Disk}
    (hchecks : checks c.journal d restarts = earlier ++ (.ok report, d') :: later) :
    Settled c held d' ∧ report.recoveredKeys =
      if ∀ result ∈ earlier, result.1.isOk = false then (c.netRecord n).size else 0 := by
  induction restarts generalizing d earlier with
  | nil =>
    have hlength := congrArg List.length hchecks
    simp [checks] at hlength
  | cons restart restarts ih =>
    have hperm₁ := hperm restart List.mem_cons_self
    have hperm' : ∀ other ∈ restarts, other.tables.Perm c.registered :=
      fun other ho => hperm other (List.mem_cons_of_mem _ ho)
    obtain ⟨hok, herror⟩ := Restart.check_interrupted hsound hstores hperm₁ h
    rw [checks_cons, Restart.drop_check (names_nodup hsound hperm₁)] at hchecks
    cases earlier with
    | nil =>
      obtain ⟨hresult, -⟩ := List.cons.inj hchecks
      obtain ⟨hreport, rfl⟩ := Prod.mk.inj hresult
      rw [if_pos (by simp)]
      exact hok report hreport
    | cons first earlier =>
      rw [List.cons_append] at hchecks
      obtain ⟨rfl, hrest⟩ := List.cons.inj hchecks
      cases hfirst : (restart.check c.journal d).1 with
      | error fault =>
        -- It failed, so the next database finds the flush interrupted again.
        obtain ⟨hsettled, hkeys⟩ := ih hperm' (herror fault hfirst) hrest
        refine ⟨hsettled, hkeys.trans (if_congr ?_ rfl rfl)⟩
        rw [List.forall_mem_cons]
        exact ⟨fun hall => ⟨rfl, hall⟩, And.right⟩
      | ok report₁ =>
        -- It completed the flush, so the later ones find nothing to recover.
        have hmem : ((.ok report, d') : Except Fault CheckReport × Disk) ∈
            checks c.journal (restart.check c.journal d).2.disk restarts := by
          rw [hrest]
          simp
        obtain ⟨hsettled, hkeys⟩ := checks_settled hsound hperm' (hok report₁ hfirst).1 _ hmem
        refine ⟨hsettled, (hkeys report rfl).trans (if_neg fun hall => ?_).symm⟩
        have hfailed := hall _ List.mem_cons_self
        cases hfailed

end

namespace World

/-- The world is one that a run reaches, or passes through inside of a
call. -/
def Reachable (w : World) : Prop :=
  ∃ disk configuration journal handlers moves,
    Acts ((opened disk configuration journal handlers).play moves) w

theorem Reachable.sound {w : World} (h : w.Reachable) : w.db.coordinator.Sound := by
  obtain ⟨disk, configuration, journal, handlers, moves, hpath⟩ := h
  exact hpath.sound (play_sound disk configuration journal handlers moves)

end World

/-- What a flush that was stopped leaves: a disk settled as it was, if no
write was attempted after that of the record, and an interrupted one
otherwise. -/
def LeftBehind (w : World) (n : Nat) (d : Disk) : Prop :=
  ∃ writes, d.attempts = w.disk.attempts ++ writes ∧
    (writes.length ≤ 1 ∧
        Settled w.db.coordinator (fun chain => w.disk.contents chain.root) d ∨
      1 < writes.length ∧ Interrupted w.db.coordinator n (fun chain =>
        (w.disk.contents chain.root).overlay (Chain.diffs (chain.layers.take n))) d)

theorem FlushEnd.leftBehind {w w' : World} {n : Nat} {fault : Fault}
    (h : FlushEnd w n (.error fault) w') (hstores : w.db.coordinator.DistinctStores)
    (hrecord : w.NoRecord) : LeftBehind w n w'.disk := by
  have hsame : Settled w.db.coordinator (fun chain => w.disk.contents chain.root) w.disk :=
    ⟨hrecord, fun _ _ => rfl⟩
  -- The first of the writes is that of the record.
  have hstopped : ∀ {done rest : List (String × Batch)} {failed : String × Batch} {d : Disk},
      (w.db.coordinator.netRecord n).fits = true →
      w.db.coordinator.flushWrites n = done ++ failed :: rest → w.disk.After done [failed] d →
      LeftBehind w n d := by
    intro done rest failed d hfits hsplit hafter
    refine ⟨done ++ [failed], by rw [hafter.attempts, List.append_assoc], ?_⟩
    cases done with
    | nil => exact .inl ⟨Nat.le_refl _, hsame.congr hafter.contents⟩
    | cons first done =>
      rw [Coordinator.flushWrites, List.cons_append] at hsplit
      obtain ⟨rfl, hrest⟩ := List.cons.inj hsplit
      exact .inr ⟨by simp, interrupted_of_after hstores hfits hafter ⟨_, hrest.symm⟩⟩
  have hall : ∀ {d : Disk}, (w.db.coordinator.netRecord n).fits = true →
      w.disk.After (w.db.coordinator.flushWrites n) [w.db.coordinator.clearWrite] d →
      LeftBehind w n d := by
    intro d hfits hafter
    refine ⟨w.db.coordinator.flushWrites n ++ [w.db.coordinator.clearWrite],
      by rw [hafter.attempts, List.append_assoc], .inr ⟨?_, ?_⟩⟩
    · simp [Coordinator.flushWrites]
    · exact interrupted_of_after hstores hfits hafter (List.prefix_refl _)
  cases h with
  | unfit => exact ⟨[], (List.append_nil _).symm, .inl ⟨Nat.zero_le _, hsame⟩⟩
  | halted _ hfits hsplit hafter => exact hstopped hfits hsplit hafter
  | crashed _ hfits hsplit hafter => exact hstopped hfits hsplit hafter
  | unclearedHalted _ hfits hafter => exact hall hfits hafter
  | unclearedCrashed _ hfits hafter => exact hall hfits hafter

/-- A flush under the lock that is stopped leaves a database that has
stopped. -/
theorem Operation.flushOldest_stopped {w : World} (hnames : w.db.coordinator.tableNames.Nodup)
    (hstores : w.db.coordinator.DistinctStores) (hrecord : w.NoRecord) (count : Nat) :
    (locked (flushOldest count)).Ends w fun r w' => ∀ fault, r = .error fault →
      LeftBehind w (min count w.db.coordinator.levels.length) w'.disk ∧ ¬w'.Running := by
  rw [ends_locked]
  split
  · rename_i hpoisoned
    refine fun _ _ => ⟨⟨[], (List.append_nil _).symm,
      .inl ⟨Nat.zero_le _, hrecord, fun _ _ => rfl⟩⟩, fun hrun => ?_⟩
    rw [hrun.1] at hpoisoned
    cases hpoisoned
  refine (flushOldest_ends w hnames count).mono fun r w' hend => ?_
  match r, hend with
  | .ok (), _ => exact nofun
  | .error (.error error), hend =>
    refine fun _ _ => ⟨hend.leftBehind hstores hrecord, fun hrun => ?_⟩
    have hhalted := hrun.2
    rw [hend.halted_of_error] at hhalted
    cases hhalted
  | .error .panic, hend =>
    exact fun _ _ => ⟨hend.leftBehind hstores hrecord, fun hrun => nomatch hrun.1⟩

/-- A flush of the `count` oldest layers starts in a reachable world and
is stopped; the call that it is part of ends with further steps, and the
database is let go of. Then databases are opened over the same stores,
one after the other, with the same tables registered in any order, and
each is checked once and let go of, with the stores failing or not as
they are set to. Whenever such a check succeeds, the roots are the same
as before the flush if no write was attempted after that of the record,
and else all of them are overlaid with the layers that were to be moved;
the journal holds no record; and the first check that succeeds has
recovered what the record holds, if it was written. -/
theorem flush_survives_crash {w w₁ w₂ : World} (hreach : w.Reachable)
    (hstores : w.db.coordinator.DistinctStores) (hrecord : w.NoRecord) (count : Nat)
    {fault : Fault} (hstopped : (locked (flushOldest count)).perform w = (.error fault, w₁))
    (hunwind : Acts w₁ w₂) {restarts : List Restart}
    (hperm : ∀ restart ∈ restarts, restart.tables.Perm w.db.coordinator.registered)
    {earlier later : List (Except Fault CheckReport × Disk)} {report : CheckReport} {d : Disk}
    (hchecks : checks w.db.coordinator.journal (Database.drop.perform w₂).2.disk restarts =
      earlier ++ (.ok report, d) :: later) :
    ∃ writes, w₁.disk.attempts = w.disk.attempts ++ writes ∧
      (∀ chain ∈ w.db.coordinator.tables, d.contents chain.root =
        if 1 < writes.length then
          (w.disk.contents chain.root).overlay (Chain.diffs (chain.layers.take count))
        else w.disk.contents chain.root) ∧
      (d.contents w.db.coordinator.journal).get? Journal.key = none ∧
      report.recoveredKeys =
        if 1 < writes.length ∧ ∀ result ∈ earlier, result.1.isOk = false then
          (w.db.coordinator.tables.map fun chain =>
            (chain.netOldest count).diff.toList.length).sum
        else 0 := by
  have hsound := hreach.sound
  have hend := flushOldest_stopped hsound.names hstores hrecord count
  unfold Ends at hend
  rw [hstopped] at hend
  obtain ⟨⟨writes, hattempts, hleft⟩, hstopped₁⟩ := hend fault rfl
  -- Neither the end of the call nor letting go of the database writes anything.
  obtain ⟨hdisk₂, hstopped₂⟩ := hunwind.disk_of_stopped hstopped₁
  have hdropped : (Database.drop.perform w₂).2.disk = w₁.disk :=
    (Database.drop_idle fun hrun => absurd hrun hstopped₂).trans hdisk₂
  rw [hdropped] at hchecks
  -- More layers than there are cannot be asked for.
  have htake : ∀ chain ∈ w.db.coordinator.tables,
      chain.layers.take (min count w.db.coordinator.levels.length) = chain.layers.take count := by
    intro chain hmem
    rw [← (hsound.chains chain hmem).length_layers, List.take_eq_take_iff, Nat.min_assoc,
      Nat.min_self]
  have hsize : (w.db.coordinator.netRecord (min count w.db.coordinator.levels.length)).size =
      (w.db.coordinator.tables.map fun chain =>
        (chain.netOldest count).diff.toList.length).sum := by
    rw [JournalRecord.size, List.length_flatMap, Coordinator.netRecord, List.map_map]
    refine congrArg List.sum (List.map_congr_left fun chain hmem => ?_)
    show (chain.netOldest _).diff.toList.length = _
    rw [Chain.netOldest, htake chain hmem]
    rfl
  refine ⟨writes, hattempts, ?_⟩
  rcases hleft with ⟨hlength, hsettled⟩ | ⟨hlength, hinterrupted⟩
  · have hmem : ((.ok report, d) : Except Fault CheckReport × Disk) ∈
        checks w.db.coordinator.journal w₁.disk restarts := by
      rw [hchecks]
      simp
    obtain ⟨hsettled', hkeys⟩ := checks_settled hsound hperm hsettled _ hmem
    have hnot : ¬1 < writes.length := Nat.not_lt.mpr hlength
    refine ⟨fun chain hmem => ?_, hsettled'.record, ?_⟩
    · rw [if_neg hnot]
      exact hsettled'.roots chain hmem
    · rw [if_neg fun h => hnot h.1]
      exact hkeys report rfl
  · obtain ⟨hsettled', hkeys⟩ := checks_interrupted hsound hstores hperm hinterrupted hchecks
    refine ⟨fun chain hmem => ?_, hsettled'.record, ?_⟩
    · rw [if_pos hlength, ← htake chain hmem]
      exact hsettled'.roots chain hmem
    · rw [hkeys, hsize]
      exact if_congr ⟨fun h => ⟨hlength, h⟩, And.right⟩ rfl rfl

/-- A flush of two tables is stopped at the root of the second, and a
database opened after that, with the tables in the other order,
completes it. -/
theorem flush_survives_crash_second_root :
    let moves := [Move.call (.addTable "a" "left"), .call (.addTable "b" "right"),
      .call (.openSession false), .call (.write ⟨0, "a"⟩ [1] (.value [10])),
      .call (.write ⟨1, "b"⟩ [1] (.value [20])), .call (.commitSession ⟨0, false, false⟩),
      .setPlan "right" (some ⟨0, .error (.refused "full")⟩)]
    let w := (opened .empty {} "journal" []).play moves
    let crashed := ((locked (flushOldest 1)).perform w).2
    let disk := (Database.drop.perform crashed).2.disk
    let restart : Restart := ⟨[("right", none)], {}, [], [("b", "right"), ("a", "left")]⟩
    let report : CheckReport := ⟨0, 0, 2, 2, 0⟩
    let d := (restart.check w.db.coordinator.journal disk).2.disk
    w.Reachable ∧ w.db.coordinator.DistinctStores ∧ w.NoRecord ∧
      ((locked (flushOldest 1)).perform w).1 =
        .error (.error (.ioFailure "b" (.refused "full"))) ∧
      restart.tables.Perm w.db.coordinator.registered ∧
      (restart.check w.db.coordinator.journal disk).1 = .ok report ∧
      ∃ writes, crashed.disk.attempts = w.disk.attempts ++ writes ∧
        (∀ chain ∈ w.db.coordinator.tables, d.contents chain.root =
          if 1 < writes.length then
            (w.disk.contents chain.root).overlay (Chain.diffs (chain.layers.take 1))
          else w.disk.contents chain.root) ∧
        (d.contents w.db.coordinator.journal).get? Journal.key = none ∧
        report.recoveredKeys =
          if 1 < writes.length ∧ ∀ result ∈ ([] : List (Except Fault CheckReport × Disk)),
            result.1.isOk = false then
            (w.db.coordinator.tables.map fun chain =>
              (chain.netOldest 1).diff.toList.length).sum
          else 0 := by
  intro moves w crashed disk restart report d
  have hreach : w.Reachable := ⟨.empty, {}, "journal", [], moves, .refl⟩
  have hstores : w.db.coordinator.DistinctStores :=
    (Coordinator.distinctStores_iff _).mpr (by decide +kernel)
  have hrecord : w.NoRecord := by
    show (w.disk.contents w.db.coordinator.journal).get? Journal.key = none
    decide +kernel
  have hstopped : ((locked (flushOldest 1)).perform w).1 =
      .error (.error (.ioFailure "b" (.refused "full"))) := by decide +kernel
  have hperm : restart.tables.Perm w.db.coordinator.registered := by decide +kernel
  have hok : (restart.check w.db.coordinator.journal disk).1 = .ok report := by decide +kernel
  have hchecks : checks w.db.coordinator.journal disk [restart] = [] ++ (.ok report, d) :: [] := by
    rw [checks_cons, hok]
    rfl
  exact ⟨hreach, hstores, hrecord, hstopped, hperm, hok,
    flush_survives_crash hreach hstores hrecord 1 (Prod.ext hstopped rfl) .refl
      (fun other hmem => List.mem_singleton.mp hmem ▸ hperm) hchecks⟩

end LayeredStore

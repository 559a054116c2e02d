import LayeredStore.Proofs.Rollback
import LayeredStore.Proofs.Routes
import LayeredStore.Proofs.Standstill

/-!
# `LayeredStore.Proofs.Leftovers`: records that are left in the journal

A flush that is stopped leaves its record in the journal, and so does a
replay. The database halts after such a flush, but not after every such
replay, so a database that runs can find a record. It finds none that was
not there when it was opened, for a flush that writes one removes it or
halts the database.

* `World.KeepsRecord`: a database that runs after some steps ran before
  them, and finds what it would have found, or no record.
* `eq_or_record?_of_flushEnd`: a database that runs after a flush finds
  no record, unless the flush had nothing to do.
* `KeepsRecord.step`: every exact step keeps the record or removes it.
* `Checked` is what a check does, to the roots as well, and
  `check_checked` says that every check does this.
* `act_keepsRecord`, `play_keepsRecord`: so it is with every move and
  every run.
-/

set_option autoImplicit false

namespace LayeredStore

/-- A key that a batch says nothing about is left as it is. -/
theorem Contents.get?_apply_of_not_mem (contents : Contents) {batch : Batch} {key : Bytes}
    (h : key ∉ batch.map (·.1)) : (contents.apply batch).get? key = contents.get? key := by
  have hnone : batch.reverse.find? (·.1 = key) = none := by
    rw [List.find?_eq_none]
    intro pair hmem heq
    exact h (List.mem_map.mpr ⟨pair, List.mem_reverse.mp hmem, of_decide_eq_true heq⟩)
  rw [get?_apply, hnone]

/-- So is a key that a write to the store says nothing about, whether the
write is carried out or not. -/
theorem Disk.get?_write (disk : Disk) (store other : String) (batch : Batch) {key : Bytes}
    (h : other = store → key ∉ batch.map (·.1)) :
    ((disk.write store batch).2.contents other).get? key = (disk.contents other).get? key := by
  by_cases heq : other = store
  · subst heq
    cases hwrite : (disk.write other batch).1 with
    | ok u =>
      rw [(after_write_ok hwrite).contents, Contents.afterWrites_singleton]
      exact Contents.get?_apply_of_not_mem _ (h rfl)
    | error failure =>
      rw [(after_write_error hwrite).contents]
      rfl
  · unfold contents
    rw [store_write_of_ne disk store batch heq]

namespace World

/-- What the journal holds in the place of the record. -/
def record? (w : World) : Option Bytes :=
  (w.disk.contents w.db.coordinator.journal).get? Journal.key

/-- The journal holds a record that writes to the key of the table. -/
def Recorded (w : World) (name : String) (key : Bytes) : Prop :=
  ∃ record, Journal.load (w.disk.contents w.db.coordinator.journal) = .ok (some record) ∧
    ∃ batch, (name, batch) ∈ record.tables ∧ key ∈ batch.map (·.1)

/-- A database that runs now ran before, and its journal holds what it
held, or no record. -/
def KeepsRecord (w w' : World) : Prop :=
  w'.Running → w.Running ∧ (w'.record? = none ∨ w'.record? = w.record?)

section
variable {w w' w'' w₁ : World} {n : Nat} {r : Except Fault Unit}

theorem KeepsRecord.refl (w : World) : w.KeepsRecord w := fun hrun => ⟨hrun, .inr rfl⟩

theorem KeepsRecord.trans (h : w.KeepsRecord w') (h' : w'.KeepsRecord w'') :
    w.KeepsRecord w'' := by
  intro hrun
  obtain ⟨hrun', hrecord'⟩ := h' hrun
  obtain ⟨hrun₀, hrecord⟩ := h hrun'
  refine ⟨hrun₀, ?_⟩
  rcases hrecord' with hnone | hsame
  · exact .inl hnone
  · rwa [hsame]

theorem KeepsRecord.of_record? (hkeeps : w.Keeps w') (hrecord : w'.record? = w.record?) :
    w.KeepsRecord w' := fun hrun => ⟨hkeeps.running hrun, .inr hrecord⟩

theorem KeepsRecord.of_disk (hkeeps : w.Keeps w') (hdisk : w'.disk = w.disk) :
    w.KeepsRecord w' := by
  refine .of_record? hkeeps ?_
  rw [record?, record?, hdisk, hkeeps.journal]

/-- The tables keep their places, their names and their roots. -/
theorem Keeps.exists_chain (h : w.Keeps w') {table : Nat} {chain : Chain}
    (hchain : w.db.coordinator.tables[table]? = some chain) :
    ∃ chain', w'.db.coordinator.tables[table]? = some chain' ∧ chain'.name = chain.name ∧
      chain'.root = chain.root := by
  refine Coordinator.exists_table_of_registered ?_
  rw [h.registered]
  exact Coordinator.registered_of_table hchain

theorem not_recorded_of_record? (h : w.record? = none) (name : String) (key : Bytes) :
    ¬w.Recorded name key := by
  rintro ⟨record, hload, -⟩
  unfold record? at h
  rw [Journal.load, h] at hload
  cases hload

/-- A record that writes to the key was there before. -/
theorem KeepsRecord.not_recorded (h : w.KeepsRecord w') {name : String} {key : Bytes}
    (hclear : w.Running → ¬w.Recorded name key) (hrun : w'.Running) : ¬w'.Recorded name key := by
  obtain ⟨hrun₀, hnone | hsame⟩ := h hrun
  · exact not_recorded_of_record? hnone name key
  · unfold record? at hsame
    rintro ⟨record, hload, hwrites⟩
    rw [Journal.load, hsame] at hload
    exact hclear hrun₀ ⟨record, hload, hwrites⟩

/-! ### Steps -/

/-- Leaving the lock changes neither the coordinator nor the stores. -/
theorem Unlocks.same (h : Unlocks r w₁ w') :
    w'.db.coordinator = w₁.db.coordinator ∧ w'.disk = w₁.disk := by
  rcases h with ⟨-, rfl⟩ | ⟨-, rfl⟩ <;> exact ⟨rfl, rfl⟩

theorem Unlocks.keeps (h : Unlocks r w₁ w') (hkeeps : w.Keeps w₁) : w.Keeps w' := by
  rcases h with ⟨-, rfl⟩ | ⟨-, rfl⟩
  · exact hkeeps
  · exact { hkeeps with poisoned := fun _ => rfl }

/-- A flush that fails stops the database. -/
theorem not_running_of_flushEnd {fault : Fault} (h : FlushEnd w n (.error fault) w₁)
    (hunlocks : Unlocks (.error fault) w₁ w') : ¬w'.Running := by
  intro hrun
  rcases hunlocks with ⟨hr, rfl⟩ | ⟨-, rfl⟩
  · match fault, h, hr with
    | .error error, h, _ => exact Bool.false_ne_true (hrun.2.symm.trans h.halted_of_error)
    | .panic, _, hr => exact hr rfl
  · exact nomatch hrun.1

/-- A flush that has something to do leaves no record to a database that
runs. -/
theorem eq_or_record?_of_flushEnd (h : FlushEnd w n r w₁) (hunlocks : Unlocks r w₁ w') :
    w' = w ∨ (w'.Running → w.Running ∧ w'.record? = none) := by
  rcases hunlocks with ⟨hr, rfl⟩ | ⟨rfl, rfl⟩
  · cases h with
    | nothing => exact .inl rfl
    | unfit | halted | unclearedHalted => exact .inr fun hrun => nomatch hrun.2
    | crashed | unclearedCrashed => exact absurd rfl hr
    | @finished hn hfits d h c hc =>
      subst hc
      have hend := FlushEnd.finished hn hfits h rfl
      refine .inr fun hrun => ⟨⟨hrun.1, hend.halted_of_ok ▸ hrun.2⟩, ?_⟩
      have hjournal : Coordinator.journal _ = w.db.coordinator.journal :=
        (hend.sameStacks_of_ok hn).journal
      refine (congrArg (fun journal => (d.contents journal).get? Journal.key) hjournal).trans ?_
      rw [h.contents, Contents.afterWrites_append]
      exact w.db.coordinator.get?_afterWrites_clearWrite _
  · exact .inr fun hrun => nomatch hrun.1

/-- A flush that leaves its record behind stops the database. -/
theorem KeepsRecord.flush (h : FlushEnd w n r w₁) (hunlocks : Unlocks r w₁ w') :
    w.KeepsRecord w' := by
  rcases eq_or_record?_of_flushEnd h hunlocks with rfl | hnone
  · exact .refl _
  · exact fun hrun => ⟨(hnone hrun).1, .inl (hnone hrun).2⟩

/-- A flush under the lock ends in one of the ways in which flushes
do. -/
theorem flushOldest_ends_locked (hsound : w.db.coordinator.Sound) (hrun : w.Running) (count : Nat) :
    (Operation.flushOldest count).Ends w fun r w₁ =>
      FlushEnd w (min count w.db.coordinator.levels.length) r w₁ ∧
        Unlocks r w₁ ((Operation.locked (Operation.flushOldest count)).perform w).2 := by
  refine ((Operation.flushOldest_ends w hsound.names count).and
    (Operation.ends_led_locked hrun.1 _)).mono fun r w₁ h => ?_
  obtain ⟨hend, hled⟩ := h
  match r, hled with
  | .ok (), hled => exact ⟨hend, .inl ⟨nofun, Eq.symm hled⟩⟩
  | .error (.error error), hled => exact ⟨hend, .inl ⟨nofun, Eq.symm hled⟩⟩
  | .error .panic, hled => exact ⟨hend, .inr ⟨rfl, Eq.symm hled⟩⟩

theorem flush_of_locked (hsound : w.db.coordinator.Sound) (hrun : w.Running) (count : Nat) :
    ∃ r w₁, FlushEnd w (min count w.db.coordinator.levels.length) r w₁ ∧
      Unlocks r w₁ ((Operation.locked (Operation.flushOldest count)).perform w).2 :=
  ⟨_, _, flushOldest_ends_locked hsound hrun count⟩

/-- No exact step leaves a record behind without stopping the
database. -/
theorem KeepsRecord.step (h : Act w w') (hexact : Exact w w') (hsound : w.db.coordinator.Sound) :
    w.KeepsRecord w' := by
  have hkeeps := h.keeps
  rcases hexact with hdisk | ⟨hrun, count, rfl⟩
  · exact .of_disk hkeeps hdisk
  · obtain ⟨r, w₁, hend, hunlocks⟩ := flush_of_locked hsound hrun count
    exact .flush hend hunlocks

theorem Actually.keepsRecord (h : Actually w w') (hsound : w.db.coordinator.Sound) :
    w.KeepsRecord w' := by
  induction h with
  | refl => exact .refl w
  | tail hpath hstep ih =>
    exact ih.trans (.step hstep.1 hstep.2 (Actually.sound hpath hsound))

theorem Pushes.keepsRecord (h : Pushes w w') : w.KeepsRecord w' := by
  refine fun _ => ⟨h.running, .inr ?_⟩
  rw [record?, record?, h.disk, h.sameStacks.journal]
  rfl

theorem OpensExactly.keepsRecord (h : OpensExactly w w') (hsound : w.db.coordinator.Sound) :
    w.KeepsRecord w' := by
  obtain ⟨w₁, hpath, hend⟩ := h
  have hfirst := hpath.actually.keepsRecord hsound
  rcases hend with rfl | hpush
  · exact hfirst
  · exact hfirst.trans hpush.keepsRecord

theorem Registers.keepsRecord {name root : String} (h : Registers name root w w') :
    w.KeepsRecord w' := by
  refine fun _ => ⟨h.running, .inr ?_⟩
  rw [record?, record?, h.disk, h.sameStacks.journal]

/-! ### Writing -/

/-- A write to a root does not touch the journal. -/
theorem KeepsRecord.writeRoot {root : String} (hroot : w.db.coordinator.journal ≠ root)
    (batch : Batch) : w.KeepsRecord (w.withDisk (w.disk.write root batch).2) :=
  .of_record? ⟨rfl, rfl, rfl, fun _ h => h, id, id⟩
    (Disk.get?_write _ _ _ _ fun heq => absurd heq hroot)

/-- A direct write does not touch the journal, and the flush that it may
have to wait for is like any other. -/
theorem KeepsRecord.wrote {table : Table} {key : Bytes} {entry : Entry}
    (h : Operation.Wrote w table key entry r w₁) (hunlocks : Unlocks r w₁ w')
    (hstores : w.db.coordinator.DistinctStores) : w.KeepsRecord w' := by
  cases h with
  | nothing hr =>
    obtain ⟨-, rfl⟩ := hunlocks.resolve_right fun h => hr h.1
    exact .refl _
  | put =>
    rw [hunlocks.of_ok]
    exact .of_record? (Puts.put _ _ _).keeps rfl
  | stopped _ _ hflush => exact .flush hflush hunlocks
  | @direct w₂ chain _ hrun hchain _ hflush _ =>
    have hfirst : w.KeepsRecord w₂ := .flush hflush (.inl ⟨nofun, rfl⟩)
    have hjournal : w₂.db.coordinator.journal ≠ chain.root := by
      rw [(keeps_of_flushEnd hflush hrun).journal]
      exact hstores.journal_ne (List.mem_of_getElem? hchain)
    rcases hunlocks with ⟨-, rfl⟩ | ⟨-, rfl⟩
    · exact hfirst.trans (.writeRoot hjournal _)
    · exact fun hrun => nomatch hrun.1

/-! ### Checks -/

/-- What a check does: it moves no layer, it removes the record or
leaves it, and to the roots it writes nothing that is not in the
record. -/
structure Checked (w w' : World) : Prop where
  layers : w.db.coordinator.SameStacks w'.db.coordinator
  running : w'.Running → w.Running
  record : w'.record? = none ∨ w'.record? = w.record?
  roots : ∀ chain ∈ w.db.coordinator.tables, ∀ key, (w.Running → ¬w.Recorded chain.name key) →
    (w'.disk.contents chain.root).get? key = (w.disk.contents chain.root).get? key

theorem Checked.refl (w : World) : w.Checked w := ⟨.refl _, id, .inr rfl, fun _ _ _ _ => rfl⟩

theorem Checked.keepsRecord (h : w.Checked w') : w.KeepsRecord w' :=
  fun hrun => ⟨h.running hrun, h.record⟩

theorem Checked.poison (h : w.Checked w') : w.Checked w'.poison where
  layers := h.layers
  running hrun := nomatch hrun.1
  record := h.record
  roots := h.roots

end

end World

namespace Operation

open World

/-- A replay writes what is in the record, each table's part to its own
root, and then removes the record. -/
theorem replay_checked {w : World} (hstores : w.db.coordinator.DistinctStores) (hrun : w.Running)
    {record : JournalRecord}
    (hload : Journal.load (w.disk.contents w.db.coordinator.journal) = .ok (some record)) :
    (replay w.db.coordinator.journal record).Ends (w.say (.journalFound record.size))
      fun _ w' => w.Checked w' := by
  have hfound : w.Checked (w.say (.journalFound record.size)) :=
    ⟨.refl _, fun _ => hrun, .inr rfl, fun _ _ _ _ => rfl⟩
  refine replay_keeps hfound _ record (fun w' h chain hmem batch hbatch => ?_) (fun w' h => ?_)
    fun w' table source h => ?_
  · rw [h.layers.tables] at hmem
    refine ⟨h.layers, fun _ => hrun, ?_, fun other hother key hkey => ?_⟩
    · -- The journal is none of the roots.
      have hjournal : w'.db.coordinator.journal ≠ chain.root := by
        rw [h.layers.journal]
        exact hstores.journal_ne hmem
      have hrecord : (w'.withDisk (w'.disk.write chain.root batch).2).record? = w'.record? :=
        Disk.get?_write _ _ _ _ fun heq => absurd heq hjournal
      rw [hrecord]
      exact h.record
    · refine (Disk.get?_write _ _ _ _ fun heq hwrites => hkey hrun ?_).trans
        (h.roots other hother key hkey)
      -- What is written to the root of a table stands under its name.
      have hsame : other = chain :=
        List.inj_on_of_nodup_map (List.nodup_cons.mp hstores).2 hother hmem heq
      exact ⟨record, hload, batch, hsame ▸ hbatch, hwrites⟩
  · refine ⟨h.layers, fun _ => hrun, ?_, fun other hother key hkey => ?_⟩
    · have hrecord : (w'.withDisk (w'.disk.write w.db.coordinator.journal Journal.clearBatch).2
          ).record? = ((w'.disk.write w'.db.coordinator.journal Journal.clearBatch).2.contents
            w'.db.coordinator.journal).get? Journal.key := by
        rw [← h.layers.journal]
        rfl
      rw [hrecord]
      cases hwrite : (w'.disk.write w'.db.coordinator.journal Journal.clearBatch).1 with
      | ok u =>
        rw [(Disk.after_write_ok hwrite).contents]
        exact .inl (w'.db.coordinator.get?_afterWrites_clearWrite _)
      | error failure =>
        rw [(Disk.after_write_error hwrite).contents]
        exact h.record
    · have hne := (hstores.journal_ne hother).symm
      refine (Disk.get?_write _ _ _ _ fun heq => absurd heq hne).trans
        (h.roots other hother key hkey)
  · exact ⟨h.layers.trans (Coordinator.sameStacks_halted _), fun _ => hrun, h.record, h.roots⟩

/-- The last write of a replay removes the record. -/
theorem get?_clear {disk : Disk} {journal : String}
    (hwrite : (disk.write journal Journal.clearBatch).1 = .ok ()) :
    ((disk.write journal Journal.clearBatch).2.contents journal).get? Journal.key = none := by
  rw [(Disk.after_write_ok hwrite).contents, Contents.afterWrites_singleton]
  show ((disk.contents journal).put Journal.key .tombstone).get? Journal.key = none
  rw [Contents.get?_put, if_pos rfl]
  rfl

/-- A replay that succeeds removes the record. -/
theorem replay_clears (w : World) (journal : String) (record : JournalRecord) :
    (replay journal record).Ends w fun r w' =>
      r = .ok () → (w'.disk.contents journal).get? Journal.key = none := by
  unfold replay
  simp only [ends_ite]
  split
  · -- What the record did to the roots does not matter, only that it is
    -- cleared after them.
    have happly : (applyRecord record).Ends w fun _ _ => True := trivial
    rw [ends_bind]
    refine happly.mono fun r w₁ _ => ?_
    cases r with
    | error fault => exact nofun
    | ok u =>
      simp only [ends_bind, ends_write]
      split
      · exact fun _ => get?_clear ‹_›
      · exact nofun
      · exact nofun
  · rw [ends_bind, ends_write]
    split
    · exact fun _ => get?_clear ‹_›
    · exact nofun
    · exact nofun

/-- A journal in which no record is found holds none. -/
theorem get?_of_load_eq_none {contents : Contents} (h : Journal.load contents = .ok none) :
    contents.get? Journal.key = none := by
  unfold Journal.load at h
  split at h
  · assumption
  · split at h <;> cases h

/-- A recovery that succeeds leaves no record, unless the database has
stopped. -/
theorem recoverRunning_clears (w : World) :
    recoverRunning.Ends w fun r w' => ∀ recovered, r = .ok recovered →
      w'.db.coordinator.Stopped ∨ w'.record? = none := by
  apply recoverRunning_rule
  case stopped => exact fun hstopped _ _ => .inl hstopped
  case unreadable => exact fun _ _ _ _ => nofun
  case nothing => exact fun _ _ hload _ _ => .inr (get?_of_load_eq_none hload)
  case found =>
    intro record _ _ _
    refine ((replay_clears _ _ record).and (replay_stacks _ _ record)).mono fun r w' h => ?_
    obtain ⟨hcleared, hsame, -⟩ := h
    cases r with
    | error fault => exact nofun
    | ok u =>
      refine fun _ _ => .inr ?_
      rw [record?, hsame.journal]
      exact hcleared rfl

/-- A check that succeeds leaves no record, unless the database has
stopped. -/
theorem check_clears (w : World) :
    Command.check.run.Ends w fun r w' => ∀ reply, r = .ok reply →
      w'.db.coordinator.Stopped ∨ w'.record? = none := by
  have hcheck : (locked check).Ends w fun r w' => ∀ report, r = .ok report →
      w'.db.coordinator.Stopped ∨ w'.record? = none := by
    rw [ends_locked]
    split
    · exact nofun
    rw [ends_check]
    refine (recoverRunning_clears w).mono fun r w' h => ?_
    match r, h with
    | .error (.error error), _ => exact nofun
    | .error .panic, _ => exact nofun
    | .ok recovered, h =>
      dsimp only
      split
      · exact nofun
      · exact fun _ _ => h recovered rfl
  show (do return .report (← Database.check) : Operation Reply).Ends w _
  rw [ends_bind]
  refine hcheck.mono fun r w' h => ?_
  cases r with
  | ok report => exact fun _ _ => h report rfl
  | error fault => exact nofun

/-- Whatever a check answers, it does no more than a check does. -/
theorem check_checked {w : World} (hsound : w.db.coordinator.Sound)
    (hstores : w.db.coordinator.DistinctStores) :
    Command.check.run.Ends w fun _ w' => w.Checked w' := by
  have hcheck : (locked check).Ends w fun _ w' => w.Checked w' := by
    refine locked_path (fun _ => .refl w) fun hpoisoned => ?_
    refine check_of_recoverRunning (fun w' h => hsound.congr h.layers)
      (recoverRunning_led hpoisoned (.refl w) fun hrun record hload => ?_)
    refine (replay_checked hstores hrun hload).mono fun r w' h => ?_
    match r with
    | .ok () => exact h
    | .error (.error error) => exact h
    | .error .panic => exact h.poison
  exact Ends.answer Reply.report hcheck

end Operation

namespace World

variable {w : World}

/-- What a database that runs finds in its journal after a move was there
before it. -/
theorem act_keepsRecord (horderly : w.Orderly) (hstores : w.db.coordinator.DistinctStores)
    (move : Move) : w.KeepsRecord (move.act w) := by
  have hsound := horderly.sound
  cases move with
  | close =>
    have hpath : Actually w (Move.close.act w) := Database.drop_path hsound
    exact hpath.keepsRecord hsound
  | setPlan store plan =>
    exact .of_record? ⟨rfl, rfl, rfl, fun _ h => h, id, id⟩
      (congrArg (OrderedMap.get? · Journal.key) (Disk.contents_setPlan _ _ _ _))
  | call command =>
    -- Each command is taken as the steps that it can make.
    have hpath : command.Path w ((Move.call command).act w) := Command.run_path hsound command
    cases command with
    | addTable name root =>
      rcases hpath with heq | hregister
      · rw [heq]
        exact .refl w
      · exact hregister.keepsRecord
    | openSession force => exact OpensExactly.keepsRecord hpath hsound
    | write table key entry =>
      obtain ⟨r, w₁, hwrote, -, hunlocks⟩ := Command.write_wrote horderly table key entry
      exact .wrote hwrote hunlocks hstores
    | check =>
      have hchecked : w.Checked ((Move.call .check).act w) :=
        Operation.check_checked hsound hstores
      exact hchecked.keepsRecord
    | commitSession | revokeSession | dropSession | commit | revoke | merge | popMany | enable
    | disable | setCursor | setMaxSize | setMaxFlushCount | shutdown =>
      exact Actually.keepsRecord hpath hsound

theorem play_keepsRecord (horderly : w.Orderly) (moves : List Move)
    (hstores : (w.play moves).db.coordinator.DistinctStores) : w.KeepsRecord (w.play moves) := by
  induction moves generalizing w with
  | nil => exact .refl w
  | cons move moves ih =>
    have hstores₀ : w.db.coordinator.DistinctStores :=
      distinctStores_of_play horderly.sound hstores
    exact (act_keepsRecord horderly hstores₀ move).trans (ih (horderly.act move) hstores)

end World

end LayeredStore

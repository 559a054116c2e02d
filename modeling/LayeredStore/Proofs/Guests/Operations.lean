import LayeredStore.Proofs.Guests.Flush
import LayeredStore.Proofs.Parallel.Operations

/-!
# `LayeredStore.Proofs.Guests.Operations`: every operation beside guests

Each operation ends in the same way with guests or without, and writes
nothing to them. For most of them this is so because they treat all tables
alike, and a flush ends in the same way (`flushes_beside`). This module has
the others. Where the other tables have to be in step, both coordinators are
assumed to be sound.

* `addTable_agree`: a table is registered in both only where there are no
  guests, for it would come after them.
* `writeEntry_agree`: what is written is not written to a guest.
* `replay_agree`: the record of an interrupted flush names no guest.
* `check_agree`: a check counts the guests too.
-/

set_option autoImplicit false

namespace LayeredStore

/-- The check's report, where more tables were counted. -/
def CheckReport.counting (report : CheckReport) (more : Nat) : CheckReport :=
  { report with tables := report.tables + more }

/-- If a check has a record to carry out, this does not name the table. -/
def World.RecordOmits (w : World) (name : String) : Prop :=
  ∀ record, Journal.load (w.disk.contents w.db.coordinator.journal) = .ok (some record) →
    record.isEmpty = false → ∀ table ∈ record.tables, table.1 ≠ name

open World

namespace Operation

variable {guests : List (String × String)} {w v : World}

theorem flushes_beside (guests : List (String × String)) :
    Flushes False (BesideBut none guests) :=
  fun _ _ h count => agree_iff_both.mp (flushOldest_agree h count)

/-! ### Tables -/

/-- Where there are no guests, a table is registered in both. -/
theorem register_beside (h : w.Beside [] v) (chain : Chain) :
    let f : Coordinator → Coordinator := fun c => { c with tables := c.tables ++ [chain] }.bump
    BesideBut none [] (w.withCoordinator (f w.db.coordinator))
      (v.withCoordinator (f v.db.coordinator)) := by
  intro f
  obtain ⟨chains, published, hc, hguests, hblank, hpublished⟩ := h.coordinator
  obtain rfl := List.map_eq_nil_iff.mp hguests
  refine ⟨⟨[], published, ?_, rfl, nofun, hpublished⟩, h.disk, h.poisoned, nofun, nofun⟩
  show f w.db.coordinator = (f v.db.coordinator).hosting [] published
  rw [hc]
  unfold f Coordinator.hosting Coordinator.bump
  simp only [List.append_nil, List.length_nil, Nat.zero_add]

/-- A table cannot be registered beside guests, for it would come after
them; unless both refuse it. -/
theorem addTable_agree (h : w.Beside guests v) (name root : String)
    (hname : v.db.coordinator.stopped? = none → guests = [] ∨ name ∈ v.db.coordinator.tableNames) :
    Agree none guests (addTable name root) (addTable name root) w v := by
  unfold addTable
  refine agree_ensureRunning h fun hstopped => agree_get h fun chains published hc hguests _ => ?_
  have hknown : ∀ c : Coordinator, (c.tableIndex? name).isSome ↔ name ∈ c.tableNames := by
    intro c
    rw [Coordinator.tableIndex?_isSome, List.contains_iff_mem]
  have hnames : (v.db.coordinator.hosting chains published).tableNames =
      v.db.coordinator.tableNames ++ chains.map (·.name) := List.map_append
  -- Without guests the tables are the same. With guests both refuse the name.
  rcases hname hstopped with hnone | htaken
  · subst hnone
    obtain rfl := List.map_eq_nil_iff.mp hguests
    rw [List.map_nil, List.append_nil] at hnames
    have hlength : (v.db.coordinator.hosting [] published).tables.length =
        v.db.coordinator.tables.length := congrArg List.length (List.append_nil _)
    refine agree_ite ?_ (fun _ => agree_fail h _) fun _ => ?_
    · rw [hknown, hknown, hnames]
    · rw [hlength]
      exact agree_pure ((register_beside h _).say _ _) _
  · refine agree_ite ?_ (fun _ => agree_fail h _) fun hfree => absurd ((hknown _).mpr htaken) hfree
    rw [hknown, hknown, hnames, List.mem_append]
    exact iff_of_true (.inl htaken) htaken

/-- A write, the error of which is reported. -/
theorem reportedWrite_agree (h : w.Beside guests v) (store : String) (batch : Batch)
    (report : IoError → Error) :
    Agree none guests
      (do match ← write store batch with
          | none => return ()
          | some source => fail (report source))
      (do match ← write store batch with
          | none => return ()
          | some source => fail (report source)) w v := by
  refine (write_agree h store batch).bind fun answer w' v' h' => ?_
  cases answer with
  | none => exact agree_pure h' ()
  | some source => exact agree_fail h' (report source)

theorem writeDirect_agree (h : w.Beside guests v) (chain : Chain) (key : Bytes) (entry : Entry) :
    Agree none guests (writeDirect chain key entry) (writeDirect chain key entry) w v := by
  unfold writeDirect writeRoot
  rw [if_neg (by simp)]
  exact reportedWrite_agree h chain.root [(key, entry)] (.ioFailure chain.name)

/-- What is written is written to a table that is no guest, or to none. -/
theorem writeEntry_agree (h : w.Beside guests v) {table : Nat}
    (htable : table < v.db.coordinator.tables.length ∨ w.db.coordinator.tables.length ≤ table)
    (key : Bytes) (entry : Entry) :
    Agree none guests (writeEntry table key entry) (writeEntry table key entry) w v := by
  unfold writeEntry
  refine agree_ensureRunning h fun _ => agree_get h fun chains published hc _ _ => ?_
  rw [hc] at htable
  rcases htable with hlt | hge
  · have hfound : (v.db.coordinator.hosting chains published).tables[table]? =
        v.db.coordinator.tables[table]? := List.getElem?_append_left hlt
    rw [hfound, List.getElem?_eq_getElem hlt]
    refine agree_ite Iff.rfl (fun _ => ?_) fun _ => agree_ite Iff.rfl (fun _ => ?_) fun _ => ?_
    · exact update_agree h (Coordinator.carries_modifyTable hlt _)
    · exact (flushOldest_agree h _).bind fun _ w' v' h' => writeDirect_agree h' _ key entry
    · exact writeDirect_agree h _ key entry
  · have hge' : v.db.coordinator.tables.length ≤ table :=
      Nat.le_trans ((List.sublist_append_left _ _).length_le) hge
    rw [List.getElem?_eq_none hge, List.getElem?_eq_none hge']
    exact agree_pure h ()

/-! ### Checking -/

/-- A record that names no guest is carried out in the same way. -/
theorem applyRecord_agree_of_omits (h : w.Beside guests v) {record : JournalRecord}
    (homits : ∀ table ∈ record.tables, ∀ guest ∈ guests, table.1 ≠ guest.1) :
    Agree none guests (applyRecord record) (applyRecord record) w v := by
  obtain ⟨chains, published, hc, hchains, -⟩ := h.coordinator
  have hfind : ∀ table ∈ record.tables, w.db.coordinator.tables.find? (·.name = table.1) =
      v.db.coordinator.tables.find? (·.name = table.1) := by
    intro table hmem
    have hnone : chains.find? (·.name = table.1) = none := by
      refine List.find?_eq_none.mpr fun chain hchain hname => ?_
      exact homits table hmem (chain.name, chain.root) (hchains ▸ List.mem_map_of_mem hchain)
        (of_decide_eq_true hname).symm
    rw [hc]
    show (v.db.coordinator.tables ++ chains).find? _ = _
    rw [List.find?_append, hnone, Option.or_none]
  have happly : Agree none guests (applyRecord ⟨record.tables ++ []⟩) (applyRecord ⟨record.tables⟩)
      w v := applyRecord_agree h hfind nofun
  rwa [List.append_nil] at happly

/-- A record without entries is only removed. -/
theorem replay_agree (h : w.Beside guests v) (journal : String) {record : JournalRecord}
    (homits : record.isEmpty = false →
      ∀ table ∈ record.tables, ∀ guest ∈ guests, table.1 ≠ guest.1) :
    Agree none guests (replay journal record) (replay journal record) w v := by
  unfold replay
  refine agree_ite Iff.rfl (fun hentries => ?_) fun _ => ?_
  · rw [Bool.not_eq_true'] at hentries
    have happly := applyRecord_agree_of_omits h (homits hentries)
    exact happly.bind fun _ w' v' h' =>
      reportedWrite_agree h' journal Journal.clearBatch (.ioFailure journalName)
  · exact reportedWrite_agree h journal Journal.clearBatch (.ioFailure journalName)

theorem recover_agree (h : w.Beside guests v) (homits : ∀ guest ∈ guests, v.RecordOmits guest.1) :
    Agree none guests recover recover w v := by
  obtain ⟨chains, published, hc, -⟩ := h.coordinator
  have hjournal : w.db.coordinator.journal = v.db.coordinator.journal := by
    rw [hc]
    rfl
  unfold recover
  refine agree_read ?_
  simp only [h.disk.contents_eq, hjournal]
  cases hload : Journal.load (v.disk.contents v.db.coordinator.journal) with
  | error source => exact agree_fail h _
  | ok found =>
    cases found with
    | none => exact agree_pure h 0
    | some record =>
      refine agree_note h _ _ fun h₁ => ?_
      exact (replay_agree h₁ v.db.coordinator.journal fun hentries table hmem guest hguest =>
        homits guest hguest record hload hentries table hmem).bind fun _ w' v' h' => agree_pure h' _

theorem recoverRunning_agree (h : w.Beside guests v)
    (homits : ∀ guest ∈ guests, v.RecordOmits guest.1) :
    Agree none guests recoverRunning recoverRunning w v := by
  unfold recoverRunning
  exact agree_get h fun chains published _ _ _ =>
    agree_ite Iff.rfl (fun _ => agree_pure h 0) fun _ => recover_agree h homits

theorem recoverRunning_sound (hsound : w.db.coordinator.Sound) (hpoisoned : w.db.poisoned = false) :
    recoverRunning.Ends w fun _ w' => w'.db.coordinator.Sound := by
  have hled : recoverRunning.Ends w (Led (fun _ w' => w'.db.coordinator.Sound) w) := by
    refine recoverRunning_led hpoisoned hsound fun _ record _ => ?_
    refine (replay_stacks _ _ record).mono fun r w' h => ?_
    have hsound' : w'.db.coordinator.Sound := hsound.congr h.1
    match r with
    | .ok () => exact hsound'
    | .error (.error error) => exact hsound'
    | .error .panic => exact hsound'
  refine hled.mono fun r w' h => ?_
  match r, h with
  | .ok recovered, h => exact h
  | .error (.error error), h => exact h
  | .error .panic, h => exact h

/-- A check counts the guests too. -/
theorem check_agree (h : w.Beside guests v) (hw : w.db.coordinator.Sound)
    (hv : v.db.coordinator.Sound) (hpoisoned : v.db.poisoned = false)
    (homits : ∀ guest ∈ guests, v.RecordOmits guest.1) :
    Agree none guests check (do return (← check).counting guests.length) w v := by
  unfold check
  simp only [bind_assoc]
  refine (recoverRunning_agree h homits).bind_of
    (recoverRunning_sound hw (h.poisoned.trans hpoisoned)) (recoverRunning_sound hv hpoisoned)
    fun recovered w' v' h' hw' hv' => agree_get h' fun chains published hc hguests _ => ?_
  have hlength : (v'.db.coordinator.hosting chains published).tables.length =
      v'.db.coordinator.tables.length + guests.length := by
    rw [← hguests, List.length_map]
    exact List.length_append
  rw [hlength, ← hc, hw'.checkChains?_eq_none, hv'.checkChains?_eq_none, hc]
  exact agree_pure h' _

end Operation

open Operation in
/-- Letting go of the database shuts it down. -/
theorem Database.drop_agree {guests : List (String × String)} {w v : World}
    (h : w.Beside guests v) :
    Agree none guests drop drop w v := by
  have hR := parallel_besideBut none guests
  unfold drop
  refine agree_iff_both.mpr
    ((shutdown_both hR (flushes_beside guests) h).attempt.bind fun answer w' v' h' => ?_)
  cases answer with
  | ok done => exact both_pure h' ()
  | error error => exact note_both hR h' _ _

end LayeredStore

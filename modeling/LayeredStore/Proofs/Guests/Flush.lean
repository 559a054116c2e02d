import LayeredStore.Proofs.Guests.Rules

/-!
# `LayeredStore.Proofs.Guests.Flush`: flushing beside guests

A flush writes the same whether there are guests or not, but for their
names in the record.

* `applyRecord_agree`: a record is carried out in the same way, also if
  the one names guests with no entries.
* `flushOldest_agree`: so a flush is. Between its first write and its last
  the journals hold different records.
-/

set_option autoImplicit false

namespace LayeredStore

open World

namespace Operation

variable {hole : Option String} {guests : List (String × String)} {w v : World}

/-! ### Carrying out a record -/

theorem halt_beside (h : BesideBut hole guests w v) (table : String) (source : IoError) :
    BesideBut hole guests (w.halt table source) (v.halt table source) :=
  (h.say (.flushFailed table source) (.flushFailed table source)).update
    (Coordinator.evenly_halted _).carries

/-- A write of a flush that is answered in the same way in both worlds
ends in the same way. -/
theorem flushWrite_both {table store : String} {batch batch' : Batch}
    {P : Except Fault Unit → World → World → Prop}
    (hanswer : (w.disk.write store batch).1 = (v.disk.write store batch').1)
    (hok : (v.disk.write store batch').1 = .ok () →
      P (.ok ()) (w.withDisk (w.disk.write store batch).2)
        (v.withDisk (v.disk.write store batch').2))
    (herror : ∀ source, (v.disk.write store batch').1 = .error (.error source) →
      P (.error (.error (.ioFailure table source)))
        ((w.withDisk (w.disk.write store batch).2).halt table source)
        ((v.withDisk (v.disk.write store batch').2).halt table source))
    (hcrash : (v.disk.write store batch').1 = .error .crash →
      P (.error .panic) (w.withDisk (w.disk.write store batch).2)
        (v.withDisk (v.disk.write store batch').2)) :
    (flushWrite table (write store batch)).Ends w fun r w' =>
      (flushWrite table (write store batch')).Ends v fun r' v' => r = r' ∧ P r' w' v' := by
  rw [ends_flushWrite_write, hanswer]
  cases hwrite : (v.disk.write store batch').1 with
  | ok done =>
    show Ends _ v _
    rw [ends_flushWrite_write, hwrite]
    exact ⟨rfl, hok hwrite⟩
  | error failure =>
    cases failure with
    | error source =>
      show Ends _ v _
      rw [ends_flushWrite_write, hwrite]
      exact ⟨rfl, herror source hwrite⟩
    | crash =>
      show Ends _ v _
      rw [ends_flushWrite_write, hwrite]
      exact ⟨rfl, hcrash hwrite⟩

theorem flushWrite_agree {table store : String} {batch batch' : Batch}
    (h : (w.disk.write store batch).1 = (v.disk.write store batch').1 ∧
      BesideBut hole guests (w.withDisk (w.disk.write store batch).2)
        (v.withDisk (v.disk.write store batch').2)) :
    Agree hole guests (flushWrite table (write store batch)) (flushWrite table (write store batch'))
      w v :=
  flushWrite_both h.1 (fun _ => h.2) (fun source _ => halt_beside h.2 table source) fun _ => h.2

/-- A table that both find is written in both. -/
theorem applyTable_agree (h : BesideBut hole guests w v) (table : String × Batch)
    (hfind : w.db.coordinator.tables.find? (·.name = table.1) =
      v.db.coordinator.tables.find? (·.name = table.1)) :
    Agree hole guests (applyTable table) (applyTable table) w v := by
  unfold applyTable
  refine agree_get h fun chains published hc _ _ => ?_
  rw [hc] at hfind
  rw [hfind]
  cases v.db.coordinator.tables.find? (·.name = table.1) with
  | none => exact agree_fail h (.illegalState (.unknownJournalTable table.1))
  | some chain =>
    show Agree hole guests (flushWrite table.1 (if table.2.isEmpty then pure none else _))
      (flushWrite table.1 (if table.2.isEmpty then pure none else _)) w v
    cases table.2.isEmpty with
    | true => exact agree_pure h ()
    | false => exact flushWrite_agree (h.write chain.root table.2)

/-- Carrying out entries does not touch the tables. -/
theorem applyTable_tables (w : World) (table : String × Batch) :
    (applyTable table).Ends w fun _ w' => w'.db.coordinator.tables = w.db.coordinator.tables := by
  unfold applyTable
  simp only [ends_bind, ends_getCoordinator]
  cases w.db.coordinator.tables.find? (·.name = table.1) with
  | none => rfl
  | some chain =>
    show (flushWrite table.1 (if table.2.isEmpty then pure none else _)).Ends w _
    cases table.2.isEmpty with
    | true => rfl
    | false =>
      exact flushWrite_write_ends (Q := fun _ w' => w'.db.coordinator.tables = _) (fun _ => rfl)
        (fun _ _ => rfl) fun _ => rfl

/-- A known table without entries is passed over. -/
theorem applyTable_empty {w : World} {name : String}
    (hknown : (w.db.coordinator.tables.find? (·.name = name)).isSome) :
    (applyTable (name, [])).Ends w fun r w' => r = .ok () ∧ w' = w := by
  obtain ⟨chain, hfind⟩ := Option.isSome_iff_exists.mp hknown
  unfold applyTable
  simp only [ends_bind, ends_getCoordinator, hfind]
  exact ⟨rfl, rfl⟩

/-- A record is carried out in both worlds. In the one it can end with
tables without entries. -/
theorem applyRecord_agree (h : BesideBut hole guests w v) {tables later : List (String × Batch)}
    (hfind : ∀ table ∈ tables, w.db.coordinator.tables.find? (·.name = table.1) =
      v.db.coordinator.tables.find? (·.name = table.1))
    (hlater : ∀ table ∈ later, table.2 = [] ∧
      (w.db.coordinator.tables.find? (·.name = table.1)).isSome) :
    Agree hole guests (applyRecord ⟨tables ++ later⟩) (applyRecord ⟨tables⟩) w v := by
  induction tables generalizing w v with
  | nil =>
    -- Nothing is left to do in the second world.
    have hpassed : ∀ later : List (String × Batch), (∀ table ∈ later, table.2 = [] ∧
        (w.db.coordinator.tables.find? (·.name = table.1)).isSome) →
        (later.forM applyTable).Ends w fun r w' => r = .ok () ∧ w' = w := by
      intro later hlater
      induction later with
      | nil => exact ⟨rfl, rfl⟩
      | cons table rest ih =>
        obtain ⟨name, batch⟩ := table
        obtain ⟨rfl, hknown⟩ := hlater _ List.mem_cons_self
        show (applyTable (name, []) >>= fun _ => rest.forM applyTable).Ends w _
        rw [ends_bind]
        refine (applyTable_empty hknown).mono fun r w' hend => ?_
        obtain ⟨rfl, rfl⟩ := hend
        exact ih fun table hmem => hlater table (List.mem_cons_of_mem _ hmem)
    refine (hpassed later hlater).mono fun r w' hend => ?_
    obtain ⟨rfl, rfl⟩ := hend
    exact agree_pure h ()
  | cons table rest ih =>
    refine Agree.bind_of (applyTable_agree h table (hfind table List.mem_cons_self))
      (applyTable_tables w table) (applyTable_tables v table) fun _ w' v' h' hw' hv' => ?_
    refine ih h' (fun other hmem => ?_) fun other hmem => ?_
    · rw [hw', hv']
      exact hfind other (List.mem_cons_of_mem _ hmem)
    · rw [hw']
      exact hlater other hmem

/-! ### Flushing -/

/-- The store whose record differs while a flush is under way. -/
def flushHole (guests : List (String × String)) (journal : String) : Option String :=
  if guests.isEmpty then none else some journal

/-- The first write of a flush. If it fails, the journals are the same. -/
theorem writeRecord_both (h : w.Beside guests v) {record record' : JournalRecord}
    (hfits : record.fits = record'.fits) (hsame : guests = [] → record = record')
    (journal : String) :
    (flushWrite journalName (writeRecord journal record)).Ends w fun r w' =>
      (flushWrite journalName (writeRecord journal record')).Ends v fun r' v' => r = r' ∧
        match r' with
        | .ok () => BesideBut (flushHole guests journal) guests w' v' ∧
          w'.db.coordinator = w.db.coordinator ∧ v'.db.coordinator = v.db.coordinator
        | .error _ => w'.Beside guests v' := by
  unfold writeRecord
  rw [hfits]
  cases record'.fits with
  | false => exact ⟨rfl, halt_beside h _ _⟩
  | true =>
    cases guests with
    | nil =>
      -- Without guests the records are the same, and the writes fail alike.
      obtain ⟨hanswer, hwritten⟩ := h.write journal (Journal.recordBatch record)
      rw [hsame rfl] at hanswer hwritten ⊢
      exact flushWrite_both hanswer (fun _ => ⟨hwritten, rfl, rfl⟩)
        (fun source _ => halt_beside hwritten journalName source) fun _ => hwritten
    | cons guest rest =>
      -- With guests no store fails, and from here on the journals differ in
      -- the record.
      have hhealthy := (h.healthy nofun).write journal (Journal.recordBatch record')
      obtain ⟨hanswer, halike⟩ := h.disk.tear journal record record'
      refine flushWrite_both hanswer (fun _ => ⟨?_, rfl, rfl⟩) (fun source herror => ?_)
        fun hcrash => ?_
      · exact ⟨h.coordinator, halike, h.poisoned, fun _ => hhealthy.2, h.fits⟩
      · cases hhealthy.1.symm.trans herror
      · cases hhealthy.1.symm.trans hcrash

/-- The last write of a flush. The journals are the same after it. -/
theorem clearJournal_agree {journal : String}
    (h : BesideBut (flushHole guests journal) guests w v) :
    Agree none guests (flushWrite journalName (write journal Journal.clearBatch))
      (flushWrite journalName (write journal Journal.clearBatch)) w v := by
  cases guests with
  | nil => exact flushWrite_agree (h.write journal Journal.clearBatch)
  | cons guest rest =>
    obtain ⟨hanswer, halike⟩ := Disk.Alike.mend h.disk (h.healthy nofun)
    exact flushWrite_agree ⟨hanswer, h.coordinator, halike, h.poisoned,
      fun hguests => ((h.healthy hguests).write journal Journal.clearBatch).2, h.fits⟩

/-- The part of a flush between its first write and its last. -/
theorem applyNetRecord_both {journal : String} (h : BesideBut (flushHole guests journal) guests w v)
    {d : Coordinator} {chains : List Chain} {published : List Event}
    (hc : w.db.coordinator = d.hosting chains published) (hd : v.db.coordinator = d)
    (hblank : ∀ chain ∈ chains, chain.Blank) (count : Nat) :
    (applyRecord ((d.hosting chains published).netRecord count)).Ends w fun r w' =>
      (applyRecord (d.netRecord count)).Ends v fun r' v' => r = r' ∧
        BesideBut (flushHole guests journal) guests w' v' ∧ (r' ≠ .ok () → guests = []) := by
  have hfound : ∀ table ∈ (d.netRecord count).tables,
      (d.tables.find? (·.name = table.1)).isSome := by
    intro table hmem
    obtain ⟨chain, hchain, rfl⟩ := List.mem_map.mp hmem
    exact List.find?_isSome.mpr ⟨chain, hchain, decide_eq_true rfl⟩
  rw [Coordinator.netRecord_hosting hblank]
  -- The guests' tables come last in the record, and their batches are empty.
  have hagree : Agree (flushHole guests journal) guests
      (applyRecord ⟨(d.netRecord count).tables ++ chains.map fun chain => (chain.name, [])⟩)
      (applyRecord (d.netRecord count)) w v := by
    refine applyRecord_agree h (fun table hmem => ?_) fun table hmem => ?_
    · rw [hc, hd]
      show (d.tables ++ chains).find? _ = _
      obtain ⟨chain, hchain⟩ := Option.isSome_iff_exists.mp (hfound table hmem)
      rw [List.find?_append, hchain, Option.some_or]
    · obtain ⟨chain, hchain, rfl⟩ := List.mem_map.mp hmem
      refine ⟨rfl, ?_⟩
      rw [hc]
      exact List.find?_isSome.mpr
        ⟨chain, List.mem_append_right _ hchain, decide_eq_true rfl⟩
  -- With guests the stores are healthy, so every batch is written.
  have hcarried : (applyRecord (d.netRecord count)).Ends v fun r' _ =>
      r' ≠ .ok () → guests = [] := by
    by_cases hguests : guests = []
    · exact fun _ => hguests
    · refine (applyRecord_healthy v _ (h.healthy hguests) fun table hmem => ?_).mono
        fun r' v' hend hr' => absurd hend.1 hr'
      rw [hd]
      exact Option.isSome_map.trans (hfound table hmem)
  exact ⟨hagree.1, hagree.2, hcarried⟩

/-- A flush moves the same into the same roots. -/
theorem flushOldest_agree (h : w.Beside guests v) (count : Nat) :
    Agree none guests (flushOldest count) (flushOldest count) w v := by
  unfold flushOldest
  refine agree_get h fun chains published hc hguests hblank =>
    agree_ite Iff.rfl (fun _ => agree_pure h ()) fun _ => ?_
  let d := v.db.coordinator
  let n := min count d.levels.length
  have hfits : ((d.hosting chains published).netRecord n).fits = (d.netRecord n).fits := by
    refine Coordinator.fits_netRecord_hosting hblank published n fun chain hmem => ?_
    have hroom := h.fits (chain.name, chain.root) (hguests ▸ List.mem_map_of_mem hmem)
    rwa [← hguests, List.length_map] at hroom
  have hsame : guests = [] → (d.hosting chains published).netRecord n = d.netRecord n := by
    intro hnone
    obtain rfl := List.map_eq_nil_iff.mp (hguests.trans hnone)
    rw [Coordinator.netRecord_hosting hblank, List.map_nil, List.append_nil]
  have hsize : ((d.hosting chains published).netRecord n).size = (d.netRecord n).size :=
    Coordinator.size_netRecord_hosting hblank published n
  -- Record, roots, and the end of the record in turn; the records differ only
  -- in what they say of the guests.
  refine agree_bind (writeRecord_both h hfits hsame d.journal) (fun _ w₁ v₁ hrecord => ?_)
    fun _ _ _ hfailed => hfailed
  obtain ⟨h₁, hc₁, hd₁⟩ := hrecord
  refine agree_bind (applyNetRecord_both h₁ (hc₁.trans hc) hd₁ hblank n)
    (fun _ w₂ v₂ happlied => ?_) fun fault w₂ v₂ hfailed => ?_
  · refine agree_update happlied.1
      ((Coordinator.evenly_dropOldest _ n).comp (Coordinator.evenly_clampCursor _)).carries
      fun h₂ => ?_
    refine (clearJournal_agree h₂).bind fun _ w₃ v₃ h₃ => ?_
    refine agree_update h₃ (Coordinator.evenly_bump _).carries fun h₄ => ?_
    refine agree_get h₄ fun chains' published' _ _ _ => agree_note h₄ _ _ fun h₅ => ?_
    exact publish_agree h₅ (congrArg (Event.flush n · _) hsize)
  · obtain ⟨h₂, hnone⟩ := hfailed
    obtain rfl := hnone nofun
    exact h₂

end Operation

end LayeredStore

import LayeredStore.Proofs.Leftovers

/-!
# `LayeredStore.Proofs.Salvage`: what becomes of a record that was left behind

A database may be opened over a journal that holds the record of a flush
that was interrupted. Such a record goes away in two ways only: a check
carries it out and removes it, or a flush puts its own record in its
place. Whoever lets a database flush before a check loses the record, and
with it what the interrupted flush has not written.

* `World.CarriesOut`: a record has been written to the roots that it
  names.
* `World.Spares`: the journal holds what it held, or a flush has written
  to it. `Move.act_spares`: every move but a check spares the journal.
* `check_salvages`: a check spares the record or carries it out.
* `World.leftover_salvaged`: so if no flush is begun before a check has
  carried the record out, a record that is gone was carried out.
* `World.leftover_lost`: a flush that is begun before loses it.
-/

set_option autoImplicit false

namespace LayeredStore

open World

namespace World

/-- What the record says of every table has been written to the table's
root, and after that the removal of the record was attempted. -/
structure CarriesOut (w w' : World) (record : JournalRecord) : Prop where
  known : ∀ table ∈ record.tables, table.2 ≠ [] →
    (w.db.coordinator.rootOf? table.1).isSome
  writes : let writes := w.db.coordinator.rootWrites record.tables
    w.disk.After (writes ++ [w.db.coordinator.clearWrite]) [] w'.disk ∨
      w.disk.After writes [w.db.coordinator.clearWrite] w'.disk

/-- The journal holds what it held, or something else than the removal of
its record was written to it in between. -/
def Spares (w w' : World) : Prop :=
  w'.db.coordinator.journal = w.db.coordinator.journal ∧
    ∃ attempted, w'.disk.attempts = w.disk.attempts ++ attempted ∧
      (w'.record? = w.record? ∨
        ∃ batch, (w.db.coordinator.journal, batch) ∈ attempted ∧ batch ≠ Journal.clearBatch)

section
variable {w w' w'' w₁ : World} {n : Nat} {r : Except Fault Unit}

theorem Spares.refl (w : World) : w.Spares w := ⟨rfl, [], (List.append_nil _).symm, .inl rfl⟩

theorem Spares.trans (h : w.Spares w') (h' : w'.Spares w'') : w.Spares w'' := by
  obtain ⟨hjournal, first, hfirst, hrecord⟩ := h
  obtain ⟨hjournal', later, hlater, hrecord'⟩ := h'
  refine ⟨hjournal'.trans hjournal, first ++ later, ?_, ?_⟩
  · rw [hlater, hfirst, List.append_assoc]
  · rcases hrecord with hsame | ⟨batch, hmem, hbatch⟩
    · rcases hrecord' with hsame' | ⟨batch, hmem, hbatch⟩
      · exact .inl (hsame'.trans hsame)
      · exact .inr ⟨batch, List.mem_append_right _ (hjournal ▸ hmem), hbatch⟩
    · exact .inr ⟨batch, List.mem_append_left _ hmem, hbatch⟩

theorem Spares.of_disk (hjournal : w'.db.coordinator.journal = w.db.coordinator.journal)
    (hdisk : w'.disk = w.disk) : w.Spares w' := by
  refine ⟨hjournal, [], by rw [hdisk, List.append_nil], .inl ?_⟩
  rw [record?, record?, hdisk, hjournal]

/-- Leaving the lock does not matter. -/
theorem Spares.unlocked (h : w.Spares w₁) (hunlocks : Unlocks r w₁ w') : w.Spares w' :=
  h.trans (.of_disk (by rw [hunlocks.same.1]) hunlocks.same.2)

/-! ### Flushes -/

/-- A flush writes its record before anything else. -/
theorem record_mem_of_flushWrites {c : Coordinator} {done rest : List (String × Batch)}
    {failed : String × Batch} (hsplit : c.flushWrites n = done ++ failed :: rest) :
    (c.journal, Journal.recordBatch (c.netRecord n)) ∈ done ++ [failed] := by
  have hhead := congrArg List.head? hsplit
  rw [Coordinator.flushWrites, List.head?_cons] at hhead
  have hfirst : (done ++ failed :: rest).head? = (done ++ [failed]).head? := by
    cases done <;> rfl
  exact List.mem_of_head? (hfirst ▸ hhead.symm)

theorem Spares.flush (h : FlushEnd w n r w₁) (hunlocks : Unlocks r w₁ w') : w.Spares w' := by
  have hjournal : w₁.db.coordinator.journal = w.db.coordinator.journal := by
    rcases h.sameStacks with hsame | hsame <;> exact hsame.journal
  -- Where the record was attempted, it is among the attempts.
  have hattempted : ∀ {done failed : List (String × Batch)}, w.disk.After done failed w₁.disk →
      (w.db.coordinator.journal, Journal.recordBatch (w.db.coordinator.netRecord n)) ∈
        done ++ failed → w.Spares w₁ := by
    intro done failed hafter hmem
    refine ⟨hjournal, done ++ failed, ?_, .inr ⟨_, hmem, nofun⟩⟩
    rw [hafter.attempts, List.append_assoc]
  have hrecord : (w.db.coordinator.journal, Journal.recordBatch (w.db.coordinator.netRecord n)) ∈
      w.db.coordinator.flushWrites n := List.mem_cons_self
  refine Spares.unlocked ?_ hunlocks
  cases h with
  | nothing => exact .refl _
  | unfit => exact .of_disk rfl rfl
  | halted _ _ hsplit hafter | crashed _ _ hsplit hafter =>
    exact hattempted hafter (record_mem_of_flushWrites hsplit)
  | unclearedHalted _ _ hafter | unclearedCrashed _ _ hafter =>
    exact hattempted hafter (List.mem_append_left _ hrecord)
  | finished _ _ hafter =>
    exact hattempted hafter (List.mem_append_left _ (List.mem_append_left _ hrecord))

theorem Spares.step (h : Act w w') (hexact : Exact w w') (hsound : w.db.coordinator.Sound) :
    w.Spares w' := by
  rcases hexact with hdisk | ⟨hrun, count, rfl⟩
  · exact .of_disk h.keeps.journal hdisk
  · obtain ⟨r, w₁, hend, hunlocks⟩ := flush_of_locked hsound hrun count
    exact .flush hend hunlocks

theorem Actually.spares (h : Actually w w') (hsound : w.db.coordinator.Sound) : w.Spares w' := by
  induction h with
  | refl => exact .refl w
  | tail hpath hstep ih =>
    exact ih.trans (.step hstep.1 hstep.2 (Actually.sound hpath hsound))

theorem OpensExactly.spares (h : OpensExactly w w') (hsound : w.db.coordinator.Sound) :
    w.Spares w' := by
  obtain ⟨w₁, hpath, hend⟩ := h
  have hfirst := hpath.actually.spares hsound
  rcases hend with rfl | hpush
  · exact hfirst
  · exact hfirst.trans (.of_disk hpush.sameStacks.journal hpush.disk)

/-! ### Writing -/

/-- A write to a root does not touch the journal. -/
theorem Spares.writeRoot {root : String} (hroot : w.db.coordinator.journal ≠ root)
    (batch : Batch) : w.Spares (w.withDisk (w.disk.write root batch).2) :=
  ⟨rfl, [(root, batch)], Disk.attempts_write _ _ _,
    .inl (Disk.get?_write _ _ _ _ fun heq => absurd heq hroot)⟩

theorem Spares.wrote {table : Table} {key : Bytes} {entry : Entry}
    (h : Operation.Wrote w table key entry r w₁) (hunlocks : Unlocks r w₁ w')
    (hstores : w.db.coordinator.DistinctStores) : w.Spares w' := by
  cases h with
  | nothing => exact (Spares.refl w).unlocked hunlocks
  | put =>
    rw [hunlocks.of_ok]
    exact .of_disk rfl rfl
  | stopped _ _ hflush => exact .flush hflush hunlocks
  | @direct w₂ chain _ hrun hchain _ hflush _ =>
    have hfirst : w.Spares w₂ := .flush hflush (.inl ⟨nofun, rfl⟩)
    refine (hfirst.trans (.writeRoot ?_ _)).unlocked hunlocks
    rw [hfirst.1]
    exact hstores.journal_ne (List.mem_of_getElem? hchain)

end

end World

/-! ### Checks -/

namespace Operation

/-- A record that was written to the roots without a fault names only
tables that are known, and each of them was written. -/
theorem applyRecord_of_ok (w : World) (record : JournalRecord) :
    (applyRecord record).Ends w fun r w' => r = .ok () →
      (∀ table ∈ record.tables, (w.db.coordinator.rootOf? table.1).isSome) ∧
        w.disk.After (w.db.coordinator.rootWrites record.tables) [] w'.disk := by
  by_cases hknown : ∀ table ∈ record.tables, (w.db.coordinator.rootOf? table.1).isSome
  · refine (applyRecord_ends w record hknown).mono fun r w' hend => ?_
    cases hend with
    | all hafter => exact fun _ => ⟨hknown, hafter⟩
    | halted | crashed => rintro ⟨⟩
  · obtain ⟨unknown, hmem, hnone⟩ : ∃ table ∈ record.tables,
        ¬(w.db.coordinator.rootOf? table.1).isSome := by simpa using hknown
    have hfind : w.db.coordinator.tables.find? (·.name = unknown.1) = none := by
      rw [Coordinator.rootOf?, Option.isSome_map] at hnone
      exact Option.not_isSome_iff_eq_none.mp hnone
    -- The loop does not get past the table that is not known.
    apply ends_forM (I := fun rest w' => unknown ∈ rest ∧ w'.db.coordinator = w.db.coordinator)
    · rintro table rest w' ⟨hrest, hc⟩
      have hrest' : table ≠ unknown → unknown ∈ rest := fun hne =>
        (List.mem_cons.mp hrest).resolve_left (Ne.symm hne)
      unfold applyTable
      simp only [ends_bind, ends_getCoordinator, hc]
      cases hchain : w.db.coordinator.tables.find? (·.name = table.1) with
      | none => rintro ⟨⟩
      | some chain =>
        have hne : table ≠ unknown := by
          rintro rfl
          cases hfind.symm.trans hchain
        simp only [writeRoot]
        split
        · exact ⟨hrest' hne, hc⟩
        · rw [ends_flushWrite_write]
          split
          · exact ⟨hrest' hne, hc⟩
          · rintro ⟨⟩
          · rintro ⟨⟩
    · exact fun _ h => absurd h.1 List.not_mem_nil
    · exact ⟨hmem, rfl⟩

/-- Writing a record to the roots does not touch the journal. -/
theorem applyRecord_record? {w : World} (hstores : w.db.coordinator.DistinctStores)
    (record : JournalRecord) :
    (applyRecord record).Ends w fun _ w' => w.db.coordinator.SameStacks w'.db.coordinator ∧
      w'.record? = w.record? := by
  refine applyRecord_keeps ⟨.refl _, rfl⟩ record (fun w' h chain hmem batch _ => ?_)
    fun w' table source h => ⟨h.1.trans (Coordinator.sameStacks_halted _), h.2⟩
  refine ⟨h.1, Eq.trans ?_ h.2⟩
  have hjournal : w'.db.coordinator.journal ≠ chain.root := by
    rw [h.1.journal]
    rw [h.1.tables] at hmem
    exact hstores.journal_ne hmem
  exact Disk.get?_write _ _ _ _ fun heq => absurd heq hjournal

/-- Once a record was written to the roots, it is carried out, also if it
cannot be removed. -/
theorem carriesOut_of_clear {w w₁ : World} {record : JournalRecord}
    (hknown : ∀ table ∈ record.tables, table.2 ≠ [] →
      (w.db.coordinator.rootOf? table.1).isSome)
    (hafter : w.disk.After (w.db.coordinator.rootWrites record.tables) [] w₁.disk) :
    w.CarriesOut
      (w₁.withDisk (w₁.disk.write w.db.coordinator.journal Journal.clearBatch).2) record := by
  refine ⟨hknown, ?_⟩
  cases hwrite : (w₁.disk.write w.db.coordinator.journal Journal.clearBatch).1 with
  | ok u => exact .inl (hafter.trans (Disk.after_write_ok hwrite))
  | error failure => exact .inr (hafter.stop (Disk.after_write_error hwrite))

/-- A replay leaves the record as it is or carries it out. -/
theorem replay_salvages {w : World} (hstores : w.db.coordinator.DistinctStores)
    (record : JournalRecord) :
    (replay w.db.coordinator.journal record).Ends w fun _ w' =>
      w.db.coordinator.SameStacks w'.db.coordinator ∧
        (w'.record? = w.record? ∨ w.CarriesOut w' record) := by
  have hsame := replay_stacks w w.db.coordinator.journal record
  refine (Ends.and (hsame.mono fun _ _ h => h.1) ?_)
  unfold replay
  simp only [ends_ite]
  split
  · rw [ends_bind]
    refine ((applyRecord_record? hstores record).and (applyRecord_of_ok w record)).mono
      fun r w₁ hend => ?_
    obtain ⟨⟨-, hrecord⟩, hok⟩ := hend
    cases r with
    | error fault => exact .inl hrecord
    | ok u =>
      obtain ⟨hknown, hafter⟩ := hok rfl
      have hcarried := carriesOut_of_clear (fun table hmem _ => hknown table hmem) hafter
      simp only [ends_bind, ends_write]
      split <;> exact .inr hcarried
  · rename_i hempty
    -- A record without entries is carried out by removing it.
    have hnil : ∀ table ∈ record.tables, table.2 = [] := by
      simpa [JournalRecord.isEmpty] using hempty
    have hwrites : w.db.coordinator.rootWrites record.tables = [] := by
      unfold Coordinator.rootWrites
      rw [List.filterMap_eq_nil_iff]
      intro table hmem
      rw [if_pos (List.isEmpty_iff.mpr (hnil table hmem))]
    have hafter : w.disk.After (w.db.coordinator.rootWrites record.tables) [] w.disk := by
      rw [hwrites]
      exact .refl _
    have hcarried := carriesOut_of_clear
      (fun table hmem hne => absurd (hnil table hmem) hne) hafter
    rw [ends_bind, ends_write]
    split <;> exact .inr hcarried

/-- A check leaves the record as it is or carries it out. -/
theorem check_salvages {w : World} (hsound : w.db.coordinator.Sound)
    (hstores : w.db.coordinator.DistinctStores) :
    Command.check.run.Ends w fun _ w' => w'.db.coordinator.journal = w.db.coordinator.journal ∧
      (w'.record? = w.record? ∨ ∃ record,
        Journal.load (w.disk.contents w.db.coordinator.journal) = .ok (some record) ∧
          w.CarriesOut w' record) := by
  -- The chains are carried along, for the check of them comes after the
  -- replay.
  let Salvages (w w' : World) : Prop := w.db.coordinator.SameStacks w'.db.coordinator ∧
    (w'.record? = w.record? ∨ ∃ record,
      Journal.load (w.disk.contents w.db.coordinator.journal) = .ok (some record) ∧
        w.CarriesOut w' record)
  have hrefl : Salvages w w := ⟨.refl _, .inl rfl⟩
  have hcheck : (locked check).Ends w fun _ w' => Salvages w w' := by
    refine locked_path (fun _ => hrefl) fun hpoisoned => ?_
    refine check_of_recoverRunning (fun w' h => hsound.congr h.1)
      (recoverRunning_led hpoisoned hrefl fun hrun record hload => ?_)
    refine (replay_salvages (w := w.say (.journalFound record.size)) hstores record).mono
      fun r w' h => ?_
    have hsalvages : Salvages w w' :=
      ⟨h.1, h.2.imp id fun hcarried => ⟨record, hload, hcarried.known, hcarried.writes⟩⟩
    match r with
    | .ok () => exact hsalvages
    | .error (.error error) => exact hsalvages
    | .error .panic =>
      exact ⟨hsalvages.1, hsalvages.2.imp id fun ⟨record, hload, hcarried⟩ =>
        ⟨record, hload, hcarried.known, hcarried.writes⟩⟩
  exact (Ends.answer Reply.report hcheck).mono fun r w' h => ⟨h.1.journal, h.2⟩

end Operation

/-! ### Runs -/

/-- The move attempts to write something else to the journal than the
removal of its record. A flush begins like this. -/
def Move.journals (w : World) (move : Move) : Bool :=
  ((move.act w).disk.attempts.drop w.disk.attempts.length).any fun attempt =>
    attempt.1 = w.db.coordinator.journal && attempt.2 ≠ Journal.clearBatch

namespace World

/-- A check of the run has carried the record out. -/
def CarriedOut (w₀ : World) (moves : List Move) (record : JournalRecord) : Prop :=
  ∃ before after, moves = before ++ .call .check :: after ∧
    (w₀.play before).CarriesOut (w₀.play (before ++ [.call .check])) record

section
variable {w w' : World} {move : Move} {record : JournalRecord}

theorem CarriedOut.append {before : List Move} (h : w.CarriedOut before record)
    (after : List Move) : w.CarriedOut (before ++ after) record := by
  obtain ⟨earlier, later, rfl, hcarries⟩ := h
  exact ⟨earlier, later ++ after, by simp, hcarries⟩

theorem CarriedOut.cons {moves : List Move} (h : (move.act w).CarriedOut moves record) :
    w.CarriedOut (move :: moves) record := by
  obtain ⟨before, after, rfl, hcarries⟩ := h
  exact ⟨move :: before, after, rfl, hcarries⟩

/-- A move that spares the journal leaves the record alone, or it begins
a flush. -/
theorem Spares.record?_or_journals (h : w.Spares (move.act w)) :
    (move.act w).record? = w.record? ∨ move.journals w = true := by
  obtain ⟨-, attempted, hattempts, hsame | ⟨batch, hmem, hbatch⟩⟩ := h
  · exact .inl hsame
  · refine .inr ?_
    unfold Move.journals
    rw [hattempts, List.drop_left, List.any_eq_true]
    exact ⟨_, hmem, by simp [hbatch]⟩

end

end World

/-- Every move but a check spares the journal. -/
theorem Move.act_spares {w : World} {move : Move} (horderly : w.Orderly)
    (hstores : w.db.coordinator.DistinctStores) (hmove : move ≠ .call .check) :
    w.Spares (move.act w) := by
  have hsound := horderly.sound
  cases move with
  | close =>
    have hpath : Actually w (Move.close.act w) := Database.drop_path hsound
    exact hpath.spares hsound
  | setPlan store plan =>
    exact ⟨rfl, [], (List.append_nil _).symm,
      .inl (congrArg (OrderedMap.get? · Journal.key) (Disk.contents_setPlan _ _ _ _))⟩
  | call command =>
    -- Each command is taken as the steps that it can make.
    have hpath : command.Path w ((Move.call command).act w) := Command.run_path hsound command
    cases command with
    | addTable name root =>
      rcases hpath with heq | hregister
      · rw [heq]
        exact .refl w
      · exact .of_disk hregister.sameStacks.journal hregister.disk
    | openSession force => exact OpensExactly.spares hpath hsound
    | write table key entry =>
      obtain ⟨r, w₁, hwrote, -, hunlocks⟩ := Command.write_wrote horderly table key entry
      exact .wrote hwrote hunlocks hstores
    | check => exact absurd rfl hmove
    | commitSession | revokeSession | dropSession | commit | revoke | merge | popMany | enable
    | disable | setCursor | setMaxSize | setMaxFlushCount | shutdown =>
      exact Actually.spares hpath hsound

namespace World

section
variable {w : World} {record : JournalRecord}

/-- A record that is gone was carried out by a check, or a flush was
begun. -/
theorem carriedOut_or_journals (horderly : w.Orderly) (moves : List Move)
    (hstores : (w.play moves).db.coordinator.DistinctStores)
    (hload : Journal.load (w.disk.contents w.db.coordinator.journal) = .ok (some record))
    (hgone : (w.play moves).record? ≠ w.record?) :
    w.CarriedOut moves record ∨ ∃ before move after, moves = before ++ move :: after ∧
      move.journals (w.play before) = true := by
  induction moves generalizing w with
  | nil => exact absurd rfl hgone
  | cons move moves ih =>
    have hstores₀ : w.db.coordinator.DistinctStores :=
      distinctStores_of_play horderly.sound hstores
    by_cases hsame : (move.act w).record? = w.record?
    · -- The move leaves the record alone, so another one does not.
      have hload' : Journal.load ((move.act w).disk.contents (move.act w).db.coordinator.journal) =
          .ok (some record) := by
        unfold record? at hsame
        rw [Journal.load, hsame]
        exact hload
      rcases ih (horderly.act move) hstores hload' (hsame.symm ▸ hgone) with
        hcarried | ⟨before, later, after, rfl, hjournals⟩
      · exact .inl hcarried.cons
      · exact .inr ⟨move :: before, later, after, rfl, hjournals⟩
    -- The move changes the record: a check has carried it out, and any other
    -- move has written one of its own.
    by_cases hcheck : move = .call .check
    · subst hcheck
      have hsalvages : _ ∧ (((Move.call .check).act w).record? = w.record? ∨ _) :=
        Operation.check_salvages horderly.sound hstores₀
      obtain ⟨found, hfound, hcarries⟩ := hsalvages.2.resolve_left hsame
      obtain rfl : found = record := by
        rw [hload] at hfound
        cases hfound
        rfl
      exact .inl ⟨[], moves, rfl, hcarries⟩
    · have hspares := Move.act_spares horderly hstores₀ hcheck
      exact .inr ⟨[], move, moves, rfl, hspares.record?_or_journals.resolve_left hsame⟩

end

/-- What holds of every place in a list holds of every way to split it at
an item. -/
theorem forall_split {α : Type} {P : List α → α → Prop} {items : List α}
    (h : ∀ i : Fin items.length, P (items.take i) items[i]) :
    ∀ before item after, items = before ++ item :: after → P before item := by
  rintro before item after rfl
  simpa using h ⟨before.length, by simp⟩

/-- The record of an interrupted flush is not lost, unless a flush is
begun before a check has carried the record out: whenever the journal
does not hold it any more, a check of this run has written what it says
of every table to the table's root. -/
theorem leftover_salvaged (disk : Disk) (configuration : Configuration) (journal : String)
    (handlers : List Handler) (moves : List Move) (record : JournalRecord)
    (hload : Journal.load (disk.contents journal) = .ok (some record)) :
    let w₀ := opened disk configuration journal handlers
    (w₀.play moves).db.coordinator.DistinctStores →
    (∀ before move after, moves = before ++ move :: after →
      move.journals (w₀.play before) = true → w₀.CarriedOut before record) →
    (w₀.play moves).record? ≠ w₀.record? → w₀.CarriedOut moves record := by
  intro w₀ hstores hflushes hgone
  have horderly : w₀.Orderly := orderly_opened disk configuration journal handlers
  rcases carriedOut_or_journals horderly moves hstores hload hgone with
    hcarried | ⟨before, move, after, hmoves, hjournals⟩
  · exact hcarried
  · rw [hmoves]
    exact (hflushes before move after hmoves hjournals).append _

/-- A check carries the record of an interrupted flush out, and only then
a layer is flushed. -/
theorem leftover_salvaged_before_flush :
    let record : JournalRecord := ⟨[("a", [([1], .value [10])])]⟩
    let disk := Disk.empty.overwrite "journal" Journal.key (.value record.encode)
    let w₀ := opened disk {} "journal" []
    let checked : List Move := [.call (.addTable "a" "left"), .call .check]
    let flushed : List Move := [.call (.openSession false),
      .call (.write ⟨0, "a"⟩ [2] (.value [20])), .call .commit, .call .merge]
    let w := w₀.play (checked ++ flushed)
    w₀.CarriedOut (checked ++ flushed) record ∧ w.record? = none ∧
      (w.disk.contents "left").get? [1] = some [10] ∧
      (w.disk.contents "left").get? [2] = some [20] := by
  intro record disk w₀ checked flushed w
  have hload : Journal.load (disk.contents "journal") = .ok (some record) := by decide +kernel
  have hcarried : w₀.CarriedOut checked record := by
    refine leftover_salvaged disk {} "journal" [] checked record hload
      ((Coordinator.distinctStores_iff _).mpr (by decide +kernel))
      (forall_split fun i hjournals => ?_) (by decide +kernel)
    have hquiet : ∀ i : Fin checked.length,
        Move.journals (w₀.play (checked.take i)) checked[i] = false := by decide +kernel
    cases (hquiet i).symm.trans hjournals
  -- The flush is begun after the check.
  have hquiet : ∀ i : Fin (checked ++ flushed).length, i.val < checked.length →
      Move.journals (w₀.play ((checked ++ flushed).take i)) (checked ++ flushed)[i] = false := by
    decide +kernel
  have hall : w₀.CarriedOut (checked ++ flushed) record := by
    refine leftover_salvaged disk {} "journal" [] (checked ++ flushed) record hload
      ((Coordinator.distinctStores_iff _).mpr (by decide +kernel))
      (forall_split fun i hjournals => ?_) (by decide +kernel)
    by_cases hi : i.val < checked.length
    · cases (hquiet i hi).symm.trans hjournals
    · rw [List.take_append, List.take_of_length_le (Nat.le_of_not_lt hi)]
      exact hcarried.append _
  exact ⟨hall, by decide +kernel, by decide +kernel, by decide +kernel⟩

/-- No check is made, and the flush of a layer removes the record. Of what
the record says, nothing has been written. -/
theorem leftover_lost :
    let record : JournalRecord := ⟨[("a", [([1], .value [10])])]⟩
    let disk := Disk.empty.overwrite "journal" Journal.key (.value record.encode)
    let w₀ := opened disk {} "journal" []
    let moves : List Move := [.call (.addTable "a" "left"), .call (.openSession false),
      .call (.write ⟨0, "a"⟩ [2] (.value [20])), .call .commit, .call .merge]
    let w := w₀.play moves
    Journal.load (disk.contents "journal") = .ok (some record) ∧
      w.db.coordinator.DistinctStores ∧ w.disk.Healthy ∧ w.Running ∧
      w.db.coordinator.rootOf? "a" = some "left" ∧
      w.record? = none ∧ ¬w₀.CarriedOut moves record ∧
      (∀ attempt ∈ w.disk.attempts, attempt.1 = "left" → [1] ∉ attempt.2.map (·.1)) ∧
      (w.disk.contents "left").get? [1] = none := by
  intro record disk w₀ moves w
  have hstores : w.db.coordinator.DistinctStores :=
    (Coordinator.distinctStores_iff _).mpr (by decide +kernel)
  have hhealthy : w.disk.Healthy := Disk.healthy_of_forall (by decide +kernel)
  have hcarried : ¬w₀.CarriedOut moves record := by
    rintro ⟨before, after, hmoves, -⟩
    have hcheck : Move.call .check ∈ moves := hmoves ▸ by simp
    exact absurd hcheck (by decide +kernel)
  exact ⟨by decide +kernel, hstores, hhealthy, ⟨by decide +kernel, by decide +kernel⟩,
    by decide +kernel, by decide +kernel, hcarried, by decide +kernel, by decide +kernel⟩

end World

end LayeredStore

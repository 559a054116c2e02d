import LayeredStore.Proofs.Outcome

/-!
# `LayeredStore.Proofs.Writes`: what a sequence of writes leaves behind

A flush and a replay write to several stores one after the other, and
any of these writes can be stopped. `Disk.After d done failed d'` says
what is left: every store of `d'` holds what the writes in `done` make
of its contents in `d`, and the writes attempted are those in `done` and
then those in `failed`.

* `after_write_ok` and `after_write_error`: one write.
* `After.trans`: what is left by writes that follow each other.
* `applyRecord_ends`: carrying out a record writes to the roots of its
  tables, in the order of the record, leaving out the tables it says
  nothing about, up to the first write that is stopped. An error halts
  the database, a panic does not get that far.
* `applyRecord_healthy`: where no store is set to fail, all of them are
  made.
-/

set_option autoImplicit false

namespace LayeredStore

/-- What the writes to one store make of its contents. -/
def Contents.afterWrites (contents : Contents) (store : String) (writes : List (String × Batch)) :
    Contents :=
  writes.foldl (fun contents write =>
    if write.1 = store then contents.apply write.2 else contents) contents

namespace Contents

theorem afterWrites_append (contents : Contents) (store : String)
    (first later : List (String × Batch)) :
    contents.afterWrites store (first ++ later) =
      (contents.afterWrites store first).afterWrites store later :=
  List.foldl_append

theorem afterWrites_singleton (contents : Contents) (store : String) (batch : Batch) :
    contents.afterWrites store [(store, batch)] = contents.apply batch :=
  if_pos rfl

/-- Writes to other stores change nothing. -/
theorem afterWrites_of_forall_ne {contents : Contents} {store : String}
    {writes : List (String × Batch)} (h : ∀ write ∈ writes, write.1 ≠ store) :
    contents.afterWrites store writes = contents := by
  induction writes with
  | nil => rfl
  | cons write writes ih =>
    rw [afterWrites, List.foldl_cons, if_neg (h write List.mem_cons_self)]
    exact ih fun other ho => h other (List.mem_cons_of_mem _ ho)

theorem afterWrites_singleton_of_ne {contents : Contents} {store : String}
    {write : String × Batch} (h : write.1 ≠ store) :
    contents.afterWrites store [write] = contents :=
  if_neg h

/-- Of writes to different stores, the one to this store is all that
counts. -/
theorem afterWrites_of_mem {contents : Contents} {writes : List (String × Batch)}
    (hnodup : (writes.map (·.1)).Nodup) {write : String × Batch} (h : write ∈ writes) :
    contents.afterWrites write.1 writes = contents.apply write.2 := by
  obtain ⟨before, rest, rfl⟩ := List.append_of_mem h
  rw [List.map_append, List.map_cons, List.nodup_append] at hnodup
  obtain ⟨-, hrest, hbefore⟩ := hnodup
  have hfirst : contents.afterWrites write.1 before = contents :=
    afterWrites_of_forall_ne fun other ho =>
      hbefore _ (List.mem_map_of_mem ho) _ List.mem_cons_self
  have hlast : (contents.apply write.2).afterWrites write.1 rest = contents.apply write.2 :=
    afterWrites_of_forall_ne fun other ho he =>
      (List.nodup_cons.mp hrest).1 (he ▸ List.mem_map_of_mem ho)
  rw [afterWrites_append, hfirst, afterWrites, List.foldl_cons, if_pos rfl]
  exact hlast

/-- A store that is written at most once holds its old contents after
some of the writes, or those that it holds after all of them. -/
theorem afterWrites_of_prefix (contents : Contents) (store : String)
    {done writes : List (String × Batch)} (hnodup : (writes.map (·.1)).Nodup)
    (h : done <+: writes) :
    contents.afterWrites store done = contents ∨
      contents.afterWrites store done = contents.afterWrites store writes := by
  obtain ⟨rest, rfl⟩ := h
  rw [List.map_append, List.nodup_append] at hnodup
  by_cases hdone : store ∈ done.map (·.1)
  · -- Its one write is among those done, so the rest are to other stores.
    refine .inr ?_
    rw [afterWrites_append]
    exact (afterWrites_of_forall_ne fun other ho he =>
      hnodup.2.2 store hdone _ (List.mem_map_of_mem ho) he.symm).symm
  · refine .inl (afterWrites_of_forall_ne fun other ho he => hdone ?_)
    rw [← he]
    exact List.mem_map_of_mem ho

end Contents

namespace Disk

/-- What is left of the disk after the writes in `done` were carried out
and then those in `failed` were attempted in vain. -/
structure After (d : Disk) (done failed : List (String × Batch)) (d' : Disk) : Prop where
  contents : ∀ store, d'.contents store = (d.contents store).afterWrites store done
  attempts : d'.attempts = d.attempts ++ done ++ failed

/-- No store of the disk is set to fail. -/
def Healthy (d : Disk) : Prop := ∀ store, (d.store store).plan = none

theorem After.refl (d : Disk) : d.After [] [] d := ⟨fun _ => rfl, by simp⟩

theorem After.trans {d d' d'' : Disk} {first later failed : List (String × Batch)}
    (h : d.After first [] d') (h' : d'.After later failed d'') :
    d.After (first ++ later) failed d'' where
  contents store := by rw [h'.contents, h.contents, Contents.afterWrites_append]
  attempts := by rw [h'.attempts, h.attempts]; simp

/-- After some writes, others are attempted in vain. -/
theorem After.stop {d d' d'' : Disk} {done failed : List (String × Batch)}
    (h : d.After done [] d') (h' : d'.After [] failed d'') : d.After done failed d'' := by
  have hall := h.trans h'
  rwa [List.append_nil] at hall

theorem attempts_write (d : Disk) (store : String) (batch : Batch) :
    (d.write store batch).2.attempts = d.attempts ++ [(store, batch)] := by
  rw [write]
  split <;> rfl

theorem after_write_ok {d : Disk} {store : String} {batch : Batch}
    (h : (d.write store batch).1 = .ok ()) :
    d.After [(store, batch)] [] (d.write store batch).2 where
  contents other := by
    show _ = if store = other then (d.contents other).apply batch else d.contents other
    split
    · -- A store takes a batch whole or fails, so that it took this one says
      -- what it holds now.
      rename_i heq
      subst heq
      unfold contents
      have hwrite : ∀ new, (d.store store).write batch = .ok new →
          new.contents = (d.store store).contents.apply batch := by
        intro new hnew
        unfold Store.write at hnew
        split at hnew <;> cases hnew <;> rfl
      simp only [write] at h ⊢
      split at h
      · rename_i new hnew
        simp only [store_setStore, if_true]
        exact hwrite new hnew
      · cases h
    · rename_i hne
      exact congrArg Store.contents (store_write_of_ne d store batch (Ne.symm hne))
  attempts := by rw [attempts_write]; simp

theorem after_write_error {d : Disk} {store : String} {batch : Batch} {failure : WriteFailure}
    (h : (d.write store batch).1 = .error failure) :
    d.After [] [(store, batch)] (d.write store batch).2 where
  contents other := congrArg Store.contents (store_write_of_error d store batch h other)
  attempts := by rw [attempts_write]; simp

/-- A store that is not set to fail carries out what is written, and is
not set to fail after it. -/
theorem Healthy.write {d : Disk} (h : d.Healthy) (store : String) (batch : Batch) :
    (d.write store batch).1 = .ok () ∧ (d.write store batch).2.Healthy := by
  -- Noting the attempt does not touch the stores.
  have hplan : (({ d with attempts := d.attempts ++ [(store, batch)] } : Disk).store store).plan =
      none := h store
  simp only [Disk.write, Store.write, hplan]
  refine ⟨trivial, fun other => ?_⟩
  rw [store_setStore]
  split
  · rfl
  · exact h other

/-- A store that is set not to fail is none that fails. -/
theorem Healthy.setPlan_none {d : Disk} (h : d.Healthy) (store : String) :
    (d.setPlan store none).Healthy := by
  intro other
  unfold setPlan
  rw [store_setStore]
  split
  · rfl
  · exact h other

/-- No store is set to fail if none that is named is. -/
theorem healthy_of_forall {d : Disk} (h : ∀ named ∈ d.stores, named.2.plan = none) :
    d.Healthy := by
  intro store
  show (getFrom store d.stores).plan = none
  generalize d.stores = stores at h
  induction stores with
  | nil => rfl
  | cons named rest ih =>
    rw [List.forall_mem_cons] at h
    unfold getFrom
    split
    · exact h.1
    · exact ih h.2

/-- How a store is set to fail does not change what any store holds. -/
@[simp] theorem contents_setPlan (d : Disk) (store : String) (plan : Option FaultPlan)
    (other : String) : (d.setPlan store plan).contents other = d.contents other := by
  unfold contents setPlan
  rw [store_setStore]
  split
  · rename_i heq
    rw [heq]
  · rfl

end Disk

/-- The world after a write of a flush to this table failed. -/
def World.halt (w : World) (table : String) (source : IoError) : World :=
  (w.say (.flushFailed table source)).withCoordinator { w.db.coordinator with halted := true }

namespace Operation

/-- A write of a flush is carried out, or halts the database, or stops
the program. -/
theorem ends_flushWrite_write (w : World) (table store : String) (batch : Batch)
    (Q : Except Fault Unit → World → Prop) :
    (flushWrite table (write store batch)).Ends w Q ↔
      match (w.disk.write store batch).1 with
      | .ok () => Q (.ok ()) (w.withDisk (w.disk.write store batch).2)
      | .error (.error source) => Q (.error (.error (.ioFailure table source)))
          ((w.withDisk (w.disk.write store batch).2).halt table source)
      | .error .crash => Q (.error .panic) (w.withDisk (w.disk.write store batch).2) := by
  unfold flushWrite
  simp only [ends_bind, ends_write]
  cases (w.disk.write store batch).1 with
  | ok u => exact Iff.rfl
  | error failure => cases failure <;> exact Iff.rfl

/-- What follows from each of these ends follows from the write. -/
theorem flushWrite_write_ends {w : World} {table store : String} {batch : Batch}
    {Q : Except Fault Unit → World → Prop}
    (hok : (w.disk.write store batch).1 = .ok () →
      Q (.ok ()) (w.withDisk (w.disk.write store batch).2))
    (herror : ∀ source, (w.disk.write store batch).1 = .error (.error source) →
      Q (.error (.error (.ioFailure table source)))
        ((w.withDisk (w.disk.write store batch).2).halt table source))
    (hcrash : (w.disk.write store batch).1 = .error .crash →
      Q (.error .panic) (w.withDisk (w.disk.write store batch).2)) :
    (flushWrite table (write store batch)).Ends w Q := by
  rw [ends_flushWrite_write]
  cases hwrite : (w.disk.write store batch).1 with
  | ok u => exact hok hwrite
  | error failure =>
    cases failure with
    | error source => exact herror source hwrite
    | crash => exact hcrash hwrite

/-- A store that carries the write out. -/
theorem flushWrite_write_ok {w : World} {table store : String} {batch : Batch}
    {Q : Except Fault Unit → World → Prop} (hok : (w.disk.write store batch).1 = .ok ())
    (h : Q (.ok ()) (w.withDisk (w.disk.write store batch).2)) :
    (flushWrite table (write store batch)).Ends w Q := by
  rw [ends_flushWrite_write, hok]
  exact h

end Operation

namespace Coordinator

/-- The root of the table of that name. -/
def rootOf? (c : Coordinator) (name : String) : Option String :=
  (c.tables.find? (·.name = name)).map (·.root)

/-- What carrying out the entries of these tables writes to their
roots. -/
def rootWrites (c : Coordinator) (tables : List (String × Batch)) : List (String × Batch) :=
  tables.filterMap fun table =>
    if table.2.isEmpty then none else (c.rootOf? table.1).map (·, table.2)

theorem rootWrites_append (c : Coordinator) (first later : List (String × Batch)) :
    c.rootWrites (first ++ later) = c.rootWrites first ++ c.rootWrites later :=
  List.filterMap_append

end Coordinator

/-- How carrying out the entries of these tables can end: all of them
are written; or a write to a root is stopped after those before it, by
an error, which halts the database, or by a panic. -/
inductive Replayed (w : World) (tables : List (String × Batch)) : Except Fault Unit → World → Prop
  | all {d : Disk} (h : w.disk.After (w.db.coordinator.rootWrites tables) [] d) :
      Replayed w tables (.ok ()) (w.withDisk d)
  | halted {done rest : List (String × Batch)} {failed : String × Batch} {d : Disk}
      {table : String} {source : IoError}
      (hsplit : w.db.coordinator.rootWrites tables = done ++ failed :: rest)
      (h : w.disk.After done [failed] d) :
      Replayed w tables (.error (.error (.ioFailure table source)))
        ((w.withDisk d).halt table source)
  | crashed {done rest : List (String × Batch)} {failed : String × Batch} {d : Disk}
      (hsplit : w.db.coordinator.rootWrites tables = done ++ failed :: rest)
      (h : w.disk.After done [failed] d) :
      Replayed w tables (.error .panic) (w.withDisk d)

namespace Operation

theorem applyRecord_ends (w : World) (record : JournalRecord)
    (hknown : ∀ table ∈ record.tables, (w.db.coordinator.rootOf? table.1).isSome) :
    (applyRecord record).Ends w (Replayed w record.tables) := by
  let c := w.db.coordinator
  -- After the tables in `done`, only the disk has changed, by the writes to their roots.
  apply ends_forM (I := fun rest w' => ∃ done d, record.tables = done ++ rest ∧
    w.disk.After (c.rootWrites done) [] d ∧ w' = w.withDisk d)
  · rintro table rest w' ⟨done, d, hsplit, hafter, rfl⟩
    have hmem : table ∈ record.tables := hsplit ▸ List.mem_append_right _ List.mem_cons_self
    obtain ⟨root, hroot⟩ := Option.isSome_iff_exists.mp (hknown table hmem)
    obtain ⟨chain, hchain, rfl⟩ := Option.map_eq_some_iff.mp hroot
    have hfind : (w.withDisk d).db.coordinator.tables.find? (·.name = table.1) = some chain :=
      hchain
    have hsplit' : record.tables = (done ++ [table]) ++ rest := by simp [hsplit]
    unfold applyTable
    simp only [ends_bind, ends_getCoordinator, hfind, writeRoot]
    cases hempty : table.2.isEmpty with
    | true =>
      -- A table without entries is passed over, by the loop and by `rootWrites`.
      have hwrites : c.rootWrites (done ++ [table]) = c.rootWrites done := by
        rw [Coordinator.rootWrites_append]
        simp only [Coordinator.rootWrites, List.filterMap_cons, hempty, if_true,
          List.filterMap_nil, List.append_nil]
      exact ⟨done ++ [table], d, hsplit', hwrites ▸ hafter, rfl⟩
    | false =>
      have hwrites : c.rootWrites (done ++ [table]) =
          c.rootWrites done ++ [(chain.root, table.2)] := by
        rw [Coordinator.rootWrites_append]
        simp only [Coordinator.rootWrites, List.filterMap_cons, hempty, Bool.false_eq_true,
          if_false, c, hroot, Option.map_some, List.filterMap_nil]
      have hall : c.rootWrites record.tables =
          c.rootWrites done ++ (chain.root, table.2) :: c.rootWrites rest := by
        rw [hsplit', Coordinator.rootWrites_append, hwrites]
        simp
      simp only [Bool.false_eq_true, if_false]
      refine flushWrite_write_ends (fun hwrite => ?_)
        (fun source hwrite => .halted hall (hafter.stop (Disk.after_write_error hwrite)))
        fun hwrite => .crashed hall (hafter.stop (Disk.after_write_error hwrite))
      refine ⟨done ++ [table], _, hsplit', ?_, rfl⟩
      rw [hwrites]
      exact hafter.trans (Disk.after_write_ok hwrite)
  · rintro w' ⟨done, d, hsplit, hafter, rfl⟩
    rw [List.append_nil] at hsplit
    rw [← hsplit] at hafter
    exact .all hafter
  · exact ⟨[], w.disk, rfl, Disk.After.refl _, rfl⟩

/-- Where no store is set to fail, a record of known tables is carried
out. -/
theorem applyRecord_healthy (w : World) (record : JournalRecord) (hd : w.disk.Healthy)
    (hknown : ∀ table ∈ record.tables, (w.db.coordinator.rootOf? table.1).isSome) :
    (applyRecord record).Ends w fun r w' => r = .ok () ∧ w'.disk.Healthy := by
  apply ends_forM (I := fun rest w' => w'.disk.Healthy ∧ w'.db.coordinator = w.db.coordinator ∧
    ∀ table ∈ rest, table ∈ record.tables)
  · rintro table rest w' ⟨hd', hc, hrest⟩
    obtain ⟨root, hroot⟩ := Option.isSome_iff_exists.mp
      (hknown table (hrest table List.mem_cons_self))
    obtain ⟨chain, hchain, rfl⟩ := Option.map_eq_some_iff.mp hroot
    have hrest' : ∀ table ∈ rest, table ∈ record.tables :=
      fun other ho => hrest other (List.mem_cons_of_mem _ ho)
    unfold applyTable
    simp only [ends_bind, ends_getCoordinator, hc, hchain, writeRoot]
    split
    · exact ⟨hd', hc, hrest'⟩
    · obtain ⟨hok, hd''⟩ := hd'.write chain.root table.2
      exact flushWrite_write_ok hok ⟨hd'', hc, hrest'⟩
  · rintro w' ⟨hd', -, -⟩
    exact ⟨rfl, hd'⟩
  · exact ⟨hd, rfl, fun _ h => h⟩

end Operation

end LayeredStore

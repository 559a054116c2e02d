import LayeredStore.Proofs.Canonical
import LayeredStore.Proofs.Flush
import LayeredStore.Proofs.Runs

/-!
# `LayeredStore.Proofs.Traffic`: what a flush says to the stores

Whether a flush can be completed after a crash depends on the order in
which the stores hear of it, and not only on what they hold in the end.
`Disk.Carries d writes d'` says that these writes were carried out one
after the other, so a sequence of writes can be cut anywhere and the
disk looked at between two of them.

* `carries_append_iff`: a sequence of writes is cut in two.
* `applyRecord_carries`: carrying out a record to its end writes to the
  roots of its tables, in its order.
* `flushOldest_carries`: a flush that succeeds writes the record, then
  the roots, and then removes the record.
* `flushOldest_traffic`: what these writes are, what the journal holds at
  each write to a root, and what the flush says of itself.
-/

set_option autoImplicit false

namespace LayeredStore

/-! ### Writes that follow each other -/

namespace Disk

/-- The writes are carried out one after the other, and none of them is
stopped. -/
inductive Carries : Disk → List (String × Batch) → Disk → Prop
  | nothing (d : Disk) : Carries d [] d
  | write {d d' : Disk} {store : String} {batch : Batch} {rest : List (String × Batch)}
      (hok : (d.write store batch).1 = .ok ()) (hrest : Carries (d.write store batch).2 rest d') :
      Carries d ((store, batch) :: rest) d'

theorem carries_singleton {d : Disk} {store : String} {batch : Batch}
    (hok : (d.write store batch).1 = .ok ()) :
    d.Carries [(store, batch)] (d.write store batch).2 :=
  .write hok (.nothing _)

/-- Between two of the writes, the disk has carried out those before and
will carry out those after. -/
theorem carries_append_iff {d d'' : Disk} {first later : List (String × Batch)} :
    d.Carries (first ++ later) d'' ↔ ∃ d', d.Carries first d' ∧ d'.Carries later d'' := by
  constructor
  · intro h
    induction first generalizing d with
    | nil => exact ⟨d, .nothing d, h⟩
    | cons write first ih =>
      cases h with
      | write hok hrest =>
        obtain ⟨d', hfirst, hlater⟩ := ih hrest
        exact ⟨d', .write hok hfirst, hlater⟩
  · rintro ⟨d', hfirst, hlater⟩
    induction hfirst with
    | nothing => exact hlater
    | write hok _ ih => exact .write hok (ih hlater)

theorem Carries.trans {d d' d'' : Disk} {first later : List (String × Batch)}
    (h : d.Carries first d') (h' : d'.Carries later d'') : d.Carries (first ++ later) d'' :=
  carries_append_iff.mpr ⟨d', h, h'⟩

/-- Writes that are carried out leave behind what they make of the
stores. -/
theorem Carries.after {d d' : Disk} {writes : List (String × Batch)} (h : d.Carries writes d') :
    d.After writes [] d' := by
  induction h with
  | nothing d => exact .refl d
  | write hok _ ih => exact (after_write_ok hok).trans ih

end Disk

/-! ### A record that is carried out -/

namespace Operation

/-- A table's part of a record is one write to its root, or none if there
is nothing in it. -/
theorem applyTable_carries (w : World) (table : String × Batch) :
    (applyTable table).Ends w fun r w' => r = .ok () →
      w.disk.Carries (w.db.coordinator.rootWrites [table]) w'.disk ∧ w' = w.withDisk w'.disk := by
  unfold applyTable
  simp only [ends_bind, ends_getCoordinator]
  cases hfind : w.db.coordinator.tables.find? (·.name = table.1) with
  | none => exact fun h => by cases h
  | some chain =>
    have hroot : w.db.coordinator.rootOf? table.1 = some chain.root := by
      rw [Coordinator.rootOf?, hfind, Option.map_some]
    simp only [writeRoot, Coordinator.rootWrites, List.filterMap_cons, List.filterMap_nil, hroot,
      Option.map_some]
    cases table.2.isEmpty with
    | true => exact fun _ => ⟨.nothing _, rfl⟩
    | false =>
      exact flushWrite_write_ends (fun hok _ => ⟨Disk.carries_singleton hok, rfl⟩)
        (fun _ _ h => by cases h) fun _ h => by cases h

/-- A record that is carried out to its end is written to the roots of
its tables, in its order. -/
theorem applyRecord_carries (w : World) (record : JournalRecord) :
    (applyRecord record).Ends w fun r w' => r = .ok () →
      w.disk.Carries (w.db.coordinator.rootWrites record.tables) w'.disk ∧
        w' = w.withDisk w'.disk := by
  let c := w.db.coordinator
  -- After the tables in `done`, only the disk has changed, by the writes to their roots.
  apply ends_forM (I := fun rest w' => ∃ done, record.tables = done ++ rest ∧
    w.disk.Carries (c.rootWrites done) w'.disk ∧ w' = w.withDisk w'.disk)
  · rintro table rest w' ⟨done, hsplit, hcarries, hw'⟩
    refine (applyTable_carries w' table).mono fun r w'' h => ?_
    cases r with
    | error fault => exact nofun
    | ok u =>
      obtain ⟨htable, hw''⟩ := h rfl
      have hc : w'.db.coordinator = c := congrArg (·.db.coordinator) hw'
      rw [hc] at htable
      refine ⟨done ++ [table], by simp [hsplit], ?_, ?_⟩
      · rw [Coordinator.rootWrites_append]
        exact hcarries.trans htable
      · rw [hw'', hw']
        rfl
  · rintro w' ⟨done, hsplit, hcarries, hw'⟩ -
    rw [List.append_nil] at hsplit
    exact ⟨hsplit ▸ hcarries, hw'⟩
  · exact ⟨[], rfl, .nothing _, rfl⟩

/-- A flush that succeeds writes the record of the net changes, then what
is in it to the roots, and then removes it. -/
theorem flushOldest_carries (w : World) (hnames : w.db.coordinator.tableNames.Nodup) (count : Nat)
    (hpos : 0 < min count w.db.coordinator.levels.length) :
    (flushOldest count).Ends w fun r w' => r = .ok () →
      w.disk.Carries
        (w.db.coordinator.flushWrites (min count w.db.coordinator.levels.length) ++
          [w.db.coordinator.clearWrite]) w'.disk := by
  let c := w.db.coordinator
  unfold flushOldest
  simp only [ends_bind, ends_getCoordinator, ends_ite, ends_pure, writeRecord]
  generalize min count w.db.coordinator.levels.length = n at hpos
  rw [if_neg (Nat.ne_of_gt hpos)]
  cases hfits : (w.db.coordinator.netRecord n).fits with
  | false => exact fun h => by cases h
  | true =>
    simp only [if_true]
    refine flushWrite_write_ends (fun hrecord => ?_) (fun _ _ h => by cases h) fun _ h => by cases h
    have hroots : c.rootWrites (c.netRecord n).tables = c.netWrites n :=
      Coordinator.rootWrites_netRecord (fun _ => Coordinator.rootOf?_of_mem hnames) n
    refine (applyRecord_carries _ (c.netRecord n)).mono fun r w' h => ?_
    cases r with
    | error fault => exact fun h => by cases h
    | ok u =>
      have hrecorded : w.disk.Carries (c.flushWrites n) w'.disk :=
        .write hrecord (hroots ▸ (h rfl).1)
      simp only [ends_update]
      exact flushWrite_write_ends
        (fun hclear _ => hrecorded.trans (Disk.carries_singleton hclear))
        (fun _ _ h => by cases h) fun _ h => by cases h

end Operation

/-! ### What the writes of a flush are -/

namespace Coordinator

/-- The net diff of a table says of a key what the newest of the layers
that are moved says of it. -/
theorem mem_netDiff_iff (chain : Chain) (count : Nat) (key : Bytes) (entry : Entry) :
    (key, entry) ∈ (chain.netOldest count).diff.toList ↔
      Chain.topmost? (chain.layers.take count) key = some entry := by
  rw [OrderedMap.mem_toList_iff, Chain.get?_diff_netOldest, Chain.topmost?_eq]

/-- Of writes to different stores, one is to this store, or none. -/
theorem filter_writes_of_nodup {writes : List (String × Batch)}
    (hnodup : (writes.map (·.1)).Nodup) {write : String × Batch} (h : write ∈ writes) :
    writes.filter (·.1 = write.1) = [write] := by
  obtain ⟨before, rest, rfl⟩ := List.append_of_mem h
  rw [List.map_append, List.map_cons, List.nodup_append] at hnodup
  obtain ⟨-, hrest, hbefore⟩ := hnodup
  have hfirst : before.filter (·.1 = write.1) = [] := List.filter_eq_nil_iff.mpr fun other ho =>
    of_decide_eq_true.mt (hbefore _ (List.mem_map_of_mem ho) _ List.mem_cons_self)
  have hlast : rest.filter (·.1 = write.1) = [] := List.filter_eq_nil_iff.mpr fun other ho =>
    of_decide_eq_true.mt fun he => (List.nodup_cons.mp hrest).1 (he ▸ List.mem_map_of_mem ho)
  rw [List.filter_append, hfirst, List.filter_cons_of_pos (by simp), hlast, List.nil_append]

/-- A root receives its net diff in one batch, or nothing if there is
none. -/
theorem filter_netWrites {c : Coordinator} (h : c.DistinctStores) (count : Nat) {chain : Chain}
    (hmem : chain ∈ c.tables) :
    (c.netWrites count).filter (·.1 = chain.root) =
      if (chain.netOldest count).diff.toList = [] then []
      else [(chain.root, (chain.netOldest count).diff.toList)] := by
  split
  · rename_i hempty
    refine List.filter_eq_nil_iff.mpr fun write hwrite hroot => ?_
    obtain ⟨other, hother, hstore, hdiff, hne⟩ := (c.mem_netWrites_iff count write).mp hwrite
    have heq : other = chain := List.inj_on_of_nodup_map (List.nodup_cons.mp h).2 hother hmem
      (hstore.trans (of_decide_eq_true hroot))
    exact hne (hdiff ▸ heq ▸ hempty)
  · rename_i hne
    have hwrite : (chain.root, (chain.netOldest count).diff.toList) ∈ c.netWrites count :=
      (c.mem_netWrites_iff count _).mpr ⟨chain, hmem, rfl, rfl, hne⟩
    exact filter_writes_of_nodup (netWrites_stores_nodup h count) hwrite

end Coordinator

/-- Once the record was written, writes to the roots leave it in the
journal. -/
theorem Disk.Carries.load_record {d d' : Disk} {journal : String} {record : JournalRecord}
    {writes : List (String × Batch)} (hfits : record.fits = true)
    (h : d.Carries ((journal, Journal.recordBatch record) :: writes) d')
    (hroots : ∀ write ∈ writes, write.1 ≠ journal) :
    Journal.load (d'.contents journal) = .ok (some record) := by
  have hcontents : d'.contents journal =
      (d.contents journal).apply (Journal.recordBatch record) := by
    rw [h.after.contents, ← List.singleton_append, Contents.afterWrites_append,
      Contents.afterWrites_singleton, Contents.afterWrites_of_forall_ne hroots]
  rw [hcontents]
  exact Journal.load_apply_recordBatch hfits _

/-- What the stores heard of a flush of the `n` oldest layers, if `bytes`
were written to the journal and `roots` to the roots. -/
structure FlushTraffic (w : World) (n : Nat) (bytes : Bytes) (roots : List (String × Batch))
    (w' : World) : Prop where
  /-- The record comes first and its removal last. -/
  attempts : w'.disk.attempts = w.disk.attempts ++
    (w.db.coordinator.journal, [(Journal.key, .value bytes)]) :: roots ++
      [(w.db.coordinator.journal, [(Journal.key, .tombstone)])]
  /-- Nothing else was written, and none of it was stopped. -/
  carries : w.disk.Carries ((w.db.coordinator.journal, [(Journal.key, .value bytes)]) :: roots ++
    [(w.db.coordinator.journal, [(Journal.key, .tombstone)])]) w'.disk
  /-- The record holds the net diffs, in the order of the tables. -/
  decodes : JournalRecord.decode bytes = .ok ⟨w.db.coordinator.tables.map fun chain =>
    (chain.name, (chain.netOldest n).diff.toList)⟩
  /-- Their keys increase, and they say of each key what the newest of
  the layers says of it. -/
  net : ∀ chain ∈ w.db.coordinator.tables, Pairs.Sorted (chain.netOldest n).diff.toList ∧
    ∀ key entry, (key, entry) ∈ (chain.netOldest n).diff.toList ↔
      Chain.topmost? (chain.layers.take n) key = some entry
  /-- The roots are written in the order of the tables. -/
  order : (roots.map (·.1)).Sublist (w.db.coordinator.tables.map (·.root))
  /-- Each is written its net diff in one batch, and none that has
  none. -/
  batches : ∀ chain ∈ w.db.coordinator.tables, roots.filter (·.1 = chain.root) =
    if (chain.netOldest n).diff.toList = [] then []
    else [(chain.root, (chain.netOldest n).diff.toList)]
  /-- When a root is written, the journal holds the whole record. -/
  recorded : ∀ before write after, roots = before ++ write :: after → ∃ d,
    w.disk.Carries ((w.db.coordinator.journal, [(Journal.key, .value bytes)]) :: before) d ∧
    d.Carries (write :: after ++ [(w.db.coordinator.journal, [(Journal.key, .tombstone)])])
      w'.disk ∧
    Journal.load (d.contents w.db.coordinator.journal) =
      .ok (some ⟨w.db.coordinator.tables.map fun chain =>
        (chain.name, (chain.netOldest n).diff.toList)⟩)
  /-- It is gone in the end. -/
  removed : Journal.load (w'.disk.contents w.db.coordinator.journal) = .ok none
  /-- The event counts the layers and the entries of the net diffs. -/
  published : w'.db.coordinator.published =
    if w.db.coordinator.publishing then w.db.coordinator.published ++
      [.flush n
        (w.db.coordinator.tables.flatMap fun chain => (chain.netOldest n).diff.toList).length
        w'.db.coordinator.depth]
    else w.db.coordinator.published

namespace Coordinator

/-- Announcing an event changes neither the levels nor what is pending. -/
@[simp] theorem depth_announce (c : Coordinator) (event : Event) :
    (c.announce event).depth = c.depth := by
  unfold announce
  split <;> rfl

theorem published_announce (c : Coordinator) (event : Event) :
    (c.announce event).published =
      if c.publishing then c.published ++ [event] else c.published := by
  unfold announce
  split <;> rfl

/-- A record of net changes counts the entries of the net diffs. -/
theorem size_netRecord (c : Coordinator) (count : Nat) :
    (c.netRecord count).size =
      (c.tables.flatMap fun chain => (chain.netOldest count).diff.toList).length := by
  rw [JournalRecord.size, netRecord, List.flatMap_map]

end Coordinator

/-- **What a flush that succeeds says to the stores.** In every state in
which the names of the tables and the stores are distinct, a flush of at
least one layer that succeeds writes a record to the journal first. Its
bytes decode to the net diff of every table, in the order of the tables,
with strictly increasing keys. Then each root with a net diff that is not
empty receives it in one batch, in the same order, and no other root
anything; at each of these writes the journal holds the whole record.
The last write removes it. The event gives the number of layers, and of
entries of all net diffs. -/
theorem Operation.flushOldest_traffic (w : World) (hnames : w.db.coordinator.tableNames.Nodup)
    (hstores : w.db.coordinator.DistinctStores) (count : Nat) (hcount : 1 ≤ count)
    (hlevels : w.db.coordinator.levels ≠ []) :
    (flushOldest count).Ends w fun r w' => r = .ok () → ∃ bytes roots,
      FlushTraffic w (min count w.db.coordinator.levels.length) bytes roots w' := by
  have hpos : 0 < min count w.db.coordinator.levels.length := by
    have hlength := List.length_pos_iff.mpr hlevels
    omega
  refine ((flushOldest_ends w hnames count).and
    (flushOldest_carries w hnames count hpos)).mono fun r w' h => ?_
  obtain ⟨hend, hcarries⟩ := h
  rintro rfl
  specialize hcarries rfl
  have hgone := hend.journal_of_pos hpos
  generalize min count w.db.coordinator.levels.length = n at *
  cases hend with
  | nothing hn => omega
  | @finished _ hfits d _ c' hc' =>
    refine ⟨(w.db.coordinator.netRecord n).encode, w.db.coordinator.netWrites n,
      { attempts := ?_, carries := hcarries, decodes := JournalRecord.decode_encode hfits,
        net := fun chain _ =>
          ⟨(chain.netOldest n).diff.sorted, Coordinator.mem_netDiff_iff chain n⟩,
        order := w.db.coordinator.netWrites_stores_sublist n,
        batches := fun chain => Coordinator.filter_netWrites hstores n,
        recorded := fun before write after hsplit => ?_,
        removed := Journal.load_eq_none_iff.mpr hgone, published := ?_ }⟩
    · have hattempts := hcarries.after.attempts
      rwa [List.append_nil, ← List.append_assoc] at hattempts
    · -- The writes are split before the root; what precedes it leaves the record alone.
      have hwrites : w.db.coordinator.flushWrites n ++ [w.db.coordinator.clearWrite] =
          ((w.db.coordinator.journal, Journal.recordBatch (w.db.coordinator.netRecord n)) ::
            before) ++ (write :: after ++ [w.db.coordinator.clearWrite]) := by
        rw [Coordinator.flushWrites, hsplit]
        simp
      rw [hwrites] at hcarries
      obtain ⟨d', hbefore, hafter⟩ := Disk.carries_append_iff.mp hcarries
      refine ⟨d', hbefore, hafter, hbefore.load_record hfits fun other hother => ?_⟩
      exact Coordinator.journal_ne_of_mem_netWrites hstores
        (hsplit ▸ List.mem_append_left _ hother)
    · -- Nothing but the event of the flush is published.
      have hquiet : c'.published = w.db.coordinator.published ∧
          c'.publishing = w.db.coordinator.publishing := by
        rw [hc']
        unfold Coordinator.clampCursor
        split <;> exact ⟨rfl, rfl⟩
      show (c'.announce _).published = _
      rw [← Coordinator.size_netRecord, ← hquiet.1, ← hquiet.2, Coordinator.published_announce]
      simp only [World.withCoordinator, Coordinator.depth_announce]

/-- Three tables and three layers, of which two are moved. One table's
changes lie in the third layer alone, so its root is left out. -/
theorem Operation.flushOldest_traffic_three_tables :
    let w := (World.opened .empty { logEvents := true } "journal" []).play
      [.call (.addTable "a" "ra"), .call (.addTable "b" "rb"), .call (.addTable "c" "rc"),
        .call (.openSession false), .call (.write ⟨0, "a"⟩ [1] (.value [7])),
        .call (.write ⟨2, "c"⟩ [2] (.value [5])), .call .commit,
        .call (.openSession false), .call (.write ⟨0, "a"⟩ [0] (.value [1])),
        .call (.write ⟨2, "c"⟩ [2] .tombstone), .call .commit,
        .call (.openSession false), .call (.write ⟨1, "b"⟩ [9] (.value [9])), .call .commit]
    w.db.coordinator.tableNames.Nodup ∧ w.db.coordinator.DistinctStores ∧
      w.db.coordinator.levels ≠ [] ∧
      (flushOldest 2).Ends w fun r w' => r = .ok () ∧
        (∃ bytes roots, FlushTraffic w 2 bytes roots w') ∧
        w'.disk.attempts.map (·.1) = ["journal", "ra", "rc", "journal"] ∧
        w'.db.coordinator.published.getLast? = some (.flush 2 3 1) := by
  intro w
  have hnames : w.db.coordinator.tableNames.Nodup := by decide +kernel
  have hstores : w.db.coordinator.DistinctStores :=
    (Coordinator.distinctStores_iff _).mpr (by decide +kernel)
  have hlevels : w.db.coordinator.levels ≠ [] := by decide +kernel
  have hok : ((flushOldest 2).perform w).1 = .ok () := by decide +kernel
  have htraffic := flushOldest_traffic w hnames hstores 2 (by decide) hlevels hok
  rw [show min 2 w.db.coordinator.levels.length = 2 by decide +kernel] at htraffic
  exact ⟨hnames, hstores, hlevels, hok, htraffic, by decide +kernel, by decide +kernel⟩

end LayeredStore

import LayeredStore.Proofs.Overlay
import LayeredStore.Proofs.Writes
import Mathlib.Data.List.Nodup

/-!
# `LayeredStore.Proofs.Flush`: how a flush can end

A flush makes these writes, one after the other: the record into the
journal, the net diff of the oldest layers into the root of every table
that they say something about, and the removal of the record. Any of
them can be stopped, by an error or by a panic. `FlushEnd` lists the
ways in which a flush can end, and the rest of the module says what they
have in common.

* `flushOldest_ends`: a flush ends in one of these ways, if the tables'
  names are distinct.
* `flushOldest_healthy`: where no store is set to fail and the record
  can be encoded, it ends without a fault.
* `FlushEnd.effect`: the layers are still there and every root holds its
  old contents or these overlaid with the oldest layers; or the layers
  are gone and every root holds the overlaid contents. So a flush of any
  outcome leaves every table reading as before.
* `FlushEnd.journal_of_ok`, `FlushEnd.halted_of_error`: a flush that
  succeeds leaves no record, and one that fails halts the database.
-/

set_option autoImplicit false

namespace LayeredStore

namespace Coordinator

/-- The stores of the coordinator are distinct: the journal, and the
root of every table. -/
def DistinctStores (c : Coordinator) : Prop := (c.journal :: c.tables.map (·.root)).Nodup

/-- The coordinators agree in their tables' layers, their levels and
which of these belongs to the open unit of work. -/
structure SameStacks (c c' : Coordinator) : Prop where
  tables : c'.tables = c.tables
  journal : c'.journal = c.journal
  levels : c'.levels = c.levels
  pending : c'.pending = c.pending
  nextSeq : c'.nextSeq = c.nextSeq
  openSeq? : c'.openSeq? = c.openSeq?

theorem SameStacks.refl (c : Coordinator) : c.SameStacks c := ⟨rfl, rfl, rfl, rfl, rfl, rfl⟩

theorem SameStacks.trans {c c' c'' : Coordinator} (h : c.SameStacks c') (h' : c'.SameStacks c'') :
    c.SameStacks c'' where
  tables := h'.tables.trans h.tables
  journal := h'.journal.trans h.journal
  levels := h'.levels.trans h.levels
  pending := h'.pending.trans h.pending
  nextSeq := h'.nextSeq.trans h.nextSeq
  openSeq? := h'.openSeq?.trans h.openSeq?

theorem sameStacks_bump (c : Coordinator) : c.SameStacks c.bump := ⟨rfl, rfl, rfl, rfl, rfl, rfl⟩

theorem sameStacks_announce (c : Coordinator) (event : Event) :
    c.SameStacks (c.announce event) := by
  unfold announce
  split <;> exact ⟨rfl, rfl, rfl, rfl, rfl, rfl⟩

theorem sameStacks_clampCursor (c : Coordinator) : c.SameStacks c.clampCursor := by
  unfold clampCursor
  split <;> exact ⟨rfl, rfl, rfl, rfl, rfl, rfl⟩

theorem sameStacks_halted (c : Coordinator) : c.SameStacks { c with halted := true } :=
  ⟨rfl, rfl, rfl, rfl, rfl, rfl⟩

@[simp] theorem halted_clampCursor (c : Coordinator) : c.clampCursor.halted = c.halted := by
  unfold clampCursor
  split <;> rfl

@[simp] theorem halted_announce (c : Coordinator) (event : Event) :
    (c.announce event).halted = c.halted := by
  unfold announce
  split <;> rfl

/-! ### The writes of a flush -/

/-- What a flush of the `count` oldest layers writes to the roots. -/
def netWrites (c : Coordinator) (count : Nat) : List (String × Batch) :=
  c.tables.filterMap fun chain =>
    if (chain.netOldest count).diff.toList.isEmpty then none
    else some (chain.root, (chain.netOldest count).diff.toList)

/-- What a flush of the `count` oldest layers writes before it takes
them away: the record, and then the roots. -/
def flushWrites (c : Coordinator) (count : Nat) : List (String × Batch) :=
  (c.journal, Journal.recordBatch (c.netRecord count)) :: c.netWrites count

/-- The write that ends a flush. -/
def clearWrite (c : Coordinator) : String × Batch := (c.journal, Journal.clearBatch)

/-- The write that ends a flush removes the record. -/
theorem get?_afterWrites_clearWrite (c : Coordinator) (contents : Contents) :
    (contents.afterWrites c.journal [c.clearWrite]).get? Journal.key = none := by
  rw [clearWrite, Contents.afterWrites_singleton]
  show (contents.put Journal.key .tombstone).get? Journal.key = none
  rw [Contents.get?_put, if_pos rfl]
  rfl

theorem rootOf?_of_mem {c : Coordinator} (hnames : c.tableNames.Nodup) {chain : Chain}
    (h : chain ∈ c.tables) : c.rootOf? chain.name = some chain.root := by
  unfold rootOf?
  cases hfind : c.tables.find? (·.name = chain.name) with
  | none =>
    have hne := List.find?_eq_none.mp hfind chain h
    exact absurd (decide_eq_true rfl) hne
  | some other =>
    have hname : other.name = chain.name := of_decide_eq_true (List.find?_some hfind :)
    have hmem := List.mem_of_find?_eq_some hfind
    rw [List.inj_on_of_nodup_map hnames hmem h hname]
    rfl

/-- The record of a flush names every table, so carrying it out writes
every root, also over tables that were registered in another order. -/
theorem rootWrites_netRecord {c c' : Coordinator}
    (h : ∀ chain ∈ c.tables, c'.rootOf? chain.name = some chain.root) (count : Nat) :
    c'.rootWrites (c.netRecord count).tables = c.netWrites count := by
  unfold rootWrites netWrites netRecord
  rw [List.filterMap_map]
  apply List.filterMap_congr
  intro chain hmem
  simp only [Function.comp_apply, h chain hmem, Option.map_some]

/-- Every table that the record of a flush names is known. -/
theorem isSome_rootOf?_netRecord {c c' : Coordinator}
    (h : ∀ chain ∈ c.tables, c'.rootOf? chain.name = some chain.root) (count : Nat) :
    ∀ table ∈ (c.netRecord count).tables, (c'.rootOf? table.1).isSome := by
  intro table hmem
  obtain ⟨chain, hchain, rfl⟩ := List.mem_map.mp hmem
  rw [h chain hchain]
  rfl

theorem mem_netWrites_iff (c : Coordinator) (count : Nat) (write : String × Batch) :
    write ∈ c.netWrites count ↔ ∃ chain ∈ c.tables, chain.root = write.1 ∧
      (chain.netOldest count).diff.toList = write.2 ∧ write.2 ≠ [] := by
  unfold netWrites
  rw [List.mem_filterMap]
  constructor
  · rintro ⟨chain, hmem, hsome⟩
    split at hsome
    · cases hsome
    · rename_i hempty
      cases hsome
      exact ⟨chain, hmem, rfl, rfl, fun h => hempty (List.isEmpty_iff.mpr h)⟩
  · rintro ⟨chain, hmem, hroot, hdiff, hne⟩
    refine ⟨chain, hmem, ?_⟩
    rw [hroot, hdiff, if_neg (fun h => hne (List.isEmpty_iff.mp h))]

/-- The roots are written in the order of the tables, leaving some
out. -/
theorem netWrites_stores_sublist (c : Coordinator) (count : Nat) :
    ((c.netWrites count).map (·.1)).Sublist (c.tables.map (·.root)) := by
  unfold netWrites
  induction c.tables with
  | nil => exact List.Sublist.refl _
  | cons chain rest ih =>
    rw [List.filterMap_cons]
    split
    · exact ih.cons _
    · rename_i write hsome
      split at hsome
      · cases hsome
      · cases hsome
        exact ih.cons_cons _

/-- Every root is written at most once, and the journal is none of
them. -/
theorem flushWrites_stores_nodup {c : Coordinator} (h : c.DistinctStores) (count : Nat) :
    ((c.flushWrites count).map (·.1)).Nodup :=
  ((c.netWrites_stores_sublist count).cons_cons _).nodup h

theorem netWrites_stores_nodup {c : Coordinator} (h : c.DistinctStores) (count : Nat) :
    ((c.netWrites count).map (·.1)).Nodup :=
  (List.nodup_cons.mp (flushWrites_stores_nodup h count)).2

/-- No table's root is the journal. -/
theorem DistinctStores.journal_ne {c : Coordinator} (h : c.DistinctStores) {chain : Chain}
    (hmem : chain ∈ c.tables) : c.journal ≠ chain.root := by
  intro heq
  exact (List.nodup_cons.mp h).1 (heq ▸ List.mem_map_of_mem hmem)

/-- Tables whose roots are the same are the same. -/
theorem DistinctStores.table_unique {c : Coordinator} (h : c.DistinctStores) {table other : Nat}
    {chain chain' : Chain} (hchain : c.tables[table]? = some chain)
    (hother : c.tables[other]? = some chain') (hroot : chain.root = chain'.root) :
    table = other := by
  have hlt : table < (c.tables.map (·.root)).length := by
    rw [List.length_map]
    exact (List.getElem?_eq_some_iff.mp hchain).1
  refine (List.getElem?_inj hlt (List.nodup_cons.mp h).2).mp ?_
  rw [List.getElem?_map, List.getElem?_map, hchain, hother, Option.map_some, Option.map_some, hroot]

/-- The writes of a flush to the roots leave a root with its contents
changed by its own net diff alone. -/
theorem afterWrites_netWrites {c : Coordinator} (h : c.DistinctStores) (count : Nat)
    {chain : Chain} (hmem : chain ∈ c.tables) (contents : Contents) :
    contents.afterWrites chain.root (c.netWrites count) =
      contents.apply (chain.netOldest count).diff.toList := by
  by_cases hempty : (chain.netOldest count).diff.toList = []
  · rw [hempty]
    -- Nothing is written to this root, for all writes are to other stores.
    apply Contents.afterWrites_of_forall_ne
    intro write hwrite hstore
    obtain ⟨other, hother, hroot, hdiff, hne⟩ := (c.mem_netWrites_iff count write).mp hwrite
    have heq := List.inj_on_of_nodup_map (List.nodup_cons.mp h).2 hother hmem (hroot.trans hstore)
    exact hne (hdiff ▸ heq ▸ hempty)
  · have hwrite : (chain.root, (chain.netOldest count).diff.toList) ∈ c.netWrites count :=
      (c.mem_netWrites_iff count _).mpr ⟨chain, hmem, rfl, rfl, hempty⟩
    exact Contents.afterWrites_of_mem (netWrites_stores_nodup h count) hwrite

/-- All writes of a flush together leave a root with its contents
overlaid with the oldest layers. -/
theorem afterWrites_flushWrites {c : Coordinator} (h : c.DistinctStores) (count : Nat)
    {chain : Chain} (hmem : chain ∈ c.tables) (contents : Contents) :
    contents.afterWrites chain.root (c.flushWrites count) =
      contents.overlay (Chain.diffs (chain.layers.take count)) := by
  have hrecord : contents.afterWrites chain.root (c.flushWrites count) =
      contents.afterWrites chain.root (c.netWrites count) := by
    rw [Contents.afterWrites, flushWrites, List.foldl_cons, if_neg (h.journal_ne hmem)]
    rfl
  rw [hrecord, afterWrites_netWrites h count hmem, chain.apply_netOldest]

/-- The writes of a flush to the roots are none to the journal. -/
theorem journal_ne_of_mem_netWrites {c : Coordinator} (h : c.DistinctStores) {count : Nat}
    {write : String × Batch} (hwrite : write ∈ c.netWrites count) : write.1 ≠ c.journal := by
  obtain ⟨chain, hmem, hroot, -⟩ := (c.mem_netWrites_iff count write).mp hwrite
  rw [← hroot]
  exact (h.journal_ne hmem).symm

end Coordinator

/-! ### The ways to end -/

/-- What a flush reports if one of the lengths in its record does not fit
into four bytes. -/
def Error.unencodable : Error :=
  .ioFailure Operation.journalName (.refused "invalid input parameter")

/-- How a flush of the `n` oldest layers can end: there is nothing to
do; the record cannot be encoded; a write is stopped before the layers
are taken away, or the last one after that, each by an error or by a
panic; or all writes are carried out. -/
inductive FlushEnd (w : World) (n : Nat) : Except Fault Unit → World → Prop
  | nothing (hn : n = 0) : FlushEnd w n (.ok ()) w
  | unfit (hn : 0 < n) (hfits : (w.db.coordinator.netRecord n).fits = false) :
      FlushEnd w n (.error (.error .unencodable))
        (w.halt Operation.journalName (.refused "invalid input parameter"))
  | halted (hn : 0 < n) (hfits : (w.db.coordinator.netRecord n).fits = true)
      {done rest : List (String × Batch)} {failed : String × Batch} {d : Disk} {table : String}
      {source : IoError} (hsplit : w.db.coordinator.flushWrites n = done ++ failed :: rest)
      (h : w.disk.After done [failed] d) :
      FlushEnd w n (.error (.error (.ioFailure table source)))
        ((w.withDisk d).halt table source)
  | crashed (hn : 0 < n) (hfits : (w.db.coordinator.netRecord n).fits = true)
      {done rest : List (String × Batch)} {failed : String × Batch} {d : Disk}
      (hsplit : w.db.coordinator.flushWrites n = done ++ failed :: rest)
      (h : w.disk.After done [failed] d) :
      FlushEnd w n (.error .panic) (w.withDisk d)
  | unclearedHalted (hn : 0 < n) (hfits : (w.db.coordinator.netRecord n).fits = true)
      {d : Disk} {source : IoError}
      (h : w.disk.After (w.db.coordinator.flushWrites n) [w.db.coordinator.clearWrite] d) :
      FlushEnd w n (.error (.error (.ioFailure Operation.journalName source)))
        (((w.withDisk d).withCoordinator (w.db.coordinator.dropOldest n).clampCursor).halt
          Operation.journalName source)
  | unclearedCrashed (hn : 0 < n) (hfits : (w.db.coordinator.netRecord n).fits = true) {d : Disk}
      (h : w.disk.After (w.db.coordinator.flushWrites n) [w.db.coordinator.clearWrite] d) :
      FlushEnd w n (.error .panic)
        ((w.withDisk d).withCoordinator (w.db.coordinator.dropOldest n).clampCursor)
  | finished (hn : 0 < n) (hfits : (w.db.coordinator.netRecord n).fits = true) {d : Disk}
      (h : w.disk.After (w.db.coordinator.flushWrites n ++ [w.db.coordinator.clearWrite]) [] d)
      {c : Coordinator} (hc : c = (w.db.coordinator.dropOldest n).clampCursor.bump) :
      FlushEnd w n (.ok ())
        (((w.withDisk d).say
          (.flushed n (w.db.coordinator.netRecord n).size c.depth)).withCoordinator
            (c.announce (.flush n (w.db.coordinator.netRecord n).size c.depth)))

/-- A flush whose record cannot be encoded has nothing to do, or it halts
the database with nothing written. -/
theorem FlushEnd.of_unfit {w w' : World} {n : Nat} {r : Except Fault Unit}
    (h : FlushEnd w n r w') (hfits : (w.db.coordinator.netRecord n).fits = false) :
    n = 0 ∧ r = .ok () ∧ w' = w ∨ r = .error (.error .unencodable) ∧
      w' = w.halt Operation.journalName (.refused "invalid input parameter") := by
  cases h with
  | nothing hn => exact .inl ⟨hn, rfl, rfl⟩
  | unfit => exact .inr ⟨rfl, rfl⟩
  | halted _ hfits' | crashed _ hfits' | unclearedHalted _ hfits' | unclearedCrashed _ hfits'
  | finished _ hfits' =>
    rw [hfits] at hfits'
    cases hfits'

namespace Operation

/-- A flush ends in one of the ways listed. -/
theorem flushOldest_ends (w : World) (hnames : w.db.coordinator.tableNames.Nodup) (count : Nat) :
    (flushOldest count).Ends w
      (FlushEnd w (min count w.db.coordinator.levels.length)) := by
  let c := w.db.coordinator
  unfold flushOldest
  simp only [ends_bind, ends_getCoordinator, ends_ite, ends_pure, writeRecord]
  generalize min count w.db.coordinator.levels.length = n
  split
  · exact .nothing ‹_›
  rename_i hn
  have hpos : 0 < n := Nat.pos_of_ne_zero hn
  cases hfits : (w.db.coordinator.netRecord n).fits with
  | false => exact .unfit hpos hfits
  | true =>
    simp only [if_true]
    have hroots : c.rootWrites (c.netRecord n).tables = c.netWrites n :=
      Coordinator.rootWrites_netRecord (fun _ => Coordinator.rootOf?_of_mem hnames) n
    have hknown : ∀ table ∈ (c.netRecord n).tables, (c.rootOf? table.1).isSome :=
      Coordinator.isSome_rootOf?_netRecord (fun _ => Coordinator.rootOf?_of_mem hnames) n
    -- The record is the first write. If it is stopped, no other is attempted.
    let record := (c.journal, Journal.recordBatch (c.netRecord n))
    have hall : c.flushWrites n = [] ++ record :: c.netWrites n := rfl
    refine flushWrite_write_ends (fun hrecord => ?_)
      (fun source hrecord => .halted hpos hfits hall (Disk.after_write_error hrecord))
      fun hrecord => .crashed hpos hfits hall (Disk.after_write_error hrecord)
    have hfirst : w.disk.After [record] [] _ := Disk.after_write_ok hrecord
    -- The roots follow, in the order of the record.
    have happly := applyRecord_ends (w.withDisk (w.disk.write c.journal
      (Journal.recordBatch (c.netRecord n))).2) (c.netRecord n) hknown
    refine happly.mono fun r w' hr => ?_
    cases hr with
    | @halted done rest failed _ _ _ hsplit h =>
      have hwrites : c.flushWrites n = (record :: done) ++ failed :: rest :=
        congrArg (record :: ·) (hroots.symm.trans hsplit)
      exact .halted hpos hfits hwrites (hfirst.trans h)
    | @crashed done rest failed _ hsplit h =>
      have hwrites : c.flushWrites n = (record :: done) ++ failed :: rest :=
        congrArg (record :: ·) (hroots.symm.trans hsplit)
      exact .crashed hpos hfits hwrites (hfirst.trans h)
    | @all d h =>
      have hall : w.disk.After (record :: c.rootWrites (c.netRecord n).tables) [] d :=
        hfirst.trans h
      rw [hroots] at hall
      -- The layers are taken away before the record is removed, so the ends
      -- from here on differ from those above also in the coordinator.
      simp only [ends_update]
      exact flushWrite_write_ends
        (fun hclear => .finished hpos hfits (hall.trans (Disk.after_write_ok hclear)) rfl)
        (fun source hclear =>
          .unclearedHalted hpos hfits (hall.stop (Disk.after_write_error hclear)))
        fun hclear => .unclearedCrashed hpos hfits (hall.stop (Disk.after_write_error hclear))

/-- Where no store is set to fail, a flush whose record can be encoded
ends without a fault. -/
theorem flushOldest_healthy (w : World) (hnames : w.db.coordinator.tableNames.Nodup)
    (hd : w.disk.Healthy) (count : Nat)
    (hfits : (w.db.coordinator.netRecord (min count w.db.coordinator.levels.length)).fits = true) :
    (flushOldest count).Ends w fun r w' => r = .ok () ∧ w'.disk.Healthy := by
  let c := w.db.coordinator
  unfold flushOldest
  simp only [ends_bind, ends_getCoordinator, ends_ite, ends_pure, writeRecord, hfits, if_true]
  generalize min count w.db.coordinator.levels.length = n
  split
  · exact ⟨trivial, hd⟩
  obtain ⟨hok, hd'⟩ := hd.write c.journal (Journal.recordBatch (c.netRecord n))
  -- The record, the roots, and the removal of the record go through one after
  -- the other.
  refine flushWrite_write_ok hok ?_
  have hknown : ∀ table ∈ (c.netRecord n).tables, (c.rootOf? table.1).isSome :=
    Coordinator.isSome_rootOf?_netRecord (fun _ => Coordinator.rootOf?_of_mem hnames) n
  have happly := applyRecord_healthy (w.withDisk (w.disk.write c.journal
    (Journal.recordBatch (c.netRecord n))).2) (c.netRecord n) hd' hknown
  refine happly.mono fun r w' hr => ?_
  obtain ⟨rfl, hd''⟩ := hr
  obtain ⟨hok', hd'''⟩ := hd''.write c.journal Journal.clearBatch
  simp only [ends_update]
  exact flushWrite_write_ok hok' ⟨rfl, hd'''⟩

end Operation

/-! ### What all ends have in common -/

namespace FlushEnd

variable {w w' : World} {n : Nat} {r : Except Fault Unit}

/-- After some of the writes of a flush, every root holds its old
contents or these overlaid with the oldest layers. -/
theorem contents_of_prefix (hstores : w.db.coordinator.DistinctStores)
    {done failed : List (String × Batch)} {d : Disk} (h : w.disk.After done failed d)
    (hdone : done <+: w.db.coordinator.flushWrites n) {chain : Chain}
    (hmem : chain ∈ w.db.coordinator.tables) :
    d.contents chain.root = w.disk.contents chain.root ∨
      d.contents chain.root =
        (w.disk.contents chain.root).overlay (Chain.diffs (chain.layers.take n)) := by
  rw [h.contents, ← Coordinator.afterWrites_flushWrites hstores n hmem]
  exact Contents.afterWrites_of_prefix _ _ (Coordinator.flushWrites_stores_nodup hstores n) hdone

/-- After all writes of a flush, every root holds its old contents
overlaid with the oldest layers. -/
theorem contents_of_all (hstores : w.db.coordinator.DistinctStores)
    {failed : List (String × Batch)} {d : Disk}
    (h : w.disk.After (w.db.coordinator.flushWrites n) failed d) {chain : Chain}
    (hmem : chain ∈ w.db.coordinator.tables) :
    d.contents chain.root =
      (w.disk.contents chain.root).overlay (Chain.diffs (chain.layers.take n)) := by
  rw [h.contents, Coordinator.afterWrites_flushWrites hstores n hmem]

/-- A flush keeps the layers and leaves every root as it was or overlaid
with the oldest of them, or takes these away and leaves every root
overlaid. It does not keep them if it succeeds, unless there are none. -/
theorem effect (h : FlushEnd w n r w') (hstores : w.db.coordinator.DistinctStores) :
    (w.db.coordinator.SameStacks w'.db.coordinator ∧ (r = .ok () → n = 0) ∧
      ∀ chain ∈ w.db.coordinator.tables,
      w'.disk.contents chain.root = w.disk.contents chain.root ∨
      w'.disk.contents chain.root =
        (w.disk.contents chain.root).overlay (Chain.diffs (chain.layers.take n))) ∨
    ((w.db.coordinator.dropOldest n).SameStacks w'.db.coordinator ∧
      ∀ chain ∈ w.db.coordinator.tables, w'.disk.contents chain.root =
        (w.disk.contents chain.root).overlay (Chain.diffs (chain.layers.take n))) := by
  have hdrop := Coordinator.sameStacks_clampCursor (w.db.coordinator.dropOldest n)
  cases h with
  | nothing hn => exact .inl ⟨.refl _, fun _ => hn, fun _ _ => .inl rfl⟩
  | unfit hn hfits =>
    exact .inl ⟨Coordinator.sameStacks_halted _, nofun, fun _ _ => .inl rfl⟩
  | halted hn hfits hsplit h =>
    exact .inl ⟨Coordinator.sameStacks_halted _, nofun, fun chain hmem =>
      contents_of_prefix hstores h ⟨_, hsplit.symm⟩ hmem⟩
  | crashed hn hfits hsplit h =>
    exact .inl ⟨.refl _, nofun, fun chain hmem =>
      contents_of_prefix hstores h ⟨_, hsplit.symm⟩ hmem⟩
  | unclearedHalted hn hfits h =>
    exact .inr ⟨hdrop.trans (Coordinator.sameStacks_halted _), fun chain hmem =>
      contents_of_all hstores h hmem⟩
  | unclearedCrashed hn hfits h =>
    exact .inr ⟨hdrop, fun chain hmem => contents_of_all hstores h hmem⟩
  | finished hn hfits h hc =>
    subst hc
    refine .inr ⟨(hdrop.trans (Coordinator.sameStacks_bump _)).trans
      (Coordinator.sameStacks_announce _ _), fun chain hmem => ?_⟩
    rw [← Coordinator.afterWrites_flushWrites hstores n hmem]
    refine (h.contents chain.root).trans ?_
    rw [Contents.afterWrites_append]
    -- The last write is to the journal, which is no root.
    exact Contents.afterWrites_singleton_of_ne (hstores.journal_ne hmem)

/-- A flush that reports an error halts the database. -/
theorem halted_of_error {error : Error} (h : FlushEnd w n (.error (.error error)) w') :
    w'.db.coordinator.halted = true := by
  cases h <;> rfl

/-- A flush of no layers does nothing, and nothing stops it. -/
theorem of_zero (h : FlushEnd w n r w') (hzero : n = 0) : r = .ok () ∧ w' = w := by
  cases h with
  | nothing => exact ⟨rfl, rfl⟩
  | unfit hn | halted hn | crashed hn | unclearedHalted hn | unclearedCrashed hn | finished hn =>
    exact absurd hzero (Nat.ne_of_gt hn)

/-- A flush that moves something and succeeds leaves no record in the
journal, whatever this held before. -/
theorem journal_of_pos (h : FlushEnd w n (.ok ()) w') (hpos : 0 < n) :
    (w'.disk.contents w.db.coordinator.journal).get? Journal.key = none := by
  cases h with
  | nothing hn => exact absurd hn (Nat.ne_of_gt hpos)
  | finished hn hfits h hc =>
    refine (congrArg (OrderedMap.get? · Journal.key) (h.contents _)).trans ?_
    rw [Contents.afterWrites_append]
    exact w.db.coordinator.get?_afterWrites_clearWrite _

/-- A flush that succeeds leaves no record in the journal. -/
theorem journal_of_ok (h : FlushEnd w n (.ok ()) w')
    (hrecord : (w.disk.contents w.db.coordinator.journal).get? Journal.key = none) :
    (w'.disk.contents w.db.coordinator.journal).get? Journal.key = none := by
  rcases Nat.eq_zero_or_pos n with hzero | hpos
  · rw [(h.of_zero hzero).2]
    exact hrecord
  · exact h.journal_of_pos hpos

/-- A flush keeps the stacks, or takes the oldest layers away. -/
theorem sameStacks (h : FlushEnd w n r w') :
    w.db.coordinator.SameStacks w'.db.coordinator ∨
      (w.db.coordinator.dropOldest n).SameStacks w'.db.coordinator := by
  have hdrop := Coordinator.sameStacks_clampCursor (w.db.coordinator.dropOldest n)
  cases h with
  | nothing | crashed => exact .inl (.refl _)
  | unfit | halted => exact .inl (Coordinator.sameStacks_halted _)
  | unclearedHalted => exact .inr (hdrop.trans (Coordinator.sameStacks_halted _))
  | unclearedCrashed => exact .inr hdrop
  | finished hn hfits h hc =>
    subst hc
    exact .inr ((hdrop.trans (Coordinator.sameStacks_bump _)).trans
      (Coordinator.sameStacks_announce _ _))

/-- A flush that succeeds takes the layers away and halts nothing. -/
theorem sameStacks_of_ok (h : FlushEnd w n (.ok ()) w') (hn : 0 < n) :
    (w.db.coordinator.dropOldest n).SameStacks w'.db.coordinator := by
  cases h with
  | nothing hzero => omega
  | finished hn hfits h hc =>
    subst hc
    exact ((Coordinator.sameStacks_clampCursor _).trans (Coordinator.sameStacks_bump _)).trans
      (Coordinator.sameStacks_announce _ _)

theorem halted_of_ok (h : FlushEnd w n (.ok ()) w') :
    w'.db.coordinator.halted = w.db.coordinator.halted := by
  cases h with
  | nothing => rfl
  | finished hn hfits h hc =>
    subst hc
    simp [World.withCoordinator, Coordinator.bump, Coordinator.dropOldest, Coordinator.mapTables]

/-- A flush changes nothing of the database but the coordinator. -/
theorem database (h : FlushEnd w n r w') :
    w'.db = { w.db with coordinator := w'.db.coordinator } := by
  cases h <;> rfl

end FlushEnd

end LayeredStore

import LayeredStore.Proofs.Parallel.Rules

/-!
# `LayeredStore.Proofs.Guests.Basic`: tables that nothing is written to

Two databases are compared, one of which has some tables more than the
other. They are its guests: they come last, and nothing is written to
them. The other tables cannot tell whether they are there. A flush is the
only place where guests leave a trace: the journal's record names them,
with no entries, until it is removed.

* `Chain.Blank.eq_padded`: in step, a table without entries is one that was
  only just registered.
* `Coordinator.hosting` is a coordinator with guests, and
  `Coordinator.Carries` says of a change that it can be made with them or
  without, as all changes can that treat all tables alike (`Evenly.carries`).
* `Disk.Alike`: the stores hold the same, but for the journal's record
  where there is a hole.
* `World.Beside`: the one world is like the other, but for its guests. So
  `parallel_besideBut`.
-/

set_option autoImplicit false

namespace LayeredStore

/-! ### Chains without entries -/

namespace Chain

theorem blank_padded (name root : String) (levels : List Nat) (pending : Nat)
    (openSeq? : Option Nat) : (padded name root levels pending openSeq?).Blank := by
  intro layer hmem
  obtain ⟨seq, -, rfl⟩ := List.mem_map.mp hmem
  split <;> rfl

/-- There is nothing to flush. -/
theorem Blank.toList_netOldest {chain : Chain} (h : chain.Blank) (count : Nat) :
    (chain.netOldest count).diff.toList = [] := by
  have hempty : (chain.netOldest count).diff = .empty := by
    apply OrderedMap.ext_get?
    intro key
    rw [get?_diff_netOldest, OrderedMap.get?_empty, List.findSome?_eq_none_iff]
    intro diff hmem
    obtain ⟨layer, hlayer, rfl⟩ := List.mem_map.mp (List.mem_reverse.mp hmem)
    rw [h layer (List.mem_of_mem_take hlayer), OrderedMap.get?_empty]
  rw [hempty]
  rfl

/-- In step, a table without entries is as one that was only just
registered: it has the same layers, with the same seals. -/
theorem Blank.eq_padded {chain : Chain} (h : chain.Blank) {levels : List Nat} {pending : Nat}
    {openSeq? : Option Nat} (hstep : chain.InStep levels pending openSeq?) :
    chain = padded chain.name chain.root levels pending openSeq? := by
  have hlayers : chain.layers = levels.map fun seq =>
      if openSeq? = some seq then Layer.new seq else (Layer.new seq).commit := by
    rw [← hstep.seqs, List.map_map]
    conv_lhs => rw [← List.map_id chain.layers]
    refine List.map_congr_left fun layer hmem => ?_
    have hcommitted := hstep.committed layer hmem
    have hseal := hstep.seals layer hmem
    have hdiff := h layer hmem
    obtain ⟨seq, diff, sealedAs⟩ := layer
    obtain rfl : diff = .empty := hdiff
    rw [Function.comp_apply]
    cases sealedAs with
    | none =>
      have hopen : openSeq? = some seq := by simpa [Layer.committed] using hcommitted
      rw [if_pos hopen]
      rfl
    | some digest =>
      have hopen : openSeq? ≠ some seq := hcommitted.mp rfl
      rw [if_neg hopen]
      exact congrArg (fun digest => Layer.mk seq .empty (some digest)) (eq_of_beq hseal)
  obtain ⟨name, root, layers, pending'⟩ := chain
  obtain rfl : pending' = pending := hstep.pending
  exact congrArg (Chain.mk name root · _) hlayers

end Chain

namespace Coordinator

variable {d : Coordinator} {f : Coordinator → Coordinator}

/-- The coordinator with more tables after its own. It has published other
events. -/
def hosting (d : Coordinator) (chains : List Chain) (published : List Event) : Coordinator :=
  { d with
    tables := d.tables ++ chains
    generation := chains.length + d.generation
    published := published }

/-- A change that can be made with guests or without. Nothing is published
by it, and nothing is written to the guests. -/
structure Carries (d : Coordinator) (f : Coordinator → Coordinator) : Prop where
  hosting : ∀ chains published, ∃ g, Chain.WritesNothing g ∧
    f (d.hosting chains published) = (f d).hosting (chains.map g) published
  published : (f d).published = d.published
  tables : (f d).tables.length = d.tables.length

/-- What treats all tables alike treats the guests as the other tables. -/
theorem Evenly.carries (hf : d.Evenly f) : d.Carries f := by
  obtain ⟨g, hg, htables, hretabled⟩ := hf.exists_map
  refine ⟨fun chains published => ⟨g, hg, ?_⟩, hf.published, by rw [htables, List.length_map]⟩
  show f (d.retabled (d.tables ++ chains) chains.length published) =
    (f d).retabled ((f d).tables ++ chains.map g) (chains.map g).length published
  rw [hretabled, htables, List.map_append, List.length_map]

/-- A table that is no guest is changed. -/
theorem carries_modifyTable {table : Nat} (h : table < d.tables.length) (k : Chain → Chain) :
    d.Carries (·.modifyTable table k) where
  hosting chains published := by
    refine ⟨id, Chain.writesNothing_id, ?_⟩
    have htables : (d.tables ++ chains).modify table k = d.tables.modify table k ++ chains := by
      apply List.ext_getElem?
      intro i
      by_cases hi : i < d.tables.length
      · have hi' : i < (d.tables.modify table k).length := by rwa [List.length_modify]
        rw [List.getElem?_modify, List.getElem?_append_left hi, List.getElem?_append_left hi',
          List.getElem?_modify]
      · have hne : table ≠ i := by omega
        simp [List.getElem?_append, hi, hne]
    unfold modifyTable Coordinator.hosting
    rw [htables, List.map_id]
  published := rfl
  tables := List.length_modify _ _ _

/-- The record of a flush names the guests after the other tables, with no
entries. -/
theorem netRecord_hosting {chains : List Chain} (hblank : ∀ chain ∈ chains, chain.Blank)
    (published : List Event) (count : Nat) :
    (d.hosting chains published).netRecord count =
      ⟨(d.netRecord count).tables ++ chains.map fun chain => (chain.name, [])⟩ := by
  unfold netRecord Coordinator.hosting
  rw [List.map_append]
  refine congrArg (fun guests => JournalRecord.mk (_ ++ guests)) ?_
  refine List.map_congr_left fun chain hmem => ?_
  rw [(hblank chain hmem).toList_netOldest]

theorem size_netRecord_hosting {chains : List Chain} (hblank : ∀ chain ∈ chains, chain.Blank)
    (published : List Event) (count : Nat) :
    ((d.hosting chains published).netRecord count).size = (d.netRecord count).size := by
  have hguests : (chains.map fun chain => (chain.name, ([] : Batch))).flatMap (·.2) = [] := by
    simp
  rw [netRecord_hosting hblank]
  unfold JournalRecord.size
  rw [List.flatMap_append, hguests, List.append_nil]

/-- With the guests' names in it, a record can still be encoded. -/
theorem fits_netRecord_hosting {chains : List Chain} (hblank : ∀ chain ∈ chains, chain.Blank)
    (published : List Event) (count : Nat)
    (hfits : ∀ chain ∈ chains, Wire.fits (Utf8.encode chain.name).length = true ∧
      Wire.fits (d.tables.length + chains.length) = true) :
    ((d.hosting chains published).netRecord count).fits = (d.netRecord count).fits := by
  cases chains with
  | nil => rw [netRecord_hosting hblank, List.map_nil, List.append_nil]
  | cons chain rest =>
    have hnames : ((chain :: rest).map fun chain => (chain.name, ([] : Batch))).all (fun table =>
        Wire.fits (Utf8.encode table.1).length && Batch.fits table.2) = true := by
      rw [List.all_map, List.all_eq_true]
      exact fun other hmem => Bool.and_eq_true_iff.mpr ⟨(hfits other hmem).1, rfl⟩
    have hroom := (hfits chain List.mem_cons_self).2
    have hlength : (d.netRecord count).tables.length = d.tables.length := List.length_map _
    have hlower : Wire.fits d.tables.length = true :=
      decide_eq_true (Nat.lt_of_le_of_lt (Nat.le_add_right _ _) (of_decide_eq_true hroom))
    rw [netRecord_hosting hblank, JournalRecord.fits, JournalRecord.fits, List.length_append,
      List.all_append, hnames, List.length_map, hlength, hroom, hlower, Bool.and_true]

end Coordinator

/-! ### Stores that hold the same -/

theorem Contents.get?_apply_singleton (contents : Contents) (key : Bytes) (entry : Entry)
    (other : Bytes) : (contents.apply [(key, entry)]).get? other =
      if key = other then entry.value? else contents.get? other :=
  contents.get?_put key entry other

/-- The stores hold the same, count the same writes and fail in the same
way. Where one is torn, the journal's record may be another. -/
structure Store.Alike (torn : Prop) (store other : Store) : Prop where
  plan : store.plan = other.plan
  writes : store.writes = other.writes
  contents : ∀ key, (torn → key ≠ Journal.key) →
    store.contents.get? key = other.contents.get? key

namespace Store

variable {store other : Store} {torn torn' : Prop}

theorem Alike.imp (h : store.Alike torn other) (himp : torn → torn') : store.Alike torn' other :=
  ⟨h.plan, h.writes, fun key hkey => h.contents key fun htorn => hkey (himp htorn)⟩

/-- Stores that are not torn are the same. -/
theorem Alike.eq (h : store.Alike torn other) (htorn : ¬torn) : store = other := by
  have hcontents : store.contents = other.contents :=
    OrderedMap.ext_get? fun key => h.contents key fun h => absurd h htorn
  obtain ⟨contents, writes, plan⟩ := store
  obtain ⟨contents', writes', plan'⟩ := other
  obtain rfl : contents = contents' := hcontents
  obtain rfl : writes = writes' := h.writes
  obtain rfl : plan = plan' := h.plan
  rfl

/-- Of two such stores, both carry a batch out or both fail. -/
theorem Alike.write (h : store.Alike torn other) {batch batch' : Batch}
    (hbatch : ∀ key, (torn' → key ≠ Journal.key) →
      (store.contents.apply batch).get? key = (other.contents.apply batch').get? key) :
    (∃ new new', store.write batch = .ok new ∧ other.write batch' = .ok new' ∧
      new.Alike torn' new') ∨
    ∃ failure, store.write batch = .error failure ∧ other.write batch' = .error failure ∧
      other.plan ≠ none := by
  unfold Store.write
  rw [h.plan]
  cases hplan : other.plan with
  | none => exact .inl ⟨_, _, rfl, rfl, rfl, congrArg (· + 1) h.writes, hbatch⟩
  | some plan =>
    obtain ⟨after, failure⟩ := plan
    cases after with
    | zero => exact .inr ⟨failure, rfl, rfl, nofun⟩
    | succ after => exact .inl ⟨_, _, rfl, rfl, rfl, congrArg (· + 1) h.writes, hbatch⟩

end Store

namespace Disk

/-- The stores are the same, but for the record in that of the hole. -/
def Alike (hole : Option String) (disk other : Disk) : Prop :=
  ∀ store, (disk.store store).Alike (hole = some store) (other.store store)

variable {disk other : Disk} {hole hole' : Option String}

theorem Alike.store_eq (h : disk.Alike none other) (store : String) :
    disk.store store = other.store store := (h store).eq nofun

theorem Alike.contents_eq (h : disk.Alike none other) (store : String) :
    disk.contents store = other.contents store := congrArg Store.contents (h.store_eq store)

/-- A write to one store, which can tear it or mend it. -/
theorem Alike.write_to (h : disk.Alike hole other) {store : String} {batch batch' : Batch}
    (hothers : ∀ name, name ≠ store → hole = some name → hole' = some name)
    (hbatch : ∀ key, (hole' = some store → key ≠ Journal.key) →
      ((disk.contents store).apply batch).get? key =
        ((other.contents store).apply batch').get? key)
    (hfails : (other.store store).plan ≠ none → hole = some store → hole' = some store) :
    (disk.write store batch).1 = (other.write store batch').1 ∧
      (disk.write store batch).2.Alike hole' (other.write store batch').2 := by
  have hstore : ({ disk with attempts := disk.attempts ++ [(store, batch)] } : Disk).store store =
    disk.store store := rfl
  have hstore' :
    ({ other with attempts := other.attempts ++ [(store, batch')] } : Disk).store store =
      other.store store := rfl
  unfold Disk.write
  simp only [hstore, hstore']
  rcases (h store).write hbatch with
    ⟨new, new', hnew, hnew', halike⟩ | ⟨failure, hfail, hfail', hplan⟩
  · rw [hnew, hnew']
    refine ⟨rfl, fun name => ?_⟩
    rw [store_setStore, store_setStore]
    split
    · rename_i heq
      exact heq ▸ halike
    · rename_i hne
      exact (h name).imp (hothers name (Ne.symm hne))
  · rw [hfail, hfail']
    refine ⟨rfl, fun name => (h name).imp fun hhole => ?_⟩
    by_cases heq : name = store
    · subst heq
      exact hfails hplan hhole
    · exact hothers name heq hhole

/-- The same write leaves stores alike. -/
theorem Alike.write (h : disk.Alike hole other) (store : String) (batch : Batch) :
    (disk.write store batch).1 = (other.write store batch).1 ∧
      (disk.write store batch).2.Alike hole (other.write store batch).2 := by
  refine h.write_to (fun _ _ => id) (fun key hkey => ?_) fun _ => id
  rw [Contents.get?_apply, Contents.get?_apply]
  split
  · rfl
  · exact (h store).contents key hkey

/-- Another record tears the journal. -/
theorem Alike.tear (h : disk.Alike none other) (journal : String) (record record' : JournalRecord) :
    (disk.write journal (Journal.recordBatch record)).1 =
        (other.write journal (Journal.recordBatch record')).1 ∧
      (disk.write journal (Journal.recordBatch record)).2.Alike (some journal)
        (other.write journal (Journal.recordBatch record')).2 := by
  refine h.write_to (fun _ _ => nofun) (fun key hkey => ?_) fun _ => nofun
  have hne : ¬Journal.key = key := fun heq => hkey rfl heq.symm
  rw [Journal.recordBatch, Journal.recordBatch, Contents.get?_apply_singleton,
    Contents.get?_apply_singleton, if_neg hne, if_neg hne]
  exact (h journal).contents key nofun

/-- Removing the record mends it, if this does not fail. -/
theorem Alike.mend {journal : String} (h : disk.Alike (some journal) other)
    (hhealthy : other.Healthy) :
    (disk.write journal Journal.clearBatch).1 = (other.write journal Journal.clearBatch).1 ∧
      (disk.write journal Journal.clearBatch).2.Alike none
        (other.write journal Journal.clearBatch).2 := by
  refine h.write_to (fun name hne heq => absurd (Option.some.inj heq).symm hne) (fun key _ => ?_)
    fun hplan => absurd (hhealthy journal) hplan
  rw [Journal.clearBatch, Contents.get?_apply_singleton, Contents.get?_apply_singleton]
  split
  · rfl
  · rename_i hne
    exact (h journal).contents key fun _ heq => hne heq.symm

end Disk

/-! ### Worlds side by side -/

/-- `c` is as `d`, with these guests after its tables. -/
def Coordinator.Hosts (guests : List (String × String)) (d c : Coordinator) : Prop :=
  ∃ chains published, c = d.hosting chains published ∧
    chains.map (fun chain => (chain.name, chain.root)) = guests ∧
    (∀ chain ∈ chains, chain.Blank) ∧
    published.map Event.undigested = d.published.map Event.undigested

namespace World

/-- The world is like the other, but for its guests, and for the journal's
record in the store of the hole. Where there are guests, no store fails,
and there is room for their names in a record. -/
structure BesideBut (hole : Option String) (guests : List (String × String)) (w v : World) :
    Prop where
  coordinator : v.db.coordinator.Hosts guests w.db.coordinator
  disk : w.disk.Alike hole v.disk
  poisoned : w.db.poisoned = v.db.poisoned
  healthy : guests ≠ [] → v.disk.Healthy
  fits : ∀ guest ∈ guests, Wire.fits (Utf8.encode guest.1).length = true ∧
    Wire.fits (v.db.coordinator.tables.length + guests.length) = true

/-- The world is like the other, but for its guests. -/
abbrev Beside (guests : List (String × String)) (w v : World) : Prop :=
  BesideBut none guests w v

variable {hole : Option String} {guests : List (String × String)} {w v : World}

/-- Both coordinators are changed in the same way. -/
theorem BesideBut.update (h : BesideBut hole guests w v) {f : Coordinator → Coordinator}
    (hf : v.db.coordinator.Carries f) :
    BesideBut hole guests (w.withCoordinator (f w.db.coordinator))
      (v.withCoordinator (f v.db.coordinator)) where
  coordinator := by
    obtain ⟨chains, published, hc, hguests, hblank, hpublished⟩ := h.coordinator
    obtain ⟨g, hg, hhosting⟩ := hf.hosting chains published
    refine ⟨chains.map g, published, (congrArg f hc).trans hhosting, ?_, ?_, ?_⟩
    · rw [List.map_map, ← hguests]
      exact List.map_congr_left fun chain _ =>
        Prod.ext (hg.name_root chain).1 (hg.name_root chain).2
    · intro chain hmem
      obtain ⟨old, hold, rfl⟩ := List.mem_map.mp hmem
      exact hg.blank (hblank old hold)
    · rw [hpublished]
      exact congrArg _ hf.published.symm
  disk := h.disk
  poisoned := h.poisoned
  healthy := h.healthy
  fits guest hmem := by
    show _ ∧ Wire.fits ((f v.db.coordinator).tables.length + _) = true
    rw [hf.tables]
    exact h.fits guest hmem

/-- Both publish an event, with digests that can differ. -/
theorem BesideBut.announce (h : BesideBut hole guests w v) {event event' : Event}
    (hsame : event.undigested = event'.undigested) :
    BesideBut hole guests (w.withCoordinator (w.db.coordinator.announce event))
      (v.withCoordinator (v.db.coordinator.announce event')) := by
  obtain ⟨chains, published, hc, hguests, hblank, hpublished⟩ := h.coordinator
  have hcoordinator : (v.db.coordinator.announce event').Hosts guests
      (w.db.coordinator.announce event) := by
    rw [hc]
    unfold Coordinator.announce
    -- Either both of them publish, or neither does.
    by_cases hpublishing : v.db.coordinator.publishing = true
    · have hpublishing' : (v.db.coordinator.hosting chains published).publishing = true :=
        hpublishing
      rw [if_pos hpublishing', if_pos hpublishing]
      refine ⟨chains, published ++ [event], rfl, hguests, hblank, ?_⟩
      rw [List.map_append, List.map_append, hpublished, List.map_singleton, List.map_singleton,
        hsame]
    · have hpublishing' : ¬(v.db.coordinator.hosting chains published).publishing = true :=
        hpublishing
      rw [if_neg hpublishing', if_neg hpublishing]
      exact ⟨chains, published, rfl, hguests, hblank, hpublished⟩
  have htables : (v.db.coordinator.announce event').tables = v.db.coordinator.tables :=
    (Coordinator.sameStacks_announce _ _).tables
  refine ⟨hcoordinator, h.disk, h.poisoned, h.healthy, fun guest hmem => ?_⟩
  show _ ∧ Wire.fits ((v.db.coordinator.announce event').tables.length + _) = true
  rw [htables]
  exact h.fits guest hmem

/-- Worlds beside each other stay so under all that treats all tables
alike. -/
theorem parallel_besideBut (hole : Option String) (guests : List (String × String)) :
    Parallel (BesideBut hole guests) where
  coordinator h := by
    obtain ⟨chains, published, hc, -⟩ := h.coordinator
    exact ⟨_, _, _, hc⟩
  poisoned h := h.poisoned
  update h hf := h.update hf.carries
  announce h hsame := h.announce hsame
  poison h := ⟨h.coordinator, h.disk, rfl, h.healthy, h.fits⟩
  undisturbed {w v w' v'} h hw hv := by
    refine ⟨?_, ?_, ?_, ?_, ?_⟩
    · rw [hw.coordinator, hv.coordinator]
      exact h.coordinator
    · rw [hw.disk, hv.disk]
      exact h.disk
    · rw [hw.poisoned, hv.poisoned]
      exact h.poisoned
    · rw [hv.disk]
      exact h.healthy
    · rw [hv.coordinator]
      exact h.fits

theorem BesideBut.say (h : BesideBut hole guests w v) (notice notice' : Notice) :
    BesideBut hole guests (w.say notice) (v.say notice') :=
  (parallel_besideBut hole guests).undisturbed h (undisturbed_say w notice)
    (undisturbed_say v notice')

/-- Both write the same. -/
theorem BesideBut.write (h : BesideBut hole guests w v) (store : String) (batch : Batch) :
    (w.disk.write store batch).1 = (v.disk.write store batch).1 ∧
      BesideBut hole guests (w.withDisk (w.disk.write store batch).2)
        (v.withDisk (v.disk.write store batch).2) := by
  obtain ⟨hanswer, halike⟩ := h.disk.write store batch
  exact ⟨hanswer, h.coordinator, halike, h.poisoned,
    fun hguests => ((h.healthy hguests).write store batch).2, h.fits⟩

end World

end LayeredStore

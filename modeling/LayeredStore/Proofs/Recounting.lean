import LayeredStore.Proofs.Chronicle
import LayeredStore.Proofs.Leftovers
import LayeredStore.Proofs.Readers
import LayeredStore.Proofs.Recovery
import Mathlib.Data.List.ModifyLast

/-!
# `LayeredStore.Proofs.Recounting`: the state recounts the chronicle

The roots hold the pages of the layers that were flushed, with all that
was written straight to them, and the layers hold the pages after these.
Only where a flush was stopped halfway, some of the roots hold the pages
of the layers that it was to move as well, and then the database has
stopped and the journal holds the record of these layers.

* `World.Told`: what the state says of the chronicle.
* `World.Recounts`: the state says so of the pages of all layers that are
  left. `Recounts.flush`, `Recounts.step`, `Recounts.opens`,
  `Recounts.registers` and `Recounts.wrote` keep this, and so does
  `Recounts.act`.
* `play_recounts`: so it is after every run.
-/

set_option autoImplicit false

namespace LayeredStore

theorem Coordinator.map_root (c : Coordinator) :
    c.tables.map (·.root) = c.registered.map (·.2) := by
  rw [registered, List.map_map]
  rfl

/-- A table was there before all of them were changed. -/
theorem Coordinator.exists_of_map {c c' : Coordinator} {f : Chain → Chain}
    (htables : c'.tables = c.tables.map f) {table : Nat} {chain : Chain}
    (hchain : c'.tables[table]? = some chain) :
    ∃ old, c.tables[table]? = some old ∧ f old = chain := by
  rw [htables, List.getElem?_map] at hchain
  exact Option.map_eq_some_iff.mp hchain

/-- The tables keep their roots. -/
theorem World.Keeps.map_root {w w' : World} (h : w.Keeps w') :
    w'.db.coordinator.tables.map (·.root) = w.db.coordinator.tables.map (·.root) := by
  rw [Coordinator.map_root, h.registered, ← Coordinator.map_root]

/-- A table is there after another was registered if it was there before,
or is the new one. -/
theorem World.Registers.chain_cases {name root : String} {w w' : World}
    (h : Registers name root w w') {table : Nat} {chain : Chain}
    (hchain : w'.db.coordinator.tables[table]? = some chain) :
    w.db.coordinator.tables[table]? = some chain ∨ table = w.db.coordinator.tables.length ∧
      Chain.padded name root w.db.coordinator.levels w.db.coordinator.pending
        w.db.coordinator.openSeq? = chain := by
  rw [h.sameStacks.tables] at hchain
  by_cases hlt : table < w.db.coordinator.tables.length
  · rw [List.getElem?_append_left hlt] at hchain
    exact .inl hchain
  · have hle := (List.getElem?_eq_some_iff.mp hchain).1
    rw [List.length_append, List.length_singleton] at hle
    obtain rfl : table = w.db.coordinator.tables.length := by omega
    rw [List.getElem?_concat_length] at hchain
    exact .inr ⟨rfl, Option.some.inj hchain⟩

theorem World.Registers.map_root {name root : String} {w w' : World}
    (h : Registers name root w w') :
    w'.db.coordinator.tables.map (·.root) = w.db.coordinator.tables.map (·.root) ++ [root] := by
  rw [h.sameStacks.tables, List.map_append]
  rfl

/-- The root of the new table is none of the stores in use. -/
theorem World.Registers.root_fresh {name root : String} {w w' : World}
    (h : Registers name root w w') (hstores : w'.db.coordinator.DistinctStores) :
    root ≠ w.db.coordinator.journal ∧ root ∉ w.db.coordinator.tables.map (·.root) := by
  unfold Coordinator.DistinctStores at hstores
  rw [h.map_root, h.sameStacks.journal] at hstores
  obtain ⟨hne, hnodup⟩ := List.nodup_cons.mp hstores
  refine ⟨fun heq => hne ?_, fun hmem => ?_⟩
  · rw [← heq]
    exact List.mem_append_right _ List.mem_cons_self
  · exact (List.nodup_append.mp hnodup).2.2 root hmem root List.mem_cons_self rfl

namespace Chain

variable {chain chain' : Chain} {older : List Diff} {newest : Diff}

/-- The newest diff is that of the newest layer. -/
theorem exists_head_of_diffs (h : diffs chain.layers = older ++ [newest]) :
    ∃ layers head, chain.layers = layers ++ [head] ∧ diffs layers = older ∧
      head.diff = newest := by
  obtain ⟨layers, rest, hlayers, holder, hrest⟩ := List.map_eq_append_iff.mp h
  obtain ⟨head, rfl, hhead⟩ := List.map_eq_singleton_iff.mp hrest
  exact ⟨layers, head, hlayers, holder, hhead⟩

theorem diffs_put (h : diffs chain.layers = older ++ [newest]) (hdepth : 0 < chain.depth)
    (key : Bytes) (entry : Entry) :
    diffs (chain.modifyHead (·.put key entry)).layers = older ++ [newest.insert key entry] := by
  obtain ⟨layers, head, hlayers, rfl, rfl⟩ := exists_head_of_diffs h
  rw [modifyHead_of_concat hlayers hdepth, diffs, List.map_append, List.map_singleton,
    Layer.diff_put]

theorem diffs_discardHead (h : diffs chain.layers = older ++ [newest]) (hdepth : 0 < chain.depth) :
    diffs chain.discardHead.layers = older := by
  obtain ⟨layers, head, hlayers, rfl, -⟩ := exists_head_of_diffs h
  rw [discardHead_of_concat hlayers hdepth]

theorem diffs_padded (name root : String) (levels : List Nat) (pending : Nat)
    (openSeq? : Option Nat) :
    diffs (padded name root levels pending openSeq?).layers = levels.map fun _ => .empty := by
  rw [diffs, padded, List.map_map]
  refine List.map_congr_left fun seq _ => ?_
  rw [Function.comp_apply]
  split <;> rfl

/-- The net diff of the oldest layers depends on their diffs alone. -/
theorem diff_netOldest_congr {count : Nat}
    (h : diffs (chain'.layers.take count) = diffs (chain.layers.take count)) :
    (chain'.netOldest count).diff = (chain.netOldest count).diff := by
  apply OrderedMap.ext_get?
  intro key
  rw [get?_diff_netOldest, get?_diff_netOldest, h]

end Chain

/-- So does the record of a flush. -/
theorem Coordinator.netRecord_mapTables {c c' : Coordinator} {f : Chain → Chain} {count : Nat}
    (htables : c'.tables = c.tables.map f) (hname : ∀ chain, (f chain).name = chain.name)
    (hdiffs : ∀ chain ∈ c.tables,
      Chain.diffs ((f chain).layers.take count) = Chain.diffs (chain.layers.take count)) :
    c'.netRecord count = c.netRecord count := by
  unfold netRecord
  rw [htables, List.map_map]
  refine congrArg JournalRecord.mk (List.map_congr_left fun chain hmem => ?_)
  rw [Function.comp_apply, hname, Chain.diff_netOldest_congr (hdiffs chain hmem)]

namespace World

/-! ### What the state says of the chronicle -/

/-- The roots hold the `flushed` pages, and the layers hold the `live`
ones. Of the roots, some may hold the `torn` oldest of the live ones as
well, all of which a flush was to move that was stopped halfway; `disk` is
what the stores held at first. -/
structure Told (disk : Disk) (flushed live : List Page) (torn : Nat) (w : World) : Prop where
  levels : live.map (·.seq) = w.db.coordinator.levels.map some
  layers : ∀ table chain, w.db.coordinator.tables[table]? = some chain →
    Chain.diffs chain.layers = live.map (·.diff table)
  roots : ∀ table chain, w.db.coordinator.tables[table]? = some chain →
    w.disk.contents chain.root = (disk.contents chain.root).retold table flushed ∨
      0 < torn ∧ w.disk.contents chain.root =
        (disk.contents chain.root).retold table (flushed ++ live.take torn)
  /-- The stores that are neither the journal nor a root. -/
  others : ∀ store, store ≠ w.db.coordinator.journal →
    store ∉ w.db.coordinator.tables.map (·.root) → w.disk.contents store = disk.contents store
  clean : w.Running → torn = 0 ∧ w.NoRecord
  record : 0 < torn → torn ≤ w.db.coordinator.levels.length ∧
    Journal.load (w.disk.contents w.db.coordinator.journal) =
      .ok (some (w.db.coordinator.netRecord torn))
  /-- The layer of the open unit of work is not torn. -/
  openClean : w.db.coordinator.openSeq?.isSome → torn < w.db.coordinator.levels.length

/-- The numbers of the pages grow, and those of the layers discarded are
not among them. -/
structure Numbered (pages : List Page) (w : World) : Prop where
  increasing : (pages.filterMap (·.seq)).Pairwise (· < ·)
  lt_nextSeq : ∀ seq ∈ pages.filterMap (·.seq), seq < w.db.coordinator.nextSeq
  kept : ∀ seq ∈ pages.filterMap (·.seq), seq ∉ w.discarded
  discarded_lt : ∀ seq ∈ w.discarded, seq < w.db.coordinator.nextSeq
  tables : ∀ page ∈ pages, ∀ entry ∈ page.entries, entry.1 < w.db.coordinator.tables.length

/-- The pages are told by the roots and, after some of them, by the
layers. -/
structure Recounts (disk : Disk) (pages : List Page) (w : World) : Prop where
  numbered : w.Numbered pages
  told : ∃ flushed live torn, pages = flushed ++ live ∧ w.Told disk flushed live torn

section
variable {disk : Disk} {pages flushed live : List Page} {torn : Nat} {w w' w₁ : World} {n : Nat}
  {r : Except Fault Unit}

theorem Numbered.surviving_eq (h : w.Numbered pages) : w.surviving pages = pages := by
  refine List.filter_eq_self.mpr fun page hmem => ?_
  cases hseq : page.seq with
  | none => rfl
  | some seq => exact decide_eq_true (h.kept seq (List.mem_filterMap.mpr ⟨page, hmem, hseq⟩))

/-- The numbers stay right where nothing is discarded or pushed. -/
theorem Numbered.congr (h : w.Numbered pages)
    (hnextSeq : w'.db.coordinator.nextSeq = w.db.coordinator.nextSeq)
    (hdiscarded : w'.discarded = w.discarded)
    (htables : w.db.coordinator.tables.length ≤ w'.db.coordinator.tables.length) :
    w'.Numbered pages where
  increasing := h.increasing
  lt_nextSeq := by
    rw [hnextSeq]
    exact h.lt_nextSeq
  kept := by
    rw [hdiscarded]
    exact h.kept
  discarded_lt := by
    rw [hdiscarded, hnextSeq]
    exact h.discarded_lt
  tables page hmem entry hentry := Nat.lt_of_lt_of_le (h.tables page hmem entry hentry) htables

theorem Told.length_live (h : w.Told disk flushed live torn) :
    live.length = w.db.coordinator.levels.length := by
  have hlength := congrArg List.length h.levels
  rwa [List.length_map, List.length_map] at hlength

/-- If no layers are torn, every root holds the flushed pages. -/
theorem Told.root_of_whole (h : w.Told disk flushed live 0) {table : Nat} {chain : Chain}
    (hchain : w.db.coordinator.tables[table]? = some chain) :
    w.disk.contents chain.root = (disk.contents chain.root).retold table flushed :=
  (h.roots table chain hchain).resolve_right fun htorn => Nat.lt_irrefl 0 htorn.1

theorem Told.isSome_seq (h : w.Told disk flushed live torn) : ∀ page ∈ live, page.seq.isSome := by
  intro page hmem
  obtain ⟨seq, -, hseq⟩ := List.mem_map.mp (h.levels ▸ List.mem_map_of_mem (f := Page.seq) hmem)
  rw [← hseq]
  rfl

/-! ### Steps that move no layer -/

/-- Steps that change neither the diffs of the layers nor the stores. -/
theorem Told.mapTables (h : w.Told disk flushed live torn) (hkeeps : w.Keeps w') {f : Chain → Chain}
    (htables : w'.db.coordinator.tables = w.db.coordinator.tables.map f)
    (hf : ∀ chain, (f chain).name = chain.name ∧ (f chain).root = chain.root)
    (hdiffs : ∀ chain, Chain.diffs (f chain).layers = Chain.diffs chain.layers)
    (hdisk : ∀ store, w'.disk.contents store = w.disk.contents store)
    (hlevels : w'.db.coordinator.levels = w.db.coordinator.levels)
    (hopen : w'.db.coordinator.openSeq?.isSome → w.db.coordinator.openSeq?.isSome) :
    w'.Told disk flushed live torn where
  levels := by
    rw [hlevels]
    exact h.levels
  layers table chain hchain := by
    obtain ⟨old, hold, rfl⟩ := Coordinator.exists_of_map htables hchain
    rw [hdiffs]
    exact h.layers table old hold
  roots table chain hchain := by
    obtain ⟨old, hold, rfl⟩ := Coordinator.exists_of_map htables hchain
    rw [hdisk, (hf old).2]
    exact h.roots table old hold
  others store hjournal hroot := by
    rw [hdisk]
    exact h.others store (hkeeps.journal ▸ hjournal) (hkeeps.map_root ▸ hroot)
  clean hrun := by
    obtain ⟨htorn, hrecord⟩ := h.clean (hkeeps.running hrun)
    exact ⟨htorn, hrecord.congr hkeeps.journal (hdisk _)⟩
  record htorn := by
    obtain ⟨hle, hload⟩ := h.record htorn
    -- The record of an interrupted flush is made of the diffs, so it is the
    -- same one.
    have hsame : w'.db.coordinator.netRecord torn = w.db.coordinator.netRecord torn := by
      refine Coordinator.netRecord_mapTables htables (fun chain => (hf chain).1) fun chain _ => ?_
      rw [Chain.diffs, Chain.diffs, List.map_take, List.map_take]
      exact congrArg _ (hdiffs chain)
    rw [hlevels, hdisk, hkeeps.journal, hsame]
    exact ⟨hle, hload⟩
  openClean hsome := by
    rw [hlevels]
    exact h.openClean (hopen hsome)

/-- Steps that change neither the layers nor the stores. -/
theorem Told.congr (h : w.Told disk flushed live torn) (hkeeps : w.Keeps w')
    (htables : w'.db.coordinator.tables = w.db.coordinator.tables)
    (hdisk : ∀ store, w'.disk.contents store = w.disk.contents store)
    (hlevels : w'.db.coordinator.levels = w.db.coordinator.levels)
    (hopen : w'.db.coordinator.openSeq?.isSome → w.db.coordinator.openSeq?.isSome) :
    w'.Told disk flushed live torn :=
  h.mapTables hkeeps (f := id) (htables.trans (List.map_id _).symm) (fun _ => ⟨rfl, rfl⟩)
    (fun _ => rfl) hdisk hlevels hopen

/-! ### Flushes -/

/-- The writes of a flush go to the journal and to the roots. -/
theorem contents_of_flushEnd (hend : FlushEnd w n r w₁) {store : String}
    (hjournal : store ≠ w.db.coordinator.journal)
    (hroot : store ∉ w.db.coordinator.tables.map (·.root)) :
    w₁.disk.contents store = w.disk.contents store := by
  -- However far the flush came, what it carried out are writes of its own.
  have hwrites : ∀ {done failed : List (String × Batch)} {d : Disk}, w.disk.After done failed d →
      done ⊆ w.db.coordinator.flushWrites n ++ [w.db.coordinator.clearWrite] →
      d.contents store = w.disk.contents store := by
    intro done failed d h hdone
    rw [h.contents]
    refine Contents.afterWrites_of_forall_ne fun write hwrite heq => ?_
    rcases List.mem_append.mp (hdone hwrite) with hflush | hclear
    · rcases List.mem_cons.mp hflush with rfl | hnet
      · exact hjournal heq.symm
      · obtain ⟨chain, hmem, hsame, -⟩ := (Coordinator.mem_netWrites_iff _ _ _).mp hnet
        exact hroot (heq ▸ hsame ▸ List.mem_map_of_mem hmem)
    · rw [List.mem_singleton.mp hclear] at heq
      exact hjournal heq.symm
  cases hend with
  | nothing | unfit => rfl
  | halted _ _ hsplit h | crashed _ _ hsplit h =>
    refine hwrites h fun write hmem => List.mem_append_left _ ?_
    rw [hsplit]
    exact List.mem_append_left _ hmem
  | unclearedHalted _ _ h | unclearedCrashed _ _ h => exact hwrites h (List.subset_append_left _ _)
  | finished _ _ h _ => exact hwrites h (List.Subset.refl _)

/-- A flush changes no store, or it succeeds, or it leaves its record. -/
theorem record_of_flushEnd (hend : FlushEnd w n r w₁) (hstores : w.db.coordinator.DistinctStores) :
    (∀ store, w₁.disk.contents store = w.disk.contents store) ∨
      0 < n ∧ (r = .ok () ∨ ∃ fault, r = .error fault ∧
        Journal.load (w₁.disk.contents w.db.coordinator.journal) =
          .ok (some (w.db.coordinator.netRecord n))) := by
  -- The first of the writes is that of the record.
  have hleft : ∀ {done failed rest : List (String × Batch)} {d : Disk},
      (w.db.coordinator.netRecord n).fits = true → w.db.coordinator.flushWrites n = done ++ rest →
      w.disk.After done failed d → (∀ store, d.contents store = w.disk.contents store) ∨
        Journal.load (d.contents w.db.coordinator.journal) =
          .ok (some (w.db.coordinator.netRecord n)) := by
    intro done failed rest d hfits hsplit hafter
    cases done with
    | nil => exact .inl hafter.contents
    | cons first done =>
      rw [Coordinator.flushWrites, List.cons_append] at hsplit
      obtain ⟨rfl, hrest⟩ := List.cons.inj hsplit
      exact .inr (interrupted_of_after hstores hfits hafter ⟨_, hrest.symm⟩).record
  cases hend with
  | nothing | unfit => exact .inl fun _ => rfl
  | halted hn hfits hsplit h | crashed hn hfits hsplit h =>
    exact (hleft hfits hsplit h).imp_right fun hload => ⟨hn, .inr ⟨_, rfl, hload⟩⟩
  | unclearedHalted hn hfits h | unclearedCrashed hn hfits h =>
    have hall := hleft hfits (List.append_nil _).symm h
    exact hall.imp_right fun hload => ⟨hn, .inr ⟨_, rfl, hload⟩⟩
  | finished hn => exact .inr ⟨hn, .inl rfl⟩

/-- A flush that was stopped before it has taken the layers away tears
them. -/
theorem Told.tear (h : w.Told disk flushed live 0)
    (hsame : w.db.coordinator.SameStacks w'.db.coordinator) (hstopped : ¬w'.Running)
    (hn : 0 < n) (hle : n ≤ w.db.coordinator.levels.length)
    (hopen : w.db.coordinator.openSeq?.isSome → n < w.db.coordinator.levels.length)
    (hload : Journal.load (w'.disk.contents w.db.coordinator.journal) =
      .ok (some (w.db.coordinator.netRecord n)))
    (hroots : ∀ chain ∈ w.db.coordinator.tables,
      w'.disk.contents chain.root = w.disk.contents chain.root ∨ w'.disk.contents chain.root =
        (w.disk.contents chain.root).overlay (Chain.diffs (chain.layers.take n)))
    (hothers : ∀ store, store ≠ w.db.coordinator.journal →
      store ∉ w.db.coordinator.tables.map (·.root) →
        w'.disk.contents store = w.disk.contents store) : w'.Told disk flushed live n where
  levels := by
    rw [hsame.levels]
    exact h.levels
  layers := by
    rw [hsame.tables]
    exact h.layers
  roots table chain hchain := by
    rw [hsame.tables] at hchain
    have hroot := h.root_of_whole hchain
    rw [← hroot]
    -- A root holds what it held, or the `n` oldest pages as well.
    refine (hroots chain (List.mem_of_getElem? hchain)).imp id fun heq => ⟨hn, heq.trans ?_⟩
    rw [Contents.retold_append, ← hroot, Contents.retold_eq_overlay, Chain.diffs, List.map_take,
      List.map_take]
    exact congrArg _ (congrArg _ (h.layers table chain hchain))
  others store hjournal hroot := by
    rw [hsame.journal] at hjournal
    rw [hsame.tables] at hroot
    exact (hothers store hjournal hroot).trans (h.others store hjournal hroot)
  clean hrun := absurd hrun hstopped
  record _ := by
    have hrecord : w'.db.coordinator.netRecord n = w.db.coordinator.netRecord n := by
      unfold Coordinator.netRecord
      rw [hsame.tables]
    rw [hsame.levels, hsame.journal, hrecord]
    exact ⟨hle, hload⟩
  openClean := by
    rw [hsame.openSeq?, hsame.levels]
    exact hopen

/-- A flush that has taken the layers away has put their pages into the
roots. -/
theorem Told.dropOldest (h : w.Told disk flushed live 0) (hkeeps : w.Keeps w')
    (hsame : (w.db.coordinator.dropOldest n).SameStacks w'.db.coordinator)
    (hopen : w.db.coordinator.openSeq?.isSome → n < w.db.coordinator.levels.length)
    (hclean : w'.Running → w'.NoRecord)
    (hroots : ∀ chain ∈ w.db.coordinator.tables, w'.disk.contents chain.root =
      (w.disk.contents chain.root).overlay (Chain.diffs (chain.layers.take n)))
    (hothers : ∀ store, store ≠ w.db.coordinator.journal →
      store ∉ w.db.coordinator.tables.map (·.root) →
        w'.disk.contents store = w.disk.contents store) :
    w'.Told disk (flushed ++ live.take n) (live.drop n) 0 := by
  have hlevels : w'.db.coordinator.levels = w.db.coordinator.levels.drop n := hsame.levels
  have htables : w'.db.coordinator.tables = w.db.coordinator.tables.map (·.dropOldest n) :=
    hsame.tables
  refine ⟨?_, fun table chain hchain => ?_, fun table chain hchain => .inl ?_,
    fun store hjournal hroot => ?_, fun hrun => ⟨rfl, hclean hrun⟩,
    fun hpos => absurd hpos (Nat.lt_irrefl 0), fun hsome => ?_⟩
  · rw [hlevels, List.map_drop, List.map_drop, h.levels]
  · obtain ⟨old, hold, rfl⟩ := Coordinator.exists_of_map htables hchain
    show Chain.diffs (old.layers.drop n) = _
    rw [Chain.diffs, List.map_drop, List.map_drop]
    exact congrArg _ (h.layers table old hold)
  · obtain ⟨old, hold, rfl⟩ := Coordinator.exists_of_map htables hchain
    refine (hroots old (List.mem_of_getElem? hold)).trans ?_
    -- The root has taken in the layers' diffs, which are those of the pages.
    rw [h.root_of_whole hold, Contents.retold_append, Contents.retold_eq_overlay _ _ (live.take n),
      Chain.diffs, List.map_take, List.map_take]
    exact congrArg _ (congrArg _ (h.layers table old hold))
  · rw [hkeeps.journal] at hjournal
    rw [hkeeps.map_root] at hroot
    exact (hothers store hjournal hroot).trans (h.others store hjournal hroot)
  · rw [hsame.openSeq?] at hsome
    have := hopen hsome
    rw [hlevels, List.length_drop]
    omega

/-- However a flush ends, the pages are told after it: it has moved
nothing, or torn the layers, or put them into the roots. -/
theorem Told.flush (h : w.Told disk flushed live torn) (hend : FlushEnd w n r w₁)
    (hunlocks : Unlocks r w₁ w') (hrun : w.Running) (hstores : w.db.coordinator.DistinctStores)
    (hle : n ≤ w.db.coordinator.levels.length)
    (hopen : w.db.coordinator.openSeq?.isSome → n < w.db.coordinator.levels.length) :
    w'.Told disk flushed live 0 ∨ w'.Told disk flushed live n ∨
      w'.Told disk (flushed ++ live.take n) (live.drop n) 0 := by
  obtain ⟨rfl, hrecord⟩ := h.clean hrun
  have hkeeps : w.Keeps w' := hunlocks.keeps (keeps_of_flushEnd hend hrun)
  obtain ⟨hcoordinator, hdisk⟩ := hunlocks.same
  have hothers : ∀ store, store ≠ w.db.coordinator.journal →
      store ∉ w.db.coordinator.tables.map (·.root) →
        w'.disk.contents store = w.disk.contents store := by
    rw [hdisk]
    exact fun _ => contents_of_flushEnd hend
  -- The layers stay, so nothing was moved or they are torn; or they are gone,
  -- and then they are in the roots.
  rcases hend.effect hstores with ⟨hsame, hzero, hroots⟩ | ⟨hsame, hroots⟩
  · rw [← hcoordinator] at hsame
    rw [← hdisk] at hroots
    rcases record_of_flushEnd hend hstores with hkept | ⟨hn, hok | ⟨fault, rfl, hload⟩⟩
    · rw [← hdisk] at hkept
      exact .inl (h.congr hkeeps hsame.tables hkept hsame.levels fun hsome =>
        hsame.openSeq? ▸ hsome)
    · exact absurd (hzero hok) (Nat.ne_of_gt hn)
    · rw [← hdisk] at hload
      have hstopped := not_running_of_flushEnd hend hunlocks
      exact .inr (.inl (h.tear hsame hstopped hn hle hopen hload hroots hothers))
  · rw [← hcoordinator] at hsame
    rw [← hdisk] at hroots
    refine .inr (.inr (h.dropOldest hkeeps hsame hopen (fun hrun' => ?_) hroots hothers))
    rcases eq_or_record?_of_flushEnd hend hunlocks with rfl | hnone
    · exact hrecord
    · exact (hnone hrun').2

theorem Recounts.flush (h : w.Recounts disk pages) (hend : FlushEnd w n r w₁)
    (hunlocks : Unlocks r w₁ w') (hrun : w.Running) (hstores : w.db.coordinator.DistinctStores)
    (hle : n ≤ w.db.coordinator.levels.length)
    (hopen : w.db.coordinator.openSeq?.isSome → n < w.db.coordinator.levels.length) :
    w'.Recounts disk pages := by
  obtain ⟨hnumbered, flushed, live, torn, rfl, htold⟩ := h
  have hkeeps : w.Keeps w' := hunlocks.keeps (keeps_of_flushEnd hend hrun)
  have hdiscarded : w'.discarded = w.discarded := by
    refine Eq.trans ?_ (discarded_of_flushEnd hend)
    rcases hunlocks with ⟨-, rfl⟩ | ⟨-, rfl⟩ <;> rfl
  refine ⟨hnumbered.congr hkeeps.nextSeq hdiscarded (Nat.le_of_eq hkeeps.length_tables.symm), ?_⟩
  rcases htold.flush hend hunlocks hrun hstores hle hopen with htold | htold | htold
  · exact ⟨flushed, live, 0, rfl, htold⟩
  · exact ⟨flushed, live, n, rfl, htold⟩
  · exact ⟨flushed ++ live.take n, live.drop n, 0, by rw [List.append_assoc, List.take_append_drop],
      htold⟩

/-! ### Steps -/

/-- Steps after which the pages are told in the same way. -/
theorem Recounts.of_told (h : w.Recounts disk pages) (hkeeps : w.Keeps w')
    (hdiscarded : w'.discarded = w.discarded)
    (htold : ∀ flushed live torn, w.Told disk flushed live torn → w'.Told disk flushed live torn) :
    w'.Recounts disk pages where
  numbered := h.numbered.congr hkeeps.nextSeq hdiscarded (Nat.le_of_eq hkeeps.length_tables.symm)
  told := by
    obtain ⟨flushed, live, torn, hpages, h⟩ := h.told
    exact ⟨flushed, live, torn, hpages, htold _ _ _ h⟩

/-- A quiet step leaves the pages as they are. -/
theorem Recounts.quiet (h : w.Recounts disk pages) (hstep : Quiet w w')
    (hstores : w.db.coordinator.DistinctStores) : w'.Recounts disk pages := by
  have hkeeps := hstep.keeps
  have hdiscarded := hstep.discarded
  cases hstep with
  | say | bus =>
    exact h.of_told hkeeps hdiscarded fun _ _ _ htold =>
      htold.congr hkeeps rfl (fun _ => rfl) rfl id
  | settings hsame _ =>
    exact h.of_told hkeeps hdiscarded fun _ _ _ htold =>
      htold.congr hkeeps hsame.tables (fun _ => rfl) hsame.levels fun hsome =>
        hsame.openSeq? ▸ hsome
  | solidify =>
    exact h.of_told hkeeps hdiscarded fun _ _ _ htold =>
      htold.mapTables hkeeps (f := (·.solidify _)) rfl (fun _ => ⟨rfl, rfl⟩) (fun _ => rfl)
        (fun _ => rfl) rfl id
  | commit =>
    exact h.of_told hkeeps hdiscarded fun _ _ _ htold =>
      htold.mapTables hkeeps (f := (·.modifyHead (·.commit))) rfl
        (Coordinator.name_root_modifyHead _) Chain.diffs_modifyHead_commit (fun _ => rfl) rfl nofun
  | flush hrun hn hopen hend hr => exact h.flush hend (.inl ⟨hr, rfl⟩) hrun hstores hn hopen
  | crash hrun hn hopen hend => exact h.flush hend (.inr ⟨rfl, rfl⟩) hrun hstores hn hopen

/-- Without the page of the layer that is discarded, the numbers are
right. -/
theorem Numbered.discard {older : List Page} {page : Page} {seq : Nat}
    (h : w.Numbered (older ++ [page])) (hkeeps : w.Keeps w') (hseq : page.seq = some seq)
    (hdiscarded : w'.discarded = w.discarded ++ [seq]) :
    w'.Numbered older ∧ w'.surviving (older ++ [page]) = older := by
  have hlast : [page].filterMap (·.seq) = [seq] := by simp [hseq]
  obtain ⟨hincreasing, hlt, hkept, hdiscarded_lt, htables⟩ := h
  rw [List.filterMap_append, hlast] at hincreasing hlt hkept
  obtain ⟨hincreasing, -, hless⟩ := List.pairwise_append.mp hincreasing
  have hnumbered : w'.Numbered older := by
    refine ⟨hincreasing, fun s hs => ?_, fun s hs => ?_, fun s hs => ?_, fun other hmem => ?_⟩
    · rw [hkeeps.nextSeq]
      exact hlt s (List.mem_append_left _ hs)
    · rw [hdiscarded, List.mem_append, List.mem_singleton, not_or]
      exact ⟨hkept s (List.mem_append_left _ hs),
        Nat.ne_of_lt (hless s hs seq List.mem_cons_self)⟩
    · rw [hkeeps.nextSeq]
      rw [hdiscarded] at hs
      rcases List.mem_append.mp hs with hold | hnew
      · exact hdiscarded_lt s hold
      · exact hlt s (List.mem_append_right _ hnew)
    · rw [hkeeps.length_tables]
      exact htables other (List.mem_append_left _ hmem)
  refine ⟨hnumbered, ?_⟩
  -- The page that is left out is the one of the discarded layer.
  have hgone : w'.surviving [page] = [] := by simp [surviving, hseq, hdiscarded]
  rw [surviving, List.filter_append]
  exact (congrArg₂ _ hnumbered.surviving_eq hgone).trans (List.append_nil _)

/-- The page of the newest layer goes when the layer is discarded. -/
theorem Told.discardHead {older : List Page} {page : Page}
    (h : w.Told disk flushed (older ++ [page]) torn) (hsound : w.db.coordinator.Sound)
    (hkeeps : w.Keeps w') (hlive : w.db.coordinator.pending < w.db.coordinator.levels.length)
    (htorn : torn < w.db.coordinator.levels.length)
    (hc : w.db.coordinator.withoutUnit.discardHead.SameStacks w'.db.coordinator)
    (hdisk : w'.disk = w.disk) : w'.Told disk flushed older torn := by
  have hlevels : w'.db.coordinator.levels = w.db.coordinator.levels.dropLast := hc.levels
  have htables : w'.db.coordinator.tables = w.db.coordinator.tables.map (·.discardHead) := hc.tables
  have hlength := h.length_live
  rw [List.length_append, List.length_singleton] at hlength
  refine ⟨?_, fun table chain hchain => ?_, fun table chain hchain => ?_,
    fun store hjournal hroot => ?_, fun hrun => ?_, fun hpos => ?_, fun hsome => ?_⟩
  · have hseqs := congrArg List.dropLast h.levels
    rwa [List.map_append, List.map_singleton, List.dropLast_concat, ← List.map_dropLast,
      ← hlevels] at hseqs
  · obtain ⟨old, hold, rfl⟩ := Coordinator.exists_of_map htables hchain
    have hdepth := (hsound.chains old (List.mem_of_getElem? hold)).depth_pos hlive
    have hdiffs := h.layers table old hold
    rw [List.map_append, List.map_singleton] at hdiffs
    exact Chain.diffs_discardHead hdiffs hdepth
  · obtain ⟨old, hold, rfl⟩ := Coordinator.exists_of_map htables hchain
    have hroot := h.roots table old hold
    rw [List.take_append_of_le_length (by omega)] at hroot
    rw [hdisk, (Coordinator.name_root_discardHead old).2]
    exact hroot
  · rw [hdisk]
    exact h.others store (hkeeps.journal ▸ hjournal) (hkeeps.map_root ▸ hroot)
  · obtain ⟨hzero, hrecord⟩ := h.clean (hkeeps.running hrun)
    exact ⟨hzero, hrecord.congr hkeeps.journal (by rw [hdisk])⟩
  · -- The torn layers lie below the newest, so the record is still that of
    -- them.
    obtain ⟨-, hload⟩ := h.record hpos
    have hrecord : w'.db.coordinator.netRecord torn = w.db.coordinator.netRecord torn := by
      refine Coordinator.netRecord_mapTables htables
        (fun chain => (Coordinator.name_root_discardHead chain).1) fun chain hmem => ?_
      rw [chain.take_layers_discardHead]
      rw [(hsound.chains chain hmem).length_layers]
      exact htorn
    rw [hlevels, List.length_dropLast, hdisk, hkeeps.journal, hrecord]
    exact ⟨by omega, hload⟩
  · rw [hc.openSeq?] at hsome
    exact nomatch hsome

/-- A step leaves the pages of the layers that it does not discard. -/
theorem Recounts.step (h : w.Recounts disk pages) (hstep : Act w w')
    (hsound : w.db.coordinator.Sound) (hstores : w.db.coordinator.DistinctStores) :
    w'.Recounts disk (w'.surviving pages) := by
  have hkeeps := hstep.keeps
  have hsame : ∀ w'' : World, w''.discarded = w.discarded → w''.surviving pages = pages :=
    fun w'' hdiscarded => by rw [surviving_of_discarded_eq hdiscarded, h.numbered.surviving_eq]
  cases hstep with
  | quiet hquiet =>
    rw [hsame _ hquiet.discarded]
    exact h.quiet hquiet hstores
  | poison =>
    rw [hsame w.poison rfl]
    exact h.of_told hkeeps rfl fun _ _ _ htold => htold.congr hkeeps rfl (fun _ => rfl) rfl id
  | recover hrun hrecord =>
    obtain ⟨-, flushed, live, torn, -, htold⟩ := h
    exact absurd (htold.clean hrun).2 hrecord
  | @discard seq c operation depth hpoisoned hallowed hlive hseq hc hhalted =>
    obtain ⟨hnumbered, flushed, live, torn, rfl, htold⟩ := h
    have hlast := congrArg List.getLast? htold.levels
    rw [List.getLast?_map, List.getLast?_map, hseq] at hlast
    obtain ⟨page, hpage, hpageSeq⟩ := Option.map_eq_some_iff.mp hlast
    obtain ⟨older, rfl⟩ := List.getLast?_eq_some_iff.mp hpage
    -- What is torn lies below the layer that is discarded.
    have htorn : torn < w.db.coordinator.levels.length := by
      rcases hallowed with hrunning | hopen
      · rw [(htold.clean ⟨hpoisoned, hrunning⟩).1]
        exact Nat.zero_lt_of_lt hlive
      · exact htold.openClean hopen
    have hgone : ((w.withCoordinator c).say (.layerDiscarded operation seq depth)).discarded =
        w.discarded ++ [seq] := by
      simp [discarded, say, withCoordinator, List.filterMap_append, Notice.discarded?]
    rw [← List.append_assoc] at hnumbered ⊢
    obtain ⟨hnumbered', hsurviving⟩ := hnumbered.discard hkeeps hpageSeq hgone
    rw [hsurviving]
    exact ⟨hnumbered', flushed, older, torn, rfl,
      htold.discardHead hsound hkeeps hlive htorn hc rfl⟩

theorem Recounts.acts (h : w.Recounts disk pages) (hpath : Acts w w')
    (hsound : w.db.coordinator.Sound) (hstores : w.db.coordinator.DistinctStores) :
    w'.Recounts disk (w'.surviving pages) := by
  induction hpath with
  | refl =>
    rw [h.numbered.surviving_eq]
    exact h
  | tail hpath hstep ih =>
    have hstores₁ := (Acts.keeps hpath).distinctStores hstores
    have hlast := ih.step hstep (Acts.sound hpath hsound) hstores₁
    rwa [surviving_surviving hstep.discarded_grows.subset] at hlast

theorem Recounts.quiets (h : w.Recounts disk pages) (hpath : Quiets w w')
    (hstores : w.db.coordinator.DistinctStores) : w'.Recounts disk pages := by
  induction hpath with
  | refl => exact h
  | tail hpath hstep ih => exact ih.quiet hstep ((Quiets.keeps hpath).distinctStores hstores)

/-! ### New layers and new tables -/

/-- A page may be added whose number is new, if it has one. -/
theorem Numbered.concat {page : Page} (h : w.Numbered pages)
    (hseq : ∀ seq, page.seq = some seq → seq = w.db.coordinator.nextSeq)
    (hnextSeq : w.db.coordinator.nextSeq ≤ w'.db.coordinator.nextSeq)
    (hnew : page.seq.isSome → w.db.coordinator.nextSeq < w'.db.coordinator.nextSeq)
    (hdiscarded : w'.discarded = w.discarded)
    (htables : w'.db.coordinator.tables.length = w.db.coordinator.tables.length)
    (hentries : ∀ entry ∈ page.entries, entry.1 < w.db.coordinator.tables.length) :
    w'.Numbered (pages ++ [page]) := by
  -- The new page has no number, or the next one.
  have hlast : ∀ seq ∈ [page].filterMap (·.seq), seq = w.db.coordinator.nextSeq ∧
      w.db.coordinator.nextSeq < w'.db.coordinator.nextSeq := by
    intro seq hmem
    obtain ⟨other, hother, hsome⟩ := List.mem_filterMap.mp hmem
    rw [List.mem_singleton.mp hother] at hsome
    exact ⟨hseq seq hsome, hnew (hsome ▸ rfl)⟩
  refine ⟨?_, fun seq hmem => ?_, fun seq hmem => ?_, fun seq hmem => ?_, fun other hmem => ?_⟩
  · rw [List.filterMap_append]
    refine List.pairwise_append.mpr ⟨h.increasing, ?_, fun seq hmem new hnew => ?_⟩
    · rw [List.filterMap_cons, List.filterMap_nil]
      split
      · exact .nil
      · exact List.pairwise_singleton _ _
    · rw [(hlast new hnew).1]
      exact h.lt_nextSeq seq hmem
  · rw [List.filterMap_append] at hmem
    rcases List.mem_append.mp hmem with hold | hnew
    · exact Nat.lt_of_lt_of_le (h.lt_nextSeq seq hold) hnextSeq
    · rw [(hlast seq hnew).1]
      exact (hlast seq hnew).2
  · rw [hdiscarded]
    rw [List.filterMap_append] at hmem
    rcases List.mem_append.mp hmem with hold | hnew
    · exact h.kept seq hold
    · rw [(hlast seq hnew).1]
      exact fun hgone => Nat.lt_irrefl _ (h.discarded_lt _ hgone)
  · rw [hdiscarded] at hmem
    exact Nat.lt_of_lt_of_le (h.discarded_lt seq hmem) hnextSeq
  · rw [htables]
    rcases List.mem_append.mp hmem with hold | hnew
    · exact h.tables other hold
    · rw [List.mem_singleton.mp hnew]
      exact hentries

/-- A new layer is empty, and so is its page. -/
theorem Told.pushes (h : w.Told disk flushed live 0) (hpush : Pushes w w') :
    w'.Told disk flushed (live ++ [⟨some w.db.coordinator.nextSeq, []⟩]) 0 := by
  have hlevels : w'.db.coordinator.levels = w.db.coordinator.levels ++ [w.db.coordinator.nextSeq] :=
    hpush.sameStacks.levels
  have htables : w'.db.coordinator.tables =
      w.db.coordinator.tables.map (·.push w.db.coordinator.nextSeq) := hpush.sameStacks.tables
  have hjournal : w'.db.coordinator.journal = w.db.coordinator.journal := hpush.sameStacks.journal
  refine ⟨?_, fun table chain hchain => ?_, fun table chain hchain => .inl ?_,
    fun store hstore hroot => ?_, fun _ => ⟨rfl, ?_⟩, fun hpos => absurd hpos (Nat.lt_irrefl 0),
    fun _ => ?_⟩
  · -- The layers and the pages are extended alike, by one that is empty.
    rw [hlevels, List.map_append, List.map_append, h.levels]
    rfl
  · obtain ⟨old, hold, rfl⟩ := Coordinator.exists_of_map htables hchain
    rw [Chain.push, Chain.diffs, List.map_append, List.map_append]
    exact congrArg (· ++ [OrderedMap.empty]) (h.layers table old hold)
  · obtain ⟨old, hold, rfl⟩ := Coordinator.exists_of_map htables hchain
    have hroot := h.root_of_whole hold
    rw [hpush.disk]
    exact hroot
  · rw [hpush.disk]
    refine h.others store (hjournal ▸ hstore) fun hmem => hroot ?_
    rw [htables, List.map_map]
    exact hmem
  · exact (h.clean hpush.running).2.congr hjournal (by rw [hpush.disk])
  · rw [hlevels, List.length_append]
    exact Nat.succ_pos _

/-- The layer that is pushed starts a page. -/
theorem Recounts.pushes (h : w.Recounts disk pages) (hpush : Pushes w w') :
    w'.Recounts disk (pages ++ [⟨some w.db.coordinator.nextSeq, []⟩]) := by
  obtain ⟨hnumbered, flushed, live, torn, rfl, htold⟩ := h
  obtain ⟨rfl, -⟩ := htold.clean hpush.running
  have hnextSeq : w.db.coordinator.nextSeq < w'.db.coordinator.nextSeq := by
    rw [hpush.sameStacks.nextSeq]
    exact Nat.lt_succ_self _
  have htables : w'.db.coordinator.tables.length = w.db.coordinator.tables.length := by
    rw [hpush.sameStacks.tables]
    exact List.length_map _
  exact ⟨hnumbered.concat (fun _ hsome => (Option.some.inj hsome).symm) (Nat.le_of_lt hnextSeq)
    (fun _ => hnextSeq) hpush.discarded htables nofun, flushed, _, 0, List.append_assoc _ _ _,
    htold.pushes hpush⟩

/-- A call that opens a session pushes a layer, or leaves the pages as
they are. -/
theorem Recounts.opens (h : w.Recounts disk pages) (hopens : OpensExactly w w')
    (hstores : w.db.coordinator.DistinctStores) :
    (w'.db.coordinator.nextSeq = w.db.coordinator.nextSeq ∧ w'.Recounts disk pages) ∨
      w'.db.coordinator.nextSeq = w.db.coordinator.nextSeq + 1 ∧
        w'.Recounts disk (pages ++ [⟨some w.db.coordinator.nextSeq, []⟩]) := by
  obtain ⟨w₁, hpath, hend⟩ := hopens
  have hfirst := h.quiets hpath.quiets hstores
  have hnextSeq : w₁.db.coordinator.nextSeq = w.db.coordinator.nextSeq := hpath.keeps.nextSeq
  rcases hend with rfl | hpush
  · exact .inl ⟨hnextSeq, hfirst⟩
  · rw [← hnextSeq]
    exact .inr ⟨hpush.sameStacks.nextSeq, hfirst.pushes hpush⟩

/-- A new table that is named by no page has nothing in its layers, and
its root holds what it held at first. -/
theorem Told.registers {name root : String} (h : w.Told disk flushed live 0)
    (hregister : Registers name root w w') (hstores : w'.db.coordinator.DistinctStores)
    (hunnamed : ∀ page ∈ flushed ++ live, ∀ entry ∈ page.entries,
      entry.1 ≠ w.db.coordinator.tables.length) : w'.Told disk flushed live 0 := by
  have hlevels : w'.db.coordinator.levels = w.db.coordinator.levels := hregister.sameStacks.levels
  have hjournal : w'.db.coordinator.journal = w.db.coordinator.journal :=
    hregister.sameStacks.journal
  refine ⟨hlevels ▸ h.levels, fun table chain hchain => ?_, fun table chain hchain => .inl ?_,
    fun store hstore hroot => ?_, fun _ => ⟨rfl, ?_⟩, fun hpos => absurd hpos (Nat.lt_irrefl 0), ?_⟩
  · rcases hregister.chain_cases hchain with hold | ⟨rfl, rfl⟩
    · exact h.layers table chain hold
    · have hempty : live.map (·.diff w.db.coordinator.tables.length) =
          live.map fun _ => OrderedMap.empty :=
        List.map_congr_left fun page hmem =>
          Page.diff_eq_empty (hunnamed page (List.mem_append_right _ hmem))
      rw [hempty, Chain.diffs_padded, List.map_const', List.map_const', h.length_live]
  · rw [hregister.disk]
    -- The new table's layers are empty, as is what the pages have for it.
    rcases hregister.chain_cases hchain with hold | ⟨rfl, rfl⟩
    · exact h.root_of_whole hold
    · obtain ⟨hjournal, hroots⟩ := hregister.root_fresh hstores
      rw [Contents.retold_eq_self _ fun page hmem => hunnamed page (List.mem_append_left _ hmem)]
      exact h.others root hjournal hroots
  · rw [hregister.disk]
    refine h.others store (hjournal ▸ hstore) fun hmem => hroot ?_
    rw [hregister.map_root]
    exact List.mem_append_left _ hmem
  · exact (h.clean hregister.running).2.congr hjournal (by rw [hregister.disk])
  · rw [hregister.sameStacks.openSeq?, hlevels]
    exact h.openClean

/-- Registering a table leaves the pages as they are. -/
theorem Recounts.registers {name root : String} (h : w.Recounts disk pages)
    (hregister : Registers name root w w') (hstores : w'.db.coordinator.DistinctStores) :
    w'.Recounts disk pages := by
  obtain ⟨hnumbered, flushed, live, torn, rfl, htold⟩ := h
  obtain ⟨rfl, -⟩ := htold.clean hregister.running
  have hgrown : w.db.coordinator.tables.length ≤ w'.db.coordinator.tables.length := by
    rw [hregister.sameStacks.tables, List.length_append]
    exact Nat.le_add_right _ _
  have hunnamed : ∀ page ∈ flushed ++ live, ∀ entry ∈ page.entries,
      entry.1 ≠ w.db.coordinator.tables.length := fun page hmem entry hentry =>
    Nat.ne_of_lt (hnumbered.tables page hmem entry hentry)
  exact ⟨hnumbered.congr hregister.sameStacks.nextSeq hregister.discarded hgrown, flushed, live, 0,
    rfl, htold.registers hregister hstores hunnamed⟩

/-! ### Writing -/

/-- Noting a write on the last page leaves the numbers as they are. -/
theorem Numbered.add {older : List Page} {page : Page} {entry : Nat × Bytes × Entry}
    (h : w.Numbered (older ++ [page])) (htable : entry.1 < w.db.coordinator.tables.length) :
    w.Numbered (older ++ [page.add entry]) := by
  have hseqs : (older ++ [page.add entry]).filterMap (·.seq) =
      (older ++ [page]).filterMap (·.seq) := by
    simp only [List.filterMap_append]
    rfl
  refine ⟨hseqs ▸ h.increasing, hseqs ▸ h.lt_nextSeq, hseqs ▸ h.kept, h.discarded_lt,
    fun other hmem said hsaid => ?_⟩
  rcases List.mem_append.mp hmem with hold | hnew
  · exact h.tables other (List.mem_append_left _ hold) said hsaid
  · obtain rfl := List.mem_singleton.mp hnew
    rcases List.mem_append.mp hsaid with hold | hnew
    · exact h.tables page (List.mem_append_right _ List.mem_cons_self) said hold
    · rw [List.mem_singleton.mp hnew]
      exact htable

/-- The newest layer holds what is noted on the last page. -/
theorem Told.put {older : List Page} {page : Page}
    (h : w.Told disk flushed (older ++ [page]) 0) (hrun : w.Running)
    (hsound : w.db.coordinator.Sound)
    (hlive : w.db.coordinator.pending < w.db.coordinator.levels.length) (table : Nat) (key : Bytes)
    (entry : Entry) :
    (w.withCoordinator (w.db.coordinator.modifyTable table
      (·.modifyHead (·.put key entry)))).Told disk flushed
        (older ++ [page.add (table, key, entry)]) 0 := by
  -- Of the chains, only that of the table has changed, in its newest layer.
  have hchains : ∀ (other : Nat) (chain : Chain), (w.db.coordinator.tables.modify table
      (·.modifyHead (·.put key entry)))[other]? = some chain →
      ∃ old : Chain, w.db.coordinator.tables[other]? = some old ∧ chain.root = old.root ∧
        Chain.diffs chain.layers =
          (older ++ [page.add (table, key, entry)]).map (·.diff other) := by
    intro other chain hchain
    rw [List.getElem?_modify] at hchain
    obtain ⟨old, hold, rfl⟩ := Option.map_eq_some_iff.mp hchain
    have hdepth := (hsound.chains old (List.mem_of_getElem? hold)).depth_pos hlive
    have hdiffs := h.layers other old hold
    rw [List.map_append, List.map_singleton] at hdiffs
    refine ⟨old, hold, ?_⟩
    rw [List.map_append, List.map_singleton, Page.diff_add]
    split
    · exact ⟨(Coordinator.name_root_modifyHead _ old).2, Chain.diffs_put hdiffs hdepth key entry⟩
    · exact ⟨rfl, hdiffs⟩
  have hkeeps := (Puts.put (w := w) table key entry).keeps
  refine ⟨?_, fun other chain hchain => ?_, fun other chain hchain => .inl ?_,
    fun store hjournal hroot => h.others store hjournal (hkeeps.map_root ▸ hroot),
    fun _ => h.clean hrun, fun hpos => absurd hpos (Nat.lt_irrefl 0), h.openClean⟩
  · have hlevels := h.levels
    rw [List.map_append] at hlevels ⊢
    exact hlevels
  · exact (hchains other chain hchain).choose_spec.2.2
  · obtain ⟨old, hold, hroot, -⟩ := hchains other chain hchain
    show w.disk.contents chain.root = _
    rw [hroot]
    exact h.root_of_whole hold

/-- A write to the newest layer is noted on its page. -/
theorem Recounts.put (h : w.Recounts disk pages) (hrun : w.Running)
    (hsound : w.db.coordinator.Sound)
    (hlive : w.db.coordinator.pending < w.db.coordinator.levels.length) {table : Nat}
    (htable : table < w.db.coordinator.tables.length) (key : Bytes) (entry : Entry) :
    (w.withCoordinator (w.db.coordinator.modifyTable table
      (·.modifyHead (·.put key entry)))).Recounts disk
        (pages.modifyLast (·.add (table, key, entry))) := by
  obtain ⟨hnumbered, flushed, live, torn, rfl, htold⟩ := h
  obtain ⟨rfl, -⟩ := htold.clean hrun
  have hne : live ≠ [] := by
    intro hnil
    have hlength := htold.length_live
    rw [hnil, List.length_nil] at hlength
    omega
  obtain ⟨older, page, rfl⟩ := (List.eq_nil_or_concat' live).resolve_left hne
  rw [← List.append_assoc] at hnumbered ⊢
  rw [List.modifyLast_concat]
  have hkeeps := (Puts.put (w := w) table key entry).keeps
  exact ⟨(hnumbered.add htable).congr rfl rfl (Nat.le_of_eq hkeeps.length_tables.symm),
    flushed, _, 0, List.append_assoc _ _ _, htold.put hrun hsound hlive table key entry⟩

/-- The root holds what is noted on a page of its own. -/
theorem Told.direct (h : w.Told disk flushed [] 0) (hrun : w.Running)
    (hstores : w.db.coordinator.DistinctStores) {table : Nat} {chain : Chain}
    (hchain : w.db.coordinator.tables[table]? = some chain) {key : Bytes} {entry : Entry}
    (hwrite : (w.disk.write chain.root [(key, entry)]).1 = .ok ()) :
    (w.withDisk (w.disk.write chain.root [(key, entry)]).2).Told disk
      (flushed ++ [⟨none, [(table, key, entry)]⟩]) [] 0 := by
  have hmem := List.mem_of_getElem? hchain
  have hafter := Disk.after_write_ok hwrite
  refine ⟨h.levels, h.layers, fun other chain' hchain' => .inl ?_,
    fun store hjournal hroot => ?_, fun _ => ⟨rfl, ?_⟩, fun hpos => absurd hpos (Nat.lt_irrefl 0),
    h.openClean⟩
  · have hchain' : w.db.coordinator.tables[other]? = some chain' := hchain'
    show (w.disk.write chain.root [(key, entry)]).2.contents chain'.root = _
    rw [hafter.contents, h.root_of_whole hchain', Contents.retold_append]
    -- The page is the last of the flushed ones, and names this table alone.
    by_cases heq : other = table
    · subst heq
      obtain rfl : chain = chain' := Option.some.inj (hchain.symm.trans hchain')
      rw [Contents.afterWrites_singleton]
      simp [Contents.retold, Page.batch]
    · rw [Contents.afterWrites_singleton_of_ne fun hsame =>
        heq (hstores.table_unique hchain' hchain hsame.symm)]
      refine (Contents.retold_eq_self _ fun page hpage said hsaid => ?_).symm
      rw [List.mem_singleton.mp hpage] at hsaid
      rw [List.mem_singleton.mp hsaid]
      exact fun h => heq h.symm
  · refine Eq.trans ?_ (h.others store hjournal hroot)
    show (w.disk.write chain.root [(key, entry)]).2.contents store = _
    rw [hafter.contents]
    exact Contents.afterWrites_singleton_of_ne fun heq => hroot (heq ▸ List.mem_map_of_mem hmem)
  · exact (Disk.get?_write _ _ _ _ fun heq => absurd heq (hstores.journal_ne hmem)).trans
      (h.clean hrun).2

/-- A write straight to a root is noted on a page of its own. -/
theorem Recounts.direct (h : w.Recounts disk pages) (hrun : w.Running)
    (hstores : w.db.coordinator.DistinctStores) (hlevels : w.db.coordinator.levels = [])
    {table : Nat} {chain : Chain} (hchain : w.db.coordinator.tables[table]? = some chain)
    {key : Bytes} {entry : Entry}
    (hwrite : (w.disk.write chain.root [(key, entry)]).1 = .ok ()) :
    (w.withDisk (w.disk.write chain.root [(key, entry)]).2).Recounts disk
      (pages ++ [⟨none, [(table, key, entry)]⟩]) := by
  obtain ⟨hnumbered, flushed, live, torn, rfl, htold⟩ := h
  obtain ⟨rfl, -⟩ := htold.clean hrun
  obtain rfl : live = [] := by
    refine List.eq_nil_of_length_eq_zero ?_
    rw [htold.length_live, hlevels]
    rfl
  rw [List.append_nil] at hnumbered ⊢
  refine ⟨hnumbered.concat nofun (Nat.le_refl _) nofun rfl rfl fun said hsaid => ?_, _, [], 0,
    (List.append_nil _).symm, htold.direct hrun hstores hchain hwrite⟩
  rw [List.mem_singleton.mp hsaid]
  exact (List.getElem?_eq_some_iff.mp hchain).1

/-- Leaving the lock leaves the pages as they are. -/
theorem Recounts.unlocks (h : w₁.Recounts disk pages) (hunlocks : Unlocks r w₁ w') :
    w'.Recounts disk pages := by
  rcases hunlocks with ⟨-, rfl⟩ | ⟨-, rfl⟩
  · exact h
  · have hkeeps : w₁.Keeps w₁.poison := (Act.poison (w := w₁)).keeps
    exact h.of_told hkeeps rfl fun _ _ _ htold => htold.congr hkeeps rfl (fun _ => rfl) rfl id

/-- A write is noted if it succeeds, on the page of the newest layer or on
one of its own. -/
theorem Recounts.wrote (h : w.Recounts disk pages) {table : Table} {key : Bytes} {entry : Entry}
    (hwrote : Operation.Wrote w table key entry r w₁) (hunlocks : Unlocks r w₁ w')
    (horderly : w.Orderly) (hstores : w.db.coordinator.DistinctStores) :
    if r = .ok () ∧ table.index < w.db.coordinator.tables.length then
      w'.Recounts disk (if 0 < w.db.coordinator.depth then
        pages.modifyLast (·.add (table.index, key, entry))
      else pages ++ [⟨none, [(table.index, key, entry)]⟩])
    else w'.Recounts disk pages := by
  have hsound := horderly.sound
  cases hwrote with
  | nothing hr hunknown =>
    have hnone : ¬(r = .ok () ∧ table.index < w.db.coordinator.tables.length) := fun ⟨hok, hlt⟩ =>
      Nat.not_lt.mpr (List.getElem?_eq_none_iff.mp (hunknown hok)) hlt
    rw [if_neg hnone]
    exact h.unlocks hunlocks
  | put hrun hchain hlive =>
    have htable := (List.getElem?_eq_some_iff.mp hchain).1
    have hdepth : 0 < w.db.coordinator.depth := Nat.sub_pos_of_lt hlive
    rw [if_pos ⟨rfl, htable⟩, if_pos hdepth]
    exact (h.put hrun hsound hlive htable key entry).unlocks hunlocks
  | stopped hrun hdry hflush =>
    rw [if_neg fun hok => nomatch hok.1]
    exact h.flush hflush hunlocks hrun hstores (Nat.le_refl _) (horderly.open_lt_of_dry hdry)
  | @direct w₂ chain _ hrun hchain hdry hflush hr =>
    have htable := (List.getElem?_eq_some_iff.mp hchain).1
    have hkeeps := keeps_of_flushEnd hflush hrun
    have hrun₂ : w₂.Running := by
      refine ⟨?_, hflush.halted_of_ok.trans hrun.2⟩
      rw [hflush.database]
      exact hrun.1
    have hfirst : w₂.Recounts disk pages := h.flush hflush (.inl ⟨nofun, rfl⟩) hrun hstores
      (Nat.le_refl _) (horderly.open_lt_of_dry hdry)
    obtain ⟨chain₂, hchain₂, -, hroot⟩ := hkeeps.exists_chain hchain
    have hdepth : ¬0 < w.db.coordinator.depth := by
      rw [Coordinator.depth, hdry, Nat.sub_self]
      exact Nat.lt_irrefl 0
    rw [← hroot] at hr hunlocks
    by_cases hok : r = .ok ()
    · rw [if_pos ⟨hok, htable⟩, if_neg hdepth]
      exact (hfirst.direct hrun₂ (hkeeps.distinctStores hstores) hflush.levels_of_all hchain₂
        (hr.mp hok)).unlocks hunlocks
    · rw [if_neg fun h => hok h.1]
      -- A write that fails changes no store.
      have hfails : ∀ store, (w₂.disk.write chain₂.root [(key, entry)]).2.contents store =
          w₂.disk.contents store := by
        intro store
        cases hwrite : (w₂.disk.write chain₂.root [(key, entry)]).1 with
        | ok u => exact absurd (hr.mpr hwrite) hok
        | error failure => exact (Disk.after_write_error hwrite).contents store
      have hkeeps₂ : w₂.Keeps (w₂.withDisk (w₂.disk.write chain₂.root [(key, entry)]).2) :=
        ⟨rfl, rfl, rfl, fun _ hmem => hmem, id, id⟩
      exact (hfirst.of_told hkeeps₂ rfl fun _ _ _ htold =>
        htold.congr hkeeps₂ rfl hfails rfl id).unlocks hunlocks

/-! ### Moves -/

/-- What is told survives. -/
theorem Recounts.surviving (h : w.Recounts disk pages) : w.Recounts disk (w.surviving pages) := by
  rw [h.numbered.surviving_eq]
  exact h

/-- A move continues the chronicle. -/
theorem Recounts.act (h : w.Recounts disk pages) (horderly : w.Orderly) (move : Move)
    (hstores : (move.act w).db.coordinator.DistinctStores) :
    (move.act w).Recounts disk (w.continued pages move) := by
  have hsound := horderly.sound
  have hstores₀ : w.db.coordinator.DistinctStores := distinctStores_of_act hsound hstores
  have hclean : w.Running → w.NoRecord := by
    obtain ⟨-, _, _, _, -, htold⟩ := h
    exact fun hrun => (htold.clean hrun).2
  suffices hall : ∀ w', Course w move w' → w' = move.act w →
      w'.Recounts disk (w.continued pages move) from hall _ (act_course hsound hclean move) rfl
  intro w' hcourse hact
  -- The pages go on by what the move has written or pushed, less those of
  -- layers that it discarded.
  cases hcourse with
  | acts hmove hpath =>
    have hwritten : move.written? w = none := by
      unfold Move.written?
      split
      · exact absurd rfl (hmove _ _ _)
      · rfl
    rw [continued_eq_surviving hwritten (hact ▸ hpath.keeps.nextSeq), ← hact]
    exact h.acts hpath.acts hsound hstores₀
  | opens hopens =>
    rcases h.opens hopens hstores₀ with ⟨hnextSeq, hend⟩ | ⟨hnextSeq, hend⟩
    · rw [continued_eq_surviving rfl (hact ▸ hnextSeq), ← hact]
      exact hend.surviving
    · rw [continued_of_push rfl (hact ▸ hnextSeq), ← hact]
      exact hend.surviving
  | registers hregister =>
    rw [← hact] at hstores
    rw [continued_eq_surviving rfl (hact ▸ hregister.sameStacks.nextSeq), ← hact]
    exact (h.registers hregister hstores).surviving
  | @writes table key entry _ hpath =>
    obtain ⟨r, w₁, hwrote, hanswer, hunlocks⟩ := Command.write_wrote horderly table key entry
    have hunlocks' : Unlocks r w₁ w' := hact ▸ hunlocks
    have hnoted := h.wrote hwrote hunlocks' horderly hstores₀
    by_cases hok : r = .ok () ∧ table.index < w.db.coordinator.tables.length
    · have hwritten : (Move.call (.write table key entry)).written? w =
          some (table.index, key, entry) := if_pos ⟨hanswer.mp hok.1, hok.2⟩
      rw [if_pos hok] at hnoted
      rw [continued_of_written hwritten, ← hact]
      exact hnoted.surviving
    · have hwritten : (Move.call (.write table key entry)).written? w = none :=
        if_neg fun h => hok ⟨hanswer.mpr h.1, h.2⟩
      rw [if_neg hok] at hnoted
      rw [continued_eq_surviving hwritten (hact ▸ hpath.writes.keeps.nextSeq), ← hact]
      exact hnoted.surviving
  | @setPlan store plan =>
    have hkeeps : w.Keeps (w.withDisk (w.disk.setPlan store plan)) :=
      ⟨rfl, rfl, rfl, fun _ h => h, id, id⟩
    have hset : (w.withDisk (w.disk.setPlan store plan)).Recounts disk pages :=
      h.of_told hkeeps rfl fun _ _ _ htold =>
        htold.congr hkeeps rfl (fun other => Disk.contents_setPlan _ _ _ other) rfl id
    rw [continued_eq_surviving rfl rfl, ← hact]
    exact hset.surviving

/-- After a run, the state tells the chronicle of the run. -/
theorem play_recounts (h : w.Recounts disk pages) (horderly : w.Orderly) {moves : List Move}
    (hstores : (w.play moves).db.coordinator.DistinctStores) :
    (w.play moves).Recounts disk (w.chronicle pages moves) := by
  induction moves generalizing w pages with
  | nil => exact h
  | cons move moves ih =>
    have horderly₁ := horderly.act move
    have hstores₁ := distinctStores_of_play horderly₁.sound hstores
    exact ih (h.act horderly move hstores₁) horderly₁ hstores

end

/-- A database just opened has written nothing. -/
theorem recounts_opened (disk : Disk) (configuration : Configuration) (journal : String)
    (handlers : List Handler) (hrecord : (disk.contents journal).get? Journal.key = none) :
    (opened disk configuration journal handlers).Recounts disk [] where
  numbered := ⟨.nil, nofun, nofun, nofun, nofun⟩
  told := ⟨[], [], 0, rfl, rfl, nofun, nofun, fun _ _ _ => rfl, fun _ => ⟨rfl, hrecord⟩,
    fun hpos => absurd hpos (Nat.lt_irrefl 0), nofun⟩

end World

end LayeredStore

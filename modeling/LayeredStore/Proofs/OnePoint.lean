import LayeredStore.Proofs.Recounting

/-!
# `LayeredStore.Proofs.OnePoint`: all tables at one point of history

A view shows the same layers of all tables, and the roots hold the layers
below these, so what all tables read is what was written up to one layer.
A flush that is stopped between two of its root writes breaks this for
views that do not show all layers that it was to move: a root that was
written shows them all the same. The database has stopped then, and the
journal holds the record from which the other roots can be written.

* `World.point` counts the layers that a view shows and those below them.
  `World.ReadsOnePoint` says that all tables read as in their first roots
  with the chronicle up to there.
* `World.Torn`: what is read after a flush that was stopped.
* `Told.readsPoint`, `Told.readsBetween`: what a table reads, by what its
  root holds.
* `reads_one_point`: after every run, all tables read one point through
  every view, or a flush was stopped.
-/

set_option autoImplicit false

namespace LayeredStore

theorem Coordinator.Sound.shown_le {c : Coordinator} (h : c.Sound) (view : View) :
    c.shown view ≤ c.levels.length := by
  cases view with
  | head hidden => exact Nat.sub_le _ _
  | solidity => exact h.pending_le

/-- Where diffs that are already in the root are laid over it, below
others that are there as well, every key reads as with the one or with
the other. -/
theorem Contents.get?_overlay_take_overlay (root : Contents) (diffs : List Diff) (k n : Nat)
    (key : Bytes) :
    ((root.overlay (diffs.take k)).overlay (diffs.take n)).get? key =
        (root.overlay (diffs.take n)).get? key ∨
      ((root.overlay (diffs.take k)).overlay (diffs.take n)).get? key =
        (root.overlay (diffs.take k)).get? key := by
  rw [get?_overlay _ (diffs.take n), get?_overlay root (diffs.take n)]
  cases (diffs.take n).reverse.findSome? (·.get? key) with
  | some entry => exact .inl rfl
  | none => exact .inr rfl

/-- What the store of a table held at first, with the chronicle up to the
`n`-th layer laid over it. -/
def Chain.mapAt (chain : Chain) (disk : Disk) (pages : List Page) (table n : Nat) : Contents :=
  (disk.contents chain.root).retold table (Page.oldest n pages)

namespace World

/-- How many layers of the chronicle are flushed or among the `shown`
oldest ones that are left. -/
def point (w : World) (pages : List Page) (shown : Nat) : Nat :=
  Page.layerCount pages - w.db.coordinator.levels.length + shown

/-- Through the view, the table reads as its first root with the
chronicle up to the `n`-th layer. -/
def ReadsPoint (disk : Disk) (pages : List Page) (w : World) (view : View) (n table : Nat) : Prop :=
  ∃ chain, w.db.coordinator.tables[table]? = some chain ∧
    w.Reads view table (chain.mapAt disk pages table n)

/-- Through the view, the table reads every key as with the chronicle up
to the `n`-th layer or as with the chronicle up to the `m`-th. -/
def ReadsBetween (disk : Disk) (pages : List Page) (w : World) (view : View) (n m table : Nat) :
    Prop :=
  ∃ chain map, w.db.coordinator.tables[table]? = some chain ∧ w.Reads view table map ∧
    ∀ key, map.get? key = (chain.mapAt disk pages table n).get? key ∨
      map.get? key = (chain.mapAt disk pages table m).get? key

/-- Through the view, all tables read the chronicle up to the same layer,
the newest that the view shows. -/
def ReadsOnePoint (disk : Disk) (pages : List Page) (w : World) (view : View) : Prop :=
  let n := w.point pages (w.db.coordinator.shown view)
  n ≤ Page.layerCount pages ∧
    ∀ table < w.db.coordinator.tables.length, w.ReadsPoint disk pages view n table

/-- A flush of the `count` oldest layers was stopped when some roots may
have been written and others not. -/
structure Torn (disk : Disk) (pages : List Page) (count : Nat) (w : World) : Prop where
  pos : 0 < count
  le : count ≤ w.db.coordinator.levels.length
  stopped : ¬w.Running
  /-- The journal tells what the flush was to write. -/
  record : Journal.load (w.disk.contents w.db.coordinator.journal) =
    .ok (some (w.db.coordinator.netRecord count))
  /-- Views that show the layers of the flush read one point. -/
  above : ∀ view, count ≤ w.db.coordinator.shown view → w.ReadsOnePoint disk pages view
  /-- So do the others, but for the tables whose roots were written: there
  a key may read as after the flush. -/
  below : ∀ view, w.db.coordinator.shown view < count →
    ∀ table chain, w.db.coordinator.tables[table]? = some chain →
      (w.disk.contents chain.root = chain.mapAt disk pages table (w.point pages 0) ∧
        w.ReadsPoint disk pages view (w.point pages (w.db.coordinator.shown view)) table) ∨
      (w.disk.contents chain.root = chain.mapAt disk pages table (w.point pages count) ∧
        w.ReadsBetween disk pages view (w.point pages (w.db.coordinator.shown view))
          (w.point pages count) table)

section
variable {disk : Disk} {flushed live : List Page} {torn table : Nat} {w : World} {chain : Chain}

/-- The layers of the chronicle are those of the flushed pages and those
that are left. -/
theorem Told.layerCount_eq (h : w.Told disk flushed live torn) :
    Page.layerCount (flushed ++ live) =
      Page.layerCount flushed + w.db.coordinator.levels.length := by
  rw [Page.layerCount, List.countP_append, List.countP_eq_length.mpr h.isSome_seq, h.length_live]
  rfl

/-- The chronicle up to a layer that is left. -/
theorem Told.mapAt_point (h : w.Told disk flushed live torn) (chain : Chain) (table shown : Nat) :
    chain.mapAt disk (flushed ++ live) table (w.point (flushed ++ live) shown) =
      ((disk.contents chain.root).retold table flushed).overlay
        ((live.map (·.diff table)).take shown) := by
  have hpoint : w.point (flushed ++ live) shown = Page.layerCount flushed + shown := by
    rw [point, h.layerCount_eq, Nat.add_sub_cancel]
  rw [Chain.mapAt, hpoint, Page.oldest_append h.isSome_seq, Contents.retold_append,
    Contents.retold_eq_overlay _ _ (live.take shown), List.map_take]

/-- Through the view, the table reads as its root with the pages of the
layers that the view shows. -/
theorem Told.reads (h : w.Told disk flushed live torn) (hsound : w.db.coordinator.Sound)
    (hchain : w.db.coordinator.tables[table]? = some chain) (view : View) :
    w.Reads view table ((w.disk.contents chain.root).overlay
      ((live.map (·.diff table)).take (w.db.coordinator.shown view))) := by
  have hlayers := h.layers table chain hchain
  rw [Chain.diffs] at hlayers
  rw [reads_iff hsound.uniform, mapThrough, mapBelow, hchain, Option.map_some, Chain.diffs,
    List.map_take, hlayers]

/-- What a root holds, as points of the chronicle. -/
theorem Told.root_cases (h : w.Told disk flushed live torn)
    (hchain : w.db.coordinator.tables[table]? = some chain) :
    w.disk.contents chain.root =
        chain.mapAt disk (flushed ++ live) table (w.point (flushed ++ live) 0) ∨
      0 < torn ∧ w.disk.contents chain.root =
        chain.mapAt disk (flushed ++ live) table (w.point (flushed ++ live) torn) := by
  rw [h.mapAt_point, h.mapAt_point, List.take_zero, Contents.overlay_nil]
  refine (h.roots table chain hchain).imp_right fun ⟨hpos, hroot⟩ => ⟨hpos, hroot.trans ?_⟩
  rw [Contents.retold_append, Contents.retold_eq_overlay _ _ (live.take torn), List.map_take]

/-- A table reads the point of the view if its root holds the flushed
layers, or others as well that the view shows. -/
theorem Told.readsPoint (h : w.Told disk flushed live torn) (hsound : w.db.coordinator.Sound)
    (hchain : w.db.coordinator.tables[table]? = some chain) {count : Nat} {view : View}
    (hroot : w.disk.contents chain.root =
      chain.mapAt disk (flushed ++ live) table (w.point (flushed ++ live) count))
    (hshown : count ≤ w.db.coordinator.shown view) :
    w.ReadsPoint disk (flushed ++ live) view
      (w.point (flushed ++ live) (w.db.coordinator.shown view)) table := by
  refine ⟨chain, hchain, ?_⟩
  have hreads := h.reads hsound hchain view
  rw [hroot, h.mapAt_point, Contents.overlay_take_overlay _ _ hshown] at hreads
  rw [h.mapAt_point]
  exact hreads

/-- In any case it reads every key at the point of the view or at that of
its root. -/
theorem Told.readsBetween (h : w.Told disk flushed live torn) (hsound : w.db.coordinator.Sound)
    (hchain : w.db.coordinator.tables[table]? = some chain) {count : Nat}
    (hroot : w.disk.contents chain.root =
      chain.mapAt disk (flushed ++ live) table (w.point (flushed ++ live) count)) (view : View) :
    w.ReadsBetween disk (flushed ++ live) view
      (w.point (flushed ++ live) (w.db.coordinator.shown view))
      (w.point (flushed ++ live) count) table := by
  refine ⟨chain, _, hchain, h.reads hsound hchain view, fun key => ?_⟩
  rw [hroot, h.mapAt_point, h.mapAt_point]
  exact Contents.get?_overlay_take_overlay _ _ _ _ key

/-- A view that shows the layers that may be torn reads one point. -/
theorem Told.readsOnePoint (h : w.Told disk flushed live torn) (hsound : w.db.coordinator.Sound)
    {view : View} (hshown : torn ≤ w.db.coordinator.shown view) :
    w.ReadsOnePoint disk (flushed ++ live) view := by
  refine ⟨?_, fun table htable => ?_⟩
  · have hle := hsound.shown_le view
    rw [point, h.layerCount_eq]
    omega
  · have hchain := List.getElem?_eq_getElem htable
    rcases h.root_cases hchain with hroot | ⟨-, hroot⟩
    · exact h.readsPoint hsound hchain hroot (Nat.zero_le _)
    · exact h.readsPoint hsound hchain hroot hshown

/-- If some layers are torn, what is read is what `Torn` says. -/
theorem Told.isTorn (h : w.Told disk flushed live torn) (hsound : w.db.coordinator.Sound)
    (hpos : 0 < torn) : w.Torn disk (flushed ++ live) torn where
  pos := hpos
  le := (h.record hpos).1
  stopped hrun := Nat.ne_of_gt hpos (h.clean hrun).1
  record := (h.record hpos).2
  above _ hshown := h.readsOnePoint hsound hshown
  below view _ table chain hchain := by
    rcases h.root_cases hchain with hroot | ⟨-, hroot⟩
    · exact .inl ⟨hroot, h.readsPoint hsound hchain hroot (Nat.zero_le _)⟩
    · exact .inr ⟨hroot, h.readsBetween hsound hchain hroot view⟩

end

/-- Lookups are answered as at the point. -/
theorem ReadsPoint.lookup? {disk : Disk} {pages : List Page} {w : World} {view : View}
    {n table : Nat} (h : w.ReadsPoint disk pages view n table) (key : Bytes) :
    ∃ chain : Chain, w.lookup? view table key = (chain.mapAt disk pages table n).get? key := by
  obtain ⟨chain, -, other, hother, hreads, -⟩ := h
  refine ⟨chain, ?_⟩
  rw [World.lookup?, Coordinator.get?, hother]
  exact hreads key

/-- After every run of a database that finds no record, whichever stores
fail, all tables read one point of the chronicle through every view, or a
flush was stopped between its root writes. -/
theorem reads_one_point (disk : Disk) (configuration : Configuration) (journal : String)
    (handlers : List Handler) (moves : List Move)
    (hrecord : (disk.contents journal).get? Journal.key = none)
    (hstores : ((opened disk configuration journal handlers).play
      moves).db.coordinator.DistinctStores) :
    let w₀ := opened disk configuration journal handlers
    let pages := w₀.chronicle [] moves
    (∀ view, (w₀.play moves).ReadsOnePoint disk pages view) ∨
      ∃ count, (w₀.play moves).Torn disk pages count := by
  intro w₀ pages
  have hsound : (w₀.play moves).db.coordinator.Sound :=
    play_sound disk configuration journal handlers moves
  have hrecounts : (w₀.play moves).Recounts disk pages :=
    play_recounts (recounts_opened disk configuration journal handlers hrecord)
      (orderly_opened disk configuration journal handlers) hstores
  obtain ⟨flushed, live, torn, hpages, htold⟩ := hrecounts.told
  rw [hpages]
  rcases Nat.eq_zero_or_pos torn with rfl | hpos
  · exact .inl fun view => htold.readsOnePoint hsound (Nat.zero_le _)
  · exact .inr ⟨torn, htold.isTorn hsound hpos⟩

/-- A unit of work over two tables is flushed, and the flush is stopped at
the second root: at the head, both tables read with the layer. -/
theorem reads_one_point_stopped_flush :
    let moves := [Move.call (.addTable "a" "left"), .call (.addTable "b" "right"),
      .call (.openSession false), .call (.write ⟨0, "a"⟩ [1] (.value [10])),
      .call (.write ⟨1, "b"⟩ [1] (.value [20])), .call (.commitSession ⟨0, false, false⟩),
      .setPlan "right" (some ⟨0, .error (.refused "full")⟩), .call .merge]
    ((opened .empty {} "journal" []).play moves).db.coordinator.DistinctStores ∧
      (((opened .empty {} "journal" []).play moves).disk.contents "left").get? [1] = some [10] ∧
      (((opened .empty {} "journal" []).play moves).disk.contents "right").get? [1] = none ∧
      ((opened .empty {} "journal" []).play moves).ReadsOnePoint .empty
        ((opened .empty {} "journal" []).chronicle [] moves) (.head 0) := by
  intro moves
  have hstores : ((opened .empty {} "journal" []).play
      moves).db.coordinator.DistinctStores :=
    (Coordinator.distinctStores_iff _).mpr (by decide +kernel)
  refine ⟨hstores, by decide +kernel, by decide +kernel, ?_⟩
  rcases reads_one_point .empty {} "journal" [] moves rfl hstores with hall | ⟨count, htorn⟩
  · exact hall (.head 0)
  · exact htorn.above (.head 0) (Coordinator.exposes_head_zero htorn.le).le_shown

/-- Through the view of the pending layers, which does not show this
layer, the table whose root was written reads with the layer and the
other without it. -/
theorem stopped_flush_not_one_point :
    let moves := [Move.call (.addTable "a" "left"), .call (.addTable "b" "right"),
      .call (.openSession false), .call (.write ⟨0, "a"⟩ [1] (.value [10])),
      .call (.write ⟨1, "b"⟩ [1] (.value [20])), .call (.commitSession ⟨0, false, false⟩),
      .call (.setCursor .solidity 0),
      .setPlan "right" (some ⟨0, .error (.refused "full")⟩), .call .merge]
    ((Disk.empty.contents "journal").get? Journal.key = none ∧
      ((opened .empty {} "journal" []).play moves).db.coordinator.DistinctStores ∧
      ((opened .empty {} "journal" []).play moves).db.coordinator.view = .solidity) ∧
      ¬∃ n, ∀ table < ((opened .empty {} "journal" []).play moves).db.coordinator.tables.length,
        ((opened .empty {} "journal" []).play moves).ReadsPoint .empty
          ((opened .empty {} "journal" []).chronicle [] moves) .solidity n table := by
  intro moves
  have hstores : ((opened .empty {} "journal" []).play
      moves).db.coordinator.DistinctStores :=
    (Coordinator.distinctStores_iff _).mpr (by decide +kernel)
  refine ⟨⟨rfl, hstores, by decide +kernel⟩, ?_⟩
  rintro ⟨n, hpoint⟩
  have hpages : (opened .empty {} "journal" []).chronicle [] moves =
      [⟨some 1, [(0, [1], .value [10]), (1, [1], .value [20])]⟩] := by decide +kernel
  have hleft : ((opened .empty {} "journal" []).play moves).lookup? .solidity 0 [1] =
      some [10] := by decide +kernel
  have hright : ((opened .empty {} "journal" []).play moves).lookup? .solidity 1 [1] = none := by
    decide +kernel
  have htables : ((opened .empty {} "journal" []).play moves).db.coordinator.tables.length = 2 := by
    decide +kernel
  rw [htables, hpages] at hpoint
  obtain ⟨chain, hfirst⟩ := (hpoint 0 (by decide)).lookup? [1]
  obtain ⟨chain', hsecond⟩ := (hpoint 1 (by decide)).lookup? [1]
  rw [hleft] at hfirst
  rw [hright] at hsecond
  -- At first both tables are without the layer, and from then on with it.
  cases n with
  | zero => cases hfirst
  | succ n => cases hsecond

end World

end LayeredStore

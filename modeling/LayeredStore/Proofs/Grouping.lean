import LayeredStore.Proofs.Limits

/-!
# `LayeredStore.Proofs.Grouping`: flushing at once or in parts

The net diff of the oldest layers stands for them: nothing that they say
is lost, and of what they say about one key the newest wins. So it does
not matter how the flushes of a database are grouped. Moving some layers
into the roots and then some more leaves what moving all of them at once
leaves, in the stores and in the coordinator, but for the number of the
flushes.

* `Layer.IsNetOf`: what it is to say what layers say together;
  `isNetOf_netOldest` for the layer that a flush records.
* `Coordinator.withoutOldest` is what a flush makes of the coordinator.
  It composes: `withoutOldest_withoutOldest`.
* `World.Moved` is what a flush leaves behind, `flushOldest_moved` says
  that it does, and `Moved.trans` that two of them compose.
* `flushOldest_regroup`: the flushes of `first` and then of `later`
  layers, and that of `first + later`.
-/

set_option autoImplicit false

namespace LayeredStore

/-! ### The net diff -/

/-- The layer says what these layers, the oldest first, say together:
applied to a root it makes of it what they make of it one after the
other, it knows the keys that one of them knows, and about each of these
it says what the newest says that knows it. A tombstone is something
said, for it may hide a value of the root. -/
structure Layer.IsNetOf (net : Layer) (layers : List Layer) : Prop where
  applied : ∀ root : Contents, root.apply net.diff.toList =
    layers.foldl (fun contents layer => contents.apply layer.diff.toList) root
  known : ∀ key, (net.get? key).isSome ↔ ∃ layer ∈ layers, (layer.get? key).isSome
  newest : ∀ key entry, net.get? key = some entry ↔ ∃ older layer newer,
    layers = older ++ layer :: newer ∧ layer.get? key = some entry ∧
      ∀ other ∈ newer, other.get? key = none

namespace Chain

/-- What the newest layer says that knows the key. -/
theorem topmost?_eq_some_iff (layers : List Layer) (key : Bytes) (entry : Entry) :
    topmost? layers key = some entry ↔ ∃ older layer newer, layers = older ++ layer :: newer ∧
      layer.get? key = some entry ∧ ∀ other ∈ newer, other.get? key = none := by
  rw [topmost?, List.findSome?_eq_some_iff]
  constructor
  · rintro ⟨before, layer, after, hsplit, hget, hnone⟩
    refine ⟨after.reverse, layer, before.reverse, ?_, hget, fun other hmem => ?_⟩
    · simpa using congrArg List.reverse hsplit
    · exact hnone other (List.mem_reverse.mp hmem)
  · rintro ⟨older, layer, newer, rfl, hget, hnone⟩
    refine ⟨newer.reverse, layer, older.reverse, by simp, hget, fun other hmem => ?_⟩
    exact hnone other (List.mem_reverse.mp hmem)

theorem isSome_topmost?_iff (layers : List Layer) (key : Bytes) :
    (topmost? layers key).isSome ↔ ∃ layer ∈ layers, (layer.get? key).isSome := by
  rw [topmost?, List.findSome?_isSome_iff]
  simp only [List.mem_reverse]

theorem get?_netOldest (chain : Chain) (count : Nat) (key : Bytes) :
    (chain.netOldest count).get? key = topmost? (chain.layers.take count) key := by
  rw [topmost?_eq]
  exact chain.get?_diff_netOldest count key

/-- The layer that a flush records says what the oldest layers say. -/
theorem isNetOf_netOldest (chain : Chain) (count : Nat) :
    (chain.netOldest count).IsNetOf (chain.layers.take count) where
  applied root := by
    rw [apply_netOldest, Contents.overlay, diffs, List.foldl_map]
  known key := by
    rw [get?_netOldest]
    exact isSome_topmost?_iff _ key
  newest key entry := by
    rw [get?_netOldest]
    exact topmost?_eq_some_iff _ key entry

/-! ### Taking layers away in parts -/

theorem dropOldest_dropOldest (chain : Chain) (first later : Nat) :
    (chain.dropOldest first).dropOldest later = chain.dropOldest (first + later) := by
  have hpending : chain.pending - min first chain.layers.length -
      min later (chain.layers.length - first) =
        chain.pending - min (first + later) chain.layers.length := by omega
  simp only [dropOldest, List.drop_drop, List.length_drop, hpending]

end Chain

namespace Coordinator

theorem dropOldest_dropOldest (c : Coordinator) (first later : Nat) :
    (c.dropOldest first).dropOldest later = c.dropOldest (first + later) := by
  have hchains : (Chain.dropOldest · later) ∘ (Chain.dropOldest · first) =
      (Chain.dropOldest · (first + later)) :=
    funext fun chain => chain.dropOldest_dropOldest first later
  simp only [dropOldest, mapTables, List.map_map, hchains, List.drop_drop, Nat.sub_sub]

/-- A cursor that was clamped before layers were taken away needs no
other clamping than one that was not, for no layer becomes live. -/
theorem clampCursor_dropOldest_clampCursor (c : Coordinator) (count : Nat) :
    (c.clampCursor.dropOldest count).clampCursor = (c.dropOldest count).clampCursor := by
  have hview : (c.dropOldest count).view = c.view := rfl
  cases h : c.view with
  | solidity =>
    have hclamp : c.clampCursor = c := by simp only [clampCursor, h]
    rw [hclamp]
  | head hidden =>
    have hclamp : c.clampCursor = { c with view := .head (min hidden c.depth) } := by
      simp only [clampCursor, h]
    -- Fewer layers are live afterwards, so the second clamping makes up for
    -- the first.
    have hmin : min (min hidden c.depth) (c.dropOldest count).depth =
        min hidden (c.dropOldest count).depth := by
      have hle := c.depth_dropOldest_le count
      omega
    rw [hclamp]
    show { c.dropOldest count with
      view := .head (min (min hidden c.depth) (c.dropOldest count).depth) } = _
    rw [hmin]
    simp only [clampCursor, hview, h]

/-- The coordinator after its `count` oldest layers were moved into the
roots. A flush of no layers does not touch the cursor. -/
def withoutOldest (c : Coordinator) (count : Nat) : Coordinator :=
  if count = 0 then c else (c.dropOldest count).clampCursor

@[simp] theorem withoutOldest_zero (c : Coordinator) : c.withoutOldest 0 = c := if_pos rfl

theorem withoutOldest_withoutOldest (c : Coordinator) (first later : Nat) :
    (c.withoutOldest first).withoutOldest later = c.withoutOldest (first + later) := by
  rcases Nat.eq_zero_or_pos first with rfl | hfirst
  · rw [withoutOldest_zero, Nat.zero_add]
  rcases Nat.eq_zero_or_pos later with rfl | hlater
  · rw [withoutOldest_zero, Nat.add_zero]
  rw [withoutOldest, withoutOldest, withoutOldest, if_neg (by omega), if_neg (by omega),
    if_neg (by omega), clampCursor_dropOldest_clampCursor, dropOldest_dropOldest]

@[simp] theorem journal_withoutOldest (c : Coordinator) (count : Nat) :
    (c.withoutOldest count).journal = c.journal := by
  unfold withoutOldest
  split
  · rfl
  · exact (sameStacks_clampCursor _).journal

theorem tables_withoutOldest (c : Coordinator) (count : Nat) :
    (c.withoutOldest count).tables = c.tables.map (·.dropOldest count) := by
  unfold withoutOldest
  split
  · rename_i hzero
    simp [hzero, Chain.dropOldest]
  · exact (sameStacks_clampCursor _).tables

theorem length_levels_withoutOldest (c : Coordinator) (count : Nat) :
    (c.withoutOldest count).levels.length = c.levels.length - count := by
  unfold withoutOldest
  split
  · rename_i hzero
    rw [hzero, Nat.sub_zero]
  · rw [(sameStacks_clampCursor _).levels]
    exact List.length_drop

theorem DistinctStores.withoutOldest {c : Coordinator} (h : c.DistinctStores) (count : Nat) :
    (c.withoutOldest count).DistinctStores := by
  rw [DistinctStores, journal_withoutOldest, tables_withoutOldest, List.map_map]
  exact h

theorem tableNames_withoutOldest (c : Coordinator) (count : Nat) :
    (c.withoutOldest count).tableNames = c.tableNames := by
  rw [tableNames, tables_withoutOldest, List.map_map]
  rfl

/-- The coordinator apart from what counts the flushes: the generation,
and the events published. -/
def uncounted (c : Coordinator) : Coordinator := { c with generation := 0, published := [] }

theorem uncounted_withoutOldest (c : Coordinator) (count : Nat) :
    (c.withoutOldest count).uncounted = c.uncounted.withoutOldest count := by
  unfold withoutOldest
  split
  · rfl
  · simp only [clampCursor, uncounted, dropOldest, mapTables]
    cases c.view <;> rfl

/-! ### What a flush leaves in the stores -/

/-- What a flush of the `count` oldest layers writes if nothing stops
it. -/
def allWrites (c : Coordinator) (count : Nat) : List (String × Batch) :=
  if count = 0 then [] else c.flushWrites count ++ [c.clearWrite]

theorem allWrites_uncounted (c : Coordinator) (count : Nat) :
    c.uncounted.allWrites count = c.allWrites count := rfl

theorem afterWrites_allWrites_root {c : Coordinator} (h : c.DistinctStores) (count : Nat)
    {chain : Chain} (hmem : chain ∈ c.tables) (contents : Contents) :
    contents.afterWrites chain.root (c.allWrites count) =
      contents.overlay (Chain.diffs (chain.layers.take count)) := by
  unfold allWrites
  split
  · rename_i hzero
    rw [hzero]
    rfl
  · rw [Contents.afterWrites_append, afterWrites_flushWrites h count hmem]
    exact Contents.afterWrites_singleton_of_ne (h.journal_ne hmem)

/-- The journal is left as it was but for the record, which a flush that
moves something removes. -/
theorem afterWrites_allWrites_journal {c : Coordinator} (h : c.DistinctStores) (count : Nat)
    (contents : Contents) :
    contents.afterWrites c.journal (c.allWrites count) =
      if count = 0 then contents else contents.erase Journal.key := by
  unfold allWrites
  split
  · rfl
  have hroots : ∀ contents : Contents,
      contents.afterWrites c.journal (c.netWrites count) = contents := fun contents =>
    Contents.afterWrites_of_forall_ne fun write hwrite => journal_ne_of_mem_netWrites h hwrite
  have hrecord : contents.afterWrites c.journal (c.flushWrites count) =
      contents.apply (Journal.recordBatch (c.netRecord count)) := by
    rw [flushWrites, Contents.afterWrites, List.foldl_cons, if_pos rfl]
    exact hroots _
  rw [Contents.afterWrites_append, hrecord, clearWrite, Contents.afterWrites_singleton]
  apply OrderedMap.ext_get?
  intro key
  show ((contents.insert Journal.key _).erase Journal.key).get? key = _
  rw [OrderedMap.get?_erase, OrderedMap.get?_erase, OrderedMap.get?_insert]
  split <;> rfl

/-- A store that is neither the journal nor a root is not written to. -/
theorem afterWrites_allWrites_other {c : Coordinator} {store : String}
    (hjournal : c.journal ≠ store) (hroots : ∀ chain ∈ c.tables, chain.root ≠ store)
    (count : Nat) (contents : Contents) :
    contents.afterWrites store (c.allWrites count) = contents := by
  unfold allWrites
  split
  · rfl
  refine Contents.afterWrites_of_forall_ne fun write hwrite => ?_
  rcases List.mem_append.mp hwrite with hflush | hclear
  · rcases List.mem_cons.mp hflush with rfl | hnet
    · exact hjournal
    · obtain ⟨chain, hmem, hroot, -⟩ := (c.mem_netWrites_iff count write).mp hnet
      exact hroot ▸ hroots chain hmem
  · rw [List.mem_singleton.mp hclear]
    exact hjournal

/-- Every store holds after the writes of two flushes what it holds after
those of one. -/
theorem afterWrites_allWrites_allWrites {c : Coordinator} (h : c.DistinctStores)
    (first later : Nat) (store : String) (contents : Contents) :
    (contents.afterWrites store (c.allWrites first)).afterWrites store
        ((c.withoutOldest first).allWrites later) =
      contents.afterWrites store (c.allWrites (first + later)) := by
  -- A store is the journal, a root, or neither. The journal is cleared by each
  -- flush that has something to do.
  by_cases hjournal : c.journal = store
  · subst hjournal
    have hlater := afterWrites_allWrites_journal (h.withoutOldest first) later
    rw [journal_withoutOldest] at hlater
    rw [hlater, afterWrites_allWrites_journal h, afterWrites_allWrites_journal h]
    rcases Nat.eq_zero_or_pos first with rfl | hfirst
    · rw [if_pos rfl, Nat.zero_add]
    · rw [if_neg (Nat.ne_of_gt hfirst), OrderedMap.erase_erase, ite_self, if_neg (by omega)]
  -- A root takes in the older layers and then the newer ones.
  by_cases hroot : ∃ chain ∈ c.tables, chain.root = store
  · obtain ⟨chain, hmem, rfl⟩ := hroot
    have hmem' : chain.dropOldest first ∈ (c.withoutOldest first).tables := by
      rw [tables_withoutOldest]
      exact List.mem_map_of_mem hmem
    have hlater := afterWrites_allWrites_root (h.withoutOldest first) later hmem'
    have htake : Chain.diffs (chain.layers.take (first + later)) =
        Chain.diffs (chain.layers.take first) ++
          Chain.diffs ((chain.layers.drop first).take later) := by
      rw [List.take_add, Chain.diffs, List.map_append]
    rw [afterWrites_allWrites_root h _ hmem, afterWrites_allWrites_root h _ hmem, htake,
      Contents.overlay_append]
    exact hlater _
  · have hroots : ∀ chain ∈ c.tables, chain.root ≠ store := fun chain hmem heq =>
      hroot ⟨chain, hmem, heq⟩
    have hroots' : ∀ chain ∈ (c.withoutOldest first).tables, chain.root ≠ store := by
      rw [tables_withoutOldest, List.forall_mem_map]
      exact hroots
    rw [afterWrites_allWrites_other hjournal hroots, afterWrites_allWrites_other hjournal hroots]
    exact afterWrites_allWrites_other
      ((c.journal_withoutOldest first).trans_ne hjournal) hroots' _ _

end Coordinator

/-! ### Two flushes and one -/

/-- What is left by a flush of the `count` oldest layers that nothing
stops. -/
structure World.Moved (w : World) (count : Nat) (w' : World) : Prop where
  contents : ∀ store, w'.disk.contents store =
    (w.disk.contents store).afterWrites store (w.db.coordinator.allWrites count)
  coordinator : w'.db.coordinator.uncounted = (w.db.coordinator.withoutOldest count).uncounted

section
variable {w w₁ w₂ : World} {count : Nat}

theorem World.Moved.tableNames (h : w.Moved count w₁) :
    w₁.db.coordinator.tableNames = w.db.coordinator.tableNames := by
  have hsame : w₁.db.coordinator.uncounted.tableNames =
      (w.db.coordinator.withoutOldest count).uncounted.tableNames := by rw [h.coordinator]
  exact hsame.trans (w.db.coordinator.tableNames_withoutOldest count)

theorem World.Moved.length_levels (h : w.Moved count w₁) :
    w₁.db.coordinator.levels.length = w.db.coordinator.levels.length - count := by
  have hsame : w₁.db.coordinator.uncounted.levels =
      (w.db.coordinator.withoutOldest count).uncounted.levels := by rw [h.coordinator]
  exact (congrArg List.length hsame).trans (w.db.coordinator.length_levels_withoutOldest count)

/-- What two flushes leave is what one of all their layers leaves. -/
theorem World.Moved.trans {first later : Nat} (h : w.Moved first w₁)
    (h' : w₁.Moved later w₂) (hstores : w.db.coordinator.DistinctStores) :
    w.Moved (first + later) w₂ where
  contents store := by
    have hwrites : w₁.db.coordinator.uncounted.allWrites later =
        (w.db.coordinator.withoutOldest first).uncounted.allWrites later := by rw [h.coordinator]
    rw [Coordinator.allWrites_uncounted, Coordinator.allWrites_uncounted] at hwrites
    rw [h'.contents, h.contents, hwrites]
    exact Coordinator.afterWrites_allWrites_allWrites hstores first later store _
  coordinator := by
    rw [h'.coordinator, Coordinator.uncounted_withoutOldest, h.coordinator,
      ← Coordinator.uncounted_withoutOldest, Coordinator.withoutOldest_withoutOldest]

end

/-- A flush that succeeds leaves what a flush leaves that nothing
stops. -/
theorem FlushEnd.moved {w w' : World} {n : Nat} (h : FlushEnd w n (.ok ()) w') : w.Moved n w' := by
  cases h with
  | nothing hn =>
    subst hn
    exact ⟨fun _ => rfl, by rw [Coordinator.withoutOldest_zero]⟩
  | finished hn hfits h hc =>
    subst hc
    constructor
    · rw [Coordinator.allWrites, if_neg (Nat.ne_of_gt hn)]
      exact h.contents
    · rw [Coordinator.withoutOldest, if_neg (Nat.ne_of_gt hn)]
      show (Coordinator.announce _ _).uncounted = _
      unfold Coordinator.announce
      split <;> rfl

namespace Operation

/-- The record of a flush has a length that four bytes do not hold, and
the flush is refused for it. -/
def FlushUnfit (w : World) (count : Nat) : Prop :=
  (w.db.coordinator.netRecord (min count w.db.coordinator.levels.length)).fits = false ∧
    ((flushOldest count).perform w).1 = .error (.error .unencodable)

/-- Where no store is set to fail, a flush moves its layers, unless its
record cannot be encoded. -/
theorem flushOldest_moved (w : World) (hnames : w.db.coordinator.tableNames.Nodup)
    (hd : w.disk.Healthy) (count : Nat) :
    FlushUnfit w count ∨ (flushOldest count).Ends w fun r w' => r = .ok () ∧ w'.disk.Healthy ∧
      w.Moved (min count w.db.coordinator.levels.length) w' := by
  have hends : FlushEnd w _ _ _ := flushOldest_ends w hnames count
  have hhealthy := flushOldest_healthy w hnames hd count
  generalize hn : min count w.db.coordinator.levels.length = n at hends hhealthy ⊢
  cases hfits : (w.db.coordinator.netRecord n).fits with
  | true =>
    obtain ⟨hok, hd'⟩ := hhealthy hfits
    rw [hok] at hends
    exact .inr ⟨hok, hd', hends.moved⟩
  | false =>
    rcases hends.of_unfit hfits with ⟨rfl, hok, hsame⟩ | ⟨hrefused, -⟩
    · rw [hok] at hends
      refine .inr ⟨hok, ?_, hends.moved⟩
      rw [hsame]
      exact hd
    · exact .inl ⟨hn ▸ hfits, hrefused⟩

/-- Collapsing layers loses nothing: the net diff of the oldest layers
of any table says what they say together. Hence it does not matter how
flushes are grouped: over stores of which none is set to fail, moving
the `first` oldest layers into the roots and then the `later` oldest of
the rest leaves every store as moving `first + later` at once does, and
the coordinator too, but for the number of the flushes: the same layers,
levels, pending layers and cursor. Excluded is, and only this, a flush
that the journal refuses because a length in its record does not fit
into four bytes. -/
theorem flushOldest_regroup :
    (∀ (chain : Chain) (count : Nat),
      (chain.netOldest count).IsNetOf (chain.layers.take count)) ∧
    ∀ w : World, w.db.coordinator.Sound → w.db.coordinator.DistinctStores → w.disk.Healthy →
      ∀ first later : Nat,
        let part := (flushOldest first).perform w
        let parts := (flushOldest later).perform part.2
        let whole := (flushOldest (first + later)).perform w
        FlushUnfit w first ∨ FlushUnfit part.2 later ∨ FlushUnfit w (first + later) ∨
        part.1 = .ok () ∧ parts.1 = .ok () ∧ whole.1 = .ok () ∧
        (∀ store, parts.2.disk.contents store = whole.2.disk.contents store) ∧
        parts.2.db.coordinator.uncounted = whole.2.db.coordinator.uncounted := by
  refine ⟨Chain.isNetOf_netOldest, fun w hsound hstores hd first later => ?_⟩
  intro part parts whole
  rcases flushOldest_moved w hsound.names hd first with hunfit | ⟨hpart, hd₁, hfirst⟩
  · exact .inl hunfit
  have hnames : part.2.db.coordinator.tableNames.Nodup := hfirst.tableNames ▸ hsound.names
  rcases flushOldest_moved part.2 hnames hd₁ later with hunfit | ⟨hparts, -, hlater⟩
  · exact .inr (.inl hunfit)
  rcases flushOldest_moved w hsound.names hd (first + later) with hunfit | ⟨hwhole, -, hboth⟩
  · exact .inr (.inr (.inl hunfit))
  -- Of the layers that are left, as many are moved as the flush of all would move.
  have hcount : min first w.db.coordinator.levels.length +
      min later part.2.db.coordinator.levels.length =
        min (first + later) w.db.coordinator.levels.length := by
    have hleft : part.2.db.coordinator.levels.length = _ := hfirst.length_levels
    omega
  have htwice := hfirst.trans hlater hstores
  rw [hcount] at htwice
  refine .inr (.inr (.inr ⟨hpart, hparts, hwhole, fun store => ?_, ?_⟩))
  · exact (htwice.contents store).trans (hboth.contents store).symm
  · exact htwice.coordinator.trans hboth.coordinator.symm

/-- Three layers, of which two are moved, one by one or both at once. The
first layer of one table sets a key that the second deletes, and deletes
one that the root holds; the cursor leaves out two layers of which only
one remains. -/
theorem flushOldest_regroup_one_and_one :
    let w := (World.opened .empty {} "journal" []).play
      [.call (.addTable "a" "ra"), .call (.addTable "b" "rb"),
        .call (.write ⟨0, "a"⟩ [1] (.value [9])),
        .call (.openSession false), .call (.write ⟨0, "a"⟩ [1] .tombstone),
        .call (.write ⟨0, "a"⟩ [2] (.value [5])), .call .commit,
        .call (.openSession false), .call (.write ⟨0, "a"⟩ [2] .tombstone),
        .call (.write ⟨1, "b"⟩ [2] (.value [7])), .call .commit,
        .call (.openSession false), .call (.write ⟨0, "a"⟩ [1] (.value [3])), .call .commit,
        .call (.setCursor .head 2)]
    let part := (flushOldest 1).perform w
    let parts := (flushOldest 1).perform part.2
    let whole := (flushOldest (1 + 1)).perform w
    w.db.coordinator.Sound ∧ w.db.coordinator.DistinctStores ∧ w.disk.Healthy ∧
    part.1 = .ok () ∧ parts.1 = .ok () ∧ whole.1 = .ok () ∧
    (∀ store, parts.2.disk.contents store = whole.2.disk.contents store) ∧
    parts.2.db.coordinator.uncounted = whole.2.db.coordinator.uncounted ∧
    parts.2.db.coordinator ≠ whole.2.db.coordinator ∧
    (w.disk.contents "ra").toList = [([1], [9])] ∧ (whole.2.disk.contents "ra").toList = [] ∧
    (whole.2.disk.contents "rb").toList = [([2], [7])] ∧
    w.db.coordinator.view = .head 2 ∧ whole.2.db.coordinator.view = .head 1 := by
  intro w part parts whole
  have hsound : w.db.coordinator.Sound := World.play_sound ..
  have hstores : w.db.coordinator.DistinctStores :=
    (Coordinator.distinctStores_iff _).mpr (by decide +kernel)
  have hd : w.disk.Healthy := Disk.healthy_of_forall (by decide +kernel)
  have hregroup := flushOldest_regroup.2 w hsound hstores hd 1 1
  extract_lets at hregroup
  obtain hunfit | hunfit | hunfit | ⟨hpart, hparts, hwhole, hcontents, hcoordinator⟩ := hregroup
  · exact absurd hunfit.1 (by decide +kernel)
  · exact absurd hunfit.1 (by decide +kernel)
  · exact absurd hunfit.1 (by decide +kernel)
  · exact ⟨hsound, hstores, hd, hpart, hparts, hwhole, hcontents, hcoordinator,
      by decide +kernel, by decide +kernel, by decide +kernel, by decide +kernel,
      by decide +kernel, by decide +kernel⟩

end Operation

end LayeredStore

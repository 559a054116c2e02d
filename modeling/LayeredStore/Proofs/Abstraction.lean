import LayeredStore.Proofs.PlainModel
import LayeredStore.Proofs.Views

/-!
# `LayeredStore.Proofs.Abstraction`: a world seen as plain maps

`World.plain` forgets the journal, the seals, the sequence numbers of
the layers and whatever else users cannot see, and keeps the maps. A
table becomes its root's contents, the diffs of its pending layers and
the diffs of its live ones.

Every change that the operations make to the coordinator is seen as the
change of the same name in `PlainModel.lean`: `plain_push`,
`plain_discardHead`, `plain_solidify`, `plain_dropOldest`, `plain_put`,
`plain_register`. Sealing, counting generations and publishing events
are not seen at all.

* `agrees_plain`: what users can ask of a world is answered by its plain
  maps.
-/

set_option autoImplicit false

namespace LayeredStore

namespace Chain

/-- A table over a root that holds this, as plain maps. -/
def plain (chain : Chain) (held : Contents) : PlainTable where
  name := chain.name
  root := held
  pending := diffs (chain.layers.take chain.pending)
  live := diffs (chain.layers.drop chain.pending)

section
variable (chain : Chain) (held : Contents)

theorem diffs_append (older newer : List Layer) :
    diffs (older ++ newer) = diffs older ++ diffs newer := List.map_append

theorem plain_push (hpending : chain.pending ≤ chain.layers.length) (seq : Nat) :
    (chain.push seq).plain held = (chain.plain held).push := by
  unfold plain push PlainTable.push
  simp only [List.take_append_of_le_length hpending, List.drop_append_of_le_length hpending,
    diffs_append]
  rfl

theorem plain_discardHead (hdepth : 0 < chain.depth) :
    chain.discardHead.plain held = (chain.plain held).discard := by
  have hpending : chain.pending ≤ chain.layers.length - 1 := by
    unfold depth at hdepth
    omega
  rw [discardHead, if_neg (Nat.ne_of_gt hdepth)]
  unfold plain PlainTable.discard
  simp only [List.dropLast_eq_take, List.take_take, Nat.min_eq_left hpending, diffs,
    List.length_map, List.length_drop, List.map_drop, List.map_take, List.drop_take]
  have hlength : chain.layers.length - 1 - chain.pending =
      chain.layers.length - chain.pending - 1 := by omega
  rw [hlength]

theorem plain_solidify (count : Nat) :
    (chain.solidify count).plain held = (chain.plain held).toPending count := by
  have htake : chain.layers.take (min (chain.pending + count) chain.layers.length) =
      chain.layers.take chain.pending ++ (chain.layers.drop chain.pending).take count := by
    rw [← List.take_add, List.take_eq_take_iff, Nat.min_assoc, Nat.min_self]
  have hdrop : chain.layers.drop (min (chain.pending + count) chain.layers.length) =
      (chain.layers.drop chain.pending).drop count := by
    rw [List.drop_drop]
    by_cases hle : chain.pending + count ≤ chain.layers.length
    · rw [Nat.min_eq_left hle]
    · rw [Nat.min_eq_right (by omega), List.drop_length, List.drop_eq_nil_of_le (by omega)]
  unfold plain solidify PlainTable.toPending
  simp only [htake, hdrop, diffs_append]
  simp only [diffs, List.map_take, List.map_drop]

theorem plain_dropOldest (hpending : chain.pending ≤ chain.layers.length) (count : Nat) :
    (chain.dropOldest (chain.pending + count)).plain
        (held.overlay (diffs (chain.layers.take (chain.pending + count)))) =
      (chain.plain held).flatten count := by
  have hnone : chain.pending - min (chain.pending + count) chain.layers.length = 0 := by omega
  unfold plain dropOldest PlainTable.flatten
  simp only [hnone, List.take_zero, List.drop_zero, List.take_add, diffs_append]
  simp only [diffs, List.map_take, List.map_drop, List.drop_drop, List.map_nil]

theorem plain_commit : (chain.modifyHead (·.commit)).plain held = chain.plain held := by
  have hdiffs := chain.diffs_modifyHead_commit
  have hname := Coordinator.name_root_modifyHead (·.commit) chain
  have hpending : (chain.modifyHead (·.commit)).pending = chain.pending := by
    unfold modifyHead
    split <;> rfl
  unfold diffs at hdiffs
  unfold plain diffs
  rw [hname.1, hpending, List.map_take, List.map_drop, hdiffs, List.map_take, List.map_drop]

theorem plain_put (hdepth : 0 < chain.depth) (key : Bytes) (entry : Entry) :
    (chain.modifyHead (·.put key entry)).plain held = (chain.plain held).put key entry := by
  have hlt : chain.pending < chain.layers.length := by
    unfold depth at hdepth
    omega
  -- Writing to a layer writes to its diff, and reseals it unseen.
  have hmap : ∀ (layers : List Layer) (level : Nat),
      diffs (layers.modify level (·.put key entry)) =
        (diffs layers).modify level (·.insert key entry) := by
    intro layers level
    apply List.ext_getElem?
    intro i
    simp only [diffs, List.getElem?_map, List.getElem?_modify]
    cases layers[i]? with
    | none => rfl
    | some layer =>
      simp only [Option.map_some]
      refine congrArg some ?_
      split
      · exact layer.diff_put key entry
      · rfl
  -- The newest layer is live, so the pending ones stay and it is the last of
  -- those behind them.
  have htake := chain.take_layers_modifyHead (·.put key entry) hlt
  unfold modifyHead at htake ⊢
  rw [if_neg (Nat.ne_of_gt hdepth)] at htake ⊢
  unfold plain PlainTable.put
  show PlainTable.mk _ _ (diffs (List.take chain.pending _)) (diffs (List.drop chain.pending _)) = _
  rw [htake, modifyLayer, List.drop_modify_of_ge _ _ _ _ (by omega), hmap]
  have hlength : chain.layers.length - 1 - chain.pending =
      (diffs (chain.layers.drop chain.pending)).length - 1 := by
    simp only [diffs, List.length_map, List.length_drop]
    omega
  rw [hlength]

theorem plain_padded (name root : String) {levels : List Nat} {pending : Nat}
    (hpending : pending ≤ levels.length) (openSeq? : Option Nat) :
    (padded name root levels pending openSeq?).plain held =
      ⟨name, held, List.replicate pending .empty,
        List.replicate (levels.length - pending) .empty⟩ := by
  have hdiffs : diffs (padded name root levels pending openSeq?).layers =
      List.replicate levels.length .empty := by
    rw [List.eq_replicate_iff]
    refine ⟨by simp [diffs, padded], fun diff hdiff => ?_⟩
    obtain ⟨layer, hlayer, rfl⟩ := List.mem_map.mp hdiff
    obtain ⟨seq, -, rfl⟩ := List.mem_map.mp hlayer
    split <;> rfl
  unfold diffs at hdiffs
  unfold plain diffs
  rw [List.map_take, List.map_drop, hdiffs]
  show PlainTable.mk name held (List.take pending _) (List.drop pending _) = _
  rw [List.take_replicate, List.drop_replicate, Nat.min_eq_left hpending]

end

end Chain

namespace Coordinator

/-- The coordinator's tables and settings, over roots that hold this, as
plain maps. -/
def plain (c : Coordinator) (held : String → Contents) : PlainDatabase where
  tables := c.tables.map fun chain => chain.plain (held chain.root)
  pending := c.pending
  live := c.depth
  nextSeq := c.nextSeq
  enabled := c.enabled
  forced := c.disableOnExit
  view := c.view
  maxSize := c.maxSize
  maxFlushCount := c.maxFlushCount
  openUnit := c.openUnit
  statuses := c.statuses
  passThroughRevokes := c.passThroughRevokes
  shutDown := c.shutDown

section
variable {c : Coordinator} {held : String → Contents}

/-- Tables that all change in one way are seen to change in one way. -/
theorem plainTables_map {f : Chain → Chain} {g : PlainTable → PlainTable}
    {held' : String → Contents}
    (h : ∀ chain ∈ c.tables,
      (f chain).plain (held' (f chain).root) = g (chain.plain (held chain.root))) :
    ((c.tables.map f).map fun chain => chain.plain (held' chain.root)) =
      (c.plain held).tables.map g := by
  rw [List.map_map]
  show _ = (c.tables.map _).map g
  rw [List.map_map]
  exact List.map_congr_left h

theorem names_plain (c : Coordinator) (held : String → Contents) :
    (c.plain held).tables.map (·.name) = c.tableNames := by
  rw [plain, List.map_map]
  rfl

theorem plain_announce (c : Coordinator) (event : Event) :
    (c.announce event).plain held = c.plain held := by
  unfold announce
  split <;> rfl

theorem plain_clampCursor (c : Coordinator) :
    c.clampCursor.plain held = (c.plain held).clamp := by
  have hview : (c.plain held).view = c.view := rfl
  unfold clampCursor PlainDatabase.clamp
  rw [hview]
  cases hcursor : c.view with
  | head hidden => rfl
  | solidity => rfl

theorem plain_push (hsound : c.Sound) : c.push.plain held = (c.plain held).push := by
  have htables : (c.push.tables.map fun chain => chain.plain (held chain.root)) =
      (c.plain held).tables.map (·.push) := by
    refine plainTables_map fun chain hmem => chain.plain_push _ ?_ _
    have hstep := hsound.chains chain hmem
    rw [hstep.pending, hstep.length_layers]
    exact hsound.pending_le
  have hdepth : c.push.depth = c.depth + 1 := by
    have hle := hsound.pending_le
    show (c.levels ++ [c.nextSeq]).length - c.pending = c.levels.length - c.pending + 1
    rw [List.length_append, List.length_singleton]
    omega
  unfold plain PlainDatabase.push
  rw [htables, hdepth]
  rfl

theorem plain_discardHead (hdepths : ∀ chain ∈ c.tables, chain.depth = c.depth)
    (hdepth : 0 < c.depth) :
    c.discardHead.bump.clampCursor.plain held = (c.plain held).discard := by
  have htables : (c.discardHead.tables.map fun chain => chain.plain (held chain.root)) =
      (c.plain held).tables.map (·.discard) := by
    refine plainTables_map fun chain hmem => ?_
    rw [(name_root_discardHead chain).2]
    refine chain.plain_discardHead _ ?_
    rw [hdepths chain hmem]
    exact hdepth
  have hlive : c.discardHead.depth = c.depth - 1 := by
    show c.levels.dropLast.length - c.pending = c.levels.length - c.pending - 1
    rw [List.length_dropLast]
    omega
  rw [plain_clampCursor, PlainDatabase.discard]
  refine congrArg PlainDatabase.clamp ?_
  show c.discardHead.plain held = _
  unfold plain
  rw [htables, hlive]
  rfl

theorem plain_solidify (hsound : c.Sound) (count : Nat) :
    (c.solidify count).bump.clampCursor.plain held = (c.plain held).toPending count := by
  have hle := hsound.pending_le
  have htables : ((c.solidify count).tables.map fun chain => chain.plain (held chain.root)) =
      (c.plain held).tables.map (·.toPending count) :=
    plainTables_map fun chain _ => chain.plain_solidify _ count
  -- No more layers become pending than are live.
  have hpending : min (c.pending + count) c.levels.length = c.pending + min count c.depth := by
    unfold depth
    omega
  have hlive : (c.solidify count).depth = c.depth - count := by
    show c.levels.length - min (c.pending + count) c.levels.length =
      c.levels.length - c.pending - count
    omega
  rw [plain_clampCursor, PlainDatabase.toPending]
  refine congrArg PlainDatabase.clamp ?_
  show (c.solidify count).plain held = _
  unfold plain
  rw [htables, hlive]
  show PlainDatabase.mk _ (min (c.pending + count) c.levels.length) _ _ _ _ _ _ _ _ _ _ _ = _
  rw [hpending]
  rfl

/-- Taking the oldest layers away flattens them, if the roots hold what
they say. -/
theorem plain_dropOldest (hsound : c.Sound) {count : Nat} (hcount : 0 < c.pending + count)
    {held' : String → Contents}
    (hheld : ∀ chain ∈ c.tables, held' chain.root = (held chain.root).overlay
      (Chain.diffs (chain.layers.take (c.pending + count)))) :
    (c.dropOldest (c.pending + count)).clampCursor.plain held' = (c.plain held).flatten count := by
  -- What a table has flattened is in its root now, as `hheld` says, so its
  -- diffs are those of the layers left.
  have htables : ((c.dropOldest (c.pending + count)).tables.map
      fun chain => chain.plain (held' chain.root)) =
      (c.plain held).tables.map (·.flatten count) := by
    refine plainTables_map fun chain hmem => ?_
    have hstep := hsound.chains chain hmem
    show (chain.dropOldest _).plain (held' chain.root) = _
    rw [hheld chain hmem, ← hstep.pending]
    refine chain.plain_dropOldest _ ?_ count
    rw [hstep.pending, hstep.length_layers]
    exact hsound.pending_le
  have hpending : c.pending - (c.pending + count) = 0 := by omega
  have hlive : (c.dropOldest (c.pending + count)).depth = c.depth - count := by
    show (c.levels.drop (c.pending + count)).length - (c.pending - (c.pending + count)) =
      c.levels.length - c.pending - count
    rw [List.length_drop]
    omega
  -- Something is flattened, so the plain database does more than nothing.
  rw [plain_clampCursor, PlainDatabase.flatten, if_neg]
  · refine congrArg PlainDatabase.clamp ?_
    unfold plain
    rw [htables, hlive]
    show PlainDatabase.mk _ (c.pending - (c.pending + count)) _ _ _ _ _ _ _ _ _ _ _ = _
    rw [hpending]
    rfl
  · exact Nat.ne_of_gt hcount

theorem plain_sealHeads (c : Coordinator) : c.sealHeads.plain held = c.plain held := by
  have htables : (c.sealHeads.tables.map fun chain => chain.plain (held chain.root)) =
      (c.plain held).tables.map id := by
    refine plainTables_map fun chain _ => ?_
    rw [(name_root_modifyHead _ chain).2]
    exact chain.plain_commit _
  unfold plain at htables ⊢
  rw [htables, List.map_id]
  rfl

/-- Writing to the newest layer of a table. -/
theorem plain_put (hsound : c.Sound) (hdepth : 0 < c.depth) (table : Nat) (key : Bytes)
    (entry : Entry) :
    (c.modifyTable table (·.modifyHead (·.put key entry))).plain held =
      { c.plain held with
        tables := (c.plain held).tables.modify table (·.put key entry) } := by
  have htables : ((c.tables.modify table (·.modifyHead (·.put key entry))).map
      fun chain => chain.plain (held chain.root)) =
      (c.tables.map fun chain => chain.plain (held chain.root)).modify table (·.put key entry) := by
    apply List.ext_getElem?
    intro i
    simp only [List.getElem?_map, List.getElem?_modify]
    cases hchain : c.tables[i]? with
    | none => rfl
    | some chain =>
      simp only [Option.map_some]
      refine congrArg some ?_
      split
      · show (chain.modifyHead (·.put key entry)).plain
          (held (chain.modifyHead (·.put key entry)).root) = _
        rw [(name_root_modifyHead _ chain).2]
        refine chain.plain_put _ ?_ key entry
        rw [(hsound.chains chain (List.mem_of_getElem? hchain)).depth_eq]
        exact hdepth
      · rfl
  unfold plain
  show PlainDatabase.mk (List.map _ (c.tables.modify table _)) _ _ _ _ _ _ _ _ _ _ _ _ = _
  rw [htables]
  rfl

/-- Writing to the root of a table, which is that of no other table. -/
theorem plain_putRoot (hdistinct : c.DistinctStores) {table : Nat} {name root : String}
    (hregistered : c.registered[table]? = some (name, root)) {held' : String → Contents}
    {key : Bytes} {entry : Entry} (hroot : held' root = (held root).put key entry)
    (hother : ∀ store, store ≠ root → held' store = held store) :
    c.plain held' = { c.plain held with
      tables := (c.plain held).tables.modify table (·.putRoot key entry) } := by
  obtain ⟨written, hwritten, -, rfl⟩ := exists_table_of_registered hregistered
  have htables : (c.tables.map fun chain => chain.plain (held' chain.root)) =
      (c.tables.map fun chain => chain.plain (held chain.root)).modify table
        (·.putRoot key entry) := by
    apply List.ext_getElem?
    intro i
    simp only [List.getElem?_map, List.getElem?_modify]
    cases hchain : c.tables[i]? with
    | none => rfl
    | some chain =>
      simp only [Option.map_some]
      refine congrArg some ?_
      -- The roots are distinct, so that of another table is another store.
      split
      · rename_i heq
        subst heq
        obtain rfl : written = chain := Option.some.inj (hwritten.symm.trans hchain)
        rw [hroot]
        rfl
      · rename_i hne
        rw [hother chain.root fun heq =>
          hne (hdistinct.table_unique hwritten hchain heq.symm)]
  unfold plain
  rw [htables]

/-- Registering a table adds one with an empty diff for each level. -/
theorem plain_register (hsound : c.Sound) (name root : String) :
    ({ c with tables := c.tables ++ [Chain.padded name root c.levels c.pending c.openSeq?] } :
      Coordinator).plain held =
      { c.plain held with
        tables := (c.plain held).tables ++ [⟨name, held root, List.replicate c.pending .empty,
          List.replicate c.depth .empty⟩] } := by
  have hpadded := Chain.plain_padded (held root) name root hsound.pending_le c.openSeq?
  unfold plain
  simp only [List.map_append, List.map_cons, List.map_nil]
  show PlainDatabase.mk (_ ++ [Chain.plain (Chain.padded name root c.levels c.pending c.openSeq?)
    (held root)]) _ _ _ _ _ _ _ _ _ _ _ _ = _
  rw [hpadded]
  rfl

/-- Resolving the sessions of a unit that are open. -/
theorem resolveOpen_eq_resolveOpen (c : Coordinator) (unit : UnitOfWork) (status : SessionStatus) :
    c.resolveOpen unit status =
      { c with statuses := PlainDatabase.resolveOpen unit.sessions status c.statuses } := by
  unfold resolveOpen PlainDatabase.resolveOpen
  induction unit.sessions generalizing c with
  | nil => rfl
  | cons session rest ih =>
    rw [List.foldl_cons, List.foldl_cons, ih]
    unfold isOpen Coordinator.status
    by_cases hopen : c.statuses.getD session .abandoned = .opened
    · simp only [hopen, decide_true, if_true, setStatus]
    · simp only [hopen, decide_false, Bool.false_eq_true, if_false]

end

end Coordinator

/-! ### What users read -/

namespace Chain

theorem plain_visible (chain : Chain) (hpending : chain.pending ≤ chain.layers.length)
    (held : Contents) (view : View) :
    (chain.plain held).visible view = held.overlay (diffs (chain.visible view)) := by
  cases view with
  | solidity => rfl
  | head hidden =>
    have hlength : chain.layers.length - min hidden chain.depth =
        chain.pending + (chain.layers.length - chain.pending - hidden) := by
      unfold depth
      omega
    unfold plain visible PlainTable.visible
    simp only [hlength, List.take_add, diffs_append]
    simp only [diffs, List.length_map, List.length_drop, List.map_take, List.map_drop]

/-- No more pairs can be read than keys are known. -/
theorem length_toList_overlay_visible (chain : Chain) (root : Contents) (view : View) :
    (root.overlay (diffs (chain.visible view))).toList.length ≤ keyCount root chain.layers := by
  refine length_toList_overlay_le ?_
  cases view <;> exact List.take_subset _ _

end Chain

namespace World

/-- A world as plain maps. -/
def plain (w : World) : PlainDatabase := w.db.coordinator.plain w.disk.contents

section
variable {w : World}

theorem tables_plain (w : World) (table : Nat) : w.plain.tables[table]? =
    w.db.coordinator.tables[table]?.map fun chain => chain.plain (w.disk.contents chain.root) :=
  List.getElem?_map

/-- A registered table reads as its plain maps do. -/
theorem readsAs_visible (hsound : w.db.coordinator.Sound) {table : Nat} {chain : Chain}
    (hchain : w.db.coordinator.tables[table]? = some chain) :
    chain.ReadsAs (w.disk.contents chain.root) w.db.coordinator.view (w.plain.visible table) := by
  have hstep := hsound.chains chain (List.mem_of_getElem? hchain)
  rw [Chain.readsAs_iff, PlainDatabase.visible, tables_plain, hchain]
  refine chain.plain_visible ?_ _ _
  rw [hstep.pending, hstep.length_layers]
  exact hsound.pending_le

theorem visible_of_none {table : Nat} (hnone : w.db.coordinator.tables[table]? = none) :
    w.plain.visible table = .empty := by
  rw [PlainDatabase.visible, tables_plain, hnone]
  rfl

theorem get?_eq_visible (hsound : w.db.coordinator.Sound) (table : Nat) (key : Bytes) :
    w.db.coordinator.get? w.disk table key = (w.plain.visible table).get? key := by
  unfold Coordinator.get?
  cases hchain : w.db.coordinator.tables[table]? with
  | none =>
    rw [visible_of_none hchain]
    rfl
  | some chain => exact (readsAs_visible hsound hchain).1 key

theorem nextVisible?_eq_visible (hsound : w.db.coordinator.Sound) (table : Nat)
    (after : Option Bytes) :
    w.db.coordinator.nextVisible? w.disk table after =
      (w.plain.visible table).nextAfter? after := by
  unfold Coordinator.nextVisible?
  cases hchain : w.db.coordinator.tables[table]? with
  | none =>
    rw [visible_of_none hchain]
    rfl
  | some chain => exact (readsAs_visible hsound hchain).2 after

/-- A walk goes on to the next pair of the map. -/
theorem next_eq (hsound : w.db.coordinator.Sound) (hpoisoned : w.db.poisoned = false)
    {iter : TableIter} (hdone : iter.done = false)
    (hgeneration : iter.generation = w.db.coordinator.generation) :
    iter.next w = match (w.plain.visible iter.table.index).nextAfter? iter.after with
      | some (key, value) => (some (.ok (key, value)), { iter with after := some key })
      | none => (none, { iter with done := true }) := by
  have hnext := nextVisible?_eq_visible hsound iter.table.index iter.after
  unfold TableIter.next
  rw [if_neg (by simp [hdone]), if_neg (by simp [hpoisoned]), if_neg (by simp [hgeneration])]
  cases hpair : (w.plain.visible iter.table.index).nextAfter? iter.after with
  | none =>
    rw [hpair] at hnext
    simp only [hnext]
  | some pair =>
    rw [hpair] at hnext
    simp only [hnext]

/-- A walk that has passed some pairs of a table and is allowed enough
steps finds the pairs that are left, and ends. -/
theorem collect_eq (hsound : w.db.coordinator.Sound) (hpoisoned : w.db.poisoned = false)
    {iter : TableIter} {before rest : List (Bytes × Bytes)} {fuel : Nat}
    (hsplit : (w.plain.visible iter.table.index).toList = before ++ rest)
    (hafter : iter.after = before.getLast?.map (·.1)) (hdone : iter.done = false)
    (hgeneration : iter.generation = w.db.coordinator.generation) (hfuel : rest.length < fuel) :
    iter.collect w fuel = rest.map .ok := by
  -- Each step passes one of the pairs that are left and uses up one unit of
  -- fuel, and one more step finds none.
  induction rest generalizing iter before fuel with
  | nil =>
    obtain ⟨fuel, rfl⟩ := Nat.exists_eq_add_one_of_ne_zero (Nat.ne_of_gt hfuel)
    rw [TableIter.collect, next_eq hsound hpoisoned hdone hgeneration, hafter,
      OrderedMap.nextAfter?_of_append hsplit]
    rfl
  | cons pair rest ih =>
    obtain ⟨fuel, rfl⟩ := Nat.exists_eq_add_one_of_ne_zero (Nat.ne_of_gt (Nat.zero_lt_of_lt hfuel))
    have hpassed : (w.plain.visible iter.table.index).toList = (before ++ [pair]) ++ rest := by
      simp [hsplit]
    have hrest : TableIter.collect w fuel { iter with after := some pair.1 } = rest.map .ok :=
      ih hpassed (by simp) hdone hgeneration (Nat.lt_of_succ_lt_succ hfuel)
    rw [TableIter.collect, next_eq hsound hpoisoned hdone hgeneration, hafter,
      OrderedMap.nextAfter?_of_append hsplit]
    exact congrArg (.ok pair :: ·) hrest

/-- A walk over a whole table finds the pairs of its map, in order. -/
theorem perform_scan (hsound : w.db.coordinator.Sound) (hpoisoned : w.db.poisoned = false)
    (table : Table) :
    table.scan.perform w = (.ok ((w.plain.visible table.index).toList.map .ok), w) := by
  have hscan : table.scan.Ends w fun r w' =>
      (r, w') = (.ok ((w.plain.visible table.index).toList.map .ok), w) := by
    unfold Table.scan Table.iterate
    rw [Operation.ends_bind, Operation.ends_locked, if_neg (by simp [hpoisoned])]
    simp only [Operation.ends_bind, Operation.ends_getCoordinator, Operation.ends_pure,
      Operation.ends_get]
    refine congrArg (fun pairs => (Except.ok pairs, w)) ?_
    have hsplit : (w.plain.visible table.index).toList =
        [] ++ (w.plain.visible table.index).toList := rfl
    -- A walk is given more steps than the map has pairs.
    refine collect_eq hsound hpoisoned hsplit rfl rfl rfl (Nat.lt_succ_of_le ?_)
    cases hchain : w.db.coordinator.tables[table.index]? with
    | none => simp [visible_of_none hchain, OrderedMap.empty]
    | some chain =>
      have hmap := (chain.readsAs_iff _ _ _).mp (readsAs_visible hsound hchain)
      rw [hmap]
      exact chain.length_toList_overlay_visible _ _
  exact hscan

/-- The world is told apart from plain maps by nothing that users can
ask: it is one of these maps, every lookup answers what the map of the
table says, a walk over the whole table finds the pairs of the map, and
sessions stand alike. -/
structure Agrees (w : World) (p : PlainDatabase) : Prop where
  plain : w.plain = p
  get? : ∀ (table : Table) (key : Bytes),
    (table.get? key).perform w = (.ok ((p.visible table.index).get? key), w)
  scan : ∀ table : Table,
    table.scan.perform w = (.ok ((p.visible table.index).toList.map .ok), w)
  depth : ∀ table : Table, table.depth.perform w = (.ok p.live, w)
  names : Database.tableNames.perform w = (.ok (p.tables.map (·.name)), w)
  status : ∀ session : Session, session.status w.db = p.status session.id

theorem agrees_plain (hsound : w.db.coordinator.Sound) (hpoisoned : w.db.poisoned = false) :
    w.Agrees w.plain := by
  -- What takes the lock finds it free.
  have hlocked : ∀ {α : Type} {body : Operation α} {a : α}, body.perform w = (.ok a, w) →
      (Operation.locked body).perform w = (.ok a, w) := by
    intro α body a hbody
    have hends : (Operation.locked body).Ends w fun r w' => (r, w') = (.ok a, w) := by
      rw [Operation.ends_locked, if_neg (by simp [hpoisoned])]
      unfold Operation.Ends
      rw [hbody]
    exact hends
  constructor
  case plain => rfl
  case get? =>
    intro table key
    refine hlocked ?_
    rw [← get?_eq_visible hsound]
    rfl
  case scan => exact perform_scan hsound hpoisoned
  case depth => exact fun _ => hlocked rfl
  case names =>
    refine hlocked ?_
    rw [plain, Coordinator.names_plain]
    rfl
  case status => exact fun _ => rfl

end

end World

end LayeredStore

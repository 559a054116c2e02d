import LayeredStore.Proofs.Steps

/-!
# `LayeredStore.Proofs.Views`: what the steps do to what tables read

`World.mapBelow` is the map that a table reads as with its oldest layers
only, and `World.headMap` with all of them. `readsAtHead_iff` says that
this is what its users read at the head.

* `Quiet.headMap`: a quiet step changes no table's map at the head.
* `mapBelow_flushEnd`: a flush changes no map above the layers that it
  moves, also if it stops halfway.
* `mapBelow_put`, `mapBelow_discardHead`, `mapBelow_push`: writing to the
  newest layer, discarding it and pushing another leave the maps below
  it alone.
-/

set_option autoImplicit false

namespace LayeredStore

namespace Chain

/-- Committing the newest layer leaves the diffs alone. -/
theorem diffs_modifyHead_commit (chain : Chain) :
    diffs (chain.modifyHead (·.commit)).layers = diffs chain.layers := by
  unfold modifyHead
  split
  · rfl
  · apply List.ext_getElem?
    intro i
    simp only [diffs, modifyLayer, List.getElem?_map, List.getElem?_modify]
    cases chain.layers[i]? with
    | none => rfl
    | some layer =>
      refine congrArg some ?_
      split <;> rfl

/-- Changing the newest layer leaves those below it alone. -/
theorem take_layers_modifyHead (chain : Chain) (f : Layer → Layer) {count : Nat}
    (hcount : count < chain.layers.length) :
    (chain.modifyHead f).layers.take count = chain.layers.take count := by
  unfold modifyHead
  split
  · rfl
  · show (chain.layers.modify (chain.layers.length - 1) f).take count = _
    rw [List.take_modify]
    apply List.modify_eq_self
    rw [List.length_take]
    omega

/-- Discarding the newest layer leaves those below it alone. -/
theorem take_layers_discardHead (chain : Chain) {count : Nat}
    (hcount : count < chain.layers.length) :
    chain.discardHead.layers.take count = chain.layers.take count := by
  unfold discardHead
  split
  · rfl
  · show chain.layers.dropLast.take count = _
    rw [List.dropLast_eq_take, List.take_take, Nat.min_eq_left (by omega)]

end Chain

namespace World

/-- The map that a table reads as with only its `count` oldest
layers. -/
def mapBelow (w : World) (table count : Nat) : Option Contents :=
  w.db.coordinator.tables[table]?.map fun chain =>
    (w.disk.contents chain.root).overlay (Chain.diffs (chain.layers.take count))

/-- The map that a table reads as with all its layers. -/
def headMap (w : World) (table : Nat) : Option Contents :=
  w.mapBelow table w.db.coordinator.levels.length

/-- At the head with offset zero, the table answers every lookup and
every step of a walk as the map does. -/
def ReadsAtHead (w : World) (table : Nat) (map : Contents) : Prop :=
  ∃ chain, w.db.coordinator.tables[table]? = some chain ∧
    chain.ReadsAs (w.disk.contents chain.root) (.head 0) map

theorem readsAtHead_iff {w : World} (hsound : w.db.coordinator.Sound) (table : Nat)
    (map : Contents) : w.ReadsAtHead table map ↔ w.headMap table = some map := by
  have hvisible : ∀ chain ∈ w.db.coordinator.tables,
      chain.visible (.head 0) = chain.layers.take w.db.coordinator.levels.length := by
    intro chain hmem
    rw [Chain.visible, (hsound.chains chain hmem).length_layers, Nat.zero_min, Nat.sub_zero]
  unfold ReadsAtHead headMap mapBelow
  cases hchain : w.db.coordinator.tables[table]? with
  | none => simp
  | some chain =>
    rw [Option.map_some, ← hvisible chain (List.mem_of_getElem? hchain)]
    constructor
    · rintro ⟨other, heq, hreads⟩
      cases heq
      exact congrArg some ((chain.readsAs_iff _ _ _).mp hreads).symm
    · intro hmap
      exact ⟨chain, rfl, (chain.readsAs_iff _ _ _).mpr (Option.some.inj hmap).symm⟩

theorem isSome_mapBelow_iff (w : World) (table count : Nat) :
    (w.mapBelow table count).isSome ↔ table < w.db.coordinator.tables.length := by
  simp [mapBelow]

section
variable {w w' : World}

/-- The maps depend on the chains and on what the roots hold. -/
theorem mapBelow_congr (htables : w'.db.coordinator.tables = w.db.coordinator.tables)
    (hroots : ∀ chain ∈ w.db.coordinator.tables,
      w'.disk.contents chain.root = w.disk.contents chain.root) (table count : Nat) :
    w'.mapBelow table count = w.mapBelow table count := by
  unfold mapBelow
  rw [htables]
  apply Option.map_congr
  intro chain hchain
  rw [hroots chain (List.mem_of_getElem? hchain)]

/-- The maps do not depend on how the layers are sealed or how many are
pending. -/
theorem mapBelow_mapTables {c : Coordinator} {f : Chain → Chain} {count : Nat}
    (htables : c.tables = w.db.coordinator.tables.map f)
    (hroot : ∀ chain, (f chain).root = chain.root)
    (hdiffs : ∀ chain ∈ w.db.coordinator.tables,
      Chain.diffs ((f chain).layers.take count) = Chain.diffs (chain.layers.take count))
    (table : Nat) : (w.withCoordinator c).mapBelow table count = w.mapBelow table count := by
  unfold mapBelow
  show c.tables[table]?.map _ = _
  rw [htables, List.getElem?_map, Option.map_map]
  apply Option.map_congr
  intro chain hchain
  show (w.disk.contents (f chain).root).overlay (Chain.diffs ((f chain).layers.take count)) = _
  rw [hroot, hdiffs chain (List.mem_of_getElem? hchain)]

/-- A flush keeps the layers and changes no map above those it was to
move, or takes these away and changes no map. -/
theorem mapBelow_flushEnd {n : Nat} {r : Except Fault Unit} (h : FlushEnd w n r w')
    (hstores : w.db.coordinator.DistinctStores) :
    (w.db.coordinator.SameStacks w'.db.coordinator ∧ (r = .ok () → n = 0) ∧
      ∀ table count, n ≤ count → w'.mapBelow table count = w.mapBelow table count) ∨
    ((w.db.coordinator.dropOldest n).SameStacks w'.db.coordinator ∧
      ∀ table count, w'.mapBelow table count = w.mapBelow table (n + count)) := by
  rcases h.effect hstores with ⟨hsame, hr, hroots⟩ | ⟨hsame, hroots⟩
  · refine .inl ⟨hsame, hr, fun table count hcount => ?_⟩
    unfold mapBelow
    rw [hsame.tables]
    apply Option.map_congr
    intro chain hchain
    rcases hroots chain (List.mem_of_getElem? hchain) with heq | heq
    · rw [heq]
    · -- This root holds the layers already, and they are laid over it again.
      rw [heq, Chain.diffs, Chain.diffs, List.map_take, List.map_take]
      exact Contents.overlay_take_overlay _ _ hcount
  · refine .inr ⟨hsame, fun table count => ?_⟩
    unfold mapBelow
    rw [hsame.tables]
    show (w.db.coordinator.tables.map _)[table]?.map _ = _
    rw [List.getElem?_map, Option.map_map]
    apply Option.map_congr
    intro chain hchain
    -- The layers taken away are in the root, and the others are laid over it.
    show (w'.disk.contents chain.root).overlay
      (Chain.diffs ((chain.layers.drop n).take count)) = _
    rw [hroots chain (List.mem_of_getElem? hchain), List.take_add, Chain.diffs, Chain.diffs,
      Chain.diffs, List.map_append, Contents.overlay_append]

/-- Committing the newest layers changes no map. -/
theorem mapBelow_commit (table count : Nat) :
    (w.withCoordinator w.db.coordinator.withoutUnit.sealHeads).mapBelow table count =
      w.mapBelow table count := by
  refine mapBelow_mapTables (f := (·.modifyHead (·.commit))) rfl
    (fun chain => (Coordinator.name_root_modifyHead _ chain).2) (fun chain _ => ?_) table
  rw [Chain.diffs, List.map_take, Chain.diffs, List.map_take]
  exact congrArg _ chain.diffs_modifyHead_commit

/-- A quiet step changes no table's map at the head. -/
theorem Quiet.headMap (h : Quiet w w')
    (hstores : w.db.coordinator.DistinctStores) (table : Nat) :
    w'.headMap table = w.headMap table := by
  -- The head lies above all layers that a flush moves.
  have hflush : ∀ {w' : World} {n : Nat} {r : Except Fault Unit}, FlushEnd w n r w' →
      n ≤ w.db.coordinator.levels.length → w'.headMap table = w.headMap table := by
    intro w' n r h hn
    rcases mapBelow_flushEnd h hstores with ⟨hsame, -, hmap⟩ | ⟨hsame, hmap⟩
    · unfold World.headMap
      rw [hsame.levels, hmap table _ hn]
    · have hlength : n + w'.db.coordinator.levels.length = w.db.coordinator.levels.length := by
        rw [hsame.levels]
        show n + (w.db.coordinator.levels.drop n).length = _
        rw [List.length_drop]
        omega
      unfold World.headMap
      rw [hmap, hlength]
  cases h with
  | say | bus => rfl
  | @settings c hsame _ =>
    have hmap : (w.withCoordinator c).mapBelow table c.levels.length =
        w.mapBelow table c.levels.length := by
      apply mapBelow_congr
      · exact hsame.tables
      · exact fun _ _ => rfl
    refine hmap.trans ?_
    rw [hsame.levels]
    rfl
  | @solidify count _ =>
    exact mapBelow_mapTables (f := (·.solidify count)) rfl (fun _ => rfl) (fun _ _ => rfl) table
  | commit => exact mapBelow_commit table _
  | flush _ hn _ h _ => exact hflush h hn
  | @crash w' n _ hn _ h =>
    have h' : w'.headMap table = w.headMap table := hflush h hn
    exact h'

/-- The maps depend on the disk and the coordinator alone. -/
theorem mapBelow_of_disk_eq (hdisk : w'.disk = w.disk) (table count : Nat) :
    w'.mapBelow table count = (w.withCoordinator w'.db.coordinator).mapBelow table count := by
  unfold mapBelow
  rw [hdisk]
  rfl

/-- Pushing a layer changes no map below it. -/
theorem mapBelow_push (hsound : w.db.coordinator.Sound) {c : Coordinator} {unit : Option Nat}
    (hc : (w.db.coordinator.push.openNewUnit unit).SameStacks c) {count : Nat}
    (hcount : count ≤ w.db.coordinator.levels.length) (table : Nat) :
    (w.withCoordinator c).mapBelow table count = w.mapBelow table count := by
  refine mapBelow_mapTables hc.tables (fun _ => rfl) (fun chain hmem => ?_) table
  have hlength := (hsound.chains chain hmem).length_layers
  rw [Chain.push, List.take_append_of_le_length (by omega)]

/-- Registering a table leaves the maps of the others alone, and the new
table reads as its root. -/
theorem mapBelow_register {c : Coordinator} {name root : String}
    (hc : { w.db.coordinator with tables := w.db.coordinator.tables ++
      [Chain.padded name root w.db.coordinator.levels w.db.coordinator.pending
        w.db.coordinator.openSeq?] }.SameStacks c) (table count : Nat) :
    (w.withCoordinator c).mapBelow table count =
      if table = w.db.coordinator.tables.length then some (w.disk.contents root)
      else w.mapBelow table count := by
  have htables : (w.withCoordinator c).db.coordinator.tables = w.db.coordinator.tables ++
      [Chain.padded name root w.db.coordinator.levels w.db.coordinator.pending
        w.db.coordinator.openSeq?] := hc.tables
  unfold mapBelow
  rw [htables]
  split
  · rename_i heq
    subst heq
    rw [List.getElem?_concat_length, Option.map_some]
    -- All layers of the new table are empty.
    refine congrArg some (Contents.overlay_eq_self fun diff hdiff => ?_)
    obtain ⟨layer, hlayer, rfl⟩ := List.mem_map.mp hdiff
    obtain ⟨seq, -, rfl⟩ := List.mem_map.mp (List.mem_of_mem_take hlayer)
    split <;> rfl
  · rename_i hne
    by_cases hlt : table < w.db.coordinator.tables.length
    · rw [List.getElem?_append_left hlt]
      rfl
    · rw [List.getElem?_eq_none (by simp; omega), List.getElem?_eq_none (by omega)]
      rfl

/-- Writing to the newest layer of a table changes no map below it. -/
theorem mapBelow_put (hsound : w.db.coordinator.Sound) (written : Nat) (key : Bytes) (entry : Entry)
    {count : Nat} (hcount : count < w.db.coordinator.levels.length) (table : Nat) :
    (w.withCoordinator (w.db.coordinator.modifyTable written
      (·.modifyHead (·.put key entry)))).mapBelow table count = w.mapBelow table count := by
  unfold mapBelow
  show (w.db.coordinator.tables.modify written _)[table]?.map _ = _
  rw [List.getElem?_modify, Option.map_eq_map, Option.map_map]
  apply Option.map_congr
  intro chain hchain
  have hlength := (hsound.chains chain (List.mem_of_getElem? hchain)).length_layers
  show (w.disk.contents _).overlay (Chain.diffs (List.take count _)) = _
  split
  · rw [(Coordinator.name_root_modifyHead _ chain).2,
      chain.take_layers_modifyHead _ (by omega)]
  · rfl

/-- Discarding the newest layer changes no map below it. -/
theorem mapBelow_discardHead (hsound : w.db.coordinator.Sound) {c : Coordinator}
    (hc : w.db.coordinator.withoutUnit.discardHead.SameStacks c) {count : Nat}
    (hcount : count < w.db.coordinator.levels.length) (table : Nat) :
    (w.withCoordinator c).mapBelow table count = w.mapBelow table count := by
  refine mapBelow_mapTables hc.tables (fun chain => (Coordinator.name_root_discardHead chain).2)
    (fun chain hmem => ?_) table
  have hlength := (hsound.chains chain hmem).length_layers
  rw [chain.take_layers_discardHead (by omega)]

theorem Quiets.headMap (h : Quiets w w')
    (hstores : w.db.coordinator.DistinctStores) (table : Nat) :
    w'.headMap table = w.headMap table := by
  induction h with
  | refl => rfl
  | tail hpath hstep ih =>
    exact (hstep.headMap ((Quiets.keeps hpath).distinctStores hstores) table).trans ih

end

end World

end LayeredStore

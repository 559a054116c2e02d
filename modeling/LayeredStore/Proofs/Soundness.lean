import LayeredStore.Proofs.Flush
import LayeredStore.Proofs.Pushing
import LayeredStore.Coordinator.Consistency

/-!
# `LayeredStore.Proofs.Soundness`: what the chains of all tables share

`Coordinator.Sound` is the invariant of a coordinator: the levels
increase, and every table is in step with them. `Chain.InStep` says this
of one table: it has one layer for every level, as many of them pending
as the coordinator says, all committed but that of the open unit of
work, and every seal is that of its layer.

Every change that an operation makes to the chains keeps the invariant.
There is one lemma per change, first for one table and then for the
coordinator: `push`, `discardHead`, `sealHeads`, `solidify`,
`dropOldest`, `put`, `register`.

`Sound.checkChains?_eq_none` says that the check of the chains finds
nothing wrong with a sound coordinator, and `Sound.notPoppable?_eq_none`
that its layers can be popped while no unit of work with a layer is open.
-/

set_option autoImplicit false

namespace LayeredStore

namespace Layer

@[simp] theorem seq_commit (layer : Layer) : layer.commit.seq = layer.seq := rfl

@[simp] theorem diff_commit (layer : Layer) : layer.commit.diff = layer.diff := rfl

@[simp] theorem committed_commit (layer : Layer) : layer.commit.committed = true := rfl

@[simp] theorem sealMatches_commit (layer : Layer) : layer.commit.sealMatches = true :=
  beq_self_eq_true layer.digest

@[simp] theorem seq_put (layer : Layer) (key : Bytes) (entry : Entry) :
    (layer.put key entry).seq = layer.seq := by
  unfold put reseal
  split <;> rfl

@[simp] theorem diff_put (layer : Layer) (key : Bytes) (entry : Entry) :
    (layer.put key entry).diff = layer.diff.insert key entry := by
  unfold put reseal
  split <;> rfl

@[simp] theorem committed_put (layer : Layer) (key : Bytes) (entry : Entry) :
    (layer.put key entry).committed = layer.committed := by
  unfold put reseal
  split
  · rename_i h
    exact h.symm
  · rfl

/-- A write leaves a layer with the seal of its new entries, or without
one. -/
@[simp] theorem sealMatches_put (layer : Layer) (key : Bytes) (entry : Entry) :
    (layer.put key entry).sealMatches = true := by
  unfold put reseal
  split
  · exact sealMatches_commit _
  · rename_i h
    unfold sealMatches
    rw [Option.not_isSome_iff_eq_none.mp h]

end Layer

namespace Chain

/-- The table has one layer for each of the levels, of which `pending`
are pending. All are committed but the one with the number `openSeq?`,
and every seal is that of its layer. -/
structure InStep (chain : Chain) (levels : List Nat) (pending : Nat) (openSeq? : Option Nat) :
    Prop where
  seqs : chain.layers.map (·.seq) = levels
  pending : chain.pending = pending
  committed : ∀ layer ∈ chain.layers, layer.committed = true ↔ openSeq? ≠ some layer.seq
  seals : ∀ layer ∈ chain.layers, layer.sealMatches = true

theorem modifyHead_of_concat {chain : Chain} {older : List Layer} {head : Layer}
    (h : chain.layers = older ++ [head]) (hdepth : 0 < chain.depth) (f : Layer → Layer) :
    chain.modifyHead f = { chain with layers := older ++ [f head] } := by
  have hlast : (older ++ [head]).length - 1 = older.length := by simp
  have hlt : older.length < (older ++ [head]).length := by simp
  rw [modifyHead, if_neg (Nat.ne_of_gt hdepth), modifyLayer, h, hlast,
    List.modify_eq_take_cons_drop hlt]
  simp

theorem discardHead_of_concat {chain : Chain} {older : List Layer} {head : Layer}
    (h : chain.layers = older ++ [head]) (hdepth : 0 < chain.depth) :
    chain.discardHead = { chain with layers := older } := by
  rw [discardHead, if_neg (Nat.ne_of_gt hdepth), h, List.dropLast_concat]

namespace InStep

variable {chain : Chain} {levels : List Nat} {pending : Nat} {openSeq? : Option Nat}

theorem length_layers (h : chain.InStep levels pending openSeq?) :
    chain.layers.length = levels.length := by
  rw [← h.seqs, List.length_map]

theorem depth_eq (h : chain.InStep levels pending openSeq?) :
    chain.depth = levels.length - pending := by
  rw [depth, h.length_layers, h.pending]

/-- Where a level is live, the table has a newest layer, which is that
of the newest level. -/
theorem exists_head (h : chain.InStep levels pending openSeq?) (hlive : pending < levels.length) :
    ∃ older head, chain.layers = older ++ [head] ∧ levels = older.map (·.seq) ++ [head.seq] := by
  have hne : chain.layers ≠ [] := by
    intro hnil
    have := h.length_layers
    rw [hnil] at this
    simp only [List.length_nil] at this
    omega
  refine ⟨chain.layers.dropLast, chain.layers.getLast hne,
    (List.dropLast_concat_getLast hne).symm, ?_⟩
  rw [← h.seqs]
  conv_lhs => rw [← List.dropLast_concat_getLast hne]
  simp

theorem depth_pos (h : chain.InStep levels pending openSeq?) (hlive : pending < levels.length) :
    0 < chain.depth := by
  rw [h.depth_eq]
  omega

/-- A new table starts in step. -/
theorem padded (name root : String) (levels : List Nat) (pending : Nat) (openSeq? : Option Nat) :
    (Chain.padded name root levels pending openSeq?).InStep levels pending openSeq? where
  seqs := by
    rw [Chain.padded, List.map_map]
    conv_rhs => rw [← List.map_id levels]
    apply List.map_congr_left
    intro seq _
    simp only [Function.comp_apply]
    split <;> rfl
  pending := rfl
  committed layer hmem := by
    obtain ⟨seq, -, rfl⟩ := List.mem_map.mp hmem
    split
    · rename_i hopen
      simp [hopen, Layer.new, Layer.committed]
    · rename_i hopen
      simpa [Layer.new] using hopen
  seals layer hmem := by
    obtain ⟨seq, -, rfl⟩ := List.mem_map.mp hmem
    split
    · rfl
    · exact Layer.sealMatches_commit _

theorem push (h : chain.InStep levels pending none) {seq : Nat} (hseq : ∀ s ∈ levels, s < seq) :
    (chain.push seq).InStep (levels ++ [seq]) pending (some seq) where
  seqs := by rw [Chain.push, List.map_append, h.seqs]; rfl
  pending := h.pending
  committed layer hmem := by
    rcases List.mem_append.mp hmem with hold | hnew
    · -- The older layers are not the one that is open from now on, for their
      -- numbers are less.
      have hlevel : layer.seq ∈ levels := h.seqs ▸ List.mem_map_of_mem hold
      have hlt := hseq _ hlevel
      have hcommitted := (h.committed layer hold).mpr (by simp)
      refine iff_of_true hcommitted fun heq => ?_
      cases heq
      omega
    · rw [List.mem_singleton.mp hnew]
      exact iff_of_false (by simp [Layer.new, Layer.committed]) (fun hne => hne rfl)
  seals layer hmem := by
    rcases List.mem_append.mp hmem with hold | hnew
    · exact h.seals layer hold
    · rw [List.mem_singleton.mp hnew]
      rfl

/-- The layers below the newest are committed, for only the newest can
be that of the open unit of work. -/
theorem committed_older (h : chain.InStep levels pending openSeq?)
    (hinc : levels.Pairwise (· < ·)) (hopen : ∀ s, openSeq? = some s → levels.getLast? = some s)
    {older : List Layer} {head : Layer} (hlayers : chain.layers = older ++ [head]) {layer : Layer}
    (hmem : layer ∈ older) : layer.committed = true := by
  have hlevels : older.map (·.seq) ++ [head.seq] = levels := by
    rw [← h.seqs, hlayers, List.map_append]
    rfl
  rw [h.committed layer (hlayers ▸ List.mem_append_left _ hmem)]
  intro heq
  have hlast := hopen _ heq
  rw [← hlevels, List.getLast?_concat] at hlast
  have hlt := (List.pairwise_append.mp (hlevels.symm ▸ hinc)).2.2 layer.seq
    (List.mem_map_of_mem hmem) head.seq List.mem_cons_self
  have heq' := Option.some.inj hlast
  omega

theorem discardHead (h : chain.InStep levels pending openSeq?) (hinc : levels.Pairwise (· < ·))
    (hopen : ∀ s, openSeq? = some s → levels.getLast? = some s) (hlive : pending < levels.length) :
    chain.discardHead.InStep levels.dropLast pending none := by
  obtain ⟨older, head, hlayers, hlevels⟩ := h.exists_head hlive
  rw [discardHead_of_concat hlayers (h.depth_pos hlive), hlevels, List.dropLast_concat]
  exact
    { seqs := rfl
      pending := h.pending
      committed := fun layer hmem =>
        iff_of_true (h.committed_older hinc hopen hlayers hmem) (fun heq => by cases heq)
      seals := fun layer hmem => h.seals layer (hlayers ▸ List.mem_append_left _ hmem) }

theorem sealHead (h : chain.InStep levels pending openSeq?) (hinc : levels.Pairwise (· < ·))
    (hopen : ∀ s, openSeq? = some s → levels.getLast? = some s) (hlive : pending < levels.length) :
    (chain.modifyHead (·.commit)).InStep levels pending none := by
  obtain ⟨older, head, hlayers, hlevels⟩ := h.exists_head hlive
  rw [modifyHead_of_concat hlayers (h.depth_pos hlive)]
  refine ⟨by simp [hlevels], h.pending, fun layer hmem => ?_, fun layer hmem => ?_⟩
  · refine iff_of_true ?_ (fun heq => by cases heq)
    rcases List.mem_append.mp hmem with hold | hnew
    · exact h.committed_older hinc hopen hlayers hold
    · rw [List.mem_singleton.mp hnew, Layer.committed_commit]
  · rcases List.mem_append.mp hmem with hold | hnew
    · exact h.seals layer (hlayers ▸ List.mem_append_left _ hold)
    · rw [List.mem_singleton.mp hnew, Layer.sealMatches_commit]

theorem put (h : chain.InStep levels pending openSeq?) (key : Bytes) (entry : Entry) :
    (chain.modifyHead (·.put key entry)).InStep levels pending openSeq? := by
  by_cases hlive : pending < levels.length
  · obtain ⟨older, head, hlayers, hlevels⟩ := h.exists_head hlive
    rw [modifyHead_of_concat hlayers (h.depth_pos hlive)]
    refine ⟨by simp [hlevels], h.pending, fun layer hmem => ?_, fun layer hmem => ?_⟩
    · rcases List.mem_append.mp hmem with hold | hnew
      · exact h.committed layer (hlayers ▸ List.mem_append_left _ hold)
      · rw [List.mem_singleton.mp hnew, Layer.committed_put, Layer.seq_put]
        exact h.committed head (hlayers ▸ List.mem_append_right _ List.mem_cons_self)
    · rcases List.mem_append.mp hmem with hold | hnew
      · exact h.seals layer (hlayers ▸ List.mem_append_left _ hold)
      · rw [List.mem_singleton.mp hnew, Layer.sealMatches_put]
  · have hdepth : chain.depth = 0 := by
      rw [h.depth_eq]
      omega
    rw [modifyHead, if_pos hdepth]
    exact h

theorem solidify (h : chain.InStep levels pending openSeq?) (count : Nat) :
    (chain.solidify count).InStep levels (min (pending + count) levels.length) openSeq? where
  seqs := h.seqs
  pending := by rw [Chain.solidify, h.length_layers, h.pending]
  committed := h.committed
  seals := h.seals

theorem dropOldest (h : chain.InStep levels pending openSeq?) {count : Nat}
    (hcount : count ≤ levels.length) :
    (chain.dropOldest count).InStep (levels.drop count) (pending - count) openSeq? where
  seqs := by rw [Chain.dropOldest, List.map_drop, h.seqs]
  pending := by rw [Chain.dropOldest, h.length_layers, Nat.min_eq_left hcount, h.pending]
  committed layer hmem := h.committed layer (List.mem_of_mem_drop hmem)
  seals layer hmem := h.seals layer (List.mem_of_mem_drop hmem)

end InStep

end Chain

/-- The last of increasing levels lies above the others. -/
theorem lt_newest_of_pairwise {levels : List Nat} (h : levels.Pairwise (· < ·)) {newest : Nat}
    (hnewest : levels.getLast? = some newest) {seq : Nat} (hseq : seq ∈ levels.dropLast) :
    seq < newest := by
  rw [← List.dropLast_append_getLast? newest hnewest] at h
  exact (List.pairwise_append.mp h).2.2 seq hseq newest List.mem_cons_self

namespace Coordinator

/-- The invariant of a coordinator: the levels increase and lie below the
next number, the tables' names are distinct, every table is in step, and
the layer of an open unit of work is that of the newest level, which is
live. -/
structure Sound (c : Coordinator) : Prop where
  pending_le : c.pending ≤ c.levels.length
  increasing : c.levels.Pairwise (· < ·)
  lt_nextSeq : ∀ seq ∈ c.levels, seq < c.nextSeq
  names : c.tableNames.Nodup
  chains : ∀ chain ∈ c.tables, chain.InStep c.levels c.pending c.openSeq?
  openLast : ∀ seq, c.openSeq? = some seq → c.levels.getLast? = some seq
  openLive : c.openSeq?.isSome → c.pending < c.levels.length

theorem sound_new (configuration : Configuration) (journal : String) (publishing : Bool) :
    (new configuration journal publishing).Sound where
  pending_le := Nat.le_refl 0
  increasing := .nil
  lt_nextSeq := by simp [new]
  names := .nil
  chains := by simp [new]
  openLast := by simp [new, openSeq?]
  openLive := by simp [new, openSeq?]

/-- The layer that is open is that of the open unit of work. -/
theorem openSeq?_of_some {c : Coordinator} {unit : UnitOfWork} (h : c.openUnit = some unit) :
    c.openSeq? = unit.seq := by
  rw [openSeq?, h, Option.bind_some]

theorem openSeq?_of_none {c : Coordinator} (h : c.openUnit = none) : c.openSeq? = none := by
  rw [openSeq?, h, Option.bind_none]

/-- The coordinator after its unit of work was closed. -/
def withoutUnit (c : Coordinator) : Coordinator := { c with openUnit := none }

/-- The tables' names and roots, in the order of registration. -/
def registered (c : Coordinator) : List (String × String) :=
  c.tables.map fun chain => (chain.name, chain.root)

@[simp] theorem length_registered (c : Coordinator) : c.registered.length = c.tables.length :=
  List.length_map _

/-- A table is registered at its own place, with its name and root. -/
theorem registered_of_table {c : Coordinator} {table : Nat} {chain : Chain}
    (h : c.tables[table]? = some chain) : c.registered[table]? = some (chain.name, chain.root) := by
  rw [registered, List.getElem?_map, h, Option.map_some]

theorem exists_table_of_registered {c : Coordinator} {table : Nat} {name root : String}
    (h : c.registered[table]? = some (name, root)) :
    ∃ chain, c.tables[table]? = some chain ∧ chain.name = name ∧ chain.root = root := by
  rw [registered, List.getElem?_map] at h
  obtain ⟨chain, hchain, heq⟩ := Option.map_eq_some_iff.mp h
  exact ⟨chain, hchain, congrArg Prod.fst heq, congrArg Prod.snd heq⟩

/-- As many tables are registered as have names and roots. -/
theorem length_tables_of_registered {c c' : Coordinator} (h : c'.registered = c.registered) :
    c'.tables.length = c.tables.length := by
  rw [← length_registered, h, length_registered]

theorem tableNames_eq (c : Coordinator) : c.tableNames = c.registered.map (·.1) := by
  simp [tableNames, registered]

/-- A name is found exactly if a table has it. -/
theorem tableIndex?_isSome (c : Coordinator) (name : String) :
    (c.tableIndex? name).isSome = c.tableNames.contains name := by
  rw [tableIndex?, List.findIdx?_isSome, tableNames, Bool.eq_iff_iff, List.contains_iff_mem,
    List.any_eq_true, List.mem_map]
  simp only [decide_eq_true_eq]

theorem distinctStores_iff (c : Coordinator) :
    c.DistinctStores ↔ (c.journal :: c.registered.map (·.2)).Nodup := by
  rw [DistinctStores, registered, List.map_map]
  exact Iff.rfl

/-- The stores of a coordinator were distinct before tables were added to
it. -/
theorem DistinctStores.of_registered {c c' : Coordinator} (h : c'.DistinctStores)
    (hregistered : c.registered <+: c'.registered) (hjournal : c.journal = c'.journal) :
    c.DistinctStores := by
  rw [distinctStores_iff] at h ⊢
  rw [hjournal]
  exact ((hregistered.sublist.map _).cons_cons _).nodup h

theorem SameStacks.registered {c c' : Coordinator} (h : c.SameStacks c') :
    c'.registered = c.registered := by
  rw [Coordinator.registered, h.tables]
  rfl

/-- Changing the layers of every table leaves the tables' names and roots
alone. -/
theorem registered_mapTables (c : Coordinator) {f : Chain → Chain}
    (hf : ∀ chain, (f chain).name = chain.name ∧ (f chain).root = chain.root) :
    (c.mapTables f).registered = c.registered := by
  simp [registered, mapTables, hf]

/-- A push that fails leaves the tables registered as they are. -/
theorem registered_putBack (c : Coordinator) : c.putBack.registered = c.registered := by
  have heach : (fun chain : Chain => (chain.name, chain.root)) ∘
      (fun chain => (chain.push c.nextSeq).discardHead) =
      fun chain : Chain => (chain.name, chain.root) := by
    funext chain
    simp
  unfold registered putBack
  rw [List.map_append, List.map_map, heach, ← List.map_append, List.takeWhile_append_dropWhile]

theorem registered_modifyTable (c : Coordinator) (table : Nat) {f : Chain → Chain}
    (hf : ∀ chain, (f chain).name = chain.name ∧ (f chain).root = chain.root) :
    (c.modifyTable table f).registered = c.registered := by
  apply List.ext_getElem?
  intro i
  simp only [registered, modifyTable, List.getElem?_map, List.getElem?_modify]
  cases c.tables[i]? with
  | none => rfl
  | some chain =>
    refine congrArg some ?_
    split
    · exact Prod.ext (hf chain).1 (hf chain).2
    · rfl

theorem name_root_modifyHead (f : Layer → Layer) (chain : Chain) :
    (chain.modifyHead f).name = chain.name ∧ (chain.modifyHead f).root = chain.root := by
  unfold Chain.modifyHead
  split <;> exact ⟨rfl, rfl⟩

theorem name_root_discardHead (chain : Chain) :
    chain.discardHead.name = chain.name ∧ chain.discardHead.root = chain.root := by
  unfold Chain.discardHead
  split <;> exact ⟨rfl, rfl⟩

namespace Sound

variable {c : Coordinator}

/-- The invariant is about the stacks alone. -/
theorem congr {c' : Coordinator} (h : c.Sound) (hsame : c.SameStacks c') : c'.Sound where
  pending_le := by rw [hsame.pending, hsame.levels]; exact h.pending_le
  increasing := by rw [hsame.levels]; exact h.increasing
  lt_nextSeq := by rw [hsame.levels, hsame.nextSeq]; exact h.lt_nextSeq
  names := by rw [tableNames, hsame.tables]; exact h.names
  chains := by rw [hsame.tables, hsame.levels, hsame.pending, hsame.openSeq?]; exact h.chains
  openLast := by rw [hsame.openSeq?, hsame.levels]; exact h.openLast
  openLive := by rw [hsame.openSeq?, hsame.pending, hsame.levels]; exact h.openLive

theorem depth_eq (h : c.Sound) {chain : Chain} (hmem : chain ∈ c.tables) : chain.depth = c.depth :=
  (h.chains chain hmem).depth_eq

theorem names_of_registered (h : c.Sound) {c' : Coordinator}
    (hsame : c'.registered = c.registered) : c'.tableNames.Nodup := by
  rw [tableNames_eq, hsame, ← tableNames_eq]
  exact h.names

/-- The newest level lies above the others. -/
theorem lt_of_mem_dropLast (h : c.Sound) {newest : Nat} (hnewest : c.levels.getLast? = some newest)
    {seq : Nat} (hseq : seq ∈ c.levels.dropLast) : seq < newest :=
  lt_newest_of_pairwise h.increasing hnewest hseq

/-- No table is out of step. -/
theorem outOfStep?_eq_none (h : c.Sound) : c.outOfStep? = none := by
  rw [outOfStep?, List.find?_eq_none]
  intro chain hmem
  simp [(h.chains chain hmem).length_layers]

/-- A new unit of work opens with a new layer on every table. -/
theorem push (h : c.Sound) (hopen : c.openSeq? = none) :
    (c.push.openNewUnit (some c.nextSeq)).Sound where
  pending_le := by
    show c.pending ≤ (c.levels ++ [c.nextSeq]).length
    have := h.pending_le
    simp only [List.length_append, List.length_singleton]
    omega
  increasing := by
    refine List.pairwise_append.mpr ⟨h.increasing, List.pairwise_singleton _ _, ?_⟩
    intro seq hmem other hother
    rw [List.mem_singleton.mp hother]
    exact h.lt_nextSeq seq hmem
  lt_nextSeq seq hmem := by
    show seq < c.nextSeq + 1
    rcases List.mem_append.mp hmem with hold | hnew
    · have := h.lt_nextSeq seq hold
      omega
    · have := List.mem_singleton.mp hnew
      omega
  names := h.names_of_registered (registered_mapTables c fun _ => ⟨rfl, rfl⟩)
  chains chain hmem := by
    obtain ⟨old, hold, rfl⟩ := List.mem_map.mp hmem
    have hstep := h.chains old hold
    rw [hopen] at hstep
    exact hstep.push h.lt_nextSeq
  -- The layer of the new unit is the newest, and it is live.
  openLast seq hseq := by
    cases hseq
    exact List.getLast?_concat
  openLive _ := by
    show c.pending < (c.levels ++ [c.nextSeq]).length
    have := h.pending_le
    simp only [List.length_append, List.length_singleton]
    omega

/-- The newest live layer of every table is discarded, and with it the
open unit of work. -/
theorem discardHead (h : c.Sound) (hlive : c.pending < c.levels.length) :
    c.withoutUnit.discardHead.Sound where
  pending_le := by
    show c.pending ≤ c.levels.dropLast.length
    rw [List.length_dropLast]
    omega
  increasing := h.increasing.sublist (List.dropLast_sublist _)
  lt_nextSeq seq hmem := h.lt_nextSeq seq (List.dropLast_subset _ hmem)
  names := h.names_of_registered (registered_mapTables c name_root_discardHead)
  chains chain hmem := by
    obtain ⟨old, hold, rfl⟩ := List.mem_map.mp hmem
    exact (h.chains old hold).discardHead h.increasing h.openLast hlive
  openLast _ hseq := by cases hseq
  openLive hopen := by cases hopen

/-- The open unit of work is committed. -/
theorem sealHeads (h : c.Sound) (hopen : c.openSeq?.isSome) :
    c.withoutUnit.sealHeads.Sound where
  pending_le := h.pending_le
  increasing := h.increasing
  lt_nextSeq := h.lt_nextSeq
  names := h.names_of_registered (registered_mapTables c (name_root_modifyHead _))
  chains chain hmem := by
    obtain ⟨old, hold, rfl⟩ := List.mem_map.mp hmem
    exact (h.chains old hold).sealHead h.increasing h.openLast (h.openLive hopen)
  openLast _ hseq := by cases hseq
  openLive hopen := by cases hopen

/-- Live layers below that of the open unit of work become pending. -/
theorem solidify (h : c.Sound) {count : Nat} (hopen : c.openSeq?.isSome → count < c.depth) :
    (c.solidify count).Sound where
  pending_le := Nat.min_le_right _ _
  increasing := h.increasing
  lt_nextSeq := h.lt_nextSeq
  names := h.names_of_registered (registered_mapTables c fun _ => ⟨rfl, rfl⟩)
  chains chain hmem := by
    obtain ⟨old, hold, rfl⟩ := List.mem_map.mp hmem
    exact (h.chains old hold).solidify count
  openLast := h.openLast
  openLive hsome := by
    show min (c.pending + count) c.levels.length < c.levels.length
    have := hopen hsome
    unfold depth at this
    omega

/-- Layers below that of the open unit of work are taken away. -/
theorem dropOldest (h : c.Sound) {count : Nat} (hcount : count ≤ c.levels.length)
    (hopen : c.openSeq?.isSome → count < c.levels.length) : (c.dropOldest count).Sound where
  pending_le := by
    show c.pending - count ≤ (c.levels.drop count).length
    have := h.pending_le
    rw [List.length_drop]
    omega
  increasing := h.increasing.sublist (List.drop_sublist _ _)
  lt_nextSeq seq hmem := h.lt_nextSeq seq (List.mem_of_mem_drop hmem)
  names := h.names_of_registered (registered_mapTables c fun _ => ⟨rfl, rfl⟩)
  chains chain hmem := by
    obtain ⟨old, hold, rfl⟩ := List.mem_map.mp hmem
    exact (h.chains old hold).dropOldest hcount
  openLast seq hseq := by
    -- Some levels are left if a layer is open, and the newest is one of them.
    have hlast := h.openLast seq hseq
    have hlt := hopen (Option.isSome_iff_exists.mpr ⟨seq, hseq⟩)
    show (c.levels.drop count).getLast? = some seq
    rw [List.getLast?_drop, if_neg (by omega), hlast]
  openLive hsome := by
    show c.pending - count < (c.levels.drop count).length
    have := h.openLive hsome
    have := hopen hsome
    rw [List.length_drop]
    omega

/-- An entry is written to the newest live layer of a table. -/
theorem put (h : c.Sound) (table : Nat) (key : Bytes) (entry : Entry) :
    (c.modifyTable table (·.modifyHead (·.put key entry))).Sound where
  pending_le := h.pending_le
  increasing := h.increasing
  lt_nextSeq := h.lt_nextSeq
  names := h.names_of_registered (registered_modifyTable c table (name_root_modifyHead _))
  chains chain hmem := by
    obtain ⟨i, hi⟩ := List.mem_iff_getElem?.mp hmem
    simp only [modifyTable, List.getElem?_modify] at hi
    obtain ⟨old, hold, rfl⟩ := Option.map_eq_some_iff.mp hi
    have hstep := h.chains old (List.mem_of_getElem? hold)
    split
    · exact hstep.put key entry
    · exact hstep
  openLast := h.openLast
  openLive := h.openLive

/-- A table of a new name starts with an empty layer for every level. -/
theorem register (h : c.Sound) {name : String} (hname : name ∉ c.tableNames) (root : String) :
    { c with tables := c.tables ++
      [Chain.padded name root c.levels c.pending c.openSeq?] }.Sound where
  pending_le := h.pending_le
  increasing := h.increasing
  lt_nextSeq := h.lt_nextSeq
  names := by
    show ((c.tables ++ [Chain.padded name root _ _ _]).map (·.name)).Nodup
    rw [List.map_append]
    refine List.nodup_append.mpr ⟨h.names, List.pairwise_singleton _ _, ?_⟩
    intro other hother new hnew heq
    have hother' : other = name := heq.trans (List.mem_singleton.mp hnew)
    exact hname (hother' ▸ hother)
  chains chain hmem := by
    rcases List.mem_append.mp hmem with hold | hnew
    · exact h.chains chain hold
    · rw [List.mem_singleton.mp hnew]
      exact Chain.InStep.padded name root _ _ _
  openLast := h.openLast
  openLive := h.openLive

end Sound

end Coordinator

/-! ### The check of the chains -/

theorem increasing_of_pairwise {levels : List Nat} (h : levels.Pairwise (· < ·)) :
    increasing levels = true := by
  induction levels with
  | nil => rfl
  | cons a rest ih =>
    cases rest with
    | nil => rfl
    | cons b rest =>
      have hlt := (List.pairwise_cons.mp h).1 b List.mem_cons_self
      rw [increasing, ih (List.pairwise_cons.mp h).2, decide_eq_true hlt]
      rfl

/-- Nothing is wrong with layers that have the levels' numbers, are
committed below the newest, and have their own seals. -/
theorem Chain.checkLayers?_eq_none (table : String) {layers : List Layer} (level : Nat)
    (hcommitted : ∀ layer ∈ layers.dropLast, layer.committed = true)
    (hseals : ∀ layer ∈ layers, layer.sealMatches = true) :
    checkLayers? table level layers (layers.map (·.seq)) = none := by
  induction layers generalizing level with
  | nil => rfl
  | cons layer rest ih =>
    rw [List.map_cons, checkLayers?, if_neg (by simp), hseals layer List.mem_cons_self]
    -- A layer that others follow is not the newest, so it is committed.
    have hhead : (!rest.isEmpty && !layer.committed) = false := by
      cases rest with
      | nil => rfl
      | cons other rest => simp [hcommitted layer List.mem_cons_self]
    rw [hhead]
    refine ih (level + 1) (fun other hmem => hcommitted other ?_)
      (fun other hmem => hseals other (List.mem_cons_of_mem _ hmem))
    cases rest with
    | nil => cases hmem
    | cons next rest => exact List.mem_cons_of_mem _ hmem

/-- The check of the chains finds nothing wrong. -/
theorem Coordinator.Sound.checkChains?_eq_none {c : Coordinator} (h : c.Sound) :
    checkChains? c.tables c.levels c.pending = none := by
  rw [checkChains?, increasing_of_pairwise h.increasing]
  refine List.findSome?_eq_none_iff.mpr fun chain hmem => ?_
  have hstep := h.chains chain hmem
  rw [Chain.check?, if_neg (by simp [hstep.length_layers, hstep.pending]), ← hstep.seqs]
  apply Chain.checkLayers?_eq_none _ _ _ hstep.seals
  intro layer hlayer
  by_cases hne : chain.layers = []
  · rw [hne] at hlayer
    cases hlayer
  · exact hstep.committed_older h.increasing h.openLast
      (List.dropLast_concat_getLast hne).symm hlayer

/-- Committed layers that have the levels' numbers and their own seals can
be popped. -/
theorem Coordinator.checkPop?_eq_none (operation : String) (verify : Bool) (table : String)
    {layers : List Layer} (level : Nat) (hcommitted : ∀ layer ∈ layers, layer.committed = true)
    (hseals : ∀ layer ∈ layers, layer.sealMatches = true) :
    checkPop? operation verify table level layers (layers.map (·.seq)) = none := by
  induction layers generalizing level with
  | nil => rfl
  | cons layer rest ih =>
    rw [List.map_cons, checkPop?, if_neg (by simp),
      if_neg (by simp [hcommitted layer List.mem_cons_self]),
      if_neg (by simp [hseals layer List.mem_cons_self])]
    exact ih (level + 1) (fun other hmem => hcommitted other (List.mem_cons_of_mem _ hmem))
      (fun other hmem => hseals other (List.mem_cons_of_mem _ hmem))

/-- While no unit of work with a layer is open, all layers can be
popped. -/
theorem Coordinator.Sound.notPoppable?_eq_none {c : Coordinator} (h : c.Sound)
    (hclosed : c.openSeq? = none) (operation : String) (count : Nat) (verify : Bool) :
    c.notPoppable? operation count verify = none := by
  refine List.findSome?_eq_none_iff.mpr fun chain hmem => ?_
  have hstep := h.chains chain hmem
  rw [if_neg (by simp [hstep.length_layers]), ← hstep.seqs, ← List.map_drop]
  refine checkPop?_eq_none _ _ _ _ (fun layer hlayer => ?_) fun layer hlayer => ?_
  · rw [hstep.committed layer (List.mem_of_mem_drop hlayer), hclosed]
    exact nofun
  · exact hstep.seals layer (List.mem_of_mem_drop hlayer)

end LayeredStore

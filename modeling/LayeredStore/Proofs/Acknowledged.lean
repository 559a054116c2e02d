import LayeredStore.Proofs.Leftovers
import LayeredStore.Proofs.Readers

/-!
# `LayeredStore.Proofs.Acknowledged`: writes that outlive a check

A write that was answered with success stands in the newest layer of its
table, or in the root if no layer was live. From then on the table
answers the key with it, until the key is written again or the layer is
discarded, and whatever happens to the layer in between.

A check carries out the record that it finds, over the roots. This can
hide no entry of a layer. A root is another matter: an entry written to
it directly is older than a record only if the record was there before
the write, and then an earlier check, which was to remove the record, has
left it behind and has not halted the database.

* `Chain.latest?`: the newest layer that knows a key, and what it says.
* `World.Upholds`: the table answers the key with the entry, and no check
  takes this back.
* `Upholds.flush`, `Upholds.step`, `Upholds.checked`, `Upholds.act`: what
  is upheld is upheld after every step and every move.
* `check_upholds_write`: the write is read after a second check.
-/

set_option autoImplicit false

namespace LayeredStore

namespace Layer

@[simp] theorem get?_put (layer : Layer) (key : Bytes) (entry : Entry) (other : Bytes) :
    (layer.put key entry).get? other = if key = other then some entry else layer.get? other := by
  rw [get?, diff_put, OrderedMap.get?_insert]
  rfl

end Layer

namespace Chain

/-- The newest of these layers that knows the key: its number, and what
it says. -/
def latest? (layers : List Layer) (key : Bytes) : Option (Nat × Entry) :=
  layers.reverse.findSome? fun layer => (layer.get? key).map (layer.seq, ·)

section
variable (key : Bytes)

theorem latest?_append (older newer : List Layer) :
    latest? (older ++ newer) key = (latest? newer key).or (latest? older key) := by
  rw [latest?, List.reverse_append, List.findSome?_append]
  rfl

/-- The oldest layers have a say only where the others have none. -/
theorem latest?_split (n : Nat) (layers : List Layer) :
    latest? layers key = (latest? (layers.drop n) key).or (latest? (layers.take n) key) := by
  rw [← latest?_append, List.take_append_drop]

theorem latest?_concat (older : List Layer) (head : Layer) :
    latest? (older ++ [head]) key = ((head.get? key).map (head.seq, ·)).or (latest? older key) := by
  rw [latest?_append]
  cases h : head.get? key <;> simp [latest?, h]

theorem topmost?_eq_latest? (layers : List Layer) :
    topmost? layers key = (latest? layers key).map (·.2) := by
  unfold topmost? latest?
  induction layers.reverse with
  | nil => rfl
  | cons layer rest ih =>
    rw [List.findSome?_cons, List.findSome?_cons]
    cases layer.get? key with
    | none => exact ih
    | some entry => rfl

/-- Layers that are laid over a root say the same of the key as the
layers themselves. -/
theorem get?_overlay_latest? (root : Contents) (layers : List Layer) :
    (root.overlay (diffs layers)).get? key = match latest? layers key with
      | some (_, entry) => entry.value?
      | none => root.get? key := by
  rw [← lookup_eq_get?_overlay, lookup, topmost?_eq_latest?]
  cases latest? layers key <;> rfl

/-- A change of the newest layer that leaves its number and the key
alone. -/
theorem latest?_modifyHead (f : Layer → Layer) (hseq : ∀ layer, (f layer).seq = layer.seq)
    (hget : ∀ layer, (f layer).get? key = layer.get? key) (chain : Chain) :
    latest? (chain.modifyHead f).layers key = latest? chain.layers key := by
  by_cases hdepth : chain.depth = 0
  · rw [modifyHead, if_pos hdepth]
  · have hne : chain.layers ≠ [] := fun hnil =>
      hdepth (by rw [depth, hnil, List.length_nil, Nat.zero_sub])
    have hlayers := (List.dropLast_concat_getLast hne).symm
    rw [modifyHead_of_concat hlayers (Nat.pos_of_ne_zero hdepth)]
    conv_rhs => rw [hlayers]
    rw [latest?_concat, latest?_concat, hget, hseq]

end

end Chain

namespace World

/-- The table answers the key with the entry, and no check takes this
back: the entry stands in the layer `home` and in no newer one, or it
stands in the root and a database that runs finds no record that writes
over it. -/
inductive Upholds (w : World) (table : Nat) (key : Bytes) (entry : Entry) (home : Option Nat) :
    Prop
  | layer {chain : Chain} {seq : Nat} (hchain : w.db.coordinator.tables[table]? = some chain)
      (hlatest : Chain.latest? chain.layers key = some (seq, entry)) (hhome : home = some seq)
  | root {chain : Chain} (hchain : w.db.coordinator.tables[table]? = some chain)
      (hlatest : Chain.latest? chain.layers key = none)
      (hroot : (w.disk.contents chain.root).get? key = entry.value?)
      (hclear : w.Running → ¬w.Recorded chain.name key)

section
variable {w w' w₁ : World} {table : Nat} {key : Bytes} {entry : Entry} {home : Option Nat} {n : Nat}
  {r : Except Fault Unit}

/-- What is upheld is what the table answers at the head. -/
theorem Upholds.lookup? (h : w.Upholds table key entry home) :
    w.lookup? (.head 0) table key = entry.value? := by
  have hanswer : ∀ chain, w.db.coordinator.tables[table]? = some chain →
      w.lookup? (.head 0) table key =
        ((w.disk.contents chain.root).overlay (Chain.diffs chain.layers)).get? key := by
    intro chain hchain
    rw [← Chain.lookup_eq_get?_overlay]
    unfold World.lookup? Coordinator.get?
    simp [hchain, Chain.get?, Chain.visible]
  cases h with
  | layer hchain hlatest hhome => rw [hanswer _ hchain, Chain.get?_overlay_latest?, hlatest]
  | root hchain hlatest hroot _ => rw [hanswer _ hchain, Chain.get?_overlay_latest?, hlatest, hroot]

theorem Upholds.home_eq (h : w.Upholds table key entry home) {chain : Chain}
    (hchain : w.db.coordinator.tables[table]? = some chain) {seq : Nat} {said : Entry}
    (hlatest : Chain.latest? chain.layers key = some (seq, said)) : home = some seq := by
  cases h with
  | layer hchain' hlatest' hhome =>
    cases hchain.symm.trans hchain'
    cases hlatest.symm.trans hlatest'
    exact hhome
  | root hchain' hlatest' _ _ =>
    cases hchain.symm.trans hchain'
    cases hlatest.symm.trans hlatest'

/-- Of a table whose layers and whose root say of the key what they
said, the entry is still upheld. -/
theorem Upholds.congr (h : w.Upholds table key entry home) (hrecord : w.KeepsRecord w')
    (hchain : ∀ chain, w.db.coordinator.tables[table]? = some chain →
      ∃ chain', w'.db.coordinator.tables[table]? = some chain' ∧ chain'.name = chain.name ∧
        Chain.latest? chain'.layers key = Chain.latest? chain.layers key ∧
        (w'.disk.contents chain'.root).get? key = (w.disk.contents chain.root).get? key) :
    w'.Upholds table key entry home := by
  cases h with
  | layer hold hlatest hhome =>
    obtain ⟨chain', hnew, -, hsame, -⟩ := hchain _ hold
    exact .layer hnew (hsame.trans hlatest) hhome
  | root hold hlatest hroot hclear =>
    obtain ⟨chain', hnew, hname, hsame, hcontents⟩ := hchain _ hold
    exact .root hnew (hsame.trans hlatest) (hcontents.trans hroot)
      (hname ▸ hrecord.not_recorded hclear)

theorem Upholds.of_same (h : w.Upholds table key entry home) (hrecord : w.KeepsRecord w')
    (htables : w'.db.coordinator.tables = w.db.coordinator.tables)
    (hdisk : ∀ store, w'.disk.contents store = w.disk.contents store) :
    w'.Upholds table key entry home := by
  refine h.congr hrecord fun chain hchain => ⟨chain, htables ▸ hchain, rfl, rfl, ?_⟩
  rw [hdisk]

/-- So it is if every table was changed in a way that leaves the key
alone. -/
theorem Upholds.mapTables (h : w.Upholds table key entry home) (hrecord : w.KeepsRecord w')
    {f : Chain → Chain} (htables : w'.db.coordinator.tables = w.db.coordinator.tables.map f)
    (hdisk : w'.disk = w.disk) (hf : ∀ chain ∈ w.db.coordinator.tables,
      ((f chain).name = chain.name ∧ (f chain).root = chain.root) ∧
        Chain.latest? (f chain).layers key = Chain.latest? chain.layers key) :
    w'.Upholds table key entry home := by
  refine h.congr hrecord fun chain hchain => ⟨f chain, ?_, ?_⟩
  · rw [htables, List.getElem?_map, hchain]
    rfl
  · obtain ⟨⟨hname, hroot⟩, hlatest⟩ := hf chain (List.mem_of_getElem? hchain)
    rw [hdisk, hroot]
    exact ⟨hname, hlatest, rfl⟩

/-! ### Flushes -/

/-- The layers are still there, but their entries may be in the root as
well. -/
theorem Upholds.of_overlay (h : w.Upholds table key entry home)
    (htables : w'.db.coordinator.tables = w.db.coordinator.tables)
    (hclear : ∀ name, w'.Running → ¬w'.Recorded name key)
    (hroots : ∀ chain ∈ w.db.coordinator.tables,
      w'.disk.contents chain.root = w.disk.contents chain.root ∨ w'.disk.contents chain.root =
        (w.disk.contents chain.root).overlay (Chain.diffs (chain.layers.take n))) :
    w'.Upholds table key entry home := by
  cases h with
  | layer hchain hlatest hhome => exact .layer (htables ▸ hchain) hlatest hhome
  | @root chain hchain hlatest hroot _ =>
    refine .root (htables ▸ hchain) hlatest ?_ (hclear _)
    rw [Chain.latest?_split key n, Option.or_eq_none_iff] at hlatest
    rw [← hroot]
    rcases hroots chain (List.mem_of_getElem? hchain) with heq | heq
    · rw [heq]
    · rw [heq, Chain.get?_overlay_latest?, hlatest.2]

/-- The oldest layers are gone, and their entries are in the root. -/
theorem Upholds.dropOldest (h : w.Upholds table key entry home)
    (htables : w'.db.coordinator.tables = w.db.coordinator.tables.map (·.dropOldest n))
    (hclear : ∀ name, w'.Running → ¬w'.Recorded name key)
    (hroots : ∀ chain ∈ w.db.coordinator.tables, w'.disk.contents chain.root =
      (w.disk.contents chain.root).overlay (Chain.diffs (chain.layers.take n))) :
    w'.Upholds table key entry home := by
  have hchain' : ∀ chain, w.db.coordinator.tables[table]? = some chain →
      w'.db.coordinator.tables[table]? = some (chain.dropOldest n) := by
    intro chain hchain
    rw [htables, List.getElem?_map, hchain]
    rfl
  have hroots' : ∀ chain, w.db.coordinator.tables[table]? = some chain →
      w'.disk.contents (chain.dropOldest n).root =
        (w.disk.contents chain.root).overlay (Chain.diffs (chain.layers.take n)) :=
    fun chain hchain => hroots chain (List.mem_of_getElem? hchain)
  cases h with
  | @layer chain seq hchain hlatest hhome =>
    -- The newest layer that has the key stays, or is one of those that are
    -- gone.
    rw [Chain.latest?_split key n] at hlatest
    cases hrest : Chain.latest? (chain.layers.drop n) key with
    | some said =>
      rw [hrest, Option.some_or] at hlatest
      exact .layer (hchain' chain hchain) (hrest.trans hlatest) hhome
    | none =>
      rw [hrest, Option.none_or] at hlatest
      refine .root (hchain' chain hchain) hrest ?_ (hclear _)
      rw [hroots' chain hchain, Chain.get?_overlay_latest?, hlatest]
  | @root chain hchain hlatest hroot _ =>
    -- No layer has the key, so the layers that are gone leave it alone in the
    -- root.
    rw [Chain.latest?_split key n, Option.or_eq_none_iff] at hlatest
    refine .root (hchain' chain hchain) hlatest.1 ?_ (hclear _)
    rw [hroots' chain hchain, Chain.get?_overlay_latest?, hlatest.2]
    exact hroot

/-- A flush upholds what was upheld, however it ends. An entry whose
layer it takes away stands in the root, and then the record is gone or
the database no longer runs. -/
theorem Upholds.flush (h : w.Upholds table key entry home) (hend : FlushEnd w n r w₁)
    (hunlocks : Unlocks r w₁ w') (hstores : w.db.coordinator.DistinctStores) :
    w'.Upholds table key entry home := by
  rcases eq_or_record?_of_flushEnd hend hunlocks with rfl | hnone
  · exact h
  have hclear : ∀ name, w'.Running → ¬w'.Recorded name key :=
    fun name hrun => not_recorded_of_record? (hnone hrun).2 name key
  obtain ⟨hcoordinator, hdisk⟩ := hunlocks.same
  rcases hend.effect hstores with ⟨hsame, -, hroots⟩ | ⟨hsame, hroots⟩
  · rw [← hcoordinator] at hsame
    rw [← hdisk] at hroots
    exact h.of_overlay hsame.tables hclear hroots
  · rw [← hcoordinator] at hsame
    rw [← hdisk] at hroots
    exact h.dropOldest hsame.tables hclear hroots

/-! ### Steps -/

/-- A quiet step upholds what was upheld. -/
theorem Upholds.quiet (h : w.Upholds table key entry home) (hstep : Quiet w w')
    (hrecord : w.KeepsRecord w') (hstores : w.db.coordinator.DistinctStores) :
    w'.Upholds table key entry home := by
  cases hstep with
  | say | bus => exact h.of_same hrecord rfl fun _ => rfl
  | settings hsame _ => exact h.of_same hrecord hsame.tables fun _ => rfl
  | solidify =>
    exact h.mapTables hrecord (f := (·.solidify _)) rfl rfl fun _ _ => ⟨⟨rfl, rfl⟩, rfl⟩
  | commit =>
    exact h.mapTables hrecord (f := (·.modifyHead (·.commit))) rfl rfl fun chain _ =>
      ⟨Coordinator.name_root_modifyHead _ chain,
        Chain.latest?_modifyHead key (·.commit) (fun _ => rfl) (fun _ => rfl) chain⟩
  | flush _ _ _ hend hr => exact h.flush hend (.inl ⟨hr, rfl⟩) hstores
  | crash _ _ _ hend => exact h.flush hend (.inr ⟨rfl, rfl⟩) hstores

/-- So does any exact step that does not discard the layer. -/
theorem Upholds.step (h : w.Upholds table key entry home) (hstep : Act w w') (hexact : Exact w w')
    (hsound : w.db.coordinator.Sound) (hstores : w.db.coordinator.DistinctStores)
    (hkept : ∀ seq, home = some seq → seq ∉ w'.discarded) : w'.Upholds table key entry home := by
  have hrecord : w.KeepsRecord w' := .step hstep hexact hsound
  cases hstep with
  | quiet hquiet => exact h.quiet hquiet hrecord hstores
  | poison => exact h.of_same hrecord rfl fun _ => rfl
  | recover _ _ hcoordinator _ =>
    rcases hexact with hdisk | ⟨hrun, count, rfl⟩
    · exact h.of_same hrecord hcoordinator.tables fun _ => by rw [hdisk]
    · obtain ⟨r, w₁, hend, hunlocks⟩ := flush_of_locked hsound hrun count
      exact h.flush hend hunlocks hstores
  | @discard seq c operation depth hpoisoned hallowed hlive hseq hc hhalted =>
    have hgone : seq ∈ ((w.withCoordinator c).say
        (.layerDiscarded operation seq depth)).discarded := by
      simp [discarded, say, List.filterMap_append, Notice.discarded?]
    refine h.congr hrecord fun chain hchain => ⟨chain.discardHead, ?_, ?_⟩
    · show c.tables[table]? = _
      rw [hc.tables]
      show (w.db.coordinator.tables.map _)[table]? = _
      rw [List.getElem?_map, hchain]
      rfl
    obtain ⟨hname, hroot⟩ := Coordinator.name_root_discardHead chain
    refine ⟨hname, ?_, congrArg (OrderedMap.get? · key) (congrArg w.disk.contents hroot)⟩
    have hchained := hsound.chains chain (List.mem_of_getElem? hchain)
    obtain ⟨older, head, hlayers, hlevels⟩ := hchained.exists_head hlive
    have hhead : head.seq = seq := by
      rw [hlevels, List.getLast?_concat] at hseq
      exact Option.some.inj hseq
    rw [Chain.discardHead_of_concat hlayers (hchained.depth_pos hlive), hlayers,
      Chain.latest?_concat]
    cases hget : head.get? key with
    | none => rfl
    | some said =>
      -- If the layer discarded knew the key, it would be the entry's home.
      have hlatest : Chain.latest? chain.layers key = some (seq, said) := by
        rw [hlayers, Chain.latest?_concat, hget, hhead]
        rfl
      exact absurd hgone (hkept seq (h.home_eq hchain hlatest))

theorem Upholds.actually (h : w.Upholds table key entry home) (hpath : Actually w w')
    (hsound : w.db.coordinator.Sound) (hstores : w.db.coordinator.DistinctStores)
    (hkept : ∀ seq, home = some seq → seq ∉ w'.discarded) : w'.Upholds table key entry home := by
  induction hpath with
  | refl => exact h
  | tail hpath hstep ih =>
    have hgrown := hstep.1.discarded_grows.subset
    exact (ih fun seq hseq hmem => hkept seq hseq (hgrown hmem)).step hstep.1 hstep.2
      (Actually.sound hpath hsound) ((Actually.keeps hpath).distinctStores hstores) hkept

/-- A new layer says nothing. -/
theorem Upholds.opens (h : w.Upholds table key entry home) (hopens : OpensExactly w w')
    (hsound : w.db.coordinator.Sound) (hstores : w.db.coordinator.DistinctStores)
    (hkept : ∀ seq, home = some seq → seq ∉ w'.discarded) : w'.Upholds table key entry home := by
  obtain ⟨w₁, hpath, rfl | hpush⟩ := hopens
  · exact h.actually hpath.actually hsound hstores hkept
  · rw [hpush.discarded] at hkept
    refine (h.actually hpath.actually hsound hstores hkept).mapTables hpush.keepsRecord
      (f := (·.push w₁.db.coordinator.nextSeq)) hpush.sameStacks.tables hpush.disk fun chain _ =>
        ⟨⟨rfl, rfl⟩, ?_⟩
    show Chain.latest? (chain.layers ++ [Layer.new _]) key = _
    rw [Chain.latest?_concat]
    rfl

theorem Upholds.registers {name root : String} (h : w.Upholds table key entry home)
    (hregister : Registers name root w w') : w'.Upholds table key entry home := by
  refine h.congr hregister.keepsRecord fun chain hchain => ⟨chain, ?_, rfl, rfl, ?_⟩
  · obtain ⟨hlt, -⟩ := List.getElem?_eq_some_iff.mp hchain
    rw [hregister.sameStacks.tables, List.getElem?_append_left hlt]
    exact hchain
  · rw [hregister.disk]

/-! ### Checks -/

/-- A check hides no entry of a layer, and to a root it writes nothing
that is not in the record. -/
theorem Upholds.checked (h : w.Upholds table key entry home) (hchecked : w.Checked w') :
    w'.Upholds table key entry home := by
  have htables := hchecked.layers.tables
  cases h with
  | layer hchain hlatest hhome => exact .layer (htables ▸ hchain) hlatest hhome
  | root hchain hlatest hroot hclear =>
    have hsame := hchecked.roots _ (List.mem_of_getElem? hchain) key hclear
    exact .root (htables ▸ hchain) hlatest (hsame.trans hroot)
      (hchecked.keepsRecord.not_recorded hclear)

/-! ### Writes -/

theorem Upholds.unlocks (h : w₁.Upholds table key entry home) (hunlocks : Unlocks r w₁ w') :
    w'.Upholds table key entry home := by
  rcases hunlocks with ⟨-, rfl⟩ | ⟨-, rfl⟩
  · exact h
  · exact h.of_same (fun hrun => nomatch hrun.1) rfl fun _ => rfl

/-- Writing another key, or to the newest layer of another table. -/
theorem Upholds.put (h : w.Upholds table key entry home) {written : Nat} {other : Bytes}
    (said : Entry) (helse : written = table → other ≠ key) :
    (w.withCoordinator (w.db.coordinator.modifyTable written
      (·.modifyHead (·.put other said)))).Upholds table key entry home := by
  have hrecord : w.KeepsRecord (w.withCoordinator (w.db.coordinator.modifyTable written
      (·.modifyHead (·.put other said)))) := .of_record? (Puts.put _ _ _).keeps rfl
  refine h.congr hrecord fun chain hchain => ?_
  have htable : (w.db.coordinator.tables.modify written (·.modifyHead (·.put other said)))[table]? =
      some (if written = table then chain.modifyHead (·.put other said) else chain) := by
    rw [List.getElem?_modify, hchain]
    rfl
  refine ⟨_, htable, ?_⟩
  split
  · rename_i heq
    obtain ⟨hname, hroot⟩ := Coordinator.name_root_modifyHead (·.put other said) chain
    refine ⟨hname, Chain.latest?_modifyHead key (·.put other said) (fun _ => Layer.seq_put _ _ _)
      (fun layer => ?_) chain, congrArg (OrderedMap.get? · key) (congrArg w.disk.contents hroot)⟩
    rw [Layer.get?_put, if_neg (helse heq)]
  · exact ⟨rfl, rfl, rfl⟩

/-- Writing another key, or to the root of another table, or in vain. -/
theorem Upholds.writeRoot (h : w.Upholds table key entry home) {written : Nat} {chain : Chain}
    (hwritten : w.db.coordinator.tables[written]? = some chain)
    (hstores : w.db.coordinator.DistinctStores) {other : Bytes} {said : Entry}
    (helse : (w.disk.write chain.root [(other, said)]).1 = .ok () → written = table → other ≠ key) :
    (w.withDisk (w.disk.write chain.root [(other, said)]).2).Upholds table key entry home := by
  have hjournal := hstores.journal_ne (List.mem_of_getElem? hwritten)
  refine h.congr (.writeRoot hjournal _) fun read hread => ⟨read, hread, rfl, rfl, ?_⟩
  show ((w.disk.write chain.root [(other, said)]).2.contents read.root).get? key = _
  cases hwrite : (w.disk.write chain.root [(other, said)]).1 with
  | error failure =>
    rw [(Disk.after_write_error hwrite).contents]
    rfl
  | ok u =>
    refine Disk.get?_write _ _ _ _ fun hroot hmem => ?_
    have hne := helse hwrite (hstores.table_unique hwritten hread hroot.symm)
    rw [List.map_singleton, List.mem_singleton] at hmem
    exact hne hmem.symm

/-- A write that fails, or is to another key or another table, leaves
what is upheld alone. -/
theorem Upholds.wrote {written : Table} {other : Bytes} {said : Entry}
    (h : w.Upholds table key entry home) (hwrote : Operation.Wrote w written other said r w₁)
    (hunlocks : Unlocks r w₁ w') (hstores : w.db.coordinator.DistinctStores)
    (helse : r = .ok () → written.index = table → other ≠ key) :
    w'.Upholds table key entry home := by
  cases hwrote with
  | nothing => exact h.unlocks hunlocks
  | put => exact (h.put said (helse rfl)).unlocks hunlocks
  | stopped _ _ hflush => exact h.flush hflush hunlocks hstores
  | @direct w₂ chain _ hrun hchain _ hflush hr =>
    have hflushed : w₂.Upholds table key entry home := h.flush hflush (.inl ⟨nofun, rfl⟩) hstores
    have hkeeps := keeps_of_flushEnd hflush hrun
    obtain ⟨chain₂, hchain₂, -, hroot⟩ := hkeeps.exists_chain hchain
    rw [← hroot] at hr hunlocks
    exact (hflushed.writeRoot hchain₂ (hkeeps.distinctStores hstores) fun hok =>
      helse (hr.mpr hok)).unlocks hunlocks

/-- A write that succeeds is upheld from then on, if no record can be
found that writes over it. There is none where a layer was in its way,
for this layer was flushed first. -/
theorem upholds_of_wrote {written : Table} (horderly : w.Orderly)
    (hwrote : Operation.Wrote w written key entry (.ok ()) w') {chain : Chain}
    (hchain : w.db.coordinator.tables[written.index]? = some chain)
    (hclear : w.db.coordinator.levels = [] → w.Running → ¬w.Recorded chain.name key)
    (hstores : w.db.coordinator.DistinctStores) :
    ∃ home, w'.Upholds written.index key entry home ∧ ∀ seq, home = some seq →
      0 < w.db.coordinator.depth ∧ w.db.coordinator.levels.getLast? = some seq := by
  have hsound := horderly.sound
  have hmem := List.mem_of_getElem? hchain
  cases hwrote with
  | nothing _ hunknown =>
    rw [hunknown rfl] at hchain
    cases hchain
  | put _ _ hlive =>
    -- The newest layer takes the entry, so none above it has the key.
    have hstep := hsound.chains chain hmem
    obtain ⟨older, head, hlayers, hlevels⟩ := hstep.exists_head hlive
    have hchain' : (w.db.coordinator.tables.modify written.index
        (·.modifyHead (·.put key entry)))[written.index]? =
          some (chain.modifyHead (·.put key entry)) := by
      rw [List.getElem?_modify, hchain, Option.map_eq_map, Option.map_some, if_pos rfl]
    have hlatest : Chain.latest? (chain.modifyHead (·.put key entry)).layers key =
        some (head.seq, entry) := by
      rw [Chain.modifyHead_of_concat hlayers (hstep.depth_pos hlive), Chain.latest?_concat,
        Layer.get?_put, if_pos rfl, Layer.seq_put]
      rfl
    refine ⟨some head.seq, .layer hchain' hlatest rfl, ?_⟩
    rintro seq ⟨⟩
    exact ⟨Nat.sub_pos_of_lt hlive, by rw [hlevels, List.getLast?_concat]⟩
  | @direct w₂ chain' _ hrun hchain' hdry hflush hr =>
    -- All layers are flushed first. So none lies over the root, and what is
    -- left to exclude is a record.
    obtain rfl : chain' = chain := Option.some.inj (hchain'.symm.trans hchain)
    have horderly₂ := horderly.flush hrun (Nat.le_refl _) (horderly.open_lt_of_dry hdry) hflush
    have hlevels₂ := hflush.levels_of_all
    have hkeeps := keeps_of_flushEnd hflush hrun
    obtain ⟨chain₂, hchain₂, hname, hroot⟩ := hkeeps.exists_chain hchain
    have hmem₂ := List.mem_of_getElem? hchain₂
    have hlayers₂ : chain₂.layers = [] := by
      refine List.eq_nil_of_length_eq_zero ?_
      rw [(horderly₂.sound.chains chain₂ hmem₂).length_layers, hlevels₂]
      rfl
    refine ⟨none, .root hchain₂ (by rw [hlayers₂]; rfl) ?_ ?_, nofun⟩
    · show ((w₂.disk.write chain'.root [(key, entry)]).2.contents chain₂.root).get? key = _
      rw [(Disk.after_write_ok (hr.mp rfl)).contents, hroot, Contents.afterWrites_singleton]
      show ((w₂.disk.contents chain'.root).put key entry).get? key = _
      rw [Contents.get?_put, if_pos rfl]
    · -- A flush of layers removes its record at the end; without layers there
      -- is none but that of `hclear`.
      have hclear₂ : w₂.Running → ¬w₂.Recorded chain'.name key := by
        rcases eq_or_record?_of_flushEnd hflush (.inl ⟨nofun, rfl⟩) with rfl | hnone
        · exact hclear hlevels₂
        · exact fun hrun₂ => not_recorded_of_record? (hnone hrun₂).2 _ _
      have hjournal := (hkeeps.distinctStores hstores).journal_ne hmem₂
      rw [hname]
      rw [hroot] at hjournal
      exact (KeepsRecord.writeRoot hjournal _).not_recorded hclear₂

end

end World

/-! ### Moves -/

/-- Whether the move writes to the key of the table, and the write
succeeds. -/
def Move.overwrites (table : Nat) (key : Bytes) (w : World) : Move → Bool
  | .call (.write written other said) =>
    written.index = table ∧ other = key ∧
      ((Command.write written other said).run.perform w).1 = .ok .done
  | _ => false

namespace World

/-- Whether a move of the run writes to the key of the table, and the
write succeeds. -/
def overwritten (table : Nat) (key : Bytes) : World → List Move → Bool
  | _, [] => false
  | w, move :: moves => move.overwrites table key w || overwritten table key (move.act w) moves

section
variable {w : World} {table : Nat} {key : Bytes} {entry : Entry} {home : Option Nat}

/-- A move that neither discards the layer nor overwrites the key
upholds what was upheld. -/
theorem Upholds.act (h : w.Upholds table key entry home) (horderly : w.Orderly)
    (hstores : w.db.coordinator.DistinctStores) {move : Move}
    (hkept : ∀ seq, home = some seq → seq ∉ (move.act w).discarded)
    (hlast : move.overwrites table key w = false) :
    (move.act w).Upholds table key entry home := by
  have hsound := horderly.sound
  cases move with
  | close =>
    have hpath : Actually w (Move.close.act w) := Database.drop_path hsound
    exact h.actually hpath hsound hstores hkept
  | setPlan store plan =>
    refine h.of_same (act_keepsRecord horderly hstores _) rfl fun other => ?_
    exact Disk.contents_setPlan _ _ _ _
  | call command =>
    -- Each command is taken as the steps that it can make.
    have hpath : command.Path w ((Move.call command).act w) := Command.run_path hsound command
    cases command with
    | addTable name root =>
      rcases hpath with heq | hregister
      · rwa [heq]
      · exact h.registers hregister
    | openSession force => exact h.opens hpath hsound hstores hkept
    | write written other said =>
      obtain ⟨r, w₁, hwrote, hanswer, hunlocks⟩ := Command.write_wrote horderly written other said
      refine h.wrote hwrote hunlocks hstores fun hok hindex hkey => ?_
      have hoverwrites := of_decide_eq_false hlast
      exact hoverwrites ⟨hindex, hkey, hanswer.mp hok⟩
    | check => exact h.checked (Operation.check_checked hsound hstores)
    | commitSession | revokeSession | dropSession | commit | revoke | merge | popMany | enable
    | disable | setCursor | setMaxSize | setMaxFlushCount | shutdown =>
      exact h.actually hpath hsound hstores hkept

theorem Upholds.play (h : w.Upholds table key entry home) (horderly : w.Orderly) {moves : List Move}
    (hstores : (w.play moves).db.coordinator.DistinctStores)
    (hkept : ∀ seq, home = some seq → seq ∉ (w.play moves).discarded)
    (hlast : overwritten table key w moves = false) :
    (w.play moves).Upholds table key entry home := by
  induction moves generalizing w with
  | nil => exact h
  | cons move moves ih =>
    have horderly₁ := horderly.act move
    have hstores₀ : w.db.coordinator.DistinctStores := distinctStores_of_play horderly.sound hstores
    have hgrown := (play_discarded_grows horderly₁.sound moves).subset
    obtain ⟨hlast₀, hlast₁⟩ := Bool.or_eq_false_iff.mp hlast
    exact ih (h.act horderly hstores₀ (fun seq hseq hmem => hkept seq hseq (hgrown hmem)) hlast₀)
      horderly₁ hstores hkept hlast₁

end

/-- The write to the table succeeds, and what it has written is neither
overwritten nor discarded with its layer in the moves that follow. -/
structure LastWord (w : World) (table : Table) (key : Bytes) (entry : Entry) (later : List Move) :
    Prop where
  /-- The handle is that of a table. -/
  registered : table.index < w.db.coordinator.tables.length
  answer : ((Command.write table key entry).run.perform w).1 = .ok .done
  last : overwritten table.index key (Move.act w (.call (.write table key entry))) later = false
  /-- If a layer is live, the newest takes the write. -/
  kept : ∀ seq, 0 < w.db.coordinator.depth → w.db.coordinator.levels.getLast? = some seq →
    seq ∉ (w.play (.call (.write table key entry) :: later)).discarded

/-- A database that has stopped refuses every write. -/
theorem write_refused {w : World} (hstopped : w.db.coordinator.Stopped) (table : Table)
    (key : Bytes) (entry : Entry) :
    ((Command.write table key entry).run.perform w).1 ≠ .ok .done := by
  obtain ⟨error, herror⟩ := hstopped.exists_stopped?
  have hrefused : (table.write key entry).Ends w fun r _ => ∃ fault, r = .error fault := by
    unfold Table.write
    rw [Operation.ends_locked]
    split
    · exact ⟨_, rfl⟩
    apply Operation.writeEntry_rule
    case refused => exact fun _ _ => ⟨_, rfl⟩
    case unknown =>
      intro hrun
      cases herror.symm.trans hrun
    all_goals
      intro _ hrun
      cases herror.symm.trans hrun
  have hanswer : (Command.write table key entry).run.Ends w fun r _ => r ≠ .ok .done := by
    show (do table.write key entry; return .done : Operation Reply).Ends w _
    rw [Operation.ends_bind]
    refine hrefused.mono fun r w' h => ?_
    obtain ⟨fault, rfl⟩ := h
    exact nofun
  exact hanswer

/-- A check is made, and at some time later a write succeeds that is
neither overwritten nor discarded with its layer until another check.
Then the key reads as it was written, whatever the two checks have
answered, whatever the journal held at first, and whichever stores fail.
This leaves out one case: that the first check has reported an error and
left a record behind that writes to the same key, in a database that
still runs, and that the write was made directly to the root. -/
theorem check_upholds_write (disk : Disk) (configuration : Configuration) (journal : String)
    (handlers : List Handler) (before middle later : List Move) (table : Table) (key : Bytes)
    (entry : Entry) :
    let start := (opened disk configuration journal handlers).play before
    let checked := Move.act start (.call .check)
    let w := checked.play middle
    let again := w.play (.call (.write table key entry) :: later ++ [.call .check])
    again.db.coordinator.DistinctStores →
    LastWord w table key entry (later ++ [.call .check]) →
    (∀ fault chain, (Command.check.run.perform start).1 = .error fault → checked.Running →
      w.db.coordinator.tables[table.index]? = some chain → checked.Recorded chain.name key →
      w.db.coordinator.levels ≠ []) →
    again.lookup? (.head 0) table.index key = entry.value? := by
  intro start checked w again hstores hword hleft
  have horderly₀ : start.Orderly := play_orderly disk configuration journal handlers before
  have horderly₁ : checked.Orderly := horderly₀.act _
  have horderly : w.Orderly := horderly₁.play middle
  have hstores₀ : w.db.coordinator.DistinctStores := distinctStores_of_play horderly.sound hstores
  obtain ⟨chain, hchain⟩ : ∃ chain, w.db.coordinator.tables[table.index]? = some chain :=
    ⟨_, List.getElem?_eq_getElem hword.registered⟩
  obtain ⟨r, w₁, hwrote, hanswer, hunlocks⟩ := Command.write_wrote horderly table key entry
  obtain rfl : r = .ok () := hanswer.mpr hword.answer
  rw [← hunlocks.of_ok] at hwrote
  -- The database has not stopped, or it would have refused the write.
  have hgoes : ¬checked.db.coordinator.Stopped := by
    intro hstopped
    have hrests := play_rests horderly₁.sound hstopped middle
    exact write_refused (hrests.stopped hstopped) table key entry hword.answer
  -- What the check has left behind is all that the database can find.
  have hclear : w.db.coordinator.levels = [] → w.Running → ¬w.Recorded chain.name key := by
    intro hlevels
    refine (play_keepsRecord horderly₁ middle hstores₀).not_recorded fun hrun hrecorded => ?_
    cases hcheck : (Command.check.run.perform start).1 with
    | error fault => exact hleft fault chain hcheck hrun hchain hrecorded hlevels
    | ok reply =>
      have hclears := Operation.check_clears start reply hcheck
      exact not_recorded_of_record? (hclears.resolve_left hgoes) _ _ hrecorded
  obtain ⟨home, hupholds, hhome⟩ := upholds_of_wrote horderly hwrote hchain hclear hstores₀
  refine (hupholds.play (horderly.act (.call (.write table key entry))) hstores
    (fun seq hseq => ?_) hword.last).lookup?
  obtain ⟨hdepth, hlevel⟩ := hhome seq hseq
  exact hword.kept seq hdepth hlevel

/-- A record is left over from an earlier run, and the first check carries
it out but cannot remove it. A value is then written to a layer, over the
same key, and the second check carries the record out again: the key
reads as it was written. -/
theorem check_upholds_write_over_leftover :
    let record : JournalRecord := ⟨[("a", [([1], .value [10])])]⟩
    let disk := Disk.empty.overwrite "journal" Journal.key (.value record.encode)
    let before := [Move.call (.addTable "a" "left"),
      .setPlan "journal" (some ⟨0, .error (.refused "full")⟩)]
    let middle := [Move.setPlan "journal" none, .call (.openSession false)]
    let later := [Move.call (.write ⟨0, "a"⟩ [2] (.value [30]))]
    let start := (opened disk {} "journal" []).play before
    let checked := Move.act start (.call .check)
    let w := checked.play middle
    let again := w.play (.call (.write ⟨0, "a"⟩ [1] (.value [20])) :: later ++ [.call .check])
    again.db.coordinator.DistinctStores ∧
      LastWord w ⟨0, "a"⟩ [1] (.value [20]) (later ++ [.call .check]) ∧
      (Command.check.run.perform start).1 =
        .error (.error (.ioFailure Operation.journalName (.refused "full"))) ∧
      checked.Running ∧ w.db.coordinator.levels = [1] ∧
      (checked.disk.contents "left").get? [1] = some [10] ∧
      again.lookup? (.head 0) 0 [1] = some [20] := by
  intro record disk before middle later start checked w again
  have hstores : again.db.coordinator.DistinctStores :=
    (Coordinator.distinctStores_iff _).mpr (by decide +kernel)
  have hdiscarded : again.discarded = [] := by decide +kernel
  have hword : LastWord w ⟨0, "a"⟩ [1] (.value [20]) (later ++ [.call .check]) :=
    { registered := by decide +kernel
      answer := by decide +kernel
      last := by decide +kernel
      kept := fun seq _ _ hmem => by
        have hmem : seq ∈ again.discarded := hmem
        rw [hdiscarded] at hmem
        cases hmem }
  have hlevels : w.db.coordinator.levels = [1] := by decide +kernel
  have hread := check_upholds_write disk {} "journal" [] before middle later ⟨0, "a"⟩ [1]
    (.value [20]) hstores hword fun _ _ _ _ _ _ hnil => by
      rw [hlevels] at hnil
      cases hnil
  exact ⟨hstores, hword, by decide +kernel, ⟨by decide +kernel, by decide +kernel⟩, hlevels,
    by decide +kernel, hread⟩

/-- The same, but the value is written directly to the root. The record
that the first check has left behind is older than the value, and the
second check puts it in the value's place. -/
theorem check_undoes_direct_write :
    let record : JournalRecord := ⟨[("a", [([1], .value [10])])]⟩
    let disk := Disk.empty.overwrite "journal" Journal.key (.value record.encode)
    let start := (opened disk {} "journal" []).play [.call (.addTable "a" "left"),
      .setPlan "journal" (some ⟨0, .error (.refused "full")⟩)]
    let checked := Move.act start (.call .check)
    let w := checked.play [.setPlan "journal" none]
    let written := Move.act w (.call (.write ⟨0, "a"⟩ [1] (.value [20])))
    let again := Move.act written (.call .check)
    again.db.coordinator.DistinctStores ∧
      (Command.check.run.perform start).1 =
        .error (.error (.ioFailure Operation.journalName (.refused "full"))) ∧
      checked.Running ∧
      LastWord w ⟨0, "a"⟩ [1] (.value [20]) [.call .check] ∧
      written.lookup? (.head 0) 0 [1] = some [20] ∧
      (Command.check.run.perform written).1 = .ok (.report ⟨0, 0, 1, 1, 0⟩) ∧
      again.lookup? (.head 0) 0 [1] = some [10] := by
  intro record disk start checked w written again
  have hstores : again.db.coordinator.DistinctStores :=
    (Coordinator.distinctStores_iff _).mpr (by decide +kernel)
  have hword : LastWord w ⟨0, "a"⟩ [1] (.value [20]) [.call .check] :=
    { registered := by decide +kernel
      answer := by decide +kernel
      last := by decide +kernel
      kept := fun seq hdepth _ => absurd hdepth (by decide +kernel) }
  exact ⟨hstores, by decide +kernel, ⟨by decide +kernel, by decide +kernel⟩, hword,
    by decide +kernel, by decide +kernel, by decide +kernel⟩

end World

end LayeredStore

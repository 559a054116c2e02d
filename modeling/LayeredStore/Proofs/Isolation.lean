import LayeredStore.Proofs.Parallel.Operations
import LayeredStore.Proofs.Generation

/-!
# `LayeredStore.Proofs.Isolation`: tables do not see what others hold

Two runs take the same steps, except that what is written to other tables
than `t` differs: other keys and values, or other tables. Such a write can
move layers of all tables into the roots, and seals, digests and records
depend on what is written. Still `t` and all that tables share stay the same
in both runs.

* `World.AlikeAt`: the worlds differ in other tables than `t` at most.
  `World.Isolated` adds what a flush needs of each of them.
* `parallel_isolated` and `flushes_isolated`: what treats all tables alike
  keeps them so, and so does a flush.
* `writeEntry_isolated`: a write, which can be another one for another table.
* `Command.Swaps`: the same command, or two writes to other tables than `t`.
  `Command.run_swapped`: one step of both runs.
* `World.tables_isolated`: the runs.

The record of a flush names all tables, so its length depends on what others
hold. That it fits is assumed of both runs.
-/

set_option autoImplicit false

namespace LayeredStore

/-! ### Worlds that differ in other tables -/

namespace Coordinator

variable {d : Coordinator} {f : Coordinator → Coordinator}

/-- The store is neither the journal nor the root of another table than
`t`. -/
structure Apart (d : Coordinator) (t : Nat) (store : String) : Prop where
  journal : store ≠ d.journal
  roots : ∀ table name, d.registered[table]? = some (name, store) → table = t

theorem Apart.congr {c : Coordinator} {t : Nat} {store : String} (h : d.Apart t store)
    (hregistered : c.registered = d.registered) (hjournal : c.journal = d.journal) :
    c.Apart t store :=
  ⟨hjournal ▸ h.journal, hregistered ▸ h.roots⟩

/-- What treats all tables alike leaves their names and roots alone. -/
theorem Evenly.registered (h : d.Evenly f) : (f d).registered = d.registered := by
  obtain ⟨g, hg, htables, -⟩ := h.exists_map
  rw [Coordinator.registered, htables]
  exact d.registered_mapTables hg.name_root

/-- Publishing does not depend on the tables, and neither do they on what is
published. -/
theorem announce_retabled (d : Coordinator) (chains : List Chain) (ahead : Nat)
    (published : List Event) (event event' : Event) :
    ∃ published', (d.retabled chains ahead published).announce event =
      (d.announce event').retabled chains ahead published' := by
  have hsame : (d.retabled chains ahead published).publishing = d.publishing := rfl
  unfold announce
  rw [hsame]
  split
  · exact ⟨published ++ [event], rfl⟩
  · exact ⟨published, rfl⟩

end Coordinator

namespace World

/-- The worlds are the same but for what other tables than `t` hold, and for
what was published and told to the operator. -/
structure AlikeAt (t : Nat) (w v : World) : Prop where
  coordinator : ∃ chains published, w.db.coordinator = v.db.coordinator.retabled chains 0 published
  registered : w.db.coordinator.registered = v.db.coordinator.registered
  table : w.db.coordinator.tables[t]? = v.db.coordinator.tables[t]?
  poisoned : w.db.poisoned = v.db.poisoned
  contents : ∀ store, v.db.coordinator.Apart t store →
    w.disk.contents store = v.disk.contents store

/-- The stores are distinct and not set to fail, so a flush can only end in
one way unless its record is too long to be encoded. -/
structure Steady (w : World) : Prop where
  names : w.db.coordinator.tableNames.Nodup
  distinct : w.db.coordinator.DistinctStores
  healthy : w.disk.Healthy

/-- The worlds are alike at `t`, and a flush can be carried out in both. -/
structure Isolated (t : Nat) (w v : World) : Prop where
  alike : w.AlikeAt t v
  steady : w.Steady
  steady' : v.Steady

section
variable {t : Nat} {w v w' v' : World}

theorem AlikeAt.refl (t : Nat) (w : World) : w.AlikeAt t w :=
  ⟨⟨_, _, (Coordinator.retabled_self _).symm⟩, rfl, rfl, rfl, fun _ _ => rfl⟩

theorem AlikeAt.journal (h : w.AlikeAt t v) :
    w.db.coordinator.journal = v.db.coordinator.journal := by
  obtain ⟨chains, published, hc⟩ := h.coordinator
  rw [hc]
  rfl

theorem AlikeAt.levels (h : w.AlikeAt t v) :
    w.db.coordinator.levels = v.db.coordinator.levels := by
  obtain ⟨chains, published, hc⟩ := h.coordinator
  rw [hc]
  rfl

theorem AlikeAt.pending (h : w.AlikeAt t v) :
    w.db.coordinator.pending = v.db.coordinator.pending := by
  obtain ⟨chains, published, hc⟩ := h.coordinator
  rw [hc]
  rfl

theorem AlikeAt.view (h : w.AlikeAt t v) : w.db.coordinator.view = v.db.coordinator.view := by
  obtain ⟨chains, published, hc⟩ := h.coordinator
  rw [hc]
  rfl

theorem AlikeAt.length_tables (h : w.AlikeAt t v) :
    w.db.coordinator.tables.length = v.db.coordinator.tables.length :=
  Coordinator.length_tables_of_registered h.registered

/-- Whether a world is steady is seen from the names, the roots and the
disk. -/
theorem Steady.congr (h : w.Steady) (hregistered : w'.db.coordinator.registered =
      w.db.coordinator.registered)
    (hjournal : w'.db.coordinator.journal = w.db.coordinator.journal) (hhealthy : w'.disk.Healthy) :
    w'.Steady where
  names := by
    rw [Coordinator.tableNames_eq, hregistered, ← Coordinator.tableNames_eq]
    exact h.names
  distinct := by
    rw [Coordinator.distinctStores_iff, hregistered, hjournal, ← Coordinator.distinctStores_iff]
    exact h.distinct
  healthy := hhealthy

theorem Ready.steady {stores : String → Contents} (h : w.Ready stores) : w.Steady :=
  ⟨h.sound.names, h.distinct, h.healthy⟩

/-- All tables are treated alike in both worlds. -/
theorem AlikeAt.update (h : w.AlikeAt t v) {f : Coordinator → Coordinator}
    (hf : v.db.coordinator.Evenly f) :
    (w.withCoordinator (f w.db.coordinator)).AlikeAt t
      (v.withCoordinator (f v.db.coordinator)) := by
  obtain ⟨chains, published, hc⟩ := h.coordinator
  obtain ⟨g, hg, htables, hretabled⟩ := hf.exists_map
  have hw : f w.db.coordinator = (f v.db.coordinator).retabled (chains.map g) 0 published := by
    rw [hc, hretabled]
  -- The tables of both are changed by the same `g`, which keeps names and roots.
  have hchains : w.db.coordinator.tables = chains := by rw [hc]; rfl
  have hregistered : (f w.db.coordinator).registered = w.db.coordinator.registered := by
    rw [hw, ← hchains]
    exact w.db.coordinator.registered_mapTables hg.name_root
  refine ⟨⟨_, _, hw⟩, ?_, ?_, h.poisoned, fun store hapart => ?_⟩
  · exact hregistered.trans (h.registered.trans hf.registered.symm)
  · show (f w.db.coordinator).tables[t]? = (f v.db.coordinator).tables[t]?
    rw [hw, htables, ← hchains]
    show (w.db.coordinator.tables.map g)[t]? = _
    rw [List.getElem?_map, List.getElem?_map, h.table]
  · exact h.contents store (hapart.congr hf.registered.symm hf.journal.symm)

theorem AlikeAt.announce (h : w.AlikeAt t v) (event event' : Event) :
    (w.withCoordinator (w.db.coordinator.announce event)).AlikeAt t
      (v.withCoordinator (v.db.coordinator.announce event')) := by
  have hsame := Coordinator.sameStacks_announce w.db.coordinator event
  have hsame' := Coordinator.sameStacks_announce v.db.coordinator event'
  refine ⟨?_, ?_, ?_, h.poisoned, fun store hapart => ?_⟩
  · obtain ⟨chains, published, hc⟩ := h.coordinator
    obtain ⟨published', hannounce⟩ :=
      v.db.coordinator.announce_retabled chains 0 published event event'
    exact ⟨chains, published', hc ▸ hannounce⟩
  · exact hsame.registered.trans (h.registered.trans hsame'.registered.symm)
  · show (w.db.coordinator.announce event).tables[t]? =
      (v.db.coordinator.announce event').tables[t]?
    rw [hsame.tables, hsame'.tables]
    exact h.table
  · exact h.contents store (hapart.congr hsame'.registered.symm hsame'.journal.symm)

/-- Worlds with the same coordinators as two that are alike, over other
disks. -/
theorem AlikeAt.onto (h : w.AlikeAt t v) (hw : w'.db.coordinator = w.db.coordinator)
    (hv : v'.db.coordinator = v.db.coordinator) (hpoisoned : w'.db.poisoned = v'.db.poisoned)
    (hcontents : ∀ store, v.db.coordinator.Apart t store →
      w'.disk.contents store = v'.disk.contents store) : w'.AlikeAt t v' := by
  refine ⟨?_, ?_, ?_, hpoisoned, ?_⟩
  · rw [hw, hv]
    exact h.coordinator
  · rw [hw, hv]
    exact h.registered
  · rw [hw, hv]
    exact h.table
  · rw [hv]
    exact hcontents

/-- Worlds that are still alike are still isolated, if the tables' names and
roots are the same. -/
theorem Isolated.of_alike (h : w.Isolated t v) (halike : w'.AlikeAt t v')
    (hregistered : v'.db.coordinator.registered = v.db.coordinator.registered)
    (hjournal : v'.db.coordinator.journal = v.db.coordinator.journal)
    (hhealthy : w'.disk.Healthy) (hhealthy' : v'.disk.Healthy) : w'.Isolated t v' where
  alike := halike
  steady := h.steady.congr
    (halike.registered.trans (hregistered.trans h.alike.registered.symm))
    (halike.journal.trans (hjournal.trans h.alike.journal.symm)) hhealthy
  steady' := h.steady'.congr hregistered hjournal hhealthy'

/-- All that treats all tables alike keeps worlds alike. -/
theorem parallel_alikeAt (t : Nat) : Parallel (AlikeAt t) where
  coordinator h := by
    obtain ⟨chains, published, hc⟩ := h.coordinator
    exact ⟨chains, 0, published, hc⟩
  poisoned h := h.poisoned
  update h hf := h.update hf
  announce {_ _ event event'} h _ := h.announce event event'
  poison h := h.onto rfl rfl rfl h.contents
  undisturbed {w v w' v'} h hw hv := by
    refine h.onto hw.coordinator hv.coordinator ?_ ?_
    · rw [hw.poisoned, hv.poisoned]
      exact h.poisoned
    · rw [hw.disk, hv.disk]
      exact h.contents

/-- So it keeps them isolated, for it leaves the tables' names and roots, and
the disks. -/
theorem parallel_isolated (t : Nat) : Parallel (Isolated t) where
  coordinator h := (parallel_alikeAt t).coordinator h.alike
  poisoned h := h.alike.poisoned
  update h hf := h.of_alike (h.alike.update hf) hf.registered hf.journal h.steady.healthy
    h.steady'.healthy
  announce {w v event event'} h _ := by
    have hsame := Coordinator.sameStacks_announce v.db.coordinator event'
    exact h.of_alike (h.alike.announce event event') hsame.registered hsame.journal
      h.steady.healthy h.steady'.healthy
  poison h := h.of_alike ((parallel_alikeAt t).poison h.alike) rfl rfl h.steady.healthy
    h.steady'.healthy
  undisturbed h hw hv := h.of_alike ((parallel_alikeAt t).undisturbed h.alike hw hv)
    (by rw [hv.coordinator]) (by rw [hv.coordinator]) (hw.disk ▸ h.steady.healthy)
    (hv.disk ▸ h.steady'.healthy)

end

end World

open World

/-! ### Flushing -/

namespace FlushEnd

variable {w w' v v' : World} {n : Nat} {t : Nat}

/-- A flush that succeeds lays the oldest layers over every root. -/
theorem roots_of_ok (h : FlushEnd w n (.ok ()) w') (hn : 0 < n)
    (hdistinct : w.db.coordinator.DistinctStores) {chain : Chain}
    (hmem : chain ∈ w.db.coordinator.tables) : w'.disk.contents chain.root =
      (w.disk.contents chain.root).overlay (Chain.diffs (chain.layers.take n)) := by
  rcases h.effect hdistinct with ⟨-, hempty, -⟩ | ⟨-, hroots⟩
  · exact absurd (hempty rfl) (Nat.ne_of_gt hn)
  · exact hroots chain hmem

/-- What a flush leaves in a store that is not another table's does not
depend on the other tables. -/
theorem contents_alike (hw : FlushEnd w n (.ok ()) w') (hv : FlushEnd v n (.ok ()) v')
    (hn : 0 < n) (h : w.Isolated t v) {store : String} (hapart : v.db.coordinator.Apart t store) :
    w'.disk.contents store = v'.disk.contents store := by
  -- The store is the root of `t`, or a flush does not write to it.
  by_cases hroot : ∃ chain, v.db.coordinator.tables[t]? = some chain ∧ chain.root = store
  · obtain ⟨chain, hchain, rfl⟩ := hroot
    have hchain' : w.db.coordinator.tables[t]? = some chain := h.alike.table.trans hchain
    rw [hw.roots_of_ok hn h.steady.distinct (List.mem_of_getElem? hchain'),
      hv.roots_of_ok hn h.steady'.distinct (List.mem_of_getElem? hchain),
      h.alike.contents _ hapart]
  · have hother : store ∉ v.db.coordinator.registered.map (·.2) := by
      intro hmem
      obtain ⟨⟨name, root⟩, hentry, rfl⟩ := List.mem_map.mp hmem
      obtain ⟨table, hentry⟩ := List.getElem?_of_mem hentry
      obtain rfl := hapart.roots table name hentry
      obtain ⟨chain, hchain, -, heq⟩ := Coordinator.exists_table_of_registered hentry
      exact hroot ⟨chain, hchain, heq⟩
    have hjournal : store ≠ w.db.coordinator.journal := h.alike.journal ▸ hapart.journal
    have hother' : store ∉ w.db.coordinator.registered.map (·.2) := h.alike.registered ▸ hother
    rw [hw.other_stores hjournal hother', hv.other_stores hapart.journal hother,
      h.alike.contents _ hapart]

/-- A flush keeps worlds isolated, if it succeeds in both. -/
theorem isolated (hw : FlushEnd w n (.ok ()) w') (hv : FlushEnd v n (.ok ()) v')
    (h : w.Isolated t v) (hhealthy : w'.disk.Healthy) (hhealthy' : v'.disk.Healthy) :
    w'.Isolated t v' := by
  cases hw with
  | nothing hn =>
    cases hv with
    | nothing => exact h
    | finished hn' => exact absurd hn (Nat.ne_of_gt hn')
  | finished hn hfits hafter hc =>
    have hcontents := fun (store : String) (hapart : v.db.coordinator.Apart t store) =>
      contents_alike (.finished hn hfits hafter hc) hv hn h hapart
    cases hv with
    | nothing hn' => exact absurd hn' (Nat.ne_of_gt hn)
    | finished hn' hfits' hafter' hc' =>
      subst hc hc'
      -- The layers that are dropped and the event that tells of it; sizes may differ.
      have heven := ((Coordinator.evenly_dropOldest v.db.coordinator n).comp
        (Coordinator.evenly_clampCursor _)).comp (Coordinator.evenly_bump _)
      have hsame := Coordinator.sameStacks_announce (v.db.coordinator.dropOldest n).clampCursor.bump
        (.flush n (v.db.coordinator.netRecord n).size
          (v.db.coordinator.dropOldest n).clampCursor.bump.depth)
      have hupdated := (h.alike.update heven).announce
        (.flush n (w.db.coordinator.netRecord n).size
          (w.db.coordinator.dropOldest n).clampCursor.bump.depth)
        (.flush n (v.db.coordinator.netRecord n).size
          (v.db.coordinator.dropOldest n).clampCursor.bump.depth)
      refine h.of_alike (hupdated.onto rfl rfl h.alike.poisoned fun store hapart => ?_)
        (hsame.registered.trans heven.registered) (hsame.journal.trans heven.journal)
        hhealthy hhealthy'
      exact hcontents store (hapart.congr (hsame.registered.trans heven.registered).symm
        (hsame.journal.trans heven.journal).symm)

end FlushEnd

namespace Operation

variable {t : Nat} {w v : World}

/-- In a steady world, a flush succeeds unless its record is too long to be
encoded. -/
theorem flushOldest_steady (h : w.Steady) (count : Nat) :
    (flushOldest count).Ends w fun r w' => r = .error (.error .unencodable) ∨
      r = .ok () ∧ w'.disk.Healthy ∧
        FlushEnd w (min count w.db.coordinator.levels.length) (.ok ()) w' := by
  have hends := flushOldest_ends w h.names count
  cases hfits : (w.db.coordinator.netRecord (min count w.db.coordinator.levels.length)).fits with
  | true =>
    have hhealthy := flushOldest_healthy w h.names h.healthy count hfits
    refine (hends.and hhealthy).mono fun r w' hend => ?_
    obtain ⟨hend, rfl, hhealthy⟩ := hend
    exact .inr ⟨rfl, hhealthy, hend⟩
  | false =>
    refine hends.mono fun r w' hend => ?_
    obtain ⟨hn, rfl, rfl⟩ | ⟨rfl, -⟩ := hend.of_unfit hfits
    · exact .inr ⟨rfl, h.healthy, .nothing hn⟩
    · exact .inl rfl

/-- A flush ends in the same way in both worlds. -/
theorem flushes_isolated (t : Nat) : Flushes True (Isolated t) := by
  intro w v h count
  have hw := flushOldest_steady h.steady count
  have hv := flushOldest_steady h.steady' count
  rw [h.alike.levels] at hw
  refine endsBoth_of_ends hw hv ?_
  rintro r w' r' v' (rfl | ⟨rfl, hhealthy, hend⟩) hended
  · exact .unfit trivial _ _
  obtain rfl | ⟨rfl, hhealthy', hend'⟩ := hended
  · exact .unfit' trivial _ _
  · exact .alike (hend.isolated hend' h hhealthy hhealthy')

/-! ### Writing -/

/-- Both tables are changed, or the same table in the same way. -/
theorem modifyTable_alike (h : w.AlikeAt t v) {table table' : Nat} {f f' : Chain → Chain}
    (hf : ∀ chain, (f chain).name = chain.name ∧ (f chain).root = chain.root)
    (hf' : ∀ chain, (f' chain).name = chain.name ∧ (f' chain).root = chain.root)
    (hsame : table = table' ∧ f = f' ∨ table ≠ t ∧ table' ≠ t) :
    (w.withCoordinator (w.db.coordinator.modifyTable table f)).AlikeAt t
      (v.withCoordinator (v.db.coordinator.modifyTable table' f')) := by
  have hregistered := w.db.coordinator.registered_modifyTable table hf
  have hregistered' := v.db.coordinator.registered_modifyTable table' hf'
  refine ⟨?_, ?_, ?_, h.poisoned, fun store hapart => ?_⟩
  · obtain ⟨chains, published, hc⟩ := h.coordinator
    refine ⟨chains.modify table f, published, ?_⟩
    rw [hc]
    rfl
  · exact hregistered.trans (h.registered.trans hregistered'.symm)
  · show (w.db.coordinator.tables.modify table f)[t]? =
      (v.db.coordinator.tables.modify table' f')[t]?
    rw [List.getElem?_modify, List.getElem?_modify, h.table]
    rcases hsame with ⟨rfl, rfl⟩ | ⟨hne, hne'⟩
    · rfl
    · simp only [if_neg hne, if_neg hne']
  · exact h.contents store (hapart.congr hregistered'.symm rfl)

/-- Where no store is set to fail, an entry is written to a root. -/
theorem writeDirect_healthy (hhealthy : w.disk.Healthy) (chain : Chain) (key : Bytes)
    (entry : Entry) : (writeDirect chain key entry).Ends w fun r w' =>
      r = .ok () ∧ w' = w.withDisk (w.disk.write chain.root [(key, entry)]).2 := by
  unfold writeDirect writeRoot
  rw [if_neg (by simp), ends_bind, ends_write, (hhealthy.write _ _).1]
  exact ⟨rfl, rfl⟩

/-- The same entry is written to the same root, or entries to roots of other
tables than `t`. -/
theorem writeDirect_isolated (h : w.Isolated t v) {chain chain' : Chain} {key key' : Bytes}
    {entry entry' : Entry}
    (hsame : chain.root = chain'.root ∧ key = key' ∧ entry = entry' ∨
      ¬v.db.coordinator.Apart t chain.root ∧ ¬v.db.coordinator.Apart t chain'.root) :
    Both True (Isolated t) (writeDirect chain key entry) (writeDirect chain' key' entry') w v := by
  refine endsBoth_of_ends (writeDirect_healthy h.steady.healthy chain key entry)
    (writeDirect_healthy h.steady'.healthy chain' key' entry') ?_
  rintro _ _ _ _ ⟨rfl, rfl⟩ ⟨rfl, rfl⟩
  -- Both writes succeed, so each store holds what it held, and the entry if it is the root.
  obtain ⟨hok, hhealthy⟩ := h.steady.healthy.write chain.root [(key, entry)]
  obtain ⟨hok', hhealthy'⟩ := h.steady'.healthy.write chain'.root [(key', entry')]
  refine .alike (h.of_alike (h.alike.onto rfl rfl h.alike.poisoned fun store hapart => ?_) rfl rfl
    hhealthy hhealthy')
  rw [show (w.withDisk _).disk.contents store = _ from (Disk.after_write_ok hok).contents store,
    show (v.withDisk _).disk.contents store = _ from (Disk.after_write_ok hok').contents store,
    h.alike.contents store hapart]
  rcases hsame with ⟨hroot, rfl, rfl⟩ | ⟨hother, hother'⟩
  · rw [hroot]
  · rw [Contents.afterWrites_singleton_of_ne, Contents.afterWrites_singleton_of_ne]
    · exact fun heq : chain'.root = store => hother' (heq ▸ hapart)
    · exact fun heq : chain.root = store => hother (heq ▸ hapart)

/-- Another table's root is not apart. -/
theorem not_apart {c d : Coordinator} (hregistered : c.registered = d.registered) {table : Nat}
    {chain : Chain} (hchain : c.tables[table]? = some chain) (hne : table ≠ t) :
    ¬d.Apart t chain.root := by
  intro hapart
  refine hne (hapart.roots table chain.name ?_)
  rw [← hregistered, Coordinator.registered_of_table hchain]

theorem flushOldest_registered (w : World) (hnames : w.db.coordinator.tableNames.Nodup)
    (count : Nat) : (flushOldest count).Ends w fun _ w' =>
      w'.db.coordinator.registered = w.db.coordinator.registered := by
  refine (flushOldest_ends w hnames count).mono fun r w' hend => ?_
  rcases hend.sameStacks with hsame | hsame
  · exact hsame.registered
  · exact hsame.registered.trans (Coordinator.registered_mapTables _ fun _ => ⟨rfl, rfl⟩)

/-- The same entry is written to the same table, or entries to other tables
than `t`, which are registered. -/
theorem writeEntry_isolated (h : w.Isolated t v) (hw : w.db.coordinator.Sound)
    (hv : v.db.coordinator.Sound) {table table' : Nat} {key key' : Bytes} {entry entry' : Entry}
    (hsame : table = table' ∧ key = key' ∧ entry = entry' ∨ table ≠ t ∧ table' ≠ t)
    (hknown : table < v.db.coordinator.tables.length ↔ table' < v.db.coordinator.tables.length) :
    Both True (Isolated t) (writeEntry table key entry) (writeEntry table' key' entry') w v := by
  have hR := parallel_isolated t
  unfold writeEntry
  refine both_ensureRunning hR h fun _ => both_get hR h fun chains ahead published hc => ?_
  rw [← hc]
  have hlength := h.alike.length_tables
  by_cases hlt : table < v.db.coordinator.tables.length
  · obtain ⟨chain, hchain⟩ : ∃ chain, w.db.coordinator.tables[table]? = some chain :=
      ⟨_, List.getElem?_eq_getElem (hlength ▸ hlt)⟩
    obtain ⟨chain', hchain'⟩ : ∃ chain, v.db.coordinator.tables[table']? = some chain :=
      ⟨_, List.getElem?_eq_getElem (hknown.mp hlt)⟩
    have hdepth : chain.depth = chain'.depth := by
      rw [hw.depth_eq (List.mem_of_getElem? hchain), hv.depth_eq (List.mem_of_getElem? hchain'), hc]
      rfl
    -- An entry for another table is written to a root that is not compared.
    have hdirect : ∀ {w' v' : World}, w'.Isolated t v' →
        v'.db.coordinator.registered = v.db.coordinator.registered →
        Both True (Isolated t) (writeDirect chain key entry) (writeDirect chain' key' entry')
          w' v' := by
      intro w' v' h' hregistered
      refine writeDirect_isolated h' ?_
      rcases hsame with ⟨rfl, rfl, rfl⟩ | ⟨hne, hne'⟩
      · refine .inl ⟨?_, rfl, rfl⟩
        have hroot := congrArg (·[table]?) h.alike.registered
        simp only [Coordinator.registered_of_table hchain, Coordinator.registered_of_table hchain',
          Option.some.injEq, Prod.mk.injEq] at hroot
        exact hroot.2
      · exact .inr ⟨not_apart (h.alike.registered.trans hregistered.symm) hchain hne,
          not_apart hregistered.symm hchain' hne'⟩
    rw [hchain, hchain']
    show Both True (Isolated t) (if 0 < chain.depth then _ else _)
      (if 0 < chain'.depth then _ else _) w v
    rw [hdepth, h.alike.pending]
    -- The newest live layer takes the entry, or else a root, after a flush if any is pending.
    refine both_ite Iff.rfl (fun _ => ?_) fun _ => both_ite Iff.rfl (fun _ => ?_) fun _ => ?_
    · have hput : ∀ (c : Coordinator) (table : Nat) (key : Bytes) (entry : Entry),
          (c.modifyTable table (·.modifyHead (·.put key entry))).registered = c.registered :=
        fun c table key entry =>
          c.registered_modifyTable table (Coordinator.name_root_modifyHead _)
      refine .alike (h.of_alike (modifyTable_alike h.alike (Coordinator.name_root_modifyHead _)
        (Coordinator.name_root_modifyHead _) ?_) (hput _ _ _ _) rfl h.steady.healthy
        h.steady'.healthy)
      rcases hsame with ⟨rfl, rfl, rfl⟩ | hothers
      · exact .inl ⟨rfl, rfl⟩
      · exact .inr hothers
    · exact (flushes_isolated t w v h _).bind_of (flushOldest_registered w h.steady.names _)
        (flushOldest_registered v h.steady'.names _) fun _ w' v' h' _ hregistered =>
          hdirect h' hregistered
    · exact hdirect h rfl
  · rw [List.getElem?_eq_none (hlength ▸ Nat.not_lt.mp hlt),
      List.getElem?_eq_none (Nat.not_lt.mp (mt hknown.mpr hlt))]
    exact both_pure h ()

/-! ### Registering and checking -/

/-- The same table is registered in both. -/
theorem register_alike (h : w.AlikeAt t v) (chain : Chain) :
    let f : Coordinator → Coordinator := fun c => { c with tables := c.tables ++ [chain] }.bump
    (w.withCoordinator (f w.db.coordinator)).AlikeAt t
      (v.withCoordinator (f v.db.coordinator)) := by
  intro f
  have hregistered : ∀ c : Coordinator,
      (f c).registered = c.registered ++ [(chain.name, chain.root)] := fun _ => List.map_append
  refine ⟨?_, ?_, ?_, h.poisoned, fun store hapart => h.contents store ⟨hapart.journal, ?_⟩⟩
  · obtain ⟨chains, published, hc⟩ := h.coordinator
    refine ⟨chains ++ [chain], published, ?_⟩
    rw [hc]
    rfl
  · exact (hregistered _).trans (h.registered ▸ (hregistered _).symm)
  · show (w.db.coordinator.tables ++ [chain])[t]? = (v.db.coordinator.tables ++ [chain])[t]?
    rw [List.getElem?_append, List.getElem?_append, h.table, h.length_tables]
  · intro table name hentry
    refine hapart.roots table name ?_
    show (f v.db.coordinator).registered[table]? = _
    rw [hregistered, List.getElem?_append_left (List.getElem?_eq_some_iff.mp hentry).1]
    exact hentry

theorem addTable_alike (h : w.AlikeAt t v) (name root : String) :
    Both True (AlikeAt t) (addTable name root) (addTable name root) w v := by
  have hR := parallel_alikeAt t
  have hlength := h.length_tables
  have hknown : (w.db.coordinator.tableIndex? name).isSome =
      (v.db.coordinator.tableIndex? name).isSome := by
    rw [Coordinator.tableIndex?_isSome, Coordinator.tableIndex?_isSome, Coordinator.tableNames_eq,
      Coordinator.tableNames_eq, h.registered]
  unfold addTable
  refine both_ensureRunning hR h fun _ => both_get hR h fun chains ahead published hc => ?_
  rw [← hc, hknown, hlength]
  refine both_ite Iff.rfl (fun _ => both_fail h _) fun _ => ?_
  rw [hc]
  exact both_change (both_note hR (register_alike h _) _ _ fun h₁ => both_pure h₁ _)

/-- Where the journal holds no record, a check finds nothing to recover and
nothing wrong in either world. -/
theorem check_alike (h : w.AlikeAt t v) (hw : w.db.coordinator.Sound) (hv : v.db.coordinator.Sound)
    (hrecord : w.NoRecord) (hrecord' : v.NoRecord) :
    Both True (AlikeAt t) check check w v := by
  have hrecover : EndsBoth True recoverRunning recoverRunning w v fun _ w' v' =>
      w' = w ∧ v' = v := by
    refine endsBoth_of_ends (recoverRunning_of_noRecord hrecord)
      (recoverRunning_of_noRecord hrecord') ?_
    rintro _ _ _ _ ⟨rfl, rfl⟩ ⟨rfl, rfl⟩
    exact .alike ⟨rfl, rfl⟩
  have hlength := h.length_tables
  unfold check
  refine hrecover.bind ?_ ?_
  · rintro recovered w' v' ⟨rfl, rfl⟩
    refine both_get (parallel_alikeAt t) h fun chains ahead published hc => ?_
    rw [← hc, hw.checkChains?_eq_none, hv.checkChains?_eq_none, hlength, hc]
    exact both_pure h _
  · rintro fault w' v' ⟨rfl, rfl⟩
    exact h

end Operation

/-! ### What can be told of a table -/

namespace World

/-- What can be told of table `t`, and of what all tables share, is the same
in both worlds: levels, pending, mode, cursor, generation, sessions and the
open unit of work; the table's layers with their seals, and its root; every
read of it and every walk over it. -/
structure MatchesAt (t : Nat) (w v : World) : Prop where
  coordinator : w.db.coordinator =
    { v.db.coordinator with
      tables := w.db.coordinator.tables
      published := w.db.coordinator.published }
  mode : w.db.coordinator.mode = v.db.coordinator.mode
  registered : w.db.coordinator.registered = v.db.coordinator.registered
  poisoned : w.db.poisoned = v.db.poisoned
  table : w.db.coordinator.tables[t]? = v.db.coordinator.tables[t]?
  root : ∀ chain, w.db.coordinator.tables[t]? = some chain →
    w.disk.contents chain.root = v.disk.contents chain.root
  get : ∀ (table : Table) (key : Bytes), table.index = t →
    ((table.get? key).perform w).1 = ((table.get? key).perform v).1
  iterate : ∀ table : Table, (table.iterate.perform w).1 = (table.iterate.perform v).1
  next : ∀ iter : TableIter, iter.table.index = t → iter.next w = iter.next v
  scan : ∀ table : Table, table.index = t →
    (table.scan.perform w).1 = (table.scan.perform v).1

namespace Isolated

variable {t : Nat} {w v : World}

open Operation

/-- The root of `t` is apart from the other tables. -/
theorem root (h : w.Isolated t v) {chain : Chain}
    (hchain : w.db.coordinator.tables[t]? = some chain) :
    w.disk.contents chain.root = v.disk.contents chain.root := by
  have hchain' : v.db.coordinator.tables[t]? = some chain := h.alike.table ▸ hchain
  refine h.alike.contents _
    ⟨(h.steady'.distinct.journal_ne (List.mem_of_getElem? hchain')).symm,
      fun table name hentry => ?_⟩
  obtain ⟨other, hother, -, heq⟩ := Coordinator.exists_table_of_registered hentry
  exact h.steady'.distinct.table_unique hother hchain' heq

theorem get?_eq (h : w.Isolated t v) (key : Bytes) :
    w.db.coordinator.get? w.disk t key = v.db.coordinator.get? v.disk t key := by
  unfold Coordinator.get?
  rw [← h.alike.table, h.alike.view]
  cases hchain : w.db.coordinator.tables[t]? with
  | none => rfl
  | some chain => simp only [Option.bind_eq_bind, Option.bind_some, h.root hchain]

theorem nextVisible?_eq (h : w.Isolated t v) (after : Option Bytes) :
    w.db.coordinator.nextVisible? w.disk t after =
      v.db.coordinator.nextVisible? v.disk t after := by
  unfold Coordinator.nextVisible?
  rw [← h.alike.table, h.alike.view]
  cases hchain : w.db.coordinator.tables[t]? with
  | none => rfl
  | some chain => simp only [Option.bind_eq_bind, Option.bind_some, h.root hchain]

theorem generation_eq (h : w.Isolated t v) :
    w.db.coordinator.generation = v.db.coordinator.generation := by
  obtain ⟨chains, published, hc⟩ := h.alike.coordinator
  rw [hc]
  exact Nat.zero_add _

theorem next_eq (h : w.Isolated t v) {iter : TableIter} (ht : iter.table.index = t) :
    iter.next w = iter.next v := by
  unfold TableIter.next
  simp only [ht, h.alike.poisoned, h.generation_eq, h.nextVisible?_eq]

theorem collect_eq (h : w.Isolated t v) (fuel : Nat) {iter : TableIter}
    (ht : iter.table.index = t) : iter.collect w fuel = iter.collect v fuel := by
  induction fuel generalizing iter with
  | zero => rfl
  | succ fuel ih =>
    have htable := congrArg Table.index (iter.table_next v)
    unfold TableIter.collect
    rw [h.next_eq ht]
    generalize iter.next v = step at htable ⊢
    obtain ⟨_ | item, later⟩ := step
    · rfl
    · exact congrArg (item :: ·) (ih (htable.trans ht))

theorem iterate_both (h : w.Isolated t v) (table : Table) :
    Both False (Isolated t) table.iterate table.iterate w v := by
  refine Both.locked (parallel_isolated t) h fun _ => ?_
  have hread : Both False (Isolated t)
      (pure ⟨table, w.db.coordinator.generation, none, false⟩ : Operation TableIter)
      (pure ⟨table, v.db.coordinator.generation, none, false⟩) w v := by
    rw [h.generation_eq]
    exact both_pure h _
  exact hread

theorem scan_both (h : w.Isolated t v) {table : Table} (ht : table.index = t) :
    Both False (Isolated t) table.scan table.scan w v := by
  have htable : ∀ w : World, table.iterate.Ends w fun r _ => ∀ iter, r = .ok iter →
      iter.table.index = t := by
    intro w
    unfold Table.iterate
    rw [ends_locked]
    split
    · exact nofun
    · rintro iter heq
      obtain rfl := Except.ok.inj heq
      exact ht
  unfold Table.scan
  -- Both walks are over the table `t`, whose chain and root are the same.
  refine (h.iterate_both table).bind_of (htable w) (htable v) fun iter w' v' h' hiter _ =>
    both_read ?_
  rw [ht, ← h'.alike.table]
  simp only [h'.collect_eq _ (hiter iter rfl)]
  cases hchain : w'.db.coordinator.tables[t]? with
  | none => exact both_pure h' _
  | some chain =>
    simp only [h'.root hchain]
    exact both_pure h' _

/-- What can be told of isolated worlds is the same. -/
theorem matchesAt (h : w.Isolated t v) : w.MatchesAt t v := by
  obtain ⟨chains, published, hc⟩ := h.alike.coordinator
  -- All but the tables and what was published is shared.
  have hcoordinator : w.db.coordinator =
      { v.db.coordinator with
        tables := w.db.coordinator.tables
        published := w.db.coordinator.published } := by
    rw [hc]
    unfold Coordinator.retabled
    simp only [Nat.zero_add]
  refine
    { coordinator := hcoordinator
      mode := by rw [hcoordinator]; rfl
      registered := h.alike.registered
      poisoned := h.alike.poisoned
      table := h.alike.table
      root := fun chain hchain => h.root hchain
      get := fun table key ht => ?_
      iterate := fun table => (endsBoth_iff.mp (h.iterate_both table)).1
      next := fun iter ht => h.next_eq ht
      scan := fun table ht => ?_ }
  · have hget : Both False (Isolated t) (table.get? key) (table.get? key) w v := by
      refine Both.locked (parallel_isolated t) h fun _ => both_read ?_
      rw [ht, h.get?_eq key]
      exact both_pure h _
    exact (endsBoth_iff.mp hget).1
  · exact (endsBoth_iff.mp (h.scan_both ht)).1

end Isolated

end World

/-! ### Runs -/

/-- Whether the command writes to another table than `t`. -/
def Command.writesOther (t : Nat) : Command → Bool
  | write table _ _ => table.index ≠ t
  | _ => false

/-- The second command is the first, or both write to other tables than
`t`. -/
def Command.Swaps (t : Nat) (command command' : Command) : Prop :=
  command = command' ∨ command.writesOther t ∧ command'.writesOther t

instance (t : Nat) (command command' : Command) : Decidable (command.Swaps t command') :=
  inferInstanceAs (Decidable (_ ∨ _))

/-- Whether the command writes to a registered table, if it writes. -/
def Command.tableRegistered (c : Coordinator) : Command → Bool
  | write table _ _ => table.index < c.tables.length
  | _ => true

namespace World

/-- Whether every write of the run is made to a table that is registered by
then. -/
def writesRegistered (w : World) : List Command → Bool
  | [] => true
  | command :: rest =>
    command.tableRegistered w.db.coordinator && writesRegistered (command.run.perform w).2 rest

section
variable {t : Nat} {w v : World}

open Operation in
/-- The same entry is written in both worlds, or each of them writes one to
a table other than `t`. -/
theorem write_isolated (h : w.Isolated t v) (hw : w.db.coordinator.Sound)
    (hv : v.db.coordinator.Sound) {table table' : Table} {key key' : Bytes} {entry entry' : Entry}
    (hsame : table.index = table'.index ∧ key = key' ∧ entry = entry' ∨
      table.index ≠ t ∧ table'.index ≠ t)
    (hlt : table.index < v.db.coordinator.tables.length)
    (hlt' : table'.index < v.db.coordinator.tables.length) :
    Both True (Isolated t) (Command.write table key entry).run
      (Command.write table' key' entry').run w v :=
  Both.bind (Both.locked (parallel_isolated t) h fun _ =>
    writeEntry_isolated h hw hv hsame (iff_of_true hlt hlt'))
    fun _ _ _ h' => both_pure h' Reply.done

open Operation in
/-- One command is carried out in both worlds, or two writes to other tables
than `t`. -/
theorem run_swapped {stores : String → Contents} (h : w.AlikeAt t v) (hw : w.Ready stores)
    (hv : v.Ready stores) {command command' : Command} (hswaps : command.Swaps t command')
    (hknown : command.tableRegistered w.db.coordinator)
    (hknown' : command'.tableRegistered v.db.coordinator) :
    Both True (AlikeAt t) command.run command'.run w v := by
  have hisolated : w.Isolated t v := ⟨h, hw.steady, hv.steady⟩
  have halike : ∀ {body body' : Operation Reply}, Both True (Isolated t) body body' w v →
      Both True (AlikeAt t) body body' w v := fun hboth => hboth.mono fun _ _ h' => h'.alike
  rcases hswaps with rfl | ⟨hother, hother'⟩
  · -- What is neither a write, a check nor a registration treats all tables alike.
    cases command with
    | addTable name root =>
      exact Both.bind (Both.locked (parallel_alikeAt t) h fun _ =>
        (addTable_alike h name root).bind fun index _ _ h' => both_pure h' (⟨index, name⟩ : Table))
        fun table _ _ h' => both_pure h' (Reply.table table)
    | check =>
      exact Both.bind (Both.locked (parallel_alikeAt t) h fun _ =>
        check_alike h hw.sound hv.sound hw.noRecord hv.noRecord)
        fun report _ _ h' => both_pure h' (Reply.report report)
    | write table key entry =>
      exact halike (write_isolated hisolated hw.sound hv.sound (.inl ⟨rfl, rfl, rfl⟩)
        (of_decide_eq_true hknown') (of_decide_eq_true hknown'))
    | _ =>
      exact halike (Command.run_both (parallel_isolated t) (flushes_isolated t) hisolated hw.sound
        hv.sound trivial)
  · cases command with
    | write table key entry =>
      cases command' with
      | write table' key' entry' =>
        -- The two tables are known in their own worlds, which have as many.
        exact halike (write_isolated hisolated hw.sound hv.sound
          (.inr ⟨of_decide_eq_true hother, of_decide_eq_true hother'⟩)
          (h.length_tables ▸ of_decide_eq_true hknown) (of_decide_eq_true hknown'))
      | _ => cases hother'
    | _ => cases hother

/-- Both runs have come to worlds that are alike at `t`, and both have done
what the plain model does. -/
structure Paired (stores : String → Contents) (t : Nat) (w v : World) : Prop where
  alike : w.AlikeAt t v
  ready : w.Ready stores
  ready' : v.Ready stores
  limit : w.plain.WithinLimit
  limit' : v.plain.WithinLimit

theorem Paired.isolated {stores : String → Contents} (h : w.Paired stores t v) :
    w.Isolated t v := ⟨h.alike, h.ready.steady, h.ready'.steady⟩

/-- A step of both runs answers the same, if no record is too long to be
encoded. -/
theorem Paired.step {stores : String → Contents} (h : w.Paired stores t v)
    {command command' : Command} (hswaps : command.Swaps t command')
    (hknown : command.tableRegistered w.db.coordinator)
    (hknown' : command'.tableRegistered v.db.coordinator)
    (hdistinct : (command.run.perform w).2.db.coordinator.DistinctStores)
    (hencodable : (command.run.perform w).1 ≠ .error (.error .unencodable))
    (hencodable' : (command'.run.perform v).1 ≠ .error (.error .unencodable)) :
    (command.run.perform w).1 = (command'.run.perform v).1 ∧
      (command.run.perform w).2.Paired stores t (command'.run.perform v).2 := by
  have hends := run_swapped h.alike h.ready h.ready' hswaps hknown hknown'
  have hfollows : Follows stores (w.plain.run stores command) (command.run.perform w).1
    (command.run.perform w).2 := command.run_follows h.ready h.limit hdistinct
  have hfollows' : (command'.run.perform v).2.db.coordinator.DistinctStores →
      Follows stores (v.plain.run stores command') (command'.run.perform v).1
        (command'.run.perform v).2 := command'.run_follows h.ready' h.limit'
  unfold Operation.Both Operation.EndsBoth at hends
  generalize command.run.perform w = ended at *
  generalize command'.run.perform v = ended' at *
  cases hends with
  | unfit => exact absurd rfl hencodable
  | unfit' => exact absurd rfl hencodable'
  | @alike r w' v' halike =>
    -- Each world did what the plain model does, and so it can take the next step.
    have hdistinct' : v'.db.coordinator.DistinctStores := by
      rw [Coordinator.distinctStores_iff, ← halike.registered, ← halike.journal,
        ← Coordinator.distinctStores_iff]
      exact hdistinct
    obtain hfault | ⟨-, hplain, hready⟩ := hfollows
    · exact absurd hfault hencodable
    obtain hfault | ⟨-, hplain', hready'⟩ := hfollows' hdistinct'
    · exact absurd hfault hencodable'
    exact ⟨rfl, halike, hready, hready', hplain ▸ h.limit.run stores command,
      hplain' ▸ h.limit'.run stores command'⟩

/-- The answers of both runs are the same, and after each command the worlds
are isolated. -/
theorem runAll_isolated {stores : String → Contents} (h : w.Paired stores t v)
    {commands commands' : List Command} (hswaps : List.Forall₂ (Command.Swaps t) commands commands')
    (hknown : w.writesRegistered commands) (hknown' : v.writesRegistered commands')
    (hdistinct : (w.runAll commands).db.coordinator.DistinctStores)
    (hencodable : .error (.error .unencodable) ∉ w.replies commands)
    (hencodable' : .error (.error .unencodable) ∉ v.replies commands') :
    w.replies commands = v.replies commands' ∧
      ∀ n, (w.runAll (commands.take n)).Isolated t (v.runAll (commands'.take n)) := by
  -- The induction is on both runs; the first step leaves worlds that are paired again.
  induction hswaps generalizing w v with
  | nil =>
    refine ⟨rfl, fun n => ?_⟩
    rw [List.take_nil]
    exact h.isolated
  | @cons command command' rest rest' hswap hrest ih =>
    simp only [replies, List.mem_cons, not_or] at hencodable hencodable'
    rw [writesRegistered, Bool.and_eq_true] at hknown hknown'
    obtain ⟨hreply, h'⟩ := h.step hswap hknown.1 hknown'.1
      (distinctStores_of_runAll h.ready.sound [command] rest hdistinct) (Ne.symm hencodable.1)
      (Ne.symm hencodable'.1)
    obtain ⟨hreplies, hsteps⟩ := ih h' hknown.2 hknown'.2 hdistinct hencodable.2 hencodable'.2
    refine ⟨?_, fun n => ?_⟩
    · rw [replies, replies, hreply, hreplies]
    · cases n with
      | zero => exact h.isolated
      | succ n => exact hsteps n

end

/-! ### Main theorem -/

/-- Two runs from the same start take the same steps, except that writes to
other tables than `t` differ: other keys, other entries, or other tables that
are not `t`. The stores are distinct and do not fail, and the journal holds no
record at the start.

Both runs give the same answers, so each command succeeds in both or in
neither. After each command, what can be told of `t` and of what all tables
share is the same in both worlds.

No record of a flush may have a length that four bytes do not hold. A flush
reports an i/o failure else, whatever table the entry is of that is too
long. -/
theorem tables_isolated (disk : Disk) (configuration : Configuration) (journal : String)
    (handlers : List Handler) (hhealthy : disk.Healthy)
    (hrecord : (disk.contents journal).get? Journal.key = none) (t : Nat)
    (commands commands' : List Command)
    (hswaps : List.Forall₂ (Command.Swaps t) commands commands') :
    let w := opened disk configuration journal handlers
    w.writesRegistered commands → w.writesRegistered commands' →
    (w.runAll commands).db.coordinator.DistinctStores →
    .error (.error .unencodable) ∉ w.replies commands →
    .error (.error .unencodable) ∉ w.replies commands' →
    w.replies commands = w.replies commands' ∧
    ∀ n, (w.runAll (commands.take n)).MatchesAt t (w.runAll (commands'.take n)) := by
  intro w hknown hknown' hdistinct hencodable hencodable'
  have hready : w.Ready disk.contents := ready_opened configuration handlers hhealthy hrecord
  have hlimit : w.plain.WithinLimit := PlainDatabase.withinLimit_opened configuration
  have hpaired : w.Paired disk.contents t w := ⟨.refl t w, hready, hready, hlimit, hlimit⟩
  obtain ⟨hreplies, hsteps⟩ :=
    runAll_isolated hpaired hswaps hknown hknown' hdistinct hencodable hencodable'
  exact ⟨hreplies, fun n => (hsteps n).matchesAt⟩

/-- A layer of `t` is pending above which nothing is live, so a write to
another table moves it into the root. The two runs write other entries, and
at last to other tables. -/
theorem tables_isolated_pending_flush :
    let configuration : Configuration := { maxSize := 1, maxFlushCount := 2 }
    let unit (write : Command) := [.openSession false,
      .write ⟨0, "t"⟩ [1] (.value [10]), write, .commit, .openSession false, .revoke]
    let tables := [Command.addTable "t" "left", .addTable "a" "middle", .addTable "b" "right"]
    let commands := tables ++ unit (.write ⟨1, "a"⟩ [1] (.value [20])) ++
      [.write ⟨1, "a"⟩ [2] (.value [30])]
    let commands' := tables ++ unit (.write ⟨1, "a"⟩ [3] (.value [40, 41])) ++
      [.write ⟨2, "b"⟩ [1] .tombstone]
    let w := opened .empty configuration "journal" []
    (w.runAll (commands.take 9)).db.coordinator.levels = [1] ∧
      (w.runAll (commands.take 9)).db.coordinator.pending = 1 ∧
      (w.runAll commands').db.coordinator.levels = [] ∧
      ((w.runAll commands).disk.contents "middle").toList = [([1], [20]), ([2], [30])] ∧
      ((w.runAll commands').disk.contents "middle").toList = [([3], [40, 41])] ∧
      ((w.runAll commands').disk.contents "left").toList = [([1], [10])] ∧
      w.replies commands = w.replies commands' ∧
      ∀ n, (w.runAll (commands.take n)).MatchesAt 0 (w.runAll (commands'.take n)) := by
  intro configuration unit tables commands commands' w
  have hswaps : List.Forall₂ (Command.Swaps 0) commands commands' := by decide
  obtain ⟨hreplies, hmatches⟩ := tables_isolated .empty configuration "journal" []
    (fun _ => rfl) rfl 0 commands commands' hswaps (by decide +kernel) (by decide +kernel)
    ((Coordinator.distinctStores_iff _).mpr (by decide +kernel)) (by decide +kernel)
    (by decide +kernel)
  exact ⟨by decide +kernel, by decide +kernel, by decide +kernel, by decide +kernel,
    by decide +kernel, by decide +kernel, hreplies, hmatches⟩

end World

end LayeredStore

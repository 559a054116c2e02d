import LayeredStore.Proofs.Leftovers
import LayeredStore.Proofs.Standstill

/-!
# `LayeredStore.Proofs.WriteEffect`: what a write changes, and what it leaves alone

A write goes to the newest layer of its table if one is live, and to the
root if none is. In the second case there may still be pending layers,
which would hide what is written below them, so they are flushed first:
a write to one table then moves the layers of every table, and can stop
at any write of that flush.

Whichever way it goes, a write that succeeds puts its entry into the map
that its table reads as at the head, and does nothing else that can be
read there; one that fails does nothing that can be read there at all.

* `headMap_put`, `headMap_writeRoot`: the two ways an entry is written.
* `headMap_flush`: a flush of pending layers, however it ends.
* `Operation.Wrote.headMap`: all ways that a write can go.
* `World.Written` says what a write that succeeds does, and
  `write_effect` that it does it, in every state that can be reached.
-/

set_option autoImplicit false

namespace LayeredStore

namespace Chain

/-- The layers that can still be discarded, oldest first. -/
def live (chain : Chain) : List Layer := chain.layers.drop chain.pending

/-- An entry that is put into the newest layer is put into the map. -/
theorem overlay_put (root : Contents) (older : List Layer) (head : Layer) (key : Bytes)
    (entry : Entry) : root.overlay (diffs (older ++ [head.put key entry])) =
      (root.overlay (diffs (older ++ [head]))).put key entry := by
  have hconcat : ∀ newest : Layer, root.overlay (diffs (older ++ [newest])) =
      (root.overlay (diffs older)).apply newest.diff.toList := by
    intro newest
    rw [diffs, List.map_append, Contents.overlay_append]
    rfl
  apply OrderedMap.ext_get?
  intro other
  rw [Contents.get?_put, hconcat, hconcat, Contents.get?_apply_toList, Contents.get?_apply_toList,
    Layer.diff_put, OrderedMap.get?_insert]
  by_cases hkey : key = other
  · rw [if_pos hkey, if_pos hkey]
  · rw [if_neg hkey, if_neg hkey]

end Chain

namespace World

/-- The live layers of a table. -/
def live? (w : World) (table : Nat) : Option (List Layer) :=
  w.db.coordinator.tables[table]?.map Chain.live

section
variable {w w' : World}

/-- The view of the head looks at all layers. -/
theorem mapThrough_head (w : World) (table : Nat) :
    w.mapThrough (.head 0) table = w.headMap table := by
  rw [mapThrough, Coordinator.shown, Nat.zero_min, Nat.sub_zero]
  rfl

/-- At the head, lookups are answered from the map of all layers. -/
theorem lookup?_head (hsound : w.db.coordinator.Sound) (table : Nat) (key : Bytes) :
    w.lookup? (.head 0) table key = (w.headMap table).bind (·.get? key) := by
  rw [lookup?_eq hsound.uniform, mapThrough_head]

/-- A flush is not seen at the head, however it ends. -/
theorem headMap_flush (hsound : w.db.coordinator.Sound)
    (hstores : w.db.coordinator.DistinctStores) {n : Nat} {r : Except Fault Unit}
    (hn : n ≤ w.db.coordinator.levels.length) (h : FlushEnd w n r w') (table : Nat) :
    w'.headMap table = w.headMap table := by
  rw [← mapThrough_head, ← mapThrough_head]
  exact mapThrough_flushEnd h hsound.pending_le hstores (Coordinator.exposes_head_zero hn) table

/-- An entry that is put into the newest layer of a table is put into
the map of that table. -/
theorem headMap_put (hsound : w.db.coordinator.Sound) {written : Nat}
    (hlive : w.db.coordinator.pending < w.db.coordinator.levels.length) (key : Bytes)
    (entry : Entry) (table : Nat) :
    (w.withCoordinator (w.db.coordinator.modifyTable written
      (·.modifyHead (·.put key entry)))).headMap table =
        (w.headMap table).map fun map => if table = written then map.put key entry else map := by
  unfold headMap mapBelow
  show ((w.db.coordinator.tables.modify written _)[table]?).map _ = _
  rw [List.getElem?_modify, Option.map_eq_map, Option.map_map, Option.map_map]
  apply Option.map_congr
  intro chain hchain
  have hstep := hsound.chains chain (List.mem_of_getElem? hchain)
  by_cases hwritten : written = table
  · -- All layers are looked at, the newest one among them.
    obtain ⟨older, head, hlayers, -⟩ := hstep.exists_head hlive
    have hall : ∀ layers : List Layer, layers.length = w.db.coordinator.levels.length →
        layers.take w.db.coordinator.levels.length = layers :=
      fun layers hlength => List.take_of_length_le (Nat.le_of_eq hlength)
    have hlength := hstep.length_layers
    rw [hlayers] at hlength
    simp only [Function.comp, if_pos hwritten, if_pos hwritten.symm,
      Chain.modifyHead_of_concat hlayers (hstep.depth_pos hlive)]
    show (w.disk.contents chain.root).overlay (Chain.diffs
      (List.take w.db.coordinator.levels.length (older ++ [head.put key entry]))) = _
    rw [hlayers, hall _ hlength, hall _ (by simpa using hlength), Chain.overlay_put]
  · simp only [Function.comp, if_neg hwritten, if_neg (Ne.symm hwritten)]
    rfl

/-- Where there are no layers, an entry that is written to the root of a
table is put into the map of that table. -/
theorem headMap_writeRoot (hstores : w.db.coordinator.DistinctStores)
    (hdry : w.db.coordinator.levels = []) {written : Nat} {chain : Chain}
    (hchain : w.db.coordinator.tables[written]? = some chain) {key : Bytes} {entry : Entry}
    (hok : (w.disk.write chain.root [(key, entry)]).1 = .ok ()) (table : Nat) :
    (w.withDisk (w.disk.write chain.root [(key, entry)]).2).headMap table =
      (w.headMap table).map fun map => if table = written then map.put key entry else map := by
  unfold headMap mapBelow
  show w.db.coordinator.tables[table]?.map _ = _
  rw [Option.map_map]
  apply Option.map_congr
  intro other hother
  have hcontents := (Disk.after_write_ok hok).contents other.root
  -- Without layers the map of a table is what its root holds.
  simp only [Function.comp, hdry, List.length_nil, List.take_zero, Chain.diffs, List.map_nil,
    Contents.overlay_nil, withDisk]
  rw [hcontents]
  split
  · rename_i heq
    subst heq
    obtain rfl : chain = other := Option.some.inj (hchain.symm.trans hother)
    exact Contents.afterWrites_singleton _ _ _
  · rename_i hne
    refine Contents.afterWrites_singleton_of_ne fun hroot => hne ?_
    exact (hstores.table_unique hchain hother hroot).symm

/-- Where no level is live, no table has a live layer. -/
theorem live?_of_dry (hsound : w.db.coordinator.Sound)
    (hdry : w.db.coordinator.levels.length ≤ w.db.coordinator.pending) (table : Nat) :
    w.live? table = w.db.coordinator.registered[table]?.map fun _ => [] := by
  unfold live? Coordinator.registered
  rw [List.getElem?_map, Option.map_map]
  apply Option.map_congr
  intro chain hchain
  have hstep := hsound.chains chain (List.mem_of_getElem? hchain)
  rw [Chain.live, hstep.pending]
  exact List.drop_eq_nil_of_le (hstep.length_layers ▸ hdry)

end

/-- Above the pending levels nothing has changed but the newest layer of
one table: no level has come or gone, and every other live layer is as
it was. -/
structure Topped (w : World) (table : Nat) (w' : World) : Prop where
  depth : w'.db.coordinator.depth = w.db.coordinator.depth
  levels : w'.db.coordinator.levels.drop w'.db.coordinator.pending =
    w.db.coordinator.levels.drop w.db.coordinator.pending
  others : ∀ other ≠ table, w'.live? other = w.live? other
  older : ∀ layers, w.live? table = some layers → ∃ layers', w'.live? table = some layers' ∧
    layers'.map (·.seq) = layers.map (·.seq) ∧ layers'.dropLast = layers.dropLast

/-- What a write that succeeds does: at the head its table reads the key
as the entry says and all other keys as before, and the other tables
read as before; and of the live layers only the newest one of the table
has changed. -/
structure Written (w : World) (table : Table) (key : Bytes) (entry : Entry) (w' : World) :
    Prop where
  lookup : ∀ other key', w'.lookup? (.head 0) other key' =
    if other = table.index ∧ key' = key then entry.value? else w.lookup? (.head 0) other key'
  map : ∀ other map, w.ReadsAtHead other map →
    w'.ReadsAtHead other (if other = table.index then map.put key entry else map)
  live : w.Topped table.index w'

end World

namespace Operation.Wrote

open World

variable {w w' : World} {table : Table} {key : Bytes} {entry : Entry} {r : Except Fault Unit}

/-- A write puts its entry into the map of its table if it succeeds, and
changes no map otherwise. -/
theorem headMap (h : Wrote w table key entry r w') (horderly : w.Orderly)
    (hstores : w.db.coordinator.DistinctStores)
    (htable : table.index < w.db.coordinator.tables.length) (other : Nat) :
    w'.headMap other = (w.headMap other).map fun map =>
      if r = .ok () ∧ other = table.index then map.put key entry else map := by
  have hfailed : ∀ {r : Except Fault Unit}, r ≠ .ok () → w'.headMap other = w.headMap other →
      w'.headMap other = (w.headMap other).map fun map =>
        if r = .ok () ∧ other = table.index then map.put key entry else map := by
    intro r hr hsame
    rw [hsame]
    simp only [hr, false_and, if_false, Option.map_id']
  cases h with
  | nothing _ hunknown =>
    -- Only a write to a table that is not registered succeeds with nothing done.
    refine hfailed (fun hok => ?_) rfl
    have hnone := List.getElem?_eq_none_iff.mp (hunknown hok)
    omega
  | put _ _ hlive =>
    simp only [true_and]
    exact headMap_put horderly.sound hlive key entry other
  | stopped _ _ hflush =>
    exact hfailed nofun (headMap_flush horderly.sound hstores (Nat.le_refl _) hflush other)
  | @direct w₁ chain _ hrun hchain hdry hflush hr =>
    -- The flush is not seen at the head. After it no layer hides the root.
    have hmap := headMap_flush horderly.sound hstores (Nat.le_refl _) hflush other
    have hkeeps := keeps_of_flushEnd hflush hrun
    obtain ⟨chain₁, hchain₁, -, hroot⟩ := hkeeps.exists_chain hchain
    rw [← hroot] at hr hfailed ⊢
    by_cases hok : (w₁.disk.write chain₁.root [(key, entry)]).1 = .ok ()
    · simp only [hr.mpr hok, true_and]
      rw [headMap_writeRoot (hkeeps.distinctStores hstores) hflush.levels_of_all hchain₁ hok, hmap]
    · refine hfailed (mt hr.mp hok) (Eq.trans ?_ hmap)
      cases hwrite : (w₁.disk.write chain₁.root [(key, entry)]).1 with
      | ok u => exact absurd hwrite hok
      | error failure =>
        have hroots := (Disk.after_write_error hwrite).contents
        show (w₁.withDisk _).mapBelow other _ = w₁.mapBelow other _
        apply mapBelow_congr
        · rfl
        · exact fun chain _ => hroots chain.root

/-- Putting an entry into the newest layer of a table changes no other
live layer. -/
theorem topped_put (hsound : w.db.coordinator.Sound)
    (hlive : w.db.coordinator.pending < w.db.coordinator.levels.length) (written : Nat) :
    w.Topped written (w.withCoordinator
      (w.db.coordinator.modifyTable written (·.modifyHead (·.put key entry)))) := by
  have hput : ∀ other, (w.withCoordinator (w.db.coordinator.modifyTable written
      (·.modifyHead (·.put key entry)))).live? other = w.db.coordinator.tables[other]?.map
        fun chain => ((fun chain => if written = other then
          chain.modifyHead (·.put key entry) else chain) chain : Chain).live := by
    intro other
    show ((w.db.coordinator.tables.modify written _)[other]?).map _ = _
    rw [List.getElem?_modify, Option.map_eq_map, Option.map_map]
    rfl
  refine ⟨rfl, rfl, fun other hne => ?_, fun layers hlayers => ?_⟩
  · rw [hput]
    simp only [if_neg (Ne.symm hne)]
    rfl
  · obtain ⟨chain, hchain, rfl⟩ := Option.map_eq_some_iff.mp hlayers
    have hstep := hsound.chains chain (List.mem_of_getElem? hchain)
    obtain ⟨older, head, hconcat, -⟩ := hstep.exists_head hlive
    -- The newest layer is live, so the pending ones are among the older ones.
    have hpending : chain.pending ≤ older.length := by
      have hlength := hstep.length_layers
      rw [hconcat, List.length_append, List.length_singleton] at hlength
      rw [hstep.pending]
      omega
    refine ⟨older.drop chain.pending ++ [head.put key entry], ?_, ?_, ?_⟩
    · rw [hput, hchain]
      simp only [Option.map_some, if_true,
        Chain.modifyHead_of_concat hconcat (hstep.depth_pos hlive)]
      exact congrArg some (List.drop_append_of_le_length hpending)
    · rw [Chain.live, hconcat, List.drop_append_of_le_length hpending]
      simp
    · rw [Chain.live, hconcat, List.drop_append_of_le_length hpending, List.dropLast_concat,
        List.dropLast_concat]

/-- A write that succeeds changes no live layer but the newest one of its
table. -/
theorem topped (h : Wrote w table key entry (.ok ()) w') (horderly : w.Orderly)
    (hsound' : w'.db.coordinator.Sound) : w.Topped table.index w' := by
  cases h with
  | nothing => exact ⟨rfl, rfl, fun _ _ => rfl, fun layers hlayers => ⟨layers, hlayers, rfl, rfl⟩⟩
  | put _ _ hlive => exact topped_put horderly.sound hlive table.index
  | @direct w₁ chain _ hrun hchain hdry hflush hr =>
    -- No level is live before the flush, and none is left after it.
    have hlevels : w₁.db.coordinator.levels = [] := hflush.levels_of_all
    have hsame : ∀ other, (w₁.withDisk (w₁.disk.write chain.root [(key, entry)]).2).live? other =
        w.live? other := by
      intro other
      have hnone : w₁.db.coordinator.levels.length ≤ w₁.db.coordinator.pending := by
        rw [hlevels]
        exact Nat.zero_le _
      rw [live?_of_dry horderly.sound (Nat.le_of_eq hdry.symm), live?_of_dry hsound' hnone]
      exact congrArg (fun registered => registered[other]?.map fun _ => [])
        (keeps_of_flushEnd hflush hrun).registered
    refine ⟨?_, ?_, fun other _ => hsame other,
      fun layers hlayers => ⟨layers, (hsame _).trans hlayers, rfl, rfl⟩⟩
    · show w₁.db.coordinator.levels.length - _ = w.db.coordinator.levels.length - _
      rw [hlevels, hdry, Nat.sub_self, List.length_nil, Nat.zero_sub]
    · show w₁.db.coordinator.levels.drop _ = _
      rw [hlevels, List.drop_nil, hdry, List.drop_length]

/-- A write that succeeds does what it is to do. -/
theorem written (h : Wrote w table key entry (.ok ()) w') (horderly : w.Orderly)
    (hstores : w.db.coordinator.DistinctStores)
    (htable : table.index < w.db.coordinator.tables.length)
    (hsound' : w'.db.coordinator.Sound) : w.Written table key entry w' := by
  have hsound := horderly.sound
  have hmap := h.headMap horderly hstores htable
  simp only [true_and] at hmap
  refine ⟨fun other key' => ?_, fun other map hreads => ?_, h.topped horderly hsound'⟩
  · rw [lookup?_head hsound', lookup?_head hsound, hmap]
    cases hother : w.headMap other with
    | none =>
      -- The table that was written is registered, so it has a map.
      have hne : other ≠ table.index := by
        rintro rfl
        have hsome : (w.headMap table.index).isSome := (isSome_mapBelow_iff w _ _).mpr htable
        rw [hother] at hsome
        cases hsome
      rw [if_neg fun hboth => hne hboth.1]
      rfl
    | some map =>
      by_cases heq : other = table.index
      · simp only [heq, true_and, if_true, Option.map_some, Option.bind_some, Contents.get?_put,
          eq_comm (a := key)]
      · simp only [heq, false_and, if_false, Option.map_some]
  · rw [readsAtHead_iff hsound', hmap, (readsAtHead_iff hsound _ _).mp hreads]
    rfl

/-- A write that fails does nothing that can be read at the head. -/
theorem readsAlike (h : Wrote w table key entry r w') (hr : r ≠ .ok ()) (horderly : w.Orderly)
    (hstores : w.db.coordinator.DistinctStores)
    (htable : table.index < w.db.coordinator.tables.length)
    (hsound' : w'.db.coordinator.Sound) : ReadsAlike w (.head 0) w' (.head 0) := by
  refine readsAlike_of_mapThrough horderly.sound.uniform hsound'.uniform fun other => ?_
  have hmap := h.headMap horderly hstores htable other
  rw [mapThrough_head, mapThrough_head]
  simpa only [hr, false_and, if_false, Option.map_id'] using hmap

end Operation.Wrote

/-! ### Every state -/

namespace Operation

/-- A running database takes an entry if a level is live, or else if no
store is set to fail and the record of the pending layers can be
encoded. -/
theorem writeEntry_accepted {w : World} (hsound : w.db.coordinator.Sound)
    (hstopped : w.db.coordinator.stopped? = none) (table : Nat) (key : Bytes) (entry : Entry)
    (h : 0 < w.db.coordinator.depth ∨ w.disk.Healthy ∧
      (w.db.coordinator.netRecord w.db.coordinator.pending).fits = true) :
    (writeEntry table key entry).Ends w fun r _ => r = .ok () := by
  have hdepth : ∀ chain, w.db.coordinator.tables[table]? = some chain →
      chain.depth = w.db.coordinator.depth := fun chain hchain =>
    hsound.depth_eq (List.mem_of_getElem? hchain)
  have hdirect : ∀ (chain : Chain) (w₁ : World), w₁.disk.Healthy →
      (writeDirect chain key entry).Ends w₁ fun r _ => r = .ok () := by
    intro chain w₁ hd
    refine (writeDirect_ends w₁ _ key entry).mono fun r w' hend => ?_
    exact hend.1.mpr (hd.write _ _).1
  -- Where no level is live, the pending layers are flushed into stores that do
  -- not fail.
  have hdry : w.db.coordinator.depth = 0 → w.disk.Healthy ∧
      (w.db.coordinator.netRecord w.db.coordinator.pending).fits = true :=
    fun hzero => h.resolve_left (Nat.not_lt_of_le (Nat.le_of_eq hzero))
  apply writeEntry_rule
  case refused =>
    intro error herror
    cases hstopped.symm.trans herror
  case unknown => exact fun _ _ => rfl
  case put => exact fun _ _ _ _ => rfl
  case flushed =>
    intro chain _ hchain hzero _
    obtain ⟨hd, hfits⟩ := hdry ((hdepth chain hchain).symm.trans hzero)
    rw [← Nat.min_eq_left hsound.pending_le] at hfits
    refine (flushOldest_healthy w hsound.names hd _ hfits).mono fun r w₁ hend => ?_
    obtain ⟨rfl, hd₁⟩ := hend
    exact hdirect chain w₁ hd₁
  case direct =>
    intro chain _ hchain hzero _
    exact hdirect chain w (hdry ((hdepth chain hchain).symm.trans hzero)).1

end Operation

open Operation in
/-- So does the command, if the lock is free. -/
theorem Command.write_accepted {w : World} (hsound : w.db.coordinator.Sound)
    (hpoisoned : w.db.poisoned = false) (hstopped : w.db.coordinator.stopped? = none)
    (table : Table) (key : Bytes) (entry : Entry) (h : 0 < w.db.coordinator.depth ∨ w.disk.Healthy ∧
      (w.db.coordinator.netRecord w.db.coordinator.pending).fits = true) :
    (Command.write table key entry).run.Ends w fun r _ => r = .ok .done := by
  show (do table.write key entry; return .done : Operation Reply).Ends w _
  unfold Table.write
  rw [ends_bind, ends_locked, hpoisoned, if_neg Bool.false_ne_true]
  refine (writeEntry_accepted hsound hstopped table.index key entry h).mono ?_
  rintro _ w' rfl
  rfl

namespace World

open Operation

/-- **A write changes one key of one table, or nothing.** In every state
that can be reached, whether a level is live, none is, or there are only
pending ones that have to be flushed first: if the write succeeds, then
at the head its table reads the key as the entry says, every other key of
it and every other table reads as before, and of the live layers only the
newest one of the table has changed. If it fails, by whatever fault and
at whatever write to a store, every table reads at the head as before.
A running database takes the entry if a level is live, or if no store is
set to fail and the record of the pending layers can be encoded. -/
theorem write_effect (disk : Disk) (configuration : Configuration) (journal : String)
    (handlers : List Handler) (moves : List Move) (table : Table) (key : Bytes) (entry : Entry)
    (hstores :
      ((opened disk configuration journal handlers).play moves).db.coordinator.DistinctStores)
    (htable : table.index <
      ((opened disk configuration journal handlers).play moves).db.coordinator.tables.length) :
    let w := (opened disk configuration journal handlers).play moves
    (Command.write table key entry).run.Ends w fun r w' =>
      (r = .ok .done → w.Written table key entry w') ∧
      (r ≠ .ok .done → ReadsAlike w (.head 0) w' (.head 0)) ∧
      (w.db.poisoned = false → w.db.coordinator.stopped? = none →
        0 < w.db.coordinator.depth ∨ w.disk.Healthy ∧
          (w.db.coordinator.netRecord w.db.coordinator.pending).fits = true →
        r = .ok .done) := by
  intro w
  have horderly : w.Orderly := play_orderly disk configuration journal handlers moves
  have hafter : (Command.write table key entry).run.Ends w fun _ w' => w'.Orderly :=
    horderly.act (.call (.write table key entry))
  have haccepted : (Command.write table key entry).run.Ends w fun r _ =>
      w.db.poisoned = false → w.db.coordinator.stopped? = none →
        0 < w.db.coordinator.depth ∨ w.disk.Healthy ∧
          (w.db.coordinator.netRecord w.db.coordinator.pending).fits = true →
        r = .ok .done :=
    fun hpoisoned hstopped h =>
      Command.write_accepted horderly.sound hpoisoned hstopped table key entry h
  refine (((Command.write_wrote horderly table key entry).and hafter).and haccepted).mono
    fun r w' hend => ?_
  obtain ⟨⟨⟨r₁, w₁, hwrote, hr, hunlocks⟩, horderly'⟩, haccepted⟩ := hend
  refine ⟨fun hok => ?_, fun hfail => ?_, haccepted⟩
  · obtain rfl := hr.mpr hok
    rw [hunlocks.of_ok] at horderly' ⊢
    exact hwrote.written horderly hstores htable horderly'.sound
  · have hsound₁ : w₁.db.coordinator.Sound := hunlocks.same.1 ▸ horderly'.sound
    have hreads := hwrote.readsAlike (mt hr.mp hfail) horderly hstores htable hsound₁
    -- Leaving the lock changes nothing that is read.
    unfold ReadsAlike lookup? next? at hreads ⊢
    rw [hunlocks.same.1, hunlocks.same.2]
    exact hreads

/-- A unit of work has become pending and the next one was revoked, so no
level is live. Removing a key of one table moves the pending layer of
both tables into their roots before it is written. -/
theorem write_effect_over_pending :
    let w := (opened .empty { maxSize := 1 } "journal" []).play
      [.call (.addTable "a" "left"), .call (.addTable "b" "right"),
        .call (.openSession false), .call (.write ⟨0, "a"⟩ [1] (.value [10])),
        .call (.write ⟨1, "b"⟩ [1] (.value [20])), .call (.commitSession ⟨0, false, false⟩),
        .call (.openSession false), .call (.write ⟨0, "a"⟩ [2] (.value [11])),
        .call (.revokeSession ⟨1, false, false⟩)]
    w.db.coordinator.DistinctStores ∧ 0 < w.db.coordinator.tables.length ∧
      w.db.coordinator.depth = 0 ∧ w.db.coordinator.pending = 1 ∧
      (Command.write ⟨0, "a"⟩ [1] .tombstone).run.Ends w fun r w' =>
        r = .ok .done ∧ w'.lookup? (.head 0) 0 [1] = none ∧
          w'.lookup? (.head 0) 1 [1] = w.lookup? (.head 0) 1 [1] ∧
          w.lookup? (.head 0) 0 [1] = some [10] ∧ w'.db.coordinator.levels = [] := by
  intro w
  have hstores : w.db.coordinator.DistinctStores :=
    (Coordinator.distinctStores_iff _).mpr (by decide +kernel)
  have htable : 0 < w.db.coordinator.tables.length := by decide +kernel
  have heffect : (Command.write ⟨0, "a"⟩ [1] .tombstone).run.Ends w _ :=
    write_effect .empty { maxSize := 1 } "journal" [] _ ⟨0, "a"⟩ [1] .tombstone hstores htable
  refine ⟨hstores, htable, by decide +kernel, by decide +kernel, ?_⟩
  have hanswer : ((Command.write ⟨0, "a"⟩ [1] .tombstone).run.perform w).1 = .ok .done := by
    decide +kernel
  have hwritten := heffect.1 hanswer
  refine ⟨hanswer, (hwritten.lookup 0 [1]).trans rfl, hwritten.lookup 1 [1], by decide +kernel,
    by decide +kernel⟩

end World

end LayeredStore

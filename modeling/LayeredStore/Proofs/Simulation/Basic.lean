import LayeredStore.Proofs.Abstraction
import LayeredStore.Proofs.Commands

/-!
# `LayeredStore.Proofs.Simulation.Basic`: doing what the plain model does

`World.Ready` is what is assumed of a world: its stores are distinct and
none of them is set to fail, and the journal holds no record. From such
a world, every operation answers what its namesake in `PlainModel.lean`
does, leads to the plain maps that the namesake leads to, and to a world
that is ready again. There is one lemma per operation. This module has
those of the flush and of making layers pending, on which the others are
built.

* `World.Answers`: what is shown of operations that leave the disk
  alone.
* `World.Follows`: what is shown of all others. They can also report that
  the record of a flush is too long to be encoded.
* `flushOldest_follows`: moving layers into the roots flattens their
  diffs.
-/

set_option autoImplicit false

namespace LayeredStore

namespace World

variable {α : Type}

/-- The database runs over distinct stores that are not set to fail, the
journal holds no record, and the stores that are neither the journal nor
a root hold what `stores` says. -/
structure Ready (stores : String → Contents) (w : World) : Prop where
  sound : w.db.coordinator.Sound
  running : w.Running
  distinct : w.db.coordinator.DistinctStores
  healthy : w.disk.Healthy
  noRecord : w.NoRecord
  untouched : ∀ store, store ≠ w.db.coordinator.journal →
    store ∉ w.db.coordinator.registered.map (·.2) → w.disk.contents store = stores store

/-- The disk is the same, and the database runs if it did. -/
structure Still (w w' : World) : Prop where
  disk : w'.disk = w.disk
  poisoned : w'.db.poisoned = w.db.poisoned
  halted : w'.db.coordinator.halted = w.db.coordinator.halted

/-- An operation that left the disk alone ended as the plain model
expects. -/
structure Answers (expected : Except Error α × PlainDatabase) (w : World) (r : Except Fault α)
    (w' : World) : Prop where
  reply : r = expected.1.mapError .error
  plain : w'.plain = expected.2
  still : w.Still w'

/-- The record of a flush could not be encoded, or the operation ended as
the plain model expects, in a world that is ready. -/
def Follows (stores : String → Contents) (expected : Except Error α × PlainDatabase)
    (r : Except Fault α) (w' : World) : Prop :=
  r = .error (.error .unencodable) ∨
    (r = expected.1.mapError .error ∧ w'.plain = expected.2 ∧ w'.Ready stores)

section
variable {stores : String → Contents} {w w' w'' : World}

theorem Still.refl (w : World) : w.Still w := ⟨rfl, rfl, rfl⟩

theorem Still.trans (h : w.Still w') (h' : w'.Still w'') : w.Still w'' :=
  ⟨h'.disk.trans h.disk, h'.poisoned.trans h.poisoned, h'.halted.trans h.halted⟩

theorem Still.running (h : w.Still w') (hrun : w.Running) : w'.Running :=
  ⟨h.poisoned.trans hrun.1, h.halted.trans hrun.2⟩

/-- A world stays ready while the disk and the tables' names and roots
stay the same. -/
theorem Ready.congr (h : w.Ready stores) (hsound : w'.db.coordinator.Sound) (hstill : w.Still w')
    (hregistered : w'.db.coordinator.registered = w.db.coordinator.registered)
    (hjournal : w'.db.coordinator.journal = w.db.coordinator.journal) : w'.Ready stores where
  sound := hsound
  running := hstill.running h.running
  distinct := by
    rw [Coordinator.distinctStores_iff, hregistered, hjournal]
    exact (Coordinator.distinctStores_iff _).mp h.distinct
  healthy := hstill.disk ▸ h.healthy
  noRecord := by
    rw [NoRecord, hstill.disk, hjournal]
    exact h.noRecord
  untouched := by
    rw [hstill.disk, hregistered, hjournal]
    exact h.untouched

/-- A world stays ready while a table is registered over a store that was
not in use yet. The store still holds what it held at first. -/
theorem Ready.register (h : w.Ready stores) {name root : String}
    (hdistinct : w'.db.coordinator.DistinctStores) (hsound : w'.db.coordinator.Sound)
    (hstill : w.Still w')
    (hregistered : w'.db.coordinator.registered = w.db.coordinator.registered ++ [(name, root)])
    (hjournal : w'.db.coordinator.journal = w.db.coordinator.journal) :
    w.disk.contents root = stores root ∧ w'.Ready stores := by
  have hroots := (Coordinator.distinctStores_iff _).mp hdistinct
  rw [hjournal, hregistered, List.map_append, List.nodup_cons, List.nodup_append] at hroots
  obtain ⟨hjournalNew, -, -, hfresh⟩ := hroots
  constructor
  · refine h.untouched root ?_ fun hmem => hfresh root hmem root List.mem_cons_self rfl
    rintro rfl
    exact hjournalNew (List.mem_append_right _ List.mem_cons_self)
  · refine ⟨hsound, hstill.running h.running, hdistinct, hstill.disk ▸ h.healthy, ?_, ?_⟩
    · rw [NoRecord, hstill.disk, hjournal]
      exact h.noRecord
    · rw [hstill.disk, hjournal, hregistered, List.map_append]
      exact fun store hne hother => h.untouched store hne fun hmem =>
        hother (List.mem_append_left _ hmem)

theorem Ready.acts (h : w.Ready stores) (hpath : Actually w w') (hstill : w.Still w') :
    w'.Ready stores :=
  h.congr (hpath.sound h.sound) hstill hpath.keeps.registered hpath.keeps.journal

/-- Steps that left the disk alone before an answer. -/
theorem Answers.after {expected : Except Error α × PlainDatabase} {r : Except Fault α}
    (h : Answers expected w' r w'') (hstill : w.Still w') : Answers expected w r w'' :=
  ⟨h.reply, h.plain, hstill.trans h.still⟩

/-- Nothing else is to be shown of an operation that left the disk
alone. -/
theorem Ready.follows {expected : Except Error α × PlainDatabase} {r : Except Fault α}
    (h : w.Ready stores) (hpath : Actually w w') (hanswers : Answers expected w r w') :
    Follows stores expected r w' :=
  .inr ⟨hanswers.reply, hanswers.plain, h.acts hpath hanswers.still⟩

/-- An operation that the database refuses, or has nothing to do for,
leaves the world as it is. -/
theorem Ready.follows_self (h : w.Ready stores) (result : Except Error α) :
    Follows stores (result, w.plain) (result.mapError .error) w :=
  .inr ⟨rfl, rfl, h⟩

/-- An answer put after a success is the answer, in the same world. -/
theorem Follows.answer {p : PlainDatabase} (h : Follows stores (.ok (), p) (.ok ()) w')
    (answer : α) : Follows stores (.ok answer, p) (.ok answer) w' := by
  obtain hfull | ⟨-, hplain, hready⟩ := h
  · cases hfull
  · exact .inr ⟨rfl, hplain, hready⟩

theorem answers_self (w : World) (result : Except Error α) :
    Answers (result, w.plain) w (result.mapError .error) w :=
  ⟨rfl, rfl, .refl w⟩

end

end World

open World

/-! ### Flushes -/

/-- A flush that succeeds writes to the journal and to the roots
alone. -/
theorem FlushEnd.other_stores {w w' : World} {n : Nat} (h : FlushEnd w n (.ok ()) w')
    {store : String} (hjournal : store ≠ w.db.coordinator.journal)
    (hroots : store ∉ w.db.coordinator.registered.map (·.2)) :
    w'.disk.contents store = w.disk.contents store := by
  cases h with
  | nothing => rfl
  | finished hn hfits hafter hc =>
    refine (hafter.contents store).trans (Contents.afterWrites_of_forall_ne fun write hwrite => ?_)
    rintro rfl
    rcases List.mem_append.mp hwrite with hwrite | hwrite
    · rcases List.mem_cons.mp hwrite with rfl | hwrite
      · exact hjournal rfl
      · obtain ⟨chain, hmem, hroot, -⟩ := (Coordinator.mem_netWrites_iff _ _ _).mp hwrite
        refine hroots (List.mem_map.mpr ⟨(chain.name, chain.root), ?_, hroot⟩)
        exact List.mem_map_of_mem hmem
    · rw [List.mem_singleton.mp hwrite] at hjournal
      exact hjournal rfl

section
variable {stores : String → Contents} {w w' : World}

/-- A world is ready after a flush that has succeeded in it. -/
theorem World.Ready.flushed (h : w.Ready stores) {n : Nat} (hend : FlushEnd w n (.ok ()) w')
    (hpath : Quietly w w') (hrunning : w'.Running) (hhealthy : w'.disk.Healthy) :
    w'.Ready stores where
  sound := hpath.sound h.sound
  running := hrunning
  distinct := hpath.keeps.distinctStores h.distinct
  healthy := hhealthy
  noRecord := by
    rw [NoRecord, hpath.keeps.journal]
    exact hend.journal_of_ok h.noRecord
  untouched := by
    rw [hpath.keeps.journal, hpath.keeps.registered]
    intro store hjournal hroot
    rw [hend.other_stores hjournal hroot]
    exact h.untouched store hjournal hroot

/-- A flush that has succeeded has flattened the pending diffs and the
oldest live ones. -/
theorem World.Ready.plain_flushed (h : w.Ready stores) {count : Nat}
    (hend : FlushEnd w (w.db.coordinator.pending + count) (.ok ()) w') :
    w'.plain = w.plain.flatten count := by
  by_cases hzero : w.db.coordinator.pending + count = 0
  · -- Where there is nothing to flush, there is nothing to flatten either.
    cases hend with
    | nothing => exact (if_pos hzero).symm
    | finished hn => exact absurd hzero (Nat.ne_of_gt hn)
  -- The layers are gone, so every root was written.
  have hroots : ∀ chain ∈ w.db.coordinator.tables, w'.disk.contents chain.root =
      (w.disk.contents chain.root).overlay
        (Chain.diffs (chain.layers.take (w.db.coordinator.pending + count))) := by
    rcases hend.effect h.distinct with ⟨-, hempty, -⟩ | ⟨-, hroots⟩
    · exact absurd (hempty rfl) hzero
    · exact hroots
  have hplain := Coordinator.plain_dropOldest h.sound (Nat.pos_of_ne_zero hzero) hroots
  show _ = (w.db.coordinator.plain w.disk.contents).flatten count
  rw [← hplain]
  cases hend with
  | nothing hn => exact absurd hn hzero
  | finished _ _ _ hc =>
    subst hc
    exact Coordinator.plain_announce _ _

end

namespace Operation

section
variable {stores : String → Contents} {w : World}

theorem ends_ensureRunning_of_running (hrun : w.Running) (Q : Except Fault Unit → World → Prop) :
    ensureRunning.Ends w Q ↔ if w.plain.shutDown then
      Q (.error (.error (.illegalState .shutDown))) w else Q (.ok ()) w := by
  have hstopped : w.db.coordinator.stopped? =
      if w.plain.shutDown then some .shutDown else none := by
    rw [Coordinator.stopped?, hrun.2]
    rfl
  rw [ends_ensureRunning, hstopped]
  cases w.plain.shutDown <;> exact Iff.rfl

/-- Moving the pending layers and the oldest live ones into the roots
flattens their diffs. -/
theorem flushOldest_follows (h : w.Ready stores) {count : Nat}
    (hle : count ≤ w.db.coordinator.depth)
    (hopen : w.db.coordinator.openSeq?.isSome → count < w.db.coordinator.depth) :
    (flushOldest (w.db.coordinator.pending + count)).Ends w
      (Follows stores (.ok (), w.plain.flatten count)) := by
  let c := w.db.coordinator
  have hpending : c.pending ≤ c.levels.length := h.sound.pending_le
  have hlive : count ≤ c.levels.length - c.pending := hle
  have hmin : min (c.pending + count) c.levels.length = c.pending + count := by omega
  have hends := flushOldest_ends w h.sound.names (c.pending + count)
  rw [hmin] at hends
  cases hfits : (c.netRecord (c.pending + count)).fits with
  | false =>
    refine hends.mono fun r w' hend => ?_
    obtain ⟨hzero, rfl, rfl⟩ | ⟨rfl, -⟩ := hend.of_unfit hfits
    · exact .inr ⟨rfl, (if_pos hzero).symm, h⟩
    · exact .inl rfl
  | true =>
    have hhealthy := flushOldest_healthy w h.sound.names h.healthy (c.pending + count)
      (by rw [hmin]; exact hfits)
    have hbelow : c.openSeq?.isSome → c.pending + count < c.levels.length := by
      intro hsome
      have hlt : count < c.levels.length - c.pending := hopen hsome
      omega
    have hled := flushOldest_led h.sound h.running hbelow
    refine (hends.and (hhealthy.and hled)).mono fun r w' hall => ?_
    obtain ⟨hend, ⟨rfl, hhealthy'⟩, hpath, hrun⟩ := hall
    exact .inr ⟨rfl, h.plain_flushed hend, h.flushed hend hpath (hrun rfl) hhealthy'⟩

/-- All layers. -/
theorem flushOldest_all_follows (h : w.Ready stores) (hclosed : w.db.coordinator.openSeq? = none) :
    (flushOldest w.db.coordinator.levels.length).Ends w
      (Follows stores (.ok (), w.plain.flatten w.plain.live)) := by
  have hall : w.db.coordinator.levels.length =
      w.db.coordinator.pending + w.db.coordinator.depth := by
    have hle := h.sound.pending_le
    unfold Coordinator.depth
    omega
  rw [hall]
  refine flushOldest_follows h (Nat.le_refl _) fun hsome => ?_
  rw [hclosed] at hsome
  cases hsome

/-- The pending layers. -/
theorem flushOldest_pending_follows (h : w.Ready stores) :
    (flushOldest w.db.coordinator.pending).Ends w
      (Follows stores (.ok (), w.plain.flatten 0)) := by
  show (flushOldest (w.db.coordinator.pending + 0)).Ends w _
  refine flushOldest_follows h (Nat.zero_le _) fun hsome => ?_
  have hlive := h.sound.openLive hsome
  unfold Coordinator.depth
  omega

/-- Making layers pending, and flushing the pending ones at their
limit. -/
theorem solidify_follows (h : w.Ready stores) {count : Nat}
    (hopen : w.db.coordinator.openSeq?.isSome → count < w.db.coordinator.depth) :
    (solidify count).Ends w (Follows stores (.ok (), (w.plain.toPending count).limitPending)) := by
  let c := w.db.coordinator
  have hsame : (c.solidify count).SameStacks (c.solidify count).bump.clampCursor :=
    (Coordinator.sameStacks_bump _).trans (Coordinator.sameStacks_clampCursor _)
  have hhalted : (c.solidify count).bump.clampCursor.halted = c.halted :=
    Coordinator.halted_clampCursor _
  -- The limit is looked at in `w₁`, where the layers are pending.
  refine solidify_rule fun w₁ hw₁ => ?_
  have hplain : w₁.plain = w.plain.toPending count := by
    rw [hw₁]
    exact Coordinator.plain_solidify h.sound count
  have hpath : Actually w w₁ := by
    rw [hw₁]
    exact ((((Quiet.solidify hopen).path rfl).set hsame hhalted).say rfl).actually
  have hready : w₁.Ready stores := h.acts hpath (by rw [hw₁]; exact ⟨rfl, rfl, hhalted⟩)
  rw [← hplain, PlainDatabase.limitPending]
  refine ⟨fun hlt => ?_, fun hle => ?_⟩
  · have hlt : ¬w₁.plain.maxFlushCount ≤ w₁.plain.pending := Nat.not_le_of_lt hlt
    rw [if_neg hlt]
    exact hready.follows_self _
  · have hle : w₁.plain.maxFlushCount ≤ w₁.plain.pending := hle
    rw [if_pos hle]
    exact flushOldest_pending_follows hready

end

end Operation

end LayeredStore

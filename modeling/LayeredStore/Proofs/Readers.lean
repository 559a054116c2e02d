import LayeredStore.Proofs.Runs
import LayeredStore.Proofs.Views

/-!
# `LayeredStore.Proofs.Readers`: no reader notices a flush

A flush moves layers into the roots one table after the other, so when it
is stopped, some roots hold the layers that were to be moved and others
do not, and the layers are still there or are gone. None of this is seen
through a view that looks at all the layers that were to be moved.

* `Coordinator.shown` is how many of the oldest layers a view looks at,
  and `Coordinator.Exposes` says that the `count` oldest are among them
  whatever becomes of them.
* `World.mapThrough` is the map that a table reads as through a view:
  `lookup?_eq` and `next?_eq` say that lookups and the steps of a walk
  are answered from it, and `reads_iff` says it of both.
* `mapThrough_flushEnd`: it is the same after a flush, however this ends.
* `flush_unseen`: so lookups and walks through such a view, those through
  the cursor, and all reads at the head are answered as before, which is
  what `World.Unseen` says.
-/

set_option autoImplicit false

namespace LayeredStore

namespace Coordinator

/-- How many of the oldest layers of every table a view looks at. -/
def shown (c : Coordinator) : View → Nat
  | .head hidden => c.levels.length - min hidden c.depth
  | .solidity => c.pending

/-- The view looks at the `count` oldest layers, whichever of them are
pending: at the head, as many are left when the hidden ones are taken
from all layers. -/
def Exposes (c : Coordinator) (count : Nat) : View → Prop
  | .head hidden => count ≤ c.levels.length - hidden
  | .solidity => count ≤ c.pending

theorem exposes_head_zero {c : Coordinator} {count : Nat} (h : count ≤ c.levels.length) :
    c.Exposes count (.head 0) := h

theorem Exposes.le_shown {c : Coordinator} {count : Nat} {view : View}
    (h : c.Exposes count view) : count ≤ c.shown view := by
  cases view with
  | head hidden =>
    have h : count ≤ c.levels.length - hidden := h
    show count ≤ c.levels.length - min hidden c.depth
    omega
  | solidity => exact h

/-- Taking the `count` oldest layers away takes them from what the view
looks at, and nothing else. -/
theorem Exposes.shown_dropOldest {c : Coordinator} {count : Nat} {view : View}
    (h : c.Exposes count view) (hle : c.pending ≤ c.levels.length) :
    count + (c.dropOldest count).shown view = c.shown view := by
  cases view with
  | head hidden =>
    have h : count ≤ c.levels.length - hidden := h
    show count + ((c.levels.drop count).length -
      min hidden ((c.levels.drop count).length - (c.pending - count))) =
        c.levels.length - min hidden (c.levels.length - c.pending)
    rw [List.length_drop]
    omega
  | solidity =>
    have h : count ≤ c.pending := h
    show count + (c.pending - count) = c.pending
    omega

theorem SameStacks.shown {c c' : Coordinator} (h : c.SameStacks c') (view : View) :
    c'.shown view = c.shown view := by
  cases view with
  | head hidden => rw [Coordinator.shown, Coordinator.shown, depth, depth, h.levels, h.pending]
  | solidity => exact h.pending

/-- Every table has as many layers as there are levels, and as many of
them pending. -/
def Uniform (c : Coordinator) : Prop :=
  ∀ chain ∈ c.tables, chain.layers.length = c.levels.length ∧ chain.pending = c.pending

theorem Sound.uniform {c : Coordinator} (h : c.Sound) : c.Uniform := fun chain hmem =>
  ⟨(h.chains chain hmem).length_layers, (h.chains chain hmem).pending⟩

theorem Uniform.congr {c c' : Coordinator} (h : c.Uniform) (hsame : c.SameStacks c') :
    c'.Uniform := by
  unfold Uniform
  rw [hsame.tables, hsame.levels, hsame.pending]
  exact h

theorem Uniform.dropOldest {c : Coordinator} (h : c.Uniform) {count : Nat}
    (hcount : count ≤ c.levels.length) : (c.dropOldest count).Uniform := by
  intro chain hmem
  obtain ⟨old, hold, rfl⟩ := List.mem_map.mp hmem
  obtain ⟨hlength, hpending⟩ := h old hold
  refine ⟨?_, ?_⟩
  · show (old.layers.drop count).length = (c.levels.drop count).length
    rw [List.length_drop, List.length_drop, hlength]
  · show old.pending - min count old.layers.length = c.pending - count
    rw [hlength, hpending, Nat.min_eq_left hcount]

/-- A cursor that is clamped looks at the same layers. -/
theorem shown_view_clampCursor (c : Coordinator) :
    c.clampCursor.shown c.clampCursor.view = c.shown c.view := by
  unfold clampCursor
  cases hview : c.view with
  | solidity => simp only [hview]
  | head hidden =>
    show c.levels.length - min (min hidden c.depth) c.depth = c.levels.length - min hidden c.depth
    rw [Nat.min_assoc, Nat.min_self]

end Coordinator

/-- The cursor may be clamped by a flush, but it looks at the layers that
it would look at otherwise. -/
theorem FlushEnd.shown_view {w w' : World} {n : Nat} {r : Except Fault Unit}
    (h : FlushEnd w n r w') :
    w'.db.coordinator.shown w'.db.coordinator.view =
      w'.db.coordinator.shown w.db.coordinator.view := by
  have hclamp := Coordinator.shown_view_clampCursor (w.db.coordinator.dropOldest n)
  have hsame := (Coordinator.sameStacks_clampCursor (w.db.coordinator.dropOldest n)).shown
    w.db.coordinator.view
  cases h with
  | nothing | unfit | halted | crashed => rfl
  | unclearedHalted | unclearedCrashed => exact hclamp.trans hsame.symm
  | finished hn hfits h hc =>
    subst hc
    have hview : ∀ (c : Coordinator) (event : Event),
        (c.bump.announce event).view = c.view ∧
          ∀ view, (c.bump.announce event).shown view = c.shown view := by
      intro c event
      refine ⟨?_, fun view => ((Coordinator.sameStacks_bump c).trans
        (Coordinator.sameStacks_announce _ event)).shown view⟩
      unfold Coordinator.announce
      split <;> rfl
    simp only [World.withCoordinator, hview]
    exact hclamp.trans hsame.symm

namespace World

/-- What a table answers to a lookup through a view. -/
def lookup? (w : World) (view : View) (table : Nat) (key : Bytes) : Option Bytes :=
  { w.db.coordinator with view := view }.get? w.disk table key

/-- A table's first pair above the starting point through a view. -/
def next? (w : World) (view : View) (table : Nat) (after : Option Bytes) : Option (Bytes × Bytes) :=
  { w.db.coordinator with view := view }.nextVisible? w.disk table after

/-- The map that a table reads as through a view. -/
def mapThrough (w : World) (view : View) (table : Nat) : Option Contents :=
  w.mapBelow table (w.db.coordinator.shown view)

section
variable {w w' : World}

/-- A view looks at as many of a table's layers as of every other's. -/
theorem mapThrough_eq (huniform : w.db.coordinator.Uniform) (view : View) (table : Nat) :
    w.mapThrough view table = w.db.coordinator.tables[table]?.map fun chain =>
      (w.disk.contents chain.root).overlay (Chain.diffs (chain.visible view)) := by
  unfold mapThrough mapBelow
  apply Option.map_congr
  intro chain hchain
  obtain ⟨hlength, hpending⟩ := huniform chain (List.mem_of_getElem? hchain)
  have hvisible : chain.visible view = chain.layers.take (w.db.coordinator.shown view) := by
    cases view with
    | head hidden =>
      rw [Chain.visible, Coordinator.shown, Chain.depth, Coordinator.depth, hlength, hpending]
    | solidity => rw [Chain.visible, Coordinator.shown, hpending]
  rw [hvisible]

/-- Lookups are answered from the map of the view. -/
theorem lookup?_eq (huniform : w.db.coordinator.Uniform) (view : View) (table : Nat) (key : Bytes) :
    w.lookup? view table key = (w.mapThrough view table).bind (·.get? key) := by
  rw [mapThrough_eq huniform]
  unfold lookup? Coordinator.get?
  cases w.db.coordinator.tables[table]? with
  | none => rfl
  | some chain => exact ((chain.readsAs_iff _ view _).mpr rfl).1 key

/-- So are the steps of a walk. -/
theorem next?_eq (huniform : w.db.coordinator.Uniform) (view : View) (table : Nat)
    (after : Option Bytes) :
    w.next? view table after = (w.mapThrough view table).bind (·.nextAfter? after) := by
  rw [mapThrough_eq huniform]
  unfold next? Coordinator.nextVisible?
  cases w.db.coordinator.tables[table]? with
  | none => rfl
  | some chain => exact ((chain.readsAs_iff _ view _).mpr rfl).2 after

/-- Through the view, the table answers every lookup and every step of a
walk as the map does. -/
def Reads (w : World) (view : View) (table : Nat) (map : Contents) : Prop :=
  ∃ chain, w.db.coordinator.tables[table]? = some chain ∧
    chain.ReadsAs (w.disk.contents chain.root) view map

/-- A table reads as its map through the view. -/
theorem reads_iff (huniform : w.db.coordinator.Uniform) (view : View) (table : Nat)
    (map : Contents) : w.Reads view table map ↔ w.mapThrough view table = some map := by
  rw [mapThrough_eq huniform]
  unfold Reads
  cases w.db.coordinator.tables[table]? with
  | none => simp
  | some chain => simp [chain.readsAs_iff, eq_comm]

/-- At the head, a table reads as its map through the view of all
layers. -/
theorem readsAtHead_iff_mapThrough (huniform : w.db.coordinator.Uniform) (table : Nat)
    (map : Contents) :
    w.ReadsAtHead table map ↔ w.mapThrough (.head 0) table = some map :=
  reads_iff huniform (.head 0) table map

/-- A flush does not change what a table reads as through a view that
looks at the layers that it is to move. -/
theorem mapThrough_flushEnd {n : Nat} {r : Except Fault Unit} (h : FlushEnd w n r w')
    (hle : w.db.coordinator.pending ≤ w.db.coordinator.levels.length)
    (hstores : w.db.coordinator.DistinctStores) {view : View}
    (hview : w.db.coordinator.Exposes n view) (table : Nat) :
    w'.mapThrough view table = w.mapThrough view table := by
  unfold mapThrough
  rcases mapBelow_flushEnd h hstores with ⟨hsame, -, hmap⟩ | ⟨hsame, hmap⟩
  · rw [hsame.shown, hmap table _ hview.le_shown]
  · rw [hmap, hsame.shown, hview.shown_dropOldest hle]

end

/-- What readers notice of a flush of the `count` oldest layers of `w`
that ended in `w'`. -/
structure Unseen (w : World) (count : Nat) (r : Except Fault Unit) (w' : World) : Prop where
  /-- Every view that looks at the layers that were to be moved answers
  every lookup in every table, and every step of a walk, as before. -/
  views : ∀ view, w.db.coordinator.Exposes count view → ∀ table,
    (∀ key, w'.lookup? view table key = w.lookup? view table key) ∧
      ∀ after, w'.next? view table after = w.next? view table after
  /-- So does the cursor, if it is such a view. -/
  cursor : w.db.coordinator.Exposes count w.db.coordinator.view → ∀ table,
    (∀ key, w'.db.coordinator.get? w'.disk table key = w.db.coordinator.get? w.disk table key) ∧
      ∀ after, w'.db.coordinator.nextVisible? w'.disk table after =
        w.db.coordinator.nextVisible? w.disk table after
  /-- The head answers as before in any case. -/
  head : ∀ table map, w'.ReadsAtHead table map ↔ w.ReadsAtHead table map
  /-- If the flush succeeds, the layers are gone and every root holds its
  old contents overlaid with them. -/
  moved : r = .ok () → w'.db.coordinator.levels = w.db.coordinator.levels.drop count ∧
    ∀ chain ∈ w.db.coordinator.tables, w'.disk.contents chain.root =
      (w.disk.contents chain.root).overlay (Chain.diffs (chain.layers.take count))
  /-- If it reports an error, the database has halted. -/
  halted : ∀ error, r = .error (.error error) → w'.db.coordinator.halted = true

/-- However a flush ends, readers notice nothing of it. -/
theorem flush_unseen {w : World} (hsound : w.db.coordinator.Sound)
    (hstores : w.db.coordinator.DistinctStores) {count : Nat}
    (hcount : count ≤ w.db.coordinator.levels.length) :
    (Operation.flushOldest count).Ends w (w.Unseen count) := by
  refine (Operation.flushOldest_ends w hsound.names count).mono fun r w' h => ?_
  rw [Nat.min_eq_left hcount] at h
  have huniform : w.db.coordinator.Uniform := hsound.uniform
  have huniform' : w'.db.coordinator.Uniform := by
    rcases h.sameStacks with hsame | hsame
    · exact huniform.congr hsame
    · exact (huniform.dropOldest hcount).congr hsame
  -- The two worlds read alike through views that lead to the same maps.
  have hreads : ∀ view view', (∀ table, w'.mapThrough view' table = w.mapThrough view table) →
      ∀ table, (∀ key, w'.lookup? view' table key = w.lookup? view table key) ∧
        ∀ after, w'.next? view' table after = w.next? view table after := by
    intro view view' hmap table
    refine ⟨fun key => ?_, fun after => ?_⟩
    · rw [lookup?_eq huniform', lookup?_eq huniform, hmap]
    · rw [next?_eq huniform', next?_eq huniform, hmap]
  have hmap : ∀ view, w.db.coordinator.Exposes count view → ∀ table,
      w'.mapThrough view table = w.mapThrough view table :=
    fun view hview => mapThrough_flushEnd h hsound.pending_le hstores hview
  exact
    { views := fun view hview => hreads view view (hmap view hview)
      cursor := fun hview => by
        refine hreads w.db.coordinator.view w'.db.coordinator.view fun table => ?_
        rw [← hmap _ hview, mapThrough, mapThrough, h.shown_view]
      head := fun table map => by
        have hhead := hmap _ (Coordinator.exposes_head_zero hcount) table
        rw [readsAtHead_iff_mapThrough huniform', hhead, readsAtHead_iff_mapThrough huniform]
      moved := by
        rintro rfl
        rcases h.effect hstores with ⟨hsame, hzero, hroots⟩ | ⟨hsame, hroots⟩
        · obtain rfl := hzero rfl
          exact ⟨hsame.levels, fun chain hmem => (hroots chain hmem).elim id id⟩
        · exact ⟨hsame.levels, hroots⟩
      halted := by
        rintro error rfl
        exact h.halted_of_error }

/-- Two units of work are committed over two tables, the cursor leaves
the newer one out, and the flush of the older one is stopped at the
second root: the first root has changed and nobody has noticed. -/
theorem flush_unseen_second_root :
    let w := (opened .empty {} "journal" []).play
      [.call (.addTable "a" "left"), .call (.addTable "b" "right"),
        .call (.openSession false), .call (.write ⟨0, "a"⟩ [1] (.value [10])),
        .call (.write ⟨1, "b"⟩ [1] (.value [20])), .call (.commitSession ⟨0, false, false⟩),
        .call (.openSession false), .call (.write ⟨0, "a"⟩ [1] .tombstone),
        .call (.commitSession ⟨1, false, false⟩), .call (.setCursor .head 1),
        .setPlan "right" (some ⟨0, .error (.refused "full")⟩)]
    let w' := ((Operation.flushOldest 1).perform w).2
    w.db.coordinator.Sound ∧ w.db.coordinator.DistinctStores ∧
      1 ≤ w.db.coordinator.levels.length ∧ w.db.coordinator.Exposes 1 w.db.coordinator.view ∧
      ((Operation.flushOldest 1).perform w).1 =
        .error (.error (.ioFailure "b" (.refused "full"))) ∧
      (w.disk.contents "left").get? [1] = none ∧ (w'.disk.contents "left").get? [1] = some [10] ∧
      w.Unseen 1 ((Operation.flushOldest 1).perform w).1 w' := by
  intro w w'
  have hsound : w.db.coordinator.Sound := play_sound .empty {} "journal" [] _
  have hstores : w.db.coordinator.DistinctStores :=
    (Coordinator.distinctStores_iff _).mpr (by decide +kernel)
  have hcount : 1 ≤ w.db.coordinator.levels.length := by decide +kernel
  have hview : w.db.coordinator.view = .head 1 := by decide +kernel
  have hexposes : w.db.coordinator.Exposes 1 w.db.coordinator.view := by
    rw [hview]
    show 1 ≤ w.db.coordinator.levels.length - 1
    decide +kernel
  exact ⟨hsound, hstores, hcount, hexposes, by decide +kernel, by decide +kernel,
    by decide +kernel, flush_unseen hsound hstores hcount⟩

end World

end LayeredStore

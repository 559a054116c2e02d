import LayeredStore.Proofs.Routes

/-!
# `LayeredStore.Proofs.Generation`: what the generation of the chains counts

A walk over a table remembers the generation of the chains and ends with
an error once it has grown, so that no walk goes over two different
chains. The generation grows with every change to the levels, to the
tables and to the mode of the database, with one exception: a change
made by a move that stops the database, by a write that fails or by a
panic, may go uncounted.

* `World.Unchanged` says what of a world is the same after a move that
  is not counted, and `World.Counted` what the generation says of a path.
* `Step.counted`: every step is counted, and so is every move.
* `Walks`: the walks that users have in hand after a run.
* `generation_tracks`: while the database runs on, a move that changes
  something is counted, and a walk begun before it ends with an error.
* `generation_misses_failed_flush`: a flush whose last write fails takes
  layers away without being counted, and a walk goes on.
-/

set_option autoImplicit false

namespace LayeredStore

namespace Coordinator

/-- The coordinators agree in what the generation counts. -/
structure SameShape (c c' : Coordinator) : Prop where
  levels : c'.levels = c.levels
  pending : c'.pending = c.pending
  registered : c'.registered = c.registered
  enabled : c'.enabled = c.enabled
  journal : c'.journal = c.journal

theorem SameShape.refl (c : Coordinator) : c.SameShape c := ⟨rfl, rfl, rfl, rfl, rfl⟩

theorem SameShape.trans {c c' c'' : Coordinator} (h : c.SameShape c') (h' : c'.SameShape c'') :
    c.SameShape c'' where
  levels := h'.levels.trans h.levels
  pending := h'.pending.trans h.pending
  registered := h'.registered.trans h.registered
  enabled := h'.enabled.trans h.enabled
  journal := h'.journal.trans h.journal

theorem Alike.sameShape {c c' : Coordinator} (h : c.Alike c') : c.SameShape c' where
  levels := h.layers.levels
  pending := h.layers.pending
  registered := by rw [registered, h.layers.tables, registered]
  enabled := h.modes.enabled
  journal := h.layers.journal

section
variable {c c' : Coordinator} {unit : UnitOfWork} (statuses : List SessionStatus)

/-- Committing a unit of work moves no layers. -/
theorem sameShape_keep : c.SameShape (c.keep unit statuses) ∧
    (c.keep unit statuses).generation = c.generation := by
  unfold keep
  dsimp only
  split
  · exact ⟨⟨rfl, rfl, registered_mapTables _ (name_root_modifyHead _), rfl, rfl⟩, rfl⟩
  · exact ⟨⟨rfl, rfl, rfl, rfl, rfl⟩, rfl⟩

/-- Discarding a unit of work is counted, unless it had no layer and the
database stays enabled or disabled. -/
theorem generation_lose : c.generation < (c.lose unit statuses).generation ∨
    (c.lose unit statuses).generation = c.generation ∧ c.SameShape (c.lose unit statuses) := by
  unfold lose
  dsimp only
  cases unit.seq <;> cases c.disableOnExit
  · exact .inr ⟨rfl, rfl, rfl, rfl, rfl, rfl⟩
  · exact .inl (Nat.lt_succ_self _)
  · exact .inl (Nat.lt_succ_self _)
  · exact .inl (Nat.lt_succ_of_lt (Nat.lt_succ_self _))

/-- A change to a coordinator is counted, or changes nothing that is. -/
theorem Turn.counted {move : Move} (h : c.Turn move c') : c.generation < c'.generation ∨
    c'.generation = c.generation ∧ c.SameShape c' := by
  cases h with
  | solidify | discard | enable | disable | register | push | stop =>
    exact .inl (Nat.lt_succ_self _)
  | passThrough | join | resolve => exact .inr ⟨rfl, rfl, rfl, rfl, rfl, rfl⟩
  | keep _ unit statuses =>
    obtain ⟨hshape, hgeneration⟩ : c.SameShape (c.keep unit statuses) ∧ _ :=
      sameShape_keep statuses
    exact .inr ⟨hgeneration, hshape⟩
  | lose _ unit statuses => exact generation_lose statuses

end

end Coordinator

/-- What a write makes of a key: it stays as it was, or holds the entry
written to it. -/
theorem Disk.get?_write_entry (d : Disk) (name : String) (key : Bytes) (entry : Entry)
    (store : String) (other : Bytes) :
    ((d.write name [(key, entry)]).2.contents store).get? other = (d.contents store).get? other ∨
      store = name ∧ other = key ∧
        ((d.write name [(key, entry)]).2.contents store).get? other = entry.value? := by
  cases hwrite : (d.write name [(key, entry)]).1 with
  | error failure => exact .inl (by rw [(after_write_error hwrite).contents]; rfl)
  | ok u =>
    rw [(after_write_ok hwrite).contents]
    by_cases hstore : name = store
    · subst hstore
      rw [Contents.afterWrites_singleton]
      show ((d.contents name).put key entry).get? other = _ ∨ _ ∧ _ ∧
        ((d.contents name).put key entry).get? other = _
      rw [Contents.get?_put]
      split
      · rename_i hkey
        exact .inr ⟨rfl, hkey.symm, rfl⟩
      · exact .inl rfl
    · rw [Contents.afterWrites_singleton_of_ne hstore]
      exact .inl rfl

namespace FlushEnd

variable {w w' : World} {n : Nat} {r : Except Fault Unit}

theorem generation_le (h : FlushEnd w n r w') :
    w.db.coordinator.generation ≤ w'.db.coordinator.generation := by
  have hdrop : (w.db.coordinator.dropOldest n).clampCursor.generation =
      w.db.coordinator.generation := (Coordinator.alike_clampCursor _).generation
  cases h with
  | nothing | unfit | halted | crashed => exact Nat.le_refl _
  | unclearedHalted | unclearedCrashed => exact Nat.le_of_eq hdrop.symm
  | finished hn hfits h hc =>
    subst hc
    refine Nat.le_trans (Nat.le_succ _) (Nat.le_of_eq ?_)
    exact ((Coordinator.alike_announce _ _).generation.trans (congrArg (· + 1) hdrop)).symm

/-- A flush that succeeds is counted, unless there was nothing to
flush. -/
theorem eq_or_generation_lt (h : FlushEnd w n (.ok ()) w') :
    w' = w ∨ w.db.coordinator.generation < w'.db.coordinator.generation := by
  cases h with
  | nothing => exact .inl rfl
  | finished hn hfits h hc =>
    subst hc
    refine .inr (Nat.lt_of_lt_of_eq (Nat.lt_succ_self _) ?_)
    have hdrop : (w.db.coordinator.dropOldest n).clampCursor.generation =
      w.db.coordinator.generation := (Coordinator.alike_clampCursor _).generation
    exact ((Coordinator.alike_announce _ _).generation.trans (congrArg (· + 1) hdrop)).symm

end FlushEnd

namespace World

/-- The entry that a move writes straight into a root, which no layer
covers. -/
def Overwrites (w : World) (move : Move) (store : String) (key : Bytes) (entry : Entry) : Prop :=
  ∃ table name, move = .call (.write table key entry) ∧ w.db.coordinator.levels = [] ∧
    w.db.coordinator.registered[table.index]? = some (name, store)

/-- What is the same after a move that is not counted: the levels, the
tables, the mode, and every value in every store but one that the move
writes itself, straight into a root. A check is to find no record, or it
would complete an interrupted flush. -/
structure Unchanged (move : Move) (w w' : World) : Prop where
  shape : w.db.coordinator.SameShape w'.db.coordinator
  stores : (move = .call .check → w.NoRecord) → ∀ store key,
    (w'.disk.contents store).get? key = (w.disk.contents store).get? key ∨
      ∃ entry, w.Overwrites move store key entry ∧
        (w'.disk.contents store).get? key = entry.value?

/-- What the generation says of a path: it does not shrink, and if it has
not grown while the database runs on, nothing has changed. A database
that has stopped does not run again. -/
structure Counted (move : Move) (w w' : World) : Prop where
  generation : w.db.coordinator.generation ≤ w'.db.coordinator.generation
  running : w'.Running → w.Running
  unchanged : w'.db.coordinator.generation = w.db.coordinator.generation →
    (w.Running → w'.Running) → Unchanged move w w'

section
variable {move : Move} {w w' w'' : World}

theorem Unchanged.of_sameShape (hshape : w.db.coordinator.SameShape w'.db.coordinator)
    (hcontents : ∀ store, w'.disk.contents store = w.disk.contents store) : Unchanged move w w' :=
  ⟨hshape, fun _ store key => .inl (by rw [hcontents])⟩

theorem Unchanged.trans (h : Unchanged move w w') (h' : Unchanged move w' w'') :
    Unchanged move w w'' where
  shape := h.shape.trans h'.shape
  stores hcheck := by
    -- What the first part does not write, the second part finds as it was.
    have hcheck' : move = .call .check → w'.NoRecord := by
      intro hmove
      have hrecord := hcheck hmove
      rw [NoRecord] at hrecord ⊢
      rw [h.shape.journal]
      rcases h.stores hcheck w.db.coordinator.journal Journal.key with hsame | ⟨_, hwrites, _⟩
      · exact hsame.trans hrecord
      · obtain ⟨_, _, hwrite, _⟩ := hwrites
        cases hmove.symm.trans hwrite
    intro store key
    rcases h'.stores hcheck' store key with hsame | ⟨entry, hwrites, hvalue⟩
    · rcases h.stores hcheck store key with hsame₁ | ⟨entry, hwrites, hvalue⟩
      · exact .inl (hsame.trans hsame₁)
      · exact .inr ⟨entry, hwrites, hsame.trans hvalue⟩
    · obtain ⟨table, name, hmove, hlevels, htable⟩ := hwrites
      refine .inr ⟨entry, ⟨table, name, hmove, ?_, ?_⟩, hvalue⟩
      · rw [← hlevels, h.shape.levels]
      · rw [← htable, h.shape.registered]

theorem Counted.refl (w : World) : Counted move w w :=
  ⟨Nat.le_refl _, id, fun _ _ => .of_sameShape (.refl _) fun _ => rfl⟩

theorem Counted.trans (h : Counted move w w') (h' : Counted move w' w'') : Counted move w w'' where
  generation := Nat.le_trans h.generation h'.generation
  running hrun := h.running (h'.running hrun)
  unchanged heq hrun :=
    -- A path that is not counted has no part that is.
    have heq₁ : w'.db.coordinator.generation = w.db.coordinator.generation :=
      Nat.le_antisymm (Nat.le_trans h'.generation (Nat.le_of_eq heq)) h.generation
    (h.unchanged heq₁ fun hw => h'.running (hrun hw)).trans
      (h'.unchanged (heq.trans heq₁.symm) fun hw' => hrun (h.running hw'))

/-- A path after which the database has newly stopped is not held to
anything more. -/
theorem Counted.of_stopped
    (hgeneration : w.db.coordinator.generation ≤ w'.db.coordinator.generation)
    (hrun : w.Running) (hstopped : ¬w'.Running) : Counted move w w' :=
  ⟨hgeneration, fun _ => hrun, fun _ h => absurd (h hrun) hstopped⟩

theorem Counted.of_lt (hgeneration : w.db.coordinator.generation < w'.db.coordinator.generation)
    (hrun : w'.Running → w.Running) : Counted move w w' :=
  ⟨Nat.le_of_lt hgeneration, hrun, fun h => absurd h (Nat.ne_of_gt hgeneration)⟩

theorem Counted.of_alike (hc : w.db.coordinator.Alike w'.db.coordinator)
    (hpoisoned : w'.db.poisoned = w.db.poisoned)
    (hcontents : ∀ store, w'.disk.contents store = w.disk.contents store) : Counted move w w' where
  generation := Nat.le_of_eq hc.generation.symm
  running := (running_congr hc.halted hpoisoned).mp
  unchanged _ _ := .of_sameShape hc.sameShape hcontents

/-- A change to the coordinator is counted, or changes nothing that
is. -/
theorem Counted.turn {c : Coordinator} {move : Move}
    (h : w.db.coordinator.Turn move c) :
    Counted move w (w.withCoordinator c) := by
  have hrun : (w.withCoordinator c).Running ↔ w.Running := running_congr h.halted rfl
  rcases h.counted with hlt | ⟨heq, hshape⟩
  · exact .of_lt hlt hrun.mp
  · exact ⟨Nat.le_of_eq heq.symm, hrun.mp, fun _ _ => .of_sameShape hshape fun _ => rfl⟩

theorem Counted.flush {n : Nat} {r : Except Fault Unit} (h : FlushEnd w n r w') (hrun : w.Running)
    (hr : r ≠ .error .panic) : Counted move w w' := by
  match r, h, hr with
  | .ok (), h, _ =>
    rcases h.eq_or_generation_lt with rfl | hlt
    · exact .refl _
    · exact .of_lt hlt fun _ => hrun
  | .error (.error error), h, _ =>
    refine .of_stopped h.generation_le hrun fun hrun' => ?_
    have hhalted := hrun'.2
    rw [h.halted_of_error] at hhalted
    cases hhalted
  | .error .panic, _, hr => exact absurd rfl hr

theorem Counted.poison (w : World) : Counted move w w.poison where
  generation := Nat.le_refl _
  running h := nomatch h.1
  unchanged _ _ := .of_sameShape (.refl _) fun _ => rfl

/-- Every step is counted, or changes nothing that is, or stops the
database. -/
theorem Step.counted (h : Step move w w') : Counted move w w' := by
  cases h with
  | aside hc hdisk hpoisoned => exact .of_alike hc hpoisoned fun _ => by rw [hdisk]
  | turn hpoisoned hturn hc hdisk hpoisoned' =>
    exact (Counted.turn hturn).trans
      (.of_alike hc (hpoisoned'.trans hpoisoned.symm) fun _ => by rw [hdisk]; rfl)
  | flush hrun hn hopen h hr => exact .flush h hrun hr
  | crash hrun hn hopen h => exact .of_stopped h.generation_le hrun fun hrun' => nomatch hrun'.1
  | @settle w₁ w₂ _ unit statuses r hresolves hrun hcloses hall hforced hkeep hdisk hpoisoned hflush
      hend =>
    have hkept : w.db.coordinator.generation ≤ w₁.db.coordinator.generation :=
      Nat.le_of_eq (hkeep.generation.trans (Coordinator.sameShape_keep statuses).2).symm
    have hle : w.db.coordinator.generation ≤ w₂.db.coordinator.generation :=
      Nat.le_trans hkept hflush.generation_le
    match r, hflush, hend with
    | .ok (), hflush, ⟨hc, _, _⟩ =>
      -- Disabling the database is counted.
      refine .of_lt (Nat.lt_of_le_of_lt hle ?_) fun _ => hrun
      rw [hc.generation]
      exact Nat.lt_succ_self _
    | .error (.error error), hflush, hend =>
      subst hend
      refine .of_stopped hle hrun fun hrun' => ?_
      have hhalted := hrun'.2
      rw [hflush.halted_of_error] at hhalted
      cases hhalted
    | .error .panic, hflush, hend =>
      subst hend
      exact .of_stopped hle hrun fun hrun' => nomatch hrun'.1
  | put hmove hrun hlive =>
    exact ⟨Nat.le_refl _, id, fun _ _ => .of_sameShape ⟨rfl, rfl,
      Coordinator.registered_modifyTable _ _ (Coordinator.name_root_modifyHead _), rfl, rfl⟩
        fun _ => rfl⟩
  | @direct table key entry chain hmove hrun hchain hlevels =>
    refine ⟨Nat.le_refl _, id, fun _ _ => ⟨.refl _, fun _ store other => ?_⟩⟩
    rcases w.disk.get?_write_entry chain.root key entry store other with hsame | ⟨rfl, rfl, hvalue⟩
    · exact .inl hsame
    · exact .inr ⟨entry,
        ⟨table, chain.name, hmove, hlevels, Coordinator.registered_of_table hchain⟩, hvalue⟩
  | recover hmove hrun hrecord hc hpoisoned =>
    exact
      { generation := Nat.le_of_eq hc.generation.symm
        running := fun _ => hrun
        unchanged := fun _ _ =>
          { shape :=
              have hshape := hc.sameShape
              ⟨hshape.levels, hshape.pending, hshape.registered, hshape.enabled, hshape.journal⟩
            stores := fun hcheck => absurd (hcheck hmove) hrecord } }
  | poison => exact .poison w
  | setPlan hmove => exact .of_alike (.refl _) rfl fun _ => Disk.contents_setPlan _ _ _ _

theorem Steps.counted (h : Steps move w w') : Counted move w w' := by
  induction h with
  | refl => exact .refl _
  | tail _ hstep ih => exact ih.trans hstep.counted

/-- No run makes the generation shrink. -/
theorem generation_le_play (h : w.Orderly) (moves : List Move) :
    w.db.coordinator.generation ≤ (w.play moves).db.coordinator.generation := by
  induction moves generalizing w with
  | nil => exact Nat.le_refl _
  | cons move moves ih => exact Nat.le_trans (move.act_steps h).counted.generation (ih (h.act move))

end

end World

/-! ### Walks -/

/-- The walks over tables that users have in hand after a run: each was
begun at some point of it, and taken any number of steps since. -/
inductive Walks (w₀ : World) : List Move → TableIter → Prop
  | begun {moves : List Move} {table : Table} {iter : TableIter}
      (h : (table.iterate.perform (w₀.play moves)).1 = .ok iter) : Walks w₀ moves iter
  | next {moves : List Move} {iter : TableIter} (h : Walks w₀ moves iter) :
      Walks w₀ moves (iter.next (w₀.play moves)).2
  | move {moves : List Move} {iter : TableIter} (move : Move) (h : Walks w₀ moves iter) :
      Walks w₀ (moves ++ [move]) iter

namespace TableIter

/-- A step of a walk moves nothing but its position. -/
theorem next_keeps (iter : TableIter) (w : World) :
    (iter.next w).2.table = iter.table ∧ (iter.next w).2.generation = iter.generation := by
  unfold next
  dsimp only
  split
  · exact ⟨rfl, rfl⟩
  split
  · exact ⟨rfl, rfl⟩
  split
  · exact ⟨rfl, rfl⟩
  split <;> exact ⟨rfl, rfl⟩

/-- A step of a walk stays at its table. -/
theorem table_next (iter : TableIter) (w : World) : (iter.next w).2.table = iter.table :=
  (iter.next_keeps w).1

/-- A step of a walk leaves the generation it has remembered. -/
theorem generation_next (iter : TableIter) (w : World) :
    (iter.next w).2.generation = iter.generation :=
  (iter.next_keeps w).2

/-- A walk that is not done ends with an error when the generation is
not the one it has remembered. -/
theorem next_of_generation_ne {iter : TableIter} {w : World} (hdone : iter.done = false)
    (hpoisoned : w.db.poisoned = false) (hne : w.db.coordinator.generation ≠ iter.generation) :
    iter.next w =
      (some (.error (.illegalState .iteratorInvalidated)), { iter with done := true }) := by
  unfold next
  rw [hdone, hpoisoned]
  simp only [Bool.false_eq_true, if_false, if_pos hne]

/-- A walk that is done yields nothing more. -/
theorem next_of_done {iter : TableIter} (hdone : iter.done = true) (w : World) :
    iter.next w = (none, iter) := by
  unfold next
  rw [hdone]
  rfl

end TableIter

namespace World

/-- A walk has remembered a generation of the past or of the present. -/
theorem generation_le_of_walks {w₀ : World} (h : w₀.Orderly) {moves : List Move} {iter : TableIter}
    (hwalk : Walks w₀ moves iter) :
    iter.generation ≤ (w₀.play moves).db.coordinator.generation := by
  induction hwalk with
  | @begun moves table iter hbegun =>
    -- A walk begins with the generation of the moment.
    have hend : table.iterate.Ends (w₀.play moves) fun r _ => ∀ iter, r = .ok iter →
        iter.generation = (w₀.play moves).db.coordinator.generation := by
      unfold Table.iterate
      rw [Operation.ends_locked]
      split
      · exact fun _ h => nomatch h
      · rw [Operation.ends_bind, Operation.ends_getCoordinator]
        rintro iter ⟨⟩
        rfl
    exact Nat.le_of_eq (hend iter hbegun)
  | next _ ih => rwa [TableIter.generation_next]
  | @move moves iter move _ ih =>
    rw [play_append]
    exact Nat.le_trans ih (generation_le_play (h.play moves) [move])

/-- A move of a run that does not stop the database is counted by the
generation, or changes neither the levels nor the tables nor the mode
nor what is in a store, but for the entry that it is to write and, if it
is a check, for the rest of an interrupted flush. Once the generation
has grown, every walk in hand before the move that is not done ends with
an error, now or later, and yields nothing from then on. -/
theorem generation_tracks (disk : Disk) (configuration : Configuration) (journal : String)
    (handlers : List Handler) (moves : List Move) (move : Move) :
    let w₀ := opened disk configuration journal handlers
    let w := w₀.play moves
    let w' := move.act w
    w.db.coordinator.generation ≤ w'.db.coordinator.generation ∧
    ((w.Running → w'.Running) →
      w.db.coordinator.generation < w'.db.coordinator.generation ∨ Unchanged move w w') ∧
    (w.db.coordinator.generation < w'.db.coordinator.generation →
      ∀ iter, Walks w₀ moves iter → iter.done = false →
        ∀ later, (w'.play later).db.poisoned = false →
          (iter.next (w'.play later)).1 = some (.error (.illegalState .iteratorInvalidated)) ∧
          ∀ w'', ((iter.next (w'.play later)).2.next w'').1 = none) := by
  intro w₀ w w'
  have horderly₀ : w₀.Orderly := orderly_opened disk configuration journal handlers
  have horderly : w.Orderly := horderly₀.play moves
  have hcounted : Counted move w w' := (move.act_steps horderly).counted
  refine ⟨hcounted.generation, fun hrun => ?_, fun hlt iter hwalk hdone later hpoisoned => ?_⟩
  · rcases Nat.eq_or_lt_of_le hcounted.generation with heq | hlt
    · exact .inr (hcounted.unchanged heq.symm hrun)
    · exact .inl hlt
  · have hold : iter.generation ≤ w.db.coordinator.generation :=
      generation_le_of_walks horderly₀ hwalk
    have hlater := generation_le_play (horderly.act move) later
    have hne : (w'.play later).db.coordinator.generation ≠ iter.generation :=
      Nat.ne_of_gt (Nat.lt_of_le_of_lt hold (Nat.lt_of_lt_of_le hlt hlater))
    rw [TableIter.next_of_generation_ne hdone hpoisoned hne]
    exact ⟨rfl, fun w'' => by rw [TableIter.next_of_done rfl]⟩

/-- A walk is begun, and then the only layer is merged into the root: the
walk ends with an error. -/
theorem generation_tracks_merge :
    let w₀ := opened .empty {} "journal" []
    let moves := [.call (.addTable "a" "left"), .call (.openSession false),
      .call (.write ⟨0, "a"⟩ [1] (.value [10])), .call (.commitSession ⟨0, false, false⟩)]
    let w := w₀.play moves
    let w' := Move.act w (.call .merge)
    let iter : TableIter := ⟨⟨0, "a"⟩, w.db.coordinator.generation, none, false⟩
    (w.Running → w'.Running) ∧ Walks w₀ moves iter ∧ iter.done = false ∧
      w'.db.coordinator.levels ≠ w.db.coordinator.levels ∧
      w.db.coordinator.generation < w'.db.coordinator.generation ∧
      (iter.next w').1 = some (.error (.illegalState .iteratorInvalidated)) := by
  intro w₀ moves w w' iter
  have htracks := generation_tracks .empty {} "journal" [] moves (.call .merge)
  have hrun : w.Running → w'.Running := fun _ => ⟨by decide +kernel, by decide +kernel⟩
  have hlevels : w'.db.coordinator.levels ≠ w.db.coordinator.levels := by decide +kernel
  have hbegun : ((⟨0, "a"⟩ : Table).iterate.perform (w₀.play moves)).1 = .ok iter := by
    decide +kernel
  have hpoisoned : (w'.play []).db.poisoned = false := by decide +kernel
  have hwalk : Walks w₀ moves iter := .begun hbegun
  -- The levels have changed, so the merge was counted.
  have hchanged : ¬Unchanged (.call .merge) w w' := fun hsame => hlevels hsame.shape.levels
  dsimp only [w₀, w, w', iter] at *
  have hlt := (htracks.2.1 hrun).resolve_right hchanged
  exact ⟨hrun, hwalk, rfl, hlevels, hlt, (htracks.2.2 hlt _ hwalk rfl [] hpoisoned).1⟩

/-- A flush whose last write fails has taken its layers away, and is not
counted: a walk that was begun before goes on over what is left, and
yields a pair of the roots after a pair of the layers. -/
theorem generation_misses_failed_flush :
    let w := (opened .empty {} "journal" []).play
      [.call (.addTable "a" "left"), .call (.write ⟨0, "a"⟩ [1] (.value [10])),
        .call (.openSession false), .call (.write ⟨0, "a"⟩ [0] (.value [20])),
        .call (.write ⟨0, "a"⟩ [2] (.value [30])), .call (.commitSession ⟨0, false, false⟩),
        .call (.setCursor .solidity 0),
        .setPlan "journal" (some ⟨1, .error (.refused "full")⟩)]
    let w' := Move.act w (.call .merge)
    let iter : TableIter := ⟨⟨0, "a"⟩, w.db.coordinator.generation, none, false⟩
    (Command.merge.run.perform w).1 =
        .error (.error (.ioFailure Operation.journalName (.refused "full"))) ∧
      w.db.coordinator.levels = [1] ∧ w'.db.coordinator.levels = [] ∧
      w'.db.coordinator.generation = w.db.coordinator.generation ∧
      (iter.next w).1 = some (.ok ([1], [10])) ∧
      ((iter.next w).2.next w').1 = some (.ok ([2], [30])) := by
  decide +kernel

end World

end LayeredStore

import LayeredStore.Proofs.Provenance

/-!
# `LayeredStore.Proofs.Settlement`: which layers are flushed

A flush can be started by many operations. Whichever it is, the layers
that it moves are committed, and once it has begun no operation discards
them any more: they are gone, or the database has stopped.

* `World.Undone`: a layer that was committed is discarded.
  `Move.act_of_undoes` says that the moves that do so leave the stores
  alone, and do nothing where the database has stopped.
* `World.Settled`: a layer was committed, was not discarded, and is not
  there any more, unless the database has stopped. `Settled.precedes`,
  `Settled.snoc` and `Settled.undo` say that it stays so.
* `Traceable.flushOf`: every flush is one of layers that are settled after
  it, and all that it takes from them was written to them.
-/

set_option autoImplicit false

namespace LayeredStore

/-! ### The layers that a flush takes -/

/-- What the net layer of the oldest ones says, one of them says. -/
theorem Chain.exists_of_mem_netOldest {chain : Chain} {count : Nat} {pair : Bytes × Entry}
    (h : pair ∈ (chain.netOldest count).diff.toList) :
    ∃ layer ∈ chain.layers.take count, layer.get? pair.1 = some pair.2 := by
  have hget := (OrderedMap.mem_toList_iff _ pair.1 pair.2).mp h
  rw [chain.get?_diff_netOldest] at hget
  obtain ⟨diff, hdiff, hsome⟩ := List.exists_of_findSome?_eq_some hget
  obtain ⟨layer, hmem, rfl⟩ := List.mem_map.mp (List.mem_reverse.mp hdiff)
  exact ⟨layer, hmem, hsome⟩

/-- Each level lies below those above it. -/
theorem Coordinator.Sound.lt_of_mem_take_drop {c : Coordinator} (h : c.Sound) {n lower upper : Nat}
    (hlower : lower ∈ c.levels.take n) (hupper : upper ∈ c.levels.drop n) : lower < upper := by
  have hincreasing := h.increasing
  rw [← List.take_append_drop n c.levels, List.pairwise_append] at hincreasing
  exact hincreasing.2.2 lower hlower upper hupper

/-- The layers that a flush takes are those of the levels it takes. -/
theorem Chain.InStep.seq_mem_take {chain : Chain} {levels : List Nat} {pending n : Nat}
    {openSeq? : Option Nat} (h : chain.InStep levels pending openSeq?) {layer : Layer}
    (hmem : layer ∈ chain.layers.take n) : layer.seq ∈ levels.take n := by
  rw [← h.seqs, ← List.map_take]
  exact List.mem_map_of_mem hmem

/-- The open layer is the newest, so it is not among the oldest that a
flush takes where it does not take all. -/
theorem Coordinator.Sound.ne_open_of_mem_take {c : Coordinator} (h : c.Sound) {n seq : Nat}
    (hopen : c.openSeq?.isSome → n < c.levels.length) (hmem : seq ∈ c.levels.take n) :
    c.openSeq? ≠ some seq := by
  intro hseq
  have hlt := hopen (Option.isSome_iff_exists.mpr ⟨seq, hseq⟩)
  have hdrop : seq ∈ c.levels.drop n := by
    refine List.mem_of_getLast? ?_
    rw [List.getLast?_drop, if_neg (Nat.not_le_of_lt hlt), h.openLast seq hseq]
  exact Nat.lt_irrefl _ (h.lt_of_mem_take_drop hmem hdrop)

/-! ### Moves that discard committed layers -/

/-- Whether a move discards layers that are committed. -/
def Move.undoes : Move → Bool
  | call .revoke => true
  | call (.popMany _ _) => true
  | _ => false

namespace Operation

variable {w : World}

theorem retreat_disk (operation : String) (verified? : Option Bool) :
    (retreat operation verified?).Ends w fun _ w' => w'.disk = w.disk := by
  by_cases hdepth : w.db.coordinator.depth = 0
  · rw [ends_retreat_of_empty hdepth]
  · rw [ends_retreat (Nat.pos_of_ne_zero hdepth)]
    rfl

theorem retreatMany_disk (operation : String) (verify : Bool) (count : Nat) :
    (retreatMany operation verify count).Ends w fun _ w' => w'.disk = w.disk := by
  induction count generalizing w with
  | zero => rfl
  | succ count ih =>
    rw [ends_retreatMany_succ]
    refine (retreat_disk operation (some verify)).mono fun r w₁ hdisk => ?_
    cases r with
    | ok => exact ih.mono fun _ _ hend => hend.trans hdisk
    | error => exact hdisk

theorem popMany_disk (count : Nat) (verify : Bool) :
    (popMany count verify).Ends w fun _ w' => w'.disk = w.disk := by
  apply popMany_rule rfl
  case popped => exact fun _ _ _ _ _ => retreatMany_disk _ _ _
  all_goals
    intros
    rfl

theorem revoke_disk (h : w.Orderly) : revoke.Ends w fun _ w' => w'.disk = w.disk := by
  have hrevoke : ∀ unit, w.db.coordinator.openUnit = some unit →
      revokeUnit.Ends w fun _ w' => w'.disk = w.disk := fun unit hunit =>
    (revokeUnit_lost h.sound hunit).mono fun _ _ hend => hend.2.disk
  exact revoke_rule (fun _ _ => rfl) (fun _ _ _ => rfl) (fun _ _ _ => rfl)
    (fun unit _ hunit _ => hrevoke unit hunit) fun _ _ _ _ => retreat_disk _ _

/-- A database that has halted refuses. -/
theorem ensureRunning_refuses {α : Type} (hhalted : w.db.coordinator.halted = true)
    (next : Operation α) :
    (do ensureRunning; next : Operation α).Ends w fun r w' =>
      r ≠ (.error .panic : Except Fault α) ∧ w' = w := by
  rw [ends_bind, ends_ensureRunning, Coordinator.stopped?, hhalted]
  refine ⟨fun h => ?_, rfl⟩
  cases h

/-- A command whose operation leaves the stores alone, and does nothing
where the database has halted. -/
theorem undoes_disk {body : Operation Unit} (hdisk : body.Ends w fun _ w' => w'.disk = w.disk)
    (hrefuses : w.db.coordinator.halted = true →
      body.Ends w fun r w' => r ≠ .error .panic ∧ w' = w) :
    (do locked body; return .done : Operation Reply).Ends w fun _ w' =>
      w'.disk = w.disk ∧ (¬w.Running → w' = w) := by
  have hlocked : (locked body).Ends w fun _ w' => w'.disk = w.disk ∧ (¬w.Running → w' = w) := by
    cases hpoisoned : w.db.poisoned with
    | true =>
      rw [ends_locked, if_pos hpoisoned]
      exact ⟨rfl, fun _ => rfl⟩
    | false =>
      cases hhalted : w.db.coordinator.halted with
      | true =>
        refine locked_of_ne_panic hpoisoned ((hrefuses hhalted).mono fun r w' hend => ?_)
        obtain ⟨hr, rfl⟩ := hend
        exact ⟨hr, rfl, fun _ => rfl⟩
      | false =>
        have hrun : w.Running := ⟨hpoisoned, hhalted⟩
        rw [ends_locked, if_neg (by simp [hpoisoned])]
        refine hdisk.mono fun r w' hend => ?_
        match r with
        | .ok () => exact ⟨hend, fun h => absurd hrun h⟩
        | .error (.error _) => exact ⟨hend, fun h => absurd hrun h⟩
        | .error .panic => exact ⟨hend, fun h => absurd hrun h⟩
  exact Ends.done hlocked

end Operation

/-- A move that discards committed layers leaves the stores alone, and
does nothing where the database has stopped. -/
theorem Move.act_of_undoes {w : World} (h : w.Orderly) {move : Move}
    (hundoes : move.undoes = true) :
    (move.act w).disk = w.disk ∧ (¬w.Running → move.act w = w) := by
  match move, hundoes with
  | .call .revoke, _ =>
    have hend : Command.revoke.run.Ends w fun _ w' => w'.disk = w.disk ∧ (¬w.Running → w' = w) :=
      Operation.undoes_disk (Operation.revoke_disk h) fun hhalted =>
        Operation.ensureRunning_refuses hhalted _
    exact hend
  | .call (.popMany count verify), _ =>
    have hend : (Command.popMany count verify).run.Ends w fun _ w' =>
        w'.disk = w.disk ∧ (¬w.Running → w' = w) :=
      Operation.undoes_disk (Operation.popMany_disk count verify) fun hhalted =>
        Operation.ensureRunning_refuses hhalted _
    exact hend

namespace World

/-! ### Layers that are settled -/

/-- In the run, a layer that had been committed, or was still to be, was
discarded. -/
def Undone (w₀ : World) (moves : List Move) (seq : Nat) : Prop :=
  ∃ before move after, moves = before ++ move :: after ∧ move.undoes = true ∧
    seq ∈ (w₀.play before).db.coordinator.levels ∧
    seq ∉ (w₀.play (before ++ [move])).db.coordinator.levels

/-- As `w` stands after the run, the unit of work that had the layer of
this number is committed. The layer was not discarded, and is in the
roots, unless the database has stopped. -/
structure Settled (w₀ : World) (moves : List Move) (w : World) (seq : Nat) : Prop where
  committed : CommittedUnit w₀ moves w seq
  kept : ¬w₀.Undone moves seq
  gone : seq ∈ w.db.coordinator.levels → ¬w.Running

/-- A flush of the `n` oldest layers of this coordinator: they are
committed on every table, and settled as `w` stands after the run, and
what they say was written to them. -/
structure FlushOf (w₀ : World) (moves : List Move) (w : World) (c : Coordinator) (n : Nat) :
    Prop where
  sound : c.Sound
  registered : c.registered <+: w.db.coordinator.registered
  journal : c.journal = w.db.coordinator.journal
  committed : ∀ chain ∈ c.tables, ∀ layer ∈ chain.layers.take n, layer.committed = true
  settled : ∀ seq ∈ c.levels.take n, Settled w₀ moves w seq
  written : ∀ chain ∈ c.tables, ∀ layer ∈ chain.layers.take n, ∀ key entry,
    layer.get? key = some entry → w₀.WrittenTo moves layer.seq chain.name key entry

section
variable {w₀ w w' : World} {moves : List Move} {move : Move} {seq n : Nat}
  {r : Except Fault Unit}

theorem Undone.of_snoc (h : w₀.Undone (moves ++ [move]) seq) : w₀.Undone moves seq ∨
    move.undoes = true ∧ seq ∈ (w₀.play moves).db.coordinator.levels ∧
      seq ∉ (w₀.play (moves ++ [move])).db.coordinator.levels := by
  obtain ⟨before, undo, after, hmoves, hundoes, hmem, hgone⟩ := h
  rcases List.eq_nil_or_concat after with rfl | ⟨middle, last, rfl⟩
  · obtain ⟨rfl, hundo⟩ := List.append_inj' hmoves rfl
    obtain rfl : move = undo := List.head_eq_of_cons_eq hundo
    exact .inr ⟨hundoes, hmem, hgone⟩
  · rw [List.concat_eq_append, ← List.cons_append, ← List.append_assoc] at hmoves
    exact .inl ⟨before, undo, middle, (List.append_inj' hmoves rfl).1, hundoes, hmem, hgone⟩

/-- A layer that was discarded does not come back. -/
theorem Undone.not_mem (h : w₀.Undone moves seq) (horderly₀ : w₀.Orderly)
    (htrace : Traceable w₀ moves w) : seq ∉ w.db.coordinator.levels := by
  obtain ⟨before, undo, after, rfl, -, hmem, hgone⟩ := h
  have hbefore := horderly₀.play before
  have hgrows := (hbefore.precedes_snoc undo).grows
  have hlt := Nat.lt_of_lt_of_le (hbefore.sound.lt_nextSeq seq hmem) hgrows.remembers.nextSeq
  exact (htrace.precedes (before ++ [undo]) after (by simp)).grows.not_mem_levels hlt hgone

theorem Settled.precedes (h : Settled w₀ moves w seq) (hprecedes : w.Precedes w') :
    Settled w₀ moves w' seq where
  committed := h.committed.grows hprecedes.grows
  kept := h.kept
  gone hmem hrun := by
    by_cases hold : seq ∈ w.db.coordinator.levels
    · exact h.gone hold (hprecedes.running hrun)
    · exact hprecedes.grows.not_mem_levels h.committed.past.1 hold hmem

/-- A layer that is settled stays so over a move that does not discard
it. -/
theorem Settled.snoc (h : Settled w₀ moves (w₀.play (moves ++ [move])) seq)
    (hkept : move.undoes = true → seq ∈ (w₀.play moves).db.coordinator.levels →
      seq ∈ (w₀.play (moves ++ [move])).db.coordinator.levels) :
    Settled w₀ (moves ++ [move]) (w₀.play (moves ++ [move])) seq where
  committed := h.committed.snoc
  kept hundone := by
    rcases hundone.of_snoc with hold | ⟨hundoes, hmem, hgone⟩
    · exact h.kept hold
    · exact hgone (hkept hundoes hmem)
  gone := h.gone

/-- Also over one that discards layers, for these are there while the
database runs. -/
theorem Settled.undo (h : Settled w₀ moves (w₀.play moves) seq) (horderly : (w₀.play moves).Orderly)
    (hundoes : move.undoes = true) :
    Settled w₀ (moves ++ [move]) (w₀.play (moves ++ [move])) seq := by
  refine (h.precedes (horderly.precedes_snoc move)).snoc fun _ hmem => ?_
  rw [play_snoc, (Move.act_of_undoes horderly hundoes).2 (h.gone hmem)]
  exact hmem

/-! ### Flushes of settled layers -/

theorem Unlocks.grows {w₁ : World} (h : Unlocks r w₁ w') (hend : FlushEnd w n r w₁) :
    w.db.coordinator.Grows w'.db.coordinator := by
  have hgrows := grows_of_flushEnd hend
  rcases h with ⟨-, rfl⟩ | ⟨-, rfl⟩ <;> exact hgrows

/-- A flush that is stopped stops the database. -/
theorem Unlocks.eq_ok {w₁ : World} (h : Unlocks r w₁ w') (hend : FlushEnd w n r w₁)
    (hrun : w'.Running) : r = .ok () ∧ w' = w₁ := by
  rcases h with ⟨hr, rfl⟩ | ⟨-, rfl⟩
  · cases r with
    | ok => exact ⟨rfl, rfl⟩
    | error fault =>
      cases fault with
      | panic => exact absurd rfl hr
      | error error =>
        rw [Running, hend.halted_of_error] at hrun
        cases hrun.2
  · cases hrun.1

/-- After a flush none of its layers is left in a database that runs. -/
theorem gone_of_flushEnd {w₁ : World} (hend : FlushEnd w n r w₁) (hsound : w.db.coordinator.Sound)
    (hunlocks : Unlocks r w₁ w') (hmem : seq ∈ w.db.coordinator.levels.take n)
    (hleft : seq ∈ w'.db.coordinator.levels) : ¬w'.Running := by
  intro hrun
  obtain ⟨rfl, rfl⟩ := hunlocks.eq_ok hend hrun
  have hpos : 0 < n := by
    by_contra hzero
    rw [Nat.eq_zero_of_not_pos hzero] at hmem
    cases hmem
  -- The levels increase, so none is both among those taken and those left.
  rw [(hend.sameStacks_of_ok hpos).levels] at hleft
  exact Nat.lt_irrefl _ (hsound.lt_of_mem_take_drop hmem hleft)

/-- The layers that a flush moves are settled after it. -/
theorem Traceable.settled (h : Traceable w₀ moves w) (horderly₀ : w₀.Orderly)
    (hopen : w.db.coordinator.openSeq?.isSome → n < w.db.coordinator.levels.length) {w₁ : World}
    (hend : FlushEnd w n r w₁) (hunlocks : Unlocks r w₁ w')
    (hmem : seq ∈ w.db.coordinator.levels.take n) : Settled w₀ moves w' seq := by
  have hlevels := List.mem_of_mem_take hmem
  have hclosed := h.sound.ne_open_of_mem_take hopen hmem
  exact
    { committed := ((h.fates seq hlevels).resolve_left hclosed).grows (hunlocks.grows hend)
      kept := fun hundone => hundone.not_mem horderly₀ h hlevels
      gone := gone_of_flushEnd hend h.sound hunlocks hmem }

/-- A flush is one of layers that are settled after it. -/
theorem Traceable.flushOf (h : Traceable w₀ moves w) (horderly₀ : w₀.Orderly)
    (hopen : w.db.coordinator.openSeq?.isSome → n < w.db.coordinator.levels.length) {w₁ : World}
    (hend : FlushEnd w n r w₁) (hunlocks : Unlocks r w₁ w') :
    FlushOf w₀ moves w' w.db.coordinator n where
  sound := h.sound
  registered := (hunlocks.grows hend).registered
  journal := (hunlocks.grows hend).journal.symm
  committed chain hchain layer hlayer := by
    have hstep := h.sound.chains chain hchain
    exact (hstep.committed layer (List.mem_of_mem_take hlayer)).mpr
      (h.sound.ne_open_of_mem_take hopen (hstep.seq_mem_take hlayer))
  settled seq hmem := h.settled horderly₀ hopen hend hunlocks hmem
  written chain hchain layer hlayer key entry hget :=
    h.said chain.name layer.seq key entry
      ⟨chain, hchain, rfl, layer, List.mem_of_mem_take hlayer, rfl, hget⟩

/-- What a flush writes to a root was written to layers that are
settled. -/
theorem FlushOf.exists_written {c : Coordinator} (h : FlushOf w₀ moves w c n) {chain : Chain}
    (hchain : chain ∈ c.tables) {pair : Bytes × Entry}
    (hpair : pair ∈ (chain.netOldest n).diff.toList) :
    ∃ seq, w₀.WrittenTo moves seq chain.name pair.1 pair.2 ∧ Settled w₀ moves w seq := by
  obtain ⟨layer, hlayer, hget⟩ := Chain.exists_of_mem_netOldest hpair
  exact ⟨layer.seq, h.written chain hchain layer hlayer pair.1 pair.2 hget,
    h.settled layer.seq ((h.sound.chains chain hchain).seq_mem_take hlayer)⟩

end

end World

end LayeredStore

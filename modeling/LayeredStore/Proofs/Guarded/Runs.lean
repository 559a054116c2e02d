import LayeredStore.Proofs.Guarded.Safety
import LayeredStore.Proofs.Rollback

/-!
# `LayeredStore.Proofs.Guarded.Runs`: no run slips

The sequence numbers count the pushes, and the numbers of a database just
opened tally. So in every state that a run reaches, as long as no more
layers are pushed than there are sequence numbers of 64 bits, every
operation makes its steps with all guards in place, and none of them
fails.

* `World.pushCount` is how many layers a run pushes, and `nextSeq_play`
  finds it in the coordinator.
* `tallies_play`: the numbers tally in every state that a run reaches,
  also where a store failed and the database halted.
* `World.HandedOut`: a handle on a table comes from a registration or was
  asked for by name, and `lt_length_of_handedOut` says that its place
  stays one of the tables'.
* `no_operation_slips` puts these together.
-/

set_option autoImplicit false

namespace LayeredStore

open Operation

/-- Carried out on the world, the guarded operation does what the other
does, and does not slip. -/
def Guarded.Agrees {α : Type} (guarded : Guarded α) (body : Operation α) (w : World) : Prop :=
  guarded.perform w = ((body.perform w).1.map .ok, (body.perform w).2)

-- In a state that no run reaches, with more levels pending than there are, the
-- same command is refused without guards, and slips with them.
example :
    let w := (World.opened .empty {} "journal" []).withCoordinator
      { Coordinator.new {} "journal" false with pending := 1 }
    (Command.merge.run.perform w).1 = .error (.error (.illegalState (.emptyChain "merge"))) ∧
      ((Guarded.carryOut .merge).perform w).1 = .ok (.error .underflow) :=
  ⟨rfl, rfl⟩

/-- Whether the move pushes a layer: after it there is a level that was
not there before. -/
def Move.pushes (w : World) (move : Move) : Bool :=
  (move.act w).db.coordinator.levels.any fun seq => !w.db.coordinator.levels.contains seq

namespace World

/-- How many layers a run pushes. -/
def pushCount (w : World) : List Move → Nat
  | [] => 0
  | move :: moves => (move.pushes w).toNat + (move.act w).pushCount moves

/-- In the course of the run, this handle on a table was answered. -/
inductive HandedOut (w : World) (moves : List Move) (table : Table) : Prop
  | registered (before after : List Move) (name root : String)
      (hmoves : moves = before ++ .call (.addTable name root) :: after)
      (hreply : ((Command.addTable name root).run.perform (w.play before)).1 = .ok (.table table))
  | found (before after : List Move) (name : String) (hmoves : moves = before ++ after)
      (hreply : ((Database.table? name).perform (w.play before)).1 = .ok (some table))

section
variable {w : World}

/-! ### Sequence numbers count the pushes -/

theorem pushes_eq_false {move : Move}
    (h : (move.act w).db.coordinator.levels ⊆ w.db.coordinator.levels) : move.pushes w = false := by
  refine List.any_eq_false.mpr fun seq hmem => ?_
  rw [List.contains_iff_mem.mpr (h hmem)]
  exact Bool.false_ne_true

/-- A push makes a level of a number that no level had before. -/
theorem pushes_eq_true (hsound : w.db.coordinator.Sound) {move : Move}
    (hmem : w.db.coordinator.nextSeq ∈ (move.act w).db.coordinator.levels) :
    move.pushes w = true := by
  have hnew : w.db.coordinator.nextSeq ∉ w.db.coordinator.levels := fun hold =>
    Nat.lt_irrefl _ (hsound.lt_nextSeq _ hold)
  refine List.any_eq_true.mpr ⟨_, hmem, ?_⟩
  rw [Bool.not_eq_true', Bool.eq_false_iff, Ne, List.contains_iff_mem]
  exact hnew

theorem nextSeq_act (hsound : w.db.coordinator.Sound) (move : Move) :
    (move.act w).db.coordinator.nextSeq = w.db.coordinator.nextSeq + (move.pushes w).toNat := by
  have hcalm : w.Keeps (move.act w) → (move.act w).db.coordinator.nextSeq =
      w.db.coordinator.nextSeq + (move.pushes w).toNat := fun hkeeps => by
    rw [pushes_eq_false hkeeps.levels]
    exact hkeeps.nextSeq
  rcases act_cases hsound move with h | ⟨_, _, w₁, hpath, heq | hpush⟩ | ⟨_, _, _, hregister⟩
  · exact hcalm h.keeps
  · exact hcalm (heq ▸ hpath.keeps)
  · have hnext : w₁.db.coordinator.nextSeq = w.db.coordinator.nextSeq := hpath.keeps.nextSeq
    have hlevels : (move.act w).db.coordinator.levels =
        w₁.db.coordinator.levels ++ [w₁.db.coordinator.nextSeq] := hpush.sameStacks.levels
    have hmem : w.db.coordinator.nextSeq ∈ (move.act w).db.coordinator.levels := by
      rw [hlevels, hnext]
      exact List.mem_append_right _ List.mem_cons_self
    rw [pushes_eq_true hsound hmem, ← hnext]
    exact hpush.sameStacks.nextSeq
  · rw [pushes_eq_false (hregister.sameStacks.levels ▸ List.Subset.refl _)]
    exact hregister.sameStacks.nextSeq

theorem nextSeq_play (hsound : w.db.coordinator.Sound) (moves : List Move) :
    (w.play moves).db.coordinator.nextSeq = w.db.coordinator.nextSeq + w.pushCount moves := by
  induction moves generalizing w with
  | nil => rfl
  | cons move moves ih =>
    rw [play_cons, ih (act_sound hsound move).1, nextSeq_act hsound move, pushCount, Nat.add_assoc]

/-! ### The numbers tally -/

theorem tallies_act (htallies : w.db.coordinator.Tallies) {move : Move}
    (hbound : (move.act w).db.coordinator.nextSeq < 2 ^ 64) :
    (move.act w).db.coordinator.Tallies := by
  cases move with
  | call command => exact ((Guarded.safe_carryOut command w).2 htallies hbound).1
  | close => exact ((Guarded.safe_close w).2 htallies hbound).1
  | setPlan store plan => exact htallies

theorem tallies_play (hsound : w.db.coordinator.Sound) (htallies : w.db.coordinator.Tallies)
    {moves : List Move} (hbound : (w.play moves).db.coordinator.nextSeq < 2 ^ 64) :
    (w.play moves).db.coordinator.Tallies := by
  induction moves generalizing w with
  | nil => exact htallies
  | cons move moves ih =>
    have hsound₁ := (act_sound hsound move).1
    -- No number is taken back, so the bound at the end is one after the move.
    have hbound₁ := Nat.lt_of_le_of_lt (sound_of_play hsound₁ moves).2 hbound
    exact ih hsound₁ (tallies_act htallies hbound₁) hbound

/-- A limit of zero counts as one, so a layer may be live from the
start. -/
theorem tallies_new (configuration : Configuration) (journal : String) (publishing : Bool) :
    (Coordinator.new configuration journal publishing).Tallies where
  pending_le := Nat.le_refl 0
  inStep := nofun
  levels_lt := Nat.zero_lt_one
  maxSize_pos := Nat.le_max_right _ _

/-! ### Handles -/

/-- A table is registered behind the others. -/
theorem addTable_in_range (name root : String) (w : World) :
    (Command.addTable name root).run.Ends w fun r w' =>
      ∀ table, r = .ok (.table table) → table.index < w'.db.coordinator.tables.length := by
  have hadd : (addTable name root).Ends w fun r w' =>
      ∀ place, r = .ok place → place < w'.db.coordinator.tables.length := by
    apply addTable_rule
    case refused => exact fun _ _ => nofun
    case duplicate => exact fun _ _ => nofun
    case registered =>
      rintro - - place ⟨⟩
      show _ < (w.db.coordinator.tables ++ [_]).length
      rw [List.length_append]
      exact Nat.lt_succ_self _
  unfold Command.run Database.addTable
  rw [ends_bind, ends_locked]
  split
  · exact nofun
  rw [ends_bind]
  refine hadd.mono fun r w' hplace => ?_
  match r, hplace with
  | .ok place, hplace =>
    intro table htable
    obtain rfl := Reply.table.inj (Except.ok.inj htable)
    exact hplace place rfl
  | .error (.error _), _ | .error .panic, _ => exact nofun

/-- A table that is found is one of the tables. -/
theorem table?_in_range {name : String} {table : Table} {w : World}
    (h : ((Database.table? name).perform w).1 = .ok (some table)) :
    table.index < w.db.coordinator.tables.length := by
  have hfound : (Database.table? name).Ends w fun r _ =>
      r = .ok (some table) → table.index < w.db.coordinator.tables.length := by
    unfold Database.table?
    rw [ends_locked]
    split
    · exact nofun
    simp only [ends_bind, ends_getCoordinator, ends_pure]
    intro h
    obtain ⟨place, hplace, rfl⟩ := Option.map_eq_some_iff.mp (Except.ok.inj h)
    exact (List.findIdx?_eq_some_iff_getElem.mp hplace).1
  exact hfound h

/-- No table is taken away. -/
theorem length_tables_play (hsound : w.db.coordinator.Sound) (moves : List Move) :
    w.db.coordinator.tables.length ≤ (w.play moves).db.coordinator.tables.length := by
  rw [← Coordinator.length_registered, ← Coordinator.length_registered]
  exact (registered_play hsound moves).1.length_le

/-- The place that a handle names stays one of the tables'. -/
theorem lt_length_of_handedOut (hsound : w.db.coordinator.Sound) {moves : List Move} {table : Table}
    (h : w.HandedOut moves table) : table.index < (w.play moves).db.coordinator.tables.length := by
  cases h with
  | registered before after name root hmoves hreply =>
    have hsound₁ := (act_sound (sound_of_play hsound before).1 (.call (.addTable name root))).1
    rw [hmoves, play_append, play_cons]
    exact Nat.lt_of_lt_of_le (addTable_in_range name root _ table hreply)
      (length_tables_play hsound₁ after)
  | found before after name hmoves hreply =>
    rw [hmoves, play_append]
    exact Nat.lt_of_lt_of_le (table?_in_range hreply)
      (length_tables_play (sound_of_play hsound before).1 after)

end

/-! ### No run slips -/

/-- Reading under the lock changes nothing. -/
theorem locked_read {α : Type} (read : World → α) (w : World) :
    ((locked do return read (← get)).perform w).2 = w := by
  rw [perform_locked]
  split <;> rfl

/-- In every state that a run of any commands reaches, with any store
failing at any write and the database halted by it or not, as long as
fewer than `2 ^ 64 - 1` layers are pushed: every command, whatever its
arguments, does the same with all its guards in place, and none of them
fails. So does letting go of the database, reading a key, asking for the
depth or the mode, and walking on. Every handle on a table that was
answered in the run names the place of one. -/
theorem no_operation_slips (disk : Disk) (configuration : Configuration) (journal : String)
    (handlers : List Handler) (moves : List Move) :
    let start := opened disk configuration journal handlers
    let w := start.play moves
    (∀ command, start.pushCount (moves ++ [.call command]) < 2 ^ 64 - 1 →
      (Guarded.carryOut command).Agrees command.run w) ∧
    (start.pushCount (moves ++ [.close]) < 2 ^ 64 - 1 → Guarded.close.Agrees Database.drop w) ∧
    (start.pushCount moves < 2 ^ 64 - 1 →
      (∀ table key, (Guarded.get? table key).Agrees (table.get? key) w) ∧
      (∀ table, (Guarded.depth table).Agrees table.depth w) ∧
      (∀ iter, Guarded.next iter w = .ok (iter.next w)) ∧
      w.db.coordinator.guardedMode = .ok w.db.coordinator.mode) ∧
    ∀ table, start.HandedOut moves table → table.index < w.db.coordinator.tables.length := by
  intro start w
  have hsound : start.db.coordinator.Sound := Coordinator.sound_new configuration journal _
  have htallies : start.db.coordinator.Tallies := tallies_new configuration journal _
  -- The sequence numbers start at one and count the pushes.
  have hnext : ∀ moves, start.pushCount moves < 2 ^ 64 - 1 →
      (start.play moves).db.coordinator.nextSeq < 2 ^ 64 := by
    intro moves hpushes
    have hone : start.db.coordinator.nextSeq = 1 := rfl
    rw [nextSeq_play hsound moves, hone]
    omega
  have hlast : ∀ move, start.pushCount (moves ++ [move]) < 2 ^ 64 - 1 →
      w.db.coordinator.Tallies ∧ (move.act w).db.coordinator.nextSeq < 2 ^ 64 := by
    intro move hpushes
    have hbound := hnext _ hpushes
    rw [play_snoc] at hbound
    have hle := (act_sound (sound_of_play hsound moves).1 move).2
    exact ⟨tallies_play hsound htallies (Nat.lt_of_le_of_lt hle hbound), hbound⟩
  refine ⟨fun command hpushes => ?_, fun hpushes => ?_, fun hpushes => ?_,
    fun table => lt_length_of_handedOut hsound⟩
  · obtain ⟨htallies, hbound⟩ := hlast _ hpushes
    exact ((Guarded.safe_carryOut command w).2 htallies hbound).2
  · obtain ⟨htallies, hbound⟩ := hlast _ hpushes
    exact ((Guarded.safe_close w).2 htallies hbound).2
  · have hbound := hnext _ hpushes
    have htallies := tallies_play hsound htallies hbound
    -- A read leaves the world as it is, so the bound of now is enough.
    have hread : ∀ {α : Type} {guarded : Guarded α} {body : Operation α},
        Guarded.Safe guarded body w → (body.perform w).2 = w → guarded.Agrees body w :=
      fun hsafe hsame => (hsafe.2 htallies (by rw [hsame]; exact hbound)).2
    exact ⟨fun table key => hread (Guarded.safe_get? table key w) (locked_read _ w),
      fun table => hread (Guarded.safe_readDepth table w) (locked_read _ w),
      Guarded.next_eq htallies, htallies.guardedMode_eq⟩

/-- Three layers, of which all but one become pending; then a flush of
these finds a root that fails, and the database halts with all three. -/
theorem no_operation_slips_halted :
    let start := opened .empty {} "journal" []
    let write (key : UInt8) : List Move :=
      [.call (.openSession false), .call (.write ⟨0, "a"⟩ [key] (.value [1])),
        .call (.write ⟨1, "b"⟩ [key] (.value [2])), .call .commit]
    let running : List Move := [.call (.addTable "a" "ra"), .call (.addTable "b" "rb")] ++
      write 10 ++ write 20 ++ write 30 ++ [.call (.setMaxSize 1)]
    let failing := running ++ [.setPlan "rb" (some ⟨0, .error (.refused "full")⟩)]
    let halted := failing ++ [.call (.setMaxFlushCount 2)]
    let w := start.play halted
    start.pushCount halted = 3 ∧ w.db.coordinator.halted = true ∧
    w.db.coordinator.levels = [1, 2, 3] ∧ w.db.coordinator.pending = 2 ∧
    (Guarded.carryOut .merge).Agrees Command.merge.run (start.play running) ∧
    (Guarded.carryOut (.setMaxFlushCount 2)).Agrees (Command.setMaxFlushCount 2).run
      (start.play failing) ∧
    (Guarded.carryOut .shutdown).Agrees Command.shutdown.run w ∧
    Guarded.close.Agrees Database.drop w ∧
    (Guarded.get? ⟨1, "b"⟩ [20]).Agrees (Table.get? ⟨1, "b"⟩ [20]) w ∧
    ((Table.get? ⟨1, "b"⟩ [20]).perform w).1 = .ok (some [2]) ∧
    1 < w.db.coordinator.tables.length := by
  intro start write running failing halted w
  have hrunning := no_operation_slips .empty {} "journal" [] running
  have hfailing := no_operation_slips .empty {} "journal" [] failing
  have hhalted := no_operation_slips .empty {} "journal" [] halted
  extract_lets at hrunning hfailing hhalted
  obtain ⟨hcommands, hclose, hreads, hhandles⟩ := hhalted
  have hgiven : start.HandedOut halted ⟨1, "b"⟩ :=
    .registered (halted.take 1) (halted.drop 2) "b" "rb" rfl (by decide +kernel)
  exact ⟨by decide +kernel, by decide +kernel, by decide +kernel, by decide +kernel,
    hrunning.1 .merge (by decide +kernel), hfailing.1 (.setMaxFlushCount 2) (by decide +kernel),
    hcommands .shutdown (by decide +kernel), hclose (by decide +kernel),
    (hreads (by decide +kernel)).1 ⟨1, "b"⟩ [20], by decide +kernel, hhandles _ hgiven⟩

end World

end LayeredStore

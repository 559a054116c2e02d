import LayeredStore.Proofs.Commands

/-!
# `LayeredStore.Proofs.Runs`: runs of a database

A run is a list of moves: commands, letting go of the database, and
stores that start or stop failing. The database is opened over any disk,
and every store can fail at every write.

* `World.play` is where a run leads, and `play_append` cuts it in two.
* `act_cases`: what a move does, and `act_course`: what exactly it does if
  the database finds no record.
* `play_sound`: the coordinator is sound in every state that a run
  reaches.
* `chains_consistent`: what this says in the terms of the coordinator.
  The check of the chains finds nothing wrong, every layer but that of
  the open unit of work is committed, and that layer is the newest of
  every table, is live, and is the only one not committed.
-/

set_option autoImplicit false

namespace LayeredStore

/-- What can happen to a database. -/
inductive Move where
  /-- A command is carried out. -/
  | call (command : Command)
  /-- The database is let go of. -/
  | close
  /-- A store is set to fail, or not to fail any more. -/
  | setPlan (store : String) (plan : Option FaultPlan)
  deriving DecidableEq, Repr

namespace Move

/-- The world after a move, whatever it answers. -/
def act (w : World) : Move → World
  | call command => (command.run.perform w).2
  | close => (Database.drop.perform w).2
  | setPlan store plan => w.withDisk (w.disk.setPlan store plan)

end Move

namespace World

/-- A database just opened over a disk. -/
def opened (disk : Disk) (configuration : Configuration) (journal : String)
    (handlers : List Handler) : World where
  disk := disk
  db := Database.new configuration journal handlers
  notices := []

/-- The world after a run. -/
def play (w : World) (moves : List Move) : World := moves.foldl Move.act w

@[simp] theorem play_nil (w : World) : w.play [] = w := rfl

@[simp] theorem play_cons (w : World) (move : Move) (moves : List Move) :
    w.play (move :: moves) = (move.act w).play moves := rfl

theorem play_append (w : World) (before after : List Move) :
    w.play (before ++ after) = (w.play before).play after :=
  List.foldl_append

theorem play_snoc (w : World) (moves : List Move) (move : Move) :
    w.play (moves ++ [move]) = move.act (w.play moves) :=
  w.play_append moves [move]

/-! ### Every reachable coordinator is sound -/

section
variable {w w' : World}

theorem Opens.sound (h : Opens w w') (hsound : w.db.coordinator.Sound) :
    w'.db.coordinator.Sound := by
  obtain ⟨w₁, hpath, rfl | hpush⟩ := h
  · exact hpath.sound hsound
  · exact hpush.sound (hpath.sound hsound)

theorem Opens.nextSeq_le (h : Opens w w') :
    w.db.coordinator.nextSeq ≤ w'.db.coordinator.nextSeq := by
  obtain ⟨w₁, hpath, rfl | hpush⟩ := h
  · exact Nat.le_of_eq hpath.keeps.nextSeq.symm
  · have hnext : w'.db.coordinator.nextSeq = w₁.db.coordinator.nextSeq + 1 :=
      hpush.sameStacks.nextSeq
    have hsame := hpath.keeps.nextSeq
    omega

/-- A move that neither pushes a layer nor registers a table. -/
inductive Calm (w w' : World) : Prop
  | acts (h : Acts w w')
  | writes (h : Writes w w')
  | setPlan (store : String) (plan : Option FaultPlan)
      (h : w' = w.withDisk (w.disk.setPlan store plan))

theorem Calm.sound (h : Calm w w') (hsound : w.db.coordinator.Sound) :
    w'.db.coordinator.Sound := by
  cases h with
  | acts h => exact h.sound hsound
  | writes h => exact h.sound hsound
  | setPlan _ _ h => exact h ▸ hsound

theorem Calm.keeps (h : Calm w w') : w.Keeps w' := by
  cases h with
  | acts h => exact h.keeps
  | writes h => exact h.keeps
  | setPlan _ _ h => exact h ▸ ⟨rfl, rfl, rfl, fun _ h => h, id, id⟩

/-- What a move does: it is calm, or it opens a session, or it registers
a table. -/
theorem act_cases (hsound : w.db.coordinator.Sound) (move : Move) :
    Calm w (move.act w) ∨
    (∃ force, move = .call (.openSession force) ∧ Opens w (move.act w)) ∨
    ∃ name root, move = .call (.addTable name root) ∧ Registers name root w (move.act w) := by
  cases move with
  | call command =>
    have hpath : command.Path w ((Move.call command).act w) := Command.run_path hsound command
    cases command with
    | addTable name root =>
      rcases hpath with heq | hregister
      · refine .inl (.acts ?_)
        rw [heq]
      · exact .inr (.inr ⟨name, root, rfl, hregister⟩)
    | openSession force => exact .inr (.inl ⟨force, rfl, hpath.opens⟩)
    | write table key entry => exact .inl (.writes hpath.writes)
    | check => exact .inl (.acts hpath)
    | commitSession | revokeSession | dropSession | commit | revoke | merge | popMany | enable
    | disable | setCursor | setMaxSize | setMaxFlushCount | shutdown =>
      exact .inl (.acts (Actually.acts hpath))
  | close =>
    have hpath : Actually w (Move.close.act w) := Database.drop_path hsound
    exact .inl (.acts hpath.acts)
  | setPlan store plan => exact .inl (.setPlan store plan rfl)

/-- A check that finds no record changes nothing. -/
theorem check_unchanged (hsound : w.db.coordinator.Sound) (hrecord : w.Running → w.NoRecord) :
    Command.check.run.Ends w fun _ w' => w' = w := by
  have hcheck : (Operation.locked Operation.check).Ends w fun _ w' => w' = w := by
    refine Operation.locked_path (R := fun w w' => w' = w) (fun _ => rfl) fun hpoisoned => ?_
    refine Operation.check_of_recoverRunning (fun w' h => h ▸ hsound)
      (Operation.recoverRunning_led hpoisoned rfl fun hrun record hload => ?_)
    exact absurd (hrecord hrun) (Operation.not_noRecord_of_load hload)
  exact Operation.Ends.answer Reply.report hcheck

/-- Where a move leads, with every step exact. -/
inductive Course (w : World) : Move → World → Prop
  | acts {move : Move} {w' : World}
      (hmove : ∀ table key entry, move ≠ .call (.write table key entry)) (h : Actually w w') :
      Course w move w'
  | opens {force : Bool} {w' : World} (h : OpensExactly w w') :
      Course w (.call (.openSession force)) w'
  | registers {name root : String} {w' : World} (h : Registers name root w w') :
      Course w (.call (.addTable name root)) w'
  | writes {table : Table} {key : Bytes} {entry : Entry} {w' : World} (h : WritesExactly w w') :
      Course w (.call (.write table key entry)) w'
  | setPlan {store : String} {plan : Option FaultPlan} :
      Course w (.setPlan store plan) (w.withDisk (w.disk.setPlan store plan))

/-- What a move does, if a database that runs finds no record: then no
check replays one. -/
theorem act_course (hsound : w.db.coordinator.Sound) (hrecord : w.Running → w.NoRecord)
    (move : Move) : Course w move (move.act w) := by
  cases move with
  | call command =>
    have hpath : command.Path w ((Move.call command).act w) := Command.run_path hsound command
    cases command with
    | addTable name root =>
      rcases hpath with heq | hregister
      · rw [heq]
        exact .acts nofun .refl
      · exact .registers hregister
    | openSession force => exact .opens hpath
    | write table key entry => exact .writes hpath
    | check =>
      have hsame : (Move.call .check).act w = w := check_unchanged hsound hrecord
      rw [hsame]
      exact .acts nofun .refl
    | commitSession | revokeSession | dropSession | commit | revoke | merge | popMany | enable
    | disable | setCursor | setMaxSize | setMaxFlushCount | shutdown => exact .acts nofun hpath
  | close => exact .acts nofun (Database.drop_path hsound)
  | setPlan store plan => exact .setPlan

/-- A move keeps the coordinator sound, and never takes a sequence number
back. -/
theorem act_sound (hsound : w.db.coordinator.Sound) (move : Move) :
    (move.act w).db.coordinator.Sound ∧
      w.db.coordinator.nextSeq ≤ (move.act w).db.coordinator.nextSeq := by
  rcases act_cases hsound move with hcalm | ⟨_, _, hopens⟩ | ⟨_, _, _, hregister⟩
  · exact ⟨hcalm.sound hsound, Nat.le_of_eq hcalm.keeps.nextSeq.symm⟩
  · exact ⟨hopens.sound hsound, hopens.nextSeq_le⟩
  · exact ⟨hregister.sound hsound, Nat.le_of_eq hregister.sameStacks.nextSeq.symm⟩

theorem sound_of_play (hsound : w.db.coordinator.Sound) (moves : List Move) :
    (w.play moves).db.coordinator.Sound ∧
      w.db.coordinator.nextSeq ≤ (w.play moves).db.coordinator.nextSeq := by
  induction moves generalizing w with
  | nil => exact ⟨hsound, Nat.le_refl _⟩
  | cons move moves ih =>
    obtain ⟨hsound₁, hle⟩ := act_sound hsound move
    obtain ⟨hsound', hle'⟩ := ih hsound₁
    exact ⟨hsound', Nat.le_trans hle hle'⟩

/-- Layers that were discarded stay so. -/
theorem act_discarded_grows (hsound : w.db.coordinator.Sound) (move : Move) :
    w.discarded <+: (move.act w).discarded := by
  rcases act_cases hsound move with hcalm | ⟨_, _, hopens⟩ | ⟨_, _, _, hregister⟩
  · cases hcalm with
    | acts h => exact h.discarded_grows
    | writes h => exact h.discarded ▸ List.prefix_refl _
    | setPlan _ _ h => exact h ▸ List.prefix_refl _
  · exact hopens.discarded ▸ List.prefix_refl _
  · exact hregister.discarded ▸ List.prefix_refl _

theorem play_discarded_grows (hsound : w.db.coordinator.Sound) (moves : List Move) :
    w.discarded <+: (w.play moves).discarded := by
  induction moves generalizing w with
  | nil => exact List.prefix_refl _
  | cons move moves ih =>
    exact (act_discarded_grows hsound move).trans (ih (act_sound hsound move).1)

end

/-- The coordinator is sound in every state that a run reaches. -/
theorem play_sound (disk : Disk) (configuration : Configuration) (journal : String)
    (handlers : List Handler) (moves : List Move) :
    ((opened disk configuration journal handlers).play moves).db.coordinator.Sound :=
  (sound_of_play (Coordinator.sound_new configuration journal _) moves).1

/-- In every state that a run reaches, at most all levels are pending
and the check of the chains finds nothing wrong: the levels increase,
and every table has a layer for each of them, as many pending as the
coordinator says, with a seal that matches. The tables' names are
distinct. The next sequence number lies above every one pushed so far.
Every layer but that of the open unit of work is committed. If the unit
has a layer, this is the newest of every table, is live, and is the only
one not committed. -/
theorem chains_consistent (disk : Disk) (configuration : Configuration) (journal : String)
    (handlers : List Handler) (moves : List Move) :
    let w := opened disk configuration journal handlers
    let c := (w.play moves).db.coordinator
    c.pending ≤ c.levels.length ∧
    checkChains? c.tables c.levels c.pending = none ∧
    c.levels.Pairwise (· < ·) ∧
    (∀ chain ∈ c.tables, chain.layers.map (·.seq) = c.levels ∧ chain.pending = c.pending ∧
      ∀ layer ∈ chain.layers, layer.sealMatches = true) ∧
    c.tableNames.Nodup ∧
    (∀ before after, moves = before ++ after →
      ∀ seq ∈ (w.play before).db.coordinator.levels, seq < c.nextSeq) ∧
    (∀ chain ∈ c.tables, ∀ layer ∈ chain.layers, c.openSeq? ≠ some layer.seq →
      layer.committed = true) ∧
    (∀ seq, c.openSeq? = some seq → c.levels.getLast? = some seq ∧ c.pending < c.levels.length ∧
      ∀ chain ∈ c.tables, ∃ older head, chain.layers = older ++ [head] ∧ head.seq = seq ∧
        head.committed = false ∧ ∀ layer ∈ older, layer.committed = true) := by
  intro w c
  have hsound : c.Sound := play_sound disk configuration journal handlers moves
  refine ⟨hsound.pending_le, hsound.checkChains?_eq_none, hsound.increasing, fun chain hmem => ?_,
    hsound.names, ?_, fun chain hmem layer hlayer => ?_, fun seq hseq => ?_⟩
  · have hstep := hsound.chains chain hmem
    exact ⟨hstep.seqs, hstep.pending, hstep.seals⟩
  · -- A level pushed at any time lies below the next number of that time.
    intro before after hmoves seq hmem
    have hbefore := play_sound disk configuration journal handlers before
    have hle := (sound_of_play hbefore after).2
    rw [← play_append, ← hmoves] at hle
    exact Nat.lt_of_lt_of_le (hbefore.lt_nextSeq seq hmem) hle
  · exact ((hsound.chains chain hmem).committed layer hlayer).mpr
  · have hlast := hsound.openLast seq hseq
    have hlive := hsound.openLive (Option.isSome_iff_exists.mpr ⟨seq, hseq⟩)
    refine ⟨hlast, hlive, fun chain hmem => ?_⟩
    have hstep := hsound.chains chain hmem
    obtain ⟨older, head, hlayers, hlevels⟩ := hstep.exists_head hlive
    have hhead : head.seq = seq := by
      rw [hlevels, List.getLast?_concat] at hlast
      exact Option.some.inj hlast
    refine ⟨older, head, hlayers, hhead, ?_, fun layer hlayer =>
      hstep.committed_older hsound.increasing hsound.openLast hlayers hlayer⟩
    -- The layer of the open unit is the one that its chain leaves uncommitted.
    have hcommitted := hstep.committed head (hlayers ▸ List.mem_append_right _ List.mem_cons_self)
    rw [hhead, hseq] at hcommitted
    simpa using hcommitted

end World

end LayeredStore

import LayeredStore.Proofs.Runs
import LayeredStore.Proofs.Units

/-!
# `LayeredStore.Proofs.Transitions`: what operations do to the coordinator

`Steps.lean` says what readers see of an operation. Here it is said what
the operations do to everything else: to the unit of work and its
sessions, to the mode of the database and to the generation of its
chains.

* `Coordinator.SameModes` and `Coordinator.Alike` say what a change
  leaves as it was.
* `Coordinator.Turn`: the changes that operations make to a coordinator
  while it leaves the disk alone.
* `World.Step`: such a change, a flush, a replay, or one entry written.
  `World.Steps` is any number of steps.
* `World.Orderly` is what holds between any two of them: the coordinator
  is sound and attended, a unit of work has a layer exactly if the
  database is enabled, and a database that is disabled has no layers.
  `Step.orderly` says that every step keeps it.

The commit of a forced unit of work is one step with the flush that
follows it, for in between the database is enabled for a unit of work
that is closed.
-/

set_option autoImplicit false

namespace LayeredStore

/-! ### What a move can do -/

namespace Move

/-- Whether a move opens a session. -/
def opens : Move → Bool
  | call (.openSession _) => true
  | _ => false

/-- Whether a move resolves sessions that are open. -/
def resolves : Move → Bool
  | call (.commitSession _) | call (.revokeSession _) | call (.dropSession _) | call .commit
  | call .revoke | call .shutdown | close => true
  | _ => false

/-- Whether a move enables the database for more than a unit of work. -/
def enables : Move → Bool
  | call .enable => true
  | _ => false

/-- Whether a move disables the database. -/
def disables : Move → Bool
  | call .disable => true
  | _ => false

/-- Whether a move registers a table. -/
def registers : Move → Bool
  | call (.addTable _ _) => true
  | _ => false

/-- Whether a move writes to the stores otherwise than by a flush. -/
def writesStores : Move → Bool
  | call .check | call (.write _ _ _) => true
  | _ => false

/-- A move that resolves sessions does nothing else of this. -/
theorem of_resolves {move : Move} (h : move.resolves = true) :
    move.opens = false ∧ move.enables = false ∧ move.disables = false ∧
      move.registers = false ∧ move.writesStores = false ∧
      ∀ store plan, move ≠ .setPlan store plan := by
  cases move with
  | call command =>
    cases command <;> first | exact ⟨rfl, rfl, rfl, rfl, rfl, nofun⟩ | cases h
  | close => exact ⟨rfl, rfl, rfl, rfl, rfl, nofun⟩
  | setPlan store plan => cases h

theorem opens_of_resolves {move : Move} (h : move.resolves = true) : move.opens = false :=
  (of_resolves h).1

end Move

namespace Coordinator

/-! ### What a change leaves as it was -/

/-- The coordinators agree in their sessions and in the mode of the
database. -/
structure SameModes (c c' : Coordinator) : Prop where
  openUnit : c'.openUnit = c.openUnit
  statuses : c'.statuses = c.statuses
  enabled : c'.enabled = c.enabled
  disableOnExit : c'.disableOnExit = c.disableOnExit
  shutDown : c'.shutDown = c.shutDown
  roomy : 0 < c.maxSize → 0 < c'.maxSize

/-- The coordinators agree in all but the cursor, the limits, the events
and the count of revokes that found nothing to roll back. -/
structure Alike (c c' : Coordinator) : Prop where
  layers : c.SameStacks c'
  modes : c.SameModes c'
  generation : c'.generation = c.generation
  halted : c'.halted = c.halted

theorem SameModes.refl (c : Coordinator) : c.SameModes c := ⟨rfl, rfl, rfl, rfl, rfl, id⟩

theorem SameModes.trans {c c' c'' : Coordinator} (h : c.SameModes c') (h' : c'.SameModes c'') :
    c.SameModes c'' where
  openUnit := h'.openUnit.trans h.openUnit
  statuses := h'.statuses.trans h.statuses
  enabled := h'.enabled.trans h.enabled
  disableOnExit := h'.disableOnExit.trans h.disableOnExit
  shutDown := h'.shutDown.trans h.shutDown
  roomy hpos := h'.roomy (h.roomy hpos)

theorem sameModes_bump (c : Coordinator) : c.SameModes c.bump := ⟨rfl, rfl, rfl, rfl, rfl, id⟩

theorem sameModes_announce (c : Coordinator) (event : Event) : c.SameModes (c.announce event) := by
  unfold announce
  split <;> exact ⟨rfl, rfl, rfl, rfl, rfl, id⟩

theorem sameModes_clampCursor (c : Coordinator) : c.SameModes c.clampCursor := by
  unfold clampCursor
  split <;> exact ⟨rfl, rfl, rfl, rfl, rfl, id⟩

theorem Alike.refl (c : Coordinator) : c.Alike c := ⟨.refl c, .refl c, rfl, rfl⟩

theorem Alike.trans {c c' c'' : Coordinator} (h : c.Alike c') (h' : c'.Alike c'') :
    c.Alike c'' where
  layers := h.layers.trans h'.layers
  modes := h.modes.trans h'.modes
  generation := h'.generation.trans h.generation
  halted := h'.halted.trans h.halted

theorem alike_announce (c : Coordinator) (event : Event) : c.Alike (c.announce event) where
  layers := sameStacks_announce c event
  modes := sameModes_announce c event
  generation := by
    unfold announce
    split <;> rfl
  halted := halted_announce c event

theorem alike_clampCursor (c : Coordinator) : c.Alike c.clampCursor where
  layers := sameStacks_clampCursor c
  modes := sameModes_clampCursor c
  generation := by
    unfold clampCursor
    split <;> rfl
  halted := halted_clampCursor c

theorem alike_countRevoke (c : Coordinator) :
    c.Alike { c with passThroughRevokes := c.passThroughRevokes + 1 } :=
  ⟨⟨rfl, rfl, rfl, rfl, rfl, rfl⟩, ⟨rfl, rfl, rfl, rfl, rfl, id⟩, rfl, rfl⟩

/-- Whatever the two do not agree in, disabling the database does not
look at it. -/
theorem Alike.unforce_bump {c c' : Coordinator} (h : c.Alike c') :
    c.unforce.bump.Alike c'.unforce.bump where
  layers := ⟨h.layers.tables, h.layers.journal, h.layers.levels, h.layers.pending, h.layers.nextSeq,
    h.layers.openSeq?⟩
  modes := ⟨h.modes.openUnit, h.modes.statuses, rfl, rfl, h.modes.shutDown, h.modes.roomy⟩
  generation := congrArg (· + 1) h.generation
  halted := h.halted

/-! ### Closing a unit of work -/

section
variable {c : Coordinator} {unit : UnitOfWork} (statuses : List SessionStatus)

/-- A unit of work without a layer is closed without a change to the
chains. -/
theorem sameStacks_keep_of_none (hunit : c.openUnit = some unit) (hseq : unit.seq = none) :
    c.SameStacks (c.keep unit statuses) := by
  have hclosed : c.openSeq? = none := (openSeq?_of_some hunit).trans hseq
  rw [keep, hseq]
  exact ⟨rfl, rfl, rfl, rfl, rfl, hclosed.symm⟩

theorem sameStacks_keep_of_some {seq : Nat} (hseq : unit.seq = some seq) :
    c.withoutUnit.sealHeads.SameStacks (c.keep unit statuses) := by
  rw [keep, hseq]
  exact ⟨rfl, rfl, rfl, rfl, rfl, rfl⟩

theorem sameStacks_lose_of_none (hunit : c.openUnit = some unit) (hseq : unit.seq = none) :
    c.SameStacks (c.lose unit statuses) := by
  have hclosed : c.openSeq? = none := (openSeq?_of_some hunit).trans hseq
  rw [lose, hseq]
  split <;> exact ⟨rfl, rfl, rfl, rfl, rfl, hclosed.symm⟩

theorem sameStacks_lose_of_some {seq : Nat} (hseq : unit.seq = some seq) :
    c.withoutUnit.discardHead.SameStacks (c.lose unit statuses) := by
  rw [lose, hseq]
  split <;> exact ⟨rfl, rfl, rfl, rfl, rfl, rfl⟩

@[simp] theorem openUnit_keep : (c.keep unit statuses).openUnit = none := by
  unfold keep
  dsimp only
  split <;> rfl

@[simp] theorem statuses_keep : (c.keep unit statuses).statuses = statuses := by
  unfold keep
  dsimp only
  split <;> rfl

@[simp] theorem openUnit_lose : (c.lose unit statuses).openUnit = none := by
  unfold lose
  dsimp only
  split <;> split <;> rfl

@[simp] theorem statuses_lose : (c.lose unit statuses).statuses = statuses := by
  unfold lose
  dsimp only
  split <;> split <;> rfl

/-- A commit does not change the mode of the database. -/
theorem modes_keep : (c.keep unit statuses).enabled = c.enabled ∧
    (c.keep unit statuses).disableOnExit = c.disableOnExit ∧
    (c.keep unit statuses).shutDown = c.shutDown ∧ (c.keep unit statuses).halted = c.halted ∧
    (c.keep unit statuses).maxSize = c.maxSize := by
  unfold keep
  dsimp only
  split <;> exact ⟨rfl, rfl, rfl, rfl, rfl⟩

/-- A discard disables the database again if it was enabled for the unit
of work. -/
theorem modes_lose : (c.lose unit statuses).enabled = (c.enabled && !c.disableOnExit) ∧
    (c.lose unit statuses).disableOnExit = false ∧
    (c.lose unit statuses).shutDown = c.shutDown ∧ (c.lose unit statuses).halted = c.halted ∧
    (c.lose unit statuses).maxSize = c.maxSize := by
  unfold lose
  dsimp only
  cases hforced : c.disableOnExit <;> cases unit.seq <;>
    simp [unforce, bump, discardHead, mapTables]

end

/-! ### Changes to the coordinator -/

/-- What an operation makes of a coordinator in one step, if it leaves
the disk alone. Opening and resolving sessions, enabling and disabling
the database and registering tables is left to the moves that do it. -/
inductive Turn (c : Coordinator) (move : Move) : Coordinator → Prop
  -- The layer of the open unit of work stays live.
  | solidify (count : Nat) (hhalted : c.halted = false)
      (hopen : c.openSeq?.isSome → count < c.depth) : Turn c move (c.solidify count).bump
  | discard (hhalted : c.halted = false) (hunit : c.openUnit = none)
      (hlive : c.pending < c.levels.length) : Turn c move c.discardHead.bump
  | enable (hhalted : c.halted = false) (hunit : c.openUnit = none)
      (hdisabled : c.enabled = false) (henables : move.enables = true) :
      Turn c move { c with enabled := true }.bump
  | disable (hhalted : c.halted = false) (hunit : c.openUnit = none) (hlevels : c.levels = [])
      (hdisables : move.disables = true) : Turn c move { c with enabled := false }.bump
  | register (name root : String) (hhalted : c.halted = false) (hfresh : name ∉ c.tableNames)
      (hregisters : move.registers = true) :
      Turn c move { c with tables := c.tables ++
        [Chain.padded name root c.levels c.pending c.openSeq?] }.bump
  -- A unit of work with a layer. A disabled database is enabled for it.
  | push (hopens : move.opens = true) (hhalted : c.halted = false) (hunit : c.openUnit = none)
      (hshutDown : c.shutDown = false) :
      Turn c move (c.force.push.bump.openNewUnit (some c.nextSeq))
  | passThrough (hopens : move.opens = true) (hunit : c.openUnit = none)
      (hdisabled : c.enabled = false) (hshutDown : c.shutDown = false) :
      Turn c move (c.openNewUnit none)
  | join (hopens : move.opens = true) (unit : UnitOfWork) (hunit : c.openUnit = some unit) :
      Turn c move (c.joinUnit unit)
  | resolve (hresolves : move.resolves = true) (unit : UnitOfWork) (session : Nat)
      (status : SessionStatus) (hunit : c.openUnit = some unit)
      (hsession : c.isOpen session = true) (hstatus : status ≠ .opened)
      (hothers : 0 < (c.setStatus session status).openCount unit) :
      Turn c move (c.resolve unit session status)
  | keep (hresolves : move.resolves = true) (unit : UnitOfWork) (statuses : List SessionStatus)
      (hcloses : c.Closes unit statuses) (hall : AllCommitted statuses unit)
      (hforced : c.disableOnExit = false) : Turn c move (c.keep unit statuses)
  | lose (hresolves : move.resolves = true) (unit : UnitOfWork) (statuses : List SessionStatus)
      (hcloses : c.Closes unit statuses) (hfailed : ¬AllCommitted statuses unit) :
      Turn c move (c.lose unit statuses)
  | stop (hunit : c.openUnit = none) : Turn c move { c with shutDown := true }.bump

end Coordinator

namespace FlushEnd

variable {w w' : World} {n : Nat} {r : Except Fault Unit}

/-- A flush does not touch sessions and modes. -/
theorem sameModes (h : FlushEnd w n r w') : w.db.coordinator.SameModes w'.db.coordinator := by
  have hdrop : w.db.coordinator.SameModes (w.db.coordinator.dropOldest n).clampCursor :=
    have hdrop : w.db.coordinator.SameModes (w.db.coordinator.dropOldest n) :=
      ⟨rfl, rfl, rfl, rfl, rfl, id⟩
    hdrop.trans (Coordinator.sameModes_clampCursor _)
  cases h with
  | nothing | unfit | halted | crashed => exact ⟨rfl, rfl, rfl, rfl, rfl, id⟩
  | unclearedHalted | unclearedCrashed => exact hdrop.trans ⟨rfl, rfl, rfl, rfl, rfl, id⟩
  | finished hn hfits h hc =>
    subst hc
    exact (hdrop.trans (Coordinator.sameModes_bump _)).trans (Coordinator.sameModes_announce _ _)

/-- Nor does it add a level. -/
theorem levels_suffix (h : FlushEnd w n r w') :
    ∃ m, w'.db.coordinator.levels = w.db.coordinator.levels.drop m := by
  rcases h.sameStacks with hsame | hsame
  · exact ⟨0, hsame.levels⟩
  · exact ⟨n, hsame.levels⟩

/-- A flush of all layers leaves none if it succeeds. -/
theorem levels_of_all (h : FlushEnd w w.db.coordinator.levels.length (.ok ()) w') :
    w'.db.coordinator.levels = [] := by
  by_cases hpos : 0 < w.db.coordinator.levels.length
  · exact (h.sameStacks_of_ok hpos).levels.trans List.drop_length
  · obtain ⟨m, hlevels⟩ := h.levels_suffix
    rw [hlevels, List.eq_nil_of_length_eq_zero (Nat.eq_zero_of_not_pos hpos), List.drop_nil]

end FlushEnd

namespace Coordinator

/-! ### The mode of a database -/

/-- What the mode of a database says of its unit of work and of its
layers, while it runs or not. -/
structure Moded (c : Coordinator) (running : Prop) : Prop where
  /-- A unit of work has a layer exactly if the database is enabled. -/
  layered : ∀ unit, c.openUnit = some unit → unit.seq.isSome = c.enabled
  disabled : c.enabled = false → c.levels = [] ∧ c.disableOnExit = false
  /-- A database that is enabled for one unit of work has no other
  layer. -/
  forced : c.disableOnExit = true → c.levels.length ≤ 1
  settled : running → c.disableOnExit = true → c.openUnit.isSome = true
  stopped : c.shutDown = true → c.openUnit = none
  roomy : 0 < c.maxSize

section
variable {c c' : Coordinator} {move : Move} {running running' : Prop}

/-- A database that was shut down has no unit of work open. -/
theorem Moded.shutDown_eq_false (h : c.Moded running) {unit : UnitOfWork}
    (hunit : c.openUnit = some unit) : c.shutDown = false := by
  cases hshutDown : c.shutDown with
  | false => rfl
  | true => cases hunit.symm.trans (h.stopped hshutDown)

theorem moded_new (configuration : Configuration) (journal : String) (publishing : Bool) :
    (new configuration journal publishing).Moded running where
  layered _ h := nomatch h
  disabled _ := ⟨rfl, rfl⟩
  forced h := nomatch h
  settled _ h := nomatch h
  stopped h := nomatch h
  roomy := Nat.lt_of_lt_of_le Nat.zero_lt_one (Nat.le_max_right _ _)

theorem Moded.imp (h : c.Moded running) (himp : running' → running) : c.Moded running' :=
  { h with settled := fun hrun => h.settled (himp hrun) }

/-- Taking levels away does not touch the mode. -/
theorem Moded.congr (h : c.Moded running) (hsame : c.SameModes c')
    (hlevels : ∃ m, c'.levels = c.levels.drop m) (himp : running' → running) :
    c'.Moded running' where
  layered := by rw [hsame.openUnit, hsame.enabled]; exact h.layered
  disabled := by
    obtain ⟨m, hlevels⟩ := hlevels
    rw [hsame.enabled, hsame.disableOnExit, hlevels]
    intro hdisabled
    obtain ⟨hnil, hforced⟩ := h.disabled hdisabled
    rw [hnil, List.drop_nil]
    exact ⟨rfl, hforced⟩
  -- A forced unit owns the only level; taking it away leaves none.
  forced := by
    obtain ⟨m, hlevels⟩ := hlevels
    rw [hsame.disableOnExit, hlevels, List.length_drop]
    intro hforced
    have := h.forced hforced
    omega
  settled := by
    rw [hsame.disableOnExit, hsame.openUnit]
    exact fun hrun => h.settled (himp hrun)
  stopped := by rw [hsame.shutDown, hsame.openUnit]; exact h.stopped
  roomy := hsame.roomy h.roomy

/-- With no unit of work open, a database that runs is not enabled for
one. -/
theorem Moded.disableOnExit_eq_false (h : c.Moded running) (hrun : running)
    (hunit : c.openUnit = none) : c.disableOnExit = false := by
  cases hforced : c.disableOnExit with
  | false => rfl
  | true =>
    have hsome := h.settled hrun hforced
    rw [hunit] at hsome
    cases hsome

theorem Turn.halted (h : c.Turn move c') : c'.halted = c.halted := by
  cases h with
  | keep _ unit statuses => exact (modes_keep statuses).2.2.2.1
  | lose _ unit statuses => exact (modes_lose statuses).2.2.2.1
  | _ => rfl

theorem Sound.keep (h : c.Sound) {unit : UnitOfWork} (hunit : c.openUnit = some unit)
    (statuses : List SessionStatus) : (c.keep unit statuses).Sound := by
  cases hseq : unit.seq with
  | none => exact h.congr (sameStacks_keep_of_none statuses hunit hseq)
  | some seq =>
    have hopen : c.openSeq?.isSome := by rw [openSeq?_of_some hunit, hseq]; rfl
    exact (h.sealHeads hopen).congr (sameStacks_keep_of_some statuses hseq)

theorem Sound.lose (h : c.Sound) {unit : UnitOfWork} (hunit : c.openUnit = some unit)
    (statuses : List SessionStatus) : (c.lose unit statuses).Sound := by
  cases hseq : unit.seq with
  | none => exact h.congr (sameStacks_lose_of_none statuses hunit hseq)
  | some seq =>
    have hopen : c.openSeq?.isSome := by rw [openSeq?_of_some hunit, hseq]; rfl
    exact (h.discardHead (h.openLive hopen)).congr (sameStacks_lose_of_some statuses hseq)

theorem Turn.sound (h : c.Turn move c') (hsound : c.Sound) : c'.Sound := by
  cases h with
  | solidify count _ hopen => exact (hsound.solidify hopen).congr (sameStacks_bump _)
  | discard _ hunit hlive =>
    exact (hsound.discardHead hlive).congr ⟨rfl, rfl, rfl, rfl, rfl, openSeq?_of_none hunit⟩
  | enable | disable | stop => exact hsound.congr ⟨rfl, rfl, rfl, rfl, rfl, rfl⟩
  | register name root _ hfresh =>
    exact (hsound.register hfresh root).congr (sameStacks_bump _)
  | push _ _ hunit _ =>
    have hforced : c.force.Sound := hsound.congr ⟨rfl, rfl, rfl, rfl, rfl, rfl⟩
    exact (hforced.push (openSeq?_of_none hunit)).congr ⟨rfl, rfl, rfl, rfl, rfl, rfl⟩
  | passThrough _ hunit => exact hsound.congr (sameStacks_openNewUnit (openSeq?_of_none hunit))
  | join _ unit hunit => exact hsound.congr (sameStacks_joinUnit hunit)
  | resolve _ unit session status hunit =>
    exact hsound.congr ⟨rfl, rfl, rfl, rfl, rfl, (openSeq?_of_some hunit).symm⟩
  | keep _ unit statuses hcloses => exact hsound.keep hcloses.openUnit statuses
  | lose _ unit statuses hcloses => exact hsound.lose hcloses.openUnit statuses

theorem Turn.attended (h : c.Turn move c') (hattended : c.Attended) : c'.Attended := by
  cases h with
  | solidify | discard | enable | disable | register | stop => exact hattended.congr rfl rfl
  | push _ _ hunit _ =>
    have hpushed : c.force.push.bump.Attended := hattended.congr rfl rfl
    exact hpushed.openNew hunit _
  | passThrough _ hunit => exact hattended.openNew hunit none
  | join _ unit hunit => exact hattended.join hunit
  | resolve _ unit session status hunit hsession hstatus hothers =>
    exact hattended.resolve hunit hsession hstatus hothers
  | keep _ unit statuses hcloses =>
    exact attended_of_closed hattended hcloses (openUnit_keep statuses) (statuses_keep statuses)
  | lose _ unit statuses hcloses =>
    exact attended_of_closed hattended hcloses (openUnit_lose statuses) (statuses_lose statuses)

/-- The levels after a discard: of a unit of work that had a layer, this
is gone. -/
theorem levels_lose {unit : UnitOfWork} (hunit : c.openUnit = some unit)
    (statuses : List SessionStatus) :
    (c.lose unit statuses).levels = if unit.seq.isSome then c.levels.dropLast else c.levels := by
  cases hseq : unit.seq with
  | none => exact (sameStacks_lose_of_none statuses hunit hseq).levels
  | some seq => exact (sameStacks_lose_of_some statuses hseq).levels

theorem levels_keep {unit : UnitOfWork} (hunit : c.openUnit = some unit)
    (statuses : List SessionStatus) : (c.keep unit statuses).levels = c.levels := by
  cases hseq : unit.seq with
  | none => exact (sameStacks_keep_of_none statuses hunit hseq).levels
  | some seq => exact (sameStacks_keep_of_some statuses hseq).levels

/-- A commit leaves the mode as it was, but a database that runs is not
enabled for a unit of work that is closed. -/
theorem Moded.keep (hmoded : c.Moded running) {unit : UnitOfWork} (hunit : c.openUnit = some unit)
    (statuses : List SessionStatus) (hforced : running' → c.disableOnExit = false) :
    (c.keep unit statuses).Moded running' := by
  obtain ⟨henabled, hforced', -, -, hmaxSize⟩ : (c.keep unit statuses).enabled = c.enabled ∧ _ :=
    modes_keep statuses
  have hlevels := levels_keep hunit statuses
  exact
    { layered := fun _ h => by rw [openUnit_keep] at h; cases h
      disabled := by rw [henabled, hlevels, hforced']; exact hmoded.disabled
      forced := by rw [hlevels, hforced']; exact hmoded.forced
      settled := fun hrun h => by rw [hforced', hforced hrun] at h; cases h
      stopped := fun _ => openUnit_keep statuses
      roomy := by rw [hmaxSize]; exact hmoded.roomy }

/-- The unit of work that a database is enabled for has its only
layer. -/
theorem Moded.lose (hmoded : c.Moded running) {unit : UnitOfWork} (hunit : c.openUnit = some unit)
    (statuses : List SessionStatus) : (c.lose unit statuses).Moded running where
  layered _ h := by rw [openUnit_lose] at h; cases h
  stopped _ := openUnit_lose statuses
  settled _ h := by rw [(modes_lose statuses).2.1] at h; cases h
  forced h := by rw [(modes_lose statuses).2.1] at h; cases h
  roomy := by rw [(modes_lose statuses).2.2.2.2]; exact hmoded.roomy
  disabled hdisabled := by
    refine ⟨?_, (modes_lose statuses).2.1⟩
    rw [(modes_lose statuses).1, Bool.and_eq_false_iff, Bool.not_eq_false'] at hdisabled
    rw [levels_lose hunit, hmoded.layered unit hunit]
    cases henabled : c.enabled with
    | false => exact (hmoded.disabled henabled).1
    | true =>
      rw [henabled] at hdisabled
      have := hmoded.forced (hdisabled.resolve_left Bool.noConfusion)
      rw [if_pos rfl, ← List.length_eq_zero_iff, List.length_dropLast]
      omega

theorem Turn.moded (h : c.Turn move c') (hrun : c.halted = false → running)
    (hmoded : c.Moded running) : c'.Moded running := by
  cases h with
  | solidify | register => exact { hmoded with }
  | discard hhalted hunit hlive =>
    exact
      { hmoded with
        disabled := fun hdisabled => by
          obtain ⟨hnil, -⟩ := hmoded.disabled hdisabled
          rw [hnil] at hlive
          exact absurd hlive (Nat.not_lt_zero _)
        forced := fun hforced => by
          have := hmoded.forced hforced
          show c.levels.dropLast.length ≤ 1
          rw [List.length_dropLast]
          omega }
  | enable hhalted hunit hdisabled =>
    exact
      { hmoded with
        layered := fun unit h => absurd (hunit.symm.trans h) nofun
        disabled := nofun }
  | disable hhalted hunit hlevels =>
    exact
      { hmoded with
        layered := fun unit h => absurd (hunit.symm.trans h) nofun
        disabled := fun _ => ⟨hlevels, hmoded.disableOnExit_eq_false (hrun hhalted) hunit⟩ }
  | push _ hhalted hunit hshutDown =>
    have hforced := hmoded.disableOnExit_eq_false (hrun hhalted) hunit
    exact
      { layered := by rintro _ ⟨⟩; rfl
        disabled := nofun
        forced := fun h => by
          -- The database was disabled, so the new layer is the only one.
          have h : (c.disableOnExit || !c.enabled) = true := h
          rw [hforced, Bool.false_or, Bool.not_eq_true'] at h
          show (c.levels ++ [c.nextSeq]).length ≤ 1
          rw [(hmoded.disabled h).1]
          exact Nat.le_refl 1
        settled := fun _ _ => rfl
        stopped := fun h => absurd (hshutDown.symm.trans h) nofun
        roomy := hmoded.roomy }
  | passThrough _ hunit hdisabled hshutDown =>
    exact
      { hmoded with
        layered := by rintro _ ⟨⟩; exact hdisabled.symm
        settled := fun _ _ => rfl
        stopped := fun h => absurd (hshutDown.symm.trans h) nofun }
  | join _ unit hunit =>
    exact
      { hmoded with
        layered := by rintro _ ⟨⟩; exact hmoded.layered unit hunit
        settled := fun _ _ => rfl
        stopped := fun h => absurd (hunit.symm.trans (hmoded.stopped h)) nofun }
  | resolve _ unit session status hunit =>
    exact
      { hmoded with
        layered := by rintro _ ⟨⟩; exact hmoded.layered unit hunit
        settled := fun _ _ => rfl
        stopped := fun h => absurd (hunit.symm.trans (hmoded.stopped h)) nofun }
  | keep _ unit statuses hcloses _ hforced =>
    exact hmoded.keep hcloses.openUnit statuses fun _ => hforced
  | lose _ unit statuses hcloses => exact hmoded.lose hcloses.openUnit statuses
  | stop hunit => exact { hmoded with stopped := fun _ => hunit }

end

end Coordinator

namespace World

/-! ### Steps -/

/-- What follows the flush of a forced unit of work: if it succeeds, the
database is disabled again; if a store stops the program, the lock is
poisoned. -/
def Concludes (w : World) (r : Except Fault Unit) (w' : World) : Prop :=
  match r with
  | .ok () => w.db.coordinator.unforce.bump.Alike w'.db.coordinator ∧ w'.disk = w.disk ∧
    w'.db.poisoned = w.db.poisoned
  | .error (.error _) => w' = w
  | .error .panic => w' = w.poison

/-- A step of a move. -/
inductive Step (move : Move) : World → World → Prop
  | aside {w w' : World} (hc : w.db.coordinator.Alike w'.db.coordinator)
      (hdisk : w'.disk = w.disk) (hpoisoned : w'.db.poisoned = w.db.poisoned) : Step move w w'
  | turn {w w' : World} {c : Coordinator} (hpoisoned : w.db.poisoned = false)
      (h : w.db.coordinator.Turn move c) (hc : c.Alike w'.db.coordinator)
      (hdisk : w'.disk = w.disk) (hpoisoned' : w'.db.poisoned = false) : Step move w w'
  | flush {w w' : World} {n : Nat} {r : Except Fault Unit} (hrun : w.Running)
      (hn : n ≤ w.db.coordinator.levels.length)
      (hopen : w.db.coordinator.openSeq?.isSome → n < w.db.coordinator.levels.length)
      (h : FlushEnd w n r w') (hr : r ≠ .error .panic) : Step move w w'
  | crash {w w' : World} {n : Nat} (hrun : w.Running) (hn : n ≤ w.db.coordinator.levels.length)
      (hopen : w.db.coordinator.openSeq?.isSome → n < w.db.coordinator.levels.length)
      (h : FlushEnd w n (.error .panic) w') : Step move w w'.poison
  -- The commit of a forced unit of work, whose layer goes into the roots.
  | settle {w w₁ w₂ w' : World} {unit : UnitOfWork} {statuses : List SessionStatus}
      {r : Except Fault Unit} (hresolves : move.resolves = true) (hrun : w.Running)
      (hcloses : w.db.coordinator.Closes unit statuses)
      (hall : Coordinator.AllCommitted statuses unit)
      (hforced : w.db.coordinator.disableOnExit = true)
      (hkeep : (w.db.coordinator.keep unit statuses).Alike w₁.db.coordinator)
      (hdisk : w₁.disk = w.disk) (hpoisoned : w₁.db.poisoned = false)
      (hflush : FlushEnd w₁ w₁.db.coordinator.levels.length r w₂) (hend : w₂.Concludes r w')
      (hanswer : w₁.disk.Healthy →
        (w₁.db.coordinator.netRecord w₁.db.coordinator.levels.length).fits = true → r = .ok ()) :
      Step move w w'
  | put {w : World} {table : Table} {key : Bytes} {entry : Entry}
      (hmove : move = .call (.write table key entry)) (hrun : w.Running)
      (hlive : w.db.coordinator.pending < w.db.coordinator.levels.length) :
      Step move w (w.withCoordinator
        (w.db.coordinator.modifyTable table.index (·.modifyHead (·.put key entry))))
  | direct {w : World} {table : Table} {key : Bytes} {entry : Entry} {chain : Chain}
      (hmove : move = .call (.write table key entry)) (hrun : w.Running)
      (hchain : w.db.coordinator.tables[table.index]? = some chain)
      (hlevels : w.db.coordinator.levels = []) :
      Step move w (w.withDisk (w.disk.write chain.root [(key, entry)]).2)
  -- What the roots hold after a replay is left open.
  | recover {w w' : World} (hmove : move = .call .check) (hrun : w.Running)
      (hrecord : ¬w.NoRecord)
      (hc : { w.db.coordinator with halted := w'.db.coordinator.halted }.Alike w'.db.coordinator)
      (hpoisoned : w'.db.poisoned = w.db.poisoned) : Step move w w'
  | poison {w : World} (hmove : move.writesStores = true) : Step move w w.poison
  | setPlan {w : World} {store : String} {plan : Option FaultPlan}
      (hmove : move = .setPlan store plan) : Step move w (w.withDisk (w.disk.setPlan store plan))

/-- Any number of steps. -/
abbrev Steps (move : Move) : World → World → Prop :=
  Relation.ReflTransGen (Step move)

/-! ### What every step keeps -/

/-- The chains, the sessions and the mode of a database are in order. -/
structure Orderly (w : World) : Prop where
  sound : w.db.coordinator.Sound
  attended : w.db.coordinator.Attended
  moded : w.db.coordinator.Moded w.Running

section
variable {move : Move} {w w' : World}

theorem running_congr (hhalted : w'.db.coordinator.halted = w.db.coordinator.halted)
    (hpoisoned : w'.db.poisoned = w.db.poisoned) : w'.Running ↔ w.Running := by
  rw [Running, Running, hhalted, hpoisoned]

theorem Orderly.congr (h : w.Orderly) (hc : w.db.coordinator.Alike w'.db.coordinator)
    (hpoisoned : w'.db.poisoned = w.db.poisoned) : w'.Orderly where
  sound := h.sound.congr hc.layers
  attended := h.attended.congr hc.modes.openUnit hc.modes.statuses
  moded := h.moded.congr hc.modes ⟨0, hc.layers.levels⟩ (running_congr hc.halted hpoisoned).mp

theorem Orderly.turn {c : Coordinator} {move : Move} (h : w.Orderly)
    (hpoisoned : w.db.poisoned = false) (hturn : w.db.coordinator.Turn move c) :
    (w.withCoordinator c).Orderly where
  sound := hturn.sound h.sound
  attended := hturn.attended h.attended
  moded := by
    have hrun : (w.withCoordinator c).Running ↔ w.Running := running_congr hturn.halted rfl
    exact (hturn.moded (fun hhalted => ⟨hpoisoned, hhalted⟩) h.moded).imp hrun.mp

/-- A flush keeps the database in order, also one that is stopped. -/
theorem Orderly.flush {n : Nat} {r : Except Fault Unit} (h : w.Orderly) (hrun : w.Running)
    (hn : n ≤ w.db.coordinator.levels.length)
    (hopen : w.db.coordinator.openSeq?.isSome → n < w.db.coordinator.levels.length)
    (hend : FlushEnd w n r w') : w'.Orderly where
  sound := sound_of_flushEnd hend h.sound hn hopen
  attended := h.attended.congr hend.sameModes.openUnit hend.sameModes.statuses
  moded := h.moded.congr hend.sameModes hend.levels_suffix fun _ => hrun

/-- A panic leaves behind what it found. -/
theorem Orderly.poison (h : w.Orderly) : w.poison.Orderly where
  sound := h.sound
  attended := h.attended
  moded := h.moded.imp fun hrun => nomatch hrun.1

/-- The database is in order again after the flush of a forced unit of
work, but not in between. -/
theorem Orderly.settle {w₁ w₂ : World} {unit : UnitOfWork} {statuses : List SessionStatus}
    {r : Except Fault Unit} (h : w.Orderly) (hcloses : w.db.coordinator.Closes unit statuses)
    (hkeep : (w.db.coordinator.keep unit statuses).Alike w₁.db.coordinator)
    (hflush : FlushEnd w₁ w₁.db.coordinator.levels.length r w₂) (hend : w₂.Concludes r w') :
    w'.Orderly := by
  have hunit₁ : w₁.db.coordinator.openUnit = none :=
    hkeep.modes.openUnit.trans (Coordinator.openUnit_keep statuses)
  have hsound₁ := (h.sound.keep hcloses.openUnit statuses).congr hkeep.layers
  have hattended₁ : w₁.db.coordinator.Attended := Coordinator.attended_of_closed h.attended hcloses
    hunit₁ (hkeep.modes.statuses.trans (Coordinator.statuses_keep statuses))
  have hsound₂ : w₂.db.coordinator.Sound := sound_of_flushEnd hflush hsound₁ (Nat.le_refl _)
    fun hopen => by rw [Coordinator.openSeq?_of_none hunit₁] at hopen; cases hopen
  have hmodes := hflush.sameModes
  have hattended₂ := hattended₁.congr hmodes.openUnit hmodes.statuses
  have hmoded₂ : w₂.db.coordinator.Moded False :=
    ((h.moded.keep hcloses.openUnit statuses False.elim).congr hkeep.modes
      ⟨0, hkeep.layers.levels⟩ id).congr hmodes hflush.levels_suffix id
  have hunit₂ : w₂.db.coordinator.openUnit = none := hmodes.openUnit.trans hunit₁
  -- The flush has failed and the database has halted, or a store stopped the
  -- program, or the database is disabled again with no layers left.
  match r, hflush, hend with
  | .error (.error _), hflush, hend =>
    subst hend
    refine ⟨hsound₂, hattended₂, hmoded₂.imp fun hrun => ?_⟩
    have hhalted := hrun.2
    rw [hflush.halted_of_error] at hhalted
    cases hhalted
  | .error .panic, _, hend =>
    subst hend
    exact ⟨hsound₂, hattended₂, hmoded₂.imp fun hrun => nomatch hrun.1⟩
  | .ok (), hflush, ⟨hc, _, hpoisoned⟩ =>
    have hlevels := hflush.levels_of_all
    have hdisabled : (w₂.withCoordinator w₂.db.coordinator.unforce.bump).Orderly :=
      { sound := hsound₂.congr ⟨rfl, rfl, rfl, rfl, rfl, rfl⟩
        attended := hattended₂.congr rfl rfl
        moded :=
          { layered := fun _ h => absurd (hunit₂.symm.trans h) nofun
            disabled := fun _ => ⟨hlevels, rfl⟩
            forced := nofun
            settled := nofun
            stopped := fun _ => hunit₂
            roomy := hmoded₂.roomy } }
    exact hdisabled.congr hc hpoisoned

/-- Every step keeps the database in order. -/
theorem Step.orderly (h : Step move w w') (horderly : w.Orderly) : w'.Orderly := by
  cases h with
  | aside hc _ hpoisoned => exact horderly.congr hc hpoisoned
  | turn hpoisoned hturn hc _ hpoisoned' =>
    exact (horderly.turn hpoisoned hturn).congr hc (hpoisoned'.trans hpoisoned.symm)
  | flush hrun hn hopen h _ => exact horderly.flush hrun hn hopen h
  | crash hrun hn hopen h => exact (horderly.flush hrun hn hopen h).poison
  | settle _ _ hcloses _ _ hkeep _ _ hflush hend => exact horderly.settle hcloses hkeep hflush hend
  | put =>
    exact
      { sound := horderly.sound.put _ _ _
        attended := horderly.attended.congr rfl rfl
        moded := { horderly.moded with } }
  | direct | setPlan => exact ⟨horderly.sound, horderly.attended, horderly.moded⟩
  | recover _ hrun _ hc =>
    exact
      { sound := horderly.sound.congr ⟨hc.layers.tables, hc.layers.journal, hc.layers.levels,
          hc.layers.pending, hc.layers.nextSeq, hc.layers.openSeq?⟩
        attended := horderly.attended.congr hc.modes.openUnit hc.modes.statuses
        moded := horderly.moded.congr ⟨hc.modes.openUnit, hc.modes.statuses, hc.modes.enabled,
          hc.modes.disableOnExit, hc.modes.shutDown, hc.modes.roomy⟩ ⟨0, hc.layers.levels⟩
          fun _ => hrun }
  | poison => exact horderly.poison

theorem Steps.orderly (h : Steps move w w') (horderly : w.Orderly) : w'.Orderly := by
  induction h with
  | refl => exact horderly
  | tail _ hstep ih => exact hstep.orderly ih

/-- A database just opened is in order. -/
theorem orderly_opened (disk : Disk) (configuration : Configuration) (journal : String)
    (handlers : List Handler) : (opened disk configuration journal handlers).Orderly where
  sound := Coordinator.sound_new configuration journal _
  attended := Coordinator.attended_new configuration journal _
  moded := Coordinator.moded_new configuration journal _

end

end World

end LayeredStore

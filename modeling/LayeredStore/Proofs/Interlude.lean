import LayeredStore.Proofs.Forcing
import LayeredStore.Proofs.Lineage
import LayeredStore.Proofs.WriteEffect
import LayeredStore.Proofs.Recounting
import LayeredStore.Proofs.Isolation

/-!
# `LayeredStore.Proofs.Interlude`: a forced unit of work on a disabled database

A forced session enables a disabled database until its unit of work is
resolved. In between everything is allowed that an enabled database allows.

* `Coordinator.OpenSince` and `CommittedSince`: which sessions the unit has,
  and that all of them were committed.
* `World.Underway`: the unit is open. No store was written, and every table
  reads as its root did at the start with the unit's entries over it.
* `World.Ended`: the unit was resolved, and the database is disabled again.
* `Underway.of_push`, `Underway.register` and `Underway.put`: the unit's layer
  is pushed, and what a new table and an entry add to it.
* `Step.underway`: a step leads from the first to the first or to the second,
  and `Step.ended` says that the rest of a move stays there.
* `Underway.run` and `Underway.runAll`: so it is with commands, of which
  those that write add to what the unit has written.
* `World.forced_unit_ends` is what a forced unit of work does from its first
  session to its end.
-/

set_option autoImplicit false

namespace LayeredStore

open World

/-! ### What is written -/

/-- One batch after the other is the two at once. -/
theorem Contents.apply_append (contents : Contents) (first later : Batch) :
    contents.apply (first ++ later) = (contents.apply first).apply later :=
  List.foldl_append

namespace Command

/-- What these commands write to the table at this place, in their order. -/
def writtenTo (table : Nat) (commands : List Command) : Batch :=
  commands.filterMap fun
    | write written key entry => if written.index = table then some (key, entry) else none
    | _ => none

theorem writtenTo_cons (table : Nat) (command : Command) (commands : List Command) :
    writtenTo table (command :: commands) = writtenTo table [command] ++ writtenTo table commands :=
  List.filterMap_append (l := [command])

theorem writtenTo_write (table : Nat) (written : Table) (key : Bytes) (entry : Entry) :
    writtenTo table [write written key entry] =
      if table = written.index then [(key, entry)] else [] := by
  unfold writtenTo
  by_cases h : written.index = table
  · rw [if_pos h.symm]
    simp [h]
  · rw [if_neg (Ne.symm h)]
    simp [h]

end Command

/-! ### The sessions of the unit -/

namespace Coordinator

/-- A unit of work is open, and its sessions are those opened from this one
on. -/
def OpenSince (c : Coordinator) (first : Nat) : Prop :=
  ∃ unit, c.openUnit = some unit ∧
    ∀ session, session ∈ unit.sessions ↔ first ≤ session ∧ session < c.statuses.length

/-- No unit of work is open, the database is disabled, and no table has a
layer. -/
structure Bare (c : Coordinator) : Prop where
  closed : c.openUnit = none
  disabled : c.enabled = false
  levels : c.levels = []
  pending : c.pending = 0
  chains : ∀ chain ∈ c.tables, chain.layers = [] ∧ chain.pending = 0

/-- All sessions opened from this one on were committed. -/
def CommittedSince (c : Coordinator) (first : Nat) : Prop :=
  ∀ session, first ≤ session → session < c.statuses.length → c.status session = .committed

instance (c : Coordinator) (first : Nat) : Decidable (c.CommittedSince first) :=
  decidable_of_iff (∀ session < c.statuses.length, first ≤ session → c.status session = .committed)
    ⟨fun h session hle hlt => h session hlt hle, fun h session hlt hle => h session hle hlt⟩

section
variable {c c' : Coordinator} {move : Move} {first : Nat}

theorem OpenSince.congr (h : c.OpenSince first) (hunit : c'.openUnit = c.openUnit)
    (hstatuses : c'.statuses = c.statuses) : c'.OpenSince first := by
  unfold OpenSince
  rw [hunit, hstatuses]
  exact h

theorem OpenSince.isSome (h : c.OpenSince first) : c.openUnit.isSome = true := by
  obtain ⟨unit, hunit, -⟩ := h
  rw [hunit]
  rfl

theorem committedSince_congr (hstatuses : c'.statuses = c.statuses) :
    c'.CommittedSince first ↔ c.CommittedSince first := by
  unfold CommittedSince
  simp only [status_congr hstatuses, hstatuses]

/-- A session that joins the unit is the next one. -/
theorem OpenSince.join (h : c.OpenSince first) (hattended : c.Attended) {unit : UnitOfWork}
    (hunit : c.openUnit = some unit) : (c.joinUnit unit).OpenSince first := by
  obtain ⟨other, hother, hsessions⟩ := h
  obtain rfl : unit = other := Option.some.inj (hunit.symm.trans hother)
  obtain ⟨member, hmember, -⟩ := hattended.awaited unit hunit
  have hle := (hsessions member).mp hmember
  refine ⟨_, rfl, fun session => ?_⟩
  simp only [joinUnit, addSession, List.mem_append, List.mem_singleton, List.length_append,
    List.length_singleton, hsessions]
  omega

/-- A change leaves the unit with the sessions opened since, or it resolves
the unit. -/
theorem Turn.openSince (h : c.Turn move c') (hattended : c.Attended) (hopen : c.OpenSince first) :
    c'.OpenSince first ∨ move.resolves = true ∧ c'.openUnit = none := by
  obtain ⟨unit, hunit, hsessions⟩ := id hopen
  cases h with
  | solidify | register => exact .inl hopen
  | discard _ hnone | enable _ hnone | disable _ hnone | push _ _ hnone | passThrough _ hnone
  | stop hnone => exact nomatch hnone.symm.trans hunit
  | join _ other hother => exact .inl (hopen.join hattended hother)
  | resolve _ other session status hother =>
    obtain rfl : unit = other := Option.some.inj (hunit.symm.trans hother)
    refine .inl ⟨_, rfl, fun session' => ?_⟩
    rw [hsessions]
    show _ ↔ _ ∧ _ < (c.statuses.set session status).length
    rw [List.length_set]
  | keep hresolves _ statuses => exact .inr ⟨hresolves, openUnit_keep statuses⟩
  | lose hresolves _ statuses => exact .inr ⟨hresolves, openUnit_lose statuses⟩

/-- Where no unit of work is open, this is all that a move can do that
resolves sessions. -/
theorem Turn.of_closed (h : c.Turn move c') (hresolves : move.resolves = true)
    (hunit : c.openUnit = none) :
    (∃ count, c' = (c.solidify count).bump) ∨
      c.pending < c.levels.length ∧ c' = c.discardHead.bump ∨
      c' = { c with shutDown := true }.bump := by
  obtain ⟨hopens, henables, hdisables, hregisters, -⟩ := Move.of_resolves hresolves
  cases h with
  | solidify count => exact .inl ⟨count, rfl⟩
  | discard _ _ hlive => exact .inr (.inl ⟨hlive, rfl⟩)
  | stop => exact .inr (.inr rfl)
  | enable _ _ _ henables' => exact nomatch henables.symm.trans henables'
  | disable _ _ _ hdisables' => exact nomatch hdisables.symm.trans hdisables'
  | register _ _ _ _ hregisters' => exact nomatch hregisters.symm.trans hregisters'
  | push hopens' | passThrough hopens' | join hopens' => exact nomatch hopens.symm.trans hopens'
  | resolve _ _ _ _ hsome => exact nomatch hunit.symm.trans hsome
  | keep _ _ _ hcloses | lose _ _ _ hcloses => exact nomatch hunit.symm.trans hcloses.openUnit

/-- And if there are no layers, it leaves the tables, the journal and the mode
alone. -/
theorem Turn.of_drained (h : c.Turn move c') (hresolves : move.resolves = true)
    (hunit : c.openUnit = none) (hlevels : c.levels = []) :
    c'.tables.map (·.root) = c.tables.map (·.root) ∧ c'.journal = c.journal ∧
      c'.enabled = c.enabled := by
  rcases h.of_closed hresolves hunit with ⟨count, rfl⟩ | ⟨hlive, -⟩ | rfl
  · refine ⟨?_, rfl, rfl⟩
    show (c.tables.map (·.solidify count)).map (·.root) = _
    rw [List.map_map]
    rfl
  · rw [hlevels] at hlive
    exact absurd hlive (Nat.not_lt_zero _)
  · exact ⟨rfl, rfl, rfl⟩

/-- When the unit is closed, all of its sessions were committed if all were
that were opened since. -/
theorem Closes.committedSince_iff {unit : UnitOfWork} {statuses : List SessionStatus}
    (h : c.Closes unit statuses) (hopen : c.OpenSince first) (hstatuses : c'.statuses = statuses) :
    c'.CommittedSince first ↔ AllCommitted statuses unit := by
  obtain ⟨other, hother, hsessions⟩ := hopen
  obtain rfl : unit = other := Option.some.inj (h.openUnit.symm.trans hother)
  subst hstatuses
  unfold CommittedSince AllCommitted
  simp only [hsessions, h.length, and_imp]
  rfl

/-- Making no layer pending changes nothing. -/
theorem sameStacks_solidify_zero (h : c.Sound) : c.SameStacks (c.solidify 0) where
  tables := by
    show c.tables.map (·.solidify 0) = c.tables
    refine (List.map_congr_left fun chain hmem => ?_).trans (List.map_id _)
    have hstep := h.chains chain hmem
    have hle := h.pending_le
    show { chain with pending := min (chain.pending + 0) chain.layers.length } = chain
    rw [Nat.add_zero, hstep.length_layers, hstep.pending, Nat.min_eq_left hle, ← hstep.pending]
  journal := rfl
  levels := rfl
  pending := by
    have hle := h.pending_le
    show min (c.pending + 0) c.levels.length = c.pending
    omega
  nextSeq := rfl
  openSeq? := rfl

end

end Coordinator

namespace World

section
variable {move : Move} {w w' : World} {first : Nat}

theorem Step.openSince (h : Step move w w') (horderly : w.Orderly)
    (hopen : w.db.coordinator.OpenSince first) :
    w'.db.coordinator.OpenSince first ∨
      move.resolves = true ∧ w'.db.coordinator.openUnit = none := by
  cases h with
  | aside hc => exact .inl (hopen.congr hc.modes.openUnit hc.modes.statuses)
  | turn _ hturn hc =>
    rcases hturn.openSince horderly.attended hopen with hopen' | ⟨hresolves, hclosed⟩
    · exact .inl (hopen'.congr hc.modes.openUnit hc.modes.statuses)
    · exact .inr ⟨hresolves, hc.modes.openUnit.trans hclosed⟩
  | flush _ _ _ h _ => exact .inl (hopen.congr h.sameModes.openUnit h.sameModes.statuses)
  | crash _ _ _ h =>
    have hsame := h.sameModes
    exact .inl (hopen.congr hsame.openUnit hsame.statuses)
  | settle hresolves _ _ _ _ hkeep _ _ hflush hend =>
    exact .inr ⟨hresolves, (sessions_of_settle hkeep hflush hend).1⟩
  | recover _ _ _ hc => exact .inl (hopen.congr hc.modes.openUnit hc.modes.statuses)
  | put | direct | poison | setPlan => exact .inl hopen

/-- Only a move that resolves sessions closes a unit of work. -/
theorem Steps.openSince (h : Steps move w w') (horderly : w.Orderly)
    (hopen : w.db.coordinator.OpenSince first) (hresolves : move.resolves = false) :
    w'.db.coordinator.OpenSince first := by
  induction h with
  | refl => exact hopen
  | tail hpath hstep ih =>
    rcases hstep.openSince (Steps.orderly hpath horderly) ih with hopen' | ⟨hresolves', -⟩
    · exact hopen'
    · exact nomatch hresolves.symm.trans hresolves'

/-- Where no unit of work is open, the sessions of a move that resolves some
stand as they do. -/
theorem Step.of_closed (h : Step move w w') (hresolves : move.resolves = true)
    (hunit : w.db.coordinator.openUnit = none) :
    w'.db.coordinator.openUnit = none ∧ w'.db.coordinator.statuses = w.db.coordinator.statuses := by
  cases h with
  | aside hc => exact ⟨hc.modes.openUnit.trans hunit, hc.modes.statuses⟩
  | turn _ hturn hc =>
    rw [hc.modes.openUnit, hc.modes.statuses]
    rcases hturn.of_closed hresolves hunit with ⟨count, rfl⟩ | ⟨-, rfl⟩ | rfl <;>
      exact ⟨hunit, rfl⟩
  | flush _ _ _ h _ => exact ⟨h.sameModes.openUnit.trans hunit, h.sameModes.statuses⟩
  | crash _ _ _ h =>
    have hsame := h.sameModes
    exact ⟨hsame.openUnit.trans hunit, hsame.statuses⟩
  | settle _ _ hcloses => exact nomatch hunit.symm.trans hcloses.openUnit
  | recover _ _ _ hc => exact ⟨hc.modes.openUnit.trans hunit, hc.modes.statuses⟩
  | put | direct | poison | setPlan => exact ⟨hunit, rfl⟩

end

/-! ### While the unit is open -/

/-- A forced unit of work is open that began in `start`. The database is to
be disabled again, no store was written since, and every table reads as its
root with what was written to the table since. A table that is not registered
was not written to. -/
structure Underway (start : World) (written : Nat → Batch) (w : World) : Prop where
  orderly : w.Orderly
  running : w.Running
  sessions : w.db.coordinator.OpenSince start.db.coordinator.statuses.length
  forced : w.db.coordinator.disableOnExit = true
  journal : w.db.coordinator.journal = start.db.coordinator.journal
  disk : w.disk = start.disk
  maps : ∀ table chain, w.db.coordinator.tables[table]? = some chain →
    w.headMap table = some ((start.disk.contents chain.root).apply (written table))
  unwritten : ∀ table, w.db.coordinator.tables.length ≤ table → written table = []

/-- A forced unit of work that began in `start` was resolved, and the
database is disabled. If all of its sessions were committed, every root holds
what was written to its table, and no record is left; and if not, no store was
written. -/
structure Ended (start : World) (written : Nat → Batch) (w : World) : Prop where
  orderly : w.Orderly
  closed : w.db.coordinator.openUnit = none
  disabled : w.db.coordinator.enabled = false
  committed : w.db.coordinator.CommittedSince start.db.coordinator.statuses.length →
    w.NoRecord ∧ (w.db.coordinator.DistinctStores →
      ∀ table chain, w.db.coordinator.tables[table]? = some chain →
        w.disk.contents chain.root = (start.disk.contents chain.root).apply (written table))
  failed : ¬w.db.coordinator.CommittedSince start.db.coordinator.statuses.length →
    w.disk = start.disk

section
variable {start w w' : World} {written : Nat → Batch} {move : Move}

/-- Such a database has no layers. -/
theorem Ended.bare (h : Ended start written w) : w.db.coordinator.Bare := by
  have hlevels := (h.orderly.moded.disabled h.disabled).1
  have hpending : w.db.coordinator.pending = 0 := by
    have hle := h.orderly.sound.pending_le
    rw [hlevels] at hle
    exact Nat.eq_zero_of_le_zero hle
  refine ⟨h.closed, h.disabled, hlevels, hpending, fun chain hmem => ?_⟩
  have hstep := h.orderly.sound.chains chain hmem
  have hlength := hstep.length_layers
  rw [hlevels] at hlength
  exact ⟨List.eq_nil_of_length_eq_zero hlength, hstep.pending.trans hpending⟩

/-- The maps depend on the chains and the disk alone. -/
theorem headMap_congr (hstacks : w.db.coordinator.SameStacks w'.db.coordinator)
    (hdisk : w'.disk = w.disk) (table : Nat) : w'.headMap table = w.headMap table := by
  unfold headMap
  rw [hstacks.levels]
  exact mapBelow_congr hstacks.tables (fun _ _ => by rw [hdisk]) _ _

/-- The map of a table is that of its root below all its layers. -/
theorem headMap_of_chain (hsound : w.db.coordinator.Sound) {table : Nat} {chain : Chain}
    (hchain : w.db.coordinator.tables[table]? = some chain) :
    w.headMap table =
      some ((w.disk.contents chain.root).overlay (Chain.diffs chain.layers)) := by
  have hlength := (hsound.chains chain (List.mem_of_getElem? hchain)).length_layers
  unfold headMap mapBelow
  rw [hchain, Option.map_some, List.take_of_length_le (Nat.le_of_eq hlength)]

/-- The unit's layer is the only one, and it is live. -/
theorem Orderly.only_level (h : w.Orderly) (hunit : w.db.coordinator.openUnit.isSome = true)
    (hforced : w.db.coordinator.disableOnExit = true) :
    w.db.coordinator.openSeq?.isSome = true ∧ w.db.coordinator.levels.length = 1 ∧
      w.db.coordinator.pending = 0 := by
  obtain ⟨unit, hunit⟩ := Option.isSome_iff_exists.mp hunit
  have hseq : w.db.coordinator.openSeq?.isSome = true := by
    rw [Coordinator.openSeq?_of_some hunit, h.moded.layered unit hunit]
    by_contra hdisabled
    have hunforced := (h.moded.disabled (eq_false_of_ne_true hdisabled)).2
    exact nomatch hforced.symm.trans hunforced
  have hlive := h.sound.openLive hseq
  have hone := h.moded.forced hforced
  exact ⟨hseq, by omega, by omega⟩

theorem Underway.only_level (h : Underway start written w) :
    w.db.coordinator.openSeq?.isSome = true ∧ w.db.coordinator.levels.length = 1 ∧
      w.db.coordinator.pending = 0 :=
  h.orderly.only_level h.sessions.isSome h.forced

/-- So it stays over a change that leaves the layers alone. -/
theorem Underway.congr (h : Underway start written w) (horderly : w'.Orderly)
    (hstacks : w.db.coordinator.SameStacks w'.db.coordinator) (hrun : w'.Running)
    (hsessions : w'.db.coordinator.OpenSince start.db.coordinator.statuses.length)
    (hforced : w'.db.coordinator.disableOnExit = w.db.coordinator.disableOnExit)
    (hdisk : w'.disk = w.disk) : Underway start written w' where
  orderly := horderly
  running := hrun
  sessions := hsessions
  forced := hforced.trans h.forced
  journal := hstacks.journal.trans h.journal
  disk := hdisk.trans h.disk
  maps table chain hchain := by
    rw [headMap_congr hstacks hdisk]
    exact h.maps table chain (hstacks.tables ▸ hchain)
  unwritten table hle := h.unwritten table (hstacks.tables ▸ hle)

theorem Underway.alike (h : Underway start written w)
    (hc : w.db.coordinator.Alike w'.db.coordinator) (hdisk : w'.disk = w.disk)
    (hpoisoned : w'.db.poisoned = w.db.poisoned) : Underway start written w' :=
  h.congr (h.orderly.congr hc hpoisoned) hc.layers
    ((running_congr hc.halted hpoisoned).mpr h.running)
    (h.sessions.congr hc.modes.openUnit hc.modes.statuses) hc.modes.disableOnExit hdisk

/-- The layer that is pushed for a forced session of a disabled database is
the only one, and it is empty. -/
theorem Underway.of_push (horderly : start.Orderly) (hrun : start.Running)
    (hunit : start.db.coordinator.openUnit = none)
    (hshutDown : start.db.coordinator.shutDown = false)
    (hdisabled : start.db.coordinator.enabled = false) :
    Underway start (fun _ => []) (start.withCoordinator
      (start.db.coordinator.force.push.bump.openNewUnit (some start.db.coordinator.nextSeq))) := by
  have hpush : start.db.coordinator.Turn (.call (.openSession true))
      (start.db.coordinator.force.push.bump.openNewUnit (some start.db.coordinator.nextSeq)) :=
    .push rfl hrun.2 hunit hshutDown
  have hpushed := horderly.turn hrun.1 hpush
  -- A database that is disabled has no levels, and so its tables have no
  -- layers.
  have hlayers : ∀ chain ∈ start.db.coordinator.tables, chain.layers = [] := by
    intro chain hmem
    have hlength := (horderly.sound.chains chain hmem).length_layers
    rw [(horderly.moded.disabled hdisabled).1] at hlength
    exact List.eq_nil_of_length_eq_zero hlength
  exact
    { orderly := hpushed
      running := hrun
      sessions := ⟨_, rfl, fun session => by
        show session ∈ [start.db.coordinator.statuses.length] ↔
          _ ∧ session < (start.db.coordinator.statuses ++ [SessionStatus.opened]).length
        rw [List.mem_singleton, List.length_append, List.length_singleton]
        omega⟩
      forced := by
        show (start.db.coordinator.disableOnExit || !start.db.coordinator.enabled) = true
        rw [hdisabled, Bool.not_false, Bool.or_true]
      journal := rfl
      disk := rfl
      maps := fun table chain hchain => by
        rw [headMap_of_chain hpushed.sound hchain]
        have hchain : (start.db.coordinator.tables.map
            (·.push start.db.coordinator.nextSeq))[table]? = some chain := hchain
        rw [List.getElem?_map, Option.map_eq_some_iff] at hchain
        obtain ⟨old, hold, rfl⟩ := hchain
        refine congrArg some (Contents.overlay_eq_self fun diff hdiff => ?_)
        rw [Chain.push, hlayers old (List.mem_of_getElem? hold)] at hdiff
        exact List.mem_singleton.mp hdiff
      unwritten := fun _ _ => rfl }

/-- A table that is registered now reads as its root, and was not written. -/
theorem Underway.register (h : Underway start written w) {name root : String}
    (hfresh : name ∉ w.db.coordinator.tableNames) (hregisters : move.registers = true) :
    Underway start written (w.withCoordinator { w.db.coordinator with
      tables := w.db.coordinator.tables ++ [Chain.padded name root w.db.coordinator.levels
        w.db.coordinator.pending w.db.coordinator.openSeq?] }.bump) where
  orderly := h.orderly.turn h.running.1 (.register name root h.running.2 hfresh hregisters)
  running := h.running
  sessions := h.sessions
  forced := h.forced
  journal := h.journal
  disk := h.disk
  maps table chain hchain := by
    have hread := mapBelow_register (w := w) (Coordinator.sameStacks_bump { w.db.coordinator with
      tables := w.db.coordinator.tables ++ [Chain.padded name root w.db.coordinator.levels
        w.db.coordinator.pending w.db.coordinator.openSeq?] }) table w.db.coordinator.levels.length
    refine hread.trans ?_
    have hchain : (w.db.coordinator.tables ++ [Chain.padded name root w.db.coordinator.levels
      w.db.coordinator.pending w.db.coordinator.openSeq?])[table]? = some chain := hchain
    split
    · -- The new table reads as its root, for nothing was written to it.
      rename_i hnew
      subst hnew
      rw [List.getElem?_concat_length] at hchain
      rw [h.unwritten _ (Nat.le_refl _), h.disk, ← Option.some.inj hchain]
      rfl
    · rename_i hne
      have hlt := (List.getElem?_eq_some_iff.mp hchain).1
      rw [List.length_append, List.length_singleton] at hlt
      rw [List.getElem?_append_left (by omega)] at hchain
      exact h.maps table chain hchain
  unwritten table hle := h.unwritten table (by
    have hle : (w.db.coordinator.tables ++ [Chain.padded name root w.db.coordinator.levels
      w.db.coordinator.pending w.db.coordinator.openSeq?]).length ≤ table := hle
    rw [List.length_append] at hle
    omega)

/-- An entry in the unit's layer is read over what was written before. -/
theorem Underway.put (h : Underway start written w)
    (hlive : w.db.coordinator.pending < w.db.coordinator.levels.length) {table : Table}
    (htable : table.index < w.db.coordinator.tables.length) (key : Bytes) (entry : Entry) :
    Underway start (fun other => written other ++
      Command.writtenTo other [.write table key entry]) (w.withCoordinator
        (w.db.coordinator.modifyTable table.index (·.modifyHead (·.put key entry)))) where
  orderly := by
    have hstep : Step (.call (.write table key entry)) w (w.withCoordinator
      (w.db.coordinator.modifyTable table.index (·.modifyHead (·.put key entry)))) :=
      .put rfl h.running hlive
    exact hstep.orderly h.orderly
  running := h.running
  sessions := h.sessions
  forced := h.forced
  journal := h.journal
  disk := h.disk
  maps other chain' hchain' := by
    have hchain' : (w.db.coordinator.tables.modify table.index
        (·.modifyHead (·.put key entry)))[other]? = some chain' := hchain'
    rw [List.getElem?_modify, Option.map_eq_map, Option.map_eq_some_iff] at hchain'
    obtain ⟨old, hold, rfl⟩ := hchain'
    have hroot : (if table.index = other then old.modifyHead (·.put key entry)
        else old).root = old.root := by
      split
      · exact (Coordinator.name_root_modifyHead _ old).2
      · rfl
    -- Only the table that is written to reads one key more.
    rw [headMap_put h.orderly.sound hlive, h.maps other old hold, Option.map_some, hroot,
      Command.writtenTo_write]
    split
    · rw [Contents.apply_append]
      rfl
    · rw [List.append_nil]
  unwritten other hle := by
    have hle : (w.db.coordinator.tables.modify table.index
        (·.modifyHead (·.put key entry))).length ≤ other := hle
    rw [List.length_modify] at hle
    rw [h.unwritten other hle, Command.writtenTo_write, if_neg (by omega)]
    rfl

/-- A change leaves the unit open, and the layers alone unless a table is
registered, or it discards the unit. -/
theorem Underway.turn (h : Underway start written w) {c : Coordinator}
    (hturn : w.db.coordinator.Turn move c) :
    Underway start written (w.withCoordinator c) ∧
        (move.registers = false → w.db.coordinator.SameStacks c) ∨
      move.resolves = true ∧ ∃ unit statuses, w.db.coordinator.Closes unit statuses ∧
        ¬Coordinator.AllCommitted statuses unit ∧ c = w.db.coordinator.lose unit statuses := by
  have horderly : (w.withCoordinator c).Orderly := h.orderly.turn h.running.1 hturn
  have hrun : (w.withCoordinator c).Running := ⟨h.running.1, hturn.halted.trans h.running.2⟩
  have hopen := hturn.openSince h.orderly.attended h.sessions
  obtain ⟨unit, hunit, -⟩ := h.sessions
  obtain ⟨hseq, hone, hpending⟩ := h.only_level
  have hstays : w.db.coordinator.SameStacks c →
      c.disableOnExit = w.db.coordinator.disableOnExit → c.openUnit.isSome = true →
      Underway start written (w.withCoordinator c) := by
    intro hstacks hforced hsome
    have hsessions := hopen.resolve_right fun hclosed => by simp [hclosed.2] at hsome
    exact h.congr horderly hstacks hrun hsessions hforced rfl
  cases hturn with
  | solidify count _ hlive =>
    -- One layer is live, and it stays so.
    obtain rfl : count = 0 := by
      have hlt := hlive hseq
      unfold Coordinator.depth at hlt
      omega
    have hstacks := (Coordinator.sameStacks_solidify_zero h.orderly.sound).trans
      (Coordinator.sameStacks_bump _)
    exact .inl ⟨hstays hstacks rfl h.sessions.isSome, fun _ => hstacks⟩
  | discard _ hnone | enable _ hnone | disable _ hnone | push _ _ hnone | passThrough _ hnone
  | stop hnone => exact nomatch hnone.symm.trans hunit
  | register name root _ hfresh hregisters =>
    exact .inl ⟨h.register hfresh hregisters, fun hother => nomatch hregisters.symm.trans hother⟩
  | join _ other hother =>
    have hstacks := Coordinator.sameStacks_joinUnit hother
    exact .inl ⟨hstays hstacks rfl rfl, fun _ => hstacks⟩
  | resolve _ other session status hother =>
    have hstacks : w.db.coordinator.SameStacks (w.db.coordinator.resolve other session status) :=
      ⟨rfl, rfl, rfl, rfl, rfl, (Coordinator.openSeq?_of_some hother).symm⟩
    exact .inl ⟨hstays hstacks rfl rfl, fun _ => hstacks⟩
  | keep _ _ _ _ _ hunforced => exact nomatch h.forced.symm.trans hunforced
  | lose hresolves other statuses hcloses hfailed =>
    exact .inr ⟨hresolves, other, statuses, hcloses, hfailed, rfl⟩

/-! ### When the unit is resolved -/

/-- A unit that is discarded leaves the stores as they were. -/
theorem Underway.ended_of_lose (h : Underway start written w) (horderly : w'.Orderly)
    {unit : UnitOfWork} {statuses : List SessionStatus}
    (hcloses : w.db.coordinator.Closes unit statuses)
    (hfailed : ¬Coordinator.AllCommitted statuses unit)
    (hc : (w.db.coordinator.lose unit statuses).Alike w'.db.coordinator)
    (hdisk : w'.disk = w.disk) : Ended start written w' where
  orderly := horderly
  closed := hc.modes.openUnit.trans (Coordinator.openUnit_lose statuses)
  disabled := by
    rw [hc.modes.enabled, (Coordinator.modes_lose statuses).1, h.forced, Bool.not_true,
      Bool.and_false]
  committed hall := by
    have hstatuses := hc.modes.statuses.trans (Coordinator.statuses_lose statuses)
    exact absurd ((hcloses.committedSince_iff h.sessions hstatuses).mp hall) hfailed
  failed _ := hdisk.trans h.disk

/-- What a flush of all layers records of a unit that was committed does not
depend on the commit. -/
theorem netRecord_of_keep {w₁ : World} {unit : UnitOfWork} {statuses : List SessionStatus}
    {seq : Nat} (hseq : unit.seq = some seq)
    (hkeep : (w.db.coordinator.keep unit statuses).Alike w₁.db.coordinator) :
    w₁.db.coordinator.netRecord w₁.db.coordinator.levels.length =
      w.db.coordinator.netRecord w.db.coordinator.levels.length := by
  have hstacks := (Coordinator.sameStacks_keep_of_some (c := w.db.coordinator) statuses hseq).trans
    hkeep.layers
  rw [hstacks.levels]
  refine Coordinator.netRecord_mapTables hstacks.tables
    (fun chain => (Coordinator.name_root_modifyHead _ chain).1) fun chain _ => ?_
  rw [Chain.diffs, List.map_take, Chain.diffs, List.map_take]
  exact congrArg _ chain.diffs_modifyHead_commit

/-- A unit that is committed is flushed, if no store fails and the record can
be encoded. -/
theorem Underway.ended_of_settle (h : Underway start written w) (horderly : w'.Orderly)
    {w₁ w₂ : World} {unit : UnitOfWork} {statuses : List SessionStatus} {r : Except Fault Unit}
    (hcloses : w.db.coordinator.Closes unit statuses)
    (hall : Coordinator.AllCommitted statuses unit)
    (hkeep : (w.db.coordinator.keep unit statuses).Alike w₁.db.coordinator)
    (hdisk : w₁.disk = w.disk)
    (hflush : FlushEnd w₁ w₁.db.coordinator.levels.length r w₂) (hend : w₂.Concludes r w')
    (hanswer : w₁.disk.Healthy →
      (w₁.db.coordinator.netRecord w₁.db.coordinator.levels.length).fits = true → r = .ok ())
    (hgrows : w.db.coordinator.Grows w'.db.coordinator) (hhealthy : start.disk.Healthy)
    (hfits : ¬w.Unencodable) : Ended start written w' := by
  obtain ⟨hopen, hone, -⟩ := h.only_level
  obtain ⟨seq, hseq⟩ := Option.isSome_iff_exists.mp hopen
  rw [Coordinator.openSeq?_of_some hcloses.openUnit] at hseq
  have hstacks₁ := (Coordinator.sameStacks_keep_of_some (c := w.db.coordinator) statuses hseq).trans
    hkeep.layers
  -- The flush is not stopped.
  obtain rfl : r = .ok () := by
    refine hanswer ?_ ?_
    · rwa [hdisk, h.disk]
    · rw [netRecord_of_keep hseq hkeep]
      exact eq_true_of_ne_false hfits
  have hflushed := flushed_of_settle h.orderly hcloses.openUnit h.forced hkeep hdisk hflush hend
  obtain ⟨-, -, hstatuses, hdisk'⟩ := hend.kept
  have hall' : w'.db.coordinator.CommittedSince start.db.coordinator.statuses.length :=
    (hcloses.committedSince_iff h.sessions (sessions_of_settle hkeep hflush hend).2).mpr hall
  refine ⟨horderly, hflushed.closed, hflushed.disabled, fun _ => ⟨?_, fun hstores => ?_⟩,
    fun hfailed => absurd hall' hfailed⟩
  · have hpos : 0 < w₁.db.coordinator.levels.length := by
      rw [show w₁.db.coordinator.levels = w.db.coordinator.levels from hstacks₁.levels]
      omega
    have hjournal : w'.db.coordinator.journal = w₁.db.coordinator.journal :=
      hend.kept.1.journal.trans (hflush.sameStacks_of_ok hpos).journal
    rw [NoRecord, hdisk', hjournal]
    exact hflush.journal_of_pos hpos
  · intro table chain' hchain'
    obtain ⟨hlt', rfl⟩ := List.getElem?_eq_some_iff.mp hchain'
    have hlt : table < w.db.coordinator.tables.length := hflushed.tables.length_eq ▸ hlt'
    have hchain := List.getElem?_eq_getElem hlt
    have hroot := (hflushed.tables.get hlt hlt').2.1
    rw [List.get_eq_getElem, List.get_eq_getElem] at hroot
    have hread := h.maps table _ hchain
    rw [headMap_of_chain h.orderly.sound hchain] at hread
    rw [hroot, hflushed.roots (hstores.of_registered hgrows.registered hgrows.journal.symm) _
      (List.getElem_mem hlt)]
    exact Option.some.inj hread

/-- What a step of a move that does not write entries does while the unit is
open. -/
theorem Step.underway (hstep : Step move w w') (h : Underway start written w)
    (hwrites : move.writesStores = false) (hplan : ∀ store plan, move ≠ .setPlan store plan) :
    Underway start written w' ∧
        (move.registers = false → w.db.coordinator.SameStacks w'.db.coordinator) ∨
      move.resolves = true ∧ w'.db.coordinator.openUnit = none ∧
        ((w'.db.coordinator.CommittedSince start.db.coordinator.statuses.length →
          start.disk.Healthy ∧ ¬w.Unencodable) → Ended start written w') := by
  have horderly := hstep.orderly h.orderly
  have hgrows := hstep.grows h.orderly
  obtain ⟨hseq, hone, hpending⟩ := h.only_level
  -- The only level is that of the open unit, so a flush that stays below it
  -- has nothing to do.
  have hnone : ∀ {n : Nat},
      (w.db.coordinator.openSeq?.isSome → n < w.db.coordinator.levels.length) → n = 0 := by
    intro n hlt
    have hlt := hlt hseq
    omega
  cases hstep with
  | aside hc hdisk hpoisoned =>
    exact .inl ⟨h.alike hc hdisk hpoisoned, fun _ => hc.layers⟩
  | turn hpoisoned hturn hc hdisk hpoisoned' =>
    rcases h.turn hturn with ⟨h', hstacks⟩ | ⟨hresolves, unit, statuses, hcloses, hfailed, rfl⟩
    · exact .inl ⟨h'.alike hc hdisk (hpoisoned'.trans hpoisoned.symm),
        fun hregisters => (hstacks hregisters).trans hc.layers⟩
    · have hended := h.ended_of_lose horderly hcloses hfailed hc hdisk
      exact .inr ⟨hresolves, hended.closed, fun _ => hended⟩
  | flush _ _ hopen hflush _ =>
    rw [(hflush.of_zero (hnone hopen)).2]
    exact .inl ⟨h, fun _ => .refl _⟩
  | crash _ _ hopen hflush => exact nomatch (hflush.of_zero (hnone hopen)).1
  | settle hresolves _ hcloses hall _ hkeep hdisk _ hflush hend hanswer =>
    -- The flush at the end of the unit is where a store or the encoding could
    -- stop it.
    have hclosed := sessions_of_settle hkeep hflush hend
    refine .inr ⟨hresolves, hclosed.1, fun himp => ?_⟩
    obtain ⟨hhealthy, hfits⟩ :=
      himp ((hcloses.committedSince_iff h.sessions hclosed.2).mpr hall)
    exact h.ended_of_settle horderly hcloses hall hkeep hdisk hflush hend hanswer hgrows hhealthy
      hfits
  | put hmove | direct hmove | recover hmove =>
    rw [hmove] at hwrites
    cases hwrites
  | poison hmove => exact nomatch hwrites.symm.trans hmove
  | setPlan hmove => exact absurd hmove (hplan _ _)

/-- It is enough that the tables, the journal, the disk and the mode stay. -/
theorem Ended.congr (h : Ended start written w) (horderly : w'.Orderly)
    (hclosed : w'.db.coordinator.openUnit = none)
    (hstatuses : w'.db.coordinator.statuses = w.db.coordinator.statuses)
    (hdisabled : w'.db.coordinator.enabled = false)
    (hroots : w'.db.coordinator.tables.map (·.root) = w.db.coordinator.tables.map (·.root))
    (hjournal : w'.db.coordinator.journal = w.db.coordinator.journal) (hdisk : w'.disk = w.disk) :
    Ended start written w' where
  orderly := horderly
  closed := hclosed
  disabled := hdisabled
  committed hall := by
    obtain ⟨hrecord, hheld⟩ := h.committed ((Coordinator.committedSince_congr hstatuses).mp hall)
    refine ⟨hrecord.congr hjournal (by rw [hdisk]), fun hstores table chain' hchain' => ?_⟩
    have hroot : (w.db.coordinator.tables.map (·.root))[table]? = some chain'.root := by
      rw [← hroots, List.getElem?_map, hchain']
      rfl
    rw [List.getElem?_map, Option.map_eq_some_iff] at hroot
    obtain ⟨chain, hchain, hroot⟩ := hroot
    unfold Coordinator.DistinctStores at hstores hheld
    rw [hroots, hjournal] at hstores
    rw [hdisk, ← hroot]
    exact hheld hstores table chain hchain
  failed hfailed := by
    rw [Coordinator.committedSince_congr hstatuses] at hfailed
    exact hdisk.trans (h.failed hfailed)

/-- Once the unit was resolved, the rest of the move changes nothing of
this. -/
theorem Step.ended (hstep : Step move w w') (hresolves : move.resolves = true)
    (h : Ended start written w) : Ended start written w' := by
  obtain ⟨-, -, -, -, hwrites, hplan⟩ := Move.of_resolves hresolves
  have horderly := hstep.orderly h.orderly
  obtain ⟨hclosed, hstatuses⟩ := hstep.of_closed hresolves h.closed
  have hlevels := h.bare.levels
  -- No level is left, so a flush has nothing to do.
  have hnone : ∀ {n : Nat}, n ≤ w.db.coordinator.levels.length → n = 0 := by
    intro n hle
    rw [hlevels] at hle
    exact Nat.eq_zero_of_le_zero hle
  cases hstep with
  | aside hc hdisk =>
    exact h.congr horderly hclosed hstatuses (hc.modes.enabled.trans h.disabled)
      (by rw [hc.layers.tables]) hc.layers.journal hdisk
  | turn _ hturn hc hdisk =>
    obtain ⟨hroots, hjournal, henabled⟩ := hturn.of_drained hresolves h.closed hlevels
    exact h.congr horderly hclosed hstatuses
      (hc.modes.enabled.trans (henabled.trans h.disabled)) (by rw [hc.layers.tables, hroots])
      (hc.layers.journal.trans hjournal) hdisk
  | flush _ hn _ hflush _ =>
    rw [(hflush.of_zero (hnone hn)).2]
    exact h
  | crash _ hn _ hflush => exact nomatch (hflush.of_zero (hnone hn)).1
  | settle _ _ hcloses => exact nomatch h.closed.symm.trans hcloses.openUnit
  | put hmove | direct hmove | recover hmove =>
    rw [hmove] at hwrites
    cases hwrites
  | poison hmove => exact nomatch hwrites.symm.trans hmove
  | setPlan hmove => exact absurd hmove (hplan _ _)

/-- What a move that does not write entries does while the unit is open: it
leaves it open, or it resolves it. -/
theorem Steps.underway (hpath : Steps move w w') (h : Underway start written w)
    (hwrites : move.writesStores = false) (hplan : ∀ store plan, move ≠ .setPlan store plan) :
    Underway start written w' ∧
        (move.registers = false → w.db.coordinator.SameStacks w'.db.coordinator) ∨
      move.resolves = true ∧ w'.db.coordinator.openUnit = none ∧
        ((w'.db.coordinator.CommittedSince start.db.coordinator.statuses.length →
          start.disk.Healthy ∧ ¬w.Unencodable) → Ended start written w') := by
  induction hpath with
  | refl => exact .inl ⟨h, fun _ => .refl _⟩
  | tail _ hstep ih =>
    rcases ih with ⟨h₁, hstacks₁⟩ | ⟨hresolves, hclosed, hended⟩
    · rcases hstep.underway h₁ hwrites hplan with ⟨h', hstacks⟩ | ⟨hresolves, hclosed, hended⟩
      · exact .inl ⟨h', fun hregisters => (hstacks₁ hregisters).trans (hstacks hregisters)⟩
      · refine .inr ⟨hresolves, hclosed, fun himp => hended fun hall => ?_⟩
        -- The record of the flush is that of the start of the move.
        have hstacks := hstacks₁ (Move.of_resolves hresolves).2.2.2.1
        obtain ⟨hhealthy, hfits⟩ := himp hall
        refine ⟨hhealthy, fun hunfit => hfits ?_⟩
        rwa [Unencodable, Coordinator.netRecord, hstacks.tables, hstacks.levels] at hunfit
    · obtain ⟨hclosed', hstatuses⟩ := hstep.of_closed hresolves hclosed
      refine .inr ⟨hresolves, hclosed', fun himp => hstep.ended hresolves (hended fun hall => ?_)⟩
      exact himp ((Coordinator.committedSince_congr hstatuses).mpr hall)

end

end World

/-! ### Commands -/

section
variable {start w : World} {written : Nat → Batch}

namespace World

/-- A forced session of a disabled database is opened, and its unit of work is
underway. -/
theorem Underway.of_openSession (horderly : start.Orderly) (hrun : start.Running)
    (hunit : start.db.coordinator.openUnit = none)
    (hshutDown : start.db.coordinator.shutDown = false)
    (hdisabled : start.db.coordinator.enabled = false) :
    (Command.openSession true).run.Ends start fun r w' =>
      r = .ok (.session ⟨start.db.coordinator.statuses.length, false, false⟩) ∧
        Underway start (fun _ => []) w' := by
  show (do return .session (← Database.openSession true) : Operation Reply).Ends start _
  rw [Operation.ends_bind]
  have hopens := Operation.openSession_forced horderly hrun hunit hshutDown hdisabled
  refine Operation.locked_of_ne_panic hrun.1 (hopens.mono fun r w' hend => ?_)
  obtain ⟨rfl, hc, hdisk, hpoisoned⟩ := hend
  have hunderway := Underway.of_push horderly hrun hunit hshutDown hdisabled
  exact ⟨nofun, rfl, hunderway.alike hc hdisk hpoisoned⟩

/-- A database that runs while a unit of work is open takes entries. -/
theorem Underway.stopped?_eq_none (h : Underway start written w) :
    w.db.coordinator.stopped? = none := by
  obtain ⟨unit, hunit⟩ := Option.isSome_iff_exists.mp h.sessions.isSome
  exact Coordinator.stopped?_eq_none h.running.2 (h.orderly.moded.shutDown_eq_false hunit)

/-- An entry that is written goes into the unit's layer. -/
theorem Underway.write (h : Underway start written w) {table : Table}
    (htable : table.index < w.db.coordinator.tables.length) (key : Bytes) (entry : Entry) :
    (Command.write table key entry).run.Ends w fun _ w' =>
      Underway start (fun other => written other ++
        Command.writtenTo other [.write table key entry]) w' := by
  obtain ⟨-, hone, hpending⟩ := h.only_level
  have hdepth : 0 < w.db.coordinator.depth := by
    rw [Coordinator.depth, hone, hpending]
    exact Nat.zero_lt_one
  have hwrote := Command.write_wrote h.orderly table key entry
  have haccepted := Command.write_accepted h.orderly.sound h.running.1 h.stopped?_eq_none table
    key entry (.inl hdepth)
  refine (hwrote.and haccepted).mono fun r w' hend => ?_
  obtain ⟨⟨r₁, w₁, hwrote, hr, hunlocks⟩, hok⟩ := hend
  obtain rfl := hr.mpr hok
  rw [hunlocks.of_ok]
  -- The table is known and a level is live, so the entry is put into a layer.
  cases hwrote with
  | nothing _ hunknown =>
    have hnone := List.getElem?_eq_none_iff.mp (hunknown rfl)
    omega
  | direct _ _ hdry => omega
  | put _ _ hlive => exact h.put hlive htable key entry

/-- A command leaves the unit underway if it leaves it open. -/
theorem Underway.run (h : Underway start written w) {command : Command}
    (hknown : command.tableRegistered w.db.coordinator)
    (hrecord : command = .check → start.NoRecord)
    (hopen : ((command.run.perform w).2).db.coordinator.openUnit.isSome = true) :
    Underway start (fun table => written table ++ Command.writtenTo table [command])
      (command.run.perform w).2 := by
  have hsteps : (Move.call command).writesStores = false →
      Underway start written (command.run.perform w).2 := by
    intro hwrites
    have hpath : Steps (.call command) w (command.run.perform w).2 :=
      (Move.call command).act_steps h.orderly
    rcases hpath.underway h hwrites nofun with ⟨h', -⟩ | ⟨-, hclosed, -⟩
    · exact h'
    · rw [hclosed] at hopen
      cases hopen
  have hnothing : (∀ table, Command.writtenTo table [command] = []) →
      (fun table => written table ++ Command.writtenTo table [command]) = written := by
    intro hnil
    funext table
    rw [hnil, List.append_nil]
  -- A write adds to what was written, a check finds no record, and all else
  -- goes by steps that write nothing.
  cases command with
  | write table key entry => exact h.write (of_decide_eq_true hknown) key entry
  | check =>
    have hnone : w.NoRecord := (hrecord rfl).congr h.journal (by rw [h.disk])
    have hsame : (Command.check.run.perform w).2 = w :=
      check_unchanged h.orderly.sound fun _ => hnone
    rw [hnothing fun _ => rfl, hsame]
    exact h
  | _ =>
    rw [hnothing fun _ => rfl]
    exact hsteps rfl

/-- So it is over a run of commands. -/
theorem Underway.runAll (h : Underway start written w) {commands : List Command}
    (hknown : w.writesRegistered commands) (hrecord : .check ∈ commands → start.NoRecord)
    (hopen : ∀ n ≤ commands.length,
      (w.runAll (commands.take n)).db.coordinator.openUnit.isSome = true) (n : Nat) :
    Underway start (fun table => written table ++ Command.writtenTo table (commands.take n))
      (w.runAll (commands.take n)) := by
  induction commands generalizing w written n with
  | nil =>
    rw [List.take_nil]
    simp only [Command.writtenTo, List.filterMap_nil, List.append_nil]
    exact h
  | cons command rest ih =>
    -- What the first command wrote counts as written before the rest.
    rw [writesRegistered, Bool.and_eq_true] at hknown
    have h₁ := h.run hknown.1 (fun hcheck => hrecord (hcheck ▸ List.mem_cons_self))
      (hopen 1 (Nat.succ_le_succ (Nat.zero_le _)))
    cases n with
    | zero =>
      simp only [List.take_zero, Command.writtenTo, List.filterMap_nil, List.append_nil]
      exact h
    | succ n =>
      have hrest := ih h₁ hknown.2 (fun hmem => hrecord (List.mem_cons_of_mem _ hmem))
        (fun m hle => hopen (m + 1) (Nat.succ_le_succ hle)) n
      simp only [List.append_assoc, ← Command.writtenTo_cons] at hrest
      exact hrest

/-- The move that closes the unit ends it. -/
theorem Underway.close (h : Underway start written w) {last : Move}
    (hclosed : (last.act w).db.coordinator.openUnit = none)
    (hcommitted : (last.act w).db.coordinator.CommittedSince start.db.coordinator.statuses.length →
      start.disk.Healthy ∧ ¬w.Unencodable) :
    Ended start written (last.act w) := by
  have hpath : Steps last w (last.act w) := last.act_steps h.orderly
  -- A move of any other kind would leave the unit open.
  have hresolves : last.resolves = true := by
    by_contra hother
    have hopen := (hpath.openSince h.orderly h.sessions (eq_false_of_ne_true hother)).isSome
    rw [hclosed] at hopen
    cases hopen
  obtain ⟨-, -, -, -, hwrites, hplan⟩ := Move.of_resolves hresolves
  rcases hpath.underway h hwrites hplan with ⟨h', -⟩ | ⟨-, -, hended⟩
  · have hopen := h'.sessions.isSome
    rw [hclosed] at hopen
    cases hopen
  · exact hended hcommitted

end World

end

namespace World

/-- A forced session enables a disabled database for one unit of work. The
database runs, no store fails, and no two tables share one. Whatever is
called while the unit is open, no store is written. When the unit is
resolved, the database is disabled and has no layers. If all sessions since
were committed, every root holds what it held with what was written to its
table in order, also that of a table registered meanwhile, and the journal
has no record. Otherwise every store is as it was at the start, and so is a
record that an earlier flush may have left in the journal. A record of the
unit that cannot be encoded would halt the database as a store that fails
does. -/
theorem forced_unit_ends (disk : Disk) (configuration : Configuration) (journal : String)
    (handlers : List Handler) (moves : List Move) (commands : List Command) (last : Move) :
    let w := (opened disk configuration journal handlers).play moves
    let w₁ := (Move.call (.openSession true)).act w
    let first := w.db.coordinator.statuses.length
    let ended := last.act (w₁.runAll commands)
    w.Running → w.db.coordinator.openUnit = none → w.db.coordinator.shutDown = false →
    w.db.coordinator.enabled = false → w.disk.Healthy →
    w₁.writesRegistered commands = true → (.check ∈ commands → w.NoRecord) →
    (∀ n ≤ commands.length,
      (w₁.runAll (commands.take n)).db.coordinator.openUnit.isSome = true) →
    ended.db.coordinator.openUnit = none → ended.db.coordinator.DistinctStores →
    (ended.db.coordinator.CommittedSince first → ¬(w₁.runAll commands).Unencodable) →
    ((Command.openSession true).run.perform w).1 = .ok (.session ⟨first, false, false⟩) ∧
      (∀ n, (w₁.runAll (commands.take n)).disk = w.disk) ∧
      ended.db.coordinator.Bare ∧
      (ended.db.coordinator.CommittedSince first → ended.NoRecord ∧
        ∀ table chain, ended.db.coordinator.tables[table]? = some chain →
          ended.disk.contents chain.root =
            (w.disk.contents chain.root).apply (Command.writtenTo table commands)) ∧
      (¬ended.db.coordinator.CommittedSince first → ended.disk = w.disk) := by
  intro w w₁ first ended hrun hunit hshutDown hdisabled hhealthy hknown hrecord hopen hclosed
    hstores hencodable
  have horderly : w.Orderly := (orderly_opened disk configuration journal handlers).play moves
  obtain ⟨hanswer, hopened⟩ :
      ((Command.openSession true).run.perform w).1 = .ok (.session ⟨first, false, false⟩) ∧
        Underway w (fun _ => []) w₁ :=
    Underway.of_openSession horderly hrun hunit hshutDown hdisabled
  have hunderway := hopened.runAll hknown hrecord hopen
  have hlast := hunderway commands.length
  rw [List.take_length] at hlast
  have hended := hlast.close hclosed fun hall => ⟨hhealthy, hencodable hall⟩
  refine ⟨hanswer, fun n => (hunderway n).disk, hended.bare, fun hall => ?_, hended.failed⟩
  obtain ⟨hnone, hcontents⟩ := hended.committed hall
  exact ⟨hnone, hcontents hstores⟩

/-- The outer session removes a key, and the nested one writes to a table
that is registered meanwhile. Disabling the database is refused. -/
theorem forced_unit_ends_nested :
    let moves : List Move := [.call (.addTable "a" "left"),
      .call (.write ⟨0, "a"⟩ [1] (.value [10]))]
    let commands := [Command.write ⟨0, "a"⟩ [1] .tombstone, .openSession false,
      .addTable "b" "right", .disable, .write ⟨1, "b"⟩ [2] (.value [20]),
      .commitSession ⟨1, false, true⟩]
    let last : Move := .call (.commitSession ⟨0, false, false⟩)
    let w := (opened .empty { enabled := false } "journal" []).play moves
    let w₁ := (Move.call (.openSession true)).act w
    let ended := last.act (w₁.runAll commands)
    w.Running ∧ w.db.coordinator.openUnit = none ∧ w.db.coordinator.shutDown = false ∧
      w.db.coordinator.enabled = false ∧ w.disk.Healthy ∧
      w₁.writesRegistered commands = true ∧
      (∀ n ≤ commands.length,
        (w₁.runAll (commands.take n)).db.coordinator.openUnit.isSome = true) ∧
      ended.db.coordinator.openUnit = none ∧ ended.db.coordinator.DistinctStores ∧
      ended.db.coordinator.CommittedSince w.db.coordinator.statuses.length ∧
      ¬(w₁.runAll commands).Unencodable ∧
      (w.disk.contents "left").toList = [([1], [10])] ∧
      (w₁.runAll commands).disk = w.disk ∧
      ended.db.coordinator.Bare ∧ ended.NoRecord ∧
      ended.disk.contents "left" = (w.disk.contents "left").apply [([1], .tombstone)] ∧
      ended.disk.contents "right" = (w.disk.contents "right").apply [([2], .value [20])] := by
  intro moves commands last w w₁ ended
  have hrun : w.Running := ⟨by decide +kernel, by decide +kernel⟩
  have hunit : w.db.coordinator.openUnit = none := by decide +kernel
  have hshutDown : w.db.coordinator.shutDown = false := by decide +kernel
  have hdisabled : w.db.coordinator.enabled = false := by decide +kernel
  have hhealthy : w.disk.Healthy := Disk.healthy_of_forall (by decide +kernel)
  have hknown : w₁.writesRegistered commands = true := by decide +kernel
  have hcheck : .check ∈ commands → w.NoRecord := fun hmem => absurd hmem (by decide +kernel)
  have hopen : ∀ n ≤ commands.length,
      (w₁.runAll (commands.take n)).db.coordinator.openUnit.isSome = true := by
    decide +kernel
  have hclosed : ended.db.coordinator.openUnit = none := by decide +kernel
  have hstores : ended.db.coordinator.DistinctStores :=
    (Coordinator.distinctStores_iff _).mpr (by decide +kernel)
  have hall : ended.db.coordinator.CommittedSince w.db.coordinator.statuses.length := by
    decide +kernel
  have hencodable : ¬(w₁.runAll commands).Unencodable := by
    unfold Unencodable
    decide +kernel
  dsimp only [w, w₁, ended] at *
  obtain ⟨-, hdisk, hbare, hcommitted, -⟩ := forced_unit_ends .empty { enabled := false } "journal"
    [] moves commands last hrun hunit hshutDown hdisabled hhealthy hknown hcheck hopen hclosed
    hstores fun _ => hencodable
  obtain ⟨hnone, hcontents⟩ := hcommitted hall
  have hunwritten := hdisk commands.length
  rw [List.take_length] at hunwritten
  have hleft := hcontents 0 ⟨"a", "left", [], 0⟩ (by decide +kernel)
  have hright := hcontents 1 ⟨"b", "right", [], 0⟩ (by decide +kernel)
  rw [show Command.writtenTo 0 commands = [([1], .tombstone)] by decide +kernel] at hleft
  rw [show Command.writtenTo 1 commands = [([2], .value [20])] by decide +kernel] at hright
  exact ⟨hrun, hunit, hshutDown, hdisabled, hhealthy, hknown, hopen, hclosed, hstores, hall,
    hencodable, by decide +kernel, hunwritten, hbare, hnone, hleft, hright⟩

/-- A flush was stopped at a root, and the database is opened again,
disabled. A forced unit of work that is dropped leaves the record of this
flush in the journal. -/
theorem forced_unit_keeps_record :
    let before : List Move := [.call (.addTable "a" "left"), .call (.openSession false),
      .call (.write ⟨0, "a"⟩ [1] (.value [10])), .call (.commitSession ⟨0, false, false⟩),
      .setPlan "left" (some ⟨0, .error (.refused "full")⟩), .call .merge, .setPlan "left" none]
    let disk := ((opened .empty {} "journal" []).play before).disk
    let w := (opened disk { enabled := false } "journal" []).play [.call (.addTable "a" "left")]
    let w₁ := (Move.call (.openSession true)).act w
    let ended := Move.act w₁ (.call (.dropSession ⟨0, false, false⟩))
    w.Running ∧ w.db.coordinator.openUnit = none ∧ w.db.coordinator.shutDown = false ∧
      w.db.coordinator.enabled = false ∧ w.disk.Healthy ∧
      ((Command.openSession true).run.perform w).1 = .ok (.session ⟨0, false, false⟩) ∧
      ended.db.coordinator.openUnit = none ∧ ended.db.coordinator.DistinctStores ∧
      ended.db.coordinator.enabled = false ∧ ¬ended.NoRecord := by
  intro before disk w w₁ ended
  have hstores : ended.db.coordinator.DistinctStores :=
    (Coordinator.distinctStores_iff _).mpr (by decide +kernel)
  have hrecord : ¬ended.NoRecord := by
    unfold NoRecord
    decide +kernel
  exact ⟨⟨by decide +kernel, by decide +kernel⟩, by decide +kernel, by decide +kernel,
    by decide +kernel, Disk.healthy_of_forall (by decide +kernel), by decide +kernel,
    by decide +kernel, hstores, by decide +kernel, hrecord⟩

end World

end LayeredStore

import LayeredStore.Proofs.Permanence
import LayeredStore.Proofs.Views

/-!
# `LayeredStore.Proofs.Aftermath`: what is left of a unit of work

The last of its sessions decides what becomes of a unit of work. Its layer
is committed on every table if all sessions were, and discarded on every
table otherwise; the unit of work of a database that was enabled for it is
flushed with all that is below it.

* `World.Kept`, `World.Flushed` and `World.Discarded` say what is left of
  a unit of work and of its layer on every table.
* `World.Resolved`: what becomes of a session that is resolved.
* `Resolution.resolved` says it of the resolutions of `Resolution.lean`
  where no store fails.
-/

set_option autoImplicit false

namespace LayeredStore

/-- The newest layer of a table, which has this number, is committed: it
holds what it held, and is sealed. -/
def Chain.CommitsHead (seq : Nat) (chain chain' : Chain) : Prop :=
  ∃ older head, chain.layers = older ++ [head] ∧ head.seq = seq ∧ head.committed = false ∧
    chain' = { chain with layers := older ++ [head.commit] }

/-- The newest layer of a table, which has this number, is discarded. -/
def Chain.DropsHead (seq : Nat) (chain chain' : Chain) : Prop :=
  ∃ older head, chain.layers = older ++ [head] ∧ head.seq = seq ∧
    chain' = { chain with layers := older }

namespace Coordinator

section
variable {c : Coordinator} {seq : Nat}

/-- The layer of the open unit of work is the newest of every table, and
not committed. -/
theorem Sound.exists_unit_head (h : c.Sound) (hseq : c.openSeq? = some seq) {chain : Chain}
    (hmem : chain ∈ c.tables) : ∃ older head, chain.layers = older ++ [head] ∧ head.seq = seq ∧
      head.committed = false ∧ 0 < chain.depth := by
  have hstep := h.chains chain hmem
  have hlive := h.openLive (Option.isSome_iff_exists.mpr ⟨seq, hseq⟩)
  obtain ⟨older, head, hlayers, hlevels⟩ := hstep.exists_head hlive
  have hlast := h.openLast seq hseq
  rw [hlevels, List.getLast?_concat] at hlast
  have hhead : head.seq = seq := Option.some.inj hlast
  have hcommitted := hstep.committed head (hlayers ▸ List.mem_append_right _ List.mem_cons_self)
  rw [hhead, hseq] at hcommitted
  exact ⟨older, head, hlayers, hhead, by simpa using hcommitted, hstep.depth_pos hlive⟩

theorem Sound.commitsHead (h : c.Sound) (hseq : c.openSeq? = some seq) :
    List.Forall₂ (Chain.CommitsHead seq) c.tables (c.sealHeads).tables := by
  refine List.forall₂_map_right_iff.mpr (List.forall₂_same.mpr fun chain hmem => ?_)
  obtain ⟨older, head, hlayers, hhead, hopen, hdepth⟩ := h.exists_unit_head hseq hmem
  exact ⟨older, head, hlayers, hhead, hopen, Chain.modifyHead_of_concat hlayers hdepth _⟩

theorem Sound.dropsHead (h : c.Sound) (hseq : c.openSeq? = some seq) :
    List.Forall₂ (Chain.DropsHead seq) c.tables (c.discardHead).tables := by
  refine List.forall₂_map_right_iff.mpr (List.forall₂_same.mpr fun chain hmem => ?_)
  obtain ⟨older, head, hlayers, hhead, -, hdepth⟩ := h.exists_unit_head hseq hmem
  exact ⟨older, head, hlayers, hhead, Chain.discardHead_of_concat hlayers hdepth⟩

end

end Coordinator

namespace World

/-! ### What is left of a unit of work -/

/-- The unit of work waits for others of its sessions, and nothing has
moved. -/
structure Waits (w : World) (unit : UnitOfWork) (w' : World) : Prop where
  unit : ∃ poisoned, w'.db.coordinator.openUnit = some { unit with poisoned := poisoned }
  layers : w.db.coordinator.SameStacks w'.db.coordinator
  disk : w'.disk = w.disk

/-- The unit of work was closed, and its layer is committed on every
table. -/
structure Kept (w : World) (unit : UnitOfWork) (w' : World) : Prop where
  closed : w'.db.coordinator.openUnit = none
  levels : w'.db.coordinator.levels = w.db.coordinator.levels
  pending : w'.db.coordinator.pending = w.db.coordinator.pending
  layer : ∀ seq, unit.seq = some seq → List.Forall₂ (Chain.CommitsHead seq) w.db.coordinator.tables
    w'.db.coordinator.tables
  passThrough : unit.seq = none → w'.db.coordinator.tables = w.db.coordinator.tables
  disk : w'.disk = w.disk

/-- The unit of work was closed, all layers are in the roots, and the
database is disabled again. -/
structure Flushed (w w' : World) : Prop where
  closed : w'.db.coordinator.openUnit = none
  disabled : w'.db.coordinator.enabled = false
  levels : w'.db.coordinator.levels = []
  tables : List.Forall₂ (fun chain chain' => chain'.name = chain.name ∧ chain'.root = chain.root ∧
    chain'.layers = []) w.db.coordinator.tables w'.db.coordinator.tables
  roots : w.db.coordinator.DistinctStores → ∀ chain ∈ w.db.coordinator.tables,
    w'.disk.contents chain.root =
      (w.disk.contents chain.root).overlay (Chain.diffs chain.layers)

/-- The unit of work was closed, and its layer is gone from every table.
If it had none, that it was revoked is counted, and nothing else. -/
structure Discarded (w : World) (unit : UnitOfWork) (w' : World) : Prop where
  closed : w'.db.coordinator.openUnit = none
  layer : ∀ seq, unit.seq = some seq →
    w'.db.coordinator.levels = w.db.coordinator.levels.dropLast ∧
    w'.db.coordinator.pending = w.db.coordinator.pending ∧
    w'.db.coordinator.passThroughRevokes = w.db.coordinator.passThroughRevokes ∧
    List.Forall₂ (Chain.DropsHead seq) w.db.coordinator.tables w'.db.coordinator.tables
  passThrough : unit.seq = none →
    w.db.coordinator.SameStacks w'.db.coordinator ∧
    w'.db.coordinator.enabled = w.db.coordinator.enabled ∧
    w'.db.coordinator.passThroughRevokes = w.db.coordinator.passThroughRevokes + 1
  disk : w'.disk = w.disk

/-- The record of all layers has a length that four bytes do not hold. -/
def Unencodable (w : World) : Prop :=
  (w.db.coordinator.netRecord w.db.coordinator.levels.length).fits = false

/-- What becomes of a session that is resolved, of its unit of work and
of the layer of this unit, where the database runs and no store fails. A
forced unit of work is committed, but cannot be flushed, if the record of
the flush cannot be encoded. -/
structure Resolved (w : World) (unit : UnitOfWork) (session : Nat) (status : SessionStatus)
    (answer : Except Fault Unit) (w' : World) : Prop where
  statuses : ∀ other, w'.db.coordinator.status other =
    if other = session then status else w.db.coordinator.status other
  /-- Others of the unit are open. -/
  waits : (∃ other, other ≠ session ∧ w.db.coordinator.isOpen other = true) →
    answer = .ok () ∧ w.Waits unit w'
  /-- It was the last, and all were committed. -/
  kept : (∀ other, other ≠ session → w.db.coordinator.isOpen other = false) →
    (∀ other ∈ unit.sessions, w'.db.coordinator.status other = .committed) →
    if w.db.coordinator.disableOnExit then
      answer = .ok () ∧ w.Flushed w' ∨
      answer = .error (.error .unencodable) ∧ w.Kept unit w' ∧ w'.Unencodable
    else answer = .ok () ∧ w.Kept unit w'
  /-- It was the last, and one was not committed. -/
  discarded : (∀ other, other ≠ session → w.db.coordinator.isOpen other = false) →
    (∃ other ∈ unit.sessions, w'.db.coordinator.status other ≠ .committed) →
    (answer = if status = .committed then
      .error (.error (.sessionMisuse .nestedSessionAbandoned)) else .ok ()) ∧ w.Discarded unit w'

section
variable {w w' w₁ w₂ : World} {unit : UnitOfWork}

theorem kept_of_keep (h : w.Orderly) (hunit : w.db.coordinator.openUnit = some unit)
    {statuses : List SessionStatus}
    (hstacks : (w.db.coordinator.keep unit statuses).SameStacks w'.db.coordinator)
    (hclosed : w'.db.coordinator.openUnit = none) (hdisk : w'.disk = w.disk) : w.Kept unit w' := by
  cases hseq : unit.seq with
  | none =>
    have hsame := (Coordinator.sameStacks_keep_of_none statuses hunit hseq).trans hstacks
    exact ⟨hclosed, hsame.levels, hsame.pending, fun seq h => absurd (hseq.symm.trans h) nofun,
      fun _ => hsame.tables, hdisk⟩
  | some seq =>
    have hsame := (Coordinator.sameStacks_keep_of_some (c := w.db.coordinator) statuses hseq).trans
      hstacks
    have hopen := (Coordinator.openSeq?_of_some hunit).trans hseq
    refine ⟨hclosed, hsame.levels, hsame.pending, fun other hother => ?_,
      fun h => absurd (hseq.symm.trans h) nofun, hdisk⟩
    obtain rfl : seq = other := Option.some.inj (hseq.symm.trans hother)
    rw [hsame.tables]
    exact h.sound.commitsHead hopen

theorem Lost.discarded {statuses : List SessionStatus} (hlost : w.Lost unit statuses w')
    (h : w.Orderly) (hunit : w.db.coordinator.openUnit = some unit) : w.Discarded unit w' := by
  have hclosed : w'.db.coordinator.openUnit = none :=
    hlost.coordinator.modes.openUnit.trans (Coordinator.openUnit_lose statuses)
  have hrevokes := hlost.revokes
  cases hseq : unit.seq with
  | none =>
    have hsame := (Coordinator.sameStacks_lose_of_none statuses hunit hseq).trans
      hlost.coordinator.layers
    -- A unit of work without a layer is one of a disabled database.
    have hdisabled : w.db.coordinator.enabled = false := by
      rw [← h.moded.layered unit hunit, hseq]
      rfl
    have henabled : w'.db.coordinator.enabled = w.db.coordinator.enabled := by
      rw [hlost.coordinator.modes.enabled, (Coordinator.modes_lose statuses).1, hdisabled,
        Bool.false_and]
    rw [hseq] at hrevokes
    exact ⟨hclosed, fun seq h => absurd (hseq.symm.trans h) nofun,
      fun _ => ⟨hsame, henabled, hrevokes⟩, hlost.disk⟩
  | some seq =>
    have hsame := (Coordinator.sameStacks_lose_of_some (c := w.db.coordinator) statuses hseq).trans
      hlost.coordinator.layers
    have hopen := (Coordinator.openSeq?_of_some hunit).trans hseq
    rw [hseq] at hrevokes
    refine ⟨hclosed, fun other hother => ?_, fun h => absurd (hseq.symm.trans h) nofun, hlost.disk⟩
    obtain rfl : seq = other := Option.some.inj (hseq.symm.trans hother)
    refine ⟨hsame.levels, hsame.pending, hrevokes, ?_⟩
    rw [hsame.tables]
    exact h.sound.dropsHead hopen

/-- Once the layer of a forced unit of work is flushed, no layer is
left. -/
theorem flushed_of_settle (h : w.Orderly) (hunit : w.db.coordinator.openUnit = some unit)
    (hforced : w.db.coordinator.disableOnExit = true) {statuses : List SessionStatus}
    (hkeep : (w.db.coordinator.keep unit statuses).Alike w₁.db.coordinator)
    (hdisk : w₁.disk = w.disk)
    (hflush : FlushEnd w₁ w₁.db.coordinator.levels.length (.ok ()) w₂)
    (hend : w₂.Concludes (.ok ()) w') : w.Flushed w' := by
  have henabled : w.db.coordinator.enabled = true := by
    cases henabled : w.db.coordinator.enabled with
    | true => rfl
    | false =>
      rw [(h.moded.disabled henabled).2] at hforced
      cases hforced
  obtain ⟨seq, hseq, -, hdepth⟩ := h.owns_newest hunit henabled
  have hsame₁ := (Coordinator.sameStacks_keep_of_some (c := w.db.coordinator) statuses hseq).trans
    hkeep.layers
  have hsound₁ : w₁.db.coordinator.Sound := (h.sound.keep hunit statuses).congr hkeep.layers
  have hpos : 0 < w₁.db.coordinator.levels.length := by
    rw [hsame₁.levels]
    exact Nat.lt_of_lt_of_le hdepth (Nat.sub_le _ _)
  have hsame₂ := hflush.sameStacks_of_ok hpos
  obtain ⟨hc, hdisk', -⟩ := hend
  -- The commit leaves every table in step, with the layers that are flushed.
  have hcommit : ∀ chain ∈ w.db.coordinator.tables,
      chain.modifyHead (·.commit) ∈ w₁.db.coordinator.tables ∧
      (chain.modifyHead (·.commit)).layers.length = w₁.db.coordinator.levels.length := by
    intro chain hmem
    have hmem₁ : chain.modifyHead (·.commit) ∈ w₁.db.coordinator.tables := by
      rw [hsame₁.tables]
      exact List.mem_map_of_mem hmem
    exact ⟨hmem₁, (hsound₁.chains _ hmem₁).length_layers⟩
  have htables : w'.db.coordinator.tables = w.db.coordinator.tables.map fun chain =>
      (chain.modifyHead (·.commit)).dropOldest w₁.db.coordinator.levels.length := by
    rw [hc.layers.tables]
    refine hsame₂.tables.trans ?_
    show w₁.db.coordinator.tables.map _ = _
    rw [hsame₁.tables]
    exact List.map_map
  refine
    { closed := ?_
      disabled := hc.modes.enabled
      levels := hc.layers.levels.trans (hsame₂.levels.trans List.drop_length)
      tables := ?_
      roots := fun hstores chain hmem => ?_ }
  · rw [hc.modes.openUnit]
    exact hflush.sameModes.openUnit.trans (hkeep.modes.openUnit.trans
      (Coordinator.openUnit_keep statuses))
  · rw [htables]
    refine List.forall₂_map_right_iff.mpr (List.forall₂_same.mpr fun chain hmem => ?_)
    obtain ⟨hname, hroot⟩ := Coordinator.name_root_modifyHead (·.commit) chain
    exact ⟨hname, hroot, List.drop_eq_nil_of_le (Nat.le_of_eq (hcommit chain hmem).2)⟩
  · have hstores₁ : w₁.db.coordinator.DistinctStores := by
      have hregistered : w₁.db.coordinator.registered = w.db.coordinator.registered :=
        hsame₁.registered.trans (Coordinator.registered_mapTables w.db.coordinator.withoutUnit
          (Coordinator.name_root_modifyHead (·.commit)))
      exact hstores.of_registered (hregistered ▸ List.prefix_refl _) hsame₁.journal
    obtain ⟨hmem₁, hlength⟩ := hcommit chain hmem
    rcases hflush.effect hstores₁ with ⟨-, hzero, -⟩ | ⟨-, hroots⟩
    · exact absurd (hzero rfl) (Nat.ne_of_gt hpos)
    · have hroot := hroots _ hmem₁
      rw [(Coordinator.name_root_modifyHead (·.commit) chain).2,
        List.take_of_length_le (Nat.le_of_eq hlength), chain.diffs_modifyHead_commit,
          hdisk] at hroot
      rw [hdisk']
      exact hroot

end

end World

namespace Operation

/-- Where no store is set to fail, a flush is carried out, or its record
cannot be encoded and it moves nothing. -/
theorem flushOldest_healthy_or {w : World} (hnames : w.db.coordinator.tableNames.Nodup)
    (hhealthy : w.disk.Healthy) (count : Nat) :
    (flushOldest count).Ends w fun r w' => r = .ok () ∨ r = .error (.error .unencodable) ∧
      w.db.coordinator.SameStacks w'.db.coordinator ∧ w'.disk = w.disk ∧
      (w.db.coordinator.netRecord (min count w.db.coordinator.levels.length)).fits = false := by
  cases hfits : (w.db.coordinator.netRecord
      (min count w.db.coordinator.levels.length)).fits with
  | true =>
    exact (flushOldest_healthy w hnames hhealthy count hfits).mono fun r w' hend => .inl hend.1
  | false =>
    refine (flushOldest_ends w hnames count).mono fun r w' hend => ?_
    obtain ⟨-, rfl, rfl⟩ | ⟨rfl, rfl⟩ := hend.of_unfit hfits
    · exact .inl rfl
    · exact .inr ⟨rfl, Coordinator.sameStacks_halted _, rfl, rfl⟩

end Operation

/-- No store set to fail stops the program. -/
theorem answer_of_healthy {w w' : World} {r : Except Fault Unit} {count : Nat}
    (hnames : w.db.coordinator.tableNames.Nodup) (hhealthy : w.disk.Healthy)
    (h : (Operation.flushOldest count).perform w = (r, w')) :
    r = .ok () ∨ r = .error (.error .unencodable) ∧
      w.db.coordinator.SameStacks w'.db.coordinator ∧ w'.disk = w.disk ∧
      (w.db.coordinator.netRecord (min count w.db.coordinator.levels.length)).fits = false := by
  have hends := Operation.flushOldest_healthy_or hnames hhealthy count
  unfold Operation.Ends at hends
  rwa [h] at hends

namespace World

section
variable {w w' : World} {unit : UnitOfWork} {session : Nat} {status : SessionStatus}
  {r : Except Fault Unit}

theorem Resolution.statuses (h : w.Resolution session status r w') (horderly : w.Orderly) :
    w'.db.coordinator.statuses = w.db.coordinator.statuses.set session status := by
  cases h with
  | waits _ _ hc => exact hc.modes.statuses
  | loses _ _ _ hlost =>
    exact hlost.coordinator.modes.statuses.trans (Coordinator.statuses_lose _)
  | keeps _ _ _ _ hc => exact hc.modes.statuses.trans (Coordinator.statuses_keep _)
  | settles _ hunit _ _ _ hkeep _ _ hflush hend =>
    have hnames := ((horderly.sound.keep hunit _).congr hkeep.layers).names
    have hflush := flushEnd_of_perform hnames hflush
    -- A panic poisons the lock, which leaves the sessions alone.
    match r, hflush, hend with
    | .ok (), hflush, hend => exact (sessions_of_settle hkeep hflush hend).2
    | .error (.error _), hflush, hend => exact (sessions_of_settle hkeep hflush hend).2
    | .error .panic, hflush, hend =>
      have hend : World.Concludes _ (.error .panic) w'.poison := hend
      exact (sessions_of_settle hkeep hflush hend).2

/-- A session that is resolved is not open any more. -/
theorem Resolution.isOpen_eq_false (h : w.Resolution session status r w') (horderly : w.Orderly)
    (hsession : w.db.coordinator.isOpen session = true) (hstatus : status ≠ .opened) :
    w'.db.coordinator.isOpen session = false := by
  rw [Coordinator.isOpen_eq_false_iff,
    Coordinator.status_congr (c := w.db.coordinator.setStatus session status) (h.statuses horderly),
    Coordinator.status_setStatus, if_pos ⟨rfl, Coordinator.lt_of_isOpen hsession⟩]
  exact hstatus

/-- Others of the unit of work are open if other sessions are. -/
theorem openCount_setStatus_pos_iff (h : w.Orderly)
    (hunit : w.db.coordinator.openUnit = some unit)
    (hsession : w.db.coordinator.isOpen session = true) (hstatus : status ≠ .opened) :
    0 < (w.db.coordinator.setStatus session status).openCount unit ↔
      ∃ other, other ≠ session ∧ w.db.coordinator.isOpen other = true := by
  have hopen : ∀ other, (w.db.coordinator.setStatus session status).isOpen other = true ↔
      other ≠ session ∧ w.db.coordinator.isOpen other = true := by
    intro other
    rw [Coordinator.isOpen_iff, Coordinator.status_setStatus, Coordinator.isOpen_iff]
    simp only [Coordinator.lt_of_isOpen hsession, and_true]
    split
    · rename_i heq
      exact iff_of_false hstatus fun hne => hne.1 heq.symm
    · rename_i hne
      exact ⟨fun hother => ⟨fun heq => hne heq.symm, hother⟩, And.right⟩
  rw [Coordinator.openCount_pos_iff]
  constructor
  · rintro ⟨other, -, hother⟩
    exact ⟨other, (hopen other).mp hother⟩
  · rintro ⟨other, hother⟩
    exact ⟨other, h.attended.mem_of_isOpen hunit hother.2, (hopen other).mpr hother⟩

/-- A forced unit of work that was committed is flushed, or kept where the
record of the flush cannot be encoded. -/
theorem flushed_or_kept_of_settle {w₁ w₂ : World} (h : w.Orderly) (hhealthy : w.disk.Healthy)
    (hunit : w.db.coordinator.openUnit = some unit)
    (hforced : w.db.coordinator.disableOnExit = true) {statuses : List SessionStatus}
    (hkeep : (w.db.coordinator.keep unit statuses).Alike w₁.db.coordinator)
    (hdisk : w₁.disk = w.disk)
    (hflush : (Operation.flushOldest w₁.db.coordinator.levels.length).perform w₁ = (r, w₂))
    (hend : Led (fun w₂ w' => w₂.Concludes r w') w₂ r w') :
    r = .ok () ∧ w.Flushed w' ∨
      r = .error (.error .unencodable) ∧ w.Kept unit w' ∧ w'.Unencodable := by
  have hnames := ((h.sound.keep hunit statuses).congr hkeep.layers).names
  have hhealthy₁ : w₁.disk.Healthy := hdisk.symm ▸ hhealthy
  obtain rfl | ⟨rfl, hstacks, hdisk', hfits⟩ := answer_of_healthy hnames hhealthy₁ hflush
  · exact .inl ⟨rfl, flushed_of_settle h hunit hforced hkeep hdisk
      (flushEnd_of_perform hnames hflush) hend⟩
  · have hclosed := (sessions_of_settle hkeep (flushEnd_of_perform hnames hflush) hend).1
    obtain rfl : w' = w₂ := hend
    refine .inr ⟨rfl, kept_of_keep h hunit (hkeep.layers.trans hstacks) hclosed
      (hdisk'.trans hdisk), ?_⟩
    rw [Nat.min_self] at hfits
    rwa [Unencodable, Coordinator.netRecord, hstacks.tables, hstacks.levels]

/-- What becomes of a session that is resolved is what `Resolved` says,
where no store is set to fail. -/
theorem Resolution.resolved (h : w.Resolution session status r w') (horderly : w.Orderly)
    (hhealthy : w.disk.Healthy) (hunit : w.db.coordinator.openUnit = some unit)
    (hsession : w.db.coordinator.isOpen session = true) (hstatus : status ≠ .opened) :
    w.Resolved unit session status r w' := by
  have hset : ∀ other, w'.db.coordinator.status other =
      (w.db.coordinator.statuses.set session status).getD other .abandoned := by
    intro other
    rw [Coordinator.status, h.statuses horderly]
  have hstatuses : ∀ other, w'.db.coordinator.status other =
      if other = session then status else w.db.coordinator.status other := by
    intro other
    rw [Coordinator.status_congr (c := w.db.coordinator.setStatus session status)
      (h.statuses horderly), Coordinator.status_setStatus]
    simp only [Coordinator.lt_of_isOpen hsession, and_true, eq_comm]
  -- The unit waits exactly if a session other than this one is open.
  have hothers := openCount_setStatus_pos_iff horderly hunit hsession hstatus
  have hnone : (∀ other, other ≠ session → w.db.coordinator.isOpen other = false) →
      ¬0 < (w.db.coordinator.setStatus session status).openCount unit := by
    rw [hothers]
    rintro hclosed ⟨other, hne, hopen⟩
    rw [hclosed other hne] at hopen
    cases hopen
  cases h with
  | @waits unit' _ hunit' hcount hc hdisk =>
    obtain rfl : unit' = unit := Option.some.inj (hunit'.symm.trans hunit)
    have hstacks : w.db.coordinator.SameStacks
        (w.db.coordinator.resolve unit' session status) :=
      ⟨rfl, rfl, rfl, rfl, rfl, (Coordinator.openSeq?_of_some hunit).symm⟩
    exact
      { statuses := hstatuses
        waits := fun _ => ⟨rfl, ⟨_, hc.modes.openUnit⟩, hstacks.trans hc.layers, hdisk⟩
        kept := fun hlast => absurd hcount (hnone hlast)
        discarded := fun hlast => absurd hcount (hnone hlast) }
  | @loses unit' _ hunit' hlast hfailed hlost =>
    obtain rfl : unit' = unit := Option.some.inj (hunit'.symm.trans hunit)
    exact
      { statuses := hstatuses
        waits := fun hwaits => absurd (hothers.mpr hwaits) hlast
        kept := fun _ hall =>
          absurd (fun other hother => (hset other).symm.trans (hall other hother)) hfailed
        discarded := fun _ _ => ⟨rfl, hlost.discarded horderly hunit⟩ }
  | @keeps unit' _ hunit' hlast hall hforced hc hdisk =>
    obtain rfl : unit' = unit := Option.some.inj (hunit'.symm.trans hunit)
    refine
      { statuses := hstatuses
        waits := fun hwaits => absurd (hothers.mpr hwaits) hlast
        kept := fun _ _ => ?_
        discarded := fun _ hfailed => ?_ }
    · rw [hforced, if_neg Bool.false_ne_true]
      exact ⟨rfl, kept_of_keep horderly hunit hc.layers
        (hc.modes.openUnit.trans (Coordinator.openUnit_keep _)) hdisk⟩
    · obtain ⟨other, hother, hne⟩ := hfailed
      exact absurd ((hset other).trans (hall other hother)) hne
  | @settles unit' w₁ w₂ _ _ hrun hunit' hlast hall hforced hkeep hdisk hpoisoned hflush hend =>
    -- The unit was forced. It is kept first, and the flush that follows moves
    -- its layer into the roots, or stops the database.
    obtain rfl : unit' = unit := Option.some.inj (hunit'.symm.trans hunit)
    refine
      { statuses := hstatuses
        waits := fun hwaits => absurd (hothers.mpr hwaits) hlast
        kept := fun _ _ => ?_
        discarded := fun _ hfailed => ?_ }
    · rw [if_pos hforced]
      exact flushed_or_kept_of_settle horderly hhealthy hunit hforced hkeep hdisk hflush hend
    · obtain ⟨other, hother, hne⟩ := hfailed
      exact absurd ((hset other).trans (hall other hother)) hne

/-- Resolving a session does not stop the program where no store does. -/
theorem Resolution.ne_panic (h : w.Resolution session status r w') (horderly : w.Orderly)
    (hhealthy : w.disk.Healthy) : r ≠ .error .panic := by
  cases h with
  | waits | keeps => nofun
  | loses => split <;> nofun
  | settles _ hunit _ _ _ hkeep hdisk _ hflush =>
    have hnames := ((horderly.sound.keep hunit _).congr hkeep.layers).names
    rcases answer_of_healthy hnames (hdisk.symm ▸ hhealthy) hflush with rfl | ⟨rfl, -⟩ <;> nofun

/-- Resolving a session as failed succeeds. -/
theorem Resolution.eq_ok (h : w.Resolution session status r w') (horderly : w.Orderly)
    (hsession : w.db.coordinator.isOpen session = true) (hstatus : status ≠ .committed) :
    r = .ok () := by
  cases h with
  | waits | keeps => rfl
  | loses => exact if_neg hstatus
  | settles _ hunit _ hall =>
    -- The session itself was not committed.
    have hset := w.db.coordinator.status_setStatus session status session
    rw [if_pos ⟨rfl, Coordinator.lt_of_isOpen hsession⟩] at hset
    exact absurd (hset.symm.trans (hall session (horderly.attended.mem_of_isOpen hunit hsession)))
      hstatus

/-- What the operator was told before makes no difference. -/
theorem Resolution.of_say {notice : Notice} (h : (w.say notice).Resolution session status r w') :
    w.Resolution session status r w' := by
  cases h with
  | waits hunit hothers hc hdisk hpoisoned => exact .waits hunit hothers hc hdisk hpoisoned
  | loses hunit hlast hfailed hlost =>
    exact .loses hunit hlast hfailed ⟨hlost.coordinator, hlost.disk, hlost.poisoned, hlost.revokes⟩
  | keeps hunit hlast hall hforced hc hdisk hpoisoned =>
    exact .keeps hunit hlast hall hforced hc hdisk hpoisoned
  | settles hrun hunit hlast hall hforced hkeep hdisk hpoisoned hflush hend =>
    exact .settles hrun hunit hlast hall hforced hkeep hdisk hpoisoned hflush hend

end

end World

end LayeredStore

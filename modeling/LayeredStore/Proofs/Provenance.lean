import LayeredStore.Proofs.Lineage

/-!
# `LayeredStore.Proofs.Provenance`: where the entries of layers come from

What a layer says was written to it while it was the newest, and the unit
of work that it belongs to is open, or was closed when all its sessions
had been committed. Here this is said in terms of the run that has led to
a state, so that nothing is presumed of what the states record.

* `World.Seen`: the units of work that were open in a run.
  `World.CommittedUnit` says that one was committed.
* `World.WrittenTo` and `World.WrittenStraight` say where in a run an
  entry was written.
* `World.Traceable`: of all layers there are, it is known where what they
  say was written, and that their units of work were committed, but for
  the open one. `Traceable.steps`, `Traceable.flush` and `Traceable.keep`
  say that this stays so in the midst of a move, and `Traceable.act` at
  its end.
* `play_traceable`: so it is known after every run.
-/

set_option autoImplicit false

namespace LayeredStore

namespace World

/-! ### What has happened in a run -/

/-- Somewhere in the run, this was the unit of work that was open and had
the layer of this number. -/
def Seen (w₀ : World) (moves : List Move) (seq : Nat) (unit : UnitOfWork) : Prop :=
  ∃ before after, moves = before ++ after ∧
    (w₀.play before).db.coordinator.openUnit = some unit ∧ unit.seq = some seq

/-- In the run there was a unit of work that had the layer of this number.
As `w` stands it is closed, and all sessions it ever had are
committed. -/
structure CommittedUnit (w₀ : World) (moves : List Move) (w : World) (seq : Nat) : Prop where
  seen : ∃ unit, w₀.Seen moves seq unit
  past : w.db.coordinator.Past seq
  committed : ∀ unit, w₀.Seen moves seq unit → ∀ session ∈ unit.sessions,
    w.db.coordinator.status session = .committed

/-- After these moves of the run, this entry was to be written to the
table whose chain was this. -/
def WrittenAt (w₀ : World) (moves before : List Move) (table : Table) (chain : Chain) (key : Bytes)
    (entry : Entry) : Prop :=
  (∃ after, moves = before ++ .call (.write table key entry) :: after) ∧
    (w₀.play before).db.coordinator.tables[table.index]? = some chain

/-- In the run, this entry was written to the table of this name while
layers were live, and the newest had this number. -/
def WrittenTo (w₀ : World) (moves : List Move) (seq : Nat) (name : String) (key : Bytes)
    (entry : Entry) : Prop :=
  ∃ before table chain, w₀.WrittenAt moves before table chain key entry ∧ chain.name = name ∧
    0 < (w₀.play before).db.coordinator.depth ∧
    (w₀.play before).db.coordinator.levels.getLast? = some seq ∧
    ((Command.write table key entry).run.perform (w₀.play before)).1 = .ok .done

/-- In the run, this entry was written to the table of this name while no
layer was live. -/
def WrittenStraight (w₀ : World) (moves : List Move) (name : String) (key : Bytes) (entry : Entry) :
    Prop :=
  ∃ before table chain, w₀.WrittenAt moves before table chain key entry ∧ chain.name = name ∧
    (w₀.play before).db.coordinator.depth = 0 ∧
    ((Command.write table key entry).run.perform (w₀.play before)).1 = .ok .done

section
variable {w₀ w w' : World} {moves : List Move} {move : Move} {seq : Nat} {name : String}
  {key : Bytes} {entry : Entry}

/-- A unit of work that was open in a run was so before its last move, or
is open at its end. -/
theorem Seen.of_snoc {unit : UnitOfWork} (h : w₀.Seen (moves ++ [move]) seq unit) :
    w₀.Seen moves seq unit ∨
      (w₀.play (moves ++ [move])).db.coordinator.openUnit = some unit ∧ unit.seq = some seq := by
  obtain ⟨before, after, hmoves, hunit⟩ := h
  rcases List.eq_nil_or_concat after with rfl | ⟨middle, last, rfl⟩
  · rw [List.append_nil] at hmoves
    exact .inr (hmoves ▸ hunit)
  · rw [List.concat_eq_append, ← List.append_assoc] at hmoves
    exact .inl ⟨before, middle, (List.append_inj' hmoves rfl).1, hunit⟩

theorem Seen.extend {moves' : List Move} {unit : UnitOfWork} (h : w₀.Seen moves seq unit)
    (hextends : moves <+: moves') : w₀.Seen moves' seq unit := by
  obtain ⟨before, after, rfl, hunit⟩ := h
  obtain ⟨later, rfl⟩ := hextends
  exact ⟨before, after ++ later, List.append_assoc _ _ _, hunit⟩

theorem WrittenAt.extend {moves' before : List Move} {table : Table} {chain : Chain}
    (h : w₀.WrittenAt moves before table chain key entry) (hextends : moves <+: moves') :
    w₀.WrittenAt moves' before table chain key entry := by
  obtain ⟨⟨after, rfl⟩, hchain⟩ := h
  obtain ⟨later, rfl⟩ := hextends
  exact ⟨⟨after ++ later, by simp⟩, hchain⟩

/-- An entry is written by one of the moves of the run, after those before
it. -/
theorem WrittenAt.eq_take {before : List Move} {table : Table} {chain : Chain}
    (h : w₀.WrittenAt moves before table chain key entry) :
    before = moves.take before.length ∧
      moves[before.length]? = some (.call (.write table key entry)) := by
  obtain ⟨⟨after, rfl⟩, -⟩ := h
  simp

theorem WrittenTo.extend {moves' : List Move} (h : w₀.WrittenTo moves seq name key entry)
    (hextends : moves <+: moves') : w₀.WrittenTo moves' seq name key entry := by
  obtain ⟨before, table, chain, hwritten, hrest⟩ := h
  exact ⟨before, table, chain, hwritten.extend hextends, hrest⟩

theorem WrittenStraight.extend {moves' : List Move}
    (h : w₀.WrittenStraight moves name key entry) (hextends : moves <+: moves') :
    w₀.WrittenStraight moves' name key entry := by
  obtain ⟨before, table, chain, hwritten, hrest⟩ := h
  exact ⟨before, table, chain, hwritten.extend hextends, hrest⟩

/-- Sessions that were committed stay so, and a unit of work that is past
stays past. -/
theorem CommittedUnit.grows (h : CommittedUnit w₀ moves w seq)
    (hgrows : w.db.coordinator.Grows w'.db.coordinator) : CommittedUnit w₀ moves w' seq where
  seen := h.seen
  past := hgrows.remembers.past seq h.past
  committed unit hunit session hmem := by
    have hcommitted := h.committed unit hunit session hmem
    have hclosed : w.db.coordinator.isOpen session = false := by
      rw [Coordinator.isOpen_eq_false_iff, hcommitted]
      nofun
    have hlt : session < w.db.coordinator.statuses.length :=
      Coordinator.lt_of_status_ne (hcommitted ▸ nofun)
    rw [hgrows.remembers.resolved session hlt hclosed, hcommitted]

/-- A move that does not open it again leaves the unit of work
committed. -/
theorem CommittedUnit.snoc (h : CommittedUnit w₀ moves (w₀.play (moves ++ [move])) seq) :
    CommittedUnit w₀ (moves ++ [move]) (w₀.play (moves ++ [move])) seq where
  seen := h.seen.imp fun _ hunit => hunit.extend (List.prefix_append _ _)
  past := h.past
  committed unit hunit := by
    rcases hunit.of_snoc with hold | ⟨hunit, hseq⟩
    · exact h.committed unit hold
    · exact absurd ((Coordinator.openSeq?_of_some hunit).trans hseq) h.past.2

end

/-! ### Layers that can be traced -/

/-- After the run and some steps more, it is known where the entries of
all layers come from. -/
structure Traceable (w₀ : World) (moves : List Move) (w : World) : Prop where
  sound : w.db.coordinator.Sound
  precedes : ∀ before after, moves = before ++ after → (w₀.play before).Precedes w
  fates : ∀ seq ∈ w.db.coordinator.levels,
    w.db.coordinator.openSeq? = some seq ∨ CommittedUnit w₀ moves w seq
  said : ∀ name seq key entry, w.db.coordinator.Says name seq key entry →
    w₀.WrittenTo moves seq name key entry

namespace Traceable

variable {w₀ w w' : World} {moves : List Move} {move : Move} {n : Nat} {r : Except Fault Unit}

/-- The unit of work that is open has all sessions that it ever had. -/
theorem sessions_subset (h : Traceable w₀ moves w) {seq : Nat} {unit unit' : UnitOfWork}
    (hseen : w₀.Seen moves seq unit) (hunit' : w.db.coordinator.openUnit = some unit')
    (hseq' : unit'.seq = some seq) : unit.sessions ⊆ unit'.sessions := by
  obtain ⟨before, after, hmoves, hunit, hseq⟩ := hseen
  rcases (h.precedes before after hmoves).grows.remembers.unit unit hunit with
    ⟨later, hlater, -, hextends⟩ | ⟨-, hpast⟩
  · obtain rfl : later = unit' := Option.some.inj (hlater.symm.trans hunit')
    exact hextends.subset
  · exact absurd ((Coordinator.openSeq?_of_some hunit').trans hseq') (hpast seq hseq).2

/-- A unit of work that is closed with all its sessions committed is
committed. -/
theorem committedUnit (h : Traceable w₀ moves w) {seq : Nat}
    (hseen : ∃ unit, w₀.Seen moves seq unit)
    (hgrows : w.db.coordinator.Grows w'.db.coordinator)
    (hcommits : w.db.coordinator.CommitsUnit w'.db.coordinator seq) :
    CommittedUnit w₀ moves w' seq := by
  obtain ⟨unit', statuses, hcloses, hall, hseq, hclosed, hstatuses⟩ := hcommits
  refine ⟨hseen, h.sound.past hcloses.openUnit hclosed hgrows.remembers.nextSeq hseq,
    fun unit hunit session hmem => ?_⟩
  rw [Coordinator.status, hstatuses]
  exact hall session (h.sessions_subset hunit hcloses.openUnit hseq hmem)

/-- It stays known over a change that lets no layer say more, and pushes
none but one that is open. -/
theorem next (h : Traceable w₀ moves w) (opens : Bool) (hprecedes : w.Precedes w')
    (hsound : w'.db.coordinator.Sound)
    (hseen : opens = false → ∀ seq unit, w.db.coordinator.openUnit = some unit →
      unit.seq = some seq → ∃ unit, w₀.Seen moves seq unit)
    (hfates : ∀ seq ∈ w'.db.coordinator.levels,
      Coordinator.Fate opens w.db.coordinator w'.db.coordinator seq)
    (hearlier : ∀ name seq key entry, w'.db.coordinator.Says name seq key entry →
      w.db.coordinator.Says name seq key entry) : Traceable w₀ moves w' where
  sound := hsound
  precedes before after hmoves := (h.precedes before after hmoves).trans hprecedes
  fates seq hmem := by
    rcases hfates seq hmem with hopen | ⟨hold, hne⟩ | ⟨hopens, hcommits⟩
    · exact .inl hopen
    · exact .inr (((h.fates seq hold).resolve_left hne).grows hprecedes.grows)
    · obtain ⟨unit, _, hcloses, _, hseq, _⟩ := id hcommits
      exact .inr (h.committedUnit (hseen hopens seq unit hcloses.openUnit hseq) hprecedes.grows
        hcommits)
  said name seq key entry hsaid := h.said name seq key entry (hearlier name seq key entry hsaid)

/-- A flush takes layers away. -/
theorem flush (h : Traceable w₀ moves w) (hrun : w.Running)
    (hn : n ≤ w.db.coordinator.levels.length)
    (hopen : w.db.coordinator.openSeq?.isSome → n < w.db.coordinator.levels.length)
    (hend : FlushEnd w n r w') : Traceable w₀ moves w' := by
  exact h.next true ⟨grows_of_flushEnd hend, fun _ => hrun⟩
    (sound_of_flushEnd hend h.sound hn hopen) nofun (fun seq hmem => fate_of_flushEnd hend hmem)
    fun _ _ _ _ hsaid => says_of_flushEnd hend hsaid

/-- A panic leaves the layers alone. -/
theorem poison (h : Traceable w₀ moves w) : Traceable w₀ moves w.poison :=
  ⟨h.sound, fun before after hmoves => (h.precedes before after hmoves).trans
    ⟨.refl _, fun hrun => nomatch hrun.1⟩, fun seq hmem => (h.fates seq hmem).imp id
      fun hcommitted => hcommitted.grows (.refl _), h.said⟩

theorem unlocks (h : Traceable w₀ moves w) (hunlocks : Unlocks r w w') : Traceable w₀ moves w' := by
  rcases hunlocks with ⟨-, rfl⟩ | ⟨-, rfl⟩
  · exact h
  · exact h.poison

/-- In the midst of a move that opens no session, the unit of work that is
open was so at the start. -/
theorem exists_seen (hpath : Steps move (w₀.play moves) w) (hopens : move.opens = false) {seq : Nat}
    {unit : UnitOfWork} (hunit : w.db.coordinator.openUnit = some unit)
    (hseq : unit.seq = some seq) :
    ∃ unit, w₀.Seen moves seq unit := by
  obtain ⟨unit', hunit', hseq', -⟩ := hpath.sameUnit hopens unit hunit
  exact ⟨unit', moves, [], (List.append_nil _).symm, hunit', hseq'.trans hseq⟩

/-- The commit of a unit of work commits its layer. -/
theorem keep (h : Traceable w₀ moves w) (horderly : w.Orderly) (hrun : w.Running)
    (hpath : Steps move (w₀.play moves) w) (hopens : move.opens = false) {unit : UnitOfWork}
    {statuses : List SessionStatus} (hcloses : w.db.coordinator.Closes unit statuses)
    (hall : Coordinator.AllCommitted statuses unit)
    (hkeep : (w.db.coordinator.keep unit statuses).Alike w'.db.coordinator) :
    Traceable w₀ moves w' := by
  refine h.next false ⟨grows_of_keep horderly hcloses hkeep, fun _ => hrun⟩
    ((h.sound.keep hcloses.openUnit statuses).congr hkeep.layers)
    (fun _ seq unit => exists_seen hpath hopens) (fun seq hmem => ?_)
    fun name seq key entry hsaid => (hsaid.of_stacks hkeep.layers).of_keep hcloses.openUnit
  rw [hkeep.layers.levels, Coordinator.levels_keep hcloses.openUnit] at hmem
  exact .of_keep rfl hcloses hall hmem
    (hkeep.modes.openUnit.trans (Coordinator.openUnit_keep statuses))
    (hkeep.modes.statuses.trans (Coordinator.statuses_keep statuses))

/-- It stays known in the midst of a move that writes no entry. -/
theorem steps (h : Traceable w₀ moves (w₀.play moves)) (horderly : (w₀.play moves).Orderly)
    (hmove : ∀ table key entry, move ≠ .call (.write table key entry))
    (hpath : Steps move (w₀.play moves) w) : Traceable w₀ moves w := by
  induction hpath with
  | refl => exact h
  | tail hpath hstep ih =>
    have horderly' := Steps.orderly hpath horderly
    exact ih.next move.opens ⟨hstep.grows horderly', hstep.running⟩ (hstep.orderly horderly').sound
      (fun hopens seq unit => exists_seen hpath hopens) (fun seq hmem => hstep.fate horderly' hmem)
      fun _ _ _ _ hsaid => hstep.said hmove hsaid

/-- At the end of a move, what is known over the run before it and over
the entries that the move has written is known over the run. -/
theorem snoc (hsound : (w₀.play (moves ++ [move])).db.coordinator.Sound)
    (hprecedes : ∀ before after, moves = before ++ after →
      (w₀.play before).Precedes (w₀.play (moves ++ [move])))
    (hfates : ∀ seq ∈ (w₀.play (moves ++ [move])).db.coordinator.levels,
      (w₀.play (moves ++ [move])).db.coordinator.openSeq? = some seq ∨
        CommittedUnit w₀ moves (w₀.play (moves ++ [move])) seq)
    (hsaid : ∀ name seq key entry,
      (w₀.play (moves ++ [move])).db.coordinator.Says name seq key entry →
        w₀.WrittenTo (moves ++ [move]) seq name key entry) :
    Traceable w₀ (moves ++ [move]) (w₀.play (moves ++ [move])) where
  sound := hsound
  precedes before after hmoves := by
    rcases List.eq_nil_or_concat after with rfl | ⟨middle, last, rfl⟩
    · rw [hmoves, List.append_nil]
      exact .refl _
    · rw [List.concat_eq_append, ← List.append_assoc] at hmoves
      exact hprecedes before middle (List.append_inj' hmoves rfl).1
  fates seq hmem := (hfates seq hmem).imp id CommittedUnit.snoc
  said := hsaid

theorem close (h : Traceable w₀ moves (w₀.play (moves ++ [move]))) :
    Traceable w₀ (moves ++ [move]) (w₀.play (moves ++ [move])) :=
  snoc h.sound h.precedes h.fates fun name seq key entry hsaid =>
    (h.said name seq key entry hsaid).extend (List.prefix_append _ _)

/-- An entry that is put into a layer is written to the newest. -/
theorem put (h : Traceable w₀ moves (w₀.play moves)) {table : Table} {chain : Chain} {key : Bytes}
    {entry : Entry} (hchain : (w₀.play moves).db.coordinator.tables[table.index]? = some chain)
    (hlive : (w₀.play moves).db.coordinator.pending < (w₀.play moves).db.coordinator.levels.length)
    (hanswer : ((Command.write table key entry).run.perform (w₀.play moves)).1 = .ok .done)
    (hput : w₀.play (moves ++ [.call (.write table key entry)]) =
      (w₀.play moves).withCoordinator ((w₀.play moves).db.coordinator.modifyTable table.index
        (·.modifyHead (·.put key entry))))
    (hprecedes : (w₀.play moves).Precedes (w₀.play (moves ++ [.call (.write table key entry)]))) :
    Traceable w₀ (moves ++ [.call (.write table key entry)])
      (w₀.play (moves ++ [.call (.write table key entry)])) := by
  refine snoc ?_ (fun before after hmoves => (h.precedes before after hmoves).trans hprecedes) ?_ ?_
  · rw [hput]
    exact h.sound.put _ _ _
  · intro seq hmem
    have hgrows := hprecedes.grows
    rw [hput] at hmem hgrows ⊢
    exact (h.fates seq hmem).imp id fun hcommitted => hcommitted.grows hgrows
  · intro name seq key' entry' hsaid
    rw [hput] at hsaid
    rcases hsaid.of_put h.sound hchain with hold | ⟨rfl, rfl, hname, hlast⟩
    · exact (h.said name seq key' entry' hold).extend (List.prefix_append _ _)
    · exact ⟨moves, table, chain, ⟨⟨[], rfl⟩, hchain⟩, hname, Nat.sub_pos_of_lt hlive, hlast,
        hanswer⟩

/-- It stays known over the write of an entry. -/
theorem write (h : Traceable w₀ moves (w₀.play moves)) (horderly : (w₀.play moves).Orderly)
    (table : Table) (key : Bytes) (entry : Entry) :
    Traceable w₀ (moves ++ [.call (.write table key entry)])
      (w₀.play (moves ++ [.call (.write table key entry)])) := by
  have hplay : w₀.play (moves ++ [.call (.write table key entry)]) =
      ((Command.write table key entry).run.perform (w₀.play moves)).2 := play_snoc _ _ _
  obtain ⟨r, w₁, hwrote, hanswer, hunlocks⟩ := Command.write_wrote horderly table key entry
  rw [← hplay] at hunlocks
  cases hwrote with
  | nothing => exact (h.unlocks hunlocks).close
  | put _ hchain hlive =>
    exact h.put hchain hlive (hanswer.mp rfl) hunlocks.of_ok (horderly.precedes_snoc _)
  | stopped hrun hdry hflush =>
    have hflushed := h.flush hrun (Nat.le_refl _) (horderly.open_lt_of_dry hdry) hflush
    exact (hflushed.unlocks hunlocks).close
  | @direct w₁ chain _ hrun _ hdry hflush =>
    have hflushed := h.flush hrun (Nat.le_refl _) (horderly.open_lt_of_dry hdry) hflush
    -- The stores do not bear on what is known of layers.
    have hdirect : Traceable w₀ moves
        (w₁.withDisk (w₁.disk.write chain.root [(key, entry)]).2) :=
      ⟨hflushed.sound, fun before after hmoves => (hflushed.precedes before after hmoves).trans
        ⟨.refl _, id⟩, fun seq hmem => (hflushed.fates seq hmem).imp id fun hcommitted =>
          hcommitted.grows (.refl _), hflushed.said⟩
    exact (hdirect.unlocks hunlocks).close

/-- It stays known over every move. -/
theorem act (h : Traceable w₀ moves (w₀.play moves)) (horderly : (w₀.play moves).Orderly)
    (move : Move) : Traceable w₀ (moves ++ [move]) (w₀.play (moves ++ [move])) := by
  by_cases hmove : ∃ table key entry, move = .call (.write table key entry)
  · obtain ⟨table, key, entry, rfl⟩ := hmove
    exact h.write horderly table key entry
  · have hothers : ∀ table key entry, move ≠ .call (.write table key entry) :=
      fun table key entry heq => hmove ⟨table, key, entry, heq⟩
    exact (h.steps horderly hothers (horderly.steps_snoc move)).close

end Traceable

/-- In a database just opened there is nothing to be known. -/
theorem traceable_opened (disk : Disk) (configuration : Configuration) (journal : String)
    (handlers : List Handler) :
    Traceable (opened disk configuration journal handlers) []
      (opened disk configuration journal handlers) where
  sound := (orderly_opened disk configuration journal handlers).sound
  precedes before after hmoves := by
    obtain ⟨rfl, -⟩ := List.append_eq_nil_iff.mp hmoves.symm
    exact .refl _
  fates := nofun
  said := by rintro _ _ _ _ ⟨chain, hchain, -⟩; cases hchain

/-- After every run it is known where the entries of layers come from. -/
theorem play_traceable (disk : Disk) (configuration : Configuration) (journal : String)
    (handlers : List Handler) (moves : List Move) :
    Traceable (opened disk configuration journal handlers) moves
      ((opened disk configuration journal handlers).play moves) := by
  induction moves using List.reverseRecOn with
  | nil => exact traceable_opened disk configuration journal handlers
  | append_singleton moves move ih =>
    exact ih.act (play_orderly disk configuration journal handlers moves) move

end World

end LayeredStore

import LayeredStore.Proofs.Nesting
import LayeredStore.Proofs.Upkeep

/-!
# `LayeredStore.Proofs.Forcing`: the mode of a database over a run

A database that is disabled can be enabled for a single unit of work, by
a forced session. It is disabled again once this unit is resolved.

* `World.OpenedByForce` looks back at a run: a unit of work was opened by
  a forced session of a database that was disabled.
* `World.ForcedExactly`: the database is to be disabled again exactly if
  that is so of its open unit of work. A forced session establishes it,
  and every other move keeps it.
* `World.WritesThrough`: writing an entry is writing it to the root.
* `World.modes_consistent` is what the mode of a database says of its
  layers and of its unit of work after every run.
-/

set_option autoImplicit false

namespace LayeredStore

open World

/-! ### Moves that open no session -/

namespace Coordinator

variable {c c' : Coordinator}

/-- While a unit of work is open, a database does not change its mind
about being disabled again. -/
theorem Turn.disableOnExit {move : Move} (h : c.Turn move c') (hopens : move.opens = false)
    {unit : UnitOfWork} (hunit : c'.openUnit = some unit) : c'.disableOnExit = c.disableOnExit := by
  cases h with
  | solidify | discard | enable | disable | register | stop | resolve => rfl
  | push hopens' | passThrough hopens' | join hopens' => cases hopens.symm.trans hopens'
  | keep _ closed statuses =>
    rw [openUnit_keep] at hunit
    cases hunit
  | lose _ closed statuses =>
    rw [openUnit_lose] at hunit
    cases hunit

end Coordinator

namespace World

section
variable {move : Move} {w w' : World}

theorem Step.disableOnExit (h : Step move w w') (hopens : move.opens = false) {unit : UnitOfWork}
    (hunit : w'.db.coordinator.openUnit = some unit) :
    w'.db.coordinator.disableOnExit = w.db.coordinator.disableOnExit := by
  cases h with
  | aside hc => exact hc.modes.disableOnExit
  | turn _ hturn hc =>
    exact hc.modes.disableOnExit.trans
      (hturn.disableOnExit hopens (hc.modes.openUnit.symm.trans hunit))
  | flush _ _ _ h _ => exact h.sameModes.disableOnExit
  | crash _ _ _ h => exact h.sameModes.disableOnExit
  | settle _ _ _ _ _ hkeep _ _ hflush hend =>
    rw [(sessions_of_settle hkeep hflush hend).1] at hunit
    cases hunit
  | recover _ _ _ hc => exact hc.modes.disableOnExit
  | put | direct | poison | setPlan => rfl

theorem Steps.disableOnExit (h : Steps move w w') (hopens : move.opens = false) {unit : UnitOfWork}
    (hunit : w'.db.coordinator.openUnit = some unit) :
    w'.db.coordinator.disableOnExit = w.db.coordinator.disableOnExit := by
  induction h generalizing unit with
  | refl => rfl
  | tail hpath hstep ih =>
    obtain ⟨before, hbefore, -⟩ := hstep.sameUnit hopens unit hunit
    exact (hstep.disableOnExit hopens hunit).trans (ih hbefore)

end

end World

/-! ### Opening a session -/

namespace Operation

/-- A session that is opened lets the database be disabled again if it
was to be already, or if the session has to be forced. -/
theorem SessionEnd.disableOnExit {w w' : World} {force : Bool} {session : Session}
    (h : SessionEnd w force (.ok session) w') :
    w'.db.coordinator.disableOnExit = (w.db.coordinator.disableOnExit ||
      w.db.coordinator.openUnit.isNone && force && !w.db.coordinator.enabled) := by
  cases h with
  | joined unit notice hunit =>
    rw [hunit]
    exact (Bool.or_false _).symm
  | passThrough _ hunit hdisabled hforce =>
    rw [hforce, Bool.and_false, Bool.false_and, Bool.or_false]
    rfl
  | layered seq w₁ _ hunit henabled hmodes =>
    refine hmodes.disableOnExit.trans ?_
    show (_ || !w.db.coordinator.enabled) = _
    rcases henabled with henabled | rfl
    · rw [henabled, Bool.not_true, Bool.and_false]
    · rw [hunit, Option.isNone_none, Bool.and_true, Bool.true_and]

end Operation

/-! ### Units of work that were forced open -/

namespace World

/-- The move is a forced session of a database that is disabled, and the
session is the first of the unit of work. -/
def ForcesOpen (w : World) (move : Move) (unit : UnitOfWork) : Prop :=
  move = .call (.openSession true) ∧ w.db.coordinator.enabled = false ∧
    ∃ session, ((Command.openSession true).run.perform w).1 = .ok (.session session) ∧
      unit.sessions.head? = some session.id

/-- Some move of the run has forced the unit of work open. -/
def OpenedByForce (w₀ : World) (moves : List Move) (unit : UnitOfWork) : Prop :=
  ∃ before move after, moves = before ++ move :: after ∧ (w₀.play before).ForcesOpen move unit

/-- After the run, the database is to be disabled again exactly if the
unit of work that is open was forced open. -/
def ForcedExactly (w₀ : World) (moves : List Move) : Prop :=
  ∀ unit, (w₀.play moves).db.coordinator.openUnit = some unit →
    ((w₀.play moves).db.coordinator.disableOnExit = true ↔ w₀.OpenedByForce moves unit)

section
variable {w w₀ : World} {moves : List Move} {move : Move} {unit unit' : UnitOfWork}

theorem ForcesOpen.congr (h : w.ForcesOpen move unit)
    (hhead : unit'.sessions.head? = unit.sessions.head?) : w.ForcesOpen move unit' := by
  obtain ⟨hmove, hdisabled, session, hopens, hfirst⟩ := h
  exact ⟨hmove, hdisabled, session, hopens, hhead.trans hfirst⟩

theorem OpenedByForce.congr (h : w₀.OpenedByForce moves unit)
    (hhead : unit'.sessions.head? = unit.sessions.head?) : w₀.OpenedByForce moves unit' := by
  obtain ⟨before, move, after, hmoves, hforces⟩ := h
  exact ⟨before, move, after, hmoves, hforces.congr hhead⟩

/-- A unit of work was forced open by the last move of a run or before. -/
theorem openedByForce_snoc : w₀.OpenedByForce (moves ++ [move]) unit ↔
    w₀.OpenedByForce moves unit ∨ (w₀.play moves).ForcesOpen move unit := by
  constructor
  · rintro ⟨before, forced, after, hmoves, hforces⟩
    rcases List.eq_nil_or_concat' after with rfl | ⟨earlier, last, rfl⟩
    · obtain ⟨rfl, hlast⟩ := List.append_inj' hmoves rfl
      obtain rfl := List.singleton_inj.mp hlast
      exact .inr hforces
    · rw [← List.cons_append, ← List.append_assoc] at hmoves
      obtain ⟨rfl, -⟩ := List.append_inj' hmoves rfl
      exact .inl ⟨before, forced, earlier, rfl, hforces⟩
  · rintro (⟨before, forced, after, rfl, hforces⟩ | hforces)
    · exact ⟨before, forced, after ++ [move], by simp, hforces⟩
    · exact ⟨moves, move, [], rfl, hforces⟩

/-- The first session of a unit of work that was forced open is known. -/
theorem OpenedByForce.first_lt (h : w₀.OpenedByForce moves unit) (horderly : w₀.Orderly) :
    ∃ first, unit.sessions.head? = some first ∧
      first < (w₀.play moves).db.coordinator.statuses.length := by
  obtain ⟨before, move, after, rfl, rfl, -, session, hopens, hfirst⟩ := h
  have hbefore := horderly.play before
  have hopened : (w₀.play before).Opened session _ :=
    Database.openSession_opened hbefore true session hopens
  refine ⟨session.id, hfirst, ?_⟩
  rw [play_append]
  refine Nat.lt_of_lt_of_le ?_
    ((hbefore.act (.call (.openSession true))).remembers_play after).length
  rw [hopened.id]
  show _ < (((Command.openSession true).run.perform _).2).db.coordinator.statuses.length
  rw [hopened.statuses, List.length_append]
  exact Nat.lt_succ_self _

/-- A move that opens no session forces no unit of work open. -/
theorem ForcedExactly.snoc_of_not_opens (h : w₀.ForcedExactly moves) (horderly : w₀.Orderly)
    (hopens : move.opens = false) : w₀.ForcedExactly (moves ++ [move]) := by
  intro unit' hunit'
  have hpath := (horderly.play moves).steps_snoc move
  obtain ⟨unit, hunit, -, hsessions⟩ := hpath.sameUnit hopens unit' hunit'
  rw [hpath.disableOnExit hopens hunit', h unit hunit, openedByForce_snoc]
  have hforces : ¬(w₀.play moves).ForcesOpen move unit' := by
    rintro ⟨rfl, -⟩
    cases hopens
  have hhead : unit'.sessions.head? = unit.sessions.head? := by rw [hsessions]
  constructor
  · exact fun hforced => .inl (hforced.congr hhead)
  · exact fun hforced => (hforced.resolve_right hforces).congr hhead.symm

/-- A session that is opened forces a unit of work open exactly if it is
forced, the database is disabled, and the session is the first of the
unit of work. -/
theorem forcesOpen_iff {force : Bool} {session : Session}
    (hanswer : ((Command.openSession force).run.perform w).1 = .ok (.session session)) :
    w.ForcesOpen (.call (.openSession force)) unit ↔
      (force = true ∧ w.db.coordinator.enabled = false) ∧
        unit.sessions.head? = some session.id := by
  constructor
  · rintro ⟨hmove, hdisabled, other, hopens, hfirst⟩
    cases hmove
    cases hopens.symm.trans hanswer
    exact ⟨⟨rfl, hdisabled⟩, hfirst⟩
  · rintro ⟨⟨rfl, hdisabled⟩, hfirst⟩
    exact ⟨rfl, hdisabled, session, hanswer, hfirst⟩

/-- A unit of work that a session joins keeps its first session, which is
an older one. -/
theorem Opened.head?_of_joined {session : Session} {w₁ : World} (h : w.Opened session w₁)
    (hw : w.Orderly) (hunit : w.db.coordinator.openUnit = some unit)
    (hsessions : unit'.sessions = unit.sessions ++ [session.id]) :
    unit'.sessions.head? = unit.sessions.head? ∧ unit'.sessions.head? ≠ some session.id := by
  obtain ⟨first, hmem, -⟩ := hw.attended.awaited unit hunit
  have hhead : unit'.sessions.head? = unit.sessions.head? := by
    rw [hsessions, List.head?_append_of_ne_nil _ (List.ne_nil_of_mem hmem)]
  refine ⟨hhead, fun hfirst => ?_⟩
  rw [hhead] at hfirst
  have hlt := hw.attended.known unit hunit _ (List.mem_of_head? hfirst)
  exact absurd h.id (Nat.ne_of_lt hlt)

/-- Opening a session forces a unit of work open exactly if it lets the
database be disabled again. -/
theorem ForcedExactly.snoc_openSession (h : w₀.ForcedExactly moves) (horderly : w₀.Orderly)
    (force : Bool) : w₀.ForcedExactly (moves ++ [.call (.openSession force)]) := by
  intro unit' hunit'
  rw [openedByForce_snoc]
  rw [play_snoc] at hunit' ⊢
  have hw := horderly.play moves
  generalize hplayed : w₀.play moves = w at hw hunit' ⊢
  obtain ⟨r, w₁, hend, hanswer, hcoordinator, -⟩ := Command.openSession_ends hw force
  change ((Move.call (.openSession force)).act w).db.coordinator = _ at hcoordinator
  rw [hcoordinator] at hunit' ⊢
  cases r with
  | error fault =>
    have hforces : ¬w.ForcesOpen (.call (.openSession force)) unit' := by
      rintro ⟨hmove, -, session, hopens, -⟩
      cases hmove
      cases hopens.symm.trans hanswer
    rw [or_iff_left hforces]
    cases hend with
    | refused error =>
      rw [← hplayed] at hunit' ⊢
      exact h unit' hunit'
    | failed fault w' hnone =>
      rw [hnone] at hunit'
      cases hunit'
  | ok session =>
    have hopened := hend.opened
    obtain ⟨opened, hopened', hsessions⟩ := hopened.unit
    obtain rfl : unit' = opened := Option.some.inj (hunit'.symm.trans hopened')
    rw [forcesOpen_iff hanswer, hend.disableOnExit]
    cases hunit : w.db.coordinator.openUnit with
    | some unit =>
      rw [hunit, Option.elim_some] at hsessions
      obtain ⟨hhead, hother⟩ := hopened.head?_of_joined hw hunit hsessions
      have hbefore := h unit (hplayed ▸ hunit)
      rw [hplayed] at hbefore
      rw [Option.isNone_some, Bool.false_and, Bool.false_and, Bool.or_false, hbefore,
        or_iff_left fun hforced => hother hforced.2]
      exact ⟨fun hforced => hforced.congr hhead, fun hforced => hforced.congr hhead.symm⟩
    | none =>
      -- No unit of work before has the session that is opened.
      rw [hunit, Option.elim_none, List.nil_append] at hsessions
      have hearlier : ¬w₀.OpenedByForce moves unit' := by
        intro hforced
        obtain ⟨first, hfirst, hlt⟩ := hforced.first_lt horderly
        rw [hsessions, List.head?_cons] at hfirst
        rw [hplayed, ← Option.some.inj hfirst, hopened.id] at hlt
        exact Nat.lt_irrefl _ hlt
      have hforced : w.db.coordinator.disableOnExit = false := by
        cases hend with
        | joined unit _ hsome => cases hsome.symm.trans hunit
        | passThrough hrun | layered _ _ hrun => exact hw.moded.disableOnExit_eq_false hrun hunit
      rw [hforced, Option.isNone_none, Bool.true_and, Bool.false_or, or_iff_right hearlier,
        and_iff_left (by rw [hsessions]; rfl), Bool.and_eq_true, Bool.not_eq_true']

/-- So after every run. -/
theorem Orderly.forcedExactly (horderly : w₀.Orderly) (hclosed : w₀.db.coordinator.openUnit = none)
    (moves : List Move) : w₀.ForcedExactly moves := by
  induction moves using List.reverseRecOn with
  | nil =>
    intro unit hunit
    cases hclosed.symm.trans hunit
  | append_singleton moves move ih =>
    cases hopens : move.opens with
    | false => exact ih.snoc_of_not_opens horderly hopens
    | true =>
      unfold Move.opens at hopens
      split at hopens
      · exact ih.snoc_openSession horderly _
      · cases hopens

end

end World

/-! ### Writing through -/

/-- Under a lock that is not poisoned and while the database is neither
halted nor shut down, writing an entry to a table is writing it to the
table's root. -/
def World.WritesThrough (w : World) : Prop :=
  w.db.poisoned = false → w.db.coordinator.stopped? = none →
    ∀ (table : Table) (chain : Chain) (key : Bytes) (entry : Entry),
      w.db.coordinator.tables[table.index]? = some chain →
      let write := w.disk.write chain.root [(key, entry)]
      let written := (Command.write table key entry).run.perform w
      (written.1 = .ok .done ↔ write.1 = .ok ()) ∧ written.2.disk = write.2 ∧
        written.2.db.coordinator = w.db.coordinator

open Operation in
/-- Where there are no layers, entries are written through. -/
theorem Coordinator.Sound.writesThrough {w : World} (h : w.db.coordinator.Sound)
    (hlevels : w.db.coordinator.levels = []) : w.WritesThrough := by
  intro hpoisoned hstopped table chain key entry hchain
  have hpending : w.db.coordinator.pending = 0 := by
    have hle := h.pending_le
    rw [hlevels] at hle
    exact Nat.eq_zero_of_le_zero hle
  have hdepth : chain.depth = 0 := by
    rw [(h.chains chain (List.mem_of_getElem? hchain)).depth_eq, hlevels]
    exact Nat.zero_sub _
  -- No level is live and none is pending, so of the ways to write an entry
  -- only the direct one is left.
  have hbody : (writeEntry table.index key entry).Ends w fun r w' =>
      (r = .ok () ↔ (w.disk.write chain.root [(key, entry)]).1 = .ok ()) ∧
        w' = w.withDisk (w.disk.write chain.root [(key, entry)]).2 := by
    apply writeEntry_rule
    case refused =>
      intro error herror
      cases hstopped.symm.trans herror
    case unknown =>
      intro _ hnone
      cases hchain.symm.trans hnone
    case put =>
      intro chain' _ hchain' hpos
      obtain rfl : chain = chain' := Option.some.inj (hchain.symm.trans hchain')
      exact absurd hdepth (Nat.ne_of_gt hpos)
    case flushed => exact fun _ _ _ _ hpos => absurd hpending (Nat.ne_of_gt hpos)
    case direct =>
      intro chain' _ hchain' _ _
      obtain rfl : chain = chain' := Option.some.inj (hchain.symm.trans hchain')
      exact writeDirect_ends w chain key entry
  show (do table.write key entry; return .done : Operation Reply).Ends w fun r w' =>
    (r = .ok .done ↔ _) ∧ w'.disk = _ ∧ w'.db.coordinator = _
  rw [ends_bind]
  unfold Table.write
  rw [ends_locked, if_neg (by simp [hpoisoned])]
  refine hbody.mono fun r w' hend => ?_
  obtain ⟨hanswer, rfl⟩ := hend
  match r with
  | .ok () => exact ⟨iff_of_true rfl (hanswer.mp rfl), rfl, rfl⟩
  | .error (.error error) =>
    exact ⟨iff_of_false nofun fun hok => (nomatch hanswer.mpr hok), rfl, rfl⟩
  | .error .panic => exact ⟨iff_of_false nofun fun hok => (nomatch hanswer.mpr hok), rfl, rfl⟩

/-! ### After every run -/

namespace World

/-- In every state that a run reaches, whichever stores have failed, a
database that is disabled has no layers, so entries are written through,
and a unit of work has no layer exactly if the database is disabled. Only
an enabled database is to be disabled again. Unless it has halted, or a
store has stopped the program, so that the lock lets no one in who could
see the state, it is to be exactly if the unit of work that is open was
forced open. The layer of such a unit is the only level. -/
theorem modes_consistent (disk : Disk) (configuration : Configuration) (journal : String)
    (handlers : List Handler) (moves : List Move) :
    let w₀ := opened disk configuration journal handlers
    let w := w₀.play moves
    let c := w.db.coordinator
    (c.enabled = false → c.levels = [] ∧ c.pending = 0 ∧ w.WritesThrough) ∧
    (∀ unit, c.openUnit = some unit → (unit.seq = none ↔ c.enabled = false)) ∧
    (c.disableOnExit = true → c.enabled = true) ∧
    (c.halted = false → (∀ {α : Type} (body : Operation α),
        (Operation.locked body).perform w = (.error (.error (.illegalState .lockPoisoned)), w)) ∨
      (c.disableOnExit = true ↔
        ∃ unit, c.openUnit = some unit ∧ w₀.OpenedByForce moves unit)) ∧
    (∀ unit, c.openUnit = some unit → w₀.OpenedByForce moves unit →
      c.disableOnExit = true ∧ ∃ seq, unit.seq = some seq ∧ c.levels = [seq]) := by
  intro w₀ w c
  have horderly₀ : w₀.Orderly := orderly_opened disk configuration journal handlers
  have h : w.Orderly := horderly₀.play moves
  have hforced : w₀.ForcedExactly moves := horderly₀.forcedExactly rfl moves
  have henabled : c.disableOnExit = true → c.enabled = true := by
    intro hexit
    by_contra hdisabled
    have hoff := (h.moded.disabled (eq_false_of_ne_true hdisabled)).2
    cases hexit.symm.trans hoff
  refine ⟨fun hdisabled => ?_, fun unit hunit => ?_, henabled, fun hhalted => ?_,
    fun unit hunit hopened => ?_⟩
  · have hlevels := (h.moded.disabled hdisabled).1
    have hle := h.sound.pending_le
    rw [hlevels] at hle
    exact ⟨hlevels, Nat.eq_zero_of_le_zero hle, h.sound.writesThrough hlevels⟩
  · rw [← h.moded.layered unit hunit, Option.isSome_eq_false_iff, Option.isNone_iff_eq_none]
  · -- A store that stopped the program has poisoned the lock, which lets no
    -- one in.
    cases hpoisoned : w.db.poisoned with
    | true => exact .inl (Operation.perform_locked_of_poisoned hpoisoned)
    | false =>
      refine .inr ⟨fun hexit => ?_, fun ⟨unit, hunit, hopened⟩ => (hforced unit hunit).mpr hopened⟩
      obtain ⟨unit, hunit⟩ :=
        Option.isSome_iff_exists.mp (h.moded.settled ⟨hpoisoned, hhalted⟩ hexit)
      exact ⟨unit, hunit, (hforced unit hunit).mp hexit⟩
  · have hexit := (hforced unit hunit).mpr hopened
    obtain ⟨seq, hseq, hlast, -⟩ := h.owns_newest hunit (henabled hexit)
    refine ⟨hexit, seq, hseq, ?_⟩
    have hone := h.moded.forced hexit
    obtain ⟨older, hlevels⟩ := List.getLast?_eq_some_iff.mp hlast
    rw [hlevels, List.length_append, List.length_singleton] at hone
    have hnil : older = [] := List.eq_nil_of_length_eq_zero (by omega)
    exact hlevels.trans (by rw [hnil, List.nil_append])

/-- A disabled database is enabled for the unit of work of a forced
session, also once another session has joined it. -/
theorem modes_consistent_forced :
    let w₀ := opened .empty { enabled := false } "journal" []
    let moves : List Move := [.call (.addTable "a" "left"), .call (.openSession true),
      .call (.openSession false)]
    let c := (w₀.play moves).db.coordinator
    c.openUnit = some ⟨some 1, [0, 1], false⟩ ∧ c.disableOnExit = true ∧ c.levels = [1] := by
  intro w₀ moves c
  have hmodes := modes_consistent .empty { enabled := false } "journal" [] moves
  have hunit : c.openUnit = some ⟨some 1, [0, 1], false⟩ := by decide +kernel
  have hopened : w₀.OpenedByForce moves ⟨some 1, [0, 1], false⟩ :=
    ⟨[.call (.addTable "a" "left")], _, _, rfl, rfl, by decide +kernel, ⟨0, false, false⟩,
      by decide +kernel, rfl⟩
  obtain ⟨hexit, seq, hseq, hlevels⟩ := hmodes.2.2.2.2 _ hunit hopened
  cases hseq
  exact ⟨hunit, hexit, hlevels⟩

end World

end LayeredStore

import LayeredStore.Proofs.Routes

/-!
# `LayeredStore.Proofs.Permanence`: what becomes of sessions over time

A session that was resolved stands the same for good, and a unit of work
stays open, under the same number and with all its sessions, until none
of them is open. The number of its layer is not used again.

* `Coordinator.Remembers` says this of an earlier and a later
  coordinator, and `Turn.remembers` that every change keeps to it.
* `Step.remembers`, `Steps.remembers`, `Orderly.remembers_play`: so does
  every step, every path and every run.
* `Steps.sameUnit`: a move that opens no session opens no unit of work
  and adds no session to one.
-/

set_option autoImplicit false

namespace LayeredStore

namespace Coordinator

/-- This unit of work is open, perhaps with more sessions. -/
def Holds (c : Coordinator) (unit : UnitOfWork) : Prop :=
  ∃ unit', c.openUnit = some unit' ∧ unit'.seq = unit.seq ∧ unit.sessions <+: unit'.sessions

/-- The number was given to a layer, and no unit of work is open that has
this layer. -/
def Past (c : Coordinator) (seq : Nat) : Prop := seq < c.nextSeq ∧ c.openSeq? ≠ some seq

/-- What a later coordinator knows of the sessions of an earlier one. -/
structure Remembers (c c' : Coordinator) : Prop where
  length : c.statuses.length ≤ c'.statuses.length
  nextSeq : c.nextSeq ≤ c'.nextSeq
  /-- A session that was resolved stands as it did. -/
  resolved : ∀ session, session < c.statuses.length → c.isOpen session = false →
    c'.status session = c.status session
  /-- The unit of work that was open is still open, or it is past and
  none of its sessions is open. -/
  unit : ∀ unit, c.openUnit = some unit → c'.Holds unit ∨
    (∀ session ∈ unit.sessions, session < c'.statuses.length ∧ c'.isOpen session = false) ∧
    ∀ seq, unit.seq = some seq → c'.Past seq
  past : ∀ seq, c.Past seq → c'.Past seq

/-- The unit of work that is open now was open before, with the same
sessions. -/
def SameUnit (c c' : Coordinator) : Prop :=
  ∀ unit', c'.openUnit = some unit' → ∃ unit, c.openUnit = some unit ∧ unit.seq = unit'.seq ∧
    unit.sessions = unit'.sessions

section
variable {c c' c'' : Coordinator} {seq : Nat}

theorem Holds.refl {unit : UnitOfWork} (h : c.openUnit = some unit) : c.Holds unit :=
  ⟨unit, h, rfl, List.prefix_refl _⟩

theorem Remembers.of_same (hunit : c'.openUnit = c.openUnit) (hstatuses : c'.statuses = c.statuses)
    (hnext : c'.nextSeq = c.nextSeq) : c.Remembers c' where
  length := Nat.le_of_eq (congrArg List.length hstatuses).symm
  nextSeq := Nat.le_of_eq hnext.symm
  resolved session _ _ := status_congr hstatuses session
  unit _ h := .inl (.refl (hunit.trans h))
  past seq h := by
    rw [Past, hnext, openSeq?, hunit]
    exact h

theorem Remembers.refl (c : Coordinator) : c.Remembers c := .of_same rfl rfl rfl

/-- The layer of the unit of work that is closed is past. -/
theorem Sound.past (h : c.Sound) {unit : UnitOfWork} (hunit : c.openUnit = some unit)
    (hclosed : c'.openUnit = none) (hnext : c.nextSeq ≤ c'.nextSeq) {seq : Nat}
    (hseq : unit.seq = some seq) : c'.Past seq := by
  have hlast := h.openLast seq ((openSeq?_of_some hunit).trans hseq)
  refine ⟨Nat.lt_of_lt_of_le (h.lt_nextSeq seq (List.mem_of_getLast? hlast)) hnext, ?_⟩
  rw [openSeq?_of_none hclosed]
  nofun

/-- Where no unit of work is open but one that is new, what was past
stays past. -/
theorem Past.of_new (h : c.Past seq) (hnext : c.nextSeq ≤ c'.nextSeq)
    (hopen : ∀ other, c'.openSeq? = some other → c.openSeq? = some other ∨ c.nextSeq ≤ other) :
    c'.Past seq := by
  refine ⟨Nat.lt_of_lt_of_le h.1 hnext, fun hseq => ?_⟩
  rcases hopen seq hseq with hold | hnew
  · exact h.2 hold
  · exact absurd h.1 (Nat.not_lt_of_le hnew)

theorem Remembers.isOpen_eq_false (h : c.Remembers c') {session : Nat}
    (hlt : session < c.statuses.length) (hclosed : c.isOpen session = false) :
    c'.isOpen session = false := by
  rw [isOpen_eq_false_iff, h.resolved session hlt hclosed]
  exact (c.isOpen_eq_false_iff session).mp hclosed

theorem Remembers.trans (h : c.Remembers c') (h' : c'.Remembers c'') : c.Remembers c'' where
  length := Nat.le_trans h.length h'.length
  nextSeq := Nat.le_trans h.nextSeq h'.nextSeq
  resolved session hlt hclosed :=
    (h'.resolved session (Nat.lt_of_lt_of_le hlt h.length) (h.isOpen_eq_false hlt hclosed)).trans
      (h.resolved session hlt hclosed)
  unit unit hunit := by
    rcases h.unit unit hunit with ⟨unit', hunit', hseq, hsessions⟩ | ⟨hclosed, hpast⟩
    · rcases h'.unit unit' hunit' with ⟨unit'', hunit'', hseq', hlater⟩ | ⟨hclosed, hpast⟩
      · exact .inl ⟨unit'', hunit'', hseq'.trans hseq, hsessions.trans hlater⟩
      · exact .inr ⟨fun session hmem => hclosed session (hsessions.mem hmem),
          fun seq h => hpast seq (hseq.trans h)⟩
    · -- Sessions that were resolved by then stay resolved.
      refine .inr ⟨fun session hmem => ?_, fun seq h => h'.past seq (hpast seq h)⟩
      obtain ⟨hlt, hclosed⟩ := hclosed session hmem
      exact ⟨Nat.lt_of_lt_of_le hlt h'.length, h'.isOpen_eq_false hlt hclosed⟩
  past seq hpast := h'.past seq (h.past seq hpast)

theorem SameUnit.of_eq (h : c'.openUnit = c.openUnit) : c.SameUnit c' :=
  fun unit' hunit' => ⟨unit', h.symm.trans hunit', rfl, rfl⟩

theorem SameUnit.of_none (h : c'.openUnit = none) : c.SameUnit c' :=
  fun _ hunit' => absurd (h.symm.trans hunit') nofun

theorem SameUnit.trans (h : c.SameUnit c') (h' : c'.SameUnit c'') : c.SameUnit c'' := by
  intro unit'' hunit''
  obtain ⟨unit', hunit', hseq', hsessions'⟩ := h' unit'' hunit''
  obtain ⟨unit, hunit, hseq, hsessions⟩ := h unit' hunit'
  exact ⟨unit, hunit, hseq.trans hseq', hsessions.trans hsessions'⟩

/-- Sessions that are added to the list stand beside those that were
there. -/
private theorem remembers_addSession (hstatuses : c'.statuses = c.addSession.statuses)
    (hunit : ∀ unit, c.openUnit = some unit → c'.Holds unit) (hnext : c.nextSeq ≤ c'.nextSeq)
    (hopen : ∀ other, c'.openSeq? = some other → c.openSeq? = some other ∨ c.nextSeq ≤ other) :
    c.Remembers c' where
  length := by
    rw [hstatuses, addSession, List.length_append]
    exact Nat.le_add_right _ _
  nextSeq := hnext
  past _ h := h.of_new hnext hopen
  resolved session hlt _ := by
    rw [status_congr hstatuses, status_addSession, if_neg (Nat.ne_of_lt hlt)]
  unit unit h := .inl (hunit unit h)

/-- When a unit of work is closed, its sessions are resolved and the
others stand as before. -/
theorem Closes.remembers {unit : UnitOfWork} {statuses : List SessionStatus}
    (h : c.Closes unit statuses) (hsound : c.Sound) (hattended : c.Attended)
    (hclosed : c'.openUnit = none) (hstatuses : c'.statuses = statuses)
    (hnext : c'.nextSeq = c.nextSeq) : c.Remembers c' where
  length := Nat.le_of_eq (by rw [hstatuses, h.length])
  nextSeq := Nat.le_of_eq hnext.symm
  past _ hpast := hpast.of_new (Nat.le_of_eq hnext.symm) fun other hother => by
    rw [openSeq?_of_none hclosed] at hother
    cases hother
  resolved session _ hclosed := by
    rw [status, hstatuses]
    exact h.stays session hclosed
  unit other hother := by
    obtain rfl : unit = other := Option.some.inj (h.openUnit.symm.trans hother)
    refine .inr ⟨fun session hmem => ⟨?_, ?_⟩, fun seq hseq =>
      hsound.past h.openUnit hclosed (Nat.le_of_eq hnext.symm) hseq⟩
    · rw [hstatuses, h.length]
      exact hattended.known unit h.openUnit session hmem
    · rw [isOpen_eq_false_iff, status, hstatuses]
      exact h.resolved session hmem

theorem nextSeq_keep {unit : UnitOfWork} (hunit : c.openUnit = some unit)
    (statuses : List SessionStatus) : (c.keep unit statuses).nextSeq = c.nextSeq := by
  cases hseq : unit.seq with
  | none => exact (sameStacks_keep_of_none statuses hunit hseq).nextSeq
  | some seq => exact (sameStacks_keep_of_some statuses hseq).nextSeq

theorem nextSeq_lose {unit : UnitOfWork} (hunit : c.openUnit = some unit)
    (statuses : List SessionStatus) : (c.lose unit statuses).nextSeq = c.nextSeq := by
  cases hseq : unit.seq with
  | none => exact (sameStacks_lose_of_none statuses hunit hseq).nextSeq
  | some seq => exact (sameStacks_lose_of_some statuses hseq).nextSeq

theorem Turn.remembers {move : Move} (h : c.Turn move c') (hsound : c.Sound)
    (hattended : c.Attended) : c.Remembers c' := by
  cases h with
  | solidify | discard | enable | disable | register | stop => exact .of_same rfl rfl rfl
  | push _ _ hunit =>
    refine remembers_addSession rfl (fun unit h => absurd (hunit.symm.trans h) nofun)
      (Nat.le_succ _) fun other hother => .inr ?_
    exact Nat.le_of_eq (Option.some.inj hother)
  | passThrough _ hunit =>
    exact remembers_addSession rfl (fun unit h => absurd (hunit.symm.trans h) nofun)
      (Nat.le_refl _) nofun
  | join _ unit hunit =>
    refine remembers_addSession rfl (fun other hother => ?_) (Nat.le_refl _) fun other hother =>
      .inl ((openSeq?_of_some hunit).trans hother)
    obtain rfl : unit = other := Option.some.inj (hunit.symm.trans hother)
    exact ⟨_, rfl, rfl, List.prefix_append _ _⟩
  | resolve _ unit session status hunit hsession =>
    -- One session is resolved, which was open, so none that was resolved
    -- changes.
    exact
      { length := Nat.le_of_eq List.length_set.symm
        nextSeq := Nat.le_refl _
        past := fun _ hpast => hpast.of_new (Nat.le_refl _) fun other hother =>
          .inl ((openSeq?_of_some hunit).trans hother)
        resolved := fun other _ hclosed => by
          have hne : session ≠ other := by
            rintro rfl
            rw [hsession] at hclosed
            cases hclosed
          have hset := c.status_setStatus session status other
          rwa [if_neg fun h => hne h.1] at hset
        unit := fun other hother => by
          obtain rfl : unit = other := Option.some.inj (hunit.symm.trans hother)
          exact .inl ⟨_, rfl, rfl, List.prefix_refl _⟩ }
  | keep _ unit statuses hcloses =>
    exact hcloses.remembers hsound hattended (openUnit_keep statuses) (statuses_keep statuses)
      (nextSeq_keep hcloses.openUnit statuses)
  | lose _ unit statuses hcloses =>
    exact hcloses.remembers hsound hattended (openUnit_lose statuses) (statuses_lose statuses)
      (nextSeq_lose hcloses.openUnit statuses)

theorem Turn.sameUnit {move : Move} (h : c.Turn move c') (hopens : move.opens = false) :
    c.SameUnit c' := by
  cases h with
  | solidify | discard | enable | disable | register | stop => exact .of_eq rfl
  | push hopens' | passThrough hopens' | join hopens' => cases hopens.symm.trans hopens'
  | resolve _ unit session status hunit =>
    rintro _ ⟨⟩
    exact ⟨unit, hunit, rfl, rfl⟩
  | keep _ unit statuses => exact .of_none (openUnit_keep statuses)
  | lose _ unit statuses => exact .of_none (openUnit_lose statuses)

end

end Coordinator

namespace World

section
variable {move : Move} {w w' w₁ w₂ : World}

/-- A flush gives no number to a layer. -/
theorem nextSeq_of_flushEnd {n : Nat} {r : Except Fault Unit} (h : FlushEnd w n r w') :
    w'.db.coordinator.nextSeq = w.db.coordinator.nextSeq := by
  rcases h.sameStacks with hsame | hsame <;> exact hsame.nextSeq

/-- Nor does it touch sessions. -/
theorem remembers_of_flushEnd {n : Nat} {r : Except Fault Unit} (h : FlushEnd w n r w') :
    w.db.coordinator.Remembers w'.db.coordinator :=
  .of_same h.sameModes.openUnit h.sameModes.statuses (nextSeq_of_flushEnd h)

/-- Disabling a database, or not, does not touch chains or sessions. -/
theorem Concludes.kept {r : Except Fault Unit} (h : w.Concludes r w') :
    w.db.coordinator.SameStacks w'.db.coordinator ∧
      w'.db.coordinator.openUnit = w.db.coordinator.openUnit ∧
      w'.db.coordinator.statuses = w.db.coordinator.statuses ∧ w'.disk = w.disk := by
  match r, h with
  | .ok (), ⟨hc, hdisk, _⟩ =>
    exact ⟨⟨hc.layers.tables, hc.layers.journal, hc.layers.levels, hc.layers.pending,
      hc.layers.nextSeq, hc.layers.openSeq?⟩, hc.modes.openUnit, hc.modes.statuses, hdisk⟩
  | .error (.error _), h => subst h; exact ⟨.refl _, rfl, rfl, rfl⟩
  | .error .panic, h => subst h; exact ⟨.refl _, rfl, rfl, rfl⟩

/-- The commit of a forced unit of work closes it, however its flush
ends. -/
theorem sessions_of_settle {unit : UnitOfWork} {statuses : List SessionStatus}
    {r : Except Fault Unit} {n : Nat}
    (hkeep : (w.db.coordinator.keep unit statuses).Alike w₁.db.coordinator)
    (hflush : FlushEnd w₁ n r w₂) (hend : w₂.Concludes r w') :
    w'.db.coordinator.openUnit = none ∧ w'.db.coordinator.statuses = statuses := by
  obtain ⟨-, hunit, hstatuses, -⟩ := hend.kept
  rw [hflush.sameModes.openUnit, hkeep.modes.openUnit, Coordinator.openUnit_keep] at hunit
  rw [hflush.sameModes.statuses, hkeep.modes.statuses, Coordinator.statuses_keep] at hstatuses
  exact ⟨hunit, hstatuses⟩

theorem remembers_of_keep {unit : UnitOfWork} {statuses : List SessionStatus} (h : w.Orderly)
    (hcloses : w.db.coordinator.Closes unit statuses)
    (hkeep : (w.db.coordinator.keep unit statuses).Alike w₁.db.coordinator) :
    w.db.coordinator.Remembers w₁.db.coordinator :=
  hcloses.remembers h.sound h.attended
    (hkeep.modes.openUnit.trans (Coordinator.openUnit_keep statuses))
    (hkeep.modes.statuses.trans (Coordinator.statuses_keep statuses))
    (hkeep.layers.nextSeq.trans (Coordinator.nextSeq_keep hcloses.openUnit statuses))

theorem Step.remembers (h : Step move w w') (horderly : w.Orderly) :
    w.db.coordinator.Remembers w'.db.coordinator := by
  cases h with
  | aside hc => exact .of_same hc.modes.openUnit hc.modes.statuses hc.layers.nextSeq
  | turn _ hturn hc =>
    exact (hturn.remembers horderly.sound horderly.attended).trans
      (.of_same hc.modes.openUnit hc.modes.statuses hc.layers.nextSeq)
  | flush _ _ _ h _ => exact remembers_of_flushEnd h
  | crash _ _ _ h =>
    -- The coordinator of the poisoned world is that before.
    have hremembers := remembers_of_flushEnd h
    exact hremembers
  | settle _ _ hcloses _ _ hkeep _ _ hflush hend =>
    obtain ⟨hstacks, hunit, hstatuses, -⟩ := hend.kept
    exact ((remembers_of_keep horderly hcloses hkeep).trans (remembers_of_flushEnd hflush)).trans
      (.of_same hunit hstatuses hstacks.nextSeq)
  | recover _ _ _ hc => exact .of_same hc.modes.openUnit hc.modes.statuses hc.layers.nextSeq
  | put | direct | poison | setPlan => exact .of_same rfl rfl rfl

theorem Steps.remembers (h : Steps move w w') (horderly : w.Orderly) :
    w.db.coordinator.Remembers w'.db.coordinator := by
  induction h with
  | refl => exact .refl _
  | tail hpath hstep ih => exact ih.trans (hstep.remembers (Steps.orderly hpath horderly))

/-- What sessions are and were is remembered over every run. -/
theorem Orderly.remembers_play (h : w.Orderly) (moves : List Move) :
    w.db.coordinator.Remembers (w.play moves).db.coordinator := by
  induction moves generalizing w with
  | nil => exact .refl _
  | cons move moves ih => exact ((move.act_steps h).remembers h).trans (ih (h.act move))

theorem Step.sameUnit (h : Step move w w') (hopens : move.opens = false) :
    w.db.coordinator.SameUnit w'.db.coordinator := by
  cases h with
  | aside hc => exact .of_eq hc.modes.openUnit
  | turn _ hturn hc =>
    exact (hturn.sameUnit hopens).trans (.of_eq hc.modes.openUnit)
  | flush _ _ _ h _ => exact .of_eq h.sameModes.openUnit
  | crash _ _ _ h => exact .of_eq h.sameModes.openUnit
  | settle _ _ hcloses _ _ hkeep _ _ hflush hend =>
    exact .of_none (sessions_of_settle hkeep hflush hend).1
  | recover _ _ _ hc => exact .of_eq hc.modes.openUnit
  | put | direct | poison | setPlan => exact .of_eq rfl

/-- A move that opens no session leaves the unit of work open that was
open, with the same sessions, or none. -/
theorem Steps.sameUnit (h : Steps move w w') (hopens : move.opens = false) :
    w.db.coordinator.SameUnit w'.db.coordinator := by
  induction h with
  | refl => exact .of_eq rfl
  | tail _ hstep ih => exact ih.trans (hstep.sameUnit hopens)

end

end World

end LayeredStore

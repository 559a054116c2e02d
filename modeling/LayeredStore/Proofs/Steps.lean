import LayeredStore.Proofs.Soundness
import Mathlib.Logic.Relation

/-!
# `LayeredStore.Proofs.Steps`: what operations do, step by step

Every operation is a sequence of a few kinds of steps, whatever it
answers and wherever a store stops it. So what is to be shown of every
operation is shown once per kind.

* `World.Quiet`: steps that no reader of the newest layers notices.
  Layers become pending, are moved into the roots (also halfway) or are
  committed, and settings change.
* `World.Act`: these, and the discard of the newest layer and the replay
  of a journal record. `World.Quiets` and `World.Acts` are any number of
  steps.
* `World.Puts`: an entry is written. `World.Writes` is a quiet path that
  can end with a write.
* `World.Pushes` and `World.Registers`: a new layer on every table, and
  a new table. `World.Opens` is a quiet path that can end with a push.
* `World.Exact`: what these leave open of a step. `World.Quietly`,
  `World.Actually`, `World.WritesExactly` and `World.OpensExactly` are the
  paths above with every step exact.

Each step carries the conditions under which the operations make it.
`Act.sound`, `Puts.sound`, `Pushes.sound` and `Registers.sound` say that
the coordinator stays sound, and `World.Keeps` is what else the steps do
not change.
-/

set_option autoImplicit false

namespace LayeredStore

/-- The layer that was discarded, if the notice says so. -/
def Notice.discarded? : Notice → Option Nat
  | .layerDiscarded _ seq _ => some seq
  | _ => none

namespace World

/-- The database has not halted, and no panic has poisoned its lock. -/
def Running (w : World) : Prop := w.db.poisoned = false ∧ w.db.coordinator.halted = false

/-- The journal holds no record. -/
def NoRecord (w : World) : Prop :=
  (w.disk.contents w.db.coordinator.journal).get? Journal.key = none

theorem NoRecord.congr {w w' : World} (h : w.NoRecord)
    (hjournal : w'.db.coordinator.journal = w.db.coordinator.journal)
    (hcontents : w'.disk.contents w.db.coordinator.journal =
      w.disk.contents w.db.coordinator.journal) : w'.NoRecord := by
  unfold NoRecord
  rw [hjournal, hcontents]
  exact h

/-- The layers discarded so far, in order. -/
def discarded (w : World) : List Nat := w.notices.filterMap (·.discarded?)

/-- A step that no reader of the newest layers notices. -/
inductive Quiet : World → World → Prop
  | say {w : World} {notice : Notice} (h : notice.discarded? = none) : Quiet w (w.say notice)
  | settings {w : World} {c : Coordinator} (h : w.db.coordinator.SameStacks c)
      (hhalted : c.halted = w.db.coordinator.halted) : Quiet w (w.withCoordinator c)
  | bus {w : World} (stopped : Bool) : Quiet w { w with db := { w.db with busStopped := stopped } }
  -- The layer of the open unit of work stays live.
  | solidify {w : World} {count : Nat}
      (hopen : w.db.coordinator.openSeq?.isSome → count < w.db.coordinator.depth) :
      Quiet w (w.withCoordinator (w.db.coordinator.solidify count))
  | commit {w : World} (hopen : w.db.coordinator.openSeq?.isSome) :
      Quiet w (w.withCoordinator w.db.coordinator.withoutUnit.sealHeads)
  -- A flush may end in any of its ways, for readers notice none of them. If
  -- it ends by a panic, the lock is poisoned before anyone reads.
  | flush {w w' : World} {n : Nat} {r : Except Fault Unit} (hrun : w.Running)
      (hn : n ≤ w.db.coordinator.levels.length)
      (hopen : w.db.coordinator.openSeq?.isSome → n < w.db.coordinator.levels.length)
      (h : FlushEnd w n r w') (hr : r ≠ .error .panic) : Quiet w w'
  | crash {w w' : World} {n : Nat} (hrun : w.Running) (hn : n ≤ w.db.coordinator.levels.length)
      (hopen : w.db.coordinator.openSeq?.isSome → n < w.db.coordinator.levels.length)
      (h : FlushEnd w n (.error .panic) w') : Quiet w w'.poison

/-- A step of any operation but those that open a session, register a
table or write to one. -/
inductive Act : World → World → Prop
  | quiet {w w' : World} (h : Quiet w w') : Act w w'
  | poison {w : World} : Act w w.poison
  -- What the roots hold after a replay is left open. Where a record is found,
  -- an earlier run was stopped, and nothing is said of what it left.
  | recover {w w' : World} (hrun : w.Running) (hrecord : ¬ w.NoRecord)
      (hcoordinator : w.db.coordinator.SameStacks w'.db.coordinator)
      (hdiscarded : w'.discarded = w.discarded) : Act w w'
  -- Of a halted database only the layer of the open unit of work is discarded.
  | discard {w : World} {seq : Nat} {c : Coordinator} (operation : String) (depth : Nat)
      (hpoisoned : w.db.poisoned = false)
      (hallowed : w.db.coordinator.halted = false ∨ w.db.coordinator.openSeq?.isSome)
      (hlive : w.db.coordinator.pending < w.db.coordinator.levels.length)
      (hseq : w.db.coordinator.levels.getLast? = some seq)
      (hc : w.db.coordinator.withoutUnit.discardHead.SameStacks c)
      (hhalted : c.halted = w.db.coordinator.halted) :
      Act w ((w.withCoordinator c).say (.layerDiscarded operation seq depth))

/-- Any number of quiet steps. -/
abbrev Quiets : World → World → Prop := Relation.ReflTransGen Quiet

/-- Any number of steps. -/
abbrev Acts : World → World → Prop := Relation.ReflTransGen Act

/-- The step leaves the stores alone, or it is a flush that is carried
out under the lock. So it replays no record, and a flush is stopped only
where a store stops it. -/
def Exact (w w' : World) : Prop :=
  w'.disk = w.disk ∨
    w.Running ∧ ∃ count, w' = ((Operation.locked (Operation.flushOldest count)).perform w).2

/-- Any number of quiet steps that are exact. -/
abbrev Quietly : World → World → Prop :=
  Relation.ReflTransGen fun w w' => Quiet w w' ∧ Exact w w'

/-- Any number of steps that are exact. -/
abbrev Actually : World → World → Prop :=
  Relation.ReflTransGen fun w w' => Act w w' ∧ Exact w w'

/-- An entry is written: to the newest layer of a table, or, where no
layer is left, to a root. -/
inductive Puts : World → World → Prop
  | put {w : World} (table : Nat) (key : Bytes) (entry : Entry) :
      Puts w (w.withCoordinator
        (w.db.coordinator.modifyTable table (·.modifyHead (·.put key entry))))
  | direct {w : World} {chain : Chain} (batch : Batch) (hrun : w.Running)
      (hmem : chain ∈ w.db.coordinator.tables) (hlevels : w.db.coordinator.levels = []) :
      Puts w (w.withDisk (w.disk.write chain.root batch).2)

/-- Writing to a table follows a quiet path, which can end with one
write. The store may stop the program. -/
def Writes (w w' : World) : Prop :=
  ∃ w₁ w₂, Quiets w w₁ ∧ (w₂ = w₁ ∨ Puts w₁ w₂) ∧ (w' = w₂ ∨ w' = w₂.poison)

/-- Writing to a table, where every step before the write is exact. -/
def WritesExactly (w w' : World) : Prop :=
  ∃ w₁ w₂, Quietly w w₁ ∧ (w₂ = w₁ ∨ Puts w₁ w₂) ∧ (w' = w₂ ∨ w' = w₂.poison)

theorem WritesExactly.of_quietly {w w' : World} (h : Quietly w w') : WritesExactly w w' :=
  ⟨w', w', h, .inl rfl, .inl rfl⟩

/-- A session of a new unit of work is opened, with a new layer on every
table. -/
structure Pushes (w w' : World) : Prop where
  running : w.Running
  closed : w.db.coordinator.openSeq? = none
  sameStacks : (w.db.coordinator.push.openNewUnit (some w.db.coordinator.nextSeq)).SameStacks
    w'.db.coordinator
  running_after : w'.Running
  disk : w'.disk = w.disk
  discarded : w'.discarded = w.discarded

/-- Opening a session follows a quiet path, which can end with a push. -/
def Opens (w w' : World) : Prop := ∃ w₁, Quiets w w₁ ∧ (w' = w₁ ∨ Pushes w₁ w')

/-- Opening a session, where every step before the push is exact. -/
def OpensExactly (w w' : World) : Prop := ∃ w₁, Quietly w w₁ ∧ (w' = w₁ ∨ Pushes w₁ w')

theorem OpensExactly.of_quietly {w w' : World} (h : Quietly w w') : OpensExactly w w' :=
  ⟨w', h, .inl rfl⟩

/-- A table of a new name is registered. -/
structure Registers (name root : String) (w w' : World) : Prop where
  running : w.Running
  fresh : name ∉ w.db.coordinator.tableNames
  sameStacks : { w.db.coordinator with tables := w.db.coordinator.tables ++
    [Chain.padded name root w.db.coordinator.levels w.db.coordinator.pending
      w.db.coordinator.openSeq?] }.SameStacks w'.db.coordinator
  running_after : w'.Running
  disk : w'.disk = w.disk
  discarded : w'.discarded = w.discarded

/-! ### The coordinator stays sound -/

section
variable {w w' : World}

theorem sound_of_flushEnd {n : Nat} {r : Except Fault Unit} (h : FlushEnd w n r w')
    (hsound : w.db.coordinator.Sound) (hn : n ≤ w.db.coordinator.levels.length)
    (hopen : w.db.coordinator.openSeq?.isSome → n < w.db.coordinator.levels.length) :
    w'.db.coordinator.Sound := by
  rcases h.sameStacks with hsame | hsame
  · exact hsound.congr hsame
  · exact (hsound.dropOldest hn hopen).congr hsame

theorem Quiet.sound (h : Quiet w w') (hsound : w.db.coordinator.Sound) :
    w'.db.coordinator.Sound := by
  cases h with
  | say => exact hsound
  | settings h _ => exact hsound.congr h
  | bus => exact hsound
  | solidify hopen => exact hsound.solidify hopen
  | commit hopen => exact hsound.sealHeads hopen
  | flush _ hn hopen h _ => exact sound_of_flushEnd h hsound hn hopen
  | @crash w' _ _ hn hopen h =>
    -- The coordinator of the poisoned world is that of `w'`.
    have h' : w'.db.coordinator.Sound := sound_of_flushEnd h hsound hn hopen
    exact h'

/-- Every step keeps the coordinator sound. -/
theorem Act.sound (h : Act w w') (hsound : w.db.coordinator.Sound) :
    w'.db.coordinator.Sound := by
  cases h with
  | quiet h => exact h.sound hsound
  | poison => exact hsound
  | recover _ _ hcoordinator _ => exact hsound.congr hcoordinator
  | discard _ _ _ _ hlive _ hc _ => exact (hsound.discardHead hlive).congr hc

theorem Quiets.sound (h : Quiets w w') (hsound : w.db.coordinator.Sound) :
    w'.db.coordinator.Sound := by
  induction h with
  | refl => exact hsound
  | tail _ hstep ih => exact hstep.sound ih

theorem Acts.sound (h : Acts w w') (hsound : w.db.coordinator.Sound) :
    w'.db.coordinator.Sound := by
  induction h with
  | refl => exact hsound
  | tail _ hstep ih => exact hstep.sound ih

theorem Puts.sound (h : Puts w w') (hsound : w.db.coordinator.Sound) :
    w'.db.coordinator.Sound := by
  cases h with
  | put table key entry => exact hsound.put table key entry
  | direct => exact hsound

theorem Writes.sound (h : Writes w w') (hsound : w.db.coordinator.Sound) :
    w'.db.coordinator.Sound := by
  obtain ⟨w₁, w₂, hpath, hput, hend⟩ := h
  have hsound₁ := hpath.sound hsound
  have hsound₂ : w₂.db.coordinator.Sound := by
    rcases hput with rfl | hput
    · exact hsound₁
    · exact hput.sound hsound₁
  rcases hend with rfl | rfl <;> exact hsound₂

theorem Pushes.sound (h : Pushes w w') (hsound : w.db.coordinator.Sound) :
    w'.db.coordinator.Sound :=
  (hsound.push h.closed).congr h.sameStacks

theorem Registers.sound {name root : String} (h : Registers name root w w')
    (hsound : w.db.coordinator.Sound) : w'.db.coordinator.Sound :=
  (hsound.register h.fresh root).congr h.sameStacks

/-! ### What no step changes -/

/-- What the steps of an operation leave as it was: the stores, the
tables and the number of the next layer. No level is new, and a database
that has stopped stays stopped. -/
structure Keeps (w w' : World) : Prop where
  registered : w'.db.coordinator.registered = w.db.coordinator.registered
  journal : w'.db.coordinator.journal = w.db.coordinator.journal
  nextSeq : w'.db.coordinator.nextSeq = w.db.coordinator.nextSeq
  levels : w'.db.coordinator.levels ⊆ w.db.coordinator.levels
  poisoned : w.db.poisoned = true → w'.db.poisoned = true
  halted : w.db.coordinator.halted = true → w'.db.coordinator.halted = true

theorem Keeps.refl (w : World) : w.Keeps w := ⟨rfl, rfl, rfl, fun _ h => h, id, id⟩

theorem Keeps.poisoned_eq_false (h : w.Keeps w') (hpoisoned : w'.db.poisoned = false) :
    w.db.poisoned = false := by
  cases hw : w.db.poisoned with
  | false => rfl
  | true =>
    rw [h.poisoned hw] at hpoisoned
    cases hpoisoned

theorem Keeps.halted_eq_false (h : w.Keeps w') (hhalted : w'.db.coordinator.halted = false) :
    w.db.coordinator.halted = false := by
  cases hw : w.db.coordinator.halted with
  | false => rfl
  | true =>
    rw [h.halted hw] at hhalted
    cases hhalted

/-- A database that runs has run all along. -/
theorem Keeps.running (h : w.Keeps w') (hrun : w'.Running) : w.Running :=
  ⟨h.poisoned_eq_false hrun.1, h.halted_eq_false hrun.2⟩

theorem Keeps.trans {w'' : World} (h : w.Keeps w') (h' : w'.Keeps w'') : w.Keeps w'' where
  registered := h'.registered.trans h.registered
  journal := h'.journal.trans h.journal
  nextSeq := h'.nextSeq.trans h.nextSeq
  levels := List.Subset.trans h'.levels h.levels
  poisoned hp := h'.poisoned (h.poisoned hp)
  halted hh := h'.halted (h.halted hh)

/-- The stores stay distinct. -/
theorem Keeps.distinctStores (h : w.Keeps w') (hstores : w.db.coordinator.DistinctStores) :
    w'.db.coordinator.DistinctStores := by
  rw [Coordinator.distinctStores_iff, h.registered, h.journal]
  exact (Coordinator.distinctStores_iff _).mp hstores

/-- The same stacks in a database that had not stopped. -/
theorem Keeps.of_running (h : w.db.coordinator.SameStacks w'.db.coordinator) (hrun : w.Running) :
    w.Keeps w' where
  registered := h.registered
  journal := h.journal
  nextSeq := h.nextSeq
  levels := by rw [h.levels]; exact fun _ h => h
  poisoned hp := by rw [hrun.1] at hp; cases hp
  halted hh := by rw [hrun.2] at hh; cases hh

theorem keeps_of_flushEnd {n : Nat} {r : Except Fault Unit} (h : FlushEnd w n r w')
    (hrun : w.Running) : w.Keeps w' := by
  rcases h.sameStacks with hsame | hsame
  · exact .of_running hsame hrun
  · exact
      { registered := hsame.registered.trans
          (Coordinator.registered_mapTables _ fun _ => ⟨rfl, rfl⟩)
        journal := hsame.journal
        nextSeq := hsame.nextSeq
        levels := by rw [hsame.levels]; exact List.drop_subset _ _
        poisoned := fun hp => by rw [hrun.1] at hp; cases hp
        halted := fun hh => by rw [hrun.2] at hh; cases hh }

theorem Quiet.keeps (h : Quiet w w') : w.Keeps w' := by
  cases h with
  | say | bus => exact ⟨rfl, rfl, rfl, fun _ h => h, id, id⟩
  | settings h hhalted =>
    exact
      { registered := h.registered
        journal := h.journal
        nextSeq := h.nextSeq
        levels := by
          intro seq hmem
          rw [← h.levels]
          exact hmem
        poisoned := id
        halted := hhalted.trans }
  | solidify => exact ⟨Coordinator.registered_mapTables _ fun _ => ⟨rfl, rfl⟩, rfl, rfl,
      fun _ h => h, id, id⟩
  | commit => exact ⟨Coordinator.registered_mapTables _ (Coordinator.name_root_modifyHead _), rfl,
      rfl, fun _ h => h, id, id⟩
  | flush hrun _ _ h _ => exact keeps_of_flushEnd h hrun
  | crash hrun _ _ h =>
    have hkeeps := keeps_of_flushEnd h hrun
    exact { hkeeps with poisoned := fun _ => rfl }

theorem Act.keeps (h : Act w w') : w.Keeps w' := by
  cases h with
  | quiet h => exact h.keeps
  | poison => exact { Keeps.refl w with poisoned := fun _ => rfl }
  | recover hrun _ hcoordinator _ => exact .of_running hcoordinator hrun
  | @discard _ c _ _ hpoisoned _ _ _ hc hhalted =>
    exact
      { registered := hc.registered.trans
          (Coordinator.registered_mapTables _ Coordinator.name_root_discardHead)
        journal := hc.journal
        nextSeq := hc.nextSeq
        levels := fun seq hmem => by
          have hmem' : seq ∈ c.levels := hmem
          rw [hc.levels] at hmem'
          exact List.dropLast_subset _ hmem'
        poisoned := fun hp => by rw [hpoisoned] at hp; cases hp
        halted := hhalted.trans }

theorem Quiets.keeps (h : Quiets w w') : w.Keeps w' := by
  induction h with
  | refl => exact .refl _
  | tail _ hstep ih => exact ih.trans hstep.keeps

theorem Acts.keeps (h : Acts w w') : w.Keeps w' := by
  induction h with
  | refl => exact .refl _
  | tail _ hstep ih => exact ih.trans hstep.keeps

theorem Puts.keeps (h : Puts w w') : w.Keeps w' := by
  cases h with
  | put table => exact ⟨Coordinator.registered_modifyTable _ table
      (Coordinator.name_root_modifyHead _), rfl, rfl, fun _ h => h, id, id⟩
  | direct => exact ⟨rfl, rfl, rfl, fun _ h => h, id, id⟩

theorem Writes.keeps (h : Writes w w') : w.Keeps w' := by
  obtain ⟨w₁, w₂, hpath, hput, hend⟩ := h
  have hkeeps : w₁.Keeps w₂ := by
    rcases hput with rfl | hput
    · exact .refl _
    · exact hput.keeps
  have hkeeps' := hpath.keeps.trans hkeeps
  rcases hend with rfl | rfl
  · exact hkeeps'
  · exact { hkeeps' with poisoned := fun _ => rfl }

/-- Opening a session leaves the stores and the tables alone. -/
theorem Opens.registered (h : Opens w w') :
    w'.db.coordinator.registered = w.db.coordinator.registered ∧
      w'.db.coordinator.journal = w.db.coordinator.journal := by
  obtain ⟨w₁, hpath, rfl | hpush⟩ := h
  · exact ⟨hpath.keeps.registered, hpath.keeps.journal⟩
  · have hregistered := hpush.sameStacks.registered.trans
      (Coordinator.registered_mapTables w₁.db.coordinator fun _ => ⟨rfl, rfl⟩)
    exact ⟨hregistered.trans hpath.keeps.registered,
      hpush.sameStacks.journal.trans hpath.keeps.journal⟩

/-- A registration adds the table. -/
theorem Registers.registered {name root : String} (h : Registers name root w w') :
    w'.db.coordinator.registered = w.db.coordinator.registered ++ [(name, root)] := by
  rw [Coordinator.registered, h.sameStacks.tables]
  exact List.map_append

theorem discarded_say (w : World) {notice : Notice} (h : notice.discarded? = none) :
    (w.say notice).discarded = w.discarded := by
  simp [discarded, say, List.filterMap_append, h]

theorem Puts.discarded (h : Puts w w') : w'.discarded = w.discarded := by
  cases h <;> rfl

/-- A flush discards nothing. -/
theorem discarded_of_flushEnd {n : Nat} {r : Except Fault Unit} (h : FlushEnd w n r w') :
    w'.discarded = w.discarded := by
  cases h with
  | nothing | crashed | unclearedCrashed => rfl
  | unfit | halted | unclearedHalted | finished => exact discarded_say _ rfl

/-- Quiet steps discard nothing. -/
theorem Quiet.discarded (h : Quiet w w') : w'.discarded = w.discarded := by
  cases h with
  | say h => exact discarded_say _ h
  | settings | bus | solidify | commit => rfl
  | flush _ _ _ h _ => exact discarded_of_flushEnd h
  | @crash w' _ _ _ _ h =>
    have h' : w'.discarded = w.discarded := discarded_of_flushEnd h
    exact h'

theorem Quiets.discarded (h : Quiets w w') : w'.discarded = w.discarded := by
  induction h with
  | refl => rfl
  | tail _ hstep ih => exact hstep.discarded.trans ih

theorem Writes.discarded (h : Writes w w') : w'.discarded = w.discarded := by
  obtain ⟨w₁, w₂, hpath, hput, hend⟩ := h
  have hput' : w₂.discarded = w₁.discarded := by
    rcases hput with rfl | hput
    · rfl
    · exact hput.discarded
  have hdiscarded := hput'.trans hpath.discarded
  rcases hend with rfl | rfl <;> exact hdiscarded

theorem Opens.discarded (h : Opens w w') : w'.discarded = w.discarded := by
  obtain ⟨w₁, hpath, rfl | hpush⟩ := h
  · exact hpath.discarded
  · exact hpush.discarded.trans hpath.discarded

/-- What was discarded stays so. -/
theorem Act.discarded_grows (h : Act w w') : w.discarded <+: w'.discarded := by
  cases h with
  | quiet h => exact h.discarded ▸ List.prefix_refl _
  | poison => exact List.prefix_refl _
  | recover _ _ _ hdiscarded => exact hdiscarded ▸ List.prefix_refl _
  | @discard seq _ _ _ =>
    refine ⟨[seq], ?_⟩
    simp [discarded, say, withCoordinator, List.filterMap_append, Notice.discarded?]

theorem Acts.discarded_grows (h : Acts w w') : w.discarded <+: w'.discarded := by
  induction h with
  | refl => exact List.prefix_refl _
  | tail _ hstep ih => exact ih.trans hstep.discarded_grows

/-- On a quiet path no unit of work is opened. -/
theorem Quiets.closed (h : Quiets w w') (hclosed : w.db.coordinator.openSeq? = none) :
    w'.db.coordinator.openSeq? = none := by
  -- Taking the oldest layers away does not touch the unit of work.
  have hflush : ∀ {w w' : World} {n : Nat} {r : Except Fault Unit}, FlushEnd w n r w' →
      w.db.coordinator.openSeq? = none → w'.db.coordinator.openSeq? = none := by
    intro w w' n r h hclosed
    rcases h.sameStacks with hsame | hsame
    · rw [hsame.openSeq?, hclosed]
    · rw [hsame.openSeq?]
      exact hclosed
  induction h with
  | refl => exact hclosed
  | tail _ hstep ih =>
    cases hstep with
    | say | bus | solidify => exact ih
    | settings hsame => exact hsame.openSeq?.trans ih
    | commit => rfl
    | flush _ _ _ h _ => exact hflush h ih
    | @crash w' _ _ _ _ h =>
      have h' : w'.db.coordinator.openSeq? = none := hflush h ih
      exact h'

end

/-! ### Exact paths -/

section
variable {w w' : World}

theorem Quietly.quiets (h : Quietly w w') : w.Quiets w' :=
  Relation.ReflTransGen.mono (fun _ _ => And.left) _ _ h

theorem Actually.acts (h : Actually w w') : w.Acts w' :=
  Relation.ReflTransGen.mono (fun _ _ => And.left) _ _ h

theorem Quietly.actually (h : Quietly w w') : w.Actually w' :=
  Relation.ReflTransGen.mono (fun _ _ hstep => ⟨.quiet hstep.1, hstep.2⟩) _ _ h

theorem WritesExactly.writes (h : WritesExactly w w') : w.Writes w' := by
  obtain ⟨w₁, w₂, hpath, hend⟩ := h
  exact ⟨w₁, w₂, hpath.quiets, hend⟩

theorem OpensExactly.opens (h : OpensExactly w w') : w.Opens w' := by
  obtain ⟨w₁, hpath, hend⟩ := h
  exact ⟨w₁, hpath.quiets, hend⟩

theorem Quietly.sound (h : Quietly w w') (hsound : w.db.coordinator.Sound) :
    w'.db.coordinator.Sound := h.quiets.sound hsound

theorem Actually.sound (h : Actually w w') (hsound : w.db.coordinator.Sound) :
    w'.db.coordinator.Sound := h.acts.sound hsound

theorem Quietly.keeps (h : Quietly w w') : w.Keeps w' := h.quiets.keeps

theorem Actually.keeps (h : Actually w w') : w.Keeps w' := h.acts.keeps

theorem Quietly.closed (h : Quietly w w') (hclosed : w.db.coordinator.openSeq? = none) :
    w'.db.coordinator.openSeq? = none := h.quiets.closed hclosed

end

end World

end LayeredStore

import LayeredStore.Proofs.Outcome

/-!
# `LayeredStore.Proofs.Pushing`: the loop that pushes a layer on every table

`Coordinator.pushTables` goes through the tables one by one. What it does
to them all is said here without the loop, by the first table that is out
of step.

* `Coordinator.outOfStep?` is that table. `pushTables_eq` says what the
  loop answers, by induction on the tables still to come.
* `Coordinator.push` is what the loop leaves if there is no such table, and
  `Coordinator.putBack` if there is one.
* `ends_pushLevel_cases` is the rule by which callers carry `pushLevel` out.
* `putBack_eq`: a table that was pushed and put back is as it was before,
  unless more layers are pending than it has.
-/

set_option autoImplicit false

namespace LayeredStore

namespace Chain

variable (chain : Chain) (seq : Nat)

@[simp] theorem name_push : (chain.push seq).name = chain.name := rfl

@[simp] theorem root_push : (chain.push seq).root = chain.root := rfl

@[simp] theorem pending_push : (chain.push seq).pending = chain.pending := rfl

@[simp] theorem layers_push : (chain.push seq).layers = chain.layers ++ [Layer.new seq] := rfl

@[simp] theorem name_discardHead : chain.discardHead.name = chain.name := by
  unfold discardHead
  split <;> rfl

@[simp] theorem root_discardHead : chain.discardHead.root = chain.root := by
  unfold discardHead
  split <;> rfl

/-- The new layer is live, and so it can be given back, unless the table
counts more layers as pending than it has. -/
theorem discardHead_push :
    (chain.push seq).discardHead =
      if chain.pending ≤ chain.layers.length then chain else chain.push seq := by
  have hdepth : (chain.push seq).depth = chain.layers.length + 1 - chain.pending := by
    simp [depth]
  unfold discardHead
  rw [hdepth]
  by_cases hle : chain.pending ≤ chain.layers.length
  · have hlive : ¬ chain.layers.length + 1 - chain.pending = 0 := by omega
    simp [hle, hlive]
  · have hdead : chain.layers.length + 1 - chain.pending = 0 := by omega
    simp [hle, hdead]

end Chain

namespace Coordinator

/-- The first table that does not have as many layers as there are
levels. -/
def outOfStep? (c : Coordinator) : Option Chain :=
  c.tables.find? (·.layers.length ≠ c.levels.length)

/-- Puts an empty layer on every table. -/
def push (c : Coordinator) : Coordinator :=
  { c.mapTables (·.push c.nextSeq) with
    levels := c.levels ++ [c.nextSeq]
    nextSeq := c.nextSeq + 1 }

/-- Puts an empty layer on the tables before the first that is out of
step, and takes it back. -/
def putBack (c : Coordinator) : Coordinator :=
  { c with
    tables :=
      (c.tables.takeWhile (·.layers.length = c.levels.length)).map
        (fun chain => (chain.push c.nextSeq).discardHead) ++
      c.tables.dropWhile (·.layers.length = c.levels.length) }

variable (c : Coordinator)

/-- What the loop answers after it pushed on the tables in `pushed`. -/
theorem pushTables_eq (pushed rest : List Chain) :
    c.pushTables pushed rest =
      match rest.find? (·.layers.length ≠ c.levels.length) with
      | none => .ok (pushed ++ rest.map (·.push c.nextSeq))
      | some chain => .error (chain, pushed.map (·.discardHead) ++
          ((rest.takeWhile (·.layers.length = c.levels.length)).map
            (fun chain => (chain.push c.nextSeq).discardHead) ++
          rest.dropWhile (·.layers.length = c.levels.length))) := by
  induction rest generalizing pushed with
  | nil => simp [pushTables]
  | cons chain rest ih =>
    unfold pushTables
    by_cases hstep : chain.layers.length = c.levels.length
    · -- The table advances, and is put back if one behind it is out of step.
      rw [if_neg (not_not_intro hstep), ih, List.find?_cons_of_neg (by simp [hstep])]
      cases rest.find? (·.layers.length ≠ c.levels.length) with
      | none => simp
      | some found => simp [hstep]
    · simp [hstep]

theorem pushTables_of_none (h : c.outOfStep? = none) :
    c.pushTables [] c.tables = .ok (c.tables.map (·.push c.nextSeq)) := by
  unfold outOfStep? at h
  rw [pushTables_eq, h]
  rfl

theorem pushTables_of_some {chain : Chain} (h : c.outOfStep? = some chain) :
    c.pushTables [] c.tables = .error (chain, c.putBack.tables) := by
  unfold outOfStep? at h
  rw [pushTables_eq, h]
  rfl

/-- If no table counts more layers as pending than it has, then all that
were pushed on are as they were. -/
theorem putBack_eq (h : ∀ chain ∈ c.tables, chain.pending ≤ chain.layers.length) :
    c.putBack = c := by
  have hbefore : (c.tables.takeWhile (·.layers.length = c.levels.length)).map
      (fun chain => (chain.push c.nextSeq).discardHead) =
      c.tables.takeWhile (·.layers.length = c.levels.length) := by
    refine (List.map_congr_left fun chain hmem => ?_).trans (List.map_id _)
    have hle := h chain ((List.takeWhile_prefix _).subset hmem)
    rw [Chain.discardHead_push, if_pos hle]
    rfl
  unfold putBack
  rw [hbefore, List.takeWhile_append_dropWhile]

end Coordinator

namespace Operation

/-- How pushing a layer ends. -/
theorem ends_pushLevel_cases (w : World) (Q : Except Fault Nat → World → Prop) :
    pushLevel.Ends w Q ↔ match w.db.coordinator.outOfStep? with
      | some chain => Q (.error (.error (.illegalState (w.db.coordinator.depthMismatch chain))))
          (w.withCoordinator w.db.coordinator.putBack)
      | none =>
        let c := w.db.coordinator.push.bump
        Q (.ok w.db.coordinator.nextSeq)
          (((w.withCoordinator c).say
            (.layerPushed w.db.coordinator.nextSeq c.depth)).withCoordinator
              (c.announce (.pushLayer w.db.coordinator.nextSeq c.depth))) := by
  unfold pushLevel
  rw [ends_bind, ends_getCoordinator]
  cases hstep : w.db.coordinator.outOfStep? with
  | none =>
    simp only [Coordinator.pushTables_of_none _ hstep, ends_bind, ends_update,
      ends_getCoordinator, ends_note, ends_publish, ends_pure]
    exact Iff.rfl
  | some chain =>
    simp only [Coordinator.pushTables_of_some _ hstep, ends_bind, ends_update, ends_refuse]
    exact Iff.rfl

end Operation

end LayeredStore

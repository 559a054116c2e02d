import LayeredStore.Proofs.Pushing
import LayeredStore.Proofs.Transitions

/-!
# `LayeredStore.Proofs.PutBack`: a push that fails is undone

A session can find a table that is not in step with the others. The tables
before it have their new layer by then, and it is taken back. Nothing is
asked here of the tables but that none of them counts more layers as
pending than it has, and so this holds whatever way they are out of step.

* `Chain.Formed` says that of one table, and every change to a chain keeps
  it.
* `Operation.Spares` is said of an operation that leaves modes, the open
  unit of work and the pushes published so far alone, keeps tables formed,
  and does not itself report a table out of step. Making room for a layer
  is one (`spares_makeRoom`), by one lemma for each operation it is made of.
* `World.Restored` says what a session leaves behind that found a table out
  of step, and `openSession_restored` that it does.
-/

set_option autoImplicit false

namespace LayeredStore

/-! ### Tables -/

namespace Chain

/-- No more layers are pending than there are. -/
def Formed (chain : Chain) : Prop := chain.pending ≤ chain.layers.length

instance (chain : Chain) : Decidable chain.Formed :=
  inferInstanceAs (Decidable (chain.pending ≤ chain.layers.length))

section
variable {chain : Chain}

theorem Formed.push (h : chain.Formed) (seq : Nat) : (chain.push seq).Formed := by
  simp only [Formed, pending_push, layers_push, List.length_append] at h ⊢
  omega

theorem Formed.discardHead (h : chain.Formed) : chain.discardHead.Formed := by
  unfold Chain.discardHead
  split
  · exact h
  · rename_i hlive
    simp only [Formed, depth, List.length_dropLast] at h hlive ⊢
    omega

theorem Formed.modifyHead (h : chain.Formed) (f : Layer → Layer) : (chain.modifyHead f).Formed := by
  unfold Chain.modifyHead
  split
  · exact h
  · simpa [Formed, modifyLayer] using h

theorem formed_solidify (count : Nat) : (chain.solidify count).Formed := Nat.min_le_right _ _

theorem Formed.dropOldest (h : chain.Formed) (count : Nat) : (chain.dropOldest count).Formed := by
  simp only [Formed, Chain.dropOldest, List.length_drop] at h ⊢
  omega

end

end Chain

namespace Coordinator

/-- No table counts more layers as pending than it has. -/
def TablesFormed (c : Coordinator) : Prop := ∀ chain ∈ c.tables, chain.Formed

instance (c : Coordinator) : Decidable c.TablesFormed :=
  inferInstanceAs (Decidable (∀ chain ∈ c.tables, chain.Formed))

/-- The pushes published so far, oldest first. -/
def pushes (c : Coordinator) : List Event := c.published.filter (·.kind = .pushLayer)

section
variable {c : Coordinator}

theorem pushes_announce {event : Event} (h : event.kind ≠ .pushLayer) :
    (c.announce event).pushes = c.pushes := by
  unfold announce pushes
  split
  · simp [h]
  · rfl

theorem TablesFormed.mapTables {f : Chain → Chain} (h : ∀ chain ∈ c.tables, (f chain).Formed) :
    (c.mapTables f).TablesFormed := by
  intro chain hmem
  obtain ⟨old, hold, rfl⟩ := List.mem_map.mp hmem
  exact h old hold

theorem TablesFormed.putBack_eq (h : c.TablesFormed) : c.putBack = c := Coordinator.putBack_eq c h

end

/-- What making room for a layer leaves alone. -/
structure Spared (c c' : Coordinator) : Prop where
  enabled : c'.enabled = c.enabled
  disableOnExit : c'.disableOnExit = c.disableOnExit
  openUnit : c'.openUnit = c.openUnit
  pushes : c'.pushes = c.pushes
  formed : c.TablesFormed → c'.TablesFormed

theorem Spared.refl (c : Coordinator) : c.Spared c := ⟨rfl, rfl, rfl, rfl, id⟩

theorem Spared.trans {c c' c'' : Coordinator} (h : c.Spared c') (h' : c'.Spared c'') :
    c.Spared c'' where
  enabled := h'.enabled.trans h.enabled
  disableOnExit := h'.disableOnExit.trans h.disableOnExit
  openUnit := h'.openUnit.trans h.openUnit
  pushes := h'.pushes.trans h.pushes
  formed hformed := h'.formed (h.formed hformed)

theorem spared_clampCursor (c : Coordinator) : c.Spared c.clampCursor := by
  unfold clampCursor
  split
  · exact ⟨rfl, rfl, rfl, rfl, id⟩
  · exact .refl c

theorem spared_announce (c : Coordinator) {event : Event} (h : event.kind ≠ .pushLayer) :
    c.Spared (c.announce event) where
  enabled := (sameModes_announce c event).enabled
  disableOnExit := (sameModes_announce c event).disableOnExit
  openUnit := (sameModes_announce c event).openUnit
  pushes := pushes_announce h
  formed hformed := by
    unfold announce
    split <;> exact hformed

end Coordinator

/-! ### Making room -/

namespace Operation

open Coordinator (Spared TablesFormed spared_clampCursor)

variable {α β ι : Type}

/-- The operation reports a table that is not at the depth of the others. -/
def Misaligned (r : Except Fault α) : Prop :=
  ∃ table expected found,
    r = .error (.error (.illegalState (.depthMismatch table expected found)))

/-- The operation leaves alone what making room for a layer leaves alone,
and reports no table out of step. -/
def Spares (body : Operation α) : Prop :=
  ∀ w, body.Ends w fun r w' => w.db.coordinator.Spared w'.db.coordinator ∧ ¬ Misaligned r

theorem not_misaligned_ok (a : α) : ¬ Misaligned (.ok a : Except Fault α) := by
  rintro ⟨table, expected, found, h⟩
  cases h

theorem not_misaligned_panic : ¬ Misaligned (.error .panic : Except Fault α) := by
  rintro ⟨table, expected, found, h⟩
  cases h

theorem Misaligned.error {fault : Fault} (h : Misaligned (.error fault : Except Fault α)) :
    Misaligned (.error fault : Except Fault β) := by
  obtain ⟨table, expected, found, hfault⟩ := h
  cases hfault
  exact ⟨table, expected, found, rfl⟩

theorem spares_pure (a : α) : Spares (pure a) := fun _ => ⟨.refl _, not_misaligned_ok a⟩

theorem spares_getCoordinator : Spares getCoordinator := fun w =>
  ⟨.refl _, not_misaligned_ok w.db.coordinator⟩

theorem spares_note (notice : Notice) : Spares (note notice) := fun _ =>
  ⟨.refl _, not_misaligned_ok ()⟩

theorem spares_update {f : Coordinator → Coordinator} (h : ∀ c, Spared c (f c)) :
    Spares (update f) := fun w => ⟨h w.db.coordinator, not_misaligned_ok ()⟩

theorem spares_publish {event : Event} (h : event.kind ≠ .pushLayer) : Spares (publish event) :=
  fun w => ⟨w.db.coordinator.spared_announce h, not_misaligned_ok ()⟩

/-- An error of any other kind. -/
theorem spares_fail {error : Error}
    (h : ∀ table expected found, error ≠ .illegalState (.depthMismatch table expected found)) :
    Spares (fail error : Operation α) := by
  refine fun w => ⟨.refl _, ?_⟩
  rintro ⟨table, expected, found, herror⟩
  cases herror
  exact h table expected found rfl

theorem spares_write (store : String) (batch : Batch) : Spares (write store batch) := by
  intro w
  rw [ends_write]
  split
  · exact ⟨.refl _, not_misaligned_ok none⟩
  · rename_i error _
    exact ⟨.refl _, not_misaligned_ok (some error)⟩
  · refine ⟨.refl _, ?_⟩
    rintro ⟨table, expected, found, h⟩
    cases h

theorem Spares.bind {body : Operation α} {next : α → Operation β} (h : Spares body)
    (hnext : ∀ a, Spares (next a)) : Spares (body >>= next) := by
  intro w
  rw [ends_bind]
  refine (h w).mono fun r w' hend => ?_
  cases r with
  | ok a => exact (hnext a w').mono fun _ _ hlast => ⟨hend.1.trans hlast.1, hlast.2⟩
  | error fault =>
    exact ⟨hend.1, fun hmisaligned => hend.2 hmisaligned.error⟩

theorem Spares.ite {p : Prop} [Decidable p] {body other : Operation α} (h : Spares body)
    (hother : Spares other) : Spares (if p then body else other) := by
  split
  · exact h
  · exact hother

theorem spares_forM {body : ι → Operation Unit} (h : ∀ item, Spares (body item))
    (items : List ι) : Spares (items.forM body) := by
  induction items with
  | nil => exact spares_pure ()
  | cons item items ih => exact (h item).bind fun _ => ih

theorem spares_flushWrite (table : String) {write : Operation (Option IoError)}
    (h : Spares write) : Spares (flushWrite table write) := by
  refine h.bind fun result => ?_
  cases result with
  | none => exact spares_pure ()
  | some source =>
    refine (spares_note _).bind fun _ => ?_
    have hhalt : ∀ c : Coordinator, Spared c { c with halted := true } :=
      fun _ => ⟨rfl, rfl, rfl, rfl, id⟩
    exact (spares_update hhalt).bind fun _ => spares_fail (by simp)

theorem spares_applyTable (table : String × Batch) : Spares (applyTable table) := by
  refine spares_getCoordinator.bind fun c => ?_
  split
  · exact spares_fail (by simp)
  · exact spares_flushWrite _ (Spares.ite (spares_pure _) (spares_write _ _))

/-- A flush takes the oldest layers of every table away, and publishes that
it was made. -/
theorem spares_flushOldest (count : Nat) : Spares (flushOldest count) := by
  have hdrop : ∀ (count : Nat) (c : Coordinator), Spared c (c.dropOldest count).clampCursor := by
    intro count c
    have hformed : c.TablesFormed → (c.dropOldest count).TablesFormed := fun h =>
      TablesFormed.mapTables fun chain hmem => (h chain hmem).dropOldest count
    have hdropped : Spared c (c.dropOldest count) := ⟨rfl, rfl, rfl, rfl, hformed⟩
    exact hdropped.trans (spared_clampCursor _)
  have hbump : ∀ c : Coordinator, Spared c c.bump := fun _ => ⟨rfl, rfl, rfl, rfl, id⟩
  refine spares_getCoordinator.bind fun c => Spares.ite (spares_pure ()) ?_
  refine (spares_flushWrite _ (Spares.ite (spares_write _ _) (spares_pure _))).bind fun _ => ?_
  refine (spares_forM spares_applyTable _).bind fun _ => ?_
  refine (spares_update (hdrop _)).bind fun _ => ?_
  refine (spares_flushWrite _ (spares_write _ _)).bind fun _ => ?_
  refine (spares_update hbump).bind fun _ => spares_getCoordinator.bind fun _ => ?_
  exact (spares_note _).bind fun _ => spares_publish nofun

theorem spares_makeRoom : Spares makeRoom := by
  have hsolidify : ∀ (count : Nat) (c : Coordinator),
      Spared c (c.solidify count).bump.clampCursor := by
    intro count c
    have hformed : (c.solidify count).bump.TablesFormed :=
      TablesFormed.mapTables (c := c) fun chain _ => chain.formed_solidify count
    have hpending : Spared c (c.solidify count).bump := ⟨rfl, rfl, rfl, rfl, fun _ => hformed⟩
    exact hpending.trans (spared_clampCursor _)
  refine spares_getCoordinator.bind fun c => Spares.ite ?_ (spares_pure ())
  refine (spares_update (hsolidify _)).bind fun _ => spares_getCoordinator.bind fun _ => ?_
  exact (spares_note _).bind fun _ => Spares.ite (spares_flushOldest _) (spares_pure ())

end Operation

/-! ### Opening a session -/

namespace World

/-- What a session leaves behind in `w'` that found a table out of step.
In `w₁`, there was room for its layer and the pushes began. -/
structure Restored (w w₁ w' : World) : Prop where
  tables : w'.db.coordinator.tables = w₁.db.coordinator.tables
  levels : w'.db.coordinator.levels = w₁.db.coordinator.levels
  nextSeq : w'.db.coordinator.nextSeq = w₁.db.coordinator.nextSeq
  enabled : w'.db.coordinator.enabled = w.db.coordinator.enabled
  /-- Where the database is disabled, it is not to be disabled on exit. -/
  disableOnExit : w'.db.coordinator.disableOnExit =
    (w.db.coordinator.enabled && w.db.coordinator.disableOnExit)
  noUnit : w.db.coordinator.openUnit = none ∧ w'.db.coordinator.openUnit = none
  pushes : w'.db.coordinator.pushes = w.db.coordinator.pushes
  /-- Where there was room for a layer, nothing else has changed. -/
  untouched : w.db.coordinator.depth < w.db.coordinator.maxSize →
    w' = w.withCoordinator { w.db.coordinator with
      disableOnExit := w.db.coordinator.enabled && w.db.coordinator.disableOnExit }

/-- Two tables, of which the second has a layer more than there are
levels. -/
def outOfLine (enabled disableOnExit : Bool) : World :=
  let opened := World.opened .empty { enabled := enabled } "cp" []
  opened.withCoordinator { opened.db.coordinator with
    tables := [⟨"a", "a", [], 0⟩, ⟨"b", "b", [Layer.new 9], 0⟩]
    disableOnExit := disableOnExit }

end World

namespace Operation

open World Coordinator

variable {w : World}

/-- The pushes on formed tables end with all tables as they were, if one of
them is out of step. -/
theorem pushLevel_misaligned (h : w.db.coordinator.TablesFormed) :
    pushLevel.Ends w fun r w' => Misaligned r → w' = w ∧
      ∃ chain, w.db.coordinator.outOfStep? = some chain ∧
        r = .error (.error (.illegalState (w.db.coordinator.depthMismatch chain))) := by
  rw [ends_pushLevel_cases]
  cases hstep : w.db.coordinator.outOfStep? with
  | none => exact fun hmisaligned => absurd hmisaligned (not_misaligned_ok _)
  | some chain =>
    intro _
    rw [h.putBack_eq]
    exact ⟨rfl, chain, rfl, rfl⟩

/-- Making room changes nothing as long as there is room. -/
theorem perform_makeRoom_of_lt (h : w.db.coordinator.depth < w.db.coordinator.maxSize) :
    makeRoom.perform w = (.ok (), w) := by
  have hroom : makeRoom.Ends w fun r w' => (r, w') = (.ok (), w) := by
    apply makeRoom_rule
    case roomy => exact fun _ => rfl
    case full => exact fun hfull => absurd hfull (Nat.not_le_of_lt h)
  exact hroom

/-- Room is made first, and then the pushes find a table out of step. -/
theorem advance_misaligned (h : w.db.coordinator.TablesFormed) :
    advance.Ends w fun r w' => Misaligned r →
      makeRoom.perform w = (.ok (), w') ∧ w.db.coordinator.Spared w'.db.coordinator ∧
      ∃ chain, w'.db.coordinator.outOfStep? = some chain ∧
        r = .error (.error (.illegalState (w'.db.coordinator.depthMismatch chain))) := by
  rw [ends_advance]
  have hroom : makeRoom.Ends w fun r w₁ => (r, w₁) = makeRoom.perform w := rfl
  refine ((spares_makeRoom w).and hroom).mono fun r w₁ ⟨⟨hspared, hother⟩, hperform⟩ => ?_
  cases r with
  | error fault => exact fun hmisaligned => absurd hmisaligned.error hother
  | ok u =>
    refine (pushLevel_misaligned (hspared.formed h)).mono fun r w' hend hmisaligned => ?_
    obtain ⟨rfl, hstep⟩ := hend hmisaligned
    exact ⟨hperform.symm, hspared, hstep⟩

/-- The modes that forcing the session changed are taken back at the end. -/
theorem restored_of_spared {w₁ : World} (hunit : w.db.coordinator.openUnit = none)
    (hroom : makeRoom.perform (w.withCoordinator w.db.coordinator.force) = (.ok (), w₁))
    (hspared : w.db.coordinator.force.Spared w₁.db.coordinator) :
    w.Restored w₁ (w₁.withCoordinator
      (if w.db.coordinator.enabled then w₁.db.coordinator else w₁.db.coordinator.unforce)) := by
  have hunit₁ : w₁.db.coordinator.openUnit = none := hspared.openUnit.trans hunit
  have hroomy : w.db.coordinator.depth < w.db.coordinator.maxSize →
      w₁ = w.withCoordinator w.db.coordinator.force := by
    intro hlt
    have hperform := perform_makeRoom_of_lt (w := w.withCoordinator w.db.coordinator.force) hlt
    exact (Prod.mk.inj (hroom.symm.trans hperform)).2
  -- A database that was enabled was not forced. One that was not is disabled
  -- again.
  cases henabled : w.db.coordinator.enabled with
  | true =>
    rw [force_of_enabled henabled] at hspared hroomy
    exact
      { tables := rfl
        levels := rfl
        nextSeq := rfl
        enabled := hspared.enabled
        disableOnExit := by rw [henabled, Bool.true_and]; exact hspared.disableOnExit
        noUnit := ⟨hunit, hunit₁⟩
        pushes := hspared.pushes
        untouched := fun hlt => by rw [hroomy hlt, henabled, Bool.true_and]; rfl }
  | false =>
    exact
      { tables := rfl
        levels := rfl
        nextSeq := rfl
        enabled := henabled.symm
        disableOnExit := by rw [henabled]; rfl
        noUnit := ⟨hunit, hunit₁⟩
        pushes := hspared.pushes
        untouched := fun hlt => by
          rw [hroomy hlt, henabled, Bool.false_and]
          simp [World.withCoordinator, force, unforce, henabled] }

/-- A push for a session that was forced, where the modes are taken back. -/
theorem advance_restored (hformed : w.db.coordinator.TablesFormed)
    (hunit : w.db.coordinator.openUnit = none) :
    advance.Ends (w.withCoordinator w.db.coordinator.force) fun r w₁ => Misaligned r →
      ∃ chain, makeRoom.perform (w.withCoordinator w.db.coordinator.force) = (.ok (), w₁) ∧
        w₁.db.coordinator.outOfStep? = some chain ∧
        r = .error (.error (.illegalState (w₁.db.coordinator.depthMismatch chain))) ∧
        w.Restored w₁ (w₁.withCoordinator
          (if w.db.coordinator.enabled then w₁.db.coordinator else w₁.db.coordinator.unforce)) := by
  have hadvance := advance_misaligned (w := w.withCoordinator w.db.coordinator.force) hformed
  refine hadvance.mono fun r w₁ hend hmisaligned => ?_
  obtain ⟨hroom, hspared, chain, hstep, herror⟩ := hend hmisaligned
  exact ⟨chain, hroom, hstep, herror, restored_of_spared hunit hroom hspared⟩

/-- A session that finds a table out of step leaves all tables as they were
when the pushes began, and the modes as they were before. -/
theorem openSession_restored (force : Bool) (hformed : w.db.coordinator.TablesFormed) :
    (openSession force).Ends w fun r w' => Misaligned r →
      ∃ w₁ chain, makeRoom.perform (w.withCoordinator w.db.coordinator.force) = (.ok (), w₁) ∧
        w₁.db.coordinator.outOfStep? = some chain ∧
        r = .error (.error (.illegalState (w₁.db.coordinator.depthMismatch chain))) ∧
        w.Restored w₁ w' := by
  apply openSession_rule
  case refused =>
    -- A database that does not run says so.
    rintro error hstopped ⟨table, expected, found, herror⟩
    cases herror
    unfold stopped? at hstopped
    split at hstopped
    · cases hstopped
    · split at hstopped <;> cases hstopped
  case joined => exact fun _ _ _ hmisaligned => absurd hmisaligned (not_misaligned_ok _)
  case passed => exact fun _ _ _ _ hmisaligned => absurd hmisaligned (not_misaligned_ok _)
  case pushed =>
    -- The layer is pushed on a database that is enabled, by force or before.
    intro _ hunit _
    refine (advance_restored hformed hunit).mono fun r w₁ hend => ?_
    rcases r with (error | _) | seq
    · intro hmisaligned
      obtain ⟨chain, hroom, hstep, herror, hrestored⟩ := hend hmisaligned.error
      cases herror
      refine ⟨w₁, chain, hroom, hstep, rfl, ?_⟩
      cases henabled : w.db.coordinator.enabled with
      | true =>
        rw [henabled, if_pos rfl] at hrestored
        exact hrestored
      | false =>
        rw [henabled, if_neg Bool.false_ne_true] at hrestored
        exact hrestored
    · exact fun hmisaligned => absurd hmisaligned not_misaligned_panic
    · exact fun hmisaligned => absurd hmisaligned (not_misaligned_ok _)

/-- The second table is found out of step after the first got its layer, and
the first is as it was before. -/
theorem openSession_restored_second :
    let w := World.outOfLine true false
    w.db.coordinator.TablesFormed ∧ Misaligned ((openSession false).perform w).1 ∧
    ∃ w₁ chain, makeRoom.perform (w.withCoordinator w.db.coordinator.force) = (.ok (), w₁) ∧
      w₁.db.coordinator.outOfStep? = some chain ∧
      ((openSession false).perform w).1 =
        .error (.error (.illegalState (w₁.db.coordinator.depthMismatch chain))) ∧
      w.Restored w₁ ((openSession false).perform w).2 := by
  have hformed : (World.outOfLine true false).db.coordinator.TablesFormed := by decide
  have hmisaligned : Misaligned ((openSession false).perform (World.outOfLine true false)).1 :=
    ⟨"b", 0, 1, by decide⟩
  exact ⟨hformed, hmisaligned, openSession_restored false hformed hmisaligned⟩

/-- A database that is disabled can still be set to be disabled on exit, and
a forced session that finds a table out of step clears that. -/
theorem openSession_clears_disableOnExit :
    ¬ ∀ (w : World) (force : Bool), w.db.coordinator.TablesFormed →
      (openSession force).Ends w fun r w' => Misaligned r →
        w'.db.coordinator.disableOnExit = w.db.coordinator.disableOnExit := by
  intro h
  have hformed : (World.outOfLine false true).db.coordinator.TablesFormed := by decide
  have hkept := h (World.outOfLine false true) true hformed ⟨"b", 0, 1, by decide⟩
  exact absurd hkept (by decide)

end Operation

end LayeredStore

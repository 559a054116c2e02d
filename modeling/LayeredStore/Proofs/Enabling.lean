import LayeredStore.Proofs.Forcing

/-!
# `LayeredStore.Proofs.Enabling`: a database that was enabled stays enabled

Two things switch a database off again: `disable`, and the end of a unit of
work that a forced session opened. The second is told by `disableOnExit`.

* `Coordinator.EnabledForGood`: the database is enabled, and the end of no
  unit of work disables it.
* `Turn.enabledForGood`, `Step.enabledForGood`: every step but that of
  `disable` keeps this, and `World.EnabledForGood.play` says it of a run in
  which no `disable` succeeds.
* `enable_establishes`: what an `enable` that succeeds establishes. It does
  not look at `disableOnExit` while the database is enabled for a forced
  unit of work, and then it promises what does not last (`enable_is_lost`).
* `World.stays_enabled` is the property for the other cases.
-/

set_option autoImplicit false

namespace LayeredStore

open World

namespace Coordinator

/-- The database is enabled, and not only until a unit of work is
resolved. -/
structure EnabledForGood (c : Coordinator) : Prop where
  enabled : c.enabled = true
  unforced : c.disableOnExit = false

variable {c c' : Coordinator} {move : Move}

theorem EnabledForGood.congr (h : c.EnabledForGood) (hsame : c.SameModes c') :
    c'.EnabledForGood :=
  ⟨hsame.enabled.trans h.enabled, hsame.disableOnExit.trans h.unforced⟩

/-- A forced session does not have to enable such a database. -/
theorem Turn.enabledForGood (h : c.Turn move c') (hdisables : move.disables = false)
    (hgood : c.EnabledForGood) : c'.EnabledForGood := by
  cases h with
  | solidify | discard | register | join | resolve | stop => exact ⟨hgood.enabled, hgood.unforced⟩
  | enable => exact ⟨rfl, hgood.unforced⟩
  | disable _ _ _ hdisables' => cases hdisables.symm.trans hdisables'
  | push =>
    rw [force_of_enabled hgood.enabled]
    exact ⟨hgood.enabled, hgood.unforced⟩
  | passThrough _ _ hdisabled =>
    rw [hgood.enabled] at hdisabled
    cases hdisabled
  | keep _ unit statuses =>
    exact ⟨(modes_keep statuses).1.trans hgood.enabled,
      (modes_keep statuses).2.1.trans hgood.unforced⟩
  | lose _ unit statuses =>
    refine ⟨?_, (modes_lose statuses).2.1⟩
    rw [(modes_lose statuses).1, hgood.enabled, hgood.unforced]
    rfl

end Coordinator

namespace World

section
variable {move : Move} {w w' : World}

theorem Step.enabledForGood (h : Step move w w') (hdisables : move.disables = false)
    (hgood : w.db.coordinator.EnabledForGood) : w'.db.coordinator.EnabledForGood := by
  cases h with
  | aside hc => exact hgood.congr hc.modes
  | turn _ hturn hc =>
    exact (hturn.enabledForGood hdisables hgood).congr hc.modes
  | flush _ _ _ h _ => exact hgood.congr h.sameModes
  | crash _ _ _ h => exact hgood.congr h.sameModes
  | settle _ _ _ _ hforced =>
    -- The unit of work that is committed was not forced open.
    rw [hgood.unforced] at hforced
    cases hforced
  | put | direct | poison | setPlan => exact ⟨hgood.enabled, hgood.unforced⟩
  | recover _ _ _ hc =>
    exact ⟨hc.modes.enabled.trans hgood.enabled, hc.modes.disableOnExit.trans hgood.unforced⟩

theorem Steps.enabledForGood (h : Steps move w w') (hdisables : move.disables = false)
    (hgood : w.db.coordinator.EnabledForGood) : w'.db.coordinator.EnabledForGood := by
  induction h with
  | refl => exact hgood
  | tail _ hstep ih => exact hstep.enabledForGood hdisables ih

end

end World

/-! ### The two commands -/

namespace Operation

variable {w : World}

/-- A database that is not disabled by `disable` is as it was. -/
theorem disable_refused :
    Command.disable.run.Ends w fun r w' => r ≠ .ok .done → w' = w := by
  show (do locked disable; return .done : Operation Reply).Ends w _
  rw [ends_bind, ends_locked]
  split
  · exact fun _ => rfl
  apply disable_rule
  case refused => exact fun _ _ _ => rfl
  case already => exact fun _ _ _ => rfl
  case sessionOpen => exact fun _ _ _ _ => rfl
  case undrained => exact fun _ _ _ _ _ => rfl
  case disabled => exact fun _ _ _ _ hfailed => absurd rfl hfailed

/-- An `enable` that succeeds leaves the database enabled, and
`disableOnExit` and the open unit of work as they are. -/
theorem enable_establishes :
    Command.enable.run.Ends w fun r w' => r = .ok .done →
      w.Running ∧ w'.db.coordinator.enabled = true ∧
      w'.db.coordinator.disableOnExit = w.db.coordinator.disableOnExit := by
  show (do locked enable; return .done : Operation Reply).Ends w _
  rw [ends_bind, ends_locked]
  split
  · exact nofun
  rename_i hpoisoned
  have hrun : w.db.coordinator.stopped? = none → w.Running := fun hstopped =>
    ⟨by simpa using hpoisoned, Coordinator.halted_of_stopped?_eq_none hstopped⟩
  apply enable_rule
  case refused => exact fun _ _ => nofun
  case already => exact fun hstopped henabled _ => ⟨hrun hstopped, henabled, rfl⟩
  case sessionOpen => exact fun _ _ _ => nofun
  case enabled => exact fun hstopped _ _ _ => ⟨hrun hstopped, rfl, rfl⟩

end Operation

/-! ### Runs -/

namespace World

section
variable {w : World}

theorem EnabledForGood.act (hgood : w.db.coordinator.EnabledForGood) (horderly : w.Orderly)
    {move : Move}
    (hdisable : move = .call .disable → (Command.disable.run.perform w).1 ≠ .ok .done) :
    (move.act w).db.coordinator.EnabledForGood := by
  cases hdisables : move.disables with
  | false => exact (move.act_steps horderly).enabledForGood hdisables hgood
  | true =>
    unfold Move.disables at hdisables
    split at hdisables
    · have hsame : (Command.disable.run.perform w).2 = w := Operation.disable_refused (hdisable rfl)
      show (Command.disable.run.perform w).2.db.coordinator.EnabledForGood
      rw [hsame]
      exact hgood
    · cases hdisables

/-- As long as no `disable` succeeds, the database stays enabled. -/
theorem EnabledForGood.play (hgood : w.db.coordinator.EnabledForGood) (horderly : w.Orderly)
    (moves : List Move)
    (hdisable : ∀ between after, moves = between ++ .call .disable :: after →
      (Command.disable.run.perform (w.play between)).1 ≠ .ok .done) :
    (w.play moves).db.coordinator.EnabledForGood := by
  induction moves generalizing w with
  | nil => exact hgood
  | cons move moves ih =>
    have hfirst : move = .call .disable → (Command.disable.run.perform w).1 ≠ .ok .done := by
      rintro rfl
      exact hdisable [] moves rfl
    refine ih (EnabledForGood.act hgood horderly hfirst) (horderly.act move) ?_
    intro between after hmoves
    exact hdisable (move :: between) after (by rw [hmoves]; rfl)

end

/-- Once `enable` has succeeded while no unit of work is open that was
forced open, the database stays enabled as long as no `disable` succeeds,
whatever sessions are opened and resolved and whichever stores fail. -/
theorem stays_enabled (disk : Disk) (configuration : Configuration) (journal : String)
    (handlers : List Handler) (before later : List Move) :
    let w₀ := opened disk configuration journal handlers
    (Command.enable.run.perform (w₀.play before)).1 = .ok .done →
    (∀ unit, (w₀.play before).db.coordinator.openUnit = some unit →
      ¬ w₀.OpenedByForce before unit) →
    (∀ between after, later = between ++ .call .disable :: after →
      (Command.disable.run.perform (w₀.play (before ++ .call .enable :: between))).1 ≠ .ok .done) →
    (w₀.play (before ++ .call .enable :: later)).db.coordinator.enabled = true := by
  intro w₀ hok hunforced hdisable
  have horderly₀ : w₀.Orderly := orderly_opened disk configuration journal handlers
  have horderly : (w₀.play before).Orderly := horderly₀.play before
  obtain ⟨hrun, henabled, hexit⟩ := Operation.enable_establishes hok
  -- A database that runs is disabled on exit only for a unit that was forced open.
  have hforced : (w₀.play before).db.coordinator.disableOnExit = false := by
    by_contra hforced
    have hforced : (w₀.play before).db.coordinator.disableOnExit = true := by simpa using hforced
    obtain ⟨unit, hunit⟩ := Option.isSome_iff_exists.mp (horderly.moded.settled hrun hforced)
    have hexactly := horderly₀.forcedExactly rfl before unit hunit
    exact hunforced unit hunit (hexactly.mp hforced)
  have hgood : ((Move.call .enable).act (w₀.play before)).db.coordinator.EnabledForGood :=
    ⟨henabled, hexit.trans hforced⟩
  have hlater := EnabledForGood.play hgood (horderly.act (.call .enable)) later
    fun between after hsplit => by
      have hnot := hdisable between after hsplit
      rwa [play_append, play_cons] at hnot
  rw [play_append, play_cons]
  exact hlater.enabled

/-- A database that was enabled is not disabled by a forced session that is
given up, nor by a `disable` that is refused while it is open. -/
theorem stays_enabled_dropped :
    let w₀ := opened .empty { enabled := false } "journal" []
    let before : List Move := [.call (.addTable "a" "left")]
    let later : List Move := [.call (.openSession true), .call .disable,
      .call (.dropSession ⟨0, false, false⟩)]
    (Command.enable.run.perform (w₀.play before)).1 = .ok .done ∧
    (w₀.play before).db.coordinator.openUnit = none ∧
    (Command.disable.run.perform
      (w₀.play (before ++ [.call .enable, .call (.openSession true)]))).1 ≠ .ok .done ∧
    (w₀.play (before ++ .call .enable :: later)).db.coordinator.enabled = true := by
  intro w₀ before later
  have hok : (Command.enable.run.perform (w₀.play before)).1 = .ok .done := by decide +kernel
  have hunit : (w₀.play before).db.coordinator.openUnit = none := by decide +kernel
  have hrefused : (Command.disable.run.perform
      (w₀.play (before ++ [.call .enable, .call (.openSession true)]))).1 ≠ .ok .done := by
    decide +kernel
  have hunforced : ∀ unit, (w₀.play before).db.coordinator.openUnit = some unit →
      ¬ w₀.OpenedByForce before unit := by
    intro unit hsome
    cases hunit.symm.trans hsome
  have hdisable : ∀ between after, later = between ++ .call .disable :: after →
      (Command.disable.run.perform
        (w₀.play (before ++ .call .enable :: between))).1 ≠ .ok .done := by
    intro between after hsplit
    -- The session comes first, then the `disable`.
    have hbetween : between = [.call (.openSession true)] := by
      rcases between with _ | ⟨a, _ | ⟨b, _ | ⟨c, rest⟩⟩⟩ <;> simp [later] at hsplit
      rw [hsplit.1]
    rw [hbetween]
    exact hrefused
  have hstays := stays_enabled .empty { enabled := false } "journal" [] before later hok hunforced
    hdisable
  have hw₀ : opened .empty { enabled := false } "journal" [] = w₀ := rfl
  rw [hw₀] at hstays
  exact ⟨hok, hunit, hrefused, hstays⟩

/-- `enable` succeeds while a forced unit of work is open, and once this unit
is given up, the database is disabled all the same. No `disable` is called
and no store fails. -/
theorem enable_is_lost :
    let w₀ := opened .empty { enabled := false } "journal" []
    let before : List Move := [.call (.addTable "a" "left"), .call (.openSession true)]
    let later : List Move := [.call (.dropSession ⟨0, false, false⟩)]
    (Command.enable.run.perform (w₀.play before)).1 = .ok .done ∧
    (w₀.play (before ++ .call .enable :: later)).db.coordinator.enabled = false := by
  decide +kernel

end World

end LayeredStore

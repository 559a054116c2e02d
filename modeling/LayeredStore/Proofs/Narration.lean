import LayeredStore.Proofs.Retelling
import LayeredStore.Proofs.Upkeep
import LayeredStore.Proofs.Aftermath

/-!
# `LayeredStore.Proofs.Narration`: what the published events tell

Every change to the levels is told of by an event, but one: before it does
anything else, a move can make live levels pending, to make room for the
layer that it pushes or because it lowers the limit of live layers. How
many these are follows from the state before the move (`World.outset`).
From there on, whoever hears the events knows the levels, and how many of
them are live.

* `World.Story` is a path of changes, each with its event, through the
  states in which the events are published.
* `World.Telling` is said of an operation that stays on a story where no
  store fails; `telling_routine` says it of all that make no room.
* `World.Yielding` is said of one that makes room first, as opening a
  session (`openSession_yielding`) and setting the limit of live layers
  (`setMaxSize_yielding`) do.
* `Heeded.act`: so it is with every move, and `World.events_retell`: so it
  is with every run.
-/

set_option autoImplicit false

namespace LayeredStore

open World

namespace Coordinator

section
variable {c c' : Coordinator}

/-! ### What an operation leaves as it was -/

/-- The levels, and how many of them are pending once `count` more of the
live ones are, or all of them. -/
def yield (c : Coordinator) (count : Nat) : Copy :=
  ⟨c.levels, min (c.pending + count) c.levels.length⟩

/-- To make none pending changes nothing. -/
theorem yield_zero (h : c.pending ≤ c.levels.length) : c.yield 0 = c.copy :=
  congrArg (Copy.mk c.levels) (Nat.min_eq_left h)

/-- What a story is about is the same in both, and events are published by
both or by none. -/
structure SameStory (c c' : Coordinator) : Prop where
  levels : c'.levels = c.levels
  pending : c'.pending = c.pending
  nextSeq : c'.nextSeq = c.nextSeq
  openSeq? : c'.openSeq? = c.openSeq?
  published : c'.published = c.published
  publishing : c'.publishing = c.publishing
  shutDown : c'.shutDown = c.shutDown

theorem SameStory.yield (h : c.SameStory c') (count : Nat) : c'.yield count = c.yield count := by
  rw [Coordinator.yield, h.levels, h.pending]
  rfl

theorem clampCursor_eq (c : Coordinator) : ∃ view, c.clampCursor = { c with view := view } := by
  unfold clampCursor
  cases hview : c.view with
  | head hidden => exact ⟨_, rfl⟩
  | solidity => exact ⟨c.view, rfl⟩

theorem announce_of_publishing (h : c.publishing = true) (event : Event) :
    c.announce event = { c with published := c.published ++ [event] } := if_pos h

end

end Coordinator

namespace World

/-- A change that is told: its event, if it has one, is the newest that was
published. -/
structure Tells (w : World) (event? : Option Event) (w' : World) : Prop where
  change : w.db.coordinator.Tells event? w'.db.coordinator
  published : w'.db.coordinator.published = w.db.coordinator.published ++ event?.toList

/-- A path of changes that are told. What is not told on it changes neither
the levels nor how many of them are pending. -/
abbrev Story : World → World → Prop :=
  Relation.ReflTransGen fun w w' => ∃ event?, w.Tells event? w'

section
variable {start w w' : World}

theorem Story.faithful (h : Story w w') (hw : w.db.coordinator.Faithful) :
    w'.db.coordinator.Faithful := by
  induction h with
  | refl => exact hw
  | tail _ hstep ih =>
    obtain ⟨event?, htells⟩ := hstep
    exact htells.change.faithful htells.published ih

/-- Whoever hears the events of a story knows where it leads. -/
theorem Story.heard (h : Story w w') : ∃ told,
    w'.db.coordinator.published = w.db.coordinator.published ++ told ∧
    w.db.coordinator.copy.hearAll told = some w'.db.coordinator.copy ∧
    w.db.coordinator.copy.GivesDepths told := by
  induction h with
  | refl => exact ⟨[], (List.append_nil _).symm, rfl, eachTold_nil _⟩
  | @tail w₁ w₂ _ hstep ih =>
    obtain ⟨event?, htells⟩ := hstep
    obtain ⟨told, hpublished, hheard, hdepths⟩ := ih
    cases event? with
    | none =>
      refine ⟨told, ?_, hheard.trans (congrArg some htells.change.copy_eq.symm), hdepths⟩
      rw [htells.published, hpublished, Option.toList_none, List.append_nil]
    | some event =>
      have hnext : w.db.coordinator.copy.hearAll (told ++ [event]) =
          some w₂.db.coordinator.copy :=
        (Copy.hearAll_concat hheard event).trans htells.change.hear
      refine ⟨told ++ [event], ?_, hnext, hdepths.concat fun depth hdepth => ?_⟩
      · rw [htells.published, hpublished, List.append_assoc, Option.toList_some]
      · exact ⟨_, hnext, htells.change.depth hdepth⟩

/-- No store fails, and events are published as long as the database was
not shut down. -/
structure Heeded (w : World) : Prop where
  healthy : w.disk.Healthy
  publishing : w.db.coordinator.shutDown = false → w.db.coordinator.publishing = true

/-- The operation is on a story that began in `start`. -/
structure Telling (start w : World) : Prop extends Heeded w where
  story : Story start w

theorem Heeded.telling (h : w.Heeded) : Telling w w := ⟨h, .refl⟩

/-- A change that is told goes on with the story. -/
theorem Telling.step (h : Telling start w) {event? : Option Event} (hhealthy : w'.disk.Healthy)
    (hpublishing : w'.db.coordinator.shutDown = false → w'.db.coordinator.publishing = true)
    (htells : w.Tells event? w') : Telling start w' :=
  ⟨⟨hhealthy, hpublishing⟩, h.story.tail ⟨event?, htells⟩⟩

/-- So does what changes nothing that is told of. -/
theorem Telling.aside (h : Telling start w) (hhealthy : w'.disk.Healthy)
    (hsame : w.db.coordinator.SameStory w'.db.coordinator) : Telling start w' := by
  have htells : w.Tells none w' :=
    ⟨.aside hsame.levels hsame.pending hsame.nextSeq hsame.openSeq?,
      hsame.published.trans (List.append_nil _).symm⟩
  refine h.step hhealthy ?_ htells
  rw [hsame.shutDown, hsame.publishing]
  exact h.publishing

theorem Telling.set (h : Telling start w) {c : Coordinator} (hsame : w.db.coordinator.SameStory c) :
    Telling start (w.withCoordinator c) := h.aside h.healthy hsame

theorem Telling.say (h : Telling start w) (notice : Notice) : Telling start (w.say notice) :=
  h.aside h.healthy ⟨rfl, rfl, rfl, rfl, rfl, rfl, rfl⟩

/-- A database that runs was not shut down, so it publishes its events. -/
theorem Heeded.publishes (h : w.Heeded) (hstopped : w.db.coordinator.stopped? = none) :
    w.db.coordinator.publishing = true :=
  h.publishing (Coordinator.shutDown_of_stopped?_eq_none hstopped)

/-- How many live levels a move makes pending before it does anything that is
told of: a session that pushes a layer makes room for one if the chains are
full, and a lower limit of live layers is enforced at once. -/
def makesPending (w : World) : Move → Nat
  | .call (.openSession force) =>
    if w.db.poisoned = false ∧ w.db.coordinator.stopped? = none ∧
        w.db.coordinator.openUnit = none ∧ (w.db.coordinator.enabled = true ∨ force = true) then
      w.db.coordinator.depth + 1 - w.db.coordinator.maxSize
    else 0
  | .call (.setMaxSize limit) =>
    if w.db.poisoned = false ∧ w.db.coordinator.stopped? = none ∧ 0 < limit then
      w.db.coordinator.depth - limit
    else 0
  | _ => 0

/-- A lock that is poisoned lets no operation in. -/
theorem makesPending_of_poisoned (h : w.db.poisoned = true) (move : Move) :
    w.makesPending move = 0 := by
  unfold makesPending
  split
  · exact if_neg fun hpushes => by cases h.symm.trans hpushes.1
  · exact if_neg fun hruns => by cases h.symm.trans hruns.1
  · rfl

/-- The levels, and how many of them are pending, when a move begins to do
what is told of. -/
def outset (w : World) (move : Move) : Copy := w.db.coordinator.yield (w.makesPending move)

/-- `s` is `w` with `count` more of the live levels pending, or with all of
them. -/
structure Yields (w : World) (count : Nat) (s : World) : Prop where
  copy : s.db.coordinator.copy = w.db.coordinator.yield count
  nextSeq : s.db.coordinator.nextSeq = w.db.coordinator.nextSeq
  openSeq? : s.db.coordinator.openSeq? = w.db.coordinator.openSeq?
  published : s.db.coordinator.published = w.db.coordinator.published

/-- What is told begins once `count` more levels are pending. -/
def Yielding (w : World) (count : Nat) (w' : World) : Prop :=
  ∃ s, w.Yields count s ∧ Telling s w'

/-- If none are to become pending, it begins at once. -/
theorem Telling.yielding (h : Telling w w') (hsound : w.db.coordinator.Sound) {count : Nat}
    (hzero : count = 0) : w.Yielding count w' := by
  subst hzero
  exact ⟨w, ⟨(Coordinator.yield_zero hsound.pending_le).symm, rfl, rfl, rfl⟩, h⟩

theorem Yielding.set {count : Nat} (h : w.Yielding count w') {c : Coordinator}
    (hsame : w'.db.coordinator.SameStory c) : w.Yielding count (w'.withCoordinator c) := by
  obtain ⟨s, hyields, htelling⟩ := h
  exact ⟨s, hyields, htelling.set hsame⟩

/-- What changes nothing that is told of can as well be done first. -/
theorem Yielding.after {count : Nat} {c : Coordinator}
    (h : (w.withCoordinator c).Yielding count w') (hsame : w.db.coordinator.SameStory c) :
    w.Yielding count w' := by
  obtain ⟨s, hyields, htelling⟩ := h
  exact ⟨s, ⟨hyields.copy.trans (hsame.yield count), hyields.nextSeq.trans hsame.nextSeq,
    hyields.openSeq?.trans hsame.openSeq?, hyields.published.trans hsame.published⟩, htelling⟩

theorem Telling.leaves {α : Type} (h : Telling start w) (r : Except Fault α) :
    Operation.Leaves (Telling start) r w := by
  match r with
  | .ok _ => exact h
  | .error (.error _) => exact h
  | .error .panic => exact h.aside h.healthy ⟨rfl, rfl, rfl, rfl, rfl, rfl, rfl⟩

end

end World

namespace Operation

variable {start w : World}

/-! ### Flushes -/

theorem flushOldest_telling (hnames : w.db.coordinator.tableNames.Nodup) (h : Telling start w)
    (hpublishing : w.db.coordinator.publishing = true) (count : Nat) :
    (flushOldest count).Ends w fun _ w' => Telling start w' ∧
      w'.db.coordinator.publishing = true := by
  have hle := Nat.min_le_right count w.db.coordinator.levels.length
  cases hfits : (w.db.coordinator.netRecord
      (min count w.db.coordinator.levels.length)).fits with
  | true =>
    refine ((flushOldest_ends w hnames count).and
      (flushOldest_healthy w hnames h.healthy count hfits)).mono fun r w' hend => ?_
    obtain ⟨hend, rfl, hhealthy⟩ := hend
    cases hend with
    | nothing => exact ⟨h, hpublishing⟩
    | @finished _ _ d _ c hc =>
      obtain ⟨view, hview⟩ := (w.db.coordinator.dropOldest
        (min count w.db.coordinator.levels.length)).clampCursor_eq
      have hpublishing' : c.publishing = true := by
        rw [hc, hview]
        exact hpublishing
      rw [Coordinator.announce_of_publishing hpublishing']
      rw [hview] at hc
      subst hc
      exact ⟨h.step hhealthy (fun _ => hpublishing) ⟨.flush hle rfl rfl rfl rfl, rfl⟩, hpublishing⟩
  | false =>
    -- The record cannot be encoded, so the database halts with nothing moved.
    refine (flushOldest_ends w hnames count).mono fun r w' hend => ?_
    obtain ⟨-, rfl, rfl⟩ | ⟨rfl, rfl⟩ := hend.of_unfit hfits
    · exact ⟨h, hpublishing⟩
    · exact ⟨h.aside h.healthy ⟨rfl, rfl, rfl, rfl, rfl, rfl, rfl⟩, hpublishing⟩

/-- What makes levels pending is not told; a flush that follows is. -/
theorem solidify_yielding (hnames : w.db.coordinator.tableNames.Nodup) (h : w.Heeded)
    (hpublishing : w.db.coordinator.publishing = true) (count : Nat) :
    (solidify count).Ends w fun _ w' => w.Yielding count w' ∧
      w'.db.coordinator.publishing = true := by
  obtain ⟨view, hview⟩ := (w.db.coordinator.solidify count).bump.clampCursor_eq
  apply solidify_rule
  intro w₁ hw₁
  rw [hview] at hw₁
  have hyields : w.Yields count w₁ := by
    subst hw₁
    exact ⟨rfl, rfl, rfl, rfl⟩
  have hheeded : w₁.Heeded := by
    subst hw₁
    exact ⟨h.healthy, fun _ => hpublishing⟩
  have hnames' : w₁.db.coordinator.tableNames.Nodup := by
    have hsame : w₁.db.coordinator.tableNames = w.db.coordinator.tableNames := by
      subst hw₁
      exact List.map_map
    exact hsame ▸ hnames
  have hpublishing' : w₁.db.coordinator.publishing = true := by
    subst hw₁
    exact hpublishing
  refine ⟨fun _ => ⟨⟨w₁, hyields, hheeded.telling⟩, hpublishing'⟩, fun _ => ?_⟩
  exact (flushOldest_telling hnames' hheeded.telling hpublishing' _).mono fun _ _ hend =>
    ⟨⟨w₁, hyields, hend.1⟩, hend.2⟩

/-! ### Pushing and discarding levels -/

theorem makeRoom_yielding (hsound : w.db.coordinator.Sound) (h : w.Heeded)
    (hpublishing : w.db.coordinator.publishing = true) :
    makeRoom.Ends w fun _ w' =>
      w.Yielding (w.db.coordinator.depth + 1 - w.db.coordinator.maxSize) w' ∧
        w'.db.coordinator.publishing = true := by
  apply makeRoom_rule
  case roomy =>
    exact fun hroomy =>
      ⟨h.telling.yielding hsound (Nat.sub_eq_zero_of_le hroomy), hpublishing⟩
  case full => exact fun _ => solidify_yielding hsound.names h hpublishing _

/-- A push is told of once the unit of work is open that owns the new
layer. -/
theorem advance_yielding (hsound : w.db.coordinator.Sound) (hrun : w.Running)
    (hclosed : w.db.coordinator.openSeq? = none) (h : w.Heeded)
    (hpublishing : w.db.coordinator.publishing = true) :
    let count := w.db.coordinator.depth + 1 - w.db.coordinator.maxSize
    advance.Ends w fun r w' => match r with
      | .ok seq => w.Yielding count (w'.withCoordinator (w'.db.coordinator.openNewUnit (some seq)))
      | .error _ => w.Yielding count w' := by
  intro count
  rw [ends_advance]
  refine ((makeRoom_led hsound hrun hclosed).and
    (makeRoom_yielding hsound h hpublishing)).mono fun r w₁ hend => ?_
  obtain ⟨⟨hpath, -⟩, ⟨s, hyields, h₁⟩, hpublishing₁⟩ := hend
  cases r with
  | error fault => exact ⟨s, hyields, h₁⟩
  | ok =>
    have hpath : Quietly w w₁ := hpath
    have hpublishing' : w₁.db.coordinator.push.bump.publishing = true := hpublishing₁
    show pushLevel.Ends _ _
    rw [ends_pushLevel (hpath.sound hsound)]
    simp only [Coordinator.announce_of_publishing hpublishing']
    exact ⟨s, hyields, h₁.step h₁.healthy (fun _ => hpublishing₁)
      ⟨.push rfl rfl rfl (hpath.closed hclosed) rfl, rfl⟩⟩

/-- Discarding the newest live layer, also when the unit of work that owns
it was closed right before. -/
theorem retreat_telling {c : Coordinator} (h : Telling start w)
    (hsame : w.db.coordinator.withoutUnit.SameStory c)
    (hpublishing : w.db.coordinator.publishing = true)
    (hlive : w.db.coordinator.pending < w.db.coordinator.levels.length) (operation : String)
    (verified? : Option Bool) (hpop : verified?.isSome → w.db.coordinator.openSeq? = none) :
    (retreat operation verified?).Ends (w.withCoordinator c) fun _ w' => Telling start w' ∧
      w'.db.coordinator.publishing = true ∧ w'.db.coordinator.openSeq? = none := by
  have hlevels : c.levels = w.db.coordinator.levels := hsame.levels
  have hpending : c.pending = w.db.coordinator.pending := hsame.pending
  have hdepth : 0 < (w.withCoordinator c).db.coordinator.depth := by
    show 0 < c.levels.length - c.pending
    rw [hlevels, hpending]
    exact Nat.sub_pos_of_lt hlive
  obtain ⟨seq, hseq⟩ : ∃ seq, w.db.coordinator.levels.getLast? = some seq := by
    rw [← Option.isSome_iff_exists, List.getLast?_isSome]
    exact List.ne_nil_of_length_pos (Nat.zero_lt_of_lt hlive)
  have hget : (w.withCoordinator c).db.coordinator.levels.getLast?.getD 0 = seq := by
    show c.levels.getLast?.getD 0 = seq
    rw [hlevels, hseq]
    rfl
  obtain ⟨view, hview⟩ : ∃ view,
      (w.withCoordinator c).db.coordinator.discardHead.bump.clampCursor =
        { c.discardHead.bump with view := view } := c.discardHead.bump.clampCursor_eq
  have hpublishing' : ({ c.discardHead.bump with view := view } : Coordinator).publishing = true :=
    hsame.publishing.trans hpublishing
  rw [ends_retreat hdepth, hget]
  simp only [hview, Coordinator.announce_of_publishing hpublishing']
  exact ⟨h.step h.healthy (fun _ => hpublishing')
    ⟨.discard (congrArg List.dropLast hlevels) hpending hsame.nextSeq hseq hpop hsame.openSeq?,
      congrArg (· ++ _) hsame.published⟩, hpublishing', hsame.openSeq?⟩

/-! ### Sessions -/

theorem leaveForced_telling (h : Telling start w) :
    leaveForced.Ends w fun _ w' => Telling start w' ∧
      w'.db.coordinator.publishing = w.db.coordinator.publishing := by
  rw [ends_leaveForced]
  split
  · exact ⟨h.set ⟨rfl, rfl, rfl, rfl, rfl, rfl, rfl⟩, rfl⟩
  · exact ⟨h, rfl⟩

/-- A session that pushes a layer makes room for it first. -/
theorem openSession_yielding (horderly : w.Orderly) (h : w.Heeded)
    (hpoisoned : w.db.poisoned = false) (force : Bool) :
    (openSession force).Ends w fun _ w' =>
      w.Yielding (w.makesPending (.call (.openSession force))) w' := by
  apply openSession_rule
  case refused =>
    intro error herror
    refine h.telling.yielding horderly.sound (if_neg ?_)
    exact fun hpushes => by cases hpushes.2.1.symm.trans herror
  case joined =>
    intro unit _ hunit
    have hjoined : Telling w (w.withCoordinator (w.db.coordinator.joinUnit unit)) :=
      h.telling.set
        ⟨rfl, rfl, rfl, (Coordinator.sameStacks_joinUnit hunit).openSeq?, rfl, rfl, rfl⟩
    refine (hjoined.say _).yielding horderly.sound (if_neg ?_)
    exact fun hpushes => by cases hpushes.2.2.1.symm.trans hunit
  case passed =>
    intro _ hunit hdisabled hforce
    have hpassed : Telling w (w.withCoordinator (w.db.coordinator.openNewUnit none)) :=
      h.telling.set
        ⟨rfl, rfl, rfl, (Coordinator.openSeq?_of_none hunit).symm, rfl, rfl, rfl⟩
    refine hpassed.yielding horderly.sound (if_neg ?_)
    rintro ⟨-, -, -, henabled | hforced⟩
    · cases hdisabled.symm.trans henabled
    · cases hforce.symm.trans hforced
  case pushed =>
    intro hstopped hunit hpushes
    have hcount : w.makesPending (.call (.openSession force)) =
        w.db.coordinator.depth + 1 - w.db.coordinator.maxSize :=
      if_pos ⟨hpoisoned, hstopped, hunit, hpushes⟩
    rw [hcount]
    -- Forcing the database is not published; room is made after it.
    have hforced : w.db.coordinator.SameStory w.db.coordinator.force :=
      ⟨rfl, rfl, rfl, rfl, rfl, rfl, rfl⟩
    refine (advance_yielding (w := w.withCoordinator w.db.coordinator.force)
      (horderly.sound.congr (Coordinator.sameStacks_force _))
      ⟨hpoisoned, Coordinator.halted_of_stopped?_eq_none hstopped⟩
      (Coordinator.openSeq?_of_none hunit) (h.telling.set hforced).toHeeded
      (h.publishes hstopped)).mono fun r w₁ hend => ?_
    match r, hend with
    | .ok seq, hend => exact Yielding.after hend hforced
    | .error .panic, hend => exact Yielding.after hend hforced
    | .error (.error error), hend =>
      have hend : w.Yielding _ w₁ := Yielding.after hend hforced
      dsimp only
      split
      · exact hend
      · exact hend.set ⟨rfl, rfl, rfl, rfl, rfl, rfl, rfl⟩

/-- Discarding the open unit of work. -/
theorem revokeUnit_telling (hsound : w.db.coordinator.Sound) (h : Telling start w)
    (hpublishing : w.db.coordinator.publishing = true) :
    revokeUnit.Ends w fun _ w' => Telling start w' ∧ w'.db.coordinator.publishing = true := by
  apply revokeUnit_rule
  case idle => exact fun _ => ⟨h, hpublishing⟩
  case closed =>
  rintro unit c hunit rfl
  have hopen : w.db.coordinator.openSeq? = unit.seq := Coordinator.openSeq?_of_some hunit
  refine ⟨fun hseq => ?_, fun seq hseq => ?_⟩
  · refine (leaveForced_telling ((h.set ?_).say _)).mono fun r w' hend =>
      ⟨hend.1, hend.2.trans hpublishing⟩
    exact ⟨rfl, rfl, rfl, (hopen.trans hseq).symm, rfl, rfl, rfl⟩
  · -- The layer goes when its unit is already closed, so the change is told
    -- from before the unit was closed.
    have hlive := hsound.openLive (Option.isSome_iff_exists.mpr ⟨seq, hopen.trans hseq⟩)
    have hsame : w.db.coordinator.withoutUnit.SameStory { w.db.coordinator with
        openUnit := none, statuses := (w.db.coordinator.resolveOpen unit .revoked).statuses } :=
      ⟨rfl, rfl, rfl, rfl, rfl, rfl, rfl⟩
    refine (retreat_telling h hsame hpublishing hlive "revoke" none nofun).mono fun r w₁ hend => ?_
    obtain ⟨h₁, hpublishing₁, -⟩ := hend
    cases r with
    | error fault => exact ⟨h₁, hpublishing₁⟩
    | ok =>
      exact (leaveForced_telling h₁).mono fun r w' hend => ⟨hend.1, hend.2.trans hpublishing₁⟩

theorem settleForced_telling (hnames : w.db.coordinator.tableNames.Nodup) (h : Telling start w)
    (hpublishing : w.db.coordinator.publishing = true) :
    settleForced.Ends w fun _ w' => Telling start w' := by
  apply settleForced_rule
  case plain => exact fun _ => h
  case forced =>
    intro _
    refine (flushOldest_telling hnames h hpublishing _).mono fun r w₁ hend => ?_
    cases r with
    | error fault => exact hend.1
    | ok => exact (leaveForced_telling hend.1).mono fun r w' hend => hend.1

/-- Committing the open unit of work. -/
theorem finishUnit_telling (hsound : w.db.coordinator.Sound) (h : Telling start w)
    (hpublishing : w.db.coordinator.publishing = true) :
    finishUnit.Ends w fun _ w' => Telling start w' := by
  apply finishUnit_rule
  case idle => exact fun _ => h
  case passed =>
    intro unit hunit hseq
    have hopen : w.db.coordinator.openSeq? = none :=
      (Coordinator.openSeq?_of_some hunit).trans hseq
    have hclosed : Telling start (w.withCoordinator w.db.coordinator.withoutUnit) :=
      h.set ⟨rfl, rfl, rfl, hopen.symm, rfl, rfl, rfl⟩
    exact settleForced_telling hsound.names hclosed hpublishing
  case sealed =>
    rintro unit seq c hunit hseq rfl
    have hopen : w.db.coordinator.openSeq? = some seq :=
      (Coordinator.openSeq?_of_some hunit).trans hseq
    have hsealed := hsound.sealHeads (Option.isSome_iff_exists.mpr ⟨seq, hopen⟩)
    have hnames := (hsealed.congr (Coordinator.sameStacks_announce _ (.commitSession seq
      w.db.coordinator.withoutUnit.sealHeads.headsDigest))).names
    rw [Coordinator.announce_of_publishing
      (c := w.db.coordinator.withoutUnit.sealHeads) hpublishing] at hnames ⊢
    have hcommitted := h.say (.unitCommitted seq w.db.coordinator.withoutUnit.sealHeads.depth)
    exact settleForced_telling hnames (hcommitted.step h.healthy (fun _ => hpublishing)
      ⟨.commit rfl rfl rfl hopen (hsound.openLast seq hopen) rfl, rfl⟩) hpublishing

theorem commitSession_telling (horderly : w.Orderly) (h : Telling start w) (session : Nat) :
    (commitSession session).Ends w fun _ w' => Telling start w' := by
  apply commitSession_rule
  case committed => exact fun _ => h
  case failed => exact fun _ => h
  case refused => exact fun _ _ _ => h
  case stray => exact fun _ _ _ => h
  case resolved =>
    intro unit _ hstopped _ _ w₁
    have h₁ : Telling start w₁ := h.set ⟨rfl, rfl, rfl, rfl, rfl, rfl, rfl⟩
    have hsound : w₁.db.coordinator.Sound :=
      horderly.sound.congr (Coordinator.sameStacks_setStatus _ session .committed)
    have hpublishing : w₁.db.coordinator.publishing = true := h.publishes hstopped
    refine ⟨fun _ => h₁, fun _ _ => ?_, fun _ _ => finishUnit_telling hsound h₁ hpublishing⟩
    refine (revokeUnit_telling hsound h₁ hpublishing).mono fun r w' hend => ?_
    cases r with
    | ok => exact hend.1
    | error fault => exact hend.1

theorem abandonSession_telling (horderly : w.Orderly) (h : Telling start w) (session : Nat)
    (status : SessionStatus) :
    (abandonSession session status).Ends w fun _ w' => Telling start w' := by
  apply abandonSession_rule
  case closed => exact fun _ => h
  case stray => exact fun _ _ => h.set ⟨rfl, rfl, rfl, rfl, rfl, rfl, rfl⟩
  case resolved =>
  intro unit c _ hunit _ hc
  have hpublishing := h.publishing (horderly.moded.shutDown_eq_false hunit)
  have hopen := (Coordinator.openSeq?_of_some hunit).symm
  have hset : Telling start (w.withCoordinator c) := by
    subst hc
    exact h.set ⟨rfl, rfl, rfl, hopen, rfl, rfl, rfl⟩
  have hsound : (w.withCoordinator c).db.coordinator.Sound := by
    subst hc
    exact horderly.sound.congr ⟨rfl, rfl, rfl, rfl, rfl, hopen⟩
  have hpublishing' : (w.withCoordinator c).db.coordinator.publishing = true := by
    subst hc
    exact hpublishing
  exact ⟨fun _ => hset.say _, fun _ =>
    (revokeUnit_telling hsound hset hpublishing').mono fun _ _ hend => hend.1⟩

/-! ### History -/

theorem revoke_telling (horderly : w.Orderly) (h : Telling start w) :
    revoke.Ends w fun _ w' => Telling start w' := by
  apply revoke_rule
  case refused => exact fun _ _ => h
  case counted =>
    intro _ _ _
    refine (h.set ?_).say _
    exact ⟨rfl, rfl, rfl, rfl, rfl, rfl, rfl⟩
  case empty => exact fun _ _ _ => h
  case unit =>
    intro _ hstopped _ _
    exact (revokeUnit_telling horderly.sound h (h.publishes hstopped)).mono fun _ _ hend => hend.1
  case level =>
    intro hstopped _ hdepth hnewest
    have hclosed := horderly.sound.openSeq?_eq_none hnewest
    have hsame : w.db.coordinator.withoutUnit.SameStory w.db.coordinator :=
      ⟨rfl, rfl, rfl, hclosed, rfl, rfl, rfl⟩
    exact (retreat_telling h hsame (h.publishes hstopped) (Nat.lt_of_sub_pos hdepth) "revoke" none
      nofun).mono fun _ _ hend => hend.1

theorem merge_telling (horderly : w.Orderly) (h : Telling start w) :
    merge.Ends w fun _ w' => Telling start w' := by
  apply merge_rule
  case refused => exact fun _ _ => h
  case empty => exact fun _ _ => h
  case uncommitted => exact fun _ _ _ _ => h
  case flushed =>
    intro _ hstopped _ _
    exact (flushOldest_telling horderly.sound.names h (h.publishes hstopped) _).mono
      fun _ _ hend => hend.1

theorem retreatMany_telling (h : Telling start w) (hpublishing : w.db.coordinator.publishing = true)
    (hclosed : w.db.coordinator.openSeq? = none) (operation : String) (verify : Bool)
    (count : Nat) : (retreatMany operation verify count).Ends w fun _ w' => Telling start w' := by
  -- Each discard leaves a database that publishes events and has no unit open.
  induction count generalizing w with
  | zero => exact h
  | succ count ih =>
    rw [ends_retreatMany_succ]
    by_cases hdepth : w.db.coordinator.depth = 0
    · rw [ends_retreat_of_empty hdepth]
      exact h
    have hsame : w.db.coordinator.withoutUnit.SameStory w.db.coordinator :=
      ⟨rfl, rfl, rfl, hclosed, rfl, rfl, rfl⟩
    refine (retreat_telling h hsame hpublishing (Nat.lt_of_sub_pos (Nat.pos_of_ne_zero hdepth))
      operation (some verify) fun _ => hclosed).mono fun r w₁ hend => ?_
    obtain ⟨h₁, hpublishing₁, hclosed₁⟩ := hend
    cases r with
    | ok => exact ih h₁ hpublishing₁ hclosed₁
    | error fault => exact h₁

theorem popMany_telling (h : Telling start w) (count : Nat) (verify : Bool) :
    (popMany count verify).Ends w fun _ w' => Telling start w' := by
  apply popMany_rule rfl
  case popped =>
    intro hstopped hunit _ _ _
    exact retreatMany_telling h (h.publishes hstopped) (Coordinator.openSeq?_of_none hunit) _ _ _
  all_goals
    intros
    exact h

/-! ### Modes, cursor and limits -/

theorem enable_telling (h : Telling start w) :
    enable.Ends w fun _ w' => Telling start w' := by
  refine enable_rule (fun _ _ => h) (fun _ _ => h) (fun _ _ _ => h) fun _ _ _ => (h.set ?_).say _
  exact ⟨rfl, rfl, rfl, rfl, rfl, rfl, rfl⟩

theorem disable_telling (h : Telling start w) :
    disable.Ends w fun _ w' => Telling start w' := by
  refine disable_rule (fun _ _ => h) (fun _ _ => h) (fun _ _ _ => h) (fun _ _ _ _ => h)
    fun _ _ _ _ => (h.set ?_).say _
  exact ⟨rfl, rfl, rfl, rfl, rfl, rfl, rfl⟩

theorem setCursor_telling (h : Telling start w) (cursor : Cursor) (offset : Nat) :
    (setCursor cursor offset).Ends w fun _ w' => Telling start w' := by
  have hset : ∀ view, Telling start (w.withCoordinator { w.db.coordinator with view := view }) :=
    fun view => h.set ⟨rfl, rfl, rfl, rfl, rfl, rfl, rfl⟩
  exact setCursor_rule (fun _ _ => h) (fun _ _ _ => h) (fun _ _ _ => h) (fun _ _ _ => hset _)
    fun _ _ _ => hset _

/-- A lower limit of live layers is enforced before anything is told. -/
theorem setMaxSize_yielding (horderly : w.Orderly) (h : w.Heeded)
    (hpoisoned : w.db.poisoned = false) (limit : Nat) :
    (setMaxSize limit).Ends w fun _ w' =>
      w.Yielding (w.makesPending (.call (.setMaxSize limit))) w' := by
  have hcount : w.db.coordinator.stopped? = none → 0 < limit →
      w.makesPending (.call (.setMaxSize limit)) = w.db.coordinator.depth - limit :=
    fun hstopped hpos => if_pos ⟨hpoisoned, hstopped, hpos⟩
  have hset : w.db.coordinator.SameStory { w.db.coordinator with maxSize := limit } :=
    ⟨rfl, rfl, rfl, rfl, rfl, rfl, rfl⟩
  apply setMaxSize_rule
  case refused =>
    intro error herror
    refine h.telling.yielding horderly.sound (if_neg ?_)
    exact fun hruns => by cases hruns.2.1.symm.trans herror
  case zero =>
    rintro _ rfl
    exact h.telling.yielding horderly.sound (if_neg fun hruns => Nat.lt_irrefl 0 hruns.2.2)
  case kept =>
    intro hstopped hpos hle
    exact (h.telling.set hset).yielding horderly.sound
      ((hcount hstopped hpos).trans (Nat.sub_eq_zero_of_le hle))
  case solidified =>
    intro hstopped hpos _
    rw [hcount hstopped hpos]
    exact (solidify_yielding (w := w.withCoordinator { w.db.coordinator with maxSize := limit })
      horderly.sound.names (h.telling.set hset).toHeeded (h.publishes hstopped) _).mono
      fun _ _ hend => hend.1.after hset

theorem setMaxFlushCount_telling (horderly : w.Orderly) (h : Telling start w) (limit : Nat) :
    (setMaxFlushCount limit).Ends w fun _ w' => Telling start w' := by
  have hset : Telling start (w.withCoordinator { w.db.coordinator with maxFlushCount := limit }) :=
    h.set ⟨rfl, rfl, rfl, rfl, rfl, rfl, rfl⟩
  apply setMaxFlushCount_rule
  case refused => exact fun _ _ => h
  case zero => exact fun _ _ => h
  case kept => exact fun _ _ _ => hset
  case flushed =>
    intro hstopped _ _
    exact (flushOldest_telling
      (w := w.withCoordinator { w.db.coordinator with maxFlushCount := limit })
      horderly.sound.names hset (h.publishes hstopped) _).mono fun _ _ hend => hend.1

/-! ### Tables -/

theorem addTable_telling (h : Telling start w) (name root : String) :
    (addTable name root).Ends w fun _ w' => Telling start w' := by
  refine addTable_rule (fun _ _ => h) (fun _ _ => h) fun _ _ => (h.set ?_).say _
  exact ⟨rfl, rfl, rfl, rfl, rfl, rfl, rfl⟩

theorem writeDirect_telling (h : Telling start w) (chain : Chain) (key : Bytes) (entry : Entry) :
    (writeDirect chain key entry).Ends w fun _ w' => Telling start w' := by
  refine (writeDirect_ends w chain key entry).mono fun r w' hend => ?_
  obtain ⟨-, rfl⟩ := hend
  exact h.aside (h.healthy.write _ _).2 ⟨rfl, rfl, rfl, rfl, rfl, rfl, rfl⟩

theorem writeEntry_telling (horderly : w.Orderly) (h : Telling start w) (table : Nat)
    (key : Bytes) (entry : Entry) :
    (writeEntry table key entry).Ends w fun _ w' => Telling start w' := by
  apply writeEntry_rule
  case refused => exact fun _ _ => h
  case unknown => exact fun _ _ => h
  case put => exact fun _ _ _ _ => h.set ⟨rfl, rfl, rfl, rfl, rfl, rfl, rfl⟩
  case flushed =>
    intro chain hstopped _ _ _
    refine (flushOldest_telling horderly.sound.names h (h.publishes hstopped) _).mono
      fun r w₁ hend => ?_
    cases r with
    | ok => exact writeDirect_telling hend.1 chain key entry
    | error fault => exact hend.1
  case direct => exact fun chain _ _ _ _ => writeDirect_telling h chain key entry

/-! ### Starting and stopping -/

/-- Carrying a record out is not told of, and with stores that do not fail
it is carried out. -/
theorem check_telling (hsound : w.db.coordinator.Sound) (h : Telling start w)
    (hpoisoned : w.db.poisoned = false) : check.Ends w fun _ w' => Telling start w' := by
  -- The replay changes only stores, so the story and the chains stay what they
  -- were at every write.
  let R : World → World → Prop := fun _ w' => Telling start w' ∧ w'.db.coordinator.Sound
  have hwrite : ∀ w' store batch, R w w' → R w (w'.withDisk (w'.disk.write store batch).2) :=
    fun w' store batch h' =>
      ⟨h'.1.aside (h'.1.healthy.write store batch).2 ⟨rfl, rfl, rfl, rfl, rfl, rfl, rfl⟩, h'.2⟩
  have hhalt : ∀ w' table source, R w w' → R w (w'.halt table source) :=
    fun w' table source h' =>
      ⟨h'.1.aside h'.1.healthy ⟨rfl, rfl, rfl, rfl, rfl, rfl, rfl⟩,
        h'.2.congr (Coordinator.sameStacks_halted _)⟩
  have hrecover : recoverRunning.Ends w (Led R w) := by
    refine recoverRunning_led hpoisoned ⟨h, hsound⟩ fun _ record _ => ?_
    have hsay : R w (w.say (.journalFound record.size)) := ⟨h.say _, hsound⟩
    refine (replay_keeps hsay _ record (fun w' h' chain _ batch _ => hwrite w' _ _ h')
      (fun w' h' => hwrite w' _ _ h') hhalt).mono fun r w' h' => ?_
    match r with
    | .ok () => exact h'
    | .error (.error error) => exact h'
    | .error .panic => exact ⟨h'.1.leaves (.error .panic : Except Fault Unit), h'.2⟩
  refine (check_of_recoverRunning (fun _ h' => h'.2) hrecover).mono fun r w' hend => ?_
  match r, hend with
  | .ok _, hend => exact hend.1
  | .error (.error error), hend => exact hend.1
  | .error .panic, hend => exact hend.1.aside hend.1.healthy ⟨rfl, rfl, rfl, rfl, rfl, rfl, rfl⟩

theorem flushLeft_telling (hnames : w.db.coordinator.tableNames.Nodup) (h : Telling start w)
    (hpublishing : w.db.coordinator.publishing = true) :
    flushLeft.Ends w fun _ w' => Telling start w' := by
  have hflush : flushAll.Ends w fun _ w' => Telling start w' :=
    flushAll_rule (fun _ => h.say _) fun _ =>
      (flushOldest_telling hnames h hpublishing _).mono fun _ _ hend => hend.1
  -- It publishes no more events, but then it is shut down.
  have hstop : ∀ w', Telling start w' → Telling start (w'.withCoordinator
      { w'.db.coordinator with shutDown := true, publishing := false }.bump) := by
    intro w' h'
    refine h'.step h'.healthy (fun hup => ?_) ⟨.aside rfl rfl rfl rfl, (List.append_nil _).symm⟩
    cases hup
  rw [ends_flushLeft]
  refine hflush.mono fun r w' hend => ?_
  match r with
  | .ok () => exact (hstop w' hend).say _
  | .error (.error error) => exact (hstop w' hend).say _
  | .error .panic => exact hend

theorem stop_telling (horderly : w.Orderly) (h : Telling start w)
    (hpoisoned : w.db.poisoned = false) : stop.Ends w fun _ w' => Telling start w' := by
  apply stop_rule
  case stopped => exact fun _ => h
  case revoked =>
    intro unit hup _
    have hsay : Telling start (w.say .shuttingDownWithSession) := h.say _
    have hsound : (w.say .shuttingDownWithSession).db.coordinator.Sound := horderly.sound
    rw [ends_revokeLeft]
    refine ((revokeUnit_led hsound hpoisoned).and
      (revokeUnit_telling hsound hsay (h.publishing hup))).mono fun r w₁ hend => ?_
    obtain ⟨⟨rfl, hpath, -, -⟩, h₁, hpublishing₁⟩ := hend
    exact flushLeft_telling (hpath.sound hsound).names h₁ hpublishing₁
  case flushed =>
    exact fun hup _ => flushLeft_telling horderly.sound.names h (h.publishing hup)

/-- An operation leaves a database in order, and tells of what it does. -/
theorem leaves_telling {α : Type} {body : Operation α} (move : Move) (horderly : w.Orderly)
    (hsteps : body.Ends w (Led (Steps move) w))
    (htelling : body.Ends w fun _ w' => Telling start w') :
    body.Ends w (Leaves fun w' => w'.Orderly ∧ Telling start w') := by
  refine (hsteps.and htelling).mono fun r w' hend => ?_
  match r, hend with
  | .ok _, hend => exact ⟨Steps.orderly hend.1 horderly, hend.2⟩
  | .error (.error error), hend => exact ⟨Steps.orderly hend.1 horderly, hend.2⟩
  | .error .panic, hend =>
    exact ⟨Steps.orderly hend.1 horderly, hend.2.leaves (.error .panic : Except Fault α)⟩

end Operation

namespace World

open Operation

variable {start w : World}

/-- Whatever is done under the lock goes on with the story, if it makes no
room. -/
theorem telling_routine : Routine fun w => w.Orderly ∧ Telling start w where
  say notice h := ⟨h.1.congr (.refl _) rfl, h.2.say notice⟩
  bus h := ⟨h.1.congr (.refl _) rfl, h.2.aside h.2.healthy ⟨rfl, rfl, rfl, rfl, rfl, rfl, rfl⟩⟩
  addTable name root _ h hpoisoned :=
    leaves_telling (.call (.addTable name root)) h.1 (addTable_steps hpoisoned rfl name root)
      (addTable_telling h.2 name root)
  commitSession session _ h hpoisoned :=
    leaves_telling .close h.1 (commitSession_steps h.1 hpoisoned rfl session)
      (commitSession_telling h.1 h.2 session)
  abandonSession session status hopened hcommitted _ h hpoisoned :=
    leaves_telling .close h.1
      (abandonSession_steps h.1 hpoisoned rfl session hopened hcommitted)
      (abandonSession_telling h.1 h.2 session status)
  revoke _ h hpoisoned :=
    leaves_telling .close h.1 (revoke_steps h.1 hpoisoned rfl) (revoke_telling h.1 h.2)
  merge _ h hpoisoned :=
    leaves_telling .close h.1 (merge_steps h.1 hpoisoned) (merge_telling h.1 h.2)
  popMany count verify _ h hpoisoned :=
    leaves_telling .close h.1 (popMany_steps h.1 hpoisoned count verify)
      (popMany_telling h.2 count verify)
  enable _ h hpoisoned :=
    leaves_telling (.call .enable) h.1 (enable_steps hpoisoned rfl) (enable_telling h.2)
  disable _ h hpoisoned :=
    leaves_telling (.call .disable) h.1 (disable_steps hpoisoned rfl) (disable_telling h.2)
  setCursor cursor offset _ h _ :=
    leaves_telling .close h.1 (setCursor_steps cursor offset)
      (setCursor_telling h.2 cursor offset)
  setMaxFlushCount limit _ h hpoisoned :=
    leaves_telling .close h.1 (setMaxFlushCount_steps h.1 hpoisoned limit)
      (setMaxFlushCount_telling h.1 h.2 limit)
  check _ h hpoisoned :=
    leaves_telling _ h.1 (check_steps h.1 hpoisoned) (check_telling h.1.sound h.2 hpoisoned)
  stop _ h hpoisoned :=
    leaves_telling .close h.1 (stop_steps h.1 hpoisoned rfl)
      (stop_telling h.1 h.2 hpoisoned)
  writeEntry table key entry _ h hpoisoned :=
    leaves_telling _ h.1 (writeEntry_steps h.1 hpoisoned ⟨table, ""⟩ key entry)
      (writeEntry_telling h.1 h.2 table key entry)

/-- A command under the lock that makes room first. -/
theorem Yielding.locked {α : Type} {body : Operation α} {move : Move} (h : w.Heeded)
    (horderly : w.Orderly) (hbody : w.db.poisoned = false →
      body.Ends w fun _ w' => w.Yielding (w.makesPending move) w') :
    (Operation.locked body).Ends w fun _ w' => w.Yielding (w.makesPending move) w' := by
  apply locked_path (R := fun w w' => w.Yielding (w.makesPending move) w')
  · exact fun hpoisoned =>
      h.telling.yielding horderly.sound (makesPending_of_poisoned hpoisoned move)
  · intro hpoisoned
    refine (hbody hpoisoned).mono fun r w' hend => ?_
    match r, hend with
    | .ok _, hend => exact hend
    | .error (.error _), hend => exact hend
    | .error .panic, ⟨s, hyields, hend⟩ =>
      exact ⟨s, hyields, hend.leaves (.error .panic : Except Fault α)⟩

/-- Every move that sets no store to fail makes room if it has to, and goes
on with a story. -/
theorem Heeded.act (h : w.Heeded) (horderly : w.Orderly) {move : Move}
    (hplan : ∀ store plan, move ≠ .setPlan store (some plan)) :
    w.Yielding (w.makesPending move) (move.act w) := by
  have hstart : w.Orderly ∧ Telling w w := ⟨horderly, h.telling⟩
  cases move with
  | setPlan store plan =>
    cases plan with
    | some plan => exact absurd rfl (hplan store plan)
    | none =>
      have hset : Telling w (w.withDisk (w.disk.setPlan store none)) :=
        h.telling.aside (h.healthy.setPlan_none store) ⟨rfl, rfl, rfl, rfl, rfl, rfl, rfl⟩
      exact hset.yielding horderly.sound rfl
  | close => exact Telling.yielding (telling_routine.drop hstart).2 horderly.sound rfl
  | call command =>
    cases command with
    | openSession force =>
      exact Ends.answer _ (Yielding.locked h horderly fun hpoisoned =>
        openSession_yielding horderly h hpoisoned force)
    | setMaxSize limit =>
      exact Ends.done (Yielding.locked h horderly fun hpoisoned =>
        setMaxSize_yielding horderly h hpoisoned limit)
    | _ => exact Telling.yielding (telling_routine.run hstart rfl).2 horderly.sound rfl

/-- What a move tells begins at its outset, leads to the state after the
move, and gives the number of live levels after each event. -/
def Narrates (w : World) (move : Move) : Prop :=
  ∃ told, (move.act w).db.coordinator.published = w.db.coordinator.published ++ told ∧
    (w.outset move).hearAll told = some (move.act w).db.coordinator.copy ∧
    (w.outset move).GivesDepths told

theorem Yielding.narrates {move : Move} (h : w.Yielding (w.makesPending move) (move.act w)) :
    w.Narrates move := by
  obtain ⟨s, hyields, htelling⟩ := h
  obtain ⟨told, hpublished, hheard, hdepths⟩ := htelling.story.heard
  have hcopy : s.db.coordinator.copy = w.outset move := hyields.copy
  rw [hyields.published] at hpublished
  rw [hcopy] at hheard hdepths
  exact ⟨told, hpublished, hheard, hdepths⟩

theorem Yielding.faithful {count : Nat} {w' : World} (h : w.Yielding count w')
    (hw : w.db.coordinator.Faithful) : w'.db.coordinator.Faithful := by
  obtain ⟨s, hyields, htelling⟩ := h
  refine htelling.story.faithful (hw.congr hyields.published ?_ hyields.nextSeq hyields.openSeq?)
  exact congrArg Copy.levels hyields.copy

/-- The events retell every run that sets no store to fail. -/
theorem Heeded.play (h : w.Heeded) (horderly : w.Orderly) (hw : w.db.coordinator.Faithful)
    {moves : List Move} (hplans : ∀ store plan, .setPlan store (some plan) ∉ moves) :
    (w.play moves).Heeded ∧ (w.play moves).db.coordinator.Faithful := by
  induction moves generalizing w with
  | nil => exact ⟨h, hw⟩
  | cons move moves ih =>
    have hact := h.act horderly fun store plan (heq : move = _) =>
      hplans store plan (heq ▸ List.mem_cons_self)
    have hfaithful := hact.faithful hw
    obtain ⟨s, -, htelling⟩ := hact
    exact ih htelling.toHeeded (horderly.act move) hfaithful fun store plan hmem =>
      hplans store plan (List.mem_cons_of_mem _ hmem)

/-- In every run in which no store fails and someone listens, whoever
retells the published events gets the levels, after every operation up to
the last.

The layers are pushed with increasing numbers, and none is committed
twice. A commit names the newest level, and only a level is popped that
was committed. The events of each move lead a copy that also counts the
pending levels from the state before the move, once it has made room, to
the state after it, and each gives the number of levels that are live
right after it. -/
theorem events_retell (disk : Disk) (configuration : Configuration) (journal : String)
    (handlers : List Handler) (moves : List Move)
    (hlisteners : (⟨handlers, configuration.logEvents⟩ : Listeners).any = true)
    (hhealthy : disk.Healthy) (hplans : ∀ store plan, .setPlan store (some plan) ∉ moves) :
    let w₀ := opened disk configuration journal handlers
    let c := (w₀.play moves).db.coordinator
    Event.retellAll c.published = some c.levels ∧
    (pushedIn c.published).Pairwise (· < ·) ∧ (committedIn c.published).Nodup ∧
    EachTold Event.InTurn c.published ∧
    ∀ earlier move, earlier ++ [move] <+: moves → (w₀.play earlier).Narrates move := by
  intro w₀ c
  have horderly : ∀ earlier, (w₀.play earlier).Orderly :=
    play_orderly disk configuration journal handlers
  have hstart : w₀.Heeded := ⟨hhealthy, fun _ => hlisteners⟩
  have hplay : ∀ earlier, earlier <+: moves →
      (w₀.play earlier).Heeded ∧ (w₀.play earlier).db.coordinator.Faithful :=
    fun earlier hinitial => hstart.play (horderly []) (Coordinator.faithful_new _ _ _)
      fun store plan hmem => hplans store plan (hinitial.subset hmem)
  obtain ⟨-, hfaithful⟩ := hplay moves (List.prefix_refl _)
  refine ⟨hfaithful.retold, hfaithful.pushes_increase, hfaithful.committed_once,
    hfaithful.inTurn, fun earlier move hinitial => ?_⟩
  have hearlier := (hplay earlier ((List.prefix_append _ _).trans hinitial)).1
  refine (hearlier.act (horderly earlier) ?_).narrates
  rintro store plan rfl
  exact hplans store plan (hinitial.subset (List.mem_append_right _ List.mem_cons_self))

/-- Of three units of work, the third finds the chains full: the level of the
first becomes pending and is flushed, and only then is the new layer pushed.
It is popped, the second is revoked, and the layer of a fourth goes into the
root when the database is shut down. -/
theorem events_retell_flush_and_pop :
    let before : List Move := [.call (.addTable "a" "left"), .call (.openSession false),
      .call .commit, .call (.openSession false), .call (.write ⟨0, "a"⟩ [1] (.value [10])),
      .call .commit]
    let third : Move := .call (.openSession false)
    let after : List Move := [.call .commit, .call (.popMany 1 true), .call .revoke,
      .call (.openSession false), .call .commit, .call .shutdown]
    let moves : List Move := before ++ third :: after
    let w₀ := opened .empty { maxSize := 2, maxFlushCount := 1 } "journal" [⟨.flush, false⟩]
    let c := (w₀.play moves).db.coordinator
    c.published.map (fun event => (event.kind, event.depth?)) =
      [(.pushLayer, some 1), (.commitSession, none), (.pushLayer, some 2), (.commitSession, none),
        (.flush, some 1), (.pushLayer, some 2), (.commitSession, none), (.popLayer, some 1),
        (.revokeLayer, some 0), (.pushLayer, some 1), (.commitSession, none), (.flush, some 0)] ∧
      pushedIn c.published = [1, 2, 3, 4] ∧
      (w₀.play before).outset third = ⟨[1, 2], 1⟩ ∧
      (∀ store plan, .setPlan store (some plan) ∉ moves) ∧
      Event.retellAll c.published = some c.levels ∧ (committedIn c.published).Nodup ∧
      (w₀.play before).Narrates third := by
  intro before third after moves w₀ c
  have hplans : ∀ store plan, .setPlan store (some plan) ∉ moves := fun _ _ => by
    simp [moves, before, third, after]
  obtain ⟨hretold, -, honce, -, hnarrates⟩ :=
    events_retell .empty { maxSize := 2, maxFlushCount := 1 } "journal" [⟨.flush, false⟩] moves
      rfl (Disk.healthy_of_forall nofun) hplans
  have hthird : before ++ [third] <+: moves := ⟨after, List.append_assoc before [third] after⟩
  -- Both sides name the run in the same words, so that it is not carried out
  -- to compare them.
  simp only [c, w₀]
  exact ⟨by decide +kernel, by decide +kernel, by decide +kernel, hplans, hretold, honce,
    hnarrates before third hthird⟩

end World

end LayeredStore

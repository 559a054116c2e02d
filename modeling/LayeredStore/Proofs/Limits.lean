import LayeredStore.Proofs.Upkeep
import LayeredStore.Proofs.Transitions

/-!
# `LayeredStore.Proofs.Limits`: the limits of the chains and of the cursor

As many layers are live as the database allows, and no more; fewer wait
to be flushed than force a flush; and the cursor leaves out no more
layers than are live. The layers move in pushes and discards, when they
become pending and when they are flushed, and each of these can fail
halfway, so the limits are looked at after every one of them.

* `Coordinator.Formed` is what a flush needs and no operation breaks, and
  `Coordinator.Bounded` adds the limits of the live layers.
* `World.Bounded` adds that of the pending ones. It holds while the
  database runs: a flush that is stopped leaves its layers pending.
* `bounded_upkeep`: every operation under the lock keeps the limits.
* `limits_hold`: so they hold after every run.
-/

set_option autoImplicit false

namespace LayeredStore

open World

namespace Coordinator

/-- Every table can be found by its name, no more levels are pending than
there are, and both limits are positive. -/
structure Formed (c : Coordinator) : Prop where
  names : c.tableNames.Nodup
  pending_le : c.pending ≤ c.levels.length
  maxSize_pos : 0 < c.maxSize
  maxFlushCount_pos : 0 < c.maxFlushCount

/-- No more layers are live than may be, and the cursor leaves out no more
than are live. -/
structure Bounded (c : Coordinator) : Prop extends Formed c where
  depth_le : c.depth ≤ c.maxSize
  offset_le : c.cursorOffset ≤ c.depth

section
variable {c c' : Coordinator}

theorem bounded_new (configuration : Configuration) (journal : String) (publishing : Bool) :
    (new configuration journal publishing).Bounded where
  names := .nil
  pending_le := Nat.le_refl 0
  maxSize_pos := Nat.lt_of_lt_of_le Nat.zero_lt_one (Nat.le_max_right _ _)
  maxFlushCount_pos := Nat.lt_of_lt_of_le Nat.zero_lt_one (Nat.le_max_right _ _)
  depth_le := Nat.zero_le _
  offset_le := Nat.le_refl 0

theorem Formed.congr (h : c.Formed) (htables : c'.registered = c.registered)
    (hpending : c'.pending ≤ c'.levels.length) (hmaxSize : c'.maxSize = c.maxSize)
    (hmaxFlushCount : c'.maxFlushCount = c.maxFlushCount) : c'.Formed where
  names := by
    rw [tableNames_eq, htables, ← tableNames_eq]
    exact h.names
  pending_le := hpending
  maxSize_pos := hmaxSize ▸ h.maxSize_pos
  maxFlushCount_pos := hmaxFlushCount ▸ h.maxFlushCount_pos

/-- The limits say nothing of sessions, modes and events. -/
theorem Bounded.congr (h : c.Bounded) (htables : c'.registered = c.registered)
    (hlevels : c'.levels = c.levels) (hpending : c'.pending = c.pending)
    (hmaxSize : c'.maxSize = c.maxSize) (hmaxFlushCount : c'.maxFlushCount = c.maxFlushCount)
    (hview : c'.view = c.view) : c'.Bounded where
  toFormed := h.toFormed.congr htables (by rw [hlevels, hpending]; exact h.pending_le) hmaxSize
    hmaxFlushCount
  depth_le := by
    rw [depth, hlevels, hpending, hmaxSize]
    exact h.depth_le
  offset_le := by
    rw [cursorOffset, depth, hlevels, hpending, hview]
    exact h.offset_le

@[simp] theorem depth_clampCursor (c : Coordinator) : c.clampCursor.depth = c.depth := by
  unfold clampCursor
  split <;> rfl

/-- Clamping the cursor changes nothing but the cursor. -/
theorem limits_clampCursor (c : Coordinator) : c.clampCursor.pending = c.pending ∧
    c.clampCursor.levels = c.levels ∧ c.clampCursor.maxSize = c.maxSize ∧
    c.clampCursor.maxFlushCount = c.maxFlushCount := by
  unfold clampCursor
  split <;> exact ⟨rfl, rfl, rfl, rfl⟩

theorem cursorOffset_clampCursor_le (c : Coordinator) :
    c.clampCursor.cursorOffset ≤ c.clampCursor.depth := by
  rw [depth_clampCursor]
  unfold clampCursor
  cases hview : c.view with
  | head hidden => exact Nat.min_le_right _ _
  | solidity =>
    rw [cursorOffset, hview]
    exact Nat.zero_le _

/-- Whatever happened to the layers, the cursor is within its limit once
it was clamped. -/
theorem Formed.clampCursor (h : c.Formed) (hdepth : c.depth ≤ c.maxSize) :
    c.clampCursor.Bounded where
  toFormed := h.congr (sameStacks_clampCursor c).registered
    (by rw [(limits_clampCursor c).1, (limits_clampCursor c).2.1]; exact h.pending_le)
    (limits_clampCursor c).2.2.1 (limits_clampCursor c).2.2.2
  depth_le := by
    rw [depth_clampCursor, (limits_clampCursor c).2.2.1]
    exact hdepth
  offset_le := cursorOffset_clampCursor_le c

/-! ### Changes to the layers -/

theorem Formed.solidify (h : c.Formed) (count : Nat) : (c.solidify count).bump.Formed :=
  h.congr (registered_mapTables c fun _ => ⟨rfl, rfl⟩) (Nat.min_le_right _ _) rfl rfl

/-- As many layers are live as before, but for those that became
pending. -/
theorem depth_solidify (c : Coordinator) (count : Nat) :
    (c.solidify count).depth = c.depth - count := by
  show c.levels.length - min (c.pending + count) c.levels.length =
    c.levels.length - c.pending - count
  omega

theorem depth_dropOldest_le (c : Coordinator) (count : Nat) :
    (c.dropOldest count).depth ≤ c.depth := by
  show (c.levels.drop count).length - (c.pending - count) ≤ c.levels.length - c.pending
  rw [List.length_drop]
  omega

theorem Bounded.dropOldest (h : c.Bounded) (count : Nat) :
    (c.dropOldest count).clampCursor.Bounded := by
  refine Formed.clampCursor
    (h.toFormed.congr (registered_mapTables c fun _ => ⟨rfl, rfl⟩) ?_ rfl rfl)
    (Nat.le_trans (c.depth_dropOldest_le count) h.depth_le)
  show c.pending - count ≤ (c.levels.drop count).length
  have := h.pending_le
  rw [List.length_drop]
  omega

theorem Bounded.discardHead (h : c.Bounded) (hdepth : 0 < c.depth) :
    c.discardHead.bump.clampCursor.Bounded := by
  have hlive : c.pending < c.levels.length := Nat.lt_of_sub_pos hdepth
  refine Formed.clampCursor (h.toFormed.congr (registered_mapTables c name_root_discardHead) ?_ rfl
    rfl) (Nat.le_trans ?_ h.depth_le)
  · show c.pending ≤ c.levels.dropLast.length
    rw [List.length_dropLast]
    omega
  · show c.levels.dropLast.length - c.pending ≤ c.levels.length - c.pending
    rw [List.length_dropLast]
    omega

/-- A layer is pushed where there is room for one. -/
theorem Bounded.push (h : c.Bounded) (hroom : c.depth < c.maxSize) : c.push.bump.Bounded := by
  have hlength : c.push.bump.levels.length = c.levels.length + 1 := List.length_append
  have hpending := h.pending_le
  have hdepth : c.push.bump.depth = c.depth + 1 := by
    show c.push.bump.levels.length - c.pending = c.levels.length - c.pending + 1
    omega
  refine ⟨h.toFormed.congr (registered_mapTables c fun _ => ⟨rfl, rfl⟩) ?_ rfl rfl, ?_, ?_⟩
  · show c.pending ≤ c.push.bump.levels.length
    omega
  · show c.push.bump.depth ≤ c.maxSize
    omega
  · have hoffset : c.cursorOffset ≤ c.depth := h.offset_le
    show c.cursorOffset ≤ c.push.bump.depth
    omega

theorem Bounded.register (h : c.Bounded) {chain : Chain} (hname : chain.name ∉ c.tableNames) :
    { c with tables := c.tables ++ [chain] }.bump.Bounded where
  names := by
    show ((c.tables ++ [chain]).map (·.name)).Nodup
    rw [List.map_append]
    refine List.nodup_append.mpr ⟨h.names, List.pairwise_singleton _ _, ?_⟩
    intro other hother new hnew heq
    have hother' : other = chain.name := heq.trans (List.mem_singleton.mp hnew)
    exact hname (hother' ▸ hother)
  pending_le := h.pending_le
  maxSize_pos := h.maxSize_pos
  maxFlushCount_pos := h.maxFlushCount_pos
  depth_le := h.depth_le
  offset_le := h.offset_le

theorem Bounded.announce (h : c.Bounded) (event : Event) : (c.announce event).Bounded := by
  unfold Coordinator.announce
  split
  · exact h.congr rfl rfl rfl rfl rfl rfl
  · exact h

/-- Publishing an event changes nothing but the list of events. -/
theorem limits_announce (c : Coordinator) (event : Event) :
    (c.announce event).pending = c.pending ∧ (c.announce event).depth = c.depth ∧
      (c.announce event).maxSize = c.maxSize ∧
      (c.announce event).maxFlushCount = c.maxFlushCount := by
  unfold Coordinator.announce
  split <;> exact ⟨rfl, rfl, rfl, rfl⟩

end

end Coordinator

/-! ### Flushes -/

namespace FlushEnd

variable {w w' : World} {n : Nat} {r : Except Fault Unit}

/-- However a flush ends, the layers and the cursor are within their
limits if they were. -/
theorem bounded (h : FlushEnd w n r w') (hbounded : w.db.coordinator.Bounded) :
    w'.db.coordinator.Bounded := by
  have hhalted : ∀ {c : Coordinator}, c.Bounded → Coordinator.Bounded { c with halted := true } :=
    fun h => h.congr rfl rfl rfl rfl rfl rfl
  cases h with
  | nothing | crashed => exact hbounded
  | unfit | halted => exact hhalted hbounded
  | unclearedHalted => exact hhalted (hbounded.dropOldest n)
  | unclearedCrashed => exact hbounded.dropOldest n
  | finished hn hfits h hc =>
    subst hc
    have hbump : (w.db.coordinator.dropOldest n).clampCursor.bump.Bounded :=
      (hbounded.dropOldest n).congr rfl rfl rfl rfl rfl rfl
    exact hbump.announce _

/-- A flush makes no layer live, and does not touch the limits. -/
theorem limits (h : FlushEnd w n r w') :
    w'.db.coordinator.depth ≤ w.db.coordinator.depth ∧
      w'.db.coordinator.maxSize = w.db.coordinator.maxSize ∧
      w'.db.coordinator.maxFlushCount = w.db.coordinator.maxFlushCount := by
  have hdrop : (w.db.coordinator.dropOldest n).clampCursor.depth ≤ w.db.coordinator.depth ∧
      (w.db.coordinator.dropOldest n).clampCursor.maxSize = w.db.coordinator.maxSize ∧
      (w.db.coordinator.dropOldest n).clampCursor.maxFlushCount =
        w.db.coordinator.maxFlushCount := by
    rw [Coordinator.depth_clampCursor]
    exact ⟨w.db.coordinator.depth_dropOldest_le n, (Coordinator.limits_clampCursor _).2.2⟩
  cases h with
  | nothing | unfit | halted | crashed => exact ⟨Nat.le_refl _, rfl, rfl⟩
  | unclearedHalted | unclearedCrashed => exact hdrop
  | finished hn hfits h hc =>
    subst hc
    obtain ⟨-, hdepth, hmaxSize, hmaxFlushCount⟩ := Coordinator.limits_announce
      (w.db.coordinator.dropOldest n).clampCursor.bump
      (.flush n (w.db.coordinator.netRecord n).size
        (w.db.coordinator.dropOldest n).clampCursor.bump.depth)
    exact ⟨Nat.le_trans (Nat.le_of_eq hdepth) hdrop.1, hmaxSize.trans hdrop.2.1,
      hmaxFlushCount.trans hdrop.2.2⟩

/-- A flush that succeeds leaves the layers pending that were and are not
among those flushed. -/
theorem pending_of_ok (h : FlushEnd w n (.ok ()) w') :
    w'.db.coordinator.pending = w.db.coordinator.pending - n := by
  by_cases hn : 0 < n
  · exact (h.sameStacks_of_ok hn).pending
  · cases h with
    | nothing hzero => rw [hzero, Nat.sub_zero]
    | finished hpos => exact absurd hpos hn

end FlushEnd

namespace World

/-- The layers and the cursor are within their limits, and while the
database runs, fewer layers are pending than force a flush. -/
structure Bounded (w : World) : Prop where
  coordinator : w.db.coordinator.Bounded
  pending_lt : w.Running → w.db.coordinator.pending < w.db.coordinator.maxFlushCount

section
variable {w : World}

theorem Bounded.say (h : w.Bounded) (notice : Notice) : (w.say notice).Bounded :=
  ⟨h.coordinator, h.pending_lt⟩

theorem Bounded.withDisk (h : w.Bounded) (disk : Disk) : (w.withDisk disk).Bounded :=
  ⟨h.coordinator, h.pending_lt⟩

theorem Bounded.halt (h : w.Bounded) (table : String) (source : IoError) :
    (w.halt table source).Bounded :=
  ⟨h.coordinator.congr rfl rfl rfl rfl rfl rfl, fun hrun => nomatch hrun.2⟩

/-- A change that makes no layer pending and does not set the database
going again. -/
theorem Bounded.set (h : w.Bounded) {c : Coordinator} (hc : c.Bounded)
    (hpending : c.pending = w.db.coordinator.pending)
    (hmaxFlushCount : c.maxFlushCount = w.db.coordinator.maxFlushCount)
    (hhalted : c.halted = w.db.coordinator.halted) : (w.withCoordinator c).Bounded := by
  refine ⟨hc, fun hrun => ?_⟩
  have hlt := h.pending_lt ⟨hrun.1, hhalted ▸ hrun.2⟩
  show c.pending < c.maxFlushCount
  rwa [hpending, hmaxFlushCount]

/-- A change that the limits say nothing of. -/
theorem Bounded.settings (h : w.Bounded) {c : Coordinator}
    (htables : c.registered = w.db.coordinator.registered)
    (hlevels : c.levels = w.db.coordinator.levels) (hpending : c.pending = w.db.coordinator.pending)
    (hmaxSize : c.maxSize = w.db.coordinator.maxSize)
    (hmaxFlushCount : c.maxFlushCount = w.db.coordinator.maxFlushCount)
    (hview : c.view = w.db.coordinator.view) (hhalted : c.halted = w.db.coordinator.halted) :
    (w.withCoordinator c).Bounded :=
  h.set (h.coordinator.congr htables hlevels hpending hmaxSize hmaxFlushCount hview) hpending
    hmaxFlushCount hhalted

theorem Bounded.announce (h : w.Bounded) (event : Event) :
    (w.withCoordinator (w.db.coordinator.announce event)).Bounded :=
  h.set (h.coordinator.announce event) (Coordinator.limits_announce _ _).1
    (Coordinator.limits_announce _ _).2.2.2 (Coordinator.halted_announce _ _)

end

end World

namespace Operation

variable {w : World}

/-! ### Levels -/

/-- How an operation that moves layers ends: within the limits, and after
a success without a layer live that was not. -/
structure MovesWithin (w : World) (depth : Nat) (r : Except Fault Unit) (w' : World) : Prop where
  bounded : Leaves World.Bounded r w'
  depth_le : r = .ok () → w'.db.coordinator.depth ≤ depth
  maxSize : w'.db.coordinator.maxSize = w.db.coordinator.maxSize

/-- A flush keeps the limits, if it takes enough of the pending layers:
one that fails stops the database. -/
theorem flushOldest_bounded (hbounded : w.db.coordinator.Bounded) {count : Nat}
    (hpending : w.db.coordinator.pending - count < w.db.coordinator.maxFlushCount) :
    (flushOldest count).Ends w (MovesWithin w w.db.coordinator.depth) := by
  refine (flushOldest_ends w hbounded.names count).mono fun r w' hend => ?_
  obtain ⟨hdepth, hmaxSize, hmaxFlushCount⟩ := hend.limits
  refine ⟨?_, fun _ => hdepth, hmaxSize⟩
  match r, hend with
  | .ok (), hend =>
    refine ⟨hend.bounded hbounded, fun _ => ?_⟩
    have hle := hbounded.pending_le
    rw [hend.pending_of_ok, hmaxFlushCount]
    omega
  | .error (.error error), hend =>
    exact ⟨hend.bounded hbounded, fun hrun => nomatch hend.halted_of_error.symm.trans hrun.2⟩
  | .error .panic, hend => exact ⟨hend.bounded hbounded, fun hrun => nomatch hrun.1⟩

/-- A flush of all that is pending keeps the limits. -/
theorem flushOldest_leaves (hbounded : w.db.coordinator.Bounded) {count : Nat}
    (hcount : w.db.coordinator.pending ≤ count) :
    (flushOldest count).Ends w (Leaves World.Bounded) := by
  refine (flushOldest_bounded hbounded ?_).mono fun _ _ hend => hend.bounded
  rw [Nat.sub_eq_zero_of_le hcount]
  exact hbounded.maxFlushCount_pos

/-- Making layers pending keeps the limits, if it leaves no more live
than may be. -/
theorem solidify_bounded (hformed : w.db.coordinator.Formed) {count : Nat}
    (hdepth : w.db.coordinator.depth - count ≤ w.db.coordinator.maxSize) :
    (solidify count).Ends w (MovesWithin w (w.db.coordinator.depth - count)) := by
  apply solidify_rule
  -- In `w₁` the layers are pending. The flush at the limit starts from there.
  intro w₁ hw₁
  obtain ⟨-, -, hmaxSize, -⟩ :=
    Coordinator.limits_clampCursor (w.db.coordinator.solidify count).bump
  have hmaxSize₁ : w₁.db.coordinator.maxSize = w.db.coordinator.maxSize := by
    subst hw₁
    exact hmaxSize
  have hdepth₁ : w₁.db.coordinator.depth = w.db.coordinator.depth - count := by
    subst hw₁
    exact (Coordinator.depth_clampCursor _).trans (w.db.coordinator.depth_solidify count)
  have hbounded₁ : w₁.db.coordinator.Bounded := by
    subst hw₁
    refine (hformed.solidify count).clampCursor ?_
    show (w.db.coordinator.solidify count).depth ≤ w.db.coordinator.maxSize
    rwa [Coordinator.depth_solidify]
  refine ⟨fun hbelow => ⟨⟨hbounded₁, fun _ => hbelow⟩, fun _ => Nat.le_of_eq hdepth₁, hmaxSize₁⟩,
    fun _ => ?_⟩
  have hpending : w₁.db.coordinator.pending - w₁.db.coordinator.pending <
      w₁.db.coordinator.maxFlushCount := by
    rw [Nat.sub_self]
    exact hbounded₁.maxFlushCount_pos
  exact (flushOldest_bounded hbounded₁ hpending).mono fun r w' hend =>
    ⟨hend.bounded, hdepth₁ ▸ hend.depth_le, hend.maxSize.trans hmaxSize₁⟩

/-- Where room was made, one more layer may be live. -/
theorem makeRoom_bounded (h : w.Bounded) :
    makeRoom.Ends w fun r w' => Leaves World.Bounded r w' ∧
      (r = .ok () → w'.db.coordinator.depth < w'.db.coordinator.maxSize) := by
  have hpos := h.coordinator.maxSize_pos
  have hle := h.coordinator.depth_le
  apply makeRoom_rule
  case roomy => exact fun hroom => ⟨h, fun _ => hroom⟩
  case full =>
    intro _
    refine (solidify_bounded h.coordinator.toFormed (by omega)).mono fun r w' hend =>
      ⟨hend.bounded, fun hr => ?_⟩
    have hdepth := hend.depth_le hr
    have hmaxSize := hend.maxSize
    omega

theorem pushLevel_bounded (h : w.Bounded)
    (hroom : w.db.coordinator.depth < w.db.coordinator.maxSize) :
    pushLevel.Ends w (Leaves World.Bounded) := by
  rw [ends_pushLevel_cases]
  cases w.db.coordinator.outOfStep? with
  | some chain => exact h.settings (Coordinator.registered_putBack _) rfl rfl rfl rfl rfl rfl
  | none =>
    have hpush := h.set (h.coordinator.push hroom) rfl rfl rfl
    exact (hpush.say _).announce _

theorem advance_bounded (h : w.Bounded) : advance.Ends w (Leaves World.Bounded) := by
  rw [ends_advance]
  refine (makeRoom_bounded h).mono_cases
    (fun _ _ hend => pushLevel_bounded hend.1 (hend.2 rfl)) fun fault _ hend => ?_
  cases fault <;> exact hend.1

theorem retreat_bounded (h : w.Bounded) (operation : String) (verified? : Option Bool) :
    (retreat operation verified?).Ends w (Leaves World.Bounded) := by
  by_cases hdepth : w.db.coordinator.depth = 0
  · rw [ends_retreat_of_empty hdepth]
    exact h
  · have hpos : 0 < w.db.coordinator.depth := Nat.pos_of_ne_zero hdepth
    rw [ends_retreat hpos]
    have hlimits := Coordinator.limits_clampCursor w.db.coordinator.discardHead.bump
    have hdiscard := h.set (h.coordinator.discardHead hpos) hlimits.1 hlimits.2.2.2
      (Coordinator.halted_clampCursor _)
    exact (hdiscard.say _).announce _

/-! ### Sessions -/

theorem leaveForced_bounded (h : w.Bounded) :
    leaveForced.Ends w (Leaves World.Bounded) := by
  rw [ends_leaveForced]
  split
  · exact h.settings rfl rfl rfl rfl rfl rfl rfl
  · exact h

theorem openSession_bounded (force : Bool) : Upholds World.Bounded (openSession force) := by
  intro w h _
  apply openSession_rule
  case refused => exact fun _ _ => h
  case joined =>
    intro unit _ _
    have hjoin : (w.withCoordinator (w.db.coordinator.joinUnit unit)).Bounded :=
      h.settings rfl rfl rfl rfl rfl rfl rfl
    exact hjoin.say _
  case passed => exact fun _ _ _ _ => h.settings rfl rfl rfl rfl rfl rfl rfl
  case pushed =>
    intro _ _ _
    have hforced : (w.withCoordinator w.db.coordinator.force).Bounded :=
      h.settings rfl rfl rfl rfl rfl rfl rfl
    refine (advance_bounded hforced).mono fun r w₁ hend => ?_
    match r, hend with
    | .ok seq, hend => exact World.Bounded.settings hend rfl rfl rfl rfl rfl rfl rfl
    | .error .panic, hend => exact hend
    | .error (.error error), hend =>
      dsimp only
      split
      · exact hend
      · exact World.Bounded.settings hend rfl rfl rfl rfl rfl rfl rfl

theorem revokeUnit_bounded (h : w.Bounded) :
    revokeUnit.Ends w (Leaves World.Bounded) := by
  apply revokeUnit_rule
  case idle => exact fun _ => h
  case closed =>
  rintro unit c - rfl
  refine ⟨fun _ => ?_, fun _ _ => ?_⟩
  · have hcounted := h.settings (c := { w.db.coordinator with
      openUnit := none
      statuses := (w.db.coordinator.resolveOpen unit .revoked).statuses
      passThroughRevokes := w.db.coordinator.passThroughRevokes + 1 }) rfl rfl rfl rfl rfl rfl rfl
    exact leaveForced_bounded (hcounted.say _)
  · have hclosed : (w.withCoordinator { w.db.coordinator with
        openUnit := none
        statuses := (w.db.coordinator.resolveOpen unit .revoked).statuses }).Bounded :=
      h.settings rfl rfl rfl rfl rfl rfl rfl
    exact (retreat_bounded hclosed "revoke" none).mono_cases
      (fun _ _ hend => leaveForced_bounded hend) fun _ _ => id

theorem settleForced_bounded (h : w.Bounded) :
    settleForced.Ends w (Leaves World.Bounded) := by
  apply settleForced_rule
  case plain => exact fun _ => h
  case forced =>
    intro _
    exact (flushOldest_leaves h.coordinator h.coordinator.pending_le).mono_cases
      (fun _ _ hend => leaveForced_bounded hend) fun _ _ => id

theorem finishUnit_bounded (h : w.Bounded) :
    finishUnit.Ends w (Leaves World.Bounded) := by
  have hclosed : (w.withCoordinator w.db.coordinator.withoutUnit).Bounded :=
    h.settings rfl rfl rfl rfl rfl rfl rfl
  apply finishUnit_rule
  case idle => exact fun _ => h
  case passed => exact fun _ _ _ => settleForced_bounded hclosed
  case sealed =>
    rintro unit seq c - - rfl
    have hsealed := hclosed.settings (c := w.db.coordinator.withoutUnit.sealHeads)
      (Coordinator.registered_mapTables _ (Coordinator.name_root_modifyHead _)) rfl rfl rfl rfl rfl
      rfl
    exact settleForced_bounded ((hsealed.say _).announce _)

theorem commitSession_bounded (session : Nat) : Upholds World.Bounded (commitSession session) := by
  intro w h _
  apply commitSession_rule
  case committed => exact fun _ => h
  case failed => exact fun _ => h
  case refused => exact fun _ _ _ => h
  case stray => exact fun _ _ _ => h
  case resolved =>
    intro unit _ _ _ _ w₁
    have hset : w₁.Bounded := h.settings rfl rfl rfl rfl rfl rfl rfl
    exact ⟨fun _ => hset,
      fun _ _ => (revokeUnit_bounded hset).mono_cases (fun _ _ => id) fun _ _ => id,
      fun _ _ => finishUnit_bounded hset⟩

theorem abandonSession_bounded (session : Nat) (status : SessionStatus) :
    Upholds World.Bounded (abandonSession session status) := by
  intro w h _
  apply abandonSession_rule
  case closed => exact fun _ => h
  case stray => exact fun _ _ => h.settings rfl rfl rfl rfl rfl rfl rfl
  case resolved =>
    intro unit c _ _ _ hc
    have hset : (w.withCoordinator c).Bounded := by
      subst hc
      exact h.settings rfl rfl rfl rfl rfl rfl rfl
    exact ⟨fun _ => hset.say _, fun _ => revokeUnit_bounded hset⟩

/-! ### History -/

theorem revoke_bounded : Upholds World.Bounded revoke := by
  intro w h _
  apply revoke_rule
  case refused => exact fun _ _ => h
  case counted =>
    intro _ _ _
    have hcounted : (w.withCoordinator { w.db.coordinator with
        passThroughRevokes := w.db.coordinator.passThroughRevokes + 1 }).Bounded :=
      h.settings rfl rfl rfl rfl rfl rfl rfl
    exact hcounted.say _
  case empty => exact fun _ _ _ => h
  case unit => exact fun _ _ _ _ => revokeUnit_bounded h
  case level => exact fun _ _ _ _ => retreat_bounded h "revoke" none

theorem merge_bounded : Upholds World.Bounded merge := by
  intro w h _
  exact merge_rule (fun _ _ => h) (fun _ _ => h) (fun _ _ _ _ => h)
    fun _ _ _ _ => flushOldest_leaves h.coordinator (Nat.le_succ _)

theorem retreatMany_bounded (h : w.Bounded) (operation : String) (verify : Bool) (count : Nat) :
    (retreatMany operation verify count).Ends w (Leaves World.Bounded) := by
  induction count generalizing w with
  | zero => exact h
  | succ count ih =>
    rw [ends_retreatMany_succ]
    exact (retreat_bounded h operation (some verify)).mono_cases (fun _ _ hend => ih hend)
      fun _ _ => id

theorem popMany_bounded (count : Nat) (verify : Bool) :
    Upholds World.Bounded (popMany count verify) := by
  intro w h _
  apply popMany_rule rfl
  case popped => exact fun _ _ _ _ _ => retreatMany_bounded h _ _ _
  all_goals
    intros
    exact h

/-! ### Modes, cursor and limits -/

theorem enable_bounded : Upholds World.Bounded enable := by
  intro w h _
  have henabled : (w.withCoordinator { w.db.coordinator with enabled := true }.bump).Bounded :=
    h.settings rfl rfl rfl rfl rfl rfl rfl
  exact enable_rule (fun _ _ => h) (fun _ _ => h) (fun _ _ _ => h) fun _ _ _ => henabled.say _

theorem disable_bounded : Upholds World.Bounded disable := by
  intro w h _
  have hdisabled : (w.withCoordinator { w.db.coordinator with enabled := false }.bump).Bounded :=
    h.settings rfl rfl rfl rfl rfl rfl rfl
  exact disable_rule (fun _ _ => h) (fun _ _ => h) (fun _ _ _ => h) (fun _ _ _ _ => h)
    fun _ _ _ _ => hdisabled.say _

/-- Only an offset within the limit is accepted. -/
theorem setCursor_bounded (cursor : Cursor) (offset : Nat) :
    Upholds World.Bounded (setCursor cursor offset) := by
  intro w h _
  apply setCursor_rule
  case refused => exact fun _ _ => h
  case solidityOffset => exact fun _ _ _ => h
  case tooFar => exact fun _ _ _ => h
  case solidity =>
    exact fun _ _ _ => h.set { h.coordinator with offset_le := Nat.zero_le _ } rfl rfl rfl
  case head =>
    exact fun _ _ hoffset => h.set { h.coordinator with offset_le := hoffset } rfl rfl rfl

theorem setMaxSize_bounded (limit : Nat) : Upholds World.Bounded (setMaxSize limit) := by
  intro w h _
  apply setMaxSize_rule
  case refused => exact fun _ _ => h
  case zero => exact fun _ _ => h
  case kept =>
    intro _ hlimit hle
    exact h.set { h.coordinator with maxSize_pos := hlimit, depth_le := hle } rfl rfl rfl
  case solidified =>
    intro _ hlimit _
    -- More layers are live than may be from now on.
    have hformed : (w.withCoordinator { w.db.coordinator with
        maxSize := limit }).db.coordinator.Formed :=
      { h.coordinator with maxSize_pos := hlimit }
    refine (solidify_bounded hformed ?_).mono fun _ _ hend => hend.bounded
    show w.db.coordinator.depth - (w.db.coordinator.depth - limit) ≤ limit
    omega

theorem setMaxFlushCount_bounded (limit : Nat) :
    Upholds World.Bounded (setMaxFlushCount limit) := by
  intro w h _
  have hbounded : 0 < limit → (w.withCoordinator { w.db.coordinator with
      maxFlushCount := limit }).db.coordinator.Bounded :=
    fun hlimit => { h.coordinator with maxFlushCount_pos := hlimit }
  apply setMaxFlushCount_rule
  case refused => exact fun _ _ => h
  case zero => exact fun _ _ => h
  case kept => exact fun _ hlimit hbelow => ⟨hbounded hlimit, fun _ => hbelow⟩
  case flushed => exact fun _ hlimit _ => flushOldest_leaves (hbounded hlimit) (Nat.le_refl _)

/-! ### Tables -/

theorem addTable_bounded (name root : String) : Upholds World.Bounded (addTable name root) := by
  intro w h _
  apply addTable_rule
  case refused => exact fun _ _ => h
  case duplicate => exact fun _ _ => h
  case registered =>
    exact fun _ hfresh => World.Bounded.say (h.set (h.coordinator.register hfresh) rfl rfl rfl) _

theorem writeDirect_bounded (h : w.Bounded) (chain : Chain) (key : Bytes) (entry : Entry) :
    (writeDirect chain key entry).Ends w (Leaves World.Bounded) := by
  rw [ends_writeDirect]
  split
  · exact h.withDisk _
  · exact h.withDisk _
  · exact ⟨h.coordinator, fun hrun => nomatch hrun.1⟩

theorem writeEntry_bounded (table : Nat) (key : Bytes) (entry : Entry) :
    Upholds World.Bounded (writeEntry table key entry) := by
  intro w h _
  apply writeEntry_rule
  case refused => exact fun _ _ => h
  case unknown => exact fun _ _ => h
  case put =>
    exact fun _ _ _ _ => h.settings
      (Coordinator.registered_modifyTable _ _ (Coordinator.name_root_modifyHead _)) rfl rfl rfl rfl
      rfl rfl
  case flushed =>
    intro chain _ _ _ _
    exact (flushOldest_leaves h.coordinator (Nat.le_refl _)).mono_cases
      (fun _ _ hend => writeDirect_bounded hend chain key entry) fun _ _ => id
  case direct => exact fun chain _ _ _ _ => writeDirect_bounded h chain key entry

/-! ### Starting and stopping -/

/-- A replay writes to the stores and can halt the database, and does not
move layers. -/
theorem check_bounded : Upholds World.Bounded check := by
  intro w h hpoisoned
  have hrecover : recoverRunning.Ends w (Leaves World.Bounded) := by
    refine recoverRunning_led (R := fun _ => World.Bounded) hpoisoned h fun _ record _ => ?_
    refine (replay_keeps (h.say _) _ record (fun _ h _ _ _ _ => h.withDisk _)
      (fun _ h => h.withDisk _) fun _ table source h => h.halt table source).mono fun r w' h => ?_
    match r with
    | .ok () => exact h
    | .error (.error error) => exact h
    | .error .panic => exact ⟨h.coordinator, fun hrun => nomatch hrun.1⟩
  rw [ends_check]
  refine hrecover.mono_cases (fun recovered w' h => ?_) fun fault w' h => ?_
  · dsimp only
    split
    · exact h
    · exact h
  · cases fault <;> exact h

theorem flushLeft_bounded (h : w.Bounded) : flushLeft.Ends w (Leaves World.Bounded) := by
  have hall : flushAll.Ends w (Leaves World.Bounded) :=
    flushAll_rule (fun _ => h.say _) fun _ =>
      flushOldest_leaves h.coordinator h.coordinator.pending_le
  have hstop : ∀ w' : World, w'.Bounded → ((w'.withCoordinator
      { w'.db.coordinator with shutDown := true, publishing := false }.bump).say
        .shutDown).Bounded := by
    intro w' h'
    have hset : (w'.withCoordinator
        { w'.db.coordinator with shutDown := true, publishing := false }.bump).Bounded :=
      h'.settings rfl rfl rfl rfl rfl rfl rfl
    exact hset.say _
  rw [ends_flushLeft]
  refine hall.mono fun r w' hend => ?_
  match r, hend with
  | .ok (), hend => exact hstop w' hend
  | .error (.error error), hend => exact hstop w' hend
  | .error .panic, hend => exact hend

theorem revokeLeft_bounded (h : w.Bounded) : revokeLeft.Ends w (Leaves World.Bounded) := by
  rw [ends_revokeLeft]
  refine (revokeUnit_bounded (h.say .shuttingDownWithSession)).mono fun r w₁ hend => ?_
  match r, hend with
  | .ok (), hend => exact hend
  | .error (.error error), hend => exact World.Bounded.say hend (.shutdownRevokeFailed error)
  | .error .panic, hend => exact hend

theorem stop_bounded : Upholds World.Bounded stop := by
  intro w h _
  apply stop_rule
  case stopped => exact fun _ => h
  case revoked =>
    exact fun _ _ _ => (revokeLeft_bounded h).mono_cases (fun _ _ hend => flushLeft_bounded hend)
      fun _ _ => id
  case flushed => exact fun _ _ => flushLeft_bounded h

end Operation

namespace World

open Operation in
/-- Every operation under the lock keeps the limits. -/
theorem bounded_upkeep : Upkeep World.Bounded where
  say notice h := h.say notice
  bus h := ⟨h.coordinator, h.pending_lt⟩
  setPlan _ _ h := h.withDisk _
  addTable := addTable_bounded
  openSession := openSession_bounded
  commitSession := commitSession_bounded
  abandonSession := abandonSession_bounded
  revoke := revoke_bounded
  merge := merge_bounded
  popMany := popMany_bounded
  enable := enable_bounded
  disable := disable_bounded
  setCursor := setCursor_bounded
  setMaxSize := setMaxSize_bounded
  setMaxFlushCount := setMaxFlushCount_bounded
  check := check_bounded
  stop := stop_bounded
  writeEntry := writeEntry_bounded

/-- A cursor that is accepted is the one that was asked for. -/
theorem cursor_of_setCursor (w : World) (cursor : Cursor) (offset : Nat) :
    (Command.setCursor cursor offset).run.Ends w fun r w' => r = .ok .done →
      w'.db.coordinator.cursor = cursor ∧ w'.db.coordinator.cursorOffset = offset := by
  have hbody : (Operation.locked (Operation.setCursor cursor offset)).Ends w fun r w' =>
      r = .ok () → w'.db.coordinator.cursor = cursor ∧ w'.db.coordinator.cursorOffset = offset := by
    rw [Operation.ends_locked]
    split
    · exact nofun
    apply Operation.setCursor_rule
    case refused => exact fun _ _ => nofun
    case solidityOffset => exact fun _ _ _ => nofun
    case tooFar => exact fun _ _ _ => nofun
    case solidity => exact fun _ hcursor hoffset _ => ⟨hcursor.symm, hoffset.symm⟩
    case head => exact fun _ hcursor _ _ => ⟨hcursor.symm, rfl⟩
  show (do Database.setCursor cursor offset; return .done : Operation Reply).Ends w _
  rw [Operation.ends_bind]
  refine hbody.mono fun r w' hend => ?_
  cases r with
  | ok u => exact fun _ => hend rfl
  | error fault => exact nofun

/-- In every state that a run reaches, whichever stores have failed, no
more layers are live than the limit says, and both limits are at least
one. Fewer layers are pending than force a flush, unless the database has
halted, or a store has stopped the program: then the lock lets no one in
who could see the state. At the head, the cursor leaves out no more
layers than are live, and over the pending layers it leaves out none. The
cursor that is accepted is the one that was asked for, so no other is
ever accepted. -/
theorem limits_hold (disk : Disk) (configuration : Configuration) (journal : String)
    (handlers : List Handler) (moves : List Move) :
    let w := (opened disk configuration journal handlers).play moves
    let c := w.db.coordinator
    c.depth ≤ c.maxSize ∧ 1 ≤ c.maxSize ∧ 1 ≤ c.maxFlushCount ∧
    (c.pending < c.maxFlushCount ∨ c.halted = true ∨ ∀ {α : Type} (body : Operation α),
      (Operation.locked body).perform w = (.error (.error (.illegalState .lockPoisoned)), w)) ∧
    (c.cursor = .head → c.cursorOffset ≤ c.depth) ∧
    (c.cursor = .solidity → c.cursorOffset = 0) ∧
    ∀ cursor offset, ((Command.setCursor cursor offset).run.perform w).1 = .ok .done →
      let c' := ((Move.call (.setCursor cursor offset)).act w).db.coordinator
      c'.cursor = cursor ∧ c'.cursorOffset = offset := by
  intro w c
  have hopened : (opened disk configuration journal handlers).Bounded :=
    ⟨Coordinator.bounded_new configuration journal _, fun _ =>
      (Coordinator.bounded_new configuration journal false).maxFlushCount_pos⟩
  have hbounded : w.Bounded := bounded_upkeep.play hopened moves
  refine ⟨hbounded.coordinator.depth_le, hbounded.coordinator.maxSize_pos,
    hbounded.coordinator.maxFlushCount_pos, ?_, fun _ => hbounded.coordinator.offset_le,
    fun hsolidity => ?_, fun cursor offset => w.cursor_of_setCursor cursor offset⟩
  · -- A flush that a store has stopped can leave as many layers pending as
    -- force one. Then the database has halted, or the lock lets no one in.
    cases hpoisoned : w.db.poisoned with
    | true => exact .inr (.inr (Operation.perform_locked_of_poisoned hpoisoned))
    | false =>
      cases hhalted : c.halted with
      | true => exact .inr (.inl rfl)
      | false => exact .inl (hbounded.pending_lt ⟨hpoisoned, hhalted⟩)
  · unfold Coordinator.cursor at hsolidity
    unfold Coordinator.cursorOffset
    cases hview : c.view with
    | head hidden =>
      rw [hview] at hsolidity
      cases hsolidity
    | solidity => rfl

end World

end LayeredStore

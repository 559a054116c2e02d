import LayeredStore.Proofs.Guarded.Rules

/-!
# `LayeredStore.Proofs.Guarded.Safety`: no operation slips

Every operation is safe: there is one lemma for each, in the order in
which they call each other, put together by the rules.

* `safe_flushOldest`, `safe_solidify`, `safe_pushLevel`, `safe_retreat`
  are where the numbers of the chains change.
* `safe_carryOut`: so every command is safe, and `safe_close` letting go
  of the database.
-/

set_option autoImplicit false

namespace LayeredStore

open Operation

namespace Guarded

variable {α : Type} {w : World}

/-! ### Flushes, pushes and discards -/

theorem safe_depth {next : Nat → Guarded α} {body : Operation α}
    (h : Safe (next w.db.coordinator.depth) body w) :
    Safe (liftM w.db.coordinator.guardedDepth >>= next) body w :=
  safe_guard (fun htallies _ => htallies.guardedDepth_eq) h

theorem safe_flushOldest (count : Nat) (w : World) :
    Safe (flushOldest count) (Operation.flushOldest count) w := by
  refine safe_getCoordinator ?_
  dsimp only
  generalize hn : min count w.db.coordinator.levels.length = n
  have hle : n ≤ w.db.coordinator.levels.length := hn ▸ Nat.min_le_right _ _
  refine safe_ite (fun _ => safe_pure ()) fun _ => ?_
  refine safe_guard (fun _ _ => w.db.coordinator.guardedNetRecord_eq n) ?_
  refine safe_steady (steady_flushWrite _ (steady_writeRecord _ _)) fun _ w₁ h₁ => ?_
  refine safe_steady (steady_applyRecord _) fun _ w₂ h₂ => ?_
  -- The layers are still the same when they are taken away.
  have hle₂ : n ≤ w₂.db.coordinator.levels.length := (h₁.trans h₂).levels ▸ hle
  have hdrop : Safe (amend fun c => do (← c.guardedDropOldest n).guardedClampCursor)
      (update fun c => (c.dropOldest n).clampCursor) w₂ := by
    have hclamp := (w₂.db.coordinator.dropOldest n).sameNumbers_clampCursor
    refine safe_amend (Nat.le_of_eq hclamp.nextSeq.symm) fun htallies _ => ?_
    have hdropped := htallies.dropOldest hle₂
    refine ⟨?_, hdropped.congr hclamp⟩
    rw [Coordinator.guardedDropOldest_eq hle₂]
    exact hdropped.guardedClampCursor_eq
  refine hdrop.bind fun _ w₃ => ?_
  refine safe_steady (steady_flushWrite _ (steady_write _ _)) fun _ w₄ _ => ?_
  refine safe_steady (steady_update fun _ => by constructor <;> rfl) fun _ w₅ _ => ?_
  refine safe_getCoordinator <| safe_depth ?_
  exact safe_steady (steady_note _) fun _ _ _ => safe_lift (steady_publish _)

theorem safe_solidify {count : Nat}
    (hcount : w.db.coordinator.Tallies → count ≤ w.db.coordinator.depth) :
    Safe (solidify count) (Operation.solidify count) w := by
  have hsolid : Safe (amend fun c => do (← c.guardedSolidify count).bump.guardedClampCursor)
      (update fun c => (c.solidify count).bump.clampCursor) w := by
    have hclamp := (w.db.coordinator.solidify count).bump.sameNumbers_clampCursor
    refine safe_amend (Nat.le_of_eq hclamp.nextSeq.symm) fun htallies hbound => ?_
    have hbumped : (w.db.coordinator.solidify count).bump.Tallies :=
      (htallies.solidify count).congr ⟨rfl, rfl, rfl, rfl, rfl⟩
    refine ⟨?_, hbumped.congr hclamp⟩
    have hsum : w.db.coordinator.pending + count < 2 ^ 64 := by
      have hlive : count ≤ w.db.coordinator.levels.length - w.db.coordinator.pending :=
        hcount htallies
      have hnext : w.db.coordinator.nextSeq < 2 ^ 64 := hclamp.nextSeq ▸ hbound
      have := htallies.pending_le
      have := htallies.levels_lt
      omega
    rw [htallies.guardedSolidify_eq hsum]
    exact hbumped.guardedClampCursor_eq
  refine hsolid.bind fun _ w₁ => safe_getCoordinator ?_
  refine safe_steady (steady_note _) fun _ w₂ _ => ?_
  exact safe_ite (fun _ => safe_flushOldest _ w₂) fun _ => safe_pure ()

theorem safe_makeRoom (w : World) : Safe makeRoom Operation.makeRoom w := by
  refine safe_getCoordinator <| safe_depth <| safe_ite (fun hfull => ?_) fun _ => safe_pure ()
  have hone : w.db.coordinator.Tallies → w.db.coordinator.nextSeq < 2 ^ 64 →
      plus w.db.coordinator.depth 1 = .ok (w.db.coordinator.depth + 1) := by
    intro htallies hbound
    have hdepth : w.db.coordinator.depth ≤ w.db.coordinator.levels.length := Nat.sub_le _ _
    have := htallies.levels_lt
    exact plus_eq (by omega)
  refine safe_depth <| safe_guard hone ?_
  refine safe_guard (fun _ _ => minus_eq (Nat.le_succ_of_le hfull)) ?_
  refine safe_solidify fun htallies => ?_
  have := htallies.maxSize_pos
  omega

/-- Where the numbers do not tally, nothing is asked of the guards. -/
theorem safe_of_not_tallies {guarded : Guarded α} {body : Operation α}
    (h : ¬w.db.coordinator.Tallies)
    (hle : body.Ends w fun _ w' => w.db.coordinator.nextSeq ≤ w'.db.coordinator.nextSeq) :
    Safe guarded body w :=
  Ends.mono hle fun _ _ hle => ⟨hle, fun htallies => absurd htallies h⟩

theorem safe_pushLevel (w : World) : Safe pushLevel Operation.pushLevel w := by
  refine safe_getCoordinator ?_
  refine safe_guard (fun htallies _ => htallies.guardedPushTables_eq [] (List.Subset.refl _)) ?_
  have htables : w.db.coordinator.Tallies → w.db.coordinator.pushTables [] w.db.coordinator.tables =
      .ok (w.db.coordinator.tables.map (·.push w.db.coordinator.nextSeq)) := by
    intro htallies
    refine w.db.coordinator.pushTables_of_none (List.find?_eq_none.mpr fun chain hmem => ?_)
    simp [(htallies.inStep chain hmem).1]
  cases hpush : w.db.coordinator.pushTables [] w.db.coordinator.tables with
  | error found =>
    -- Where the numbers tally, no table is out of step, so the loop over the
    -- tables succeeds.
    refine safe_of_not_tallies (fun htallies => ?_) (Nat.le_refl _)
    rw [htables htallies] at hpush
    cases hpush
  | ok tables =>
    have hadd : Safe
        (amend fun c => do return (← { c with tables := tables }.guardedAddLevel).bump)
        (update fun c => { c with tables := tables }.addLevel.bump) w := by
      refine safe_amend (Nat.le_succ _) fun htallies hbound => ⟨?_, ?_⟩
      · rw [Coordinator.guardedAddLevel_eq hbound]
        rfl
      · rw [htables htallies] at hpush
        cases hpush
        exact htallies.push.congr ⟨rfl, rfl, rfl, rfl, rfl⟩
    refine hadd.bind fun _ w₁ => safe_getCoordinator <| safe_depth ?_
    refine safe_steady (steady_note _) fun _ _ _ => ?_
    exact safe_steady (steady_publish _) fun _ _ _ => safe_pure _

theorem safe_advance (w : World) : Safe advance Operation.advance w :=
  (safe_makeRoom w).bind fun _ => safe_pushLevel

theorem safe_retreat (operation : String) (verified? : Option Bool) (w : World) :
    Safe (retreat operation verified?) (Operation.retreat operation verified?) w := by
  refine safe_getCoordinator <| safe_depth <| safe_ite (fun _ => safe_fail _) fun hdepth => ?_
  have hdiscard : Safe (amend fun c => do (← c.guardedDiscardHead).bump.guardedClampCursor)
      (update fun c => c.discardHead.bump.clampCursor) w := by
    have hclamp := w.db.coordinator.discardHead.bump.sameNumbers_clampCursor
    refine safe_amend (Nat.le_of_eq hclamp.nextSeq.symm) fun htallies _ => ?_
    have hbumped : w.db.coordinator.discardHead.bump.Tallies :=
      (htallies.discardHead (Nat.pos_of_ne_zero hdepth)).congr ⟨rfl, rfl, rfl, rfl, rfl⟩
    refine ⟨?_, hbumped.congr hclamp⟩
    rw [htallies.guardedDiscardHead_eq]
    exact hbumped.guardedClampCursor_eq
  refine hdiscard.bind fun _ w₁ => safe_getCoordinator <| safe_depth ?_
  refine safe_steady (steady_note _) fun _ _ _ => ?_
  cases verified? <;> exact safe_lift (steady_publish _)

/-! ### Sessions -/

theorem safe_openSession (force : Bool) (w : World) :
    Safe (openSession force) (Operation.openSession force) w := by
  refine safe_steady steady_ensureRunning fun _ w₁ _ => safe_getCoordinator ?_
  dsimp only
  cases w₁.db.coordinator.openUnit with
  | some unit =>
    refine safe_steady (steady_update fun _ => by constructor <;> rfl) fun _ w₂ _ => ?_
    refine safe_getCoordinator <| safe_steady (steady_note _) fun _ _ _ => safe_pure _
  | none =>
    refine safe_ite (fun _ => ?_) fun _ => ?_
    · exact safe_steady (steady_update fun _ => by constructor <;> rfl) fun _ _ _ => safe_pure _
    -- Forcing comes before the same steps.
    refine safe_ite (fun _ => ?_) fun _ => ?_
    on_goal 1 => refine safe_steady (steady_update fun _ => by constructor <;> rfl) fun _ _ _ => ?_
    all_goals
      refine (safe_advance _).attempt.bind fun outcome w₂ => ?_
      cases outcome with
      | ok seq =>
        exact safe_steady (steady_update fun _ => by constructor <;> rfl) fun _ _ _ => safe_pure _
      | error error =>
        refine safe_ite (fun _ => ?_) fun _ => safe_fail error
        exact safe_steady (steady_update fun _ => by constructor <;> rfl) fun _ _ _ =>
          safe_fail error

theorem safe_revokeUnit (w : World) : Safe revokeUnit Operation.revokeUnit w := by
  refine safe_getCoordinator ?_
  cases w.db.coordinator.openUnit with
  | none => exact safe_pure ()
  | some unit =>
    have hclose : (update fun c => { c with openUnit := none }.resolveOpen unit .revoked).Steady :=
      steady_update fun c => Coordinator.SameNumbers.trans (by constructor <;> rfl)
        (Coordinator.sameNumbers_resolveOpen { c with openUnit := none } unit .revoked)
    refine safe_steady hclose fun _ w₁ _ => ?_
    cases unit.seq with
    | none =>
      refine safe_steady (steady_update fun _ => by constructor <;> rfl) fun _ w₂ _ => ?_
      exact safe_steady (steady_note _) fun _ _ _ => safe_lift steady_leaveForced
    | some seq => exact (safe_retreat "revoke" none w₁).bind fun _ _ => safe_lift steady_leaveForced

theorem safe_sealUnit (seq : Nat) (w : World) : Safe (sealUnit seq) (Operation.sealUnit seq) w := by
  have hseal : Safe (amend (·.guardedSealHeads)) (update (·.sealHeads)) w :=
    safe_amend (Nat.le_refl _) fun htallies _ => ⟨htallies.guardedSealHeads_eq, htallies.sealHeads⟩
  refine hseal.bind fun _ w₁ => safe_getCoordinator <| safe_depth ?_
  refine safe_steady (steady_note _) fun _ w₂ h₂ => ?_
  refine safe_guard (fun htallies _ => ?_) (safe_lift (steady_publish _))
  exact (htallies.congr h₂.symm).guardedHeadsDigest_eq

theorem safe_settleForced (w : World) : Safe settleForced Operation.settleForced w := by
  refine safe_getCoordinator <| safe_ite (fun _ => ?_) fun _ => safe_pure ()
  exact (safe_flushOldest _ w).bind fun _ _ => safe_lift steady_leaveForced

theorem safe_finishUnit (w : World) : Safe finishUnit Operation.finishUnit w := by
  refine safe_getCoordinator ?_
  cases w.db.coordinator.openUnit with
  | none => exact safe_pure ()
  | some unit =>
    refine safe_steady (steady_update fun _ => by constructor <;> rfl) fun _ w₁ _ => ?_
    cases unit.seq with
    | none => exact safe_settleForced w₁
    | some seq => exact (safe_sealUnit seq w₁).bind fun _ => safe_settleForced

theorem safe_commitSession (session : Nat) (w : World) :
    Safe (commitSession session) (Operation.commitSession session) w := by
  refine safe_getCoordinator ?_
  cases w.db.coordinator.status session with
  | committed | revoked | abandoned => exact safe_fail _
  | opened =>
    refine safe_steady steady_ensureRunning fun _ w₁ _ => safe_getCoordinator ?_
    refine safe_ite (fun _ => (safe_fail _).bind fun _ _ => ?_) fun _ => ?_
    all_goals
      refine safe_steady (steady_update fun _ => by constructor <;> rfl) fun _ w₂ _ => ?_
      refine safe_getCoordinator ?_
      cases w₂.db.coordinator.openUnit with
      | none => exact safe_pure ()
      | some unit =>
        refine safe_ite (fun _ => safe_pure ()) fun _ => safe_ite (fun _ => ?_) fun _ => ?_
        · exact (safe_revokeUnit w₂).bind fun _ _ => safe_fail _
        · exact safe_finishUnit w₂

theorem safe_commitInnermost (w : World) : Safe commitInnermost Operation.commitInnermost w := by
  refine safe_getCoordinator ?_
  cases w.db.coordinator.innermost? with
  | none => exact safe_fail _
  | some session => exact safe_commitSession session w

theorem safe_abandonSession (session : Nat) (status : SessionStatus) (w : World) :
    Safe (abandonSession session status) (Operation.abandonSession session status) w := by
  refine safe_getCoordinator <| safe_ite (fun _ => ?_) fun _ => safe_pure ()
  refine safe_steady (steady_update fun _ => by constructor <;> rfl) fun _ w₁ _ => ?_
  cases w.db.coordinator.openUnit with
  | none => exact safe_pure ()
  | some unit =>
    refine safe_ite (fun _ => ?_) fun _ => safe_pure ()
    refine safe_steady (steady_update fun _ => by constructor <;> rfl) fun _ w₂ _ => ?_
    refine safe_getCoordinator <| safe_ite (fun _ => ?_) fun _ => safe_revokeUnit w₂
    exact safe_lift (steady_note _)

/-! ### History, modes and limits -/

theorem safe_revoke (w : World) : Safe revoke Operation.revoke w := by
  refine safe_steady steady_ensureRunning fun _ w₁ _ => safe_getCoordinator ?_
  refine safe_ite (fun _ => safe_ite (fun _ => safe_revokeUnit w₁) fun _ => ?_) fun _ => ?_
  · refine safe_steady (steady_update fun _ => by constructor <;> rfl) fun _ _ _ => ?_
    exact safe_lift (steady_note _)
  · refine safe_depth <| safe_ite (fun _ => safe_fail _) fun _ => ?_
    exact safe_ite (fun _ => safe_revokeUnit w₁) fun _ => safe_retreat "revoke" none w₁

theorem safe_merge (w : World) : Safe merge Operation.merge w := by
  refine safe_steady steady_ensureRunning fun _ w₁ _ => safe_getCoordinator <| safe_depth ?_
  cases hlevel : w₁.db.coordinator.levels[w₁.db.coordinator.pending]? with
  | none =>
    have hdepth : w₁.db.coordinator.depth = 0 :=
      Nat.sub_eq_zero_of_le (List.getElem?_eq_none_iff.mp hlevel)
    rw [if_pos hdepth]
    exact safe_fail _
  | some oldestLive =>
    have hlive : w₁.db.coordinator.pending < w₁.db.coordinator.levels.length :=
      (List.getElem?_eq_some_iff.mp hlevel).1
    have hdepth : ¬w₁.db.coordinator.depth = 0 := Nat.sub_ne_zero_of_lt hlive
    rw [if_neg hdepth]
    refine safe_guard (fun _ _ => item_eq hlevel) ?_
    refine safe_ite (fun _ => safe_fail _) fun _ => ?_
    refine safe_guard (fun htallies hbound => plus_eq ?_) (safe_flushOldest _ w₁)
    have := htallies.levels_lt
    omega

theorem safe_retreatMany (operation : String) (verify : Bool) (count : Nat) (w : World) :
    Safe (retreatMany operation verify count) (Operation.retreatMany operation verify count) w := by
  induction count generalizing w with
  | zero => exact safe_pure ()
  | succ count ih => exact (safe_retreat operation (some verify) w).bind fun _ => ih

theorem safe_popMany (count : Nat) (verify : Bool) (w : World) :
    Safe (popMany count verify) (Operation.popMany count verify) w := by
  refine safe_steady steady_ensureRunning fun _ w₁ _ => ?_
  dsimp only
  generalize (if verify then "pop" else "fast pop") = operation
  refine safe_getCoordinator <| safe_ite (fun _ => safe_fail _) fun _ => ?_
  refine safe_ite (fun _ => safe_pure ()) fun _ => safe_depth ?_
  refine safe_ite (fun _ => safe_fail _) fun _ => safe_depth ?_
  refine safe_ite (fun _ => safe_depth (safe_fail _)) fun hcount => ?_
  refine safe_guard (fun htallies _ =>
    htallies.guardedNotPoppable?_eq operation (Nat.le_of_not_lt hcount) verify) ?_
  cases w₁.db.coordinator.notPoppable? operation count verify with
  | some error => exact safe_fail _
  | none => exact safe_retreatMany operation verify count w₁

theorem safe_disable (w : World) : Safe disable Operation.disable w := by
  refine safe_steady steady_ensureRunning fun _ w₁ _ => safe_getCoordinator ?_
  refine safe_ite (fun _ => safe_pure ()) fun _ => safe_ite (fun _ => safe_fail _) fun _ => ?_
  refine safe_ite (fun _ => safe_depth (safe_fail _)) fun _ => ?_
  refine safe_steady (steady_update fun _ => by constructor <;> rfl) fun _ _ _ => ?_
  exact safe_lift (steady_note _)

theorem safe_setCursor (cursor : Cursor) (offset : Nat) (w : World) :
    Safe (setCursor cursor offset) (Operation.setCursor cursor offset) w := by
  refine safe_steady steady_ensureRunning fun _ w₁ _ => safe_getCoordinator ?_
  cases cursor with
  | solidity =>
    refine safe_ite (fun _ => safe_fail _) fun _ => ?_
    exact safe_lift (steady_update fun _ => by constructor <;> rfl)
  | head =>
    refine safe_depth <| safe_ite (fun _ => safe_depth (safe_fail _)) fun _ => ?_
    exact safe_lift (steady_update fun _ => by constructor <;> rfl)

theorem safe_setMaxSize (limit : Nat) (w : World) :
    Safe (setMaxSize limit) (Operation.setMaxSize limit) w := by
  refine safe_steady steady_ensureRunning fun _ w₁ _ => ?_
  refine safe_ite (fun _ => safe_fail _) fun hlimit => ?_
  have hset : Safe (liftM (update fun c => { c with maxSize := limit }))
      (update fun c => { c with maxSize := limit }) w₁ :=
    safe_update (Nat.le_refl _) fun htallies =>
      ⟨htallies.pending_le, htallies.inStep, htallies.levels_lt, Nat.pos_of_ne_zero hlimit⟩
  refine hset.bind fun _ w₂ => safe_getCoordinator <| safe_depth ?_
  refine safe_ite (fun hover => ?_) fun _ => safe_pure ()
  refine safe_depth <| safe_guard (fun _ _ => minus_eq (Nat.le_of_lt hover)) ?_
  exact safe_solidify fun _ => Nat.sub_le _ _

theorem safe_setMaxFlushCount (limit : Nat) (w : World) :
    Safe (setMaxFlushCount limit) (Operation.setMaxFlushCount limit) w := by
  refine safe_steady steady_ensureRunning fun _ w₁ _ => ?_
  refine safe_ite (fun _ => safe_fail _) fun _ => ?_
  refine safe_steady (steady_update fun _ => by constructor <;> rfl) fun _ w₂ _ => ?_
  exact safe_getCoordinator <| safe_ite (fun _ => safe_flushOldest _ w₂) fun _ => safe_pure ()

/-! ### Tables, starting and stopping -/

theorem safe_addTable (name root : String) (w : World) :
    Safe (addTable name root) (Operation.addTable name root) w := by
  refine safe_steady steady_ensureRunning fun _ w₁ _ => safe_getCoordinator ?_
  refine safe_ite (fun _ => safe_fail _) fun _ => ?_
  dsimp only
  set chain := Chain.padded name root w₁.db.coordinator.levels w₁.db.coordinator.pending
    w₁.db.coordinator.openSeq?
  have hregister : Safe (liftM (update fun c => { c with tables := c.tables ++ [chain] }.bump))
      (update fun c => { c with tables := c.tables ++ [chain] }.bump) w₁ :=
    safe_update (Nat.le_refl _) fun htallies =>
      (htallies.register name root w₁.db.coordinator.openSeq?).congr ⟨rfl, rfl, rfl, rfl, rfl⟩
  have hend : (update fun c => { c with tables := c.tables ++ [chain] }.bump).Ends w₁
      fun _ w₂ => w₂ = w₁.withCoordinator
        { w₁.db.coordinator with tables := w₁.db.coordinator.tables ++ [chain] }.bump := rfl
  refine hregister.bind_of hend ?_
  rintro _ w₂ rfl
  refine safe_look <| safe_depth <| safe_steady (steady_note _) fun _ _ _ => ?_
  refine safe_guard_pure fun _ _ => ?_
  have hlength : (w₁.db.coordinator.tables ++ [chain]).length =
      w₁.db.coordinator.tables.length + 1 := List.length_append
  show minus (w₁.db.coordinator.tables ++ [chain]).length 1 = _
  rw [hlength]
  exact minus_eq (Nat.le_add_left 1 _)

theorem safe_writeEntry (table : Nat) (key : Bytes) (entry : Entry) (w : World) :
    Safe (writeEntry table key entry) (Operation.writeEntry table key entry) w := by
  refine safe_steady steady_ensureRunning fun _ w₁ _ => safe_getCoordinator ?_
  cases htable : w₁.db.coordinator.tables[table]? with
  | none => exact safe_pure ()
  | some chain =>
    refine safe_guard (fun htallies _ =>
      Chain.guardedDepth_eq (htallies.chain_pending_le (List.mem_of_getElem? htable))) ?_
    refine safe_ite
      (fun _ => safe_update (Nat.le_refl _) fun h => h.put table key entry) fun _ => ?_
    have hwrite : ∀ w, Safe (liftM (writeDirect chain key entry)) (writeDirect chain key entry) w :=
      fun _ => safe_lift (steady_writeDirect chain key entry)
    exact safe_ite (fun _ => (safe_flushOldest _ w₁).bind fun _ => hwrite) fun _ => hwrite w₁

theorem safe_check (w : World) : Safe check Operation.check w := by
  refine safe_steady steady_recoverRunning fun recovered w₁ _ => safe_getCoordinator ?_
  refine safe_guard (fun htallies hbound => htallies.guardedCheckChains?_eq hbound) ?_
  cases checkChains? w₁.db.coordinator.tables w₁.db.coordinator.levels
    w₁.db.coordinator.pending with
  | some error => exact safe_fail _
  | none => exact safe_depth (safe_pure _)

theorem safe_flushAll (w : World) : Safe flushAll Operation.flushAll w := by
  refine safe_getCoordinator <| safe_ite (fun _ => ?_) fun _ => safe_flushOldest _ w
  exact safe_steady (steady_note _) fun _ _ _ => safe_fail _

theorem safe_revokeLeft (w : World) : Safe revokeLeft Operation.revokeLeft w := by
  refine safe_steady (steady_note _) fun _ w₁ _ => ?_
  refine (safe_revokeUnit w₁).attempt.bind fun outcome w₂ => ?_
  cases outcome with
  | ok => exact safe_pure ()
  | error error => exact safe_lift (steady_note _)

theorem safe_flushLeft (w : World) : Safe flushLeft Operation.flushLeft w := by
  refine (safe_flushAll w).attempt.bind fun flushed w₁ => ?_
  refine safe_steady (steady_update fun _ => by constructor <;> rfl) fun _ w₂ _ => ?_
  exact safe_steady (steady_note _) fun _ _ _ => safe_lift (steady_conclude flushed)

theorem safe_stop (w : World) : Safe stop Operation.stop w := by
  refine safe_getCoordinator <| safe_ite (fun _ => safe_pure ()) fun _ => ?_
  exact safe_ite (fun _ => (safe_revokeLeft w).bind fun _ => safe_flushLeft)
    fun _ => safe_flushLeft w

/-! ### Handles and commands -/

theorem safe_dropSession (session : Session) (w : World) :
    Safe (dropSession session) session.drop w := by
  refine safe_getCoordinator <| safe_ite (fun _ => ?_) fun _ => safe_pure ()
  refine safe_steady (steady_note _) fun _ w₁ _ => safe_get ?_
  refine safe_ite (fun _ => safe_lift (steady_note _)) fun _ => ?_
  refine (safe_abandonSession session.id .abandoned w₁).locked.attempt.bind fun outcome w₂ => ?_
  cases outcome with
  | ok => exact safe_pure ()
  | error error => exact safe_lift (steady_note _)

theorem safe_shutdown (w : World) : Safe shutdown Database.shutdown w := by
  refine safe_get <| safe_ite (fun _ => safe_fail _) fun _ => ?_
  refine (safe_stop w).locked.attempt.bind fun stopped w₁ => ?_
  exact safe_steady steady_stopBus fun _ _ _ => safe_lift (steady_conclude stopped)

theorem safe_close (w : World) : Safe close Database.drop w := by
  refine (safe_shutdown w).attempt.bind fun outcome w₁ => ?_
  cases outcome with
  | ok => exact safe_pure ()
  | error error => exact safe_lift (steady_note _)

/-- Every command is safe. -/
theorem safe_carryOut (command : Command) (w : World) : Safe (carryOut command) command.run w := by
  have hdone : ∀ {guarded : Guarded Unit} {body : Operation Unit}, Safe guarded body w →
      Safe (do guarded; return Reply.done) (do body; return Reply.done) w :=
    fun h => h.bind fun _ _ => safe_pure _
  have huseUp : ∀ {guarded : Guarded Unit} {body : Operation Unit} (session : Session),
      Safe guarded body w → Safe (useUp session guarded) (session.useUp body) w :=
    fun session h => safe_useUp h (safe_dropSession session)
  cases command with
  | addTable name root =>
    have htable : Safe (do return (⟨← addTable name root, name⟩ : Table))
        (do return ⟨← Operation.addTable name root, name⟩) w :=
      (safe_addTable name root w).bind fun _ _ => safe_pure _
    exact htable.locked.bind fun _ _ => safe_pure _
  | openSession force => exact (safe_openSession force w).locked.bind fun _ _ => safe_pure _
  | commitSession session => exact hdone (huseUp session (safe_commitSession session.id w).locked)
  | revokeSession session =>
    exact hdone (huseUp session (safe_abandonSession session.id .revoked w).locked)
  | dropSession session => exact hdone (safe_dropSession session w)
  | commit => exact hdone (safe_commitInnermost w).locked
  | revoke => exact hdone (safe_revoke w).locked
  | merge => exact hdone (safe_merge w).locked
  | popMany count verify => exact hdone (safe_popMany count verify w).locked
  | enable => exact hdone (safe_lift (Steady.locked steady_enable))
  | disable => exact hdone (safe_disable w).locked
  | setCursor cursor offset => exact hdone (safe_setCursor cursor offset w).locked
  | setMaxSize limit => exact hdone (safe_setMaxSize limit w).locked
  | setMaxFlushCount limit => exact hdone (safe_setMaxFlushCount limit w).locked
  | check => exact (safe_check w).locked.bind fun _ _ => safe_pure _
  | shutdown => exact hdone (safe_shutdown w)
  | write table key entry => exact hdone (safe_writeEntry table.index key entry w).locked

/-! ### Reading -/

theorem safe_get? (table : Table) (key : Bytes) (w : World) :
    Safe (get? table key) (table.get? key) w :=
  Safe.locked <| safe_get <| safe_guard_pure fun htallies _ =>
    htallies.guardedGet?_eq w.disk table.index key

theorem safe_readDepth (table : Table) (w : World) : Safe (depth table) table.depth w :=
  Safe.locked <| safe_getCoordinator <| safe_guard_pure fun htallies _ => htallies.guardedDepth_eq

/-- Walking on from a pair does not slip either. -/
theorem next_eq {w : World} (htallies : w.db.coordinator.Tallies) (iter : TableIter) :
    next iter w = .ok (iter.next w) := by
  rw [next, TableIter.next, htallies.guardedNextVisible?_eq]
  split
  · rfl
  split
  · rfl
  split
  · rfl
  cases w.db.coordinator.nextVisible? w.disk iter.table.index iter.after <;> rfl

end Guarded

end LayeredStore

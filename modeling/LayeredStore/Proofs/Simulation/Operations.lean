import LayeredStore.Proofs.Simulation.Sessions

/-!
# `LayeredStore.Proofs.Simulation.Operations`: all other operations over plain maps

What `Sessions.lean` says of sessions is said here of the operations on
history, modes, limits and tables, and of checking and stopping.

* `revoke_answers`, `merge_follows`, `popMany_answers`: both ends of
  history. What these operations find in the newest and in the oldest
  live layer, the plain model knows from the open unit of work alone.
* `setMaxSize_follows`, `setMaxFlushCount_follows`: the limits are
  enforced at once.
* `addTable_follows`, `writeEntry_follows`: registering a table and
  writing to one.
* `check_answers`, `stop_follows`: a check finds nothing wrong, and
  stopping flattens what is committed.
-/

set_option autoImplicit false

namespace LayeredStore

open World

namespace Operation

section
variable {stores : String → Contents} {w : World}

/-! ### History -/

theorem revoke_answers (hsound : w.db.coordinator.Sound) (hrun : w.Running) :
    revoke.Ends w (Answers w.plain.revoke w) := by
  have henabled : w.plain.enabled = w.db.coordinator.enabled := rfl
  have hopenUnit : w.plain.openUnit = w.db.coordinator.openUnit := rfl
  have hopenSeq : w.plain.openUnit.bind (·.seq) = w.db.coordinator.openSeq? := rfl
  have hlive : w.plain.live = w.db.coordinator.depth := rfl
  unfold PlainDatabase.revoke
  rw [hopenSeq, hopenUnit, henabled, hlive]
  apply revoke_rule
  case refused =>
    intro error herror
    obtain ⟨rfl, hshutDown⟩ := plain_shutDown_of_stopped hrun herror
    rw [if_pos hshutDown]
    exact answers_self w _
  case counted =>
    intro hstopped hdisabled hunit
    rw [if_neg (plain_not_shutDown hstopped), hdisabled, hunit]
    exact ⟨rfl, rfl, rfl, rfl, rfl⟩
  case empty =>
    intro hstopped henabled hempty
    rw [if_neg (plain_not_shutDown hstopped), henabled, if_neg (by simp), if_pos hempty]
    exact answers_self w _
  case unit =>
    intro unit hstopped hunit hcase
    rw [if_neg (plain_not_shutDown hstopped), hunit]
    obtain hdisabled | ⟨hdepth, hseq⟩ := hcase
    · rw [hdisabled]
      exact revokeUnit_answers hsound
    -- A level is live, so the newest is the layer of the unit of work.
    have hopen : w.db.coordinator.openSeq?.isSome := by
      rw [Coordinator.openSeq?_of_some hunit, hseq, List.getLast?_isSome]
      exact List.ne_nil_of_length_pos (Nat.lt_of_lt_of_le hdepth (Nat.sub_le _ _))
    rw [if_neg (Nat.ne_of_gt hdepth), if_pos hopen]
    split <;> exact revokeUnit_answers hsound
  case level =>
    intro hstopped henabled hdepth hnewest
    rw [if_neg (plain_not_shutDown hstopped), henabled, if_neg (by simp),
      if_neg (Nat.ne_of_gt hdepth), hsound.openSeq?_eq_none hnewest]
    exact retreat_answers (fun _ => hsound.depth_eq) hdepth "revoke" none

theorem merge_follows (h : w.Ready stores) : merge.Ends w (Follows stores w.plain.merge) := by
  have hlive : w.plain.live = w.db.coordinator.depth := rfl
  have hopenSeq : w.plain.openUnit.bind (·.seq) = w.db.coordinator.openSeq? := rfl
  have hle := h.sound.pending_le
  unfold PlainDatabase.merge
  rw [hlive, hopenSeq]
  apply merge_rule
  case refused =>
    intro error herror
    obtain ⟨rfl, hshutDown⟩ := plain_shutDown_of_stopped h.running herror
    rw [if_pos hshutDown]
    exact h.follows_self _
  case empty =>
    intro hstopped hlevel
    rw [if_neg (plain_not_shutDown hstopped), if_pos (show w.db.coordinator.depth = 0 from
      Nat.sub_eq_zero_of_le (List.getElem?_eq_none_iff.mp hlevel))]
    exact h.follows_self _
  case uncommitted =>
    intro seq hstopped hlevel hopen
    -- The open unit of work owns the newest layer, so this is the only live one.
    obtain ⟨hlt, -⟩ := List.getElem?_eq_some_iff.mp hlevel
    have hlast := h.sound.openLast seq hopen
    rw [List.getLast?_eq_getElem?] at hlast
    have hnodup : w.db.coordinator.levels.Nodup :=
      h.sound.increasing.imp fun hlt => Nat.ne_of_lt hlt
    have hindex := (List.getElem?_inj hlt hnodup).mp (hlevel.trans hlast.symm)
    have hone : w.db.coordinator.depth = 1 := by
      rw [Coordinator.depth]
      omega
    rw [if_neg (plain_not_shutDown hstopped), hone, if_neg Nat.one_ne_zero, hopen]
    exact h.follows_self _
  case flushed =>
    intro seq hstopped hlevel hne
    obtain ⟨hlt, -⟩ := List.getElem?_eq_some_iff.mp hlevel
    have hpos : 0 < w.db.coordinator.depth := Nat.sub_pos_of_lt hlt
    have hmore : w.db.coordinator.openSeq?.isSome → 1 < w.db.coordinator.depth := fun hsome =>
      Nat.lt_sub_of_add_lt (Nat.add_comm _ _ ▸ h.sound.pending_lt hlevel hne hsome)
    have hflush := flushOldest_follows h hpos hmore
    rw [if_neg (plain_not_shutDown hstopped), if_neg (Nat.ne_of_gt hpos)]
    cases hopen : w.db.coordinator.openSeq? with
    | none => exact hflush
    | some other =>
      simp only [if_neg (Nat.ne_of_gt (hmore (by rw [hopen]; rfl)))]
      exact hflush

/-- Discarding layers one after the other, where no unit of work is
open. -/
theorem retreatMany_answers (hsound : w.db.coordinator.Sound) (hrun : w.Running)
    (hclosed : w.db.coordinator.openUnit = none) (operation : String) (verify : Bool) {count : Nat}
    (hcount : count ≤ w.db.coordinator.depth) :
    (retreatMany operation verify count).Ends w
      (Answers (.ok (), PlainDatabase.discardMany count w.plain) w) := by
  induction count generalizing w with
  | zero => exact answers_self w (.ok ())
  | succ count ih =>
    have hopen : w.db.coordinator.openSeq? = none := Coordinator.openSeq?_of_none hclosed
    have hlive : w.db.coordinator.pending < w.db.coordinator.levels.length :=
      Nat.lt_of_sub_pos (Nat.zero_lt_of_lt hcount)
    rw [ends_retreatMany_succ]
    refine ((retreat_answers (fun _ => hsound.depth_eq) (Nat.zero_lt_of_lt hcount) operation
      (some verify)).and (retreat_acts (Coordinator.sameStacks_withoutUnit hopen).symm rfl hrun.1
        (.inl hrun.2) hlive operation (some verify))).mono fun r w₁ h => ?_
    obtain ⟨⟨rfl, hplain, hstill⟩, -, hpath, hunit, -⟩ := h
    have hplain : w₁.plain = w.plain.discard := hplain
    have hdepth : w₁.db.coordinator.depth = w.db.coordinator.depth - 1 := by
      have hlive₁ : w₁.plain.live = w.plain.discard.live := congrArg PlainDatabase.live hplain
      rw [PlainDatabase.discard, PlainDatabase.live_clamp] at hlive₁
      exact hlive₁
    have hrest := ih (hpath.sound hsound) (hstill.running hrun) (hunit.trans hclosed) (by omega)
    rw [hplain] at hrest
    exact hrest.mono fun r w' h => h.after hstill

theorem popMany_answers (hsound : w.db.coordinator.Sound) (hrun : w.Running) (count : Nat)
    (verify : Bool) : (popMany count verify).Ends w
      (Answers (w.plain.popMany (if verify then "pop" else "fast pop") count) w) := by
  have hopenUnit : w.plain.openUnit = w.db.coordinator.openUnit := rfl
  have hlive : w.plain.live = w.db.coordinator.depth := rfl
  unfold popMany PlainDatabase.popMany
  rw [ends_bind, ends_ensureRunning_of_running hrun]
  split
  · exact answers_self w _
  simp only [ends_bind, ends_getCoordinator, ends_ite, hopenUnit, hlive]
  split
  · exact answers_self w _
  rename_i hunit
  have hclosed := Option.not_isSome_iff_eq_none.mp hunit
  split
  · exact answers_self w _
  split
  · exact answers_self w _
  split
  · exact answers_self w _
  rename_i hcount
  rw [hsound.notPoppable?_eq_none (Coordinator.openSeq?_of_none hclosed)]
  exact retreatMany_answers hsound hrun hclosed _ verify (Nat.not_lt.mp hcount)

/-! ### Modes, cursor and limits -/

theorem enable_answers (hrun : w.Running) : enable.Ends w (Answers w.plain.enable w) := by
  have henabled : w.plain.enabled = w.db.coordinator.enabled := rfl
  have hopenUnit : w.plain.openUnit = w.db.coordinator.openUnit := rfl
  unfold enable PlainDatabase.enable
  rw [ends_bind, ends_ensureRunning_of_running hrun]
  split
  · exact answers_self w _
  simp only [ends_bind, ends_getCoordinator, ends_ite, ends_update, ends_note, ends_pure,
    ends_refuse, henabled, hopenUnit]
  split
  · exact answers_self w (.ok ())
  split
  · exact answers_self w _
  · exact ⟨rfl, rfl, rfl, rfl, rfl⟩

theorem disable_answers (hsound : w.db.coordinator.Sound) (hrun : w.Running) :
    disable.Ends w (Answers w.plain.disable w) := by
  have henabled : w.plain.enabled = w.db.coordinator.enabled := rfl
  have hopenUnit : w.plain.openUnit = w.db.coordinator.openUnit := rfl
  have hle := hsound.pending_le
  have hdrained :
      (!w.db.coordinator.levels.isEmpty) = true ↔ 0 < w.plain.pending + w.plain.live := by
    have hsum : w.plain.pending + w.plain.live = w.db.coordinator.levels.length := by
      show w.db.coordinator.pending +
        (w.db.coordinator.levels.length - w.db.coordinator.pending) = _
      omega
    rw [hsum]
    cases w.db.coordinator.levels <;> simp
  unfold disable PlainDatabase.disable
  rw [ends_bind, ends_ensureRunning_of_running hrun]
  split
  · exact answers_self w _
  simp only [ends_bind, ends_getCoordinator, ends_ite, ends_update, ends_note, ends_pure,
    ends_refuse, henabled, hopenUnit, hdrained]
  split
  · exact answers_self w (.ok ())
  split
  · exact answers_self w _
  split
  · exact answers_self w _
  · exact ⟨rfl, rfl, rfl, rfl, rfl⟩

theorem setCursor_answers (hrun : w.Running) (cursor : Cursor) (offset : Nat) :
    (setCursor cursor offset).Ends w (Answers (w.plain.setCursor cursor offset) w) := by
  have hlive : w.plain.live = w.db.coordinator.depth := rfl
  unfold setCursor PlainDatabase.setCursor
  rw [ends_bind, ends_ensureRunning_of_running hrun]
  split
  · exact answers_self w _
  simp only [ends_bind, ends_getCoordinator, hlive]
  cases cursor <;> simp only [ends_ite, ends_reject, ends_update] <;> split
  · exact answers_self w _
  · exact ⟨rfl, rfl, rfl, rfl, rfl⟩
  · exact answers_self w _
  · exact ⟨rfl, rfl, rfl, rfl, rfl⟩

theorem setMaxSize_follows (h : w.Ready stores) (limit : Nat) :
    (setMaxSize limit).Ends w (Follows stores (w.plain.setMaxSize limit)) := by
  unfold setMaxSize PlainDatabase.setMaxSize
  rw [ends_bind, ends_ensureRunning_of_running h.running]
  -- Both sides test the limit against the same depth.
  split
  · exact h.follows_self _
  simp only [ends_bind, ends_getCoordinator, ends_ite, ends_update, ends_pure, ends_reject]
  split
  · exact h.follows_self _
  rename_i hlimit
  have hsame : w.db.coordinator.SameStacks { w.db.coordinator with maxSize := limit } :=
    ⟨rfl, rfl, rfl, rfl, rfl, rfl⟩
  have hready := h.acts (Actually.set .refl hsame rfl) ⟨rfl, rfl, rfl⟩
  have hlive : w.plain.live = w.db.coordinator.depth := rfl
  rw [hlive]
  split
  · rename_i hlt
    have hlt : limit < w.db.coordinator.depth := hlt
    rw [if_pos hlt]
    refine solidify_follows hready fun _ => ?_
    show w.db.coordinator.depth - limit < w.db.coordinator.depth
    omega
  · rename_i hle
    have hle : ¬ limit < w.db.coordinator.depth := hle
    rw [if_neg hle]
    exact hready.follows_self _

theorem setMaxFlushCount_follows (h : w.Ready stores) (limit : Nat) :
    (setMaxFlushCount limit).Ends w (Follows stores (w.plain.setMaxFlushCount limit)) := by
  unfold setMaxFlushCount PlainDatabase.setMaxFlushCount
  rw [ends_bind, ends_ensureRunning_of_running h.running]
  split
  · exact h.follows_self _
  simp only [ends_bind, ends_getCoordinator, ends_ite, ends_update, ends_pure, ends_reject]
  split
  · exact h.follows_self _
  have hsame : w.db.coordinator.SameStacks { w.db.coordinator with maxFlushCount := limit } :=
    ⟨rfl, rfl, rfl, rfl, rfl, rfl⟩
  have hready := h.acts (Actually.set .refl hsame rfl) ⟨rfl, rfl, rfl⟩
  unfold PlainDatabase.limitPending
  split
  · rename_i hle
    have hle : limit ≤ w.plain.pending := hle
    simp only [if_pos hle]
    exact flushOldest_pending_follows hready
  · rename_i hlt
    have hlt : ¬ limit ≤ w.plain.pending := hlt
    simp only [if_neg hlt]
    exact hready.follows_self _

/-! ### Tables -/

/-- Registering a table over a store that is none of those in use yet. -/
theorem addTable_follows (h : w.Ready stores) (name root : String) :
    (do return ⟨← addTable name root, name⟩ : Operation Table).Ends w fun r w' =>
      w'.db.coordinator.DistinctStores →
        Follows stores (w.plain.addTable name (stores root)) r w' := by
  let c := w.db.coordinator
  have hnames : w.plain.tables.map (·.name) = c.tableNames := c.names_plain _
  unfold PlainDatabase.addTable
  rw [hnames, ends_bind]
  apply addTable_rule
  case refused =>
    intro error herror _
    obtain ⟨rfl, hshutDown⟩ := plain_shutDown_of_stopped h.running herror
    rw [if_pos hshutDown]
    exact h.follows_self _
  case duplicate =>
    intro hstopped htaken _
    rw [if_neg (plain_not_shutDown hstopped), if_pos (List.contains_iff_mem.mpr htaken)]
    exact h.follows_self _
  case registered =>
  intro hstopped hfresh
  rw [if_neg (plain_not_shutDown hstopped), if_neg (mt List.contains_iff_mem.mp hfresh)]
  have hplain : Coordinator.plain _ w.disk.contents = _ :=
    Coordinator.plain_register h.sound name root
  have hsound := (h.sound.register hfresh root).congr (Coordinator.sameStacks_bump _)
  have hindex : c.tables.length = w.plain.tables.length := (List.length_map _).symm
  dsimp only
  rw [ends_pure]
  intro hdistinct
  obtain ⟨hroot, hready⟩ : w.disk.contents root = stores root ∧ _ :=
    h.register hdistinct hsound ⟨rfl, rfl, rfl⟩ List.map_append rfl
  rw [hroot] at hplain
  refine .inr ⟨?_, hplain, hready⟩
  show _ = Except.ok (⟨w.plain.tables.length, name⟩ : Table)
  rw [← hindex]

/-- Writing straight to the root of a table. -/
theorem writeDirect_follows (h : w.Ready stores) {table : Nat} {chain : Chain}
    (hregistered : w.db.coordinator.registered[table]? = some (chain.name, chain.root))
    (key : Bytes) (entry : Entry) :
    (writeDirect chain key entry).Ends w (Follows stores (.ok (), { w.plain with
      tables := w.plain.tables.modify table (·.putRoot key entry) })) := by
  obtain ⟨hok, hhealthy⟩ := h.healthy.write chain.root [(key, entry)]
  have hafter := Disk.after_write_ok hok
  have hroot := hafter.contents chain.root
  rw [Contents.afterWrites_singleton] at hroot
  have hother : ∀ store, store ≠ chain.root →
      (w.disk.write chain.root [(key, entry)]).2.contents store = w.disk.contents store := by
    intro store hne
    rw [hafter.contents]
    exact Contents.afterWrites_singleton_of_ne (Ne.symm hne)
  have hmem : chain.root ∈ w.db.coordinator.registered.map (·.2) :=
    List.mem_map_of_mem (List.mem_of_getElem? hregistered)
  -- The root is not the journal, so there is still no record.
  have hjournal : w.db.coordinator.journal ≠ chain.root := by
    have hnodup := (Coordinator.distinctStores_iff _).mp h.distinct
    exact fun heq => (List.nodup_cons.mp hnodup).1 (heq ▸ hmem)
  have hready : (w.withDisk (w.disk.write chain.root [(key, entry)]).2).Ready stores :=
    { sound := h.sound
      running := h.running
      distinct := h.distinct
      healthy := hhealthy
      noRecord := (congrArg (OrderedMap.get? · Journal.key) (hother _ hjournal)).trans h.noRecord
      untouched := fun store hne hunused =>
        (hother store fun heq => hunused (heq ▸ hmem)).trans (h.untouched store hne hunused) }
  rw [ends_writeDirect, hok]
  exact .inr ⟨rfl, Coordinator.plain_putRoot h.distinct hregistered hroot hother, hready⟩

theorem writeEntry_follows (h : w.Ready stores) (table : Nat) (key : Bytes) (entry : Entry) :
    (writeEntry table key entry).Ends w (Follows stores (w.plain.write table key entry)) := by
  let c := w.db.coordinator
  have hlength : w.plain.tables.length = c.tables.length := List.length_map _
  have hlive : w.plain.live = c.depth := rfl
  have hknown : ∀ {chain}, c.tables[table]? = some chain → ¬c.tables.length ≤ table := fun hchain =>
    Nat.not_le_of_lt (List.getElem?_eq_some_iff.mp hchain).1
  have hdepth : ∀ {chain}, c.tables[table]? = some chain → chain.depth = c.depth := fun hchain =>
    h.sound.depth_eq (List.mem_of_getElem? hchain)
  unfold PlainDatabase.write
  rw [hlength, hlive]
  apply writeEntry_rule
  case refused =>
    intro error herror
    obtain ⟨rfl, hshutDown⟩ := plain_shutDown_of_stopped h.running herror
    rw [if_pos hshutDown]
    exact h.follows_self _
  case unknown =>
    intro hstopped hchain
    rw [if_neg (plain_not_shutDown hstopped), if_pos (List.getElem?_eq_none_iff.mp hchain)]
    exact h.follows_self (.ok ())
  case put =>
    intro chain hstopped hchain hpos
    rw [hdepth hchain] at hpos
    rw [if_neg (plain_not_shutDown hstopped), if_neg (hknown hchain), if_pos hpos]
    have hsound := h.sound.put table key entry
    refine .inr ⟨rfl, ?_, h.congr hsound ⟨rfl, rfl, rfl⟩ ?_ rfl⟩
    · exact Coordinator.plain_put h.sound hpos table key entry
    · exact Coordinator.registered_modifyTable c table (Coordinator.name_root_modifyHead _)
  case flushed =>
    intro chain hstopped hchain hzero _
    rw [hdepth hchain] at hzero
    rw [if_neg (plain_not_shutDown hstopped), if_neg (hknown hchain),
      if_neg (Nat.not_lt_of_le (Nat.le_of_eq hzero))]
    have hled := flushOldest_led h.sound h.running h.sound.openLive
    refine ((flushOldest_pending_follows h).and hled).mono fun r w₁ hflush => ?_
    obtain ⟨rfl | ⟨rfl, hplain, hready⟩, hpath, -⟩ := hflush
    · exact .inl rfl
    have hpath : Quietly w w₁ := hpath
    have hplain : w₁.plain = w.plain.flatten 0 := hplain
    rw [← hplain]
    refine writeDirect_follows hready ?_ key entry
    rw [hpath.keeps.registered]
    exact Coordinator.registered_of_table hchain
  case direct =>
    intro chain hstopped hchain hzero hpending
    rw [hdepth hchain] at hzero
    -- No layer is pending, so there is nothing to flatten.
    have hflat : w.plain.flatten 0 = w.plain := if_pos hpending
    rw [if_neg (plain_not_shutDown hstopped), if_neg (hknown hchain),
      if_neg (Nat.not_lt_of_le (Nat.le_of_eq hzero)), hflat]
    exact writeDirect_follows h (Coordinator.registered_of_table hchain) key entry

/-! ### Checking and stopping -/

/-- A check finds no record and nothing wrong. -/
theorem check_answers (h : w.Ready stores) :
    check.Ends w (Answers (.ok w.plain.report, w.plain) w) := by
  rw [ends_check]
  refine (recoverRunning_of_noRecord h.noRecord).mono fun r w' hend => ?_
  obtain ⟨rfl, rfl⟩ := hend
  simp only [h.sound.checkChains?_eq_none]
  refine ⟨?_, rfl, .refl _⟩
  show Except.ok _ = Except.ok w'.plain.report
  unfold PlainDatabase.report
  rw [show w'.plain.tables.length = w'.db.coordinator.tables.length from List.length_map _]
  rfl

/-- Flushing what is left and stopping. -/
theorem flushLeft_follows (h : w.Ready stores) (hunit : w.db.coordinator.openUnit = none) :
    flushLeft.Ends w (Follows stores (.ok (),
      { w.plain.flatten w.plain.live with shutDown := true })) := by
  have hclosed : w.db.coordinator.openSeq? = none := Coordinator.openSeq?_of_none hunit
  have hflush : flushAll.Ends w (Follows stores (.ok (), w.plain.flatten w.plain.live)) :=
    flushAll_rule (fun hhalted => nomatch h.running.2.symm.trans hhalted)
      fun _ => flushOldest_all_follows h hclosed
  rw [ends_flushLeft]
  refine hflush.mono fun r w₁ hend => ?_
  obtain rfl | ⟨rfl, hplain, hready⟩ := hend
  · exact .inl rfl
  have hplain : w₁.plain = w.plain.flatten w.plain.live := hplain
  have hsame : w₁.db.coordinator.SameStacks
      { w₁.db.coordinator with shutDown := true, publishing := false }.bump :=
    ⟨rfl, rfl, rfl, rfl, rfl, rfl⟩
  rw [← hplain]
  exact hready.follows ((Actually.set .refl hsame rfl).say rfl) ⟨rfl, rfl, rfl, rfl, rfl⟩

theorem stop_follows (h : w.Ready stores) :
    stop.Ends w (Follows stores (.ok (), w.plain.shutdown)) := by
  have hshut : w.plain.shutDown = w.db.coordinator.shutDown := rfl
  unfold PlainDatabase.shutdown
  rw [hshut]
  apply stop_rule
  case stopped =>
    intro hshutDown
    rw [if_pos hshutDown]
    exact h.follows_self (.ok ())
  case revoked =>
    intro _ hshutDown _
    have hrevoke := (revokeUnit_answers (w := w.say .shuttingDownWithSession) h.sound).and
      (revokeUnit_led h.sound h.running.1)
    rw [if_neg (Bool.eq_false_iff.mp hshutDown), ends_revokeLeft]
    refine hrevoke.mono fun r w₁ hend => ?_
    obtain ⟨⟨rfl, hplain, hstill⟩, -, hpath, hunit, -⟩ := hend
    have hplain : w₁.plain = w.plain.revokeUnit := hplain
    have hsay : Actually w (w.say .shuttingDownWithSession) := Actually.say .refl rfl
    have hstillSay : w.Still (w.say .shuttingDownWithSession) := ⟨rfl, rfl, rfl⟩
    have hready := h.acts (hsay.trans hpath) (hstillSay.trans hstill)
    rw [← hplain]
    exact flushLeft_follows hready hunit
  case flushed =>
    intro hshutDown hnone
    -- Where no unit of work is open, the plain model has none to discard.
    have hrevoke : w.plain.revokeUnit = w.plain := by
      rw [PlainDatabase.revokeUnit, show w.plain.openUnit = none from hnone]
    rw [if_neg (Bool.eq_false_iff.mp hshutDown), hrevoke]
    exact flushLeft_follows h hnone

end

end Operation

end LayeredStore

import LayeredStore.Proofs.PlainModel

/-!
# `LayeredStore.Proofs.Newest`: what plain maps read as with all their diffs

With all diffs of a table laid over its root, the table reads as what was
written to it, wherever the diffs are: whether they are live, pending or
in the root already.

* `PlainDatabase.newest` is what the tables read as.
* `PlainDatabase.Sinks`: diffs move towards the roots. This changes
  neither what the tables read as nor the mode of the database.
* `PlainDatabase.Layered` is the state of a database that is enabled and
  whose sessions are all committed. Commands of a schedule keep it.
* `Layered.run_reads`: of these, only writes and registrations change
  what the tables read as, and by `newest_run_congr` in the same way as
  where there are no diffs.
-/

set_option autoImplicit false

namespace LayeredStore

/-- Writing an entry to a diff writes it over what the diff made of the
root. -/
theorem Contents.apply_insert (root : Contents) (diff : Diff) (key : Bytes) (entry : Entry) :
    root.apply (diff.insert key entry).toList = (root.apply diff.toList).put key entry := by
  apply OrderedMap.ext_get?
  intro other
  rw [get?_apply_toList, get?_put, get?_apply_toList, OrderedMap.get?_insert]
  by_cases hkey : key = other
  · rw [if_pos hkey, if_pos hkey]
  · rw [if_neg hkey, if_neg hkey]

namespace PlainTable

variable {table : PlainTable}

/-- The map that the table reads as with all its diffs. -/
def newest (table : PlainTable) : Contents := table.root.overlay (table.pending ++ table.live)

@[simp] theorem newest_push : table.push.newest = table.newest := by
  unfold newest push
  rw [← List.append_assoc, Contents.overlay_append]
  rfl

@[simp] theorem newest_toPending (count : Nat) : (table.toPending count).newest = table.newest := by
  unfold newest toPending
  rw [List.append_assoc, List.take_append_drop]

@[simp] theorem newest_flatten (count : Nat) : (table.flatten count).newest = table.newest := by
  unfold newest flatten
  rw [List.nil_append, ← Contents.overlay_append, List.append_assoc, List.take_append_drop]

theorem newest_put (hlive : 0 < table.live.length) (key : Bytes) (entry : Entry) :
    (table.put key entry).newest = table.newest.put key entry := by
  obtain ⟨older, last, hlast⟩ : ∃ older last, table.live = older ++ [last] :=
    ⟨_, _, (List.dropLast_concat_getLast (List.ne_nil_of_length_pos hlive)).symm⟩
  have hput : (table.put key entry).live = older ++ [last.insert key entry] := by
    have hlt : older.length < (older ++ [last]).length := by simp
    unfold put
    simp only [hlast, List.length_append, List.length_singleton, Nat.add_sub_cancel]
    rw [List.modify_eq_take_cons_drop hlt]
    simp
  show table.root.overlay (table.pending ++ (table.put key entry).live) = _
  unfold newest
  rw [hput, hlast, ← List.append_assoc, ← List.append_assoc, Contents.overlay_append,
    Contents.overlay_append _ _ [last], Contents.overlay_cons, Contents.overlay_cons,
    Contents.overlay_nil, Contents.overlay_nil, Contents.apply_insert]

/-- A table without diffs reads as its root. -/
theorem newest_of_nil (hpending : table.pending = []) (hlive : table.live = []) :
    table.newest = table.root := by
  rw [newest, hpending, hlive, List.nil_append, Contents.overlay_nil]

theorem newest_putRoot (hpending : table.pending = []) (hlive : table.live = []) (key : Bytes)
    (entry : Entry) : (table.putRoot key entry).newest = table.newest.put key entry := by
  have hput : (table.putRoot key entry).newest = (table.putRoot key entry).root :=
    newest_of_nil hpending hlive
  rw [hput, newest_of_nil hpending hlive]
  rfl

/-- Diffs that say nothing do not matter. -/
theorem newest_fresh (name : String) (root : Contents) (pending live : Nat) :
    (PlainTable.mk name root (List.replicate pending .empty) (List.replicate live .empty)).newest =
      root := by
  unfold newest
  rw [List.replicate_append_replicate]
  induction pending + live with
  | zero => rfl
  | succ count ih => exact ih

end PlainTable

namespace PlainDatabase

variable {p p' p'' : PlainDatabase}

/-- The maps that the tables read as with all their diffs. -/
def newest (p : PlainDatabase) : List Contents := p.tables.map (·.newest)

/-- Every table has as many diffs as the database counts. -/
def Even (p : PlainDatabase) : Prop :=
  ∀ table ∈ p.tables, table.pending.length = p.pending ∧ table.live.length = p.live

theorem newest_of_map {f : PlainTable → PlainTable} (htables : p'.tables = p.tables.map f)
    (hf : ∀ table ∈ p.tables, (f table).newest = table.newest) : p'.newest = p.newest := by
  unfold newest
  rw [htables, List.map_map]
  exact List.map_congr_left hf

theorem newest_of_modify {f : PlainTable → PlainTable} {g : Contents → Contents} {table : Nat}
    (htables : p'.tables = p.tables.modify table f)
    (hf : ∀ table ∈ p.tables, (f table).newest = g table.newest) :
    p'.newest = p.newest.modify table g := by
  unfold newest
  rw [htables]
  apply List.ext_getElem?
  intro i
  simp only [List.getElem?_map, List.getElem?_modify]
  cases hi : p.tables[i]? with
  | none => rfl
  | some found =>
    simp only [Option.map_some]
    split
    · exact congrArg some (hf found (List.mem_of_getElem? hi))
    · rfl

/-! ### Diffs that move towards the roots -/

/-- Some diffs have become pending or were flattened, and the mode of the
database is the same. -/
structure Sinks (p p' : PlainDatabase) : Prop where
  newest : p'.newest = p.newest
  shutDown : p'.shutDown = p.shutDown
  enabled : p'.enabled = p.enabled
  forced : p'.forced = p.forced
  openUnit : p'.openUnit = p.openUnit

theorem Sinks.refl (p : PlainDatabase) : p.Sinks p := ⟨rfl, rfl, rfl, rfl, rfl⟩

theorem Sinks.trans (h : p.Sinks p') (h' : p'.Sinks p'') : p.Sinks p'' where
  newest := h'.newest.trans h.newest
  shutDown := h'.shutDown.trans h.shutDown
  enabled := h'.enabled.trans h.enabled
  forced := h'.forced.trans h.forced
  openUnit := h'.openUnit.trans h.openUnit

/-- Settings come before. -/
theorem Sinks.after (h : p'.Sinks p'') (htables : p'.tables = p.tables)
    (hshutDown : p'.shutDown = p.shutDown) (henabled : p'.enabled = p.enabled)
    (hforced : p'.forced = p.forced) (hunit : p'.openUnit = p.openUnit) : p.Sinks p'' :=
  Sinks.trans ⟨congrArg (List.map _) htables, hshutDown, henabled, hforced, hunit⟩ h

theorem sinks_clamp (p : PlainDatabase) : p.Sinks p.clamp := by
  unfold clamp
  split <;> exact ⟨rfl, rfl, rfl, rfl, rfl⟩

theorem pending_clamp (p : PlainDatabase) : p.clamp.pending = p.pending := by
  unfold clamp
  split <;> rfl

theorem sinks_toPending (p : PlainDatabase) (count : Nat) : p.Sinks (p.toPending count) := by
  have hmoved : p.Sinks { p with
      tables := p.tables.map (·.toPending count)
      pending := p.pending + min count p.live
      live := p.live - count } :=
    ⟨newest_of_map rfl fun _ _ => PlainTable.newest_toPending count, rfl, rfl, rfl, rfl⟩
  exact hmoved.trans (sinks_clamp _)

theorem sinks_flatten (p : PlainDatabase) (count : Nat) : p.Sinks (p.flatten count) := by
  unfold flatten
  split
  · exact .refl p
  · have hmoved : p.Sinks { p with
        tables := p.tables.map (·.flatten count)
        pending := 0
        live := p.live - count } :=
      ⟨newest_of_map rfl fun _ _ => PlainTable.newest_flatten count, rfl, rfl, rfl, rfl⟩
    exact hmoved.trans (sinks_clamp _)

theorem pending_flatten (p : PlainDatabase) (count : Nat) : (p.flatten count).pending = 0 := by
  unfold flatten
  split
  · rename_i hzero
    exact (Nat.add_eq_zero_iff.mp hzero).1
  · exact pending_clamp _

theorem live_flatten (p : PlainDatabase) (count : Nat) :
    (p.flatten count).live = p.live - count := by
  unfold flatten
  split
  · rename_i hzero
    rw [(Nat.add_eq_zero_iff.mp hzero).2, Nat.sub_zero]
  · exact live_clamp _

/-- Where no diff is live, none is pending, so there is nothing to
flatten. -/
theorem flatten_of_dry (hsettled : p.live = 0 → p.pending = 0) (hdry : ¬0 < p.live) :
    p.flatten 0 = p :=
  if_pos (by rw [hsettled (Nat.eq_zero_of_not_pos hdry)])

theorem sinks_limitPending (p : PlainDatabase) : p.Sinks p.limitPending := by
  unfold limitPending
  split
  · exact sinks_flatten p 0
  · exact .refl p

theorem live_limitPending (p : PlainDatabase) : p.limitPending.live = p.live := by
  unfold limitPending
  split
  · exact live_flatten p 0
  · rfl

theorem pending_limitPending (p : PlainDatabase) (h : p.pending = 0) :
    p.limitPending.pending = 0 := by
  unfold limitPending
  split
  · exact pending_flatten p 0
  · exact h

theorem sinks_makeRoom (p : PlainDatabase) : p.Sinks p.makeRoom := by
  unfold makeRoom
  split
  · exact (sinks_toPending p 1).trans (sinks_limitPending _)
  · exact .refl p

theorem newest_push (p : PlainDatabase) : p.push.newest = p.newest :=
  newest_of_map rfl fun _ _ => PlainTable.newest_push

/-! ### Registering and writing -/

/-- Registering a table adds its root. -/
theorem newest_addTable (hrunning : p.shutDown = false) (name : String) (root : Contents) :
    (p.addTable name root).2.newest =
      if (p.tables.map (·.name)).contains name then p.newest else p.newest ++ [root] := by
  unfold addTable
  rw [hrunning, if_neg Bool.false_ne_true]
  split
  · rfl
  · show (p.tables ++ [_]).map PlainTable.newest = _
    rw [List.map_append, List.map_singleton, PlainTable.newest_fresh]
    rfl

/-- A write changes the table that it is made to, whether it goes to a
diff or to the root. -/
theorem newest_write (hrunning : p.shutDown = false) (heven : p.Even)
    (hsettled : p.live = 0 → p.pending = 0) (table : Nat) (key : Bytes) (entry : Entry) :
    (p.write table key entry).2.newest = p.newest.modify table (·.put key entry) := by
  unfold write
  rw [hrunning, if_neg Bool.false_ne_true]
  split
  · rename_i hunknown
    refine (List.modify_eq_self ?_).symm
    rwa [newest, List.length_map]
  split
  · rename_i hlive
    exact newest_of_modify rfl fun found hmem =>
      PlainTable.newest_put ((heven found hmem).2.symm ▸ hlive) key entry
  · -- Where nothing is live nothing is pending, so the entry goes to the root.
    rename_i hdry
    have hlive := Nat.eq_zero_of_not_pos hdry
    rw [flatten_of_dry hsettled hdry]
    refine newest_of_modify rfl fun found hmem => ?_
    obtain ⟨hpending, hlive'⟩ := heven found hmem
    exact PlainTable.newest_putRoot
      (List.eq_nil_of_length_eq_zero (hpending.trans (hsettled hlive)))
      (List.eq_nil_of_length_eq_zero (hlive'.trans hlive)) key entry

end PlainDatabase

/-! ### Schedules -/

namespace Command

/-- The commands by which tables are registered and written: all that a
database without sessions is asked for. -/
def straight : Command → Bool
  | addTable .. | write .. => true
  | _ => false

theorem straight_cases {command : Command} (h : command.straight = true) :
    (∃ name root, command = .addTable name root) ∨
      ∃ table key entry, command = .write table key entry := by
  cases command with
  | addTable name root => exact .inl ⟨name, root, rfl⟩
  | write table key entry => exact .inr ⟨table, key, entry, rfl⟩
  | _ => cases h

/-- The commands of a schedule: besides, sessions are opened and
committed, layers are merged, and the cursor and the limits are set. -/
def scheduled : Command → Bool
  | openSession .. | commitSession .. | commit | merge | setCursor .. | setMaxSize ..
  | setMaxFlushCount .. => true
  | command => command.straight

end Command

namespace PlainDatabase

/-- The database is enabled for good and is not shut down, and no session
of the open unit of work has failed. Where no diff is live, none is
pending. -/
structure Layered (p : PlainDatabase) : Prop where
  running : p.shutDown = false
  enabled : p.enabled = true
  lasting : p.forced = false
  unit : ∀ unit, p.openUnit = some unit → unit.seq.isSome = true ∧ unit.poisoned = false
  settled : p.live = 0 → p.pending = 0

/-- The database is disabled, has no diffs and is not shut down. -/
structure Straight (p : PlainDatabase) : Prop where
  running : p.shutDown = false
  disabled : p.enabled = false
  pending : p.pending = 0
  live : p.live = 0

/-- The tables read as they did with all their diffs, and the database is
in the state that a schedule keeps. -/
def Reads (p p' : PlainDatabase) : Prop := p'.newest = p.newest ∧ p'.Layered

section
variable {p p' : PlainDatabase}

theorem Layered.reads (h : p.Layered) : p.Reads p := ⟨rfl, h⟩

theorem Layered.sinks (h : p.Layered) (hsinks : p.Sinks p')
    (hsettled : p'.live = 0 → p'.pending = 0) : p.Reads p' :=
  ⟨hsinks.newest,
    { running := hsinks.shutDown.trans h.running
      enabled := hsinks.enabled.trans h.enabled
      lasting := hsinks.forced.trans h.lasting
      unit := by rw [hsinks.openUnit]; exact h.unit
      settled := hsettled }⟩

/-! ### Sessions -/

/-- Sessions have changed, and the open unit of work may be closed. -/
structure Rests (p p' : PlainDatabase) : Prop where
  tables : p'.tables = p.tables
  pending : p'.pending = p.pending
  live : p'.live = p.live
  shutDown : p'.shutDown = p.shutDown
  enabled : p'.enabled = p.enabled
  forced : p'.forced = p.forced
  openUnit : p'.openUnit = p.openUnit ∨ p'.openUnit = none

theorem Rests.refl (p : PlainDatabase) : p.Rests p := ⟨rfl, rfl, rfl, rfl, rfl, rfl, .inl rfl⟩

theorem rests_setStatus (p : PlainDatabase) (session : Nat) (status : SessionStatus) :
    p.Rests (p.setStatus session status) := ⟨rfl, rfl, rfl, rfl, rfl, rfl, .inl rfl⟩

theorem Layered.rests (h : p.Layered) (hrests : p.Rests p') : p.Reads p' :=
  ⟨congrArg (List.map _) hrests.tables,
    { running := hrests.shutDown.trans h.running
      enabled := hrests.enabled.trans h.enabled
      lasting := hrests.forced.trans h.lasting
      unit := by
        intro unit hunit
        rcases hrests.openUnit with hsame | hclosed
        · exact h.unit unit (hsame ▸ hunit)
        · cases hclosed.symm.trans hunit
      settled := by rw [hrests.live, hrests.pending]; exact h.settled }⟩

theorem status_setStatus_self {session : Nat} (h : p.status session = .opened)
    (status : SessionStatus) : (p.setStatus session status).status session = status := by
  have hlt : session < p.statuses.length := by
    by_contra hge
    rw [PlainDatabase.status, List.getD, List.getElem?_eq_none (Nat.not_lt.mp hge)] at h
    cases h
  show (p.statuses.set session status)[session]?.getD .abandoned = status
  rw [List.getElem?_set_self hlt]
  rfl

/-- Abandoning a session that is resolved, or not of the open unit of
work, discards nothing. -/
theorem rests_abandon {session : Nat}
    (h : p.status session ≠ .opened ∨ p.owns session = false) (status : SessionStatus) :
    p.Rests (p.abandon session status) := by
  unfold abandon
  split
  · rename_i hopened
    have howns := h.resolve_left fun hclosed => hclosed hopened
    unfold owns at howns
    split
    · exact rests_setStatus p session status
    · rename_i unit hunit
      simp only [hunit] at howns
      rw [if_neg (ne_true_of_eq_false howns)]
      exact rests_setStatus p session status
  · exact .refl p

/-- A commit resolves the session, if it is one of the open unit of
work, and discards nothing. -/
theorem Layered.commitSession_rests (h : p.Layered) (session : Nat) :
    p.Rests (p.commitSession session).2 ∧ ((p.commitSession session).2.status session ≠ .opened ∨
      (p.commitSession session).2.owns session = false) := by
  have hclosed : p.status session ≠ .opened → p.Rests p ∧
      (p.status session ≠ .opened ∨ p.owns session = false) := fun hne => ⟨.refl p, .inl hne⟩
  unfold PlainDatabase.commitSession
  split
  · rename_i hstatus
    exact hclosed (by rw [hstatus]; nofun)
  · rename_i hstatus
    exact hclosed (by rw [hstatus]; nofun)
  · rename_i hstatus
    exact hclosed (by rw [hstatus]; nofun)
  rename_i hopened
  rw [if_neg (ne_true_of_eq_false h.running)]
  split
  · rename_i howns
    exact ⟨.refl p, .inr ((Bool.not_eq_true' _).mp howns)⟩
  -- From here on the session stands as committed, whatever becomes of the
  -- unit.
  have hcommitted : (p.setStatus session .committed).status session ≠ .opened := by
    rw [status_setStatus_self hopened]
    nofun
  have hrests := rests_setStatus p session .committed
  simp only
  split
  · exact ⟨hrests, .inl hcommitted⟩
  rename_i unit hunit
  split
  · exact ⟨hrests, .inl hcommitted⟩
  rw [if_neg (ne_true_of_eq_false (h.unit unit hunit).2)]
  have hfinish : (p.setStatus session .committed).finishUnit =
      { p.setStatus session .committed with openUnit := none } :=
    if_neg (ne_true_of_eq_false h.lasting)
  rw [hfinish]
  exact ⟨⟨rfl, rfl, rfl, rfl, rfl, rfl, .inr rfl⟩, .inl hcommitted⟩

/-- A handle that was used to commit its session leaves nothing to be let
go of. -/
theorem Layered.commitHandle_reads (h : p.Layered) (session : Nat) :
    p.Reads ((p.commitSession session).2.abandon session .abandoned) := by
  obtain ⟨hrests, hresolved⟩ := h.commitSession_rests session
  obtain ⟨hnewest, hlayered⟩ := h.rests hrests
  obtain ⟨hnewest', hlayered'⟩ := hlayered.rests (rests_abandon hresolved .abandoned)
  exact ⟨hnewest'.trans hnewest, hlayered'⟩

theorem Layered.commit_reads (h : p.Layered) : p.Reads p.commit.2 := by
  unfold PlainDatabase.commit
  split
  · exact h.reads
  · exact h.rests (h.commitSession_rests _).1

theorem Layered.openSession_reads (h : p.Layered) (force : Bool) :
    p.Reads (p.openSession force).2 := by
  unfold PlainDatabase.openSession
  rw [if_neg (ne_true_of_eq_false h.running)]
  split
  · rename_i unit hunit
    refine ⟨rfl, { h with unit := ?_ }⟩
    rintro _ ⟨⟩
    exact h.unit unit hunit
  · rw [h.enabled, Bool.not_true, Bool.false_and, if_neg Bool.false_ne_true]
    have hforce : p.force = p := if_pos h.enabled
    rw [hforce]
    -- Making room sinks diffs into the root, and the new diff is empty.
    have hsinks := sinks_makeRoom p
    refine ⟨(newest_push _).trans hsinks.newest, ?_, ?_, ?_, ?_, ?_⟩
    · exact hsinks.shutDown.trans h.running
    · exact hsinks.enabled.trans h.enabled
    · exact hsinks.forced.trans h.lasting
    · rintro _ ⟨⟩
      exact ⟨rfl, rfl⟩
    · exact fun hdry => absurd hdry (Nat.succ_ne_zero _)

/-! ### Merging and settings -/

theorem Layered.merge_reads (h : p.Layered) : p.Reads p.merge.2 := by
  have hflat : p.Reads (p.flatten 1) := h.sinks (sinks_flatten p 1) fun _ => pending_flatten p 1
  unfold PlainDatabase.merge
  rw [if_neg (ne_true_of_eq_false h.running)]
  split
  · exact h.reads
  split
  · split
    · exact h.reads
    · exact hflat
  · exact hflat

theorem Layered.setCursor_reads (h : p.Layered) (cursor : Cursor) (offset : Nat) :
    p.Reads (p.setCursor cursor offset).2 := by
  unfold PlainDatabase.setCursor
  rw [if_neg (ne_true_of_eq_false h.running)]
  split <;> split
  · exact h.reads
  · exact ⟨rfl, { h with }⟩
  · exact h.reads
  · exact ⟨rfl, { h with }⟩

theorem Layered.setMaxSize_reads (h : p.Layered) (limit : Nat) :
    p.Reads (p.setMaxSize limit).2 := by
  unfold PlainDatabase.setMaxSize
  rw [if_neg (ne_true_of_eq_false h.running)]
  split
  · exact h.reads
  rename_i hlimit
  simp only
  split
  · rename_i hless
    let limited := toPending { p with maxSize := limit } (p.live - limit)
    have hsinks : p.Sinks limited.limitPending :=
      ((sinks_toPending _ _).trans (sinks_limitPending _)).after rfl rfl rfl rfl rfl
    refine h.sinks hsinks fun hdry => ?_
    -- As many diffs stay live as the limit allows.
    have hlive : limited.limitPending.live = p.live - (p.live - limit) :=
      (live_limitPending _).trans (live_clamp _)
    rw [hdry] at hlive
    omega
  · exact ⟨rfl, { h with }⟩

theorem Layered.setMaxFlushCount_reads (h : p.Layered) (limit : Nat) :
    p.Reads (p.setMaxFlushCount limit).2 := by
  unfold PlainDatabase.setMaxFlushCount
  rw [if_neg (ne_true_of_eq_false h.running)]
  split
  · exact h.reads
  · refine h.sinks ((sinks_limitPending _).after rfl rfl rfl rfl rfl) fun hdry => ?_
    have hlive : p.live = 0 :=
      (live_limitPending { p with maxFlushCount := limit }).symm.trans hdry
    exact pending_limitPending { p with maxFlushCount := limit } (h.settled hlive)

/-! ### Runs of a schedule -/

/-- Commands of a schedule that are not writes change nothing of what the
tables read as. -/
theorem Layered.run_reads (h : p.Layered) (stores : String → Contents) {command : Command}
    (hscheduled : command.scheduled = true) (hstraight : command.straight = false) :
    p.Reads (p.run stores command).2 := by
  cases command with
  | openSession force => exact h.openSession_reads force
  | commitSession session => exact h.commitHandle_reads session.id
  | commit => exact h.commit_reads
  | merge => exact h.merge_reads
  | setCursor cursor offset => exact h.setCursor_reads cursor offset
  | setMaxSize limit => exact h.setMaxSize_reads limit
  | setMaxFlushCount limit => exact h.setMaxFlushCount_reads limit
  | addTable | write => cases hstraight
  | revokeSession | dropSession | revoke | popMany | enable | disable | check | shutdown =>
    cases hscheduled

/-- Writes and registrations change neither the mode nor the number of
the diffs. -/
theorem modes_run_straight (hrunning : p.shutDown = false) (hsettled : p.live = 0 → p.pending = 0)
    (stores : String → Contents) {command : Command} (hstraight : command.straight = true) :
    ∃ tables, (p.run stores command).2 = { p with tables := tables } := by
  obtain ⟨name, root, rfl⟩ | ⟨table, key, entry, rfl⟩ := Command.straight_cases hstraight
  · show ∃ tables, (p.addTable name _).2 = _
    unfold addTable
    rw [if_neg (ne_true_of_eq_false hrunning)]
    split
    · exact ⟨p.tables, rfl⟩
    · exact ⟨_, rfl⟩
  · show ∃ tables, (p.write table.index key entry).2 = _
    unfold write
    rw [if_neg (ne_true_of_eq_false hrunning)]
    split
    · exact ⟨p.tables, rfl⟩
    split
    · exact ⟨_, rfl⟩
    · rename_i hdry
      rw [flatten_of_dry hsettled hdry]
      exact ⟨_, rfl⟩

theorem Layered.run_straight (h : p.Layered) (stores : String → Contents) {command : Command}
    (hstraight : command.straight = true) : (p.run stores command).2.Layered := by
  obtain ⟨tables, hrun⟩ := modes_run_straight h.running h.settled stores hstraight
  rw [hrun]
  exact { h with }

theorem Straight.run (h : p.Straight) (stores : String → Contents) {command : Command}
    (hstraight : command.straight = true) : (p.run stores command).2.Straight := by
  obtain ⟨tables, hrun⟩ := modes_run_straight h.running (fun _ => h.pending) stores hstraight
  rw [hrun]
  exact { h with }

/-- Databases whose tables have the same names and read the same do so
after a write or a registration. -/
theorem newest_run_congr {q : PlainDatabase} (hp : p.Layered) (hq : q.Straight) (hpeven : p.Even)
    (hqeven : q.Even) (hnames : q.tables.map (·.name) = p.tables.map (·.name))
    (hnewest : q.newest = p.newest) (stores : String → Contents) {command : Command}
    (hstraight : command.straight = true) :
    (q.run stores command).2.newest = (p.run stores command).2.newest := by
  obtain ⟨name, root, rfl⟩ | ⟨table, key, entry, rfl⟩ := Command.straight_cases hstraight
  · show (q.addTable name _).2.newest = (p.addTable name _).2.newest
    rw [newest_addTable hq.running, newest_addTable hp.running, hnames, hnewest]
  · show (q.write table.index key entry).2.newest = (p.write table.index key entry).2.newest
    rw [newest_write hq.running hqeven fun _ => hq.pending,
      newest_write hp.running hpeven hp.settled, hnewest]

/-! ### Draining -/

/-- Shutting down with no unit of work open flattens all diffs. -/
theorem Layered.shutdown (h : p.Layered) (hclosed : p.openUnit = none) :
    p.shutdown.newest = p.newest ∧ p.shutdown.pending = 0 ∧ p.shutdown.live = 0 := by
  have hrevoked : p.revokeUnit = p := by
    unfold revokeUnit
    rw [hclosed]
  unfold PlainDatabase.shutdown
  rw [if_neg (ne_true_of_eq_false h.running), hrevoked]
  exact ⟨(sinks_flatten p p.live).newest, pending_flatten p _,
    (live_flatten p _).trans (Nat.sub_self _)⟩

/-- With no unit of work open, a merge leaves one diff fewer live and
opens none. -/
theorem Layered.merge (h : p.Layered) (hclosed : p.openUnit = none) :
    p.merge.2.live = p.live - 1 ∧ p.merge.2.openUnit = none := by
  unfold PlainDatabase.merge
  rw [if_neg (ne_true_of_eq_false h.running), hclosed]
  split
  · rename_i hdry
    have hnone : p.live - 1 = p.live := by omega
    exact ⟨hnone.symm, hclosed⟩
  · exact ⟨live_flatten p 1, (sinks_flatten p 1).openUnit.trans hclosed⟩

end

end PlainDatabase

end LayeredStore

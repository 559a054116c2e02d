import LayeredStore.Proofs.Runs
import LayeredStore.Proofs.Views

/-!
# `LayeredStore.Proofs.Rollback`: discarding layers restores the past

Whatever happens between the push of a layer and its discard, every
table reads after the discard as it read before the push.

The proof keeps a memory beside the state: `below seq table` is the map
that the table read as when the layer `seq` was pushed, or what its root
held when it was registered after that. `World.Remembers` says that with
the layers below `seq` the table still reads so. A flush that is stopped
halfway breaks this for the layers that it moves (`dirty` of them), but
then the database has halted, and of a halted database only the layer of
the open unit of work can be discarded, which no flush moves.

* `Quiet.remembers`, `Act.remembers`, `Writes.remembers`: the memory
  stays true. A push and a registration add to it.
* `Acts.discards`: after layers were discarded, every table reads as it
  is remembered below the oldest of them.
* `play_traced`: what is remembered of a layer is what tables read when
  it was pushed.
* `rollback_restores`: so discarding layers restores the past.
-/

set_option autoImplicit false

namespace LayeredStore

namespace World

/-- With the layers below `seq`, every table reads as `below seq` says.
The `dirty` oldest layers are excepted, for a flush of them may have
stopped halfway; there are none as long as the database has not
halted. -/
structure Remembers (below : Nat → Nat → Contents) (dirty : Nat) (w : World) : Prop where
  clean : w.db.coordinator.halted = false → dirty = 0 ∧ w.NoRecord
  openClean : w.db.coordinator.openSeq?.isSome → dirty < w.db.coordinator.levels.length
  reads : ∀ level seq, w.db.coordinator.levels[level]? = some seq → dirty ≤ level →
    ∀ table, table < w.db.coordinator.tables.length →
      w.mapBelow table level = some (below seq table)

/-- A database remembers, unless a panic has ended its life. -/
def Remembering (below : Nat → Nat → Contents) (w : World) : Prop :=
  w.db.poisoned = true ∨ ∃ dirty, w.Remembers below dirty

section
variable {w w' : World} {below : Nat → Nat → Contents}

theorem Remembering.remembers (h : w.Remembering below) (hpoisoned : w.db.poisoned = false) :
    ∃ dirty, w.Remembers below dirty := by
  rcases h with hpoisoned' | hrem
  · rw [hpoisoned] at hpoisoned'
    cases hpoisoned'
  · exact hrem

/-- A database that runs remembers all of its layers. -/
theorem Remembering.of_running (h : w.Remembering below) (hrun : w.Running) :
    w.Remembers below 0 ∧ w.NoRecord := by
  obtain ⟨dirty, hrem⟩ := h.remembers hrun.1
  obtain ⟨rfl, hrecord⟩ := hrem.clean hrun.2
  exact ⟨hrem, hrecord⟩

theorem Keeps.length_tables (h : w.Keeps w') :
    w'.db.coordinator.tables.length = w.db.coordinator.tables.length :=
  Coordinator.length_tables_of_registered h.registered

/-- Steps that change neither the levels nor the maps below them keep
the memory. -/
theorem Remembers.congr {dirty : Nat} (h : w.Remembers below dirty) (hkeeps : w.Keeps w')
    (hdisk : w'.disk = w.disk) (hlevels : w'.db.coordinator.levels = w.db.coordinator.levels)
    (hopen : w'.db.coordinator.openSeq?.isSome → w.db.coordinator.openSeq?.isSome)
    (hmap : ∀ table level, level < w.db.coordinator.levels.length →
      w'.mapBelow table level = w.mapBelow table level) : w'.Remembers below dirty where
  clean hhalted := by
    have hrunning := hkeeps.halted_eq_false hhalted
    refine ⟨(h.clean hrunning).1, ?_⟩
    exact (h.clean hrunning).2.congr hkeeps.journal (by rw [hdisk])
  openClean hsome := by
    rw [hlevels]
    exact h.openClean (hopen hsome)
  reads level seq hlevel hdirty table htable := by
    rw [hlevels] at hlevel
    rw [hkeeps.length_tables] at htable
    rw [hmap table level (List.getElem?_eq_some_iff.mp hlevel).1]
    exact h.reads level seq hlevel hdirty table htable

/-- After a flush that was not stopped by a panic, the layers that are
left read as remembered; those that a failed flush did not take away are
dirty. -/
theorem Remembers.flush {n : Nat} {r : Except Fault Unit} (h : w.Remembers below 0)
    (hrecord : w.NoRecord) (hstores : w.db.coordinator.DistinctStores)
    (hopen : w.db.coordinator.openSeq?.isSome → n < w.db.coordinator.levels.length)
    (hend : FlushEnd w n r w') (hr : r ≠ .error .panic) :
    ∃ dirty, w'.Remembers below dirty := by
  -- If the database has not halted, the flush has succeeded.
  have hclean : ∀ c : Coordinator, c.SameStacks w'.db.coordinator →
      c.journal = w.db.coordinator.journal → w'.db.coordinator.halted = false →
      r = .ok () ∧ w'.NoRecord := by
    intro c hsame hjournal hhalted
    match r, hend, hr with
    | .ok (), hend, _ =>
      have hrecord' := hend.journal_of_ok hrecord
      refine ⟨rfl, ?_⟩
      unfold NoRecord
      rw [hsame.journal, hjournal]
      exact hrecord'
    | .error (.error error), hend, _ =>
      rw [hend.halted_of_error] at hhalted
      cases hhalted
    | .error .panic, _, hr => exact absurd rfl hr
  rcases mapBelow_flushEnd hend hstores with ⟨hsame, hok, hmap⟩ | ⟨hsame, hmap⟩
  · -- The layers are still there, and their maps may be mixtures.
    refine ⟨n, ?_, ?_, ?_⟩
    · intro hhalted
      obtain ⟨hr, hrecord'⟩ := hclean _ hsame rfl hhalted
      exact ⟨hok hr, hrecord'⟩
    · rw [hsame.openSeq?, hsame.levels]
      exact hopen
    · intro level seq hlevel hdirty table htable
      rw [hsame.levels] at hlevel
      rw [hsame.tables] at htable
      rw [hmap table level hdirty]
      exact h.reads level seq hlevel (Nat.zero_le _) table htable
  · -- They are gone, so the level at `n` is the first from now on.
    refine ⟨0, ?_, ?_, ?_⟩
    · intro hhalted
      exact ⟨rfl, (hclean _ hsame rfl hhalted).2⟩
    · rw [hsame.openSeq?, hsame.levels]
      intro hsome
      show 0 < (w.db.coordinator.levels.drop n).length
      have := hopen hsome
      rw [List.length_drop]
      omega
    · intro level seq hlevel _ table htable
      rw [hsame.levels] at hlevel
      have hlevel' : (w.db.coordinator.levels.drop n)[level]? = some seq := hlevel
      rw [List.getElem?_drop] at hlevel'
      rw [hsame.tables] at htable
      have htable' : table < w.db.coordinator.tables.length := by
        have : table < (w.db.coordinator.tables.map (·.dropOldest n)).length := htable
        rwa [List.length_map] at this
      rw [hmap]
      exact h.reads (n + level) seq hlevel' (Nat.zero_le _) table htable'

theorem Quiet.remembers (h : Quiet w w') (hstores : w.db.coordinator.DistinctStores)
    (hrem : w.Remembering below) : w'.Remembering below := by
  rcases hrem with hpoisoned | ⟨dirty, hrem⟩
  · exact .inl (h.keeps.poisoned hpoisoned)
  have hkeeps := h.keeps
  cases h with
  | say | bus => exact .inr ⟨dirty, hrem.congr hkeeps rfl rfl id fun _ _ _ => rfl⟩
  | settings hsame hhalted =>
    refine .inr ⟨dirty, hrem.congr hkeeps rfl hsame.levels ?_ fun table level _ => ?_⟩
    · exact fun hsome => hsame.openSeq? ▸ hsome
    · apply mapBelow_congr
      · exact hsame.tables
      · exact fun _ _ => rfl
  | @solidify count _ =>
    exact .inr ⟨dirty, hrem.congr hkeeps rfl rfl id fun table level _ =>
      mapBelow_mapTables (f := (·.solidify count)) rfl (fun _ => rfl) (fun _ _ => rfl) table⟩
  | commit =>
    refine .inr ⟨dirty, hrem.congr hkeeps rfl rfl (fun hsome => by cases hsome)
      fun table level _ => ?_⟩
    exact mapBelow_commit table level
  | flush hrun _ hopen hend hr =>
    obtain ⟨rfl, hrecord⟩ := hrem.clean hrun.2
    exact .inr (hrem.flush hrecord hstores hopen hend hr)
  | crash => exact .inl rfl

/-- No step makes the memory false. -/
theorem Act.remembers (h : Act w w') (hsound : w.db.coordinator.Sound)
    (hstores : w.db.coordinator.DistinctStores) (hrem : w.Remembering below) :
    w'.Remembering below := by
  have hkeeps := h.keeps
  cases h with
  | quiet h => exact h.remembers hstores hrem
  | poison => exact .inl rfl
  | recover hrun hrecord => exact absurd (hrem.of_running hrun).2 hrecord
  | @discard seq c _ _ hpoisoned hallowed hlive hseq hc hhalted =>
    obtain ⟨dirty, hrem⟩ := hrem.remembers hpoisoned
    have hlevels : c.levels = w.db.coordinator.levels.dropLast := hc.levels
    have hclosed : c.openSeq? = none := hc.openSeq?
    refine .inr ⟨dirty, ?_, ?_, ?_⟩
    · intro hhalted'
      obtain ⟨hdirty, hrecord⟩ := hrem.clean (hhalted.symm.trans hhalted')
      refine ⟨hdirty, ?_⟩
      show (w.disk.contents c.journal).get? Journal.key = none
      rw [hc.journal]
      exact hrecord
    · intro hsome
      have hsome' : c.openSeq?.isSome := hsome
      rw [hclosed] at hsome'
      cases hsome'
    · intro level seq' hlevel hdirty table htable
      have hlevel' : c.levels[level]? = some seq' := hlevel
      rw [hlevels] at hlevel'
      obtain ⟨hlt, -⟩ := List.getElem?_eq_some_iff.mp hlevel'
      rw [List.length_dropLast] at hlt
      rw [List.getElem?_dropLast, if_pos hlt] at hlevel'
      rw [hkeeps.length_tables] at htable
      -- A level that is left lies below the one discarded.
      refine Eq.trans ?_ (hrem.reads level seq' hlevel' hdirty table htable)
      exact mapBelow_discardHead hsound hc (by omega) table

theorem Puts.remembers (h : Puts w w') (hsound : w.db.coordinator.Sound)
    (hstores : w.db.coordinator.DistinctStores) (hrem : w.Remembering below) :
    w'.Remembering below := by
  have hkeeps := h.keeps
  rcases hrem with hpoisoned | ⟨dirty, hrem⟩
  · exact .inl (hkeeps.poisoned hpoisoned)
  cases h with
  | put table key entry =>
    exact .inr ⟨dirty, hrem.congr hkeeps rfl rfl id fun other level hlevel =>
      mapBelow_put hsound table key entry hlevel other⟩
  | @direct chain batch hrun hmem hlevels =>
    -- There are no levels, so nothing is remembered; only the record has to be
    -- ruled out.
    refine .inr ⟨dirty, ?_, hrem.openClean, ?_⟩
    · intro hhalted
      obtain ⟨hdirty, hrecord⟩ := hrem.clean hhalted
      refine ⟨hdirty, ?_⟩
      have hsame := Disk.store_write_of_ne w.disk chain.root batch (hstores.journal_ne hmem)
      show ((w.disk.write chain.root batch).2.store
        w.db.coordinator.journal).contents.get? Journal.key = none
      rw [hsame]
      exact hrecord
    · intro level seq hlevel
      have hlevel' : w.db.coordinator.levels[level]? = some seq := hlevel
      rw [hlevels] at hlevel'
      cases hlevel'

theorem Quiets.remembers (h : Quiets w w') (hstores : w.db.coordinator.DistinctStores)
    (hrem : w.Remembering below) : w'.Remembering below := by
  induction h with
  | refl => exact hrem
  | tail hpath hstep ih => exact hstep.remembers ((Quiets.keeps hpath).distinctStores hstores) ih

theorem Writes.remembers (h : Writes w w') (hsound : w.db.coordinator.Sound)
    (hstores : w.db.coordinator.DistinctStores) (hrem : w.Remembering below) :
    w'.Remembering below := by
  obtain ⟨w₁, w₂, hpath, hput, hend⟩ := h
  have hrem₂ : w₂.Remembering below := by
    have hrem₁ := hpath.remembers hstores hrem
    rcases hput with rfl | hput
    · exact hrem₁
    · exact hput.remembers (hpath.sound hsound) (hpath.keeps.distinctStores hstores) hrem₁
  rcases hend with rfl | rfl
  · exact hrem₂
  · exact .inl rfl

/-- A push adds to the memory what the tables read at the head. -/
theorem Pushes.remembers (h : Pushes w w') (hsound : w.db.coordinator.Sound)
    (hrem : w.Remembering below) :
    w'.Remembering fun seq table =>
      if seq = w.db.coordinator.nextSeq then (w.headMap table).getD .empty
      else below seq table := by
  obtain ⟨hrem, hrecord⟩ := hrem.of_running h.running
  have hlevels : w'.db.coordinator.levels = w.db.coordinator.levels ++ [w.db.coordinator.nextSeq] :=
    h.sameStacks.levels
  have htables : w'.db.coordinator.tables.length = w.db.coordinator.tables.length := by
    rw [h.sameStacks.tables]
    exact List.length_map _
  refine .inr ⟨0, fun _ => ⟨rfl, ?_⟩, fun _ => ?_, ?_⟩
  · exact hrecord.congr h.sameStacks.journal (by rw [h.disk])
  · rw [hlevels]
    simp
  · intro level seq hlevel _ table htable
    rw [htables] at htable
    rw [hlevels] at hlevel
    have hle : level ≤ w.db.coordinator.levels.length := by
      have hlt := (List.getElem?_eq_some_iff.mp hlevel).1
      rw [List.length_append, List.length_singleton] at hlt
      omega
    rw [mapBelow_of_disk_eq h.disk, mapBelow_push hsound h.sameStacks hle]
    by_cases hlt : level < w.db.coordinator.levels.length
    · -- The memory of the old levels stays, for their numbers are less.
      rw [List.getElem?_append_left hlt] at hlevel
      have hseq := hsound.lt_nextSeq seq (List.mem_of_getElem? hlevel)
      rw [if_neg (Nat.ne_of_lt hseq)]
      exact hrem.reads level seq hlevel (Nat.zero_le _) table htable
    · -- Below the new level the tables read as with all old layers.
      have heq : level = w.db.coordinator.levels.length := by omega
      subst heq
      rw [List.getElem?_concat_length] at hlevel
      rw [if_pos (Option.some.inj hlevel).symm]
      obtain ⟨map, hmap⟩ := Option.isSome_iff_exists.mp
        ((w.isSome_mapBelow_iff table w.db.coordinator.levels.length).mpr htable)
      rw [headMap, hmap]
      rfl

/-- A registration adds to the memory what the root of the new table
holds. -/
theorem Registers.remembers {name root : String} (h : Registers name root w w')
    (hrem : w.Remembering below) :
    w'.Remembering fun seq table =>
      if table = w.db.coordinator.tables.length then w.disk.contents root
      else below seq table := by
  obtain ⟨hrem, hrecord⟩ := hrem.of_running h.running
  refine .inr ⟨0, fun _ => ⟨rfl, ?_⟩, ?_, ?_⟩
  · exact hrecord.congr h.sameStacks.journal (by rw [h.disk])
  · rw [h.sameStacks.openSeq?, h.sameStacks.levels]
    exact hrem.openClean
  · intro level seq hlevel _ table htable
    rw [h.sameStacks.levels] at hlevel
    rw [h.sameStacks.tables] at htable
    have htable' : table < w.db.coordinator.tables.length + 1 := by simpa using htable
    rw [mapBelow_of_disk_eq h.disk, mapBelow_register h.sameStacks]
    split
    · rfl
    · exact hrem.reads level seq hlevel (Nat.zero_le _) table (by omega)

/-! ### What a discard leaves -/

/-- A step discards nothing and changes no table's map at the head, or it
discards the newest layer and leaves what is remembered below it. -/
theorem Act.discards (h : Act w w') (hsound : w.db.coordinator.Sound)
    (hstores : w.db.coordinator.DistinctStores) (hrem : w.Remembering below) :
    (w'.discarded = w.discarded ∧ ∀ table, w'.headMap table = w.headMap table) ∨
    ∃ seq, w'.discarded = w.discarded ++ [seq] ∧ w.db.coordinator.levels.getLast? = some seq ∧
      w'.db.coordinator.levels = w.db.coordinator.levels.dropLast ∧
      ∀ table, table < w.db.coordinator.tables.length →
        w'.headMap table = some (below seq table) := by
  cases h with
  | quiet h => exact .inl ⟨h.discarded, h.headMap hstores⟩
  | poison => exact .inl ⟨rfl, fun _ => rfl⟩
  | recover hrun hrecord => exact absurd (hrem.of_running hrun).2 hrecord
  | @discard seq c _ _ hpoisoned hallowed hlive hseq hc hhalted =>
    have hlevels : c.levels = w.db.coordinator.levels.dropLast := hc.levels
    refine .inr ⟨seq, ?_, hseq, hlevels, fun table htable => ?_⟩
    · simp [discarded, say, withCoordinator, List.filterMap_append, Notice.discarded?]
    obtain ⟨dirty, hrem⟩ := hrem.remembers hpoisoned
    have hlast : w.db.coordinator.levels[w.db.coordinator.levels.length - 1]? = some seq := by
      rw [← List.getLast?_eq_getElem?]
      exact hseq
    -- The layer discarded is not one that a flush has stopped at.
    have hdirty : dirty ≤ w.db.coordinator.levels.length - 1 := by
      rcases hallowed with hhalted' | hopen
      · rw [(hrem.clean hhalted').1]
        exact Nat.zero_le _
      · have := hrem.openClean hopen
        omega
    refine Eq.trans ?_ (hrem.reads _ seq hlast hdirty table htable)
    show (w.withCoordinator c).mapBelow table c.levels.length = _
    rw [hlevels, List.length_dropLast]
    exact mapBelow_discardHead hsound hc (by omega) table

/-- What a path discards: layers that were there at its start, the newest
first. At its end every table reads as is remembered below the oldest of
them. -/
theorem Acts.discards (h : Acts w w') (hsound : w.db.coordinator.Sound)
    (hstores : w.db.coordinator.DistinctStores) (hrem : w.Remembering below) :
    w'.Remembering below ∧ ∃ news, w'.discarded = w.discarded ++ news ∧
      (∀ seq ∈ news, seq ∈ w.db.coordinator.levels) ∧
      (∀ seq ∈ news, ∀ level ∈ w'.db.coordinator.levels, level < seq) ∧
      news.Pairwise (· > ·) ∧
      ∀ seq, news.getLast? = some seq → ∀ table, table < w.db.coordinator.tables.length →
        w'.headMap table = some (below seq table) := by
  induction h with
  | refl =>
    exact ⟨hrem, [], by simp, by simp, by simp, .nil, fun seq hseq => by cases hseq⟩
  | @tail w₁ w' hpath hstep ih =>
    obtain ⟨hrem₁, news, hnews, hold, habove, hdecreasing, hreads⟩ := ih
    have hpath : Acts w w₁ := hpath
    have hkeeps := hpath.keeps
    have hsound₁ := hpath.sound hsound
    have hstores₁ := hkeeps.distinctStores hstores
    refine ⟨hstep.remembers hsound₁ hstores₁ hrem₁, ?_⟩
    rcases hstep.discards hsound₁ hstores₁ hrem₁ with
      ⟨hsame, hhead⟩ | ⟨seq, hdiscarded, hseq, hlevels, hhead⟩
    · refine ⟨news, hsame.trans hnews, hold, fun s hs level hlevel => ?_, hdecreasing,
        fun s hs table htable => (hhead table).trans (hreads s hs table htable)⟩
      exact habove s hs level (hstep.keeps.levels hlevel)
    · -- What was discarded before lies above every level of `w₁`, and so above
      -- the newest of them, which is discarded now.
      have hmem : seq ∈ w₁.db.coordinator.levels := List.mem_of_getLast? hseq
      refine ⟨news ++ [seq], ?_, ?_, ?_, ?_, ?_⟩
      · rw [hdiscarded, hnews, List.append_assoc]
      · intro s hs
        rcases List.mem_append.mp hs with hs | hs
        · exact hold s hs
        · rw [List.mem_singleton.mp hs]
          exact hkeeps.levels hmem
      · intro s hs level hlevel
        rcases List.mem_append.mp hs with hs | hs
        · exact habove s hs level (hstep.keeps.levels hlevel)
        · rw [List.mem_singleton.mp hs]
          exact hsound₁.lt_of_mem_dropLast hseq (hlevels ▸ hlevel)
      · refine List.pairwise_append.mpr ⟨hdecreasing, List.pairwise_singleton _ _, ?_⟩
        intro s hs other hother
        rw [List.mem_singleton.mp hother]
        exact habove s hs seq hmem
      · intro s hs table htable
        rw [List.getLast?_concat] at hs
        cases hs
        exact hhead table (by rw [hkeeps.length_tables]; exact htable)

/-- Once a panic has poisoned the lock nothing is discarded. -/
theorem Acts.discarded_of_poisoned (h : Acts w w') (hpoisoned : w.db.poisoned = true) :
    w'.discarded = w.discarded := by
  induction h with
  | refl => rfl
  | @tail w₁ w' hpath hstep ih =>
    refine Eq.trans ?_ ih
    cases hstep with
    | quiet h => exact h.discarded
    | poison => rfl
    | recover _ _ _ hdiscarded => exact hdiscarded
    | discard _ _ hpoisoned' =>
      rw [(Acts.keeps hpath).poisoned hpoisoned] at hpoisoned'
      cases hpoisoned'

end

/-! ### What is remembered of a run -/

/-- In the run from `w₀`, the layer `seq` was pushed by a call that opens
a session, and `past` is what the tables read then: every table that was
registered, its map at the head just before the call, and every table
registered later, what its root held just before it was registered. -/
def PushedIn (w₀ : World) (moves : List Move) (seq : Nat) (past : Nat → Contents) : Prop :=
  ∃ before force after, moves = before ++ .call (.openSession force) :: after ∧
    seq ∉ (w₀.play before).db.coordinator.levels ∧
    seq ∈ (w₀.play (before ++ [.call (.openSession force)])).db.coordinator.levels ∧
    (∀ table, table < (w₀.play before).db.coordinator.tables.length →
      (w₀.play before).headMap table = some (past table)) ∧
    ∀ table, (w₀.play before).db.coordinator.tables.length ≤ table →
      table < (w₀.play moves).db.coordinator.tables.length →
      ∃ middle name root rest, after = middle ++ .call (.addTable name root) :: rest ∧
        let w := w₀.play (before ++ .call (.openSession force) :: middle)
        w.db.coordinator.tables.length = table ∧
          (w₀.play moves).db.coordinator.registered[table]? = some (name, root) ∧
          past table = w.disk.contents root

section
variable {w w' : World} {below : Nat → Nat → Contents}

theorem Calm.remembers (h : Calm w w') (hsound : w.db.coordinator.Sound)
    (hstores : w.db.coordinator.DistinctStores) (hrem : w.Remembering below) :
    w'.Remembering below := by
  have hkeeps := h.keeps
  cases h with
  | acts h => exact (h.discards hsound hstores hrem).1
  | writes h => exact h.remembers hsound hstores hrem
  | setPlan store plan h =>
    subst h
    rcases hrem with hpoisoned | ⟨dirty, hrem⟩
    · exact .inl hpoisoned
    refine .inr ⟨dirty, fun hhalted => ⟨(hrem.clean hhalted).1, ?_⟩, hrem.openClean,
      fun level seq hlevel hdirty table htable => ?_⟩
    · have hrecord := (hrem.clean hhalted).2
      unfold NoRecord at hrecord ⊢
      show ((w.disk.setPlan store plan).contents w.db.coordinator.journal).get? Journal.key = none
      rw [Disk.contents_setPlan]
      exact hrecord
    · refine Eq.trans ?_ (hrem.reads level seq hlevel hdirty table htable)
      apply mapBelow_congr
      · rfl
      · exact fun chain _ => Disk.contents_setPlan _ _ _ chain.root

/-- The tables registered stay registered. -/
theorem registered_act (hsound : w.db.coordinator.Sound) (move : Move) :
    w.db.coordinator.registered <+: (move.act w).db.coordinator.registered ∧
      (move.act w).db.coordinator.journal = w.db.coordinator.journal := by
  rcases act_cases hsound move with hcalm | ⟨_, _, hopens⟩ | ⟨_, _, _, hregister⟩
  · rw [hcalm.keeps.registered]
    exact ⟨List.prefix_refl _, hcalm.keeps.journal⟩
  · obtain ⟨hregistered, hjournal⟩ := hopens.registered
    rw [hregistered]
    exact ⟨List.prefix_refl _, hjournal⟩
  · rw [hregister.registered]
    exact ⟨List.prefix_append _ _, hregister.sameStacks.journal⟩

theorem registered_play (hsound : w.db.coordinator.Sound) (moves : List Move) :
    w.db.coordinator.registered <+: (w.play moves).db.coordinator.registered ∧
      (w.play moves).db.coordinator.journal = w.db.coordinator.journal := by
  induction moves generalizing w with
  | nil => exact ⟨List.prefix_refl _, rfl⟩
  | cons move moves ih =>
    obtain ⟨hgrown, hjournal⟩ := registered_act hsound move
    obtain ⟨hgrown', hjournal'⟩ := ih (act_sound hsound move).1
    exact ⟨hgrown.trans hgrown', hjournal'.trans hjournal⟩

/-- Stores that are distinct at the end of a run were so all along. -/
theorem distinctStores_of_play (hsound : w.db.coordinator.Sound) {moves : List Move}
    (h : (w.play moves).db.coordinator.DistinctStores) : w.db.coordinator.DistinctStores := by
  obtain ⟨hgrown, hjournal⟩ := registered_play hsound moves
  rw [Coordinator.distinctStores_iff] at h ⊢
  rw [hjournal] at h
  exact ((hgrown.map _).sublist.cons_cons _).nodup h

theorem distinctStores_of_act (hsound : w.db.coordinator.Sound) {move : Move}
    (h : (move.act w).db.coordinator.DistinctStores) : w.db.coordinator.DistinctStores := by
  have hplayed : (w.play [move]).db.coordinator.DistinctStores := h
  exact distinctStores_of_play hsound hplayed

end

/-- What is remembered of a layer stays so on the next move, if the
tables that the move registers are remembered as what their roots
hold. -/
theorem PushedIn.snoc {w₀ : World} {moves : List Move} {seq : Nat} {past past' : Nat → Contents}
    (h : w₀.PushedIn moves seq past) (hsound : w₀.db.coordinator.Sound) (move : Move)
    (hold : ∀ table, table < (w₀.play moves).db.coordinator.tables.length →
      past' table = past table)
    (hnew : ∀ table, (w₀.play moves).db.coordinator.tables.length ≤ table →
      table < (w₀.play (moves ++ [move])).db.coordinator.tables.length →
      ∃ name root, move = .call (.addTable name root) ∧
        (w₀.play moves).db.coordinator.tables.length = table ∧
        (w₀.play (moves ++ [move])).db.coordinator.registered[table]? = some (name, root) ∧
        past' table = (w₀.play moves).disk.contents root) :
    w₀.PushedIn (moves ++ [move]) seq past' := by
  obtain ⟨before, force, after, rfl, hfresh, hpushed, hearlier, hlater⟩ := h
  have hsound₁ := (sound_of_play hsound before).1
  have hgrown := (registered_play hsound₁ (.call (.openSession force) :: after)).1
  rw [← play_append] at hgrown
  have hlength := hgrown.length_le
  simp only [Coordinator.length_registered] at hlength
  refine ⟨before, force, after ++ [move], by simp, hfresh, hpushed, fun table htable => ?_,
    fun table hle hlt => ?_⟩
  · rw [hold table (Nat.lt_of_lt_of_le htable hlength)]
    exact hearlier table htable
  · by_cases htable : table < (w₀.play (before ++ .call (.openSession force) :: after)
        ).db.coordinator.tables.length
    · -- Registered before this move, the table keeps its place.
      obtain ⟨middle, name, root, rest, rfl, hcount, hregistered, hpast⟩ :=
        hlater table hle htable
      refine ⟨middle, name, root, rest ++ [move], by simp, hcount, ?_,
        (hold table htable).trans hpast⟩
      have hsound₂ := (sound_of_play hsound (before ++ .call (.openSession force) ::
        (middle ++ .call (.addTable name root) :: rest))).1
      obtain ⟨added, hadded⟩ := (registered_act hsound₂ move).1
      rw [play_append]
      show (move.act _).db.coordinator.registered[table]? = _
      rw [← hadded, List.getElem?_append_left (List.getElem?_eq_some_iff.mp hregistered).1]
      exact hregistered
    · obtain ⟨name, root, rfl, hcount, hregistered, hpast⟩ := hnew table (by omega) hlt
      exact ⟨after, name, root, [], rfl, hcount, hregistered, hpast⟩

/-- A move that registers no table keeps what is remembered of the layers
that stay. -/
theorem PushedIn.snoc_of_registered_eq {w₀ : World} {moves : List Move} {move : Move} {seq : Nat}
    {past : Nat → Contents} (h : w₀.PushedIn moves seq past) (hsound : w₀.db.coordinator.Sound)
    (hregistered : (w₀.play (moves ++ [move])).db.coordinator.registered =
      (w₀.play moves).db.coordinator.registered) : w₀.PushedIn (moves ++ [move]) seq past := by
  have hlength := Coordinator.length_tables_of_registered hregistered
  exact h.snoc hsound move (fun _ _ => rfl) fun table hle hlt => by omega

/-- After the run from `w₀`, the memory is true, and what is remembered
of a layer is what the tables read as when it was pushed. -/
structure Traced (w₀ : World) (moves : List Move) (below : Nat → Nat → Contents) : Prop where
  remembering : (w₀.play moves).Remembering below
  pushed : (w₀.play moves).db.poisoned = false →
    ∀ seq ∈ (w₀.play moves).db.coordinator.levels, w₀.PushedIn moves seq (below seq)

namespace Traced

variable {w₀ : World} {moves : List Move} {move : Move} {below : Nat → Nat → Contents}

/-- Levels that stay keep their memory, if no table is registered. -/
theorem pushed_of_keeps (h : w₀.Traced moves below) (hsound : w₀.db.coordinator.Sound)
    (hregistered : (w₀.play (moves ++ [move])).db.coordinator.registered =
      (w₀.play moves).db.coordinator.registered) {w' : World} (hkeeps : (w₀.play moves).Keeps w')
    (hpoisoned : w'.db.poisoned = false) {seq : Nat} (hmem : seq ∈ w'.db.coordinator.levels) :
    w₀.PushedIn (moves ++ [move]) seq (below seq) := by
  have hpoisoned₀ := hkeeps.poisoned_eq_false hpoisoned
  exact (h.pushed hpoisoned₀ seq (hkeeps.levels hmem)).snoc_of_registered_eq hsound hregistered

theorem calm (h : w₀.Traced moves below) (hsound : w₀.db.coordinator.Sound)
    (hstores : (w₀.play moves).db.coordinator.DistinctStores)
    (hcalm : Calm (w₀.play moves) (w₀.play (moves ++ [move]))) :
    w₀.Traced (moves ++ [move]) below where
  remembering := hcalm.remembers (sound_of_play hsound moves).1 hstores h.remembering
  pushed hpoisoned _ hmem :=
    h.pushed_of_keeps hsound hcalm.keeps.registered hcalm.keeps hpoisoned hmem

/-- Opening a session adds what the tables read as before it. -/
theorem opens {force : Bool} (h : w₀.Traced moves below) (hsound : w₀.db.coordinator.Sound)
    (hstores : (w₀.play moves).db.coordinator.DistinctStores)
    (hopens : Opens (w₀.play moves) (w₀.play (moves ++ [.call (.openSession force)]))) :
    ∃ below', w₀.Traced (moves ++ [.call (.openSession force)]) below' := by
  have hsound₁ := (sound_of_play hsound moves).1
  have hregistered := hopens.registered.1
  obtain ⟨w₁, hpath, hend⟩ := hopens
  have hrem₁ := hpath.remembers hstores h.remembering
  have hkeeps := hpath.keeps
  rcases hend with heq | hpush
  · refine ⟨below, heq ▸ hrem₁, fun hpoisoned seq hmem => ?_⟩
    rw [heq] at hpoisoned hmem
    exact h.pushed_of_keeps hsound hregistered hkeeps hpoisoned hmem
  have hsound₂ := hpath.sound hsound₁
  refine ⟨_, hpush.remembers hsound₂ hrem₁, fun hpoisoned seq hmem => ?_⟩
  rw [hpush.sameStacks.levels] at hmem
  rcases List.mem_append.mp hmem with hold | hnew
  · -- An old level is not the new one, so nothing new is remembered of it.
    have hlt := hsound₂.lt_nextSeq seq hold
    have hpast : w₀.PushedIn (moves ++ [.call (.openSession force)]) seq (below seq) :=
      h.pushed_of_keeps hsound hregistered hkeeps hpush.running.1 hold
    simpa only [if_neg (Nat.ne_of_lt hlt)] using hpast
  · -- The new level is remembered as the tables read right before the push,
    -- after a quiet path, so as they read before the call.
    obtain rfl := List.mem_singleton.mp hnew
    refine ⟨moves, force, [], rfl, ?_, ?_, fun table htable => ?_, fun table hle hlt => ?_⟩
    · intro hmem'
      have hlt := hsound₁.lt_nextSeq _ hmem'
      rw [hkeeps.nextSeq] at hlt
      exact Nat.lt_irrefl _ hlt
    · rw [hpush.sameStacks.levels]
      exact hmem
    · obtain ⟨map, hmap⟩ := Option.isSome_iff_exists.mp
        ((w₁.isSome_mapBelow_iff table w₁.db.coordinator.levels.length).mpr
          (by rw [hkeeps.length_tables]; exact htable))
      have hhead : w₁.headMap table = some map := hmap
      show _ = some (if _ = _ then (w₁.headMap table).getD .empty else _)
      rw [if_pos rfl, ← hpath.headMap hstores, hhead]
      rfl
    · have hlength := Coordinator.length_tables_of_registered hregistered
      omega

/-- Registering a table adds what its root holds. -/
theorem registers {name root : String} (h : w₀.Traced moves below)
    (hsound : w₀.db.coordinator.Sound)
    (hregister : Registers name root (w₀.play moves)
      (w₀.play (moves ++ [.call (.addTable name root)]))) :
    ∃ below', w₀.Traced (moves ++ [.call (.addTable name root)]) below' := by
  refine ⟨_, hregister.remembers h.remembering, fun hpoisoned seq hmem => ?_⟩
  rw [hregister.sameStacks.levels] at hmem
  refine (h.pushed hregister.running.1 seq hmem).snoc hsound _ (fun table htable => ?_)
    fun table hle hlt => ?_
  · rw [if_neg (Nat.ne_of_lt htable)]
  · rw [hregister.sameStacks.tables, List.length_append, List.length_singleton] at hlt
    have heq : table = (w₀.play moves).db.coordinator.tables.length := by omega
    subst heq
    refine ⟨name, root, rfl, rfl, ?_, if_pos rfl⟩
    rw [hregister.registered, ← Coordinator.length_registered, List.getElem?_concat_length]

end Traced

/-- After any run there is a memory of what the tables read as when the
layers were pushed. -/
theorem play_traced {w₀ : World} (hsound : w₀.db.coordinator.Sound) (hrecord : w₀.NoRecord)
    (hlevels : w₀.db.coordinator.levels = []) (moves : List Move)
    (hstores : (w₀.play moves).db.coordinator.DistinctStores) :
    ∃ below, w₀.Traced moves below := by
  -- The last move of the run is what is new, so the induction is from its end.
  induction moves using List.reverseRecOn with
  | nil =>
    refine ⟨fun _ _ => .empty, .inr ⟨0, fun _ => ⟨rfl, hrecord⟩, fun hsome => ?_,
      fun level seq hlevel => ?_⟩, fun _ seq hmem => ?_⟩
    · have hlive := hsound.openLive hsome
      rw [hlevels] at hlive
      exact absurd hlive (Nat.not_lt_zero _)
    · rw [play_nil, hlevels] at hlevel
      cases hlevel
    · rw [play_nil, hlevels] at hmem
      cases hmem
  | append_singleton moves move ih =>
    have hplay : w₀.play (moves ++ [move]) = move.act (w₀.play moves) := play_append _ _ _
    have hsound₁ := (sound_of_play hsound moves).1
    have hstores₁ : (w₀.play moves).db.coordinator.DistinctStores := by
      rw [play_append] at hstores
      exact distinctStores_of_play hsound₁ hstores
    obtain ⟨below, htraced⟩ := ih hstores₁
    have hcases := act_cases hsound₁ move
    rw [← hplay] at hcases
    rcases hcases with hcalm | ⟨force, rfl, hopens⟩ | ⟨name, root, rfl, hregister⟩
    · exact ⟨below, htraced.calm hsound hstores₁ hcalm⟩
    · exact htraced.opens hsound hstores₁ hopens
    · exact htraced.registers hsound hregister

/-! ### Rolling back -/

/-- The worlds right after the discards of a move: the one after the
move, and that after the revoke step of a shutdown. -/
inductive Leaves (w : World) : Move → World → Prop
  | done (move : Move) : Leaves w move (move.act w)
  | revoked : Leaves w (.call .shutdown) w.revoked
  | revokedClosing : Leaves w .close w.revoked

/-- In `x`, every table reads at the head as it did before the layer
`seq` was pushed in the run from `w₀`: a table that was registered then,
as just before the call that opened the session, and a table registered
later, as what its root held just before it was registered. -/
def Restores (w₀ : World) (moves : List Move) (seq : Nat) (x : World) : Prop :=
  ∃ before force after, moves = before ++ .call (.openSession force) :: after ∧
    seq ∉ (w₀.play before).db.coordinator.levels ∧
    seq ∈ (w₀.play (before ++ [.call (.openSession force)])).db.coordinator.levels ∧
    ∀ table, table < x.db.coordinator.tables.length →
      if table < (w₀.play before).db.coordinator.tables.length then
        ∃ map, (w₀.play before).ReadsAtHead table map ∧ x.ReadsAtHead table map
      else
        ∃ middle name root rest, after = middle ++ .call (.addTable name root) :: rest ∧
          let w := w₀.play (before ++ .call (.openSession force) :: middle)
          w.db.coordinator.tables.length = table ∧
            x.db.coordinator.registered[table]? = some (name, root) ∧
            x.ReadsAtHead table (w.disk.contents root)

/-- A move that discards layers is a path of steps that nothing but the
discards is seen of, and all of its discards are made before what it
leaves. -/
theorem Leaves.acts {w x : World} {move : Move} (h : Leaves w move x)
    (hsound : w.db.coordinator.Sound) (hdiscards : (move.act w).discarded ≠ w.discarded) :
    Acts w x ∧ x.discarded = (move.act w).discarded := by
  cases h with
  | done =>
    refine ⟨?_, rfl⟩
    -- The move has discarded layers, so it is a path of steps and nothing
    -- else.
    rcases act_cases hsound move with hcalm | ⟨_, _, hopens⟩ | ⟨_, _, _, hregister⟩
    · cases hcalm with
      | acts h => exact h
      | writes h => exact absurd h.discarded hdiscards
      | setPlan _ _ h =>
        rw [h] at hdiscards
        exact absurd rfl hdiscards
    · exact absurd hopens.discarded hdiscards
    · exact absurd hregister.discarded hdiscards
  | revoked =>
    -- Shutting down begins by discarding the open unit of work, and discards
    -- nothing after that.
    have hrun : Command.shutdown.run.Ends w fun _ w' => Quietly w.revoked w' :=
      Operation.Ends.done (Database.shutdown_quiets hsound)
    have hquiets : Quietly w.revoked ((Move.call .shutdown).act w) := hrun
    exact ⟨(Operation.revoked_acts hsound).acts, hquiets.quiets.discarded.symm⟩
  | revokedClosing =>
    have hquiets : Quietly w.revoked (Move.close.act w) := Database.drop_quiets hsound
    exact ⟨(Operation.revoked_acts hsound).acts, hquiets.quiets.discarded.symm⟩

/-- In a list that falls, the least number comes last. -/
theorem getLast?_of_le {seqs : List Nat} {oldest : Nat} (h : seqs.Pairwise (· > ·))
    (hmem : oldest ∈ seqs) (holdest : ∀ seq ∈ seqs, oldest ≤ seq) :
    seqs.getLast? = some oldest := by
  obtain ⟨before, after, rfl⟩ := List.append_of_mem hmem
  cases after with
  | nil => exact List.getLast?_concat
  | cons next after =>
    have hlt : oldest > next :=
      (List.pairwise_cons.mp (List.pairwise_append.mp h).2.1).1 next List.mem_cons_self
    have hle := holdest next (by simp)
    omega

/-- Whatever happens between the push of a layer and a call that discards
it, if `oldest` is the oldest layer that the call discards, every table
reads right after the discard as it did before `oldest` was pushed. -/
theorem rollback_restores (disk : Disk) (configuration : Configuration) (journal : String)
    (handlers : List Handler) (moves : List Move) (move : Move)
    (hrecord : (disk.contents journal).get? Journal.key = none)
    (hstores : ((opened disk configuration journal handlers).play
      moves).db.coordinator.DistinctStores)
    {news : List Nat} {oldest : Nat} (hmem : oldest ∈ news) (holdest : ∀ seq ∈ news, oldest ≤ seq)
    (hnews : (move.act ((opened disk configuration journal handlers).play moves)).discarded =
      ((opened disk configuration journal handlers).play moves).discarded ++ news)
    {x : World} (hx : Leaves ((opened disk configuration journal handlers).play moves) move x) :
    Restores (opened disk configuration journal handlers) moves oldest x := by
  have hsound₀ : (opened disk configuration journal handlers).db.coordinator.Sound :=
    Coordinator.sound_new configuration journal _
  obtain ⟨below, htraced⟩ := play_traced hsound₀ hrecord rfl moves hstores
  revert hnews hx
  generalize opened disk configuration journal handlers = w₀ at *
  intro hnews hx
  have hsound := (sound_of_play hsound₀ moves).1
  have hdiscards : (move.act (w₀.play moves)).discarded ≠ (w₀.play moves).discarded := by
    rw [hnews]
    intro heq
    rw [List.append_right_eq_self.mp heq] at hmem
    cases hmem
  obtain ⟨hpath, hdiscarded⟩ := hx.acts hsound hdiscards
  obtain ⟨-, news', hnews', hold, -, hdecreasing, hreads⟩ :=
    hpath.discards hsound hstores htraced.remembering
  obtain rfl : news' = news := List.append_cancel_left (hnews'.symm.trans (hdiscarded.trans hnews))
  -- Layers are discarded from the newest on, so the oldest comes last.
  have hlast := getLast?_of_le hdecreasing hmem holdest
  have hpoisoned : (w₀.play moves).db.poisoned = false := by
    cases hw : (w₀.play moves).db.poisoned with
    | false => rfl
    | true => exact absurd (hdiscarded.symm.trans (Acts.discarded_of_poisoned hpath hw)) hdiscards
  obtain ⟨before, force, after, hmoves, hfresh, hpushed, hearlier, hlater⟩ :=
    htraced.pushed hpoisoned oldest (hold oldest hmem)
  refine ⟨before, force, after, hmoves, hfresh, hpushed, fun table htable => ?_⟩
  have hsoundx := hpath.sound hsound
  rw [hpath.keeps.length_tables] at htable
  have hread := (readsAtHead_iff hsoundx table _).mpr (hreads oldest hlast table htable)
  split
  · rename_i hregistered
    have hsound₁ := (sound_of_play hsound₀ before).1
    exact ⟨_, (readsAtHead_iff hsound₁ table _).mpr (hearlier table hregistered), hread⟩
  · rename_i hregistered
    obtain ⟨middle, name, root, rest, hafter, hcount, hname, hpast⟩ :=
      hlater table (Nat.le_of_not_lt hregistered) htable
    refine ⟨middle, name, root, rest, hafter, hcount, ?_, ?_⟩
    · rw [hpath.keeps.registered]
      exact hname
    · rw [← hpast]
      exact hread

/-- A session is opened over a table and written through, and revoked:
the table reads again as before it. -/
theorem rollback_restores_revoked_session :
    let w₀ := opened .empty {} "journal" []
    let moves := [Move.call (.addTable "a" "root"), .call (.openSession false),
      .call (.write ⟨0, "a"⟩ [1] (.value [2]))]
    w₀.NoRecord ∧ (w₀.play moves).db.coordinator.DistinctStores ∧
      (Move.act (w₀.play moves) (.call .revoke)).discarded = (w₀.play moves).discarded ++ [1] ∧
      Restores w₀ moves 1 (Move.act (w₀.play moves) (.call .revoke)) := by
  intro w₀ moves
  have hstores : (w₀.play moves).db.coordinator.DistinctStores :=
    (Coordinator.distinctStores_iff _).mpr (by decide +kernel)
  have hnews : (Move.act (w₀.play moves) (.call .revoke)).discarded =
      (w₀.play moves).discarded ++ [1] := by decide +kernel
  have hold : ∀ seq ∈ [1], 1 ≤ seq := by decide
  exact ⟨rfl, hstores, hnews, rollback_restores .empty {} "journal" [] moves (.call .revoke) rfl
    hstores List.mem_cons_self hold hnews (.done _)⟩

end World

end LayeredStore

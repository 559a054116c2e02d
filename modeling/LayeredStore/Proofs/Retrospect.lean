import LayeredStore.Proofs.Leftovers
import LayeredStore.Proofs.Readers

/-!
# `LayeredStore.Proofs.Retrospect`: reading the past

A view that leaves out a layer and all newer ones reads every table as it
was read when the layer was pushed. As long as no store fails, this stays
so until the layer is gone: writes go to the newest layer, and what a
flush takes away below the layer it puts into the roots. A flush that
fails halfway would put some of it there too early, but here a flush can
fail only before its first write, because its record cannot be encoded.

* `World.ReadsUnder`: what a table reads as with the layers below one.
* `World.Recalls`: no store fails, and what lies under the layers that
  are left is the same. `Recalls.flush`, `Recalls.actually`,
  `Recalls.course` say so of the steps and the moves, and
  `recalls_play` of runs.
* `exists_pushesLayer`: every layer was pushed by a call of the run.
* `historical_reads`: what is read through the views that look back.
-/

set_option autoImplicit false

namespace LayeredStore

/-- A flush whose record cannot be encoded writes nothing. -/
theorem FlushEnd.disk_of_unfit {w w' : World} {n : Nat} {r : Except Fault Unit}
    (h : FlushEnd w n r w') (hfits : (w.db.coordinator.netRecord n).fits = false) :
    w'.disk = w.disk := by
  obtain ⟨-, -, rfl⟩ | ⟨-, rfl⟩ := h.of_unfit hfits
  · rfl
  · rfl

namespace Coordinator

variable {c : Coordinator} {level seq : Nat}

/-- A number stands at one place among the levels. -/
theorem Sound.level_unique (h : c.Sound) {other : Nat} (hlevel : c.levels[level]? = some seq)
    (hother : c.levels[other]? = some seq) : level = other :=
  (List.getElem?_inj (List.getElem?_eq_some_iff.mp hlevel).1
    (h.increasing.imp Nat.ne_of_lt)).mp (hlevel.trans hother.symm)

/-- The live levels from one on are those whose numbers are not less. -/
theorem Sound.countP_live (h : c.Sound) (hlevel : c.levels[level]? = some seq)
    (hlive : c.pending ≤ level) :
    (c.levels.drop c.pending).countP (seq ≤ ·) = c.levels.length - level := by
  obtain ⟨hlt, hseq⟩ := List.getElem?_eq_some_iff.mp hlevel
  have hincreasing := List.pairwise_iff_getElem.mp h.increasing
  -- The levels before this one have lesser numbers, and those from it on do
  -- not.
  have hsplit : c.levels.drop c.pending =
      (c.levels.drop c.pending).take (level - c.pending) ++ c.levels.drop level := by
    conv_lhs => rw [← List.take_append_drop (level - c.pending) (c.levels.drop c.pending)]
    rw [List.drop_drop, Nat.add_sub_cancel' hlive]
  have holder : ((c.levels.drop c.pending).take (level - c.pending)).countP (seq ≤ ·) = 0 := by
    refine List.countP_eq_zero.mpr fun other hmem => ?_
    obtain ⟨i, hi, rfl⟩ := List.getElem_of_mem hmem
    rw [List.length_take, List.length_drop] at hi
    have hless := hincreasing (c.pending + i) level (by omega) hlt (by omega)
    rw [hseq] at hless
    rw [List.getElem_take, List.getElem_drop, decide_eq_true_eq]
    omega
  have hnewer : (c.levels.drop level).countP (seq ≤ ·) = (c.levels.drop level).length := by
    refine List.countP_eq_length.mpr fun other hmem => decide_eq_true ?_
    obtain ⟨i, hi, rfl⟩ := List.getElem_of_mem hmem
    rw [List.length_drop] at hi
    rw [List.getElem_drop, ← hseq]
    rcases Nat.eq_zero_or_pos i with rfl | hpos
    · exact Nat.le_refl _
    · exact Nat.le_of_lt (hincreasing level (level + i) hlt (by omega) (by omega))
  rw [hsplit, List.countP_append, holder, hnewer, List.length_drop, Nat.zero_add]

end Coordinator

namespace World

/-- With the layers below that of this number, the table reads as the
map. -/
def ReadsUnder (w : World) (seq table : Nat) (map : Contents) : Prop :=
  ∃ level, w.db.coordinator.levels[level]? = some seq ∧ w.mapBelow table level = some map

/-- No store is set to fail, and the database finds no record. -/
structure Unfailing (w : World) : Prop where
  healthy : w.disk.Healthy
  noRecord : w.Running → w.NoRecord

/-- No store fails, and with the layers below one that is left, the
tables read as they did. -/
structure Recalls (w w' : World) : Prop where
  unfailing : w'.Unfailing
  nextSeq : w.db.coordinator.nextSeq ≤ w'.db.coordinator.nextSeq
  levels : ∀ seq ∈ w'.db.coordinator.levels,
    seq ∈ w.db.coordinator.levels ∨ w.db.coordinator.nextSeq ≤ seq
  under : ∀ seq ∈ w'.db.coordinator.levels, ∀ table map, w.ReadsUnder seq table map →
    w'.ReadsUnder seq table map

section
variable {w w' w'' w₁ : World} {n : Nat} {r : Except Fault Unit}

theorem ReadsUnder.mem {seq table : Nat} {map : Contents} (h : w.ReadsUnder seq table map) :
    seq ∈ w.db.coordinator.levels :=
  h.elim fun _ hlevel => List.mem_of_getElem? hlevel.1

theorem Recalls.refl (h : w.Unfailing) : w.Recalls w where
  unfailing := h
  nextSeq := Nat.le_refl _
  levels _ hmem := .inl hmem
  under _ _ _ _ hunder := hunder

theorem Recalls.trans (h : w.Recalls w') (h' : w'.Recalls w'') (hsound : w.db.coordinator.Sound) :
    w.Recalls w'' where
  unfailing := h'.unfailing
  nextSeq := Nat.le_trans h.nextSeq h'.nextSeq
  levels seq hmem := by
    rcases h'.levels seq hmem with hmem' | hle
    · exact h.levels seq hmem'
    · exact .inr (Nat.le_trans h.nextSeq hle)
  under seq hmem table map hunder := by
    -- A number that is left at the end has not been away in between.
    have hlt := hsound.lt_nextSeq seq hunder.mem
    rcases h'.levels seq hmem with hmem' | hle
    · exact h'.under seq hmem table map (h.under seq hmem' table map hunder)
    · have := h.nextSeq
      omega

/-- If every level that is left was there before and has the same maps
below it, what was read under it is. -/
theorem Recalls.of_mapBelow (hsound : w.db.coordinator.Sound) (hunfailing : w'.Unfailing)
    (hkeeps : w.Keeps w') (hmap : ∀ level seq, w'.db.coordinator.levels[level]? = some seq →
      ∃ old, w.db.coordinator.levels[old]? = some seq ∧
        ∀ table, w'.mapBelow table level = w.mapBelow table old) : w.Recalls w' where
  unfailing := hunfailing
  nextSeq := Nat.le_of_eq hkeeps.nextSeq.symm
  levels _ hmem := .inl (hkeeps.levels hmem)
  under seq hmem table map hunder := by
    obtain ⟨level, hlevel⟩ := List.mem_iff_getElem?.mp hmem
    obtain ⟨old, hold, hbelow⟩ := hunder
    obtain ⟨old', hold', hsame⟩ := hmap level seq hlevel
    obtain rfl := hsound.level_unique hold hold'
    exact ⟨level, hlevel, (hsame table).trans hbelow⟩

/-- So it is if the levels are the same. -/
theorem Recalls.of_levels (hsound : w.db.coordinator.Sound) (hunfailing : w'.Unfailing)
    (hkeeps : w.Keeps w') (hlevels : w'.db.coordinator.levels = w.db.coordinator.levels)
    (hmap : ∀ table level, level < w.db.coordinator.levels.length →
      w'.mapBelow table level = w.mapBelow table level) : w.Recalls w' := by
  refine .of_mapBelow hsound hunfailing hkeeps fun level seq hlevel => ⟨level, hlevels ▸ hlevel, ?_⟩
  rw [hlevels] at hlevel
  exact fun table => hmap table level (List.getElem?_eq_some_iff.mp hlevel).1

/-! ### Flushes -/

/-- A flush that writes nothing or succeeds leaves what lies under the
layers that are left. -/
theorem Recalls.flush (hend : FlushEnd w n r w₁) (hunlocks : Unlocks r w₁ w')
    (hunfailing : w'.Unfailing) (hwhole : w₁.disk = w.disk ∨ r = .ok ()) (hrun : w.Running)
    (hsound : w.db.coordinator.Sound) (hstores : w.db.coordinator.DistinctStores) :
    w.Recalls w' := by
  have hkeeps : w.Keeps w' := hunlocks.keeps (keeps_of_flushEnd hend hrun)
  have hsame : w'.db.coordinator = w₁.db.coordinator ∧ w'.mapBelow = w₁.mapBelow := by
    rcases hunlocks with ⟨-, rfl⟩ | ⟨-, rfl⟩ <;> exact ⟨rfl, rfl⟩
  refine .of_mapBelow hsound hunfailing hkeeps fun level seq hlevel => ?_
  rw [hsame.1] at hlevel
  rw [hsame.2]
  rcases mapBelow_flushEnd hend hstores with ⟨hstacks, hzero, hmap⟩ | ⟨hstacks, hmap⟩
  · rw [hstacks.levels] at hlevel
    refine ⟨level, hlevel, fun table => ?_⟩
    rcases hwhole with hdisk | hok
    · exact mapBelow_congr hstacks.tables (fun _ _ => by rw [hdisk]) table level
    · exact hmap table level (by rw [hzero hok]; exact Nat.zero_le _)
  · -- The level has moved down by the number of the layers taken away.
    rw [hstacks.levels] at hlevel
    have hlevel' : (w.db.coordinator.levels.drop n)[level]? = some seq := hlevel
    rw [List.getElem?_drop] at hlevel'
    exact ⟨n + level, hlevel', fun table => hmap table level⟩

/-- Where no store is set to fail, a flush writes nothing or succeeds. -/
theorem flush_of_healthy (hsound : w.db.coordinator.Sound) (hrun : w.Running)
    (hhealthy : w.disk.Healthy) (count : Nat) :
    ∃ r w₁, FlushEnd w (min count w.db.coordinator.levels.length) r w₁ ∧
      Unlocks r w₁ ((Operation.locked (Operation.flushOldest count)).perform w).2 ∧
      w₁.disk.Healthy ∧ (w₁.disk = w.disk ∨ r = .ok ()) := by
  have hends := flushOldest_ends_locked hsound hrun count
  cases hfits : (w.db.coordinator.netRecord (min count w.db.coordinator.levels.length)).fits with
  | true =>
    obtain ⟨⟨hend, hunlocks⟩, hok, hhealthy'⟩ :=
      hends.and (Operation.flushOldest_healthy w hsound.names hhealthy count hfits)
    exact ⟨_, _, hend, hunlocks, hhealthy', .inr hok⟩
  | false =>
    obtain ⟨hend, hunlocks⟩ := hends
    have hdisk := hend.disk_of_unfit hfits
    exact ⟨_, _, hend, hunlocks, hdisk ▸ hhealthy, .inl hdisk⟩

/-! ### Steps -/

/-- A quiet step that leaves the stores alone. -/
theorem Recalls.quiet (h : Quiet w w') (hdisk : w'.disk = w.disk) (hunfailing : w'.Unfailing)
    (hsound : w.db.coordinator.Sound) (hstores : w.db.coordinator.DistinctStores) :
    w.Recalls w' := by
  have hkeeps := h.keeps
  cases h with
  | say | bus => exact .of_levels hsound hunfailing hkeeps rfl fun _ _ _ => rfl
  | settings hsame _ =>
    refine .of_levels hsound hunfailing hkeeps hsame.levels fun table level _ => ?_
    apply mapBelow_congr
    · exact hsame.tables
    · exact fun _ _ => rfl
  | solidify =>
    exact .of_levels hsound hunfailing hkeeps rfl fun table level _ =>
      mapBelow_mapTables (f := (·.solidify _)) rfl (fun _ => rfl) (fun _ _ => rfl) table
  | commit =>
    exact .of_levels hsound hunfailing hkeeps rfl fun table level _ => mapBelow_commit table level
  | flush hrun _ _ hend hr =>
    exact .flush hend (.inl ⟨hr, rfl⟩) hunfailing (.inl hdisk) hrun hsound hstores
  | crash hrun _ _ hend =>
    exact .flush hend (.inr ⟨rfl, rfl⟩) hunfailing (.inl hdisk) hrun hsound hstores

/-- Every exact step recalls what lies under the layers that are left. -/
theorem Recalls.step (h : Act w w') (hexact : Exact w w') (hunfailing : w.Unfailing)
    (hsound : w.db.coordinator.Sound) (hstores : w.db.coordinator.DistinctStores) :
    w.Recalls w' := by
  have hkeeps := h.keeps
  -- There was no record, and a step that leaves the database running leaves
  -- none.
  have hrecord : w'.Running → w'.NoRecord := by
    intro hrun'
    obtain ⟨hrun, hnone | hsame⟩ := KeepsRecord.step h hexact hsound hrun'
    · exact hnone
    · exact hsame.trans (hunfailing.noRecord hrun)
  rcases hexact with hdisk | ⟨hrun, count, rfl⟩
  · have hunfailing' : w'.Unfailing := ⟨hdisk ▸ hunfailing.healthy, hrecord⟩
    cases h with
    | quiet h => exact .quiet h hdisk hunfailing' hsound hstores
    | poison => exact .of_levels hsound hunfailing' hkeeps rfl fun _ _ _ => rfl
    | recover hrun hrecord' => exact absurd (hunfailing.noRecord hrun) hrecord'
    | @discard seq c _ _ _ _ _ _ hc =>
      refine .of_mapBelow hsound hunfailing' hkeeps fun level seq hlevel => ?_
      have hlevel' : c.levels[level]? = some seq := hlevel
      rw [hc.levels] at hlevel'
      have hlevel'' : w.db.coordinator.levels.dropLast[level]? = some seq := hlevel'
      obtain ⟨hlt, -⟩ := List.getElem?_eq_some_iff.mp hlevel''
      rw [List.length_dropLast] at hlt
      rw [List.getElem?_dropLast, if_pos hlt] at hlevel''
      exact ⟨level, hlevel'', mapBelow_discardHead hsound hc (by omega)⟩
  · obtain ⟨r, w₁, hend, hunlocks, hhealthy, hwhole⟩ :=
      flush_of_healthy hsound hrun hunfailing.healthy count
    have hhealthy' :
        ((Operation.locked (Operation.flushOldest count)).perform w).2.disk.Healthy := by
      rcases hunlocks with ⟨-, heq⟩ | ⟨-, heq⟩ <;> exact heq ▸ hhealthy
    exact .flush hend hunlocks ⟨hhealthy', hrecord⟩ hwhole hrun hsound hstores

theorem Recalls.actually (h : Actually w w') (hunfailing : w.Unfailing)
    (hsound : w.db.coordinator.Sound) (hstores : w.db.coordinator.DistinctStores) :
    w.Recalls w' := by
  induction h with
  | refl => exact .refl hunfailing
  | tail hpath hstep ih =>
    have hkeeps := Actually.keeps hpath
    exact ih.trans (.step hstep.1 hstep.2 ih.unfailing (Actually.sound hpath hsound)
      (hkeeps.distinctStores hstores)) hsound

/-- A write goes to the newest layer, or to a root if there are no
layers. -/
theorem Recalls.puts (h : Puts w w') (hunfailing : w.Unfailing) (hsound : w.db.coordinator.Sound)
    (hstores : w.db.coordinator.DistinctStores) : w.Recalls w' := by
  have hkeeps := h.keeps
  cases h with
  | put table key entry =>
    exact .of_levels hsound ⟨hunfailing.healthy, hunfailing.noRecord⟩ hkeeps rfl
      fun other level hlevel => mapBelow_put hsound table key entry hlevel other
  | @direct chain batch hrun hmem hlevels =>
    have hunfailing' : (w.withDisk (w.disk.write chain.root batch).2).Unfailing := by
      refine ⟨(hunfailing.healthy.write chain.root batch).2, fun _ => ?_⟩
      exact (Disk.get?_write _ _ _ _ fun heq => absurd heq (hstores.journal_ne hmem)).trans
        (hunfailing.noRecord hrun)
    refine .of_mapBelow hsound hunfailing' hkeeps fun level seq hlevel => ?_
    have hlevel' : w.db.coordinator.levels[level]? = some seq := hlevel
    rw [hlevels] at hlevel'
    cases hlevel'

theorem Recalls.writes (h : WritesExactly w w') (hunfailing : w.Unfailing)
    (hsound : w.db.coordinator.Sound) (hstores : w.db.coordinator.DistinctStores) :
    w.Recalls w' := by
  obtain ⟨w₁, w₂, hpath, hput, hend⟩ := h
  have hfirst := Recalls.actually hpath.actually hunfailing hsound hstores
  have hsecond : w.Recalls w₂ := by
    rcases hput with rfl | hput
    · exact hfirst
    · exact hfirst.trans (.puts hput hfirst.unfailing (hpath.sound hsound)
        (hpath.keeps.distinctStores hstores)) hsound
  rcases hend with rfl | rfl
  · exact hsecond
  · exact ⟨⟨hsecond.unfailing.healthy, nofun⟩, hsecond.nextSeq, hsecond.levels, hsecond.under⟩

/-! ### A new layer -/

/-- A push leaves what lies under the layers, and under the new one lies
what the tables read at the head. -/
theorem Pushes.recalls (h : Pushes w w') (hunfailing : w.Unfailing)
    (hsound : w.db.coordinator.Sound) :
    w.Recalls w' ∧ ∀ table map, w.headMap table = some map →
      w'.ReadsUnder w.db.coordinator.nextSeq table map := by
  have hlevels : w'.db.coordinator.levels = w.db.coordinator.levels ++ [w.db.coordinator.nextSeq] :=
    h.sameStacks.levels
  -- What lies under a level depends on the layers below it, and these stay.
  have hmap : ∀ table level, level ≤ w.db.coordinator.levels.length →
      w'.mapBelow table level = w.mapBelow table level := by
    intro table level hlevel
    rw [mapBelow_of_disk_eq h.disk, mapBelow_push hsound h.sameStacks hlevel]
  have hunfailing' : w'.Unfailing := by
    refine ⟨h.disk ▸ hunfailing.healthy, fun _ => ?_⟩
    exact (hunfailing.noRecord h.running).congr h.sameStacks.journal (by rw [h.disk])
  refine ⟨⟨hunfailing', ?_, fun seq hmem => ?_, fun seq _ table map hunder => ?_⟩,
    fun table map hhead => ⟨w.db.coordinator.levels.length, ?_, ?_⟩⟩
  · rw [h.sameStacks.nextSeq]
    exact Nat.le_succ _
  · rw [hlevels] at hmem
    rcases List.mem_append.mp hmem with hold | hnew
    · exact .inl hold
    · exact .inr (Nat.le_of_eq (List.mem_singleton.mp hnew).symm)
  · obtain ⟨level, hlevel, hbelow⟩ := hunder
    have hlt := (List.getElem?_eq_some_iff.mp hlevel).1
    refine ⟨level, ?_, (hmap table level (Nat.le_of_lt hlt)).trans hbelow⟩
    rw [hlevels, List.getElem?_append_left hlt]
    exact hlevel
  · rw [hlevels, List.getElem?_concat_length]
  · exact (hmap table _ (Nat.le_refl _)).trans hhead

theorem Recalls.opens (h : OpensExactly w w') (hunfailing : w.Unfailing)
    (hsound : w.db.coordinator.Sound) (hstores : w.db.coordinator.DistinctStores) :
    w.Recalls w' := by
  obtain ⟨w₁, hpath, hend⟩ := h
  have hfirst := Recalls.actually hpath.actually hunfailing hsound hstores
  rcases hend with rfl | hpush
  · exact hfirst
  · exact hfirst.trans (hpush.recalls hfirst.unfailing (hpath.sound hsound)).1 hsound

/-- A new table lies beside the others. -/
theorem Registers.recalls {name root : String} (h : Registers name root w w')
    (hunfailing : w.Unfailing) : w.Recalls w' where
  unfailing := by
    refine ⟨h.disk ▸ hunfailing.healthy, fun _ => ?_⟩
    exact (hunfailing.noRecord h.running).congr h.sameStacks.journal (by rw [h.disk])
  nextSeq := Nat.le_of_eq h.sameStacks.nextSeq.symm
  levels seq hmem := .inl (h.sameStacks.levels ▸ hmem)
  under seq _ table map := by
    rintro ⟨level, hlevel, hbelow⟩
    have htable : table < w.db.coordinator.tables.length :=
      (w.isSome_mapBelow_iff table level).mp (by rw [hbelow]; rfl)
    refine ⟨level, h.sameStacks.levels ▸ hlevel, ?_⟩
    rw [mapBelow_of_disk_eq h.disk, mapBelow_register h.sameStacks, if_neg (Nat.ne_of_lt htable)]
    exact hbelow

/-! ### Moves -/

/-- A move that sets no store to fail recalls what lies under the layers
that are left. -/
theorem Recalls.act (hunfailing : w.Unfailing) (hsound : w.db.coordinator.Sound)
    (hstores : w.db.coordinator.DistinctStores) {move : Move}
    (hplan : ∀ store plan, move ≠ .setPlan store (some plan)) : w.Recalls (move.act w) := by
  have hcourse := act_course hsound hunfailing.noRecord move
  revert hcourse
  generalize move.act w = w'
  intro hcourse
  cases hcourse with
  | acts _ h => exact .actually h hunfailing hsound hstores
  | opens h => exact .opens h hunfailing hsound hstores
  | registers h => exact h.recalls hunfailing
  | writes h => exact .writes h hunfailing hsound hstores
  | @setPlan store plan =>
    cases plan with
    | some plan => exact absurd rfl (hplan store plan)
    | none =>
      -- Setting a store right again changes nothing of what it holds.
      have hcontents := Disk.contents_setPlan w.disk store none
      have hunfailing' : (w.withDisk (w.disk.setPlan store none)).Unfailing :=
        ⟨hunfailing.healthy.setPlan_none store, fun hrun =>
          (congrArg (OrderedMap.get? · Journal.key) (hcontents _)).trans (hunfailing.noRecord hrun)⟩
      refine .of_levels hsound hunfailing' ⟨rfl, rfl, rfl, fun _ h => h, id, id⟩ rfl
        fun table level _ => ?_
      apply mapBelow_congr
      · rfl
      · exact fun chain _ => hcontents chain.root

theorem recalls_play (hunfailing : w.Unfailing) (hsound : w.db.coordinator.Sound)
    {moves : List Move} (hstores : (w.play moves).db.coordinator.DistinctStores)
    (hplans : ∀ store plan, .setPlan store (some plan) ∉ moves) : w.Recalls (w.play moves) := by
  induction moves generalizing w with
  | nil => exact .refl hunfailing
  | cons move moves ih =>
    have hfirst : w.Recalls (move.act w) := by
      refine .act hunfailing hsound (distinctStores_of_play hsound hstores) fun store plan heq => ?_
      exact hplans store plan (heq ▸ List.mem_cons_self)
    have hrest := ih hfirst.unfailing (act_sound hsound move).1 hstores fun store plan hmem =>
      hplans store plan (List.mem_cons_of_mem _ hmem)
    exact hfirst.trans hrest hsound

end

/-! ### Looking back -/

/-- After these moves of the run from `w₀`, the call that opens a session
pushes the layer of this number. -/
def PushesLayer (w₀ : World) (before : List Move) (force : Bool) (seq : Nat) : Prop :=
  seq ∉ (w₀.play before).db.coordinator.levels ∧
    seq ∈ (w₀.play (before ++ [.call (.openSession force)])).db.coordinator.levels

/-- Every layer was pushed by a call of the run. -/
theorem exists_pushesLayer {w₀ : World} (hsound : w₀.db.coordinator.Sound)
    (hlevels : w₀.db.coordinator.levels = []) {moves : List Move} {seq : Nat}
    (hmem : seq ∈ (w₀.play moves).db.coordinator.levels) :
    ∃ before force after, moves = before ++ .call (.openSession force) :: after ∧
      w₀.PushesLayer before force seq := by
  -- The last move of the run is what is new, so the induction is from its end.
  induction moves using List.reverseRecOn with
  | nil =>
    rw [play_nil, hlevels] at hmem
    cases hmem
  | append_singleton moves move ih =>
    by_cases hold : seq ∈ (w₀.play moves).db.coordinator.levels
    · obtain ⟨before, force, after, rfl, hpushes⟩ := ih hold
      exact ⟨before, force, after ++ [move], by simp, hpushes⟩
    · have hmem' := hmem
      rw [play_snoc] at hmem'
      rcases act_cases (sound_of_play hsound moves).1 move with
        hcalm | ⟨force, rfl, -⟩ | ⟨name, root, rfl, hregister⟩
      · exact absurd (hcalm.keeps.levels hmem') hold
      · exact ⟨moves, force, [], rfl, hold, hmem⟩
      · exact absurd (hregister.sameStacks.levels ▸ hmem') hold

/-- Under a layer just pushed lies what the tables read before the call. -/
theorem readsUnder_of_opens {w w' : World} (h : OpensExactly w w') (hunfailing : w.Unfailing)
    (hsound : w.db.coordinator.Sound) (hstores : w.db.coordinator.DistinctStores) {seq : Nat}
    (hfresh : seq ∉ w.db.coordinator.levels) (hpushed : seq ∈ w'.db.coordinator.levels)
    {table : Nat} {map : Contents} (hmap : w.headMap table = some map) :
    w'.ReadsUnder seq table map := by
  obtain ⟨w₁, hpath, hend⟩ := h
  have hold : ∀ seq, seq ∈ w₁.db.coordinator.levels → seq ∈ w.db.coordinator.levels :=
    fun _ hmem => hpath.keeps.levels hmem
  rcases hend with rfl | hpush
  · exact absurd (hold seq hpushed) hfresh
  have hlevels : w'.db.coordinator.levels =
      w₁.db.coordinator.levels ++ [w₁.db.coordinator.nextSeq] :=
    hpush.sameStacks.levels
  rw [hlevels] at hpushed
  obtain rfl := List.mem_singleton.mp
    ((List.mem_append.mp hpushed).resolve_left fun hmem => hfresh (hold seq hmem))
  -- The path to the push is quiet, so the head reads the same right before it.
  have hfirst := Recalls.actually hpath.actually hunfailing hsound hstores
  refine (hpush.recalls hfirst.unfailing (hpath.sound hsound)).2 table map ?_
  rw [hpath.quiets.headMap hstores]
  exact hmap

/-- It lies there as long as the layer is left. -/
theorem play_readsUnder {w₀ : World} (hunfailing : w₀.Unfailing) (hsound : w₀.db.coordinator.Sound)
    {before after : List Move} {force : Bool} {seq : Nat}
    (hpushes : w₀.PushesLayer before force seq)
    (hstores : (w₀.play (before ++ .call (.openSession force) :: after)
      ).db.coordinator.DistinctStores)
    (hplans : ∀ store plan,
      .setPlan store (some plan) ∉ before ++ .call (.openSession force) :: after)
    (hmem : seq ∈ (w₀.play (before ++ .call (.openSession force) :: after)).db.coordinator.levels)
    {table : Nat} {map : Contents} (hmap : (w₀.play before).headMap table = some map) :
    (w₀.play (before ++ .call (.openSession force) :: after)).ReadsUnder seq table map := by
  obtain ⟨hfresh, hpushed⟩ := hpushes
  simp only [List.mem_append, List.mem_cons, not_or] at hplans
  rw [play_snoc] at hpushed
  rw [play_append, play_cons] at hstores hmem ⊢
  have hsound₁ := (sound_of_play hsound before).1
  have hsound₂ := (act_sound hsound₁ (.call (.openSession force))).1
  have hstores₂ := distinctStores_of_play hsound₂ hstores
  have hstores₁ : (w₀.play before).db.coordinator.DistinctStores :=
    distinctStores_of_act hsound₁ hstores₂
  -- The run up to the push, the push, and the run after it are taken in turn.
  have hfirst := recalls_play hunfailing hsound hstores₁ fun store plan => (hplans store plan).1
  have hcall : Recalls (w₀.play before) (Move.act (w₀.play before) (.call (.openSession force))) :=
    .act hfirst.unfailing hsound₁ hstores₁ nofun
  have hlater := recalls_play hcall.unfailing hsound₂ hstores fun store plan =>
    (hplans store plan).2.2
  have hopens : OpensExactly (w₀.play before)
      (Move.act (w₀.play before) (.call (.openSession force))) :=
    Command.run_path hsound₁ (.openSession force)
  exact hlater.under seq hmem table map
    (readsUnder_of_opens hopens hfirst.unfailing hsound₁ hstores₁ hfresh hpushed hmap)

/-- What lies under a live layer is read through the view that leaves the
live layers out from this one on. -/
theorem ReadsUnder.reads {w : World} {seq table : Nat} {map : Contents}
    (h : w.ReadsUnder seq table map) (hsound : w.db.coordinator.Sound)
    (hlive : seq ∈ w.db.coordinator.levels.drop w.db.coordinator.pending) :
    let hidden := (w.db.coordinator.levels.drop w.db.coordinator.pending).countP (seq ≤ ·)
    hidden ≤ w.db.coordinator.depth ∧ w.Reads (.head hidden) table map ∧
      ((w.db.coordinator.levels.drop w.db.coordinator.pending).head? = some seq →
        w.Reads .solidity table map) := by
  obtain ⟨level, hlevel, hmap⟩ := h
  have hlt := (List.getElem?_eq_some_iff.mp hlevel).1
  obtain ⟨i, hi⟩ := List.mem_iff_getElem?.mp hlive
  rw [List.getElem?_drop] at hi
  obtain rfl : w.db.coordinator.pending + i = level := hsound.level_unique hi hlevel
  intro hidden
  -- As many layers are left out as are live from this level on.
  have hhidden : hidden = w.db.coordinator.levels.length - (w.db.coordinator.pending + i) :=
    hsound.countP_live hlevel (Nat.le_add_right _ _)
  have hdepth : w.db.coordinator.depth =
      w.db.coordinator.levels.length - w.db.coordinator.pending := rfl
  have hle : hidden ≤ w.db.coordinator.depth := by omega
  refine ⟨hle, (reads_iff hsound.uniform _ _ _).mpr ?_, fun hhead =>
    (reads_iff hsound.uniform _ _ _).mpr ?_⟩
  · have hshown : w.db.coordinator.shown (.head hidden) = w.db.coordinator.pending + i := by
      rw [Coordinator.shown, Nat.min_eq_left hle]
      omega
    rw [mapThrough, hshown]
    exact hmap
  · rw [List.head?_drop] at hhead
    have hpending := hsound.level_unique hhead hlevel
    rw [mapThrough, Coordinator.shown, hpending]
    exact hmap

/-- No store fails. After a run, every live layer was pushed by a call of
the run, and every table that was registered then reads, at the head with
all layers left out from that one on, as it read at the head just before
the call. If the layer is the oldest live one, the table also reads so
through the view of the pending layers. -/
theorem historical_reads (disk : Disk) (configuration : Configuration) (journal : String)
    (handlers : List Handler) (moves : List Move) (hhealthy : disk.Healthy)
    (hplans : ∀ store plan, .setPlan store (some plan) ∉ moves)
    (hrecord : (disk.contents journal).get? Journal.key = none)
    (hstores : ((opened disk configuration journal handlers).play
      moves).db.coordinator.DistinctStores) :
    let w₀ := opened disk configuration journal handlers
    let now := w₀.play moves
    let live := now.db.coordinator.levels.drop now.db.coordinator.pending
    ∀ seq ∈ live,
      (∃ before force after, moves = before ++ .call (.openSession force) :: after ∧
        w₀.PushesLayer before force seq) ∧
      ∀ before force after, moves = before ++ .call (.openSession force) :: after →
        w₀.PushesLayer before force seq →
        ∀ table < (w₀.play before).db.coordinator.tables.length,
          ∃ map, (w₀.play before).ReadsAtHead table map ∧
            live.countP (seq ≤ ·) ≤ now.db.coordinator.depth ∧
            now.Reads (.head (live.countP (seq ≤ ·))) table map ∧
            (live.head? = some seq → now.Reads .solidity table map) := by
  intro w₀ now live seq hlive
  have hsound₀ : w₀.db.coordinator.Sound := Coordinator.sound_new configuration journal _
  have hunfailing₀ : w₀.Unfailing := ⟨hhealthy, fun _ => hrecord⟩
  have hmem : seq ∈ now.db.coordinator.levels := List.mem_of_mem_drop hlive
  refine ⟨exists_pushesLayer hsound₀ rfl hmem, ?_⟩
  rintro before force after rfl hpushes table htable
  obtain ⟨map, hmap⟩ := Option.isSome_iff_exists.mp
    (((w₀.play before).isSome_mapBelow_iff table _).mpr htable)
  have hread : (w₀.play before).ReadsAtHead table map :=
    (readsAtHead_iff (sound_of_play hsound₀ before).1 table map).mpr hmap
  have hunder := play_readsUnder hunfailing₀ hsound₀ hpushes hstores hplans hmem hmap
  exact ⟨map, hread, hunder.reads (sound_of_play hsound₀ _).1 hlive⟩

/-- Three units of work write the same key. The layer of the first has been
flushed into the root, and the other two are left out: the table reads as
before the second. -/
theorem historical_reads_after_flush :
    let configuration : Configuration := { maxSize := 2, maxFlushCount := 1 }
    let before := [Move.call (.addTable "a" "left"), .call (.openSession false),
      .call (.write ⟨0, "a"⟩ [1] (.value [10])), .call (.commitSession ⟨0, false, false⟩)]
    let after := [Move.call (.write ⟨0, "a"⟩ [1] (.value [20])),
      .call (.commitSession ⟨1, false, false⟩), .call (.openSession false),
      .call (.write ⟨0, "a"⟩ [1] .tombstone)]
    let moves := before ++ .call (.openSession false) :: after
    ((opened .empty configuration "journal" []).play moves).db.coordinator.DistinctStores ∧
      ((opened .empty configuration "journal" []).play moves).db.coordinator.levels = [2, 3] ∧
      (((opened .empty configuration "journal" []).play moves).disk.contents "left").get? [1] =
        some [10] ∧
      ∃ map, ((opened .empty configuration "journal" []).play before).ReadsAtHead 0 map ∧
        ((opened .empty configuration "journal" []).play moves).Reads (.head 2) 0 map ∧
        ((opened .empty configuration "journal" []).play moves).Reads .solidity 0 map := by
  intro configuration before after moves
  have hhealthy : Disk.empty.Healthy := fun _ => rfl
  have hplans : ∀ store plan, Move.setPlan store (some plan) ∉ moves := by
    simp [moves, before, after]
  have hstores : ((opened .empty configuration "journal" []).play
      moves).db.coordinator.DistinctStores :=
    (Coordinator.distinctStores_iff _).mpr (by decide +kernel)
  have hlevels : ((opened .empty configuration "journal" []).play
      moves).db.coordinator.levels = [2, 3] := by decide +kernel
  have hpending : ((opened .empty configuration "journal" []).play
      moves).db.coordinator.pending = 0 := by decide +kernel
  have hpushes : (opened .empty configuration "journal" []).PushesLayer before false 2 :=
    ⟨by decide +kernel, by decide +kernel⟩
  have htable : 0 < ((opened .empty configuration "journal" []).play
      before).db.coordinator.tables.length := by decide +kernel
  have hreads :=
    historical_reads .empty configuration "journal" [] moves hhealthy hplans rfl hstores 2
  simp only [hlevels, hpending] at hreads
  obtain ⟨map, hpast, -, hhead, hsolid⟩ :=
    (hreads List.mem_cons_self).2 before false after rfl hpushes 0 htable
  exact ⟨hstores, hlevels, by decide +kernel, map, hpast, hhead, hsolid rfl⟩

end World

end LayeredStore

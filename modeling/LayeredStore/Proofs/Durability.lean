import LayeredStore.Proofs.Settlement
import LayeredStore.Proofs.RoundTrip

/-!
# `LayeredStore.Proofs.Durability`: where what the stores hold comes from

What the roots and the journal hold comes from units of work that were
committed and stayed so, or was written while no layer was live. What a
unit of work wrote that was given up is never written to a store.

* `World.Permitted`: the writes to the stores that a run may attempt,
  those of flushes of settled layers and those that go straight into a
  root. `World.Origin`: where a value in a root comes from.
  `World.RecordOf`: where the entries in a record come from.
* `World.Backed`: what the stores hold has an origin. `Backed.writes` says
  what has to be known of writes for it to stay so; `Backed.flush`,
  `Backed.direct` and `Backed.steps` say that it is known of flushes, of
  entries written straight into a root, and over the steps of all other
  moves.
* `uncommitted_never_durable`: after every run.
-/

set_option autoImplicit false

namespace LayeredStore

/-! ### What writes leave in a store -/

/-- What a root holds at a key tells which entry was written. -/
theorem Entry.value?_injective : Function.Injective Entry.value? := by
  rintro (_ | _) (_ | _) h <;> cases h <;> rfl

/-- After writes to it, a store holds at a key what it held, or what an
entry of one of them says. -/
theorem Contents.get?_afterWrites (contents : Contents) (store : String)
    (writes : List (String × Batch)) (key : Bytes) :
    (contents.afterWrites store writes).get? key = contents.get? key ∨
      ∃ batch entry, (store, batch) ∈ writes ∧ (key, entry) ∈ batch ∧
        (contents.afterWrites store writes).get? key = entry.value? := by
  -- By induction on the writes: what a later one says goes before what the
  -- first one does.
  induction writes generalizing contents with
  | nil => exact .inl rfl
  | cons write writes ih =>
    have hcons : contents.afterWrites store (write :: writes) =
        (contents.afterWrites store [write]).afterWrites store writes :=
      contents.afterWrites_append store [write] writes
    rw [hcons]
    rcases ih (contents.afterWrites store [write]) with hsame | ⟨batch, entry, hmem, hentry⟩
    · rw [hsame]
      by_cases hstore : write.1 = store
      · obtain ⟨_, batch⟩ := write
        obtain rfl : _ = store := hstore
        rw [Contents.afterWrites_singleton, Contents.get?_apply]
        cases hfind : batch.reverse.find? (·.1 = key) with
        | none => exact .inl rfl
        | some pair =>
          have hkey : pair.1 = key := of_decide_eq_true (List.find?_some hfind :)
          have hpair := List.mem_reverse.mp (List.mem_of_find?_eq_some hfind)
          exact .inr ⟨batch, pair.2, List.mem_cons_self, hkey ▸ hpair, rfl⟩
      · rw [Contents.afterWrites_singleton_of_ne hstore]
        exact .inl rfl
    · exact .inr ⟨batch, entry, List.mem_cons_of_mem _ hmem, hentry⟩

/-- A flush carries some of its writes out, and attempts others in vain.
There are none if its record cannot be encoded. -/
theorem FlushEnd.writes {w w' : World} {n : Nat} {r : Except Fault Unit} (h : FlushEnd w n r w') :
    ∃ done failed, w.disk.After done failed w'.disk ∧
      ∀ write ∈ done ++ failed, (w.db.coordinator.netRecord n).fits = true ∧
        (write ∈ w.db.coordinator.flushWrites n ∨ write = w.db.coordinator.clearWrite) := by
  cases h with
  | nothing | unfit => exact ⟨[], [], .refl _, nofun⟩
  | @halted _ hfits done rest failed _ _ _ hsplit hafter
  | @crashed _ hfits done rest failed _ hsplit hafter =>
    refine ⟨done, [failed], hafter, fun write hmem => ⟨hfits, .inl ?_⟩⟩
    rw [hsplit]
    rcases List.mem_append.mp hmem with hdone | hfailed
    · exact List.mem_append_left _ hdone
    · rw [List.mem_singleton.mp hfailed]
      exact List.mem_append_right _ List.mem_cons_self
  | unclearedHalted _ hfits hafter | unclearedCrashed _ hfits hafter =>
    exact ⟨_, _, hafter, fun write hmem =>
      ⟨hfits, (List.mem_append.mp hmem).imp id List.mem_singleton.mp⟩⟩
  | finished _ hfits hafter =>
    refine ⟨_, _, hafter, fun write hmem => ⟨hfits, ?_⟩⟩
    rw [List.append_nil] at hmem
    exact (List.mem_append.mp hmem).imp id List.mem_singleton.mp

/-- How a store is set to fail is no write. -/
theorem Disk.after_setPlan (d : Disk) (store : String) (plan : Option FaultPlan) :
    d.After [] [] (d.setPlan store plan) where
  contents other := contents_setPlan d store plan other
  attempts := by simp [setPlan, setStore]

/-- A coordinator whose stores are distinct has grown from one whose stores
were. -/
theorem Coordinator.Grows.distinctStores {c c' : Coordinator} (h : c.Grows c')
    (hstores : c'.DistinctStores) : c.DistinctStores :=
  hstores.of_registered h.registered h.journal.symm

namespace World

/-! ### What a run writes to the stores -/

/-- Where what a root holds at a key comes from, as `w` stands after the
run: an entry was written while no layer was live, or to a layer that is
settled. -/
inductive Origin (w₀ : World) (moves : List Move) (w : World) (name : String) (key : Bytes)
    (entry : Entry) : Prop
  | straight (h : w₀.WrittenStraight moves name key entry)
  | layer (seq : Nat) (h : w₀.WrittenTo moves seq name key entry)
      (hsettled : Settled w₀ moves w seq)

/-- A record of entries that were written to layers that are settled, as
`w` stands after the run. -/
structure RecordOf (w₀ : World) (moves : List Move) (w : World) (record : JournalRecord) :
    Prop where
  fits : record.fits = true
  written : ∀ table ∈ record.tables, ∀ pair ∈ table.2, ∃ seq,
    w₀.WrittenTo moves seq table.1 pair.1 pair.2 ∧ Settled w₀ moves w seq

/-- In the midst of a move of the run, the coordinator stood like this, or
like this once a unit of work was committed. -/
inductive Passes (w₀ : World) (run : List Move) : Coordinator → Prop
  | during {before : List Move} {move : Move} {w : World} (hmoves : before ++ [move] <+: run)
      (hpath : Steps move (w₀.play before) w) : Passes w₀ run w.db.coordinator
  | committed {c c' : Coordinator} {unit : UnitOfWork} {statuses : List SessionStatus}
      (h : Passes w₀ run c) (hcloses : c.Closes unit statuses)
      (hall : Coordinator.AllCommitted statuses unit) (hkeep : (c.keep unit statuses).Alike c') :
      Passes w₀ run c'

/-- A write to a store that may be attempted in the run: it is one of a
flush, or an entry is written to a root while no layer is live. -/
inductive Permitted (w₀ : World) (run moves : List Move) (w : World) : String × Batch → Prop
  | flush (c : Coordinator) (n : Nat) {write : String × Batch} (hpasses : Passes w₀ run c)
      (h : FlushOf w₀ moves w c n) (hfits : (c.netRecord n).fits = true)
      (hwrite : write ∈ c.flushWrites n ∨ write = c.clearWrite) : Permitted w₀ run moves w write
  | straight (before : List Move) (table : Table) (chain : Chain) (key : Bytes) (entry : Entry)
      (h : w₀.WrittenAt moves before table chain key entry)
      (hdry : (w₀.play before).db.coordinator.depth = 0) :
      Permitted w₀ run moves w (chain.root, [(key, entry)])

/-- What the stores hold as `w` stands after some moves of the run has an
origin, and was written as is permitted. -/
structure Backed (w₀ : World) (run moves : List Move) (w : World) : Prop where
  clean : w.Running → w.NoRecord
  attempts : ∃ new, w.disk.attempts = w₀.disk.attempts ++ new ∧
    ∀ write ∈ new, Permitted w₀ run moves w write
  roots : ∀ store, store ≠ w.db.coordinator.journal → ∀ key,
    (w.disk.contents store).get? key = (w₀.disk.contents store).get? key ∨
    ∃ name entry, (name, store) ∈ w.db.coordinator.registered ∧
      (w.disk.contents store).get? key = entry.value? ∧ Origin w₀ moves w name key entry
  record : (w.disk.contents w.db.coordinator.journal).get? Journal.key = none ∨
    ∃ record, RecordOf w₀ moves w record ∧
      (w.disk.contents w.db.coordinator.journal).get? Journal.key = some record.encode

section
variable {w₀ w w' : World} {run moves moves' : List Move} {move : Move} {n : Nat}
  {r : Except Fault Unit}

theorem Origin.imp {name : String} {key : Bytes} {entry : Entry}
    (h : Origin w₀ moves w name key entry) (hextends : moves <+: moves')
    (hsettled : ∀ seq, Settled w₀ moves w seq → Settled w₀ moves' w' seq) :
    Origin w₀ moves' w' name key entry := by
  cases h with
  | straight h => exact .straight (h.extend hextends)
  | layer seq h hseq => exact .layer seq (h.extend hextends) (hsettled seq hseq)

theorem RecordOf.imp {record : JournalRecord} (h : RecordOf w₀ moves w record)
    (hextends : moves <+: moves')
    (hsettled : ∀ seq, Settled w₀ moves w seq → Settled w₀ moves' w' seq) :
    RecordOf w₀ moves' w' record where
  fits := h.fits
  written table htable pair hpair := by
    obtain ⟨seq, hwritten, hseq⟩ := h.written table htable pair hpair
    exact ⟨seq, hwritten.extend hextends, hsettled seq hseq⟩

theorem Permitted.imp {write : String × Batch} (h : Permitted w₀ run moves w write)
    (hextends : moves <+: moves') (hgrows : w.db.coordinator.Grows w'.db.coordinator)
    (hsettled : ∀ seq, Settled w₀ moves w seq → Settled w₀ moves' w' seq) :
    Permitted w₀ run moves' w' write := by
  cases h with
  | flush c n hpasses h hfits hwrite =>
    exact .flush c n hpasses
      { sound := h.sound
        registered := h.registered.trans hgrows.registered
        journal := h.journal.trans hgrows.journal.symm
        committed := h.committed
        settled := fun seq hmem => hsettled seq (h.settled seq hmem)
        written := fun chain hchain layer hlayer key entry hget =>
          (h.written chain hchain layer hlayer key entry hget).extend hextends } hfits hwrite
  | straight before table chain key entry h hdry =>
    exact .straight before table chain key entry (h.extend hextends) hdry

/-- What the stores hold has an origin after writes that were permitted,
if what they carried out has one. -/
theorem Backed.writes (h : Backed w₀ run moves w) (hextends : moves <+: moves')
    (hprecedes : w.Precedes w')
    (hsettled : ∀ seq, Settled w₀ moves w seq → Settled w₀ moves' w' seq)
    {done failed : List (String × Batch)} (hafter : w.disk.After done failed w'.disk)
    (hclean : w.NoRecord → w'.Running → w'.NoRecord)
    (hpermitted : ∀ write ∈ done ++ failed, Permitted w₀ run moves' w' write)
    (hroots : ∀ store batch pair, (store, batch) ∈ done → store ≠ w.db.coordinator.journal →
      pair ∈ batch → ∃ name, (name, store) ∈ w'.db.coordinator.registered ∧
        Origin w₀ moves' w' name pair.1 pair.2)
    (hrecord : ∀ batch pair, (w.db.coordinator.journal, batch) ∈ done → pair ∈ batch →
      pair.2 = .tombstone ∨ ∃ record, RecordOf w₀ moves' w' record ∧
        pair.2 = .value record.encode) : Backed w₀ run moves' w' where
  clean hrun := hclean (h.clean (hprecedes.running hrun)) hrun
  attempts := by
    obtain ⟨new, hnew, hold⟩ := h.attempts
    refine ⟨new ++ (done ++ failed), ?_, fun write hmem => ?_⟩
    · rw [hafter.attempts, hnew, List.append_assoc, List.append_assoc]
    · rcases List.mem_append.mp hmem with hmem | hmem
      · exact (hold write hmem).imp hextends hprecedes.grows hsettled
      · exact hpermitted write hmem
  roots store hstore key := by
    rw [hprecedes.grows.journal] at hstore
    rw [hafter.contents]
    -- A key that was written was written by an attempt that succeeded, which
    -- has an origin.
    rcases (w.disk.contents store).get?_afterWrites store done key with
      hsame | ⟨batch, entry, hmem, hentry, hget⟩
    · rw [hsame]
      refine (h.roots store hstore key).imp id ?_
      rintro ⟨name, entry, hmem, hget, horigin⟩
      exact ⟨name, entry, hprecedes.grows.registered.mem hmem, hget,
        horigin.imp hextends hsettled⟩
    · obtain ⟨name, hname, horigin⟩ := hroots store batch (key, entry) hmem hstore hentry
      exact .inr ⟨name, entry, hname, hget, horigin⟩
  record := by
    rw [hprecedes.grows.journal, hafter.contents]
    rcases (w.disk.contents w.db.coordinator.journal).get?_afterWrites
      w.db.coordinator.journal done Journal.key with hsame | ⟨batch, entry, hmem, hentry, hget⟩
    · rw [hsame]
      refine h.record.imp id ?_
      rintro ⟨record, hof, hget⟩
      exact ⟨record, hof.imp hextends hsettled, hget⟩
    · rw [hget]
      rcases hrecord batch (Journal.key, entry) hmem hentry with hclear | ⟨record, hof, hvalue⟩
      · exact .inl (congrArg Entry.value? hclear)
      · exact .inr ⟨record, hof, congrArg Entry.value? hvalue⟩

/-- What the stores hold keeps its origin while they are left alone. -/
theorem Backed.imp (h : Backed w₀ run moves w) (hextends : moves <+: moves')
    (hprecedes : w.Precedes w')
    (hsettled : ∀ seq, Settled w₀ moves w seq → Settled w₀ moves' w' seq)
    (hafter : w.disk.After [] [] w'.disk) : Backed w₀ run moves' w' := by
  refine h.writes hextends hprecedes hsettled hafter (fun hclean _ => ?_) nofun nofun nofun
  rw [NoRecord, hprecedes.grows.journal, hafter.contents]
  exact hclean

/-- In the midst of a move. -/
theorem Backed.precedes (h : Backed w₀ run moves w) (hprecedes : w.Precedes w')
    (hafter : w.disk.After [] [] w'.disk) : Backed w₀ run moves w' :=
  h.imp (List.prefix_refl _) hprecedes (fun _ hseq => hseq.precedes hprecedes) hafter

theorem Backed.unlocks (h : Backed w₀ run moves w) (hunlocks : Unlocks r w w') :
    Backed w₀ run moves w' := by
  rcases hunlocks with ⟨-, rfl⟩ | ⟨-, rfl⟩
  · exact h
  · exact h.precedes ⟨.refl _, fun hrun => nomatch hrun.1⟩ (.refl _)

/-! ### Flushes -/

/-- What a flush writes to another store than the journal was written to
layers that are settled. -/
theorem FlushOf.written_root {c : Coordinator} (h : FlushOf w₀ moves w c n) {store : String}
    {batch : Batch} {pair : Bytes × Entry}
    (hwrite : (store, batch) ∈ c.flushWrites n ∨ (store, batch) = c.clearWrite)
    (hstore : store ≠ c.journal) (hpair : pair ∈ batch) :
    ∃ name seq, (name, store) ∈ c.registered ∧ w₀.WrittenTo moves seq name pair.1 pair.2 ∧
      Settled w₀ moves w seq := by
  rcases hwrite with hwrite | hclear
  · rcases List.mem_cons.mp hwrite with hrecord | hroot
    · exact absurd (congrArg Prod.fst hrecord) hstore
    · obtain ⟨chain, hchain, hstore, hbatch, -⟩ := (c.mem_netWrites_iff n _).mp hroot
      have hnet : pair ∈ (chain.netOldest n).diff.toList := by
        rw [hbatch]
        exact hpair
      obtain ⟨seq, hseq⟩ := h.exists_written hchain hnet
      exact ⟨chain.name, seq, List.mem_map.mpr ⟨chain, hchain, by rw [hstore]⟩, hseq⟩
  · exact absurd (congrArg Prod.fst hclear) hstore

/-- A flush writes its record to the journal, and removes it. -/
theorem eq_of_written_journal {c : Coordinator}
    (hjournal : ∀ chain ∈ c.tables, chain.root ≠ c.journal) {batch : Batch} {pair : Bytes × Entry}
    (hwrite : (c.journal, batch) ∈ c.flushWrites n ∨ (c.journal, batch) = c.clearWrite)
    (hpair : pair ∈ batch) :
    pair.2 = .value (c.netRecord n).encode ∨ pair.2 = .tombstone := by
  rcases hwrite with hwrite | hclear
  · rcases List.mem_cons.mp hwrite with hrecord | hroot
    · obtain rfl : batch = Journal.recordBatch _ := congrArg Prod.snd hrecord
      exact .inl (congrArg Prod.snd (List.mem_singleton.mp hpair))
    · obtain ⟨chain, hchain, hstore, -⟩ := (c.mem_netWrites_iff n _).mp hroot
      exact absurd hstore (hjournal chain hchain)
  · obtain rfl : batch = Journal.clearBatch := congrArg Prod.snd hclear
    exact .inr (congrArg Prod.snd (List.mem_singleton.mp hpair))

/-- So were the entries of its record. -/
theorem FlushOf.recordOf {c : Coordinator} (h : FlushOf w₀ moves w c n)
    (hfits : (c.netRecord n).fits = true) : RecordOf w₀ moves w (c.netRecord n) where
  fits := hfits
  written table htable pair hpair := by
    obtain ⟨chain, hchain, rfl⟩ := List.mem_map.mp htable
    exact h.exists_written hchain hpair

/-- What the stores hold has an origin after a flush, however it ends. -/
theorem Backed.flush (h : Backed w₀ run moves w) (htrace : Traceable w₀ moves w)
    (horderly₀ : w₀.Orderly) (hpasses : Passes w₀ run w.db.coordinator) (hrun : w.Running)
    (hopen : w.db.coordinator.openSeq?.isSome → n < w.db.coordinator.levels.length)
    (hstores : w.db.coordinator.DistinctStores) {w₁ : World} (hend : FlushEnd w n r w₁)
    (hunlocks : Unlocks r w₁ w') : Backed w₀ run moves w' := by
  have hgrows := hunlocks.grows hend
  have hflush := htrace.flushOf horderly₀ hopen hend hunlocks
  obtain ⟨done, failed, hafter, hwrites⟩ := hend.writes
  have hdisk : w'.disk = w₁.disk := by
    rcases hunlocks with ⟨-, rfl⟩ | ⟨-, rfl⟩ <;> rfl
  have hdone : ∀ write ∈ done, (w.db.coordinator.netRecord n).fits = true ∧
      (write ∈ w.db.coordinator.flushWrites n ∨ write = w.db.coordinator.clearWrite) :=
    fun write hmem => hwrites write (List.mem_append_left _ hmem)
  have hprecedes : w.Precedes w' := ⟨hgrows, fun _ => hrun⟩
  -- A flush writes its record, then the roots, and removes the record.
  refine h.writes (List.prefix_refl _) hprecedes (fun _ hseq => hseq.precedes hprecedes)
    (hdisk ▸ hafter) (fun hclean hrun' => ?_) (fun write hmem => ?_)
    (fun store batch pair hmem hstore hpair => ?_) (fun batch pair hmem hpair => ?_)
  · obtain ⟨rfl, rfl⟩ := hunlocks.eq_ok hend hrun'
    rw [NoRecord, hgrows.journal]
    exact hend.journal_of_ok hclean
  · obtain ⟨hfits, hwrite⟩ := hwrites write hmem
    exact .flush _ n hpasses hflush hfits hwrite
  · obtain ⟨name, seq, hname, hwritten, hseq⟩ :=
      hflush.written_root (hdone _ hmem).2 hstore hpair
    exact ⟨name, hgrows.registered.mem hname, .layer seq hwritten hseq⟩
  · obtain ⟨hfits, hwrite⟩ := hdone _ hmem
    rcases eq_of_written_journal (fun chain hchain => (hstores.journal_ne hchain).symm) hwrite
      hpair with hrecord | hclear
    · exact .inr ⟨_, hflush.recordOf hfits, hrecord⟩
    · exact .inl hclear

/-! ### Moves -/

/-- What the stores hold has an origin after the commit of a forced unit
of work, whose layer is flushed with all others. -/
theorem Backed.settle (h : Backed w₀ run moves w) (htrace : Traceable w₀ moves w)
    (horderly₀ : w₀.Orderly) (horderly : w.Orderly) (hpasses : Passes w₀ run w.db.coordinator)
    (hpath : Steps move (w₀.play moves) w) (hopens : move.opens = false) (hrun : w.Running)
    {unit : UnitOfWork} {statuses : List SessionStatus}
    (hcloses : w.db.coordinator.Closes unit statuses)
    (hall : Coordinator.AllCommitted statuses unit) {w₁ w₂ : World}
    (hkeep : (w.db.coordinator.keep unit statuses).Alike w₁.db.coordinator)
    (hdisk : w₁.disk = w.disk) (hpoisoned : w₁.db.poisoned = false)
    (hflush : FlushEnd w₁ w₁.db.coordinator.levels.length r w₂) (hend : w₂.Concludes r w')
    (hstores : w'.db.coordinator.DistinctStores) : Backed w₀ run moves w' := by
  have hprecedes₁ : w.Precedes w₁ := ⟨grows_of_keep horderly hcloses hkeep, fun _ => hrun⟩
  have hbacked₁ := h.precedes hprecedes₁ (hdisk ▸ .refl _)
  have htrace₁ := htrace.keep horderly hrun hpath hopens hcloses hall hkeep
  have hpasses₁ : Passes w₀ run w₁.db.coordinator := .committed hpasses hcloses hall hkeep
  have hrun₁ : w₁.Running :=
    ⟨hpoisoned, (hkeep.halted.trans (Coordinator.modes_keep statuses).2.2.2.1).trans hrun.2⟩
  have hclosed : w₁.db.coordinator.openSeq? = none := Coordinator.openSeq?_of_none
    (hkeep.modes.openUnit.trans (Coordinator.openUnit_keep statuses))
  have hopen : w₁.db.coordinator.openSeq?.isSome →
      w₁.db.coordinator.levels.length < w₁.db.coordinator.levels.length := by
    rw [hclosed]
    nofun
  have hstores₁ := ((grows_of_flushEnd hflush).trans hend.grows).distinctStores hstores
  -- What is left is a flush of all layers, and at most settings after it.
  have hflushed : ∀ {w'}, Unlocks r w₂ w' → Backed w₀ run moves w' := fun hunlocks =>
    hbacked₁.flush htrace₁ horderly₀ hpasses₁ hrun₁ hopen hstores₁ hflush hunlocks
  match r, hend with
  | .ok (), hend =>
    have hprecedes : w₂.Precedes w' := ⟨hend.grows, (running_congr hend.1.halted hend.2.2).mp⟩
    have hdone := hflushed (.inl ⟨nofun, rfl⟩)
    exact hdone.precedes hprecedes (hend.2.1 ▸ .refl _)
  | .error (.error error), hend => exact hflushed (.inl ⟨nofun, hend⟩)
  | .error .panic, hend => exact hflushed (.inr ⟨rfl, hend⟩)

/-- What the stores hold has an origin in the midst of a move that writes
no entry. -/
theorem Backed.steps (h : Backed w₀ run moves (w₀.play moves))
    (htrace : Traceable w₀ moves (w₀.play moves)) (horderly₀ : w₀.Orderly)
    (hmoves : moves ++ [move] <+: run)
    (hmove : ∀ table key entry, move ≠ .call (.write table key entry))
    (hpath : Steps move (w₀.play moves) w) (hstores : w.db.coordinator.DistinctStores) :
    Backed w₀ run moves w := by
  have horderly := horderly₀.play moves
  -- By induction on the steps. No entry is written on the way, so only flushes
  -- and the end of a forced unit touch the stores.
  induction hpath with
  | refl => exact h
  | @tail w w' hpath hstep ih =>
    have horderly' := Steps.orderly hpath horderly
    have hprecedes : w.Precedes w' := ⟨hstep.grows horderly', hstep.running⟩
    have hstores' := hprecedes.grows.distinctStores hstores
    have hbacked := ih hstores'
    have htrace' := htrace.steps horderly hmove hpath
    have hpasses : Passes w₀ run w.db.coordinator := .during hmoves hpath
    cases hstep with
    | aside _ hdisk | turn _ _ _ hdisk => exact hbacked.precedes hprecedes (hdisk ▸ .refl _)
    | flush hrun _ hopen hend hr =>
      exact hbacked.flush htrace' horderly₀ hpasses hrun hopen hstores' hend (.inl ⟨hr, rfl⟩)
    | crash hrun _ hopen hend =>
      exact hbacked.flush htrace' horderly₀ hpasses hrun hopen hstores' hend (.inr ⟨rfl, rfl⟩)
    | settle hresolves hrun hcloses hall _ hkeep hdisk hpoisoned hflush hend =>
      exact hbacked.settle htrace' horderly₀ horderly' hpasses hpath
        (Move.opens_of_resolves hresolves) hrun hcloses hall hkeep
        hdisk hpoisoned hflush hend hstores
    | put hmove' | direct hmove' => exact absurd hmove' (hmove _ _ _)
    | recover _ hrun hrecord => exact absurd (hbacked.clean hrun) hrecord
    | poison => exact hbacked.precedes hprecedes (.refl _)
    | setPlan => exact hbacked.precedes hprecedes (Disk.after_setPlan _ _ _)

/-- An entry is written straight into a root. -/
theorem Backed.direct (h : Backed w₀ run moves w) (hextends : moves <+: moves')
    (hprecedes : w.Precedes w')
    (hsettled : ∀ seq, Settled w₀ moves w seq → Settled w₀ moves' w' seq)
    {before : List Move} {table : Table} {chain : Chain} {key : Bytes} {entry : Entry}
    (hwritten : w₀.WrittenAt moves' before table chain key entry)
    (hdry : (w₀.play before).db.coordinator.depth = 0)
    (hdisk : w'.disk = (w.disk.write chain.root [(key, entry)]).2)
    (hanswer : (w.disk.write chain.root [(key, entry)]).1 = .ok () →
      ((Command.write table key entry).run.perform (w₀.play before)).1 = .ok .done)
    (hchain : (chain.name, chain.root) ∈ w'.db.coordinator.registered)
    (hjournal : chain.root ≠ w.db.coordinator.journal) : Backed w₀ run moves' w' := by
  have hpermitted : Permitted w₀ run moves' w' (chain.root, [(key, entry)]) :=
    .straight before table chain key entry hwritten hdry
  -- The attempt counts as one also where it fails, but only a success leaves
  -- something that needs an origin.
  cases hwrite : (w.disk.write chain.root [(key, entry)]).1 with
  | error failure =>
    have hafter : w.disk.After [] [(chain.root, [(key, entry)])] w'.disk :=
      hdisk ▸ Disk.after_write_error hwrite
    refine h.writes hextends hprecedes hsettled hafter (fun hclean _ => ?_) (fun write hmem => ?_)
      nofun nofun
    · rw [NoRecord, hafter.contents, hprecedes.grows.journal]
      exact hclean
    · rw [List.mem_singleton.mp hmem]
      exact hpermitted
  | ok =>
    have hafter : w.disk.After [(chain.root, [(key, entry)])] [] w'.disk :=
      hdisk ▸ Disk.after_write_ok hwrite
    refine h.writes hextends hprecedes hsettled hafter (fun hclean _ => ?_) (fun write hmem => ?_)
      (fun store batch pair hmem _ hpair => ?_) (fun batch pair hmem _ => ?_)
    · rw [NoRecord, hafter.contents, hprecedes.grows.journal,
        Contents.afterWrites_singleton_of_ne hjournal]
      exact hclean
    · rw [List.mem_singleton.mp hmem]
      exact hpermitted
    · obtain ⟨rfl, rfl⟩ := Prod.mk.inj (List.mem_singleton.mp hmem)
      rw [List.mem_singleton.mp hpair]
      exact ⟨chain.name, hchain, .straight ⟨before, table, chain, hwritten, rfl, hdry,
        hanswer hwrite⟩⟩
    · exact absurd (congrArg Prod.fst (List.mem_singleton.mp hmem)).symm hjournal

/-- At the end of a move that discards no committed layers. -/
theorem Backed.close (h : Backed w₀ run moves (w₀.play (moves ++ [move])))
    (hundoes : move.undoes = false) :
    Backed w₀ run (moves ++ [move]) (w₀.play (moves ++ [move])) :=
  h.imp (List.prefix_append _ _) (.refl _)
    (fun _ hseq => hseq.snoc fun htrue => absurd (htrue.symm.trans hundoes) nofun) (.refl _)

/-- At the end of one that does. -/
theorem Backed.undo (h : Backed w₀ run moves (w₀.play moves))
    (horderly : (w₀.play moves).Orderly) (hundoes : move.undoes = true) :
    Backed w₀ run (moves ++ [move]) (w₀.play (moves ++ [move])) := by
  refine h.imp (List.prefix_append _ _) (horderly.precedes_snoc move)
    (fun _ hseq => hseq.undo horderly hundoes) ?_
  rw [play_snoc, (Move.act_of_undoes horderly hundoes).1]
  exact .refl _

/-- At the end of the write of an entry. -/
theorem Backed.write (h : Backed w₀ run moves (w₀.play moves))
    (htrace : Traceable w₀ moves (w₀.play moves)) (horderly₀ : w₀.Orderly) {table : Table}
    {key : Bytes} {entry : Entry} (hmoves : moves ++ [.call (.write table key entry)] <+: run)
    (hstores : (w₀.play moves).db.coordinator.DistinctStores) :
    Backed w₀ run (moves ++ [.call (.write table key entry)])
      (w₀.play (moves ++ [.call (.write table key entry)])) := by
  have horderly := horderly₀.play moves
  have hplay : w₀.play (moves ++ [.call (.write table key entry)]) =
      ((Command.write table key entry).run.perform (w₀.play moves)).2 := play_snoc _ _ _
  obtain ⟨r, w₁, hwrote, hanswer, hunlocks⟩ := Command.write_wrote horderly table key entry
  rw [← hplay] at hunlocks
  have hpasses : Passes w₀ run (w₀.play moves).db.coordinator := .during hmoves .refl
  cases hwrote with
  | nothing => exact (h.unlocks hunlocks).close rfl
  | put =>
    have hput := hunlocks.of_ok
    exact (h.precedes (horderly.precedes_snoc _) (hput ▸ .refl _)).close rfl
  | stopped hrun hdry hflush =>
    exact (h.flush htrace horderly₀ hpasses hrun (horderly.open_lt_of_dry hdry) hstores hflush
      hunlocks).close rfl
  | @direct w₁ chain r hrun hchain hdry hflush hr =>
    -- The pending layers are flushed, and only then the root is written.
    have hflushed := h.flush htrace horderly₀ hpasses hrun (horderly.open_lt_of_dry hdry) hstores
      hflush (.inl ⟨nofun, rfl⟩)
    have hgrows := grows_of_flushEnd hflush
    have hmem := List.mem_of_getElem? hchain
    have hregistered : (chain.name, chain.root) ∈ (w₀.play moves).db.coordinator.registered :=
      List.mem_map.mpr ⟨chain, hmem, rfl⟩
    have hdisk : (w₀.play (moves ++ [.call (.write table key entry)])).disk =
        (w₁.disk.write chain.root [(key, entry)]).2 := by
      rcases hunlocks with ⟨-, heq⟩ | ⟨-, heq⟩ <;> rw [heq] <;> rfl
    have hprecedes : w₁.Precedes (w₀.play (moves ++ [.call (.write table key entry)])) := by
      rcases hunlocks with ⟨-, heq⟩ | ⟨-, heq⟩ <;> rw [heq]
      · exact ⟨.refl _, id⟩
      · exact ⟨.refl _, fun hrun => nomatch hrun.1⟩
    refine hflushed.direct (List.prefix_append _ _) hprecedes (fun _ hseq => ?_)
      ⟨⟨[], rfl⟩, hchain⟩ (Nat.sub_eq_zero_of_le (Nat.le_of_eq hdry.symm)) hdisk
      (fun hok => hanswer.mp (hr.mpr hok)) ?_ ?_
    · exact (hseq.precedes hprecedes).snoc nofun
    · exact hprecedes.grows.registered.mem (hgrows.registered.mem hregistered)
    · rw [hgrows.journal]
      exact (hstores.journal_ne hmem).symm

/-- At the end of every move. -/
theorem Backed.act (h : Backed w₀ run moves (w₀.play moves))
    (htrace : Traceable w₀ moves (w₀.play moves)) (horderly₀ : w₀.Orderly)
    (hmoves : moves ++ [move] <+: run)
    (hstores : (w₀.play (moves ++ [move])).db.coordinator.DistinctStores) :
    Backed w₀ run (moves ++ [move]) (w₀.play (moves ++ [move])) := by
  have horderly := horderly₀.play moves
  have hpath := horderly.steps_snoc move
  by_cases hmove : ∃ table key entry, move = .call (.write table key entry)
  · obtain ⟨table, key, entry, rfl⟩ := hmove
    exact h.write htrace horderly₀ hmoves
      ((horderly.precedes_snoc _).grows.distinctStores hstores)
  have hothers : ∀ table key entry, move ≠ .call (.write table key entry) :=
    fun table key entry heq => hmove ⟨table, key, entry, heq⟩
  cases hundoes : move.undoes with
  | true => exact h.undo horderly hundoes
  | false => exact (h.steps htrace horderly₀ hmoves hothers hpath hstores).close hundoes

end

/-! ### Every run -/

/-- In a database just opened nothing was written yet. -/
theorem backed_opened {disk : Disk} (configuration : Configuration) {journal : String}
    (handlers : List Handler) (run : List Move)
    (hrecord : (disk.contents journal).get? Journal.key = none) :
    Backed (opened disk configuration journal handlers) run []
      (opened disk configuration journal handlers) where
  clean _ := hrecord
  attempts := ⟨[], (List.append_nil _).symm, nofun⟩
  roots _ _ _ := .inl rfl
  record := .inl hrecord

/-- What the stores hold has an origin after every part of a run. -/
theorem play_backed {disk : Disk} (configuration : Configuration) {journal : String}
    (handlers : List Handler) {run : List Move}
    (hrecord : (disk.contents journal).get? Journal.key = none)
    (hstores :
      ((opened disk configuration journal handlers).play run).db.coordinator.DistinctStores)
    {moves : List Move} (hmoves : moves <+: run) :
    Backed (opened disk configuration journal handlers) run moves
      ((opened disk configuration journal handlers).play moves) := by
  have horderly₀ := orderly_opened disk configuration journal handlers
  induction moves using List.reverseRecOn with
  | nil => exact backed_opened configuration handlers run hrecord
  | append_singleton moves move ih =>
    have hstores' : ((opened disk configuration journal handlers).play
        (moves ++ [move])).db.coordinator.DistinctStores := by
      obtain ⟨later, rfl⟩ := hmoves
      rw [play_append] at hstores
      exact ((horderly₀.play _).precedes_play later).grows.distinctStores hstores
    exact (ih ((List.prefix_append _ _).trans hmoves)).act
      (play_traceable disk configuration journal handlers moves) horderly₀ hmoves hstores'

/-! ### What was given up is never durable -/

/-- In the run, the layer of this number was discarded, or its unit of
work has a session that is not committed. -/
def GivenUp (w₀ : World) (moves : List Move) (seq : Nat) : Prop :=
  w₀.Undone moves seq ∨ ∃ unit, w₀.Seen moves seq unit ∧ ∃ session ∈ unit.sessions,
    (w₀.play moves).db.coordinator.status session ≠ .committed

/-- The entry was only ever written to the table while a layer was live,
and only into layers that were given up. -/
structure OnlyGivenUp (w₀ : World) (moves : List Move) (name : String) (key : Bytes)
    (entry : Entry) : Prop where
  layered : ∀ before table chain, w₀.WrittenAt moves before table chain key entry →
    chain.name = name → 0 < (w₀.play before).db.coordinator.depth
  givenUp : ∀ seq, w₀.WrittenTo moves seq name key entry → w₀.GivenUp moves seq

/-- A write to a store carries the entry of a table: to the table's root,
or to the journal within a record. -/
def Carries (journal : String) (chain : Chain) (key : Bytes) (entry : Entry)
    (write : String × Batch) : Prop :=
  (write.1 = chain.root ∧ (key, entry) ∈ write.2) ∨
  (write.1 = journal ∧ ∃ bytes record batch, (Journal.key, .value bytes) ∈ write.2 ∧
    JournalRecord.decode bytes = .ok record ∧ (chain.name, batch) ∈ record.tables ∧
    (key, entry) ∈ batch)

section
variable {w₀ w : World} {moves : List Move} {seq : Nat} {chain : Chain} {key : Bytes}
  {entry : Entry}

/-- A layer that is settled was not given up. -/
theorem Settled.not_givenUp (h : Settled w₀ moves (w₀.play moves) seq) : ¬w₀.GivenUp moves seq := by
  rintro (hundone | ⟨unit, hunit, session, hmem, hstatus⟩)
  · exact h.kept hundone
  · exact hstatus (h.committed.committed unit hunit session hmem)

/-- An entry that has an origin was not only written into layers that were
given up. -/
theorem OnlyGivenUp.not_origin (h : OnlyGivenUp w₀ moves chain.name key entry) :
    ¬Origin w₀ moves (w₀.play moves) chain.name key entry := by
  rintro (⟨before, table, chain, hwritten, hname, hdry, -⟩ | ⟨seq, hwritten, hsettled⟩)
  · exact Nat.ne_of_gt (h.layered before table chain hwritten hname) hdry
  · exact hsettled.not_givenUp (h.givenUp seq hwritten)

/-- Nor is it in a record. -/
theorem OnlyGivenUp.not_mem_record (h : OnlyGivenUp w₀ moves chain.name key entry)
    {record : JournalRecord} (hof : RecordOf w₀ moves (w₀.play moves) record) {batch : Batch}
    (hbatch : (chain.name, batch) ∈ record.tables) : (key, entry) ∉ batch := by
  intro hmem
  obtain ⟨seq, hwritten, hsettled⟩ := hof.written _ hbatch _ hmem
  exact hsettled.not_givenUp (h.givenUp seq hwritten)

/-- Roots are told apart by their stores. -/
theorem name_eq_of_registered {c : Coordinator} (hstores : c.DistinctStores)
    (hchain : chain ∈ c.tables) {name : String} (hname : (name, chain.root) ∈ c.registered) :
    name = chain.name := by
  obtain ⟨other, hother, hpair⟩ := List.mem_map.mp hname
  obtain ⟨rfl, hroot⟩ := Prod.mk.inj hpair
  rw [List.inj_on_of_nodup_map (List.nodup_cons.mp hstores).2 hother hchain hroot]

/-- What the root of a table holds at a key was there at first, or has an
origin. -/
theorem Backed.root {run : List Move} (h : Backed w₀ run moves w)
    (hstores : w.db.coordinator.DistinctStores) (hchain : chain ∈ w.db.coordinator.tables)
    (key : Bytes) :
    (w.disk.contents chain.root).get? key = (w₀.disk.contents chain.root).get? key ∨
      ∃ entry, (w.disk.contents chain.root).get? key = entry.value? ∧
        Origin w₀ moves w chain.name key entry := by
  refine (h.roots chain.root (hstores.journal_ne hchain).symm key).imp id ?_
  rintro ⟨name, entry, hname, hget, horigin⟩
  exact ⟨entry, hget, name_eq_of_registered hstores hchain hname ▸ horigin⟩

/-- The journal holds no record, or one whose entries were written to
layers that are settled. -/
theorem Backed.load {run : List Move} (h : Backed w₀ run moves w) :
    ∃ record?, Journal.load (w.disk.contents w.db.coordinator.journal) = .ok record? ∧
      ∀ record ∈ record?, RecordOf w₀ moves w record := by
  rcases h.record with hnone | ⟨record, hof, hget⟩
  · exact ⟨none, by rw [Journal.load, hnone], nofun⟩
  · refine ⟨some record, by simp [Journal.load, hget, JournalRecord.decode_encode hof.fits], ?_⟩
    rintro _ ⟨⟩
    exact hof

/-- No write that is permitted carries an entry that was only written into
layers that were given up. -/
theorem Permitted.not_carries {run : List Move} {write : String × Batch}
    (h : Permitted w₀ run moves (w₀.play moves) write) (horderly₀ : w₀.Orderly)
    (hstores : (w₀.play moves).db.coordinator.DistinctStores)
    (hchain : chain ∈ (w₀.play moves).db.coordinator.tables)
    (hgivenUp : OnlyGivenUp w₀ moves chain.name key entry) :
    ¬Carries (w₀.play moves).db.coordinator.journal chain key entry write := by
  have hroot := (hstores.journal_ne hchain).symm
  cases h with
  | @flush c n write _ hflush hfits hwrite =>
    -- A flush writes its record, and entries of layers that it settles.
    obtain ⟨store, batch⟩ := write
    rintro (⟨rfl, hmem⟩ | ⟨rfl, bytes, record, batch', hbytes, hdecode, htable, hmem⟩)
    · obtain ⟨name, seq, hname, hwritten, hsettled⟩ :=
        hflush.written_root hwrite (hflush.journal ▸ hroot) hmem
      obtain rfl := name_eq_of_registered hstores hchain (hflush.registered.mem hname)
      exact hsettled.not_givenUp (hgivenUp.givenUp seq hwritten)
    · rw [← hflush.journal] at hwrite
      have hstores' := hstores.of_registered hflush.registered hflush.journal
      rcases eq_of_written_journal (fun chain hmem => (hstores'.journal_ne hmem).symm) hwrite
        hbytes with hvalue | hclear
      · obtain rfl : bytes = (c.netRecord n).encode := Entry.value.inj hvalue
        obtain rfl := Except.ok.inj ((JournalRecord.decode_encode hfits).symm.trans hdecode)
        exact hgivenUp.not_mem_record (hflush.recordOf hfits) htable hmem
      · cases hclear
  | straight before table chain' key' entry' hwritten hdry =>
    -- A direct write is made where there are no live layers, but the entry was
    -- written into some.
    have hregistered : (chain'.name, chain'.root) ∈ (w₀.play moves).db.coordinator.registered := by
      obtain ⟨⟨after, rfl⟩, hchain'⟩ := hwritten
      rw [play_append]
      exact ((horderly₀.play before).precedes_play _).grows.registered.mem
        (List.mem_map.mpr ⟨chain', List.mem_of_getElem? hchain', rfl⟩)
    rintro (⟨hstore, hmem⟩ | ⟨hstore, -⟩)
    · obtain ⟨rfl, rfl⟩ := Prod.mk.inj (List.mem_singleton.mp hmem)
      have hstore : chain'.root = chain.root := hstore
      have hname := name_eq_of_registered hstores hchain (hstore ▸ hregistered)
      exact Nat.ne_of_gt (hgivenUp.layered before table chain' hwritten hname) hdry
    · obtain ⟨other, hother, hpair⟩ := List.mem_map.mp hregistered
      exact hstores.journal_ne hother ((congrArg Prod.snd hpair).trans hstore).symm

end

/-- **What is not committed is never durable.** In every run that starts
with no record in the journal, over distinct stores that may fail at any
moment, every write to a store that is attempted is permitted: it is one
of a flush, whose layers are committed on every table and will not be
discarded any more, or an entry is written to a root while no layer is
live. So every root holds at a key what it held at first, or an entry that
was written to a layer that is committed, or straight into the root; and
what the journal holds is a record of entries of committed layers.

An entry that was only written into layers that were given up is carried
by no write, comes into no root, and is in no record. -/
theorem uncommitted_never_durable (disk : Disk) (configuration : Configuration) (journal : String)
    (handlers : List Handler) (moves : List Move)
    (hrecord : (disk.contents journal).get? Journal.key = none)
    (hstores :
      ((opened disk configuration journal handlers).play moves).db.coordinator.DistinctStores) :
    let w₀ := opened disk configuration journal handlers
    let w := w₀.play moves
    ∃ writes record?, w.disk.attempts = disk.attempts ++ writes ∧
      Journal.load (w.disk.contents journal) = .ok record? ∧
      (∀ write ∈ writes, Permitted w₀ moves moves w write) ∧
      (∀ record ∈ record?, RecordOf w₀ moves w record) ∧
      (∀ chain ∈ w.db.coordinator.tables, ∀ key,
        (w.disk.contents chain.root).get? key = (disk.contents chain.root).get? key ∨
        ∃ entry, (w.disk.contents chain.root).get? key = entry.value? ∧
          Origin w₀ moves w chain.name key entry) ∧
      ∀ chain ∈ w.db.coordinator.tables, ∀ key entry,
        OnlyGivenUp w₀ moves chain.name key entry →
          (∀ write ∈ writes, ¬Carries journal chain key entry write) ∧
          (∀ record ∈ record?, ∀ batch, (chain.name, batch) ∈ record.tables →
            (key, entry) ∉ batch) ∧
          ((w.disk.contents chain.root).get? key = entry.value? →
            (disk.contents chain.root).get? key = entry.value?) := by
  intro w₀ w
  have horderly₀ : w₀.Orderly := orderly_opened disk configuration journal handlers
  have hbacked : Backed w₀ moves moves w :=
    play_backed configuration handlers hrecord hstores (List.prefix_refl _)
  have hjournal : w.db.coordinator.journal = journal :=
    (horderly₀.precedes_play moves).grows.journal
  obtain ⟨writes, hattempts, hpermitted⟩ := hbacked.attempts
  obtain ⟨record?, hload, hof⟩ := hbacked.load
  have hroots : ∀ chain ∈ w.db.coordinator.tables, ∀ key,
      (w.disk.contents chain.root).get? key = (disk.contents chain.root).get? key ∨
      ∃ entry, (w.disk.contents chain.root).get? key = entry.value? ∧
        Origin w₀ moves w chain.name key entry :=
    fun chain hchain key => hbacked.root hstores hchain key
  rw [hjournal] at hload
  -- Whatever was given up is no origin, so it is none of what has one.
  refine ⟨writes, record?, hattempts, hload, hpermitted, hof, hroots,
    fun chain hchain key entry hgivenUp => ⟨fun write hmem => ?_,
      fun record hmem batch hbatch => ?_, fun hget => ?_⟩⟩
  · rw [← hjournal]
    exact (hpermitted write hmem).not_carries horderly₀ hstores hchain hgivenUp
  · exact hgivenUp.not_mem_record (hof record hmem) hbatch
  · rcases hroots chain hchain key with hsame | ⟨entry', hget', horigin⟩
    · exact hsame ▸ hget
    · have hentry : entry = entry' := Entry.value?_injective (hget.symm.trans hget')
      exact absurd (hentry ▸ horigin) hgivenUp.not_origin

/-- A unit of work is committed and another is revoked, and then all
layers are merged into the root: it holds what the one wrote, and what the
other wrote was never written to a store. -/
theorem uncommitted_never_durable_revoke :
    let moves := [.call (.addTable "a" "left"), .call (.openSession false),
      .call (.write ⟨0, "a"⟩ [1] (.value [10])), .call (.commitSession ⟨0, false, false⟩),
      .call (.openSession false), .call (.write ⟨0, "a"⟩ [2] (.value [20])), .call .revoke,
      .call .merge]
    let w₀ := opened .empty {} "journal" []
    let w := w₀.play moves
    let chain : Chain := ⟨"a", "left", [], 0⟩
    (w.disk.contents "left").get? [1] = some [10] ∧
      Origin w₀ moves w "a" [1] (.value [10]) ∧
      OnlyGivenUp w₀ moves "a" [2] (.value [20]) ∧ w.disk.attempts.length = 3 ∧
      ∀ write ∈ w.disk.attempts, ¬Carries "journal" chain [2] (.value [20]) write := by
  intro moves w₀ w chain
  have hstores :
      ((opened .empty {} "journal" []).play moves).db.coordinator.DistinctStores :=
    (Coordinator.distinctStores_iff _).mpr (by decide +kernel)
  have hchain : chain ∈ w.db.coordinator.tables := by decide +kernel
  have hroot : (w.disk.contents "left").get? [1] = some [10] := by decide +kernel
  have hempty : (Disk.empty.contents "left").get? [1] = none := by decide +kernel
  have hlength : w.disk.attempts.length = 3 := by decide +kernel
  -- The value is written by the sixth move alone, into the second layer.
  have hbefore : ∀ before table chain,
      w₀.WrittenAt moves before table chain [2] (.value [20]) → before = moves.take 5 := by
    intro before table chain hwritten
    obtain ⟨htake, hmove⟩ := hwritten.eq_take
    have hfive : ∀ i, moves[i]? = some (.call (.write table [2] (.value [20]))) → i = 5 := by
      intro i hi
      match i, hi with
      | 5, _ => rfl
      | 6, hi | 7, hi => nomatch hi
      | i + 8, hi => nomatch hi
    rw [htake, hfive _ hmove]
  have hlive : 0 < (w₀.play (moves.take 5)).db.coordinator.depth := by decide +kernel
  have hnewest : (w₀.play (moves.take 5)).db.coordinator.levels.getLast? = some 2 := by
    decide +kernel
  have hunit : (w₀.play (moves.take 5)).db.coordinator.openUnit = some ⟨some 2, [1], false⟩ := by
    decide +kernel
  have hrevoked : (w₀.play moves).db.coordinator.status 1 ≠ .committed := by decide +kernel
  have honly : OnlyGivenUp w₀ moves "a" [2] (.value [20]) := by
    refine ⟨fun before table chain hwritten _ => ?_, fun seq hwritten => .inr ?_⟩
    · rw [hbefore before table chain hwritten]
      exact hlive
    · obtain ⟨before, table, chain, hwritten, -, -, hseq, -⟩ := hwritten
      rw [hbefore before table chain hwritten] at hseq
      obtain rfl : 2 = seq := Option.some.inj (hnewest.symm.trans hseq)
      exact ⟨_, ⟨moves.take 5, moves.drop 5, rfl, hunit, rfl⟩, 1, List.mem_singleton_self 1,
        hrevoked⟩
  have hdurable :=
    uncommitted_never_durable .empty {} "journal" [] moves (by decide +kernel) hstores
  dsimp only [w₀, w] at *
  obtain ⟨writes, record?, hattempts, -, -, -, hroots, hgivenUp⟩ := hdurable
  have horigin := hroots chain hchain [1]
  dsimp only [chain] at horigin
  rw [hroot, hempty] at horigin
  obtain ⟨entry, hget, horigin⟩ := horigin.resolve_left nofun
  rw [← Entry.value?_injective (show (Entry.value [10]).value? = entry.value? from hget)] at horigin
  refine ⟨hroot, horigin, honly, hlength, fun write hmem => ?_⟩
  have hwrites : write ∈ writes := by
    rw [hattempts] at hmem
    exact hmem
  exact (hgivenUp chain hchain [2] (.value [20]) honly).1 write hwrites

end World

end LayeredStore

import LayeredStore.Proofs.Permanence

/-!
# `LayeredStore.Proofs.Lineage`: what becomes of layers, step by step

A layer says what it said before, unless a write puts an entry into it,
and it stays that of the open unit of work until this unit is closed.

* `Coordinator.Says` is what the layers of a table say, and `Step.said`
  that only a write makes them say more.
* `Coordinator.Grows`: numbers and names are given once. `Step.grows` and
  `Orderly.precedes_play` say so of every step and every run.
* `Coordinator.Fate`: how a level comes to be there after a step. Its
  layer is open, or was committed before, or is committed by the step;
  `Step.fate` says that there is no other way.
-/

set_option autoImplicit false

namespace LayeredStore

/-! ### What layers say -/

/-- The table's layer of this number says this of the key. -/
def Chain.Says (chain : Chain) (seq : Nat) (key : Bytes) (entry : Entry) : Prop :=
  ∃ layer ∈ chain.layers, layer.seq = seq ∧ layer.get? key = some entry

namespace Chain

variable {chain chain' : Chain} {seq : Nat} {key : Bytes} {entry : Entry}

theorem Says.of_subset (h : chain'.Says seq key entry) (hlayers : chain'.layers ⊆ chain.layers) :
    chain.Says seq key entry := by
  obtain ⟨layer, hmem, hlayer⟩ := h
  exact ⟨layer, hlayers hmem, hlayer⟩

/-- A layer that is pushed says nothing. -/
theorem Says.of_push {new : Nat} (h : (chain.push new).Says seq key entry) :
    chain.Says seq key entry := by
  obtain ⟨layer, hmem, hlayer⟩ := h
  rcases List.mem_append.mp hmem with hold | hnew
  · exact ⟨layer, hold, hlayer⟩
  · rw [List.mem_singleton.mp hnew] at hlayer
    cases hlayer.2

/-- Nor do the layers that a table starts with. -/
theorem not_says_padded (name root : String) (levels : List Nat) (pending : Nat)
    (openUnit : Option Nat) :
    ¬(Chain.padded name root levels pending openUnit).Says seq key entry := by
  rintro ⟨layer, hmem, -, hget⟩
  obtain ⟨level, -, rfl⟩ := List.mem_map.mp hmem
  split at hget <;> cases hget

/-- After a change to the newest live layer, a layer is one that was there
or that layer changed. -/
theorem mem_modifyHead {f : Layer → Layer} {layer : Layer}
    (h : layer ∈ (chain.modifyHead f).layers) :
    layer ∈ chain.layers ∨
      0 < chain.depth ∧ ∃ head, chain.layers.getLast? = some head ∧ layer = f head := by
  by_cases hdepth : chain.depth = 0
  · rw [Chain.modifyHead, if_pos hdepth] at h
    exact .inl h
  · have hpos := Nat.pos_of_ne_zero hdepth
    have hlast : chain.layers ≠ [] := by
      intro hnil
      rw [Chain.depth, hnil] at hpos
      exact absurd hpos (by simp)
    have hlayers := (List.dropLast_concat_getLast hlast).symm
    rw [Chain.modifyHead_of_concat hlayers hpos] at h
    rcases List.mem_append.mp h with hold | hnew
    · exact .inl (List.dropLast_subset _ hold)
    · exact .inr ⟨hpos, _, List.getLast?_eq_some_getLast hlast, List.mem_singleton.mp hnew⟩

/-- A layer says the same once it is committed. -/
theorem Says.of_commitHead (h : (chain.modifyHead (·.commit)).Says seq key entry) :
    chain.Says seq key entry := by
  obtain ⟨layer, hmem, hlayer⟩ := h
  rcases mem_modifyHead hmem with hold | ⟨-, head, hlast, rfl⟩
  · exact ⟨layer, hold, hlayer⟩
  · exact ⟨head, List.mem_of_getLast? hlast, hlayer⟩

theorem Says.of_discardHead (h : chain.discardHead.Says seq key entry) :
    chain.Says seq key entry := by
  refine h.of_subset ?_
  unfold Chain.discardHead
  split
  · exact fun _ h => h
  · exact List.dropLast_subset _

/-- What a layer says after an entry was put into the newest: what it
said, or it is the newest and says the entry. -/
theorem Says.of_putHead {key' : Bytes} {entry' : Entry}
    (h : (chain.modifyHead (·.put key' entry')).Says seq key entry) :
    chain.Says seq key entry ∨ key = key' ∧ entry = entry' ∧
      ∃ head, chain.layers.getLast? = some head ∧ head.seq = seq := by
  obtain ⟨layer, hmem, hseq, hget⟩ := h
  rcases mem_modifyHead hmem with hold | ⟨-, head, hlast, rfl⟩
  · exact .inl ⟨layer, hold, hseq, hget⟩
  · have hdiff : (head.put key' entry').seq = head.seq ∧
        (head.put key' entry').get? key = (head.diff.insert key' entry').get? key := by
      unfold Layer.put Layer.reseal
      split <;> exact ⟨rfl, rfl⟩
    rw [hdiff.1] at hseq
    rw [hdiff.2, OrderedMap.get?_insert] at hget
    split at hget
    · rename_i hkey
      exact .inr ⟨hkey.symm, (Option.some.inj hget).symm, head, hlast, hseq⟩
    · exact .inl ⟨head, List.mem_of_getLast? hlast, hseq, hget⟩

end Chain

namespace Coordinator

/-- The layer of this number says this of the key in the table of this
name. -/
def Says (c : Coordinator) (name : String) (seq : Nat) (key : Bytes) (entry : Entry) : Prop :=
  ∃ chain ∈ c.tables, chain.name = name ∧ chain.Says seq key entry

section
variable {c c' : Coordinator} {move : Move} {name : String} {seq : Nat} {key : Bytes}
  {entry : Entry}

theorem Says.of_stacks (h : c'.Says name seq key entry) (hsame : c.SameStacks c') :
    c.Says name seq key entry := by
  unfold Says at h
  rwa [hsame.tables] at h

theorem Says.of_mapTables {f : Chain → Chain} (h : (c.mapTables f).Says name seq key entry)
    (hname : ∀ chain, (f chain).name = chain.name)
    (hsaid : ∀ chain, (f chain).Says seq key entry → chain.Says seq key entry) :
    c.Says name seq key entry := by
  obtain ⟨chain, hmem, hchain, hlayer⟩ := h
  obtain ⟨old, hold, rfl⟩ := List.mem_map.mp hmem
  exact ⟨old, hold, (hname old).symm.trans hchain, hsaid old hlayer⟩

theorem Says.of_dropOldest {count : Nat} (h : (c.dropOldest count).Says name seq key entry) :
    c.Says name seq key entry :=
  Says.of_mapTables (c := c) h (fun _ => rfl) fun _ h => h.of_subset (List.drop_subset _ _)

theorem Says.of_sealHeads (h : c.sealHeads.Says name seq key entry) : c.Says name seq key entry :=
  Says.of_mapTables (c := c) h (fun chain => (name_root_modifyHead _ chain).1)
    fun _ => Chain.Says.of_commitHead

theorem Says.of_discardHead (h : c.discardHead.Says name seq key entry) :
    c.Says name seq key entry :=
  Says.of_mapTables (c := c) h (fun chain => (name_root_discardHead chain).1)
    fun _ => Chain.Says.of_discardHead

theorem Says.of_keep {unit : UnitOfWork} {statuses : List SessionStatus}
    (hunit : c.openUnit = some unit) (h : (c.keep unit statuses).Says name seq key entry) :
    c.Says name seq key entry := by
  cases hseq : unit.seq with
  | none => exact h.of_stacks (sameStacks_keep_of_none statuses hunit hseq)
  | some layer =>
    exact Says.of_sealHeads (c := c.withoutUnit)
      (h.of_stacks (sameStacks_keep_of_some statuses hseq))

/-- An entry that is put into a table makes its newest layer say it, and no
layer anything else. -/
theorem Says.of_put (hsound : c.Sound) {table : Nat} {chain : Chain}
    (hchain : c.tables[table]? = some chain) {key' : Bytes} {entry' : Entry}
    (h : (c.modifyTable table (·.modifyHead (·.put key' entry'))).Says name seq key entry) :
    c.Says name seq key entry ∨
      key = key' ∧ entry = entry' ∧ chain.name = name ∧ c.levels.getLast? = some seq := by
  obtain ⟨changed, hmem, hname, hlayer⟩ := h
  obtain ⟨i, hi⟩ := List.mem_iff_getElem?.mp hmem
  simp only [modifyTable, List.getElem?_modify] at hi
  obtain ⟨old, hold, rfl⟩ := Option.map_eq_some_iff.mp hi
  have hold' := List.mem_of_getElem? hold
  -- Only the newest layer of the table that is written to can say more.
  by_cases hindex : table = i
  · subst hindex
    rw [if_pos rfl] at hname hlayer
    obtain rfl : old = chain := Option.some.inj (hold.symm.trans hchain)
    rw [(name_root_modifyHead _ old).1] at hname
    rcases hlayer.of_putHead with hsaid | ⟨hkey, hentry, head, hlast, hseq⟩
    · exact .inl ⟨old, hold', hname, hsaid⟩
    · refine .inr ⟨hkey, hentry, hname, ?_⟩
      rw [← (hsound.chains old hold').seqs, List.getLast?_map, hlast, ← hseq]
      rfl
  · rw [if_neg hindex] at hname hlayer
    exact .inl ⟨old, hold', hname, hlayer⟩

/-- No change to a coordinator lets a layer say more. -/
theorem Turn.said (hturn : c.Turn move c') (h : c'.Says name seq key entry) :
    c.Says name seq key entry := by
  cases hturn with
  | solidify count =>
    exact Says.of_mapTables (c := c) h (fun _ => rfl) fun _ h => h.of_subset fun _ h => h
  | discard => exact Says.of_discardHead (c := c) h
  | enable | disable | stop | passThrough | join | resolve => exact h
  | register name' root =>
    obtain ⟨chain, hmem, hchain, hlayer⟩ := h
    rcases List.mem_append.mp hmem with hold | hnew
    · exact ⟨chain, hold, hchain, hlayer⟩
    · rw [List.mem_singleton.mp hnew] at hlayer
      exact absurd hlayer (Chain.not_says_padded _ _ _ _ _)
  | push => exact Says.of_mapTables (c := c) h (fun _ => rfl) fun _ => Chain.Says.of_push
  | keep _ unit statuses hcloses => exact h.of_keep hcloses.openUnit
  | lose _ unit statuses hcloses =>
    cases hseq : unit.seq with
    | none => exact h.of_stacks (sameStacks_lose_of_none statuses hcloses.openUnit hseq)
    | some layer =>
      exact Says.of_discardHead (c := c.withoutUnit)
        (h.of_stacks (sameStacks_lose_of_some statuses hseq))

end

/-! ### What is given a name or a number -/

/-- What a later coordinator knows of an earlier one. -/
structure Grows (c c' : Coordinator) : Prop where
  remembers : c.Remembers c'
  registered : c.registered <+: c'.registered
  journal : c'.journal = c.journal
  levels : ∀ seq ∈ c'.levels, seq ∈ c.levels ∨ c.nextSeq ≤ seq

section
variable {c c' c'' : Coordinator} {move : Move}

theorem Grows.refl (c : Coordinator) : c.Grows c :=
  ⟨.refl c, List.prefix_refl _, rfl, fun _ h => .inl h⟩

theorem Grows.trans (h : c.Grows c') (h' : c'.Grows c'') : c.Grows c'' where
  remembers := h.remembers.trans h'.remembers
  registered := h.registered.trans h'.registered
  journal := h'.journal.trans h.journal
  levels seq hmem := by
    rcases h'.levels seq hmem with hold | hnew
    · exact h.levels seq hold
    · exact .inr (Nat.le_trans h.remembers.nextSeq hnew)

theorem Grows.of_stacks (hsame : c.SameStacks c') (hremembers : c.Remembers c') : c.Grows c' where
  remembers := hremembers
  registered := hsame.registered ▸ List.prefix_refl _
  journal := hsame.journal
  levels _ hmem := .inl (hsame.levels ▸ hmem)

/-- A level that is gone does not come back. -/
theorem Grows.not_mem_levels (h : c.Grows c') {seq : Nat} (hlt : seq < c.nextSeq)
    (hgone : seq ∉ c.levels) : seq ∉ c'.levels := fun hmem =>
  (h.levels seq hmem).elim hgone (Nat.not_le_of_lt hlt)

theorem registered_keep {unit : UnitOfWork} (hunit : c.openUnit = some unit)
    (statuses : List SessionStatus) : (c.keep unit statuses).registered = c.registered ∧
      (c.keep unit statuses).journal = c.journal := by
  cases hseq : unit.seq with
  | none =>
    have hsame := sameStacks_keep_of_none statuses hunit hseq
    exact ⟨hsame.registered, hsame.journal⟩
  | some seq =>
    have hsame := sameStacks_keep_of_some (c := c) statuses hseq
    exact ⟨hsame.registered.trans (registered_mapTables _ (name_root_modifyHead _)), hsame.journal⟩

theorem registered_lose {unit : UnitOfWork} (hunit : c.openUnit = some unit)
    (statuses : List SessionStatus) : (c.lose unit statuses).registered = c.registered ∧
      (c.lose unit statuses).journal = c.journal := by
  cases hseq : unit.seq with
  | none =>
    have hsame := sameStacks_lose_of_none statuses hunit hseq
    exact ⟨hsame.registered, hsame.journal⟩
  | some seq =>
    have hsame := sameStacks_lose_of_some (c := c) statuses hseq
    exact ⟨hsame.registered.trans (registered_mapTables _ name_root_discardHead), hsame.journal⟩

theorem Turn.grows (h : c.Turn move c') (hsound : c.Sound) (hattended : c.Attended) :
    c.Grows c' := by
  have hremembers := h.remembers hsound hattended
  -- Where the tables stay, so do their names and roots.
  have hgrows : ∀ {c' : Coordinator}, c.Remembers c' → c'.registered = c.registered →
      c'.journal = c.journal → (∀ seq ∈ c'.levels, seq ∈ c.levels ∨ c.nextSeq ≤ seq) →
      c.Grows c' := fun hremembers hregistered hjournal hlevels =>
    ⟨hremembers, hregistered ▸ List.prefix_refl _, hjournal, hlevels⟩
  cases h with
  | solidify =>
    exact hgrows hremembers (registered_mapTables _ fun _ => ⟨rfl, rfl⟩) rfl fun _ h => .inl h
  | discard =>
    exact hgrows hremembers (registered_mapTables _ name_root_discardHead) rfl
      fun _ h => .inl (List.dropLast_subset _ h)
  | enable | disable | stop | passThrough | join | resolve =>
    exact hgrows hremembers rfl rfl fun _ h => .inl h
  | register name root =>
    refine ⟨hremembers, ?_, rfl, fun _ h => .inl h⟩
    show c.registered <+: List.map _ (c.tables ++ [_])
    rw [List.map_append]
    exact List.prefix_append _ _
  | push =>
    refine hgrows hremembers (registered_mapTables _ fun _ => ⟨rfl, rfl⟩) rfl fun seq hmem => ?_
    rcases List.mem_append.mp hmem with hold | hnew
    · exact .inl hold
    · exact .inr (Nat.le_of_eq (List.mem_singleton.mp hnew).symm)
  | keep _ unit statuses hcloses =>
    obtain ⟨hregistered, hjournal⟩ := registered_keep hcloses.openUnit statuses
    refine hgrows hremembers hregistered hjournal fun seq hmem => .inl ?_
    rwa [levels_keep hcloses.openUnit] at hmem
  | lose _ unit statuses hcloses =>
    obtain ⟨hregistered, hjournal⟩ := registered_lose hcloses.openUnit statuses
    refine hgrows hremembers hregistered hjournal fun seq hmem => .inl ?_
    rw [levels_lose hcloses.openUnit] at hmem
    split at hmem
    · exact List.dropLast_subset _ hmem
    · exact hmem

end

/-! ### What becomes of a level -/

/-- The unit of work that has this layer is closed, and all its sessions
were committed. -/
def CommitsUnit (c c' : Coordinator) (seq : Nat) : Prop :=
  ∃ unit statuses, c.Closes unit statuses ∧ AllCommitted statuses unit ∧ unit.seq = some seq ∧
    c'.openUnit = none ∧ c'.statuses = statuses

/-- How a level comes to be there after an operation that opens a session
or not: it is that of the open unit of work, it was there before and was
not, or its unit of work is committed. -/
def Fate (opens : Bool) (c c' : Coordinator) (seq : Nat) : Prop :=
  c'.openSeq? = some seq ∨ seq ∈ c.levels ∧ c.openSeq? ≠ some seq ∨
    opens = false ∧ c.CommitsUnit c' seq

section
variable {c c' : Coordinator} {move : Move} {opens : Bool} {seq : Nat}

theorem Fate.of_same (hmem : seq ∈ c.levels) (hopen : c'.openSeq? = c.openSeq?) :
    Fate opens c c' seq := by
  by_cases hseq : c.openSeq? = some seq
  · exact .inl (hopen.trans hseq)
  · exact .inr (.inl ⟨hmem, hseq⟩)

theorem Fate.of_none (hmem : seq ∈ c.levels) (hunit : c.openUnit = none) : Fate opens c c' seq := by
  refine .inr (.inl ⟨hmem, ?_⟩)
  rw [openSeq?_of_none hunit]
  nofun

theorem Fate.of_keep {unit : UnitOfWork} {statuses : List SessionStatus} (hopens : opens = false)
    (hcloses : c.Closes unit statuses) (hall : AllCommitted statuses unit) (hmem : seq ∈ c.levels)
    (hclosed : c'.openUnit = none) (hstatuses : c'.statuses = statuses) : Fate opens c c' seq := by
  by_cases hseq : c.openSeq? = some seq
  · rw [openSeq?_of_some hcloses.openUnit] at hseq
    exact .inr (.inr ⟨hopens, unit, statuses, hcloses, hall, hseq, hclosed, hstatuses⟩)
  · exact .inr (.inl ⟨hmem, hseq⟩)

/-- The layer of a unit of work that is discarded is not left. -/
theorem Fate.of_lose {unit : UnitOfWork} (hsound : c.Sound) (hunit : c.openUnit = some unit)
    (statuses : List SessionStatus) (hmem : seq ∈ (c.lose unit statuses).levels) :
    Fate opens c c' seq := by
  refine .inr (.inl ?_)
  rw [levels_lose hunit] at hmem
  cases hseq : unit.seq with
  | none =>
    rw [hseq] at hmem
    refine ⟨hmem, ?_⟩
    rw [openSeq?_of_some hunit, hseq]
    nofun
  | some newest =>
    rw [hseq] at hmem
    have hmem : seq ∈ c.levels.dropLast := hmem
    have hopen : c.openSeq? = some newest := (openSeq?_of_some hunit).trans hseq
    have hlt := hsound.lt_of_mem_dropLast (hsound.openLast newest hopen) hmem
    refine ⟨List.dropLast_subset _ hmem, fun h => ?_⟩
    rw [hopen] at h
    exact Nat.ne_of_gt hlt (Option.some.inj h)

theorem Turn.fate (h : c.Turn move c') (hsound : c.Sound) (hmem : seq ∈ c'.levels) :
    Fate move.opens c c' seq := by
  cases h with
  | solidify | enable | disable | register | stop => exact .of_same hmem rfl
  | discard _ hunit => exact .of_none (List.dropLast_subset _ hmem) hunit
  | push _ _ hunit =>
    rcases List.mem_append.mp hmem with hold | hnew
    · exact .of_none hold hunit
    · exact .inl (congrArg some (List.mem_singleton.mp hnew).symm)
  | passThrough _ hunit => exact .of_none hmem hunit
  | join _ unit hunit => exact .of_same hmem (openSeq?_of_some hunit).symm
  | resolve _ unit session status hunit => exact .of_same hmem (openSeq?_of_some hunit).symm
  | keep hresolves unit statuses hcloses hall =>
    rw [levels_keep hcloses.openUnit] at hmem
    exact .of_keep (Move.opens_of_resolves hresolves) hcloses hall hmem (openUnit_keep statuses)
      (statuses_keep statuses)
  | lose _ unit statuses hcloses => exact .of_lose hsound hcloses.openUnit statuses hmem

end

end Coordinator

namespace World

section
variable {move : Move} {w w' w₁ w₂ : World} {n : Nat} {r : Except Fault Unit}

theorem says_of_flushEnd (h : FlushEnd w n r w') {name : String} {seq : Nat} {key : Bytes}
    {entry : Entry} (hsaid : w'.db.coordinator.Says name seq key entry) :
    w.db.coordinator.Says name seq key entry := by
  rcases h.sameStacks with hsame | hsame
  · exact hsaid.of_stacks hsame
  · exact (hsaid.of_stacks hsame).of_dropOldest

theorem grows_of_flushEnd (h : FlushEnd w n r w') : w.db.coordinator.Grows w'.db.coordinator := by
  have hremembers := remembers_of_flushEnd h
  rcases h.sameStacks with hsame | hsame
  · exact .of_stacks hsame hremembers
  · refine ⟨hremembers, ?_, hsame.journal, fun seq hmem => .inl ?_⟩
    · have hregistered : (w.db.coordinator.dropOldest n).registered = w.db.coordinator.registered :=
        Coordinator.registered_mapTables _ fun _ => ⟨rfl, rfl⟩
      exact (hsame.registered.trans hregistered) ▸ List.prefix_refl _
    · rw [hsame.levels] at hmem
      exact List.mem_of_mem_drop hmem

theorem grows_of_keep {unit : UnitOfWork} {statuses : List SessionStatus} (h : w.Orderly)
    (hcloses : w.db.coordinator.Closes unit statuses)
    (hkeep : (w.db.coordinator.keep unit statuses).Alike w₁.db.coordinator) :
    w.db.coordinator.Grows w₁.db.coordinator := by
  obtain ⟨hregistered, hjournal⟩ := Coordinator.registered_keep hcloses.openUnit statuses
  refine ⟨remembers_of_keep h hcloses hkeep, ?_, hkeep.layers.journal.trans hjournal,
    fun seq hmem => .inl ?_⟩
  · exact (hkeep.layers.registered.trans hregistered) ▸ List.prefix_refl _
  · rwa [hkeep.layers.levels, Coordinator.levels_keep hcloses.openUnit] at hmem

theorem Concludes.grows (h : w.Concludes r w') : w.db.coordinator.Grows w'.db.coordinator := by
  obtain ⟨hstacks, hunit, hstatuses, -⟩ := h.kept
  exact .of_stacks hstacks (.of_same hunit hstatuses hstacks.nextSeq)

theorem Step.grows (h : Step move w w') (horderly : w.Orderly) :
    w.db.coordinator.Grows w'.db.coordinator := by
  have hremembers := h.remembers horderly
  cases h with
  | aside hc => exact .of_stacks hc.layers hremembers
  | turn _ hturn hc =>
    exact (hturn.grows horderly.sound horderly.attended).trans
      (.of_stacks hc.layers (.of_same hc.modes.openUnit hc.modes.statuses hc.layers.nextSeq))
  | flush _ _ _ h _ => exact grows_of_flushEnd h
  | crash _ _ _ h =>
    have hgrows := grows_of_flushEnd h
    exact hgrows
  | settle _ _ hcloses _ _ hkeep _ _ hflush hend =>
    exact ((grows_of_keep horderly hcloses hkeep).trans (grows_of_flushEnd hflush)).trans hend.grows
  | @put table key entry =>
    have hregistered := Coordinator.registered_modifyTable w.db.coordinator table.index
      (Coordinator.name_root_modifyHead (·.put key entry))
    exact ⟨hremembers, hregistered ▸ List.prefix_refl _, rfl, fun _ h => .inl h⟩
  | recover _ _ _ hc =>
    exact .of_stacks ⟨hc.layers.tables, hc.layers.journal, hc.layers.levels, hc.layers.pending,
      hc.layers.nextSeq, hc.layers.openSeq?⟩ hremembers
  | direct | poison | setPlan => exact .refl _

/-- A database that has stopped stays stopped. -/
theorem Step.running (h : Step move w w') (hrun' : w'.Running) : w.Running := by
  cases h with
  | aside hc _ hpoisoned => exact (running_congr hc.halted hpoisoned).mp hrun'
  | turn hpoisoned hturn hc _ _ =>
    exact ⟨hpoisoned, (hc.halted.trans hturn.halted).symm.trans hrun'.2⟩
  | flush hrun | crash hrun | settle _ hrun | put _ hrun | direct _ hrun | recover _ hrun =>
    exact hrun
  | poison => exact nomatch hrun'.1
  | setPlan => exact hrun'

/-- The world has come from the other one. -/
structure Precedes (w w' : World) : Prop where
  grows : w.db.coordinator.Grows w'.db.coordinator
  running : w'.Running → w.Running

theorem Precedes.refl (w : World) : w.Precedes w := ⟨.refl _, id⟩

theorem Precedes.trans {w'' : World} (h : w.Precedes w') (h' : w'.Precedes w'') : w.Precedes w'' :=
  ⟨h.grows.trans h'.grows, fun hrun => h.running (h'.running hrun)⟩

theorem Steps.precedes (h : Steps move w w') (horderly : w.Orderly) : w.Precedes w' := by
  induction h with
  | refl => exact .refl _
  | tail hpath hstep ih =>
    exact ih.trans ⟨hstep.grows (Steps.orderly hpath horderly), hstep.running⟩

theorem Orderly.precedes_play (h : w.Orderly) (moves : List Move) : w.Precedes (w.play moves) := by
  induction moves generalizing w with
  | nil => exact .refl _
  | cons move moves ih => exact ((move.act_steps h).precedes h).trans (ih (h.act move))

theorem Orderly.precedes_snoc {moves : List Move} (h : (w.play moves).Orderly) (move : Move) :
    (w.play moves).Precedes (w.play (moves ++ [move])) :=
  (h.steps_snoc move).precedes h

/-- No move but a write lets a layer say more. -/
theorem Step.said (h : Step move w w')
    (hmove : ∀ table key entry, move ≠ .call (.write table key entry)) {name : String} {seq : Nat}
    {key : Bytes} {entry : Entry} (hsaid : w'.db.coordinator.Says name seq key entry) :
    w.db.coordinator.Says name seq key entry := by
  cases h with
  | aside hc => exact hsaid.of_stacks hc.layers
  | turn _ hturn hc => exact hturn.said (hsaid.of_stacks hc.layers)
  | flush _ _ _ h _ => exact says_of_flushEnd h hsaid
  | crash _ _ _ h => exact says_of_flushEnd h hsaid
  | settle _ _ hcloses _ _ hkeep _ _ hflush hend =>
    have hkept := says_of_flushEnd hflush (hsaid.of_stacks hend.kept.1)
    exact (hkept.of_stacks hkeep.layers).of_keep hcloses.openUnit
  | put hmove' | direct hmove' => exact absurd hmove' (hmove _ _ _)
  | recover _ _ _ hc =>
    exact hsaid.of_stacks ⟨hc.layers.tables, hc.layers.journal, hc.layers.levels, hc.layers.pending,
      hc.layers.nextSeq, hc.layers.openSeq?⟩
  | poison | setPlan => exact hsaid

theorem fate_of_flushEnd (h : FlushEnd w n r w') {opens : Bool} {seq : Nat}
    (hmem : seq ∈ w'.db.coordinator.levels) :
    Coordinator.Fate opens w.db.coordinator w'.db.coordinator seq := by
  rcases h.sameStacks with hsame | hsame
  · exact .of_same (hsame.levels ▸ hmem) hsame.openSeq?
  · rw [hsame.levels] at hmem
    exact .of_same (List.mem_of_mem_drop hmem) hsame.openSeq?

theorem Step.fate (h : Step move w w') (horderly : w.Orderly) {seq : Nat}
    (hmem : seq ∈ w'.db.coordinator.levels) :
    Coordinator.Fate move.opens w.db.coordinator w'.db.coordinator seq := by
  cases h with
  | aside hc => exact .of_same (hc.layers.levels ▸ hmem) hc.layers.openSeq?
  | turn _ hturn hc =>
    rw [hc.layers.levels] at hmem
    rcases hturn.fate horderly.sound hmem with hopen | hold | ⟨hopens, hcommits⟩
    · exact .inl (hc.layers.openSeq?.trans hopen)
    · exact .inr (.inl hold)
    · obtain ⟨unit, statuses, hcloses, hall, hseq, hclosed, hstatuses⟩ := hcommits
      exact .inr (.inr ⟨hopens, unit, statuses, hcloses, hall, hseq,
        hc.modes.openUnit.trans hclosed, hc.modes.statuses.trans hstatuses⟩)
  | flush _ _ _ h _ => exact fate_of_flushEnd h hmem
  | crash _ _ _ h => exact fate_of_flushEnd h hmem
  | settle hresolves _ hcloses hall _ hkeep _ _ hflush hend =>
    -- The levels that the flush leaves were there when the unit was kept.
    have hclosed := sessions_of_settle hkeep hflush hend
    obtain ⟨m, hlevels⟩ := hflush.levels_suffix
    rw [hend.kept.1.levels, hlevels] at hmem
    have hlevels := List.mem_of_mem_drop hmem
    rw [hkeep.layers.levels, Coordinator.levels_keep hcloses.openUnit] at hlevels
    exact .of_keep (Move.opens_of_resolves hresolves) hcloses hall hlevels hclosed.1 hclosed.2
  | put => exact .of_same hmem rfl
  | recover _ _ _ hc => exact .of_same (hc.layers.levels ▸ hmem) hc.layers.openSeq?
  | direct | poison | setPlan => exact .of_same hmem rfl

end

end World

end LayeredStore

import LayeredStore.Proofs.Runs

/-!
# `LayeredStore.Proofs.Popping`: several levels at once

A pop of several levels looks at all the layers that it is going to
discard, on every table, before it discards the first. Afterwards it
discards level by level and does not look again. This module asks of any
coordinator at all, also of one whose tables were changed behind its
back, what such a pop does.

* `Coordinator.popRefusal?` are the questions of a pop, and
  `World.afterPop` is the discard of one level. `perform_popMany` says
  that a pop is nothing else: it is refused, or it discards as many levels
  as it was asked for.
* `popMany_all_or_nothing`: a pop that is refused changes nothing, and one
  that is not takes the levels away. Of a table it takes as many layers,
  as far as these are live by the table's own count. The questions are
  about how many layers a table has and not about how many of them are
  live, so a table can keep some (`popMany_keeps_pending`).
* `popMany_eq_popEach`: where the tables agree with the coordinator on
  what is pending, a pop of several levels is as many pops of one level.
  One of them is possible exactly if the other is
  (`popRefusal?_succ_eq_none_iff`).
-/

set_option autoImplicit false

namespace LayeredStore

/-! ### One table -/

namespace Chain

/-- The table without its `count` newest layers, as far as they are
live. -/
def dropNewest (chain : Chain) (count : Nat) : Chain :=
  { chain with layers := chain.layers.take (chain.layers.length - min count chain.depth) }

@[simp] theorem dropNewest_zero (chain : Chain) : chain.dropNewest 0 = chain := by
  simp [dropNewest]

/-- Discarding one layer after the other takes the newest ones. -/
theorem dropNewest_discardHead (chain : Chain) (count : Nat) :
    chain.discardHead.dropNewest count = chain.dropNewest (count + 1) := by
  by_cases hdepth : chain.depth = 0
  · -- A table without live layers keeps what it has, however often it is asked.
    simp [discardHead, dropNewest, hdepth]
  · have hdiscard : chain.discardHead =
        { chain with layers := chain.layers.take (chain.layers.length - 1) } := by
      rw [discardHead, if_neg hdepth, List.dropLast_eq_take]
    have hlength : (chain.layers.take (chain.layers.length - 1)).length =
        chain.layers.length - 1 := by
      simp
    rw [hdiscard, dropNewest, dropNewest]
    simp only [depth, hlength, List.take_take] at hdepth ⊢
    congr 2
    omega

/-- A table that has enough live layers loses as many as it is asked
for. -/
theorem dropNewest_of_le (chain : Chain) {count : Nat} (h : count ≤ chain.depth) :
    chain.dropNewest count =
      { chain with layers := chain.layers.take (chain.layers.length - count) } := by
  rw [dropNewest, Nat.min_eq_left h]

/-- A table that has not keeps its pending ones. -/
theorem dropNewest_of_lt (chain : Chain) {count : Nat} (h : chain.depth < count) :
    chain.dropNewest count = { chain with layers := chain.layers.take chain.pending } := by
  rw [dropNewest, Nat.min_eq_right (Nat.le_of_lt h)]
  by_cases hpending : chain.pending ≤ chain.layers.length
  · have hlength : chain.layers.length - chain.depth = chain.pending := by
      rw [depth]
      omega
    rw [hlength]
  · -- More layers are pending than there are, so none is live.
    have hlength : chain.layers.length - chain.depth = chain.layers.length := by
      rw [depth]
      omega
    rw [hlength, List.take_length, List.take_of_length_le (by omega)]

end Chain

/-! ### What a pop does -/

/-- What a pop is called in errors. -/
def popName (verify : Bool) : String := if verify then "pop" else "fast pop"

namespace Coordinator

/-- Why a pop is refused, if it is. -/
def popRefusal? (c : Coordinator) (count : Nat) (verify : Bool) : Option Error :=
  match c.stopped? with
  | some error => some (.illegalState error)
  | none =>
    if c.openUnit.isSome then some (.illegalState (.sessionOpen (popName verify)))
    else if count = 0 then none
    else if c.depth = 0 then some (.illegalState (.emptyChain (popName verify)))
    else if c.depth < count then some (.invalidArgument (.countExceedsDepth count c.depth))
    else (c.notPoppable? (popName verify) count verify).map .illegalState

/-- No more levels are popped than are live. -/
theorem le_depth_of_popRefusal? {c : Coordinator} {count : Nat} {verify : Bool}
    (h : c.popRefusal? count verify = none) : count ≤ c.depth := by
  unfold popRefusal? at h
  split at h
  · cases h
  · grind

/-- A database that runs, with no unit of work open, refuses a pop of live
levels only for its layers. -/
theorem popRefusal?_eq_map {c : Coordinator} {count : Nat} {verify : Bool}
    (hstopped : c.stopped? = none) (hunit : c.openUnit = none) (hcount : 1 ≤ count)
    (hdepth : count ≤ c.depth) :
    c.popRefusal? count verify =
      (c.notPoppable? (popName verify) count verify).map .illegalState := by
  rw [popRefusal?, hstopped, hunit]
  simp only [Option.isSome_none, Bool.false_eq_true, if_false]
  rw [if_neg (by omega), if_neg (by omega), if_neg (by omega)]

end Coordinator

namespace World

/-- The world after the newest live level was popped. -/
def afterPop (verify : Bool) (w : World) : World :=
  let c := w.db.coordinator.discardHead.bump.clampCursor
  let seq := w.db.coordinator.levels.getLast?.getD 0
  ((w.withCoordinator c).say (.layerDiscarded (popName verify) seq c.depth)).withCoordinator
    (c.announce (.popLayer seq c.depth verify))

/-- The world after the `count` newest live levels were popped, one after
the other. -/
def afterPops (verify : Bool) : (count : Nat) → World → World
  | 0, w => w
  | count + 1, w => afterPops verify count (w.afterPop verify)

section
variable (w : World) (verify : Bool)

theorem sameStacks_afterPop :
    w.db.coordinator.discardHead.SameStacks (w.afterPop verify).db.coordinator :=
  (Coordinator.sameStacks_bump _).trans
    ((Coordinator.sameStacks_clampCursor _).trans (Coordinator.sameStacks_announce _ _))

@[simp] theorem levels_afterPop :
    (w.afterPop verify).db.coordinator.levels = w.db.coordinator.levels.dropLast :=
  (w.sameStacks_afterPop verify).levels

@[simp] theorem tables_afterPop :
    (w.afterPop verify).db.coordinator.tables = w.db.coordinator.tables.map (·.discardHead) :=
  (w.sameStacks_afterPop verify).tables

@[simp] theorem pending_afterPop :
    (w.afterPop verify).db.coordinator.pending = w.db.coordinator.pending :=
  (w.sameStacks_afterPop verify).pending

@[simp] theorem depth_afterPop :
    (w.afterPop verify).db.coordinator.depth = w.db.coordinator.depth - 1 := by
  simp only [Coordinator.depth, levels_afterPop, pending_afterPop, List.length_dropLast]
  omega

theorem openUnit_afterPop :
    (w.afterPop verify).db.coordinator.openUnit = w.db.coordinator.openUnit := by
  show (Coordinator.announce _ _).openUnit = _
  unfold Coordinator.announce Coordinator.clampCursor
  split <;> split <;> rfl

theorem stopped?_afterPop :
    (w.afterPop verify).db.coordinator.stopped? = w.db.coordinator.stopped? := by
  show (Coordinator.announce _ _).stopped? = _
  unfold Coordinator.announce Coordinator.clampCursor
  split <;> split <;> rfl

end

/-- The levels that are left, and the tables. -/
theorem afterPops_stacks (verify : Bool) (count : Nat) (w : World) :
    (afterPops verify count w).db.coordinator.levels =
        w.db.coordinator.levels.take (w.db.coordinator.levels.length - count) ∧
      (afterPops verify count w).db.coordinator.tables =
        w.db.coordinator.tables.map (·.dropNewest count) := by
  induction count generalizing w with
  | zero => simp [afterPops]
  | succ count ih =>
    obtain ⟨hlevels, htables⟩ := ih (w.afterPop verify)
    constructor
    · rw [afterPops, hlevels, levels_afterPop, List.length_dropLast, List.dropLast_eq_take,
        List.take_take]
      congr 1
      omega
    · rw [afterPops, htables, tables_afterPop, List.map_map]
      exact List.map_congr_left fun chain _ => chain.dropNewest_discardHead count

end World

namespace Operation

open World

theorem perform_retreatMany (verify : Bool) {count : Nat} {w : World}
    (hcount : count ≤ w.db.coordinator.depth) :
    (retreatMany (popName verify) verify count).perform w = (.ok (), w.afterPops verify count) := by
  suffices hends : (retreatMany (popName verify) verify count).Ends w fun r w' =>
      r = .ok () ∧ w' = w.afterPops verify count from Prod.ext hends.1 hends.2
  induction count generalizing w with
  | zero => exact ⟨rfl, rfl⟩
  | succ count ih =>
    rw [ends_retreatMany_succ, ends_retreat (by omega)]
    have hrest : count ≤ (w.afterPop verify).db.coordinator.depth := by
      rw [depth_afterPop]
      omega
    exact ih hrest

/-- A pop asks its questions, and then it is refused or discards as many
levels as it was asked for. -/
theorem perform_popMany (w : World) (count : Nat) (verify : Bool) :
    (popMany count verify).perform w =
      match w.db.coordinator.popRefusal? count verify with
      | some error => (.error (.error error), w)
      | none => (.ok (), w.afterPops verify count) := by
  suffices hends : (popMany count verify).Ends w fun r w' =>
      (r, w') = match w.db.coordinator.popRefusal? count verify with
        | some error => (.error (.error error), w)
        | none => (.ok (), w.afterPops verify count) from hends
  -- `popRefusal?` asks the questions in the same order, so both sides branch
  -- together.
  unfold popMany Coordinator.popRefusal?
  rw [ends_bind, ends_ensureRunning]
  cases w.db.coordinator.stopped? with
  | some error => rfl
  | none =>
    simp only [ends_bind, ends_getCoordinator, ends_ite, ends_refuse, ends_reject, ends_pure]
    split
    · rfl
    split
    · rename_i hzero
      rw [hzero]
      rfl
    split
    · rfl
    split
    · rfl
    rename_i hcount
    show (match w.db.coordinator.notPoppable? (popName verify) count verify with
      | some error => refuse error
      | none => retreatMany (popName verify) verify count).Ends w _
    cases w.db.coordinator.notPoppable? (popName verify) count verify with
    | some error => rfl
    | none =>
      exact perform_retreatMany verify (Nat.le_of_not_lt hcount)

/-! ### All levels or none -/

/-- A pop of any coordinator, in step with its tables or not, either is
refused and changes nothing, or takes the `count` newest levels. It has
taken the `count` newest layers of every table that had as many live ones
by its own count, and of another table its live ones and none that are
pending. -/
theorem popMany_all_or_nothing (w : World) (count : Nat) (verify : Bool) :
    let c := w.db.coordinator
    (popMany count verify).Ends w fun r w' =>
      (∃ error, r = .error (.error error) ∧ w' = w) ∨
      (r = .ok () ∧ count ≤ c.levels.length ∧
        w'.db.coordinator.levels = c.levels.take (c.levels.length - count) ∧
        w'.db.coordinator.tables.length = c.tables.length ∧
        ∀ (table : Nat) (chain : Chain), c.tables[table]? = some chain →
          (count ≤ chain.depth → w'.db.coordinator.tables[table]? =
            some { chain with layers := chain.layers.take (chain.layers.length - count) }) ∧
          (chain.depth < count → w'.db.coordinator.tables[table]? =
            some { chain with layers := chain.layers.take chain.pending })) := by
  intro c
  rw [Ends, perform_popMany]
  cases hrefusal : w.db.coordinator.popRefusal? count verify with
  | some error => exact .inl ⟨error, rfl, rfl⟩
  | none =>
    obtain ⟨hlevels, htables⟩ := w.afterPops_stacks verify count
    have hdepth : count ≤ c.levels.length - c.pending :=
      Coordinator.le_depth_of_popRefusal? hrefusal
    refine .inr ⟨rfl, by omega, hlevels, by rw [htables, List.length_map], ?_⟩
    intro table chain hchain
    have hleft : (w.afterPops verify count).db.coordinator.tables[table]? =
        some (chain.dropNewest count) := by
      rw [htables, List.getElem?_map, hchain, Option.map_some]
    constructor
    · intro hlive
      exact hleft.trans (congrArg some (chain.dropNewest_of_le hlive))
    · intro hfew
      exact hleft.trans (congrArg some (chain.dropNewest_of_lt hfew))

/-- The first of two tables counts its layer as pending, against the
coordinator. A pop takes the level and the layer of the second table, and
the first keeps its own. -/
theorem popMany_keeps_pending :
    let w := (opened .empty {} "journal" []).play
      [.call (.addTable "a" "left"), .call (.addTable "b" "right"), .call (.openSession false),
        .call (.commitSession ⟨0, false, false⟩)]
    let v := w.withCoordinator (w.db.coordinator.modifyTable 0 (·.solidify 1))
    let v' := ((popMany 1 true).perform v).2
    (∀ chain ∈ v.db.coordinator.tables, chain.pending ≤ chain.layers.length) ∧
      ((popMany 1 true).perform v).1 = .ok () ∧
      v.db.coordinator.levels = [1] ∧ v'.db.coordinator.levels = [] ∧
      v.db.coordinator.tables.map (·.layers.length) = [1, 1] ∧
      v'.db.coordinator.tables.map (·.layers.length) = [1, 0] := by
  decide +kernel

end Operation

/-! ### One after the other -/

/-- Whether a pop takes the layer for that of the level: it has the
level's number, is committed, and has its seal if that is looked at. -/
def Layer.Poppable (verify : Bool) (layer : Layer) (seq : Nat) : Prop :=
  layer.seq = seq ∧ layer.committed = true ∧ (verify = true → layer.sealMatches = true)

/-- The table has a layer for every level, and a pop takes those from this
level on. -/
def Chain.PoppableFrom (chain : Chain) (verify : Bool) (levels : List Nat) (lowest : Nat) : Prop :=
  chain.layers.length = levels.length ∧
    ∀ (level : Nat) (layer : Layer) (seq : Nat), lowest ≤ level →
      chain.layers[level]? = some layer → levels[level]? = some seq → layer.Poppable verify seq

namespace Coordinator

/-- Nothing is found among layers that all can be popped. -/
theorem checkPop?_eq_none_iff {operation : String} {verify : Bool} {table : String} {level : Nat}
    {layers : List Layer} {levels : List Nat} :
    checkPop? operation verify table level layers levels = none ↔
      ∀ (i : Nat) (layer : Layer) (seq : Nat), layers[i]? = some layer → levels[i]? = some seq →
        layer.Poppable verify seq := by
  induction layers generalizing level levels with
  | nil => simp [checkPop?]
  | cons first layers ih =>
    cases levels with
    | nil => simp [checkPop?]
    | cons seq levels =>
      -- What is asked of all layers is asked of the first, and of the others.
      have hcons : (∀ (i : Nat) (layer : Layer) (number : Nat), (first :: layers)[i]? = some layer →
          (seq :: levels)[i]? = some number → layer.Poppable verify number) ↔
          first.Poppable verify seq ∧ ∀ (i : Nat) (layer : Layer) (number : Nat),
            layers[i]? = some layer → levels[i]? = some number → layer.Poppable verify number := by
        constructor
        · intro h
          exact ⟨h 0 first seq rfl rfl, fun i => h (i + 1)⟩
        · rintro ⟨hfirst, hrest⟩ (_ | i) layer number hlayer hnumber
          · cases hlayer
            cases hnumber
            exact hfirst
          · exact hrest i layer number hlayer hnumber
      rw [hcons, ← @ih (level + 1), checkPop?, Layer.Poppable]
      grind

/-- Nothing is found if every table can be popped. -/
theorem notPoppable?_eq_none_iff {c : Coordinator} {operation : String} {count : Nat}
    {verify : Bool} :
    c.notPoppable? operation count verify = none ↔
      ∀ chain ∈ c.tables, chain.PoppableFrom verify c.levels (c.levels.length - count) := by
  rw [notPoppable?, List.findSome?_eq_none_iff]
  refine forall₂_congr fun chain _ => ?_
  unfold Chain.PoppableFrom
  split
  · rename_i hlength
    simp [hlength]
  · rename_i hlength
    rw [checkPop?_eq_none_iff]
    simp only [List.getElem?_drop]
    constructor
    · intro h
      refine ⟨not_not.mp hlength, fun level layer seq hle hlayer hseq => ?_⟩
      obtain ⟨i, rfl⟩ := Nat.exists_eq_add_of_le hle
      exact h i layer seq hlayer hseq
    · intro h i layer seq hlayer hseq
      exact h.2 _ layer seq (Nat.le_add_right _ i) hlayer hseq

/-- A pop is refused for no other reason than these. -/
theorem popRefusal?_eq_none_iff {c : Coordinator} {count : Nat} {verify : Bool} :
    c.popRefusal? count verify = none ↔
      c.stopped? = none ∧ c.openUnit = none ∧ count ≤ c.depth ∧
        (0 < count →
          ∀ chain ∈ c.tables, chain.PoppableFrom verify c.levels (c.levels.length - count)) := by
  unfold popRefusal?
  cases c.stopped? with
  | some error => simp
  | none =>
    rw [← @notPoppable?_eq_none_iff c (popName verify) count verify]
    cases c.openUnit with
    | some unit => simp
    | none =>
      simp only [Option.isSome_none, Bool.false_eq_true, if_false, true_and]
      by_cases hcount : count ≤ c.depth
      · by_cases hzero : count = 0
        · simp [hzero]
        · rw [if_neg hzero, if_neg (by omega), if_neg (by omega), Option.map_eq_none_iff]
          simp [hcount, Nat.pos_of_ne_zero hzero]
      · split
        · omega
        · split
          · simp [hcount]
          · rw [if_pos (by omega)]
            simp [hcount]

end Coordinator

/-- The newest layer can be popped and those below it can be popped
afterwards, if all of them can be popped at once. -/
theorem Chain.poppableFrom_succ_iff {chain : Chain} {verify : Bool} {levels : List Nat}
    {count : Nat} (hcount : count + 1 ≤ levels.length - chain.pending) :
    chain.PoppableFrom verify levels (levels.length - (count + 1)) ↔
      chain.PoppableFrom verify levels (levels.length - 1) ∧
        chain.discardHead.PoppableFrom verify levels.dropLast (levels.dropLast.length - count) := by
  by_cases hlength : chain.layers.length = levels.length
  swap
  · exact iff_of_false (fun h => hlength h.1) fun h => hlength h.1.1
  have hdepth : chain.depth ≠ 0 := by
    rw [depth, hlength]
    omega
  simp only [PoppableFrom, discardHead, if_neg hdepth, List.length_dropLast, hlength, true_and,
    List.getElem?_dropLast]
  constructor
  · intro h
    refine ⟨fun level layer seq hle => h level layer seq (by omega), ?_⟩
    intro level layer seq hle hlayer hseq
    split at hlayer
    · rw [if_pos ‹_›] at hseq
      exact h level layer seq (by omega) hlayer hseq
    · cases hlayer
  · rintro ⟨hnewest, hbelow⟩ level layer seq hle hlayer hseq
    -- The level is the newest, or it is left by the first pop.
    by_cases hlast : levels.length - 1 ≤ level
    · exact hnewest level layer seq hlast hlayer hseq
    · refine hbelow level layer seq (by omega) ?_ ?_
      · rwa [if_pos (by omega)]
      · rwa [if_pos (by omega)]

namespace World

/-- The tables count as many layers as pending as the coordinator does. -/
def PendingAgrees (w : World) : Prop :=
  ∀ chain ∈ w.db.coordinator.tables, chain.pending = w.db.coordinator.pending

theorem PendingAgrees.afterPop {w : World} (h : w.PendingAgrees) (verify : Bool) :
    (w.afterPop verify).PendingAgrees := by
  intro chain hmem
  rw [tables_afterPop] at hmem
  obtain ⟨old, hold, rfl⟩ := List.mem_map.mp hmem
  rw [pending_afterPop, ← h old hold, Chain.discardHead]
  split <;> rfl

/-- One more level can be popped if the newest can, and the others
afterwards. -/
theorem popRefusal?_succ_eq_none_iff {w : World} (h : w.PendingAgrees) (count : Nat)
    (verify : Bool) :
    w.db.coordinator.popRefusal? (count + 1) verify = none ↔
      w.db.coordinator.popRefusal? 1 verify = none ∧
        (w.afterPop verify).db.coordinator.popRefusal? count verify = none := by
  simp only [Coordinator.popRefusal?_eq_none_iff, stopped?_afterPop, openUnit_afterPop,
    depth_afterPop, levels_afterPop, tables_afterPop, List.forall_mem_map]
  constructor
  · rintro ⟨hstopped, hunit, hcount, hall⟩
    -- For each table, the newest layer is split off what is asked.
    have hsplit := fun chain hmem =>
      (Chain.poppableFrom_succ_iff (h chain hmem ▸ hcount)).mp
        (hall (Nat.succ_pos count) chain hmem)
    exact ⟨⟨hstopped, hunit, by omega, fun _ chain hmem => (hsplit chain hmem).1⟩,
      hstopped, hunit, by omega, fun _ chain hmem => (hsplit chain hmem).2⟩
  · rintro ⟨⟨hstopped, hunit, hone, hnewest⟩, -, -, hcount, hbelow⟩
    refine ⟨hstopped, hunit, by omega, fun _ chain hmem => ?_⟩
    rcases Nat.eq_zero_or_pos count with rfl | hpos
    · exact hnewest Nat.one_pos chain hmem
    · have hlive : count + 1 ≤ w.db.coordinator.levels.length - chain.pending := by
        rw [h chain hmem]
        show count + 1 ≤ w.db.coordinator.depth
        omega
      exact (Chain.poppableFrom_succ_iff hlive).mpr
        ⟨hnewest Nat.one_pos chain hmem, hbelow hpos chain hmem⟩

end World

namespace Operation

open World

/-- Pops one level after the other, as often as told; an error ends
it. -/
def popEach (verify : Bool) : (count : Nat) → Operation Unit
  | 0 => return ()
  | count + 1 => do
    popMany 1 verify
    popEach verify count

theorem popMany_eq_ok_iff {w w' : World} {count : Nat} {verify : Bool} :
    (popMany count verify).perform w = (.ok (), w') ↔
      w.db.coordinator.popRefusal? count verify = none ∧ w' = w.afterPops verify count := by
  rw [perform_popMany]
  cases w.db.coordinator.popRefusal? count verify with
  | some error => simp
  | none => simp [eq_comm]

/-- The first pop is refused, or the others go on from where it leads. -/
theorem perform_popEach_succ (w : World) (count : Nat) (verify : Bool) :
    (popEach verify (count + 1)).perform w =
      match w.db.coordinator.popRefusal? 1 verify with
      | some error => (.error (.error error), w)
      | none => (popEach verify count).perform (w.afterPop verify) := by
  suffices hends : (popEach verify (count + 1)).Ends w fun r v =>
      (r, v) = match w.db.coordinator.popRefusal? 1 verify with
        | some error => (.error (.error error), w)
        | none => (popEach verify count).perform (w.afterPop verify) from hends
  show (popMany 1 verify >>= fun _ => popEach verify count).Ends w _
  rw [ends_bind, Ends, perform_popMany]
  cases w.db.coordinator.popRefusal? 1 verify with
  | some error => rfl
  | none => rfl

/-- Where the tables agree with the coordinator on what is pending, a pop
of several levels succeeds exactly if as many pops of one level do, and
then it leads to the same world: the same tables and levels, cursor,
generation and events. -/
theorem popMany_eq_popEach (w : World) (hpending : w.PendingAgrees) (count : Nat)
    (hcount : 1 ≤ count) (verify : Bool) (w' : World) :
    (popMany count verify).perform w = (.ok (), w') ↔
      (popEach verify count).perform w = (.ok (), w') := by
  induction count generalizing w with
  | zero => omega
  | succ count ih =>
    rw [popMany_eq_ok_iff, popRefusal?_succ_eq_none_iff hpending, perform_popEach_succ]
    cases hfirst : w.db.coordinator.popRefusal? 1 verify with
    | some error => simp
    | none =>
      show _ ↔ (popEach verify count).perform (w.afterPop verify) = (.ok (), w')
      rcases Nat.eq_zero_or_pos count with rfl | hpos
      · -- Nothing is left to pop, and a pop of nothing is not refused.
        have hnothing := ((popRefusal?_succ_eq_none_iff hpending 0 verify).mp hfirst).2
        show _ ↔ ((.ok (), w.afterPop verify) : Except Fault Unit × World) = (.ok (), w')
        simp [hnothing, afterPops, eq_comm]
      · rw [← ih (w.afterPop verify) (hpending.afterPop verify) hpos,
          popMany_eq_ok_iff]
        simp [afterPops]

/-- An entry of the older of two layers was forged. No one looks at seals in
a fast pop, so both levels go in either way. -/
theorem popMany_eq_popEach_forged :
    let w := (opened .empty {} "journal" []).play
      [.call (.addTable "a" "left"), .call (.openSession false),
        .call (.commitSession ⟨0, false, false⟩), .call (.openSession false),
        .call (.commitSession ⟨1, false, false⟩)]
    let v := w.withCoordinator
      (w.db.coordinator.modifyTable 0 (·.modifyLayer 0 (·.forge [1] (.value [10]))))
    let v' := ((popMany 2 false).perform v).2
    v.PendingAgrees ∧ v.db.coordinator.levels = [1, 2] ∧ v'.db.coordinator.levels = [] ∧
      (popMany 2 false).perform v = (.ok (), v') ∧ (popEach false 2).perform v = (.ok (), v') := by
  intro w v v'
  have hpending : v.PendingAgrees := by
    unfold PendingAgrees
    decide +kernel
  have hbatch : (popMany 2 false).perform v = (.ok (), v') := Prod.ext (by decide +kernel) rfl
  exact ⟨hpending, by decide +kernel, by decide +kernel, hbatch,
    (popMany_eq_popEach v hpending 2 (by decide) false v').mp hbatch⟩

end Operation

end LayeredStore

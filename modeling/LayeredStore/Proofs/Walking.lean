import LayeredStore.Proofs.Generation
import LayeredStore.Proofs.Overlay

/-!
# `LayeredStore.Proofs.Walking`: walks between which the database changes

Between two steps of a walk over a table anything can happen to the
database, and the walk keeps nothing but the key that it stands on and
the generation of the chains. `TableIter.along` is what a walk yields
whose steps are taken in a list of worlds, whatever lies between these.

* `TableIter.next_ends`: the ways in which a step can end.
* `along_split`: where a walk stands at one of its steps: at the key of
  the pair that it yielded last.
* `pairs_increase`, `yields_least`, `failed_le_one` and `quiet_after_end`: the keys
  increase, each pair is the next one of what the table reads as at the
  step, and nothing follows an error or an end.
* `fails_never` and `yields_of_constant`: as long as the chains keep their
  shape, no step fails, and a walk that ends has met every key whose
  value was the same at all of its steps.
* `Table.walk_interleaved`: what this says of the moves of a run.
-/

set_option autoImplicit false

namespace LayeredStore

/-- The world can be read, and its chains have this generation. -/
def World.ReadableAt (w : World) (generation : Nat) : Prop :=
  w.db.poisoned = false ∧ w.db.coordinator.generation = generation

/-! ### One step -/

/-- The next pair under the cursor is that of the least key above the
starting point that has a value. -/
theorem Coordinator.nextVisible?_eq_some {c : Coordinator} {disk : Disk} {table : Nat}
    {after : Option Bytes} {key value : Bytes}
    (h : c.nextVisible? disk table after = some (key, value)) :
    c.get? disk table key = some value ∧ OrderedMap.above after key = true ∧
      ∀ other, OrderedMap.above after other = true → (c.get? disk table other).isSome →
        ¬ other < key := by
  unfold nextVisible? at h
  unfold get?
  cases hchain : c.tables[table]? with
  | none =>
    rw [hchain] at h
    cases h
  | some chain =>
    obtain ⟨hget, hnext⟩ := (chain.readsAs_iff (disk.contents chain.root) c.view _).mpr rfl
    rw [hchain, Option.bind_eq_bind, Option.bind_some, hnext,
      OrderedMap.nextAfter?_eq_some_iff] at h
    simp only [Option.bind_eq_bind, Option.bind_some, hget]
    exact h

/-- There is no next pair only where no key above the starting point has a
value. -/
theorem Coordinator.nextVisible?_eq_none {c : Coordinator} {disk : Disk} {table : Nat}
    {after : Option Bytes} (h : c.nextVisible? disk table after = none) {key : Bytes}
    (habove : OrderedMap.above after key = true) : c.get? disk table key = none := by
  unfold nextVisible? at h
  unfold get?
  cases hchain : c.tables[table]? with
  | none => rfl
  | some chain =>
    obtain ⟨hget, hnext⟩ := (chain.readsAs_iff (disk.contents chain.root) c.view _).mpr rfl
    rw [hchain, Option.bind_eq_bind, Option.bind_some, hnext,
      OrderedMap.nextAfter?_eq_none_iff] at h
    rw [Option.bind_eq_bind, Option.bind_some, hget]
    refine Option.eq_none_iff_forall_ne_some.mpr fun value hvalue => ?_
    rw [h key value hvalue] at habove
    cases habove

namespace TableIter

variable {iter : TableIter} {w : World}

/-- How a step of a walk can end: the walk was over; or it is over from
here on, because the database cannot be read or its chains have changed
their shape, or because no key with a value lies ahead; or it goes on
from the least of these keys. -/
inductive NextEnd (iter : TableIter) (w : World) :
    Option (Except Error (Bytes × Bytes)) × TableIter → Prop
  | idle (hdone : iter.done = true) : NextEnd iter w (none, iter)
  | fails {error : Error} (hdone : iter.done = false)
      (hstale : w.db.poisoned = true ∨ w.db.coordinator.generation ≠ iter.generation) :
      NextEnd iter w (some (.error error), { iter with done := true })
  | ends (hdone : iter.done = false)
      (hnone : ∀ key, OrderedMap.above iter.after key = true →
        w.db.coordinator.get? w.disk iter.table.index key = none) :
      NextEnd iter w (none, { iter with done := true })
  | yields {key value : Bytes} (hdone : iter.done = false)
      (hvalue : w.db.coordinator.get? w.disk iter.table.index key = some value)
      (habove : OrderedMap.above iter.after key = true)
      (hleast : ∀ other, OrderedMap.above iter.after other = true →
        (w.db.coordinator.get? w.disk iter.table.index other).isSome → ¬ other < key) :
      NextEnd iter w (some (.ok (key, value)), { iter with after := some key })

theorem next_ends (iter : TableIter) (w : World) : NextEnd iter w (iter.next w) := by
  unfold next
  dsimp only
  split
  · exact .idle ‹_›
  rename_i hdone
  have hdone : iter.done = false := Bool.eq_false_iff.mpr hdone
  split
  · exact .fails hdone (.inl ‹_›)
  split
  · exact .fails hdone (.inr ‹_›)
  split
  · rename_i hnext
    obtain ⟨hvalue, habove, hleast⟩ := Coordinator.nextVisible?_eq_some hnext
    exact .yields hdone hvalue habove hleast
  · rename_i hnext
    exact .ends hdone fun key => Coordinator.nextVisible?_eq_none hnext

/-! ### All steps -/

/-- A step that was taken: in which world, and what it yielded. -/
abbrev Call := World × Option (Except Error (Bytes × Bytes))

/-- The steps of a walk, one in each of these worlds. -/
def along (iter : TableIter) : List World → List Call
  | [] => []
  | w :: later => (w, (iter.next w).1) :: (iter.next w).2.along later

/-- A step is taken in each of the worlds. -/
theorem exists_call {w : World} {worlds : List World} (hmem : w ∈ worlds) :
    ∃ call ∈ iter.along worlds, call.1 = w := by
  induction worlds generalizing iter with
  | nil => exact absurd hmem List.not_mem_nil
  | cons first later ih =>
    rcases List.mem_cons.mp hmem with rfl | hmem
    · exact ⟨_, List.mem_cons_self, rfl⟩
    · obtain ⟨call, hcall, hw⟩ := @ih (iter.next first).2 hmem
      exact ⟨call, List.mem_cons_of_mem _ hcall, hw⟩

/-- The pair that a step yielded, if any. -/
def Call.pair? (call : Call) : Option (Bytes × Bytes) :=
  match call.2 with
  | some (.ok pair) => some pair
  | _ => none

/-- Whether a step failed. -/
def Call.failed (call : Call) : Bool :=
  match call.2 with
  | some (.error _) => true
  | _ => false

/-- The pairs that some steps yielded, in their order. -/
def pairs (calls : List Call) : List (Bytes × Bytes) := calls.filterMap Call.pair?

/-- Steps after the end yield nothing. -/
theorem along_of_done (hdone : iter.done = true) (worlds : List World) :
    ∀ call ∈ iter.along worlds, call.2 = none := by
  induction worlds with
  | nil => exact List.forall_mem_nil _
  | cons w later ih =>
    rw [along, next_of_done hdone]
    exact List.forall_mem_cons.mpr ⟨rfl, ih⟩

/-- Where a walk stands after some steps: at the key of the last pair, or
where it stood before. -/
def lastKey (iter : TableIter) (calls : List Call) : Option Bytes :=
  ((pairs calls).getLast?.map (·.1)).or iter.after

/-- The first step is taken before the others. -/
theorem lastKey_cons (iter : TableIter) (w : World) (calls : List Call) :
    iter.lastKey ((w, (iter.next w).1) :: calls) = (iter.next w).2.lastKey calls := by
  have hend := next_ends iter w
  generalize iter.next w = result at hend
  cases hend with
  | idle | fails | ends => rfl
  | @yields key value =>
    have hpairs : pairs ((w, some (.ok (key, value))) :: calls) = (key, value) :: pairs calls := rfl
    rw [lastKey, lastKey, hpairs, List.getLast?_cons]
    cases (pairs calls).getLast? <;> rfl

/-- Every step is one of a walk over the same table that stands at the key
of the pair yielded last, and the steps after it are taken from there. -/
theorem along_split {worlds : List World} {before after : List Call} {call : Call}
    (h : iter.along worlds = before ++ call :: after) :
    ∃ (reached : TableIter) (later : List World), reached.table = iter.table ∧
      reached.after = iter.lastKey before ∧ call.2 = (reached.next call.1).1 ∧
      after = (reached.next call.1).2.along later := by
  induction worlds generalizing iter before with
  | nil => simp [along] at h
  | cons w worlds ih =>
    cases before with
    | nil =>
      obtain ⟨rfl, rfl⟩ := List.cons.inj h
      exact ⟨iter, worlds, rfl, rfl, rfl, rfl⟩
    | cons first before =>
      obtain ⟨rfl, hrest⟩ := List.cons.inj h
      obtain ⟨reached, later, htable, hafter, hcall, hlater⟩ := ih hrest
      exact ⟨reached, later, htable.trans (iter.table_next w),
        hafter.trans (iter.lastKey_cons w before).symm, hcall, hlater⟩

/-- A pair that a step yields is that of the least key with a value above
the pair yielded before. -/
theorem yields_least {worlds : List World} {before after : List Call} {key value : Bytes}
    (h : iter.along worlds = before ++ (w, some (.ok (key, value))) :: after) :
    w.db.coordinator.get? w.disk iter.table.index key = some value ∧
      OrderedMap.above (iter.lastKey before) key = true ∧
      ∀ other, OrderedMap.above (iter.lastKey before) other = true →
        (w.db.coordinator.get? w.disk iter.table.index other).isSome → ¬ other < key := by
  obtain ⟨reached, _, htable, hafter, hcall, -⟩ := along_split h
  rw [← htable, ← hafter]
  have hend := next_ends reached w
  generalize reached.next w = result at hend hcall
  cases hend with
  | idle | fails | ends => cases hcall
  | yields _ hvalue habove hleast =>
    cases hcall
    exact ⟨hvalue, habove, hleast⟩

/-- After a step that yields no pair no step yields anything. -/
theorem quiet_after_end {worlds : List World} {before after : List Call} {call : Call}
    (h : iter.along worlds = before ++ call :: after) (hend : call.pair? = none) :
    ∀ later ∈ after, later.2 = none := by
  obtain ⟨reached, worlds', -, -, hcall, rfl⟩ := along_split h
  suffices hdone : (reached.next call.1).2.done = true from along_of_done hdone worlds'
  have hnext := next_ends reached call.1
  generalize reached.next call.1 = result at hnext hcall
  cases hnext with
  | idle hdone => exact hdone
  | fails | ends => rfl
  | yields =>
    rw [Call.pair?, hcall] at hend
    cases hend

/-- At most one step fails, for none is taken after it. -/
theorem failed_le_one (iter : TableIter) (worlds : List World) :
    (iter.along worlds).countP Call.failed ≤ 1 := by
  induction worlds generalizing iter with
  | nil => exact Nat.zero_le 1
  | cons w later ih =>
    -- A walk that is done yields nothing, so no step of it fails.
    have hidle : ∀ iter' : TableIter, iter'.done = true →
        (iter'.along later).countP Call.failed = 0 := by
      intro iter' hdone
      refine List.countP_eq_zero.mpr fun call hmem => ?_
      rw [Call.failed, along_of_done hdone later call hmem]
      exact Bool.false_ne_true
    have hend := next_ends iter w
    rw [along]
    generalize iter.next w = result at hend
    rw [List.countP_cons]
    cases hend with
    | idle hdone => rw [hidle iter hdone]; exact Nat.zero_le 1
    | ends => rw [hidle _ rfl]; exact Nat.zero_le 1
    | fails => rw [hidle _ rfl]; exact Nat.le_refl 1
    | yields => exact ih _

/-- The keys that a walk yields lie above where it stands. -/
theorem above_of_mem_pairs {worlds : List World} :
    ∀ pair ∈ pairs (iter.along worlds), OrderedMap.above iter.after pair.1 = true := by
  induction worlds generalizing iter with
  | nil => exact List.forall_mem_nil _
  | cons w later ih =>
    have hend := next_ends iter w
    rw [along]
    generalize iter.next w = result at hend
    cases hend with
    | idle | fails | ends => exact ih
    | @yields key value _ _ habove _ =>
      refine List.forall_mem_cons.mpr ⟨habove, fun pair hmem => ?_⟩
      exact Chain.above_of_above habove (ih pair hmem)

/-- The keys that a walk yields increase. -/
theorem pairs_increase (iter : TableIter) (worlds : List World) :
    (pairs (iter.along worlds)).Pairwise fun pair later => pair.1 < later.1 := by
  induction worlds generalizing iter with
  | nil => exact .nil
  | cons w later ih =>
    have hend := next_ends iter w
    rw [along]
    generalize iter.next w = result at hend
    cases hend with
    | idle | fails | ends => exact ih _
    | @yields key value =>
      refine List.pairwise_cons.mpr ⟨fun pair hmem => ?_, ih _⟩
      exact of_decide_eq_true (above_of_mem_pairs pair hmem)

/-! ### Walks that nothing invalidates -/

section
variable {worlds : List World} (hread : ∀ w ∈ worlds, w.ReadableAt iter.generation)
include hread

/-- Where the chains keep the shape they had, the steps of a walk do not
fail. -/
theorem fails_never : ∀ call ∈ iter.along worlds, ∀ error, call.2 ≠ some (.error error) := by
  induction worlds generalizing iter with
  | nil => exact List.forall_mem_nil _
  | cons w later ih =>
    rw [List.forall_mem_cons] at hread
    refine List.forall_mem_cons.mpr ⟨?_, ih fun w' hmem => ?_⟩
    · have hend := next_ends iter w
      generalize iter.next w = result at hend
      cases hend with
      | idle | ends => exact fun _ h => nomatch h
      | yields => exact fun _ h => nomatch Option.some.inj h
      | fails _ hstale =>
        -- A step fails only where the lock is poisoned or the generation has
        -- changed.
        rcases hstale with hpoisoned | hchanged
        · rw [hread.1.1] at hpoisoned
          cases hpoisoned
        · exact absurd hread.1.2 hchanged
    · rw [generation_next]
      exact hread.2 w' hmem

/-- There a walk that ends has met every key ahead whose value was the
same at all of its steps. -/
theorem yields_of_constant (hdone : iter.done = false)
    (hended : ∃ call ∈ iter.along worlds, call.2 = none) {key value : Bytes}
    (habove : OrderedMap.above iter.after key = true)
    (hvalue : ∀ w ∈ worlds, w.db.coordinator.get? w.disk iter.table.index key = some value) :
    (key, value) ∈ pairs (iter.along worlds) := by
  induction worlds generalizing iter with
  | nil => simp [along] at hended
  | cons w later ih =>
    have hgood := fails_never hread (w, (iter.next w).1) List.mem_cons_self
    rw [List.forall_mem_cons] at hread hvalue
    have hend := next_ends iter w
    rw [along] at hended ⊢
    generalize iter.next w = result at hend hgood hended
    cases hend with
    | idle h => rw [hdone] at h; cases h
    | @fails error => exact absurd rfl (hgood error)
    | ends _ hnone =>
      rw [hnone key habove] at hvalue
      cases hvalue.1
    | @yields found value' _ hfound habove' hleast =>
      -- What is found does not lie above the key, and if it lies below, the
      -- key is still ahead.
      have hle : ¬ key < found := hleast key habove (by rw [hvalue.1]; rfl)
      show (key, value) ∈ (found, value') :: pairs _
      rcases Std.lt_trichotomy found key with hlt | rfl | hgt
      · refine List.mem_cons_of_mem _ (ih hread.2 hdone ?_ (decide_eq_true hlt) hvalue.2)
        obtain ⟨call, hmem, hnone⟩ := hended
        rcases List.mem_cons.mp hmem with rfl | hmem
        · cases hnone
        · exact ⟨call, hmem, hnone⟩
      · rw [hfound] at hvalue
        cases hvalue.1
        exact List.mem_cons_self
      · exact absurd hgt hle

end

end TableIter

/-! ### The moves between the steps -/

namespace World

/-- The worlds in which the steps of a walk are taken if these moves are
made before each of them. -/
def stages (w : World) : List (List Move) → List World
  | [] => []
  | moves :: later => w.play moves :: (w.play moves).stages later

/-- Whether the move sets or removes a key in a live head. -/
def writesLive (w : World) : Move → Bool
  | .call (.write table _ _) =>
    w.db.coordinator.tables[table.index]?.any fun chain => decide (0 < chain.depth)
  | _ => false

/-- Whether each of the moves sets or removes a key in a live head. -/
def onlyWritesLive (w : World) : List Move → Bool
  | [] => true
  | move :: moves => w.writesLive move && (move.act w).onlyWritesLive moves

variable {w : World} {generation : Nat}

/-- A write into a live head goes to no store and is not counted. -/
theorem ReadableAt.write {table : Table} {key : Bytes} {entry : Entry} {chain : Chain}
    (hread : w.ReadableAt generation)
    (hchain : w.db.coordinator.tables[table.index]? = some chain) (hdepth : 0 < chain.depth) :
    (Move.act w (.call (.write table key entry))).ReadableAt generation := by
  have hwrite : (table.write key entry).Ends w fun _ w' => w'.ReadableAt generation := by
    unfold Table.write
    rw [Operation.ends_locked, if_neg (by simp [hread.1])]
    have hno : ∀ chain', w.db.coordinator.tables[table.index]? = some chain' →
        chain'.depth ≠ 0 := by
      intro chain' hchain'
      obtain rfl : chain = chain' := Option.some.inj (hchain.symm.trans hchain')
      exact Nat.ne_of_gt hdepth
    apply Operation.writeEntry_rule
    case refused => exact fun _ _ => hread
    case unknown => exact fun _ _ => hread
    case put => exact fun _ _ _ _ => hread
    case flushed => exact fun chain' _ hchain' hzero => absurd hzero (hno chain' hchain')
    case direct => exact fun chain' _ hchain' hzero => absurd hzero (hno chain' hchain')
  exact Operation.Ends.done hwrite

theorem ReadableAt.act {move : Move} (hread : w.ReadableAt generation)
    (hlive : w.writesLive move = true) : (move.act w).ReadableAt generation := by
  unfold writesLive at hlive
  split at hlive
  · obtain ⟨chain, hchain, hdepth⟩ := (Option.any_eq_true _ _).mp hlive
    exact hread.write hchain (of_decide_eq_true hdepth)
  · cases hlive

theorem ReadableAt.play {moves : List Move} (hread : w.ReadableAt generation)
    (hlive : w.onlyWritesLive moves = true) : (w.play moves).ReadableAt generation := by
  induction moves generalizing w with
  | nil => exact hread
  | cons move moves ih =>
    obtain ⟨hmove, hmoves⟩ := (Bool.and_eq_true _ _).mp hlive
    exact ih (hread.act hmove) hmoves

theorem onlyWritesLive_append (w : World) (first later : List Move) :
    w.onlyWritesLive (first ++ later) =
      (w.onlyWritesLive first && (w.play first).onlyWritesLive later) := by
  induction first generalizing w with
  | nil => rfl
  | cons move first ih =>
    rw [List.cons_append, onlyWritesLive, ih, onlyWritesLive, Bool.and_assoc, play_cons]

/-- Writes into live heads leave all worlds of a walk readable. -/
theorem ReadableAt.stages {script : List (List Move)} (hread : w.ReadableAt generation)
    (hlive : w.onlyWritesLive script.flatten = true) :
    ∀ w' ∈ w.stages script, w'.ReadableAt generation := by
  induction script generalizing w with
  | nil => exact List.forall_mem_nil _
  | cons moves script ih =>
    rw [List.flatten_cons, onlyWritesLive_append, Bool.and_eq_true] at hlive
    have hnow := hread.play hlive.1
    exact List.forall_mem_cons.mpr ⟨hnow, ih hnow hlive.2⟩

end World

namespace TableIter

/-- A walk that was begun stands before all keys, and can be continued in
the world it was begun in. -/
theorem of_iterate {w : World} {table : Table} {iter : TableIter}
    (h : (table.iterate.perform w).1 = .ok iter) :
    iter = ⟨table, w.db.coordinator.generation, none, false⟩ ∧
      w.ReadableAt iter.generation := by
  have hend : table.iterate.Ends w fun r _ => ∀ iter, r = .ok iter →
      iter = ⟨table, w.db.coordinator.generation, none, false⟩ ∧
        w.ReadableAt iter.generation := by
    unfold Table.iterate
    rw [Operation.ends_locked]
    split
    · exact nofun
    · rename_i hpoisoned
      rw [Operation.ends_bind, Operation.ends_getCoordinator]
      rintro iter ⟨⟩
      exact ⟨rfl, Bool.eq_false_iff.mpr hpoisoned, rfl⟩
  exact hend iter h

end TableIter

/-- **A walk between the steps of which anything happens.** Whatever is
done to the database before each step of a walk over a table: the keys of
the pairs that it yields increase; each pair is that of the least key
above the pair before it that has a value under the cursor at the moment
of the step; and it yields at most one error, and after an error or the
end nothing more. If nothing is done but to set
and remove keys in live heads, no step fails, and a walk that ends has
yielded every key that had one value at all of its steps, once and with
this value. -/
theorem Table.walk_interleaved (w : World) (table : Table) (iter : TableIter)
    (hiter : (table.iterate.perform w).1 = .ok iter) (script : List (List Move)) :
    let calls := iter.along (w.stages script)
    let pairs := TableIter.pairs calls
    (pairs.Pairwise fun pair later => pair.1 < later.1) ∧
    (∀ before w' key value after, calls = before ++ (w', some (.ok (key, value))) :: after →
      let last := (TableIter.pairs before).getLast?.map (·.1)
      w'.db.coordinator.get? w'.disk table.index key = some value ∧
        OrderedMap.above last key = true ∧
        ∀ other, OrderedMap.above last other = true →
          (w'.db.coordinator.get? w'.disk table.index other).isSome → ¬ other < key) ∧
    calls.countP TableIter.Call.failed ≤ 1 ∧
    (∀ before call after, calls = before ++ call :: after →
      (call.2 = none ∨ ∃ error, call.2 = some (.error error)) →
        ∀ later ∈ after, later.2 = none) ∧
    (w.onlyWritesLive script.flatten = true →
      (∀ call ∈ calls, ∀ error, call.2 ≠ some (.error error)) ∧
      ((∃ call ∈ calls, call.2 = none) → ∀ key value,
        (∀ call ∈ calls, call.1.db.coordinator.get? call.1.disk table.index key = some value) →
          (key, value) ∈ pairs ∧ (pairs.map (·.1)).count key = 1)) := by
  intro calls pairs
  obtain ⟨rfl, hread⟩ := TableIter.of_iterate hiter
  have hincrease := TableIter.pairs_increase
    ⟨table, w.db.coordinator.generation, none, false⟩ (w.stages script)
  refine ⟨hincrease, fun before w' key value after hsplit => ?_,
    TableIter.failed_le_one _ _, fun before call after hsplit hend => ?_, fun hlive => ?_⟩
  · have hleast := TableIter.yields_least hsplit
    rwa [TableIter.lastKey, Option.or_none] at hleast
  · refine TableIter.quiet_after_end hsplit ?_
    unfold TableIter.Call.pair?
    rcases hend with hnone | ⟨error, herror⟩
    · rw [hnone]
    · rw [herror]
  · have hstages := hread.stages hlive
    refine ⟨TableIter.fails_never hstages, fun hended key value hvalue => ?_⟩
    have hworlds : ∀ w' ∈ w.stages script,
        w'.db.coordinator.get? w'.disk table.index key = some value := by
      intro w' hmem
      obtain ⟨call, hcall, rfl⟩ := TableIter.exists_call hmem
      exact hvalue call hcall
    have hmem : (key, value) ∈ pairs :=
      TableIter.yields_of_constant hstages rfl hended rfl hworlds
    -- The keys increase, so none of them is met twice.
    have hnodup : (pairs.map (·.1)).Nodup := by
      refine List.pairwise_map.mpr (hincrease.imp fun hlt heq => ?_)
      rw [heq] at hlt
      exact List.lt_irrefl _ hlt
    exact ⟨hmem, List.count_eq_one_of_mem hnodup (List.mem_map_of_mem hmem)⟩

/-- Between the steps a key is set that the walk has passed and one that
lies ahead, the key that it stands on is removed and so is the next one,
which the root still has. The last key is met once. -/
theorem Table.walk_interleaved_writes :
    let w := (World.opened .empty {} "journal" []).play
      [.call (.addTable "a" "left"), .call (.write ⟨0, "a"⟩ [1] (.value [10])),
        .call (.write ⟨0, "a"⟩ [3] (.value [30])), .call (.write ⟨0, "a"⟩ [5] (.value [50])),
        .call (.openSession false)]
    let iter : TableIter := ⟨⟨0, "a"⟩, w.db.coordinator.generation, none, false⟩
    let script : List (List Move) :=
      [[], [.call (.write ⟨0, "a"⟩ [0] (.value [1])), .call (.write ⟨0, "a"⟩ [2] (.value [20])),
        .call (.write ⟨0, "a"⟩ [1] .tombstone)], [.call (.write ⟨0, "a"⟩ [3] .tombstone)], []]
    let calls := iter.along (w.stages script)
    ((⟨0, "a"⟩ : Table).iterate.perform w).1 = .ok iter ∧
      w.onlyWritesLive script.flatten = true ∧
      calls.map (·.2) = [some (.ok ([1], [10])), some (.ok ([2], [20])), some (.ok ([5], [50])),
        none] ∧
      ([5], [50]) ∈ TableIter.pairs calls ∧ ((TableIter.pairs calls).map (·.1)).count [5] = 1 := by
  intro w iter script calls
  have hiter : ((⟨0, "a"⟩ : Table).iterate.perform w).1 = .ok iter := by decide +kernel
  have hlive : w.onlyWritesLive script.flatten = true := by decide +kernel
  have hended : ∃ call ∈ calls, call.2 = none := by decide +kernel
  have hvalue : ∀ call ∈ calls,
      call.1.db.coordinator.get? call.1.disk 0 [5] = some [50] := by decide +kernel
  obtain ⟨-, -, -, -, hconstant⟩ := walk_interleaved w ⟨0, "a"⟩ iter hiter script
  exact ⟨hiter, hlive, by decide +kernel, (hconstant hlive).2 hended [5] [50] hvalue⟩

end LayeredStore

import Mathlib.Algebra.Group.Nat.Defs
import LayeredStore.Proofs.Paths

/-!
# `LayeredStore.Proofs.Guarded.Basic`: steps that can slip

The operations compute with numbers that are no less than zero and take
lists apart at places that they know. Here every such step is made with
a guard in front of it: a difference is not below zero, a sum fits into
64 bits, a place lies within its list, and a range does not end beyond
it. A step that is not allowed ends in a `Slip`.

* `minus`, `plus`, `item`, `firstItems` and `withoutFirst` are the steps
  with their guards.
* The guarded form of a function of the chains is named for the function
  and makes the same steps, each with its guard.
* `Coordinator.Tallies` is what the guards need: no more levels are
  pending than there are, every table has a layer for each, as many of
  them pending, and there are fewer levels than sequence numbers.
* Under it no guard fails, so every guarded form is the function itself:
  `guardedDepth_eq`, `guardedSolidify_eq` and so on.
-/

set_option autoImplicit false

namespace LayeredStore

/-- What can be wrong with a step. -/
inductive Slip where
  /-- A difference would be below zero. -/
  | underflow
  /-- A sum would not fit into 64 bits. -/
  | overflow
  /-- A place or the end of a range would lie beyond the list. -/
  | outOfRange
  deriving DecidableEq, Repr

namespace Guarded

/-! ### The steps -/

/-- The first number less the second. -/
def minus (a b : Nat) : Except Slip Nat := if b ≤ a then return a - b else throw .underflow

/-- The sum of two numbers. -/
def plus (a b : Nat) : Except Slip Nat := if a + b < 2 ^ 64 then return a + b else throw .overflow

variable {α β : Type}

/-- The item at a place of the list. -/
def item (items : List α) (place : Nat) : Except Slip α :=
  match items[place]? with
  | some a => return a
  | none => throw .outOfRange

/-- The first `count` items of the list. -/
def firstItems (items : List α) (count : Nat) : Except Slip (List α) :=
  if count ≤ items.length then return items.take count else throw .outOfRange

/-- The list without its first `count` items. -/
def withoutFirst (items : List α) (count : Nat) : Except Slip (List α) :=
  if count ≤ items.length then return items.drop count else throw .outOfRange

theorem minus_eq {a b : Nat} (h : b ≤ a) : minus a b = .ok (a - b) := if_pos h

theorem plus_eq {a b : Nat} (h : a + b < 2 ^ 64) : plus a b = .ok (a + b) := if_pos h

theorem item_eq {items : List α} {place : Nat} {a : α} (h : items[place]? = some a) :
    item items place = .ok a := by
  rw [item, h]
  rfl

theorem firstItems_eq {items : List α} {count : Nat} (h : count ≤ items.length) :
    firstItems items count = .ok (items.take count) := if_pos h

theorem withoutFirst_eq {items : List α} {count : Nat} (h : count ≤ items.length) :
    withoutFirst items count = .ok (items.drop count) := if_pos h

/-- Where no item slips, going through a list is mapping it. -/
theorem mapM_eq {f : α → Except Slip β} {g : α → β} {items : List α}
    (h : ∀ a ∈ items, f a = .ok (g a)) : items.mapM f = .ok (items.map g) := by
  induction items with
  | nil => rfl
  | cons a items ih =>
    rw [List.mapM_cons, h a List.mem_cons_self, ih fun b hb => h b (List.mem_cons_of_mem _ hb)]
    rfl

/-- Where no item slips, the search finds what it finds without
guards. -/
theorem findSomeM?_eq {f : α → Except Slip (Option β)} {g : α → Option β} {items : List α}
    (h : ∀ a ∈ items, f a = .ok (g a)) : items.findSomeM? f = .ok (items.findSome? g) := by
  induction items with
  | nil => rfl
  | cons a items ih =>
    have ih := ih fun b hb => h b (List.mem_cons_of_mem _ hb)
    rw [List.findSomeM?, h a List.mem_cons_self, List.findSome?_cons]
    cases g a with
    | none => exact ih
    | some b => rfl

end Guarded

open Guarded

/-! ### One table -/

namespace Chain

def guardedDepth (chain : Chain) : Except Slip Nat := minus chain.layers.length chain.pending

def guardedHead? (chain : Chain) : Except Slip (Option Layer) := do
  if (← chain.guardedDepth) = 0 then return none else return chain.layers.getLast?

def guardedModifyHead (chain : Chain) (f : Layer → Layer) : Except Slip Chain := do
  if (← chain.guardedDepth) = 0 then return chain
  else return chain.modifyLayer (chain.layers.length - 1) f

def guardedVisible (chain : Chain) : View → Except Slip (List Layer)
  | .head hidden => do
    let depth ← chain.guardedDepth
    firstItems chain.layers (← minus chain.layers.length (min hidden depth))
  | .solidity => firstItems chain.layers chain.pending

def guardedGet? (chain : Chain) (root : Contents) (view : View) (key : Bytes) :
    Except Slip (Option Bytes) := do
  return lookup root (← chain.guardedVisible view) key

def guardedNextVisible? (chain : Chain) (root : Contents) (view : View) (after : Option Bytes) :
    Except Slip (Option (Bytes × Bytes)) := do
  let layers ← chain.guardedVisible view
  return nextLookup root layers (keyCount root layers + 1) after

def guardedDiscardHead (chain : Chain) : Except Slip Chain := do
  if (← chain.guardedDepth) = 0 then return chain
  else return { chain with layers := chain.layers.dropLast }

def guardedSolidify (chain : Chain) (count : Nat) : Except Slip Chain := do
  return { chain with pending := min (← plus chain.pending count) chain.layers.length }

def guardedNetOldest (chain : Chain) (count : Nat) : Except Slip Layer := do
  let count := min count chain.layers.length
  let seq ← if count = 0 then pure 0 else do
    let newest ← item chain.layers (← minus count 1)
    pure newest.seq
  return (← firstItems chain.layers count).foldl Layer.absorb (Layer.new seq)

-- The pending layers are counted down to zero at most, so this difference
-- needs no guard.
def guardedDropOldest (chain : Chain) (count : Nat) : Except Slip Chain := do
  let count := min count chain.layers.length
  return { chain with
    layers := ← withoutFirst chain.layers count
    pending := chain.pending - count }

section
variable {chain : Chain} (h : chain.pending ≤ chain.layers.length)
include h

theorem guardedDepth_eq : chain.guardedDepth = .ok chain.depth := minus_eq h

theorem guardedHead?_eq : chain.guardedHead? = .ok chain.head? := by
  rw [guardedHead?, guardedDepth_eq h, head?]
  show (if chain.depth = 0 then _ else _ : Except Slip (Option Layer)) = _
  split <;> rfl

theorem guardedModifyHead_eq (f : Layer → Layer) :
    chain.guardedModifyHead f = .ok (chain.modifyHead f) := by
  rw [guardedModifyHead, guardedDepth_eq h, modifyHead]
  show (if chain.depth = 0 then _ else _ : Except Slip Chain) = _
  split <;> rfl

theorem guardedVisible_eq (view : View) : chain.guardedVisible view = .ok (chain.visible view) := by
  cases view with
  | solidity => exact firstItems_eq h
  | head hidden =>
    have hle : min hidden chain.depth ≤ chain.layers.length :=
      Nat.le_trans (Nat.min_le_right _ _) (Nat.sub_le _ _)
    rw [guardedVisible, guardedDepth_eq h]
    show (do firstItems chain.layers (← minus chain.layers.length (min hidden chain.depth))) = _
    rw [minus_eq hle]
    exact firstItems_eq (Nat.sub_le _ _)

theorem guardedGet?_eq (root : Contents) (view : View) (key : Bytes) :
    chain.guardedGet? root view key = .ok (chain.get? root view key) := by
  rw [guardedGet?, guardedVisible_eq h]
  rfl

theorem guardedNextVisible?_eq (root : Contents) (view : View) (after : Option Bytes) :
    chain.guardedNextVisible? root view after = .ok (chain.nextVisible? root view after) := by
  rw [guardedNextVisible?, guardedVisible_eq h]
  rfl

theorem guardedDiscardHead_eq : chain.guardedDiscardHead = .ok chain.discardHead := by
  rw [guardedDiscardHead, guardedDepth_eq h, discardHead]
  show (if chain.depth = 0 then _ else _ : Except Slip Chain) = _
  split <;> rfl

end

theorem guardedSolidify_eq {chain : Chain} {count : Nat} (h : chain.pending + count < 2 ^ 64) :
    chain.guardedSolidify count = .ok (chain.solidify count) := by
  rw [guardedSolidify, plus_eq h]
  rfl

/-- The range is cut at the layers that there are, so collapsing them
never slips. -/
theorem guardedNetOldest_eq (chain : Chain) (count : Nat) :
    chain.guardedNetOldest count = .ok (chain.netOldest count) := by
  have htake : chain.layers.take (min count chain.layers.length) = chain.layers.take count := by
    rw [← List.take_take, List.take_length]
  rw [guardedNetOldest, firstItems_eq (Nat.min_le_right _ _), htake, netOldest]
  -- The last layer of the range is looked up only if the range is not empty.
  rcases Nat.eq_zero_or_pos (min count chain.layers.length) with hzero | hpos
  · rw [if_pos hzero, ← htake, hzero]
    rfl
  · have hlt : min count chain.layers.length - 1 < chain.layers.length := by omega
    have hget := List.getElem?_eq_getElem hlt
    have hnewest : (chain.layers.take count).getLast? =
        some chain.layers[min count chain.layers.length - 1] := by
      rw [← htake, List.getLast?_take, if_neg (Nat.ne_of_gt hpos), hget]
      rfl
    rw [if_neg (Nat.ne_of_gt hpos), minus_eq hpos, hnewest]
    show (do
      let newest ← item chain.layers (min count chain.layers.length - 1)
      return (chain.layers.take count).foldl Layer.absorb (Layer.new newest.seq)) = _
    rw [item_eq hget]
    rfl

theorem guardedDropOldest_eq (chain : Chain) (count : Nat) :
    chain.guardedDropOldest count = .ok (chain.dropOldest count) := by
  have hdrop : chain.layers.drop (min count chain.layers.length) = chain.layers.drop count := by
    rcases Nat.le_total count chain.layers.length with hle | hle
    · rw [Nat.min_eq_left hle]
    · rw [Nat.min_eq_right hle, List.drop_length, List.drop_of_length_le hle]
  rw [guardedDropOldest, withoutFirst_eq (Nat.min_le_right _ _), hdrop]
  rfl

end Chain

/-! ### All tables -/

namespace Coordinator

def guardedDepth (c : Coordinator) : Except Slip Nat := minus c.levels.length c.pending

def guardedMode (c : Coordinator) : Except Slip DatabaseMode := do
  if !c.enabled then return .disabled
  else if (← c.guardedDepth) = 0 && c.openUnit.isNone then return .enabledEmpty
  else return .enabledChained

def guardedGet? (c : Coordinator) (disk : Disk) (table : Nat) (key : Bytes) :
    Except Slip (Option Bytes) := do
  match c.tables[table]? with
  | none => return none
  | some chain => chain.guardedGet? (disk.contents chain.root) c.view key

def guardedNextVisible? (c : Coordinator) (disk : Disk) (table : Nat) (after : Option Bytes) :
    Except Slip (Option (Bytes × Bytes)) := do
  match c.tables[table]? with
  | none => return none
  | some chain => chain.guardedNextVisible? (disk.contents chain.root) c.view after

def guardedClampCursor (c : Coordinator) : Except Slip Coordinator := do
  match c.view with
  | .head hidden => return { c with view := .head (min hidden (← c.guardedDepth)) }
  | .solidity => return c

def guardedMapTables (c : Coordinator) (f : Chain → Except Slip Chain) :
    Except Slip Coordinator := do
  return { c with tables := ← c.tables.mapM f }

def guardedDiscardHead (c : Coordinator) : Except Slip Coordinator := do
  return { ← c.guardedMapTables (·.guardedDiscardHead) with levels := c.levels.dropLast }

def guardedSolidify (c : Coordinator) (count : Nat) : Except Slip Coordinator := do
  let solid ← c.guardedMapTables (·.guardedSolidify count)
  return { solid with pending := min (← plus c.pending count) c.levels.length }

def guardedNetRecord (c : Coordinator) (count : Nat) : Except Slip JournalRecord := do
  return ⟨← c.tables.mapM fun chain => do
    return (chain.name, (← chain.guardedNetOldest count).diff.toList)⟩

def guardedDropOldest (c : Coordinator) (count : Nat) : Except Slip Coordinator := do
  return { ← c.guardedMapTables (·.guardedDropOldest count) with
    levels := ← withoutFirst c.levels count
    pending := c.pending - count }

def guardedDepthMismatch (c : Coordinator) (chain : Chain) : Except Slip StateError := do
  return .depthMismatch chain.name (← c.guardedDepth) (← chain.guardedDepth)

def guardedPushTables (c : Coordinator) :
    (pushed rest : List Chain) → Except Slip (Except (Chain × List Chain) (List Chain))
  | pushed, [] => return .ok pushed
  | pushed, chain :: rest => do
    if chain.layers.length ≠ c.levels.length then
      return .error (chain, (← pushed.mapM (·.guardedDiscardHead)) ++ chain :: rest)
    else c.guardedPushTables (pushed ++ [chain.push c.nextSeq]) rest

def guardedAddLevel (c : Coordinator) : Except Slip Coordinator := do
  return { c with levels := c.levels ++ [c.nextSeq], nextSeq := ← plus c.nextSeq 1 }

def guardedSealHeads (c : Coordinator) : Except Slip Coordinator :=
  c.guardedMapTables (·.guardedModifyHead (·.commit))

def guardedHeadsDigest (c : Coordinator) : Except Slip Digest := do
  let heads ← c.tables.mapM (·.guardedHead?)
  return Sha256.digest ((heads.filterMap id).flatMap (·.digest))

def guardedCheckPop? (operation : String) (verify : Bool) (table : String) (levels : List Nat) :
    (level : Nat) → List Layer → Except Slip (Option StateError)
  | _, [] => return none
  | level, layer :: layers => do
    let seq ← item levels level
    if layer.seq ≠ seq then
      return some
        (.malformedChain table level "layer sequence number differs from the other tables")
    else if !layer.committed then return some (.uncommittedLayer operation seq)
    else if verify && !layer.sealMatches then return some (.sealMismatch table seq)
    else guardedCheckPop? operation verify table levels (level + 1) layers

def guardedNotPoppable? (c : Coordinator) (operation : String) (count : Nat) (verify : Bool) :
    Except Slip (Option StateError) := do
  let lowest ← minus c.levels.length count
  c.tables.findSomeM? fun chain => do
    if chain.layers.length ≠ c.levels.length then return some (← c.guardedDepthMismatch chain)
    else guardedCheckPop? operation verify chain.name c.levels lowest (chain.layers.drop lowest)

/-! ### The numbers tally -/

/-- No more levels are pending than there are, and fewer than sequence
numbers; every table has a layer for each, as many of them pending; and a
layer may be live. -/
structure Tallies (c : Coordinator) : Prop where
  pending_le : c.pending ≤ c.levels.length
  inStep : ∀ chain ∈ c.tables, chain.layers.length = c.levels.length ∧ chain.pending = c.pending
  levels_lt : c.levels.length < c.nextSeq
  maxSize_pos : 0 < c.maxSize

theorem guardedMapTables_eq {c : Coordinator} {f : Chain → Except Slip Chain} {g : Chain → Chain}
    (h : ∀ chain ∈ c.tables, f chain = .ok (g chain)) :
    c.guardedMapTables f = .ok (c.mapTables g) := by
  rw [guardedMapTables, mapM_eq h]
  rfl

/-- Collapsing and taking away need nothing of the tables. -/
theorem guardedNetRecord_eq (c : Coordinator) (count : Nat) :
    c.guardedNetRecord count = .ok (c.netRecord count) := by
  have hchain : ∀ chain ∈ c.tables, (do
      return (chain.name, (← chain.guardedNetOldest count).diff.toList) : Except Slip _) =
        .ok (chain.name, (chain.netOldest count).diff.toList) := by
    intro chain _
    rw [chain.guardedNetOldest_eq]
    rfl
  rw [guardedNetRecord, mapM_eq hchain]
  rfl

theorem guardedDropOldest_eq {c : Coordinator} {count : Nat} (h : count ≤ c.levels.length) :
    c.guardedDropOldest count = .ok (c.dropOldest count) := by
  rw [guardedDropOldest, guardedMapTables_eq fun chain _ => chain.guardedDropOldest_eq count,
    withoutFirst_eq h]
  rfl

theorem guardedAddLevel_eq {c : Coordinator} (h : c.nextSeq + 1 < 2 ^ 64) :
    c.guardedAddLevel = .ok c.addLevel := by
  rw [guardedAddLevel, plus_eq h]
  rfl

namespace Tallies

variable {c : Coordinator} (h : c.Tallies)
include h

theorem chain_pending_le {chain : Chain} (hmem : chain ∈ c.tables) :
    chain.pending ≤ chain.layers.length := by
  obtain ⟨hlength, hpending⟩ := h.inStep chain hmem
  rw [hlength, hpending]
  exact h.pending_le

theorem guardedDepth_eq : c.guardedDepth = .ok c.depth := minus_eq h.pending_le

theorem guardedMode_eq : c.guardedMode = .ok c.mode := by
  rw [guardedMode, h.guardedDepth_eq, mode]
  split
  · rfl
  · show (if _ then _ else _ : Except Slip DatabaseMode) = _
    split <;> rfl

theorem guardedGet?_eq (disk : Disk) (table : Nat) (key : Bytes) :
    c.guardedGet? disk table key = .ok (c.get? disk table key) := by
  unfold guardedGet? get?
  cases htable : c.tables[table]? with
  | none => rfl
  | some chain =>
    exact Chain.guardedGet?_eq (h.chain_pending_le (List.mem_of_getElem? htable)) _ _ _

theorem guardedNextVisible?_eq (disk : Disk) (table : Nat) (after : Option Bytes) :
    c.guardedNextVisible? disk table after = .ok (c.nextVisible? disk table after) := by
  unfold guardedNextVisible? nextVisible?
  cases htable : c.tables[table]? with
  | none => rfl
  | some chain =>
    exact Chain.guardedNextVisible?_eq (h.chain_pending_le (List.mem_of_getElem? htable)) _ _ _

theorem guardedClampCursor_eq : c.guardedClampCursor = .ok c.clampCursor := by
  unfold guardedClampCursor clampCursor
  cases c.view with
  | solidity => rfl
  | head hidden =>
    rw [h.guardedDepth_eq]
    rfl

theorem guardedDiscardHead_eq : c.guardedDiscardHead = .ok c.discardHead := by
  rw [guardedDiscardHead, guardedMapTables_eq fun chain hmem =>
    Chain.guardedDiscardHead_eq (h.chain_pending_le hmem)]
  rfl

theorem guardedSolidify_eq {count : Nat} (hcount : c.pending + count < 2 ^ 64) :
    c.guardedSolidify count = .ok (c.solidify count) := by
  have hchain : ∀ chain ∈ c.tables, chain.guardedSolidify count = .ok (chain.solidify count) :=
    fun chain hmem => Chain.guardedSolidify_eq ((h.inStep chain hmem).2 ▸ hcount)
  rw [guardedSolidify, guardedMapTables_eq hchain, plus_eq hcount]
  rfl

theorem guardedSealHeads_eq : c.guardedSealHeads = .ok c.sealHeads :=
  guardedMapTables_eq fun _ hmem => Chain.guardedModifyHead_eq (h.chain_pending_le hmem) _

theorem guardedHeadsDigest_eq : c.guardedHeadsDigest = .ok c.headsDigest := by
  rw [guardedHeadsDigest, mapM_eq fun chain hmem =>
    Chain.guardedHead?_eq (h.chain_pending_le hmem), headsDigest]
  show Except.ok (Sha256.digest (((c.tables.map (·.head?)).filterMap id).flatMap (·.digest))) = _
  rw [List.filterMap_map]
  rfl

/-- Every table is in step, so none ends the push and has the others put
back. -/
theorem guardedPushTables_eq (pushed : List Chain) {rest : List Chain} (hrest : rest ⊆ c.tables) :
    c.guardedPushTables pushed rest = .ok (c.pushTables pushed rest) := by
  induction rest generalizing pushed with
  | nil => rfl
  | cons chain rest ih =>
    have hstep := (h.inStep chain (hrest List.mem_cons_self)).1
    rw [guardedPushTables, pushTables, if_neg (not_not_intro hstep), if_neg (not_not_intro hstep)]
    exact ih _ fun other hmem => hrest (List.mem_cons_of_mem _ hmem)

end Tallies

/-- The layers to be popped have their levels beside them. -/
theorem guardedCheckPop?_eq (operation : String) (verify : Bool) (table : String)
    (levels : List Nat) {level : Nat} {layers : List Layer}
    (h : level + layers.length ≤ levels.length) :
    guardedCheckPop? operation verify table levels level layers =
      .ok (checkPop? operation verify table level layers (levels.drop level)) := by
  induction layers generalizing level with
  | nil =>
    cases levels.drop level <;> rfl
  | cons layer layers ih =>
    rw [List.length_cons] at h
    have hlt : level < levels.length := by omega
    have hrest := @ih (level + 1) (by omega)
    rw [guardedCheckPop?, item_eq (List.getElem?_eq_getElem hlt), List.drop_eq_getElem_cons hlt,
      checkPop?, hrest]
    show (if _ then _ else _ : Except Slip (Option StateError)) = _
    split
    · rfl
    split
    · rfl
    split <;> rfl

theorem Tallies.guardedNotPoppable?_eq {c : Coordinator} (h : c.Tallies) (operation : String)
    {count : Nat} (hcount : count ≤ c.depth) (verify : Bool) :
    c.guardedNotPoppable? operation count verify = .ok (c.notPoppable? operation count verify) := by
  have hle : count ≤ c.levels.length := Nat.le_trans hcount (Nat.sub_le _ _)
  rw [guardedNotPoppable?, minus_eq hle]
  refine findSomeM?_eq fun chain hmem => ?_
  have hlength := (h.inStep chain hmem).1
  rw [if_neg (not_not_intro hlength), if_neg (not_not_intro hlength)]
  refine guardedCheckPop?_eq operation verify chain.name c.levels ?_
  rw [List.length_drop]
  omega

end Coordinator

/-! ### Changes that keep the numbers tallying -/

theorem Chain.numbers_modifyHead (chain : Chain) (f : Layer → Layer) :
    (chain.modifyHead f).layers.length = chain.layers.length ∧
      (chain.modifyHead f).pending = chain.pending := by
  unfold modifyHead
  split
  · exact ⟨rfl, rfl⟩
  · exact ⟨List.length_modify .., rfl⟩

namespace Coordinator

/-- The coordinators agree in what the guards look at. -/
structure SameNumbers (c c' : Coordinator) : Prop where
  tables : c'.tables = c.tables
  levels : c'.levels = c.levels
  pending : c'.pending = c.pending
  nextSeq : c'.nextSeq = c.nextSeq
  maxSize : c'.maxSize = c.maxSize

theorem SameNumbers.refl (c : Coordinator) : c.SameNumbers c := ⟨rfl, rfl, rfl, rfl, rfl⟩

theorem SameNumbers.symm {c c' : Coordinator} (h : c.SameNumbers c') : c'.SameNumbers c :=
  ⟨h.tables.symm, h.levels.symm, h.pending.symm, h.nextSeq.symm, h.maxSize.symm⟩

theorem SameNumbers.trans {c c' c'' : Coordinator} (h : c.SameNumbers c')
    (h' : c'.SameNumbers c'') : c.SameNumbers c'' where
  tables := h'.tables.trans h.tables
  levels := h'.levels.trans h.levels
  pending := h'.pending.trans h.pending
  nextSeq := h'.nextSeq.trans h.nextSeq
  maxSize := h'.maxSize.trans h.maxSize

theorem sameNumbers_clampCursor (c : Coordinator) : c.SameNumbers c.clampCursor := by
  unfold clampCursor
  split <;> exact ⟨rfl, rfl, rfl, rfl, rfl⟩

theorem sameNumbers_announce (c : Coordinator) (event : Event) :
    c.SameNumbers (c.announce event) := by
  unfold announce
  split <;> exact ⟨rfl, rfl, rfl, rfl, rfl⟩

theorem sameNumbers_resolveOpen (c : Coordinator) (unit : UnitOfWork) (status : SessionStatus) :
    c.SameNumbers (c.resolveOpen unit status) := by
  obtain ⟨statuses, h⟩ := c.resolveOpen_eq unit status
  rw [h]
  exact ⟨rfl, rfl, rfl, rfl, rfl⟩

namespace Tallies

variable {c c' : Coordinator} (h : c.Tallies)
include h

theorem congr (hsame : c.SameNumbers c') : c'.Tallies where
  pending_le := by rw [hsame.pending, hsame.levels]; exact h.pending_le
  inStep := by rw [hsame.tables, hsame.levels, hsame.pending]; exact h.inStep
  levels_lt := by rw [hsame.levels, hsame.nextSeq]; exact h.levels_lt
  maxSize_pos := by rw [hsame.maxSize]; exact h.maxSize_pos

/-- The same change to every table, if it is that to the levels. -/
theorem of_map {f : Chain → Chain} (htables : c'.tables = c.tables.map f)
    (hmaxSize : c'.maxSize = c.maxSize) (hpending : c'.pending ≤ c'.levels.length)
    (hlevels : c'.levels.length < c'.nextSeq)
    (hchain : ∀ chain, chain.layers.length = c.levels.length → chain.pending = c.pending →
      (f chain).layers.length = c'.levels.length ∧ (f chain).pending = c'.pending) :
    c'.Tallies where
  pending_le := hpending
  inStep chain hmem := by
    rw [htables] at hmem
    obtain ⟨old, hold, rfl⟩ := List.mem_map.mp hmem
    obtain ⟨hlength, hpending⟩ := h.inStep old hold
    exact hchain old hlength hpending
  levels_lt := hlevels
  maxSize_pos := by rw [hmaxSize]; exact h.maxSize_pos

theorem solidify (count : Nat) : (c.solidify count).Tallies :=
  h.of_map rfl rfl (Nat.min_le_right _ _) h.levels_lt fun chain hlength hpending =>
    ⟨hlength, by rw [Chain.solidify, hlength, hpending]; rfl⟩

theorem discardHead (hdepth : 0 < c.depth) : c.discardHead.Tallies := by
  have hlive : c.pending < c.levels.length := Nat.lt_of_sub_pos hdepth
  have hlength : c.discardHead.levels.length = c.levels.length - 1 := List.length_dropLast
  have := h.levels_lt
  refine h.of_map rfl rfl ?_ ?_ fun chain hlayers hpending => ?_
  · show c.pending ≤ c.discardHead.levels.length
    omega
  · show c.discardHead.levels.length < c.nextSeq
    omega
  · have hchain : 0 < chain.depth := by
      rw [Chain.depth, hlayers, hpending]
      exact hdepth
    rw [Chain.discardHead, if_neg (Nat.ne_of_gt hchain)]
    refine ⟨?_, hpending⟩
    rw [List.length_dropLast, hlayers, hlength]

theorem dropOldest {count : Nat} (hcount : count ≤ c.levels.length) :
    (c.dropOldest count).Tallies := by
  have hlength : (c.dropOldest count).levels.length = c.levels.length - count := List.length_drop
  have hpending := h.pending_le
  have hlevels := h.levels_lt
  refine h.of_map rfl rfl ?_ ?_ fun chain hlayers hchain => ?_
  · show c.pending - count ≤ (c.dropOldest count).levels.length
    omega
  · show (c.dropOldest count).levels.length < c.nextSeq
    omega
  · rw [Chain.dropOldest, hlayers, Nat.min_eq_left hcount, hchain]
    refine ⟨?_, rfl⟩
    rw [List.length_drop, hlayers, hlength]

theorem push : c.push.Tallies := by
  have hlength : c.push.levels.length = c.levels.length + 1 := List.length_append
  have hpending := h.pending_le
  have hlevels := h.levels_lt
  refine h.of_map rfl rfl ?_ ?_ fun chain hlayers hchain => ⟨?_, hchain⟩
  · show c.pending ≤ c.push.levels.length
    omega
  · show c.push.levels.length < c.nextSeq + 1
    omega
  · rw [Chain.layers_push, List.length_append, hlayers, hlength]
    rfl

theorem sealHeads : c.sealHeads.Tallies :=
  h.of_map rfl rfl h.pending_le h.levels_lt fun chain hlength hpending =>
    ⟨(chain.numbers_modifyHead _).1.trans hlength, (chain.numbers_modifyHead _).2.trans hpending⟩

theorem put (table : Nat) (key : Bytes) (entry : Entry) :
    (c.modifyTable table (·.modifyHead (·.put key entry))).Tallies where
  pending_le := h.pending_le
  inStep chain hmem := by
    obtain ⟨i, hi⟩ := List.mem_iff_getElem?.mp hmem
    simp only [modifyTable, List.getElem?_modify] at hi
    obtain ⟨old, hold, rfl⟩ := Option.map_eq_some_iff.mp hi
    have hstep := h.inStep old (List.mem_of_getElem? hold)
    split
    · obtain ⟨hlength, hpending⟩ := old.numbers_modifyHead (·.put key entry)
      exact ⟨hlength.trans hstep.1, hpending.trans hstep.2⟩
    · exact hstep
  levels_lt := h.levels_lt
  maxSize_pos := h.maxSize_pos

/-- A table is registered with a layer for every level. -/
theorem register (name root : String) (openSeq? : Option Nat) :
    ({ c with tables := c.tables ++
      [Chain.padded name root c.levels c.pending openSeq?] } : Coordinator).Tallies where
  pending_le := h.pending_le
  inStep chain hmem := by
    rcases List.mem_append.mp hmem with hold | hnew
    · exact h.inStep chain hold
    · rw [List.mem_singleton.mp hnew]
      exact ⟨List.length_map .., rfl⟩
  levels_lt := h.levels_lt
  maxSize_pos := h.maxSize_pos

end Tallies

end Coordinator

/-! ### The check of the chains -/

namespace Chain

/-- Of `total` layers, these from `level` on are still to be looked at. -/
def guardedCheckLayers? (table : String) (total : Nat) :
    (level : Nat) → List Layer → List Nat → Except Slip (Option StateError)
  | level, layer :: layers, seq :: levels => do
    if layer.seq ≠ seq then
      return some (.malformedChain table level "layer sequence number differs from its level")
    else if (← plus level 1) < total && !layer.committed then
      return some (.malformedChain table level "uncommitted layer below the head")
    else if !layer.sealMatches then return some (.sealMismatch table seq)
    else guardedCheckLayers? table total (level + 1) layers levels
  | _, _, _ => return none

def guardedCheck? (chain : Chain) (levels : List Nat) (pending depth : Nat) :
    Except Slip (Option StateError) := do
  if chain.layers.length ≠ levels.length ∨ chain.pending ≠ pending then
    return some (.depthMismatch chain.name depth (← chain.guardedDepth))
  else guardedCheckLayers? chain.name chain.layers.length 0 chain.layers levels

/-- A layer lies below the newest if and only if some are still to be
looked at after it. -/
theorem guardedCheckLayers?_eq (table : String) {total level : Nat} {layers : List Layer}
    (levels : List Nat) (htotal : level + layers.length = total) (h : total < 2 ^ 64) :
    guardedCheckLayers? table total level layers levels =
      .ok (checkLayers? table level layers levels) := by
  induction layers generalizing level levels with
  | nil => rfl
  | cons layer layers ih =>
    cases levels with
    | nil => rfl
    | cons seq levels =>
      rw [List.length_cons] at htotal
      -- `total` is `level` and what is left, so a layer is the newest exactly
      -- if none is left behind it.
      have hbelow : decide (level + 1 < total) = !layers.isEmpty := by
        cases layers with
        | nil => exact decide_eq_false (by rw [List.length_nil] at htotal; omega)
        | cons next layers =>
          rw [List.length_cons] at htotal
          exact decide_eq_true (by omega)
      rw [guardedCheckLayers?, checkLayers?, plus_eq (by omega)]
      split
      · rfl
      show (if (decide (level + 1 < total) && !layer.committed) = true then _ else _ :
        Except Slip (Option StateError)) = _
      rw [hbelow, ih levels (by omega)]
      split
      · rfl
      split <;> rfl

end Chain

def guardedCheckChains? (tables : List Chain) (levels : List Nat) (pending : Nat) :
    Except Slip (Option StateError) := do
  if !increasing levels then
    return some (.malformedChain "" 0 "coordinator sequence numbers are not increasing")
  else
    let depth ← minus levels.length (min pending levels.length)
    tables.findSomeM? (·.guardedCheck? levels pending depth)

theorem Coordinator.Tallies.guardedCheckChains?_eq {c : Coordinator} (h : c.Tallies)
    (hnext : c.nextSeq < 2 ^ 64) :
    guardedCheckChains? c.tables c.levels c.pending =
      .ok (checkChains? c.tables c.levels c.pending) := by
  unfold guardedCheckChains? checkChains?
  split
  · rfl
  rw [minus_eq (Nat.min_le_right _ _)]
  refine findSomeM?_eq fun chain hmem => ?_
  obtain ⟨hlength, hpending⟩ := h.inStep chain hmem
  have hstep : ¬(chain.layers.length ≠ c.levels.length ∨ chain.pending ≠ c.pending) := by
    simp [hlength, hpending]
  rw [Chain.guardedCheck?, Chain.check?, if_neg hstep, if_neg hstep]
  have := h.levels_lt
  exact Chain.guardedCheckLayers?_eq _ _ (Nat.zero_add _) (by omega)

end LayeredStore

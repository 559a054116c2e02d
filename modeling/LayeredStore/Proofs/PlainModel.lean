import LayeredStore.Proofs.Overlay
import LayeredStore.Command

/-!
# `LayeredStore.Proofs.PlainModel`: the database as plain maps

What the database does is easy to say without layers that share sequence
numbers, seals, a journal or stores that fail. A table is a root map, a
list of pending diffs and a list of live diffs, and every command is a
function on them.

* `PlainTable` and `PlainDatabase` are the state. All tables have the
  same number of diffs, which the database counts, so that it is known
  also without tables.
* `PlainDatabase.flatten` applies the oldest diffs to the roots. The
  thresholds are `makeRoom`, which moves the oldest live diff to the
  pending ones when the live ones are at their limit, and
  `limitPending`, which flattens the pending ones when they reach
  theirs.
* `PlainDatabase.run` carries a command out and answers what users are
  told.

The limit of live diffs is kept by every command (`WithinLimit.run`), so
that making room moves no more than one of them.

`Agreement.lean` shows that the database is told apart from this model
by nothing that users can see.
-/

set_option autoImplicit false

namespace LayeredStore

/-- A table as a root map and two lists of diffs, oldest first. -/
structure PlainTable where
  name : String
  root : Contents
  pending : List Diff
  live : List Diff
  deriving DecidableEq

namespace PlainTable

/-- The map that reads find. -/
def visible (table : PlainTable) : View → Contents
  | .head hidden =>
    table.root.overlay (table.pending ++ table.live.take (table.live.length - hidden))
  | .solidity => table.root.overlay table.pending

/-- Appends an empty diff. -/
def push (table : PlainTable) : PlainTable := { table with live := table.live ++ [.empty] }

/-- Drops the newest diff. -/
def discard (table : PlainTable) : PlainTable := { table with live := table.live.dropLast }

/-- Makes the `count` oldest live diffs pending. -/
def toPending (table : PlainTable) (count : Nat) : PlainTable :=
  { table with
    pending := table.pending ++ table.live.take count
    live := table.live.drop count }

/-- Applies the pending diffs and the `count` oldest live ones to the
root. -/
def flatten (table : PlainTable) (count : Nat) : PlainTable :=
  { table with
    root := table.root.overlay (table.pending ++ table.live.take count)
    pending := []
    live := table.live.drop count }

/-- Writes an entry to the newest diff. -/
def put (table : PlainTable) (key : Bytes) (entry : Entry) : PlainTable :=
  { table with live := table.live.modify (table.live.length - 1) (·.insert key entry) }

/-- Writes an entry to the root. -/
def putRoot (table : PlainTable) (key : Bytes) (entry : Entry) : PlainTable :=
  { table with root := table.root.put key entry }

end PlainTable

/-- The state of the database, as plain maps. -/
structure PlainDatabase where
  tables : List PlainTable
  /-- How many diffs of every table are pending. -/
  pending : Nat
  /-- How many diffs of every table are live. -/
  live : Nat
  /-- The number of the next diff. -/
  nextSeq : Nat
  enabled : Bool
  /-- Whether the database is enabled only for the open unit of work. -/
  forced : Bool
  view : View
  maxSize : Nat
  maxFlushCount : Nat
  openUnit : Option UnitOfWork
  statuses : List SessionStatus
  passThroughRevokes : Nat
  shutDown : Bool
  deriving DecidableEq

namespace PlainDatabase

/-- A database without tables. -/
def opened (configuration : Configuration) : PlainDatabase where
  tables := []
  pending := 0
  live := 0
  nextSeq := 1
  enabled := configuration.enabled
  forced := false
  view := .head 0
  maxSize := max configuration.maxSize 1
  maxFlushCount := max configuration.maxFlushCount 1
  openUnit := none
  statuses := []
  passThroughRevokes := 0
  shutDown := false

/-! ### Diffs -/

/-- The cursor cannot leave out more diffs than are live. -/
def clamp (p : PlainDatabase) : PlainDatabase :=
  match p.view with
  | .head hidden => { p with view := .head (min hidden p.live) }
  | .solidity => p

@[simp] theorem live_clamp (p : PlainDatabase) : p.clamp.live = p.live := by
  unfold clamp
  split <;> rfl

/-- Appends an empty diff to every table. -/
def push (p : PlainDatabase) : PlainDatabase :=
  { p with tables := p.tables.map (·.push), live := p.live + 1, nextSeq := p.nextSeq + 1 }

/-- Drops the newest diff of every table. -/
def discard (p : PlainDatabase) : PlainDatabase :=
  clamp { p with tables := p.tables.map (·.discard), live := p.live - 1 }

/-- Drops the newest diff of every table `count` times. -/
def discardMany : (count : Nat) → PlainDatabase → PlainDatabase
  | 0, p => p
  | count + 1, p => discardMany count p.discard

/-- Makes the `count` oldest live diffs of every table pending. -/
def toPending (p : PlainDatabase) (count : Nat) : PlainDatabase :=
  clamp { p with
    tables := p.tables.map (·.toPending count)
    pending := p.pending + min count p.live
    live := p.live - count }

/-- Applies the pending diffs and the `count` oldest live ones of every
table to its root. -/
def flatten (p : PlainDatabase) (count : Nat) : PlainDatabase :=
  if p.pending + count = 0 then p
  else clamp { p with
    tables := p.tables.map (·.flatten count)
    pending := 0
    live := p.live - count }

/-- Flattens the pending diffs once they reach their limit. -/
def limitPending (p : PlainDatabase) : PlainDatabase :=
  if p.maxFlushCount ≤ p.pending then p.flatten 0 else p

/-- Makes room for one more diff: if the live ones are at their limit,
the oldest of them becomes pending. -/
def makeRoom (p : PlainDatabase) : PlainDatabase :=
  if p.maxSize ≤ p.live then (p.toPending 1).limitPending else p

/-- The map that a table reads as. One that is not registered holds
nothing. -/
def visible (p : PlainDatabase) (table : Nat) : Contents :=
  match p.tables[table]? with
  | some table => table.visible p.view
  | none => .empty

/-! ### Sessions -/

/-- How a session stands. -/
def status (p : PlainDatabase) (session : Nat) : SessionStatus := p.statuses.getD session .abandoned

/-- Resolves a session. -/
def setStatus (p : PlainDatabase) (session : Nat) (status : SessionStatus) : PlainDatabase :=
  { p with statuses := p.statuses.set session status }

/-- How many of these sessions are not resolved yet. -/
def openCount (p : PlainDatabase) (sessions : List Nat) : Nat :=
  (sessions.filter fun session => p.status session = .opened).length

/-- Resolves those of these sessions that are open. -/
def resolveOpen (sessions : List Nat) (status : SessionStatus) (statuses : List SessionStatus) :
    List SessionStatus :=
  sessions.foldl (fun statuses session =>
    if statuses.getD session .abandoned = .opened then statuses.set session status
    else statuses) statuses

/-- Opens a unit of work of one new session, with a diff of its own or
without. -/
def openNewUnit (p : PlainDatabase) (seq : Option Nat) : PlainDatabase :=
  { p with
    openUnit := some ⟨seq, [p.statuses.length], false⟩
    statuses := p.statuses ++ [.opened] }

/-- Adds a new session to a unit of work. -/
def joinUnit (p : PlainDatabase) (unit : UnitOfWork) : PlainDatabase :=
  { p with
    openUnit := some { unit with sessions := unit.sessions ++ [p.statuses.length] }
    statuses := p.statuses ++ [.opened] }

/-- Enables the database for the unit of work that is opened next. -/
def force (p : PlainDatabase) : PlainDatabase :=
  if p.enabled then p else { p with enabled := true, forced := true }

/-- Takes back what forcing a unit of work changed. -/
def leaveForced (p : PlainDatabase) : PlainDatabase :=
  if p.forced then { p with enabled := false, forced := false } else p

/-- Counts a revoke that found nothing to roll back. -/
def countRevoke (p : PlainDatabase) : PlainDatabase :=
  { p with passThroughRevokes := p.passThroughRevokes + 1 }

/-- Closes a unit of work. Those of its sessions that are open are
revoked. -/
def closeUnit (p : PlainDatabase) (unit : UnitOfWork) : PlainDatabase :=
  { p with
    openUnit := none
    statuses := resolveOpen unit.sessions .revoked p.statuses }

/-- Discards the open unit of work. -/
def revokeUnit (p : PlainDatabase) : PlainDatabase :=
  match p.openUnit with
  | none => p
  | some unit =>
    match unit.seq with
    | none => (p.closeUnit unit).countRevoke.leaveForced
    | some _ => (p.closeUnit unit).discard.leaveForced

/-- Commits the open unit of work. The diffs of a forced one are
flattened, with all others. -/
def finishUnit (p : PlainDatabase) : PlainDatabase :=
  let closed := { p with openUnit := none }
  if p.forced then (closed.flatten p.live).leaveForced else closed

/-- Resolves a session as failed. Its unit is discarded once none of its
sessions is open. -/
def abandon (p : PlainDatabase) (session : Nat) (status : SessionStatus) : PlainDatabase :=
  if p.status session = .opened then
    let resolved := p.setStatus session status
    match p.openUnit with
    | none => resolved
    | some unit =>
      if unit.sessions.contains session then
        let poisoned := { resolved with openUnit := some { unit with poisoned := true } }
        if 0 < poisoned.openCount unit.sessions then poisoned else poisoned.revokeUnit
      else resolved
  else p

/-- Whether the open unit of work is this session's. -/
def owns (p : PlainDatabase) (session : Nat) : Bool :=
  match p.openUnit with
  | some unit => unit.sessions.contains session
  | none => false

/-! ### Commands -/

/-- A refusal for the state that the database is in. -/
def refuse {α : Type} (p : PlainDatabase) (error : StateError) : Except Error α × PlainDatabase :=
  (.error (.illegalState error), p)

/-- A refusal of an argument. -/
def reject {α : Type} (p : PlainDatabase) (error : ArgumentError) :
    Except Error α × PlainDatabase :=
  (.error (.invalidArgument error), p)

/-- A refusal for what was done with a session. -/
def misuse {α : Type} (p : PlainDatabase) (error : SessionError) : Except Error α × PlainDatabase :=
  (.error (.sessionMisuse error), p)

/-- Opens a session. -/
def openSession (p : PlainDatabase) (force : Bool) : Except Error Session × PlainDatabase :=
  if p.shutDown then p.refuse .shutDown
  else match p.openUnit with
    | some unit => (.ok ⟨p.statuses.length, unit.seq.isNone, true⟩, p.joinUnit unit)
    | none =>
      if !p.enabled && !force then (.ok ⟨p.statuses.length, true, false⟩, p.openNewUnit none)
      else (.ok ⟨p.statuses.length, false, false⟩,
        p.force.makeRoom.push.openNewUnit (some p.nextSeq))

/-- Resolves a session as successful. -/
def commitSession (p : PlainDatabase) (session : Nat) : Except Error Unit × PlainDatabase :=
  match p.status session with
  | .committed => p.misuse .alreadyCommitted
  | .revoked | .abandoned => p.misuse .commitAfterRevoke
  | .opened =>
    if p.shutDown then p.refuse .shutDown
    else if !p.owns session then p.misuse .noOpenSession
    else
      let resolved := p.setStatus session .committed
      match p.openUnit with
      | none => (.ok (), resolved)
      | some unit =>
        if 0 < resolved.openCount unit.sessions then (.ok (), resolved)
        else if unit.poisoned then resolved.revokeUnit.misuse .nestedSessionAbandoned
        else (.ok (), resolved.finishUnit)

/-- Commits the newest session that is open. -/
def commit (p : PlainDatabase) : Except Error Unit × PlainDatabase :=
  match p.openUnit.bind fun unit => unit.sessions.reverse.find? (p.status · = .opened) with
  | none => p.misuse .noOpenSession
  | some session => p.commitSession session

/-- Discards the newest diff; if it is that of the open unit of work, the
unit. -/
def revoke (p : PlainDatabase) : Except Error Unit × PlainDatabase :=
  if p.shutDown then p.refuse .shutDown
  else if !p.enabled then
    if p.openUnit.isSome then (.ok (), p.revokeUnit)
    else (.ok (), p.countRevoke)
  else if p.live = 0 then p.refuse (.emptyChain "revoke")
  else if (p.openUnit.bind (·.seq)).isSome then (.ok (), p.revokeUnit)
  else (.ok (), p.discard)

/-- Flattens the pending diffs and the oldest live one. -/
def merge (p : PlainDatabase) : Except Error Unit × PlainDatabase :=
  if p.shutDown then p.refuse .shutDown
  else if p.live = 0 then p.refuse (.emptyChain "merge")
  else match p.openUnit.bind (·.seq) with
    | some seq =>
      if p.live = 1 then p.refuse (.uncommittedLayer "merge" seq) else (.ok (), p.flatten 1)
    | none => (.ok (), p.flatten 1)

/-- Discards the `count` newest diffs. -/
def popMany (p : PlainDatabase) (operation : String) (count : Nat) :
    Except Error Unit × PlainDatabase :=
  if p.shutDown then p.refuse .shutDown
  else if p.openUnit.isSome then p.refuse (.sessionOpen operation)
  else if count = 0 then (.ok (), p)
  else if p.live = 0 then p.refuse (.emptyChain operation)
  else if p.live < count then p.reject (.countExceedsDepth count p.live)
  else (.ok (), discardMany count p)

/-- Sessions opened from here on can be rolled back. -/
def enable (p : PlainDatabase) : Except Error Unit × PlainDatabase :=
  if p.shutDown then p.refuse .shutDown
  else if p.enabled then (.ok (), p)
  else if p.openUnit.isSome then p.refuse (.sessionOpen "enable")
  else (.ok (), { p with enabled := true })

/-- Sessions opened from here on write straight into the roots. -/
def disable (p : PlainDatabase) : Except Error Unit × PlainDatabase :=
  if p.shutDown then p.refuse .shutDown
  else if !p.enabled then (.ok (), p)
  else if p.openUnit.isSome then p.refuse (.sessionOpen "disable")
  else if 0 < p.pending + p.live then p.refuse (.chainNotDrained p.live p.pending)
  else (.ok (), { p with enabled := false })

/-- Serves reads from the cursor. -/
def setCursor (p : PlainDatabase) (cursor : Cursor) (offset : Nat) :
    Except Error Unit × PlainDatabase :=
  if p.shutDown then p.refuse .shutDown
  else match cursor with
    | .solidity =>
      if 0 < offset then p.reject (.offsetWithSolidity offset)
      else (.ok (), { p with view := .solidity })
    | .head =>
      if p.live < offset then p.reject (.offsetExceedsDepth offset p.live)
      else (.ok (), { p with view := .head offset })

/-- Allows this many live diffs. -/
def setMaxSize (p : PlainDatabase) (limit : Nat) : Except Error Unit × PlainDatabase :=
  if p.shutDown then p.refuse .shutDown
  else if limit = 0 then p.reject .zeroMaxSize
  else
    let limited := { p with maxSize := limit }
    (.ok (), if limit < p.live then (limited.toPending (p.live - limit)).limitPending else limited)

/-- Flattens from now on when this many diffs are pending. -/
def setMaxFlushCount (p : PlainDatabase) (limit : Nat) : Except Error Unit × PlainDatabase :=
  if p.shutDown then p.refuse .shutDown
  else if limit = 0 then p.reject .zeroMaxFlushCount
  else (.ok (), limitPending { p with maxFlushCount := limit })

/-- Registers a table over a root that holds this map, with an empty diff
for every one that the other tables have. -/
def addTable (p : PlainDatabase) (name : String) (root : Contents) :
    Except Error Table × PlainDatabase :=
  if p.shutDown then p.refuse .shutDown
  else if (p.tables.map (·.name)).contains name then p.reject (.duplicateTable name)
  else (.ok ⟨p.tables.length, name⟩, { p with
    tables := p.tables ++
      [⟨name, root, List.replicate p.pending .empty, List.replicate p.live .empty⟩] })

/-- Writes an entry to the newest live diff of a table, or, where there
is none, to its root, after the pending diffs were flattened. -/
def write (p : PlainDatabase) (table : Nat) (key : Bytes) (entry : Entry) :
    Except Error Unit × PlainDatabase :=
  if p.shutDown then p.refuse .shutDown
  else if p.tables.length ≤ table then (.ok (), p)
  else if 0 < p.live then (.ok (), { p with tables := p.tables.modify table (·.put key entry) })
  else
    let flat := p.flatten 0
    (.ok (), { flat with tables := flat.tables.modify table (·.putRoot key entry) })

/-- What a check reports. -/
def report (p : PlainDatabase) : CheckReport :=
  ⟨p.live, p.pending, p.tables.length, 0, p.passThroughRevokes⟩

/-- Discards the open unit of work, flattens everything and stops. -/
def shutdown (p : PlainDatabase) : PlainDatabase :=
  if p.shutDown then p
  else
    let revoked := p.revokeUnit
    { revoked.flatten revoked.live with shutDown := true }

/-- Carries a command out. A store that a table is registered over holds
what `stores` says. A session's handle is let go of once it is used. -/
def run (stores : String → Contents) (p : PlainDatabase) :
    Command → Except Error Reply × PlainDatabase
  | .addTable name root => (p.addTable name (stores root)).map (·.map .table) id
  | .openSession force => (p.openSession force).map (·.map .session) id
  | .commitSession session =>
    (p.commitSession session.id).map (·.map fun _ => .done) (·.abandon session.id .abandoned)
  | .revokeSession session =>
    (.ok .done, (p.abandon session.id .revoked).abandon session.id .abandoned)
  | .dropSession session => (.ok .done, p.abandon session.id .abandoned)
  | .commit => p.commit.map (·.map fun _ => .done) id
  | .revoke => p.revoke.map (·.map fun _ => .done) id
  | .merge => p.merge.map (·.map fun _ => .done) id
  | .popMany count verify =>
    (p.popMany (if verify then "pop" else "fast pop") count).map (·.map fun _ => .done) id
  | .enable => p.enable.map (·.map fun _ => .done) id
  | .disable => p.disable.map (·.map fun _ => .done) id
  | .setCursor cursor offset => (p.setCursor cursor offset).map (·.map fun _ => .done) id
  | .setMaxSize limit => (p.setMaxSize limit).map (·.map fun _ => .done) id
  | .setMaxFlushCount limit => (p.setMaxFlushCount limit).map (·.map fun _ => .done) id
  | .check => (.ok (.report p.report), p)
  | .shutdown => (.ok .done, p.shutdown)
  | .write table key entry => (p.write table.index key entry).map (·.map fun _ => .done) id

/-- Carries commands out one after the other. -/
def runAll (stores : String → Contents) (p : PlainDatabase) (commands : List Command) :
    PlainDatabase :=
  commands.foldl (fun p command => (p.run stores command).2) p

/-! ### The limit of live diffs -/

/-- At least one diff may be live, and no more are than may be. -/
structure WithinLimit (p : PlainDatabase) : Prop where
  pos : 0 < p.maxSize
  live_le : p.live ≤ p.maxSize

/-- Diffs may have gone, and the limit is the same. -/
structure Shrinks (p p' : PlainDatabase) : Prop where
  maxSize : p'.maxSize = p.maxSize
  live_le : p'.live ≤ p.live

section
variable {p p' p'' : PlainDatabase}

theorem withinLimit_opened (configuration : Configuration) : (opened configuration).WithinLimit :=
  ⟨Nat.lt_of_lt_of_le Nat.zero_lt_one (Nat.le_max_right _ _), Nat.zero_le _⟩

theorem Shrinks.refl (p : PlainDatabase) : p.Shrinks p := ⟨rfl, Nat.le_refl _⟩

theorem Shrinks.trans (h : p.Shrinks p') (h' : p'.Shrinks p'') : p.Shrinks p'' :=
  ⟨h'.maxSize.trans h.maxSize, Nat.le_trans h'.live_le h.live_le⟩

/-- What changes no limit and makes no diff live can come before. -/
theorem Shrinks.after (h : p'.Shrinks p'') (hmaxSize : p'.maxSize = p.maxSize)
    (hlive : p'.live ≤ p.live) : p.Shrinks p'' :=
  Shrinks.trans ⟨hmaxSize, hlive⟩ h

theorem WithinLimit.shrinks (h : p.WithinLimit) (hshrinks : p.Shrinks p') : p'.WithinLimit := by
  obtain ⟨hpos, hle⟩ := h
  obtain ⟨hmax, hlive⟩ := hshrinks
  exact ⟨by omega, by omega⟩

theorem shrinks_clamp (p : PlainDatabase) : p.Shrinks p.clamp := by
  unfold clamp
  split <;> exact ⟨rfl, Nat.le_refl _⟩

theorem shrinks_discard (p : PlainDatabase) : p.Shrinks p.discard :=
  (shrinks_clamp _).after rfl (Nat.sub_le _ _)

theorem shrinks_discardMany (count : Nat) (p : PlainDatabase) :
    p.Shrinks (discardMany count p) := by
  induction count generalizing p with
  | zero => exact .refl p
  | succ count ih => exact (shrinks_discard p).trans (ih p.discard)

theorem shrinks_toPending (p : PlainDatabase) (count : Nat) : p.Shrinks (p.toPending count) :=
  (shrinks_clamp _).after rfl (Nat.sub_le _ _)

theorem shrinks_flatten (p : PlainDatabase) (count : Nat) : p.Shrinks (p.flatten count) := by
  unfold flatten
  split
  · exact .refl p
  · exact (shrinks_clamp _).after rfl (Nat.sub_le _ _)

theorem shrinks_limitPending (p : PlainDatabase) : p.Shrinks p.limitPending := by
  unfold limitPending
  split
  · exact shrinks_flatten p 0
  · exact .refl p

theorem shrinks_leaveForced (p : PlainDatabase) : p.Shrinks p.leaveForced := by
  unfold leaveForced
  split <;> exact ⟨rfl, Nat.le_refl _⟩

theorem shrinks_revokeUnit (p : PlainDatabase) : p.Shrinks p.revokeUnit := by
  unfold revokeUnit
  split
  · exact .refl p
  · split
    · exact (shrinks_leaveForced _).after rfl (Nat.le_refl _)
    · rename_i unit _ _ _ _
      have hdiscard := (shrinks_discard (p.closeUnit unit)).trans (shrinks_leaveForced _)
      exact hdiscard.after rfl (Nat.le_refl _)

theorem shrinks_finishUnit (p : PlainDatabase) : p.Shrinks p.finishUnit := by
  unfold finishUnit
  simp only
  split
  · exact ((shrinks_flatten _ _).trans (shrinks_leaveForced _)).after rfl (Nat.le_refl _)
  · exact ⟨rfl, Nat.le_refl _⟩

theorem shrinks_abandon (p : PlainDatabase) (session : Nat) (status : SessionStatus) :
    p.Shrinks (p.abandon session status) := by
  unfold abandon
  simp only
  split
  · split
    · exact ⟨rfl, Nat.le_refl _⟩
    · split
      · split
        · exact ⟨rfl, Nat.le_refl _⟩
        · exact (shrinks_revokeUnit _).after rfl (Nat.le_refl _)
      · exact ⟨rfl, Nat.le_refl _⟩
  · exact .refl p

theorem shrinks_commitSession (p : PlainDatabase) (session : Nat) :
    p.Shrinks (p.commitSession session).2 := by
  unfold commitSession
  split
  · exact .refl p
  · exact .refl p
  · exact .refl p
  split
  · exact .refl p
  split
  · exact .refl p
  simp only
  split
  · exact ⟨rfl, Nat.le_refl _⟩
  split
  · exact ⟨rfl, Nat.le_refl _⟩
  split
  · exact (shrinks_revokeUnit _).after rfl (Nat.le_refl _)
  · exact (shrinks_finishUnit _).after rfl (Nat.le_refl _)

theorem shrinks_revoke (p : PlainDatabase) : p.Shrinks p.revoke.2 := by
  unfold revoke
  split
  · exact .refl p
  split
  · split
    · exact shrinks_revokeUnit p
    · exact ⟨rfl, Nat.le_refl _⟩
  split
  · exact .refl p
  split
  · exact shrinks_revokeUnit p
  · exact shrinks_discard p

theorem shrinks_merge (p : PlainDatabase) : p.Shrinks p.merge.2 := by
  unfold merge
  split
  · exact .refl p
  split
  · exact .refl p
  split
  · split
    · exact .refl p
    · exact shrinks_flatten p 1
  · exact shrinks_flatten p 1

theorem shrinks_shutdown (p : PlainDatabase) : p.Shrinks p.shutdown := by
  unfold shutdown
  split
  · exact .refl p
  · exact (shrinks_revokeUnit p).trans ((shrinks_flatten _ _).trans ⟨rfl, Nat.le_refl _⟩)

theorem shrinks_commit (p : PlainDatabase) : p.Shrinks p.commit.2 := by
  unfold commit
  split
  · exact .refl p
  · exact shrinks_commitSession p _

theorem shrinks_popMany (p : PlainDatabase) (operation : String) (count : Nat) :
    p.Shrinks (p.popMany operation count).2 := by
  unfold popMany
  repeat' split
  all_goals first | exact .refl p | exact shrinks_discardMany count p

theorem shrinks_setMaxFlushCount (p : PlainDatabase) (limit : Nat) :
    p.Shrinks (p.setMaxFlushCount limit).2 := by
  unfold setMaxFlushCount
  repeat' split
  all_goals first
    | exact .refl p
    | exact (shrinks_limitPending _).after rfl (Nat.le_refl _)

theorem shrinks_write (p : PlainDatabase) (table : Nat) (key : Bytes) (entry : Entry) :
    p.Shrinks (p.write table key entry).2 := by
  unfold write
  repeat' split
  all_goals first
    | exact ⟨rfl, Nat.le_refl _⟩
    | exact (shrinks_flatten p 0).trans ⟨rfl, Nat.le_refl _⟩

theorem shrinks_addTable (p : PlainDatabase) (name : String) (root : Contents) :
    p.Shrinks (p.addTable name root).2 := by
  unfold addTable
  repeat' split
  all_goals exact ⟨rfl, Nat.le_refl _⟩

theorem shrinks_enable (p : PlainDatabase) : p.Shrinks p.enable.2 := by
  unfold enable
  repeat' split
  all_goals exact ⟨rfl, Nat.le_refl _⟩

theorem shrinks_disable (p : PlainDatabase) : p.Shrinks p.disable.2 := by
  unfold disable
  repeat' split
  all_goals exact ⟨rfl, Nat.le_refl _⟩

theorem shrinks_setCursor (p : PlainDatabase) (cursor : Cursor) (offset : Nat) :
    p.Shrinks (p.setCursor cursor offset).2 := by
  unfold setCursor
  repeat' split
  all_goals exact ⟨rfl, Nat.le_refl _⟩

theorem WithinLimit.push (h : p.WithinLimit) : p.makeRoom.push.WithinLimit := by
  obtain ⟨hpos, hle⟩ := h
  unfold makeRoom
  split
  · -- One diff fewer is live, whether or not the pending ones are flattened.
    have hroom := shrinks_limitPending (p.toPending 1)
    have hlive : (p.toPending 1).live = p.live - 1 := live_clamp _
    have hmax := hroom.maxSize.trans (shrinks_toPending p 1).maxSize
    have hless := hroom.live_le
    refine ⟨?_, ?_⟩
    · show 0 < (p.toPending 1).limitPending.maxSize
      omega
    · show (p.toPending 1).limitPending.live + 1 ≤ (p.toPending 1).limitPending.maxSize
      omega
  · rename_i hfull
    exact ⟨hpos, Nat.not_le.mp hfull⟩

theorem WithinLimit.openSession (h : p.WithinLimit) (force : Bool) :
    (p.openSession force).2.WithinLimit := by
  have hforce : p.force.WithinLimit := by
    unfold PlainDatabase.force
    split <;> exact ⟨h.pos, h.live_le⟩
  unfold PlainDatabase.openSession
  split
  · exact h
  split
  · exact ⟨h.pos, h.live_le⟩
  split
  · exact ⟨h.pos, h.live_le⟩
  · exact ⟨hforce.push.pos, hforce.push.live_le⟩

theorem WithinLimit.setMaxSize (h : p.WithinLimit) (limit : Nat) :
    (p.setMaxSize limit).2.WithinLimit := by
  unfold PlainDatabase.setMaxSize
  split
  · exact h
  split
  · exact h
  rename_i hlimit
  simp only
  split
  · have hroom := shrinks_limitPending
      (PlainDatabase.toPending { p with maxSize := limit } (p.live - limit))
    have hlive : (PlainDatabase.toPending { p with maxSize := limit } (p.live - limit)).live =
        p.live - (p.live - limit) := live_clamp _
    have hmax : _ = limit := hroom.maxSize.trans (shrinks_toPending _ _).maxSize
    have hless := hroom.live_le
    exact ⟨by omega, by omega⟩
  · rename_i hle
    exact ⟨Nat.pos_of_ne_zero hlimit, Nat.not_lt.mp hle⟩

end

/-- No command leaves more diffs live than may be. -/
theorem WithinLimit.run {p : PlainDatabase} (h : p.WithinLimit) (stores : String → Contents)
    (command : Command) : (p.run stores command).2.WithinLimit := by
  -- All but the two commands that raise a limit or push only shrink.
  cases command with
  | openSession force => exact h.openSession force
  | setMaxSize limit => exact h.setMaxSize limit
  | commitSession session =>
    exact h.shrinks ((shrinks_commitSession p _).trans (shrinks_abandon _ _ _))
  | revokeSession session => exact h.shrinks ((shrinks_abandon p _ _).trans (shrinks_abandon _ _ _))
  | dropSession session => exact h.shrinks (shrinks_abandon p _ _)
  | commit => exact h.shrinks (shrinks_commit p)
  | revoke => exact h.shrinks (shrinks_revoke p)
  | merge => exact h.shrinks (shrinks_merge p)
  | popMany count verify => exact h.shrinks (shrinks_popMany p _ count)
  | enable => exact h.shrinks (shrinks_enable p)
  | disable => exact h.shrinks (shrinks_disable p)
  | setCursor cursor offset => exact h.shrinks (shrinks_setCursor p cursor offset)
  | setMaxFlushCount limit => exact h.shrinks (shrinks_setMaxFlushCount p limit)
  | write table key entry => exact h.shrinks (shrinks_write p table.index key entry)
  | addTable name root => exact h.shrinks (shrinks_addTable p name _)
  | shutdown => exact h.shrinks (shrinks_shutdown p)
  | check => exact h

end PlainDatabase

end LayeredStore

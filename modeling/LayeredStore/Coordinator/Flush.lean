import LayeredStore.World

/-!
# `LayeredStore.Coordinator.Flush`: moving the oldest layers into the roots

A flush records the net changes of the oldest layers of every table in
the journal, writes them to the roots in the order of the tables, takes
the layers away, and removes the record. If one of these writes fails,
the database halts: a root may be half written, and only the record
says how to complete it.

* `netRecord` is the record of a flush.
* `flushOldest` is the flush.
* `recover` carries a record out that an interrupted flush left behind,
  by `replay`.
-/

set_option autoImplicit false

namespace LayeredStore

namespace Coordinator

/-- What moving the `count` oldest layers into the roots writes. -/
def netRecord (c : Coordinator) (count : Nat) : JournalRecord where
  tables := c.tables.map fun chain => (chain.name, (chain.netOldest count).diff.toList)

end Coordinator

namespace Operation

/-- The name under which the journal appears in errors. -/
def journalName : String := "checkpoint"

/-- A write of a flush failed: the database halts. -/
def failFlush (table : String) (source : IoError) : Operation Unit := do
  note (.flushFailed table source)
  update fun c => { c with halted := true }
  fail (.ioFailure table source)

/-- Makes a write of a flush, which halts the database if it fails. -/
def flushWrite (table : String) (write : Operation (Option IoError)) : Operation Unit := do
  match ← write with
  | none => return ()
  | some source => failFlush table source

/-- Writes a record to the journal. One that cannot be encoded is
refused before anything is written. -/
def writeRecord (journal : String) (record : JournalRecord) : Operation (Option IoError) :=
  if record.fits then write journal (Journal.recordBatch record)
  else return some (.refused "invalid input parameter")

/-- Writes a table's part of a record to its root. -/
def applyTable (table : String × Batch) : Operation Unit := do
  let c ← getCoordinator
  match c.tables.find? (·.name = table.1) with
  | none => refuse (.unknownJournalTable table.1)
  | some chain => flushWrite table.1 (writeRoot chain table.2)

/-- Writes a record to the roots, in its order. -/
def applyRecord (record : JournalRecord) : Operation Unit := record.tables.forM applyTable

/-- Moves the `count` oldest layers of every table into its root. -/
def flushOldest (count : Nat) : Operation Unit := do
  let c ← getCoordinator
  let count := min count c.levels.length
  if count = 0 then return ()
  else
    let record := c.netRecord count
    -- Once the record is written, whoever starts next can complete the flush.
    flushWrite journalName (writeRecord c.journal record)
    applyRecord record
    -- The roots hold the layers by now, so if the record cannot be removed, it
    -- says nothing that they do not.
    update fun c => (c.dropOldest count).clampCursor
    flushWrite journalName (write c.journal Journal.clearBatch)
    update (·.bump)
    let depth := (← getCoordinator).depth
    note (.flushed count record.size depth)
    publish (.flush count record.size depth)

/-- Carries a record out and removes it from the journal. -/
def replay (journal : String) (record : JournalRecord) : Operation Unit := do
  if !record.isEmpty then applyRecord record
  match ← write journal Journal.clearBatch with
  | none => return ()
  | some source => fail (.ioFailure journalName source)

/-- Carries out the record of an interrupted flush, if the journal
holds one, and answers the number of its entries. -/
def recover : Operation Nat := do
  let w ← get
  let journal := w.db.coordinator.journal
  match Journal.load (w.disk.contents journal) with
  | .error source => fail (.ioFailure journalName source)
  | .ok none => return 0
  | .ok (some record) =>
    note (.journalFound record.size)
    replay journal record
    return record.size

end Operation

end LayeredStore

import LayeredStore.Store

/-!
# `LayeredStore.Journal`: the record of a flush

A flush writes several roots, which cannot be written together. So what
it is going to write is first recorded, in one write, in a store kept
for this; after the last root was written the record is removed. A
record that is still there when a database starts is that of a flush
that was interrupted, and is carried out again. This is harmless,
because entries are absolute.

* `JournalRecord` is the record, `encode` and `decode` its form in
  bytes; `fits` says whether it has one.
* `recordBatch` and `clearBatch` are the writes that put it into the
  store and remove it, and `load` reads it.
-/

set_option autoImplicit false

namespace LayeredStore

/-- What a flush is going to write, table by table. -/
structure JournalRecord where
  /-- The tables' names and what is written to each. -/
  tables : List (String × Batch)
  deriving DecidableEq, Repr

namespace JournalRecord

/-- How many entries the record holds. -/
def size (record : JournalRecord) : Nat := (record.tables.flatMap (·.2)).length

/-- Whether the record holds no entries. -/
def isEmpty (record : JournalRecord) : Bool := record.tables.all (·.2.isEmpty)

/-- A table's name, then the list of its entries. -/
def encodeTable (table : String × Batch) : Bytes :=
  Wire.putText table.1 ++ Wire.putList Batch.encodePair table.2

/-- The list of the tables. -/
def encode (record : JournalRecord) : Bytes := Wire.putList encodeTable record.tables

/-- Whether the record can be encoded: four bytes hold every length in
it. -/
def fits (record : JournalRecord) : Bool :=
  Wire.fits record.tables.length &&
    record.tables.all fun table => Wire.fits (Utf8.encode table.1).length && table.2.fits

/-- Reads what `encodeTable` writes. -/
def tableReader : Wire.Reader (String × Batch) := do
  let name ← Wire.text
  let batch ← Wire.list Batch.pairReader
  return (name, batch)

/-- Reads a record that fills the whole input. -/
def decode (input : Bytes) : Except Wire.Fault JournalRecord := do
  return ⟨← Wire.Reader.whole (Wire.list tableReader) input⟩

end JournalRecord

namespace Journal

/-- The key under which the record stands. -/
def key : Bytes := [0]

/-- The write that records. -/
def recordBatch (record : JournalRecord) : Batch := [(key, .value record.encode)]

/-- The write that removes the record. -/
def clearBatch : Batch := [(key, .tombstone)]

/-- The record that a store holds, if any. -/
def load (contents : Contents) : Except IoError (Option JournalRecord) :=
  match contents.get? key with
  | none => .ok none
  | some bytes =>
    match JournalRecord.decode bytes with
    | .ok record => .ok (some record)
    | .error fault => .error (.damaged fault)

end Journal

end LayeredStore

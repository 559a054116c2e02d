import LayeredStore.OrderedMap.Lemmas
import LayeredStore.Wire

/-!
# `LayeredStore.Entry`: what is said about a key

An entry is what a layer, a batch or a journal record says about one
key: that it has a value, or that it is absent.

* `Entry.value?` is the answer that a read gives for it.
* `Contents.put` and `Contents.apply` carry entries out on the contents
  of a store; `get?_put` and `get?_apply` say what is read after it.
* `Entry.encode` and `Entry.reader` are its form in bytes, and `fits`
  says whether it has one.
-/

set_option autoImplicit false

namespace LayeredStore

/-- What is said about a key. -/
inductive Entry where
  /-- The key has this value. -/
  | value (bytes : Bytes)
  /-- The key is absent. -/
  | tombstone
  deriving DecidableEq, Repr

namespace Entry

/-- The value, if the entry holds one. -/
def value? : Entry → Option Bytes
  | value bytes => some bytes
  | tombstone => none

/-- A value is a zero byte and the value behind its length; a tombstone
is a one byte. -/
def encode : Entry → Bytes
  | value bytes => 0 :: Wire.putBytes bytes
  | tombstone => [1]

/-- Whether the entry can be encoded. -/
def fits : Entry → Bool
  | value bytes => Wire.fits bytes.length
  | tombstone => true

/-- Reads what `encode` writes. -/
def reader : Wire.Reader Entry := do
  let tag ← Wire.byte
  match tag.toNat with
  | 0 => return value (← Wire.bytes)
  | 1 => return tombstone
  | other => throw (.unknownForm other)

end Entry

/-- A list of entries to carry out in order, so that of two entries for
one key the later wins. -/
abbrev Batch := List (Bytes × Entry)

namespace Batch

/-- The key behind its length, then the entry. -/
def encodePair (pair : Bytes × Entry) : Bytes := Wire.putBytes pair.1 ++ pair.2.encode

/-- Whether the batch can be encoded behind its length. -/
def fits (batch : Batch) : Bool :=
  Wire.fits batch.length && batch.all fun pair => Wire.fits pair.1.length && pair.2.fits

/-- Reads what `encodePair` writes. -/
def pairReader : Wire.Reader (Bytes × Entry) := do
  let key ← Wire.bytes
  let entry ← Entry.reader
  return (key, entry)

end Batch

/-- The keys and values that a store holds. -/
abbrev Contents := OrderedMap Bytes

namespace Contents

/-- Carries one entry out: a value is set, a tombstone removes. -/
def put (contents : Contents) (key : Bytes) : Entry → Contents
  | .value bytes => contents.insert key bytes
  | .tombstone => contents.erase key

/-- Carries a batch out, from its first entry to its last. -/
def apply (contents : Contents) (batch : Batch) : Contents :=
  batch.foldl (fun contents pair => contents.put pair.1 pair.2) contents

/-- Carrying an entry out changes its own key alone. -/
theorem get?_put (contents : Contents) (key : Bytes) (entry : Entry) (other : Bytes) :
    (contents.put key entry).get? other =
      if key = other then entry.value? else contents.get? other := by
  cases entry with
  | value bytes => exact contents.get?_insert key bytes other
  | tombstone => exact contents.get?_erase key other

/-- After a batch, a key reads as the last of its entries says, and as
before if there is none. -/
theorem get?_apply (contents : Contents) (batch : Batch) (key : Bytes) :
    (contents.apply batch).get? key =
      match batch.reverse.find? (·.1 = key) with
      | some pair => pair.2.value?
      | none => contents.get? key := by
  induction batch generalizing contents with
  | nil => rfl
  | cons p rest ih =>
    have h := ih (contents.put p.1 p.2)
    rw [apply] at h
    rw [apply, List.foldl_cons, h, get?_put, List.reverse_cons, List.find?_append]
    cases rest.reverse.find? (·.1 = key) with
    | some q => rfl
    | none =>
      by_cases hk : p.1 = key
      · simp [hk]
      · simp [hk]

end Contents

end LayeredStore

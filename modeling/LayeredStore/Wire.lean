import LayeredStore.Utf8

/-!
# `LayeredStore.Wire`: length-prefixed encoding

How records are laid out in bytes: a byte string is its length in four
bytes, least significant first, and then its bytes; a list is its
length in four bytes and then its items; parts of a record follow each
other without anything between them.

* `putBytes`, `putText` and `putList` write, where `fits` holds of every
  length.
* A `Reader` takes a value off the front of a byte string and leaves
  the rest. `takeBytes`, `byte`, `count`, `bytes`, `text`, `list` read.
* `Reader.whole` reads a value that has to fill the byte string.
* `Fault` is what can be wrong with an input, and `Fault.message` says
  it in words. Reading goes from left to right and the first fault
  wins; the bytes of a text are all taken before they are looked at.
-/

set_option autoImplicit false

namespace LayeredStore.Wire

/-! ### Writing -/

/-- A length in four bytes, least significant first. Lengths are below 2^32,
as `fits` says of them: of a longer one only the low four bytes are kept. -/
def putLength (n : Nat) : Bytes := Bytes.littleEndian 4 n

/-- Whether four bytes hold a length. -/
def fits (n : Nat) : Bool := decide (n < 4294967296)

/-- A byte string behind its length. -/
def putBytes (bytes : Bytes) : Bytes := putLength bytes.length ++ bytes

/-- A text as the byte string of its UTF-8 bytes. -/
def putText (text : String) : Bytes := putBytes (Utf8.encode text)

/-- A list behind its length, its items written by `put`. -/
def putList {α : Type} (put : α → Bytes) (items : List α) : Bytes :=
  putLength items.length ++ items.flatMap put

/-! ### Reading -/

/-- What is wrong with an encoded record. -/
inductive Fault where
  /-- The input ends before the record does. -/
  | truncated
  /-- The record ends before the input does. -/
  | trailing
  /-- A byte that has to name one of several forms names none. -/
  | unknownForm (tag : Nat)
  /-- A text is not UTF-8. -/
  | badText (fault : Utf8.Malformed)
  deriving DecidableEq, Repr

/-- The fault in words. -/
def Fault.message : Fault → String
  | .truncated => "Unexpected length of input"
  | .trailing => "Not all bytes read"
  | .unknownForm tag => s!"Unexpected variant index: {tag}"
  | .badText fault => fault.message

/-- Takes a value off the front of a byte string. -/
abbrev Reader (α : Type) := StateT Bytes (Except Fault) α

/-- The next `n` bytes. -/
def takeBytes (n : Nat) : Reader Bytes := fun input =>
  if n ≤ input.length then .ok (input.take n, input.drop n) else .error .truncated

/-- The next byte. -/
def byte : Reader UInt8
  | [] => .error .truncated
  | b :: rest => .ok (b, rest)

/-- A length written by `putLength`. -/
def count : Reader Nat := do
  return Bytes.ofLittleEndian (← takeBytes 4)

/-- A byte string written by `putBytes`. -/
def bytes : Reader Bytes := do
  takeBytes (← count)

/-- A text written by `putText`. -/
def text : Reader String := do
  match Utf8.decode (← bytes) with
  | .ok text => return text
  | .error fault => throw (.badText fault)

/-- Reads `n` items one after the other. -/
def repeated {α : Type} (item : Reader α) : Nat → Reader (List α)
  | 0 => return []
  | n + 1 => do
    let first ← item
    let rest ← repeated item n
    return first :: rest

/-- A list written by `putList`, its items read by `item`. -/
def list {α : Type} (item : Reader α) : Reader (List α) := do
  repeated item (← count)

/-- Reads a value that fills the whole input. -/
def Reader.whole {α : Type} (reader : Reader α) (input : Bytes) : Except Fault α :=
  match reader input with
  | .ok (value, []) => .ok value
  | .ok (_, _ :: _) => .error .trailing
  | .error fault => .error fault

end LayeredStore.Wire

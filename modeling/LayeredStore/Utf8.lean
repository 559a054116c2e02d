import LayeredStore.Bytes

/-!
# `LayeredStore.Utf8`: text as bytes

UTF-8 writes a character in one to four bytes. Reading goes from left
to right, byte by byte, and stops at the first byte that no character
can have at its place.

* `encode` writes a string and `decode` reads one.
* `Malformed` says where reading stopped and why, and
  `Malformed.message` says it in words.
-/

set_option autoImplicit false

namespace LayeredStore.Utf8

/-- The UTF-8 bytes of a string. -/
def encode (text : String) : Bytes := text.toList.flatMap String.utf8EncodeChar

/-- Why a byte string is not UTF-8. -/
structure Malformed where
  /-- How many bytes before the fault are whole characters. -/
  validUpTo : Nat
  /-- How many bytes after them belong to no character, or `none` if
  the byte string ends inside a character. -/
  badLength : Option Nat
  deriving DecidableEq, Repr

/-- The fault in words. -/
def Malformed.message (fault : Malformed) : String :=
  match fault.badLength with
  | some length => s!"invalid utf-8 sequence of {length} bytes from index {fault.validUpTo}"
  | none => s!"incomplete utf-8 byte sequence from index {fault.validUpTo}"

/-- A character of which some bytes were read and some are still to
come. -/
structure Unfinished where
  /-- How many bytes were read. -/
  taken : Nat
  /-- How many bytes are to come after the next one. -/
  more : Nat
  /-- The least value that the next byte may have. -/
  low : UInt8
  /-- The greatest value that the next byte may have. -/
  high : UInt8
  /-- The bits read so far. -/
  bits : Nat
  deriving DecidableEq

/-- The character that a byte from 0x80 on opens. The second byte's
range leaves out the overlong forms, the surrogates and what lies above
U+10FFFF. -/
def Unfinished.ofLead? (lead : UInt8) : Option Unfinished :=
  if lead < 0xC2 then none
  else if lead < 0xE0 then some ⟨1, 0, 0x80, 0xBF, lead.toNat % 32⟩
  else if lead < 0xF0 then
    some ⟨1, 1, if lead = 0xE0 then 0xA0 else 0x80, if lead = 0xED then 0x9F else 0xBF,
      lead.toNat % 16⟩
  else if lead < 0xF5 then
    some ⟨1, 2, if lead = 0xF0 then 0x90 else 0x80, if lead = 0xF4 then 0x8F else 0xBF,
      lead.toNat % 8⟩
  else none

/-- Reads characters from place `start` on, where the first of them may
be half read. -/
def decodeFrom (start : Nat) : Option Unfinished → Bytes → Except Malformed (List Char)
  | none, [] => .ok []
  | some _, [] => .error ⟨start, none⟩
  | none, b :: rest =>
    if b < 0x80 then do
      let chars ← decodeFrom (start + 1) none rest
      return Char.ofNat b.toNat :: chars
    else match Unfinished.ofLead? b with
      | none => .error ⟨start, some 1⟩
      | some char => decodeFrom start (some char) rest
  | some char, b :: rest =>
    if b < char.low ∨ char.high < b then .error ⟨start, some char.taken⟩
    else
      let bits := char.bits * 64 + b.toNat % 64
      match char.more with
      | 0 => do
        let chars ← decodeFrom (start + (char.taken + 1)) none rest
        return Char.ofNat bits :: chars
      | more + 1 => decodeFrom start (some ⟨char.taken + 1, more, 0x80, 0xBF, bits⟩) rest

/-- The string that a byte string spells in UTF-8. -/
def decode (bytes : Bytes) : Except Malformed String := do
  return String.ofList (← decodeFrom 0 none bytes)

end LayeredStore.Utf8

/-!
# `LayeredStore.Bytes`: byte strings

Keys, values, digests and stored records are all plain byte strings.
They compare lexicographically, byte by byte and a proper beginning
first, which is core's order on lists.

* `littleEndian` writes a number in a fixed number of bytes, least
  significant first, and `ofLittleEndian` reads it back
  (`ofLittleEndian_littleEndian`).
-/

set_option autoImplicit false

namespace LayeredStore

/-- A byte string. -/
abbrev Bytes := List UInt8

namespace Bytes

/-- The `width` low bytes of `n`, least significant first. -/
def littleEndian : (width : Nat) → (n : Nat) → Bytes
  | 0, _ => []
  | width + 1, n => UInt8.ofNat n :: littleEndian width (n / 256)

/-- The number that a byte string spells, least significant byte
first. -/
def ofLittleEndian : Bytes → Nat
  | [] => 0
  | b :: rest => b.toNat + 256 * ofLittleEndian rest

@[simp] theorem length_littleEndian (width n : Nat) :
    (littleEndian width n).length = width := by
  induction width generalizing n with
  | zero => rfl
  | succ width ih => simp [littleEndian, ih]

/-- A byte string spells a number that fits its length. -/
theorem ofLittleEndian_lt (bytes : Bytes) : ofLittleEndian bytes < Nat.pow 256 bytes.length := by
  induction bytes with
  | nil => exact Nat.zero_lt_one
  | cons b rest ih =>
    have hb : b.toNat < 256 := b.toNat_lt
    have hpow : Nat.pow 256 (rest.length + 1) = Nat.pow 256 rest.length * 256 := rfl
    rw [ofLittleEndian, List.length_cons, hpow]
    omega

/-- A number that fits its width is read back unchanged. -/
theorem ofLittleEndian_littleEndian (width n : Nat) (h : n < Nat.pow 256 width) :
    ofLittleEndian (littleEndian width n) = n := by
  induction width generalizing n with
  | zero => exact (Nat.lt_one_iff.1 h).symm
  | succ width ih =>
    have hdiv : n / 256 < Nat.pow 256 width :=
      Nat.div_lt_of_lt_mul (Nat.mul_comm (Nat.pow 256 width) 256 ▸ h)
    simp only [littleEndian, ofLittleEndian, ih _ hdiv, UInt8.toNat_ofNat']
    omega

/-- Writing the number that a byte string spells gives the byte string
back. -/
theorem littleEndian_ofLittleEndian (bytes : Bytes) :
    littleEndian bytes.length (ofLittleEndian bytes) = bytes := by
  induction bytes with
  | nil => rfl
  | cons b rest ih =>
    have hb : b.toNat < 256 := b.toNat_lt
    have hmod : (b.toNat + 256 * ofLittleEndian rest) / 256 = ofLittleEndian rest := by omega
    have hhead : UInt8.ofNat (b.toNat + 256 * ofLittleEndian rest) = b := by
      apply UInt8.toNat_inj.1
      rw [UInt8.toNat_ofNat']
      omega
    simp only [ofLittleEndian, List.length_cons, littleEndian, hmod, ih, hhead]

end Bytes

end LayeredStore

/-!
# Byte strings

Byte strings are lists of octets. A register, a length field or an offset occupies a fixed number of
octets, least significant first; `littleEndian` writes such a number and `ofLittleEndian` reads it.

* `ofLittleEndian_littleEndian`: what is read is the number written, modulo the width.
* `littleEndian_ofLittleEndian`: a string is the encoding of the number it spells.
* `length_resize`: a resized string has the size asked for.
* `length_overwrite`: overwriting a range that lies inside a string keeps its length.
-/

namespace TensorLink

/-- A string of octets. -/
abbrev Bytes := List UInt8

namespace Bytes

/-- The `width` octets of `value`, least significant first; higher octets are dropped. -/
def littleEndian : Nat → Nat → Bytes
  | 0, _ => []
  | width + 1, value => UInt8.ofNat (value % 256) :: littleEndian width (value / 256)

/-- The number whose octets are given, least significant first. -/
def ofLittleEndian : Bytes → Nat
  | [] => 0
  | octet :: rest => octet.toNat + 256 * ofLittleEndian rest

/-- The `size` octets from position `start` on, if the string reaches that far. -/
def slice? (bytes : Bytes) (start size : Nat) : Option Bytes :=
  if start + size ≤ bytes.length then some ((bytes.drop start).take size) else none

/-- The string with `data` written over it from position `start` on. -/
def overwrite (bytes : Bytes) (start : Nat) (data : Bytes) : Bytes :=
  bytes.take start ++ data ++ bytes.drop (start + data.length)

/-- `size` zero octets. -/
def zeros (size : Nat) : Bytes := List.replicate size 0

/-- The string cut or extended with `fill` to exactly `size` octets. -/
def resize (bytes : Bytes) (size : Nat) (fill : UInt8) : Bytes :=
  let kept := bytes.take size
  kept ++ List.replicate (size - kept.length) fill

/-- `value` rounded up to the next multiple of `alignment`. -/
def alignUp (alignment value : Nat) : Nat :=
  (value + (alignment - 1)) / alignment * alignment

@[simp]
theorem length_littleEndian (width value : Nat) : (littleEndian width value).length = width := by
  induction width generalizing value with
  | zero => rfl
  | succ width ih => simp [littleEndian, ih]

/-- So many octets spell no number beyond their width. -/
theorem ofLittleEndian_lt (bytes : Bytes) : ofLittleEndian bytes < Nat.pow 256 bytes.length := by
  induction bytes with
  | nil => simp [ofLittleEndian]
  | cons octet rest ih =>
    have := octet.toNat_lt
    simp only [ofLittleEndian, List.length_cons, Nat.pow_eq, Nat.pow_succ] at ih ⊢
    omega

/-- Of a number the octets keep what fits into them. -/
theorem ofLittleEndian_littleEndian (width value : Nat) :
    ofLittleEndian (littleEndian width value) = value % Nat.pow 256 width := by
  induction width generalizing value with
  | zero => simp [littleEndian, ofLittleEndian, Nat.mod_one]
  | succ width ih =>
    simp only [littleEndian, ofLittleEndian, ih, Nat.pow_eq]
    rw [Nat.pow_succ, Nat.mul_comm (256 ^ width) 256, Nat.mod_mul]
    simp

/-- A string is the octets of the number that it spells. -/
theorem littleEndian_ofLittleEndian (bytes : Bytes) :
    littleEndian bytes.length (ofLittleEndian bytes) = bytes := by
  induction bytes with
  | nil => rfl
  | cons octet rest ih =>
    have := octet.toNat_lt
    have low : (octet.toNat + 256 * ofLittleEndian rest) % 256 = octet.toNat := by omega
    have high : (octet.toNat + 256 * ofLittleEndian rest) / 256 = ofLittleEndian rest := by omega
    simp [ofLittleEndian, littleEndian, low, high, ih]

theorem length_overwrite {bytes data : Bytes} {start : Nat}
    (inside : start + data.length ≤ bytes.length) :
    (overwrite bytes start data).length = bytes.length := by
  simp only [overwrite, List.length_append, List.length_take, List.length_drop]
  omega

@[simp]
theorem length_resize (bytes : Bytes) (size : Nat) (fill : UInt8) :
    (bytes.resize size fill).length = size := by
  have kept : (bytes.take size).length ≤ size := List.length_take_le ..
  simp only [resize, List.length_append, List.length_replicate]
  omega

@[simp]
theorem length_zeros (size : Nat) : (zeros size).length = size := by simp [zeros]

end Bytes

end TensorLink

import TensorLink.Bytes
import TensorLink.Model.Error

/-!
# The sign bias

Elements of signed types cross the wire with the top bit of their last octet flipped, which adds
half the range to their value. `flipSigns` flips it in the first elements of a string of octets; it
undoes itself.

Reference: `edgetpu-models`, `relayout`; SPEC_FULL 4.3.

* `length_flipSigns`, `flipSigns_flipSigns`: nothing is added or lost, and twice is nothing.
* `getElem?_flipSigns`: exactly the last octets of the first elements change.
-/

namespace TensorLink

/-- The octet with its top bit flipped. -/
def flipTop (octet : UInt8) : UInt8 := octet ^^^ 0x80

/-- Whether an octet is the last one of one of the first `count` elements. -/
def endsElement (size count position : Nat) : Bool :=
  position < size * count && position % size == size - 1

/-- The string with the top bit of the last octet of each of the first `count` elements flipped. -/
def flipSigns (size count : Nat) (bytes : Bytes) : Bytes :=
  bytes.mapIdx fun position octet =>
    if endsElement size count position then flipTop octet else octet

/-- As `flipSigns`, for a string that must hold all the elements (`transform_signed`). -/
def transformSigns (size count : Nat) (bytes : Bytes) : Except ModelError Bytes :=
  let needed := size * count
  if needed ≤ bytes.length then .ok (flipSigns size count bytes)
  else
    .error (.invalidLayer "<buffer>"
      s!"sign transform needs {needed} bytes, buffer has {bytes.length}")

/-- Flipping a bit twice restores the octet. -/
theorem flipTop_flipTop (octet : UInt8) : flipTop (flipTop octet) = octet := by
  rw [flipTop, flipTop, UInt8.xor_assoc, UInt8.xor_self, UInt8.xor_zero]

@[simp]
theorem length_flipSigns (size count : Nat) (bytes : Bytes) :
    (flipSigns size count bytes).length = bytes.length := by simp [flipSigns]

/-- Only the last octets of elements change. -/
theorem getElem?_flipSigns (size count : Nat) (bytes : Bytes) (position : Nat) :
    (flipSigns size count bytes)[position]? =
      bytes[position]?.map fun octet =>
        if endsElement size count position then flipTop octet else octet := by
  simp [flipSigns]

/-- Biasing elements twice restores them. -/
theorem flipSigns_flipSigns (size count : Nat) (bytes : Bytes) :
    flipSigns size count (flipSigns size count bytes) = bytes := by
  apply List.ext_getElem?
  intro position
  rw [getElem?_flipSigns, getElem?_flipSigns]
  cases bytes[position]? with
  | none => rfl
  | some octet => by_cases h : endsElement size count position <;> simp [h, flipTop_flipTop]

end TensorLink

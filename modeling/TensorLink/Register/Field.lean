/-!
# Register fields

A register is a word of 32 or 64 bits. A field is a run of adjacent bits of it. Reading a field
takes these bits as a number; writing one replaces these bits and nothing else, and is refused when
the value needs more bits than the field has.

Reference: `edgetpu-chip`, `fields`; SPEC_FULL 3, bitfield view.

* `read_put`: a field reads what was written to it.
* `read_put_of_disjoint`: writing a field keeps every field that shares no bit with it.
* `getLsbD_put`: writing a field keeps every bit outside it.
* `write?_eq_none_iff`: exactly the values that do not fit are refused.
-/

namespace TensorLink

/-- The name of one of the clock rates that a register selects. -/
abbrev ClockName := String

/-- How the number in a field is shown. -/
inductive FieldKind where
  /-- A number. -/
  | number
  /-- One bit that is set or clear. -/
  | flag
  /-- One of several clock rates, in the order of their codes. -/
  | clock (names : List ClockName)
  deriving DecidableEq, Repr

/-- A run of `width` bits of a register, from bit `offset` upwards. -/
structure Field where
  name : String
  offset : Nat
  width : Nat
  kind : FieldKind := .number
  deriving DecidableEq, Repr

namespace Field

/-- The number of values that a field can hold. -/
def bound (field : Field) : Nat := Nat.pow 2 field.width

/-- Whether a bit of the register belongs to a field. -/
def covers (field : Field) (bit : Nat) : Prop :=
  field.offset ≤ bit ∧ bit < field.offset + field.width

instance (field : Field) (bit : Nat) : Decidable (field.covers bit) := by
  unfold covers; infer_instance

/-- The number in a field. -/
def read {n : Nat} (field : Field) (word : BitVec n) : Nat :=
  (word.extractLsb' field.offset field.width).toNat

/-- The register with the bits of a field replaced by the low bits of `value` (the unchecked setter
of a field). -/
def put {n : Nat} (field : Field) (value : Nat) (word : BitVec n) : BitVec n :=
  let mask := (BitVec.allOnes field.width).setWidth n <<< field.offset
  (word &&& ~~~mask) ||| ((BitVec.ofNat field.width value).setWidth n <<< field.offset)

/-- The register with a field set to `value`, unless the value does not fit (the checked setter of a
field). -/
def write? {n : Nat} (field : Field) (value : Nat) (word : BitVec n) : Option (BitVec n) :=
  if value < field.bound then some (field.put value word) else none

/-- Replacing a field changes the bits that it covers, and these alone. -/
theorem getLsbD_put {n : Nat} (field : Field) (value : Nat) (word : BitVec n) (bit : Nat)
    (inside : bit < n) :
    (field.put value word).getLsbD bit =
      if field.covers bit then value.testBit (bit - field.offset) else word.getLsbD bit := by
  unfold put covers
  simp only [BitVec.getLsbD_or, BitVec.getLsbD_and, BitVec.getLsbD_not, BitVec.getLsbD_shiftLeft,
    BitVec.getLsbD_setWidth, BitVec.getLsbD_allOnes, BitVec.getLsbD_ofNat, inside]
  by_cases low : bit < field.offset
  · have : ¬(field.offset ≤ bit) := by omega
    simp [low, this]
  · have from_offset : field.offset ≤ bit := by omega
    have small : bit - field.offset < n := by omega
    by_cases high : bit < field.offset + field.width
    · have within : bit - field.offset < field.width := by omega
      simp [low, from_offset, high, within, small]
    · have beyond : ¬(bit - field.offset < field.width) := by omega
      simp [low, high, beyond]

/-- The number in a field has the bits of the register from its offset on. -/
theorem testBit_read {n : Nat} (field : Field) (word : BitVec n) (bit : Nat) :
    (field.read word).testBit bit =
      (decide (bit < field.width) && word.getLsbD (field.offset + bit)) := by
  rw [read, ← BitVec.getLsbD, BitVec.getLsbD_extractLsb']

/-- A field holds what it was set to, if that fits. -/
theorem read_put {n : Nat} (field : Field) {value : Nat} (word : BitVec n)
    (fits : field.offset + field.width ≤ n) (small : value < field.bound) :
    field.read (field.put value word) = value := by
  apply Nat.eq_of_testBit_eq
  intro bit
  rw [testBit_read]
  by_cases within : bit < field.width
  · rw [getLsbD_put field value word _ (by omega), if_pos (by unfold covers; omega)]
    simp [within]
  · have := Nat.testBit_lt_two_pow (Nat.lt_of_lt_of_le small
      (Nat.pow_le_pow_right (by decide) (Nat.le_of_not_lt within)))
    simp [within, this]

/-- Setting a field leaves the others as they are. -/
theorem read_put_of_disjoint {n : Nat} (field other : Field) (value : Nat) (word : BitVec n)
    (fits : other.offset + other.width ≤ n)
    (apart : ∀ bit, ¬(field.covers bit ∧ other.covers bit)) :
    other.read (field.put value word) = other.read word := by
  apply Nat.eq_of_testBit_eq
  intro bit
  rw [testBit_read, testBit_read]
  by_cases within : bit < other.width
  · have mine : other.covers (other.offset + bit) := by unfold covers; omega
    have : ¬field.covers (other.offset + bit) := fun h => apart _ ⟨h, mine⟩
    rw [getLsbD_put field value word _ (by omega), if_neg this]
  · simp [within]

/-- A field refuses exactly the values that do not fit. -/
theorem write?_eq_none_iff {n : Nat} (field : Field) (value : Nat) (word : BitVec n) :
    field.write? value word = none ↔ field.bound ≤ value := by
  simp [write?]

end Field

end TensorLink

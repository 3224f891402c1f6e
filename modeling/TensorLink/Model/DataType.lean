import TensorLink.Model.Error

/-!
# Element types

The type of the elements of a layer, with its number in the model format. Values of a signed type
cross the wire biased: the top bit of each element's last octet is flipped.

Reference: `edgetpu-models`, `executable`; SPEC_FULL 3, data types.

* `ofRaw_raw`: a type is read back from its number.
* `size_pos`: an element takes at least one octet.
-/

namespace TensorLink

/-- The type of an element. -/
inductive DataType where
  | fixedPoint8
  | fixedPoint16
  | signedFixedPoint32
  | bfloat
  | half
  | single
  | signedFixedPoint8
  | signedFixedPoint16
  deriving DecidableEq, Repr, Inhabited

namespace DataType

/-- The number of a type in the model format. -/
def raw : DataType → Int16
  | fixedPoint8 => 0
  | fixedPoint16 => 1
  | signedFixedPoint32 => 2
  | bfloat => 3
  | half => 4
  | single => 5
  | signedFixedPoint8 => 6
  | signedFixedPoint16 => 7

/-- Every element type, in the order of the numbers. -/
def all : List DataType :=
  [fixedPoint8, fixedPoint16, signedFixedPoint32, bfloat, half, single, signedFixedPoint8,
    signedFixedPoint16]

/-- The type with a given number (`from_raw`). -/
def ofRaw (value : Int16) : Except ModelError DataType :=
  match all.find? fun type => type.raw == value with
  | some type => .ok type
  | none => .error (.unknownValue "Layer.data_type" value.toInt)

/-- The number of octets of an element (`size_bytes`). -/
def size : DataType → Nat
  | fixedPoint8 | signedFixedPoint8 => 1
  | fixedPoint16 | signedFixedPoint16 | bfloat | half => 2
  | signedFixedPoint32 | single => 4

/-- Whether values cross the wire biased. The chip leaves 32-bit values as they are. -/
def isSigned : DataType → Bool
  | signedFixedPoint8 | signedFixedPoint16 => true
  | _ => false

/-- The name of a type. -/
def name : DataType → String
  | fixedPoint8 => "FixedPoint8"
  | fixedPoint16 => "FixedPoint16"
  | signedFixedPoint32 => "SignedFixedPoint32"
  | bfloat => "Bfloat"
  | half => "Half"
  | single => "Single"
  | signedFixedPoint8 => "SignedFixedPoint8"
  | signedFixedPoint16 => "SignedFixedPoint16"

/-- Every type is the one with its number. -/
theorem ofRaw_raw (type : DataType) : ofRaw type.raw = .ok type := by cases type <;> rfl

theorem size_pos (type : DataType) : 0 < type.size := by cases type <;> decide

end DataType

end TensorLink

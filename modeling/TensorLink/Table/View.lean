import TensorLink.Bytes
import TensorLink.Model.Error
import TensorLink.Text.Utf8

/-!
# Reading tables

A model is a buffer of tables. A table starts with the signed distance back to its field list; the
list holds its own length, the length of the table, and for every numbered slot the position of the
field inside the table, or zero if the field is absent. A field holds a number, or the distance
forward to a table, to a vector of octets or numbers, or to a vector of such distances.

Every position is checked against the buffer before it is used, so a malformed buffer ends in
`ModelError.malformed`.

Reference: `edgetpu-models`, `flatbuf`; SPEC_FULL 6, package encoding subset.

* `field?_eq_none_of_short`: a slot beyond the field list is absent.
-/

namespace TensorLink

open Bytes

/-- A table of a buffer: where it starts, where its field list starts, and how long that list is
(`Table`). -/
structure TableView where
  position : Nat
  fieldList : Nat
  fieldListSize : Nat
  deriving DecidableEq, Repr

namespace TableView

/-- The `width` octets at a position, as a number. -/
def readNumber (buffer : Bytes) (position width : Nat) (what : String) : Except ModelError Nat :=
  match buffer.slice? position width with
  | some octets => .ok (ofLittleEndian octets)
  | none =>
    .error (.malformed s!"{what} at {position} runs past end of buffer ({buffer.length} bytes)")

/-- The position that the distance stored at `position` leads to. -/
def follow (buffer : Bytes) (position : Nat) : Except ModelError Nat := do
  let distance ← readNumber buffer position 4 "u32"
  if position + distance < buffer.length then
    return position + distance
  else throw (.malformed s!"offset at {position} points outside buffer")

/-- Where the elements of the vector at a position start, and how many there are. -/
def vector (buffer : Bytes) (position elementSize : Nat) : Except ModelError (Nat × Nat) := do
  let count ← readNumber buffer position 4 "u32"
  if position + 4 + count * elementSize ≤ buffer.length then
    return (position + 4, count)
  else throw (.malformed s!"vector at {position} ({count} elements) truncated")

/-- The octets of the vector at a position. -/
def octets (buffer : Bytes) (position : Nat) : Except ModelError Bytes := do
  let (start, count) ← vector buffer position 1
  return (buffer.drop start).take count

/-- The table at a position (`at`). -/
def ofPosition (buffer : Bytes) (position : Nat) : Except ModelError TableView := do
  let distance ← readNumber buffer position 4 "i32"
  let start := (position : Int) - (Int32.ofNat distance).toInt
  if start < 0 then
    throw (.malformed s!"vtable of table at {position} out of range")
  let fieldList := start.toNat
  let size ← readNumber buffer fieldList 2 "u16"
  if size < 4 ∨ buffer.length < fieldList + size then
    throw (.malformed s!"vtable at {fieldList} has invalid length {size}")
  return ⟨position, fieldList, size⟩

/-- The table that the buffer opens with. -/
def root (buffer : Bytes) : Except ModelError TableView := do
  if buffer.length < 8 then
    throw (.malformed s!"buffer of {buffer.length} bytes is too small for a root table")
  ofPosition buffer (← follow buffer 0)

/-- Where the field in a slot starts, if the field is present (`field`). -/
def field? (buffer : Bytes) (table : TableView) (slot : Nat) : Except ModelError (Option Nat) :=
  if table.fieldListSize < 4 + 2 * slot + 2 then .ok none
  else do
    match ← readNumber buffer (table.fieldList + (4 + 2 * slot)) 2 "u16" with
    | 0 => return none
    | offset => return some (table.position + offset)

/-- The number in a slot, if the field is present. -/
def scalar? (buffer : Bytes) (table : TableView) (slot width : Nat) :
    Except ModelError (Option Nat) := do
  match ← table.field? buffer slot with
  | none => return none
  | some position => return some (← readNumber buffer position width "scalar field")

/-- The octet in a slot. -/
def u8 (buffer : Bytes) (table : TableView) (slot : Nat) (absent : UInt8) :
    Except ModelError UInt8 := do
  return ((← table.scalar? buffer slot 1).map UInt8.ofNat).getD absent

/-- The signed number of 16 bits in a slot. -/
def i16 (buffer : Bytes) (table : TableView) (slot : Nat) (absent : Int16) :
    Except ModelError Int16 := do
  return ((← table.scalar? buffer slot 2).map Int16.ofNat).getD absent

/-- The signed number of 32 bits in a slot. -/
def i32 (buffer : Bytes) (table : TableView) (slot : Nat) (absent : Int32) :
    Except ModelError Int32 := do
  return ((← table.scalar? buffer slot 4).map Int32.ofNat).getD absent

/-- The number of 64 bits in a slot. -/
def u64 (buffer : Bytes) (table : TableView) (slot : Nat) (absent : UInt64) :
    Except ModelError UInt64 := do
  return ((← table.scalar? buffer slot 8).map UInt64.ofNat).getD absent

/-- The table in a slot, if the field is present. -/
def table? (buffer : Bytes) (table : TableView) (slot : Nat) :
    Except ModelError (Option TableView) := do
  match ← table.field? buffer slot with
  | none => return none
  | some position => return some (← ofPosition buffer (← follow buffer position))

/-- The octets in a slot, if the field is present. -/
def bytes? (buffer : Bytes) (table : TableView) (slot : Nat) :
    Except ModelError (Option Bytes) := do
  match ← table.field? buffer slot with
  | none => return none
  | some position => return some (← octets buffer (← follow buffer position))

/-- The text in a slot, if the field is present (`str`). -/
def text? (buffer : Bytes) (table : TableView) (slot : Nat) :
    Except ModelError (Option String) := do
  match ← table.bytes? buffer slot with
  | none => return none
  | some raw =>
    match Text.Utf8.decode raw with
    | .ok text => return some text
    | .error fault =>
      let detail := fault.message
      throw (.malformed s!"string field {slot}: {detail}")

/-- The signed numbers of 32 bits that a string of octets is made of. -/
def words : Nat → Bytes → List Int32
  | 0, _ => []
  | count + 1, octets => Int32.ofNat (ofLittleEndian (octets.take 4)) :: words count (octets.drop 4)

/-- The numbers in a slot; none if the field is absent. -/
def i32s (buffer : Bytes) (table : TableView) (slot : Nat) : Except ModelError (List Int32) := do
  match ← table.field? buffer slot with
  | none => return []
  | some position =>
    let (start, count) ← vector buffer (← follow buffer position) 4
    return words count (buffer.drop start)

/-- The positions that the vector of distances in a slot leads to; none if the field is absent
(`offsets`). -/
def targets (buffer : Bytes) (table : TableView) (slot : Nat) : Except ModelError (List Nat) := do
  match ← table.field? buffer slot with
  | none => return []
  | some position =>
    let (start, count) ← vector buffer (← follow buffer position) 4
    (List.range count).mapM fun index => follow buffer (start + 4 * index)

/-- The tables in a slot; none if the field is absent. -/
def tables (buffer : Bytes) (table : TableView) (slot : Nat) :
    Except ModelError (List TableView) := do
  (← table.targets buffer slot).mapM (ofPosition buffer)

/-- The strings of octets in a slot; none if the field is absent (`byte_strings`). -/
def byteStrings (buffer : Bytes) (table : TableView) (slot : Nat) :
    Except ModelError (List Bytes) := do
  (← table.targets buffer slot).mapM (octets buffer)

/-- A slot beyond the end of the field list is absent. -/
theorem field?_eq_none_of_short {buffer : Bytes} {table : TableView} {slot : Nat}
    (short : table.fieldListSize < 4 + 2 * slot + 2) : table.field? buffer slot = .ok none := by
  simp [field?, short]

end TableView

end TensorLink

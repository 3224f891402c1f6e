import TensorLink.Bytes
import TensorLink.Text.Utf8

/-!
# Writing tables

A table to be written is the list of its fields, each with its slot. A table is laid out as its
field list, then the table itself, then everything its fields refer to, in the order of the fields;
so every distance leads forward. Inside the table the fields stand by descending width, and fields
of one width in the order in which they were given. Where two fields share a slot both are written
and the slot leads to the last.

`Tree.encode` writes a tree as a whole buffer: the distance to the root table, an identifier of four
octets, and the layout of the tree.

Reference: `edgetpu-models`, `flatbuf`; SPEC_FULL 6, package encoding subset.

* `length_fieldOffsets`: every field of a table has a place in it.
* `encode_identifier`: the identifier follows the distance to the root table.
-/

namespace TensorLink

open Bytes

/-- What a field holds (`Value`). -/
inductive FieldValue where
  | u8 (value : UInt8)
  | i16 (value : Int16)
  | i32 (value : Int32)
  | u64 (value : UInt64)
  | bytes (value : Bytes)
  | text (value : String)
  | i32s (values : List Int32)
  | byteStrings (values : List Bytes)
  | table (fields : List (Nat × FieldValue))
  | tables (children : List (List (Nat × FieldValue)))

/-- A table to be written: its fields with their slots (`TableBuilder`). -/
abbrev Tree := List (Nat × FieldValue)

/-- Where something starts that has been laid out, and the octets of the layout. -/
structure Placement where
  target : Nat
  octets : Bytes
  deriving DecidableEq, Repr

/-- Where several things start that have been laid out one after the other, and their octets. -/
structure Placements where
  targets : List Nat
  octets : Bytes
  deriving DecidableEq, Repr

namespace FieldValue

/-- The octets that a value takes inside its table (`inline_size`). -/
def width : FieldValue → Nat
  | u8 _ => 1
  | i16 _ => 2
  | u64 _ => 8
  | _ => 4

end FieldValue

namespace Tree

/-- A number of 16 bits; larger numbers are written as the largest. -/
def u16 (value : Nat) : Bytes := littleEndian 2 (min value 0xFFFF)

/-- A number of 32 bits; larger numbers are written as the largest. -/
def u32 (value : Nat) : Bytes := littleEndian 4 (min value 0xFFFFFFFF)

/-- The zeros that bring a cursor to a multiple of `alignment` (`align`). -/
def padding (alignment cursor : Nat) : Bytes := zeros (alignUp alignment cursor - cursor)

/-! ## Inside a table -/

/-- Where the fields of each width start when the fields of a table have the given widths. The
first four octets hold the distance to the field list. -/
def widthStart (widths : List Nat) (width : Nat) : Nat :=
  let wideEnd := if widths.count 8 = 0 then 4 else 8 + 8 * widths.count 8
  if width = 8 then 8
  else if width = 4 then wideEnd
  else if width = 2 then wideEnd + 4 * widths.count 4
  else wideEnd + 4 * widths.count 4 + 2 * widths.count 2

/-- Where the fields with the remaining widths stand, after fields of the widths `seen`. -/
def offsetsFrom (widths : List Nat) : List Nat → List Nat → List Nat
  | _, [] => []
  | seen, width :: rest =>
    (widthStart widths width + width * seen.count width) ::
      offsetsFrom widths (width :: seen) rest

/-- Where each field stands inside the table. -/
def fieldOffsets (tree : Tree) : List Nat :=
  let widths := tree.map (·.2.width)
  offsetsFrom widths [] widths

/-- The length of the table in octets. -/
def tableSize (tree : Tree) : Nat :=
  let widths := tree.map (·.2.width)
  alignUp 4 (widthStart widths 1 + widths.count 1)

/-- The number of slots that the field list covers. -/
def slotCount (tree : Tree) : Nat := (tree.map fun field => field.1 + 1).foldl max 0

/-- Where the field in a slot stands, or zero if no field has the slot. -/
def slotOffset (tree : Tree) (slot : Nat) : Nat :=
  let places := (tree.map (·.1)).zip (fieldOffsets tree)
  ((places.filter fun place => place.1 = slot).getLast?.map (·.2)).getD 0

/-- The octets of the field list. -/
def fieldList (tree : Tree) : Bytes :=
  u16 (4 + 2 * slotCount tree) ++ u16 (tableSize tree) ++
    (List.range (slotCount tree)).flatMap fun slot => u16 (slotOffset tree slot)

/-- The octets of a field at `position` inside its table, given where what it refers to starts. -/
def inlineOctets (position target : Nat) : FieldValue → Bytes
  | .u8 value => littleEndian 1 value.toNat
  | .i16 value => littleEndian 2 value.toUInt16.toNat
  | .i32 value => littleEndian 4 value.toUInt32.toNat
  | .u64 value => littleEndian 8 value.toNat
  | _ => u32 (target - position)

/-- The octets of a table at `position` whose field list is `distance` octets before it. -/
def tableOctets (tree : Tree) (position distance : Nat) (targets : List Nat) : Bytes :=
  let start := littleEndian 4 (min distance 0x7FFFFFFF) ++ zeros (tableSize tree - 4)
  let places := (tree.map (·.2)).zip ((fieldOffsets tree).zip targets)
  places.foldl (fun octets (value, offset, target) =>
    octets.overwrite offset (inlineOctets (position + offset) target value)) start

/-! ## After a table -/

/-- A vector of `count` elements laid out at a cursor (`write_bytes`). -/
def placeVector (cursor count : Nat) (elements : Bytes) : Placement where
  target := alignUp 4 cursor
  octets := padding 4 cursor ++ u32 count ++ elements

/-- Where the elements of a vector of `count` distances end when it is laid out at a cursor. -/
def afterDistances (cursor count : Nat) : Nat := alignUp 4 cursor + 4 + 4 * count

/-- A vector of the distances to things that are laid out right after it (`write_offset_vector`). -/
def placeDistances (cursor : Nat) (elements : Placements) : Placement :=
  let start := alignUp 4 cursor + 4
  let distances := elements.targets.mapIdx fun index target => u32 (target - (start + 4 * index))
  placeVector cursor elements.targets.length (distances.flatten ++ elements.octets)

/-- Strings of octets laid out one after the other, each followed by a zero octet. -/
def placeStrings : Nat → List Bytes → Placements
  | _, [] => ⟨[], []⟩
  | cursor, string :: rest =>
    let first := placeVector cursor string.length (string ++ [0])
    let others := placeStrings (cursor + first.octets.length) rest
    ⟨first.target :: others.targets, first.octets ++ others.octets⟩

/-- A table laid out at a cursor, given how to lay out what its fields refer to (`write`). -/
def placeTable (tree : Tree) (cursor : Nat) (refer : Nat → Placements) : Placement :=
  let listStart := alignUp 2 cursor
  let list := fieldList tree
  let position := alignUp 8 (listStart + list.length)
  let fields := refer (position + tableSize tree)
  { target := position
    octets := padding 2 cursor ++ list ++ padding 8 (listStart + list.length) ++
      tableOctets tree position (position - listStart) fields.targets ++ fields.octets }

mutual

/-- What a field refers to, laid out at a cursor. -/
def placeValue : FieldValue → Nat → Placement
  | .bytes value, cursor => placeVector cursor value.length value
  | .text value, cursor =>
    let raw := Text.Utf8.encode value
    placeVector cursor raw.length (raw ++ [0])
  | .i32s values, cursor =>
    placeVector cursor values.length (values.flatMap fun value =>
      littleEndian 4 value.toUInt32.toNat)
  | .byteStrings values, cursor =>
    placeDistances cursor (placeStrings (afterDistances cursor values.length) values)
  | .table fields, cursor => placeTable fields cursor (placeFields fields)
  | .tables children, cursor =>
    placeDistances cursor (placeTables children (afterDistances cursor children.length))
  | _, cursor => ⟨cursor, []⟩

/-- What the fields of a table refer to, laid out one after the other. -/
def placeFields : List (Nat × FieldValue) → Nat → Placements
  | [], _ => ⟨[], []⟩
  | (_, value) :: rest, cursor =>
    let first := placeValue value cursor
    let others := placeFields rest (cursor + first.octets.length)
    ⟨first.target :: others.targets, first.octets ++ others.octets⟩

/-- Tables laid out one after the other. -/
def placeTables : List (List (Nat × FieldValue)) → Nat → Placements
  | [], _ => ⟨[], []⟩
  | tree :: rest, cursor =>
    let first := placeTable tree cursor (placeFields tree)
    let others := placeTables rest (cursor + first.octets.length)
    ⟨first.target :: others.targets, first.octets ++ others.octets⟩

end

/-- The buffer that holds a tree, with an identifier of four octets (`finish`). -/
def encode (tree : Tree) (identifier : Bytes) : Bytes :=
  let whole := placeTable tree 8 (placeFields tree)
  u32 whole.target ++ (identifier ++ zeros 4).take 4 ++ whole.octets

theorem length_offsetsFrom (widths seen rest : List Nat) :
    (offsetsFrom widths seen rest).length = rest.length := by
  induction rest generalizing seen with
  | nil => rfl
  | cons width rest ih => simp [offsetsFrom, ih]

/-- Every field has a place. -/
theorem length_fieldOffsets (tree : Tree) : (fieldOffsets tree).length = tree.length := by
  simp [fieldOffsets, length_offsetsFrom]

/-- The identifier follows the first distance. -/
theorem encode_identifier (tree : Tree) (identifier : Bytes) (four : identifier.length = 4) :
    ((encode tree identifier).drop 4).take 4 = identifier := by
  have width : (u32 (placeTable tree 8 (placeFields tree)).target).length = 4 :=
    length_littleEndian 4 _
  simp [encode, width, four]

end Tree

end TensorLink

import TensorLink.Model.DataType
import TensorLink.Table.Tree
import TensorLink.Table.View

/-!
# Layers

An input or output of an executable: its name, its logical extent in rows, columns and channels, the
type of its elements, and the padded size that one execution takes on the chip. An output layer may
be spread over tiles; its layout then says where each row and column lies.

Sizes are natural numbers in memory and numbers of 31 bits in a model: a negative number is refused,
a larger one is written as the largest. Products of sizes are exact here. A machine that multiplies
in words of 64 bits gets `elementsWord`, `actualSizeWord` and `chipSizeWord`; these are the same as
long as the products are below `2 ^ 64`.

Reference: `edgetpu-models`, `executable`; SPEC_FULL 3 and 6.

* `actualSize_eq`: the logical size is the number of elements of all executions times their size.
* `elementsWord_eq`, `actualSizeWord_eq`, `chipSizeWord_eq`: words hold the sizes modulo `2 ^ 64`.
-/

namespace TensorLink

/-- The largest signed number of 32 bits. -/
def maxInt32 : Nat := UInt32.size / 2 - 1

/-- A size as a model holds it (`to_i32`). -/
def sizeValue (size : Nat) : FieldValue := .i32 (Int32.ofNat (min size maxInt32))

/-- The size that a number of a model stands for (`non_negative`). -/
def sizeOfField (value : Int32) (field : String) : Except ModelError Nat :=
  if value.toInt < 0 then .error (.unknownValue field value.toInt) else .ok value.toInt.toNat

/-- How an output layer is spread over tiles. All maps are indexed by row, column or tile
(`OutputLayout`). -/
structure TileLayout where
  /-- What a row adds to the number of the tile. -/
  rowTile : List Int32
  /-- What a column adds to the number of the tile. -/
  columnTile : List Int32
  /-- Where the chunk of each tile starts. -/
  tileOffset : List Int32
  /-- Where a column starts within a row of its tile. -/
  columnOffset : List Int32
  /-- The row within the tile. -/
  localRow : List Int32
  /-- The length of a row of the tile that holds a column. -/
  rowSize : List Int32
  deriving DecidableEq, Repr

namespace TileLayout

/-- The table of a layout. -/
def toTree (layout : TileLayout) : Tree :=
  [(0, .i32s layout.rowTile), (1, .i32s layout.columnTile), (2, .i32s layout.tileOffset),
    (3, .i32s layout.columnOffset), (4, .i32s layout.localRow), (5, .i32s layout.rowSize)]

/-- The layout that a table holds. -/
def ofTable (buffer : Bytes) (table : TableView) : Except ModelError TileLayout := do
  let rowTile ← table.i32s buffer 0
  let columnTile ← table.i32s buffer 1
  let tileOffset ← table.i32s buffer 2
  let columnOffset ← table.i32s buffer 3
  let localRow ← table.i32s buffer 4
  let rowSize ← table.i32s buffer 5
  return { rowTile, columnTile, tileOffset, columnOffset, localRow, rowSize }

end TileLayout

/-- An input or output of an executable. -/
structure Layer where
  name : String
  /-- The padded size of one execution on the chip, in octets. -/
  paddedSize : Nat
  rows : Nat
  columns : Nat
  channels : Nat
  type : DataType
  /-- How often the layer is produced per inference. -/
  executions : Nat := 1
  /-- How the layer is spread over tiles. -/
  layout : Option TileLayout := none
  deriving DecidableEq, Repr

namespace Layer

/-- A layer without padding, produced once and not spread over tiles (`new`). -/
def dense (name : String) (type : DataType) (rows columns channels : Nat) : Layer :=
  { name, type, rows, columns, channels, paddedSize := rows * columns * channels * type.size }

/-- The number of elements of one execution (`element_count`). -/
def elements (layer : Layer) : Nat := layer.rows * layer.columns * layer.channels

/-- The logical size of all executions in octets (`actual_size_bytes`). -/
def actualSize (layer : Layer) : Nat := layer.elements * layer.type.size * layer.executions

/-- The size of all executions on the chip in octets (`padded_size_bytes`). -/
def chipSize (layer : Layer) : Nat := layer.paddedSize * layer.executions

/-- The number of elements, in words. -/
def elementsWord (layer : Layer) : UInt64 :=
  UInt64.ofNat layer.rows * UInt64.ofNat layer.columns * UInt64.ofNat layer.channels

/-- The logical size of all executions, in words. -/
def actualSizeWord (layer : Layer) : UInt64 :=
  layer.elementsWord * UInt64.ofNat layer.type.size * UInt64.ofNat layer.executions

/-- The size of all executions on the chip, in words. -/
def chipSizeWord (layer : Layer) : UInt64 :=
  UInt64.ofNat layer.paddedSize * UInt64.ofNat layer.executions

/-- Whether the layer has channels only. -/
def isOneDimensional (layer : Layer) : Bool := layer.columns == 1 && layer.rows == 1

/-- The number in the union field that says that a layer is an output layer. -/
def outputTag : UInt8 := 1

/-- The table of a layer. -/
def toTree (layer : Layer) : Tree :=
  [(0, .text layer.name), (1, sizeValue layer.paddedSize), (2, sizeValue layer.rows),
    (3, sizeValue layer.columns), (4, sizeValue layer.channels), (6, .i16 layer.type.raw),
    (9, sizeValue layer.executions)] ++
  match layer.layout with
  | none => []
  | some layout => [(7, .u8 outputTag), (8, .table [(0, .table layout.toTree)])]

/-- The layout of the layer that a table holds: only output layers have one. -/
def layoutOfTable (buffer : Bytes) (table : TableView) :
    Except ModelError (Option TileLayout) := do
  if (← table.u8 buffer 7 0) != outputTag then
    return none
  match ← table.table? buffer 8 with
  | none => throw (.missingField "Layer" "any_layer")
  | some output =>
    match ← output.table? buffer 0 with
    | none => return none
    | some layout => return some (← TileLayout.ofTable buffer layout)

/-- The layer that a table holds. A layer is produced at least once. -/
def ofTable (buffer : Bytes) (table : TableView) : Except ModelError Layer := do
  let some name ← table.text? buffer 0 | throw (.missingField "Layer" "name")
  let layout ← layoutOfTable buffer table
  let paddedSize ← sizeOfField (← table.i32 buffer 1 0) "Layer.size_bytes"
  let rows ← sizeOfField (← table.i32 buffer 2 0) "Layer.y_dim"
  let columns ← sizeOfField (← table.i32 buffer 3 0) "Layer.x_dim"
  let channels ← sizeOfField (← table.i32 buffer 4 0) "Layer.z_dim"
  let type ← DataType.ofRaw (← table.i16 buffer 6 0)
  let executions ← sizeOfField (← table.i32 buffer 9 1) "Layer.execution_count_per_inference"
  return { name, paddedSize, rows, columns, channels, type, layout, executions := max executions 1 }

theorem actualSize_eq (layer : Layer) :
    layer.actualSize = layer.elements * layer.executions * layer.type.size := by
  simp [actualSize, Nat.mul_right_comm]

/-- In words, the number of elements is the one that there are, modulo `2 ^ 64`. -/
theorem elementsWord_eq (layer : Layer) : layer.elementsWord = UInt64.ofNat layer.elements := by
  rw [elementsWord, elements, UInt64.ofNat_mul, UInt64.ofNat_mul]

theorem actualSizeWord_eq (layer : Layer) :
    layer.actualSizeWord = UInt64.ofNat layer.actualSize := by
  rw [actualSizeWord, elementsWord_eq, actualSize, UInt64.ofNat_mul, UInt64.ofNat_mul]

theorem chipSizeWord_eq (layer : Layer) : layer.chipSizeWord = UInt64.ofNat layer.chipSize := by
  rw [chipSizeWord, chipSize, UInt64.ofNat_mul]

end Layer

end TensorLink

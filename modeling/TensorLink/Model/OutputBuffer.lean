import TensorLink.Model.Bias
import TensorLink.Model.Layer

/-!
# Output buffers

The chip writes an output layer the way its tiles hold it: each tile returns a chunk, rows within a
chunk may be padded, and so may the channels of a position. An output buffer holds this image, its
scratch, and copies it out as a dense tensor by rows, columns and channels.

A position lies at

    tileOffset[rowTile[y] + columnTile[x]] + localRow[y] * rowSize[x] + columnOffset[x] + channel

elements into the scratch. Consecutive columns of one tile lie one stride apart. What has been
copied when an error arises stays in the destination.

Reference: `edgetpu-models`, `relayout`; SPEC_FULL 4.3, relayout.

* `ofLayer_eq_ok_iff`: which layers have an output buffer.
* `length_scratch`: a fresh scratch has the size of the layer on the chip.
-/

namespace TensorLink

/-- An output layer with the scratch that its output lands in (`OutputLayer`). -/
structure OutputBuffer where
  layer : Layer
  scratch : Bytes
  deriving DecidableEq, Repr

/-- Copying into a destination, which keeps what was copied before an error. -/
abbrev CopyM := EStateM ModelError Bytes

namespace OutputBuffer

/-- Whether the maps of a layout cover the rows and columns of a layer. -/
def covers (layout : TileLayout) (layer : Layer) : Bool :=
  layer.rows ≤ layout.rowTile.length && layer.rows ≤ layout.localRow.length &&
  layer.columns ≤ layout.columnTile.length && layer.columns ≤ layout.columnOffset.length &&
  layer.columns ≤ layout.rowSize.length

/-- The buffer of a layer, with an empty scratch (`new`). -/
def ofLayer (layer : Layer) : Except ModelError OutputBuffer :=
  let fresh : OutputBuffer := ⟨layer, Bytes.zeros layer.chipSize⟩
  if layer.isOneDimensional then .ok fresh
  else
    match layer.layout with
    | none =>
      .error (.invalidLayer layer.name "multi-dimensional output has no tile layout")
    | some layout =>
      if covers layout layer then .ok fresh
      else
        .error (.invalidLayer layer.name "tile layout maps are shorter than the layer dimensions")

/-- The size of the dense tensor in octets (`dense_size_bytes`). -/
def denseSize (buffer : OutputBuffer) : Nat := buffer.layer.actualSize

/-- A refusal that names the layer. -/
def invalid (buffer : OutputBuffer) (reason : String) : ModelError :=
  .invalidLayer buffer.layer.name reason

/-- The size of the channels of one position in octets. -/
def positionSize (buffer : OutputBuffer) : Nat := buffer.layer.channels * buffer.layer.type.size

/-! ## Positions in the scratch -/

/-- The layout of the layer. -/
def layout (buffer : OutputBuffer) : Except ModelError TileLayout :=
  match buffer.layer.layout with
  | some layout => .ok layout
  | none => .error (buffer.invalid "no tile layout")

/-- An entry of one of the maps of a layout (`map`). -/
def entry (buffer : OutputBuffer) (map : List Int32) (index : Nat) (what : String) :
    Except ModelError Int :=
  match map[index]? with
  | some value => .ok value.toInt
  | none => .error (buffer.invalid s!"{what} has no entry {index}")

/-- What a row contributes to a position. -/
structure RowIndex where
  tile : Int
  row : Int

/-- The contribution of a row (`y_index`). -/
def rowIndex (buffer : OutputBuffer) (y : Nat) : Except ModelError RowIndex := do
  let layout ← buffer.layout
  let tile ← buffer.entry layout.rowTile y "y tile map"
  let row ← buffer.entry layout.localRow y "y local offset map"
  return ⟨tile, row⟩

/-- The largest channel number. Positions are counted in signed numbers of 64 bits. -/
def maxChannel : Nat := UInt64.size / 2 - 1

/-- The number of elements before a position of a row (`buffer_index`). It is exact. As entries of
maps have 32 bits, a signed word of 64 bits holds it for every channel number below `2 ^ 62`. -/
def elementIndex (buffer : OutputBuffer) (row : RowIndex) (x channel : Nat) :
    Except ModelError Int := do
  let layout ← buffer.layout
  let tile := row.tile + (← buffer.entry layout.columnTile x "x tile map")
  if tile < 0 then
    throw (buffer.invalid s!"negative tile id {tile}")
  let start ← buffer.entry layout.tileOffset tile.toNat "tile offset map"
  let rowSize ← buffer.entry layout.rowSize x "row size map"
  let column ← buffer.entry layout.columnOffset x "x local offset map"
  if maxChannel < channel then
    throw (buffer.invalid "z out of range")
  return start + row.row * rowSize + column + channel

/-- The octets that a number of elements takes (`to_byte_offset`). -/
def octetOffset (buffer : OutputBuffer) (index : Int) : Except ModelError Nat :=
  if 0 ≤ index ∧ index.toNat * buffer.layer.type.size < UInt64.size then
    .ok (index.toNat * buffer.layer.type.size)
  else .error (buffer.invalid s!"buffer index {index} out of range")

/-- Where an element lies in the scratch (`buffer_offset`). -/
def offset (buffer : OutputBuffer) (y x channel : Nat) : Except ModelError Nat := do
  buffer.octetOffset (← buffer.elementIndex (← buffer.rowIndex y) x channel)

/-! ## Copying out -/

/-- Ends copying with an outcome that is already known. -/
def known {α : Type} : Except ModelError α → CopyM α
  | .ok value => pure value
  | .error error => throw error

/-- Copies `size` octets of the scratch from `source` to `start` of the destination. -/
def copy (buffer : OutputBuffer) (start source size : Nat) : CopyM Unit := do
  match buffer.scratch.slice? source size with
  | none =>
    let held := buffer.scratch.length
    throw (buffer.invalid s!"tile layout reads {size} bytes at {source}, scratch holds {held}")
  | some octets =>
    let target ← get
    if start + size ≤ target.length then
      set (target.overwrite start octets)
    else throw (buffer.invalid s!"output buffer too small for {size} bytes at {start}")

/-- Copies a layer that has channels only: the executions one after the other, without the padding
after each (`relayout_one_dimensional`). -/
def copyVector (buffer : OutputBuffer) : CopyM Unit := do
  let size := buffer.positionSize
  let executions := buffer.layer.executions
  let chipSize := buffer.layer.chipSize
  let actualSize := buffer.layer.actualSize
  if executions = 1 ∨ chipSize = actualSize then
    buffer.copy 0 0 (size * executions)
  else
    let padding := (chipSize - actualSize) / executions
    (List.range executions).forM fun execution =>
      buffer.copy (execution * size) (execution * (size + padding)) size

/-- The lengths of the runs of equal elements of a list that follows `length` copies of `last`. -/
def runLengths {α : Type} [DecidableEq α] (last : α) (length : Nat) : List α → List Nat
  | [] => [length]
  | a :: rest =>
    if a = last then runLengths last (length + 1) rest else length :: runLengths a 1 rest

/-- The lengths of the maximal runs of columns that one tile holds. -/
def columnRuns : List Int32 → List Nat
  | [] => [0]
  | tile :: rest => runLengths tile 1 rest

/-- Copies the columns from `x` on of a row, run by run. -/
def copyRow (buffer : OutputBuffer) (y : Nat) (row : RowIndex) (stride : Nat) :
    Nat → List Nat → CopyM Unit
  | _, [] => pure ()
  | x, run :: runs => do
    let size := buffer.positionSize
    let index ← known (buffer.elementIndex row x 0)
    let source ← known (buffer.octetOffset index)
    (List.range run).forM fun step =>
      buffer.copy ((y * buffer.layer.columns + x + step) * size) (source + step * stride) size
    copyRow buffer y row stride (x + run) runs

/-- The distance between consecutive columns of one tile: that between the first two positions of
the layer, except that one and three octets take four. The difference is exact. A signed word of 64
bits holds it if the first position lies in a scratch of at most `2 ^ 61` octets; and in a layer
with rows and columns the first position is copied, and has to lie in the scratch. Of a layer that
has none nothing is copied, but the difference may be too large for a signed word. -/
def stride (buffer : OutputBuffer) : Except ModelError Nat := do
  let origin ← buffer.elementIndex (← buffer.rowIndex 0) 0 0
  let next ←
    if 1 < buffer.layer.columns then buffer.elementIndex (← buffer.rowIndex 0) 1 0
    else buffer.elementIndex (← buffer.rowIndex 1) 0 0
  let step ← buffer.octetOffset (next - origin)
  return if buffer.positionSize = 1 ∨ buffer.positionSize = 3 then 4 else step

/-- Copies a layer that is spread over tiles, row by row (`relayout_tiled`). -/
def copyTiles (buffer : OutputBuffer) : CopyM Unit := do
  let layout ← known buffer.layout
  let stride ← known buffer.stride
  let runs := columnRuns (layout.columnTile.take buffer.layer.columns)
  let needed := buffer.layer.elements * buffer.layer.type.size
  let target ← get
  if target.length < needed then
    throw (buffer.invalid s!"output buffer holds {target.length} bytes, layer needs {needed}")
  (List.range buffer.layer.rows).forM fun y => do
    buffer.copyRow y (← known (buffer.rowIndex y)) stride 0 runs

/-- Copies the scratch out as a dense tensor. -/
def relayout (buffer : OutputBuffer) : CopyM Unit :=
  if buffer.layer.isOneDimensional then buffer.copyVector else buffer.copyTiles

/-- Removes the sign bias from a dense tensor, if the layer's type is signed (`transform_signed`).
-/
def removeBias (buffer : OutputBuffer) (tensor : Bytes) : Except ModelError Bytes :=
  if buffer.layer.type.isSigned then
    let needed := buffer.denseSize
    if tensor.length < needed then
      .error (buffer.invalid s!"output buffer holds {tensor.length} bytes, layer needs {needed}")
    else transformSigns buffer.layer.type.size buffer.layer.elements tensor
  else .ok tensor

/-- The dense tensor of the layer, without the sign bias. -/
def tensor (buffer : OutputBuffer) : Except ModelError Bytes :=
  match buffer.relayout (Bytes.zeros buffer.denseSize) with
  | .error error _ => .error error
  | .ok _ tensor => buffer.removeBias tensor

/-- A layer has an output buffer exactly if it has channels only, or a layout that covers it. -/
theorem ofLayer_eq_ok_iff {layer : Layer} {buffer : OutputBuffer} :
    ofLayer layer = .ok buffer ↔
      buffer = ⟨layer, Bytes.zeros layer.chipSize⟩ ∧
        (layer.isOneDimensional = true ∨
          ∃ layout, layer.layout = some layout ∧ covers layout layer = true) := by
  unfold ofLayer
  by_cases flat : layer.isOneDimensional = true
  · simp only [flat, if_true, Except.ok.injEq, true_or, and_true]
    exact ⟨Eq.symm, Eq.symm⟩
  · cases spread : layer.layout with
    | none => simp [flat]
    | some layout =>
      by_cases covered : covers layout layer = true
      · simp only [flat, covered, if_true, Except.ok.injEq, Option.some.injEq, Bool.false_eq_true,
          if_false, false_or, exists_eq_left', and_true]
        exact ⟨Eq.symm, Eq.symm⟩
      · simp [flat, covered]

theorem length_scratch {layer : Layer} {buffer : OutputBuffer} (made : ofLayer layer = .ok buffer) :
    buffer.scratch.length = layer.chipSize := by
  rw [(ofLayer_eq_ok_iff.mp made).1]
  exact Bytes.length_zeros _

end OutputBuffer

end TensorLink

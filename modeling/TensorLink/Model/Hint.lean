import TensorLink.Model.Layer

/-!
# Transfer hints

An executable lists, in the order of execution, what the host has to move: a range of a named
buffer, or a chunk of instructions. Hints of any other kind ask nothing of the host.

Reference: `edgetpu-models`, `executable`; SPEC_FULL 3 and 6.

* `Role.ofRaw_raw`: a role is read back from its number.
-/

namespace TensorLink

/-- The buffer that a range hint speaks of (`Description`). -/
inductive Role where
  | outputActivation
  | inputActivation
  | parameter
  /-- Memory of the chip, which the host does not touch. -/
  | scratchpad
  deriving DecidableEq, Repr

namespace Role

/-- The number of a role in the model format. -/
def raw : Role → Int16
  | outputActivation => 0
  | inputActivation => 1
  | parameter => 2
  | scratchpad => 3

/-- The role with a given number. -/
def ofRaw (value : Int16) : Except ModelError Role :=
  match [outputActivation, inputActivation, parameter, scratchpad].find? (·.raw == value) with
  | some role => .ok role
  | none => .error (.unknownValue "Meta.desc" value.toInt)

/-- Every role is the one with its number. -/
theorem ofRaw_raw (role : Role) : ofRaw role.raw = .ok role := by cases role <;> rfl

end Role

/-- One step of an execution (`DmaHint`). -/
inductive Hint where
  /-- Move `size` octets of a buffer from `offset` on; parameters have no name. -/
  | range (role : Role) (name : String) (offset size : Nat)
  /-- Send a chunk of instructions. -/
  | instruction (chunk : Nat)
  /-- A kind of hint that asks nothing of the host. -/
  | other (kind : UInt8)
  deriving DecidableEq, Repr

namespace Hint

/-- The number in the union field of a range hint. -/
def rangeTag : UInt8 := 1

/-- The number in the union field of an instruction hint. -/
def instructionTag : UInt8 := 2

/-- The table of a hint (`encode`). -/
def toTree : Hint → Tree
  | range role name offset size =>
    let named : Tree := if name.isEmpty then [] else [(1, .text name)]
    let buffer : Tree := (0, .i16 role.raw) :: named
    let moved : Tree := [(0, .table buffer), (1, sizeValue offset), (2, sizeValue size)]
    [(0, .u8 rangeTag), (1, .table moved)]
  | instruction chunk => [(0, .u8 instructionTag), (1, .table [(0, sizeValue chunk)])]
  | other kind => [(0, .u8 kind)]

/-- The table with the particulars of a hint. -/
def particulars (buffer : Bytes) (table : TableView) : Except ModelError TableView := do
  match ← table.table? buffer 1 with
  | some hint => return hint
  | none => throw (.missingField "DmaHint" "any_hint")

/-- The hint that a table holds (`decode`). -/
def ofTable (buffer : Bytes) (table : TableView) : Except ModelError Hint := do
  let kind ← table.u8 buffer 0 0
  if kind = rangeTag then
    let hint ← particulars buffer table
    let some about ← hint.table? buffer 0 | throw (.missingField "DmaDescriptorHint" "meta")
    let role ← Role.ofRaw (← about.i16 buffer 0 0)
    let name := (← about.text? buffer 1).getD ""
    let offset ← sizeOfField (← hint.i32 buffer 1 0) "DmaDescriptorHint.offset_in_bytes"
    let size ← sizeOfField (← hint.i32 buffer 2 0) "DmaDescriptorHint.size_in_bytes"
    return range role name offset size
  else if kind = instructionTag then
    let hint ← particulars buffer table
    let chunk ← sizeOfField (← hint.i32 buffer 0 0) "InstructionHint.instruction_chunk_index"
    return instruction chunk
  else return other kind

end Hint

end TensorLink

import TensorLink.Model.Hint

/-!
# Executables

An executable is what the host streams to the chip for one inference, or to load parameters: chunks
of instructions, a string of parameters, the hints that say what to move when, and the layers that
the hints speak of.

Reference: `edgetpu-models`, `executable`; SPEC_FULL 3 and 6.

* `Purpose.ofRaw_raw`: a purpose is read back from its number.
-/

namespace TensorLink

/-- What an executable is for (`ExecutableType`). -/
inductive Purpose where
  /-- It loads its parameters and runs the inference. -/
  | standAlone
  /-- It loads parameters into the memory of the chip. -/
  | parameterCaching
  /-- It runs the inference with parameters that are loaded already. -/
  | executionOnly
  deriving DecidableEq, Repr, Inhabited

namespace Purpose

/-- The number of a purpose in the model format. -/
def raw : Purpose → Int16
  | standAlone => 0
  | parameterCaching => 1
  | executionOnly => 2

/-- The purpose with a given number. -/
def ofRaw (value : Int16) : Except ModelError Purpose :=
  match [standAlone, parameterCaching, executionOnly].find? (·.raw == value) with
  | some purpose => .ok purpose
  | none => .error (.unknownValue "Executable.type" value.toInt)

/-- Whether an executable with this purpose produces outputs. -/
def isInference : Purpose → Bool
  | standAlone | executionOnly => true
  | parameterCaching => false

/-- The name of a purpose. -/
def name : Purpose → String
  | standAlone => "StandAlone"
  | parameterCaching => "ParameterCaching"
  | executionOnly => "ExecutionOnly"

/-- Every purpose is the one with its number. -/
theorem ofRaw_raw (purpose : Purpose) : ofRaw purpose.raw = .ok purpose := by
  cases purpose <;> rfl

end Purpose

/-- What the host streams to the chip. -/
structure Executable where
  /-- Chunks of instructions, numbered by the instruction hints. -/
  bitstreams : List Bytes := []
  parameters : Bytes := []
  /-- What to move, in the order of execution. -/
  hints : List Hint := []
  inputs : List Layer := []
  /-- The outputs, in the order of the output tensors. -/
  outputs : List Layer := []
  purpose : Purpose := .standAlone
  /-- Names the set of parameters that a caching executable loads. -/
  cachingToken : UInt64 := 0
  deriving DecidableEq, Repr

namespace Executable

/-- The first input layer with a given name (`input_layer`). -/
def input? (executable : Executable) (name : String) : Option Layer :=
  executable.inputs.find? (·.name == name)

/-- The first output layer with a given name (`output_layer`). -/
def output? (executable : Executable) (name : String) : Option Layer :=
  executable.outputs.find? (·.name == name)

/-- The table of an executable. -/
def toTree (executable : Executable) : Tree :=
  let hints : Tree := [(0, .tables (executable.hints.map Hint.toTree))]
  [(5, .tables (executable.bitstreams.map fun chunk => [(0, .bytes chunk)])),
    (6, .bytes executable.parameters), (7, .table hints),
    (8, .tables (executable.inputs.map Layer.toTree)),
    (9, .tables (executable.outputs.map Layer.toTree)), (13, .i16 executable.purpose.raw),
    (14, .u64 executable.cachingToken)]

/-- The buffer of an executable. -/
def encode (executable : Executable) : Bytes := executable.toTree.encode []

/-- The executable that a buffer holds (`from_bytes`). -/
def decode (buffer : Bytes) : Except ModelError Executable := do
  let root ← TableView.root buffer
  let bitstreams ← (← root.tables buffer 5).mapM fun chunk => do
    return (← chunk.bytes? buffer 0).getD []
  let parameters := (← root.bytes? buffer 6).getD []
  let hints ←
    match ← root.table? buffer 7 with
    | none => pure []
    | some list => do (← list.tables buffer 0).mapM (Hint.ofTable buffer)
  let inputs ← (← root.tables buffer 8).mapM (Layer.ofTable buffer)
  let outputs ← (← root.tables buffer 9).mapM (Layer.ofTable buffer)
  let purpose ← Purpose.ofRaw (← root.i16 buffer 13 0)
  let cachingToken ← root.u64 buffer 14 0
  return { bitstreams, parameters, hints, inputs, outputs, purpose, cachingToken }

end Executable

end TensorLink

import TensorLink.FileSource
import TensorLink.Model.Executable

/-!
# Packages

A compiled model is a package of executables. One of them runs the inference; another may load
parameters that stay on the chip. Where several executables have the same role the last one counts.

Reference: `edgetpu-models`, `package`; SPEC_FULL 6.
-/

namespace TensorLink

/-- The index of the last element that satisfies a predicate. -/
def lastIndex? {α : Type} (p : α → Bool) : List α → Option Nat
  | [] => none
  | a :: rest =>
    match lastIndex? p rest with
    | some index => some (index + 1)
    | none => if p a then some 0 else none

/-- A decoded package. -/
structure Package where
  /-- The size of the buffer that it was decoded from. -/
  size : Nat
  executables : List Executable
  /-- The index of the executable that runs the inference. -/
  inferenceIndex : Nat
  inference : Executable
  /-- The index of the executable that loads parameters. -/
  cachingIndex : Option Nat
  caching : Option Executable
  deriving DecidableEq, Repr

namespace Package

/-- The identifier of package buffers. -/
def identifier : Bytes := [0x44, 0x57, 0x4E, 0x31]

/-- The package of the given executables, if one of them runs inference. -/
def ofExecutables (size : Nat) (executables : List Executable) : Except ModelError Package :=
  let cachingIndex := lastIndex? (fun executable => !executable.purpose.isInference) executables
  match lastIndex? (fun executable => executable.purpose.isInference) executables with
  | none => .error .noInferenceExecutable
  | some index =>
    match executables[index]? with
    | none => .error .noInferenceExecutable
    | some inference =>
      .ok { size, executables, inferenceIndex := index, inference, cachingIndex,
            caching := cachingIndex.bind (executables[·]?) }

/-- The package that a buffer holds (`from_bytes`). -/
def decode (buffer : Bytes) : Except ModelError Package := do
  let root ← TableView.root buffer
  match ← root.bytes? buffer 1 with
  | none | some [] => throw (.missingField "Package" "serialized_multi_executable")
  | some inner =>
    let list ← TableView.root inner
    let executables ← (← list.byteStrings inner 0).mapM Executable.decode
    ofExecutables buffer.length executables

/-- The buffer of a package. -/
def encode (executables : List Executable) : Bytes :=
  let inner : Tree := [(0, .byteStrings (executables.map Executable.encode))]
  let outer : Tree := [(1, .bytes (inner.encode []))]
  outer.encode identifier

/-- The package in a file (`from_file`). -/
def ofFile (path : String) : FileSource → Except ModelError Package
  | .missing => .error (.fileNotFound path)
  | .unreadable detail => .error (.io detail)
  | .content octets => decode octets

end Package

end TensorLink

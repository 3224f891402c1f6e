import TensorLink.Command.Report
import TensorLink.Model.Package

/-!
# Inspecting a package

The description of a package lists its executables, each with its sizes and its layers.

Reference: `edgetpu-cli`, the command `inspect`; SPEC_FULL 10.5.
-/

namespace TensorLink.Command.Inspect

/-- A text filled with blanks to at least so many characters. -/
def padded (width : Nat) (text : String) : String :=
  text ++ String.ofList (List.replicate (width - text.length) ' ')

/-- The line of a layer (`print_layer`). -/
def layer (direction : String) (layer : Layer) : String :=
  let name := padded 16 layer.name
  let dimensions := s!"{layer.rows}x{layer.columns}x{layer.channels}"
  let tiled := if layer.layout.isSome then ", tiled" else ""
  s!"     {direction} {name} {layer.type.name} {dimensions} ({layer.paddedSize} bytes{tiled})"

/-- Whether the caching token of an executable means something. -/
def showsToken (executable : Executable) : Bool :=
  executable.purpose == .parameterCaching || executable.cachingToken != 0

/-- The lines of an executable, after a blank one. -/
def executable (index : Nat) (executable : Executable) : List String :=
  let token := Text.Hex.padded 16 executable.cachingToken.toNat
  let chunks := executable.bitstreams.length
  let octets := executable.bitstreams.flatten.length
  ["", s!"[{index}] {executable.purpose.name}"] ++
    (if showsToken executable then [s!"     Caching token  {token}"] else []) ++
    [s!"     Instructions   {chunks} chunks, {octets} bytes",
      s!"     Parameters     {executable.parameters.length} bytes",
      s!"     DMA hints      {executable.hints.length}"] ++
    executable.inputs.map (layer "in ") ++ executable.outputs.map (layer "out")

/-- The lines of the package at a path. -/
def package (path : String) (package : Package) : List String :=
  [s!"Package      : {path} ({package.size} bytes)",
    s!"Executables  : {package.executables.length}"] ++
    (package.executables.mapIdx executable).flatten

/-- Describes the package at a path (`cmd_inspect`). -/
def run (path : String) (source : FileSource) : RunM Unit :=
  match Package.ofFile path source with
  | .error error => throw ⟨s!"decoding {path}", error.message :: error.causes⟩
  | .ok decoded => (package path decoded).forM RunM.line

end TensorLink.Command.Inspect

import TensorLink.Inference.DataStream
import TensorLink.Model.Executable
import TensorLink.Model.OutputBuffer
import TensorLink.Part

/-!
# Inference

A session is an executable with a scratch for each of its outputs. Invoking it turns its hints, in
their order, into calls of a data stream:

| Hint | Call |
|------|------|
| parameter range | send that range of the parameters |
| input range | send that range of the input, signed elements biased |
| output range | receive so many octets into the start of the scratch of the named layer |
| instructions | send that chunk |

After the last hint one event is read; then each scratch is turned into a dense tensor. The caller's
buffers are checked before the first call, and written only when every tensor is at hand.

Reference: `edgetpu-driver`, `executable`; SPEC_FULL 4.3.

* `length_fillOutputs`: writing tensors neither adds nor removes buffers.
-/

namespace TensorLink

/-- An executable with the scratches of its outputs (`LoadedExecutable`). -/
structure Session where
  executable : Executable
  outputs : List OutputBuffer
  deriving DecidableEq, Repr

/-- How an invocation ended: its outcome, the session, the caller's buffers and the stream. -/
structure Invoked (σ : Type) where
  outcome : Except DriverError EventRecord
  session : Session
  outputs : List Bytes
  stream : σ

namespace Session

variable {σ : Type}

/-- An outcome about a model as an outcome of the driver. -/
def ofModel {α : Type} (result : Except ModelError α) : Except DriverError α :=
  result.mapError .model

/-- The session of an executable, with empty scratches. -/
def load (executable : Executable) : Except ModelError Session := do
  return ⟨executable, ← executable.outputs.mapM OutputBuffer.ofLayer⟩

/-- The sizes of the output tensors (`output_sizes`). -/
def outputSizes (session : Session) : List Nat := session.outputs.map (·.denseSize)

/-- Output buffers of the right sizes, filled with zeros (`allocate_outputs`). -/
def allocateOutputs (session : Session) : List Bytes := session.outputSizes.map Bytes.zeros

/-- A range of the input that is sent, with the name of its layer. -/
structure InputRange where
  name : String
  offset : Nat
  size : Nat

/-- The ranges of the input that are sent, in the order of execution (`input_hints`). -/
def inputRanges (session : Session) : List InputRange :=
  session.executable.hints.filterMap fun hint =>
    match hint with
    | .range .inputActivation name offset size => some ⟨name, offset, size⟩
    | _ => none

/-- The size of the smallest input that covers every range that is sent (`input_size`). -/
def inputSize (session : Session) : Nat :=
  (session.inputRanges.map fun range => range.offset + range.size).foldl max 0

/-! ## Before the first call -/

/-- Refuses output buffers that are too few or too small (`check_outputs`). -/
def checkOutputs (session : Session) (outputs : List Bytes) : Except DriverError Unit := do
  let want := session.outputs.length
  if outputs.length < want then
    throw (.invalidArgument s!"{outputs.length} output buffers for {want} output layers")
  match (session.outputs.zip outputs).find? fun (layer, buffer) =>
      buffer.length < layer.denseSize with
  | none => return ()
  | some (output, buffer) =>
    let name := output.layer.name
    let needed := output.denseSize
    let held := buffer.length
    throw (.invalidArgument s!"output '{name}' needs {needed} bytes, buffer holds {held}")

/-- The starts of the whole elements of the given size in a range. -/
def elementStarts (range : InputRange) (element : Nat) : List Nat :=
  (List.range (range.size / element)).map fun index => range.offset + index * element

/-- An input in which some elements have been biased, and where these start. -/
structure Staged where
  input : Bytes
  biased : List Nat

/-- Biases the element at a position, unless the element there is biased already. -/
def biasElement (element : Nat) (staged : Staged) (start : Nat) : Staged :=
  if staged.biased.contains start then staged
  else ⟨staged.input.modify (start + element - 1) flipTop, start :: staged.biased⟩

/-- Biases the elements of a range, if it belongs to a layer of a signed type. -/
def biasRange (session : Session) (staged : Staged) (range : InputRange) : Staged :=
  match session.executable.input? range.name with
  | none => staged
  | some layer =>
    if layer.type.isSigned then
      (elementStarts range layer.type.size).foldl (biasElement layer.type.size) staged
    else staged

/-- The input as it is sent: every element of a signed layer is biased once (`stage_input`). -/
def stageInput (session : Session) (input : Bytes) : Except DriverError Bytes :=
  let needed := session.inputSize
  if input.length < needed then
    .error (.invalidArgument s!"input holds {input.length} bytes, hints address {needed}")
  else .ok (session.inputRanges.foldl (biasRange session) ⟨input, []⟩).input

/-! ## The hints -/

/-- The scratches of the outputs beside the stream. -/
structure Running (σ : Type) where
  outputs : List OutputBuffer
  stream : σ

/-- The stream, as a part of a run. -/
def streamPart : Part (Running σ) σ :=
  ⟨Running.stream, fun stream running => { running with stream }⟩

/-- A call of the stream, beside the scratches. -/
def onStream {α : Type} (call : DeviceM σ α) : DeviceM (Running σ) α := streamPart.focus call

/-- A range of octets that a hint speaks of. -/
def region (data : Bytes) (offset size : Nat) (what : String) : Except DriverError Bytes :=
  match data.slice? offset size with
  | some octets => .ok octets
  | none =>
    let held := data.length
    .error (.protocol s!"{what} hint {offset}+{size} outside {held} bytes")

/-- Replaces the first output that has a given name. -/
def replaceOutput (name : String) (output : OutputBuffer) : List OutputBuffer → List OutputBuffer
  | [] => []
  | first :: rest =>
    if first.layer.name == name then output :: rest else first :: replaceOutput name output rest

/-- Receives `size` octets into the start of the scratch of the first output of a given name; a name
that no output has is passed over. -/
def receiveOutput (stream : DataStream σ) (name : String) (size : Nat) :
    DeviceM (Running σ) Unit := fun running =>
  match running.outputs.find? (·.layer.name == name) with
  | none => .ok () running
  | some output =>
    let held := output.scratch.length
    if held < size then
      .error (.protocol s!"output hint of {size} bytes exceeds '{name}' scratch of {held} bytes")
        running
    else
      let (received, state) := stream.receive (output.scratch.take size) running.stream
      let filled := { output with scratch := received.buffer ++ output.scratch.drop size }
      let running := ⟨replaceOutput name filled running.outputs, state⟩
      match received.outcome with
      | .ok () => .ok () running
      | .error error => .error error running

/-- Carries out one hint. -/
def perform (stream : DataStream σ) (executable : Executable) (input : Bytes) :
    Hint → DeviceM (Running σ) Unit
  | .range .parameter _ offset size => do
    let data ← DeviceM.ofExcept (region executable.parameters offset size "parameters")
    onStream (stream.send .parameters data)
  | .range .inputActivation _ offset size => do
    let data ← DeviceM.ofExcept (region input offset size "input")
    onStream (stream.send .inputActivations data)
  | .range .outputActivation name _ size => receiveOutput stream name size
  | .range .scratchpad .. => pure ()
  | .instruction chunk =>
    match executable.bitstreams[chunk]? with
    | some octets => onStream (stream.send .instructions octets)
    | none =>
      let chunks := executable.bitstreams.length
      throw (.protocol s!"instruction hint {chunk} of {chunks} chunks")
  | .other _ => pure ()

/-- Carries out every hint, reads the event, and makes the tensors. -/
def execute (stream : DataStream σ) (executable : Executable) (input : Bytes) :
    DeviceM (Running σ) (EventRecord × List Bytes) := do
  executable.hints.forM (perform stream executable input)
  let event ← onStream stream.readEvent
  let running ← get
  let tensors ← DeviceM.ofExcept (ofModel (running.outputs.mapM OutputBuffer.tensor))
  return (event, tensors)

/-- Writes tensors over the starts of the caller's buffers. -/
def fillOutputs : List Bytes → List Bytes → List Bytes
  | tensor :: tensors, buffer :: buffers =>
    (tensor ++ buffer.drop tensor.length) :: fillOutputs tensors buffers
  | _, buffers => buffers

/-- Runs the executable once (SPEC_FULL 4.3, `invoke`). -/
def invoke (stream : DataStream σ) (session : Session) (input : Bytes) (outputs : List Bytes)
    (state : σ) : Invoked σ :=
  let checked := do
    session.checkOutputs outputs
    session.stageInput input
  match checked with
  | .error error => ⟨.error error, session, outputs, state⟩
  | .ok staged =>
    match execute stream session.executable staged ⟨session.outputs, state⟩ with
    | .error error running =>
      ⟨.error error, { session with outputs := running.outputs }, outputs, running.stream⟩
    | .ok (event, tensors) running =>
      ⟨.ok event, { session with outputs := running.outputs }, fillOutputs tensors outputs,
        running.stream⟩

/-- Writing tensors neither adds nor removes buffers. -/
theorem length_fillOutputs (tensors buffers : List Bytes) :
    (fillOutputs tensors buffers).length = buffers.length := by
  fun_induction fillOutputs tensors buffers with
  | case1 tensor tensors buffer buffers ih => simp [ih]
  | case2 => rfl

end Session

end TensorLink

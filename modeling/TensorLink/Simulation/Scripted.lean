import TensorLink.Transport.Device
import TensorLink.Transport.Link

/-!
# Scripted transports

A transport over a simulated device that may be told, submission by submission, what becomes of it.
Each of the control pipe, the bulk-out pipes and the bulk-in pipes follows its own list of
directives; a submission for which none is left is passed to the device.

| Directive | The device sees the submission | The submission |
|-----------|--------------------------------|----------------|
| `pass` | yes | completes at once with what the device answers |
| `reply` | no | completes at once with the given result |
| `refuse` | no | is not accepted |
| `never` | no | is accepted and never completes |
| `hold` | yes | completes when it is released |
-/

namespace TensorLink.Simulation

/-- What becomes of a submission. -/
inductive Directive (α : Type) where
  | pass
  | reply (result : Except DriverError α)
  | refuse (error : DriverError)
  | never
  | hold

/-- What becomes of the submissions to come. -/
structure Script where
  control : List (Directive Bytes) := []
  bulkOut : List (Directive Nat) := []
  bulkIn : List (Directive Bytes) := []

/-- Directives for the submissions after those that a script speaks of. -/
def Script.append (script more : Script) : Script :=
  ⟨script.control ++ more.control, script.bulkOut ++ more.bulkOut, script.bulkIn ++ more.bulkIn⟩

/-- A call that a transport has seen. -/
inductive TransportCall where
  | openPipe (endpoint : Endpoint)
  | control (setup : SetupPacket) (data : Bytes)
  | bulkOut (address : UInt8) (data : Bytes)
  | bulkIn (address : UInt8) (size : Nat)

/-- A simulated device behind a transport that follows a script. -/
structure Scripted (κ δ : Type) where
  device : δ
  script : Script := {}
  /-- The addresses of the endpoints whose pipes do not open. -/
  refused : List UInt8 := []
  /-- The completions that are held back, oldest first, each with the label of its submission. -/
  held : List (κ × Completion) := []
  /-- The calls seen so far, the latest first. -/
  calls : List TransportCall := []

namespace Scripted

variable {κ δ : Type}

/-- Records a call. -/
def note (call : TransportCall) (scripted : Scripted κ δ) : Scripted κ δ :=
  { scripted with calls := call :: scripted.calls }

/-- Opens a pipe, unless it is refused. -/
def openPipe (endpoint : Endpoint) : DeviceM (Scripted κ δ) Unit := do
  modify (note (.openPipe endpoint))
  if (← get).refused.contains endpoint.address then
    throw (.endpointUnavailable endpoint.address "pipe refused")

/-- Follows a directive: `run` is what the device does, and `hold` makes a completion that can be
held back of its result. -/
def follow {α : Type} (directive : Directive α) (label : κ) (run : DeviceM δ α)
    (hold : Except DriverError α → Completion) (scripted : Scripted κ δ) :
    Submission α × Scripted κ δ :=
  match directive with
  | .pass =>
    let (result, device) := run.outcome scripted.device
    (.completed result, { scripted with device })
  | .reply result => (.completed result, scripted)
  | .refuse error => (.refused error, scripted)
  | .never => (.pending, scripted)
  | .hold =>
    let (result, device) := run.outcome scripted.device
    (.pending, { scripted with device, held := scripted.held ++ [(label, hold result)] })

/-- The directive for the next submission of a list. -/
def next {α : Type} (directives : List (Directive α)) : Directive α := directives.headD .pass

/-- The script without the directive for one control transfer. -/
def dropControl (scripted : Scripted κ δ) : Scripted κ δ :=
  { scripted with script := { scripted.script with control := scripted.script.control.tail } }

/-- The script without the directive for one bulk transfer to the device. -/
def dropBulkOut (scripted : Scripted κ δ) : Scripted κ δ :=
  { scripted with script := { scripted.script with bulkOut := scripted.script.bulkOut.tail } }

/-- The script without the directive for one bulk transfer to the host. -/
def dropBulkIn (scripted : Scripted κ δ) : Scripted κ δ :=
  { scripted with script := { scripted.script with bulkIn := scripted.script.bulkIn.tail } }

/-- The transport over a device. -/
def transport (model : DeviceModel δ) : Transport κ (Scripted κ δ) where
  openPipe := openPipe
  control label setup data scripted :=
    follow (next scripted.script.control) label (model.control setup data) .octets
      (scripted.dropControl.note (.control setup data))
  bulkOut label address data scripted :=
    follow (next scripted.script.bulkOut) label (model.bulkOut address data) .count
      (scripted.dropBulkOut.note (.bulkOut address data))
  bulkIn label address size scripted :=
    follow (next scripted.script.bulkIn) label (model.bulkIn address size) .octets
      (scripted.dropBulkIn.note (.bulkIn address size))

/-- Changes the device. -/
def onDevice (change : δ → δ) (scripted : Scripted κ δ) : Scripted κ δ :=
  { scripted with device := change scripted.device }

/-- Gives directives for later submissions. -/
def extend (more : Script) (scripted : Scripted κ δ) : Scripted κ δ :=
  { scripted with script := scripted.script.append more }

/-- Releases the oldest completion that is held back. -/
def release? (scripted : Scripted κ δ) : Option ((κ × Completion) × Scripted κ δ) :=
  match scripted.held with
  | [] => none
  | first :: rest => some (first, { scripted with held := rest })

/-- The calls since the last look, oldest first, and the transport with none to look at. -/
def takeCalls (scripted : Scripted κ δ) : List TransportCall × Scripted κ δ :=
  (scripted.calls.reverse, { scripted with calls := [] })

end Scripted

end TensorLink.Simulation

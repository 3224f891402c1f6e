import TensorLink.Transport.Basic

/-!
# Pipes

An accelerator has six endpoints, and the host opens a pipe for each. The sizes of bulk packets are
set to what the hardware takes. Only the interrupt pipe may fail to open: it is then marked as not
connected.

Reference: `edgetpu-driver`, `transport`; SPEC_FULL 4.0, pipe opening.
-/

namespace TensorLink

/-- A pipe and whether it could be opened. -/
structure Pipe where
  endpoint : Endpoint
  connected : Bool
  deriving DecidableEq, Repr

/-- The pipes of an interface, in the order of its endpoints. -/
structure PipeSet where
  pipes : List Pipe
  deriving DecidableEq, Repr

namespace PipeSet

/-- The number of endpoints of an accelerator (`ENDPOINT_COUNT`). -/
def endpointCount : Nat := 6

/-- An endpoint with its packet size set to what the hardware takes. -/
def adjust (endpoint : Endpoint) : Endpoint :=
  match endpoint.kind with
  | .bulkOut => { endpoint with maxPacket := Endpoint.outputPacket }
  | .bulkIn => { endpoint with maxPacket := Endpoint.inputPacket }
  | .interruptIn => endpoint

/-- Opens the pipe of an endpoint; an interrupt pipe may stay unconnected. -/
def openPipe {σ : Type} (opener : Endpoint → DeviceM σ Unit) (endpoint : Endpoint) :
    DeviceM σ Pipe := fun state =>
  match opener (adjust endpoint) state with
  | .ok _ state => .ok ⟨adjust endpoint, true⟩ state
  | .error error state =>
    if endpoint.kind = .interruptIn then .ok ⟨adjust endpoint, false⟩ state
    else .error error state

/-- Opens the pipes of endpoints one after the other. -/
def openAll {σ : Type} (opener : Endpoint → DeviceM σ Unit) : List Endpoint → DeviceM σ (List Pipe)
  | [] => pure []
  | endpoint :: rest => do
    let pipe ← openPipe opener endpoint
    let pipes ← openAll opener rest
    return pipe :: pipes

/-- Opens the pipes of an interface with the given endpoints. -/
def «open» {σ : Type} (opener : Endpoint → DeviceM σ Unit) (endpoints : List Endpoint) :
    DeviceM σ PipeSet := do
  if endpoints.length ≠ endpointCount then
    let found := endpoints.length
    throw (.protocol s!"interface has {found} endpoints, expected {endpointCount}")
  return ⟨← openAll opener endpoints⟩

/-- Succeeds if every pipe but interrupt pipes is connected. -/
def status (set : PipeSet) : Except DriverError Unit :=
  match set.pipes.find? fun pipe => !pipe.connected && pipe.endpoint.kind != .interruptIn with
  | some pipe => .error (.endpointUnavailable pipe.endpoint.address "pipe not connected")
  | none => .ok ()

/-- The first pipe of a kind for an endpoint number. -/
def find? (set : PipeSet) (kind : EndpointKind) (number : UInt8) : Option Pipe :=
  set.pipes.find? fun pipe => pipe.endpoint.kind == kind && pipe.endpoint.number == number

end PipeSet

end TensorLink

import TensorLink.Transport.Device

/-!
# A firmware loader in software

A chip that waits for firmware. Blocks are written to its flash, which grows with them; an upload
returns what the flash holds of a block. One octet of every upload may be made to come back wrong.

Reference: `edgetpu-driver`, `software`; SPEC_FULL 2, software transport.

* `length_upload_le`: an upload returns at most the octets asked for.
-/

namespace TensorLink.Simulation

/-- A class request that the loader has answered. -/
structure RequestTrace where
  request : UInt8
  value : UInt16
  /-- The number of octets sent with the request, or else returned by it. -/
  length : Nat
  deriving DecidableEq, Repr

/-- The state of the simulated loader (`SimulatedDfuDevice`). -/
structure Loader where
  flash : Bytes := []
  /-- The state that status requests report. -/
  state : UInt8 := 2
  /-- Whether the end of the image has been announced. -/
  manifested : Bool := false
  /-- Whether the loader has been told to detach. -/
  detached : Bool := false
  /-- The position whose octet comes back inverted. -/
  corrupt : Option Nat := none
  /-- The class requests answered so far, the latest first. -/
  requests : List RequestTrace := []

namespace Loader

def idle : UInt8 := 2

def downloadIdle : UInt8 := 5

def manifesting : UInt8 := 7

def uploadIdle : UInt8 := 9

/-- How often a class request has been answered. -/
def count (request : UInt8) (loader : Loader) : Nat :=
  loader.requests.countP (·.request = request)

/-- The flash with a block written to it; a gap before the block is filled with ones. -/
def program (block : UInt16) (data : Bytes) (loader : Loader) : Bytes :=
  let start := block.toNat * DfuRequest.blockSize
  let size := max loader.flash.length (start + data.length)
  (loader.flash.resize size 0xFF).overwrite start data

/-- What an upload of a block returns. -/
def upload (block : UInt16) (size : Nat) (loader : Loader) : Bytes :=
  let start := block.toNat * DfuRequest.blockSize
  let octets := (loader.flash.drop start).take size
  match loader.corrupt with
  | some position =>
    if start ≤ position then octets.modify (position - start) (· ^^^ 0xFF) else octets
  | none => octets

/-- The status that the loader reports. -/
def status (loader : Loader) : DfuStatus := ⟨0, 0, loader.state, 0⟩

/-- Answers a class request, or refuses one that it does not know. -/
def answer (setup : SetupPacket) (data : Bytes) (loader : Loader) :
    Except DriverError (Bytes × Loader) :=
  if setup.request = DfuRequest.detach then .ok ([], { loader with detached := true })
  else if setup.request = DfuRequest.download then
    if data.isEmpty then .ok ([], { loader with manifested := true, state := manifesting })
    else .ok ([], { loader with flash := loader.program setup.value data, state := downloadIdle })
  else if setup.request = DfuRequest.upload then
    .ok (loader.upload setup.value setup.length.toNat, { loader with state := uploadIdle })
  else if setup.request = DfuRequest.getStatus then .ok (loader.status.encode, loader)
  else if setup.request = DfuRequest.getState then .ok ([loader.state], loader)
  else if setup.request = DfuRequest.clearStatus ∨ setup.request = DfuRequest.abort then
    .ok ([], { loader with state := idle })
  else .error (.protocol s!"unknown DFU request {setup.request.toNat}")

/-- Answers a control request. -/
def control (setup : SetupPacket) (data : Bytes) : DeviceM Loader Bytes := do
  if setup.family = SetupPacket.classFamily then
    let (reply, loader) ← DeviceM.ofExcept ((← get).answer setup data)
    let length := if data.isEmpty then reply.length else data.length
    set { loader with requests := ⟨setup.request, setup.value, length⟩ :: loader.requests }
    return reply
  else if setup.request = SetupPacket.selectInterface then return []
  else
    let request := Text.Hex.padded 2 setup.request.toNat
    throw (.protocol s!"DFU device got non-class request {request}")

/-- The answer of the endpoints that a loader does not have. -/
def withoutPipes (address : UInt8) : DriverError :=
  .endpointUnavailable address "DFU interface has no bulk pipes"

/-- The loader as a device on the bus. -/
def model : DeviceModel Loader where
  control := control
  bulkOut address _ := throw (withoutPipes address)
  bulkIn address _ := throw (withoutPipes address)

/-- An upload returns at most the octets asked for. -/
theorem length_upload_le (loader : Loader) (block : UInt16) (size : Nat) :
    (loader.upload block size).length ≤ size := by
  have taken (octets : Bytes) : (octets.take size).length ≤ size := List.length_take_le ..
  unfold upload
  cases loader.corrupt with
  | none => exact taken _
  | some position =>
    simp only
    split
    · rw [List.length_modify]; exact taken _
    · exact taken _

end Loader

end TensorLink.Simulation

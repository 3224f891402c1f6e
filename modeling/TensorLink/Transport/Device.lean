import TensorLink.Transport.Basic

/-!
# Devices behind a transport

A device answers the transfers that a transport carries to it: requests on the control pipe, octets
for an endpoint, and requests for octets of an endpoint. `DeviceModel.transport` is the transport
that hands each submission to its device at once.

Reference: `edgetpu-driver`, `software`; SPEC_FULL 2, software transport.
-/

namespace TensorLink

/-- A device in state `δ`, seen from the bus (`DeviceModel`). -/
structure DeviceModel (δ : Type) where
  /-- Answers a control request; the octets are those that the host sends with it. -/
  control : SetupPacket → Bytes → DeviceM δ Bytes
  /-- Takes octets for an endpoint and says how many of them it took. -/
  bulkOut : UInt8 → Bytes → DeviceM δ Nat
  /-- Gives so many octets of an endpoint. -/
  bulkIn : UInt8 → Nat → DeviceM δ Bytes

namespace DeviceModel

variable {κ δ : Type}

/-- Runs an operation of a device to its end, as a submission (`run_job`). -/
def submit {α : Type} (operation : DeviceM δ α) (device : δ) : Submission α × δ :=
  let (result, device) := operation.outcome device
  (.completed result, device)

/-- The transport that completes every submission at once, and opens every pipe. -/
def transport (model : DeviceModel δ) : Transport κ δ where
  openPipe _ := pure ()
  control _ setup data := submit (model.control setup data)
  bulkOut _ address data := submit (model.bulkOut address data)
  bulkIn _ address size := submit (model.bulkIn address size)

end DeviceModel

end TensorLink

import TensorLink.Part
import TensorLink.Transport.Completion
import TensorLink.Usb.Interface
import TensorLink.Usb.Setup

/-!
# Transports

A transport opens the pipes of one interface and takes control, bulk-out and bulk-in submissions.
Each submission carries a label that says who waits for it, so that a completion that comes later
finds its way.

Reference: `edgetpu-driver`, `transport`; SPEC_FULL 4.0.
-/

namespace TensorLink

/-- A transport in state `τ` whose submissions carry labels of type `κ` (`UsbTransport`). -/
structure Transport (κ τ : Type) where
  /-- Prepares the pipe of an endpoint. -/
  openPipe : Endpoint → DeviceM τ Unit
  /-- Submits a control transfer; the octets are sent, or ignored if data flows to the host. -/
  control : κ → SetupPacket → Bytes → τ → Submission Bytes × τ
  /-- Submits octets for an endpoint; the transfer completes with the number of octets moved. -/
  bulkOut : κ → UInt8 → Bytes → τ → Submission Nat × τ
  /-- Asks an endpoint for so many octets. -/
  bulkIn : κ → UInt8 → Nat → τ → Submission Bytes × τ

namespace Transport

/-- The same transport under other labels. -/
def relabel {κ κ' τ : Type} (label : κ' → κ) (transport : Transport κ τ) : Transport κ' τ where
  openPipe := transport.openPipe
  control waiter := transport.control (label waiter)
  bulkOut waiter := transport.bulkOut (label waiter)
  bulkIn waiter := transport.bulkIn (label waiter)

/-- A transport in a part of a larger state. -/
def within {κ σ τ : Type} (part : Part σ τ) (transport : Transport κ τ) : Transport κ σ where
  openPipe endpoint := part.focus (transport.openPipe endpoint)
  control label setup data := part.run (transport.control label setup data)
  bulkOut label address data := part.run (transport.bulkOut label address data)
  bulkIn label address size := part.run (transport.bulkIn label address size)

end Transport

end TensorLink

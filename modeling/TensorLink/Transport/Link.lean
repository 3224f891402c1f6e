import TensorLink.Config
import TensorLink.Inference.DataStream
import TensorLink.Register.Access
import TensorLink.Transport.Basic

/-!
# Links

A link is a transport together with the completions that wait on its four pipes: the control pipe,
the bulk pipe of payloads, the bulk pipe of outputs and the bulk pipe of events. It gives access to
registers and carries inferences by submitting one transfer at a time and waiting for it.

A payload goes out as its header, then in transfers of at most the chunk size; an output comes in
the same way. A transfer that moves nothing ends both.

Reference: `edgetpu-driver`, `csr` and `stream`; SPEC_FULL 4.1 and 4.3.

* `sendChunks_nil`: nothing is submitted for an empty rest.
-/

namespace TensorLink

/-- A pipe that a link waits on. -/
inductive PipeName where
  | control
  | payload
  | output
  | event
  deriving DecidableEq, Repr

/-- How long a link waits for a transfer on a pipe, in milliseconds. -/
def PipeName.timeout (config : DriverConfig) : PipeName → Nat
  | control => config.controlTimeout
  | payload | output => config.bulkTimeout
  | event => config.eventTimeout

/-- Who waits for a submission: a pipe of a link, and the number of the submission there. -/
structure Ticket where
  owner : Nat
  pipe : PipeName
  number : Nat
  deriving DecidableEq, Repr

/-- What a transfer reports when it completes. -/
inductive Completion where
  /-- The octets that a control or bulk-in transfer returned. -/
  | octets (result : Except DriverError Bytes)
  /-- How many octets a bulk-out transfer moved. -/
  | count (result : Except DriverError Nat)

/-- A transport and the completions that wait on its pipes. -/
structure Link (τ : Type) where
  /-- Tells the links over one transport apart. -/
  owner : Nat
  transport : τ
  control : CompletionQueue Bytes := {}
  payload : CompletionQueue Nat := {}
  output : CompletionQueue Bytes := {}
  event : CompletionQueue Bytes := {}

namespace Link

variable {τ : Type}

/-- The same link with another transport behind it. -/
def onto {τ' : Type} (link : Link τ) (transport : τ') : Link τ' where
  owner := link.owner
  transport := transport
  control := link.control
  payload := link.payload
  output := link.output
  event := link.event

/-- Queues a completion that came later, unless another link waits for it. -/
def deliver (link : Link τ) (ticket : Ticket) (completion : Completion) : Link τ :=
  if ticket.owner ≠ link.owner then link
  else
    match ticket.pipe, completion with
    | .control, .octets result =>
      { link with control := link.control.complete ticket.number result }
    | .payload, .count result =>
      { link with payload := link.payload.complete ticket.number result }
    | .output, .octets result => { link with output := link.output.complete ticket.number result }
    | .event, .octets result => { link with event := link.event.complete ticket.number result }
    | _, _ => link

/-! ## Single transfers -/

/-- A control transfer, waited for. -/
def controlTransfer (carrier : Transport Ticket τ) (config : DriverConfig) (setup : SetupPacket)
    (data : Bytes) : DeviceM (Link τ) Bytes :=
  DeviceM.ofOutcome fun link =>
    let (result, control, transport) := link.control.transact (PipeName.control.timeout config)
      (fun number => carrier.control ⟨link.owner, .control, number⟩ setup data) link.transport
    (result, { link with control, transport })

/-- A transfer on the pipe of payloads, waited for. -/
def payloadTransfer (carrier : Transport Ticket τ) (config : DriverConfig) (data : Bytes) :
    DeviceM (Link τ) Nat :=
  DeviceM.ofOutcome fun link =>
    let address := Endpoint.outputAddress Endpoint.streaming
    let (result, payload, transport) := link.payload.transact (PipeName.payload.timeout config)
      (fun number => carrier.bulkOut ⟨link.owner, .payload, number⟩ address data) link.transport
    (result, { link with payload, transport })

/-- A transfer on the pipe of outputs, waited for. -/
def outputTransfer (carrier : Transport Ticket τ) (config : DriverConfig) (size : Nat) :
    DeviceM (Link τ) Bytes :=
  DeviceM.ofOutcome fun link =>
    let address := Endpoint.inputAddress Endpoint.streaming
    let (result, output, transport) := link.output.transact (PipeName.output.timeout config)
      (fun number => carrier.bulkIn ⟨link.owner, .output, number⟩ address size) link.transport
    (result, { link with output, transport })

/-- A transfer on the pipe of events, waited for. -/
def eventTransfer (carrier : Transport Ticket τ) (config : DriverConfig) :
    DeviceM (Link τ) Bytes :=
  DeviceM.ofOutcome fun link =>
    let address := Endpoint.inputAddress Endpoint.events
    let (result, event, transport) := link.event.transact (PipeName.event.timeout config)
      (fun number => carrier.bulkIn ⟨link.owner, .event, number⟩ address EventRecord.size)
      link.transport
    (result, { link with event, transport })

/-! ## Registers -/

/-- Reads a register of a given width (`read32`, `read64`). -/
def readRegister (carrier : Transport Ticket τ) (config : DriverConfig) (offset : Nat)
    (width : RegisterWidth) : DeviceM (Link τ) Nat := do
  let data ← controlTransfer carrier config (RegisterRequest.setup offset width .input) []
  let expected := width.octets
  if data.length < expected then
    let register := Text.Hex.plain offset
    let found := data.length
    throw (.transferFailed s!"CSR read {register} returned {found} bytes, expected {expected}")
  return Bytes.ofLittleEndian (data.take expected)

/-- Writes a register of a given width (`write32`, `write64`). -/
def writeRegister (carrier : Transport Ticket τ) (config : DriverConfig) (offset : Nat)
    (width : RegisterWidth) (value : Nat) : DeviceM (Link τ) Unit := do
  let _ ← controlTransfer carrier config (RegisterRequest.setup offset width .output)
    (Bytes.littleEndian width.octets value)

/-- Register access over the control pipe (`CsrChannel`). -/
def registers (carrier : Transport Ticket τ) (config : DriverConfig) :
    RegisterAccess (Link τ) where
  read32 offset := do return BitVec.ofNat 32 (← readRegister carrier config offset .bits32)
  read64 offset := do return BitVec.ofNat 64 (← readRegister carrier config offset .bits64)
  write32 offset value := writeRegister carrier config offset .bits32 value.toNat
  write64 offset value := writeRegister carrier config offset .bits64 value.toNat

/-! ## Streaming -/

/-- The size of the transfers that payloads and outputs are cut into. -/
def chunkSize (config : DriverConfig) : Nat := max config.maxChunk 1

/-- Sends the rest of a payload of `total` octets. Each transfer moves at least one octet, so as
many steps as there are octets suffice. -/
def sendChunks (carrier : Transport Ticket τ) (config : DriverConfig) (total : Nat) :
    Nat → Bytes → DeviceM (Link τ) Unit
  | _, [] => pure ()
  | 0, _ => pure ()
  | steps + 1, rest => do
    let chunk := rest.take (chunkSize config)
    let sent ← payloadTransfer carrier config chunk
    if sent = 0 then
      let cursor := total - rest.length
      throw (.transferFailed s!"bulk-out stalled at byte {cursor} of {total}")
    sendChunks carrier config total steps (rest.drop (min sent chunk.length))

/-- Sends a payload under a tag, after its header (SPEC_FULL 4.3, `send`). -/
def send (carrier : Transport Ticket τ) (config : DriverConfig) (tag : StreamTag) (data : Bytes) :
    DeviceM (Link τ) Unit := do
  let total := data.length
  if UInt32.size ≤ total then
    throw (.invalidArgument s!"{tag.name} payload of {total} bytes exceeds u32")
  let header : StreamHeader := ⟨UInt32.ofNat total, tag⟩
  let sent ← payloadTransfer carrier config header.encode
  if sent ≠ StreamHeader.size then
    let size := StreamHeader.size
    throw (.transferFailed s!"header transfer moved {sent} of {size} bytes")
  sendChunks carrier config total total data

/-- Fills the rest of a buffer of `total` octets whose front `filled` is in reverse. Each transfer
brings at least one octet, so as many steps as there are octets suffice. -/
def receiveChunks (carrier : Transport Ticket τ) (config : DriverConfig) (total : Nat) :
    Nat → Bytes → Bytes → Link τ → Received × Link τ
  | 0, filled, rest, link => (⟨filled.reverse ++ rest, .ok ()⟩, link)
  | steps + 1, filled, rest, link =>
    if rest.isEmpty then (⟨filled.reverse, .ok ()⟩, link)
    else
      let wanted := (rest.take (chunkSize config)).length
      match outputTransfer carrier config wanted link with
      | .error error link => (⟨filled.reverse ++ rest, .error error⟩, link)
      | .ok [] link =>
        let cursor := total - rest.length
        let stalled := s!"bulk-in returned no data at byte {cursor} of {total}"
        (⟨filled.reverse ++ rest, .error (.transferFailed stalled)⟩, link)
      | .ok got link =>
        let taken := got.take wanted
        receiveChunks carrier config total steps (taken.reverse ++ filled) (rest.drop taken.length)
          link

/-- Fills a buffer with octets of the output (SPEC_FULL 4.3, `receive`). -/
def receive (carrier : Transport Ticket τ) (config : DriverConfig) (buffer : Bytes)
    (link : Link τ) : Received × Link τ :=
  receiveChunks carrier config buffer.length buffer.length [] buffer link

/-- Reads the event that ends an inference, on a machine of a given byte order. -/
def readEventIn (order : ByteOrder) (carrier : Transport Ticket τ) (config : DriverConfig) :
    DeviceM (Link τ) EventRecord := do
  let data ← eventTransfer carrier config
  if data.length < EventRecord.size then
    let found := data.length
    let size := EventRecord.size
    throw (.transferFailed s!"event record of {found} bytes, expected {size}")
  return (RawEvent.load order (data.take EventRecord.size)).event order

/-- Reads the event that ends an inference (`read_event`). -/
def readEvent (carrier : Transport Ticket τ) (config : DriverConfig) :
    DeviceM (Link τ) EventRecord :=
  readEventIn .little carrier config

/-- The data stream over the bulk pipes (`BulkStream`). -/
def stream (carrier : Transport Ticket τ) (config : DriverConfig) : DataStream (Link τ) where
  send := send carrier config
  receive := receive carrier config
  readEvent := readEvent carrier config

/-- Nothing is submitted for an empty rest. -/
theorem sendChunks_nil (carrier : Transport Ticket τ) (config : DriverConfig) (total steps : Nat) :
    sendChunks carrier config total steps [] = pure () := by
  cases steps <;> rfl

end Link

end TensorLink

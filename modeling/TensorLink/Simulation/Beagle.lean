import TensorLink.Register.Chip
import TensorLink.Register.Layout
import TensorLink.Transport.Device
import TensorLink.Wire

/-!
# A Beagle in software

A chip in application mode, as far as the host can tell. It keeps one number per register; two
registers behave on their own:

* the temperature register reads with the sensor's sample in its data field;
* the power register reports sleep or wakefulness as its force-sleep field was last told, and going
  to sleep clears every run control.

Octets sent to the streaming endpoint are cut into messages by their headers. The payloads of input
messages are returned, in order, by the output endpoint, followed by zeros without end. Each read of
the event endpoint returns an event with the next number.

Reference: `edgetpu-driver`, `software`; SPEC_FULL 2, software transport.

* `registers_writeRegister_of_ne`: a write to any register but the power register changes that
  register alone.
* `registers_clearRunControls`: going to sleep clears run controls and nothing else.
-/

namespace TensorLink.Simulation

/-- A register access that the chip has seen (`CsrAccess`). -/
structure RegisterTrace where
  direction : Direction
  width : RegisterWidth
  offset : Nat
  /-- The value read or written. -/
  value : BitVec 64
  deriving DecidableEq, Repr

/-- A message that has arrived on the streaming endpoint. -/
structure Message where
  tag : StreamTag
  payload : Bytes
  deriving DecidableEq, Repr

/-- A bulk transfer to an endpoint: the endpoint's address and the number of octets. -/
structure BulkTrace where
  address : UInt8
  length : Nat
  deriving DecidableEq, Repr

/-- The state of the simulated chip. The records of what it has seen start with the latest
(`SimulatedBeagle`). -/
structure Beagle where
  /-- The value of every register. -/
  registers : Nat → BitVec 64
  /-- The sample of the temperature sensor. -/
  sample : Nat := 460
  accesses : List RegisterTrace := []
  transfers : List BulkTrace := []
  /-- The header whose payload is arriving. -/
  pending : Option StreamHeader := none
  /-- What has arrived of a payload. -/
  payload : Bytes := []
  received : List Message := []
  /-- What the output endpoint returns next. -/
  outfeed : Bytes := []
  /-- The number of events that have been read. -/
  events : Nat := 0
  /-- The interface setting that was selected last. -/
  setting : Option UInt16 := none

namespace Beagle

/-- The registers of a chip that identifies itself by a given number. -/
def identified (chipId : Nat) (offset : Nat) : BitVec 64 :=
  if offset = Chip.beagle.apex.omc000 then BitVec.ofNat 64 (chipId <<< 16) else 0

/-- A chip that is awake and idle, with a given identity (`with_chip_id`). -/
def withIdentity (chipId : Nat) : Beagle := { registers := identified chipId }

/-- A chip that is awake and idle. -/
def new : Beagle := withIdentity Chip.beagle.chipId

/-- Gives a register a value, without any other effect. -/
def setRegister (offset : Nat) (value : BitVec 64) (beagle : Beagle) : Beagle :=
  { beagle with
    registers := fun other => if other = offset then value else beagle.registers other }

/-- Queues octets for the output endpoint. -/
def pushOutput (octets : Bytes) (beagle : Beagle) : Beagle :=
  { beagle with outfeed := beagle.outfeed ++ octets }

/-- Forgets what the chip has seen (`clear_logs`). -/
def forget (beagle : Beagle) : Beagle :=
  { beagle with accesses := [], transfers := [], received := [] }

/-- The register writes that the chip has seen, oldest first. -/
def writes (beagle : Beagle) : List RegisterTrace :=
  (beagle.accesses.filter fun access => access.direction = .output).reverse

/-! ## Registers -/

/-- What reading a register returns. -/
def readRegister (offset : Nat) (beagle : Beagle) : BitVec 64 :=
  let value := beagle.registers offset
  if offset = Chip.beagle.apex.omc0Dc then
    (Omc0Dc.data.put beagle.sample (value.setWidth 32)).setWidth 64
  else value

/-- Whether an offset is that of a run control that the chip has. -/
def isRunControl (offset : Nat) : Bool :=
  (RunControlEntry.present Chip.beagle.scalarRunControls ++
    RunControlEntry.present Chip.beagle.tileRunControls).any (·.offset = offset)

/-- Clears every run control (`reset_run_controls`). -/
def clearRunControls (beagle : Beagle) : Beagle :=
  { beagle with
    registers := fun offset => if isRunControl offset then 0 else beagle.registers offset }

/-- The value of the force-sleep field that puts the chip to sleep. -/
def sleepRequest : Nat := 3

/-- The power state of a sleeping chip. -/
def sleeping : Nat := 2

/-- Writes the power register. -/
def writePower (value : BitVec 64) (beagle : Beagle) : Beagle :=
  let word : BitVec 32 := value.setWidth 32
  let entering := ScuCtrl3.forceSleep.read word = sleepRequest
  let state := if entering then sleeping else 0
  let written := beagle.setRegister Chip.beagle.scu.scuCtrl3
    ((ScuCtrl3.powerState.put state word).setWidth 64)
  if entering then written.clearRunControls else written

/-- Writes a register. -/
def writeRegister (offset : Nat) (value : BitVec 64) (beagle : Beagle) : Beagle :=
  if offset = Chip.beagle.scu.scuCtrl3 then beagle.writePower value
  else beagle.setRegister offset value

/-- Records a register access. -/
def note (direction : Direction) (width : RegisterWidth) (offset : Nat) (value : BitVec 64)
    (beagle : Beagle) : Beagle :=
  { beagle with accesses := ⟨direction, width, offset, value⟩ :: beagle.accesses }

/-- The width that a register request asks for. -/
def requestedWidth? (setup : SetupPacket) : Option RegisterWidth :=
  if setup.request = RegisterWidth.bits32.request then some .bits32
  else if setup.request = RegisterWidth.bits64.request then some .bits64
  else none

/-- Answers a register request (`csr`). -/
def registerRequest (setup : SetupPacket) (data : Bytes) : DeviceM Beagle Bytes := do
  match requestedWidth? setup with
  | none => throw (.protocol s!"unknown CSR request {setup.request.toNat}")
  | some width =>
    let offset := RegisterRequest.offset setup
    match setup.direction with
    | .input =>
      let value := (← get).readRegister offset
      modify (note .input width offset value)
      return Bytes.littleEndian width.octets value.toNat
    | .output =>
      if data.length ≠ width.octets then
        let register := Text.Hex.plain offset
        throw (.protocol
          s!"CSR write {register} carries {data.length} bytes, expected {width.octets}")
      let value := BitVec.ofNat 64 (Bytes.ofLittleEndian data)
      modify fun beagle => (beagle.note .output width offset value).writeRegister offset value
      return []

/-- Answers a control request. -/
def control (setup : SetupPacket) (data : Bytes) : DeviceM Beagle Bytes := do
  if setup.family = SetupPacket.vendorFamily then registerRequest setup data
  else if setup.request = SetupPacket.selectInterface then
    modify fun beagle => { beagle with setting := some setup.value }
    return []
  else
    let family := Text.Hex.padded 2 setup.requestType.toNat
    let request := Text.Hex.padded 2 setup.request.toNat
    throw (.protocol s!"unsupported control request {family}/{request}")

/-! ## Streaming -/

/-- Takes in the payload, which has arrived whole (`finish_payload`). -/
def finish (tag : StreamTag) (beagle : Beagle) : Beagle :=
  { beagle with
    payload := []
    received := ⟨tag, beagle.payload⟩ :: beagle.received
    outfeed :=
      if tag = .inputActivations then beagle.outfeed ++ beagle.payload else beagle.outfeed }

/-- Takes a header. -/
def takeHeader (data : Bytes) : DeviceM Beagle Unit := do
  if data.length ≠ StreamHeader.size then
    throw (.protocol s!"expected an {StreamHeader.size}-byte header, got {data.length} bytes")
  match StreamHeader.decode data with
  | none => throw (.protocol "malformed streaming header")
  | some header =>
    if header.length = 0 then modify (finish header.tag)
    else modify fun beagle => { beagle with pending := some header }

/-- Takes a part of the payload that a header announced. -/
def takePayload (header : StreamHeader) (data : Bytes) : DeviceM Beagle Unit := do
  let announced := header.length.toNat
  let length := (← get).payload.length + data.length
  if announced < length then
    throw (.protocol s!"{header.tag.name} payload overruns its header ({announced} bytes)")
  modify fun beagle => { beagle with payload := beagle.payload ++ data }
  if length = announced then
    modify fun beagle => { beagle with pending := none }.finish header.tag

/-- Takes a bulk transfer. -/
def bulkOut (address : UInt8) (data : Bytes) : DeviceM Beagle Nat := do
  if address ≠ Endpoint.outputAddress Endpoint.streaming then
    throw (.endpointUnavailable address "not a streaming endpoint")
  modify fun beagle => { beagle with transfers := ⟨address, data.length⟩ :: beagle.transfers }
  match (← get).pending with
  | none => takeHeader data
  | some header => takePayload header data
  return data.length

/-- The event that the chip reports next. -/
def nextEvent (beagle : Beagle) : EventRecord where
  address := UInt64.ofNat beagle.events
  length := 0
  tag := UInt8.ofNat StreamTag.instructions.value

/-- Answers a bulk transfer to the host. -/
def bulkIn (address : UInt8) (size : Nat) : DeviceM Beagle Bytes := do
  let beagle ← get
  if address = Endpoint.inputAddress Endpoint.streaming then
    set { beagle with outfeed := beagle.outfeed.drop size }
    return beagle.outfeed.resize size 0
  else if address = Endpoint.inputAddress Endpoint.events then
    set { beagle with events := beagle.events + 1 }
    return beagle.nextEvent.encode
  else throw (.endpointUnavailable address "no data source")

/-- The chip as a device on the bus. -/
def model : DeviceModel Beagle := ⟨control, bulkOut, bulkIn⟩

@[simp]
theorem registers_setRegister_self (beagle : Beagle) (offset : Nat) (value : BitVec 64) :
    (beagle.setRegister offset value).registers offset = value := by simp [setRegister]

/-- Giving a register a value leaves the others as they are. -/
theorem registers_setRegister_of_ne (beagle : Beagle) {offset other : Nat} (value : BitVec 64)
    (distinct : other ≠ offset) :
    (beagle.setRegister offset value).registers other = beagle.registers other := by
  simp [setRegister, distinct]

/-- A write to any register but the power register leaves the others as they are. -/
theorem registers_writeRegister_of_ne (beagle : Beagle) {offset other : Nat} (value : BitVec 64)
    (ordinary : offset ≠ Chip.beagle.scu.scuCtrl3) (distinct : other ≠ offset) :
    (beagle.writeRegister offset value).registers other = beagle.registers other := by
  simp [writeRegister, ordinary, registers_setRegister_of_ne, distinct]

theorem registers_clearRunControls (beagle : Beagle) (offset : Nat) :
    beagle.clearRunControls.registers offset =
      if isRunControl offset then 0 else beagle.registers offset := rfl

end Beagle

end TensorLink.Simulation

import TensorLink.Bytes

/-!
# Control requests

A control transfer opens with an eight-octet setup packet. The host uses three families of them:
vendor requests that read or write a register, the standard request that selects an interface
setting, and the class requests of firmware download.

Reference: `edgetpu-chip`, `usb`; SPEC_FULL 4.1 and 4.4, wire.

* `RegisterRequest.offset_setup`: a register request carries the low 32 bits of the offset.
* `DfuStatus.parse_encode`: a status record is read as written.
-/

namespace TensorLink

/-- The direction of a transfer, seen from the host. -/
inductive Direction where
  | input
  | output
  deriving DecidableEq, Repr

/-- The name of a direction. -/
def Direction.name : Direction → String
  | input => "In"
  | output => "Out"

/-- The packet that opens a control transfer. -/
structure SetupPacket where
  requestType : UInt8
  request : UInt8
  value : UInt16
  index : UInt16
  length : UInt16
  deriving DecidableEq, Repr

namespace SetupPacket

/-- The bit of a request type that says that data flows to the host. -/
def inputBit : UInt8 := 0x80

/-- The bits of a request type that tell standard, class and vendor requests apart. -/
def familyMask : UInt8 := 0x60

/-- The family of class requests. -/
def classFamily : UInt8 := 0x20

/-- The family of vendor requests. -/
def vendorFamily : UInt8 := 0x40

/-- The recipient of requests to an interface. -/
def toInterface : UInt8 := 0x01

/-- The direction in which data flows. -/
def direction (setup : SetupPacket) : Direction :=
  if setup.requestType &&& inputBit = 0 then .output else .input

/-- The family that a request belongs to. -/
def family (setup : SetupPacket) : UInt8 := setup.requestType &&& familyMask

/-- The octets of a packet. -/
def encode (setup : SetupPacket) : Bytes :=
  [setup.requestType, setup.request] ++ Bytes.littleEndian 2 setup.value.toNat ++
    Bytes.littleEndian 2 setup.index.toNat ++ Bytes.littleEndian 2 setup.length.toNat

/-- The code of the request that selects a setting of an interface. -/
def selectInterface : UInt8 := 0x0B

/-- Selects a setting of an interface (`set_interface_setup`). -/
def setInterface (interface setting : UInt16) : SetupPacket :=
  ⟨toInterface, selectInterface, setting, interface, 0⟩

end SetupPacket

/-! ## Register access -/

/-- How many bits a register access moves. -/
inductive RegisterWidth where
  | bits32
  | bits64
  deriving DecidableEq, Repr

namespace RegisterWidth

/-- The request code of a width. -/
def request : RegisterWidth → UInt8
  | bits32 => 1
  | bits64 => 0

/-- The number of octets moved. -/
def octets : RegisterWidth → Nat
  | bits32 => 4
  | bits64 => 8

/-- The number of bits moved. -/
def bits : RegisterWidth → Nat
  | bits32 => 32
  | bits64 => 64

end RegisterWidth

namespace RegisterRequest

/-- The request that reads or writes a register: `value` and `index` carry the low and the high half
of the low 32 bits of the offset (`csr_setup`). -/
def setup (offset : Nat) (width : RegisterWidth) (direction : Direction) : SetupPacket where
  requestType :=
    match direction with
    | .input => SetupPacket.inputBit ||| SetupPacket.vendorFamily
    | .output => SetupPacket.vendorFamily
  request := width.request
  value := UInt16.ofNat offset
  index := UInt16.ofNat (offset / 65536)
  length := UInt16.ofNat width.octets

/-- The offset that a request carries (`csr_offset`). -/
def offset (setup : SetupPacket) : Nat := setup.index.toNat * 65536 + setup.value.toNat

/-- A register request carries the low 32 bits of the offset. -/
theorem offset_setup (location : Nat) (width : RegisterWidth) (direction : Direction) :
    offset (setup location width direction) = location % UInt32.size := by
  simp only [offset, setup, UInt16.toNat_ofNat', UInt32.size]
  omega

end RegisterRequest

/-! ## Firmware download -/

namespace DfuRequest

def detach : UInt8 := 0

def download : UInt8 := 1

def upload : UInt8 := 2

def getStatus : UInt8 := 3

def clearStatus : UInt8 := 4

def getState : UInt8 := 5

def abort : UInt8 := 6

/-- The number of octets in a block. -/
def blockSize : Nat := 256

/-- The time in milliseconds that a device is given to detach. -/
def detachTimeout : UInt16 := 1000

/-- A class request that sends data to an interface (`out_setup`). -/
def output (request : UInt8) (value interface length : UInt16) : SetupPacket :=
  ⟨SetupPacket.classFamily ||| SetupPacket.toInterface, request, value, interface, length⟩

/-- A class request that fetches data from an interface (`in_setup`). -/
def input (request : UInt8) (value interface length : UInt16) : SetupPacket :=
  ⟨SetupPacket.inputBit ||| SetupPacket.classFamily ||| SetupPacket.toInterface, request, value,
    interface, length⟩

end DfuRequest

/-- The answer of a device to a status request (`StatusRecord`). -/
structure DfuStatus where
  /-- Zero when no error is pending. -/
  status : UInt8
  /-- How long to wait before the next status request, in milliseconds. -/
  pollTimeout : UInt32
  /-- The state of the device. -/
  state : UInt8
  /-- The index of a string that describes the status. -/
  text : UInt8
  deriving DecidableEq, Repr

namespace DfuStatus

/-- The number of octets of a record. -/
def size : Nat := 6

/-- The octets of a record; of the poll timeout the low 24 bits are kept. -/
def encode (record : DfuStatus) : Bytes :=
  record.status :: Bytes.littleEndian 3 record.pollTimeout.toNat ++ [record.state, record.text]

/-- The record at the start of a string of octets. -/
def parse (bytes : Bytes) : Option DfuStatus :=
  match bytes with
  | status :: a :: b :: c :: state :: text :: _ =>
    some ⟨status, UInt32.ofNat (Bytes.ofLittleEndian [a, b, c]), state, text⟩
  | _ => none

/-- A status record is read as it was written, if its poll timeout has 24 bits. -/
theorem parse_encode (record : DfuStatus) (bounded : record.pollTimeout.toNat < 0x1000000) :
    parse record.encode = some record := by
  obtain ⟨status, pollTimeout, state, text⟩ := record
  have read : Bytes.ofLittleEndian (Bytes.littleEndian 3 pollTimeout.toNat) =
      pollTimeout.toNat := by
    rw [Bytes.ofLittleEndian_littleEndian]
    exact Nat.mod_eq_of_lt (by simpa using bounded)
  simp only [Bytes.littleEndian] at read
  simp [encode, parse, Bytes.littleEndian, read]

end DfuStatus

end TensorLink

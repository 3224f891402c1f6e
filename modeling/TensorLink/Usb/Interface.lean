import TensorLink.Text.Hex

/-!
# Interfaces and endpoints

A device reports its interfaces, each with a class, a subclass and a list of endpoints. An
accelerator in application mode has one vendor-specific interface with six endpoints; waiting for
firmware, it has one download interface without endpoints.

Reference: `edgetpu-chip`, `usb`, and `edgetpu-driver`, `host`; SPEC_FULL 4.0, interface matching.
-/

namespace TensorLink

/-- What an endpoint transfers, and in which direction. -/
inductive EndpointKind where
  | bulkOut
  | bulkIn
  | interruptIn
  deriving DecidableEq, Repr

/-- The name of a kind of endpoint. -/
def EndpointKind.name : EndpointKind → String
  | bulkOut => "BulkOut"
  | bulkIn => "BulkIn"
  | interruptIn => "InterruptIn"

/-- An endpoint of an interface (`EndpointDescriptor`). -/
structure Endpoint where
  /-- The address; its top bit says that data flows to the host. -/
  address : UInt8
  kind : EndpointKind
  /-- The largest packet in octets. -/
  maxPacket : UInt16
  deriving DecidableEq, Repr

namespace Endpoint

/-- The address of the endpoint with a given number that sends to the host. -/
def inputAddress (number : UInt8) : UInt8 := 0x80 ||| (number &&& 0x0F)

/-- The address of the endpoint with a given number that the host sends to. -/
def outputAddress (number : UInt8) : UInt8 := number &&& 0x0F

/-- The number of an endpoint. -/
def number (endpoint : Endpoint) : UInt8 := endpoint.address &&& 0x0F

/-- The endpoint number of every payload; its input twin returns outputs. -/
def streaming : UInt8 := 1

/-- The endpoint number of events. -/
def events : UInt8 := 2

/-- The largest packet of a bulk endpoint that the host sends to. -/
def outputPacket : UInt16 := 512

/-- The largest packet of a bulk endpoint that sends to the host. -/
def inputPacket : UInt16 := 256

/-- The endpoints of an accelerator in application mode. -/
def application : List Endpoint :=
  [⟨outputAddress 1, .bulkOut, outputPacket⟩, ⟨outputAddress 2, .bulkOut, outputPacket⟩,
    ⟨outputAddress 3, .bulkOut, outputPacket⟩, ⟨inputAddress 1, .bulkIn, inputPacket⟩,
    ⟨inputAddress 2, .bulkIn, inputPacket⟩, ⟨inputAddress 3, .interruptIn, 64⟩]

end Endpoint

/-- An interface of a device (`InterfaceInfo`). -/
structure Interface where
  vendor : UInt16
  product : UInt16
  number : UInt8
  classCode : UInt8
  subclass : UInt8
  endpoints : List Endpoint
  deriving DecidableEq, Repr

namespace Interface

/-- Whether an interface has a given class and subclass (`matches`). -/
def hasClass (classCode subclass : UInt8) (interface : Interface) : Bool :=
  interface.classCode == classCode && interface.subclass == subclass

/-- The first interface with a given class and subclass (`find_interface`). -/
def find? (classCode subclass : UInt8) (interfaces : List Interface) : Option Interface :=
  List.find? (hasClass classCode subclass) interfaces

/-- The first interface that carries register and bulk traffic. -/
def findApplication? : List Interface → Option Interface := find? 0xFF 0xFF

/-- The first interface that takes firmware. -/
def findDownload? : List Interface → Option Interface := find? 0xFE 0x01

/-- What an accelerator in application mode reports. -/
def application : List Interface := [⟨0x18D1, 0x9302, 0, 0xFF, 0xFF, Endpoint.application⟩]

/-- What an accelerator that waits for firmware reports. -/
def download : List Interface := [⟨0x1A6E, 0x089A, 0, 0xFE, 0x01, []⟩]

end Interface

/-- A vendor and a product identifier, as device lists show them. -/
def identityText (vendor product : UInt16) : String :=
  String.ofList (Text.Hex.digits 4 vendor.toNat ++ ':' :: Text.Hex.digits 4 product.toNat)

/-- What the host controller reports (`HostEvent`). -/
inductive HostEvent where
  /-- A device appeared, with these interfaces. -/
  | attach (interfaces : List Interface)
  /-- The device that appeared has been enumerated. -/
  | enumerationDone
  /-- The device went away. -/
  | detach
  /-- A transfer of the host failed. -/
  | transferFailed (reason : String)
  deriving DecidableEq, Repr

end TensorLink

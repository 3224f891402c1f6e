import TensorLink.Bytes

/-!
# Records on the bulk pipes

A payload sent to the chip follows an eight-octet header that holds its length and, in the low
nibble of the fifth octet, a tag saying what the payload is. The chip reports the end of an
inference by a sixteen-octet event. An event can also be taken from memory as it lies there; its
words are then put right for the byte order of the machine.

Reference: `edgetpu-chip`, `wire`, and `edgetpu-driver`, `stream`; SPEC_FULL 3.

* `StreamHeader.decode_encode`, `EventRecord.decode_encode`: records are read as written.
* `ByteOrder.store_load`: what a machine has loaded it stores again, in either order.
-/

namespace TensorLink

/-- What a streamed payload is (`DescriptorTag`). -/
inductive StreamTag where
  | instructions
  | inputActivations
  | parameters
  | outputActivations
  | interrupt0
  | interrupt1
  | interrupt2
  | interrupt3
  deriving DecidableEq, Repr, Inhabited

namespace StreamTag

/-- The number of a tag. -/
def value : StreamTag → Nat
  | instructions => 0
  | inputActivations => 1
  | parameters => 2
  | outputActivations => 3
  | interrupt0 => 4
  | interrupt1 => 5
  | interrupt2 => 6
  | interrupt3 => 7

/-- The tag with a given number. -/
def ofNat? : Nat → Option StreamTag
  | 0 => some instructions
  | 1 => some inputActivations
  | 2 => some parameters
  | 3 => some outputActivations
  | 4 => some interrupt0
  | 5 => some interrupt1
  | 6 => some interrupt2
  | 7 => some interrupt3
  | _ => none

/-- The tag in the low nibble of an octet (`from_nibble`). -/
def ofNibble? (octet : UInt8) : Option StreamTag := ofNat? (octet.toNat % 16)

/-- The name of a tag. -/
def name : StreamTag → String
  | instructions => "instructions"
  | inputActivations => "input-activations"
  | parameters => "parameters"
  | outputActivations => "output-activations"
  | interrupt0 => "interrupt0"
  | interrupt1 => "interrupt1"
  | interrupt2 => "interrupt2"
  | interrupt3 => "interrupt3"

/-- Every tag is the one with its number. -/
theorem ofNat?_value (tag : StreamTag) : ofNat? tag.value = some tag := by cases tag <;> rfl

end StreamTag

/-- What precedes a payload. -/
structure StreamHeader where
  /-- The length of the payload in octets. -/
  length : UInt32
  tag : StreamTag
  deriving DecidableEq, Repr

namespace StreamHeader

/-- The number of octets of a header. -/
def size : Nat := 8

/-- The octets of a header. -/
def encode (header : StreamHeader) : Bytes :=
  Bytes.littleEndian 4 header.length.toNat ++ [UInt8.ofNat header.tag.value, 0, 0, 0]

/-- The header at the start of a string of octets. -/
def decode (bytes : Bytes) : Option StreamHeader :=
  match bytes with
  | a :: b :: c :: d :: nibble :: _ :: _ :: _ :: _ =>
    (StreamTag.ofNibble? nibble).map fun tag =>
      ⟨UInt32.ofNat (Bytes.ofLittleEndian [a, b, c, d]), tag⟩
  | _ => none

/-- A header is read as it was written, whatever the length and the tag. -/
theorem decode_encode (header : StreamHeader) : decode header.encode = some header := by
  obtain ⟨length, tag⟩ := header
  have below := length.toNat_lt
  have nibble : StreamTag.ofNibble? (UInt8.ofNat tag.value) = some tag := by cases tag <;> rfl
  have read : Bytes.ofLittleEndian (Bytes.littleEndian 4 length.toNat) = length.toNat := by
    rw [Bytes.ofLittleEndian_littleEndian, Nat.pow_eq]; omega
  simp only [Bytes.littleEndian] at read
  simp [encode, decode, Bytes.littleEndian, nibble, read]

end StreamHeader

/-- The chip's report that an inference has ended. -/
structure EventRecord where
  address : UInt64
  length : UInt32
  tag : UInt8
  deriving DecidableEq, Repr, Inhabited

namespace EventRecord

/-- The number of octets of an event. -/
def size : Nat := 16

/-- The octets of an event. -/
def encode (event : EventRecord) : Bytes :=
  Bytes.littleEndian 8 event.address.toNat ++ Bytes.littleEndian 4 event.length.toNat ++
    [UInt8.ofNat (event.tag.toNat % 16), 0, 0, 0]

/-- The event at the start of a string of at least sixteen octets. -/
def decode (bytes : Bytes) : EventRecord where
  address := UInt64.ofNat (Bytes.ofLittleEndian (bytes.take 8))
  length := UInt32.ofNat (Bytes.ofLittleEndian ((bytes.drop 8).take 4))
  tag := UInt8.ofNat ((bytes.getD 12 0).toNat % 16)

/-- An event is read as it was written, if its tag is a nibble. -/
theorem decode_encode (event : EventRecord) (nibble : event.tag.toNat < 16) :
    decode event.encode = event := by
  obtain ⟨address, length, tag⟩ := event
  have addressBelow := address.toNat_lt
  have lengthBelow := length.toNat_lt
  have first : (encode ⟨address, length, tag⟩).take 8 = Bytes.littleEndian 8 address.toNat := by
    simp [encode]
  have second : ((encode ⟨address, length, tag⟩).drop 8).take 4 =
      Bytes.littleEndian 4 length.toNat := by
    simp [encode]
  have third : (encode ⟨address, length, tag⟩).getD 12 0 = UInt8.ofNat (tag.toNat % 16) := by
    simp [encode]
  simp only [decode, first, second, third, Bytes.ofLittleEndian_littleEndian]
  have small : tag.toNat % 16 = tag.toNat := Nat.mod_eq_of_lt nibble
  have inAddress : address.toNat % Nat.pow 256 8 = address.toNat := Nat.mod_eq_of_lt addressBelow
  have inLength : length.toNat % Nat.pow 256 4 = length.toNat := Nat.mod_eq_of_lt lengthBelow
  simp only [small, inAddress, inLength, UInt64.ofNat_toNat, UInt32.ofNat_toNat, UInt8.ofNat_toNat]

end EventRecord

/-- Which octet of a word comes first in the memory of a machine. -/
inductive ByteOrder where
  | little
  | big
  deriving DecidableEq, Repr

namespace ByteOrder

/-- The number that a machine makes of the octets of a word. -/
def load : ByteOrder → Bytes → Nat
  | little, octets => Bytes.ofLittleEndian octets
  | big, octets => Bytes.ofLittleEndian octets.reverse

/-- The octets of the word of a number in the memory of a machine. -/
def store : ByteOrder → Nat → Nat → Bytes
  | little, width, value => Bytes.littleEndian width value
  | big, width, value => (Bytes.littleEndian width value).reverse

/-- The number that a word spells least significant octet first, after a machine has loaded it as
`value`. -/
def ofLittle (order : ByteOrder) (width value : Nat) : Nat :=
  Bytes.ofLittleEndian (order.store width value)

/-- What a machine has loaded it stores again. -/
theorem store_load (order : ByteOrder) (octets : Bytes) :
    order.store octets.length (order.load octets) = octets := by
  cases order with
  | little => exact Bytes.littleEndian_ofLittleEndian octets
  | big =>
    have swapped := Bytes.littleEndian_ofLittleEndian octets.reverse
    rw [List.length_reverse] at swapped
    rw [store, load, swapped, List.reverse_reverse]

theorem load_lt (order : ByteOrder) (octets : Bytes) :
    order.load octets < Nat.pow 256 octets.length := by
  cases order with
  | little => exact Bytes.ofLittleEndian_lt octets
  | big => simpa [load] using Bytes.ofLittleEndian_lt octets.reverse

end ByteOrder

/-- An event as it lies in memory: its fields one after the other, with the words as the machine
loads them. -/
structure RawEvent where
  address : UInt64
  length : UInt32
  tag : UInt8
  /-- Three octets without a meaning. -/
  reserved : Bytes
  deriving DecidableEq, Repr

namespace RawEvent

/-- The event in sixteen octets of memory. -/
def load (order : ByteOrder) (octets : Bytes) : RawEvent :=
  let (address, rest) := octets.splitAt 8
  let (length, rest) := rest.splitAt 4
  { address := UInt64.ofNat (order.load address)
    length := UInt32.ofNat (order.load length)
    tag := rest.headD 0
    reserved := rest.tail }

/-- The event that was loaded, with its words put right and its tag cut to a nibble. -/
def event (order : ByteOrder) (raw : RawEvent) : EventRecord where
  address := UInt64.ofNat (order.ofLittle 8 raw.address.toNat)
  length := UInt32.ofNat (order.ofLittle 4 raw.length.toNat)
  tag := raw.tag &&& 0xF

end RawEvent

/-- The largest bulk transfer that streaming uses unless it is told otherwise. -/
def maxBulkChunk : Nat := 32 * 1024

/-- The number of bulk transfers that a payload of `length` octets takes (`chunk_count`). -/
def chunkCount (length : Nat) : Nat := (length + (maxBulkChunk - 1)) / maxBulkChunk

end TensorLink

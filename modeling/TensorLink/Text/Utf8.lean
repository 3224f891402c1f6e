import TensorLink.Bytes

/-!
# UTF-8 text

Names inside a model are UTF-8. A string of octets that is not UTF-8 is refused with the place of
its first fault: the octets before it are valid, and the fault is either an invalid sequence of a
known length or a sequence that the end of the string cuts off.

* `decode_encode`: the octets of a text decode to that text.
* `encode_eq_of_decode`: a decoded text has the octets it was decoded from.
-/

namespace TensorLink.Text.Utf8

/-- The first place where octets stop being UTF-8. -/
structure Fault where
  /-- The number of octets before the fault. -/
  position : Nat
  /-- The length of the invalid sequence, or `none` when the string ends within a sequence. -/
  length : Option Nat
  deriving DecidableEq, Repr

/-- The wording of a fault. -/
def Fault.message (fault : Fault) : String :=
  match fault.length with
  | some length => s!"invalid utf-8 sequence of {length} bytes from index {fault.position}"
  | none => s!"incomplete utf-8 byte sequence from index {fault.position}"

/-- The start of a string of octets: a whole character of some length, or a fault. -/
inductive Head where
  | character (size : Nat)
  | invalid (size : Nat)
  | incomplete

/-- Whether an octet continues a sequence. -/
def isContinuation (octet : UInt8) : Bool := octet.toNat / 64 = 2

/-- How many continuation octets follow a lead octet. -/
def followers (lead : Nat) : Option Nat :=
  if lead < 0x80 then some 0
  else if 0xC2 ≤ lead ∧ lead ≤ 0xDF then some 1
  else if 0xE0 ≤ lead ∧ lead ≤ 0xEF then some 2
  else if 0xF0 ≤ lead ∧ lead ≤ 0xF4 then some 3
  else none

/-- Whether `second` may follow `lead`: this excludes overlong forms, surrogates and code points
beyond the last plane. -/
def mayFollow (lead second : Nat) : Bool :=
  let low := if lead = 0xE0 then 0xA0 else if lead = 0xF0 then 0x90 else 0x80
  let high := if lead = 0xED then 0x9F else if lead = 0xF4 then 0x8F else 0xBF
  low ≤ second && second ≤ high

/-- Checks the continuation octets after the first `seen` octets of a sequence. -/
def continuations (seen : Nat) : Nat → Bytes → Head
  | 0, _ => .character seen
  | _ + 1, [] => .incomplete
  | count + 1, octet :: rest =>
    if isContinuation octet then continuations (seen + 1) count rest else .invalid seen

/-- What a nonempty string of octets starts with. -/
def head (lead : UInt8) (rest : Bytes) : Head :=
  match followers lead.toNat with
  | none => .invalid 1
  | some 0 => .character 1
  | some (count + 1) =>
    match rest with
    | [] => .incomplete
    | second :: rest =>
      if mayFollow lead.toNat second.toNat then continuations 2 count rest else .invalid 1

/-- The first fault from a position on; `skip` octets still belong to the character before it. -/
def locate (position skip : Nat) : Bytes → Option Fault
  | [] => none
  | octet :: rest =>
    match skip with
    | skip + 1 => locate (position + 1) skip rest
    | 0 =>
      match head octet rest with
      | .character size => locate (position + 1) (size - 1) rest
      | .invalid size => some ⟨position, some size⟩
      | .incomplete => some ⟨position, none⟩

/-- The octets of a text. -/
def encode (text : String) : Bytes := text.toByteArray.data.toList

/-- The text with the given octets. -/
def decode (bytes : Bytes) : Except Fault String :=
  match String.fromUTF8? ⟨bytes.toArray⟩ with
  | some text => .ok text
  | none => .error ((locate 0 0 bytes).getD ⟨0, none⟩)

/-- A text is read as it was written. -/
theorem decode_encode (text : String) : decode (encode text) = .ok text := by
  have same : (⟨(encode text).toArray⟩ : ByteArray) = text.toByteArray := by simp [encode]
  simp [decode, same, String.fromUTF8?, text.isValidUTF8, String.fromUTF8]

/-- What has been read as a text is written as it was. -/
theorem encode_eq_of_decode {bytes : Bytes} {text : String} (h : decode bytes = .ok text) :
    encode text = bytes := by
  unfold decode at h
  split at h
  · rename_i found read
    cases h
    unfold String.fromUTF8? at read
    split at read
    · cases read
      simp [encode, String.fromUTF8]
    · cases read
  · cases h

end TensorLink.Text.Utf8

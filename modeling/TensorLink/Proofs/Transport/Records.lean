import Mathlib.Algebra.Group.Nat.Defs
import TensorLink.Proofs.Sequencing
import TensorLink.Transport.Link
import TensorLink.Usb.Setup

/-!
# Records on the pipes

Headers, events and status records are written as octets and read from them. Not every bit that is
read means something: a mask says which ones a record holds. What has been read and is written again
is what was read, cut to the length of the record, with all other bits cleared.

There are two readers of an event. One takes the octets apart by their positions; the other takes
the event from memory as it lies there and then puts its words right for the byte order of the
machine. They agree, whatever that order is.

Results:
* `StreamHeader.roundTrips`, `EventRecord.roundTrips`, `DfuStatus.roundTrips`: what is written is
  read back, and what is read is written back, each kind of record with its mask.
* `StreamHeader.isSome_decode_iff`: which strings start with a header.
* `RawEvent.event_load`: both readers of an event agree.
* `Link.readEventIn_of_reply`: what a reply on the pipe of events is read as.
* `records_roundTrip`: all of it.
-/

namespace TensorLink

open Bytes

/-! ## Specification -/

/-- The leading octets of a string, as many as the mask has, with the bits that the mask keeps. -/
def Bytes.masked (bytes mask : Bytes) : Bytes := List.zipWith (· &&& ·) bytes mask

/-- The mask of a record of `count` octets of words, a tag in a low nibble, and three reserved
    octets. -/
def tagMask (count : Nat) : Bytes := List.replicate count 0xFF ++ 0x0F :: List.replicate 3 0

/-- The bits that a header holds. -/
def StreamHeader.mask : Bytes := tagMask 4

/-- The bits that an event holds. -/
def EventRecord.mask : Bytes := tagMask 12

/-- The bits that a status record holds: all of them. -/
def DfuStatus.mask : Bytes := List.replicate 6 0xFF

/-- The event in a string of sixteen octets; no other string is one. -/
def EventRecord.decode? (bytes : Bytes) : Option EventRecord :=
  if bytes.length = size then some (decode bytes) else none

/-- Records of a kind are read as they were written, as far as they can be expressed; and what has
    been read is written again as far as the mask keeps it. -/
structure RoundTrips {α : Type} (encode : α → Bytes) (decode : Bytes → Option α)
    (Expressible : α → Prop) (mask : Bytes) : Prop where
  decode_encode : ∀ record, Expressible record → decode (encode record) = some record
  encode_of_decode : ∀ bytes record, decode bytes = some record →
    encode record = bytes.masked mask

/-! ## Masks and words -/

theorem toNat_and_nibble (octet : UInt8) : (octet &&& 0x0F).toNat = octet.toNat % 16 := by
  rw [UInt8.toNat_and]
  exact Nat.and_two_pow_sub_one_eq_mod octet.toNat 4

theorem ofNat_mod_nibble (octet : UInt8) : UInt8.ofNat (octet.toNat % 16) = octet &&& 0x0F := by
  rw [← toNat_and_nibble, UInt8.ofNat_toNat]

namespace Bytes

variable {words reserved : Bytes} {count : Nat}

theorem masked_ones (bytes : Bytes) (count : Nat) :
    bytes.masked (List.replicate count 0xFF) = bytes.take count := by
  induction count generalizing bytes with
  | zero => simp [masked]
  | succ count ih =>
    cases bytes with
    | nil => rfl
    | cons octet rest =>
      have hrest := ih rest
      rw [masked] at hrest
      rw [masked, List.replicate_succ, List.zipWith_cons_cons, hrest, List.take_succ_cons]
      exact congrArg (· :: _) UInt8.and_neg_one

/-- Words are kept, of the octet after them the low nibble is, and what is reserved is cleared. -/
theorem masked_tagMask (hwords : words.length = count) (hreserved : 3 ≤ reserved.length)
    (nibble : UInt8) :
    (words ++ nibble :: reserved).masked (tagMask count) = words ++ [nibble &&& 0x0F, 0, 0, 0] := by
  have hkept := masked_ones words count
  rw [masked, List.take_of_length_le (Nat.le_of_eq hwords)] at hkept
  match reserved, hreserved with
  | a :: b :: c :: rest, _ =>
    rw [masked, tagMask, List.zipWith_append (by rw [hwords, List.length_replicate]), hkept]
    simp [List.replicate]

/-- A string that is long enough consists of words, a tag, and reserved octets. -/
theorem exists_tagged {bytes : Bytes} (h : count + 4 ≤ bytes.length) :
    ∃ words nibble reserved, bytes = words ++ nibble :: reserved ∧ words.length = count ∧
      reserved.length = bytes.length - (count + 1) := by
  refine ⟨bytes.take count, bytes[count], bytes.drop (count + 1), ?_, ?_, ?_⟩
  · rw [← List.drop_eq_getElem_cons, List.take_append_drop]
  · rw [List.length_take]
    omega
  · rw [List.length_drop]

theorem littleEndian_ofNat32 (h : words.length = 4) :
    littleEndian 4 (UInt32.ofNat (ofLittleEndian words)).toNat = words := by
  have hlt := ofLittleEndian_lt words
  rw [h] at hlt
  rw [UInt32.toNat_ofNat', Nat.mod_eq_of_lt hlt, ← h, littleEndian_ofLittleEndian]

theorem littleEndian_ofNat64 (h : words.length = 8) :
    littleEndian 8 (UInt64.ofNat (ofLittleEndian words)).toNat = words := by
  have hlt := ofLittleEndian_lt words
  rw [h] at hlt
  rw [UInt64.toNat_ofNat', Nat.mod_eq_of_lt hlt, ← h, littleEndian_ofLittleEndian]

end Bytes

/-! ## Headers -/

namespace StreamTag

theorem value_of_ofNat? {number : Nat} {tag : StreamTag} (h : ofNat? number = some tag) :
    tag.value = number := by
  unfold ofNat? at h
  split at h
  case h_9 => cases h
  all_goals
    cases h
    rfl

theorem isSome_ofNibble?_iff (octet : UInt8) :
    (ofNibble? octet).isSome ↔ octet.toNat % 16 < 8 := by
  have hall : ∀ number < 16, (ofNat? number).isSome ↔ number < 8 := by decide
  exact hall _ (Nat.mod_lt _ (by decide))

end StreamTag

namespace StreamHeader

theorem decode_tagged {words reserved : Bytes} (hwords : words.length = 4)
    (hreserved : 3 ≤ reserved.length) (nibble : UInt8) :
    decode (words ++ nibble :: reserved) = (StreamTag.ofNibble? nibble).map fun tag =>
      ⟨UInt32.ofNat (ofLittleEndian words), tag⟩ := by
  match words, hwords, reserved, hreserved with
  | [_, _, _, _], _, _ :: _ :: _ :: _, _ => rfl

theorem decode_of_short {bytes : Bytes} (h : bytes.length < 8) : decode bytes = none := by
  unfold decode
  split
  · simp only [List.length_cons] at h
    omega
  · rfl

/-- A string starts with a header exactly if it is long enough and holds the number of a tag. -/
theorem isSome_decode_iff (bytes : Bytes) :
    (decode bytes).isSome ↔
      8 ≤ bytes.length ∧ ∃ nibble, bytes[4]? = some nibble ∧ nibble.toNat % 16 < 8 := by
  obtain hshort | hlong := Nat.lt_or_ge bytes.length 8
  · simp [decode_of_short hshort, Nat.not_le.mpr hshort]
  · obtain ⟨words, nibble, reserved, rfl, hwords, hreserved⟩ :=
      exists_tagged (show 4 + 4 ≤ bytes.length from hlong)
    have hfifth : (words ++ nibble :: reserved)[4]? = some nibble := by
      rw [← hwords, List.getElem?_append_right (Nat.le_refl _), Nat.sub_self]
      rfl
    rw [decode_tagged hwords (by omega), Option.isSome_map, StreamTag.isSome_ofNibble?_iff, hfifth,
      and_iff_right hlong]
    simp

theorem roundTrips : RoundTrips encode decode (fun _ => True) mask where
  decode_encode record _ := decode_encode record
  encode_of_decode bytes record h := by
    have hlength : 4 + 4 ≤ bytes.length :=
      ((isSome_decode_iff bytes).mp (Option.isSome_of_eq_some h)).1
    obtain ⟨words, nibble, reserved, rfl, hwords, hreserved⟩ := exists_tagged hlength
    rw [decode_tagged hwords (by omega)] at h
    obtain ⟨tag, htag, rfl⟩ := Option.map_eq_some_iff.mp h
    rw [mask, masked_tagMask hwords (by omega), encode, littleEndian_ofNat32 hwords,
      StreamTag.value_of_ofNat? htag, ofNat_mod_nibble]

end StreamHeader

/-! ## Events -/

section

variable {words reserved : Bytes} (hwords : words.length = 12)

include hwords

theorem EventRecord.decode_tagged (nibble : UInt8) (reserved : Bytes) :
    decode (words ++ nibble :: reserved) =
      ⟨UInt64.ofNat (ofLittleEndian (words.take 8)), UInt32.ofNat (ofLittleEndian (words.drop 8)),
        nibble &&& 0x0F⟩ := by
  have hfirst : (words ++ nibble :: reserved).take 8 = words.take 8 :=
    List.take_append_of_le_length (by omega)
  have hsecond : ((words ++ nibble :: reserved).drop 8).take 4 = words.drop 8 := by
    rw [List.drop_append_of_le_length (by omega), List.take_append_of_le_length (by simp [hwords]),
      List.take_of_length_le (by simp [hwords])]
  have hthird : (words ++ nibble :: reserved).getD 12 0 = nibble := by
    rw [← hwords]
    simp
  rw [decode, hfirst, hsecond, hthird, ofNat_mod_nibble]

theorem RawEvent.load_tagged (order : ByteOrder) (nibble : UInt8) (reserved : Bytes) :
    load order (words ++ nibble :: reserved) =
      ⟨UInt64.ofNat (order.load (words.take 8)), UInt32.ofNat (order.load (words.drop 8)), nibble,
        reserved⟩ := by
  have hfirst : (words ++ nibble :: reserved).splitAt 8 =
      (words.take 8, words.drop 8 ++ nibble :: reserved) := by
    rw [List.splitAt_eq, List.take_append_of_le_length (by omega),
      List.drop_append_of_le_length (by omega)]
  have hsecond : (words.drop 8 ++ nibble :: reserved).splitAt 4 =
      (words.drop 8, nibble :: reserved) := by
    rw [List.splitAt_eq, List.take_left' (by simp [hwords]), List.drop_left' (by simp [hwords])]
  simp only [load, hfirst, hsecond]
  rfl

end

/-- Words that are put right are those that the octets spell. -/
theorem ByteOrder.ofLittle_load (order : ByteOrder) (octets : Bytes) :
    order.ofLittle octets.length (order.load octets) = ofLittleEndian octets := by
  rw [ofLittle, store_load]

/-- The reader that takes an event from memory agrees with the one that takes octets apart. -/
theorem RawEvent.event_load (order : ByteOrder) {bytes : Bytes}
    (h : EventRecord.size ≤ bytes.length) :
    (load order bytes).event order = EventRecord.decode bytes := by
  obtain ⟨words, nibble, reserved, rfl, hwords, -⟩ :=
    exists_tagged (show 12 + 4 ≤ bytes.length from h)
  have haddress : (words.take 8).length = 8 := by simp [hwords]
  have hlength : (words.drop 8).length = 4 := by simp [hwords]
  have hfirst := order.load_lt (words.take 8)
  have hsecond := order.load_lt (words.drop 8)
  rw [haddress] at hfirst
  rw [hlength] at hsecond
  have hput := order.ofLittle_load (words.take 8)
  have hput' := order.ofLittle_load (words.drop 8)
  rw [haddress] at hput
  rw [hlength] at hput'
  rw [EventRecord.decode_tagged hwords, load_tagged hwords, event]
  dsimp only
  rw [UInt64.toNat_ofNat', Nat.mod_eq_of_lt hfirst, UInt32.toNat_ofNat', Nat.mod_eq_of_lt hsecond,
    hput, hput']

theorem EventRecord.roundTrips :
    RoundTrips encode decode? (fun event => event.tag.toNat < 16) mask where
  decode_encode event hnibble := by
    have hlength : event.encode.length = size := by simp [encode, size]
    rw [decode?, if_pos hlength, decode_encode event hnibble]
  encode_of_decode bytes event h := by
    rw [decode?] at h
    split at h
    · rename_i hlength
      obtain ⟨words, nibble, reserved, rfl, hwords, hreserved⟩ :=
        exists_tagged (show 12 + 4 ≤ bytes.length by rw [hlength]; decide)
      cases h
      have hsize : size = 16 := rfl
      have htag : UInt8.ofNat ((nibble &&& 0x0F).toNat % 16) = nibble &&& 0x0F := by
        rw [toNat_and_nibble, Nat.mod_mod, ofNat_mod_nibble]
      rw [mask, masked_tagMask hwords (by omega), decode_tagged hwords, encode,
        littleEndian_ofNat64 (by simp [hwords]), littleEndian_ofNat32 (by simp [hwords]), htag,
        List.take_append_drop]
    · cases h

/-! ## Status records -/

theorem DfuStatus.roundTrips :
    RoundTrips encode parse (fun record => record.pollTimeout.toNat < 2 ^ 24) mask where
  decode_encode record hbounded := parse_encode record hbounded
  encode_of_decode bytes record h := by
    unfold parse at h
    split at h
    · rename_i status a b c state text rest
      cases h
      have hread := littleEndian_ofLittleEndian [a, b, c]
      have hlt : ofLittleEndian [a, b, c] < Nat.pow 256 3 := ofLittleEndian_lt [a, b, c]
      have hword : (UInt32.ofNat (ofLittleEndian [a, b, c])).toNat = ofLittleEndian [a, b, c] :=
        UInt32.toNat_ofNat_of_lt' (Nat.lt_trans hlt (by decide))
      rw [List.length_cons, List.length_cons, List.length_singleton] at hread
      rw [mask, masked_ones, encode, hword, hread]
      rfl
    · cases h

/-! ## Event replies -/

namespace Link

variable {τ : Type} {carrier : Transport Ticket τ} {config : DriverConfig} {link link' : Link τ}
  {data : Bytes}

/-- A reply that is long enough is read as the event in its first sixteen octets. -/
theorem readEventIn_of_reply (order : ByteOrder)
    (hreply : eventTransfer carrier config link = .ok data link')
    (hlength : EventRecord.size ≤ data.length) :
    readEventIn order carrier config link =
      .ok (EventRecord.decode (data.take EventRecord.size)) link' := by
  have htaken : EventRecord.size ≤ (data.take EventRecord.size).length := by
    rw [List.length_take]
    omega
  rw [readEventIn, Sequencing.bind_of_ok hreply]
  dsimp only
  rw [if_neg (Nat.not_lt.mpr hlength), RawEvent.event_load order htaken]
  rfl

end Link

/-- **Records round trip.** Headers, events with a tag of four bits and status records with a poll
    timeout of 24 bits are read as they were written. What is read and written again is the start of
    what was read, with the reserved octets and the high nibble of the tag cleared. The strings that
    start with a header are those of at least eight octets whose fifth one holds the number of a tag
    in its low nibble. On a machine of either byte order, a reply of at least sixteen octets on the
    pipe of events is read as the event in its first sixteen. -/
theorem records_roundTrip :
    RoundTrips StreamHeader.encode StreamHeader.decode (fun _ => True) StreamHeader.mask ∧
    RoundTrips EventRecord.encode EventRecord.decode? (fun event => event.tag.toNat < 16)
      EventRecord.mask ∧
    RoundTrips DfuStatus.encode DfuStatus.parse (fun status => status.pollTimeout.toNat < 2 ^ 24)
      DfuStatus.mask ∧
    (∀ bytes, (StreamHeader.decode bytes).isSome ↔
      8 ≤ bytes.length ∧ ∃ nibble, bytes[4]? = some nibble ∧ nibble.toNat % 16 < 8) ∧
    ∀ (order : ByteOrder) (τ : Type) (carrier : Transport Ticket τ) (config : DriverConfig)
      (link link' : Link τ) (data : Bytes),
      Link.eventTransfer carrier config link = .ok data link' → EventRecord.size ≤ data.length →
      Link.readEventIn order carrier config link =
        .ok (EventRecord.decode (data.take EventRecord.size)) link' :=
  ⟨StreamHeader.roundTrips, EventRecord.roundTrips, DfuStatus.roundTrips,
    StreamHeader.isSome_decode_iff, fun order _ _ _ _ _ _ hreply hlength =>
      Link.readEventIn_of_reply order hreply hlength⟩

/-- A header and an event, each in a longer string with the bits set that mean nothing. -/
theorem records_roundTrip_overfull :
    let opening : Bytes := [0x04, 0x03, 0x02, 0x01, 0xF2, 0xAA, 0xBB, 0xCC, 0xDD]
    let reply : Bytes := [0x10, 0, 0, 0, 0, 0, 0, 0x80, 0x40, 0, 0, 0, 0xA4, 0xFF, 0xFF, 0xFF, 0xEE]
    let header : StreamHeader := ⟨0x01020304, .parameters⟩
    let event : EventRecord := ⟨0x8000000000000010, 0x40, 4⟩
    let status : DfuStatus := ⟨0, 10000, 5, 0⟩
    let carrier : Transport Ticket Unit :=
      { openPipe := fun _ => pure ()
        control := fun _ _ _ transport => (.completed (.ok []), transport)
        bulkOut := fun _ _ data transport => (.completed (.ok data.length), transport)
        bulkIn := fun _ _ _ transport => (.completed (.ok reply), transport) }
    let link : Link Unit := { owner := 0, transport := () }
    StreamHeader.decode opening = some header ∧
      header.encode = [0x04, 0x03, 0x02, 0x01, 0x02, 0, 0, 0] ∧
      event.tag.toNat < 16 ∧ EventRecord.decode? event.encode = some event ∧
      status.pollTimeout.toNat < 2 ^ 24 ∧ DfuStatus.parse status.encode = some status ∧
      ∃ link', Link.eventTransfer carrier {} link = .ok reply link' ∧
        EventRecord.size ≤ reply.length ∧ Link.readEvent carrier {} link = .ok event link' ∧
        Link.readEventIn .big carrier {} link = .ok event link' := by
  intro opening reply header event status carrier link
  obtain ⟨hheaders, hevents, hstatuses, -, hreplies⟩ := records_roundTrip
  have hnibble : event.tag.toNat < 16 := by decide
  have hbounded : status.pollTimeout.toNat < 2 ^ 24 := by decide
  have hlength : EventRecord.size ≤ reply.length := by decide
  have hdecoded : StreamHeader.decode opening = some header := by decide
  have hevent : EventRecord.decode (reply.take EventRecord.size) = event := by decide
  have hreply : Link.eventTransfer carrier {} link =
      .ok reply { link with event := { last := 1, queued := [] } } := rfl
  have hread := fun order => hreplies order Unit carrier {} link _ reply hreply hlength
  rw [hevent] at hread
  exact ⟨hdecoded, hheaders.encode_of_decode opening header hdecoded, hnibble,
    hevents.decode_encode event hnibble, hbounded, hstatuses.decode_encode status hbounded, _,
    hreply, hlength, hread .little, hread .big⟩

end TensorLink

import TensorLink.Proofs.Transport.Streaming

/-!
# What a Beagle makes of arbitrary traffic

A host may send anything to a Beagle: transfers to other endpoints, headers of the wrong size or
with an unknown tag, empty transfers, more payload than a header announces. Whatever it sends, the
transfers that the chip accepts are cut in one way only into messages, a header in a transfer of its
own and as many parts of payload after it as it takes to be as long as the header says. The chip
has received the messages that are finished, and holds the one that is not. A transfer that it
rejects is noted, and has no other effect.

Results:
* `Frame.Finished.unique`, `Cuts.unique`: there is one way to cut transfers into messages.
* `StreamHeader.decode_eq_none_iff`: which octets are no header.
* `offer_of_rejects`: what becomes of a transfer that is rejected.
* `Framed.offer_opening`, `Framed.offer_part`: what becomes of one that is accepted.
* `Framed.step`, `Framed.offerAll`: how the next transfer, and any number of them, are cut.
* `keepsFraming_offerAll`: what is true of a chip after any traffic.
-/

namespace TensorLink

open Sequencing

namespace Simulation

/-! ## Specification -/

/-- A bulk transfer that a host makes. -/
structure Transfer where
  address : UInt8
  data : Bytes
  deriving DecidableEq, Repr

/-- A message on its way: what the transfer of its header carried, and what those of parts of its
    payload did. -/
structure Frame where
  opening : Bytes
  header : StreamHeader
  parts : List Bytes
  length_opening : opening.length = StreamHeader.size
  decode_opening : StreamHeader.decode opening = some header

namespace Frame

/-- What its transfers carried. -/
def transfers (frame : Frame) : List Bytes := frame.opening :: frame.parts

/-- The octets of the payload so far. -/
def payload (frame : Frame) : Bytes := frame.parts.flatten

/-- The length that the header announces. -/
def announced (frame : Frame) : Nat := frame.header.length.toNat

/-- The message, if nothing is missing. -/
def message (frame : Frame) : Message := ⟨frame.header.tag, frame.payload⟩

/-- All of the payload has come, the end of it with the last transfer. -/
structure Finished (frame : Frame) : Prop where
  length_payload : frame.payload.length = frame.announced
  short : ∀ parts, parts <+: frame.parts → parts ≠ frame.parts →
    parts.flatten.length < frame.announced

/-- A part of the payload is still to come. -/
def Unfinished (frame : Frame) : Prop := frame.payload.length < frame.announced

end Frame

/-- Transfers are cut into finished messages and perhaps an unfinished one. -/
structure Cuts (transfers : List Bytes) (frames : List Frame) (current : Option Frame) : Prop where
  whole : transfers = frames.flatMap Frame.transfers ++ current.elim [] Frame.transfers
  finished : ∀ frame ∈ frames, frame.Finished
  unfinished : ∀ frame, current = some frame → frame.Unfinished

namespace Beagle

/-- What comes of a transfer. -/
def offer (transfer : Transfer) (beagle : Beagle) : Except DriverError Nat × Beagle :=
  (bulkOut transfer.address transfer.data).outcome beagle

/-- The chip after some transfers, whatever has come of them. -/
def offerAll (transfers : List Transfer) (beagle : Beagle) : Beagle :=
  transfers.foldl (fun beagle transfer => (beagle.offer transfer).2) beagle

/-- What those of some transfers carry that the chip accepts. -/
def accepted : List Transfer → Beagle → List Bytes
  | [], _ => []
  | transfer :: transfers, beagle =>
    match beagle.offer transfer with
    | (.ok _, beagle) => transfer.data :: accepted transfers beagle
    | (.error _, beagle) => accepted transfers beagle

/-- The chip that has noted a transfer, which it does on the streaming endpoint alone. -/
def noted (transfer : Transfer) (beagle : Beagle) : Beagle :=
  { beagle with
    transfers := if transfer.address = streamIn then
        ⟨transfer.address, transfer.data.length⟩ :: beagle.transfers
      else beagle.transfers }

/-- Why a chip does not accept a transfer. -/
inductive Rejects (beagle : Beagle) (transfer : Transfer) : DriverError → Prop
  | wrongEndpoint (haddress : transfer.address ≠ streamIn) :
    Rejects beagle transfer (.endpointUnavailable transfer.address "not a streaming endpoint")
  | wrongSize (haddress : transfer.address = streamIn) (hidle : beagle.pending = none)
      (hsize : transfer.data.length ≠ StreamHeader.size) :
    Rejects beagle transfer (.protocol
      s!"expected an {StreamHeader.size}-byte header, got {transfer.data.length} bytes")
  | unknownTag {nibble : UInt8} (haddress : transfer.address = streamIn)
      (hidle : beagle.pending = none) (hsize : transfer.data.length = StreamHeader.size)
      (hnibble : transfer.data[4]? = some nibble) (hunknown : 8 ≤ nibble.toNat % 16) :
    Rejects beagle transfer (.protocol "malformed streaming header")
  | overrun {header : StreamHeader} (haddress : transfer.address = streamIn)
      (hpending : beagle.pending = some header)
      (hlong : header.length.toNat < beagle.payload.length + transfer.data.length) :
    Rejects beagle transfer (.protocol
      s!"{header.tag.name} payload overruns its header ({header.length.toNat} bytes)")

/-- A chip has received the finished messages, and is in the middle of the unfinished one. -/
structure Holds (frames : List Frame) (current : Option Frame) (beagle : Beagle) : Prop where
  /-- The record of messages starts with the latest. -/
  received : beagle.received.reverse = frames.map Frame.message
  pending : beagle.pending = current.map (·.header)
  payload : beagle.payload = current.elim [] Frame.payload

/-- How a chip stands after it has accepted some transfers, and what it makes of the next. -/
structure KeepsFraming (accepted : List Bytes) (beagle : Beagle) : Prop where
  /-- While a header waits for its payload, some octets of it are missing. -/
  short : ∀ header, beagle.pending = some header →
    0 < header.length.toNat ∧ beagle.payload.length < header.length.toNat
  /-- While none does, nothing is kept. -/
  idle : beagle.pending = none → beagle.payload = []
  /-- There is one way to cut the transfers, and it is the chip's. -/
  cut : ∃ frames current, Cuts accepted frames current ∧ Holds frames current beagle ∧
    ∀ frames' current', Cuts accepted frames' current' → frames' = frames ∧ current' = current
  /-- A transfer that is rejected is noted, and changes nothing else. -/
  rejected : ∀ transfer error after, beagle.offer transfer = (.error error, after) ↔
    beagle.Rejects transfer error ∧ after = beagle.noted transfer
  taken : ∀ transfer count after, beagle.offer transfer = (.ok count, after) →
    count = transfer.data.length

end Beagle

/-! ## Cutting transfers into messages -/

namespace Frame

/-- A frame with one more part of its payload. -/
def append (frame : Frame) (part : Bytes) : Frame :=
  { frame with parts := frame.parts ++ [part] }

theorem payload_append (frame : Frame) (part : Bytes) :
    (frame.append part).payload = frame.payload ++ part := by
  simp [append, payload]

/-- As long as a frame is unfinished, no front of its payload is whole. -/
theorem Unfinished.short {frame : Frame} (h : frame.Unfinished) {parts : List Bytes}
    (hfront : parts <+: frame.parts) : parts.flatten.length < frame.announced := by
  obtain ⟨rest, hparts⟩ := hfront
  have hlength : frame.payload.length = parts.flatten.length + rest.flatten.length := by
    rw [payload, ← hparts, List.flatten_append, List.length_append]
  have hunfinished : frame.payload.length < frame.announced := h
  omega

theorem Unfinished.short_append {frame : Frame} (h : frame.Unfinished) (part : Bytes)
    (parts : List Bytes) (hfront : parts <+: (frame.append part).parts)
    (hne : parts ≠ (frame.append part).parts) :
    parts.flatten.length < (frame.append part).announced := by
  obtain heq | hfront := List.prefix_concat_iff.mp hfront
  · exact absurd heq hne
  · exact h.short hfront

/-- Frames with one opening announce the same. -/
theorem header_eq {frame frame' : Frame} (hopening : frame.opening = frame'.opening) :
    frame.header = frame'.header := by
  have hdecoded := frame.decode_opening
  rw [hopening, frame'.decode_opening] at hdecoded
  exact (Option.some.inj hdecoded).symm

theorem ext {frame frame' : Frame} (hopening : frame.opening = frame'.opening)
    (hparts : frame.parts = frame'.parts) : frame = frame' := by
  have hheader := header_eq hopening
  cases frame
  cases frame'
  cases hopening
  cases hparts
  cases hheader
  rfl

theorem Finished.not_unfinished {frame : Frame} (h : frame.Finished) : ¬frame.Unfinished := by
  intro hunfinished
  have hshort : frame.payload.length < frame.announced := hunfinished
  rw [h.length_payload] at hshort
  exact Nat.lt_irrefl _ hshort

/-- A finished frame is no proper front of another one with its opening. -/
theorem Finished.parts_eq {frame frame' : Frame} (h : frame.Finished)
    (hother : frame'.Finished ∨ frame'.Unfinished) (hopening : frame.opening = frame'.opening)
    (hfront : frame.parts <+: frame'.parts) : frame.parts = frame'.parts := by
  have hannounced : frame.announced = frame'.announced := by
    rw [announced, announced, header_eq hopening]
  have hlength : frame.parts.flatten.length = frame'.announced := by
    rw [← hannounced]
    exact h.length_payload
  by_contra hne
  have hshort : frame.parts.flatten.length < frame'.announced := by
    obtain hfinished | hunfinished := hother
    · exact hfinished.short frame.parts hfront hne
    · exact hunfinished.short hfront
  omega

/-- There is one frame that transfers begin with. -/
theorem Finished.unique {frame frame' : Frame} {rest rest' : List Bytes} (h : frame.Finished)
    (hother : frame'.Finished ∨ frame'.Unfinished ∧ rest' = [])
    (heq : frame.transfers ++ rest = frame'.transfers ++ rest') :
    frame = frame' ∧ rest = rest' := by
  obtain ⟨hopening, hparts⟩ := List.cons.inj heq
  have hsame : frame.parts = frame'.parts := by
    -- The parts of one frame are a front of those of the other.
    obtain ⟨later, hlater, -⟩ | ⟨later, hlater, hrest⟩ := List.append_eq_append_iff.mp hparts
    · exact h.parts_eq (hother.imp_right And.left) hopening ⟨later, hlater.symm⟩
    · obtain hfinished | ⟨-, hnil⟩ := hother
      · exact (hfinished.parts_eq (.inl h) hopening.symm ⟨later, hlater.symm⟩).symm
      · rw [hnil] at hrest
        rw [hlater, (List.append_eq_nil_iff.mp hrest.symm).1, List.append_nil]
  rw [hsame] at hparts
  exact ⟨ext hopening hsame, List.append_cancel_left hparts⟩

end Frame

namespace Cuts

variable {transfers : List Bytes} {frame : Frame} {frames frames' : List Frame}
  {current current' : Option Frame}

/-- What follows the first message is cut into the others. -/
theorem tail (h : Cuts transfers (frame :: frames) current) :
    ∃ rest, transfers = frame.transfers ++ rest ∧ frame.Finished ∧ Cuts rest frames current := by
  obtain ⟨hfirst, hothers⟩ := List.forall_mem_cons.mp h.finished
  refine ⟨_, ?_, hfirst, rfl, hothers, h.unfinished⟩
  rw [h.whole, List.flatMap_cons, List.append_assoc]

/-- Transfers in which no message is finished are not cut into finished messages. -/
theorem eq_nil (h : Cuts transfers [] current) (h' : Cuts transfers frames' current') :
    frames' = [] := by
  cases frames' with
  | nil => rfl
  | cons frame' frames' =>
    obtain ⟨rest, hwhole, hfinished, -⟩ := h'.tail
    rw [h.whole, List.flatMap_nil, List.nil_append] at hwhole
    cases current with
    | none => cases hwhole
    | some frame =>
      have hunfinished := h.unfinished frame rfl
      have heq : frame'.transfers ++ rest = frame.transfers ++ [] := by
        rw [List.append_nil, ← hwhole]
        rfl
      obtain ⟨rfl, -⟩ := hfinished.unique (.inr ⟨hunfinished, rfl⟩) heq
      exact absurd hunfinished hfinished.not_unfinished

/-- There is one way to cut transfers into messages. -/
theorem unique (h : Cuts transfers frames current) (h' : Cuts transfers frames' current') :
    frames' = frames ∧ current' = current := by
  induction frames generalizing transfers frames' with
  | nil =>
    obtain rfl := h.eq_nil h'
    refine ⟨rfl, ?_⟩
    have hsame := h'.whole.symm.trans h.whole
    simp only [List.flatMap_nil, List.nil_append] at hsame
    cases current <;> cases current'
    · rfl
    · cases hsame
    · cases hsame
    · obtain ⟨hopening, hparts⟩ := List.cons.inj hsame
      rw [Frame.ext hopening hparts]
  | cons frame frames ih =>
    obtain ⟨rest, hwhole, hfinished, hrest⟩ := h.tail
    cases frames' with
    | nil => cases h'.eq_nil h
    | cons frame' frames' =>
      obtain ⟨rest', hwhole', hfinished', hrest'⟩ := h'.tail
      obtain ⟨rfl, rfl⟩ := hfinished.unique (.inl hfinished') (hwhole.symm.trans hwhole')
      obtain ⟨rfl, rfl⟩ := ih hrest hrest'
      exact ⟨rfl, rfl⟩

end Cuts

end Simulation

/-! ## Headers -/

theorem StreamTag.ofNat?_eq_none_iff (number : Nat) : ofNat? number = none ↔ 8 ≤ number := by
  fun_cases ofNat? number with
  | case9 => exact iff_of_true rfl (by grind)
  | _ => simp

/-- Eight octets are no header exactly if there is no tag of the number that they hold. -/
theorem StreamHeader.decode_eq_none_iff {data : Bytes} (hsize : data.length = size) :
    decode data = none ↔ ∃ nibble, data[4]? = some nibble ∧ 8 ≤ nibble.toNat % 16 := by
  match data, hsize with
  | [a, b, c, d, nibble, _, _, _], _ =>
    change (StreamTag.ofNibble? nibble).map _ = none ↔ _
    rw [Option.map_eq_none_iff, StreamTag.ofNibble?, StreamTag.ofNat?_eq_none_iff]
    simp

namespace Simulation.Beagle

variable {accepted : List Bytes} {frame : Frame} {frames : List Frame} {current : Option Frame}
  {beagle after : Beagle} {transfer : Transfer} {data : Bytes} {error : DriverError}

/-! ## Rejected transfers -/

/-- A chip has cut what it has accepted into messages. -/
structure Framed (accepted : List Bytes) (frames : List Frame) (current : Option Frame)
    (beagle : Beagle) : Prop extends Holds frames current beagle where
  cuts : Cuts accepted frames current

theorem Framed.noted (h : Framed accepted frames current beagle) (transfer : Transfer) :
    Framed accepted frames current (beagle.noted transfer) :=
  ⟨⟨h.received, h.pending, h.payload⟩, h.cuts⟩

/-- A chip that accepts a transfer on the streaming endpoint has noted it. -/
theorem noted_streamIn (data : Bytes) (beagle : Beagle) :
    beagle.noted ⟨streamIn, data⟩ = beagle.seen [data.length] := by
  rw [Beagle.noted, if_pos rfl]
  rfl

/-- What comes of a transfer on the streaming endpoint. -/
theorem offer_streamIn (data : Bytes) (beagle : Beagle) :
    beagle.offer ⟨streamIn, data⟩ =
      ((match beagle.pending with
        | none => takeHeader data
        | some header => takePayload header data) >>= fun _ => pure data.length :
          DeviceM Beagle Nat).outcome (beagle.noted ⟨streamIn, data⟩) := by
  rw [offer, DeviceM.outcome, bulkOut_streamIn, noted_streamIn]
  rfl

/-- A transfer is rejected for each of the four reasons, and noted. -/
theorem offer_of_rejects (hrejects : beagle.Rejects transfer error) :
    beagle.offer transfer = (.error error, beagle.noted transfer) := by
  obtain ⟨address, data⟩ := transfer
  cases hrejects with
  | wrongEndpoint haddress =>
    have hnoted : beagle.noted ⟨address, data⟩ = beagle := by rw [Beagle.noted, if_neg haddress]
    rw [offer, bulkOut, if_pos haddress, hnoted]
    rfl
  | wrongSize haddress hidle hsize =>
    subst haddress
    rw [offer_streamIn, hidle]
    apply outcome_bind_of_error
    rw [takeHeader, if_pos hsize]
    rfl
  | unknownTag haddress hidle hsize hnibble hunknown =>
    subst haddress
    rw [offer_streamIn, hidle]
    apply outcome_bind_of_error
    rw [takeHeader, if_neg (not_not.mpr hsize),
      (StreamHeader.decode_eq_none_iff hsize).mpr ⟨_, hnibble, hunknown⟩]
    rfl
  | overrun haddress hpending hlong =>
    subst haddress
    rw [offer_streamIn, hpending]
    apply outcome_bind_of_error
    unfold takePayload
    change (if _ < beagle.payload.length + data.length then _ else _ : DeviceM Beagle Unit)
      (beagle.noted ⟨streamIn, data⟩) = _
    rw [if_pos hlong]
    rfl

/-! ## Accepted transfers -/

/-- The chip that has taken a part of a message, which it has received if nothing is missing. -/
def settle (frame : Frame) (beagle : Beagle) : Beagle :=
  if frame.payload.length = frame.announced then beagle.completed frame.header.tag frame.payload
  else beagle.midway frame.header frame.payload

/-- A chip between messages takes the header of the next. -/
theorem Framed.offer_opening (h : Framed accepted frames none beagle) (frame : Frame)
    (hparts : frame.parts = []) :
    beagle.offer ⟨streamIn, frame.opening⟩ =
      (.ok frame.opening.length, (beagle.noted ⟨streamIn, frame.opening⟩).settle frame) := by
  have hpayload : frame.payload = [] := by rw [Frame.payload, hparts, List.flatten_nil]
  have hempty : ([] : Bytes).length = frame.announced ↔ frame.header.length = 0 := by
    rw [← UInt32.toNat_inj]
    exact eq_comm
  rw [offer, DeviceM.outcome,
    bulkOut_header ⟨h.pending, h.payload⟩ frame.length_opening frame.decode_opening,
    noted_streamIn, settle, hpayload]
  simp only [hempty]

/-- A chip in the middle of a message takes another part of its payload. -/
theorem Framed.offer_part (h : Framed accepted frames (some frame) beagle)
    (hfits : frame.payload.length + data.length ≤ frame.announced) :
    beagle.offer ⟨streamIn, data⟩ =
      (.ok data.length, (beagle.noted ⟨streamIn, data⟩).settle (frame.append data)) := by
  have hpayload : beagle.payload = frame.payload := h.payload
  rw [← hpayload] at hfits
  rw [offer, DeviceM.outcome, bulkOut_payload h.pending hfits, noted_streamIn, settle,
    Frame.payload_append, ← hpayload]
  rfl

/-- A message of which another part has been taken is received or held. -/
theorem Framed.settle (hfinished : ∀ frame ∈ frames, frame.Finished)
    (hreceived : beagle.received.reverse = frames.map Frame.message)
    (hle : frame.payload.length ≤ frame.announced)
    (hshort : ∀ parts, parts <+: frame.parts → parts ≠ frame.parts →
      parts.flatten.length < frame.announced) :
    ∃ frames' current', Framed (frames.flatMap Frame.transfers ++ frame.transfers) frames' current'
      (beagle.settle frame) := by
  rw [Beagle.settle]
  split <;> rename_i hwhole
  · refine ⟨frames ++ [frame], none, ⟨?_, rfl, rfl⟩, ?_, ?_, nofun⟩
    · rw [completed, finish, List.reverse_cons, hreceived, List.map_append]
      rfl
    · rw [List.flatMap_append, List.flatMap_singleton]
      exact (List.append_nil _).symm
    · exact List.forall_mem_append.mpr
        ⟨hfinished, List.forall_mem_singleton.mpr ⟨hwhole, hshort⟩⟩
  · refine ⟨frames, some frame, ⟨hreceived, rfl, rfl⟩, rfl, hfinished, ?_⟩
    rintro _ ⟨⟩
    exact Nat.lt_of_le_of_ne hle hwhole

/-- A transfer is rejected, or what it carries is cut with what has been accepted before. -/
theorem Framed.step (h : Framed accepted frames current beagle) (transfer : Transfer) :
    (∃ error, beagle.Rejects transfer error) ∨
      ∃ after, beagle.offer transfer = (.ok transfer.data.length, after) ∧
        ∃ frames' current', Framed (accepted ++ [transfer.data]) frames' current' after := by
  obtain ⟨address, data⟩ := transfer
  obtain haddress | rfl := ne_or_eq address streamIn
  · exact .inl ⟨_, .wrongEndpoint haddress⟩
  have hnoted := h.noted ⟨streamIn, data⟩
  cases current with
  | none =>
    have hidle : beagle.pending = none := h.pending
    obtain hsize | hsize := ne_or_eq data.length StreamHeader.size
    · exact .inl ⟨_, .wrongSize rfl hidle hsize⟩
    cases hdecode : StreamHeader.decode data with
    | none =>
      obtain ⟨nibble, hnibble, hunknown⟩ := (StreamHeader.decode_eq_none_iff hsize).mp hdecode
      exact .inl ⟨_, .unknownTag rfl hidle hsize hnibble hunknown⟩
    | some header =>
      let frame : Frame := ⟨data, header, [], hsize, hdecode⟩
      have hwhole : accepted ++ [data] = frames.flatMap Frame.transfers ++ frame.transfers := by
        rw [h.cuts.whole, List.append_assoc]
        rfl
      refine .inr ⟨_, h.offer_opening frame rfl, ?_⟩
      rw [hwhole]
      exact Framed.settle h.cuts.finished hnoted.received (Nat.zero_le _) fun parts hfront hne =>
        absurd (List.prefix_nil.mp hfront) hne
  | some frame =>
    obtain hlong | hfits := Nat.lt_or_ge frame.announced (frame.payload.length + data.length)
    · refine .inl ⟨_, .overrun rfl h.pending ?_⟩
      rw [h.payload]
      exact hlong
    have hwhole : accepted ++ [data] =
        frames.flatMap Frame.transfers ++ (frame.append data).transfers := by
      rw [h.cuts.whole, List.append_assoc]
      rfl
    refine .inr ⟨_, h.offer_part hfits, ?_⟩
    rw [hwhole]
    refine Framed.settle h.cuts.finished hnoted.received ?_
      ((h.cuts.unfinished frame rfl).short_append data)
    rw [Frame.payload_append, List.length_append]
    exact hfits

/-- What comes of the next transfer. -/
theorem Framed.offer_cases (h : Framed accepted frames current beagle) (transfer : Transfer) :
    (∃ error, beagle.Rejects transfer error ∧
        beagle.offer transfer = (.error error, beagle.noted transfer)) ∨
      ∃ after, beagle.offer transfer = (.ok transfer.data.length, after) ∧
        ∃ frames' current', Framed (accepted ++ [transfer.data]) frames' current' after :=
  (h.step transfer).imp_left fun ⟨error, hrejects⟩ => ⟨error, hrejects, offer_of_rejects hrejects⟩

/-! ## Any number of transfers -/

theorem accepted_of_ok {transfers : List Transfer} {count : Nat}
    (h : beagle.offer transfer = (.ok count, after)) :
    beagle.accepted (transfer :: transfers) = transfer.data :: after.accepted transfers := by
  rw [Beagle.accepted, h]

theorem accepted_of_error {transfers : List Transfer}
    (h : beagle.offer transfer = (.error error, after)) :
    beagle.accepted (transfer :: transfers) = after.accepted transfers := by
  rw [Beagle.accepted, h]

theorem offerAll_of_offer {transfers : List Transfer} {result : Except DriverError Nat}
    (h : beagle.offer transfer = (result, after)) :
    beagle.offerAll (transfer :: transfers) = after.offerAll transfers := by
  rw [offerAll, List.foldl_cons, h]
  rfl

/-- Whatever is sent, what is accepted is cut into messages. -/
theorem Framed.offerAll (h : Framed accepted frames current beagle) (transfers : List Transfer) :
    ∃ frames' current', Framed (accepted ++ beagle.accepted transfers) frames' current'
      (beagle.offerAll transfers) := by
  induction transfers generalizing accepted frames current beagle with
  | nil =>
    rw [Beagle.accepted, List.append_nil]
    exact ⟨frames, current, h⟩
  | cons transfer transfers ih =>
    obtain ⟨error, -, hoffer⟩ | ⟨after, hoffer, frames', current', h'⟩ := h.offer_cases transfer
    · rw [accepted_of_error hoffer, offerAll_of_offer hoffer]
      exact ih (h.noted transfer)
    · rw [accepted_of_ok hoffer, offerAll_of_offer hoffer, List.append_cons]
      exact ih h'

/-! ## Main theorem -/

theorem framed_new : Framed [] [] none new := ⟨⟨rfl, rfl, rfl⟩, rfl, nofun, nofun⟩

theorem Framed.keepsFraming (h : Framed accepted frames current beagle) :
    KeepsFraming accepted beagle where
  short := by
    intro header hheader
    rw [h.pending] at hheader
    obtain ⟨frame, rfl, rfl⟩ := Option.map_eq_some_iff.mp hheader
    have hunfinished : frame.payload.length < frame.header.length.toNat :=
      h.cuts.unfinished frame rfl
    rw [h.payload]
    exact ⟨Nat.zero_lt_of_lt hunfinished, hunfinished⟩
  idle := by
    intro hidle
    rw [h.pending, Option.map_eq_none_iff] at hidle
    rw [h.payload, hidle]
    rfl
  cut := ⟨frames, current, h.cuts, h.toHolds, fun _ _ h' => h.cuts.unique h'⟩
  rejected := by
    intro transfer error after
    constructor
    · intro hrejected
      obtain ⟨error', hrejects, hoffer⟩ | ⟨after', hoffer, -⟩ := h.offer_cases transfer
      · cases hrejected.symm.trans hoffer
        exact ⟨hrejects, rfl⟩
      · cases hrejected.symm.trans hoffer
    · rintro ⟨hrejects, rfl⟩
      exact offer_of_rejects hrejects
  taken := by
    intro transfer count after htaken
    obtain ⟨error, -, hoffer⟩ | ⟨after', hoffer, -⟩ := h.offer_cases transfer
    · cases htaken.symm.trans hoffer
    · cases htaken.symm.trans hoffer
      rfl

/-- **The framing invariant.** Whatever transfers are made to a new chip, it has cut those that it
    has accepted into messages, and rejects the next only for a reason and without an effect. -/
theorem keepsFraming_offerAll (transfers : List Transfer) :
    KeepsFraming (new.accepted transfers) (new.offerAll transfers) := by
  obtain ⟨frames, current, hframed⟩ := framed_new.offerAll transfers
  rw [List.nil_append] at hframed
  exact hframed.keepsFraming

/-- A transfer to another endpoint, too short a header, a good one, two parts of its payload with an
    empty one and one too many between them, and a header without a payload. -/
example :
    let header : StreamHeader := ⟨3, .parameters⟩
    let empty : StreamHeader := ⟨0, .interrupt0⟩
    let octets := [[0], header.encode, [1, 2], [], [3, 4], [3], empty.encode]
    let transfers := ⟨2, [0]⟩ :: octets.map (⟨streamIn, ·⟩)
    new.accepted transfers = [header.encode, [1, 2], [], [3], empty.encode] ∧
      (new.offerAll transfers).received.reverse =
        [⟨.parameters, [1, 2, 3]⟩, ⟨.interrupt0, []⟩] := by
  decide

end Simulation.Beagle

end TensorLink

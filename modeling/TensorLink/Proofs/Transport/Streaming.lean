import Mathlib.Algebra.Order.Floor.Div
import TensorLink.Proofs.Transport.RegisterChannel
import TensorLink.Simulation.Delayed

/-!
# Messages over a bulk pipe

A Beagle tells headers from payloads only by what has arrived before, so a chunk that is cut wrong
would be taken for something else, and everything after it. It is not: whatever the payloads and
however they are cut, the chip receives the messages that are sent, in order, and returns the inputs
among them as one string of octets, however that is asked for.

Results:
* `bulkOut_header`, `bulkOut_payload`, `bulkOut_chunk`: what a Beagle makes of one transfer.
* `sendChunks_of_ok`, `receiveChunks_of_ok`: one turn of the loops over chunks.
* `sendChunks_eq_ok`, `send_eq_ok`, `sendAll_eq_ok`: what is sent is received.
* `receive_eq`, `receiveAll_eq`: what is received back.
* `streaming_lossless`: messages and outputs do not depend on the chunk size.
-/

namespace TensorLink

open Sequencing Simulation

/-! ## Transfers to and from a Beagle -/

namespace Simulation.Beagle

/-- The address of the endpoint that takes messages. -/
abbrev streamIn : UInt8 := Endpoint.outputAddress Endpoint.streaming

/-- The address of the endpoint that returns outputs. -/
abbrev streamOut : UInt8 := Endpoint.inputAddress Endpoint.streaming

/-- The chip that has seen transfers of some sizes on the streaming endpoint. -/
def seen (sizes : List Nat) (beagle : Beagle) : Beagle :=
  { beagle with transfers := (sizes.map (⟨streamIn, ·⟩)).reverse ++ beagle.transfers }

/-- A chip between payloads: it waits for no part of one and has kept nothing of the last. After any
    traffic to a new chip, the second follows from the first. -/
structure Idle (beagle : Beagle) : Prop where
  pending : beagle.pending = none
  payload : beagle.payload = []

/-- The chip in the middle of a payload. -/
def midway (header : StreamHeader) (front : Bytes) (beagle : Beagle) : Beagle :=
  { beagle with pending := some header, payload := front }

/-- The chip that has taken in a message. -/
def completed (tag : StreamTag) (payload : Bytes) (beagle : Beagle) : Beagle :=
  { beagle with pending := none, payload }.finish tag

/-- The chip after some octets of the output have been taken. -/
def drained (size : Nat) (beagle : Beagle) : Beagle :=
  { beagle with outfeed := beagle.outfeed.drop size }

theorem drained_drained (size size' : Nat) (beagle : Beagle) :
    (beagle.drained size).drained size' = beagle.drained (size + size') := by
  simp [drained]

theorem seen_seen (sizes sizes' : List Nat) (beagle : Beagle) :
    (beagle.seen sizes).seen sizes' = beagle.seen (sizes ++ sizes') := by
  simp [seen]

/-- A transfer on the streaming endpoint is seen, and taken as what is to come next. -/
theorem bulkOut_streamIn (data : Bytes) (beagle : Beagle) :
    bulkOut streamIn data beagle =
      ((match beagle.pending with
        | none => takeHeader data
        | some header => takePayload header data) >>= fun _ => pure data.length :
          DeviceM Beagle Nat) (beagle.seen [data.length]) := by
  unfold bulkOut
  rw [if_neg (not_not.mpr rfl)]
  change (match beagle.pending with
    | none => (takeHeader data >>= fun _ => pure data.length : DeviceM Beagle Nat)
    | some header => takePayload header data >>= fun _ => pure data.length)
      (beagle.seen [data.length]) = _
  cases beagle.pending <;> rfl

/-- A chip between payloads takes a header. -/
theorem bulkOut_header {beagle : Beagle} {header : StreamHeader} {data : Bytes}
    (hidle : beagle.Idle) (hsize : data.length = StreamHeader.size)
    (hdecode : StreamHeader.decode data = some header) :
    let seen := beagle.seen [data.length]
    bulkOut streamIn data beagle =
      .ok data.length (if header.length = 0 then seen.completed header.tag []
        else seen.midway header []) := by
  obtain ⟨registers, sample, accesses, transfers, pending, payload⟩ := beagle
  obtain ⟨rfl, rfl⟩ := hidle
  rw [bulkOut_streamIn]
  unfold takeHeader
  rw [if_neg (not_not.mpr hsize), hdecode]
  dsimp only
  split <;> rfl

/-- A part of a payload that is not longer than announced is kept, and the message taken in if it is
    whole. -/
theorem takePayload_of_le {beagle : Beagle} {header : StreamHeader} {data : Bytes}
    (hpending : beagle.pending = some header)
    (hle : beagle.payload.length + data.length ≤ header.length.toNat) :
    let payload := beagle.payload ++ data
    takePayload header data beagle =
      .ok () (if payload.length = header.length.toNat then beagle.completed header.tag payload
        else beagle.midway header payload) := by
  intro payload
  have hlength : payload.length = beagle.payload.length + data.length := List.length_append
  rw [hlength, midway, ← hpending]
  unfold takePayload
  change (if header.length.toNat < beagle.payload.length + data.length then _ else _ :
    DeviceM Beagle Unit) beagle = _
  rw [if_neg (Nat.not_lt.mpr hle)]
  change (if beagle.payload.length + data.length = header.length.toNat then _ else _ :
    DeviceM Beagle Unit) { beagle with payload } = _
  split <;> rfl

/-- A chip that waits for payload takes some more of it. -/
theorem bulkOut_payload {beagle : Beagle} {header : StreamHeader} {data : Bytes}
    (hpending : beagle.pending = some header)
    (hle : beagle.payload.length + data.length ≤ header.length.toNat) :
    let seen := beagle.seen [data.length]
    let payload := beagle.payload ++ data
    bulkOut streamIn data beagle =
      .ok data.length (if payload.length = header.length.toNat
        then seen.completed header.tag payload else seen.midway header payload) := by
  intro seen payload
  have htaken : takePayload header data seen = _ := takePayload_of_le hpending hle
  rw [bulkOut_streamIn, hpending]
  exact bind_of_ok htaken

/-- A chip in the middle of a payload takes some more of it. -/
theorem bulkOut_chunk (beagle : Beagle) {header : StreamHeader} {front chunk rest : Bytes}
    (hannounced : header.length.toNat = (front ++ (chunk ++ rest)).length) :
    bulkOut streamIn chunk (beagle.midway header front) =
      let seen := beagle.seen [chunk.length]
      .ok chunk.length (if rest = [] then seen.completed header.tag (front ++ chunk)
        else seen.midway header (front ++ chunk)) := by
  rw [List.length_append, List.length_append] at hannounced
  have hwhole : (front ++ chunk).length = header.length.toNat ↔ rest = [] := by
    rw [List.length_append, hannounced, ← List.length_eq_zero_iff]
    omega
  have hle : front.length + chunk.length ≤ header.length.toNat := by omega
  have htaken : bulkOut streamIn chunk (beagle.midway header front) = _ := bulkOut_payload rfl hle
  dsimp only [midway] at htaken
  simp only [hwhole] at htaken
  exact htaken

theorem bulkIn_streamOut (size : Nat) (beagle : Beagle) :
    bulkIn streamOut size beagle = .ok (beagle.outfeed.resize size 0) (beagle.drained size) := rfl

end Simulation.Beagle

/-! ## Carriers -/

/-- A transport that carries bulk transfers to a Beagle and brings back its answers in time. -/
structure BulkCarrier (τ : Type) where
  transport : Transport Ticket τ
  device : τ → Beagle
  /-- The states in which the transport keeps its word. -/
  fair : τ → Prop
  bulkOut (ticket : Ticket) (address : UInt8) (data : Bytes) {before : τ} (hfair : fair before) :
    let answered := (Beagle.bulkOut address data).outcome (device before)
    let submitted := transport.bulkOut ticket address data before
    fair submitted.2 ∧ submitted.1 = .completed answered.1 ∧ device submitted.2 = answered.2
  bulkIn (ticket : Ticket) (address : UInt8) (size : Nat) {before : τ} (hfair : fair before) :
    let answered := (Beagle.bulkIn address size).outcome (device before)
    let submitted := transport.bulkIn ticket address size before
    fair submitted.2 ∧ submitted.1 = .completed answered.1 ∧ device submitted.2 = answered.2

namespace BulkCarrier

/-- The chip itself. -/
def direct : BulkCarrier Beagle where
  transport := Beagle.model.transport
  device := id
  fair _ := True
  bulkOut _ _ _ _ _ := ⟨trivial, rfl, rfl⟩
  bulkIn _ _ _ _ _ := ⟨trivial, rfl, rfl⟩

variable {τ : Type} (carrier : BulkCarrier τ) (config : DriverConfig)

/-- A carrier that takes its time, but not too much of it. -/
def delayed : BulkCarrier (Delayed τ) where
  transport := Delayed.transport (Delayed.patience config) carrier.transport
  device delayed := carrier.device delayed.inner
  fair delayed := carrier.fair delayed.inner ∧ delayed.backlog = [] ∧
    delayed.due ≤ delayed.clock ∧ ∀ ticket, delayed.delay ≤ Delayed.patience config ticket
  bulkOut ticket address data before hfair := by
    obtain ⟨hinner, hfree, hidle, hdelay⟩ := hfair
    obtain ⟨hfair, hcompleted, hdevice⟩ := carrier.bulkOut ticket address data hinner
    dsimp only [Delayed.transport]
    rw [Delayed.submit_punctual _ hfree hidle (hdelay ticket)]
    exact ⟨⟨hfair, rfl, Nat.le_refl _, hdelay⟩, hcompleted, hdevice⟩
  bulkIn ticket address size before hfair := by
    obtain ⟨hinner, hfree, hidle, hdelay⟩ := hfair
    obtain ⟨hfair, hcompleted, hdevice⟩ := carrier.bulkIn ticket address size hinner
    dsimp only [Delayed.transport]
    rw [Delayed.submit_punctual _ hfree hidle (hdelay ticket)]
    exact ⟨⟨hfair, rfl, Nat.le_refl _, hdelay⟩, hcompleted, hdevice⟩

/-- The states of a link in which messages can be sent and outputs received. -/
structure LinkReady (link : Link τ) : Prop where
  payload : link.payload.Ready
  output : link.output.Ready
  fair : carrier.fair link.transport

/-- The chip behind a link. -/
def chip (link : Link τ) : Beagle := carrier.device link.transport

variable {carrier} {config} {link : Link τ}

/-- A transfer that the chip takes is made. -/
theorem payloadTransfer_eq_ok (hready : carrier.LinkReady link) {data : Bytes} {count : Nat}
    {after : Beagle}
    (htaken : Beagle.bulkOut Beagle.streamIn data (carrier.chip link) = .ok count after) :
    ∃ link', Link.payloadTransfer carrier.transport config data link = .ok count link' ∧
      carrier.LinkReady link' ∧ carrier.chip link' = after := by
  have hcarried := carrier.bulkOut ⟨link.owner, .payload, link.payload.last + 1⟩ Beagle.streamIn
    data hready.fair
  unfold chip at htaken
  unfold Link.payloadTransfer DeviceM.ofOutcome
  dsimp only
  cases hsubmit : carrier.transport.bulkOut ⟨link.owner, .payload, link.payload.last + 1⟩
      Beagle.streamIn data link.transport with
  | mk submission transport =>
    rw [hsubmit, DeviceM.outcome, htaken] at hcarried
    obtain ⟨hfair, rfl, hdevice⟩ := hcarried
    rw [CompletionQueue.transact_of_completed hready.payload _
      (fun number => carrier.transport.bulkOut ⟨link.owner, .payload, number⟩ Beagle.streamIn data)
      hsubmit]
    exact ⟨_, rfl, ⟨CompletionQueue.ready_nil _, hready.output, hfair⟩, hdevice⟩

/-- A transfer that the chip gives is made. -/
theorem outputTransfer_eq_ok (hready : carrier.LinkReady link) {size : Nat} {data : Bytes}
    {after : Beagle}
    (hgiven : Beagle.bulkIn Beagle.streamOut size (carrier.chip link) = .ok data after) :
    ∃ link', Link.outputTransfer carrier.transport config size link = .ok data link' ∧
      carrier.LinkReady link' ∧ carrier.chip link' = after := by
  have hcarried := carrier.bulkIn ⟨link.owner, .output, link.output.last + 1⟩ Beagle.streamOut
    size hready.fair
  unfold chip at hgiven
  unfold Link.outputTransfer DeviceM.ofOutcome
  dsimp only
  cases hsubmit : carrier.transport.bulkIn ⟨link.owner, .output, link.output.last + 1⟩
      Beagle.streamOut size link.transport with
  | mk submission transport =>
    rw [hsubmit, DeviceM.outcome, hgiven] at hcarried
    obtain ⟨hfair, rfl, hdevice⟩ := hcarried
    rw [CompletionQueue.transact_of_completed hready.output _
      (fun number => carrier.transport.bulkIn ⟨link.owner, .output, number⟩ Beagle.streamOut size)
      hsubmit]
    exact ⟨_, rfl, ⟨hready.payload, CompletionQueue.ready_nil _, hfair⟩, hdevice⟩

end BulkCarrier

/-! ## Specification -/

/-- The sizes of some transfers: how many there are, how large they are at most, and how many octets
    they carry together. -/
structure Carries (sizes : List Nat) (count bound octets : Nat) : Prop where
  count : sizes.length = count
  bounded : ∀ size ∈ sizes, size ≤ bound
  whole : sizes.sum = octets

/-- The octets of the inputs among messages. -/
def inputs (messages : List Message) : Bytes :=
  (messages.filter fun message => message.tag = .inputActivations).flatMap (·.payload)

/-- A chip has received messages: each in one transfer for the header, and as many for the payload
    as there are chunks in it. -/
structure Delivered (chunk : Nat) (messages : List Message) (before after : Beagle) : Prop where
  idle : after.Idle
  /-- The record of messages starts with the latest. -/
  received : after.received = messages.reverse ++ before.received
  outfeed : after.outfeed = before.outfeed ++ inputs messages
  transfers : ∃ cuts : List (List Nat),
    List.Forall₂ (fun message sizes => Carries sizes (1 + message.payload.length ⌈/⌉ chunk)
      (max StreamHeader.size chunk) (StreamHeader.size + message.payload.length)) messages cuts ∧
    after.transfers = (cuts.flatten.map (⟨Beagle.streamIn, ·⟩)).reverse ++ before.transfers

/-- Consecutive pieces of some octets, with zeros after the last one. -/
def pieces : Bytes → List Nat → List Bytes
  | _, [] => []
  | octets, size :: sizes => octets.resize size 0 :: pieces (octets.drop size) sizes

section

variable {σ : Type}

/-- Sends messages in their order. -/
def sendAll (stream : DataStream σ) (messages : List Message) : DeviceM σ Unit :=
  messages.forM fun message => stream.send message.tag message.payload

/-- Fills buffers in their order. -/
def receiveAll (stream : DataStream σ) : List Bytes → σ → List Received × σ
  | [], state => ([], state)
  | buffer :: buffers, state =>
    let (received, state) := stream.receive buffer state
    let (others, state) := receiveAll stream buffers state
    (received :: others, state)

end

/-! ## One turn of the loops over chunks -/

namespace Link

variable {τ : Type} {transport : Transport Ticket τ} {config : DriverConfig} {link link' : Link τ}

/-- A chunk that has been sent leaves the others to be sent. -/
theorem sendChunks_of_ok (total steps : Nat) {chunk others : Bytes}
    (htake : (chunk ++ others).take (chunkSize config) = chunk) (hchunk : chunk ≠ [])
    (h : payloadTransfer transport config chunk link = .ok chunk.length link') :
    sendChunks transport config total (steps + 1) (chunk ++ others) link =
      sendChunks transport config total steps others link' := by
  have hnonzero : chunk.length ≠ 0 := mt List.length_eq_zero_iff.mp hchunk
  obtain ⟨octet, more, rfl⟩ := List.exists_cons_of_ne_nil hchunk
  rw [List.cons_append, sendChunks, ← List.cons_append, htake]
  · dsimp only
    rw [bind_of_ok h, if_neg hnonzero, Nat.min_self, List.drop_left]
  · exact List.cons_ne_nil _ _

/-- Octets that have been received leave the rest of the buffer to be filled. -/
theorem receiveChunks_of_ok (total steps : Nat) (filled : Bytes) {rest got : Bytes}
    (hlength : got.length = (rest.take (chunkSize config)).length) (hgot : got ≠ [])
    (h : outputTransfer transport config got.length link = .ok got link') :
    receiveChunks transport config total (steps + 1) filled rest link =
      receiveChunks transport config total steps (got.reverse ++ filled) (rest.drop got.length)
        link' := by
  have hrest : rest ≠ [] := by
    rintro rfl
    exact hgot (List.length_eq_zero_iff.mp (by rw [hlength, List.take_nil, List.length_nil]))
  have htake : got.take got.length = got := List.take_length
  rw [receiveChunks, if_neg (by rwa [List.isEmpty_iff])]
  dsimp only
  rw [← hlength, h]
  obtain ⟨octet, more, rfl⟩ := List.exists_cons_of_ne_nil hgot
  dsimp only
  rw [htake]

end Link

/-! ## Sending -/

/-- Octets are cut into a chunk and others. -/
theorem exists_cut {rest : Bytes} {size : Nat} (hsize : 1 ≤ size) (hrest : rest ≠ []) :
    ∃ chunk others, rest = chunk ++ others ∧ rest.take size = chunk ∧ chunk ≠ [] ∧
      chunk.length ≤ size ∧ others.length = rest.length - size := by
  have hpos : 0 < rest.length := List.length_pos_iff.mpr hrest
  refine ⟨rest.take size, rest.drop size, (List.take_append_drop ..).symm, rfl, ?_,
    List.length_take_le .., List.length_drop⟩
  rw [← List.length_pos_iff, List.length_take]
  omega

theorem carries_nil (bound : Nat) : Carries [] 0 bound 0 :=
  ⟨rfl, fun _ hsize => absurd hsize List.not_mem_nil, rfl⟩

theorem Carries.cons {sizes : List Nat} {size count bound octets : Nat} (hle : size ≤ bound)
    (h : Carries sizes count bound octets) :
    Carries (size :: sizes) (1 + count) bound (size + octets) where
  count := by rw [List.length_cons, h.count, Nat.add_comm]
  bounded := List.forall_mem_cons.mpr ⟨hle, h.bounded⟩
  whole := by rw [List.sum_cons, h.whole]

theorem Carries.mono {sizes : List Nat} {count bound bound' octets : Nat} (hle : bound ≤ bound')
    (h : Carries sizes count bound octets) : Carries sizes count bound' octets :=
  ⟨h.count, fun size hsize => Nat.le_trans (h.bounded size hsize) hle, h.whole⟩

/-- A payload is cut into one chunk and the chunks of the rest. -/
theorem ceilDiv_eq_succ {chunk length : Nat} (hchunk : 0 < chunk) (hlength : 0 < length) :
    length ⌈/⌉ chunk = 1 + (length - chunk) ⌈/⌉ chunk := by
  rw [Nat.ceilDiv_eq_add_pred_div, Nat.ceilDiv_eq_add_pred_div]
  obtain hle | hle := Nat.le_total length chunk
  · have hrest : (length - chunk + chunk - 1) / chunk = 0 := Nat.div_eq_of_lt (by omega)
    rw [hrest]
    exact Nat.div_eq_of_lt_le (by omega) (by omega)
  · have hrest : length + chunk - 1 = length - chunk + chunk - 1 + chunk := by omega
    rw [hrest, Nat.add_div_right _ hchunk, Nat.add_comm]

theorem delivered_nil {chunk : Nat} {beagle : Beagle} (hidle : beagle.Idle) :
    Delivered chunk [] beagle beagle :=
  ⟨hidle, rfl, (List.append_nil _).symm, [], .nil, rfl⟩

theorem Delivered.cons {chunk : Nat} {message : Message} {messages : List Message}
    {before after : Beagle} {sizes : List Nat}
    (hsizes : Carries sizes (1 + message.payload.length ⌈/⌉ chunk)
      (max StreamHeader.size chunk) (StreamHeader.size + message.payload.length))
    (h : Delivered chunk messages ((before.seen sizes).completed message.tag message.payload)
      after) :
    Delivered chunk (message :: messages) before after := by
  obtain ⟨cuts, hcuts, htransfers⟩ := h.transfers
  refine ⟨h.idle, ?_, ?_, sizes :: cuts, .cons hsizes hcuts, ?_⟩
  · rw [h.received, List.reverse_cons, List.append_assoc]
    rfl
  · rw [h.outfeed]
    unfold inputs Beagle.completed Beagle.finish Beagle.seen
    by_cases hinput : message.tag = .inputActivations
    · simp [hinput]
    · simp [hinput]
  · rw [htransfers]
    simp [Beagle.completed, Beagle.finish, Beagle.seen]

namespace BulkCarrier

section

variable {τ : Type} {carrier : BulkCarrier τ} {config : DriverConfig} {link : Link τ}

/-- The rest of a payload arrives. -/
theorem sendChunks_eq_ok (hchunk : 1 ≤ config.maxChunk) {header : StreamHeader} (total : Nat)
    {steps : Nat} {front rest : Bytes} {beagle : Beagle} (hsteps : rest.length ≤ steps)
    (hrest : rest ≠ []) (hready : carrier.LinkReady link)
    (hannounced : header.length.toNat = (front ++ rest).length)
    (hchip : carrier.chip link = beagle.midway header front) :
    ∃ link' sizes,
      Link.sendChunks carrier.transport config total steps rest link = .ok () link' ∧
        carrier.LinkReady link' ∧
        carrier.chip link' = (beagle.seen sizes).completed header.tag (front ++ rest) ∧
        Carries sizes (rest.length ⌈/⌉ config.maxChunk) config.maxChunk rest.length := by
  have hsize : Link.chunkSize config = config.maxChunk := Nat.max_eq_left hchunk
  induction steps generalizing link front rest beagle with
  | zero => exact absurd (List.length_eq_zero_iff.mp (Nat.le_zero.mp hsteps)) hrest
  | succ steps ih =>
    have hpos : 0 < rest.length := List.length_pos_iff.mpr hrest
    obtain ⟨chunk, others, rfl, htake, hnonempty, hle, hlater⟩ := exists_cut hchunk hrest
    obtain ⟨link', htransfer, hready', hchip'⟩ : ∃ link',
        Link.payloadTransfer carrier.transport config chunk link = .ok chunk.length link' ∧
          carrier.LinkReady link' ∧ carrier.chip link' = _ :=
      payloadTransfer_eq_ok hready (hchip ▸ Beagle.bulkOut_chunk beagle hannounced)
    rw [← List.append_assoc] at hannounced
    rw [Link.sendChunks_of_ok total steps (hsize ▸ htake) hnonempty htransfer,
      ceilDiv_eq_succ hchunk hpos, ← hlater, List.length_append, ← List.append_assoc]
    by_cases hlast : others = []
    · subst hlast
      rw [if_pos rfl] at hchip'
      rw [Link.sendChunks_nil, List.append_nil, List.length_nil, zero_ceilDiv]
      exact ⟨link', [chunk.length], rfl, hready', hchip', (carries_nil _).cons hle⟩
    · rw [if_neg hlast] at hchip'
      obtain ⟨link'', sizes, hsent, hready'', hchip'', hcarries⟩ :=
        ih (by omega) hlast hready' hannounced hchip'
      rw [Beagle.seen_seen] at hchip''
      exact ⟨link'', chunk.length :: sizes, hsent, hready'', hchip'', hcarries.cons hle⟩

/-- A message arrives. -/
theorem send_eq_ok (hchunk : 1 ≤ config.maxChunk) (tag : StreamTag) {data : Bytes}
    (hsmall : data.length < UInt32.size) (hready : carrier.LinkReady link)
    (hidle : (carrier.chip link).Idle) :
    ∃ link' sizes, Link.send carrier.transport config tag data link = .ok () link' ∧
      carrier.LinkReady link' ∧
      carrier.chip link' = ((carrier.chip link).seen sizes).completed tag data ∧
      Carries sizes (1 + data.length ⌈/⌉ config.maxChunk) (max StreamHeader.size config.maxChunk)
        (StreamHeader.size + data.length) := by
  let header : StreamHeader := ⟨UInt32.ofNat data.length, tag⟩
  have hcarried : header.length.toNat = data.length := UInt32.toNat_ofNat_of_lt' hsmall
  have hsize : header.encode.length = StreamHeader.size := by
    rw [StreamHeader.encode, List.length_append, Bytes.length_littleEndian]
    rfl
  obtain ⟨link', htransfer, hready', hchip'⟩ : ∃ link',
      Link.payloadTransfer carrier.transport config header.encode link =
        .ok header.encode.length link' ∧ carrier.LinkReady link' ∧ carrier.chip link' = _ :=
    payloadTransfer_eq_ok hready
      (Beagle.bulkOut_header hidle hsize (StreamHeader.decode_encode header))
  rw [hsize] at htransfer hchip'
  have hcontinue : Link.send carrier.transport config tag data link =
      Link.sendChunks carrier.transport config data.length data.length data link' := by
    unfold Link.send
    dsimp only
    rw [if_neg (Nat.not_le.mpr hsmall)]
    rw [bind_of_ok htransfer, if_neg (not_not.mpr rfl)]
  have hheader : StreamHeader.size ≤ max StreamHeader.size config.maxChunk := Nat.le_max_left ..
  rw [hcontinue]
  by_cases hdata : data = []
  · subst hdata
    rw [if_pos (show header.length = 0 from rfl)] at hchip'
    rw [Link.sendChunks_nil, List.length_nil, zero_ceilDiv]
    exact ⟨link', [StreamHeader.size], rfl, hready', hchip', (carries_nil _).cons hheader⟩
  · have hnonempty : header.length ≠ 0 := fun hzero => hdata <| by
      rw [← List.length_eq_zero_iff, ← hcarried, hzero]
      rfl
    rw [if_neg hnonempty] at hchip'
    obtain ⟨link'', sizes, hsent, hready'', hchip'', hcarries⟩ :=
      sendChunks_eq_ok hchunk data.length (Nat.le_refl _) hdata hready' hcarried hchip'
    rw [Beagle.seen_seen] at hchip''
    exact ⟨link'', StreamHeader.size :: sizes, hsent, hready'', hchip'',
      (hcarries.mono (Nat.le_max_right ..)).cons hheader⟩

/-- Messages arrive. -/
theorem sendAll_eq_ok (hchunk : 1 ≤ config.maxChunk) {messages : List Message}
    (hsmall : ∀ message ∈ messages, message.payload.length < UInt32.size)
    (hready : carrier.LinkReady link) (hidle : (carrier.chip link).Idle) :
    ∃ link', sendAll (Link.stream carrier.transport config) messages link = .ok () link' ∧
      carrier.LinkReady link' ∧
      Delivered config.maxChunk messages (carrier.chip link) (carrier.chip link') := by
  induction messages generalizing link with
  | nil => exact ⟨link, rfl, hready, delivered_nil hidle⟩
  | cons message messages ih =>
    obtain ⟨hfirst, hrest⟩ := List.forall_mem_cons.mp hsmall
    obtain ⟨mid, sizes, hsent, hready', hchip, hsizes⟩ :=
      send_eq_ok hchunk message.tag hfirst hready hidle
    obtain ⟨link', hall, hready'', hdelivered⟩ := ih hrest hready' (hchip ▸ ⟨rfl, rfl⟩)
    rw [hchip] at hdelivered
    exact ⟨link', forM_cons_eq_ok_iff.mpr ⟨mid, hsent, hall⟩, hready'', hdelivered.cons hsizes⟩

end

/-! ## Receiving -/

/-- Octets that are asked for in two parts. -/
theorem resize_add (octets : Bytes) (size size' : Nat) :
    octets.resize (size + size') 0 =
      octets.resize size 0 ++ Bytes.resize (octets.drop size) size' 0 := by
  unfold Bytes.resize
  dsimp only
  rw [List.take_add, List.append_assoc, List.append_assoc, List.length_append]
  obtain hle | hle := Nat.le_total size octets.length
  · have hfront : (octets.take size).length = size := List.length_take_of_le hle
    rw [hfront, Nat.sub_self, Nat.add_sub_add_left, List.replicate_zero, List.nil_append]
  · have hrest : octets.drop size = [] := List.drop_of_length_le hle
    rw [hrest, List.take_of_length_le hle, List.take_nil, List.length_nil, List.nil_append,
      List.nil_append, List.replicate_append_replicate]
    congr 2
    omega

section

variable {τ : Type} {carrier : BulkCarrier τ} {config : DriverConfig} {link : Link τ}

/-- The rest of a buffer is filled. -/
theorem receiveChunks_eq (hchunk : 1 ≤ config.maxChunk) (total : Nat) {steps : Nat}
    (filled : Bytes) {rest : Bytes} (hsteps : rest.length ≤ steps)
    (hready : carrier.LinkReady link) :
    ∃ link', Link.receiveChunks carrier.transport config total steps filled rest link =
        (⟨filled.reverse ++ (carrier.chip link).outfeed.resize rest.length 0, .ok ()⟩, link') ∧
      carrier.LinkReady link' ∧ carrier.chip link' = (carrier.chip link).drained rest.length := by
  have hsize : Link.chunkSize config = config.maxChunk := Nat.max_eq_left hchunk
  induction steps generalizing link filled rest with
  | zero =>
    obtain rfl := List.length_eq_zero_iff.mp (Nat.le_zero.mp hsteps)
    exact ⟨link, rfl, hready, rfl⟩
  | succ steps ih =>
    by_cases hrest : rest = []
    · subst hrest
      exact ⟨link, by simp [Link.receiveChunks, Bytes.resize], hready, rfl⟩
    have hpos : 0 < rest.length := List.length_pos_iff.mpr hrest
    obtain ⟨got, hgot⟩ : ∃ got,
        (carrier.chip link).outfeed.resize (rest.take (Link.chunkSize config)).length 0 = got :=
      ⟨_, rfl⟩
    have hlength : got.length = (rest.take (Link.chunkSize config)).length := by
      rw [← hgot, Bytes.length_resize]
    have hbounds : 0 < got.length ∧ got.length ≤ rest.length := by
      rw [hlength, List.length_take, hsize]
      omega
    rw [← hlength] at hgot
    obtain ⟨link', htransfer, hready', hchip'⟩ : ∃ link',
        Link.outputTransfer carrier.transport config got.length link = .ok got link' ∧
          carrier.LinkReady link' ∧ carrier.chip link' = _ :=
      outputTransfer_eq_ok hready (hgot ▸ Beagle.bulkIn_streamOut got.length (carrier.chip link))
    have hdrop : (rest.drop got.length).length = rest.length - got.length := List.length_drop
    have hsplit : rest.length = got.length + (rest.drop got.length).length := by omega
    have hlater : (rest.drop got.length).length ≤ steps := by omega
    obtain ⟨link'', hfilled, hready'', hchip''⟩ := ih (got.reverse ++ filled) hlater hready'
    refine ⟨link'', ?_, hready'', ?_⟩
    · rw [Link.receiveChunks_of_ok total steps filled hlength (List.length_pos_iff.mp hbounds.1)
        htransfer, hfilled, hchip', hsplit, resize_add, hgot, List.reverse_append,
        List.reverse_reverse, List.append_assoc]
      rfl
    · rw [hchip'', hchip', Beagle.drained_drained, ← hsplit]

/-- Buffers are filled with consecutive pieces of the output. -/
theorem receiveAll_eq (hchunk : 1 ≤ config.maxChunk) (buffers : List Bytes)
    (hready : carrier.LinkReady link) :
    ∃ link', receiveAll (Link.stream carrier.transport config) buffers link =
        ((pieces (carrier.chip link).outfeed (buffers.map (·.length))).map (⟨·, .ok ()⟩), link') ∧
      carrier.chip link' =
        (carrier.chip link).drained (buffers.map (·.length)).sum := by
  induction buffers generalizing link with
  | nil => exact ⟨link, rfl, rfl⟩
  | cons buffer buffers ih =>
    obtain ⟨mid, hfilled, hready', hchip⟩ :=
      receiveChunks_eq hchunk buffer.length [] (Nat.le_refl _) hready
    obtain ⟨link', hall, hchip'⟩ := ih hready'
    refine ⟨link', ?_, ?_⟩
    · have hfirst : (Link.stream carrier.transport config).receive buffer link = _ := hfilled
      rw [receiveAll, hfirst]
      dsimp only
      rw [hall, hchip]
      rfl
    · rw [hchip', hchip, Beagle.drained_drained, List.map_cons, List.sum_cons]

/-! ## Main theorem -/

/-- What comes of sending messages and receiving outputs after them: the messages that the chip has
    received, what the buffers hold, and the outputs that are left. -/
structure Exchange where
  received : List Message
  replies : List Received
  left : Bytes

/-- Sends messages, and receives outputs after them. -/
def exchange (carrier : BulkCarrier τ) (config : DriverConfig) (messages : List Message)
    (buffers : List Bytes) (link : Link τ) : Except DriverError Exchange :=
  match sendAll (Link.stream carrier.transport config) messages link with
  | .ok _ sent =>
    let (replies, final) := receiveAll (Link.stream carrier.transport config) buffers sent
    .ok ⟨(carrier.chip final).received, replies, (carrier.chip final).outfeed⟩
  | .error error _ => .error error

/-- What an exchange comes to, which the chunk size has no part in. -/
theorem exchange_eq (hchunk : 1 ≤ config.maxChunk) {messages : List Message}
    (hsmall : ∀ message ∈ messages, message.payload.length < UInt32.size) (buffers : List Bytes)
    (hready : carrier.LinkReady link) (hidle : (carrier.chip link).Idle) :
    exchange carrier config messages buffers link =
      let outfeed := (carrier.chip link).outfeed ++ inputs messages
      let sizes := buffers.map (·.length)
      .ok ⟨messages.reverse ++ (carrier.chip link).received,
        (pieces outfeed sizes).map (⟨·, .ok ()⟩), outfeed.drop sizes.sum⟩ := by
  obtain ⟨sent, hsent, hready', hdelivered⟩ := sendAll_eq_ok hchunk hsmall hready hidle
  obtain ⟨final, hreceived, hchip⟩ := receiveAll_eq hchunk buffers hready'
  rw [exchange, hsent]
  dsimp only
  rw [hreceived, hchip, ← hdelivered.received, ← hdelivered.outfeed]
  rfl

/-- **Streaming is lossless, and independent of the chunk size.** Messages that are sent to a chip
    between payloads arrive, and later receives return the inputs among them piece by piece. -/
theorem streaming_lossless (carrier : BulkCarrier τ) {config : DriverConfig}
    (hchunk : 1 ≤ config.maxChunk) {messages : List Message}
    (hsmall : ∀ message ∈ messages, message.payload.length < UInt32.size) {link : Link τ}
    (hready : carrier.LinkReady link) (hidle : (carrier.chip link).Idle) :
    ∃ sent, sendAll (Link.stream carrier.transport config) messages link = .ok () sent ∧
      Delivered config.maxChunk messages (carrier.chip link) (carrier.chip sent) ∧
      (∀ buffers : List Bytes,
        let sizes := buffers.map (·.length)
        let (replies, final) := receiveAll (Link.stream carrier.transport config) buffers sent
        replies = (pieces (carrier.chip sent).outfeed sizes).map (⟨·, .ok ()⟩) ∧
          carrier.chip final = (carrier.chip sent).drained sizes.sum) ∧
      ∀ (config' : DriverConfig) (buffers : List Bytes), 1 ≤ config'.maxChunk →
        exchange carrier config' messages buffers link =
          exchange carrier config messages buffers link := by
  obtain ⟨sent, hsent, hready', hdelivered⟩ := sendAll_eq_ok hchunk hsmall hready hidle
  refine ⟨sent, hsent, hdelivered, fun buffers => ?_, fun config' buffers hchunk' => ?_⟩
  · obtain ⟨final, hreceived, hchip⟩ := receiveAll_eq hchunk buffers hready'
    dsimp only
    rw [hreceived]
    exact ⟨rfl, hchip⟩
  · rw [exchange_eq hchunk' hsmall buffers hready hidle,
      exchange_eq hchunk hsmall buffers hready hidle]

/-- A payload that is a header itself, one that is empty, and one that is cut in three, over a
    transport that takes half a millisecond for each transfer. -/
theorem streaming_lossless_mixed :
    let config : DriverConfig := { maxChunk := 3 }
    let carrier := direct.delayed config
    let link : Link (Delayed Beagle) :=
      { owner := 0, transport := { inner := { Beagle.new with outfeed := [9] }, delay := 500 } }
    let header : StreamHeader := ⟨4, .inputActivations⟩
    let messages : List Message := [⟨.parameters, header.encode⟩, ⟨.inputActivations, []⟩,
      ⟨.inputActivations, [1, 2, 3, 4, 5, 6, 7]⟩]
    1 ≤ config.maxChunk ∧ (∀ message ∈ messages, message.payload.length < UInt32.size) ∧
      carrier.LinkReady link ∧ (carrier.chip link).Idle ∧
      ∃ sent, sendAll (Link.stream carrier.transport config) messages link = .ok () sent ∧
        Delivered 3 messages (carrier.chip link) (carrier.chip sent) ∧
        (carrier.chip sent).outfeed = [9, 1, 2, 3, 4, 5, 6, 7] := by
  intro config carrier link header messages
  have hchunk : 1 ≤ config.maxChunk := by decide
  have hsmall : ∀ message ∈ messages, message.payload.length < UInt32.size := by decide
  have hpunctual : ∀ ticket, link.transport.delay ≤ Delayed.patience config ticket := by
    intro ticket
    unfold Delayed.patience
    cases ticket.pipe <;> decide
  have hready : carrier.LinkReady link :=
    ⟨CompletionQueue.ready_nil 0, CompletionQueue.ready_nil 0, trivial, rfl, Nat.le_refl 0,
      hpunctual⟩
  have hidle : (carrier.chip link).Idle := ⟨rfl, rfl⟩
  obtain ⟨sent, hsent, hdelivered, -⟩ := streaming_lossless carrier hchunk hsmall hready hidle
  exact ⟨hchunk, hsmall, hready, hidle, sent, hsent, hdelivered, hdelivered.outfeed⟩

end

end BulkCarrier

end TensorLink

import TensorLink.Proofs.Transport.RegisterChannel

/-!
# Transfers that move less than they should

A device takes as much of a transfer as it likes and reports what it likes, and it answers a request
with as many octets as it likes. Whatever it does, what it has taken of a message is a front of the
message, and the whole of it if sending ends well; and the front of a buffer is what it has given,
and all of the buffer is if receiving ends well.

The loops over chunks run for as many turns as there are octets. This is no bound on them: a turn
that does not end the loop moves an octet, so with more turns they do the same.

Results:
* `transact_cases`: what a transfer returns, with whatever stands in its queue.
* `sendChunks_eq_of_le`, `receiveChunks_eq_of_le`: more turns than octets change nothing.
* `sent_sendChunks`, `filled_receiveChunks`: what the loops move.
* `moves_in_order`: what sending and receiving move, and in how many transfers.
-/

namespace TensorLink

open Sequencing

/-! ## Transfers over any queue -/

namespace CompletionQueue

variable {α τ : Type} {queue : CompletionQueue α} {before after : τ}

/-- A queue that holds no completion of a later submission. -/
def Earlier (queue : CompletionQueue α) : Prop := ∀ entry ∈ queue.queued, entry.1 ≤ queue.last

theorem earlier_nil (last : Nat) : Earlier (⟨last, []⟩ : CompletionQueue α) :=
  fun _ hentry => absurd hentry List.not_mem_nil

/-- What a transfer returns, and how it leaves the queue. -/
structure Returns (queue : CompletionQueue α) (submission : Submission α)
    (result : Except DriverError α) (left : CompletionQueue α) : Prop where
  last : left.last = queue.last + 1
  earlier : left.Earlier
  /-- A value is what the transfer has completed with, and nothing is left in the queue. -/
  value : ∀ value, result = .ok value → submission = .completed (.ok value) ∧ left.queued = []
  /-- What the transfer completes with is lost only to a full queue. -/
  completed : queue.queued.length < depth → ∀ outcome, submission = .completed outcome →
    result = outcome

/-- However many completions of earlier submissions stand in the queue, a transfer returns what it
    completes with, or an error. -/
theorem transact_cases (hearlier : queue.Earlier) (milliseconds : Nat)
    (submit : Nat → τ → Submission α × τ) {submission : Submission α}
    (hsubmit : submit (queue.last + 1) before = (submission, after)) :
    ∃ result left, queue.transact milliseconds submit before = (result, left, after) ∧
      Returns queue submission result left := by
  have hlt : ∀ entry ∈ queue.queued, entry.1 < queue.last + 1 :=
    fun entry hentry => Nat.lt_succ_of_le (hearlier entry hentry)
  cases submission with
  | refused error =>
    refine ⟨.error error, ⟨queue.last + 1, queue.queued⟩, ?_, rfl, ?_, fun _ h => (by cases h),
      fun _ _ h => by cases h⟩
    · simp only [transact, arm, hsubmit]
    · exact fun entry hentry => Nat.le_of_lt (hlt entry hentry)
  | pending =>
    refine ⟨.error (.timeout milliseconds), ⟨queue.last + 1, []⟩, ?_, rfl, earlier_nil _,
      fun _ h => (by cases h), fun _ _ h => by cases h⟩
    simp only [transact, arm, hsubmit, wait, collect_earlier hlt]
  | completed outcome =>
    by_cases hroom : queue.queued.length < depth
    · refine ⟨outcome, ⟨queue.last + 1, []⟩, transact_of_completed ⟨hroom, hearlier⟩ _ _ hsubmit,
        rfl, earlier_nil _, ?_, ?_⟩
      · rintro value rfl
        exact ⟨rfl, rfl⟩
      · rintro - _ ⟨⟩
        rfl
    · -- The queue is full of earlier completions, so the wait finds only these.
      refine ⟨.error (.timeout milliseconds), ⟨queue.last + 1, []⟩, ?_, rfl, earlier_nil _,
        fun _ h => (by cases h), fun h => absurd h hroom⟩
      simp only [transact, arm, hsubmit, complete, hroom, if_false, wait, collect_earlier hlt]

end CompletionQueue

/-! ## Turns of the loops -/

namespace Link

variable {τ : Type} {transport : Transport Ticket τ} {config : DriverConfig} {link : Link τ}

/-- One turn of sending: a chunk goes out, and as much as is reported of it, if that is not
    nothing, is not sent again. -/
theorem sendChunks_succ (total steps : Nat) {rest : Bytes} (hrest : rest ≠ []) :
    sendChunks transport config total (steps + 1) rest = (do
      let chunk := rest.take (chunkSize config)
      let sent ← payloadTransfer transport config chunk
      if sent = 0 then
        let cursor := total - rest.length
        throw (.transferFailed s!"bulk-out stalled at byte {cursor} of {total}")
      sendChunks transport config total steps (rest.drop (min sent chunk.length))) := by
  obtain ⟨octet, more, rfl⟩ := List.exists_cons_of_ne_nil hrest
  rfl

theorem chunkSize_pos (config : DriverConfig) : 0 < chunkSize config := Nat.le_max_right ..

/-- What is left after a transfer that has moved something is shorter. -/
theorem length_drop_lt (config : DriverConfig) {rest : Bytes} (hrest : rest ≠ []) {sent : Nat}
    (hsent : sent ≠ 0) :
    (rest.drop (min sent (rest.take (chunkSize config)).length)).length < rest.length := by
  have hlength := List.length_pos_iff.mpr hrest
  have hchunk := chunkSize_pos config
  rw [List.length_drop, List.length_take]
  omega

/-- As much of a chunk as has been moved, and what is left after it. -/
theorem take_append_drop_min (rest : Bytes) (size sent : Nat) :
    (rest.take size).take sent ++ rest.drop (min sent (rest.take size).length) = rest := by
  have hmoved : (rest.take size).take sent = rest.take (min sent (rest.take size).length) := by
    rw [List.take_take, List.take_eq_take_iff, List.length_take]
    omega
  rw [hmoved, List.take_append_drop]

/-- Sending ends within as many turns as there are octets. -/
theorem sendChunks_eq_of_le (total : Nat) {steps steps' : Nat} {rest : Bytes}
    (hsteps : rest.length ≤ steps) (hsteps' : rest.length ≤ steps') :
    sendChunks transport config total steps rest =
      sendChunks transport config total steps' rest := by
  induction steps generalizing steps' rest with
  | zero =>
    obtain rfl := List.length_eq_zero_iff.mp (Nat.le_zero.mp hsteps)
    rw [sendChunks_nil, sendChunks_nil]
  | succ steps ih =>
    by_cases hrest : rest = []
    · subst hrest
      rw [sendChunks_nil, sendChunks_nil]
    obtain ⟨steps', rfl⟩ : ∃ more, steps' = more + 1 := by
      have hlength := List.length_pos_iff.mpr hrest
      exact Nat.exists_eq_succ_of_ne_zero (by omega)
    rw [sendChunks_succ total steps hrest, sendChunks_succ total steps' hrest]
    dsimp only
    refine bind_congr fun sent => ?_
    by_cases hsent : sent = 0
    · rw [if_pos hsent, if_pos hsent]
      rfl
    · have hshorter := length_drop_lt config hrest hsent
      rw [if_neg hsent, if_neg hsent]
      exact ih (by omega) (by omega)

/-- Receiving ends within as many turns as there are octets to be filled. -/
theorem receiveChunks_eq_of_le (total : Nat) {steps steps' : Nat} (filled : Bytes) {rest : Bytes}
    (hsteps : rest.length ≤ steps) (hsteps' : rest.length ≤ steps') :
    receiveChunks transport config total steps filled rest link =
      receiveChunks transport config total steps' filled rest link := by
  induction steps generalizing steps' filled rest link with
  | zero =>
    obtain rfl := List.length_eq_zero_iff.mp (Nat.le_zero.mp hsteps)
    cases steps' with
    | zero => rfl
    | succ steps' => simp [receiveChunks]
  | succ steps ih =>
    by_cases hrest : rest = []
    · subst hrest
      cases steps' with
      | zero => simp [receiveChunks]
      | succ steps' => rfl
    obtain ⟨steps', rfl⟩ : ∃ more, steps' = more + 1 := by
      have hlength := List.length_pos_iff.mpr hrest
      exact Nat.exists_eq_succ_of_ne_zero (by omega)
    rw [receiveChunks, receiveChunks, if_neg (mt List.isEmpty_iff.mp hrest),
      if_neg (mt List.isEmpty_iff.mp hrest)]
    dsimp only
    split
    · rfl
    · rfl
    · next got link' hgot _ =>
      have hlength := List.length_pos_iff.mpr hrest
      have hgot := List.length_pos_iff.mpr hgot
      have hchunk := chunkSize_pos config
      refine ih _ ?_ ?_ <;> simp only [List.length_drop, List.length_take] <;> omega

end Link

/-! ## Carriers that keep count -/

/-- A message as it goes over the pipe: its header, and its payload after it. -/
def framed (tag : StreamTag) (data : Bytes) : Bytes :=
  StreamHeader.encode ⟨UInt32.ofNat data.length, tag⟩ ++ data

/-- What a submission gives to whoever asked for so many octets. -/
def given? (size : Nat) : Submission Bytes → List Bytes
  | .completed (.ok reply) => [reply.take size]
  | _ => []

/-- A transport over a device that takes and gives what it likes, and keeps what it has taken and
    given. -/
structure MeteredCarrier (τ : Type) where
  transport : Transport Ticket τ
  /-- The octets that the device has taken, oldest first. -/
  taken : τ → Bytes
  /-- What the device has replied, oldest first, each reply cut to what was asked for. -/
  given : τ → List Bytes
  /-- The device takes a front of each transfer: as much of it as it reports, if it reports a
      count, and whatever it likes if the transfer is refused, fails or is late. -/
  bulkOut (ticket : Ticket) (address : UInt8) (data : Bytes) (before : τ) :
    let submitted := transport.bulkOut ticket address data before
    ∃ part, part <+: data ∧ taken submitted.2 = taken before ++ part ∧
      ∀ count, submitted.1 = .completed (.ok count) → part = data.take count
  bulkIn (ticket : Ticket) (address : UInt8) (size : Nat) (before : τ) :
    let submitted := transport.bulkIn ticket address size before
    given submitted.2 = given before ++ given? size submitted.1

namespace MeteredCarrier

variable {τ : Type} (carrier : MeteredCarrier τ) {config : DriverConfig} {link : Link τ}

/-- How sending ends that has so many octets to move in at most so many transfers: a front of them
    has been taken, each octet once and in order, and all of them if it ends well. -/
structure Sent (octets : Bytes) (transfers : Nat) (before : Link τ) {α : Type}
    (ended : EStateM.Result DriverError (Link τ) α) : Prop where
  transfers : (left ended).payload.last ≤ before.payload.last + transfers
  earlier : (left ended).payload.Earlier
  front : ∃ part, part <+: octets ∧
    carrier.taken (left ended).transport = carrier.taken before.transport ++ part ∧
    ∀ value after, ended = .ok value after → part = octets

/-- How filling the rest of a buffer ends, the front of which holds some octets already, in at most
    so many transfers: as much of the rest as has been received is overwritten, and all of it if it
    ends well. A reply may be lost, but only the first one, and only if the queue was full. -/
structure Filled (front rest : Bytes) (transfers : Nat) (before : Link τ)
    (ended : Received × Link τ) : Prop where
  transfers : ended.2.output.last ≤ before.output.last + transfers
  earlier : ended.2.output.Earlier
  received : ∃ got lost,
    carrier.given ended.2.transport = carrier.given before.transport ++ got ++ lost ∧
    got.flatten.length ≤ rest.length ∧
    ended.1.buffer = front ++ got.flatten ++ rest.drop got.flatten.length ∧
    (ended.1.outcome = .ok () → got.flatten.length = rest.length ∧ lost = []) ∧
    (lost = [] ∨ got = [] ∧ lost.length = 1 ∧
      CompletionQueue.depth ≤ before.output.queued.length)

/-! ## Single transfers -/

section

variable (config)

/-- A transfer to the device. -/
theorem sent_payloadTransfer (hearlier : link.payload.Earlier) (data : Bytes) :
    let ended := Link.payloadTransfer carrier.transport config data link
    (left ended).payload.last = link.payload.last + 1 ∧ (left ended).payload.Earlier ∧
      ∃ part, part <+: data ∧
        carrier.taken (left ended).transport = carrier.taken link.transport ++ part ∧
        ∀ count after, ended = .ok count after → part = data.take count := by
  unfold Link.payloadTransfer DeviceM.ofOutcome
  dsimp only
  have htakes := carrier.bulkOut ⟨link.owner, .payload, link.payload.last + 1⟩
    (Endpoint.outputAddress Endpoint.streaming) data link.transport
  cases hsubmit : carrier.transport.bulkOut ⟨link.owner, .payload, link.payload.last + 1⟩
      (Endpoint.outputAddress Endpoint.streaming) data link.transport with
  | mk submission transport =>
    rw [hsubmit] at htakes
    obtain ⟨part, hpart, htaken, hcount⟩ := htakes
    obtain ⟨result, queue, htransact, hreturns⟩ := CompletionQueue.transact_cases hearlier
      (PipeName.payload.timeout config) (fun number => carrier.transport.bulkOut
        ⟨link.owner, .payload, number⟩ (Endpoint.outputAddress Endpoint.streaming) data) hsubmit
    rw [htransact]
    cases result with
    | ok count =>
      refine ⟨hreturns.last, hreturns.earlier, part, hpart, htaken, ?_⟩
      rintro _ _ ⟨⟩
      exact hcount count (hreturns.value count rfl).1
    | error error => exact ⟨hreturns.last, hreturns.earlier, part, hpart, htaken, nofun⟩

/-- A transfer from the device. -/
theorem given_outputTransfer (hearlier : link.output.Earlier) (size : Nat) :
    let ended := Link.outputTransfer carrier.transport config size link
    (left ended).output.last = link.output.last + 1 ∧ (left ended).output.Earlier ∧
      (∀ reply after, ended = .ok reply after → after.output.queued = [] ∧
        carrier.given after.transport = carrier.given link.transport ++ [reply.take size]) ∧
      ∀ error after, ended = .error error after → ∃ lost,
        carrier.given after.transport = carrier.given link.transport ++ lost ∧
        (lost = [] ∨ lost.length = 1 ∧ CompletionQueue.depth ≤ link.output.queued.length) := by
  unfold Link.outputTransfer DeviceM.ofOutcome
  dsimp only
  have hgiven := carrier.bulkIn ⟨link.owner, .output, link.output.last + 1⟩
    (Endpoint.inputAddress Endpoint.streaming) size link.transport
  cases hsubmit : carrier.transport.bulkIn ⟨link.owner, .output, link.output.last + 1⟩
      (Endpoint.inputAddress Endpoint.streaming) size link.transport with
  | mk submission transport =>
    rw [hsubmit] at hgiven
    obtain ⟨result, queue, htransact, hreturns⟩ := CompletionQueue.transact_cases hearlier
      (PipeName.output.timeout config) (fun number => carrier.transport.bulkIn
        ⟨link.owner, .output, number⟩ (Endpoint.inputAddress Endpoint.streaming) size) hsubmit
    rw [htransact]
    cases result with
    | ok reply =>
      obtain ⟨rfl, hempty⟩ := hreturns.value reply rfl
      refine ⟨hreturns.last, hreturns.earlier, ?_, nofun⟩
      rintro _ _ ⟨⟩
      exact ⟨hempty, hgiven⟩
    | error error =>
      refine ⟨hreturns.last, hreturns.earlier, nofun, ?_⟩
      rintro _ _ ⟨⟩
      refine ⟨_, hgiven, ?_⟩
      cases submission with
      | refused error => exact .inl rfl
      | pending => exact .inl rfl
      | completed outcome =>
        cases outcome with
        | error error => exact .inl rfl
        | ok reply =>
          refine .inr ⟨rfl, Nat.le_of_not_lt fun hroom => ?_⟩
          cases hreturns.completed hroom _ rfl

end

variable {carrier}

/-! ## Sending -/

theorem sent_nil (hearlier : link.payload.Earlier) (transfers : Nat) :
    carrier.Sent [] transfers link (.ok () link) :=
  ⟨Nat.le_add_right .., hearlier, [], List.prefix_rfl, (List.append_nil _).symm, fun _ _ _ => rfl⟩

theorem Sent.mono {octets : Bytes} {transfers transfers' : Nat} {α : Type}
    {ended : EStateM.Result DriverError (Link τ) α} (hle : transfers ≤ transfers')
    (h : carrier.Sent octets transfers link ended) : carrier.Sent octets transfers' link ended :=
  ⟨Nat.le_trans h.transfers (Nat.add_le_add_left hle _), h.earlier, h.front⟩

/-- Octets that one transfer has moved leave the others to be moved. -/
theorem Sent.cons {first rest : Bytes} {transfers : Nat} {mid : Link τ} {α : Type}
    {ended : EStateM.Result DriverError (Link τ) α}
    (hlast : mid.payload.last = link.payload.last + 1)
    (htaken : carrier.taken mid.transport = carrier.taken link.transport ++ first)
    (h : carrier.Sent rest transfers mid ended) :
    carrier.Sent (first ++ rest) (1 + transfers) link ended := by
  obtain ⟨part, hpart, hmore, hall⟩ := h.front
  refine ⟨by have := h.transfers; omega, h.earlier, first ++ part,
    (List.prefix_append_right_inj first).mpr hpart, ?_, fun value after hended => ?_⟩
  · rw [hmore, htaken, List.append_assoc]
  · rw [hall value after hended]

/-- A transfer that fails, or that sending ends with, has moved a front of what was to be moved. -/
theorem Sent.of_error {octets part : Bytes} {transfers : Nat} {mid : Link τ} {α : Type}
    {error : DriverError} (hlast : mid.payload.last = link.payload.last + 1)
    (hearlier : mid.payload.Earlier) (hpart : part <+: octets)
    (htaken : carrier.taken mid.transport = carrier.taken link.transport ++ part) :
    carrier.Sent octets (1 + transfers) link (.error error mid : EStateM.Result _ _ α) :=
  ⟨by change mid.payload.last ≤ _; omega, hearlier, part, hpart, htaken, nofun⟩

/-- **Loop.** However much each transfer moves, the rest of a payload is sent in order. -/
theorem sent_sendChunks (total : Nat) {steps : Nat} {rest : Bytes} (hsteps : rest.length ≤ steps)
    (hearlier : link.payload.Earlier) :
    carrier.Sent rest rest.length link
      (Link.sendChunks carrier.transport config total steps rest link) := by
  induction steps generalizing rest link with
  | zero =>
    obtain rfl := List.length_eq_zero_iff.mp (Nat.le_zero.mp hsteps)
    exact sent_nil hearlier _
  | succ steps ih =>
    by_cases hrest : rest = []
    · subst hrest
      exact sent_nil hearlier _
    obtain ⟨more, hmore⟩ : ∃ more, rest.length = 1 + more :=
      Nat.exists_eq_add_of_le (List.length_pos_iff.mpr hrest)
    rw [Link.sendChunks_succ total steps hrest, hmore]
    dsimp only
    obtain ⟨hlast, hmid, part, hpart, htaken, hcount⟩ := carrier.sent_payloadTransfer
      config hearlier (rest.take (Link.chunkSize config))
    cases htransfer : Link.payloadTransfer carrier.transport config
        (rest.take (Link.chunkSize config)) link with
    | error error mid =>
      rw [htransfer] at hlast hmid htaken
      rw [bind_of_error htransfer]
      exact .of_error hlast hmid (hpart.trans (List.take_prefix ..)) htaken
    | ok sent mid =>
      rw [htransfer] at hlast hmid htaken hcount
      rw [bind_of_ok htransfer]
      obtain rfl := hcount sent mid rfl
      by_cases hsent : sent = 0
      · rw [if_pos hsent]
        exact .of_error hlast hmid (hpart.trans (List.take_prefix ..)) htaken
      · -- What has not been taken is shorter, and is what the next turns send.
        rw [if_neg hsent]
        have hshorter := Link.length_drop_lt config hrest hsent
        have hmoved : carrier.Sent (rest.drop (min sent (rest.take (Link.chunkSize config)).length))
            _ mid _ := ih (by omega) hmid
        have hwhole := (hmoved.mono (by omega : _ ≤ more)).cons hlast htaken
        rwa [Link.take_append_drop_min] at hwhole

theorem sent_send (hearlier : link.payload.Earlier) (tag : StreamTag) (data : Bytes) :
    carrier.Sent (framed tag data) (1 + data.length) link
      (Link.send carrier.transport config tag data link) := by
  unfold framed Link.send
  dsimp only
  by_cases hlarge : UInt32.size ≤ data.length
  · rw [if_pos hlarge]
    exact ⟨Nat.le_add_right .., hearlier, [], List.nil_prefix, (List.append_nil _).symm, nofun⟩
  rw [if_neg hlarge]
  generalize hheader : StreamHeader.encode ⟨UInt32.ofNat data.length, tag⟩ = header
  have hsize : header.length = StreamHeader.size := by
    rw [← hheader, StreamHeader.encode, List.length_append, Bytes.length_littleEndian]
    rfl
  obtain ⟨hlast, hmid, part, hpart, htaken, hcount⟩ := carrier.sent_payloadTransfer config hearlier
    header
  cases htransfer : Link.payloadTransfer carrier.transport config header link with
  | error error mid =>
    rw [htransfer] at hlast hmid htaken
    rw [bind_of_error htransfer]
    exact .of_error hlast hmid (hpart.trans (List.prefix_append ..)) htaken
  | ok sent mid =>
    rw [htransfer] at hlast hmid htaken hcount
    rw [bind_of_ok htransfer]
    obtain rfl := hcount sent mid rfl
    by_cases hsent : sent = StreamHeader.size
    · rw [if_neg (not_not.mpr hsent)]
      rw [List.take_of_length_le (by omega)] at htaken
      exact (sent_sendChunks data.length (Nat.le_refl _) hmid).cons hlast htaken
    · rw [if_pos hsent]
      exact .of_error hlast hmid (hpart.trans (List.prefix_append ..)) htaken

/-! ## Receiving -/

theorem filled_nil (hearlier : link.output.Earlier) (front : Bytes) (transfers : Nat) :
    carrier.Filled front [] transfers link (⟨front, .ok ()⟩, link) :=
  ⟨Nat.le_add_right .., hearlier, [], [], by simp, Nat.le_refl _, by simp, fun _ => ⟨rfl, rfl⟩,
    .inl rfl⟩

/-- Octets that one reply has brought leave the rest of the buffer to be filled. The queue is empty
    then, so no later reply is lost. -/
theorem Filled.cons {front first rest : Bytes} {transfers : Nat} {mid : Link τ}
    {ended : Received × Link τ} (hle : first.length ≤ rest.length)
    (hlast : mid.output.last = link.output.last + 1) (hempty : mid.output.queued = [])
    (hgiven : carrier.given mid.transport = carrier.given link.transport ++ [first])
    (h : carrier.Filled (front ++ first) (rest.drop first.length) transfers mid ended) :
    carrier.Filled front rest (1 + transfers) link ended := by
  obtain ⟨got, lost, hmore, hshort, hbuffer, hok, hlost⟩ := h.received
  obtain rfl : lost = [] := by
    obtain hnone | ⟨-, -, hfull⟩ := hlost
    · exact hnone
    · rw [hempty] at hfull
      cases hfull
  have hflatten : (first :: got).flatten = first ++ got.flatten := List.flatten_cons
  rw [List.length_drop] at hshort hok
  refine ⟨by have := h.transfers; omega, h.earlier, first :: got, [], ?_, ?_, ?_,
    fun hended => ⟨?_, rfl⟩, .inl rfl⟩
  · rw [hmore, hgiven, List.append_assoc (carrier.given link.transport), List.singleton_append]
  · rw [hflatten, List.length_append]
    omega
  · rw [hbuffer, hflatten, List.length_append, List.drop_drop, List.append_assoc front]
  · have hfull := (hok hended).1
    rw [hflatten, List.length_append]
    omega

theorem Filled.mono {front rest : Bytes} {transfers transfers' : Nat} {ended : Received × Link τ}
    (hle : transfers ≤ transfers') (h : carrier.Filled front rest transfers link ended) :
    carrier.Filled front rest transfers' link ended :=
  ⟨Nat.le_trans h.transfers (Nat.add_le_add_left hle _), h.earlier, h.received⟩

/-- **Loop.** However much each reply brings, the rest of a buffer is filled in order. -/
theorem filled_receiveChunks (total : Nat) {steps : Nat} (filled : Bytes) {rest : Bytes}
    (hsteps : rest.length ≤ steps) (hearlier : link.output.Earlier) :
    carrier.Filled filled.reverse rest rest.length link
      (Link.receiveChunks carrier.transport config total steps filled rest link) := by
  induction steps generalizing filled rest link with
  | zero =>
    obtain rfl := List.length_eq_zero_iff.mp (Nat.le_zero.mp hsteps)
    rw [Link.receiveChunks, List.append_nil]
    exact filled_nil hearlier _ _
  | succ steps ih =>
    by_cases hrest : rest = []
    · subst hrest
      exact filled_nil hearlier _ _
    have hpos := List.length_pos_iff.mpr hrest
    rw [Link.receiveChunks, if_neg (mt List.isEmpty_iff.mp hrest)]
    dsimp only
    generalize hwanted : (rest.take (Link.chunkSize config)).length = wanted
    have hle : wanted ≤ rest.length := hwanted ▸ List.length_take_le' ..
    obtain ⟨hlast, hmid, hgot, hlost⟩ := carrier.given_outputTransfer config hearlier wanted
    cases htransfer : Link.outputTransfer carrier.transport config wanted link with
    | error error mid =>
      rw [htransfer] at hlast hmid
      obtain ⟨lost, hgiven, hcase⟩ := hlost error mid htransfer
      refine ⟨?_, hmid, [], lost, ?_, Nat.zero_le _, by simp, nofun, ?_⟩
      · change mid.output.last ≤ _
        change mid.output.last = _ at hlast
        omega
      · rw [List.append_nil]
        exact hgiven
      · exact hcase.imp_right fun ⟨hlength, hfull⟩ => ⟨rfl, hlength, hfull⟩
    | ok reply mid =>
      rw [htransfer] at hlast hmid
      obtain ⟨hempty, hgiven⟩ := hgot reply mid htransfer
      change mid.output.last = _ at hlast
      cases reply with
      | nil =>
        refine ⟨?_, hmid, [[]], [], ?_, Nat.zero_le _, by simp, nofun, .inl rfl⟩
        · change mid.output.last ≤ _
          omega
        · rw [List.append_nil, hgiven, List.take_nil]
      | cons octet more =>
        dsimp only
        generalize htake : (octet :: more).take wanted = taken at hgiven ⊢
        have hchunk := Link.chunkSize_pos config
        have hbounds : 0 < taken.length ∧ taken.length ≤ rest.length := by
          rw [← htake, List.length_take, List.length_cons, ← hwanted, List.length_take]
          omega
        have hlength : (rest.drop taken.length).length = rest.length - taken.length :=
          List.length_drop
        have hfilled : carrier.Filled (taken.reverse ++ filled).reverse (rest.drop taken.length) _
            mid _ := ih (taken.reverse ++ filled) (by omega) hmid
        rw [List.reverse_append, List.reverse_reverse] at hfilled
        exact (hfilled.cons hbounds.2 hlast hempty hgiven).mono (by omega)

theorem filled_receive (hearlier : link.output.Earlier) (buffer : Bytes) :
    carrier.Filled [] buffer buffer.length link
      (Link.receive carrier.transport config buffer link) :=
  filled_receiveChunks buffer.length [] (Nat.le_refl _) hearlier

/-! ## Main theorem -/

/-- **Short transfers lose and duplicate nothing.** Whatever counts and replies a transport reports,
    sending and receiving end after at most one transfer for the header and one for each octet, and
    not because their turns run out. The device takes the octets of a message in order, each once,
    up to where sending fails; the buffer is filled with what the device gives, each reply cut to
    what was asked for, up to where receiving fails. -/
theorem moves_in_order (carrier : MeteredCarrier τ) (config : DriverConfig) (link : Link τ)
    (hpayload : link.payload.Earlier) (houtput : link.output.Earlier) :
    (∀ tag data, carrier.Sent (framed tag data) (1 + data.length) link
      (Link.send carrier.transport config tag data link)) ∧
    (∀ buffer, carrier.Filled [] buffer buffer.length link
      (Link.receive carrier.transport config buffer link)) ∧
    (∀ (total steps : Nat) (rest : Bytes), rest.length ≤ steps →
      Link.sendChunks carrier.transport config total steps rest =
        Link.sendChunks carrier.transport config total rest.length rest) ∧
    ∀ (total steps : Nat) (filled rest : Bytes), rest.length ≤ steps →
      Link.receiveChunks carrier.transport config total steps filled rest link =
        Link.receiveChunks carrier.transport config total rest.length filled rest link :=
  ⟨fun tag data => sent_send hpayload tag data, fun buffer => filled_receive houtput buffer,
    fun total _ _ hsteps => Link.sendChunks_eq_of_le total hsteps (Nat.le_refl _),
    fun total _ filled _ hsteps =>
      Link.receiveChunks_eq_of_le total filled hsteps (Nat.le_refl _)⟩

end MeteredCarrier

/-- A device that reports the counts and gives the replies of two lists, and falls silent after
    them. -/
structure Fitful where
  counts : List Nat := []
  replies : List Bytes := []
  taken : Bytes := []
  given : List Bytes := []

namespace Fitful

def carrier : MeteredCarrier Fitful where
  transport :=
    { openPipe := fun _ => pure ()
      control := fun _ _ _ device => (.pending, device)
      bulkOut := fun _ _ data device =>
        match device.counts with
        | [] => (.pending, device)
        | count :: counts =>
          (.completed (.ok count), { device with counts, taken := device.taken ++ data.take count })
      bulkIn := fun _ _ size device =>
        match device.replies with
        | [] => (.pending, device)
        | reply :: replies =>
          (.completed (.ok reply),
            { device with replies, given := device.given ++ [reply.take size] }) }
  taken := taken
  given := given
  bulkOut ticket address data before := by
    dsimp only
    cases before.counts with
    | nil => exact ⟨[], List.nil_prefix, (List.append_nil _).symm, nofun⟩
    | cons count counts =>
      refine ⟨data.take count, List.take_prefix .., rfl, ?_⟩
      rintro _ ⟨⟩
      rfl
  bulkIn ticket address size before := by
    dsimp only
    cases before.replies with
    | nil => exact (List.append_nil _).symm
    | cons reply replies => rfl

/-- The device takes two octets of the first chunk, and reports more than the second one holds; it
    replies with one octet first, and then with more than was asked for. A completion of an earlier
    transfer is still in the queue. -/
theorem moves_in_order_fitful :
    let config : DriverConfig := { maxChunk := 3 }
    let link : Link Fitful :=
      { owner := 0
        transport := { counts := [8, 2, 7], replies := [[9], [8, 7, 6, 5]] }
        payload := ⟨2, [(1, .ok 3)]⟩ }
    let sent := Link.send carrier.transport config .parameters [1, 2, 3, 4, 5] link
    let ended := Link.receive carrier.transport config [0, 0, 0, 0] link
    link.payload.Earlier ∧ link.output.Earlier ∧
      carrier.Sent (framed .parameters [1, 2, 3, 4, 5]) 6 link sent ∧
      carrier.Filled [] [0, 0, 0, 0] 4 link ended ∧
      (∃ after, sent = .ok () after ∧
        after.transport.taken = [5, 0, 0, 0, 2, 0, 0, 0, 1, 2, 3, 4, 5]) ∧
      ended.1.buffer = [9, 8, 7, 6] := by
  intro config link sent ended
  have hpayload : link.payload.Earlier := by
    intro entry hentry
    obtain rfl := List.mem_singleton.mp hentry
    decide
  have houtput : link.output.Earlier := CompletionQueue.earlier_nil 0
  have hmoves := MeteredCarrier.moves_in_order carrier config link hpayload houtput
  exact ⟨hpayload, houtput, hmoves.1 .parameters [1, 2, 3, 4, 5], hmoves.2.1 [0, 0, 0, 0],
    ⟨_, rfl, rfl⟩, rfl⟩

end Fitful

end TensorLink

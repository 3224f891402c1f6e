import Mathlib.Data.List.Infix
import TensorLink.Proofs.Recording
import TensorLink.Proofs.Transport.Timeliness
import TensorLink.Simulation.Beagle
import TensorLink.Simulation.Scripted

/-!
# Submissions in flight

A submission is in flight on a pipe from when the transport has accepted it until it completes. One
caller makes one call after another, so a pipe has one submission in flight as long as calls end
with their completions. A call that times out leaves its submission in flight, and the next one
submits all the same.

Results:
* `exclusive_iff_of_run`: at most one submission of a pipe is in flight exactly if none is accepted
  before those that have timed out have completed.
* `course_of_transact`: a transfer of a link is a course of sequential traffic on every pipe.
* `course_perform`: so is every operation of a link.
* `course_of_session`: and so is what a pipe sees of a whole session.
-/

namespace TensorLink

namespace CompletionQueue

namespace Transit

def accepted? : Transit → Option Nat
  | accepted number => some number
  | completed _ => none

def completed? : Transit → Option Nat
  | accepted _ => none
  | completed number => some number

end Transit

namespace Traffic

open Occurrence

variable {α : Type} {events : List (Occurrence α)} {final : Traffic α}

/-- At no moment are two submissions accepted and not completed. -/
def Exclusive (transits : List Transit) : Prop :=
  ∀ early, early <+: transits → (early.filterMap Transit.accepted?).length ≤
    (early.filterMap Transit.completed?).length + 1

/-- When a submission is accepted, all those have completed whose calls have timed out. -/
def Patient (events : List (Occurrence α)) : Prop :=
  ∀ early number late, events = early ++ .accepted number :: late →
    ∀ other, .queue (.expired other) ∈ early → other ∈ early.filterMap completed?

theorem filterMap_accepted (events : List (Occurrence α)) :
    (events.filterMap transit?).filterMap Transit.accepted? = events.filterMap accepted? := by
  rw [List.filterMap_filterMap]
  refine List.filterMap_congr fun event _ => ?_
  cases event with
  | queue event => cases event <;> rfl
  | _ => rfl

theorem filterMap_completed (events : List (Occurrence α)) :
    (events.filterMap transit?).filterMap Transit.completed? = events.filterMap completed? := by
  rw [List.filterMap_filterMap]
  refine List.filterMap_congr fun event _ => ?_
  cases event with
  | queue event => cases event <;> rfl
  | _ => rfl

/-- What has been accepted and not completed is in flight. -/
theorem length_accepted_of_run {rule : Traffic α → Occurrence α → Prop}
    (run : Run rule {} events final) :
    ((events.filterMap transit?).filterMap Transit.accepted?).length =
      ((events.filterMap transit?).filterMap Transit.completed?).length +
        final.calls.inFlight.length := by
  rw [filterMap_accepted, filterMap_completed, (ledger_of_run run).completed.length_eq,
    List.length_append]

/-- With patience, nothing is in flight when a submission is accepted. -/
theorem inFlight_le_of_patient (run : Run Sequential {} events final) (patient : Patient events) :
    final.calls.inFlight.length ≤ 1 := by
  induction run with
  | nil => exact Nat.zero_le 1
  | @snoc events before after event run step allowed ih =>
    have ih := ih fun early number late hsplit =>
      patient early number (late ++ [event]) (by rw [hsplit]; simp)
    have ledger := ledger_of_run run
    have halone := underway_of_run run
    cases step with
    | @queue shared _ _ calls step permitted =>
      cases step with
      | complete => exact Nat.le_trans List.length_erase_le ih
      | _ => exact ih
    | @accept number calls shared harmed =>
      have hempty : calls.inFlight = [] := by
        rw [List.eq_nil_iff_forall_not_mem]
        intro other hflight
        have hpos := List.length_pos_of_mem harmed
        simp only [underway] at halone
        obtain hsubmitted | hwaiting | hexpired := ledger.waited_of_inFlight hflight
        · have hpos := List.length_pos_of_mem hsubmitted
          dsimp only at hpos
          omega
        · have hwaiting : shared.waiting = some other := hwaiting
          rw [hwaiting, Option.toList_some, List.length_singleton] at halone
          omega
        · exact ledger.not_completed_of_inFlight hflight
            (patient events number [] rfl other hexpired)
      simp only [Calls.accept, hempty, List.nil_append, List.length_singleton, Nat.le_refl]
    | pass => exact ih

/-- One caller has at most one submission of a pipe in flight if and only if it waits for those
    that have timed out. -/
theorem exclusive_iff_of_run (run : Run Sequential {} events final) :
    Exclusive (events.filterMap transit?) ↔ Patient events := by
  constructor
  · rintro exclusive early number late rfl other hexpired
    by_contra hpending
    obtain ⟨mid, hrun, hlater⟩ := run.split
    have ledger := ledger_of_run hrun
    -- The call that has timed out has been accepted, so that two are in flight after the next one.
    have haccepted : other ∈ early.filterMap accepted? := by
      refine ledger.submitted.mem_iff.mpr (List.mem_append_left _ ?_)
      rw [ledger.entered]
      exact List.mem_append_left _ (mem_ended_iff.mpr (.inl hexpired))
    have hflight : other ∈ mid.calls.inFlight :=
      (List.mem_append.mp (ledger.completed.mem_iff.mp haccepted)).resolve_left hpending
    have hpos := List.length_pos_of_mem hflight
    have hcount := length_accepted_of_run hrun
    have hboth := exclusive (early.filterMap transit? ++ [.accepted number]) (by
      rw [List.filterMap_append]
      exact (List.prefix_append_right_inj _).mpr ⟨late.filterMap transit?, rfl⟩)
    simp only [filterMap_snoc, Transit.accepted?, Transit.completed?, Option.toList_some,
      Option.toList_none, List.length_append, List.length_singleton, List.length_nil] at hboth
    omega
  · intro patient early hearly
    obtain ⟨front, ⟨rest, rfl⟩, rfl⟩ := List.prefix_filterMap_iff.mp hearly
    obtain ⟨mid, hrun, -⟩ := run.split
    have hle := inFlight_le_of_patient hrun fun early number late hsplit =>
      patient early number (late ++ rest) (by rw [hsplit]; simp)
    have hcount := length_accepted_of_run hrun
    omega

end Traffic

end CompletionQueue

open CompletionQueue CompletionQueue.Traffic

/-! ## Pipes of a link -/

/-- What a transfer on a pipe completes with. -/
def PipeName.Reply : PipeName → Type
  | .payload => Nat
  | .control | .output | .event => Bytes

/-- The completion of a transfer on a pipe. -/
def PipeName.completion : (pipe : PipeName) → Except DriverError pipe.Reply → Completion
  | .payload => .count
  | .control | .output | .event => .octets

/-- A transport that remembers what it has had to do with submissions, and on which pipe. -/
abbrev Logged (τ : Type) := Recorded τ (PipeName × Transit)

namespace Logged

/-- What has been done on one pipe. -/
def seen (pipe : PipeName) (calls : List (PipeName × Transit)) : List Transit :=
  calls.filterMap fun call => if call.1 = pipe then some call.2 else none

theorem seen_append (pipe : PipeName) (calls calls' : List (PipeName × Transit)) :
    seen pipe (calls ++ calls') = seen pipe calls ++ seen pipe calls' := List.filterMap_append

theorem seen_map (pipe : PipeName) (transits : List Transit) :
    seen pipe (transits.map (pipe, ·)) = transits := by
  simp [seen, List.filterMap_map]

theorem seen_map_of_ne {pipe other : PipeName} (hother : other ≠ pipe) (transits : List Transit) :
    seen pipe (transits.map (other, ·)) = [] := by
  simp [seen, hother]

/-- Submits, and remembers what becomes of the submission at once. -/
def submit {τ α : Type} (ticket : Ticket) (submission : τ → Submission α × τ) (state : Logged τ) :
    Submission α × Logged τ :=
  let (made, inner) := submission state.inner
  (made, ⟨inner, state.calls ++ (transitsOf ticket.number made).map (ticket.pipe, ·)⟩)

end Logged

open Logged Sequencing

/-- The same transport with a memory. -/
def Transport.logged {τ : Type} (carrier : Transport Ticket τ) : Transport Ticket (Logged τ) where
  openPipe endpoint := Recorded.innerPart.focus (carrier.openPipe endpoint)
  control ticket setup data := submit ticket (carrier.control ticket setup data)
  bulkOut ticket address data := submit ticket (carrier.bulkOut ticket address data)
  bulkIn ticket address size := submit ticket (carrier.bulkIn ticket address size)

namespace Link

variable {τ : Type}

/-- The completions that wait on a pipe. -/
def queue (link : Link τ) : (pipe : PipeName) → CompletionQueue pipe.Reply
  | .control => link.control
  | .payload => link.payload
  | .output => link.output
  | .event => link.event

/-- The link with other completions on a pipe, and another state of the transport. -/
def replace (link : Link τ) :
    (pipe : PipeName) → CompletionQueue pipe.Reply → τ → Link τ
  | .control, control, transport => { link with control, transport }
  | .payload, payload, transport => { link with payload, transport }
  | .output, output, transport => { link with output, transport }
  | .event, event, transport => { link with event, transport }

theorem owner_replace (link : Link τ) (pipe : PipeName) (queue : CompletionQueue pipe.Reply)
    (transport : τ) : (link.replace pipe queue transport).owner = link.owner := by
  cases pipe <;> rfl

theorem transport_replace (link : Link τ) (pipe : PipeName) (queue : CompletionQueue pipe.Reply)
    (transport : τ) : (link.replace pipe queue transport).transport = transport := by
  cases pipe <;> rfl

theorem queue_replace (link : Link τ) (pipe : PipeName) (queue : CompletionQueue pipe.Reply)
    (transport : τ) : (link.replace pipe queue transport).queue pipe = queue := by
  cases pipe <;> rfl

theorem queue_replace_of_ne (link : Link τ) {pipe other : PipeName} (hother : other ≠ pipe)
    (queue : CompletionQueue pipe.Reply) (transport : τ) :
    (link.replace pipe queue transport).queue other = link.queue other := by
  cases pipe <;> cases other <;> first | rfl | exact absurd rfl hother

/-- What happens between two states of a link is, on every pipe, a course of sequential traffic. -/
structure Course (before after : Link (Logged τ)) : Prop where
  owner : after.owner = before.owner
  pipes : ∃ calls, after.transport.calls = before.transport.calls ++ calls ∧
    ∀ (pipe : PipeName) (traffic : Traffic pipe.Reply), traffic.Idle →
      traffic.shared.queue = before.queue pipe → ∃ events last,
        Run Sequential traffic events last ∧ last.Idle ∧ last.shared.queue = after.queue pipe ∧
        events.filterMap Occurrence.transit? = seen pipe calls

theorem course_refl (link : Link (Logged τ)) : Course link link :=
  ⟨rfl, [], (List.append_nil _).symm, fun _ traffic hidle hqueue =>
    ⟨[], traffic, .nil, hidle, hqueue, rfl⟩⟩

theorem course_trans (before mid after : Link (Logged τ)) (first : Course before mid)
    (second : Course mid after) : Course before after := by
  obtain ⟨howner, calls, hcalls, hpipes⟩ := first
  obtain ⟨howner', calls', hcalls', hpipes'⟩ := second
  refine ⟨howner'.trans howner, calls ++ calls', by rw [hcalls', hcalls, List.append_assoc], ?_⟩
  intro pipe traffic hidle hqueue
  obtain ⟨events, last, hrun, hidle, hqueue, htransits⟩ := hpipes pipe traffic hidle hqueue
  obtain ⟨events', last', hrun', hidle', hqueue', htransits'⟩ := hpipes' pipe last hidle hqueue
  exact ⟨events ++ events', last', hrun.append hrun', hidle', hqueue', by
    rw [List.filterMap_append, htransits, htransits', seen_append]⟩

/-- A transaction leaves its transport as the submission does. -/
theorem transport_transact {α σ : Type} (queue : CompletionQueue α) (milliseconds : Nat)
    (submission : Nat → σ → Submission α × σ) (transport : σ) :
    (queue.transact milliseconds submission transport).2.2 =
      (submission (queue.last + 1) transport).2 := by
  simp only [transact, arm]
  obtain ⟨made, after⟩ := submission (queue.last + 1) transport
  cases made <;> rfl

/-- A transaction on a pipe is a course of traffic there, and nothing happens on the others. -/
theorem course_of_transact (link : Link (Logged τ)) (pipe : PipeName) (milliseconds : Nat)
    (submission : Nat → τ → Submission pipe.Reply × τ) :
    let outcome := (link.queue pipe).transact milliseconds
      (fun number => submit ⟨link.owner, pipe, number⟩ (submission number)) link.transport
    Course link (link.replace pipe outcome.2.1 outcome.2.2) := by
  intro outcome
  let number := (link.queue pipe).last + 1
  have hcalls : (link.replace pipe outcome.2.1 outcome.2.2).transport.calls =
      link.transport.calls ++
        (transitsOf number (submission number link.transport.inner).1).map (pipe, ·) := by
    rw [transport_replace, transport_transact]
    rfl
  refine ⟨owner_replace .., _, hcalls, fun other traffic hidle htraffic => ?_⟩
  by_cases hpipe : other = pipe
  · subst hpipe
    obtain ⟨events, last, htransacts⟩ := transacts hidle milliseconds
      (fun number => submit ⟨link.owner, other, number⟩ (submission number)) link.transport
    rw [htraffic] at htransacts
    refine ⟨events, last, htransacts.run, htransacts.idle, ?_, ?_⟩
    · rw [queue_replace, htransacts.queue]
    · rw [seen_map, htransacts.transits, htraffic]
      rfl
  · refine ⟨[], traffic, .nil, hidle, htraffic.trans (queue_replace_of_ne _ hpipe ..).symm, ?_⟩
    rw [seen_map_of_ne fun h => hpipe h.symm]
    rfl

section

variable (carrier : Transport Ticket τ) (config : DriverConfig)

theorem course_controlTransfer (setup : SetupPacket) (data : Bytes) :
    Relates Course (controlTransfer carrier.logged config setup data) := by
  intro link
  unfold controlTransfer
  rw [left_ofOutcome]
  exact course_of_transact link .control (PipeName.control.timeout config) fun number =>
    carrier.control ⟨link.owner, .control, number⟩ setup data

theorem course_payloadTransfer (data : Bytes) :
    Relates Course (payloadTransfer carrier.logged config data) := by
  intro link
  unfold payloadTransfer
  rw [left_ofOutcome]
  exact course_of_transact link .payload (PipeName.payload.timeout config) fun number =>
    carrier.bulkOut ⟨link.owner, .payload, number⟩ (Endpoint.outputAddress Endpoint.streaming) data

theorem course_outputTransfer (size : Nat) :
    Relates Course (outputTransfer carrier.logged config size) := by
  intro link
  unfold outputTransfer
  rw [left_ofOutcome]
  exact course_of_transact link .output (PipeName.output.timeout config) fun number =>
    carrier.bulkIn ⟨link.owner, .output, number⟩ (Endpoint.inputAddress Endpoint.streaming) size

theorem course_eventTransfer : Relates Course (eventTransfer carrier.logged config) := by
  intro link
  unfold eventTransfer
  rw [left_ofOutcome]
  exact course_of_transact link .event (PipeName.event.timeout config) fun number =>
    carrier.bulkIn ⟨link.owner, .event, number⟩ (Endpoint.inputAddress Endpoint.events)
      EventRecord.size

/-! ## Operations of a link -/

theorem course_pure {α : Type} (value : α) :
    Relates Course (pure value : DeviceM (Link (Logged τ)) α) := course_refl

theorem course_throw {α : Type} (error : DriverError) :
    Relates Course (throw error : DeviceM (Link (Logged τ)) α) := course_refl

theorem course_readRegister (offset : Nat) (width : RegisterWidth) :
    Relates Course (readRegister carrier.logged config offset width) := by
  refine (course_controlTransfer carrier config _ _).bind course_trans fun data => ?_
  dsimp only
  split
  · exact (course_throw _).bind course_trans fun _ => course_pure _
  · exact course_pure _

theorem course_writeRegister (offset : Nat) (width : RegisterWidth) (value : Nat) :
    Relates Course (writeRegister carrier.logged config offset width value) :=
  (course_controlTransfer carrier config _ _).bind course_trans fun _ => course_pure ()

theorem course_sendChunks (total steps : Nat) (rest : Bytes) :
    Relates Course (sendChunks carrier.logged config total steps rest) := by
  induction steps generalizing rest with
  | zero => cases rest <;> exact course_pure ()
  | succ steps ih =>
    cases rest with
    | nil => exact course_pure ()
    | cons octet rest =>
      refine (course_payloadTransfer carrier config _).bind course_trans fun sent => ?_
      split
      · exact (course_throw _).bind course_trans fun _ => ih _
      · exact ih _

theorem course_send (tag : StreamTag) (data : Bytes) :
    Relates Course (send carrier.logged config tag data) := by
  have hrest : Relates Course (do
      let sent ← payloadTransfer carrier.logged config
        (StreamHeader.encode ⟨UInt32.ofNat data.length, tag⟩)
      if sent ≠ StreamHeader.size then
        let size := StreamHeader.size
        throw (.transferFailed s!"header transfer moved {sent} of {size} bytes")
      sendChunks carrier.logged config data.length data.length data) := by
    refine (course_payloadTransfer carrier config _).bind course_trans fun sent => ?_
    split
    · exact (course_throw _).bind course_trans fun _ => course_sendChunks carrier config _ _ _
    · exact course_sendChunks carrier config _ _ _
  unfold send
  dsimp only
  split
  · exact (course_throw _).bind course_trans fun _ => hrest
  · exact hrest

theorem course_readEvent : Relates Course (readEvent carrier.logged config) := by
  refine (course_eventTransfer carrier config).bind course_trans fun data => ?_
  dsimp only
  split
  · exact (course_throw _).bind course_trans fun _ => course_pure _
  · exact course_pure _

theorem course_receiveChunks (total steps : Nat) (filled rest : Bytes) (link : Link (Logged τ)) :
    Course link (receiveChunks carrier.logged config total steps filled rest link).2 := by
  induction steps generalizing filled rest link with
  | zero => exact course_refl link
  | succ steps ih =>
    unfold receiveChunks
    split
    · exact course_refl link
    · have htransfer := course_outputTransfer carrier config
        (rest.take (chunkSize config)).length link
      dsimp only
      split
      · next hended => rwa [hended] at htransfer
      · next hended => rwa [hended] at htransfer
      · next hended =>
        rw [hended] at htransfer
        exact course_trans _ _ _ htransfer (ih ..)

end

/-- What a caller can do with a link. -/
inductive Operation where
  | readRegister (offset : Nat) (width : RegisterWidth)
  | writeRegister (offset : Nat) (width : RegisterWidth) (value : Nat)
  | send (tag : StreamTag) (data : Bytes)
  | receive (buffer : Bytes)
  | readEvent

/-- The link after an operation, however it ends. -/
def perform (carrier : Transport Ticket τ) (config : DriverConfig) (link : Link τ) :
    Operation → Link τ
  | .readRegister offset width => left (readRegister carrier config offset width link)
  | .writeRegister offset width value => left (writeRegister carrier config offset width value link)
  | .send tag data => left (send carrier config tag data link)
  | .receive buffer => (receive carrier config buffer link).2
  | .readEvent => left (readEvent carrier config link)

/-- Every operation of a link is a course of sequential traffic on every pipe. -/
theorem course_perform (carrier : Transport Ticket τ) (config : DriverConfig)
    (link : Link (Logged τ)) (operation : Operation) :
    Course link (perform carrier.logged config link operation) := by
  cases operation with
  | readRegister offset width => exact course_readRegister carrier config offset width link
  | writeRegister offset width value =>
    exact course_writeRegister carrier config offset width value link
  | send tag data => exact course_send carrier config tag data link
  | receive buffer => exact course_receiveChunks carrier config ..
  | readEvent => exact course_readEvent carrier config link

/-! ## Sessions -/

/-- A submission completes after its caller has given up. -/
def completeLate (link : Link (Logged τ)) (pipe : PipeName) (number : Nat)
    (result : Except DriverError pipe.Reply) (inner : τ) : Link (Logged τ) :=
  let delivered := link.deliver ⟨link.owner, pipe, number⟩ (pipe.completion result)
  { delivered with
    transport := ⟨inner, link.transport.calls ++ [(pipe, .completed number)]⟩ }

theorem completeLate_eq (link : Link (Logged τ)) (pipe : PipeName) (number : Nat)
    (result : Except DriverError pipe.Reply) (inner : τ) :
    link.completeLate pipe number result inner =
      link.replace pipe ((link.queue pipe).complete number result)
        ⟨inner, link.transport.calls ++ [(pipe, .completed number)]⟩ := by
  unfold completeLate deliver
  rw [if_neg (fun h => h rfl)]
  cases pipe <;> rfl

/-- What becomes of a fresh link while one caller does one operation after another, and submissions
    that are in flight complete in between. -/
inductive Session (carrier : Transport Ticket τ) (config : DriverConfig) : Link (Logged τ) → Prop
  where
  | start (owner : Nat) (inner : τ) : Session carrier config { owner, transport := ⟨inner, []⟩ }
  | operate {link : Link (Logged τ)} (session : Session carrier config link)
      (operation : Operation) :
    Session carrier config (perform carrier.logged config link operation)
  | late {link : Link (Logged τ)} (session : Session carrier config link) {pipe : PipeName}
      {number : Nat}
      (haccepted : number ∈ (seen pipe link.transport.calls).filterMap Transit.accepted?)
      (hpending : number ∉ (seen pipe link.transport.calls).filterMap Transit.completed?)
      (result : Except DriverError pipe.Reply) (inner : τ) :
    Session carrier config (link.completeLate pipe number result inner)

/-- What a pipe sees of a session is a course of sequential traffic. -/
theorem course_of_session {carrier : Transport Ticket τ} {config : DriverConfig}
    {link : Link (Logged τ)} (session : Session carrier config link) (pipe : PipeName) :
    ∃ (events : List (Occurrence pipe.Reply)) (final : Traffic pipe.Reply),
      Run Sequential {} events final ∧ final.Idle ∧ final.shared.queue = link.queue pipe ∧
      events.filterMap Occurrence.transit? = seen pipe link.transport.calls := by
  induction session with
  | start owner inner => exact ⟨[], {}, .nil, ⟨rfl, rfl, rfl⟩, by cases pipe <;> rfl, rfl⟩
  | @operate link session operation ih =>
    obtain ⟨events, mid, hrun, hidle, hqueue, htransits⟩ := ih
    obtain ⟨-, calls, hcalls, hpipes⟩ := course_perform carrier config link operation
    obtain ⟨more, final, hmore, hidle, hqueue, hseen⟩ := hpipes pipe mid hidle hqueue
    refine ⟨events ++ more, final, hrun.append hmore, hidle, hqueue, ?_⟩
    rw [List.filterMap_append, htransits, hseen, hcalls, seen_append]
  | @late link session other number haccepted hpending result inner ih =>
    obtain ⟨events, mid, hrun, hidle, hqueue, htransits⟩ := ih
    rw [completeLate_eq, transport_replace, seen_append]
    by_cases hpipe : other = pipe
    · subst hpipe
      have ledger := ledger_of_run hrun
      rw [← htransits, filterMap_accepted] at haccepted
      rw [← htransits, filterMap_completed] at hpending
      have hflight : number ∈ mid.calls.inFlight :=
        (List.mem_append.mp (ledger.completed.mem_iff.mp haccepted)).resolve_left hpending
      have huncalled : number ∈ mid.shared.uncalled :=
        ledger.uncalled.mem_iff.mpr (List.mem_append_right _ hflight)
      refine ⟨_, _, hrun.snoc (.queue (.complete _ _ result huncalled) hflight) trivial,
        ⟨hidle.armed, hidle.submitted, hidle.waiting⟩, ?_, ?_⟩
      · rw [queue_replace, ← hqueue]
      · rw [List.filterMap_append, htransits]
        simp [seen, Occurrence.transit?]
    · refine ⟨events, mid, hrun, hidle, hqueue.trans ?_, ?_⟩
      · exact (queue_replace_of_ne _ (fun h => hpipe h.symm) ..).symm
      · rw [htransits]
        simp [seen, hpipe]

/-- **Submissions in flight.** In a session of one caller, what every pipe sees is a course of
    sequential traffic. In every such course, also if completions come in the middle of an
    operation, at most one submission of the pipe is in flight at any moment if and only if none is
    accepted while one that has timed out is in flight. -/
theorem exclusive_iff_patient {carrier : Transport Ticket τ} {config : DriverConfig}
    {link : Link (Logged τ)} (session : Session carrier config link) (pipe : PipeName) :
    (∃ (events : List (Occurrence pipe.Reply)) (final : Traffic pipe.Reply),
      Run Sequential {} events final ∧ final.shared.queue = link.queue pipe ∧
      events.filterMap Occurrence.transit? = seen pipe link.transport.calls ∧
      (Exclusive (seen pipe link.transport.calls) ↔ Patient events)) ∧
    ∀ (events : List (Occurrence pipe.Reply)) (final : Traffic pipe.Reply),
      Run Sequential {} events final →
        (Exclusive (events.filterMap Occurrence.transit?) ↔ Patient events) := by
  obtain ⟨events, final, hrun, -, hqueue, htransits⟩ := course_of_session session pipe
  exact ⟨⟨events, final, hrun, hqueue, htransits, htransits ▸ exclusive_iff_of_run hrun⟩,
    fun _ _ hrun => exclusive_iff_of_run hrun⟩

/-- A device behind a transport that holds back what it replies to two control transfers. -/
def slowDevice : Simulation.Scripted Ticket Simulation.Beagle :=
  { device := .new, script := { control := [.hold, .hold] } }

/-- A link to a device that reads a register. -/
def readFrom (link : Link (Logged (Simulation.Scripted Ticket Simulation.Beagle))) :
    Link (Logged (Simulation.Scripted Ticket Simulation.Beagle)) :=
  perform (Simulation.Scripted.transport Simulation.Beagle.model).logged {} link
    (.readRegister 0 .bits32)

/-- A read that has timed out. -/
def readOnce : Link (Logged (Simulation.Scripted Ticket Simulation.Beagle)) :=
  readFrom { owner := 0, transport := ⟨slowDevice, []⟩ }

theorem session_readOnce :
    Session (Simulation.Scripted.transport Simulation.Beagle.model) {} readOnce :=
  .operate (.start 0 slowDevice) (.readRegister 0 .bits32)

/-- A read after the one that has timed out has completed. -/
theorem patient_of_readLater :
    let link := readFrom (readOnce.completeLate .control 1 (.ok []) readOnce.transport.inner)
    ∃ events : List (Occurrence Bytes), events.filterMap Occurrence.transit? =
        [.accepted 1, .completed 1, .accepted 2] ∧
      seen .control link.transport.calls = [.accepted 1, .completed 1, .accepted 2] ∧
      Patient events := by
  have hsession : Session (Simulation.Scripted.transport Simulation.Beagle.model) {}
      (readFrom (readOnce.completeLate .control 1 (.ok []) readOnce.transport.inner)) :=
    .operate (.late session_readOnce (show 1 ∈ [1] by decide) List.not_mem_nil _ _)
      (.readRegister 0 .bits32)
  obtain ⟨⟨events, -, -, -, htransits, hpatient⟩, -⟩ := exclusive_iff_patient hsession .control
  refine ⟨events, htransits, rfl, hpatient.mp fun early hearly => ?_⟩
  have hall : ∀ early ∈ ([.accepted 1, .completed 1, .accepted 2] : List Transit).inits,
      (early.filterMap Transit.accepted?).length ≤
        (early.filterMap Transit.completed?).length + 1 := by decide
  exact hall early ((List.mem_inits ..).mpr hearly)

/-- A read after the one that has timed out, which is still in flight. -/
theorem not_exclusive_of_readAgain :
    Session (Simulation.Scripted.transport Simulation.Beagle.model) {} (readFrom readOnce) ∧
      seen .control (readFrom readOnce).transport.calls = [.accepted 1, .accepted 2] ∧
      ¬ Exclusive (seen .control (readFrom readOnce).transport.calls) :=
  ⟨.operate session_readOnce (.readRegister 0 .bits32), rfl, fun exclusive =>
    absurd (exclusive [.accepted 1, .accepted 2] (List.prefix_refl _)) (by decide)⟩

end Link

end TensorLink

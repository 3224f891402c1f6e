import TensorLink.Proofs.Sequencing
import TensorLink.Simulation.Beagle
import TensorLink.Simulation.Scripted

/-!
# Registers behind a control pipe

A link reaches the registers of a Beagle by control transfers. Between the two stands a carrier,
which may lose transfers: a transfer that fails may have been seen by the chip or not. Whatever does
not fail is what the chip answers, so reading and writing registers over a link is reading and
writing the registers of the chip.

Results:
* `transact_of_completed`, `transact_of_failing`: one transfer over a queue that is ready for it.
* `control_read`, `control_write`: what a Beagle answers to a register request.
* `LossyCarrier.direct`, `LossyCarrier.scripted`: carriers.
* `RegisterPath.ofLink`: register access over a link is access to the registers of the chip.
-/

namespace TensorLink

open Sequencing

/-! ## Transfers -/

namespace CompletionQueue

variable {α τ : Type}

/-- A queue that has room for a completion and holds none of a later submission. -/
structure Ready (queue : CompletionQueue α) : Prop where
  room : queue.queued.length < depth
  earlier : ∀ entry ∈ queue.queued, entry.1 ≤ queue.last

theorem ready_nil (last : Nat) : Ready (⟨last, []⟩ : CompletionQueue α) :=
  ⟨Nat.zero_lt_succ _, fun _ hentry => absurd hentry List.not_mem_nil⟩

/-- A wait gets its own completion after any number of earlier ones. -/
theorem collect_concat {queued : List (Nat × Except DriverError α)} {number : Nat}
    (hearlier : ∀ entry ∈ queued, entry.1 < number) (milliseconds : Nat)
    (result : Except DriverError α) :
    collect number milliseconds (queued ++ [(number, result)]) = (result, []) := by
  induction queued with
  | nil => exact if_pos rfl
  | cons entry queued ih =>
    obtain ⟨hentry, hrest⟩ := List.forall_mem_cons.mp hearlier
    rw [List.cons_append, collect, if_neg (Nat.ne_of_lt hentry), ih hrest]

theorem collect_earlier {queued : List (Nat × Except DriverError α)} {number : Nat}
    (hearlier : ∀ entry ∈ queued, entry.1 < number) (milliseconds : Nat) :
    collect number milliseconds queued = (.error (.timeout milliseconds), []) := by
  induction queued with
  | nil => rfl
  | cons entry queued ih =>
    obtain ⟨hentry, hrest⟩ := List.forall_mem_cons.mp hearlier
    rw [collect, if_neg (Nat.ne_of_lt hentry), ih hrest]

variable {queue : CompletionQueue α} {before after : τ}

theorem Ready.lt (ready : Ready queue) : ∀ entry ∈ queue.queued, entry.1 < queue.last + 1 :=
  fun entry hentry => Nat.lt_succ_of_le (ready.earlier entry hentry)

/-- A transfer that completes at once returns its own result. -/
theorem transact_of_completed (ready : Ready queue) (milliseconds : Nat)
    (submit : Nat → τ → Submission α × τ) {result : Except DriverError α}
    (hsubmit : submit (queue.last + 1) before = (.completed result, after)) :
    queue.transact milliseconds submit before = (result, ⟨queue.last + 1, []⟩, after) := by
  simp only [transact, arm, hsubmit, complete, ready.room, if_true, wait,
    collect_concat ready.lt milliseconds result]

/-- A transfer that is refused, that does not complete in time, or that completes with an error. -/
inductive Failing : Submission α → Prop where
  | refused (error : DriverError) : Failing (.refused error)
  | pending : Failing .pending
  | completed (error : DriverError) : Failing (.completed (.error error))

/-- A transfer that fails ends with an error. -/
theorem transact_of_failing (ready : Ready queue) (milliseconds : Nat)
    (submit : Nat → τ → Submission α × τ) {submission : Submission α}
    (hsubmit : submit (queue.last + 1) before = (submission, after))
    (failing : Failing submission) :
    ∃ error queue', queue.transact milliseconds submit before = (.error error, queue', after) := by
  cases failing with
  | refused error =>
    refine ⟨error, ⟨queue.last + 1, queue.queued⟩, ?_⟩
    simp only [transact, arm, hsubmit]
  | pending =>
    refine ⟨.timeout milliseconds, ⟨queue.last + 1, []⟩, ?_⟩
    simp only [transact, arm, hsubmit, wait, collect_earlier ready.lt milliseconds]
  | completed error => exact ⟨_, _, transact_of_completed ready milliseconds submit hsubmit⟩

end CompletionQueue

/-! ## Register requests -/

namespace Simulation.Beagle

variable {offset : Nat}

theorem requestedWidth?_setup (offset : Nat) (width : RegisterWidth) (direction : Direction) :
    requestedWidth? (RegisterRequest.setup offset width direction) = some width := by
  cases width <;> rfl

theorem direction_setup (offset : Nat) (width : RegisterWidth) (direction : Direction) :
    (RegisterRequest.setup offset width direction).direction = direction := by
  unfold SetupPacket.direction
  cases direction with
  | input => exact if_neg (show ¬(SetupPacket.inputBit ||| SetupPacket.vendorFamily) &&&
      SetupPacket.inputBit = 0 by decide)
  | output => exact if_pos (show SetupPacket.vendorFamily &&& SetupPacket.inputBit = 0 by decide)

theorem family_setup (offset : Nat) (width : RegisterWidth) (direction : Direction) :
    (RegisterRequest.setup offset width direction).family = SetupPacket.vendorFamily := by
  cases direction with
  | input => exact show (SetupPacket.inputBit ||| SetupPacket.vendorFamily) &&&
      SetupPacket.familyMask = SetupPacket.vendorFamily by decide
  | output => exact show SetupPacket.vendorFamily &&& SetupPacket.familyMask =
      SetupPacket.vendorFamily by decide

/-- A register that is read answers with its low octets. -/
theorem control_read (hoffset : offset < UInt32.size) (width : RegisterWidth) (beagle : Beagle) :
    control (RegisterRequest.setup offset width .input) [] beagle =
      .ok (Bytes.littleEndian width.octets (beagle.readRegister offset).toNat)
        (beagle.note .input width offset (beagle.readRegister offset)) := by
  have hcarried : RegisterRequest.offset (RegisterRequest.setup offset width .input) = offset := by
    rw [RegisterRequest.offset_setup, Nat.mod_eq_of_lt hoffset]
  unfold control
  rw [if_pos (family_setup offset width .input)]
  unfold registerRequest
  rw [requestedWidth?_setup, direction_setup, hcarried]
  rfl

/-- A register that is written takes the number that the octets stand for. -/
theorem control_write (hoffset : offset < UInt32.size) (width : RegisterWidth) (value : Nat)
    (beagle : Beagle) :
    control (RegisterRequest.setup offset width .output)
        (Bytes.littleEndian width.octets value) beagle =
      let written := BitVec.ofNat 64 (value % Nat.pow 256 width.octets)
      .ok [] ((beagle.note .output width offset written).writeRegister offset written) := by
  have hcarried : RegisterRequest.offset (RegisterRequest.setup offset width .output) = offset := by
    rw [RegisterRequest.offset_setup, Nat.mod_eq_of_lt hoffset]
  unfold control
  rw [if_pos (family_setup offset width .output)]
  unfold registerRequest
  rw [requestedWidth?_setup, direction_setup, hcarried]
  dsimp only
  rw [Bytes.length_littleEndian, Bytes.ofLittleEndian_littleEndian]
  simp only [ne_eq, not_true_eq_false, if_false]
  rfl

/-- What a chip has seen does not matter to its registers. -/
theorem forget_writeRegister (offset : Nat) (value : BitVec 64) (beagle : Beagle) :
    (beagle.writeRegister offset value).forget = beagle.forget.writeRegister offset value := by
  unfold writeRegister writePower
  dsimp only
  split
  · split <;> rfl
  · rfl

end Simulation.Beagle

open Simulation

/-! ## Carriers -/

/-- A transport that carries control transfers to a Beagle, and may lose some of them. -/
structure LossyCarrier (τ : Type) where
  transport : Transport Ticket τ
  device : τ → Beagle
  /-- The states in which the transport keeps its word. -/
  fair : τ → Prop
  /-- Whether a transfer may fail. -/
  mayFail : Prop
  /-- A transfer completes with what the chip answers; or it fails, and the chip has seen it or has
  not. -/
  carries (ticket : Ticket) (setup : SetupPacket) (data : Bytes) (before : τ) (reply : Bytes)
      (answered : Beagle) : fair before →
    Beagle.control setup data (device before) = .ok reply answered →
    fair (transport.control ticket setup data before).2 ∧
      ((transport.control ticket setup data before).1 = .completed (.ok reply) ∧
          device (transport.control ticket setup data before).2 = answered ∨
        mayFail ∧ CompletionQueue.Failing (transport.control ticket setup data before).1 ∧
          (device (transport.control ticket setup data before).2 = device before ∨
            device (transport.control ticket setup data before).2 = answered))

namespace LossyCarrier

/-- The chip itself. -/
def direct : LossyCarrier Beagle where
  transport := Beagle.model.transport
  device := id
  fair _ := True
  mayFail := False
  carries ticket setup data before reply answered _ hcontrol := by
    have hcontrol : Beagle.control setup data before = .ok reply answered := hcontrol
    refine ⟨trivial, .inl ?_⟩
    simp only [DeviceModel.transport, DeviceModel.submit, DeviceM.outcome, Beagle.model, hcontrol,
      id_eq, and_self]

/-- A directive that makes up an answer stands in the script. -/
theorem mem_control_of_next {directive : Directive Bytes} {script : Script}
    (hnext : Scripted.next script.control = directive) :
    directive = .pass ∨ directive ∈ script.control := by
  cases hcontrol : script.control with
  | nil =>
    rw [hcontrol] at hnext
    exact .inl hnext.symm
  | cons first rest =>
    rw [hcontrol] at hnext
    obtain rfl : first = directive := hnext
    exact .inr List.mem_cons_self

/-- Following a directive takes nothing more from the script. -/
theorem script_follow (directive : Directive Bytes) (ticket : Ticket) (run : DeviceM Beagle Bytes)
    (scripted : Scripted Ticket Beagle) :
    (Scripted.follow directive ticket run .octets scripted).2.script = scripted.script := by
  cases directive <;> rfl

/-- The chip behind a script, which may refuse transfers, answer them with errors, or hold them
    back, before or after they have reached the chip. It makes up no answers. -/
def scripted : LossyCarrier (Scripted Ticket Beagle) where
  transport := Scripted.transport Beagle.model
  device := Scripted.device
  fair scripted := ∀ directive ∈ scripted.script.control, ∀ reply, directive ≠ .reply (.ok reply)
  mayFail := True
  carries ticket setup data before reply answered hfair hcontrol := by
    unfold Scripted.transport
    dsimp only
    refine ⟨fun directive hmem => ?_, ?_⟩
    · rw [script_follow] at hmem
      exact hfair directive (List.mem_of_mem_tail hmem)
    · generalize hstart : (before.dropControl.note (.control setup data)) = start
      have hdevice : start.device = before.device := by
        rw [← hstart]
        rfl
      rw [← hdevice] at hcontrol ⊢
      cases hnext : Scripted.next before.script.control with
      | pass =>
        simp only [Scripted.follow, DeviceM.outcome, Beagle.model, hcontrol]
        exact .inl ⟨trivial, trivial⟩
      | reply result =>
        cases result with
        | error error => exact .inr ⟨trivial, .completed error, .inl rfl⟩
        | ok made =>
          obtain hpass | hmem := mem_control_of_next hnext
          · cases hpass
          · exact absurd rfl (hfair _ hmem made)
      | refuse error => exact .inr ⟨trivial, .refused error, .inl rfl⟩
      | never => exact .inr ⟨trivial, .pending, .inl rfl⟩
      | hold =>
        simp only [Scripted.follow, DeviceM.outcome, Beagle.model, hcontrol]
        exact .inr ⟨trivial, .pending, .inr trivial⟩

end LossyCarrier

/-! ## Register access -/

/-- How an operation ends that returns a value and takes a chip from one state to another: as it
    should, or with an error that leaves the chip in one of the two. -/
inductive Takes {σ α : Type} (ready : σ → Prop) (device : σ → Beagle) (mayFail : Prop) (value : α)
    (before after : Beagle) : EStateM.Result DriverError σ α → Prop where
  | ok {state : σ} (hready : ready state) (hdevice : device state = after) :
    Takes ready device mayFail value before after (.ok value state)
  | error {error : DriverError} {state : σ} (hmayFail : mayFail)
      (hdevice : device state = before ∨ device state = after) :
    Takes ready device mayFail value before after (.error error state)

theorem Takes.bind {σ α β : Type} {ready : σ → Prop} {device : σ → Beagle} {mayFail : Prop}
    {value : α} {value' : β} {before after : Beagle} {m : DeviceM σ α} {k : α → DeviceM σ β}
    {state : σ} (h : Takes ready device mayFail value before after (m state))
    (hk : ∀ state, k value state = .ok value' state) :
    Takes ready device mayFail value' before after ((m >>= k) state) := by
  cases hm : m state with
  | ok _ mid =>
    rw [hm] at h
    obtain ⟨hready, hdevice⟩ := h
    rw [bind_of_ok hm, hk]
    exact .ok hready hdevice
  | error error mid =>
    rw [hm] at h
    obtain ⟨⟩ | ⟨hmayFail, hdevice⟩ := h
    rw [bind_of_error hm]
    exact .error hmayFail hdevice

/-- Access to the registers of a Beagle. What the chip has seen is left out. -/
structure RegisterPath (σ : Type) where
  access : RegisterAccess σ
  device : σ → Beagle
  /-- The states in which the registers can be reached. -/
  ready : σ → Prop
  /-- Whether an access may fail. -/
  mayFail : Prop
  read32 {offset : Nat} (hoffset : offset < UInt32.size) {state : σ} (hready : ready state) :
    Takes ready device mayFail (((device state).readRegister offset).setWidth 32) (device state)
      (device state) (access.read32 offset state)
  read64 {offset : Nat} (hoffset : offset < UInt32.size) {state : σ} (hready : ready state) :
    Takes ready device mayFail ((device state).readRegister offset) (device state)
      (device state) (access.read64 offset state)
  write32 {offset : Nat} (hoffset : offset < UInt32.size) (value : BitVec 32) {state : σ}
      (hready : ready state) :
    Takes ready device mayFail () (device state)
      ((device state).writeRegister offset (value.setWidth 64)) (access.write32 offset value state)
  write64 {offset : Nat} (hoffset : offset < UInt32.size) (value : BitVec 64) {state : σ}
      (hready : ready state) :
    Takes ready device mayFail () (device state)
      ((device state).writeRegister offset value) (access.write64 offset value state)

namespace LossyCarrier

variable {τ : Type} (carrier : LossyCarrier τ) (config : DriverConfig)

/-- The states of a link in which the registers can be reached. -/
structure LinkReady (link : Link τ) : Prop where
  control : link.control.Ready
  fair : carrier.fair link.transport

/-- The chip behind a link, without what it has seen. -/
def chip (link : Link τ) : Beagle := (carrier.device link.transport).forget

variable {carrier} {link : Link τ}

theorem takes_controlTransfer (hready : carrier.LinkReady link) {setup : SetupPacket}
    {data reply : Bytes} {answered : Beagle}
    (hcontrol : Beagle.control setup data (carrier.device link.transport) = .ok reply answered) :
    Takes carrier.LinkReady carrier.chip carrier.mayFail reply (carrier.chip link) answered.forget
      (Link.controlTransfer carrier.transport config setup data link) := by
  have hcarried := carrier.carries ⟨link.owner, .control, link.control.last + 1⟩ setup data
    link.transport reply answered hready.fair hcontrol
  unfold Link.controlTransfer DeviceM.ofOutcome
  dsimp only
  cases hsubmit : carrier.transport.control ⟨link.owner, .control, link.control.last + 1⟩ setup
      data link.transport with
  | mk submission after =>
    rw [hsubmit] at hcarried
    obtain ⟨hfair, ⟨hsubmission, hdevice⟩ | ⟨hmayFail, failing, hdevice⟩⟩ := hcarried
    · obtain rfl : submission = .completed (.ok reply) := hsubmission
      rw [CompletionQueue.transact_of_completed hready.control _
        (fun number => carrier.transport.control ⟨link.owner, .control, number⟩ setup data) hsubmit]
      exact .ok ⟨CompletionQueue.ready_nil _, hfair⟩ (congrArg Beagle.forget hdevice)
    · obtain ⟨error, queue, htransact⟩ := CompletionQueue.transact_of_failing hready.control
        (PipeName.control.timeout config)
        (fun number => carrier.transport.control ⟨link.owner, .control, number⟩ setup data) hsubmit
        failing
      rw [htransact]
      exact .error hmayFail (hdevice.imp (congrArg Beagle.forget) (congrArg Beagle.forget))

variable {offset : Nat}

theorem takes_readRegister (hready : carrier.LinkReady link) (hoffset : offset < UInt32.size)
    (width : RegisterWidth) :
    Takes carrier.LinkReady carrier.chip carrier.mayFail
      (((carrier.chip link).readRegister offset).toNat % Nat.pow 256 width.octets)
      (carrier.chip link) (carrier.chip link)
      (Link.readRegister carrier.transport config offset width link) := by
  refine (takes_controlTransfer config hready
    (Beagle.control_read hoffset width (carrier.device link.transport))).bind fun state => ?_
  rw [if_neg (by rw [Bytes.length_littleEndian]; exact Nat.lt_irrefl _),
    List.take_of_length_le (Nat.le_of_eq (Bytes.length_littleEndian ..)),
    Bytes.ofLittleEndian_littleEndian]
  rfl

theorem takes_writeRegister (hready : carrier.LinkReady link) (hoffset : offset < UInt32.size)
    (width : RegisterWidth) (value : Nat) :
    Takes carrier.LinkReady carrier.chip carrier.mayFail () (carrier.chip link)
      ((carrier.chip link).writeRegister offset
        (BitVec.ofNat 64 (value % Nat.pow 256 width.octets)))
      (Link.writeRegister carrier.transport config offset width value link) := by
  have htransfer := takes_controlTransfer config hready
    (Beagle.control_write hoffset width value (carrier.device link.transport))
  rw [Beagle.forget_writeRegister] at htransfer
  exact htransfer.bind fun state => rfl

end LossyCarrier

/-- The number that a read of 32 bits returns. -/
theorem ofNat_octets32 (value : BitVec 64) :
    BitVec.ofNat 32 (value.toNat % Nat.pow 256 RegisterWidth.bits32.octets) =
      value.setWidth 32 := by
  apply BitVec.eq_of_toNat_eq
  rw [BitVec.toNat_ofNat, BitVec.toNat_setWidth]
  exact Nat.mod_mod_of_dvd _ (by decide)

/-- The number that a write of 32 bits carries. -/
theorem ofNat_toNat32 (value : BitVec 32) :
    BitVec.ofNat 64 (value.toNat % Nat.pow 256 RegisterWidth.bits32.octets) =
      value.setWidth 64 := by
  have hlow : value.toNat % Nat.pow 256 RegisterWidth.bits32.octets = value.toNat :=
    Nat.mod_eq_of_lt value.isLt
  apply BitVec.eq_of_toNat_eq
  rw [hlow, BitVec.toNat_ofNat, BitVec.toNat_setWidth]

/-- The number that an access of 64 bits carries. -/
theorem ofNat_octets64 (value : BitVec 64) :
    BitVec.ofNat 64 (value.toNat % Nat.pow 256 RegisterWidth.bits64.octets) = value := by
  have hlow : value.toNat % Nat.pow 256 RegisterWidth.bits64.octets = value.toNat :=
    Nat.mod_eq_of_lt value.isLt
  rw [hlow, BitVec.ofNat_toNat, BitVec.setWidth_eq]

/-- The registers of the chip behind a link. -/
def RegisterPath.ofLink {τ : Type} (carrier : LossyCarrier τ) (config : DriverConfig) :
    RegisterPath (Link τ) where
  access := Link.registers carrier.transport config
  device := carrier.chip
  ready := carrier.LinkReady
  mayFail := carrier.mayFail
  read32 hoffset state hready := by
    refine (LossyCarrier.takes_readRegister config hready hoffset .bits32).bind fun state => ?_
    rw [ofNat_octets32]
    rfl
  read64 hoffset state hready := by
    refine (LossyCarrier.takes_readRegister config hready hoffset .bits64).bind fun state => ?_
    rw [ofNat_octets64]
    rfl
  write32 hoffset value state hready := by
    have hwrite := LossyCarrier.takes_writeRegister config hready hoffset .bits32 value.toNat
    rwa [ofNat_toNat32] at hwrite
  write64 hoffset value state hready := by
    have hwrite := LossyCarrier.takes_writeRegister config hready hoffset .bits64 value.toNat
    rwa [ofNat_octets64] at hwrite

end TensorLink

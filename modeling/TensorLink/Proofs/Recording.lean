import TensorLink.Inference.DataStream
import TensorLink.Proofs.Sequencing
import TensorLink.Register.Access
import TensorLink.Task.Host

/-!
# Recorded calls

What a program does to its surroundings is the list of calls that it makes. Recorded registers, a
recorded data stream or a recorded host do what the original ones do and keep this list beside them,
the latest call last.

Results:
* `projects_observe`: recording a call does not change what it does.
* `calls_of_observe_ok`, `calls_of_observe_error`: the call is recorded with how it ended.
* `FailsLast.append`, `FailsLast.cons`: calls of which none fails but the last.
-/

namespace TensorLink

open Sequencing

/-- Something in state `σ`, and the calls that were made of it. -/
structure Recorded (σ κ : Type) where
  inner : σ
  calls : List κ := []

namespace Recorded

variable {σ κ α : Type}

/-- Adds a call. -/
def note (call : κ) (state : Recorded σ κ) : Recorded σ κ :=
  { state with calls := state.calls ++ [call] }

/-- What is recorded, as a part. -/
def innerPart : Part (Recorded σ κ) σ := ⟨inner, fun inner state => { state with inner }⟩

/-- Calls an operation and records the call with how it ended. -/
def observe (entry : Except DriverError α → κ) (operation : DeviceM σ α) :
    DeviceM (Recorded σ κ) α := fun state =>
  match operation state.inner with
  | .ok value inner => .ok value (note (entry (.ok value)) { state with inner })
  | .error error inner => .error error (note (entry (.error error)) { state with inner })

/-- Calls a function and records the call with its value. -/
def watch (entry : α → κ) (function : σ → α × σ) (state : Recorded σ κ) : α × Recorded σ κ :=
  let (value, inner) := function state.inner
  (value, note (entry value) { state with inner })

theorem projects_observe (entry : Except DriverError α → κ) (operation : DeviceM σ α) :
    Projects inner (observe entry operation) operation := by
  intro state
  unfold observe
  cases operation state.inner <;> rfl

theorem calls_of_observe_ok {entry : Except DriverError α → κ} {operation : DeviceM σ α}
    {state after : Recorded σ κ} {value : α} (h : observe entry operation state = .ok value after) :
    after.calls = state.calls ++ [entry (.ok value)] := by
  unfold observe at h
  split at h
  · cases h
    rfl
  · cases h

theorem calls_of_observe_error {entry : Except DriverError α → κ} {operation : DeviceM σ α}
    {state after : Recorded σ κ} {error : DriverError}
    (h : observe entry operation state = .error error after) :
    after.calls = state.calls ++ [entry (.error error)] := by
  unfold observe at h
  split at h
  · cases h
  · cases h
    rfl

end Recorded

/-! ## Calls that fail -/

/-- The error that an outcome is, if it is one. -/
def failure? {α : Type} : Except DriverError α → Option DriverError
  | .ok _ => none
  | .error error => some error

theorem failure?_eq_some_iff {α : Type} {outcome : Except DriverError α} {error : DriverError} :
    failure? outcome = some error ↔ outcome = .error error := by
  cases outcome <;> simp [failure?]

/-- A call that fails is the last, and its error is what comes of the calls. -/
def FailsLast {κ α : Type} (failure? : κ → Option DriverError) (calls : List κ)
    (result : Except DriverError α) : Prop :=
  ∀ (before : List κ) (call : κ) (after : List κ) (error : DriverError),
    calls = before ++ call :: after → failure? call = some error →
      after = [] ∧ result = .error error

section

variable {κ α β : Type} {failure? : κ → Option DriverError} {first rest : List κ} {call : κ}
  {result : Except DriverError α}

theorem failsLast_nil : FailsLast failure? [] result := fun _ _ _ _ h => by simp at h

theorem failsLast_singleton (h : ∀ error, failure? call = some error → result = .error error) :
    FailsLast failure? [call] result := by
  intro before call' after error hcalls hcall
  obtain ⟨rfl, hcalls⟩ | ⟨_, _, hcalls⟩ := List.cons_eq_append_iff.mp hcalls
  · cases hcalls
    exact ⟨rfl, h error hcall⟩
  · simp at hcalls

theorem FailsLast.append {value : β}
    (hfirst : FailsLast failure? first (.ok value : Except DriverError β))
    (hrest : FailsLast failure? rest result) : FailsLast failure? (first ++ rest) result := by
  intro before call after error hcalls hcall
  obtain ⟨middle, -, hmiddle⟩ | ⟨middle, hmiddle, hafter⟩ := List.append_eq_append_iff.mp hcalls
  · exact hrest middle call after error hmiddle hcall
  · obtain ⟨rfl, hafter⟩ | ⟨middle, rfl, -⟩ := List.cons_eq_append_iff.mp hafter
    · exact hrest [] call after error hafter.symm hcall
    · cases (hfirst before call middle error hmiddle hcall).2

/-- A call that does not fail may stand before the others. -/
theorem FailsLast.cons (hcall : failure? call = none) (h : FailsLast failure? rest result) :
    FailsLast failure? (call :: rest) result := by
  have hfirst : FailsLast failure? [call] (.ok () : Except DriverError Unit) :=
    failsLast_singleton fun error herror => by cases hcall.symm.trans herror
  exact hfirst.append h

theorem FailsLast.map (f : α → β) (h : FailsLast failure? first result) :
    FailsLast failure? first (result.map f) := by
  intro before call after error hcalls hcall
  obtain ⟨hafter, rfl⟩ := h before call after error hcalls hcall
  exact ⟨hafter, rfl⟩

end

/-! ## Registers -/

/-- A register access, with what it returned. -/
inductive RegisterCall where
  | read32 (offset : Nat) (outcome : Except DriverError (BitVec 32))
  | read64 (offset : Nat) (outcome : Except DriverError (BitVec 64))
  | write32 (offset : Nat) (value : BitVec 32) (outcome : Except DriverError Unit)
  | write64 (offset : Nat) (value : BitVec 64) (outcome : Except DriverError Unit)

/-- The error of a register access that failed. -/
def RegisterCall.failure? : RegisterCall → Option DriverError
  | read32 _ outcome => TensorLink.failure? outcome
  | read64 _ outcome => TensorLink.failure? outcome
  | write32 _ _ outcome | write64 _ _ outcome => TensorLink.failure? outcome

/-- The register of an access. -/
def RegisterCall.offset : RegisterCall → Nat
  | read32 offset _ | read64 offset _ | write32 offset _ _ | write64 offset _ _ => offset

/-- Whether an access reads. -/
def RegisterCall.isRead : RegisterCall → Bool
  | read32 .. | read64 .. => true
  | write32 .. | write64 .. => false

/-- What an access writes to a 32-bit register, if it does. -/
def RegisterCall.write32? : RegisterCall → Option (Nat × BitVec 32)
  | write32 offset value _ => some (offset, value)
  | _ => none

/-- The registers that keep the accesses to them. -/
def RegisterAccess.recorded {σ : Type} (registers : RegisterAccess σ) :
    RegisterAccess (Recorded σ RegisterCall) where
  read32 offset := Recorded.observe (.read32 offset) (registers.read32 offset)
  read64 offset := Recorded.observe (.read64 offset) (registers.read64 offset)
  write32 offset value := Recorded.observe (.write32 offset value) (registers.write32 offset value)
  write64 offset value := Recorded.observe (.write64 offset value) (registers.write64 offset value)

/-! ## Data streams -/

/-- A call of a data stream, with what it returned. -/
inductive StreamCall where
  | send (tag : StreamTag) (data : Bytes) (outcome : Except DriverError Unit)
  | receive (buffer : Bytes) (received : Received)
  | readEvent (outcome : Except DriverError EventRecord)

/-- The error of a call that failed. -/
def StreamCall.failure? : StreamCall → Option DriverError
  | send _ _ outcome => TensorLink.failure? outcome
  | receive _ received => TensorLink.failure? received.outcome
  | readEvent outcome => TensorLink.failure? outcome

/-- The data stream that keeps its calls. -/
def DataStream.recorded {σ : Type} (stream : DataStream σ) :
    DataStream (Recorded σ StreamCall) where
  send tag data := Recorded.observe (.send tag data) (stream.send tag data)
  receive buffer := Recorded.watch (.receive buffer) (stream.receive buffer)
  readEvent := Recorded.observe .readEvent stream.readEvent

/-! ## Hosts and listeners -/

/-- A call of a host, of one of its transports, or of a listener, with what it returned. -/
inductive HostCall (κ : Type) where
  | openClass (interface : Interface) (outcome : Except DriverError ClassHandle)
  | closeClass (interface : Interface)
  | resetBus (outcome : Except DriverError Unit)
  | requestReenumeration (outcome : Except DriverError Unit)
  | openPipe (handle : ClassHandle) (endpoint : Endpoint) (outcome : Except DriverError Unit)
  | control (handle : ClassHandle) (label : κ) (setup : SetupPacket) (data : Bytes)
      (submission : Submission Bytes)
  | bulkOut (handle : ClassHandle) (label : κ) (address : UInt8) (data : Bytes)
      (submission : Submission Nat)
  | bulkIn (handle : ClassHandle) (label : κ) (address : UInt8) (size : Nat)
      (submission : Submission Bytes)
  | connected (handle : Option ClassHandle)
  | failed

/-- Whether a call tells a listener that a task has failed. -/
def HostCall.isFailed {κ : Type} : HostCall κ → Bool
  | .failed => true
  | _ => false

section

variable {κ σ : Type}

/-- How often listeners have been told that a task has failed. -/
def Recorded.notices (state : Recorded σ (HostCall κ)) : Nat :=
  state.calls.countP HostCall.isFailed

/-- The host that keeps its calls. -/
def Host.recorded (host : Host κ σ) : Host κ (Recorded σ (HostCall κ)) where
  openClass interface := Recorded.observe (.openClass interface) (host.openClass interface)
  closeClass interface state :=
    Recorded.note (.closeClass interface)
      (Recorded.innerPart.change (host.closeClass interface) state)
  resetBus := Recorded.observe .resetBus host.resetBus
  requestReenumeration := Recorded.observe .requestReenumeration host.requestReenumeration
  transport handle :=
    { openPipe := fun endpoint =>
        Recorded.observe (.openPipe handle endpoint) ((host.transport handle).openPipe endpoint)
      control := fun label setup data =>
        Recorded.watch (.control handle label setup data)
          ((host.transport handle).control label setup data)
      bulkOut := fun label address data =>
        Recorded.watch (.bulkOut handle label address data)
          ((host.transport handle).bulkOut label address data)
      bulkIn := fun label address size =>
        Recorded.watch (.bulkIn handle label address size)
          ((host.transport handle).bulkIn label address size) }

theorem Host.recorded_control (host : Host κ σ) (handle : ClassHandle) (label : κ)
    (setup : SetupPacket) (data : Bytes) (state : Recorded σ (HostCall κ)) :
    (host.recorded.transport handle).control label setup data state =
      let made := (host.transport handle).control label setup data state.inner
      (made.1, ⟨made.2, state.calls ++ [.control handle label setup data made.1]⟩) := rfl

/-- The listener that keeps what it is told. -/
def Listener.recorded (listener : Listener σ) : Listener (Recorded σ (HostCall κ)) where
  connected handle state :=
    Recorded.note (.connected handle)
      (Recorded.innerPart.change (listener.connected handle) state)
  failed state := Recorded.note .failed (Recorded.innerPart.change listener.failed state)

end

end TensorLink

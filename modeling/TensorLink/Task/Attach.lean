import TensorLink.Task.Host
import TensorLink.Transport.PipeSet

/-!
# Attaching an accelerator

The attach task follows one accelerator from the moment it is plugged in until its pipes are usable.
It handles one message at a time: events of the host, and the completion of the one transfer that it
submits, the selection of the interface.

| State | Entered | On entry |
|-------|---------|----------|
| `unattached` | when the device is gone | close the class driver, tell the listener |
| `attached` | after enumeration | open the class driver and its pipes |
| `setInterface` | next | select the interface, tell the listener |
| `getStatus` | when that has completed | check the pipes |
| `connected` | next | |
| `enumerationFailed` | if no interface fits | |
| `error` | when anything fails, for good | close the class driver, tell the listener |

Entering a state may fail, which enters `error`, or go on to the next one; no state is entered twice
on the way, so every message is handled in a bounded number of steps.

Reference: `edgetpu-driver`, `task`; SPEC_FULL 4.5.

* `receive_stale`: a completion that the task does not wait for changes nothing.
* `step_error`: after an error nothing is handled.
* `post_error`: after an error no event is taken.
-/

namespace TensorLink

/-- The states of the attach task. -/
inductive AttachState where
  | unattached
  | attached
  | setInterface
  | getStatus
  | connected
  | enumerationFailed
  | error
  deriving DecidableEq, Repr

/-- The name of a state. -/
def AttachState.name : AttachState → String
  | unattached => "Unattached"
  | attached => "Attached"
  | setInterface => "SetInterface"
  | getStatus => "GetStatus"
  | connected => "Connected"
  | enumerationFailed => "EnumerationFailed"
  | error => "Error"

/-- What the attach task is told. -/
inductive AttachMessage where
  | host (event : HostEvent)
  /-- The transfer that was submitted in the given state has completed. -/
  | completed (request : AttachState) (result : Except DriverError Unit)

/-- The attach task and the world that it acts on. -/
structure AttachTask (σ : Type) where
  world : σ
  state : AttachState := .unattached
  /-- The interface of the device that was attached last, if one fits. -/
  interface : Option Interface := none
  /-- The class driver that is in use. -/
  handle : Option ClassHandle := none
  pipes : Option PipeSet := none
  /-- The messages to handle, oldest first. -/
  inbox : List AttachMessage := []
  /-- The states entered so far, the latest first. -/
  entered : List AttachState := []
  /-- How many users have asked for power. -/
  users : Nat := 0

namespace AttachTask

variable {σ : Type}

/-- The world of a task, as a part of it. -/
def around : Part (AttachTask σ) σ := ⟨world, fun world task => { task with world }⟩

/-- Changes the world. -/
def act (change : σ → σ) : AttachTask σ → AttachTask σ := around.change change

/-- Enters a state, without what is done on entry. -/
def goto (state : AttachState) (task : AttachTask σ) : AttachTask σ :=
  { task with state, entered := state :: task.entered }

/-- Queues a completion; a full queue loses it, and a task that has failed takes none. -/
def deliver (request : AttachState) (result : Except DriverError Unit) (task : AttachTask σ) :
    AttachTask σ :=
  if task.state = .error ∨ taskQueueDepth ≤ task.inbox.length then task
  else { task with inbox := task.inbox ++ [.completed request result] }

section

variable (host : Host AttachState σ) (listener : Listener σ)

/-- Gives up the pipes and the class driver, if one is in use. -/
def close (task : AttachTask σ) : AttachTask σ :=
  let closed := { task with pipes := none, handle := none }
  match task.handle, task.interface with
  | some _, some interface => closed.act (host.closeClass interface)
  | _, _ => closed

/-! ## Entering states -/

/-- Enters `error`. -/
def enterError (task : AttachTask σ) : AttachTask σ :=
  ((task.goto .error).close host).act listener.failed

/-- Does what is done on entry to a state; if this fails, enters `error` and does not go on. -/
def attempt (entry : DeviceM (AttachTask σ) Unit) (next : AttachTask σ → AttachTask σ)
    (task : AttachTask σ) : AttachTask σ :=
  match entry task with
  | .ok () task => next task
  | .error _ task => task.enterError host listener

/-- Enters `unattached`. -/
def enterUnattached (task : AttachTask σ) : AttachTask σ :=
  ((task.goto .unattached).close host).act (listener.connected none)

/-- Fails unless the pipes are open and usable. -/
def checkPipes : DeviceM (AttachTask σ) Unit := do
  match (← get).pipes with
  | none => throw .notConnected
  | some pipes => DeviceM.ofExcept pipes.status

/-- Enters `getStatus` and, if the pipes are usable, `connected`. -/
def enterGetStatus (task : AttachTask σ) : AttachTask σ :=
  (task.goto .getStatus).attempt host listener checkPipes (goto .connected)

/-- Submits the selection of the interface and announces the transport. -/
def selectInterface : DeviceM (AttachTask σ) Unit := fun task =>
  match task.interface, task.handle with
  | some interface, some handle =>
    let setup := SetupPacket.setInterface interface.number.toUInt16 0
    let (submission, world) :=
      (host.transport handle).control .setInterface setup [] task.world
    let task := { task with world }
    let announce (task : AttachTask σ) := task.act (listener.connected (some handle))
    match submission with
    | .refused error => .error error task
    | .pending => .ok () (announce task)
    | .completed result =>
      .ok () (announce (task.deliver .setInterface (result.map fun _ => ())))
  | _, _ => .error .notConnected task

/-- Enters `setInterface`. -/
def enterSetInterface (task : AttachTask σ) : AttachTask σ :=
  (task.goto .setInterface).attempt host listener (selectInterface host listener) id

/-- Opens the class driver and its pipes. A class driver whose pipes do not open stays open, but the
task does not use it. -/
def openDevice : DeviceM (AttachTask σ) Unit := do
  match (← get).interface with
  | none => throw .notConnected
  | some interface =>
    let handle ← around.focus (host.openClass interface)
    let pipes ← around.focus (PipeSet.open (host.transport handle).openPipe interface.endpoints)
    modify fun task => { task with pipes := some pipes, handle := some handle }

/-- Enters `attached` and, if the class driver and its pipes open, `setInterface`. -/
def enterAttached (task : AttachTask σ) : AttachTask σ :=
  (task.goto .attached).attempt host listener (openDevice host)
    (enterSetInterface host listener)

/-! ## Messages -/

/-- Handles an event of the host (`on_host_event`). -/
def receiveEvent (event : HostEvent) (task : AttachTask σ) : AttachTask σ :=
  match event with
  | .attach interfaces => { task with interface := Interface.findApplication? interfaces }
  | .enumerationDone =>
    if task.interface.isSome then task.enterAttached host listener
    else task.goto .enumerationFailed
  | .detach => task.enterUnattached host listener
  | .transferFailed _ => task.enterError host listener

/-- Handles a completion, if the task is still in the state that waits for it (`on_completion`). -/
def receiveCompletion (request : AttachState) (result : Except DriverError Unit)
    (task : AttachTask σ) : AttachTask σ :=
  if request ≠ task.state then task
  else
    match result with
    | .error _ => task.enterError host listener
    | .ok () => if request = .setInterface then task.enterGetStatus host listener else task

/-- Handles a message. -/
def receive (message : AttachMessage) (task : AttachTask σ) : AttachTask σ :=
  match message with
  | .host event => task.receiveEvent host listener event
  | .completed request result => task.receiveCompletion host listener request result

/-- Handles the oldest message; a task that has failed handles none. -/
def step (task : AttachTask σ) : AttachTask σ :=
  if task.state = .error then task
  else
    match task.inbox with
    | [] => task
    | message :: rest => { task with inbox := rest }.receive host listener message

/-- Handles up to so many messages. -/
def handle? (count : Nat) (task : AttachTask σ) : AttachTask σ :=
  match count with
  | 0 => task
  | count + 1 => (task.step host listener).handle? count

/-- Handles every message. An event leads to one completion at most and a completion to none, so
twice as many steps as there are messages suffice. -/
def settle (task : AttachTask σ) : AttachTask σ :=
  task.handle? host listener (2 * task.inbox.length)

/-- Queues an event of the host, unless the task has failed (`post_host_event`). -/
def post (event : HostEvent) (task : AttachTask σ) : Except DriverError Unit × AttachTask σ :=
  if task.state = .error then (.error (.invalidState "attach task stopped"), task)
  else (.ok (), { task with inbox := task.inbox ++ [.host event] })

/-- A completion that the task does not wait for changes nothing. -/
theorem receive_stale {request : AttachState} (result : Except DriverError Unit)
    {task : AttachTask σ} (stale : request ≠ task.state) :
    task.receive host listener (.completed request result) = task := by
  simp [receive, receiveCompletion, stale]

/-- After an error nothing is handled. -/
theorem step_error {task : AttachTask σ} (failed : task.state = .error) :
    task.step host listener = task := by simp [step, failed]

end

/-- After an error no event is taken. -/
theorem post_error (event : HostEvent) {task : AttachTask σ} (failed : task.state = .error) :
    task.post event = (.error (.invalidState "attach task stopped"), task) := by
  simp [post, failed]

end AttachTask

end TensorLink

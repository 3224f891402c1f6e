import TensorLink.FileSource
import TensorLink.Task.Host
import TensorLink.Usb.Setup

/-!
# Downloading firmware

An accelerator without firmware waits for it behind a download interface. The download task writes
the image block by block, reads it back, compares, and only then detaches the device and has it
enumerated again. It handles one message at a time: an event of the host, or the completion of the
one transfer that it waits for.

| State | On entry |
|-------|----------|
| `unattached` | close the class driver |
| `attached` | open the class driver |
| `setInterface` | select the interface |
| `getStatus` | ask for the status, between downloads |
| `transfer` | download the next block |
| `zeroLengthTransfer` | download an empty block, which ends the image |
| `readBack` | upload the next block |
| `getStatusRead` | ask for the status, between uploads |
| `detach` | have the device detach |
| `checkStatus` | ask for the status once more |
| `complete` | reset the bus, close the class driver, have devices enumerated again |
| `error` | give up the readback, close the class driver, tell the listener |

Entering a state may fail, which enters `error`; the first failure is kept for the caller.

Reference: `edgetpu-driver`, `dfu`; SPEC_FULL 4.4.

* `fail_error`: a task that has failed stays as it is.
* `run_complete`, `run_error`: a task that has ended handles no further message.
* `new_eq_ok_iff`: exactly the images of 1 to 16776960 octets are taken.
-/

namespace TensorLink

/-- The states of the download task (`DfuState`). -/
inductive DownloadState where
  | unattached
  | attached
  | setInterface
  | getStatus
  | transfer
  | zeroLengthTransfer
  | readBack
  | getStatusRead
  | detach
  | checkStatus
  | complete
  | error
  deriving DecidableEq, Repr

/-- The name of a state. -/
def DownloadState.name : DownloadState → String
  | unattached => "Unattached"
  | attached => "Attached"
  | setInterface => "SetInterface"
  | getStatus => "GetStatus"
  | transfer => "Transfer"
  | zeroLengthTransfer => "ZeroLengthTransfer"
  | readBack => "ReadBack"
  | getStatusRead => "GetStatusRead"
  | detach => "Detach"
  | checkStatus => "CheckStatus"
  | complete => "Complete"
  | error => "Error"

/-- What the download task is told. -/
inductive DownloadMessage where
  | host (event : HostEvent)
  /-- The transfer that was submitted in the given state has completed. -/
  | completed (request : DownloadState) (result : Except DriverError Bytes)

/-- What a finished download reports (`DfuReport`). -/
structure DownloadReport where
  /-- The size of the image. -/
  size : Nat
  /-- The states entered, in order. -/
  history : List DownloadState
  /-- How often a readback buffer was given up. -/
  releases : Nat
  deriving DecidableEq, Repr

/-- The download task and the world that it acts on (`DfuTask`). -/
structure DownloadTask (σ : Type) where
  world : σ
  image : Bytes
  state : DownloadState := .unattached
  /-- The interface of the device that was attached last, if one fits. -/
  interface : Option Interface := none
  /-- The class driver that is in use. -/
  handle : Option ClassHandle := none
  /-- The number of the next block. -/
  block : UInt16 := 0
  /-- How much of the image has been downloaded, or read back. -/
  position : Nat := 0
  /-- The number of octets that are on their way. -/
  pending : Nat := 0
  /-- What has been read back, once reading back has begun. -/
  readback : Option Bytes := none
  releases : Nat := 0
  /-- The states entered so far, the latest first. -/
  history : List DownloadState := []
  /-- Why the task has failed, until the caller has been told. -/
  failure : Option DriverError := none
  /-- The messages to handle, oldest first. -/
  inbox : List DownloadMessage := []
  /-- Whether the task has been given up. -/
  retired : Bool := false

namespace DownloadTask

variable {σ : Type}

/-- The size of the largest image: one block number is left for the empty block at its end
(`MAX_IMAGE_SIZE`). -/
def maxImageSize : Nat := 65535 * DfuRequest.blockSize

/-- A task that waits for a device to download an image to. -/
def new (world : σ) (image : Bytes) : Except DriverError (DownloadTask σ) :=
  if image.isEmpty then .error (.invalidArgument "firmware image is empty")
  else if maxImageSize < image.length then
    .error (.invalidArgument s!"firmware image of {image.length} bytes exceeds {maxImageSize}")
  else .ok { world, image }

/-- A task for the image in a file. -/
def ofFile (world : σ) (path : String) : FileSource → Except DriverError (DownloadTask σ)
  | .missing => .error (.fileNotFound path)
  | .unreadable detail => .error (.io detail)
  | .content octets => new world octets

/-- The world of a task, as a part of it. -/
def around : Part (DownloadTask σ) σ := ⟨world, fun world task => { task with world }⟩

/-- Changes the world. -/
def act (change : σ → σ) : DownloadTask σ → DownloadTask σ := around.change change

/-- Enters a state, without what is done on entry. -/
def goto (state : DownloadState) (task : DownloadTask σ) : DownloadTask σ :=
  { task with state, history := state :: task.history }

/-- Queues a completion; a full queue loses it, and a task that has been given up takes none. -/
def deliver (request : DownloadState) (result : Except DriverError Bytes) (task : DownloadTask σ) :
    DownloadTask σ :=
  if task.retired ∨ taskQueueDepth ≤ task.inbox.length then task
  else { task with inbox := task.inbox ++ [.completed request result] }

/-- Gives up the readback buffer, if there is one (`release_readback`). -/
def releaseReadback (task : DownloadTask σ) : DownloadTask σ :=
  match task.readback with
  | none => task
  | some _ => { task with readback := none, releases := task.releases + 1 }

/-- The number of octets that the next transfer moves (`next_unit`). -/
def nextUnit (task : DownloadTask σ) : Nat :=
  min (task.image.length - task.position) DfuRequest.blockSize

/-- The number of the interface that requests go to (`interface_number`). -/
def interfaceNumber (task : DownloadTask σ) : Except DriverError UInt16 :=
  match task.interface with
  | none => .error .notConnected
  | some interface => .ok interface.number.toUInt16

section

variable (host : Host DownloadState σ) (listener : Listener σ)

/-- Gives up the class driver, if one is in use. -/
def close (task : DownloadTask σ) : DownloadTask σ :=
  let closed := { task with handle := none }
  match task.handle, task.interface with
  | some _, some interface => closed.act (host.closeClass interface)
  | _, _ => closed

/-- Submits a request on behalf of a state (`submit`). -/
def submit (request : DownloadState) (setup : UInt16 → SetupPacket) (data : Bytes) :
    DeviceM (DownloadTask σ) Unit := fun task =>
  match task.interfaceNumber, task.handle with
  | .error error, _ => .error error task
  | .ok _, none => .error .notConnected task
  | .ok number, some handle =>
    let (submission, world) :=
      (host.transport handle).control request (setup number) data task.world
    let task := { task with world }
    match submission with
    | .refused error => .error error task
    | .pending => .ok () task
    | .completed result => .ok () (task.deliver request result)

/-! ## Entering states -/

/-- Asks for the status on behalf of a state. -/
def askStatus (request : DownloadState) : DeviceM (DownloadTask σ) Unit :=
  submit host request
    (fun number => DfuRequest.input DfuRequest.getStatus 0 number (UInt16.ofNat DfuStatus.size)) []

/-- Downloads the next block. -/
def downloadBlock : DeviceM (DownloadTask σ) Unit := do
  let task ← get
  let pending := task.nextUnit
  set { task with pending }
  submit host .transfer
    (fun number => DfuRequest.output DfuRequest.download task.block number (UInt16.ofNat pending))
    ((task.image.drop task.position).take pending)

/-- Uploads the next block, into an empty buffer if there is none. There is always room for a buffer
of the size of the image; the `resource` error of a host that has none is left out. -/
def uploadBlock : DeviceM (DownloadTask σ) Unit := do
  let task ← get
  let pending := task.nextUnit
  set { task with pending, readback := some (task.readback.getD []) }
  submit host .readBack
    (fun number => DfuRequest.input DfuRequest.upload task.block number (UInt16.ofNat pending)) []

/-- Opens the class driver of the download interface. -/
def openClass : DeviceM (DownloadTask σ) Unit := do
  match (← get).interface with
  | none => throw .notConnected
  | some interface =>
    let handle ← around.focus (host.openClass interface)
    modify fun task => { task with handle := some handle }

/-- Ends a download. -/
def finish : DeviceM (DownloadTask σ) Unit := do
  around.focus host.resetBus
  modify (close host)
  around.focus host.requestReenumeration

/-- What is done on entry to a state, except to `unattached` and `error`. -/
def onEntry : DownloadState → DeviceM (DownloadTask σ) Unit
  | .attached => openClass host
  | .setInterface => submit host .setInterface (SetupPacket.setInterface · 0) []
  | .getStatus => askStatus host .getStatus
  | .transfer => downloadBlock host
  | .zeroLengthTransfer => do
    let block := (← get).block
    submit host .zeroLengthTransfer
      (fun number => DfuRequest.output DfuRequest.download block number 0) []
  | .readBack => uploadBlock host
  | .getStatusRead => askStatus host .getStatusRead
  | .detach => submit host .detach
      (fun number => DfuRequest.output DfuRequest.detach DfuRequest.detachTimeout number 0) []
  | .checkStatus => askStatus host .checkStatus
  | .complete => finish host
  | .unattached => modify (close host)
  | .error => pure ()

/-- Enters `error`, after which the listener is told. -/
def enterError (task : DownloadTask σ) : DownloadTask σ :=
  (((task.goto .error).releaseReadback).close host).act listener.failed

/-- Fails for the given reason, unless the task has failed already. -/
def fail (error : DriverError) (task : DownloadTask σ) : DownloadTask σ :=
  if task.state = .error then task
  else { task with failure := some error }.enterError host listener

/-- Enters a state and does what is done on entry (`enter`). -/
def enter (state : DownloadState) (task : DownloadTask σ) : DownloadTask σ :=
  match onEntry host state (task.goto state) with
  | .ok () task => task
  | .error error task => task.fail host listener error

/-- Enters `attached` and, if the class driver opens, `setInterface`. -/
def enterAttached (task : DownloadTask σ) : DownloadTask σ :=
  match onEntry host .attached (task.goto .attached) with
  | .ok () task => task.enter host listener .setInterface
  | .error error task => task.fail host listener error

/-! ## Messages -/

/-- Fails unless a reply is a status record that reports no error (`check_status`). -/
def checkStatus (reply : Bytes) : Except DriverError Unit :=
  match DfuStatus.parse reply with
  | none => .error (.protocol s!"GETSTATUS returned {reply.length} bytes")
  | some record =>
    if record.status = 0 then .ok ()
    else
      let status := Text.Hex.padded 2 record.status.toNat
      .error (.protocol s!"device reported DFU status {status} in state {record.state.toNat}")

/-- The first position at which two strings differ; if one is the start of the other, the length of
the shorter (`first_difference`). -/
def firstDifference : Bytes → Bytes → Option Nat
  | [], [] => none
  | a :: as, b :: bs => if a = b then (firstDifference as bs).map (· + 1) else some 0
  | _, _ => some 0

/-- Compares the readback with the image and gives the readback up (`verify`). -/
def verify : DeviceM (DownloadTask σ) Unit := do
  let task ← get
  set { task with readback := none, releases := task.releases + 1, block := 0, position := 0 }
  match firstDifference task.image (task.readback.getD []) with
  | none => pure ()
  | some offset => throw (.firmwareMismatch offset)

/-- Takes in what an upload has returned. -/
def takeUpload (reply : Bytes) : DeviceM (DownloadTask σ) Unit := do
  let task ← get
  let found := reply.length
  if found = 0 ∨ task.pending < found then
    throw (.protocol
      s!"upload of block {task.block.toNat} returned {found} bytes, expected 1..={task.pending}")
  match task.readback with
  | none => throw (.invalidState "readback buffer missing")
  | some buffer =>
    set { task with
      readback := some (buffer ++ reply)
      block := task.block + 1
      position := task.position + found }

/-- What follows when the transfer of a state has completed: the next state, if there is one
(`completed`). -/
def completed (request : DownloadState) (reply : Bytes) :
    DeviceM (DownloadTask σ) (Option DownloadState) := do
  match request with
  | .setInterface => return some .getStatus
  | .getStatus =>
    DeviceM.ofExcept (checkStatus reply)
    let task ← get
    return some (if task.position < task.image.length then .transfer else .zeroLengthTransfer)
  | .transfer =>
    modify fun task =>
      { task with block := task.block + 1, position := task.position + task.pending }
    return some .getStatus
  | .zeroLengthTransfer =>
    modify fun task => { task with block := 0, position := 0 }
    return some .readBack
  | .readBack =>
    takeUpload reply
    return some .getStatusRead
  | .getStatusRead =>
    DeviceM.ofExcept (checkStatus reply)
    let task ← get
    if task.position < task.image.length then return some .readBack
    verify
    return some .detach
  | .detach => return some .checkStatus
  | .checkStatus =>
    DeviceM.ofExcept (checkStatus reply)
    return some .complete
  | .unattached | .attached | .complete | .error => return none

/-- Handles an event of the host (`on_host_event`). -/
def receiveEvent (event : HostEvent) (task : DownloadTask σ) : DownloadTask σ :=
  match event with
  | .attach interfaces => { task with interface := Interface.findDownload? interfaces }
  | .enumerationDone =>
    if task.interface.isSome then task.enterAttached host listener else task
  | .detach => task.enter host listener .unattached
  | .transferFailed reason => task.fail host listener (.transferFailed reason)

/-- Handles a completion, if the task is still in the state that waits for it (`on_completion`). -/
def receiveCompletion (request : DownloadState) (result : Except DriverError Bytes)
    (task : DownloadTask σ) : DownloadTask σ :=
  if request ≠ task.state then task
  else
    match (DeviceM.ofExcept result >>= completed request) task with
    | .ok (some next) task => task.enter host listener next
    | .ok none task => task
    | .error error task => task.fail host listener error

/-- Handles a message. -/
def receive (message : DownloadMessage) (task : DownloadTask σ) : DownloadTask σ :=
  match message with
  | .host event => task.receiveEvent host listener event
  | .completed request result => task.receiveCompletion host listener request result

/-- Queues an event of the host, unless the task has been given up (`post_host_event`). -/
def post (event : HostEvent) (task : DownloadTask σ) : Except DriverError Unit × DownloadTask σ :=
  if task.retired then (.error (.invalidState "DFU task dropped"), task)
  else (.ok (), { task with inbox := task.inbox ++ [.host event] })

/-- Gives the task up. -/
def retire (task : DownloadTask σ) : DownloadTask σ := { task with retired := true, inbox := [] }

/-- What the task reports when it is complete. -/
def report (task : DownloadTask σ) : DownloadReport :=
  ⟨task.image.length, task.history.reverse, task.releases⟩

/-- Handles up to `budget` messages, until the task has ended or there is none. -/
def runWithin (idle : Nat) :
    Nat → DownloadTask σ → Except DriverError DownloadReport × DownloadTask σ
  | 0, task => (.error (.timeout idle), task)
  | budget + 1, task =>
    match task.state, task.inbox with
    | .complete, _ => (.ok task.report, task)
    | .error, _ =>
      (.error (task.failure.getD (.invalidState "DFU task in Error")),
        { task with failure := none })
    | _, [] => (.error (.timeout idle), task)
    | _, message :: rest =>
      runWithin idle budget ({ task with inbox := rest }.receive host listener message)

/-- How many messages a run may handle. Between two events of the host the task downloads the image
once and reads it back once, octet by octet at worst, with a status request after each transfer. -/
def messageBudget (task : DownloadTask σ) : Nat :=
  (task.inbox.length + 1) * (4 * task.image.length + 16)

/-- Handles messages until the download has ended, or none has come for `idle` milliseconds. -/
def run (idle : Nat) (task : DownloadTask σ) : Except DriverError DownloadReport × DownloadTask σ :=
  task.runWithin host listener idle task.messageBudget

/-- A task that has failed stays as it is. -/
theorem fail_error (error : DriverError) {task : DownloadTask σ} (failed : task.state = .error) :
    task.fail host listener error = task := by
  simp [fail, failed]

/-- A task that is complete handles no further message. -/
theorem run_complete (idle : Nat) {task : DownloadTask σ} (ended : task.state = .complete) :
    task.run host listener idle = (.ok task.report, task) := by
  have budget : task.messageBudget = (task.messageBudget - 1) + 1 := by
    have : 0 < task.messageBudget := Nat.mul_pos (by omega) (by omega)
    omega
  rw [run, budget]
  simp [runWithin, ended]

/-- A task that has failed handles no further message, and tells the caller why. -/
theorem run_error (idle : Nat) {task : DownloadTask σ} (ended : task.state = .error) :
    task.run host listener idle =
      (.error (task.failure.getD (.invalidState "DFU task in Error")),
        { task with failure := none }) := by
  have budget : task.messageBudget = (task.messageBudget - 1) + 1 := by
    have : 0 < task.messageBudget := Nat.mul_pos (by omega) (by omega)
    omega
  rw [run, budget]
  simp [runWithin, ended]

end

/-- Exactly the images of 1 to 16776960 octets are taken. -/
theorem new_eq_ok_iff (world : σ) (image : Bytes) (task : DownloadTask σ) :
    new world image = .ok task ↔
      (0 < image.length ∧ image.length ≤ maxImageSize) ∧ task = { world, image } := by
  unfold new
  by_cases empty : image = []
  · simp [empty]
  · have positive : 0 < image.length := List.length_pos_iff.2 empty
    have present : image.isEmpty = false := by simp [empty]
    rw [present]
    simp only [Bool.false_eq_true, if_false]
    split
    · rename_i large
      constructor
      · intro made; cases made
      · intro made; exact absurd made.1.2 (Nat.not_le.2 large)
    · rename_i small
      constructor
      · intro made; cases made; exact ⟨⟨positive, Nat.not_lt.1 small⟩, rfl⟩
      · intro made; rw [made.2]

end DownloadTask

end TensorLink

import TensorLink.Proofs.Download.Loader
import TensorLink.Proofs.Download.Steps
import TensorLink.Simulation.Controller
import TensorLink.Simulation.Device

/-!
# A download at a simulated loader

A simulated loader answers every request at once, so the task always has one message to handle: the
answer to the request of its state. A `Moment` is all that changes in between; `quiet` and `waiting`
are the task at a moment, before and after the answer has been queued.

Results:
* `enter_quiet`: entering a state makes its request, and the answer is queued.
* `leads_of_enter`, `Leads.trans`: the way from one moment to another, message by message.
* `runWithin_attach`, `runWithin_finish`, `runWithin_mismatch`: how a run begins and ends.
-/

namespace TensorLink.DownloadTask

open Sequencing Simulation

/-- The task has not ended. -/
def Running {σ : Type} (task : DownloadTask σ) : Prop :=
  task.state ≠ .complete ∧ task.state ≠ .error

instance {σ : Type} (task : DownloadTask σ) : Decidable (Running task) :=
  inferInstanceAs (Decidable (_ ∧ _))

/-- A task that has not ended handles the oldest message. -/
theorem runWithin_cons {σ : Type} (host : Host DownloadState σ) (listener : Listener σ)
    (idle budget : Nat) {task : DownloadTask σ} {message : DownloadMessage}
    {rest : List DownloadMessage} (hrunning : Running task)
    (hinbox : task.inbox = message :: rest) :
    task.runWithin host listener idle (budget + 1) =
      ({ task with inbox := rest }.receive host listener message).runWithin host listener idle
        budget := by
  rw [runWithin.eq_def]
  dsimp only
  split
  · rename_i hstate
    exact absurd hstate hrunning.1
  · rename_i hstate
    exact absurd hstate hrunning.2
  · rename_i hnil _ _
    rw [hinbox] at hnil
    cases hnil
  · rename_i hcons _ _
    rw [hinbox] at hcons
    cases hcons
    rfl

section

variable {σ : Type} {reply : Bytes} {task : DownloadTask σ}

/-- A reply that a state does not take makes the task fail. -/
theorem receive_eq_fail (host : Host DownloadState σ) (listener : Listener σ)
    {message : DownloadMessage} {task' : DownloadTask σ} {error : DriverError}
    (hmessage : message = .completed task.state (.ok reply))
    (hcompleted : completed task.state reply task = .error error task') :
    task.receive host listener message = task'.fail host listener error := by
  subst hmessage
  have hbind : (DeviceM.ofExcept (.ok reply) >>= completed task.state) task =
      .error error task' := hcompleted
  change (if task.state ≠ task.state then _ else _) = _
  rw [if_neg (not_not_intro rfl), hbind]

theorem completed_getStatus (hstatus : checkStatus reply = .ok ()) :
    completed .getStatus reply task =
      .ok (some (if task.position < task.image.length then .transfer else .zeroLengthTransfer))
        task :=
  bind_eq_ok_iff.mpr ⟨(), task, ofExcept_eq_ok_iff.mpr ⟨hstatus, rfl⟩, rfl⟩

theorem completed_readBack {task' : DownloadTask σ} (h : takeUpload reply task = .ok () task') :
    completed .readBack reply task = .ok (some .getStatusRead) task' :=
  bind_eq_ok_iff.mpr ⟨(), task', h, rfl⟩

theorem completed_getStatusRead_of_lt (hstatus : checkStatus reply = .ok ())
    (hposition : task.position < task.image.length) :
    completed .getStatusRead reply task = .ok (some .readBack) task := by
  refine bind_eq_ok_iff.mpr ⟨(), task, ofExcept_eq_ok_iff.mpr ⟨hstatus, rfl⟩, ?_⟩
  rw [get_bind, if_pos hposition]
  rfl

theorem completed_getStatusRead_of_le (hstatus : checkStatus reply = .ok ())
    (hposition : task.image.length ≤ task.position) :
    completed .getStatusRead reply task =
      (verify >>= fun _ => pure (some .detach) : DeviceM _ _) task := by
  unfold completed
  dsimp only
  rw [hstatus]
  change (if task.position < task.image.length then _ else _ : DeviceM (DownloadTask σ) _) task = _
  rw [if_neg (Nat.not_lt.mpr hposition)]

theorem completed_checkStatus (hstatus : checkStatus reply = .ok ()) :
    completed .checkStatus reply task = .ok (some .complete) task :=
  bind_eq_ok_iff.mpr ⟨(), task, ofExcept_eq_ok_iff.mpr ⟨hstatus, rfl⟩, rfl⟩

end

/-- A host with one simulated device. -/
abbrev LoaderWorld := Controller DownloadState Device

/-- The host of a simulated device. -/
abbrev loaderHost : Host DownloadState LoaderWorld := Controller.host Device.model

/-- The listener of a simulated host. -/
abbrev loaderListener : Listener LoaderWorld := Controller.listener

/-- A host with a loader that holds nothing; the octet at `corrupt` comes back inverted. -/
def freshWorld (corrupt : Option Nat) : LoaderWorld :=
  { transport := { device := .loader { corrupt } } }

/-- The control requests with a given code, in order: the value and the octets of each. -/
def requestsOf (code : UInt8) (calls : List TransportCall) : List (Nat × Bytes) :=
  calls.reverse.filterMap fun call =>
    match call with
    | .control setup data => if setup.request = code then some (setup.value.toNat, data) else none
    | _ => none

/-! ## A task that waits for an answer -/

/-- What changes in the course of a download. -/
structure Moment where
  state : DownloadState
  /-- The answer to the request of the state. -/
  reply : Bytes
  loader : Loader
  /-- The calls of the transport, the latest first. -/
  calls : List TransportCall
  block : UInt16
  position : Nat
  pending : Nat
  readback : Option Bytes
  releases : Nat
  /-- The states entered so far, the latest first. -/
  history : List DownloadState

namespace Moment

/-- The moment after a state has been entered. -/
def entering (state : DownloadState) (m : Moment) : Moment :=
  { m with state, history := state :: m.history }

/-- The moment after a request has been answered. -/
def answered (m : Moment) (setup : SetupPacket) (data reply : Bytes) (loader : Loader) : Moment :=
  { m with reply, loader, calls := .control setup data :: m.calls }

end Moment

section

variable (image : Bytes) (interface : Interface) (failure : Option DriverError)

/-- The task at a moment, with no message to handle. -/
def quiet (m : Moment) : DownloadTask LoaderWorld where
  world :=
    { transport := { device := .loader m.loader, calls := m.calls }
      opened := 1
      calls := [.openClass interface.number] }
  image
  state := m.state
  interface := some interface
  handle := some ⟨1⟩
  block := m.block
  position := m.position
  pending := m.pending
  readback := m.readback
  releases := m.releases
  history := m.history
  failure

/-- The task at a moment, with the answer to its request to handle. -/
def waiting (m : Moment) : DownloadTask LoaderWorld :=
  { quiet image interface failure m with inbox := [.completed m.state (.ok m.reply)] }

variable {image interface failure}

theorem submit_quiet {m : Moment} {setup : UInt16 → SetupPacket} {data reply : Bytes}
    {loader : Loader}
    (h : Loader.control (setup interface.number.toUInt16) data m.loader = .ok reply loader) :
    submit loaderHost m.state setup data (quiet image interface failure m) =
      .ok () (waiting image interface failure
        (m.answered (setup interface.number.toUInt16) data reply loader)) := by
  have hcontrol : (loaderHost.transport ⟨1⟩).control m.state (setup interface.number.toUInt16) data
      (quiet image interface failure m).world =
      (.completed (.ok reply), (quiet image interface failure
        (m.answered (setup interface.number.toUInt16) data reply loader)).world) := by
    have hdevice : (Device.model.control (setup interface.number.toUInt16) data).outcome
        (.loader m.loader) = (.ok reply, .loader loader) := by
      simp [DeviceM.outcome, Device.model, Device.dispatch, Loader.model, h]
    simp [Controller.host, Transport.within, Part.run, Controller.bus, quiet, Scripted.transport,
      Scripted.next, Scripted.dropControl, Scripted.note, Scripted.follow, hdevice,
      Moment.answered]
  rw [submit_eq loaderHost m.state setup data rfl rfl, hcontrol]
  rfl

/-- The request for a status. -/
def statusRequest (interface : Interface) : SetupPacket :=
  DfuRequest.input DfuRequest.getStatus 0 interface.number.toUInt16 (UInt16.ofNat DfuStatus.size)

/-- The moment after a state has been entered on whose entry the status is asked for. -/
def Moment.asked (interface : Interface) (state : DownloadState) (m : Moment) : Moment :=
  (m.entering state).answered (statusRequest interface) [] m.loader.status.encode
    (m.loader.traced DfuRequest.getStatus 0 6)

/-- A state on whose entry a request is made and answered. -/
theorem enter_quiet (m m' : Moment) (setup : UInt16 → SetupPacket) {data reply : Bytes}
    {loader : Loader}
    (hentry : onEntry loaderHost m'.state (quiet image interface failure (m.entering m'.state)) =
      submit loaderHost m'.state setup data (quiet image interface failure m'))
    (h : Loader.control (setup interface.number.toUInt16) data m'.loader = .ok reply loader) :
    (quiet image interface failure m).enter loaderHost loaderListener m'.state =
      waiting image interface failure
        (m'.answered (setup interface.number.toUInt16) data reply loader) := by
  unfold enter
  rw [show (quiet image interface failure m).goto m'.state =
    quiet image interface failure (m.entering m'.state) from rfl, hentry, submit_quiet h]

theorem enter_asked {state : DownloadState}
    (hstate : state = .getStatus ∨ state = .getStatusRead ∨ state = .checkStatus) (m : Moment) :
    (quiet image interface failure m).enter loaderHost loaderListener state =
      waiting image interface failure (m.asked interface state) := by
  obtain rfl | rfl | rfl := hstate <;>
    exact enter_quiet m (m.entering _) (fun number => DfuRequest.input DfuRequest.getStatus 0 number
      (UInt16.ofNat DfuStatus.size)) rfl (Loader.control_getStatus _ _ _ _)

variable (image interface failure)

/-- From a moment the task comes to another one by handling so many messages. -/
def Leads (count : Nat) (m m' : Moment) : Prop :=
  ∀ idle budget, (waiting image interface failure m).runWithin loaderHost loaderListener idle
      (budget + count) =
    (waiting image interface failure m').runWithin loaderHost loaderListener idle budget

variable {image interface failure}

theorem Leads.trans {count count' : Nat} {m m' m'' : Moment}
    (h : Leads image interface failure count m m')
    (h' : Leads image interface failure count' m' m'') :
    Leads image interface failure (count' + count) m m'' := by
  intro idle budget
  rw [← Nat.add_assoc, h, h']

/-- The answer that waits is handled, and the next state is entered. -/
theorem leads_of_enter {m m' : Moment} (next : DownloadState) (task : DownloadTask LoaderWorld)
    (hlive : m.state ≠ .complete ∧ m.state ≠ .error)
    (hcompleted : completed m.state m.reply (quiet image interface failure m) =
      .ok (some next) task)
    (henter : task.enter loaderHost loaderListener next = waiting image interface failure m') :
    Leads image interface failure 1 m m' := by
  intro idle budget
  have hreceive : (quiet image interface failure m).receive loaderHost loaderListener
      (.completed m.state (.ok m.reply)) = task.enter loaderHost loaderListener next :=
    receive_eq_enter loaderHost loaderListener rfl hcompleted
  have hrunning : Running (waiting image interface failure m) := hlive
  rw [runWithin_cons loaderHost loaderListener idle budget hrunning rfl, ← henter, ← hreceive]
  rfl

/-! ## Attaching -/

/-- The moment after a fresh loader has been attached and its interface has been selected. -/
def Moment.attached (corrupt : Option Nat) (interface : Interface)
    (task : DownloadTask LoaderWorld) : Moment where
  state := .setInterface
  reply := []
  loader := { corrupt }
  calls := [.control (SetupPacket.setInterface interface.number.toUInt16 0) []]
  block := task.block
  position := task.position
  pending := task.pending
  readback := task.readback
  releases := task.releases
  history := .setInterface :: .attached :: task.history

theorem enterAttached_fresh {corrupt : Option Nat} {task : DownloadTask LoaderWorld}
    (hworld : task.world = freshWorld corrupt) (hinterface : task.interface = some interface)
    (hinbox : task.inbox = []) (hretired : task.retired = false) :
    task.enterAttached loaderHost loaderListener =
      waiting task.image interface task.failure (Moment.attached corrupt interface task) := by
  obtain ⟨world, image, state, attached, handle, block, position, pending, readback, releases,
    history, failure, inbox, retired⟩ := task
  dsimp only at hworld hinterface hinbox hretired
  subst hworld hinterface hinbox hretired
  let opened : Moment :=
    { state := .attached, reply := [], loader := { corrupt }, calls := [], block, position, pending,
      readback, releases, history := .attached :: history }
  exact enter_quiet opened (opened.entering .setInterface) (SetupPacket.setInterface · 0) rfl
    (Loader.control_setInterface _ _ _)

/-- A fresh loader is attached and enumerated. -/
theorem runWithin_attach (idle budget : Nat) {corrupt : Option Nat}
    {task : DownloadTask LoaderWorld} {interfaces : List Interface}
    (hrunning : Running task)
    (hworld : task.world = freshWorld corrupt)
    (hfound : Interface.findDownload? interfaces = some interface)
    (hinbox : task.inbox = [.host (.attach interfaces), .host .enumerationDone])
    (hretired : task.retired = false) :
    task.runWithin loaderHost loaderListener idle (budget + 2) =
      (waiting task.image interface task.failure
        (Moment.attached corrupt interface task)).runWithin loaderHost loaderListener idle
          budget := by
  rw [runWithin_cons loaderHost loaderListener idle (budget + 1) hrunning hinbox]
  let found : DownloadTask LoaderWorld :=
    { task with inbox := [.host .enumerationDone], interface := Interface.findDownload? interfaces }
  let enumerated : DownloadTask LoaderWorld := { found with inbox := [] }
  have hreceive : enumerated.receive loaderHost loaderListener (.host .enumerationDone) =
      enumerated.enterAttached loaderHost loaderListener := by
    change (if (Interface.findDownload? interfaces).isSome then _ else _) = _
    rw [if_pos (by rw [hfound]; rfl)]
  have henter : enumerated.enterAttached loaderHost loaderListener = waiting task.image interface
      task.failure (Moment.attached corrupt interface enumerated) :=
    enterAttached_fresh hworld hfound rfl hretired
  change found.runWithin loaderHost loaderListener idle (budget + 1) = _
  rw [runWithin_cons loaderHost loaderListener idle budget
    (show Running found from hrunning) rfl]
  exact congrArg (runWithin loaderHost loaderListener idle budget) (hreceive.trans henter)

theorem leads_setInterface {m : Moment} (hstate : m.state = .setInterface) :
    Leads image interface failure 1 m (m.asked interface .getStatus) := by
  refine leads_of_enter .getStatus (quiet image interface failure m)
    (by simp [hstate]) ?_ (enter_asked (.inl rfl) m)
  rw [hstate]
  rfl

/-! ## Downloading -/

/-- The moment after a block has been downloaded. -/
def Moment.transferred (image : Bytes) (interface : Interface) (m : Moment) : Moment :=
  let pending := min (image.length - m.position) DfuRequest.blockSize
  let data := (image.drop m.position).take pending
  { m.entering .transfer with pending }.answered
    (DfuRequest.output DfuRequest.download m.block interface.number.toUInt16 (UInt16.ofNat pending))
    data [] ({ m.loader with
      flash := m.loader.program m.block data, state := Loader.downloadIdle }.traced
        DfuRequest.download m.block data.length)

theorem leads_transfer {m : Moment} (hstate : m.state = .getStatus)
    (hstatus : checkStatus m.reply = .ok ()) (hposition : m.position < image.length) :
    Leads image interface failure 1 m (m.transferred image interface) := by
  refine leads_of_enter .transfer (quiet image interface failure m)
    (by simp [hstate]) ?_ ?_
  · rw [hstate, completed_getStatus hstatus]
    change EStateM.Result.ok (some (if m.position < image.length then _ else _)) _ = _
    rw [if_pos hposition]
  · have hdata : (image.drop m.position).take
        (min (image.length - m.position) DfuRequest.blockSize) ≠ [] := by
      rw [← List.length_pos_iff, List.length_take, List.length_drop,
        show DfuRequest.blockSize = 256 from rfl]
      omega
    exact enter_quiet m { m.entering .transfer with
      pending := min (image.length - m.position) DfuRequest.blockSize }
      (fun number => DfuRequest.output DfuRequest.download m.block number
        (UInt16.ofNat (min (image.length - m.position) DfuRequest.blockSize))) rfl
      (Loader.control_download _ _ _ _ hdata)

/-- The moment after a block has been acknowledged. -/
def Moment.acknowledged (interface : Interface) (m : Moment) : Moment :=
  Moment.asked interface .getStatus
    { m with block := m.block + 1, position := m.position + m.pending }

theorem leads_acknowledge {m : Moment} (hstate : m.state = .transfer) :
    Leads image interface failure 1 m (m.acknowledged interface) := by
  refine leads_of_enter .getStatus (quiet image interface failure
      { m with block := m.block + 1, position := m.position + m.pending })
    (by simp [hstate]) ?_
    (enter_asked (.inl rfl) _)
  exact (congrArg (completed · m.reply (quiet image interface failure m)) hstate).trans rfl

/-- The moment after the empty block has been downloaded. -/
def Moment.ended (interface : Interface) (m : Moment) : Moment :=
  (m.entering .zeroLengthTransfer).answered
    (DfuRequest.output DfuRequest.download m.block interface.number.toUInt16 0) [] []
    ({ m.loader with manifested := true, state := Loader.manifesting }.traced
      DfuRequest.download m.block 0)

theorem leads_end {m : Moment} (hstate : m.state = .getStatus)
    (hstatus : checkStatus m.reply = .ok ()) (hposition : image.length ≤ m.position) :
    Leads image interface failure 1 m (m.ended interface) := by
  refine leads_of_enter .zeroLengthTransfer (quiet image interface failure m)
    (by simp [hstate]) ?_ ?_
  · rw [hstate, completed_getStatus hstatus]
    change EStateM.Result.ok (some (if m.position < image.length then _ else _)) _ = _
    rw [if_neg (Nat.not_lt.mpr hposition)]
  · exact enter_quiet m (m.entering .zeroLengthTransfer)
      (fun number => DfuRequest.output DfuRequest.download m.block number 0) rfl
      (Loader.control_endDownload _ _ _ _)

/-! ## Reading back -/

/-- The moment after a block has been uploaded. -/
def Moment.uploaded (image : Bytes) (interface : Interface) (m : Moment) : Moment :=
  let pending := min (image.length - m.position) DfuRequest.blockSize
  let reply := m.loader.upload m.block (UInt16.ofNat pending).toNat
  { m.entering .readBack with pending, readback := some (m.readback.getD []) }.answered
    (DfuRequest.input DfuRequest.upload m.block interface.number.toUInt16 (UInt16.ofNat pending))
    [] reply ({ m.loader with state := Loader.uploadIdle }.traced
      DfuRequest.upload m.block reply.length)

theorem enter_readBack (m : Moment) :
    (quiet image interface failure m).enter loaderHost loaderListener .readBack =
      waiting image interface failure (m.uploaded image interface) :=
  enter_quiet m { m.entering .readBack with
      pending := min (image.length - m.position) DfuRequest.blockSize
      readback := some (m.readback.getD []) }
    (fun number => DfuRequest.input DfuRequest.upload m.block number
      (UInt16.ofNat (min (image.length - m.position) DfuRequest.blockSize))) rfl
    (Loader.control_upload _ _ _ _)

theorem leads_readBack {m : Moment} (hstate : m.state = .zeroLengthTransfer) :
    Leads image interface failure 1 m
      (Moment.uploaded image interface { m with block := 0, position := 0 }) := by
  refine leads_of_enter .readBack
    (quiet image interface failure { m with block := 0, position := 0 })
    (by simp [hstate]) ?_ (enter_readBack _)
  exact (congrArg (completed · m.reply (quiet image interface failure m)) hstate).trans rfl

theorem leads_readOn {m : Moment} (hstate : m.state = .getStatusRead)
    (hstatus : checkStatus m.reply = .ok ()) (hposition : m.position < image.length) :
    Leads image interface failure 1 m (m.uploaded image interface) := by
  refine leads_of_enter .readBack (quiet image interface failure m)
    (by simp [hstate]) ?_ (enter_readBack m)
  rw [hstate]
  exact completed_getStatusRead_of_lt hstatus hposition

/-- The moment after what an upload has returned has been taken in. -/
def Moment.taken (interface : Interface) (m : Moment) : Moment :=
  Moment.asked interface .getStatusRead
    { m with
      readback := some (m.readback.getD [] ++ m.reply)
      block := m.block + 1
      position := m.position + m.reply.length }

theorem leads_take {m : Moment} (hstate : m.state = .readBack) {buffer : Bytes}
    (hreadback : m.readback = some buffer) (hreply : m.reply.length ≠ 0)
    (hpending : m.reply.length ≤ m.pending) :
    Leads image interface failure 1 m (m.taken interface) := by
  refine leads_of_enter .getStatusRead _ (by simp [hstate]) ?_ (enter_asked (.inr (.inl rfl)) _)
  refine (congrArg (completed · m.reply (quiet image interface failure m)) hstate).trans
    (completed_readBack (takeUpload_eq_ok_iff.mpr ⟨⟨hreply, hpending⟩, buffer, hreadback, ?_⟩))
  rw [hreadback]
  rfl

/-! ## Verifying and finishing -/

/-- The moment after a comparison. -/
def Moment.compared (m : Moment) : Moment :=
  { m with readback := none, releases := m.releases + 1, block := 0, position := 0 }

/-- The moment after the loader has been told to detach. -/
def Moment.detached (interface : Interface) (m : Moment) : Moment :=
  (m.entering .detach).answered
    (DfuRequest.output DfuRequest.detach DfuRequest.detachTimeout interface.number.toUInt16 0) [] []
    ({ m.loader with detached := true }.traced DfuRequest.detach DfuRequest.detachTimeout 0)

theorem leads_detach {m : Moment} (hstate : m.state = .getStatusRead)
    (hstatus : checkStatus m.reply = .ok ()) (hposition : image.length ≤ m.position)
    (hequal : m.readback.getD [] = image) :
    Leads image interface failure 1 m (m.compared.detached interface) := by
  refine leads_of_enter .detach (quiet image interface failure m.compared)
    (by simp [hstate]) ?_
    (enter_quiet m.compared (m.compared.entering .detach)
      (fun number => DfuRequest.output DfuRequest.detach DfuRequest.detachTimeout number 0) rfl
      (Loader.control_detach _ _ _))
  rw [hstate, completed_getStatusRead_of_le hstatus hposition]
  exact bind_eq_ok_iff.mpr ⟨(), _, verify_eq_ok_iff.mpr ⟨hequal, rfl⟩, rfl⟩

theorem leads_checkStatus {m : Moment} (hstate : m.state = .detach) :
    Leads image interface failure 1 m (m.asked interface .checkStatus) := by
  refine leads_of_enter .checkStatus (quiet image interface failure m)
    (by simp [hstate]) ?_ (enter_asked (.inr (.inr rfl)) m)
  rw [hstate]
  rfl

variable (image interface failure) in
/-- The task after a download has ended. -/
def finished (m : Moment) : DownloadTask LoaderWorld :=
  { quiet image interface failure (m.entering .complete) with
    handle := none
    world :=
      { transport := { device := .loader m.loader, calls := m.calls }
        opened := 1
        closed := 1
        resets := 1
        reenumerations := 1
        calls := [.requestReenumeration, .closeClass interface.number, .resetBus,
          .openClass interface.number] } }

theorem runWithin_finish (idle budget : Nat) {m : Moment} (hstate : m.state = .checkStatus)
    (hstatus : checkStatus m.reply = .ok ()) :
    (waiting image interface failure m).runWithin loaderHost loaderListener idle (budget + 2) =
      (.ok ⟨image.length, (DownloadState.complete :: m.history).reverse, m.releases⟩,
        finished image interface failure m) := by
  have hcompleted : completed m.state m.reply (quiet image interface failure m) =
      .ok (some .complete) (quiet image interface failure m) := by
    rw [hstate]
    exact completed_checkStatus hstatus
  have hreceive : (quiet image interface failure m).receive loaderHost loaderListener
      (.completed m.state (.ok m.reply)) =
        (quiet image interface failure m).enter loaderHost loaderListener .complete :=
    receive_eq_enter loaderHost loaderListener rfl hcompleted
  have henter : (quiet image interface failure m).enter loaderHost loaderListener .complete =
      finished image interface failure m := rfl
  rw [runWithin_cons loaderHost loaderListener idle (budget + 1)
    (by simp [Running, waiting, quiet, hstate]) rfl]
  exact (congrArg (runWithin loaderHost loaderListener idle (budget + 1))
    (hreceive.trans henter)).trans rfl

variable (image interface) in
/-- The task after a download has failed, and its caller has been told. -/
def failed (m : Moment) : DownloadTask LoaderWorld :=
  { quiet image interface none (m.entering .error) with
    handle := none
    world :=
      { transport := { device := .loader m.loader, calls := m.calls }
        opened := 1
        closed := 1
        calls := [.failed, .closeClass interface.number, .openClass interface.number] } }

theorem runWithin_mismatch (idle budget : Nat) {m : Moment} (hstate : m.state = .getStatusRead)
    (hstatus : checkStatus m.reply = .ok ()) (hposition : image.length ≤ m.position) {offset : Nat}
    (hdifference : firstDifference image (m.readback.getD []) = some offset) :
    (waiting image interface failure m).runWithin loaderHost loaderListener idle (budget + 2) =
      (.error (.firmwareMismatch offset), failed image interface m.compared) := by
  have hverify : verify (quiet image interface failure m) =
      .error (.firmwareMismatch offset) (quiet image interface failure m.compared) :=
    verify_of_difference hdifference
  have hcompleted : completed m.state m.reply (quiet image interface failure m) =
      .error (.firmwareMismatch offset) (quiet image interface failure m.compared) := by
    rw [hstate, completed_getStatusRead_of_le hstatus hposition]
    exact bind_of_error hverify
  have hreceive : (quiet image interface failure m).receive loaderHost loaderListener
      (.completed m.state (.ok m.reply)) =
        (quiet image interface failure m.compared).fail loaderHost loaderListener
          (.firmwareMismatch offset) := receive_eq_fail loaderHost loaderListener rfl hcompleted
  rw [runWithin_cons loaderHost loaderListener idle (budget + 1)
    (by simp [Running, waiting, quiet, hstate]) rfl]
  refine (congrArg (runWithin loaderHost loaderListener idle (budget + 1)) hreceive).trans ?_
  have hlive : (quiet image interface failure m.compared).state ≠ .error := by
    change m.state ≠ .error
    simp [hstate]
  unfold fail
  rw [if_neg hlive]
  rfl

end

end TensorLink.DownloadTask

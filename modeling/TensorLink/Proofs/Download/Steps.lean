import TensorLink.Proofs.Sequencing
import TensorLink.Task.Download

/-!
# What a message does to a download

Results:
* `receive_state`: what a message does to the state and to the states entered so far: nothing, or it
  enters a state, or two of them on a way that starts at `attached` or ends at `error`.
-/

namespace TensorLink.DownloadTask

open Sequencing

variable {σ : Type}

/-! ## The operations -/

/-- What a submission that has an interface and a class driver does. -/
theorem submit_eq (host : Host DownloadState σ) (request : DownloadState)
    (setup : UInt16 → SetupPacket) (data : Bytes) {task : DownloadTask σ} {number : UInt16}
    {handle : ClassHandle} (hnumber : task.interfaceNumber = .ok number)
    (hhandle : task.handle = some handle) :
    submit host request setup data task =
      match (host.transport handle).control request (setup number) data task.world with
      | (.refused error, world) => .error error { task with world }
      | (.pending, world) => .ok () { task with world }
      | (.completed result, world) => .ok () ({ task with world }.deliver request result) := by
  unfold submit
  rw [hnumber, hhandle]
  cases hmade : (host.transport handle).control request (setup number) data task.world with
  | mk submission world => cases submission <;> simp only [hmade]

theorem openClass_none (host : Host DownloadState σ) {task : DownloadTask σ}
    (hinterface : task.interface = none) :
    openClass host task = .error .notConnected task := by
  unfold openClass
  rw [get_bind, hinterface]
  rfl

theorem openClass_some (host : Host DownloadState σ) {task : DownloadTask σ}
    {interface : Interface}
    (hinterface : task.interface = some interface) :
    openClass host task = (do
      let handle ← around.focus (host.openClass interface)
      modify fun task => { task with handle := some handle } : DeviceM (DownloadTask σ) Unit)
        task := by
  unfold openClass
  rw [get_bind, hinterface]

theorem takeUpload_eq_ok_iff {reply : Bytes} {task task' : DownloadTask σ} :
    takeUpload reply task = .ok () task' ↔
      (reply.length ≠ 0 ∧ reply.length ≤ task.pending) ∧ ∃ buffer, task.readback = some buffer ∧
        task' = { task with
          readback := some (buffer ++ reply)
          block := task.block + 1
          position := task.position + reply.length } := by
  unfold takeUpload
  rw [get_bind]
  dsimp only
  split <;> rename_i hlength
  · exact iff_of_false throw_ne_ok (fun h => by omega)
  · rw [and_iff_right (by omega)]
    cases task.readback with
    | none => simp [throw_ne_ok]
    | some buffer =>
      rw [set_eq_ok_iff]
      exact ⟨fun h => ⟨buffer, rfl, h.symm⟩, by rintro ⟨_, ⟨⟩, rfl⟩; rfl⟩

theorem verify_eq (task : DownloadTask σ) :
    verify task =
      let compared : DownloadTask σ :=
        { task with readback := none, releases := task.releases + 1, block := 0, position := 0 }
      match firstDifference task.image (task.readback.getD []) with
      | none => .ok () compared
      | some offset => .error (.firmwareMismatch offset) compared := by
  unfold verify
  rw [get_bind]
  cases firstDifference task.image (task.readback.getD []) <;> rfl

theorem firstDifference_eq_none_iff {a b : Bytes} : firstDifference a b = none ↔ a = b := by
  induction a generalizing b with
  | nil => cases b <;> simp [firstDifference]
  | cons x a ih =>
    cases b with
    | nil => simp [firstDifference]
    | cons y b =>
      rw [firstDifference, List.cons.injEq]
      split <;> rename_i hxy
      · rw [Option.map_eq_none_iff, ih, and_iff_right hxy]
      · exact iff_of_false (by simp) (fun h => hxy h.1)

theorem verify_eq_ok_iff {task task' : DownloadTask σ} :
    verify task = .ok () task' ↔ task.readback.getD [] = task.image ∧
      task' = { task with
        readback := none, releases := task.releases + 1, block := 0, position := 0 } := by
  rw [verify_eq]
  dsimp only
  split <;> rename_i h
  · rw [firstDifference_eq_none_iff] at h
    rw [EStateM.Result.ok.injEq, and_iff_right h.symm, and_iff_right rfl, eq_comm]
  · refine iff_of_false (by simp) (fun h' => ?_)
    rw [firstDifference_eq_none_iff.mpr h'.1.symm] at h
    cases h

theorem verify_of_difference {task : DownloadTask σ} {offset : Nat}
    (h : firstDifference task.image (task.readback.getD []) = some offset) :
    verify task = .error (.firmwareMismatch offset)
      { task with readback := none, releases := task.releases + 1, block := 0, position := 0 } := by
  rw [verify_eq]
  simp only [h]

/-! ## What entering a state keeps -/

section Entry

variable {γ : Type} (host : Host DownloadState σ) (listener : Listener σ)

theorem keeps_focus {α : Type} {f : DownloadTask σ → γ} (operation : DeviceM σ α)
    (hf : ∀ (task : DownloadTask σ) (world : σ), f { task with world } = f task) :
    Keeps f (around.focus operation) := by
  intro task
  unfold Part.focus
  cases operation (around.look task) <;> exact hf task _

theorem keeps_modify {f : DownloadTask σ → γ} {change : DownloadTask σ → DownloadTask σ}
    (hf : ∀ task, f (change task) = f task) : Keeps f (modify change : DeviceM _ Unit) :=
  fun task => hf task

/-- A submission keeps what does not depend on the world and on the queue. -/
theorem keeps_submit {f : DownloadTask σ → γ} (request : DownloadState)
    (setup : UInt16 → SetupPacket) (data : Bytes)
    (hf : ∀ (task : DownloadTask σ) (world : σ) (inbox : List DownloadMessage),
      f { task with world, inbox } = f task) : Keeps f (submit host request setup data) := by
  intro task
  have hdeliver : ∀ (world : σ) (result : Except DriverError Bytes),
      f (deliver request result { task with world }) = f task := by
    intro world result
    unfold deliver
    split
    · exact hf task world task.inbox
    · exact hf task world _
  cases hnumber : task.interfaceNumber with
  | error error => unfold submit; rw [hnumber]; rfl
  | ok number =>
    cases hhandle : task.handle with
    | none => unfold submit; rw [hnumber, hhandle]; rfl
    | some handle =>
      rw [submit_eq host request setup data hnumber hhandle]
      rcases (host.transport handle).control request (setup number) data task.world with
        ⟨_ | _ | result, world⟩
      · exact hf task world task.inbox
      · exact hf task world task.inbox
      · exact hdeliver world result

/-- What is done on entry changes the world, the queue, the class driver and the octets on their
    way, and for `readBack` the readback. -/
theorem keeps_onEntry {f : DownloadTask σ → γ} (state : DownloadState)
    (hf : ∀ (task : DownloadTask σ) (world : σ) (inbox : List DownloadMessage)
      (handle : Option ClassHandle) (pending : Nat),
      f { task with world, inbox, handle, pending } = f task)
    (hread : state = .readBack → ∀ (task : DownloadTask σ) (readback : Option Bytes),
      f { task with readback } = f task) : Keeps f (onEntry host state) := by
  have hclose : ∀ task, f (close host task) = f task := by
    intro task
    unfold close
    split <;> exact hf task _ task.inbox none task.pending
  have hworld : ∀ (task : DownloadTask σ) (world : σ), f { task with world } = f task :=
    fun task world => hf task world task.inbox task.handle task.pending
  have hsubmit : ∀ (request : DownloadState) (setup : UInt16 → SetupPacket) (data : Bytes),
      Keeps f (submit host request setup data) := fun request setup data =>
    keeps_submit host request setup data fun task world inbox =>
      hf task world inbox task.handle task.pending
  cases state with
  | unattached => exact keeps_modify hclose
  | attached =>
    intro task
    change f (left (openClass host task)) = f task
    cases hinterface : task.interface with
    | none => rw [openClass_none host hinterface]; rfl
    | some interface =>
      rw [openClass_some host hinterface]
      exact ((keeps_focus _ hworld).bind fun handle => keeps_modify fun task =>
        hf task task.world task.inbox (some handle) task.pending) task
  | transfer =>
    intro task
    exact (hsubmit _ _ _ { task with pending := task.nextUnit }).trans
      (hf task task.world task.inbox task.handle task.nextUnit)
  | zeroLengthTransfer => exact fun task => hsubmit _ _ _ task
  | readBack =>
    intro task
    exact (hsubmit _ _ _ { task with
      pending := task.nextUnit, readback := some (task.readback.getD []) }).trans
        ((hread rfl { task with pending := task.nextUnit } _).trans
          (hf task task.world task.inbox task.handle task.nextUnit))
  | complete =>
    exact (keeps_focus _ hworld).bind fun _ => (keeps_modify hclose).bind fun _ =>
      keeps_focus _ hworld
  | error => exact Keeps.pure ()
  | _ => exact hsubmit _ _ _

/-- The image, the state, and the states entered so far. -/
def ledger (task : DownloadTask σ) : Bytes × DownloadState × List DownloadState :=
  (task.image, task.state, task.history)

/-- Reading back goes on in the buffer that there is, or in an empty one. -/
theorem readback_onEntry_readBack (task : DownloadTask σ) :
    (left (onEntry host .readBack task)).readback = some (task.readback.getD []) :=
  keeps_submit host _ _ _ (fun _ _ _ => rfl)
    { task with pending := task.nextUnit, readback := some (task.readback.getD []) }

/-- The task has failed after it had entered the states `entered`, the latest first. -/
structure Failed (entered : List DownloadState) (task task' : DownloadTask σ) : Prop where
  image_eq : task'.image = task.image
  state_eq : task'.state = .error
  history_eq : task'.history = .error :: entered ++ task.history
  readback_eq : task'.readback = none

/-- The task has entered a state and done what is done on entry. -/
structure Entered (state : DownloadState) (task task' : DownloadTask σ) : Prop where
  image_eq : task'.image = task.image
  state_eq : task'.state = state
  history_eq : task'.history = state :: task.history
  readback_eq : task'.readback =
    if state = .readBack then some (task.readback.getD []) else task.readback

theorem failed_fail (error : DriverError) {task : DownloadTask σ} (h : task.state ≠ .error) :
    Failed [] task (task.fail host listener error) := by
  unfold fail
  rw [if_neg h]
  unfold enterError close releaseReadback act Part.change
  obtain ⟨world, image, state, interface, handle, block, position, pending, readback⟩ := task
  cases readback <;> cases handle <;> cases interface <;> exact ⟨rfl, rfl, rfl, rfl⟩

/-- What `onEntry` leaves, whether it ends well or not. -/
theorem entered_left (state : DownloadState) (task : DownloadTask σ) :
    Entered state task (left (onEntry host state (task.goto state))) := by
  have hledger : ledger (left (onEntry host state (task.goto state))) = ledger (task.goto state) :=
    keeps_onEntry host state (fun _ _ _ _ _ => rfl) (fun _ _ _ => rfl) (task.goto state)
  obtain ⟨himage, hpair⟩ := Prod.mk.inj hledger
  obtain ⟨hstate, hhistory⟩ := Prod.mk.inj hpair
  refine ⟨himage, hstate, hhistory, ?_⟩
  split <;> rename_i hread
  · subst hread
    exact readback_onEntry_readBack host _
  · have hkeeps : Keeps readback (onEntry host state) :=
      keeps_onEntry host state (fun _ _ _ _ _ => rfl) (fun h => absurd h hread)
    exact hkeeps (task.goto state)

/-- A task that fails after it has entered a state. -/
theorem Entered.failed_fail {state : DownloadState} {task mid : DownloadTask σ}
    (h : Entered state task mid) (hstate : state ≠ .error) (error : DriverError) :
    Failed [state] task (mid.fail host listener error) := by
  have hfail := DownloadTask.failed_fail host listener error
    (show mid.state ≠ .error from h.state_eq ▸ hstate)
  exact ⟨hfail.image_eq.trans h.image_eq, hfail.state_eq,
    by rw [hfail.history_eq]; exact congrArg (.error :: ·) h.history_eq, hfail.readback_eq⟩

/-- Entering a state ends in it or fails there. -/
theorem enter_cases {state : DownloadState} (hstate : state ≠ .error) (task : DownloadTask σ) :
    Entered state task (task.enter host listener state) ∨
      Failed [state] task (task.enter host listener state) := by
  have h := entered_left host state task
  unfold enter
  cases hentry : onEntry host state (task.goto state) with
  | ok _ task' =>
    rw [hentry] at h
    exact .inl h
  | error error task' =>
    rw [hentry] at h
    exact .inr (h.failed_fail host listener hstate error)

end Entry

/-! ## What a completion leads to -/

/-- The reply to the request of a state leads to the next state, if there is one, and changes the
    task before that state is entered. -/
inductive Answered (reply : Bytes) (task : DownloadTask σ) :
    DownloadState → Option DownloadState → DownloadTask σ → Prop where
  | setInterface : Answered reply task .setInterface (some .getStatus) task
  | getStatus (hstatus : checkStatus reply = .ok ()) :
    Answered reply task .getStatus
      (some (if task.position < task.image.length then .transfer else .zeroLengthTransfer)) task
  | transfer : Answered reply task .transfer (some .getStatus)
      { task with block := task.block + 1, position := task.position + task.pending }
  | zeroLengthTransfer : Answered reply task .zeroLengthTransfer (some .readBack)
      { task with block := 0, position := 0 }
  | readBack {mid : DownloadTask σ} (htake : takeUpload reply task = .ok () mid) :
    Answered reply task .readBack (some .getStatusRead) mid
  | readOn (hstatus : checkStatus reply = .ok ()) (hposition : task.position < task.image.length) :
    Answered reply task .getStatusRead (some .readBack) task
  | verified {mid : DownloadTask σ} (hstatus : checkStatus reply = .ok ())
      (hposition : task.image.length ≤ task.position) (hverify : verify task = .ok () mid) :
    Answered reply task .getStatusRead (some .detach) mid
  | detach : Answered reply task .detach (some .checkStatus) task
  | checkStatus (hstatus : checkStatus reply = .ok ()) :
    Answered reply task .checkStatus (some .complete) task
  | idle {request : DownloadState} (hrequest : request = .unattached ∨ request = .attached ∨
      request = .complete ∨ request = .error) : Answered reply task request none task

theorem answered_of_completed {request : DownloadState} {reply : Bytes}
    {next : Option DownloadState} {task mid : DownloadTask σ}
    (h : completed request reply task = .ok next mid) : Answered reply task request next mid := by
  cases request with
  | setInterface => cases h; exact .setInterface
  | getStatus =>
    obtain ⟨_, _, hreply, h⟩ := bind_eq_ok_iff.mp h
    obtain ⟨hstatus, rfl⟩ := ofExcept_eq_ok_iff.mp hreply
    cases h
    exact .getStatus hstatus
  | transfer => cases h; exact .transfer
  | zeroLengthTransfer => cases h; exact .zeroLengthTransfer
  | readBack =>
    obtain ⟨_, _, htake, h⟩ := bind_eq_ok_iff.mp h
    cases h
    exact .readBack htake
  | getStatusRead =>
    obtain ⟨_, _, hreply, h⟩ := bind_eq_ok_iff.mp h
    obtain ⟨hstatus, rfl⟩ := ofExcept_eq_ok_iff.mp hreply
    rw [get_bind] at h
    split at h <;> rename_i hposition
    · cases h
      exact .readOn hstatus hposition
    · obtain ⟨_, _, hverify, h⟩ := bind_eq_ok_iff.mp h
      cases h
      exact .verified hstatus (Nat.le_of_not_lt hposition) hverify
  | detach => cases h; exact .detach
  | checkStatus =>
    obtain ⟨_, _, hreply, h⟩ := bind_eq_ok_iff.mp h
    obtain ⟨hstatus, rfl⟩ := ofExcept_eq_ok_iff.mp hreply
    cases h
    exact .checkStatus hstatus
  | _ => cases h; exact .idle (by simp)

theorem Answered.ne_error {reply : Bytes} {request next : DownloadState} {task mid : DownloadTask σ}
    (h : Answered reply task request (some next) mid) : next ≠ .error := by
  cases h with
  | getStatus => split <;> simp
  | _ => simp

theorem Answered.eq_of_none {reply : Bytes} {request : DownloadState} {task mid : DownloadTask σ}
    (h : Answered reply task request none mid) : mid = task := by
  cases h
  rfl

section Answered

variable {reply : Bytes} {request : DownloadState} {task mid : DownloadTask σ}

/-- Only a comparison without a difference leads to `detach`. -/
theorem Answered.of_detach (h : Answered reply task request (some .detach) mid) :
    request = .getStatusRead ∧ DownloadTask.checkStatus reply = .ok () ∧
      task.image.length ≤ task.position ∧ verify task = .ok () mid := by
  generalize hnext : some DownloadState.detach = next at h
  cases h with
  | verified hstatus hposition hverify => exact ⟨rfl, hstatus, hposition, hverify⟩
  | getStatus => split at hnext <;> cases hnext
  | _ => cases hnext

/-- Only `detach` leads to `checkStatus`. -/
theorem Answered.of_checkStatus (h : Answered reply task request (some .checkStatus) mid) :
    request = .detach ∧ mid = task := by
  generalize hnext : some DownloadState.checkStatus = next at h
  cases h with
  | detach => exact ⟨rfl, rfl⟩
  | getStatus => split at hnext <;> cases hnext
  | _ => cases hnext

/-- Only `checkStatus` leads to `complete`. -/
theorem Answered.of_complete (h : Answered reply task request (some .complete) mid) :
    request = .checkStatus ∧ DownloadTask.checkStatus reply = .ok () ∧ mid = task := by
  generalize hnext : some DownloadState.complete = next at h
  cases h with
  | checkStatus hstatus => exact ⟨rfl, hstatus, rfl⟩
  | getStatus => split at hnext <;> cases hnext
  | _ => cases hnext

end Answered

/-- The task without what completions change: the buffer, and how far the transfers have come. -/
def core (task : DownloadTask σ) : DownloadTask σ :=
  { task with readback := none, releases := 0, block := 0, position := 0 }

theorem keeps_takeUpload (reply : Bytes) :
    Keeps core (takeUpload reply : DeviceM (DownloadTask σ) Unit) := by
  intro task
  unfold takeUpload
  rw [get_bind]
  dsimp only
  split
  · rfl
  · cases task.readback <;> rfl

theorem keeps_verify : Keeps core (verify : DeviceM (DownloadTask σ) Unit) := by
  intro task
  rw [verify_eq]
  dsimp only
  split <;> rfl

/-- Before the next state is entered, a completion changes only how far the transfers have come. -/
theorem keeps_completed (request : DownloadState) (reply : Bytes) :
    Keeps core (completed request reply : DeviceM (DownloadTask σ) (Option DownloadState)) := by
  cases request with
  | getStatus => exact (Keeps.ofExcept _).bind fun _ _ => rfl
  | readBack => exact (keeps_takeUpload reply).bind fun _ => Keeps.pure _
  | getStatusRead =>
    refine (Keeps.ofExcept _).bind fun _ task => ?_
    rw [get_bind]
    split
    · rfl
    · exact (keeps_verify.bind fun _ => Keeps.pure _) task
  | checkStatus => exact (Keeps.ofExcept _).bind fun _ => Keeps.pure _
  | _ => exact fun _ => rfl

/-! ## What a message does -/

/-- What a message makes of a task. -/
inductive Received (host : Host DownloadState σ) (listener : Listener σ)
    (message : DownloadMessage) (task : DownloadTask σ) : DownloadTask σ → Prop where
  | ignored (hquiet : ∀ (reply : Bytes) (next : DownloadState) (mid : DownloadTask σ),
      message = .completed task.state (.ok reply) →
        completed task.state reply task ≠ .ok (some next) mid) :
    Received host listener message task task
  | attached {interfaces : List Interface} (hmessage : message = .host (.attach interfaces)) :
    Received host listener message task
      { task with interface := Interface.findDownload? interfaces }
  | enumerated (hmessage : message = .host .enumerationDone) :
    Received host listener message task (task.enterAttached host listener)
  | detached (hmessage : message = .host .detach) :
    Received host listener message task (task.enter host listener .unattached)
  | failed {mid : DownloadTask σ} (error : DriverError) (hstate : task.state ≠ .error)
      (hmid : core mid = core task) :
    Received host listener message task (mid.fail host listener error)
  | advanced {reply : Bytes} {next : DownloadState} {mid : DownloadTask σ}
      (hmessage : message = .completed task.state (.ok reply))
      (hcompleted : completed task.state reply task = .ok (some next) mid) :
    Received host listener message task (mid.enter host listener next)

section Received

variable (host : Host DownloadState σ) (listener : Listener σ)

/-- **Steps.** A message is ignored, or makes the task enter a state, or makes it fail. -/
theorem received_receive (message : DownloadMessage) (task : DownloadTask σ) :
    Received host listener message task (task.receive host listener message) := by
  have hfail : ∀ error, (∀ reply, message ≠ .completed task.state (.ok reply)) →
      Received host listener message task (task.fail host listener error) := by
    intro error hmessage
    by_cases herror : task.state = .error
    · rw [fail_error host listener error herror]
      exact .ignored fun reply next mid h => absurd h (hmessage reply)
    · exact .failed error herror rfl
  cases message with
  | host event =>
    cases event with
    | attach interfaces => exact .attached rfl
    | enumerationDone =>
      change Received host listener _ task (if task.interface.isSome then _ else _)
      split
      · exact .enumerated rfl
      · exact .ignored fun reply next mid h => by cases h
    | detach => exact .detached rfl
    | transferFailed reason => exact hfail _ fun reply h => by cases h
  | completed request result =>
    change Received host listener _ task (if request ≠ task.state then _ else _)
    split <;> rename_i hrequest
    · exact .ignored fun reply next mid h => by cases h; exact absurd rfl hrequest
    · obtain rfl : request = task.state := Decidable.not_not.mp hrequest
      cases result with
      | error error => exact hfail error fun reply h => by cases h
      | ok reply =>
        rw [show (DeviceM.ofExcept (.ok reply) >>= completed task.state) task =
          completed task.state reply task from rfl]
        cases hcompleted : completed task.state reply task with
        | ok next mid =>
          cases next with
          | none =>
            rw [(answered_of_completed hcompleted).eq_of_none]
            exact .ignored fun _ _ _ h h' => by cases h; rw [hcompleted] at h'; cases h'
          | some next => exact .advanced rfl hcompleted
        | error error mid =>
          refine .failed error (fun herror => ?_)
            ((keeps_completed task.state reply).of_error hcompleted)
          rw [herror] at hcompleted
          cases hcompleted

/-- A reply that leads to a state makes the task enter it. -/
theorem receive_eq_enter {message : DownloadMessage} {task mid : DownloadTask σ} {reply : Bytes}
    {next : DownloadState} (hmessage : message = .completed task.state (.ok reply))
    (hcompleted : completed task.state reply task = .ok (some next) mid) :
    task.receive host listener message = mid.enter host listener next := by
  subst hmessage
  have hbind : (DeviceM.ofExcept (.ok reply) >>= completed task.state) task =
      .ok (some next) mid := hcompleted
  change (if task.state ≠ task.state then _ else _) = _
  rw [if_neg (not_not_intro rfl), hbind]

theorem ledger_eq_of_core {task mid : DownloadTask σ} (h : core mid = core task) :
    ledger mid = ledger task :=
  show ledger (core mid) = ledger (core task) from congrArg ledger h

/-- A reply that makes the task fail. -/
theorem failed_of_core {task mid : DownloadTask σ} (hmid : core mid = core task)
    (hstate : task.state ≠ .error) (error : DriverError) :
    Failed [] task (mid.fail host listener error) := by
  obtain ⟨himage, hpair⟩ := Prod.mk.inj (ledger_eq_of_core hmid)
  obtain ⟨hsame, hhistory⟩ := Prod.mk.inj hpair
  have h := failed_fail host listener error (show mid.state ≠ .error from hsame ▸ hstate)
  exact ⟨h.image_eq.trans himage, h.state_eq,
    h.history_eq.trans (congrArg (DownloadState.error :: ·) hhistory), h.readback_eq⟩

/-- Entering `attached` goes on to `setInterface`, or fails on the way. -/
theorem enterAttached_cases (task : DownloadTask σ) :
    (∃ mid, Entered .attached task mid ∧
        Entered .setInterface mid (task.enterAttached host listener)) ∨
      ∃ entered, Failed entered task (task.enterAttached host listener) := by
  have h := entered_left host .attached task
  unfold enterAttached
  cases hentry : onEntry host .attached (task.goto .attached) with
  | ok _ mid =>
    rw [hentry] at h
    obtain h' | h' := enter_cases host listener
      (show DownloadState.setInterface ≠ .error by simp) mid
    · exact .inl ⟨mid, h, h'⟩
    · exact .inr ⟨[.setInterface, .attached], h'.image_eq.trans h.image_eq, h'.state_eq,
        by rw [h'.history_eq]; exact congrArg (.error :: .setInterface :: ·) h.history_eq,
        h'.readback_eq⟩
  | error error mid =>
    rw [hentry] at h
    exact .inr ⟨[.attached], h.failed_fail host listener (by simp) error⟩

theorem enterAttached_state (task : DownloadTask σ) :
    (task.enterAttached host listener).image = task.image ∧
      ((task.enterAttached host listener).state = .setInterface ∨
        (task.enterAttached host listener).state = .error) := by
  obtain ⟨mid, h, h'⟩ | ⟨entered, h⟩ := enterAttached_cases host listener task
  · exact ⟨h'.image_eq.trans h.image_eq, .inl h'.state_eq⟩
  · exact ⟨h.image_eq, .inr h.state_eq⟩

/-- How the state and the states entered so far may change: not at all, or by the state that follows
    on a reply; else the task is at the start of a download, or has failed. -/
theorem receive_state (message : DownloadMessage) (task : DownloadTask σ) :
    let task' := task.receive host listener message
    ledger task' = ledger task ∨
      (task'.image = task.image ∧ (task'.state = .unattached ∨ task'.state = .setInterface ∨
        task'.state = .error)) ∨
      ∃ reply next mid, message = .completed task.state (.ok reply) ∧
        completed task.state reply task = .ok (some next) mid ∧
        ledger task' = (task.image, next, next :: task.history) := by
  intro task'
  have hcase : Received host listener message task task' :=
    received_receive host listener message task
  generalize task' = final at hcase
  cases hcase with
  | ignored => exact .inl rfl
  | attached => exact .inl rfl
  | enumerated =>
    obtain ⟨himage, hstate⟩ := enterAttached_state host listener task
    exact .inr (.inl ⟨himage, .inr hstate⟩)
  | detached =>
    obtain h | h := enter_cases host listener (show DownloadState.unattached ≠ .error by simp) task
    · exact .inr (.inl ⟨h.image_eq, .inl h.state_eq⟩)
    · exact .inr (.inl ⟨h.image_eq, .inr (.inr h.state_eq)⟩)
  | @failed mid error hstate hmid =>
    have h := failed_of_core host listener hmid hstate error
    exact .inr (.inl ⟨h.image_eq, .inr (.inr h.state_eq)⟩)
  | @advanced reply next mid hmessage hcompleted =>
    obtain ⟨himage, hpair⟩ :=
      Prod.mk.inj (ledger_eq_of_core ((keeps_completed task.state reply).of_ok hcompleted))
    have hhistory := (Prod.mk.inj hpair).2
    obtain h | h := enter_cases host listener (answered_of_completed hcompleted).ne_error mid
    · refine .inr (.inr ⟨reply, next, mid, hmessage, hcompleted, ?_⟩)
      rw [ledger, h.image_eq, h.state_eq, h.history_eq, himage, hhistory]
    · exact .inr (.inl ⟨h.image_eq.trans himage, .inr (.inr h.state_eq)⟩)

/-! ## The readback -/

/-- What a message adds to the readback: the reply to an upload, if the task takes it in. -/
def accepted (task : DownloadTask σ) : DownloadMessage → Bytes
  | .completed .readBack (.ok reply) =>
    if task.state = .readBack then
      match takeUpload reply task with
      | .ok _ _ => reply
      | .error _ _ => []
    else []
  | _ => []

theorem accepted_eq_nil {message : DownloadMessage} {task : DownloadTask σ}
    (h : ∀ (reply : Bytes) (next : DownloadState) (mid : DownloadTask σ),
      message = .completed task.state (.ok reply) →
        completed task.state reply task ≠ .ok (some next) mid) : accepted task message = [] := by
  unfold accepted
  split
  · rename_i reply
    split
    · rename_i hstate
      split
      · rename_i mid htake
        refine absurd ?_ (h reply .getStatusRead mid (by rw [hstate]))
        rw [hstate]
        exact bind_eq_ok_iff.mpr ⟨(), mid, htake, rfl⟩
      · rfl
    · rfl
  · rfl

/-- A readback is given up, or goes on with so many octets more. -/
def Extends (more : Bytes) (readback readback' : Option Bytes) : Prop :=
  readback' = none ∨ readback' = some (readback.getD [] ++ more)

theorem Extends.refl (readback : Option Bytes) : Extends [] readback readback := by
  cases readback with
  | none => exact .inl rfl
  | some buffer => exact .inr (by rw [Option.getD_some, List.append_nil])

theorem Entered.extends_readback {state : DownloadState} {task task' : DownloadTask σ}
    (h : Entered state task task') : Extends [] task.readback task'.readback := by
  rw [h.readback_eq]
  split
  · exact .inr (by rw [List.append_nil])
  · exact Extends.refl _

theorem enterAttached_readback (task : DownloadTask σ) :
    Extends [] task.readback (task.enterAttached host listener).readback := by
  obtain ⟨mid, h, h'⟩ | ⟨entered, h⟩ := enterAttached_cases host listener task
  · have hmid : mid.readback = task.readback := h.readback_eq
    rw [← hmid]
    exact h'.extends_readback
  · exact .inl h.readback_eq

theorem accepted_of_takeUpload {reply : Bytes} {task mid : DownloadTask σ}
    (hstate : task.state = .readBack) (htake : takeUpload reply task = .ok () mid) :
    accepted task (.completed .readBack (.ok reply)) = reply := by
  simp only [accepted, if_pos hstate, htake]

/-- A completion gives the buffer up, or adds to it what is accepted. -/
theorem Answered.extends_readback {reply : Bytes} {request next : DownloadState}
    {task mid task' : DownloadTask σ} (hanswer : Answered reply task request (some next) mid)
    (hstate : task.state = request) (h : Entered next mid task') :
    Extends (accepted task (.completed request (.ok reply))) task.readback task'.readback := by
  cases hanswer with
  | readBack htake =>
    rw [accepted_of_takeUpload hstate htake]
    obtain ⟨-, buffer, hbuffer, rfl⟩ := takeUpload_eq_ok_iff.mp htake
    rw [hbuffer]
    exact .inr h.readback_eq
  | verified hstatus hposition hverify =>
    obtain ⟨-, rfl⟩ := verify_eq_ok_iff.mp hverify
    exact .inl h.readback_eq
  | _ => exact h.extends_readback

/-- The readback is given up, or goes on with what the message adds. -/
theorem receive_readback (message : DownloadMessage) (task : DownloadTask σ) :
    Extends (accepted task message) task.readback
      (task.receive host listener message).readback := by
  have hcase := received_receive host listener message task
  generalize task.receive host listener message = final at hcase
  cases hcase with
  | ignored hquiet =>
    rw [accepted_eq_nil hquiet]
    exact Extends.refl _
  | attached hmessage => subst hmessage; exact Extends.refl _
  | enumerated hmessage => subst hmessage; exact enterAttached_readback host listener task
  | detached hmessage =>
    subst hmessage
    obtain h | h := enter_cases host listener (show DownloadState.unattached ≠ .error by simp) task
    · exact h.extends_readback
    · exact .inl h.readback_eq
  | @failed mid error hstate hmid =>
    exact .inl (failed_of_core host listener hmid hstate error).readback_eq
  | @advanced reply next mid hmessage hcompleted =>
    subst hmessage
    have hanswer := answered_of_completed hcompleted
    obtain h | h := enter_cases host listener hanswer.ne_error mid
    · exact hanswer.extends_readback rfl h
    · exact .inl h.readback_eq

end Received

end TensorLink.DownloadTask

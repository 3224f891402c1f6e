import TensorLink.Proofs.Download.Play

/-!
# The calls of a download

Which calls of the host and of the listener a download makes depends on the state that it enters:
`MadeBy` lists them, and `MadeByFailure` those of a task that fails.

Results:
* `makes_onEntry`, `made_fail`: these calls are made, and no others.
* `made_receive`: a message adds to the calls that have been made.
* `calls_receive`: a message makes no call of some kind, unless it leads to the state that makes
  calls of this kind.
-/

namespace TensorLink.DownloadTask

open Sequencing

variable {σ : Type}

/-- The calls of some kind that have been made. -/
def callsWhere (kind : HostCall DownloadState → Bool) (task : Observed σ) :
    List (HostCall DownloadState) := task.world.calls.filter kind

/-- The code of the control request that is made on entry to a state. -/
def requestCode : DownloadState → Option UInt8
  | .setInterface => some SetupPacket.selectInterface
  | .getStatus | .getStatusRead | .checkStatus => some DfuRequest.getStatus
  | .transfer | .zeroLengthTransfer => some DfuRequest.download
  | .readBack => some DfuRequest.upload
  | .detach => some DfuRequest.detach
  | .unattached | .attached | .complete | .error => none

/-- The calls that are made on entry to a state. -/
inductive MadeBy : DownloadState → HostCall DownloadState → Prop where
  | openClass (interface : Interface) (outcome : Except DriverError ClassHandle) :
    MadeBy .attached (.openClass interface outcome)
  | control {state : DownloadState} (handle : ClassHandle) (setup : SetupPacket) (data : Bytes)
      (submission : Submission Bytes) (hcode : requestCode state = some setup.request) :
    MadeBy state (.control handle state setup data submission)
  | giveUp (interface : Interface) : MadeBy .unattached (.closeClass interface)
  | resetBus (outcome : Except DriverError Unit) : MadeBy .complete (.resetBus outcome)
  | closeClass (interface : Interface) : MadeBy .complete (.closeClass interface)
  | requestReenumeration (outcome : Except DriverError Unit) :
    MadeBy .complete (.requestReenumeration outcome)

/-- The calls that are made by a task that fails. -/
inductive MadeByFailure : HostCall DownloadState → Prop where
  | closeClass (interface : Interface) : MadeByFailure (.closeClass interface)
  | failed : MadeByFailure .failed

/-- From one task to the other, calls of one sort have been made, and no others. -/
def Made (made : HostCall DownloadState → Prop) (task task' : Observed σ) : Prop :=
  ∃ more, task'.world.calls = task.world.calls ++ more ∧ ∀ call ∈ more, made call

/-- Whatever an operation ends with, it makes calls of one sort only. -/
def Makes {α : Type} (made : HostCall DownloadState → Prop) (m : DeviceM (Observed σ) α) : Prop :=
  ∀ task, Made made task (left (m task))

section

variable {kind : HostCall DownloadState → Bool} {made made' : HostCall DownloadState → Prop}
  {task mid task' : Observed σ}

theorem Made.of_eq (h : task'.world.calls = task.world.calls) : Made made task task' :=
  ⟨[], by rw [h, List.append_nil], by simp⟩

theorem Made.of_concat {call : HostCall DownloadState}
    (h : task'.world.calls = task.world.calls ++ [call]) (hcall : made call) :
    Made made task task' :=
  ⟨[call], h, by simpa using hcall⟩

theorem Made.trans (h : Made made task mid) (h' : Made made mid task') : Made made task task' := by
  obtain ⟨more, hcalls, hmade⟩ := h
  obtain ⟨more', hcalls', hmade'⟩ := h'
  refine ⟨more ++ more', by rw [hcalls', hcalls, List.append_assoc], fun call hcall => ?_⟩
  exact (List.mem_append.mp hcall).elim (hmade call) (hmade' call)

theorem Made.mono (h : Made made task task') (himp : ∀ call, made call → made' call) :
    Made made' task task' := by
  obtain ⟨more, hcalls, hmade⟩ := h
  exact ⟨more, hcalls, fun call hcall => himp call (hmade call hcall)⟩

/-- No call of a kind is made if no call of this sort is of this kind. -/
theorem Made.callsWhere_eq (h : Made made task task')
    (hkind : ∀ call, made call → kind call = false) :
    callsWhere kind task' = callsWhere kind task := by
  obtain ⟨more, hcalls, hmade⟩ := h
  have hmore : more.filter kind = [] :=
    List.filter_eq_nil_iff.mpr fun call hcall => by simp [hkind call (hmade call hcall)]
  rw [callsWhere, hcalls, List.filter_append, hmore, List.append_nil]
  rfl

/-- Calls that have been made stay in the record. -/
theorem Made.callsWhere_grows (h : Made made task task') :
    callsWhere kind task <+: callsWhere kind task' := by
  obtain ⟨more, hcalls, -⟩ := h
  exact ⟨more.filter kind, by rw [callsWhere, callsWhere, hcalls, List.filter_append]⟩

theorem Makes.bind {α β : Type} {m : DeviceM (Observed σ) α} {k : α → DeviceM (Observed σ) β}
    (hm : Makes made m) (hk : ∀ a, Makes made (k a)) : Makes made (m >>= k) := by
  intro task
  have h := hm task
  cases htask : m task with
  | ok a mid =>
    rw [htask] at h
    rw [bind_of_ok htask]
    exact h.trans (hk a mid)
  | error e mid =>
    rw [htask] at h
    rw [bind_of_error htask]
    exact h

end

section

variable {kind : HostCall DownloadState → Bool} {made : HostCall DownloadState → Prop}
  (host : Host DownloadState σ) (listener : Listener σ)

/-- A submission that has an interface and a class driver makes one call. -/
theorem calls_submit (request : DownloadState) (setup : UInt16 → SetupPacket) (data : Bytes)
    {task : Observed σ} {number : UInt16} {handle : ClassHandle}
    (hnumber : task.interfaceNumber = .ok number) (hhandle : task.handle = some handle) :
    (left (submit host.recorded request setup data task)).world.calls = task.world.calls ++
      [.control handle request (setup number) data
        ((host.transport handle).control request (setup number) data task.world.inner).1] := by
  rw [submit_eq host.recorded request setup data hnumber hhandle, Host.recorded_control]
  dsimp only
  generalize (host.transport handle).control request (setup number) data task.world.inner = call
  obtain ⟨submission, inner⟩ := call
  cases submission with
  | refused error => rfl
  | pending => rfl
  | completed result =>
    unfold left deliver
    dsimp only
    split <;> rfl

theorem makes_submit (request : DownloadState) (setup : UInt16 → SetupPacket) (data : Bytes)
    (hmade : ∀ handle number submission,
      made (.control handle request (setup number) data submission)) :
    Makes made (submit host.recorded request setup data) := by
  intro task
  cases hnumber : task.interfaceNumber with
  | error error => unfold submit; rw [hnumber]; exact .of_eq rfl
  | ok number =>
    cases hhandle : task.handle with
    | none => unfold submit; rw [hnumber, hhandle]; exact .of_eq rfl
    | some handle =>
      exact .of_concat (calls_submit host request setup data hnumber hhandle) (hmade ..)

theorem makes_focus {α : Type} {entry : Except DriverError α → HostCall DownloadState}
    (operation : DeviceM σ α) (hmade : ∀ outcome, made (entry outcome)) :
    Makes made
      (around.focus (Recorded.observe entry operation) : DeviceM (Observed σ) α) := by
  intro task
  unfold Part.focus Recorded.observe
  cases operation (around.look task).inner <;> exact .of_concat rfl (hmade _)

theorem made_close (hmade : ∀ interface, made (.closeClass interface)) (task : Observed σ) :
    Made made task (task.close host.recorded) := by
  unfold close
  split
  · exact .of_concat rfl (hmade _)
  · exact .of_eq rfl

theorem made_fail (error : DriverError) (task : Observed σ) :
    Made MadeByFailure task (task.fail host.recorded listener.recorded error) := by
  unfold fail
  split
  · exact .of_eq rfl
  · refine Made.trans (.of_eq ?_) ((made_close host .closeClass _).trans (.of_concat rfl .failed))
    unfold releaseReadback
    split <;> rfl

/-- What is done on entry to a state makes no other calls than `MadeBy` lists. -/
theorem makes_onEntry (state : DownloadState) :
    Makes (MadeBy state) (onEntry host.recorded state) := by
  have hsubmit : ∀ (setup : UInt16 → SetupPacket) (data : Bytes),
      (∀ number, requestCode state = some (setup number).request) →
      Makes (MadeBy state) (submit host.recorded state setup data) := fun setup data hcode =>
    makes_submit host state setup data fun handle number submission =>
      .control handle _ data submission (hcode number)
  cases state with
  | unattached => exact made_close host .giveUp
  | attached =>
    intro task
    change Made _ task (left (openClass host.recorded task))
    cases hinterface : task.interface with
    | none => rw [openClass_none host.recorded hinterface]; exact .of_eq rfl
    | some interface =>
      rw [openClass_some host.recorded hinterface]
      exact ((makes_focus (host.openClass interface) (.openClass interface)).bind
        fun handle mid => .of_eq rfl) task
  | transfer => exact fun task => hsubmit _ _ (fun _ => rfl) { task with pending := task.nextUnit }
  | zeroLengthTransfer => exact fun task => hsubmit _ _ (fun _ => rfl) task
  | readBack =>
    exact fun task => hsubmit _ _ (fun _ => rfl)
      { task with pending := task.nextUnit, readback := some (task.readback.getD []) }
  | complete =>
    exact (makes_focus host.resetBus .resetBus).bind fun _ =>
      Makes.bind (made_close host .closeClass) fun _ =>
        makes_focus host.requestReenumeration .requestReenumeration
  | error => exact fun task => .of_eq rfl
  | _ => exact hsubmit _ _ fun _ => rfl

theorem made_enter (state : DownloadState) (task : Observed σ) :
    Made (fun call => MadeBy state call ∨ MadeByFailure call) task
      (task.enter host.recorded listener.recorded state) := by
  have h := makes_onEntry host state (task.goto state)
  unfold enter
  cases hentry : onEntry host.recorded state (task.goto state) with
  | ok _ mid =>
    rw [hentry] at h
    exact h.mono fun call => .inl
  | error error mid =>
    rw [hentry] at h
    exact (h.mono fun call => .inl).trans
      ((made_fail host listener error mid).mono fun call => .inr)

/-- A task that fails on entry to a state makes no further call of this kind. -/
theorem callsWhere_enter (hkind : ∀ call, MadeByFailure call → kind call = false)
    (state : DownloadState) (task : Observed σ) :
    callsWhere kind (task.enter host.recorded listener.recorded state) =
      callsWhere kind (left (onEntry host.recorded state (task.goto state))) := by
  unfold enter
  cases onEntry host.recorded state (task.goto state) with
  | ok _ mid => rfl
  | error error mid => exact (made_fail host listener error mid).callsWhere_eq hkind

/-- A state on whose entry a request is made: either one call is made, or the task fails without
    it. -/
theorem callsWhere_enter_submit {state : DownloadState} (hstate : state ≠ .error)
    (hkind : ∀ call, MadeByFailure call → kind call = false) {setup : UInt16 → SetupPacket}
    {data : Bytes} {task ready : Observed σ} (hready : ready.state = state)
    (hcalls : ready.world.calls = task.world.calls)
    (hentry : onEntry host.recorded state (task.goto state) =
      submit host.recorded state setup data ready) :
    let task' := task.enter host.recorded listener.recorded state
    (task'.state = .error ∧ callsWhere kind task' = callsWhere kind task) ∨
      ∃ number handle submission, ready.interfaceNumber = .ok number ∧
        callsWhere kind task' = callsWhere kind task ++
          [HostCall.control handle state (setup number) data submission].filter kind := by
  have hrefused {error : DriverError}
      (hsubmit : submit host.recorded state setup data ready = .error error ready) :
      (task.enter host.recorded listener.recorded state).state = .error ∧
        callsWhere kind (task.enter host.recorded listener.recorded state) =
          callsWhere kind task := by
    have henter : task.enter host.recorded listener.recorded state =
        ready.fail host.recorded listener.recorded error := by
      unfold enter
      rw [hentry, hsubmit]
    rw [henter, (made_fail host listener error ready).callsWhere_eq hkind]
    exact ⟨(failed_fail host.recorded listener.recorded error (hready ▸ hstate)).state_eq,
      congrArg (List.filter kind) hcalls⟩
  cases hnumber : ready.interfaceNumber with
  | error error => exact .inl (hrefused (by unfold submit; rw [hnumber]))
  | ok number =>
    cases hhandle : ready.handle with
    | none => exact .inl (hrefused (by unfold submit; rw [hnumber, hhandle]))
    | some handle =>
      refine .inr ⟨number, handle,
        ((host.transport handle).control state (setup number) data ready.world.inner).1, rfl, ?_⟩
      rw [callsWhere_enter host listener hkind, hentry, callsWhere,
        calls_submit host state setup data hnumber hhandle, List.filter_append, hcalls]
      rfl

theorem made_enterAttached (task : Observed σ) :
    Made (fun call => MadeBy .attached call ∨ MadeBy .setInterface call ∨ MadeByFailure call) task
      (task.enterAttached host.recorded listener.recorded) := by
  have h := makes_onEntry host .attached (task.goto .attached)
  unfold enterAttached
  cases hentry : onEntry host.recorded .attached (task.goto .attached) with
  | ok _ mid =>
    rw [hentry] at h
    exact (h.mono fun call => .inl).trans
      ((made_enter host listener .setInterface mid).mono fun call => .inr)
  | error error mid =>
    rw [hentry] at h
    exact (h.mono fun call => .inl).trans
      ((made_fail host listener error mid).mono fun call hcall => .inr (.inr hcall))

theorem calls_eq_of_core {task mid : Observed σ} (h : core mid = core task) :
    mid.world.calls = task.world.calls :=
  show (core mid).world.calls = (core task).world.calls from congrArg (·.world.calls) h

/-- A message adds to the calls that have been made. -/
theorem made_receive (message : DownloadMessage) (task : Observed σ) :
    Made (fun _ => True) task (task.receive host.recorded listener.recorded message) := by
  have hcase := received_receive host.recorded listener.recorded message task
  generalize task.receive host.recorded listener.recorded message = final at hcase
  cases hcase with
  | ignored => exact .of_eq rfl
  | attached => exact .of_eq rfl
  | enumerated => exact (made_enterAttached host listener task).mono fun _ _ => trivial
  | detached => exact (made_enter host listener .unattached task).mono fun _ _ => trivial
  | @failed mid error hstate hmid =>
    exact (Made.of_eq (calls_eq_of_core hmid)).trans
      ((made_fail host listener error mid).mono fun _ _ => trivial)
  | @advanced reply next mid hmessage hcompleted =>
    have hcore : core mid = core task := (keeps_completed task.state reply).of_ok hcompleted
    exact (Made.of_eq (calls_eq_of_core hcore)).trans
      ((made_enter host listener next mid).mono fun _ _ => trivial)

/-- Calls of some kind are made on entry to one state only, and neither by a task that fails nor by
    one that an event of the host brings to a state. -/
structure Proper (kind : HostCall DownloadState → Bool) (state : DownloadState) : Prop where
  other : ∀ state', state' ≠ state → ∀ call, MadeBy state' call → kind call = false
  close : ∀ interface, kind (.closeClass interface) = false
  failed : kind .failed = false
  ne : state ≠ .unattached ∧ state ≠ .attached ∧ state ≠ .setInterface

theorem Proper.failure {state : DownloadState} (h : Proper kind state) :
    ∀ call, MadeByFailure call → kind call = false
  | _, .closeClass interface => h.close interface
  | _, .failed => h.failed

/-- A control request of some code. -/
def isRequest (code : UInt8) : HostCall DownloadState → Bool
  | .control _ _ setup _ _ => setup.request == code
  | _ => false

theorem isRequest_of_madeBy {code : UInt8} {state : DownloadState} {call : HostCall DownloadState}
    (h : MadeBy state call) (hcode : requestCode state ≠ some code) :
    isRequest code call = false := by
  cases h with
  | control handle setup data submission hrequest =>
    have hne : setup.request ≠ code := fun heq => hcode (by rw [hrequest, heq])
    simpa [isRequest] using hne
  | _ => rfl

theorem isRequest_of_madeByFailure {code : UInt8} {call : HostCall DownloadState}
    (h : MadeByFailure call) : isRequest code call = false := by
  cases h <;> rfl

/-- The requests of some code are proper to the only state that makes them. -/
theorem proper_isRequest {code : UInt8} {state : DownloadState}
    (honly : ∀ state', state' ≠ state → requestCode state' ≠ some code)
    (hne : state ≠ .unattached ∧ state ≠ .attached ∧ state ≠ .setInterface) :
    Proper (isRequest code) state where
  other state' hother _ hcall := isRequest_of_madeBy hcall (honly state' hother)
  close _ := rfl
  failed := rfl
  ne := hne

theorem calls_enter {state : DownloadState} (hproper : Proper kind state) {state' : DownloadState}
    (hne : state' ≠ state) (task : Observed σ) :
    callsWhere kind (task.enter host.recorded listener.recorded state') = callsWhere kind task :=
  (made_enter host listener state' task).callsWhere_eq fun call hcall =>
    hcall.elim (hproper.other state' hne call) (hproper.failure call)

theorem calls_enterAttached {state : DownloadState} (hproper : Proper kind state)
    (task : Observed σ) :
    callsWhere kind (task.enterAttached host.recorded listener.recorded) = callsWhere kind task :=
  (made_enterAttached host listener task).callsWhere_eq fun call hcall =>
    hcall.elim (hproper.other .attached hproper.ne.2.1.symm call) fun hcall =>
      hcall.elim (hproper.other .setInterface hproper.ne.2.2.symm call) (hproper.failure call)

/-- A message makes no call of a kind that is proper to a state, unless it leads to this state. -/
theorem calls_receive {state : DownloadState} (hproper : Proper kind state)
    (message : DownloadMessage) (task : Observed σ) :
    let task' := task.receive host.recorded listener.recorded message
    callsWhere kind task' = callsWhere kind task ∨
      ∃ reply mid, message = .completed task.state (.ok reply) ∧
        completed task.state reply task = .ok (some state) mid := by
  intro task'
  have hcase : Received host.recorded listener.recorded message task task' :=
    received_receive host.recorded listener.recorded message task
  generalize task' = final at hcase
  cases hcase with
  | ignored => exact .inl rfl
  | attached => exact .inl rfl
  | enumerated => exact .inl (calls_enterAttached host listener hproper task)
  | detached => exact .inl (calls_enter host listener hproper hproper.ne.1.symm task)
  | @failed mid error hstate hmid =>
    exact .inl (((made_fail host listener error mid).callsWhere_eq hproper.failure).trans
      (congrArg (List.filter kind) (calls_eq_of_core hmid)))
  | @advanced reply next mid hmessage hcompleted =>
    by_cases hnext : next = state
    · subst hnext
      exact .inr ⟨reply, mid, hmessage, hcompleted⟩
    · exact .inl ((calls_enter host listener hproper hnext mid).trans (congrArg (List.filter kind)
        (calls_eq_of_core ((keeps_completed task.state reply).of_ok hcompleted))))

end

end TensorLink.DownloadTask

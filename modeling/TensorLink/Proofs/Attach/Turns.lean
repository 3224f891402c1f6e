import TensorLink.Proofs.Recording
import TensorLink.Task.Attach

/-!
# What a message does to an attach task

What a message leads to depends on the state of the task, on the interface of the device that was
attached last and on the class driver in use, and on what the host answers. The calls of the host
and of the listener are recorded, in the order in which they are made.

Results:
* `turned_enterError`, `turned_enterUnattached`: giving up the class driver.
* `openDevice_eq`, `opened_openDevice`, `selection_selectInterface`: how the device is opened and
  its interface selected.
* `turn_receive`: everything that a message may do.
-/

namespace TensorLink.AttachTask

open Sequencing

variable {σ : Type}

/-- An attach task whose host and listener keep their calls. -/
abbrev Observed (σ : Type) := AttachTask (Recorded σ (HostCall AttachState))

/-- The part of an attach task that its calls depend on. -/
structure Outline where
  state : AttachState
  interface : Option Interface
  handle : Option ClassHandle

/-- The outline of a task. -/
def outline (task : Observed σ) : Outline := ⟨task.state, task.interface, task.handle⟩

namespace Outline

/-- The call that gives up the class driver, if one is in use. -/
def closing (outline : Outline) : List (HostCall AttachState) :=
  match outline.handle, outline.interface with
  | some _, some interface => [.closeClass interface]
  | _, _ => []

/-- After the class driver has been given up on the way to a state. -/
def closed (state : AttachState) (outline : Outline) : Outline :=
  { outline with state, handle := none }

end Outline

/-! ## What operations do -/

/-- From one task to the other, calls have been made and messages have been queued. -/
structure Turned (before after : Observed σ) (calls : List (HostCall AttachState))
    (queued : List AttachMessage) (outline : Outline) : Prop where
  calls_eq : after.world.calls = before.world.calls ++ calls
  inbox_eq : after.inbox = before.inbox ++ queued
  outline_eq : after.outline = outline

theorem Turned.trans {a b c : Observed σ} {calls calls' : List (HostCall AttachState)}
    {queued queued' : List AttachMessage} {outline outline' : Outline}
    (h : Turned a b calls queued outline) (h' : Turned b c calls' queued' outline') :
    Turned a c (calls ++ calls') (queued ++ queued') outline' :=
  ⟨by rw [h'.calls_eq, h.calls_eq, List.append_assoc],
    by rw [h'.inbox_eq, h.inbox_eq, List.append_assoc], h'.outline_eq⟩

/-- Nothing has been called and nothing has been queued. -/
theorem Turned.of_eq {before after : Observed σ} {outline : Outline}
    (hcalls : after.world.calls = before.world.calls) (hinbox : after.inbox = before.inbox)
    (houtline : after.outline = outline) : Turned before after [] [] outline :=
  ⟨by rw [hcalls, List.append_nil], by rw [hinbox, List.append_nil], houtline⟩

/-- One call has been made. -/
theorem Turned.of_call {before after : Observed σ} {call : HostCall AttachState}
    {outline : Outline} (hcalls : after.world.calls = before.world.calls ++ [call])
    (hinbox : after.inbox = before.inbox) (houtline : after.outline = outline) :
    Turned before after [call] [] outline :=
  ⟨hcalls, by rw [hinbox, List.append_nil], houtline⟩

section

variable (host : Host AttachState σ) (listener : Listener σ)

theorem turned_close (task : Observed σ) :
    Turned task (task.close host.recorded) task.outline.closing []
      (task.outline.closed task.state) := by
  obtain ⟨world, state, interface, handle⟩ := task
  cases handle with
  | none => exact .of_eq rfl rfl rfl
  | some handle =>
    cases interface with
    | none => exact .of_eq rfl rfl rfl
    | some interface => exact .of_call rfl rfl rfl

theorem turned_goto (state : AttachState) (task : Observed σ) :
    Turned task (task.goto state) [] [] { task.outline with state } := .of_eq rfl rfl rfl

theorem Turned.of_goto {state : AttachState} {task after : Observed σ}
    {calls : List (HostCall AttachState)} {queued : List AttachMessage} {outline : Outline}
    (h : Turned (task.goto state) after calls queued outline) :
    Turned task after calls queued outline := ⟨h.calls_eq, h.inbox_eq, h.outline_eq⟩

theorem turned_enterError (task : Observed σ) :
    Turned task (task.enterError host.recorded listener.recorded)
      (task.outline.closing ++ [.failed]) [] (task.outline.closed .error) := by
  have hclose := (turned_goto .error task).trans (turned_close host (task.goto .error))
  exact hclose.trans (.of_call rfl rfl hclose.outline_eq)

theorem turned_enterUnattached (task : Observed σ) :
    Turned task (task.enterUnattached host.recorded listener.recorded)
      (task.outline.closing ++ [.connected none]) [] (task.outline.closed .unattached) := by
  have hclose := (turned_goto .unattached task).trans (turned_close host (task.goto .unattached))
  exact hclose.trans (.of_call rfl rfl hclose.outline_eq)

/-! ## Opening a device -/

/-- A call that opens a pipe of a class driver. -/
inductive PipeOf (handle : ClassHandle) : HostCall AttachState → Prop where
  | openPipe (endpoint : Endpoint) (outcome : Except DriverError Unit) :
    PipeOf handle (.openPipe handle endpoint outcome)

/-- From one state to the other, nothing but pipes of a class driver have been opened. -/
def PipesOpened (handle : ClassHandle) (before after : Recorded σ (HostCall AttachState)) : Prop :=
  ∃ calls, after.calls = before.calls ++ calls ∧ ∀ call ∈ calls, PipeOf handle call

theorem PipesOpened.refl (handle : ClassHandle) (state : Recorded σ (HostCall AttachState)) :
    PipesOpened handle state state :=
  ⟨[], (List.append_nil _).symm, fun _ hcall => absurd hcall List.not_mem_nil⟩

theorem PipesOpened.trans {handle : ClassHandle} {a b c : Recorded σ (HostCall AttachState)}
    (h : PipesOpened handle a b) (h' : PipesOpened handle b c) : PipesOpened handle a c := by
  obtain ⟨calls, hcalls, hpipes⟩ := h
  obtain ⟨calls', hcalls', hpipes'⟩ := h'
  refine ⟨calls ++ calls', by rw [hcalls', hcalls, List.append_assoc], fun call hcall => ?_⟩
  exact (List.mem_append.mp hcall).elim (hpipes call) (hpipes' call)

theorem pipesOpened_openPipe (handle : ClassHandle) (endpoint : Endpoint)
    (state : Recorded σ (HostCall AttachState)) :
    PipesOpened handle state
      (left (PipeSet.openPipe (host.recorded.transport handle).openPipe endpoint state)) := by
  have hcall (outcome : Except DriverError Unit) (inner : σ) : PipesOpened handle state
      (Recorded.note (.openPipe handle (PipeSet.adjust endpoint) outcome) { state with inner }) :=
    ⟨_, rfl, fun call hcall => by rw [List.mem_singleton.mp hcall]; exact .openPipe _ _⟩
  unfold PipeSet.openPipe Host.recorded Recorded.observe
  dsimp only
  cases (host.transport handle).openPipe (PipeSet.adjust endpoint) state.inner with
  | ok _ inner => exact hcall _ _
  | error error inner =>
    dsimp only
    split <;> exact hcall _ _

theorem pipesOpened_openAll (handle : ClassHandle) (endpoints : List Endpoint)
    (state : Recorded σ (HostCall AttachState)) :
    PipesOpened handle state
      (left (PipeSet.openAll (host.recorded.transport handle).openPipe endpoints state)) := by
  induction endpoints generalizing state with
  | nil => exact .refl handle state
  | cons endpoint rest ih =>
    have hfirst := pipesOpened_openPipe host handle endpoint state
    unfold PipeSet.openAll
    cases hpipe : PipeSet.openPipe (host.recorded.transport handle).openPipe endpoint state with
    | error error mid =>
      rw [hpipe] at hfirst
      rw [bind_of_error hpipe]
      exact hfirst
    | ok pipe mid =>
      rw [hpipe] at hfirst
      have hrest := hfirst.trans (ih mid)
      rw [bind_of_ok hpipe]
      cases hpipes : PipeSet.openAll (host.recorded.transport handle).openPipe rest mid with
      | error error after =>
        rw [hpipes] at hrest
        rw [bind_of_error hpipes]
        exact hrest
      | ok pipes after =>
        rw [hpipes] at hrest
        rw [bind_of_ok hpipes]
        exact hrest

theorem pipesOpened_open (handle : ClassHandle) (endpoints : List Endpoint)
    (state : Recorded σ (HostCall AttachState)) :
    PipesOpened handle state
      (left (PipeSet.open (host.recorded.transport handle).openPipe endpoints state)) := by
  unfold PipeSet.open
  by_cases hcount : endpoints.length ≠ PipeSet.endpointCount
  · rw [if_pos hcount]
    exact .refl handle state
  · rw [if_neg hcount]
    have hall := pipesOpened_openAll host handle endpoints state
    show PipesOpened handle state
      (left ((PipeSet.openAll (host.recorded.transport handle).openPipe endpoints >>= fun pipes =>
        (pure ⟨pipes⟩ : DeviceM _ PipeSet)) state))
    cases hpipes : PipeSet.openAll (host.recorded.transport handle).openPipe endpoints state with
    | error error after =>
      rw [hpipes] at hall
      rw [bind_of_error hpipes]
      exact hall
    | ok pipes after =>
      rw [hpipes] at hall
      rw [bind_of_ok hpipes]
      exact hall

/-- The calls that open a class driver and its pipes, and the class driver if they all succeed. One
    whose pipes do not open stays open and is not used. -/
inductive Opening (interface : Interface) :
    List (HostCall AttachState) → Option ClassHandle → Prop where
  | refused (error : DriverError) : Opening interface [.openClass interface (.error error)] none
  | pipeless {handle : ClassHandle} {pipes : List (HostCall AttachState)}
      (hpipes : ∀ call ∈ pipes, PipeOf handle call) :
    Opening interface (.openClass interface (.ok handle) :: pipes) none
  | opened {handle : ClassHandle} {pipes : List (HostCall AttachState)}
      (hpipes : ∀ call ∈ pipes, PipeOf handle call) :
    Opening interface (.openClass interface (.ok handle) :: pipes) (some handle)

/-- How opening a device ends. -/
inductive Opened (task : Observed σ) (interface : Interface) :
    EStateM.Result DriverError (Observed σ) Unit → Prop where
  | ok {after : Observed σ} {calls : List (HostCall AttachState)} {handle : ClassHandle}
      (opening : Opening interface calls (some handle))
      (turned : Turned task after calls [] { task.outline with handle := some handle }) :
    Opened task interface (.ok () after)
  | error {error : DriverError} {after : Observed σ} {calls : List (HostCall AttachState)}
      (opening : Opening interface calls none)
      (turned : Turned task after calls [] task.outline) :
    Opened task interface (.error error after)

/-- A device is opened by its class driver first, and then by the pipes of it. -/
theorem openDevice_eq (host : Host AttachState σ) {task : AttachTask σ} {interface : Interface}
    (hinterface : task.interface = some interface) :
    openDevice host task =
      match host.openClass interface task.world with
      | .error error world => .error error { task with world }
      | .ok handle world =>
        match PipeSet.open (host.transport handle).openPipe interface.endpoints world with
        | .error error world => .error error { task with world }
        | .ok pipes world =>
          .ok () { task with world := world, pipes := some pipes, handle := some handle } := by
  unfold openDevice
  conv_lhs => rw [get_bind, hinterface]
  dsimp only
  cases hclass : host.openClass interface task.world with
  | error error world =>
    rw [bind_of_error (Part.focus_of_error around task hclass)]
    rfl
  | ok handle world =>
    rw [bind_of_ok (Part.focus_of_ok around task hclass)]
    dsimp only
    cases hopen : PipeSet.open (host.transport handle).openPipe interface.endpoints world with
    | error error final =>
      rw [bind_of_error (Part.focus_of_error around (around.replace world task) hopen)]
      rfl
    | ok pipes final =>
      rw [bind_of_ok (Part.focus_of_ok around (around.replace world task) hopen)]
      rfl

/-- The class driver is the first call, and the others open pipes of it. -/
theorem calls_of_openClass {interface : Interface} {handle : ClassHandle}
    {before mid : Recorded σ (HostCall AttachState)}
    (hclass : host.recorded.openClass interface before = .ok handle mid) :
    ∃ pipes, (∀ call ∈ pipes, PipeOf handle call) ∧
      (left (PipeSet.open (host.recorded.transport handle).openPipe interface.endpoints
        mid)).calls = before.calls ++ .openClass interface (.ok handle) :: pipes := by
  obtain ⟨pipes, hcalls, hpipes⟩ := pipesOpened_open host handle interface.endpoints mid
  rw [Recorded.calls_of_observe_ok hclass, ← List.append_cons] at hcalls
  exact ⟨pipes, hpipes, hcalls⟩

theorem opened_openDevice {task : Observed σ} {interface : Interface}
    (hinterface : task.interface = some interface) :
    Opened task interface (openDevice host.recorded task) := by
  rw [openDevice_eq host.recorded hinterface]
  cases hclass : host.recorded.openClass interface task.world with
  | error error world =>
    exact .error (.refused error) (.of_call (Recorded.calls_of_observe_error hclass) rfl rfl)
  | ok handle world =>
    obtain ⟨pipes, hpipes, hcalls⟩ := calls_of_openClass host hclass
    dsimp only
    cases hopen : PipeSet.open (host.recorded.transport handle).openPipe interface.endpoints
        world with
    | error error final =>
      rw [hopen] at hcalls
      exact .error (.pipeless hpipes) ⟨hcalls, (List.append_nil _).symm, rfl⟩
    | ok set final =>
      rw [hopen] at hcalls
      exact .ok (.opened hpipes) ⟨hcalls, (List.append_nil _).symm, rfl⟩

/-! ## Selecting the interface -/

/-- What an accepted submission adds to the queue: the completion of a transfer that is over at once
    is queued there, or lost if the queue is full. -/
inductive Accepted : Submission Bytes → List AttachMessage → Prop where
  | pending : Accepted .pending []
  | lost (result : Except DriverError Bytes) : Accepted (.completed result) []
  | completed (result : Except DriverError Bytes) :
    Accepted (.completed result) [.completed .setInterface (result.map fun _ => ())]

/-- The call that selects an interface. -/
def selectCall (interface : Interface) (handle : ClassHandle) (submission : Submission Bytes) :
    HostCall AttachState :=
  .control handle .setInterface (.setInterface interface.number.toUInt16 0) [] submission

/-- How the selection of an interface ends. -/
inductive Selection (task : Observed σ) (interface : Interface) (handle : ClassHandle) :
    EStateM.Result DriverError (Observed σ) Unit → Prop where
  | ok {after : Observed σ} {submission : Submission Bytes} {queued : List AttachMessage}
      (accepted : Accepted submission queued)
      (turned : Turned task after
        [selectCall interface handle submission, .connected (some handle)] queued task.outline) :
    Selection task interface handle (.ok () after)
  | error {error : DriverError} {after : Observed σ}
      (turned : Turned task after [selectCall interface handle (.refused error)] []
        task.outline) :
    Selection task interface handle (.error error after)

theorem selection_selectInterface {task : Observed σ} {interface : Interface}
    {handle : ClassHandle} (hinterface : task.interface = some interface)
    (hhandle : task.handle = some handle) :
    Selection task interface handle (selectInterface host.recorded listener.recorded task) := by
  obtain ⟨world, state, _, _⟩ := task
  cases hinterface
  cases hhandle
  unfold selectInterface
  simp only [Host.recorded_control]
  generalize (host.transport handle).control .setInterface
    (.setInterface interface.number.toUInt16 0) [] world.inner = call
  obtain ⟨submission, inner⟩ := call
  cases submission with
  | refused error => exact .error (.of_call rfl rfl rfl)
  | pending => exact .ok .pending ⟨List.append_assoc .., (List.append_nil _).symm, rfl⟩
  | completed result =>
    dsimp only
    unfold deliver
    split
    · exact .ok (.lost result) ⟨List.append_assoc .., (List.append_nil _).symm, rfl⟩
    · exact .ok (.completed result) ⟨List.append_assoc .., rfl, rfl⟩

/-- Checking the pipes changes nothing. -/
theorem keeps_checkPipes {σ : Type} : Keeps id (checkPipes : DeviceM (AttachTask σ) Unit) := by
  intro task
  unfold checkPipes
  rw [get_bind]
  cases task.pipes with
  | none => rfl
  | some pipes => exact Keeps.ofExcept _ task

/-! ## Messages -/

/-- What handling a message may do: the calls that are made, the messages that are queued, and the
    outline before and after. -/
inductive Turn : Outline → AttachMessage → List (HostCall AttachState) → List AttachMessage →
    Outline → Prop where
  /-- A device has appeared. -/
  | attached (outline : Outline) (interfaces : List Interface) :
    Turn outline (.host (.attach interfaces)) [] []
      { outline with interface := Interface.findApplication? interfaces }
  | unknown {outline : Outline} (hinterface : outline.interface = none) :
    Turn outline (.host .enumerationDone) [] [] { outline with state := .enumerationFailed }
  /-- The device does not open. -/
  | unopened {outline : Outline} {interface : Interface} {calls : List (HostCall AttachState)}
      (hinterface : outline.interface = some interface) (opening : Opening interface calls none) :
    Turn outline (.host .enumerationDone) (calls ++ (outline.closing ++ [.failed])) []
      (outline.closed .error)
  /-- The device opens and refuses the selection of its interface. -/
  | refused {outline : Outline} {interface : Interface} {calls : List (HostCall AttachState)}
      {handle : ClassHandle} (error : DriverError)
      (hinterface : outline.interface = some interface)
      (opening : Opening interface calls (some handle)) :
    Turn outline (.host .enumerationDone)
      (calls ++ ([selectCall interface handle (.refused error)] ++
        ([.closeClass interface] ++ [.failed]))) []
      (outline.closed .error)
  | selected {outline : Outline} {interface : Interface} {calls : List (HostCall AttachState)}
      {handle : ClassHandle} {submission : Submission Bytes} {queued : List AttachMessage}
      (hinterface : outline.interface = some interface)
      (opening : Opening interface calls (some handle)) (accepted : Accepted submission queued) :
    Turn outline (.host .enumerationDone)
      (calls ++ [selectCall interface handle submission, .connected (some handle)]) queued
      { outline with state := .setInterface, handle := some handle }
  | detached (outline : Outline) :
    Turn outline (.host .detach) (outline.closing ++ [.connected none]) []
      (outline.closed .unattached)
  | failed (outline : Outline) (reason : String) :
    Turn outline (.host (.transferFailed reason)) (outline.closing ++ [.failed]) []
      (outline.closed .error)
  /-- The completion is not waited for. -/
  | ignored {outline : Outline} {request : AttachState} (result : Except DriverError Unit)
      (hrequest : request ≠ outline.state) :
    Turn outline (.completed request result) [] [] outline
  | rejected (outline : Outline) (error : DriverError) :
    Turn outline (.completed outline.state (.error error)) (outline.closing ++ [.failed]) []
      (outline.closed .error)
  | ready {outline : Outline} (hstate : outline.state = .setInterface) :
    Turn outline (.completed .setInterface (.ok ())) [] [] { outline with state := .connected }
  /-- The pipes turn out to be unusable. -/
  | unready {outline : Outline} (hstate : outline.state = .setInterface) :
    Turn outline (.completed .setInterface (.ok ())) (outline.closing ++ [.failed]) []
      (outline.closed .error)
  | surplus {outline : Outline} (hstate : outline.state ≠ .setInterface) :
    Turn outline (.completed outline.state (.ok ())) [] [] outline

/-- A message has been handled by a turn. -/
def Handles (task : Observed σ) (message : AttachMessage) (after : Observed σ) : Prop :=
  ∃ calls queued outline, Turn task.outline message calls queued outline ∧
    Turned task after calls queued outline

/-- A device that does not open makes the task fail. -/
theorem turned_unopened {task mid : Observed σ} {calls : List (HostCall AttachState)}
    (turned : Turned (task.goto .attached) mid calls [] (task.goto .attached).outline) :
    Turned task (mid.enterError host.recorded listener.recorded)
      (calls ++ (task.outline.closing ++ [.failed])) [] (task.outline.closed .error) := by
  have hfailed := turned.trans (turned_enterError host listener mid)
  rw [turned.outline_eq] at hfailed
  exact hfailed.of_goto

/-- Once the class driver and its pipes are open, the interface is selected or the task fails. -/
theorem turned_enterSetInterface {task mid : Observed σ} {interface : Interface}
    {handle : ClassHandle} {calls : List (HostCall AttachState)}
    (hinterface : task.interface = some interface)
    (turned : Turned (task.goto .attached) mid calls []
      { (task.goto .attached).outline with handle := some handle }) :
    (∃ error, Turned task (mid.enterSetInterface host.recorded listener.recorded)
      (calls ++ ([selectCall interface handle (.refused error)] ++
        ([.closeClass interface] ++ [.failed]))) [] (task.outline.closed .error)) ∨
    ∃ submission queued, Accepted submission queued ∧
      Turned task (mid.enterSetInterface host.recorded listener.recorded)
        (calls ++ [selectCall interface handle submission, .connected (some handle)]) queued
        { task.outline with state := .setInterface, handle := some handle } := by
  have hmid : mid.outline.interface = some interface ∧ mid.outline.handle = some handle := by
    rw [turned.outline_eq]
    exact ⟨hinterface, rfl⟩
  have hselection : Selection (mid.goto .setInterface) interface handle
      (selectInterface host.recorded listener.recorded (mid.goto .setInterface)) :=
    selection_selectInterface host listener hmid.1 hmid.2
  have hselected : (mid.goto .setInterface).outline =
      { task.outline with state := .setInterface, handle := some handle } := by
    show { mid.outline with state := .setInterface } = _
    rw [turned.outline_eq]
    rfl
  unfold enterSetInterface attempt
  cases hselect : selectInterface host.recorded listener.recorded (mid.goto .setInterface) with
  | error error after =>
    rw [hselect] at hselection
    obtain ⟨⟩ | ⟨refused⟩ := hselection
    have hfailed := refused.trans (turned_enterError host listener after)
    rw [refused.outline_eq, hselected] at hfailed
    have hclosing : Outline.closing
        { task.outline with state := .setInterface, handle := some handle } =
          [.closeClass interface] := by
      simp only [Outline.closing, outline, hinterface]
    rw [hclosing] at hfailed
    exact .inl ⟨error, (turned.trans hfailed.of_goto).of_goto⟩
  | ok _ after =>
    rw [hselect] at hselection
    obtain ⟨accepted, selected⟩ | ⟨⟩ := hselection
    rw [hselected] at selected
    exact .inr ⟨_, _, accepted, (turned.trans selected.of_goto).of_goto⟩

theorem handles_enterAttached {task : Observed σ} {interface : Interface}
    (hinterface : task.interface = some interface) :
    Handles task (.host .enumerationDone)
      (task.enterAttached host.recorded listener.recorded) := by
  have hopened : Opened (task.goto .attached) interface
      (openDevice host.recorded (task.goto .attached)) := opened_openDevice host hinterface
  unfold enterAttached attempt
  cases hopen : openDevice host.recorded (task.goto .attached) with
  | error error mid =>
    rw [hopen] at hopened
    obtain ⟨⟩ | ⟨opening, turned⟩ := hopened
    exact ⟨_, _, _, .unopened hinterface opening, turned_unopened host listener turned⟩
  | ok _ mid =>
    rw [hopen] at hopened
    obtain ⟨opening, turned⟩ | ⟨⟩ := hopened
    obtain ⟨error, hrefused⟩ | ⟨submission, queued, accepted, hselected⟩ :=
      turned_enterSetInterface host listener hinterface turned
    · exact ⟨_, _, _, .refused error hinterface opening, hrefused⟩
    · exact ⟨_, _, _, .selected hinterface opening accepted, hselected⟩

theorem handles_receiveEvent (event : HostEvent) (task : Observed σ) :
    Handles task (.host event)
      (task.receiveEvent host.recorded listener.recorded event) := by
  cases event with
  | attach interfaces =>
    exact ⟨_, _, _, .attached task.outline interfaces, .of_eq rfl rfl rfl⟩
  | enumerationDone =>
    unfold receiveEvent
    dsimp only
    cases hinterface : task.interface with
    | none => exact ⟨_, _, _, .unknown hinterface, turned_goto ..⟩
    | some interface => exact handles_enterAttached host listener hinterface
  | detach => exact ⟨_, _, _, .detached task.outline, turned_enterUnattached ..⟩
  | transferFailed reason => exact ⟨_, _, _, .failed task.outline reason, turned_enterError ..⟩

theorem handles_enterGetStatus {task : Observed σ} (hstate : task.state = .setInterface) :
    Handles task (.completed .setInterface (.ok ()))
      (task.enterGetStatus host.recorded listener.recorded) := by
  have houtline : task.outline.state = .setInterface := hstate
  have hchecked := keeps_checkPipes (task.goto .getStatus)
  unfold enterGetStatus attempt
  cases hcheck : checkPipes (task.goto .getStatus) with
  | error error after =>
    rw [hcheck] at hchecked
    obtain rfl : after = task.goto .getStatus := hchecked
    exact ⟨_, _, _, .unready houtline,
      (turned_enterError host listener (task.goto .getStatus)).of_goto⟩
  | ok _ after =>
    rw [hcheck] at hchecked
    obtain rfl : after = task.goto .getStatus := hchecked
    exact ⟨_, _, _, .ready houtline, .of_eq rfl rfl rfl⟩

theorem handles_receiveCompletion (request : AttachState) (result : Except DriverError Unit)
    (task : Observed σ) :
    Handles task (.completed request result)
      (task.receiveCompletion host.recorded listener.recorded request result) := by
  unfold receiveCompletion
  by_cases hrequest : request = task.state
  · rw [if_neg (not_not_intro hrequest)]
    subst hrequest
    cases result with
    | error error => exact ⟨_, _, _, .rejected task.outline error, turned_enterError ..⟩
    | ok _ =>
      dsimp only
      by_cases hstate : task.state = .setInterface
      · rw [if_pos hstate, hstate]
        exact handles_enterGetStatus host listener hstate
      · have houtline : task.outline.state ≠ .setInterface := hstate
        rw [if_neg hstate]
        exact ⟨_, _, _, .surplus houtline, .of_eq rfl rfl rfl⟩
  · rw [if_pos hrequest]
    exact ⟨_, _, _, .ignored result hrequest, .of_eq rfl rfl rfl⟩

/-- **What a message does.** -/
theorem turn_receive (message : AttachMessage) (task : Observed σ) :
    Handles task message (task.receive host.recorded listener.recorded message) := by
  cases message with
  | host event => exact handles_receiveEvent host listener event task
  | completed request result => exact handles_receiveCompletion host listener request result task

end

end TensorLink.AttachTask

import TensorLink.Proofs.Accelerator.History
import TensorLink.Proofs.Attach.Turns

/-!
# The connection of an accelerator and its attach task

The attach task holds the class driver in use, and the connection that users look at holds a copy of
it. The copy changes only when the task tells its listener: on entry to `unattached` and to `error`,
and once the selection of the interface has been submitted. In between the two differ: a class
driver is in use before its interface is selected, and a task that fails gives its class driver up
before it tells anyone. They agree again when the message has been handled.

What a message does to both is stated once, beside a view of the world that nothing but the opening
of class drivers changes.

Results:
* `received_receive`: what a message makes of the class driver, of the connection and of the view.
* `mirrors_step`: the connection is a copy after every message.
* `mirrors_perform`: and whatever users do.
* `connection_iff_attach`: so it tells at any time which class driver is in use, and whether the
  task has failed.
-/

namespace TensorLink

open Sequencing

/-- No operation of a host changes a view of the world, but for the opening of class drivers. -/
structure Host.Leaves {κ σ β : Type} (host : Host κ σ) (view : σ → β) : Prop where
  closeClass (interface : Interface) (world : σ) :
    view (host.closeClass interface world) = view world
  openPipe (handle : ClassHandle) (endpoint : Endpoint) :
    Keeps view ((host.transport handle).openPipe endpoint)
  control (handle : ClassHandle) (label : κ) (setup : SetupPacket) (data : Bytes) (world : σ) :
    view ((host.transport handle).control label setup data world).2 = view world

/-- A view of nothing is never changed. -/
theorem Host.leaves_unit {κ σ : Type} (host : Host κ σ) : host.Leaves fun _ => () :=
  ⟨fun _ _ => rfl, fun _ _ _ => rfl, fun _ _ _ _ _ => rfl⟩

namespace PipeSet

variable {σ β : Type} {view : σ → β} {opener : Endpoint → DeviceM σ Unit}

theorem keeps_openPipe (keeps : ∀ endpoint, Keeps view (opener endpoint)) (endpoint : Endpoint) :
    Keeps view (openPipe opener endpoint) := by
  intro state
  have hopened := keeps (adjust endpoint) state
  unfold openPipe
  cases hopener : opener (adjust endpoint) state with
  | ok _ after =>
    rw [hopener] at hopened
    exact hopened
  | error error after =>
    rw [hopener] at hopened
    dsimp only
    split <;> exact hopened

theorem keeps_openAll (keeps : ∀ endpoint, Keeps view (opener endpoint))
    (endpoints : List Endpoint) : Keeps view (openAll opener endpoints) := by
  induction endpoints with
  | nil => exact Keeps.pure _
  | cons endpoint rest ih =>
    exact (keeps_openPipe keeps endpoint).bind fun pipe => ih.bind fun pipes => Keeps.pure _

/-- Opening pipes keeps what opening a single one keeps. -/
theorem keeps_open (keeps : ∀ endpoint, Keeps view (opener endpoint)) (endpoints : List Endpoint) :
    Keeps view (PipeSet.open opener endpoints) := by
  unfold PipeSet.open
  split
  · exact Keeps.throw _
  · exact (keeps_openAll keeps endpoints).bind fun pipes => Keeps.pure _

end PipeSet

namespace AttachTask

variable {σ : Type}

/-- Asks for power or gives it up, without posting the events to which this leads. -/
def request (power : PowerSwitch σ) (enable : Bool) (task : AttachTask σ) :
    Except DriverError (List HostEvent) × AttachTask σ :=
  let users := usersAfter enable task.users
  if drives enable users then
    let (result, world) := power.drive enable task.world
    (result, { task with users, world })
  else (.ok [], { task with users })

/-- A request for power posts the events to which it leads. -/
theorem setPower_eq (power : PowerSwitch σ) (enable : Bool) (task : AttachTask σ) :
    task.setPower power enable =
      match task.request power enable with
      | (.error error, requested) => (.error error, requested)
      | (.ok events, requested) => requested.postAll events := by
  unfold setPower request
  dsimp only
  split
  · split <;> rename_i hdrive <;> rw [hdrive]
  · rfl

end AttachTask

namespace Accelerator

variable {σ β : Type}

/-! ## What a message does -/

/-- The event of the host that a message tells of. -/
def event? : AttachMessage → Option HostEvent
  | .host event => some event
  | .completed _ _ => none

/-- What is followed of an attach task, beside the connection. -/
structure Aspect (β : Type) where
  state : AttachState
  handle : Option ClassHandle
  connection : Connection
  /-- The events of the host that are queued. -/
  events : List HostEvent
  users : Nat
  view : β

/-- The aspect of an attach task. -/
def aspect (view : σ → β) (task : AttachTask (Site σ)) : Aspect β :=
  ⟨task.state, task.handle, task.world.connection, task.inbox.filterMap event?, task.users,
    view task.world.world⟩

/-- The listener has been told of a class driver, or that there is none. -/
def Aspect.told (handle : Option ClassHandle) (aspect : Aspect β) : Aspect β :=
  { aspect with connection := aspect.connection.connect handle }

/-- Nothing is in use any more. -/
def Aspect.gone (aspect : Aspect β) : Aspect β :=
  { aspect.told none with state := .unattached, handle := none }

/-- The task has failed. -/
def Aspect.failed (aspect : Aspect β) : Aspect β :=
  { aspect with state := .error, handle := none, connection := aspect.connection.fail }

/-- A class driver is in use, and its interface has been selected. -/
def Aspect.selected (handle : ClassHandle) (view : β) (aspect : Aspect β) : Aspect β :=
  { aspect.told (some handle) with state := .setInterface, handle := some handle, view }

/-- A message is queued before all others. -/
def Aspect.queued (message : AttachMessage) (aspect : Aspect β) : Aspect β :=
  { aspect with events := (event? message).toList ++ aspect.events }

/-- The connection tells which class driver is in use, and whether the task has failed. -/
def Aspect.Mirrored (aspect : Aspect β) : Prop :=
  aspect.connection = ⟨aspect.handle, aspect.state == .error⟩

/-- What handling a message makes of the aspect of a task. -/
inductive Received (host : Host Waiter σ) (view : σ → β) (world : σ) :
    AttachMessage → Aspect β → Aspect β → Prop where
  | kept {message : AttachMessage} {state : AttachState} (aspect : Aspect β)
      (hmessage : message ≠ .host .detach) (hstate : state ≠ .error) :
    Received host view world message aspect { aspect with state }
  | gone (aspect : Aspect β) : Received host view world (.host .detach) aspect aspect.gone
  /-- A class driver may have been opened before. -/
  | failed (message : AttachMessage) (aspect : Aspect β) (left : β) :
    Received host view world message aspect { aspect.failed with view := left }
  | opened {interface : Interface} {handle : ClassHandle} {mid : σ} (aspect : Aspect β)
      (hopened : host.openClass interface world = .ok handle mid) :
    Received host view world (.host .enumerationDone) aspect (aspect.selected handle (view mid))

section

variable {host : Host Waiter σ} {view : σ → β} {world : σ} {message : AttachMessage}
  {before after : Aspect β}

/-- No message asks for power or gives it up. -/
theorem Received.users_eq (received : Received host view world message before after) :
    after.users = before.users := by cases received <;> rfl

/-- The connection stays a copy when a message is handled. -/
theorem Received.mirrored (received : Received host view world message before after)
    (hstate : before.state ≠ .error) (mirrored : before.Mirrored) : after.Mirrored := by
  have hbefore : before.connection = ⟨before.handle, false⟩ :=
    mirrored.trans (congrArg _ (beq_eq_false_iff_ne.mpr hstate))
  cases received with
  | kept _ hmessage hstate =>
    exact hbefore.trans (congrArg _ (beq_eq_false_iff_ne.mpr hstate).symm)
  | gone => exact congrArg (Connection.connect none) hbefore
  | failed => rfl
  | opened _ hopened => exact congrArg (Connection.connect _) hbefore

end

section

variable (host : Host Waiter σ) {view : σ → β}

/-- What an operation on the world of a site keeps, beside the connection. -/
theorem keeps_focus_world {α : Type} {operation : DeviceM σ α} (keeps : Keeps view operation) :
    Keeps (fun site : Site σ => (site.connection, view site.world))
      (Site.worldPart.focus operation) := by
  intro site
  have hview := keeps site.world
  unfold Part.focus Site.worldPart
  dsimp only
  cases hoperation : operation site.world <;>
    · rw [hoperation] at hview
      exact congrArg (Prod.mk site.connection) hview

theorem aspect_goto (state : AttachState) (task : AttachTask (Site σ)) :
    aspect view (task.goto state) = { aspect view task with state } := rfl

theorem aspect_told (handle : Option ClassHandle) (task : AttachTask (Site σ)) :
    aspect view (task.act (Site.listener.connected handle)) = (aspect view task).told handle := rfl

theorem aspect_deliver (request : AttachState) (result : Except DriverError Unit)
    (task : AttachTask (Site σ)) :
    aspect view (task.deliver request result) = aspect view task := by
  unfold AttachTask.deliver
  split
  · rfl
  · simp only [aspect, List.filterMap_append]
    exact congrArg (Aspect.mk _ _ _ · _ _) (List.append_nil _)

/-- A completion changes the aspect of the attach task for nobody. -/
theorem aspect_delivered (waiter : Waiter) (completion : Completion)
    (accelerator : Accelerator σ) :
    aspect view (accelerator.deliver waiter completion).attach =
      aspect view accelerator.attach := by
  unfold deliver
  split
  · exact aspect_deliver _ _ accelerator.attach
  · rfl
  · rfl

variable (leaves : host.Leaves view)

include leaves

theorem aspect_close (task : AttachTask (Site σ)) :
    aspect view (task.close (siteHost host)) = { aspect view task with handle := none } := by
  obtain ⟨world, state, interface, handle⟩ := task
  cases handle with
  | none => rfl
  | some handle =>
    cases interface with
    | none => rfl
    | some interface => exact congrArg (Aspect.mk _ _ _ _ _) (leaves.closeClass interface _)

theorem aspect_enterError (task : AttachTask (Site σ)) :
    aspect view (task.enterError (siteHost host) Site.listener) = (aspect view task).failed :=
  congrArg (fun aspect : Aspect β => { aspect with connection := aspect.connection.fail })
    (aspect_close host leaves (task.goto .error))

theorem aspect_enterUnattached (task : AttachTask (Site σ)) :
    aspect view (task.enterUnattached (siteHost host) Site.listener) = (aspect view task).gone :=
  congrArg (Aspect.told none) (aspect_close host leaves (task.goto .unattached))

/-- The selection of the interface announces the class driver, if it is not refused. -/
theorem aspect_selectInterface (task : AttachTask (Site σ)) :
    match AttachTask.selectInterface (siteHost host) Site.listener task with
    | .ok _ after => aspect view after = (aspect view task).told task.handle
    | .error _ after => aspect view after = aspect view task := by
  obtain ⟨⟨connection, world⟩, state, interface, handle⟩ := task
  cases interface with
  | none => rfl
  | some interface =>
    cases handle with
    | none => rfl
    | some handle =>
      have hview := leaves.control handle (.attach .setInterface)
        (.setInterface interface.number.toUInt16 0) [] world
      obtain ⟨⟨submission, after⟩, hcall⟩ : ∃ call, (host.transport handle).control
        (.attach .setInterface) (.setInterface interface.number.toUInt16 0) [] world = call :=
          ⟨_, rfl⟩
      rw [hcall] at hview
      have hsite : ((siteHost host).transport handle).control .setInterface
          (.setInterface interface.number.toUInt16 0) [] ⟨connection, world⟩ =
            (submission, ⟨connection, after⟩) :=
        congrArg (Prod.map id (Site.mk connection)) hcall
      unfold AttachTask.selectInterface
      simp only [hsite]
      cases submission with
      | refused error => exact congrArg (Aspect.mk _ _ _ _ _) hview
      | pending =>
        dsimp only
        rw [aspect_told]
        exact congrArg (Aspect.told (some handle)) (congrArg (Aspect.mk _ _ _ _ _) hview)
      | completed result =>
        dsimp only
        rw [aspect_told, aspect_deliver]
        exact congrArg (Aspect.told (some handle)) (congrArg (Aspect.mk _ _ _ _ _) hview)

/-- Opening the device leaves a class driver with its pipes in use, or nothing but the world
    changed. -/
theorem aspect_openDevice (task : AttachTask (Site σ)) :
    match AttachTask.openDevice (siteHost host) task with
    | .ok _ after => ∃ interface handle mid,
      host.openClass interface task.world.world = .ok handle mid ∧ after.handle = some handle ∧
        aspect view after = { aspect view task with handle := some handle, view := view mid }
    | .error _ after =>
      ∃ left, aspect view after = { aspect view task with view := left } := by
  cases hinterface : task.interface with
  | none =>
    unfold AttachTask.openDevice
    rw [get_bind, hinterface]
    exact ⟨_, rfl⟩
  | some interface =>
    rw [AttachTask.openDevice_eq (siteHost host) hinterface]
    cases hclass : host.openClass interface task.world.world with
    | error error world =>
      have hsite : (siteHost host).openClass interface task.world = .error error _ :=
        Part.focus_of_error Site.worldPart task.world hclass
      rw [hsite]
      exact ⟨_, rfl⟩
    | ok handle mid =>
      have hsite : (siteHost host).openClass interface task.world = .ok handle _ :=
        Part.focus_of_ok Site.worldPart task.world hclass
      have hpipes := PipeSet.keeps_open (fun endpoint => keeps_focus_world
        (leaves.openPipe handle endpoint)) interface.endpoints
      have haspect {site : Site σ} (next : Option ClassHandle)
          (hsite : (site.connection, view site.world) = (task.world.connection, view mid)) :
          (⟨task.state, next, site.connection, task.inbox.filterMap event?, task.users,
            view site.world⟩ : Aspect β) =
            { aspect view task with handle := next, view := view mid } := by
        obtain ⟨hconnection, hview⟩ := Prod.mk.inj hsite
        rw [hconnection, hview]
        rfl
      rw [hsite]
      dsimp only
      cases hopen : PipeSet.open ((siteHost host).transport handle).openPipe interface.endpoints
          (Site.worldPart.replace mid task.world) with
      | error error after => exact ⟨view mid, haspect task.handle (hpipes.of_error hopen)⟩
      | ok set after =>
        exact ⟨interface, handle, mid, hclass, rfl, haspect (some handle) (hpipes.of_ok hopen)⟩

/-- A class driver that has been opened is selected, or the task fails. -/
theorem received_enterSetInterface {task : AttachTask (Site σ)} {world mid : σ}
    {interface : Interface} {handle : ClassHandle} {before : Aspect β}
    (hopened : host.openClass interface world = .ok handle mid)
    (hhandle : task.handle = some handle)
    (htask : aspect view task =
      { before with state := .attached, handle := some handle, view := view mid }) :
    Received host view world (.host .enumerationDone) before
      (aspect view (task.enterSetInterface (siteHost host) Site.listener)) := by
  have hselect := aspect_selectInterface host leaves (task.goto .setInterface)
  rw [aspect_goto, htask] at hselect
  unfold AttachTask.enterSetInterface AttachTask.attempt
  split at hselect <;> rename_i hselected
  · rw [hselected]
    dsimp only [id]
    rw [hselect, show (task.goto .setInterface).handle = some handle from hhandle]
    exact .opened before hopened
  · rw [hselected]
    dsimp only
    rw [aspect_enterError host leaves, hselect]
    exact .failed _ before (view mid)

theorem received_enterAttached (task : AttachTask (Site σ)) :
    Received host view task.world.world (.host .enumerationDone) (aspect view task)
      (aspect view (task.enterAttached (siteHost host) Site.listener)) := by
  have hopen := aspect_openDevice host leaves (task.goto .attached)
  unfold AttachTask.enterAttached AttachTask.attempt
  split at hopen <;> rename_i hopened
  · obtain ⟨interface, handle, mid, hclass, hhandle, haspect⟩ := hopen
    rw [hopened]
    exact received_enterSetInterface host leaves hclass hhandle haspect
  · obtain ⟨left, haspect⟩ := hopen
    rw [hopened]
    dsimp only
    rw [aspect_enterError host leaves, haspect]
    exact .failed _ _ left

theorem received_enterGetStatus (message : AttachMessage) (hmessage : message ≠ .host .detach)
    (task : AttachTask (Site σ)) :
    Received host view task.world.world message (aspect view task)
      (aspect view (task.enterGetStatus (siteHost host) Site.listener)) := by
  have hchecked := AttachTask.keeps_checkPipes (task.goto .getStatus)
  unfold AttachTask.enterGetStatus AttachTask.attempt
  cases hcheck : AttachTask.checkPipes (task.goto .getStatus) with
  | error error after =>
    rw [hcheck] at hchecked
    obtain rfl : after = task.goto .getStatus := hchecked
    dsimp only
    rw [aspect_enterError host leaves]
    exact .failed message _ _
  | ok _ after =>
    rw [hcheck] at hchecked
    obtain rfl : after = task.goto .getStatus := hchecked
    exact .kept _ hmessage fun h => by cases h

/-- **Message.** What handling a message makes of the aspect of a task that has not failed. -/
theorem received_receive (message : AttachMessage) {task : AttachTask (Site σ)}
    (hstate : task.state ≠ .error) :
    Received host view task.world.world message (aspect view task)
      (aspect view (task.receive (siteHost host) Site.listener message)) := by
  have kept {message : AttachMessage} (hmessage : message ≠ .host .detach) :
      Received host view task.world.world message (aspect view task) (aspect view task) :=
    .kept _ hmessage hstate
  have failed (message : AttachMessage) :
      Received host view task.world.world message (aspect view task)
        (aspect view (task.enterError (siteHost host) Site.listener)) := by
    rw [aspect_enterError host leaves]
    exact .failed message _ _
  cases message with
  | host event =>
    cases event with
    | attach interfaces => exact kept (by simp)
    | enumerationDone =>
      show Received host view _ _ _ (aspect view (if task.interface.isSome then _ else _))
      split
      · exact received_enterAttached host leaves task
      · exact .kept _ (by simp) fun h => by cases h
    | detach =>
      show Received host view _ _ _ (aspect view (task.enterUnattached _ _))
      rw [aspect_enterUnattached host leaves]
      exact .gone _
    | transferFailed reason => exact failed _
  | completed request result =>
    show Received host view _ _ _ (aspect view (task.receiveCompletion _ _ _ _))
    unfold AttachTask.receiveCompletion
    split
    · exact kept (by simp)
    · cases result with
      | error error => exact failed _
      | ok _ =>
        dsimp only
        split
        · exact received_enterGetStatus host leaves _ (by simp) task
        · exact kept (by simp)

/-- A step does nothing, or handles the oldest message. -/
theorem step_cases (task : AttachTask (Site σ)) :
    task.step (siteHost host) Site.listener = task ∨ ∃ message before,
      before.state ≠ .error ∧ aspect view task = before.queued message ∧
        Received host view task.world.world message before
          (aspect view (task.step (siteHost host) Site.listener)) := by
  by_cases hstate : task.state = .error
  · exact .inl (AttachTask.step_error _ _ hstate)
  · unfold AttachTask.step
    rw [if_neg hstate]
    cases hinbox : task.inbox with
    | nil => exact .inl rfl
    | cons message rest =>
      have hrest : { task with inbox := rest }.state ≠ .error := hstate
      refine .inr ⟨message, aspect view { task with inbox := rest }, hstate, ?_,
        received_receive host leaves message hrest⟩
      unfold aspect Aspect.queued
      rw [hinbox, List.filterMap_cons]
      cases event? message <;> rfl

end

/-! ## The connection is a copy -/

/-- The connection of a task tells which class driver is in use, and whether the task has failed. -/
def Mirrors (task : AttachTask (Site σ)) : Prop :=
  task.world.connection = ⟨task.handle, task.state == .error⟩

section

variable (host : Host Waiter σ) (power : PowerSwitch σ)

/-- **Message.** The connection is a copy after every message. -/
theorem mirrors_step {task : AttachTask (Site σ)} (mirrors : Mirrors task) :
    Mirrors (task.step (siteHost host) Site.listener) := by
  obtain hidle | ⟨message, before, hstate, hbefore, received⟩ :=
    step_cases host host.leaves_unit task
  · rw [hidle]
    exact mirrors
  · have hmirrored : (aspect (fun _ => ()) task).Mirrored := mirrors
    rw [hbefore] at hmirrored
    exact received.mirrored hstate hmirrored

theorem mirrors_handle? (count : Nat) {task : AttachTask (Site σ)} (mirrors : Mirrors task) :
    Mirrors (task.handle? (siteHost host) Site.listener count) := by
  induction count generalizing task with
  | zero => exact mirrors
  | succ count ih => exact ih (mirrors_step host mirrors)

theorem mirrors_post (event : HostEvent) {task : AttachTask (Site σ)} (mirrors : Mirrors task) :
    Mirrors (task.post event).2 := by
  unfold AttachTask.post
  split <;> exact mirrors

theorem mirrors_postAll (events : List HostEvent) {task : AttachTask (Site σ)}
    (mirrors : Mirrors task) : Mirrors (task.postAll events).2 := by
  induction events generalizing task with
  | nil => exact mirrors
  | cons event rest ih =>
    have hposted := mirrors_post event mirrors
    unfold AttachTask.postAll
    cases hpost : task.post event with
    | mk outcome posted =>
      rw [hpost] at hposted
      cases outcome with
      | error error => exact hposted
      | ok _ => exact ih hposted

theorem mirrors_request (enable : Bool) {task : AttachTask (Site σ)} (mirrors : Mirrors task) :
    Mirrors (task.request (siteSwitch power) enable).2 := by
  unfold AttachTask.request
  dsimp only
  split <;> exact mirrors

theorem mirrors_setPower (enable : Bool) {task : AttachTask (Site σ)} (mirrors : Mirrors task) :
    Mirrors (task.setPower (siteSwitch power) enable).2 := by
  have hrequest := mirrors_request power enable mirrors
  rw [AttachTask.setPower_eq]
  cases hresult : task.request (siteSwitch power) enable with
  | mk outcome requested =>
    rw [hresult] at hrequest
    cases outcome with
    | error error => exact hrequest
    | ok events => exact mirrors_postAll events hrequest

/-! ## Whatever users do -/

/-- What every step keeps is kept until the connection is decided. -/
theorem approach_of_step (kept : Accelerator σ → Prop)
    (hstep : ∀ accelerator, kept accelerator → kept (accelerator.step host)) (count : Nat)
    {accelerator : Accelerator σ} (h : kept accelerator) :
    kept (approach host count accelerator) := by
  induction count generalizing accelerator with
  | zero => exact h
  | succ count ih =>
    rw [approach]
    split
    · exact h
    · exact ih (hstep accelerator h)

theorem mirrors_bringUp (handle : ClassHandle) (mode : PerformanceMode)
    {accelerator : Accelerator σ} (mirrors : Mirrors accelerator.attach) :
    Mirrors (accelerator.bringUp host handle mode).2.attach := by
  unfold bringUp
  dsimp only
  split <;> exact mirrors

theorem mirrors_connect (mode : PerformanceMode) {accelerator : Accelerator σ}
    (mirrors : Mirrors accelerator.attach) :
    Mirrors (accelerator.connect host mode).2.attach := by
  have happroached := approach_of_step host (fun accelerator => Mirrors accelerator.attach)
    (fun _ => mirrors_step host) (2 * accelerator.attach.inbox.length) mirrors
  unfold connect
  dsimp only
  split
  · exact happroached
  · exact mirrors_bringUp host _ mode happroached

theorem mirrors_openDevice (mode : PerformanceMode) {accelerator : Accelerator σ}
    (mirrors : Mirrors accelerator.attach) :
    Mirrors (accelerator.openDevice host power mode).2.attach := by
  unfold openDevice
  split
  · exact mirrors
  · have hpower : Mirrors (accelerator.setPower power true).2.attach :=
      mirrors_setPower power true mirrors
    split <;> rename_i hpowered <;> rw [hpowered] at hpower
    · exact hpower
    · have hconnected := mirrors_connect host mode hpower
      split <;> rename_i hconnect <;> rw [hconnect] at hconnected
      · exact hconnected
      · exact mirrors_setPower power false hconnected

theorem mirrors_closeDevice (number : Nat) {accelerator : Accelerator σ}
    (mirrors : Mirrors accelerator.attach) :
    Mirrors (accelerator.closeDevice power number).attach := by
  unfold closeDevice
  split
  · exact mirrors
  · split
    · exact mirrors
    · split
      · exact mirrors
      · exact mirrors_setPower power false mirrors

theorem attach_register {accelerator registered : Accelerator σ} {id : PackageId} {buffer : Bytes}
    (hregister : accelerator.register id buffer = .ok registered) :
    registered.attach = accelerator.attach := by
  obtain ⟨registry, -, hregistered⟩ := bind_ok_iff.mp hregister
  cases hregistered
  rfl

/-- **Action.** Whatever a user does and whatever happens to the world, the connection stays a
    copy. -/
theorem mirrors_perform (action : Action σ) {accelerator : Accelerator σ}
    (mirrors : Mirrors accelerator.attach) :
    Mirrors (accelerator.perform host power action).attach := by
  cases action with
  | register id buffer =>
    unfold perform
    dsimp only
    split
    · exact mirrors
    · rw [attach_register ‹_›]
      exact mirrors
  | openDevice mode => exact mirrors_openDevice host power mode mirrors
  | closeDevice number => exact mirrors_closeDevice power number mirrors
  | invoke id input outputs =>
    show Mirrors (accelerator.invoke host id input outputs).accelerator.attach
    unfold invoke
    split <;> exact mirrors
  | temperature =>
    show Mirrors (accelerator.temperature host).2.attach
    unfold temperature
    split <;> exact mirrors
  | operate operation =>
    show Mirrors (accelerator.onDevice operation).2.attach
    unfold onDevice
    split <;> exact mirrors
  | setPower enable => exact mirrors_setPower power enable mirrors
  | post event => exact mirrors_post event mirrors
  | step => exact mirrors_step host mirrors
  | settle => exact mirrors_handle? host _ mirrors
  | deliver waiter completion =>
    have haspect : aspect (fun _ => ()) (accelerator.deliver waiter completion).attach = _ :=
      aspect_delivered waiter completion accelerator
    exact (congrArg Aspect.Mirrored haspect).mpr mirrors
  | change world => exact mirrors

/-- **Run.** Whatever happens to an accelerator and its users, in any order: the connection has the
    class driver that the attach task has in use, and has failed exactly if the task has. -/
theorem connection_iff_attach (config : DriverConfig) (world : σ) (actions : List (Action σ)) :
    let start : Accelerator σ := { config, attach := { world := { world } } }
    let accelerator := actions.foldl (perform host power) start
    (∀ handle, accelerator.attach.world.connection.handle = some handle ↔
      accelerator.attach.handle = some handle) ∧
    (accelerator.attach.world.connection.failed = true ↔ accelerator.attach.state = .error) := by
  intro start accelerator
  have hstart : Mirrors start.attach := rfl
  have hmirrors : Mirrors accelerator.attach :=
    List.foldlRecOn actions (perform host power)
      (motive := fun accelerator => Mirrors accelerator.attach) hstart
      fun _ mirrors action _ => mirrors_perform host power action mirrors
  rw [show accelerator.attach.world.connection = _ from hmirrors]
  exact ⟨fun _ => Iff.rfl, beq_iff_eq⟩

end

end Accelerator

end TensorLink

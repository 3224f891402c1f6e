import TensorLink.Proofs.Accelerator.Numbering
import TensorLink.Proofs.Accelerator.PowerBalance

/-!
# Where a context has its class driver from

Whoever opens a device switches power on and waits for the connection. A device that is plugged in
by its power switch leads to a new class driver, but not at once: the switch tells the attach task,
and until the task has handled that the device of the last session was pulled out, the connection
still has the class driver of that session. A user who looks at the connection in between takes it
for the new one.

The events of the switch alternate, and the attach task handles them in order. So there is never a
second class driver while one is in use, and the class driver of the last session is gone from the
connection before a new one is there.

Results:
* `InStep.received`: what a message keeps of the agreement between the attach task and the switch.
* `sourced_move`: what every move keeps.
* `issued_iff_vacant`: the class driver of a context was opened after power had been asked for,
  exactly if the connection has been empty at some time since.
-/

namespace TensorLink

variable {σ : Type}

/-! ## The events of the switch -/

/-- How far the attach task has been told that a device is plugged in. -/
inductive PlugPhase where
  | out
  /-- The interfaces of the device are known. -/
  | attached
  | enumerated
  deriving DecidableEq

namespace PlugPhase

/-- The phase after an event, if the event may come in this phase. -/
def next? : PlugPhase → HostEvent → Option PlugPhase
  | out, .attach _ => some attached
  | attached, .enumerationDone => some enumerated
  | enumerated, .detach => some out
  | _, _ => none

/-- The phase after events, if they may come in this order. -/
def after? (phase : PlugPhase) (events : List HostEvent) : Option PlugPhase :=
  events.foldlM next? phase

/-- The phase that so many users have asked for. -/
def ofUsers (users : Nat) : PlugPhase := if 0 < users then enumerated else out

theorem after?_cons_eq_some_iff {phase final : PlugPhase} {event : HostEvent}
    {rest : List HostEvent} :
    phase.after? (event :: rest) = some final ↔
      ∃ mid, phase.next? event = some mid ∧ mid.after? rest = some final := by
  rw [after?, List.foldlM_cons]
  exact Option.bind_eq_some_iff

theorem after?_append {phase mid : PlugPhase} {events : List HostEvent}
    (h : phase.after? events = some mid) (rest : List HostEvent) :
    phase.after? (events ++ rest) = mid.after? rest := by
  rw [after?, List.foldlM_append, show events.foldlM next? phase = some mid from h]
  rfl

end PlugPhase

/-- The events to which a request leads that a plug is asked for. -/
def plugEvents (interfaces : List Interface) (enable : Bool) (users : Nat) : List HostEvent :=
  if AttachTask.drives enable (AttachTask.usersAfter enable users) then
    if enable then [.attach interfaces, .enumerationDone] else [.detach]
  else []

/-- The events lead from one phase to the other. -/
theorem after?_plugEvents (interfaces : List Interface) {enable : Bool} {users : Nat}
    (hheld : enable = false → 0 < users) :
    (PlugPhase.ofUsers users).after? (plugEvents interfaces enable users) =
      some (PlugPhase.ofUsers (AttachTask.usersAfter enable users)) := by
  cases enable with
  | true => cases users <;> rfl
  | false =>
    obtain ⟨users, rfl⟩ := Nat.exists_eq_add_one.mpr (hheld rfl)
    cases users <;> rfl

namespace Accelerator

theorem request_plug (interfaces : List Interface) (enable : Bool) (accelerator : Accelerator σ) :
    accelerator.request (.plug σ interfaces) enable =
      (.ok (plugEvents interfaces enable accelerator.users),
        { accelerator with
          attach := { accelerator.attach with
            users := AttachTask.usersAfter enable accelerator.users } }) := by
  show attachPart.run (AttachTask.request (siteSwitch _) enable) accelerator = _
  unfold Part.run attachPart AttachTask.request plugEvents users
  dsimp only
  split <;> rfl

/-- An event is posted behind all others, unless the task has failed. -/
theorem post_cases {β : Type} (view : σ → β) (event : HostEvent) (accelerator : Accelerator σ) :
    accelerator.attach.state = .error ∧
        accelerator.post event = (.error (.invalidState "attach task stopped"), accelerator) ∨
      ∃ posted, accelerator.post event = (.ok (), posted) ∧ aspect view posted.attach =
        { aspect view accelerator.attach with
          events := (aspect view accelerator.attach).events ++ [event] } := by
  unfold post Part.run attachPart
  dsimp only
  by_cases hstate : accelerator.attach.state = .error
  · rw [AttachTask.post_error event hstate]
    exact .inl ⟨hstate, rfl⟩
  · unfold AttachTask.post
    rw [if_neg hstate]
    refine .inr ⟨_, rfl, ?_⟩
    unfold aspect
    rw [List.filterMap_append]
    rfl

/-- Bringing up a chip leaves the attach task alone. -/
theorem aspect_bringUp {β : Type} {host : Host Waiter σ} {view : σ → β} (leaves : host.Leaves view)
    (handle : ClassHandle) (mode : PerformanceMode) (accelerator : Accelerator σ) :
    aspect view (accelerator.bringUp host handle mode).2.attach =
      aspect view accelerator.attach := by
  have hview := view_bringUp leaves handle mode accelerator
  unfold bringUp at hview ⊢
  dsimp only at hview ⊢
  split at hview <;> exact congrArg (Aspect.mk _ _ _ _ _) hview

theorem handle_bringUp {host : Host Waiter σ} {handle : ClassHandle} {mode : PerformanceMode}
    {accelerator : Accelerator σ} {context : DeviceContext}
    (hbrought : (accelerator.bringUp host handle mode).1 = .ok context) :
    context.handle = handle := by
  unfold bringUp at hbrought
  dsimp only at hbrought
  split at hbrought
  · cases hbrought
  · cases hbrought
    rfl

/-! ## The attach task and the switch -/

/-- The attach task is in step with a switch that has still to post some events. -/
structure InStep (aspect : Aspect Nat) (coming : List HostEvent) : Prop where
  mirrored : aspect.Mirrored
  /-- The class driver in use is one of those that have been opened. -/
  number_lt (handle : ClassHandle) : aspect.handle = some handle → handle.number < aspect.view
  /-- The events that are on their way lead to what the users have asked for, and a class driver is
      in use only while a device is plugged in. -/
  phase : aspect.state ≠ .error → ∃ phase : PlugPhase,
    phase.after? (aspect.events ++ coming) = some (.ofUsers aspect.users) ∧
      (aspect.handle.isSome → phase = .enumerated)

section

variable {host : Host Waiter σ} {count : σ → Nat} {world : σ} {message : AttachMessage}
  {before after : Aspect Nat} {coming : List HostEvent}

/-- What the oldest message leads to. -/
theorem InStep.oldest (inStep : InStep (before.queued message) coming)
    (hstate : before.state ≠ .error) :
    ∃ phase : PlugPhase, phase.after? (before.events ++ coming) = some (.ofUsers before.users) ∧
      (before.handle.isSome → message ≠ .host .detach → phase = .enumerated) ∧
      (message = .host .enumerationDone → phase = .enumerated ∧ before.handle = none) := by
  obtain ⟨phase, hafter, hphase⟩ := inStep.phase hstate
  cases message with
  | completed request result =>
    exact ⟨phase, hafter, fun hhandle _ => hphase hhandle, fun h => by cases h⟩
  | host event =>
    obtain ⟨mid, hnext, hrest⟩ := PlugPhase.after?_cons_eq_some_iff.mp hafter
    refine ⟨mid, hrest, fun hhandle hmessage => ?_, fun h => ?_⟩
    · rw [hphase hhandle] at hnext
      cases event <;> simp_all [PlugPhase.next?]
    · cases h
      cases phase with
      | attached =>
        refine ⟨(Option.some.inj hnext).symm, Option.not_isSome_iff_eq_none.mp fun hhandle => ?_⟩
        cases hphase hhandle
      | out => cases hnext
      | enumerated => cases hnext

/-- **Message.** The attach task stays in step with the switch. -/
theorem InStep.received (inStep : InStep (before.queued message) coming)
    (hstate : before.state ≠ .error) (counts : host.Counts count)
    (received : Received host count world message before after) : InStep after coming := by
  have hmirrored : after.Mirrored := received.mirrored hstate inStep.mirrored
  obtain ⟨phase, hafter, hphase, hdone⟩ := inStep.oldest hstate
  cases received with
  | kept _ hmessage _ =>
    exact ⟨hmirrored, inStep.number_lt, fun _ => ⟨phase, hafter, fun h => hphase h hmessage⟩⟩
  | gone =>
    exact ⟨hmirrored, fun _ h => (by cases h), fun _ => ⟨phase, hafter, fun h => by cases h⟩⟩
  | failed => exact ⟨hmirrored, fun _ h => (by cases h), fun h => absurd rfl h⟩
  | opened _ hopened =>
    obtain ⟨hnumber, hcount⟩ := counts.openClass hopened
    refine ⟨hmirrored, fun handle h => ?_, fun _ => ⟨phase, hafter, fun _ => (hdone rfl).1⟩⟩
    cases h
    show _ < count _
    omega

/-- What is known while the connection is waited for: how many class drivers had been opened when
    power was asked for, and whether the connection has been empty since. -/
structure Awaiting (asked : Nat) (vacant : Bool) (aspect : Aspect Nat) : Prop where
  asked_le : aspect.state ≠ .error → asked ≤ aspect.view
  issued_iff (handle : ClassHandle) : aspect.handle = some handle →
    (asked ≤ handle.number ↔ vacant = true)
  vacant_of_none : aspect.handle = none → vacant = true

variable {asked : Nat} {vacant : Bool}

theorem Awaiting.of_eq (awaiting : Awaiting asked vacant before)
    (hstate : after.state = before.state) (hhandle : after.handle = before.handle)
    (hview : after.view = before.view) : Awaiting asked vacant after := by
  obtain ⟨hasked, hissued, hvacant⟩ := awaiting
  rw [← hstate, ← hview] at hasked
  rw [← hhandle] at hissued hvacant
  exact ⟨hasked, hissued, hvacant⟩

/-- Noting that the connection is empty changes nothing that is known. -/
theorem Awaiting.note (awaiting : Awaiting asked vacant before) :
    Awaiting asked (vacant || before.handle.isNone) before := by
  refine ⟨awaiting.asked_le, fun handle h => ?_, fun h => ?_⟩
  · rw [h, Option.isNone_some, Bool.or_false]
    exact awaiting.issued_iff handle h
  · rw [h]
    exact Bool.or_true vacant

/-- **Message.** A class driver that is opened while the connection is waited for finds it empty. -/
theorem Awaiting.received (awaiting : Awaiting asked vacant (before.queued message))
    (inStep : InStep (before.queued message) coming) (hstate : before.state ≠ .error)
    (hview : before.view = count world) (counts : host.Counts count)
    (received : Received host count world message before after) :
    Awaiting asked (vacant || after.handle.isNone) after := by
  obtain ⟨hasked, hissued, hvacant⟩ := awaiting
  have hle : asked ≤ before.view := hasked hstate
  cases received with
  | kept => exact Awaiting.note ⟨fun _ => hle, hissued, hvacant⟩
  | gone => exact ⟨fun _ => hle, fun _ h => (by cases h), fun _ => Bool.or_true vacant⟩
  | failed => exact ⟨fun h => absurd rfl h, fun _ h => (by cases h), fun _ => Bool.or_true vacant⟩
  | opened _ hopened =>
    obtain ⟨phase, -, -, hdone⟩ := inStep.oldest hstate
    obtain ⟨hnumber, hcount⟩ := counts.openClass hopened
    have hempty : vacant = true := hvacant (hdone rfl).2
    refine ⟨fun _ => ?_, fun handle h => ?_, fun h => by cases h⟩
    · show asked ≤ count _
      omega
    · cases h
      refine iff_of_true ?_ (by rw [hempty]; rfl)
      omega

end

end Accelerator

namespace Scene

open Accelerator

/-! ## What every move keeps -/

/-- A class driver was opened after power had been asked for, exactly if the connection has been
    empty since. -/
def Issued (count : σ → Nat) (opening : Opening σ) (handle : ClassHandle) : Prop :=
  count opening.asked.world ≤ handle.number ↔ opening.vacant = true

/-- What is known of a user who opens the device and has come to some stage. -/
def Following (count : σ → Nat) (aspect : Aspect Nat) (opening : Opening σ) : Stage → Prop
  | .powering | .waiting => Awaiting (count opening.asked.world) opening.vacant aspect
  | .connected handle => Issued count opening handle
  | .failed _ | .returning _ => True

theorem Following.of_eq {count : σ → Nat} {before after : Aspect Nat} {opening : Opening σ}
    {stage : Stage} (following : Following count before opening stage)
    (hstate : after.state = before.state) (hhandle : after.handle = before.handle)
    (hview : after.view = before.view) : Following count after opening stage := by
  cases stage with
  | powering | waiting => exact Awaiting.of_eq following hstate hhandle hview
  | connected handle => exact following
  | failed error | returning error => trivial

/-- What is known of a scene in which power is switched by a plug. -/
structure Sourced (count : σ → Nat) (scene : Scene σ) : Prop where
  inStep : InStep (aspect count scene.accelerator.attach) (scene.driving.getD [])
  following : ∀ opening, scene.opening = some opening →
    Following count (aspect count scene.accelerator.attach) opening opening.stage
  issued : ∀ context opening, .opened context opening ∈ scene.returned →
    Issued count opening context.handle

variable {count : σ → Nat} {scene : Scene σ}

/-- An accelerator of the same aspect takes the place of another. -/
theorem Sourced.of_aspect (sourced : Sourced count scene) {accelerator : Accelerator σ}
    (haspect : aspect count accelerator.attach = aspect count scene.accelerator.attach) :
    Sourced count { scene with accelerator } := by
  obtain ⟨hinStep, hfollowing, hissued⟩ := sourced
  rw [← haspect] at hinStep hfollowing
  exact ⟨hinStep, hfollowing, hissued⟩

/-- A user goes on. -/
theorem Sourced.goOn (sourced : Sourced count scene) {opening : Opening σ}
    (hfollowing : Following count (aspect count scene.accelerator.attach) opening opening.stage) :
    Sourced count { scene with opening := some opening } :=
  ⟨sourced.inStep, fun _ h => Option.some.inj h ▸ hfollowing, sourced.issued⟩

/-- An opening ends. -/
theorem Sourced.finish (sourced : Sourced count scene) {result : Return σ}
    (hissued : ∀ context opening, result = .opened context opening →
      Issued count opening context.handle) :
    Sourced count (scene.finish result) := by
  refine ⟨sourced.inStep, fun _ h => (by cases h), fun context opening h => ?_⟩
  obtain h | h := List.mem_append.mp h
  · exact sourced.issued context opening h
  · exact hissued context opening (List.mem_singleton.mp h).symm

theorem sourced_conclude (result : Except DriverError Unit)
    (sourced : Sourced count { scene with driving := none }) :
    Sourced count (scene.conclude result) := by
  unfold conclude
  dsimp only
  split
  · exact sourced
  · rename_i opening hopening
    have hfollowing := sourced.following opening hopening
    split <;> rename_i hstage
    · rw [hstage] at hfollowing
      exact sourced.goOn hfollowing
    · exact sourced.finish fun _ _ h => by cases h
    · exact sourced.finish fun _ _ h => by cases h
    · exact sourced

/-- Posting an event of the switch keeps the order of the events, or the task has failed. -/
theorem sourced_drive (sourced : Sourced count scene) : Sourced count scene.drive := by
  obtain ⟨hinStep, hfollowing, hissued⟩ := sourced
  unfold drive
  split
  · exact ⟨hinStep, hfollowing, hissued⟩
  · rename_i hdriving
    rw [hdriving] at hinStep
    exact sourced_conclude _ ⟨hinStep, hfollowing, hissued⟩
  · rename_i event rest hdriving
    rw [hdriving] at hinStep
    obtain ⟨hstate, hpost⟩ | ⟨posted, hpost, haspect⟩ := post_cases count event scene.accelerator
    · rw [hpost]
      refine sourced_conclude _ ⟨⟨hinStep.mirrored, hinStep.number_lt, fun h => ?_⟩, hfollowing,
        hissued⟩
      exact absurd hstate h
    · rw [hpost]
      refine ⟨?_, fun opening hopening => ?_, hissued⟩
      · show InStep (aspect count posted.attach) rest
        rw [haspect]
        refine ⟨hinStep.mirrored, hinStep.number_lt, fun h => ?_⟩
        obtain ⟨phase, hafter, hphase⟩ := hinStep.phase h
        exact ⟨phase, by simpa using hafter, hphase⟩
      · have hbefore := hfollowing opening hopening
        show Following count (aspect count posted.attach) opening opening.stage
        rw [haspect]
        exact hbefore.of_eq rfl rfl rfl

theorem sourced_drop (sourced : Sourced count scene) : Sourced count scene.drop := by
  unfold drop
  split
  · exact sourced
  · split
    · exact sourced.of_aspect rfl
    · exact ⟨sourced.inStep, sourced.following, sourced.issued⟩

theorem await_eq_ok_iff {connection : Connection} {limit : Nat} {handle : ClassHandle} :
    connection.await limit = .ok handle ↔
      connection.failed = false ∧ connection.handle = some handle := by
  unfold Connection.await
  cases connection.failed <;> cases connection.handle <;> simp

theorem sourced_look (late : Bool) (sourced : Sourced count scene) :
    Sourced count (scene.look late) := by
  unfold look
  split
  · exact sourced
  · rename_i opening hopening
    split
    · rename_i hstage
      split
      · split <;> rename_i hawait
        · refine sourced.goOn ?_
          have hfollowing := sourced.following opening hopening
          rw [hstage] at hfollowing
          have hconnection : scene.accelerator.connection = _ := sourced.inStep.mirrored
          have hhandle := (await_eq_ok_iff.mp hawait).2
          rw [hconnection] at hhandle
          exact hfollowing.issued_iff _ hhandle
        · exact sourced.goOn trivial
      · exact sourced
    · exact sourced

/-- What a step keeps, with a note of whether it has left the connection empty. -/
theorem inStep_step {host : Host Waiter σ} (counts : host.Counts count) {coming : List HostEvent}
    {accelerator : Accelerator σ} (inStep : InStep (aspect count accelerator.attach) coming) :
    let after := aspect count (accelerator.step host).attach
    InStep after coming ∧ ∀ asked vacant, Awaiting asked vacant (aspect count accelerator.attach) →
      Awaiting asked (vacant || after.handle.isNone) after := by
  intro after
  obtain hidle | ⟨message, before, hstate, hbefore, received⟩ :=
    step_cases host counts.toLeaves accelerator.attach
  · have hafter : after = aspect count accelerator.attach := congrArg (aspect count) hidle
    rw [hafter]
    exact ⟨inStep, fun asked vacant awaiting => awaiting.note⟩
  · have hview : before.view = count accelerator.attach.world.world :=
      (congrArg Aspect.view hbefore).symm
    rw [hbefore] at inStep ⊢
    exact ⟨inStep.received hstate counts received,
      fun asked vacant awaiting => awaiting.received inStep hstate hview counts received⟩

/-- **Message.** Whether the connection is empty is noted after every message. -/
theorem sourced_step {host : Host Waiter σ} (counts : host.Counts count)
    (sourced : Sourced count scene) :
    Sourced count { scene with accelerator := scene.accelerator.step host }.note := by
  obtain ⟨hinStep, hfollowing, hissued⟩ := sourced
  obtain ⟨hafter, hawaiting⟩ := inStep_step counts hinStep
  have hconnection : (scene.accelerator.step host).connection.handle =
      (aspect count (scene.accelerator.step host).attach).handle :=
    congrArg Connection.handle hafter.mirrored
  unfold note
  split
  · rename_i hopening
    exact ⟨hafter, fun opening h => (by cases hopening.symm.trans h), hissued⟩
  · rename_i opening hopening
    have hbefore := hfollowing opening hopening
    rw [hconnection]
    cases hstage : opening.stage with
    | powering | waiting =>
      rw [hstage] at hbefore
      refine ⟨hafter, fun noted h => ?_, hissued⟩
      cases h
      exact hawaiting _ _ hbefore
    | connected handle | failed error | returning error =>
      rw [hstage] at hbefore
      refine ⟨hafter, fun same h => ?_, hissued⟩
      cases hopening.symm.trans h
      rw [hstage]
      exact hbefore

section

variable {interfaces : List Interface}

/-- A request keeps in step with the switch that it drives. -/
theorem inStep_request (enable : Bool) (hheld : enable = false → 0 < scene.accelerator.users)
    (hdriving : scene.driving = none) (sourced : Sourced count scene) :
    InStep { aspect count scene.accelerator.attach with
        users := AttachTask.usersAfter enable scene.accelerator.users }
      (plugEvents interfaces enable scene.accelerator.users) := by
  obtain ⟨hmirrored, hnumber, hphase⟩ := sourced.inStep
  refine ⟨hmirrored, hnumber, fun h => ?_⟩
  obtain ⟨phase, hafter, hphase⟩ := hphase h
  rw [hdriving, Option.getD_none, List.append_nil] at hafter
  exact ⟨phase, (PlugPhase.after?_append hafter _).trans (after?_plugEvents interfaces hheld),
    hphase⟩

theorem sourced_release (hheld : 0 < scene.accelerator.users) (hdriving : scene.driving = none)
    (sourced : Sourced count scene) :
    Sourced count (scene.release (.plug σ interfaces)) := by
  unfold release
  rw [request_plug]
  refine ⟨inStep_request false (fun _ => hheld) hdriving sourced, fun opening hopening => ?_,
    sourced.issued⟩
  exact (sourced.following opening hopening).of_eq rfl rfl rfl

theorem sourced_giveUp (balanced : Balanced scene) (sourced : Sourced count scene) :
    Sourced count (scene.giveUp (.plug σ interfaces)) := by
  unfold giveUp
  split
  · rename_i opening hopening hdriving
    split
    · rename_i error hstage
      have hheld := held_of_opening hopening
      have husers := balanced.users_eq
      rw [hheld, hstage] at husers
      refine sourced_release ?_ hdriving (sourced.goOn trivial)
      show 0 < scene.accelerator.users
      rw [husers]
      show 0 < scene.alive + 1 + scene.leaving + scene.refusals
      omega
    · exact sourced
  · exact sourced

theorem sourced_leave (balanced : Balanced scene) (sourced : Sourced count scene) :
    Sourced count (scene.leave (.plug σ interfaces)) := by
  unfold leave
  split
  · rename_i leaving hleaving hdriving
    have hsourced : Sourced count { scene with leaving } :=
      ⟨sourced.inStep, sourced.following, sourced.issued⟩
    refine sourced_release ?_ hdriving hsourced
    have husers := balanced.users_eq
    show 0 < scene.accelerator.users
    omega
  · exact sourced

/-- Whoever asks for power notes whether the connection is empty then. -/
theorem sourced_openDevice (mode : PerformanceMode) (sourced : Sourced count scene) :
    Sourced count (scene.openDevice (.plug σ interfaces) mode) := by
  unfold openDevice
  split
  · refine Sourced.finish (sourced.of_aspect ?_) fun _ _ h => ?_
    · rfl
    · cases h
  · rename_i hopening hdevice hdriving
    rw [request_plug]
    refine ⟨inStep_request true nofun hdriving sourced, fun opening h => ?_, sourced.issued⟩
    cases h
    have hconnection : scene.accelerator.connection.handle = scene.accelerator.attach.handle :=
      congrArg Connection.handle sourced.inStep.mirrored
    refine ⟨fun _ => Nat.le_refl _, fun handle hhandle => iff_of_false ?_ ?_, fun hnone => ?_⟩
    · exact Nat.not_le_of_lt (sourced.inStep.number_lt handle hhandle)
    · show ¬scene.accelerator.connection.handle.isNone = true
      rw [hconnection, show scene.accelerator.attach.handle = some handle from hhandle]
      exact Bool.false_ne_true
    · show scene.accelerator.connection.handle.isNone = true
      rw [hconnection, show scene.accelerator.attach.handle = none from hnone]
      rfl
  · exact sourced

theorem sourced_bringUp {host : Host Waiter σ} (counts : host.Counts count)
    (sourced : Sourced count scene) : Sourced count (scene.bringUp host) := by
  unfold bringUp
  split
  · exact sourced
  · rename_i opening hopening
    split
    · rename_i handle hstage
      have hfollowing := sourced.following opening hopening
      rw [hstage] at hfollowing
      have hbrought : Sourced count { scene with
          accelerator := (scene.accelerator.bringUp host handle opening.mode).2 } :=
        sourced.of_aspect (aspect_bringUp counts.toLeaves handle opening.mode scene.accelerator)
      dsimp only
      split <;> rename_i hresult
      · refine hbrought.finish fun context opening h => ?_
        cases h
        rw [handle_bringUp hresult]
        exact hfollowing
      · exact hbrought.goOn trivial
    · exact sourced

variable {host : Host Waiter σ}

/-- Nothing but the switch announces events of the host, and no class driver is opened in passing.
-/
def Move.Plain (count : σ → Nat) : Move σ → Prop
  | .announce _ => False
  | .change world => ∀ state, count (world state) = count state
  | _ => True

/-- **Move.** Every move keeps what is known. -/
theorem sourced_move (counts : host.Counts count) (balanced : Balanced scene)
    (sourced : Sourced count scene) {next : Move σ} (plain : next.Plain count) :
    Sourced count (scene.move host (.plug σ interfaces) next) := by
  cases next with
  | openDevice mode => exact sourced_openDevice mode sourced
  | drive => exact sourced_drive sourced
  | look late => exact sourced_look late sourced
  | bringUp => exact sourced_bringUp counts sourced
  | giveUp => exact sourced_giveUp balanced sourced
  | clone => exact sourced.of_aspect rfl
  | drop => exact sourced_drop sourced
  | leave => exact sourced_leave balanced sourced
  | step => exact sourced_step counts sourced
  | announce event => exact plain.elim
  | deliver waiter completion =>
    exact sourced.of_aspect (aspect_delivered waiter completion scene.accelerator)
  | change world =>
    exact sourced.of_aspect (congrArg (Aspect.mk _ _ _ _ _) (plain scene.accelerator.world))

end

/-! ## Whole runs -/

/-- The same move, in which only a part of the world can change. -/
def Move.within {τ : Type} (part : Part τ σ) : Move σ → Move τ
  | .openDevice mode => .openDevice mode
  | .drive => .drive
  | .look late => .look late
  | .bringUp => .bringUp
  | .giveUp => .giveUp
  | .clone => .clone
  | .drop => .drop
  | .leave => .leave
  | .step => .step
  | .announce event => .announce event
  | .deliver waiter completion => .deliver waiter completion
  | .change world => .change (part.change world)

/-- A run from the start, with numbered class drivers and a plug for a power switch. -/
def plugRun (host : Host Waiter σ) (interfaces : List Interface) (config : DriverConfig)
    (world : σ) (moves : List (Move σ)) : Scene (Numbered σ) :=
  (start config { inner := world }).run host.numbered (.plug (Numbered σ) interfaces)
    (moves.map (Move.within Numbered.innerPart))

theorem plain_within {next : Move σ} (hannounce : ∀ event, next ≠ .announce event) :
    (next.within Numbered.innerPart).Plain Numbered.count := by
  cases next with
  | announce event => exact absurd rfl (hannounce event)
  | change world => exact fun _ => rfl
  | _ => trivial

/-- **Run.** So does every run in which only the switch announces events of the host. -/
theorem sourced_plugRun (host : Host Waiter σ) (interfaces : List Interface)
    (config : DriverConfig) (world : σ) {moves : List (Move σ)}
    (hannounce : ∀ event, .announce event ∉ moves) :
    Sourced Numbered.count (plugRun host interfaces config world moves) := by
  have hstart : Sourced Numbered.count (start config ({ inner := world } : Numbered σ)) :=
    ⟨⟨rfl, fun _ h => (by cases h), fun _ => ⟨.out, rfl, fun h => (by cases h)⟩⟩,
      fun _ h => (by cases h), fun _ _ h => (by cases h)⟩
  refine (List.foldlRecOn (moves.map (Move.within Numbered.innerPart)) _
    (motive := fun scene => Balanced scene ∧ Sourced Numbered.count scene)
    ⟨balanced_start _ _, hstart⟩ fun scene ⟨hbalanced, hsourced⟩ next hnext => ?_).2
  obtain ⟨move, hmove, rfl⟩ := List.mem_map.mp hnext
  have hplain := plain_within fun event h => hannounce event (h ▸ hmove)
  exact ⟨balanced_move _ _ hbalanced _,
    sourced_move host.counts_numbered hbalanced hsourced hplain⟩

end Scene

namespace Accelerator

/-- **Provenance.** However users who open, share and drop the device and open it again interleave
    with the attach task, while a plug switches power: the class driver of a context was opened
    after power had been asked for, exactly if the connection has been empty at some time from
    then until it was looked at. -/
theorem issued_iff_vacant (host : Host Waiter σ) (interfaces : List Interface)
    (config : DriverConfig) (world : σ) (moves : List (Scene.Move σ))
    (hannounce : ∀ event, .announce event ∉ moves) {context : DeviceContext}
    {opening : Opening (Numbered σ)}
    (hopened : .opened context opening ∈
      (Scene.plugRun host interfaces config world moves).returned) :
    opening.asked.world.count ≤ context.handle.number ↔ opening.vacant = true :=
  (Scene.sourced_plugRun host interfaces config world hannounce).issued context opening hopened

/-- A session with a device, up to the moment when it has been dropped and power is off. -/
def sessionMoves : List (Scene.Move Unit) :=
  [.openDevice .max, .drive, .drive, .drive, .step, .step, .step, .look false, .bringUp, .drop,
    .leave, .drive, .drive]

/-- The device is opened again, and the attach task has handled everything by then. -/
def settledMoves : List (Scene.Move Unit) :=
  sessionMoves ++ [.step, .openDevice .max, .drive, .drive, .drive, .step, .step, .look false,
    .bringUp]

/-- Whether an opening has returned a context of which something holds. -/
def opens (holds : DeviceContext → Opening σ → Bool) : Return σ → Bool
  | .opened context opening => holds context opening
  | .shared _ | .refused _ | .failed _ => false

theorem exists_of_opens {holds : DeviceContext → Opening σ → Bool} {returned : List (Return σ)}
    (h : returned.any (opens holds) = true) :
    ∃ context opening, .opened context opening ∈ returned ∧ holds context opening = true := by
  obtain ⟨result, hmem, hresult⟩ := List.any_eq_true.mp h
  cases result with
  | opened context opening => exact ⟨context, opening, hmem, hresult⟩
  | shared | refused | failed => cases hresult

/-- The second context has the second class driver. -/
theorem issued_settledMoves :
    (∀ event, .announce event ∉ settledMoves) ∧ ∃ context opening,
      .opened context opening ∈
        (Scene.plugRun readyHost Interface.application {} () settledMoves).returned ∧
      opening.asked.world.count = 1 ∧ 1 ≤ context.handle.number := by
  have hannounce : ∀ event, .announce event ∉ settledMoves := by
    simp [settledMoves, sessionMoves]
  have hreopened : (Scene.plugRun readyHost Interface.application {} ()
      settledMoves).returned.any
        (opens fun _ opening => opening.asked.world.count == 1 && opening.vacant) = true := by
    decide +kernel
  obtain ⟨context, opening, hopened, hholds⟩ := exists_of_opens hreopened
  obtain ⟨hasked, hvacant⟩ := Bool.and_eq_true_iff.mp hholds
  have hasked : opening.asked.world.count = 1 := eq_of_beq hasked
  exact ⟨hannounce, context, opening, hopened, hasked, hasked ▸
    (issued_iff_vacant readyHost Interface.application {} () settledMoves hannounce hopened).mpr
      hvacant⟩

/-- The device is opened again before the attach task has handled that it was pulled out. -/
def hastyMoves : List (Scene.Move Unit) :=
  sessionMoves ++ [.openDevice .max, .drive, .drive, .drive, .look false, .bringUp]

/-- The second context still has the class driver of the first session. -/
theorem not_issued_of_hasty :
    ¬∀ (σ : Type) (host : Host Waiter σ) (interfaces : List Interface) (config : DriverConfig)
      (world : σ) (moves : List (Scene.Move σ)), (∀ event, .announce event ∉ moves) →
      ∀ (context : DeviceContext) (opening : Opening (Numbered σ)),
        .opened context opening ∈
            (Scene.plugRun host interfaces config world moves).returned →
          opening.asked.world.count ≤ context.handle.number := by
  intro h
  have hannounce : ∀ event, .announce event ∉ hastyMoves := by simp [hastyMoves, sessionMoves]
  have hreopened : (Scene.plugRun readyHost Interface.application {} ()
      hastyMoves).returned.any
        (opens fun context opening =>
          decide (context.handle.number < opening.asked.world.count)) = true := by
    decide +kernel
  obtain ⟨context, opening, hopened, hearlier⟩ := exists_of_opens hreopened
  exact Nat.not_le_of_lt (of_decide_eq_true hearlier)
    (h Unit readyHost Interface.application {} () hastyMoves hannounce context opening hopened)

end Accelerator

end TensorLink

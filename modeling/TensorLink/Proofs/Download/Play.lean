import TensorLink.Proofs.Download.Steps
import TensorLink.Proofs.Recording

/-!
# Plays of the download task

A play is a sequence of messages that the task handles, in any order and with any content, and of
changes to what surrounds the task: its host, and the queue of messages that have not been handled.
The calls of the host and of the listener are recorded.

Results:
* `receive_recorded`: recording the calls does not change what a message does.
* `run_eq_play`: a run of the task is a play.
-/

namespace TensorLink.DownloadTask

open Sequencing

variable {σ : Type}

/-- A download task whose host and listener keep their calls. -/
abbrev Observed (σ : Type) := DownloadTask (Recorded σ (HostCall DownloadState))

/-- What may happen to a download task. -/
inductive Move (σ : Type) where
  | message (message : DownloadMessage)
  /-- The surroundings change. -/
  | outside (inner : σ) (inbox : List DownloadMessage) (retired : Bool)
      (failure : Option DriverError)

section

variable (host : Host DownloadState σ) (listener : Listener σ)

/-- Makes a move. -/
def step (move : Move σ) (task : Observed σ) : Observed σ :=
  match move with
  | .message message => task.receive host.recorded listener.recorded message
  | .outside inner inbox retired failure =>
    { task with world := { task.world with inner }, inbox, retired, failure }

/-- Makes one move after the other. -/
def play (moves : List (Move σ)) (task : Observed σ) : Observed σ :=
  moves.foldl (fun task move => step host listener move task) task

theorem play_append (moves moves' : List (Move σ)) (task : Observed σ) :
    play host listener (moves ++ moves') task =
      play host listener moves' (play host listener moves task) := List.foldl_append

theorem play_concat (moves : List (Move σ)) (move : Move σ) (task : Observed σ) :
    play host listener (moves ++ [move]) task =
      step host listener move (play host listener moves task) := by
  rw [play_append]
  rfl

/-- A run of the task is a play. -/
theorem run_eq_play (idle budget : Nat) (task : Observed σ) :
    ∃ moves, (task.runWithin host.recorded listener.recorded idle budget).2 =
      play host listener moves task := by
  induction budget generalizing task with
  | zero => exact ⟨[], rfl⟩
  | succ budget ih =>
    unfold runWithin
    split
    · exact ⟨[], rfl⟩
    · exact ⟨[.outside task.world.inner task.inbox task.retired none], rfl⟩
    · exact ⟨[], rfl⟩
    · rename_i message rest _ _ _
      obtain ⟨moves, h⟩ :=
        ih (receive host.recorded listener.recorded message { task with inbox := rest })
      exact ⟨.outside task.world.inner rest task.retired task.failure :: .message message :: moves,
        h⟩

/-! ## Recording -/

/-- The task without the calls. -/
def forget (task : Observed σ) : DownloadTask σ := { task with world := task.world.inner }

theorem projects_focus {α : Type} {m' : DeviceM (Recorded σ (HostCall DownloadState)) α}
    {m : DeviceM σ α} (h : Projects Recorded.inner m' m) :
    Projects forget (around.focus m') (around.focus m) := by
  intro task
  have hm : m (around.look (forget task)) = project Recorded.inner (m' (around.look task)) :=
    h task.world
  unfold Part.focus
  rw [hm]
  cases m' (around.look task) <;> rfl

theorem projects_modify {f' : Observed σ → Observed σ} {f : DownloadTask σ → DownloadTask σ}
    (h : ∀ task, forget (f' task) = f (forget task)) :
    Projects forget (modify f' : DeviceM (Observed σ) Unit) (modify f) := by
  intro task
  change EStateM.Result.ok () (f (forget task)) = .ok () (forget (f' task))
  rw [h]

theorem forget_deliver (request : DownloadState) (result : Except DriverError Bytes)
    (task : Observed σ) :
    forget (task.deliver request result) = (forget task).deliver request result := by
  unfold deliver
  change forget (if task.retired = true ∨ taskQueueDepth ≤ task.inbox.length then _ else _) =
    if task.retired = true ∨ taskQueueDepth ≤ task.inbox.length then _ else _
  split <;> rfl

theorem forget_close (task : Observed σ) :
    forget (task.close host.recorded) = (forget task).close host := by
  obtain ⟨world, image, state, interface, handle⟩ := task
  cases handle <;> cases interface <;> rfl

theorem projects_submit (request : DownloadState) (setup : UInt16 → SetupPacket) (data : Bytes) :
    Projects forget (submit host.recorded request setup data) (submit host request setup data) := by
  intro task
  cases hnumber : task.interfaceNumber with
  | error error =>
    have hnumber' : (forget task).interfaceNumber = .error error := hnumber
    unfold submit
    rw [hnumber, hnumber']
    rfl
  | ok number =>
    have hnumber' : (forget task).interfaceNumber = .ok number := hnumber
    cases hhandle : task.handle with
    | none =>
      have hhandle' : (forget task).handle = none := hhandle
      unfold submit
      rw [hnumber, hnumber', hhandle, hhandle']
      rfl
    | some handle =>
      rw [submit_eq host.recorded request setup data hnumber hhandle, Host.recorded_control,
        submit_eq host request setup data (show (forget task).interfaceNumber = _ from hnumber)
          hhandle]
      rw [show (forget task).world = task.world.inner from rfl]
      rcases (host.transport handle).control request (setup number) data task.world.inner with
        ⟨_ | _ | result, inner⟩
      · rfl
      · rfl
      · change EStateM.Result.ok () _ = .ok () (forget _)
        rw [forget_deliver]
        rfl

theorem projects_downloadBlock :
    Projects forget (downloadBlock host.recorded) (downloadBlock host) :=
  fun task => projects_submit host .transfer _ _ { task with pending := task.nextUnit }

theorem projects_uploadBlock : Projects forget (uploadBlock host.recorded) (uploadBlock host) :=
  fun task => projects_submit host .readBack _ _
    { task with pending := task.nextUnit, readback := some (task.readback.getD []) }

theorem projects_openClass : Projects forget (openClass host.recorded) (openClass host) := by
  intro task
  cases hinterface : task.interface with
  | none =>
    rw [openClass_none host.recorded hinterface,
      openClass_none host (show (forget task).interface = none from hinterface)]
    rfl
  | some interface =>
    rw [openClass_some host.recorded hinterface,
      openClass_some host (show (forget task).interface = some interface from hinterface)]
    exact ((projects_focus (Recorded.projects_observe _ _)).bind fun handle =>
      projects_modify fun _ => rfl) task

theorem projects_finish : Projects forget (finish host.recorded) (finish host) :=
  (projects_focus (Recorded.projects_observe _ _)).bind fun _ =>
    (projects_modify (forget_close host)).bind fun _ =>
      projects_focus (Recorded.projects_observe _ _)

theorem projects_onEntry (state : DownloadState) :
    Projects forget (onEntry host.recorded state) (onEntry host state) := by
  cases state with
  | unattached => exact projects_modify (forget_close host)
  | attached => exact projects_openClass host
  | transfer => exact projects_downloadBlock host
  | zeroLengthTransfer => exact fun task => projects_submit host .zeroLengthTransfer _ _ task
  | readBack => exact projects_uploadBlock host
  | complete => exact projects_finish host
  | error => exact Projects.pure ()
  | _ => exact projects_submit host _ _ _

theorem forget_releaseReadback (task : Observed σ) :
    forget task.releaseReadback = (forget task).releaseReadback := by
  obtain ⟨world, image, state, interface, handle, block, position, pending, readback⟩ := task
  cases readback <;> rfl

theorem forget_fail (error : DriverError) (task : Observed σ) :
    forget (task.fail host.recorded listener.recorded error) =
      (forget task).fail host listener error := by
  unfold fail
  change forget (if task.state = .error then _ else _) = if task.state = .error then _ else _
  split
  · rfl
  · unfold enterError
    change act listener.failed (forget (close host.recorded _)) = _
    rw [forget_close, forget_releaseReadback]
    rfl

theorem forget_enter (state : DownloadState) (task : Observed σ) :
    forget (task.enter host.recorded listener.recorded state) =
      (forget task).enter host listener state := by
  have h := projects_onEntry host state (task.goto state)
  change onEntry host state ((forget task).goto state) = _ at h
  unfold enter
  rw [h]
  cases onEntry host.recorded state (task.goto state) with
  | ok _ task => rfl
  | error error task => exact forget_fail host listener error task

theorem forget_enterAttached (task : Observed σ) :
    forget (task.enterAttached host.recorded listener.recorded) =
      (forget task).enterAttached host listener := by
  have h := projects_onEntry host .attached (task.goto .attached)
  change onEntry host .attached ((forget task).goto .attached) = _ at h
  unfold enterAttached
  rw [h]
  cases onEntry host.recorded .attached (task.goto .attached) with
  | ok _ task => exact forget_enter host listener .setInterface task
  | error error task => exact forget_fail host listener error task

theorem projects_takeUpload (reply : Bytes) :
    Projects (forget : Observed σ → DownloadTask σ) (takeUpload reply) (takeUpload reply) := by
  intro task
  unfold takeUpload
  rw [get_bind, get_bind]
  by_cases hlength : reply.length = 0 ∨ task.pending < reply.length
  · rw [if_pos hlength, if_pos (show reply.length = 0 ∨ (forget task).pending < reply.length from
      hlength)]
    rfl
  · rw [if_neg hlength, if_neg (show ¬(reply.length = 0 ∨ (forget task).pending < reply.length) from
      hlength)]
    obtain ⟨world, image, state, interface, handle, block, position, pending, readback⟩ := task
    cases readback <;> rfl

theorem projects_verify : Projects (forget : Observed σ → DownloadTask σ) verify verify := by
  intro task
  rw [verify_eq, verify_eq]
  rw [show firstDifference (forget task).image ((forget task).readback.getD []) =
    firstDifference task.image (task.readback.getD []) from rfl]
  cases firstDifference task.image (task.readback.getD []) <;> rfl

theorem projects_completed (request : DownloadState) (reply : Bytes) :
    Projects (forget : Observed σ → DownloadTask σ) (completed request reply)
      (completed request reply) := by
  cases request with
  | getStatus => exact (Projects.ofExcept _).bind fun _ _ => rfl
  | readBack => exact (projects_takeUpload reply).bind fun _ => Projects.pure _
  | getStatusRead =>
    refine (Projects.ofExcept _).bind fun _ task => ?_
    rw [get_bind, get_bind]
    by_cases hposition : task.position < task.image.length
    · rw [if_pos hposition, if_pos (show (forget task).position < (forget task).image.length from
        hposition)]
      rfl
    · rw [if_neg hposition, if_neg (show ¬(forget task).position < (forget task).image.length from
        hposition)]
      exact (projects_verify.bind fun _ => Projects.pure _) task
  | checkStatus => exact (Projects.ofExcept _).bind fun _ => Projects.pure _
  | _ => exact fun _ => rfl

/-- Recording the calls does not change what a message does. -/
theorem receive_recorded (message : DownloadMessage) (task : Observed σ) :
    forget (task.receive host.recorded listener.recorded message) =
      (forget task).receive host listener message := by
  cases message with
  | host event =>
    cases event with
    | attach interfaces => rfl
    | enumerationDone =>
      change forget (if task.interface.isSome then _ else _) =
        if task.interface.isSome then _ else _
      split
      · exact forget_enterAttached host listener task
      · rfl
    | detach => exact forget_enter host listener .unattached task
    | transferFailed reason => exact forget_fail host listener _ task
  | completed request result =>
    change forget (if request ≠ task.state then _ else _) = if request ≠ task.state then _ else _
    split
    · rfl
    · have h := (Projects.ofExcept result).bind (projects_completed request) task
      rw [h]
      cases (DeviceM.ofExcept result >>= completed request) task with
      | ok next task =>
        cases next with
        | none => rfl
        | some next => exact forget_enter host listener next task
      | error error task => exact forget_fail host listener error task

end

end TensorLink.DownloadTask

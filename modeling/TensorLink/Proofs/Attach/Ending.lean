import TensorLink.Proofs.Attach.Sessions
import TensorLink.Proofs.Download.Ending

/-!
# How an attach task fails

An attach task that has failed stays as it is, whatever reaches it, and makes no further call.
Failing tells the listener once. A download task fails likewise.

Results:
* `Turn.countP_isFailed`: a message tells the listener of a failure exactly if it is one.
* `notified_occur`: this holds of whatever happens.
* `failures_are_final`: how both tasks fail.
-/

namespace TensorLink

namespace AttachTask

open Sequencing

variable {σ : Type}

/-! ## What a message does -/

section

variable {message : AttachMessage} {calls : List (HostCall AttachState)}
  {queued : List AttachMessage} {outline outline' : Outline}

theorem countP_closing (outline : Outline) : outline.closing.countP HostCall.isFailed = 0 := by
  unfold Outline.closing
  split <;> rfl

theorem Opening.countP_isFailed {interface : Interface} {handle : Option ClassHandle}
    (opening : Opening interface calls handle) : calls.countP HostCall.isFailed = 0 := by
  have hpipes {handle : ClassHandle} {pipes : List (HostCall AttachState)}
      (h : ∀ call ∈ pipes, PipeOf handle call) : pipes.countP HostCall.isFailed = 0 :=
    List.countP_eq_zero.mpr fun call hcall => by
      obtain ⟨endpoint, outcome⟩ := h call hcall
      exact Bool.false_ne_true
  cases opening with
  | refused error => rfl
  | pipeless h => exact (List.countP_cons_of_neg Bool.false_ne_true).trans (hpipes h)
  | opened h => exact (List.countP_cons_of_neg Bool.false_ne_true).trans (hpipes h)

/-- A message that makes the task fail tells the listener once, and no other message does. -/
theorem Turn.countP_isFailed (turn : Turn outline message calls queued outline')
    (hstate : outline.state ≠ .error) :
    calls.countP HostCall.isFailed = if outline'.state = .error then 1 else 0 := by
  have hfailing (outline : Outline) :
      (outline.closing ++ [HostCall.failed]).countP HostCall.isFailed = 1 := by
    rw [List.countP_append, countP_closing]
    rfl
  cases turn with
  | attached => exact (if_neg hstate).symm
  | ignored => exact (if_neg hstate).symm
  | surplus => exact (if_neg hstate).symm
  | unknown => rfl
  | ready => rfl
  | unopened hinterface opening =>
    rw [List.countP_append, opening.countP_isFailed, hfailing]
    rfl
  | refused error hinterface opening =>
    rw [List.countP_append, opening.countP_isFailed]
    rfl
  | selected hinterface opening accepted =>
    rw [List.countP_append, opening.countP_isFailed]
    rfl
  | detached =>
    rw [List.countP_append, countP_closing]
    rfl
  | failed => exact hfailing _
  | rejected => exact hfailing _
  | unready => exact hfailing _

end

/-! ## What happens to a task -/

/-- What may happen to an attach task. -/
inductive Occurrence (σ : Type) where
  /-- The host has something to tell. -/
  | post (event : HostEvent)
  /-- The transfer that was submitted in the given state completes. -/
  | complete (request : AttachState) (result : Except DriverError Unit)
  /-- The world around the task changes. -/
  | outside (inner : σ)
  /-- The task handles a message, on behalf of whoever listens then. -/
  | handle (listener : Listener σ)

section

variable (host : Host AttachState σ)

/-- Has something happen. -/
def occur (task : Observed σ) : Occurrence σ → Observed σ
  | .post event => (task.post event).2
  | .complete request result => task.deliver request result
  | .outside inner => { task with world := { task.world with inner } }
  | .handle listener => task.step host.recorded listener.recorded

/-- Everything that happens to a task. -/
def chronicle (start : Observed σ) (occurrences : List (Occurrence σ)) : Observed σ :=
  occurrences.foldl (occur host) start

/-- How an attach task ends to which this has happened. -/
structure Ending (start : Observed σ) (occurrences : List (Occurrence σ)) : Prop where
  /-- The listener has been told once that the task has failed, if it has. -/
  notices_eq : (chronicle host start occurrences).world.notices =
    if (chronicle host start occurrences).state = .error then 1 else 0
  /-- A task that has failed stays as it is, and makes no further call. -/
  settled : (chronicle host start occurrences).state = .error → ∀ more : List (Occurrence σ),
    let task' := chronicle host start (occurrences ++ more)
    task'.state = .error ∧ task'.world.calls = (chronicle host start occurrences).world.calls

/-- The state and the calls are what they were. -/
structure Untouched (task task' : Observed σ) : Prop where
  state_eq : task'.state = task.state
  calls_eq : task'.world.calls = task.world.calls

theorem untouched_post (event : HostEvent) (task : Observed σ) :
    Untouched task (task.post event).2 := by
  unfold post
  split <;> exact ⟨rfl, rfl⟩

theorem untouched_deliver (request : AttachState) (result : Except DriverError Unit)
    (task : Observed σ) : Untouched task (task.deliver request result) := by
  unfold deliver
  split <;> exact ⟨rfl, rfl⟩

/-- **At the end.** A task that has failed stays as it is, and makes no further call. -/
theorem untouched_occur {task : Observed σ} (hstate : task.state = .error)
    (occurrence : Occurrence σ) : Untouched task (occur host task occurrence) := by
  cases occurrence with
  | post event => exact untouched_post event task
  | complete request result => exact untouched_deliver request result task
  | outside inner => exact ⟨rfl, rfl⟩
  | handle listener =>
    show Untouched task (task.step host.recorded listener.recorded)
    rw [step_error host.recorded listener.recorded hstate]
    exact ⟨rfl, rfl⟩

/-- The listener has been told as often as the task has failed. -/
def Notified (task : Observed σ) : Prop :=
  task.world.notices = if task.state = .error then 1 else 0

theorem Notified.of_untouched {task task' : Observed σ} (h : Notified task)
    (huntouched : Untouched task task') : Notified task' := by
  unfold Notified Recorded.notices at h ⊢
  rw [huntouched.state_eq, huntouched.calls_eq]
  exact h

theorem notified_step {task : Observed σ} (h : Notified task) (listener : Listener σ) :
    Notified (task.step host.recorded listener.recorded) := by
  by_cases hstate : task.state = .error
  · rw [step_error host.recorded listener.recorded hstate]
    exact h
  · cases hinbox : task.inbox with
    | nil =>
      unfold step
      rw [if_neg hstate, hinbox]
      exact h
    | cons message rest =>
      rw [step_of_inbox host.recorded listener.recorded hstate hinbox]
      obtain ⟨calls, queued, outline, turn, turned⟩ :=
        turn_receive host listener message { task with inbox := rest }
      have hbefore : task.world.notices = 0 := h.trans (if_neg hstate)
      have hafter : outline.state = _ := (congrArg Outline.state turned.outline_eq).symm
      unfold Notified Recorded.notices
      rw [turned.calls_eq, List.countP_append, turn.countP_isFailed hstate, hafter]
      show task.world.notices + _ = _
      rw [hbefore, Nat.zero_add]
      rfl

/-- **Step.** Whatever happens, the listener is told of the first failure, and of no other. -/
theorem notified_occur {task : Observed σ} (h : Notified task) (occurrence : Occurrence σ) :
    Notified (occur host task occurrence) := by
  cases occurrence with
  | post event => exact h.of_untouched (untouched_post event task)
  | complete request result => exact h.of_untouched (untouched_deliver request result task)
  | outside inner => exact h
  | handle listener => exact notified_step host h listener

/-- **Ending.** How an attach task fails, whatever happens to it. -/
theorem ending_chronicle (world : σ) (occurrences : List (Occurrence σ)) :
    Ending host { world := { inner := world } } occurrences where
  notices_eq := by
    have hstart : Notified { world := { inner := world } } := rfl
    exact List.foldlRecOn occurrences (occur host) hstart fun _ h occurrence _ =>
      notified_occur host h occurrence
  settled hstate more := by
    have hmore : Untouched (chronicle host { world := { inner := world } } occurrences)
        (more.foldl (occur host) (chronicle host { world := { inner := world } } occurrences)) := by
      refine List.foldlRecOn more (occur host) ⟨rfl, rfl⟩ fun task h occurrence _ => ?_
      have hnext := untouched_occur host (h.state_eq.trans hstate) occurrence
      exact ⟨hnext.state_eq.trans h.state_eq, hnext.calls_eq.trans h.calls_eq⟩
    rw [show chronicle host _ (occurrences ++ more) = _ from List.foldl_append]
    exact ⟨hmore.state_eq.trans hstate, hmore.calls_eq⟩

end

end AttachTask

/-! ## Main theorem -/

/-- **Failures.** Whatever happens to a download task and to an attach task, in any order and on any
    host: a task that has failed, and a download that is complete, stays as it is and makes no
    further call. The listener is told once that a task has failed. The cause of the failure of a
    download is what the first run returns that ends after it, and every later run returns that the
    task has failed. -/
theorem failures_are_final {σ τ : Type} (loader : Host DownloadState σ)
    (host : Host AttachState τ) {world : σ} {image : Bytes} {start : DownloadTask.Observed σ}
    (hnew : DownloadTask.new { inner := world } image = .ok start)
    (occurrences : List (DownloadTask.Occurrence σ)) (world' : τ)
    (occurrences' : List (AttachTask.Occurrence τ)) :
    DownloadTask.Ending loader start occurrences ∧
      AttachTask.Ending host { world := { inner := world' } } occurrences' :=
  ⟨DownloadTask.ending_chronicle loader hnew occurrences,
    AttachTask.ending_chronicle host world' occurrences'⟩

/-- A transfer of a download fails, and then the device is replaced. -/
def DownloadTask.lostTransfer : List (DownloadTask.Occurrence Unit) :=
  let run := Occurrence.run (Listener.silent Unit) 5
  [.post (.attach Interface.download), .post .enumerationDone, run,
    .complete .setInterface (.error (.transferFailed "lost")), .post .detach,
    .post .enumerationDone, run, run, run]

/-- The selection of an interface fails, and then the device is replaced. -/
def AttachTask.lostTransfer : List (AttachTask.Occurrence Unit) :=
  let handle := Occurrence.handle (Listener.silent Unit)
  [.post (.attach Interface.application), .post .enumerationDone, handle, handle,
    .complete .setInterface (.error (.transferFailed "lost")), .post .detach,
    .post .enumerationDone, handle, handle, handle]

/-- Of four runs the second returns why the transfer has failed; neither task notices that the
    device is replaced. -/
theorem failures_are_final_lostTransfer :
    let start : DownloadTask.Observed Unit := { world := { inner := () }, image := [7] }
    let download := DownloadTask.chronicle DownloadTask.patientHost start DownloadTask.lostTransfer
    let attach := AttachTask.chronicle AttachTask.patientHost { world := { inner := () } }
      AttachTask.lostTransfer
    DownloadTask.new { inner := () } [7] = .ok start ∧
      (DownloadTask.Ending DownloadTask.patientHost start DownloadTask.lostTransfer ∧
        AttachTask.Ending AttachTask.patientHost { world := { inner := () } }
          AttachTask.lostTransfer) ∧
      download.results = [.error (.timeout 5), .error (.transferFailed "lost"),
        .error (.invalidState "DFU task in Error"), .error (.invalidState "DFU task in Error")] ∧
      (download.task.state = .error ∧ download.task.world.notices = 1) ∧
      attach.state = .error ∧ attach.world.notices = 1 := by
  intro start download attach
  have hnew : DownloadTask.new { inner := () } [7] = .ok start := rfl
  exact ⟨hnew, failures_are_final DownloadTask.patientHost AttachTask.patientHost hnew
    DownloadTask.lostTransfer () AttachTask.lostTransfer, by decide +kernel, by decide +kernel,
    by decide +kernel⟩

end TensorLink

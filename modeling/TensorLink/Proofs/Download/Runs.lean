import Mathlib.Algebra.Ring.Nat
import TensorLink.Proofs.Download.Reattach

/-!
# Runs of the download task

A run handles one message after the other until the download has ended or none is left. It has a
budget of messages, so that it ends for sure. The budget is never what ends it: a reply brings the
download closer to its end, and only an event of the host sets it back.

Results:
* `workload_receive`: every message lessens what a run may have to handle.
* `runs_runWithin`, `runs_run`: a run goes on until the download has ended or no message is left.
-/

namespace TensorLink.DownloadTask

open Sequencing

variable {σ : Type} (host : Host DownloadState σ) (listener : Listener σ)

/-- Handles the oldest message; a task that has ended handles none. -/
def handleNext (task : DownloadTask σ) : DownloadTask σ :=
  match task.state, task.inbox with
  | .complete, _ | .error, _ | _, [] => task
  | _, message :: rest => { task with inbox := rest }.receive host listener message

theorem handleNext_of_ended {task : DownloadTask σ} (hended : ¬Running task) :
    task.handleNext host listener = task := by
  unfold handleNext
  split <;> first | rfl | exact absurd ⟨‹_›, ‹_›⟩ hended

/-- A message is handled, or there is none to handle. -/
theorem handleNext_cases (task : DownloadTask σ) :
    task.handleNext host listener = task ∨
      ∃ message rest, Running task ∧ task.inbox = message :: rest ∧
        task.handleNext host listener =
          { task with inbox := rest }.receive host listener message := by
  unfold handleNext
  split
  · exact .inl rfl
  · exact .inl rfl
  · exact .inl rfl
  · rename_i message rest hinbox hcomplete herror
    exact .inr ⟨message, rest, ⟨hcomplete, herror⟩, hinbox, rfl⟩

/-! ## Runs without a budget -/

/-- How a run ends that handles as many messages as there are. -/
inductive Runs (idle : Nat) :
    DownloadTask σ → Except DriverError DownloadReport × DownloadTask σ → Prop where
  | complete {task : DownloadTask σ} (hstate : task.state = .complete) :
    Runs idle task (.ok task.report, task)
  | error {task : DownloadTask σ} (hstate : task.state = .error) :
    Runs idle task (.error (task.failure.getD (.invalidState "DFU task in Error")),
      { task with failure := none })
  | idle {task : DownloadTask σ} (hrunning : Running task) (hinbox : task.inbox = []) :
    Runs idle task (.error (.timeout idle), task)
  | handle {task : DownloadTask σ} {message : DownloadMessage} {rest : List DownloadMessage}
      {ended : Except DriverError DownloadReport × DownloadTask σ} (hrunning : Running task)
      (hinbox : task.inbox = message :: rest)
      (hrest : Runs idle ({ task with inbox := rest }.receive host listener message) ended) :
    Runs idle task ended

/-! ## What is left to handle -/

/-- How many replies a download of an image of some size takes from a state on, at most, before it
    ends. A block has at least one octet; those before `position` are done, and `pending` octets are
    on their way. -/
def repliesLeft (size position pending : Nat) : DownloadState → Nat
  | .setInterface => 2 * (size - position) + 2 * (size - 1) + 7
  | .getStatus => 2 * (size - position) + 2 * (size - 1) + 6
  | .transfer => 2 * (size - (position + pending)) + 2 * (size - 1) + 7
  | .zeroLengthTransfer => 2 * (size - 1) + 5
  | .readBack => 2 * (size - (position + 1)) + 4
  | .getStatusRead => 2 * (size - position) + 3
  | .detach => 2
  | .checkStatus => 1
  | .unattached | .attached | .complete | .error => 0

/-- How many messages a message stands for. -/
def weight (size : Nat) : DownloadMessage → Nat
  | .host _ => 4 * size + 9
  | .completed .. => 1

/-- How many messages a run may have to handle. -/
def workload (task : DownloadTask σ) : Nat :=
  (task.inbox.map (weight task.image.length)).sum +
    repliesLeft task.image.length task.position task.pending task.state

theorem repliesLeft_le (size position pending : Nat) (state : DownloadState) :
    repliesLeft size position pending state ≤ 4 * size + 7 := by
  cases state <;> simp only [repliesLeft] <;> omega

theorem weight_pos (size : Nat) (message : DownloadMessage) : 0 < weight size message := by
  cases message <;> simp [weight]

theorem weight_le (size : Nat) (message : DownloadMessage) :
    weight size message ≤ 4 * size + 9 := by
  cases message <;> simp only [weight] <;> omega

theorem sum_weight_le (size : Nat) (inbox : List DownloadMessage) :
    (inbox.map (weight size)).sum ≤ inbox.length * (4 * size + 9) := by
  induction inbox with
  | nil => simp
  | cons message rest ih =>
    have hfirst := weight_le size message
    rw [List.map_cons, List.sum_cons, List.length_cons, Nat.succ_mul]
    omega

/-- The budget of a run exceeds its workload. -/
theorem workload_lt (task : DownloadTask σ) : task.workload < task.messageBudget := by
  have hinbox := sum_weight_le task.image.length task.inbox
  have hreplies := repliesLeft_le task.image.length task.position task.pending task.state
  have hslack : task.inbox.length * (4 * task.image.length + 9) ≤
      task.inbox.length * (4 * task.image.length + 16) := Nat.mul_le_mul_left _ (by omega)
  unfold workload messageBudget
  rw [Nat.succ_mul]
  omega

/-! ## What entering a state queues -/

/-- At most one message has been queued, and that is a reply. -/
def Queued (task task' : DownloadTask σ) : Prop :=
  task'.inbox = task.inbox ∨
    ∃ request result, task'.inbox = task.inbox ++ [.completed request result]

theorem Queued.sum_le {task task' : DownloadTask σ} (h : Queued task task') (size : Nat) :
    (task'.inbox.map (weight size)).sum ≤ (task.inbox.map (weight size)).sum + 1 := by
  obtain h | ⟨request, result, h⟩ := h
  · rw [h]
    omega
  · simp [h, weight]

theorem queued_submit (request : DownloadState) (setup : UInt16 → SetupPacket) (data : Bytes)
    (task : DownloadTask σ) : Queued task (left (submit host request setup data task)) := by
  cases hnumber : task.interfaceNumber with
  | error error =>
    unfold submit
    rw [hnumber]
    exact .inl rfl
  | ok number =>
    cases hhandle : task.handle with
    | none =>
      unfold submit
      rw [hnumber, hhandle]
      exact .inl rfl
    | some handle =>
      rw [submit_eq host request setup data hnumber hhandle]
      rcases (host.transport handle).control request (setup number) data task.world with
        ⟨_ | _ | result, world⟩
      · exact .inl rfl
      · exact .inl rfl
      · show Queued task (deliver request result { task with world })
        unfold deliver
        split
        · exact .inl rfl
        · exact .inr ⟨request, result, rfl⟩

theorem inbox_close (task : DownloadTask σ) : (task.close host).inbox = task.inbox := by
  unfold close
  split <;> rfl

theorem inbox_world (task : DownloadTask σ) (world : σ) :
    { task with world }.inbox = task.inbox := rfl

theorem keeps_inbox_openClass : Keeps inbox (openClass host) := by
  intro task
  cases hinterface : task.interface with
  | none =>
    rw [openClass_none host hinterface]
    rfl
  | some interface =>
    rw [openClass_some host hinterface]
    refine Keeps.bind (keeps_focus _ inbox_world) (fun handle => ?_) task
    exact keeps_modify fun _ => rfl

theorem queued_onEntry (state : DownloadState) (task : DownloadTask σ) :
    Queued task (left (onEntry host state task)) := by
  cases state with
  | unattached => exact .inl (inbox_close host task)
  | attached => exact .inl (keeps_inbox_openClass host task)
  | transfer => exact queued_submit host _ _ _ { task with pending := task.nextUnit }
  | readBack =>
    exact queued_submit host _ _ _
      { task with pending := task.nextUnit, readback := some (task.readback.getD []) }
  | zeroLengthTransfer => exact queued_submit host _ _ _ task
  | complete =>
    have hfinish : Keeps inbox (finish host) := (keeps_focus _ inbox_world).bind fun _ =>
      (keeps_modify (inbox_close host)).bind fun _ => keeps_focus _ inbox_world
    exact .inl (hfinish task)
  | error => exact .inl rfl
  | _ => exact queued_submit host _ _ _ task

theorem inbox_fail (error : DriverError) (task : DownloadTask σ) :
    (task.fail host listener error).inbox = task.inbox :=
  keeps_fail host listener (fun _ _ _ _ _ _ _ _ => rfl) error task

theorem queued_enter (state : DownloadState) (task : DownloadTask σ) :
    Queued task (task.enter host listener state) := by
  have h := queued_onEntry host state (task.goto state)
  unfold enter
  cases hentry : onEntry host state (task.goto state) with
  | ok _ mid =>
    rw [hentry] at h
    exact h
  | error error mid =>
    rw [hentry] at h
    unfold Queued
    rw [inbox_fail]
    exact h

theorem queued_enterAttached (task : DownloadTask σ) :
    Queued task (task.enterAttached host listener) := by
  have h : (left (onEntry host .attached (task.goto .attached))).inbox = task.inbox :=
    keeps_inbox_openClass host (task.goto .attached)
  unfold enterAttached
  cases hentry : onEntry host .attached (task.goto .attached) with
  | ok _ mid =>
    rw [hentry] at h
    have hqueued := queued_enter host listener .setInterface mid
    unfold Queued at hqueued ⊢
    rw [show mid.inbox = task.inbox from h] at hqueued
    exact hqueued
  | error error mid =>
    rw [hentry] at h
    exact .inl ((inbox_fail host listener error mid).trans h)

/-! ## What a message leaves to handle -/

/-- An event of the host sets a download back to the start at worst. -/
theorem workload_of_event {task task' : DownloadTask σ} (hqueued : Queued task task')
    (himage : task'.image = task.image) :
    task'.workload < 4 * task.image.length + 9 + task.workload := by
  have hinbox := hqueued.sum_le task.image.length
  have hreplies := repliesLeft_le task.image.length task'.position task'.pending task'.state
  unfold workload
  rw [himage]
  omega

/-- How many replies are left in a state that has just been entered. -/
theorem repliesLeft_enter {state : DownloadState} (hstate : state ≠ .error)
    (task : DownloadTask σ) :
    let task' := task.enter host listener state
    repliesLeft task'.image.length task'.position task'.pending task'.state ≤
      repliesLeft task.image.length task.position task.nextUnit state := by
  intro task'
  have hprogress : progress task' = progress task := progress_enter host listener state task
  simp only [progress, Prod.mk.injEq] at hprogress
  obtain ⟨himage, -, -, hposition⟩ := hprogress
  rw [himage, hposition]
  obtain hentered | hfailed := enter_cases host listener hstate task
  · rw [show task'.state = state from hentered.state_eq]
    by_cases htransfer : state = .transfer
    · have hpending : task'.pending = task.nextUnit :=
        pending_enter host listener (.inl htransfer) task
      exact Nat.le_of_eq (by rw [hpending])
    · cases state <;> first | exact absurd rfl htransfer | exact Nat.le_refl _
  · rw [show task'.state = .error from hfailed.state_eq]
    exact Nat.zero_le _

/-- A reply leads to a state from which fewer replies are left. -/
theorem Answered.repliesLeft_lt {reply : Bytes} {request next : DownloadState}
    {task mid : DownloadTask σ} (h : Answered reply task request (some next) mid) :
    repliesLeft mid.image.length mid.position mid.nextUnit next <
      repliesLeft task.image.length task.position task.pending request := by
  cases h with
  | setInterface => simp only [repliesLeft]; omega
  | getStatus hstatus =>
    by_cases hposition : task.position < task.image.length
    · have hunit : 0 < task.nextUnit ∧ task.nextUnit ≤ task.image.length - task.position := by
        simp only [nextUnit, DfuRequest.blockSize]
        omega
      rw [if_pos hposition]
      simp only [repliesLeft]
      omega
    · rw [if_neg hposition]
      simp only [repliesLeft]
      omega
  | transfer => simp only [repliesLeft]; omega
  | zeroLengthTransfer => simp only [repliesLeft]; omega
  | readBack htake =>
    obtain ⟨hlength, buffer, -, rfl⟩ := takeUpload_eq_ok_iff.mp htake
    simp only [repliesLeft]
    omega
  | readOn hstatus hposition => simp only [repliesLeft]; omega
  | verified hstatus hposition hverify => simp only [repliesLeft]; omega
  | detach => simp only [repliesLeft]; omega
  | checkStatus hstatus => simp only [repliesLeft]; omega

/-- **Progress.** Every message lessens what a run may have to handle. -/
theorem workload_receive (message : DownloadMessage) (task : DownloadTask σ) :
    (task.receive host listener message).workload <
      weight task.image.length message + task.workload := by
  have hpos := weight_pos task.image.length message
  have hcase := received_receive host listener message task
  generalize task.receive host listener message = final at hcase
  cases hcase with
  | ignored => omega
  | attached => exact Nat.lt_add_of_pos_left hpos
  | enumerated hmessage =>
    have himage := congrArg Prod.fst (progress_enterAttached host listener task)
    rw [hmessage]
    exact workload_of_event (queued_enterAttached host listener task) himage
  | detached hmessage =>
    have himage := congrArg Prod.fst (progress_enter host listener .unattached task)
    rw [hmessage]
    exact workload_of_event (queued_enter host listener .unattached task) himage
  | @failed mid error hstate hmid =>
    have hcore : mid.inbox = task.inbox ∧ mid.image = task.image ∧ mid.state = task.state :=
      ⟨congrArg (·.inbox) hmid, congrArg (·.image) hmid, congrArg (·.state) hmid⟩
    have hfailed := failed_fail host listener error (hcore.2.2 ▸ hstate)
    unfold workload
    rw [inbox_fail, hfailed.image_eq, hfailed.state_eq, hcore.1, hcore.2.1, repliesLeft]
    omega
  | @advanced reply next mid hmessage hcompleted =>
    have hanswered := answered_of_completed hcompleted
    have hcore : core mid = core task := (keeps_completed task.state reply).of_ok hcompleted
    have hinbox : mid.inbox = task.inbox := congrArg (·.inbox) hcore
    have himage : mid.image = task.image := congrArg (·.image) hcore
    have himage' : (mid.enter host listener next).image = mid.image :=
      congrArg Prod.fst (progress_enter host listener next mid)
    have hqueued := (queued_enter host listener next mid).sum_le task.image.length
    have hentered := repliesLeft_enter host listener hanswered.ne_error mid
    have hless := hanswered.repliesLeft_lt
    dsimp only at hentered
    rw [himage', himage] at hentered
    rw [himage] at hless
    rw [hinbox] at hqueued
    rw [hmessage]
    unfold workload
    rw [himage', himage, weight]
    omega

/-! ## Main theorem -/

/-- With a budget above its workload, a run goes on until there is nothing left to do. -/
theorem runs_runWithin (idle : Nat) {budget : Nat} {task : DownloadTask σ}
    (hbudget : task.workload < budget) :
    Runs host listener idle task (task.runWithin host listener idle budget) := by
  induction budget generalizing task with
  | zero => exact absurd hbudget (Nat.not_lt_zero _)
  | succ budget ih =>
    by_cases hcomplete : task.state = .complete
    · simp only [runWithin, hcomplete]
      exact .complete hcomplete
    by_cases herror : task.state = .error
    · have hended : task.runWithin host listener idle (budget + 1) =
          (.error (task.failure.getD (.invalidState "DFU task in Error")),
            { task with failure := none }) := by simp [runWithin, herror]
      rw [hended]
      exact .error herror
    have hrunning : Running task := ⟨hcomplete, herror⟩
    cases hinbox : task.inbox with
    | nil =>
      have hidle : task.runWithin host listener idle (budget + 1) =
          (.error (.timeout idle), task) := by
        rw [runWithin.eq_def]
        dsimp only
        split <;> simp_all
      rw [hidle]
      exact .idle hrunning hinbox
    | cons message rest =>
      rw [runWithin_cons host listener idle budget hrunning hinbox]
      have hless : ({ task with inbox := rest }.receive host listener message).workload <
          weight task.image.length message + workload { task with inbox := rest } :=
        workload_receive host listener message { task with inbox := rest }
      have hworkload : task.workload = weight task.image.length message +
          workload { task with inbox := rest } := by
        unfold workload
        rw [hinbox, List.map_cons, List.sum_cons]
        exact Nat.add_assoc ..
      exact .handle hrunning hinbox (ih (by omega))

/-- **Runs.** A run goes on until the download has ended or no message is left. -/
theorem runs_run (idle : Nat) (task : DownloadTask σ) :
    Runs host listener idle task (task.run host listener idle) :=
  runs_runWithin host listener idle task.workload_lt

end TensorLink.DownloadTask

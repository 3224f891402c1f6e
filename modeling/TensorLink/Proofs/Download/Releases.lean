import TensorLink.Proofs.Download.Verification

/-!
# Every readback buffer is released once

A download task reads the image back into a buffer. Entering `readBack` allocates one, unless one is
held: a device that is detached while it is read back leaves its buffer to the next. The comparison
with the image releases the buffer, and so does failing, on the way to `error`.

The task counts the releases. The comparison counts one without looking whether there is a buffer;
it is only made in `getStatusRead`, where there is one.

Results:
* `books_fail`, `books_completed`, `books_enter`, `books_enter_readBack`: what an operation does to
  the accounts.
* `balanced_receive`: a message adds to the accounts what it allocates.
* `tidy_receive`: a message leaves a buffer where one is compared, and none where one is released.
* `allocated_play`: over every play, what has been allocated is what has been released and what is
  held.
-/

namespace TensorLink.DownloadTask

open Sequencing

variable {σ : Type}

/-! ## Specification -/

/-- The number of buffers that are held. -/
def held (task : DownloadTask σ) : Nat := if task.readback.isSome then 1 else 0

/-- How often reading back has been entered. -/
def readings (task : DownloadTask σ) : Nat := task.history.count .readBack

/-- The number of buffers that a message allocates: an entry to `readBack` allocates one, unless one
    is held. -/
def allocations (before after : DownloadTask σ) : Nat :=
  if before.readback.isSome then 0 else after.readings - before.readings

/-- The number of buffers that a play allocates. -/
def allocated (host : Host DownloadState σ) (listener : Listener σ) :
    List (Move σ) → Observed σ → Nat
  | [], _ => 0
  | move :: moves, task =>
    let next := step host listener move task
    allocations task next + allocated host listener moves next

/-- A buffer is held where the next reply may have it compared, and none is held once it has been
    compared or the task has failed. -/
structure Tidy (task : DownloadTask σ) : Prop where
  reading : task.state = .getStatusRead → ∃ buffer, task.readback = some buffer
  released : task.state ∈ [.detach, .checkStatus, .complete, .error] → task.readback = none

/-! ## The accounts -/

/-- The buffers that are accounted for, released or held, and the entries to `readBack`. -/
def books (task : DownloadTask σ) : Nat × Nat := (task.releases + task.held, task.readings)

/-- The accounts are up to date with what a message has allocated. -/
def Balanced (before after : DownloadTask σ) : Prop :=
  after.releases + after.held = before.releases + before.held + allocations before after

theorem balanced_of_books {before after : DownloadTask σ} (h : books after = books before) :
    Balanced before after := by
  obtain ⟨haccount, hreadings⟩ := Prod.mk.inj h
  have hnone : allocations before after = 0 := by
    unfold allocations
    rw [hreadings, Nat.sub_self, ite_self]
  unfold Balanced
  rw [hnone, haccount]
  rfl

section

variable (host : Host DownloadState σ) (listener : Listener σ)

/-- Failing releases the buffer that is held, and counts that. -/
theorem books_fail (error : DriverError) (task : DownloadTask σ) :
    books (task.fail host listener error) = books task := by
  unfold fail
  split
  · rfl
  · unfold enterError close releaseReadback act Part.change
    obtain ⟨world, image, state, interface, handle, block, position, pending, readback⟩ := task
    cases readback <;> cases handle <;> cases interface <;>
      simp [books, held, readings, goto, around]

/-- A comparison releases a buffer and counts that, if there is one. -/
theorem books_verify {task : DownloadTask σ} (hheld : ∃ buffer, task.readback = some buffer) :
    books (left (verify task)) = books task := by
  obtain ⟨buffer, hbuffer⟩ := hheld
  rw [verify_eq]
  dsimp only
  split <;> simp [left, books, held, readings, hbuffer]

theorem books_takeUpload (reply : Bytes) :
    Keeps books (takeUpload reply : DeviceM (DownloadTask σ) Unit) := by
  intro task
  unfold takeUpload
  rw [get_bind]
  dsimp only
  split
  · rfl
  · cases hreadback : task.readback with
    | none => rfl
    | some buffer =>
      change books { task with readback := some (buffer ++ reply), block := _, position := _ } = _
      simp [books, held, readings, hreadback]

/-- A completion leaves the accounts as they are, if the comparison finds a buffer. -/
theorem books_completed (request : DownloadState) (reply : Bytes) {task : DownloadTask σ}
    (hheld : request = .getStatusRead → ∃ buffer, task.readback = some buffer) :
    books (left (completed request reply task)) = books task := by
  cases request with
  | getStatus => exact ((Keeps.ofExcept _).bind fun _ _ => rfl : Keeps books _) task
  | checkStatus => exact ((Keeps.ofExcept _).bind fun _ => Keeps.pure _ : Keeps books _) task
  | readBack => exact ((books_takeUpload reply).bind fun _ => Keeps.pure _) task
  | getStatusRead =>
    unfold completed
    dsimp only
    cases hstatus : checkStatus reply with
    | error error => rfl
    | ok =>
      rw [bind_of_ok (show DeviceM.ofExcept (.ok _) task = .ok _ task from rfl), get_bind]
      split
      · rfl
      · have hverify := books_verify (hheld rfl)
        cases hcompared : verify task with
        | ok _ mid =>
          rw [bind_of_ok hcompared]
          rw [hcompared] at hverify
          exact hverify
        | error error mid =>
          rw [bind_of_error hcompared]
          rw [hcompared] at hverify
          exact hverify
  | _ => rfl

/-! ## Entering states -/

/-- What is done on entry to a state leaves the accounts as they are, except to `readBack`. -/
theorem books_onEntry {state : DownloadState} (hother : state ≠ .readBack) :
    Keeps (books : DownloadTask σ → _) (onEntry host state) :=
  keeps_onEntry host state (fun _ _ _ _ _ => rfl) fun hread => absurd hread hother

theorem books_goto {state : DownloadState} (hother : state ≠ .readBack) (task : DownloadTask σ) :
    books (task.goto state) = books task := by
  unfold books held readings goto
  rw [List.count_cons_of_ne hother]

/-- Whatever entering a state ends with, it leaves what is done on entry, or what failing makes of
    that. -/
theorem books_enter_eq (state : DownloadState) (task : DownloadTask σ) :
    books (task.enter host listener state) =
      books (left (onEntry host state (task.goto state))) := by
  unfold enter
  cases onEntry host state (task.goto state) with
  | ok _ mid => rfl
  | error error mid => exact books_fail host listener error mid

/-- Entering a state leaves the accounts as they are, except for `readBack`. -/
theorem books_enter {state : DownloadState} (hother : state ≠ .readBack) (task : DownloadTask σ) :
    books (task.enter host listener state) = books task := by
  rw [books_enter_eq, books_onEntry host hother, books_goto hother]

/-- Entering `readBack` accounts for one more buffer, if none was held. -/
theorem books_enter_readBack (task : DownloadTask σ) :
    books (task.enter host listener .readBack) = (task.releases + 1, task.readings + 1) := by
  rw [books_enter_eq]
  have hentered := entered_left host .readBack task
  have hreleases : Keeps (releases : DownloadTask σ → Nat) (onEntry host .readBack) :=
    keeps_onEntry host .readBack (fun _ _ _ _ _ => rfl) fun _ _ _ => rfl
  unfold books held readings
  rw [hreleases, hentered.readback_eq, hentered.history_eq, List.count_cons_self]
  rfl

/-- Entering `attached`, and then `setInterface`, leaves the accounts as they are. -/
theorem books_enterAttached (task : DownloadTask σ) :
    books (task.enterAttached host listener) = books task := by
  have hentry := books_onEntry host (show DownloadState.attached ≠ .readBack by simp)
    (task.goto .attached)
  rw [books_goto (by simp)] at hentry
  unfold enterAttached
  cases hopened : onEntry host .attached (task.goto .attached) with
  | ok _ mid =>
    rw [hopened] at hentry
    exact (books_enter host listener (by simp) mid).trans hentry
  | error error mid =>
    rw [hopened] at hentry
    exact (books_fail host listener error mid).trans hentry

/-- Entering a state after a completion adds to the accounts what it allocates. -/
theorem balanced_enter {state : DownloadState} {task mid : DownloadTask σ}
    (hbooks : books mid = books task) (hkept : state = .readBack → mid.readback = task.readback) :
    Balanced task (mid.enter host listener state) := by
  by_cases hread : state = .readBack
  · subst hread
    obtain ⟨haccount, hreadings⟩ := Prod.mk.inj (books_enter_readBack host listener mid)
    obtain ⟨hbefore, hcount⟩ := Prod.mk.inj hbooks
    unfold Balanced allocations
    rw [haccount, hreadings, hcount, ← hbefore]
    have hheld : mid.held = if task.readback.isSome then 1 else 0 := by
      unfold held
      rw [hkept rfl]
    rw [hheld]
    split <;> omega
  · exact balanced_of_books ((books_enter host listener hread mid).trans hbooks)

/-! ## Messages -/

/-- Only a completion that leaves the readback alone leads to `readBack`. -/
theorem Answered.readback_of_readBack {reply : Bytes} {request : DownloadState}
    {task mid : DownloadTask σ} (h : Answered reply task request (some .readBack) mid) :
    mid.readback = task.readback := by
  generalize hnext : some DownloadState.readBack = next at h
  cases h with
  | zeroLengthTransfer => rfl
  | readOn => rfl
  | getStatus => split at hnext <;> cases hnext
  | _ => cases hnext

/-- A message adds to the accounts what it allocates. -/
theorem balanced_receive (message : DownloadMessage) {task : DownloadTask σ} (htidy : Tidy task) :
    Balanced task (task.receive host listener message) := by
  cases message with
  | host event =>
    cases event with
    | attach interfaces => exact balanced_of_books rfl
    | enumerationDone =>
      change Balanced task (if task.interface.isSome then _ else _)
      split
      · exact balanced_of_books (books_enterAttached host listener task)
      · exact balanced_of_books rfl
    | detach => exact balanced_enter host listener rfl fun _ => rfl
    | transferFailed reason => exact balanced_of_books (books_fail host listener _ task)
  | completed request result =>
    change Balanced task (if request ≠ task.state then _ else _)
    split <;> rename_i hrequest
    · exact balanced_of_books rfl
    · obtain rfl : request = task.state := Decidable.not_not.mp hrequest
      cases result with
      | error error => exact balanced_of_books (books_fail host listener error task)
      | ok reply =>
        rw [show (DeviceM.ofExcept (.ok reply) >>= completed task.state) task =
          completed task.state reply task from rfl]
        have hbooks := books_completed task.state reply htidy.reading
        cases hcompleted : completed task.state reply task with
        | ok next mid =>
          rw [hcompleted] at hbooks
          cases next with
          | none => exact balanced_of_books hbooks
          | some next =>
            refine balanced_enter host listener hbooks fun hread => ?_
            subst hread
            exact (answered_of_completed hcompleted).readback_of_readBack
        | error error mid =>
          rw [hcompleted] at hbooks
          exact balanced_of_books ((books_fail host listener error mid).trans hbooks)

theorem Failed.tidy {entered : List DownloadState} {before after : DownloadTask σ}
    (h : Failed entered before after) : Tidy after :=
  ⟨fun hstate => absurd (h.state_eq.symm.trans hstate) (by simp), fun _ => h.readback_eq⟩

/-- The states before a buffer is compared say nothing about it. -/
theorem tidy_of_state {task : DownloadTask σ}
    (hstate : task.state ∉ [.getStatusRead, .detach, .checkStatus, .complete, .error]) :
    Tidy task := by
  rw [List.mem_cons, not_or] at hstate
  exact ⟨fun h => absurd h hstate.1, fun h => absurd h hstate.2⟩

/-- A reply that leads to a state leaves the buffer as this state needs it. -/
theorem Answered.tidy {reply : Bytes} {request next : DownloadState}
    {task mid after : DownloadTask σ} (h : Answered reply task request (some next) mid)
    (hrequest : task.state = request) (htidy : Tidy task) (hentered : Entered next mid after) :
    Tidy after := by
  -- Where no buffer was held, none is held in a state that does not read.
  have hnone : next ≠ .readBack → next ≠ .getStatusRead → mid.readback = none → Tidy after := by
    intro hother hstate hmid
    refine ⟨fun h => absurd (hentered.state_eq.symm.trans h) hstate, fun _ => ?_⟩
    rw [hentered.readback_eq, if_neg hother, hmid]
  cases h with
  | readBack htake =>
    obtain ⟨-, buffer, -, rfl⟩ := takeUpload_eq_ok_iff.mp htake
    refine ⟨fun _ => ⟨_, hentered.readback_eq⟩, fun hreleased => ?_⟩
    rw [hentered.state_eq] at hreleased
    simp at hreleased
  | verified hstatus hposition hverify =>
    obtain ⟨-, rfl⟩ := verify_eq_ok_iff.mp hverify
    exact hnone (by simp) (by simp) rfl
  | detach => exact hnone (by simp) (by simp) (htidy.released (by simp [hrequest]))
  | checkStatus => exact hnone (by simp) (by simp) (htidy.released (by simp [hrequest]))
  | getStatus =>
    apply tidy_of_state
    rw [hentered.state_eq]
    split <;> simp
  | _ =>
    apply tidy_of_state
    rw [hentered.state_eq]
    simp

/-- A message leaves a buffer where one may be compared, and none where one has been released. -/
theorem tidy_receive (message : DownloadMessage) {task : DownloadTask σ} (htidy : Tidy task) :
    Tidy (task.receive host listener message) := by
  have hcase := received_receive host listener message task
  generalize task.receive host listener message = after at hcase
  cases hcase with
  | ignored => exact htidy
  | attached => exact ⟨htidy.reading, htidy.released⟩
  | enumerated =>
    obtain ⟨mid, -, hentered⟩ | ⟨entered, hfailed⟩ := enterAttached_cases host listener task
    · exact tidy_of_state (by rw [hentered.state_eq]; simp)
    · exact hfailed.tidy
  | detached =>
    obtain hentered | hfailed :=
      enter_cases host listener (show DownloadState.unattached ≠ .error by simp) task
    · exact tidy_of_state (by rw [hentered.state_eq]; simp)
    · exact hfailed.tidy
  | failed error hstate hmid => exact (failed_of_core host listener hmid hstate error).tidy
  | @advanced reply next mid hmessage hcompleted =>
    have hanswer := answered_of_completed hcompleted
    obtain hentered | hfailed := enter_cases host listener hanswer.ne_error mid
    · exact hanswer.tidy rfl htidy hentered
    · exact hfailed.tidy

/-! ## Plays -/

theorem tidy_step (move : Move σ) {task : Observed σ} (htidy : Tidy task) :
    Tidy (step host listener move task) := by
  cases move with
  | message message => exact tidy_receive host.recorded listener.recorded message htidy
  | outside => exact ⟨htidy.reading, htidy.released⟩

theorem balanced_step (move : Move σ) {task : Observed σ} (htidy : Tidy task) :
    Balanced task (step host listener move task) := by
  cases move with
  | message message => exact balanced_receive host.recorded listener.recorded message htidy
  | outside => exact balanced_of_books rfl

theorem tidy_play (moves : List (Move σ)) {task : Observed σ} (htidy : Tidy task) :
    Tidy (play host listener moves task) := by
  induction moves generalizing task with
  | nil => exact htidy
  | cons move moves ih => exact ih (tidy_step host listener move htidy)

/-- Over a play, the accounts grow by what is allocated. -/
theorem accounts_play (moves : List (Move σ)) {task : Observed σ} (htidy : Tidy task) :
    (play host listener moves task).releases + (play host listener moves task).held =
      task.releases + task.held + allocated host listener moves task := by
  induction moves generalizing task with
  | nil => rfl
  | cons move moves ih =>
    have hstep := balanced_step host listener move htidy
    unfold Balanced at hstep
    calc (play host listener (move :: moves) task).releases +
          (play host listener (move :: moves) task).held
        = (step host listener move task).releases + (step host listener move task).held +
            allocated host listener moves (step host listener move task) :=
          ih (tidy_step host listener move htidy)
      _ = task.releases + task.held + (allocations task (step host listener move task) +
            allocated host listener moves (step host listener move task)) := by omega
      _ = task.releases + task.held + allocated host listener (move :: moves) task := rfl

/-! ## Main theorem -/

/-- **Released exactly once.** For every image that is taken, every host and listener, and every
    play: the buffers that have been allocated are those that have been released and the one that is
    held, if one is. In `getStatusRead`, where alone a reply has the buffer compared, one is held,
    and none is held in `detach`, `checkStatus`, `complete` and `error`. -/
theorem allocated_play (world : Recorded σ (HostCall DownloadState)) (image : Bytes)
    {start : Observed σ} (hnew : new world image = .ok start) (moves : List (Move σ)) :
    let task := play host listener moves start
    allocated host listener moves start =
        task.releases + (if task.readback.isSome then 1 else 0) ∧
      (task.state = .getStatusRead → ∃ buffer, task.readback = some buffer) ∧
      (task.state ∈ [.detach, .checkStatus, .complete, .error] → task.readback = none) := by
  intro task
  obtain ⟨-, rfl⟩ := (new_eq_ok_iff world image start).mp hnew
  have hfresh : Tidy ({ world, image } : Observed σ) := tidy_of_state (by simp)
  have haccounts := accounts_play host listener moves hfresh
  have htidy := tidy_play host listener moves hfresh
  refine ⟨?_, htidy.reading, htidy.released⟩
  calc allocated host listener moves { world, image }
      = 0 + allocated host listener moves { world, image } := (Nat.zero_add _).symm
    _ = task.releases + task.held := haccounts.symm

end

/-- The moves of a download whose device is detached while it is read back, and again after the
    comparison. -/
def interruptedMoves : List (Move Unit) :=
  octetReplies.dropLast ++ [.message (.host .detach)] ++ octetReplies ++
    [.message (.completed .getStatusRead (.ok (DfuStatus.encode ⟨0, 0, 2, 0⟩))),
      .message (.host .detach)] ++ octetReplies

/-- Three entries to `readBack` allocate two buffers: the second entry goes on in the buffer that
    the first has left behind. One is released, the other held for the next comparison. -/
theorem allocated_interruptedMoves :
    let start : Observed Unit := { world := { inner := () }, image := [7] }
    let task := play patientHost (Listener.silent Unit) interruptedMoves start
    task.readings = 3 ∧ task.state = .getStatusRead ∧
      allocated patientHost (Listener.silent Unit) interruptedMoves start = 2 ∧
      task.releases = 1 ∧ ∃ buffer, task.readback = some buffer := by
  obtain ⟨hallocated, hreading, -⟩ := allocated_play patientHost (Listener.silent Unit)
    { inner := () } [7] rfl interruptedMoves
  exact ⟨rfl, rfl, hallocated.trans rfl, rfl, hreading rfl⟩

end TensorLink.DownloadTask

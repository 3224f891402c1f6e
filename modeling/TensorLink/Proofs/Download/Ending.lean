import TensorLink.Proofs.Download.Runs

/-!
# How a download fails

A download task that has failed or is complete stays as it is, whatever reaches it. Failing tells
the listener once. The first run that ends after the failure returns its cause, and every later run
returns that the task has failed.

The state is the one between two messages: a task that fails on its way to a state, be it
`complete`, is in `error`.

Results:
* `outcome_receive`: a message lets the task go on, or makes it fail for a cause.
* `sound_occur`, `over_occur`: what one occurrence does before and after a failure.
* `settled_occur`: what it does to a task that has ended.
* `ending_chronicle`: how a download fails, whatever happens.
-/

namespace TensorLink.DownloadTask

open Sequencing

variable {σ : Type}

/-! ## Causes -/

/-- A message makes the task enter a state, once it is ready for this state. -/
inductive LeadsTo (host : Host DownloadState σ) (task : DownloadTask σ) :
    DownloadMessage → DownloadState → DownloadTask σ → Prop where
  | attached (hinterface : task.interface.isSome = true) :
    LeadsTo host task (.host .enumerationDone) .attached task
  | opened {ready : DownloadTask σ} (hinterface : task.interface.isSome = true)
      (hopened : onEntry host .attached (task.goto .attached) = .ok () ready) :
    LeadsTo host task (.host .enumerationDone) .setInterface ready
  | detached : LeadsTo host task (.host .detach) .unattached task
  | advanced {result : Except DriverError Bytes} {next : DownloadState} {ready : DownloadTask σ}
      (hcompleted : (DeviceM.ofExcept result >>= completed task.state) task =
        .ok (some next) ready) :
    LeadsTo host task (.completed task.state result) next ready

/-- Why a message makes a task fail: the host reports a failure, the transfer that the task waits
    for has failed or its reply is not what it should be, or something fails on entry to a state. -/
inductive Cause (host : Host DownloadState σ) (task : DownloadTask σ) :
    DownloadMessage → DriverError → Prop where
  | reported (reason : String) :
    Cause host task (.host (.transferFailed reason)) (.transferFailed reason)
  | rejected {result : Except DriverError Bytes} {error : DriverError} {after : DownloadTask σ}
      (hcompleted : (DeviceM.ofExcept result >>= completed task.state) task =
        .error error after) :
    Cause host task (.completed task.state result) error
  | entry {message : DownloadMessage} {state : DownloadState} {error : DriverError}
      {ready after : DownloadTask σ} (hleads : LeadsTo host task message state ready)
      (hentry : onEntry host state (ready.goto state) = .error error after) :
    Cause host task message error

theorem LeadsTo.ne_error {host : Host DownloadState σ} {task ready : DownloadTask σ}
    {message : DownloadMessage} {state : DownloadState}
    (h : LeadsTo host task message state ready) : state ≠ .error := by
  cases h with
  | advanced hcompleted =>
    obtain ⟨reply, mid, -, hcompleted⟩ := bind_eq_ok_iff.mp hcompleted
    exact (answered_of_completed hcompleted).ne_error
  | _ => simp

/-! ## What a message does -/

/-- The task has not failed. -/
structure GoesOn (task task' : Observed σ) : Prop where
  ne_error : task'.state ≠ .error
  failure_eq : task'.failure = task.failure
  notices_eq : task'.world.notices = task.world.notices

/-- The task has failed, and the listener has been told. -/
structure FailsFor (error : DriverError) (task task' : Observed σ) : Prop where
  state_eq : task'.state = .error
  failure_eq : task'.failure = some error
  notices_eq : task'.world.notices = task.world.notices + 1

/-- What a message makes of a task. -/
inductive Outcome (host : Host DownloadState σ) (task : Observed σ) (message : DownloadMessage)
    (task' : Observed σ) : Prop where
  | goesOn (h : GoesOn task task')
  | fails {error : DriverError} (cause : Cause host.recorded task message error)
      (h : FailsFor error task task')

theorem GoesOn.trans {task mid task' : Observed σ} (h : GoesOn task mid) (h' : GoesOn mid task') :
    GoesOn task task' :=
  ⟨h'.ne_error, h'.failure_eq.trans h.failure_eq, h'.notices_eq.trans h.notices_eq⟩

theorem GoesOn.fails {error : DriverError} {task mid task' : Observed σ} (h : GoesOn task mid)
    (h' : FailsFor error mid task') : FailsFor error task task' :=
  ⟨h'.state_eq, h'.failure_eq, by rw [h'.notices_eq, h.notices_eq]⟩

theorem notices_eq_of_made {made : HostCall DownloadState → Prop} {task task' : Observed σ}
    (h : Made made task task') (hmade : ∀ call, made call → call.isFailed = false) :
    task'.world.notices = task.world.notices := by
  obtain ⟨more, hcalls, hmore⟩ := h
  have hnone : more.countP HostCall.isFailed = 0 :=
    List.countP_eq_zero.mpr fun call hcall => by simp [hmade call (hmore call hcall)]
  unfold Recorded.notices
  rw [hcalls, List.countP_append, hnone, Nat.add_zero]

theorem isFailed_of_madeBy {state : DownloadState} {call : HostCall DownloadState}
    (h : MadeBy state call) : call.isFailed = false := by
  cases h <;> rfl

section

variable (host : Host DownloadState σ) (listener : Listener σ)

theorem fails_fail (error : DriverError) {task : Observed σ} (h : task.state ≠ .error) :
    FailsFor error task (task.fail host.recorded listener.recorded error) := by
  have hfailure : (task.fail host.recorded listener.recorded error).failure = some error := by
    unfold fail
    rw [if_neg h]
    obtain ⟨world, image, state, interface, handle, block, position, pending, readback⟩ := task
    cases readback <;> cases handle <;> cases interface <;> rfl
  refine ⟨(failed_fail host.recorded listener.recorded error h).state_eq, hfailure, ?_⟩
  unfold fail
  rw [if_neg h]
  generalize hclosed : close host.recorded (releaseReadback (goto .error
    { task with failure := some error })) = closed
  have hmade : Made (fun call => call.isFailed = false) task closed := by
    subst hclosed
    refine Made.trans (.of_eq ?_) (made_close host (fun _ => rfl) _)
    unfold releaseReadback
    split <;> rfl
  have htold : (closed.act listener.recorded.failed).world.notices = closed.world.notices + 1 := by
    show (closed.world.calls ++ [HostCall.failed]).countP HostCall.isFailed = _
    rw [List.countP_append]
    rfl
  unfold enterError
  rw [hclosed, htold, notices_eq_of_made hmade fun _ => id]

/-- What is done on entry to a state does not tell the listener of a failure. -/
theorem goesOn_left_onEntry {state : DownloadState} (hstate : state ≠ .error) (task : Observed σ) :
    GoesOn task (left (onEntry host.recorded state (task.goto state))) := by
  have hentered := entered_left host.recorded state task
  have hfailure : Keeps failure (onEntry host.recorded state) :=
    keeps_onEntry host.recorded state (fun _ _ _ _ _ => rfl) fun _ _ _ => rfl
  have hmade := makes_onEntry host state (task.goto state)
  refine ⟨fun herror => hstate ?_, hfailure (task.goto state), ?_⟩
  · rw [← hentered.state_eq, herror]
  · exact notices_eq_of_made hmade fun _ => isFailed_of_madeBy

/-- Before the next state is entered, a completion does not tell the listener of a failure. -/
theorem goesOn_of_core {task mid : Observed σ} (hstate : task.state ≠ .error)
    (hcore : core mid = core task) : GoesOn task mid where
  ne_error herror := hstate ((congrArg (·.state) hcore).symm.trans herror)
  failure_eq := congrArg (·.failure) hcore
  notices_eq := congrArg (List.countP HostCall.isFailed) (calls_eq_of_core hcore)

/-- Entering a state, the task goes on, or what is done on entry is the cause of its failure. -/
theorem outcome_enter {message : DownloadMessage} {state : DownloadState} {task ready : Observed σ}
    (hleads : LeadsTo host.recorded task message state ready) (hready : GoesOn task ready) :
    Outcome host task message (ready.enter host.recorded listener.recorded state) := by
  have hentry := goesOn_left_onEntry host hleads.ne_error ready
  unfold enter
  cases honEntry : onEntry host.recorded state (ready.goto state) with
  | ok _ after =>
    rw [honEntry] at hentry
    exact .goesOn (hready.trans hentry)
  | error error after =>
    rw [honEntry] at hentry
    have hfailed := fails_fail host listener error hentry.ne_error
    exact .fails (.entry hleads honEntry) ((hready.trans hentry).fails hfailed)

theorem outcome_enterAttached {task : Observed σ} (hinterface : task.interface.isSome = true) :
    Outcome host task (.host .enumerationDone)
      (task.enterAttached host.recorded listener.recorded) := by
  have hentry := goesOn_left_onEntry host (show DownloadState.attached ≠ .error by simp) task
  unfold enterAttached
  cases honEntry : onEntry host.recorded .attached (task.goto .attached) with
  | ok _ ready =>
    rw [honEntry] at hentry
    exact outcome_enter host listener (.opened hinterface honEntry) hentry
  | error error after =>
    rw [honEntry] at hentry
    have hfailed := fails_fail host listener error hentry.ne_error
    exact .fails (.entry (.attached hinterface) honEntry) (hentry.fails hfailed)

theorem outcome_receiveEvent (event : HostEvent) {task : Observed σ}
    (hstate : task.state ≠ .error) :
    Outcome host task (.host event)
      (task.receiveEvent host.recorded listener.recorded event) := by
  have hsame : GoesOn task task := ⟨hstate, rfl, rfl⟩
  cases event with
  | attach interfaces => exact .goesOn ⟨hstate, rfl, rfl⟩
  | enumerationDone =>
    unfold receiveEvent
    dsimp only
    split <;> rename_i hinterface
    · exact outcome_enterAttached host listener hinterface
    · exact .goesOn hsame
  | detach => exact outcome_enter host listener .detached hsame
  | transferFailed reason =>
    exact .fails (.reported reason) (fails_fail host listener (.transferFailed reason) hstate)

theorem outcome_receiveCompletion (request : DownloadState) (result : Except DriverError Bytes)
    {task : Observed σ} (hstate : task.state ≠ .error) :
    Outcome host task (.completed request result)
      (task.receiveCompletion host.recorded listener.recorded request result) := by
  unfold receiveCompletion
  split <;> rename_i hrequest
  · exact .goesOn ⟨hstate, rfl, rfl⟩
  · obtain rfl : request = task.state := Decidable.not_not.mp hrequest
    have hkeeps : Keeps core (DeviceM.ofExcept result >>= completed task.state :
        DeviceM (Observed σ) (Option DownloadState)) :=
      (Keeps.ofExcept result).bind fun reply => keeps_completed task.state reply
    cases hcompleted : (DeviceM.ofExcept result >>= completed task.state) task with
    | ok next ready =>
      have hready := goesOn_of_core hstate (hkeeps.of_ok hcompleted)
      cases next with
      | none => exact .goesOn hready
      | some next => exact outcome_enter host listener (.advanced hcompleted) hready
    | error error after =>
      have hafter := goesOn_of_core hstate (hkeeps.of_error hcompleted)
      have hfailed := fails_fail host listener error hafter.ne_error
      exact .fails (.rejected hcompleted) (hafter.fails hfailed)

/-- **Message.** A message lets the task go on, or makes it fail for a cause. -/
theorem outcome_receive (message : DownloadMessage) {task : Observed σ}
    (hstate : task.state ≠ .error) :
    Outcome host task message (task.receive host.recorded listener.recorded message) := by
  cases message with
  | host event => exact outcome_receiveEvent host listener event hstate
  | completed request result => exact outcome_receiveCompletion host listener request result hstate

/-- The same for a message that has been taken from the queue. -/
theorem handled_cases (message : DownloadMessage) (rest : List DownloadMessage) {task : Observed σ}
    (hstate : task.state ≠ .error) :
    let task' := { task with inbox := rest }.receive host.recorded listener.recorded message
    GoesOn task task' ∨
      ∃ cause, Cause host.recorded { task with inbox := rest } message cause ∧
        FailsFor cause task task' := by
  obtain h | ⟨hcause, h⟩ := outcome_receive host listener message
    (show { task with inbox := rest }.state ≠ .error from hstate)
  · exact .inl ⟨h.ne_error, h.failure_eq, h.notices_eq⟩
  · exact .inr ⟨_, hcause, h.state_eq, h.failure_eq, h.notices_eq⟩

end

/-! ## What happens to a task -/

/-- What may happen to a download task. -/
inductive Occurrence (σ : Type) where
  /-- The host has something to tell. -/
  | post (event : HostEvent)
  /-- The transfer that was submitted in the given state completes. -/
  | complete (request : DownloadState) (result : Except DriverError Bytes)
  /-- The world around the task changes. -/
  | outside (inner : σ)
  /-- A run that is under way handles a message, on behalf of whoever listens then. -/
  | handle (listener : Listener σ)
  /-- A run goes on to its end, or a new one is made. -/
  | run (listener : Listener σ) (idle : Nat)

/-- Whether a run ends. -/
def Occurrence.isRun : Occurrence σ → Bool
  | .run .. => true
  | _ => false

/-- A download task, and what its runs have returned, the latest last. -/
structure Chronicle (σ : Type) where
  task : Observed σ
  results : List (Except DriverError DownloadReport) := []

section

variable (host : Host DownloadState σ)

/-- Has something happen. -/
def occur (chronicle : Chronicle σ) : Occurrence σ → Chronicle σ
  | .post event => { chronicle with task := (chronicle.task.post event).2 }
  | .complete request result =>
    { chronicle with task := chronicle.task.deliver request result }
  | .outside inner =>
    { chronicle with
      task := { chronicle.task with world := { chronicle.task.world with inner } } }
  | .handle listener =>
    { chronicle with task := chronicle.task.handleNext host.recorded listener.recorded }
  | .run listener idle =>
    let (result, task) := chronicle.task.run host.recorded listener.recorded idle
    ⟨task, chronicle.results ++ [result]⟩

/-- Everything that happens to a task. -/
def chronicle (start : Observed σ) (occurrences : List (Occurrence σ)) : Chronicle σ :=
  occurrences.foldl (occur host) { task := start }

/-- The messages of the queue are handled in order, and one of them makes the task fail. -/
inductive FailsAmid (listener : Listener σ) (cause : DriverError) : Observed σ → Prop where
  | now {task : Observed σ} {message : DownloadMessage} {rest : List DownloadMessage}
      (hrunning : Running task) (hinbox : task.inbox = message :: rest)
      (hcause : Cause host.recorded { task with inbox := rest } message cause) :
    FailsAmid listener cause task
  | later {task : Observed σ} {message : DownloadMessage} {rest : List DownloadMessage}
      (hrunning : Running task) (hinbox : task.inbox = message :: rest)
      (hrest : FailsAmid listener cause
        ({ task with inbox := rest }.receive host.recorded listener.recorded message)) :
    FailsAmid listener cause task

/-- An occurrence makes a task fail. -/
inductive FailsBy (task : Observed σ) (cause : DriverError) : Occurrence σ → Prop where
  | handle {message : DownloadMessage} {rest : List DownloadMessage} (listener : Listener σ)
      (hrunning : Running task) (hinbox : task.inbox = message :: rest)
      (hcause : Cause host.recorded { task with inbox := rest } message cause) :
    FailsBy task cause (.handle listener)
  | run {listener : Listener σ} (idle : Nat) (h : FailsAmid host listener cause task) :
    FailsBy task cause (.run listener idle)

/-- What so many runs return in all that end after a task has failed: the cause of its failure, and
    from then on that it has failed. -/
def told (cause : DriverError) : Nat → List (Except DriverError DownloadReport)
  | 0 => []
  | count + 1 => .error cause :: List.replicate count (.error (.invalidState "DFU task in Error"))

/-- After some occurrences one more has made the task fail, and then others have followed. -/
structure FailedBy (start : Observed σ) (before : List (Occurrence σ)) (occurrence : Occurrence σ)
    (after : List (Occurrence σ)) (cause : DriverError) : Prop where
  fails : FailsBy host (chronicle host start before).task cause occurrence
  state_eq : (chronicle host start (before ++ [occurrence])).task.state = .error
  results_eq : (chronicle host start (before ++ occurrence :: after)).results =
    (chronicle host start before).results ++
      told cause ((occurrence :: after).countP Occurrence.isRun)

/-- How a download task ends to which this has happened. -/
structure Ending (start : Observed σ) (occurrences : List (Occurrence σ)) : Prop where
  /-- The listener has been told once that the task has failed, if it has. -/
  notices_eq : (chronicle host start occurrences).task.world.notices =
    if (chronicle host start occurrences).task.state = .error then 1 else 0
  /-- A task that has ended stays as it is, and makes no further call. -/
  settled : ¬Running (chronicle host start occurrences).task → ∀ more : List (Occurrence σ),
    let task' := (chronicle host start (occurrences ++ more)).task
    task'.state = (chronicle host start occurrences).task.state ∧
      task'.world.calls = (chronicle host start occurrences).task.world.calls
  /-- The cause of the failure is what the first run returns that ends after it. -/
  reported : (chronicle host start occurrences).task.state = .error →
    ∃ before occurrence after cause, occurrences = before ++ occurrence :: after ∧
      FailedBy host start before occurrence after cause

/-! ## What one occurrence does -/

/-- What is known of a task that has not failed. -/
structure Sound (chronicle : Chronicle σ) : Prop where
  ne_error : chronicle.task.state ≠ .error
  failure_eq : chronicle.task.failure = none
  notices_eq : chronicle.task.world.notices = 0

/-- What is known of a task that has failed, after so many runs have ended since. -/
structure Over (cause : DriverError) (earlier : List (Except DriverError DownloadReport))
    (runs : Nat) (chronicle : Chronicle σ) : Prop where
  state_eq : chronicle.task.state = .error
  failure_eq : chronicle.task.failure = if runs = 0 then some cause else none
  notices_eq : chronicle.task.world.notices = 1
  results_eq : chronicle.results = earlier ++ told cause runs

theorem told_succ (cause : DriverError) (count : Nat) :
    told cause (count + 1) = told cause count ++ [.error
      ((if count = 0 then some cause else none).getD (.invalidState "DFU task in Error"))] := by
  cases count with
  | zero => rfl
  | succ count =>
    rw [told, told, List.replicate_succ']
    rfl

theorem runs_of_error {listener : Listener σ} {idle : Nat} {task : Observed σ}
    {ended : Except DriverError DownloadReport × Observed σ}
    (h : Runs host.recorded listener.recorded idle task ended) (herror : task.state = .error) :
    ended = (.error (task.failure.getD (.invalidState "DFU task in Error")),
      { task with failure := none }) := by
  cases h with
  | error => rfl
  | complete hcomplete => rw [herror] at hcomplete; cases hcomplete
  | idle hrunning => exact absurd herror hrunning.2
  | handle hrunning => exact absurd herror hrunning.2

/-- **Run.** A run leaves a task sound that has not failed, or returns the cause of its failure. -/
theorem runs_cases {listener : Listener σ} {idle : Nat} {task : Observed σ}
    {ended : Except DriverError DownloadReport × Observed σ}
    (h : Runs host.recorded listener.recorded idle task ended) (hstate : task.state ≠ .error)
    (hfailure : task.failure = none) :
    GoesOn task ended.2 ∨ ∃ cause, FailsAmid host listener cause task ∧ ended.1 = .error cause ∧
      ended.2.state = .error ∧ ended.2.failure = none ∧
        ended.2.world.notices = task.world.notices + 1 := by
  induction h with
  | complete => exact .inl ⟨hstate, rfl, rfl⟩
  | error herror => exact absurd herror hstate
  | idle => exact .inl ⟨hstate, rfl, rfl⟩
  | @handle task message rest ended hrunning hinbox hrest ih =>
    obtain hgoes | ⟨cause, hcause, hfails⟩ := handled_cases host listener message rest hstate
    · obtain hgoes' | ⟨cause, hamid, hended⟩ := ih hgoes.ne_error (hgoes.failure_eq.trans hfailure)
      · exact .inl (hgoes.trans hgoes')
      · rw [hgoes.notices_eq] at hended
        exact .inr ⟨cause, .later hrunning hinbox hamid, hended⟩
    · -- the rest of the run finds the task in `error`, and returns the cause that was kept
      rw [runs_of_error host hrest hfails.state_eq, hfails.failure_eq]
      exact .inr ⟨cause, .now hrunning hinbox hcause, rfl, hfails.state_eq, rfl, hfails.notices_eq⟩

/-- The state, the failure to be returned and the calls are what they were. -/
structure Untouched (task task' : Observed σ) : Prop where
  state_eq : task'.state = task.state
  failure_eq : task'.failure = task.failure
  calls_eq : task'.world.calls = task.world.calls

theorem untouched_post (event : HostEvent) (task : Observed σ) :
    Untouched task (task.post event).2 := by
  unfold post
  split <;> exact ⟨rfl, rfl, rfl⟩

theorem untouched_deliver (request : DownloadState) (result : Except DriverError Bytes)
    (task : Observed σ) : Untouched task (task.deliver request result) := by
  unfold deliver
  split <;> exact ⟨rfl, rfl, rfl⟩

theorem Untouched.notices_eq {task task' : Observed σ} (h : Untouched task task') :
    task'.world.notices = task.world.notices := by
  unfold Recorded.notices
  rw [h.calls_eq]

theorem Untouched.goesOn {task task' : Observed σ} (h : Untouched task task')
    (hstate : task.state ≠ .error) : GoesOn task task' :=
  ⟨fun herror => hstate (h.state_eq.symm.trans herror), h.failure_eq, h.notices_eq⟩

theorem Sound.of_goesOn {chronicle : Chronicle σ} (h : Sound chronicle) {task : Observed σ}
    (hgoes : GoesOn chronicle.task task) (results : List (Except DriverError DownloadReport)) :
    Sound ⟨task, results⟩ :=
  ⟨hgoes.ne_error, hgoes.failure_eq.trans h.failure_eq, hgoes.notices_eq.trans h.notices_eq⟩

/-- **Before a failure.** Whatever happens to a task that has not failed, it goes on, or this makes
    it fail for a cause, which a run returns that ends with it. -/
theorem sound_occur {chronicle : Chronicle σ} (h : Sound chronicle) (occurrence : Occurrence σ) :
    Sound (occur host chronicle occurrence) ∨
      ∃ cause, FailsBy host chronicle.task cause occurrence ∧
        Over cause chronicle.results (if occurrence.isRun then 1 else 0)
          (occur host chronicle occurrence) := by
  obtain ⟨task, results⟩ := chronicle
  cases occurrence with
  | post event => exact .inl (h.of_goesOn ((untouched_post event task).goesOn h.ne_error) results)
  | complete request result =>
    exact .inl (h.of_goesOn ((untouched_deliver request result task).goesOn h.ne_error) results)
  | outside inner => exact .inl ⟨h.ne_error, h.failure_eq, h.notices_eq⟩
  | handle listener =>
    obtain hidle | ⟨message, rest, hrunning, hinbox, hhandled⟩ :=
      handleNext_cases host.recorded listener.recorded task
    · unfold occur
      dsimp only
      rw [hidle]
      exact .inl h
    · unfold occur
      dsimp only
      rw [hhandled]
      obtain hgoes | ⟨cause, hcause, hfails⟩ :=
        handled_cases host listener message rest h.ne_error
      · exact .inl (h.of_goesOn hgoes results)
      · exact .inr ⟨cause, .handle listener hrunning hinbox hcause, hfails.state_eq,
          hfails.failure_eq, hfails.notices_eq.trans (congrArg (· + 1) h.notices_eq),
          (List.append_nil _).symm⟩
  | run listener idle =>
    have hruns := runs_run host.recorded listener.recorded idle task
    obtain hgoes | ⟨cause, hamid, hresult, hstate, hfailure, hnotices⟩ :=
      runs_cases host hruns h.ne_error h.failure_eq
    · exact .inl (h.of_goesOn hgoes _)
    · refine .inr ⟨cause, .run idle hamid, hstate, hfailure,
        hnotices.trans (congrArg (· + 1) h.notices_eq), ?_⟩
      exact congrArg (results ++ [·]) hresult

theorem occur_handle_of_ended {chronicle : Chronicle σ} (hended : ¬Running chronicle.task)
    (listener : Listener σ) : occur host chronicle (.handle listener) = chronicle := by
  show { chronicle with task := _ } = chronicle
  rw [handleNext_of_ended host.recorded listener.recorded hended]

/-- **After a failure.** A task that has failed stays so, and only the next run takes the cause. -/
theorem over_occur {cause : DriverError} {earlier : List (Except DriverError DownloadReport)}
    {runs : Nat} {chronicle : Chronicle σ} (h : Over cause earlier runs chronicle)
    (occurrence : Occurrence σ) :
    Over cause earlier (runs + if occurrence.isRun then 1 else 0)
      (occur host chronicle occurrence) := by
  obtain ⟨task, results⟩ := chronicle
  have hkept {task' : Observed σ} (huntouched : Untouched task task') :
      Over cause earlier runs ⟨task', results⟩ :=
    ⟨huntouched.state_eq.trans h.state_eq, huntouched.failure_eq.trans h.failure_eq,
      huntouched.notices_eq.trans h.notices_eq, h.results_eq⟩
  cases occurrence with
  | post event => exact hkept (untouched_post event task)
  | complete request result => exact hkept (untouched_deliver request result task)
  | outside inner => exact hkept ⟨rfl, rfl, rfl⟩
  | handle listener =>
    rw [occur_handle_of_ended host fun hrunning => hrunning.2 h.state_eq]
    exact h
  | run listener idle =>
    have hfailure : task.failure = if runs = 0 then some cause else none := h.failure_eq
    have hresults : results = earlier ++ told cause runs := h.results_eq
    unfold occur
    dsimp only
    rw [run_error host.recorded listener.recorded idle h.state_eq]
    refine ⟨h.state_eq, rfl, h.notices_eq, ?_⟩
    show results ++ _ = earlier ++ told cause (runs + 1)
    rw [told_succ, ← List.append_assoc, hresults, hfailure]

/-- **At the end.** A task that has ended stays as it is, and makes no further call. -/
theorem settled_occur {chronicle : Chronicle σ} (hended : ¬Running chronicle.task)
    (occurrence : Occurrence σ) :
    (occur host chronicle occurrence).task.state = chronicle.task.state ∧
      (occur host chronicle occurrence).task.world.calls = chronicle.task.world.calls := by
  obtain ⟨task, results⟩ := chronicle
  cases occurrence with
  | post event => exact ⟨(untouched_post event task).state_eq, (untouched_post event task).calls_eq⟩
  | complete request result =>
    exact ⟨(untouched_deliver request result task).state_eq,
      (untouched_deliver request result task).calls_eq⟩
  | outside inner => exact ⟨rfl, rfl⟩
  | handle listener =>
    rw [occur_handle_of_ended host hended]
    exact ⟨rfl, rfl⟩
  | run listener idle =>
    unfold occur
    dsimp only
    by_cases hcomplete : task.state = .complete
    · rw [run_complete host.recorded listener.recorded idle hcomplete]
      exact ⟨rfl, rfl⟩
    · have herror : task.state = .error := by
        by_contra herror
        exact hended ⟨hcomplete, herror⟩
      rw [run_error host.recorded listener.recorded idle herror]
      exact ⟨rfl, rfl⟩

/-! ## Everything that happens -/

theorem chronicle_concat (start : Observed σ) (occurrences : List (Occurrence σ))
    (occurrence : Occurrence σ) :
    chronicle host start (occurrences ++ [occurrence]) =
      occur host (chronicle host start occurrences) occurrence := List.foldl_concat ..

/-- Either nothing has made the task fail, or one occurrence has, and since then only what runs
    return has been added. -/
theorem sound_or_over {start : Observed σ} (hstart : Sound { task := start })
    (occurrences : List (Occurrence σ)) :
    Sound (chronicle host start occurrences) ∨
      ∃ before occurrence after cause, occurrences = before ++ occurrence :: after ∧
        FailsBy host (chronicle host start before).task cause occurrence ∧
        (chronicle host start (before ++ [occurrence])).task.state = .error ∧
        Over cause (chronicle host start before).results
          ((occurrence :: after).countP Occurrence.isRun) (chronicle host start occurrences) := by
  induction occurrences using List.reverseRecOn with
  | nil => exact .inl hstart
  | append_singleton occurrences last ih =>
    rw [chronicle_concat]
    obtain hsound | ⟨before, occurrence, after, cause, rfl, hfails, hstate, hover⟩ := ih
    · obtain hsound' | ⟨cause, hfails, hover⟩ := sound_occur host hsound last
      · exact .inl hsound'
      · -- the last occurrence is the one at fault
        refine .inr ⟨occurrences, last, [], cause, rfl, hfails, ?_, ?_⟩
        · rw [chronicle_concat]
          exact hover.state_eq
        · rw [List.countP_singleton]
          exact hover
    · have hover' := over_occur host hover last
      refine .inr ⟨before, occurrence, after ++ [last], cause, by simp, hfails, hstate, ?_⟩
      rw [← List.cons_append, List.countP_append, List.countP_singleton]
      exact hover'

theorem settled_chronicle {start : Observed σ} {occurrences : List (Occurrence σ)}
    (hended : ¬Running (chronicle host start occurrences).task) (more : List (Occurrence σ)) :
    let task' := (chronicle host start (occurrences ++ more)).task
    task'.state = (chronicle host start occurrences).task.state ∧
      task'.world.calls = (chronicle host start occurrences).task.world.calls := by
  induction more using List.reverseRecOn with
  | nil => rw [List.append_nil]; exact ⟨rfl, rfl⟩
  | append_singleton more last ih =>
    obtain ⟨hstate, hcalls⟩ := ih
    have hended' : ¬Running (chronicle host start (occurrences ++ more)).task := by
      unfold Running at hended ⊢
      rwa [hstate]
    obtain ⟨hstate', hcalls'⟩ := settled_occur host hended' last
    rw [← List.append_assoc, chronicle_concat]
    exact ⟨hstate'.trans hstate, hcalls'.trans hcalls⟩

/-- **Ending.** How a download fails, whatever happens to the task. -/
theorem ending_chronicle {world : σ} {image : Bytes} {start : Observed σ}
    (hnew : new { inner := world } image = .ok start) (occurrences : List (Occurrence σ)) :
    Ending host start occurrences := by
  have hstart : Sound { task := start } := by
    rw [((new_eq_ok_iff _ _ _).mp hnew).2]
    exact ⟨by simp, rfl, rfl⟩
  have hsettled (hended : ¬Running (chronicle host start occurrences).task) :=
    settled_chronicle host hended
  obtain hsound | ⟨before, occurrence, after, cause, rfl, hfails, hstate, hover⟩ :=
    sound_or_over host hstart occurrences
  · exact ⟨by rw [if_neg hsound.ne_error, hsound.notices_eq], hsettled,
      fun herror => absurd herror hsound.ne_error⟩
  · exact ⟨by rw [if_pos hover.state_eq, hover.notices_eq], hsettled,
      fun _ => ⟨before, occurrence, after, cause, rfl, hfails, hstate, hover.results_eq⟩⟩

end
end TensorLink.DownloadTask

import Mathlib.Data.List.Forall2
import TensorLink.Proofs.Attach.Turns

/-!
# Sessions of an attach task

A session lasts from one detach to the next. A transfer that is submitted in one session may
complete in a later one: nothing takes it back when the device goes away, and its completion may
have been queued already. The transfers under way and the messages in the queue are traced here to
the session that they come from.

The task knows a completion by the state that waits for it, and by nothing else. So it ignores the
completions of sessions that are over, unless it waits for one of its own.

Results:
* `task_step`: tracing does not change what the task does.
* `traced_handle`: what one message keeps.
* `traced_track`: whatever happens, every completion in the queue comes from a session in which an
  interface has been selected, and a task that waits has selected one in its own session.
* `unaffected_iff_not_waitsAfter`: when the completion of an earlier session has no effect.
-/

namespace TensorLink.AttachTask

variable {σ : Type}

/-! ## Tracing -/

/-- Whether a message ends a session. -/
def endsSession : AttachMessage → Bool
  | .host .detach => true
  | _ => false

/-- Whether a call is the submission of a control transfer that is under way after it. -/
def underWay : HostCall AttachState → Bool
  | .control _ _ _ _ .pending => true
  | _ => false

/-- Whether a call is the submission of a control transfer that is accepted. -/
def isAccepted : HostCall AttachState → Bool
  | .control _ _ _ _ .pending | .control _ _ _ _ (.completed _) => true
  | _ => false

/-- An attach task, with the sessions that transfers and messages come from. -/
structure Tracked (σ : Type) where
  task : Observed σ
  /-- How many sessions are over. -/
  session : Nat := 0
  /-- The sessions of the transfers that have been accepted so far. -/
  submitted : List Nat := []
  /-- The sessions of the transfers that have not completed yet. -/
  inFlight : List Nat := []
  /-- The session that each message of the queue comes from; events of the host come from none. -/
  origins : List (Option Nat) := []

/-- What may happen to an attach task. -/
inductive Move (σ : Type) where
  | post (event : HostEvent)
  /-- A transfer that is under way completes. -/
  | complete (index : Nat) (result : Except DriverError Unit)
  /-- The task handles a message. -/
  | step
  /-- The world around the task changes. -/
  | change (world : σ → σ)

/-- How many calls of a kind have been made from one task to the other. -/
def callsSince (kind : HostCall AttachState → Bool) (before after : Observed σ) : Nat :=
  after.world.calls.countP kind - before.world.calls.countP kind

/-- How many messages have been queued from one task to the other. -/
def queuedSince (before after : Observed σ) : Nat := after.inbox.length - before.inbox.length

namespace Tracked

/-- The task waits for the completion of a selection that it has made in its present session, which
    is later than the given one. -/
def WaitsAfter (session : Nat) (tracked : Tracked σ) : Prop :=
  tracked.task.state = .setInterface ∧ session < tracked.session ∧
    tracked.session ∈ tracked.submitted

section

variable (host : Host AttachState σ) (listener : Listener σ)

/-- Handles a message that has been taken from the queue. -/
def handle (message : AttachMessage) (rest : List AttachMessage) (tracked : Tracked σ) :
    Tracked σ :=
  let taken := { tracked.task with inbox := rest }
  let task := taken.receive host.recorded listener.recorded message
  let session := if endsSession message then tracked.session + 1 else tracked.session
  { task, session
    submitted := tracked.submitted ++ List.replicate (callsSince isAccepted taken task) session
    inFlight := tracked.inFlight ++ List.replicate (callsSince underWay taken task) session
    origins := tracked.origins.tail ++ List.replicate (queuedSince taken task) (some session) }

/-- Handles the oldest message. -/
def step (tracked : Tracked σ) : Tracked σ :=
  if tracked.task.state = .error then tracked
  else
    match tracked.task.inbox with
    | [] => tracked
    | message :: rest => tracked.handle host listener message rest

/-- Adds what has been queued with no session or with one. -/
def queue (origin : Option Nat) (task : Observed σ) (tracked : Tracked σ) : Tracked σ :=
  { tracked with
    task, origins := tracked.origins ++ List.replicate (queuedSince tracked.task task) origin }

/-- Makes a move. -/
def move (tracked : Tracked σ) : Move σ → Tracked σ
  | .post event => tracked.queue none (tracked.task.post event).2
  | .complete index result =>
    match tracked.inFlight[index]? with
    | none => tracked
    | some session =>
      let delivered := tracked.queue (some session) (tracked.task.deliver .setInterface result)
      { delivered with inFlight := tracked.inFlight.eraseIdx index }
  | .step => tracked.step host listener
  | .change world =>
    { tracked with
      task := { tracked.task with
        world := { tracked.task.world with inner := world tracked.task.world.inner } } }

end

end Tracked

/-- Everything that happens to an attach task that has just started. -/
def track (host : Host AttachState σ) (listener : Listener σ) (world : σ) (moves : List (Move σ)) :
    Tracked σ :=
  moves.foldl (Tracked.move host listener) { task := { world := { inner := world } } }

/-- Neither the state, nor the transport, nor anything that the host or the listener can tell has
    changed. -/
structure Unaffected (before after : Observed σ) : Prop where
  state : after.state = before.state
  handle : after.handle = before.handle
  world : after.world = before.world

namespace Tracked

/-! ## What is known of the queue -/

/-- A message comes from the session that it is traced to. -/
inductive ComesFrom (submitted : List Nat) : AttachMessage → Option Nat → Prop where
  | event (event : HostEvent) : ComesFrom submitted (.host event) none
  | completion (result : Except DriverError Unit) {session : Nat}
      (hsubmitted : session ∈ submitted) :
    ComesFrom submitted (.completed .setInterface result) (some session)

/-- What is known of a task and its sessions. -/
structure Traced (tracked : Tracked σ) : Prop where
  origins : List.Forall₂ (ComesFrom tracked.submitted) tracked.task.inbox tracked.origins
  inFlight : ∀ session ∈ tracked.inFlight, session ∈ tracked.submitted
  waiting : tracked.task.state = .setInterface → tracked.session ∈ tracked.submitted

theorem ComesFrom.mono {submitted submitted' : List Nat} {message : AttachMessage}
    {origin : Option Nat} (h : ComesFrom submitted message origin)
    (hmono : submitted ⊆ submitted') : ComesFrom submitted' message origin := by
  cases h with
  | event event => exact .event event
  | completion result hsubmitted => exact .completion result (hmono hsubmitted)

/-- Messages that all come from one session, or from none. -/
theorem forall₂_replicate {submitted : List Nat} {origin : Option Nat}
    {queued : List AttachMessage} (h : ∀ message ∈ queued, ComesFrom submitted message origin) :
    List.Forall₂ (ComesFrom submitted) queued (List.replicate queued.length origin) := by
  induction queued with
  | nil => exact .nil
  | cons message queued ih =>
    exact .cons (h message List.mem_cons_self)
      (ih fun other hother => h other (List.mem_cons_of_mem _ hother))

end Tracked

section

variable {before after : Observed σ} {calls : List (HostCall AttachState)}
  {queued : List AttachMessage} {outline outline' : Outline} {message : AttachMessage}

theorem Turned.callsSince_eq (turned : Turned before after calls queued outline)
    (kind : HostCall AttachState → Bool) : callsSince kind before after = calls.countP kind := by
  rw [callsSince, turned.calls_eq, List.countP_append, Nat.add_sub_cancel_left]

theorem queuedSince_eq (hinbox : after.inbox = before.inbox ++ queued) :
    queuedSince before after = queued.length := by
  rw [queuedSince, hinbox, List.length_append, Nat.add_sub_cancel_left]

/-- Every transfer that is under way has been accepted. -/
theorem countP_underWay_le (calls : List (HostCall AttachState)) :
    calls.countP underWay ≤ calls.countP isAccepted := by
  refine List.countP_mono_left fun call _ hpending => ?_
  unfold underWay at hpending
  split at hpending
  · rfl
  · cases hpending

/-- What a message does to the sessions: either it queues nothing and does not make the task wait,
    or a transfer is accepted and the session goes on. -/
theorem Turn.quiet_or_accepted (turn : Turn outline message calls queued outline') :
    (queued = [] ∧ (outline'.state = .setInterface →
      outline.state = .setInterface ∧ endsSession message = false)) ∨
    (endsSession message = false ∧ 0 < calls.countP isAccepted ∧
      ∀ completion ∈ queued, ∃ result, completion = .completed .setInterface result) := by
  cases turn with
  | attached => exact .inl ⟨rfl, fun h => ⟨h, rfl⟩⟩
  | ignored => exact .inl ⟨rfl, fun h => ⟨h, rfl⟩⟩
  | surplus => exact .inl ⟨rfl, fun h => ⟨h, rfl⟩⟩
  | @selected interface calls handle submission queued hinterface opening accepted =>
    refine .inr ⟨rfl, List.countP_pos_iff.mpr ⟨selectCall interface handle submission, by simp, ?_⟩,
      ?_⟩
    · cases accepted <;> rfl
    · cases accepted <;> simp
  | _ => exact .inl ⟨rfl, fun h => by cases h⟩

/-- The completion that a task waits for ends its wait. -/
theorem Turn.state_ne_setInterface (turn : Turn outline message calls queued outline')
    {result : Except DriverError Unit} (hmessage : message = .completed .setInterface result)
    (hstate : outline.state = .setInterface) : outline'.state ≠ .setInterface := by
  cases turn with
  | attached => cases hmessage
  | selected => cases hmessage
  | ignored _ hrequest =>
    cases hmessage
    exact absurd hstate.symm hrequest
  | surplus hother => exact absurd hstate hother
  | _ => exact fun h => by cases h

end

namespace Tracked

section

variable (host : Host AttachState σ) (listener : Listener σ) {tracked : Tracked σ}

/-- Tracing does not change what the task does. -/
theorem task_step : (tracked.step host listener).task =
    tracked.task.step host.recorded listener.recorded := by
  unfold step AttachTask.step
  by_cases hstate : tracked.task.state = .error
  · rw [if_pos hstate, if_pos hstate]
  · rw [if_neg hstate, if_neg hstate]
    cases tracked.task.inbox <;> rfl

/-- **Message.** Whatever a message does, what it submits and queues comes from the session that it
    is handled in. -/
theorem traced_handle (traced : Traced tracked) {message : AttachMessage}
    {rest : List AttachMessage} (hinbox : tracked.task.inbox = message :: rest) :
    Traced (tracked.handle host listener message rest) := by
  have horigins := traced.origins
  rw [hinbox] at horigins
  obtain ⟨origin, origins, -, hrest, horigin⟩ := List.forall₂_cons_left_iff.mp horigins
  obtain ⟨calls, queued, outline, turn, turned⟩ :=
    turn_receive host listener message { tracked.task with inbox := rest }
  have hstate := congrArg Outline.state turned.outline_eq
  unfold handle
  dsimp only
  rw [turned.callsSince_eq, turned.callsSince_eq, queuedSince_eq turned.inbox_eq, horigin,
    List.tail_cons]
  generalize hsession : (if endsSession message then tracked.session + 1 else tracked.session) =
    session
  have hmono : tracked.submitted ⊆
      tracked.submitted ++ List.replicate (calls.countP isAccepted) session :=
    List.subset_append_left _ _
  have hnew (hpos : 0 < calls.countP isAccepted) :
      session ∈ tracked.submitted ++ List.replicate (calls.countP isAccepted) session :=
    List.mem_append_right _ (List.mem_replicate.mpr ⟨Nat.ne_of_gt hpos, rfl⟩)
  refine ⟨?_, fun other hother => ?_, fun hwaiting => ?_⟩
  · rw [turned.inbox_eq]
    refine List.rel_append (hrest.imp fun _ _ h => h.mono hmono)
      (forall₂_replicate fun completion hcompletion => ?_)
    obtain ⟨rfl, -⟩ | ⟨-, hpos, hqueued⟩ := turn.quiet_or_accepted
    · cases hcompletion
    · obtain ⟨result, rfl⟩ := hqueued completion hcompletion
      exact .completion result (hnew hpos)
  · obtain hbefore | hstarted := List.mem_append.mp hother
    · exact hmono (traced.inFlight other hbefore)
    · obtain ⟨hcount, rfl⟩ := List.mem_replicate.mp hstarted
      exact hnew (Nat.lt_of_lt_of_le (Nat.pos_of_ne_zero hcount) (countP_underWay_le calls))
  · obtain ⟨-, hquiet⟩ | ⟨-, hpos, -⟩ := turn.quiet_or_accepted
    · obtain ⟨hbefore, hends⟩ := hquiet (hstate.symm.trans hwaiting)
      rw [hends] at hsession
      subst hsession
      exact hmono (traced.waiting hbefore)
    · exact hnew hpos

theorem traced_queue (traced : Traced tracked) {task : Observed σ} {origin : Option Nat}
    {queued : List AttachMessage} (hinbox : task.inbox = tracked.task.inbox ++ queued)
    (hstate : task.state = tracked.task.state)
    (hqueued : ∀ message ∈ queued, ComesFrom tracked.submitted message origin) :
    Traced (tracked.queue origin task) := by
  unfold queue
  rw [queuedSince_eq hinbox]
  refine ⟨?_, traced.inFlight, fun h => traced.waiting (hstate.symm.trans h)⟩
  rw [hinbox]
  exact List.rel_append traced.origins (forall₂_replicate hqueued)

theorem traced_post (traced : Traced tracked) (event : HostEvent) :
    Traced (tracked.queue none (tracked.task.post event).2) := by
  unfold post
  split
  · exact traced_queue traced (List.append_nil _).symm rfl (by simp)
  · exact traced_queue traced rfl rfl (by simpa using .event event)

theorem traced_deliver (traced : Traced tracked) {session : Nat}
    (hsession : session ∈ tracked.submitted) (result : Except DriverError Unit) :
    Traced (tracked.queue (some session) (tracked.task.deliver .setInterface result)) := by
  unfold deliver
  split
  · exact traced_queue traced (List.append_nil _).symm rfl (by simp)
  · exact traced_queue traced rfl rfl (by simpa using .completion result hsession)

/-- **Step.** Every move keeps what is known of the sessions. -/
theorem traced_move (traced : Traced tracked) (move : Move σ) :
    Traced (tracked.move host listener move) := by
  cases move with
  | post event => exact traced_post traced event
  | complete index result =>
    unfold Tracked.move
    dsimp only
    cases hsession : tracked.inFlight[index]? with
    | none => exact traced
    | some session =>
      have hsubmitted := traced.inFlight session (List.mem_of_getElem? hsession)
      have hdelivered := traced_deliver traced hsubmitted result
      exact ⟨hdelivered.origins, fun other hother =>
        hdelivered.inFlight other (List.mem_of_mem_eraseIdx hother), hdelivered.waiting⟩
  | step =>
    unfold Tracked.move step
    dsimp only
    split
    · exact traced
    · split
      · exact traced
      · exact traced_handle host listener traced ‹_›
  | change world => exact ⟨traced.origins, traced.inFlight, traced.waiting⟩

/-- **Run.** So does everything that happens. -/
theorem traced_track (world : σ) (moves : List (Move σ)) :
    Traced (track host listener world moves) := by
  have hstart : Traced ({ task := { world := { inner := world } } } : Tracked σ) :=
    ⟨.nil, fun _ h => absurd h List.not_mem_nil, fun h => by cases h⟩
  exact List.foldlRecOn moves (Tracked.move host listener) hstart
    fun tracked traced move _ => traced_move host listener traced move

end

end Tracked

/-! ## Completions of earlier sessions -/

section

variable (host : Host AttachState σ) (listener : Listener σ)

theorem step_of_inbox {σ : Type} (host : Host AttachState σ) (listener : Listener σ)
    {task : AttachTask σ} {message : AttachMessage} {rest : List AttachMessage}
    (hstate : task.state ≠ .error) (hinbox : task.inbox = message :: rest) :
    task.step host listener = { task with inbox := rest }.receive host listener message := by
  unfold step
  rw [if_neg hstate, hinbox]

/-- **Late completions.** Whatever happens to a task, in any order: when it handles a completion
    that comes from a session that is over, this has no effect, exactly if the task does not wait
    for a selection that it has made in a later session. -/
theorem unaffected_iff_not_waitsAfter (world : σ) (moves : List (Move σ)) {session : Nat}
    (horigin : (track host listener world moves).origins.head? = some (some session))
    (hover : session < (track host listener world moves).session) :
    Unaffected (track host listener world moves).task
        ((track host listener world moves).task.step host.recorded listener.recorded) ↔
      ¬(track host listener world moves).WaitsAfter session := by
  have htraced := Tracked.traced_track host listener world moves
  generalize track host listener world moves = tracked at horigin hover htraced ⊢
  obtain ⟨origins, hsplit⟩ : ∃ origins, tracked.origins = some session :: origins :=
    List.head?_eq_some_iff.mp horigin
  have horigins := htraced.origins
  rw [hsplit] at horigins
  obtain ⟨message, rest, hfrom, -, hinbox⟩ := List.forall₂_cons_right_iff.mp horigins
  obtain ⟨⟩ | ⟨result, hsubmitted⟩ := hfrom
  constructor
  · rintro unaffected ⟨hstate, -⟩
    obtain ⟨calls, queued, outline, turn, turned⟩ := turn_receive host listener
      (.completed .setInterface result) { tracked.task with inbox := rest }
    have hended := turn.state_ne_setInterface rfl hstate
    rw [step_of_inbox host.recorded listener.recorded (by simp [hstate]) hinbox] at unaffected
    have houtline := congrArg Outline.state turned.outline_eq
    exact hended (houtline.symm.trans (unaffected.state.trans hstate))
  · intro hwaits
    have hstate : tracked.task.state ≠ .setInterface := fun h =>
      hwaits ⟨h, hover, htraced.waiting h⟩
    by_cases hfailed : tracked.task.state = .error
    · rw [step_error host.recorded listener.recorded hfailed]
      exact ⟨rfl, rfl, rfl⟩
    · rw [step_of_inbox host.recorded listener.recorded hfailed hinbox, receive_stale]
      · exact ⟨rfl, rfl, rfl⟩
      · exact fun h => hstate h.symm

end

/-- A host that opens everything and completes no transfer on its own. -/
def patientHost : Host AttachState Unit where
  openClass _ := pure ⟨0⟩
  closeClass _ := id
  resetBus := pure ()
  requestReenumeration := pure ()
  transport _ :=
    { openPipe := fun _ => pure ()
      control := fun _ _ _ state => (.pending, state)
      bulkOut := fun _ _ _ state => (.pending, state)
      bulkIn := fun _ _ _ state => (.pending, state) }

/-- A device is attached and enumerated. -/
def attachMoves : List (Move Unit) :=
  [.post (.attach Interface.application), .post .enumerationDone, .step, .step]

/-- The device goes away, and then the transfer of its session fails. -/
def lateMoves : List (Move Unit) :=
  attachMoves ++ [.post .detach, .step, .complete 0 (.error (.transferFailed "lost"))]

/-- The late completion has no effect, as no device is attached. -/
theorem unaffected_lateMoves :
    (track patientHost (.silent Unit) () lateMoves).origins.head? = some (some 0) ∧
      0 < (track patientHost (.silent Unit) () lateMoves).session ∧
      Unaffected (track patientHost (.silent Unit) () lateMoves).task
        ((track patientHost (.silent Unit) () lateMoves).task.step patientHost.recorded
          (Listener.silent Unit).recorded) := by
  have horigin : (track patientHost (.silent Unit) () lateMoves).origins.head? = some (some 0) := by
    rfl
  have hover : 0 < (track patientHost (.silent Unit) () lateMoves).session := by decide
  refine ⟨horigin, hover, (unaffected_iff_not_waitsAfter patientHost (.silent Unit) () lateMoves
    horigin hover).mpr ?_⟩
  rintro ⟨hstate, -⟩
  cases hstate

/-- The device comes back before its late completion is handled. -/
def crossedMoves : List (Move Unit) :=
  attachMoves ++ [.post .detach, .step] ++ attachMoves ++
    [.complete 0 (.error (.transferFailed "lost"))]

/-- A late completion ends a session that it does not come from. -/
theorem not_unaffected_of_crossed :
    ¬∀ (σ : Type) (host : Host AttachState σ) (listener : Listener σ) (world : σ)
      (moves : List (Move σ)) (session : Nat),
      (track host listener world moves).origins.head? = some (some session) →
      session < (track host listener world moves).session →
      Unaffected (track host listener world moves).task
        ((track host listener world moves).task.step host.recorded listener.recorded) := by
  intro h
  have hcrossed := (h Unit patientHost (.silent Unit) () crossedMoves 0 rfl (by decide)).state
  cases hcrossed

end TensorLink.AttachTask

import Mathlib.Data.List.Infix
import TensorLink.Proofs.Attach.Sessions
import TensorLink.Proofs.ClassDrivers

/-!
# The class drivers of an attach task

An attach task opens the class driver of a device once it has been enumerated, and closes it when
the device goes away or when something fails. It remembers the handle once the pipes are open, too,
and the interface that it closes is the one that was attached last. So three things may go wrong:

* a device is enumerated again while the class driver of another one is in use;
* the pipes of a class driver do not open, and then it stays open;
* another device has been attached in the meantime, and then its interface is closed instead, or
  none at all.

Results:
* `trade_enterAttached`, `trade_receive`: what a message makes of the custody.
* `trade_move`: and what a move does.
* `balanced_iff_no_mishap`: the openings and closings of a task match throughout, exactly if none of
  the three happens.
-/

namespace TensorLink

/-- Whether no class driver may be open in a state. -/
def AttachState.isIdle : AttachState → Bool
  | unattached | enumerationFailed | error => true
  | attached | setInterface | getStatus | connected => false

namespace AttachTask

open Sequencing

variable {σ : Type}

/-- Where an attach task stands with its class drivers. -/
def custody (task : Observed σ) : Custody :=
  ⟨dealings task.world.calls, task.interface, task.handle.isSome, task.state.isIdle⟩

/-- After every message, one class driver is open at most and none while the task is idle, and each
    closing names the interface that was opened. -/
structure Balanced (task : Observed σ) : Prop where
  atMostOne : (openings (custody task).dealings).length ≤
    (closings (custody task).dealings).length + 1
  idle : task.state.isIdle = true →
    (openings (custody task).dealings).length = (closings (custody task).dealings).length
  named : closings (custody task).dealings <+: openings (custody task).dealings

section

variable (host : Host AttachState σ) (listener : Listener σ)

/-- Whether a message opens a class driver, and whether its pipes open, too. -/
def supply (task : Observed σ) : AttachMessage → Supply
  | .host .enumerationDone =>
    match task.interface with
    | none => .nothing
    | some interface =>
      match host.recorded.openClass interface task.world with
      | .error _ _ => .nothing
      | .ok handle world =>
        match PipeSet.open (host.recorded.transport handle).openPipe interface.endpoints world with
        | .error _ _ => .unusable
        | .ok _ _ => .usable
  | _ => .nothing

/-- What a move opens: the task handles its oldest message, unless it has failed. -/
def supplyOf (tracked : Tracked σ) : Move σ → Supply
  | .step =>
    if tracked.task.state = .error then .nothing
    else
      match tracked.task.inbox with
      | [] => .nothing
      | message :: rest => supply host { tracked.task with inbox := rest } message
  | _ => .nothing

end

/-! ## Messages -/

section

variable {task after mid : Observed σ} {calls : List (HostCall AttachState)}
  {queued : List AttachMessage} {outline' : Outline} {message : AttachMessage}

theorem Turned.custody_eq (turned : Turned task after calls queued outline') :
    custody after = ⟨dealings task.world.calls ++ dealings calls, outline'.interface,
      outline'.handle.isSome, outline'.state.isIdle⟩ := by
  obtain ⟨hcalls, -, houtline⟩ := turned
  subst houtline
  unfold custody
  rw [hcalls, dealings_append]
  rfl

/-- Giving up closes the interface that was attached last; telling the listener closes nothing. -/
theorem dealings_closing (task : Observed σ) {told : HostCall AttachState}
    (htold : Dealing.ofCall? told = none) :
    dealings (task.outline.closing ++ [told]) = (custody task).returning := by
  have htold' : dealings [told] = [] := dealings_eq_nil (by simpa using htold)
  rw [dealings_append, htold', List.append_nil]
  obtain ⟨world, state, interface, handle⟩ := task
  cases handle <;> cases interface <;> rfl

/-- A task that goes on as it was. -/
theorem trade_kept (turned : Turned task after [] queued outline')
    (huse : outline'.handle = task.handle)
    (hidle : outline'.state.isIdle = true → task.state.isIdle = true) :
    Custody.Trade (custody task) (custody after) .nothing := by
  rw [turned.custody_eq]
  refine .kept (List.append_nil _) ?_ hidle
  show outline'.handle.isSome = task.handle.isSome
  rw [huse]

/-- A task that gives up its class driver, and opens none. -/
theorem trade_givenUp {state : AttachState}
    (turned : Turned task after calls queued (task.outline.closed state))
    (hcalls : dealings calls = (custody task).returning) (hidle : state.isIdle = true) :
    Custody.Trade (custody task) (custody after) .nothing := by
  rw [turned.custody_eq, hcalls]
  exact .givenUp rfl (fun h => by cases h) hidle

theorem dealings_of_pipes {handle : ClassHandle} {pipes : List (HostCall AttachState)}
    (hpipes : ∀ call ∈ pipes, PipeOf handle call) : dealings pipes = [] := by
  refine dealings_eq_nil fun call hcall => ?_
  obtain ⟨endpoint, outcome⟩ := hpipes call hcall
  rfl

variable (host : Host AttachState σ) (listener : Listener σ)

/-- A class driver is open, but not its pipes. -/
theorem trade_unopened {interface : Interface} {handle : ClassHandle}
    {pipes : List (HostCall AttachState)} (hpipes : ∀ call ∈ pipes, PipeOf handle call)
    (turned : Turned (task.goto .attached) mid (.openClass interface (.ok handle) :: pipes) []
      (task.goto .attached).outline) :
    Custody.Trade (custody task) (custody (mid.enterError host.recorded listener.recorded))
      .unusable := by
  have hdealings : dealings (.openClass interface (.ok handle) :: pipes) = [.opened interface] :=
    congrArg (Dealing.opened interface :: ·) (dealings_of_pipes hpipes)
  rw [(turned_unopened host listener turned).custody_eq, dealings_append, hdealings,
    dealings_closing task rfl]
  exact .forgotten interface rfl rfl

/-- A class driver and its pipes are open. -/
theorem trade_opened {interface : Interface} {handle : ClassHandle}
    {pipes : List (HostCall AttachState)} (hinterface : task.interface = some interface)
    (hpipes : ∀ call ∈ pipes, PipeOf handle call)
    (turned : Turned (task.goto .attached) mid (.openClass interface (.ok handle) :: pipes) []
      { (task.goto .attached).outline with handle := some handle }) :
    Custody.Trade (custody task) (custody (mid.enterSetInterface host.recorded listener.recorded))
      .usable := by
  have hdealings : dealings (.openClass interface (.ok handle) :: pipes) = [.opened interface] :=
    congrArg (Dealing.opened interface :: ·) (dealings_of_pipes hpipes)
  obtain ⟨error, hrefused⟩ | ⟨submission, queued, -, hselected⟩ :=
    turned_enterSetInterface host listener hinterface turned
  · rw [hrefused.custody_eq, dealings_append, hdealings]
    exact .returned interface rfl rfl rfl
  · rw [hselected.custody_eq, dealings_append, hdealings]
    exact .taken interface rfl rfl rfl

/-- A device is enumerated whose interface is known. -/
theorem trade_enterAttached {interface : Interface} (hinterface : task.interface = some interface) :
    Custody.Trade (custody task)
      (custody (task.enterAttached host.recorded listener.recorded))
      (supply host task (.host .enumerationDone)) := by
  unfold enterAttached attempt
  rw [openDevice_eq host.recorded
      (show (task.goto .attached).interface = some interface from hinterface),
    show (task.goto .attached).world = task.world from rfl]
  cases hclass : host.recorded.openClass interface task.world with
  | error error world =>
    have hsupply : supply host task (.host .enumerationDone) = .nothing := by
      simp only [supply, hinterface, hclass]
    have hopened : Turned (task.goto .attached) { task.goto .attached with world }
        [.openClass interface (.error error)] [] (task.goto .attached).outline :=
      .of_call (Recorded.calls_of_observe_error hclass) rfl rfl
    rw [hsupply]
    refine trade_givenUp (turned_unopened host listener hopened) ?_ rfl
    exact dealings_closing task rfl
  | ok handle world =>
    obtain ⟨pipes, hpipes, hcalls⟩ := calls_of_openClass host hclass
    dsimp only
    cases hopen : PipeSet.open (host.recorded.transport handle).openPipe interface.endpoints
        world with
    | error error final =>
      have hsupply : supply host task (.host .enumerationDone) = .unusable := by
        simp only [supply, hinterface, hclass, hopen]
      rw [hopen] at hcalls
      rw [hsupply]
      exact trade_unopened host listener hpipes ⟨hcalls, (List.append_nil _).symm, rfl⟩
    | ok set final =>
      have hsupply : supply host task (.host .enumerationDone) = .usable := by
        simp only [supply, hinterface, hclass, hopen]
      rw [hopen] at hcalls
      rw [hsupply]
      exact trade_opened host listener hinterface hpipes ⟨hcalls, (List.append_nil _).symm, rfl⟩

/-- **Message.** Whatever a message does about class drivers is a trade. -/
theorem trade_receive (message : AttachMessage) (task : Observed σ) :
    Custody.Trade (custody task)
      (custody (task.receive host.recorded listener.recorded message))
      (supply host task message) := by
  by_cases hknown : message = .host .enumerationDone ∧ task.interface ≠ none
  · obtain ⟨rfl, hinterface⟩ := hknown
    obtain ⟨interface, hinterface⟩ := Option.ne_none_iff_exists'.mp hinterface
    have henter : task.receive host.recorded listener.recorded (.host .enumerationDone) =
        task.enterAttached host.recorded listener.recorded :=
      if_pos (Option.isSome_iff_exists.mpr ⟨interface, hinterface⟩)
    rw [henter]
    exact trade_enterAttached host listener hinterface
  · have hunknown {interface : Interface} (hinterface : task.outline.interface = some interface) :
        message ≠ .host .enumerationDone := fun h =>
      hknown ⟨h, Option.ne_none_iff_exists'.mpr ⟨interface, hinterface⟩⟩
    obtain ⟨calls, queued, outline', turn, turned⟩ := turn_receive host listener message task
    cases turn with
    | attached => exact trade_kept turned rfl id
    | @unknown hinterface =>
      have hsupply : supply host task (.host .enumerationDone) = .nothing := by
        simp only [supply, show task.interface = none from hinterface]
      have hreturning : (custody task).returning = [] := by
        simp [Custody.returning, custody, show task.interface = none from hinterface]
      rw [hsupply, turned.custody_eq]
      refine .givenUp ?_ (fun huse => ⟨huse, hinterface⟩) rfl
      rw [hreturning]
      rfl
    | unopened hinterface => exact absurd rfl (hunknown hinterface)
    | refused error hinterface => exact absurd rfl (hunknown hinterface)
    | selected hinterface => exact absurd rfl (hunknown hinterface)
    | detached => exact trade_givenUp turned (dealings_closing task rfl) rfl
    | failed => exact trade_givenUp turned (dealings_closing task rfl) rfl
    | ignored => exact trade_kept turned rfl id
    | rejected => exact trade_givenUp turned (dealings_closing task rfl) rfl
    | ready => exact trade_kept turned rfl (fun h => by cases h)
    | unready => exact trade_givenUp turned (dealings_closing task rfl) rfl
    | surplus => exact trade_kept turned rfl id

/-! ## Moves -/

/-- What is around a task and waits in its queue does not matter to its custody. -/
theorem trade_of_custody_eq (h : custody after = custody task) :
    Custody.Trade (custody task) (custody after) .nothing := by
  rw [h]
  exact .kept rfl rfl id

theorem custody_deliver (request : AttachState) (result : Except DriverError Unit)
    (task : Observed σ) : custody (task.deliver request result) = custody task := by
  unfold deliver
  split <;> rfl

theorem custody_post (event : HostEvent) (task : Observed σ) :
    custody (task.post event).2 = custody task := by
  unfold post
  split <;> rfl

/-- **Step.** So is whatever a move does about them. -/
theorem trade_move (tracked : Tracked σ) (move : Move σ) :
    Custody.Trade (custody tracked.task) (custody (tracked.move host listener move).task)
      (supplyOf host tracked move) := by
  cases move with
  | post event => exact trade_of_custody_eq (custody_post event tracked.task)
  | complete index result =>
    have hcomplete : custody (tracked.move host listener (.complete index result)).task =
        custody tracked.task := by
      unfold Tracked.move
      dsimp only
      split
      · rfl
      · exact custody_deliver .setInterface result tracked.task
    exact trade_of_custody_eq hcomplete
  | step =>
    unfold Tracked.move Tracked.step supplyOf
    dsimp only
    by_cases hfailed : tracked.task.state = .error
    · rw [if_pos hfailed, if_pos hfailed]
      exact trade_of_custody_eq rfl
    · rw [if_neg hfailed, if_neg hfailed]
      cases tracked.task.inbox with
      | nil => exact trade_of_custody_eq rfl
      | cons message rest =>
        exact trade_receive host listener message { tracked.task with inbox := rest }
  | change world => exact trade_of_custody_eq rfl

end

/-! ## Runs -/

theorem balanced_of_sound {task : Observed σ} (sound : (custody task).Sound) : Balanced task := by
  obtain ⟨held, horderly, -⟩ := sound.orderly
  refine ⟨horderly.length_openings_le (List.prefix_refl _), fun hidle => ?_, ?_⟩
  · rw [(sound.of_not_inUse (sound.idle hidle)).openings_eq, Option.toList_none, List.append_nil]
  · rw [horderly.openings_eq]
    exact List.prefix_append _ _

theorem not_balanced_of_broken {task : Observed σ} (broken : (custody task).Broken) :
    ¬Balanced task := by
  intro balanced
  obtain htwo | ⟨hidle, hperm⟩ := broken
  · have hone := balanced.atMostOne
    omega
  · have hsame := balanced.named.eq_of_length (balanced.idle hidle).symm
    exact hperm (by rw [hsame])

section

variable (host : Host AttachState σ) (listener : Listener σ)

/-- **Class drivers.** Whatever happens to an attach task, in any order: after every move, all class
    drivers that it has opened are closed but for the one in use, and none is open while the task is
    idle, exactly if there is no mishap: none is opened while another one is in use, none is opened
    whose pipes do not open, and the one in use is given up only while the interface is attached
    that it was opened for. -/
theorem balanced_iff_no_mishap (world : σ) (moves : List (Move σ)) :
    (∀ earlier, earlier <+: moves → Balanced (track host listener world earlier).task) ↔
      ∀ earlier move, earlier ++ [move] <+: moves →
        ¬Custody.Mishap (custody (track host listener world earlier).task)
          (custody ((track host listener world earlier).move host listener move).task)
          (supplyOf host (track host listener world earlier) move) := by
  refine Custody.forall_prefix_iff ?_ (trade_move host listener) (fun tracked => balanced_of_sound)
    (fun tracked => not_balanced_of_broken) moves
  exact ⟨⟨none, .nil, rfl⟩, fun _ => rfl⟩

end

instance (task : Observed σ) : Decidable (Balanced task) :=
  decidable_of_iff
    ((openings (custody task).dealings).length ≤ (closings (custody task).dealings).length + 1 ∧
      (task.state.isIdle = true →
        (openings (custody task).dealings).length = (closings (custody task).dealings).length) ∧
      closings (custody task).dealings <+: openings (custody task).dealings)
    ⟨fun ⟨atMostOne, idle, named⟩ => ⟨atMostOne, idle, named⟩,
      fun ⟨atMostOne, idle, named⟩ => ⟨atMostOne, idle, named⟩⟩

/-- A device comes, is enumerated and connected, and goes away. -/
def visitMoves : List (Move Unit) :=
  attachMoves ++ [.complete 0 (.ok ()), .step, .post .detach, .step]

/-- Nothing goes wrong with one device at a time. -/
theorem no_mishap_visitMoves :
    (∀ earlier ∈ visitMoves.inits,
      Balanced (track patientHost (.silent Unit) () earlier).task) ∧
    ∀ earlier move, earlier ++ [move] <+: visitMoves →
      ¬Custody.Mishap (custody (track patientHost (.silent Unit) () earlier).task)
        (custody ((track patientHost (.silent Unit) () earlier).move patientHost (.silent Unit)
          move).task)
        (supplyOf patientHost (track patientHost (.silent Unit) () earlier) move) := by
  have hall : ∀ earlier ∈ visitMoves.inits,
      Balanced (track patientHost (.silent Unit) () earlier).task := by decide
  exact ⟨hall, (balanced_iff_no_mishap patientHost (.silent Unit) () visitMoves).mp fun earlier h =>
    hall earlier ((List.mem_inits earlier visitMoves).mpr h)⟩

/-- A host that opens every class driver and no pipe. -/
def pipelessHost : Host AttachState Unit :=
  { patientHost with
    transport := fun handle =>
      { patientHost.transport handle with openPipe := fun _ => throw (.transferFailed "busy") } }

/-- The class driver stays open. -/
theorem not_balanced_of_pipeless :
    ¬∀ (σ : Type) (host : Host AttachState σ) (listener : Listener σ) (world : σ)
      (moves : List (Move σ)), Balanced (track host listener world moves).task := by
  intro h
  have hpipeless := (h Unit pipelessHost (.silent Unit) () attachMoves).idle rfl
  cases hpipeless

end AttachTask

end TensorLink

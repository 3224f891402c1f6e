import Mathlib.Data.List.DropRight
import TensorLink.Proofs.Attach.Sessions

/-!
# Which device a class driver is opened for

An attach event names the interfaces of a device, and the task remembers the one that carries
register and bulk traffic, if there is one. Whether a device is still there follows from the
messages handled so far: it has gone with the next detach.

The task does not forget the interface when the device goes away. So a device that has gone is
opened once more if the end of an enumeration is handled before another one is attached. In every
other case a class driver is opened for the device that is there, and for its first application
interface.

Results:
* `interface_track`: the task remembers the application interface of the device attached last.
* `present_or_gone`: an interface that is remembered belongs to a device that is there, or has gone.
* `opensPresent_iff`: when the task opens nothing but the device that is there.
-/

namespace TensorLink.AttachTask

variable {σ : Type}

/-! ## Devices and the messages about them -/

/-- The interfaces of the device that a message announces, if it announces one. -/
def announced? : AttachMessage → Option (List Interface)
  | .host (.attach interfaces) => some interfaces
  | _ => none

/-- The application interface of the device that was attached last, whether it is there or not. -/
def lastApplication? (past : List AttachMessage) : Option Interface :=
  (past.filterMap announced?).getLast?.bind Interface.findApplication?

/-- The messages since the last detach; all of them, if there is none. -/
def sinceDetach (past : List AttachMessage) : List AttachMessage :=
  past.rtakeWhile fun message => !endsSession message

/-- A device with an application interface has been attached since the last detach. -/
def Present (past : List AttachMessage) : Prop :=
  ∃ interfaces, .host (.attach interfaces) ∈ sinceDetach past ∧
    (Interface.findApplication? interfaces).isSome

/-- A device has been detached, and none has been attached since. -/
structure Gone (past : List AttachMessage) : Prop where
  detached : .host .detach ∈ past
  unattached : ∀ interfaces, .host (.attach interfaces) ∉ sinceDetach past

theorem announced?_eq_some_iff {message : AttachMessage} {interfaces : List Interface} :
    announced? message = some interfaces ↔ message = .host (.attach interfaces) := by
  unfold announced?
  split
  · simp
  · rename_i hother
    simp only [reduceCtorEq, false_iff]
    exact hother interfaces

theorem endsSession_iff {message : AttachMessage} :
    endsSession message = true ↔ message = .host .detach := by
  unfold endsSession
  split <;> simp_all

theorem Present.not_gone {past : List AttachMessage} (present : Present past) : ¬Gone past := by
  obtain ⟨interfaces, hattach, -⟩ := present
  exact fun gone => gone.unattached interfaces hattach

theorem lastApplication?_concat (past : List AttachMessage) (message : AttachMessage) :
    lastApplication? (past ++ [message]) =
      match announced? message with
      | some interfaces => Interface.findApplication? interfaces
      | none => lastApplication? past := by
  unfold lastApplication?
  cases hannounced : announced? message with
  | none => simp [hannounced]
  | some interfaces => simp [hannounced]

theorem attach_mem_of_getLast? {past : List AttachMessage} {interfaces : List Interface}
    (hlast : (past.filterMap announced?).getLast? = some interfaces) :
    .host (.attach interfaces) ∈ past := by
  obtain ⟨message, hmessage, hannounced⟩ := List.mem_filterMap.mp (List.mem_of_getLast? hlast)
  exact announced?_eq_some_iff.mp hannounced ▸ hmessage

/-- The device that was attached last is still there, or it has gone. -/
theorem present_or_gone {past : List AttachMessage} {interface : Interface}
    (hlast : lastApplication? past = some interface) : Present past ∨ Gone past := by
  obtain ⟨interfaces, hattached, happlication⟩ := Option.bind_eq_some_iff.mp hlast
  cases hsince : ((sinceDetach past).filterMap announced?).getLast? with
  | some last =>
    -- The last device since the detach is the last one of all.
    obtain ⟨before, hpast⟩ : sinceDetach past <:+ past := List.rtakeWhile_suffix _ _
    rw [← hpast, List.filterMap_append, List.getLast?_append, hsince, Option.some_or] at hattached
    cases hattached
    exact .inl ⟨interfaces, attach_mem_of_getLast? hsince, Option.isSome_of_eq_some happlication⟩
  | none =>
    have hnone : ∀ other, .host (.attach other) ∉ sinceDetach past := fun other hother => by
      have hmem : other ∈ (sinceDetach past).filterMap announced? :=
        List.mem_filterMap.mpr ⟨_, hother, rfl⟩
      exact List.ne_nil_of_mem hmem (List.getLast?_eq_none_iff.mp hsince)
    refine .inr ⟨?_, hnone⟩
    -- Without a detach every device would have been attached since.
    by_contra hdetached
    have hall : sinceDetach past = past :=
      List.rtakeWhile_eq_self_iff.mpr fun message hmessage => by
        have hends : ¬endsSession message = true := fun h =>
          hdetached (endsSession_iff.mp h ▸ hmessage)
        simpa using hends
    exact hnone interfaces (hall.symm ▸ attach_mem_of_getLast? hattached)

/-! ## What one message does -/

section

variable {outline outline' : Outline} {message : AttachMessage}
  {calls : List (HostCall AttachState)} {queued : List AttachMessage} {interface : Interface}

/-- Only an attach event changes the interface that is remembered. -/
theorem Turn.interface_eq (turn : Turn outline message calls queued outline') :
    outline'.interface =
      match announced? message with
      | some interfaces => Interface.findApplication? interfaces
      | none => outline.interface := by
  cases turn <;> rfl

theorem not_openClass_mem_closing (outline : Outline) {outcome : Except DriverError ClassHandle} :
    .openClass interface outcome ∉ outline.closing := by
  unfold Outline.closing
  split <;> simp

theorem Opening.eq_of_openClass_mem {handle : Option ClassHandle} {other : Interface}
    {outcome : Except DriverError ClassHandle} (opening : Opening interface calls handle)
    (hcall : .openClass other outcome ∈ calls) : other = interface := by
  have hpipe {pipes : List (HostCall AttachState)} {handle : ClassHandle}
      (hpipes : ∀ call ∈ pipes, PipeOf handle call) : .openClass other outcome ∉ pipes :=
    fun hmem => by cases hpipes _ hmem
  cases opening with
  | refused error =>
    cases List.mem_singleton.mp hcall
    rfl
  | pipeless hpipes | opened hpipes =>
    obtain heq | hmem := List.mem_cons.mp hcall
    · cases heq
      rfl
    · exact absurd hmem (hpipe hpipes)

theorem Opening.exists_openClass_mem {handle : Option ClassHandle}
    (opening : Opening interface calls handle) :
    ∃ outcome, .openClass interface outcome ∈ calls := by
  cases opening <;> exact ⟨_, List.mem_cons_self⟩

/-- A class driver is opened at the end of an enumeration only, and for the interface that is
    remembered. -/
theorem Turn.of_openClass_mem {outcome : Except DriverError ClassHandle}
    (turn : Turn outline message calls queued outline')
    (hcall : .openClass interface outcome ∈ calls) :
    message = .host .enumerationDone ∧ outline.interface = some interface := by
  have hclosing : .openClass interface outcome ∉ outline.closing :=
    not_openClass_mem_closing outline
  cases turn with
  | unopened hinterface opening =>
    simp only [List.mem_append, hclosing, List.mem_singleton, reduceCtorEq, or_false] at hcall
    exact ⟨rfl, (opening.eq_of_openClass_mem hcall).symm ▸ hinterface⟩
  | refused error hinterface opening =>
    simp only [List.mem_append, List.mem_singleton, selectCall, reduceCtorEq, or_false] at hcall
    exact ⟨rfl, (opening.eq_of_openClass_mem hcall).symm ▸ hinterface⟩
  | selected hinterface opening accepted =>
    simp only [List.mem_append, List.mem_cons, selectCall, reduceCtorEq, List.not_mem_nil,
      or_false] at hcall
    exact ⟨rfl, (opening.eq_of_openClass_mem hcall).symm ▸ hinterface⟩
  | detached | failed | rejected | unready =>
    simp [hclosing] at hcall
  | attached | unknown | ignored | ready | surplus => cases hcall

/-- At the end of an enumeration the class driver of the interface that is remembered is opened. -/
theorem Turn.exists_openClass_mem
    (turn : Turn outline (.host .enumerationDone) calls queued outline')
    (hinterface : outline.interface = some interface) :
    ∃ outcome, .openClass interface outcome ∈ calls := by
  have hfirst {other : Interface} {opens : List (HostCall AttachState)}
      {handle : Option ClassHandle} (rest : List (HostCall AttachState))
      (hother : outline.interface = some other) (opening : Opening other opens handle) :
      ∃ outcome, .openClass interface outcome ∈ opens ++ rest := by
    obtain rfl := Option.some.inj (hinterface.symm.trans hother)
    obtain ⟨outcome, hcall⟩ := opening.exists_openClass_mem
    exact ⟨outcome, List.mem_append_left _ hcall⟩
  cases turn with
  | unknown hnone => cases hinterface.symm.trans hnone
  | unopened hother opening => exact hfirst _ hother opening
  | refused error hother opening => exact hfirst _ hother opening
  | selected hother opening => exact hfirst _ hother opening

/-- Without an interface the enumeration has failed. -/
theorem Turn.state_enumerated (turn : Turn outline (.host .enumerationDone) calls queued outline')
    (hinterface : outline.interface = none) : outline'.state = .enumerationFailed := by
  cases turn with
  | unknown => rfl
  | unopened hother | refused _ hother | selected hother => cases hinterface.symm.trans hother

end

/-! ## What is handled along a run -/

/-- The message that a task handles next, unless it has failed. -/
def next? (task : Observed σ) : Option AttachMessage :=
  if task.state = .error then none else task.inbox.head?

/-- The calls that have been made from one task to the other. -/
def newCalls (before after : Observed σ) : List (HostCall AttachState) :=
  after.world.calls.drop before.world.calls.length

/-- The message that a move handles, if it handles one. -/
def Move.handled? (task : Observed σ) : Move σ → Option AttachMessage
  | .step => next? task
  | _ => none

section

variable (host : Host AttachState σ) (listener : Listener σ)

/-- The messages handled from a task on, oldest first. -/
def handledFrom (tracked : Tracked σ) : List (Move σ) → List AttachMessage
  | [] => []
  | move :: moves =>
    (move.handled? tracked.task).toList ++ handledFrom (tracked.move host listener move) moves

/-- The messages that a task handles from its start, oldest first. -/
def handled (world : σ) (moves : List (Move σ)) : List AttachMessage :=
  handledFrom host listener { task := { world := { inner := world } } } moves

theorem handledFrom_append (tracked : Tracked σ) (moves moves' : List (Move σ)) :
    handledFrom host listener tracked (moves ++ moves') =
      handledFrom host listener tracked moves ++
        handledFrom host listener (moves.foldl (Tracked.move host listener) tracked) moves' := by
  induction moves generalizing tracked with
  | nil => rfl
  | cons move moves ih =>
    simp only [List.cons_append, handledFrom, List.foldl_cons, ih, List.append_assoc]

theorem handled_concat (world : σ) (moves : List (Move σ)) (move : Move σ) :
    handled host listener world (moves ++ [move]) = handled host listener world moves ++
      (move.handled? (track host listener world moves).task).toList := by
  unfold handled
  rw [handledFrom_append]
  exact congrArg _ (List.append_nil _)

theorem track_concat (world : σ) (moves : List (Move σ)) (move : Move σ) :
    track host listener world (moves ++ [move]) =
      (track host listener world moves).move host listener move := List.foldl_concat ..

/-- A step handles the next message by a turn. -/
theorem exists_turn_of_next? {task : Observed σ} {message : AttachMessage}
    (hnext : next? task = some message) :
    ∃ queued, Turn task.outline message
      (newCalls task (task.step host.recorded listener.recorded)) queued
      (task.step host.recorded listener.recorded).outline := by
  unfold next? at hnext
  split at hnext
  · cases hnext
  · rename_i hstate
    obtain ⟨rest, hinbox⟩ := List.head?_eq_some_iff.mp hnext
    obtain ⟨calls, queued, outline, turn, turned⟩ :=
      turn_receive host listener message { task with inbox := rest }
    rw [step_of_inbox host.recorded listener.recorded hstate hinbox, turned.outline_eq, newCalls,
      turned.calls_eq, List.drop_left]
    exact ⟨queued, turn⟩

/-- Without a next message a step changes nothing. -/
theorem step_of_next?_none {task : Observed σ} (hnext : next? task = none) :
    task.step host.recorded listener.recorded = task := by
  unfold next? at hnext
  unfold step
  split at hnext
  · rw [if_pos ‹_›]
  · rw [if_neg ‹_›, List.head?_eq_none_iff.mp hnext]

/-- **Step.** A move changes the interface that is remembered if it handles an attach event. -/
theorem interface_move (tracked : Tracked σ) (move : Move σ) :
    (tracked.move host listener move).task.interface =
      match (move.handled? tracked.task).bind announced? with
      | some interfaces => Interface.findApplication? interfaces
      | none => tracked.task.interface := by
  cases move with
  | post event =>
    show (tracked.task.post event).2.interface = tracked.task.interface
    unfold post
    split <;> rfl
  | complete index result =>
    show _ = tracked.task.interface
    unfold Tracked.move
    dsimp only
    split
    · rfl
    · show (tracked.task.deliver .setInterface result).interface = tracked.task.interface
      unfold deliver
      split <;> rfl
  | step =>
    show (tracked.step host listener).task.interface =
      match (next? tracked.task).bind announced? with
      | some interfaces => Interface.findApplication? interfaces
      | none => tracked.task.interface
    rw [Tracked.task_step]
    cases hnext : next? tracked.task with
    | none => rw [step_of_next?_none host listener hnext, Option.bind_none]
    | some message =>
      obtain ⟨queued, turn⟩ := exists_turn_of_next? host listener hnext
      exact turn.interface_eq
  | change world => rfl

/-- **Run.** The task remembers the application interface of the device that was attached last. -/
theorem interface_track (world : σ) (moves : List (Move σ)) :
    (track host listener world moves).task.interface =
      lastApplication? (handled host listener world moves) := by
  induction moves using List.reverseRecOn with
  | nil => rfl
  | append_singleton moves move ih =>
    rw [track_concat, handled_concat, interface_move, ih]
    cases move.handled? (track host listener world moves).task with
    | none => rw [Option.bind_none, Option.toList_none, List.append_nil]
    | some message => rw [Option.toList_some, lastApplication?_concat, Option.bind_some]

/-! ## Opening the device that is there -/

/-- After some messages one more has been handled: class drivers have been opened for nothing but
    the first application interface of a device that is there, and the enumeration of one that has
    gone has failed. -/
structure OpensPresent (past : List AttachMessage) (message : AttachMessage)
    (before after : Observed σ) : Prop where
  present : ∀ interface outcome, .openClass interface outcome ∈ newCalls before after →
    Present past ∧ lastApplication? past = some interface
  gone : message = .host .enumerationDone → Gone past → after.state = .enumerationFailed

/-- A message ends the enumeration of a device that has gone, and the task remembers that device. -/
structure Lingers (past : List AttachMessage) (message : AttachMessage) : Prop where
  enumerated : message = .host .enumerationDone
  gone : Gone past
  remembered : (lastApplication? past).isSome

/-- **Presence.** Whatever happens to a task, in any order: it opens class drivers for the first
    application interface of the device that was attached last, and for no other. The device is
    there, and the enumeration of one that has gone fails, exactly if the message that is handled
    does not end the enumeration of a device that has gone and that the task remembers. -/
theorem opensPresent_iff (world : σ) (moves : List (Move σ)) {message : AttachMessage}
    (hnext : next? (track host listener world moves).task = some message) :
    (∀ interface outcome, .openClass interface outcome ∈
        newCalls (track host listener world moves).task
          ((track host listener world moves).task.step host.recorded listener.recorded) →
      lastApplication? (handled host listener world moves) = some interface) ∧
    (OpensPresent (handled host listener world moves) message
        (track host listener world moves).task
        ((track host listener world moves).task.step host.recorded listener.recorded) ↔
      ¬Lingers (handled host listener world moves) message) := by
  have hinterface := interface_track host listener world moves
  generalize (track host listener world moves).task = task at hnext hinterface ⊢
  generalize handled host listener world moves = past at hinterface ⊢
  obtain ⟨queued, turn⟩ := exists_turn_of_next? host listener hnext
  have hopened {interface : Interface} {outcome : Except DriverError ClassHandle}
      (hcall : .openClass interface outcome ∈
        newCalls task (task.step host.recorded listener.recorded)) :
      message = .host .enumerationDone ∧ lastApplication? past = some interface :=
    (turn.of_openClass_mem hcall).imp_right hinterface.symm.trans
  refine ⟨fun interface outcome hcall => (hopened hcall).2, fun opens lingers => ?_,
    fun hlingers => ⟨fun interface outcome hcall => ?_, fun henumerated gone => ?_⟩⟩
  · obtain ⟨rfl, gone, hremembered⟩ := lingers
    obtain ⟨interface, hlast⟩ := Option.isSome_iff_exists.mp hremembered
    obtain ⟨outcome, hcall⟩ := turn.exists_openClass_mem (hinterface.trans hlast)
    exact (opens.present interface outcome hcall).1.not_gone gone
  · obtain ⟨henumerated, hlast⟩ := hopened hcall
    have hgone (gone : Gone past) : False :=
      hlingers ⟨henumerated, gone, Option.isSome_of_eq_some hlast⟩
    exact ⟨(present_or_gone hlast).resolve_right hgone, hlast⟩
  · subst henumerated
    have hforgotten : lastApplication? past = none :=
      Option.not_isSome_iff_eq_none.mp fun hremembered => hlingers ⟨rfl, gone, hremembered⟩
    exact turn.state_enumerated (hinterface.trans hforgotten)

end

/-- A device goes away and another one is attached and enumerated; the end of that enumeration is
    handled next. -/
def replacedMoves : List (Move Unit) :=
  attachMoves ++ [.post .detach, .post (.attach Interface.application), .post .enumerationDone,
    .step, .step]

/-- The device that has come back is opened. -/
theorem opensPresent_replacedMoves :
    next? (track patientHost (.silent Unit) () replacedMoves).task =
        some (.host .enumerationDone) ∧
      OpensPresent (handled patientHost (.silent Unit) () replacedMoves) (.host .enumerationDone)
        (track patientHost (.silent Unit) () replacedMoves).task
        ((track patientHost (.silent Unit) () replacedMoves).task.step patientHost.recorded
          (Listener.silent Unit).recorded) := by
  have hnext : next? (track patientHost (.silent Unit) () replacedMoves).task =
      some (.host .enumerationDone) := rfl
  have hsince : sinceDetach (handled patientHost (.silent Unit) () replacedMoves) =
      [.host (.attach Interface.application)] := rfl
  refine ⟨hnext, (opensPresent_iff patientHost (.silent Unit) () replacedMoves hnext).2.mpr ?_⟩
  rintro ⟨-, gone, -⟩
  have hnone := gone.unattached Interface.application
  rw [hsince] at hnone
  exact hnone List.mem_cons_self

/-- A device goes away, and the end of an enumeration is handled next. -/
def vanishedMoves : List (Move Unit) :=
  attachMoves ++ [.post .detach, .post .enumerationDone, .step]

/-- A class driver is opened for a device that has gone. -/
theorem not_opensPresent_of_vanished :
    ¬∀ (σ : Type) (host : Host AttachState σ) (listener : Listener σ) (world : σ)
      (moves : List (Move σ)) (message : AttachMessage),
      next? (track host listener world moves).task = some message →
      OpensPresent (handled host listener world moves) message
        (track host listener world moves).task
        ((track host listener world moves).task.step host.recorded listener.recorded) := by
  intro h
  have hhandled : handled patientHost (.silent Unit) () vanishedMoves =
      [.host (.attach Interface.application), .host .enumerationDone, .host .detach] := rfl
  have hsince : sinceDetach (handled patientHost (.silent Unit) () vanishedMoves) = [] := rfl
  have hgone : Gone (handled patientHost (.silent Unit) () vanishedMoves) :=
    ⟨by rw [hhandled]; simp, fun interfaces hattach => by rw [hsince] at hattach; cases hattach⟩
  have hstate := (h Unit patientHost (.silent Unit) () vanishedMoves _ rfl).gone rfl hgone
  cases hstate

end TensorLink.AttachTask

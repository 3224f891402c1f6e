import TensorLink.Proofs.Transport.Traffic

/-!
# Completions that come in time

One caller makes one call after another. Its earlier calls may have timed out, and their completions
may come at any later moment, also while it waits for another one. A completion that comes before
the deadline of its call is queued, and its caller gets it in the end, however many stale ones are
before it; unless the stale ones fill the queue when it comes. Then it is lost, the stale ones are
dropped one by one, and the call times out.

Results:
* `due_step`, `due_run`: as long as the completion of the call under way is queued, nothing but its
  result ends the call.
* `transacts`: what a transaction does is a course of this traffic.
* `endsIn_of_completed`: how a call whose completion comes in time ends.
-/

namespace TensorLink.CompletionQueue.Traffic

open Occurrence

variable {α τ : Type} {before after final : Traffic α} {events early late : List (Occurrence α)}
  {event : Occurrence α} {number : Nat} {result : Except DriverError α}

/-- One caller: a call begins when no other one is under way. -/
def Sequential (traffic : Traffic α) : Occurrence α → Prop
  | .queue (.armed _) => traffic.Idle
  | _ => True

/-- How many calls are under way. -/
def underway (traffic : Traffic α) : Nat :=
  traffic.calls.armed.length + traffic.calls.submitted.length +
    traffic.shared.waiting.toList.length

theorem letsWait_sequential (number : Nat) (inFlight : List Nat) :
    LetsWait (Sequential (α := α)) number inFlight := by
  intro traffic event _ hwaits
  cases event with
  | queue event =>
    cases event with
    | armed => cases hwaits
    | _ => trivial
  | _ => trivial

theorem Idle.underway_eq (idle : before.Idle) : before.underway = 0 := by
  unfold underway
  rw [idle.armed, idle.submitted, idle.waiting]
  rfl

/-- One call at a time is under way. -/
theorem underway_step (step : Step before event after) (allowed : Sequential before event)
    (halone : before.underway ≤ 1) : after.underway ≤ 1 := by
  cases step with
  | queue step permitted =>
    cases step with
    | arm queue uncalled waiting =>
      have hidle := Idle.underway_eq allowed
      simp only [underway, Calls.follow, List.length_cons] at hidle ⊢
      omega
    | @abandon number uncalled queue waiting huncalled =>
      have harmed := List.length_erase_add_one permitted
      simp only [underway, Calls.follow] at halone ⊢
      omega
    | enter queue uncalled number =>
      have hsubmitted := List.length_erase_add_one permitted
      simp only [underway, Calls.follow, Option.toList_none, Option.toList_some, List.length_nil,
        List.length_singleton] at halone ⊢
      omega
    | collect last number result rest uncalled => exact Nat.le_of_succ_le halone
    | expire queue uncalled number => exact Nat.le_of_succ_le halone
    | _ => exact halone
  | @accept number calls shared harmed =>
    have harmed := List.length_erase_add_one harmed
    simp only [underway, Calls.accept, List.length_append, List.length_singleton] at halone ⊢
    omega
  | pass => exact halone

theorem underway_of_run (run : Run Sequential {} events final) : final.underway ≤ 1 := by
  induction run with
  | nil => exact Nat.zero_le _
  | snoc run step allowed ih => exact underway_step step allowed ih

/-! ## The completion of the call under way -/

/-- The completion of the call under way is queued, and its caller has still to take it. -/
structure Due (number : Nat) (result : Except DriverError α) (traffic : Traffic α) : Prop where
  queued : ∃ older newer, traffic.shared.queue.queued = older ++ (number, result) :: newer ∧
    number ∉ older.map (·.1)
  caller : traffic.shared.waiting = some number ∨
    traffic.shared.waiting = none ∧ traffic.calls.submitted = [number]
  alone : traffic.underway ≤ 1

/-- Nobody else has begun a call. -/
theorem Due.armed_eq (due : Due number result before) : before.calls.armed = [] := by
  have halone := due.alone
  unfold underway at halone
  rw [← List.length_eq_zero_iff]
  obtain hwaiting | ⟨hwaiting, hsubmitted⟩ := due.caller
  · rw [hwaiting, Option.toList_some, List.length_singleton] at halone
    omega
  · rw [hsubmitted, List.length_singleton] at halone
    omega

/-- **Step.** The completion of the call under way stays where it is until its caller takes it. -/
theorem due_step (due : Due number result before) (step : Step before event after)
    (allowed : Sequential before event) :
    event = .queue (.returned number result) ∨ event.ended? = none ∧ Due number result after := by
  have halone := underway_step step allowed due.alone
  have harmed := due.armed_eq
  obtain ⟨⟨older, newer, hqueued, holder⟩, hcaller, -⟩ := due
  cases step with
  | queue step permitted =>
    cases step with
    | arm queue uncalled waiting =>
      obtain hwaiting | ⟨-, hsubmitted⟩ := hcaller
      · cases allowed.waiting.symm.trans hwaiting
      · cases allowed.submitted.symm.trans hsubmitted
    | @complete other uncalled queue waiting late huncalled =>
      have hqueued : queue.queued = _ := hqueued
      refine .inr ⟨rfl, ?_, hcaller, halone⟩
      unfold complete
      split
      · exact ⟨older, newer ++ [(other, late)], by simp [hqueued], holder⟩
      · exact ⟨older, newer, hqueued, holder⟩
    | abandon queue waiting huncalled => exact absurd harmed (List.ne_nil_of_mem permitted)
    | enter queue uncalled other =>
      obtain hwaiting | ⟨-, hsubmitted⟩ := hcaller
      · cases hwaiting
      · obtain rfl : other = number := by
          have hother : other ∈ _ := permitted
          rwa [hsubmitted, List.mem_singleton] at hother
        exact .inr ⟨rfl, ⟨older, newer, hqueued, holder⟩, .inl rfl, halone⟩
    | @discard other stale last dropped rest uncalled hstale =>
      obtain ⟨⟨⟩⟩ | ⟨⟨⟩, -⟩ := hcaller
      -- The one that is dropped is another one, so it is before the one that is due.
      cases older with
      | nil =>
        cases hqueued
        exact absurd rfl hstale
      | cons first older =>
        obtain ⟨-, rfl⟩ := List.cons.inj hqueued
        exact .inr ⟨rfl, ⟨older, newer, rfl, fun h => holder (List.mem_cons_of_mem _ h)⟩, .inl rfl,
          halone⟩
    | collect last other taken rest uncalled =>
      obtain ⟨⟨⟩⟩ | ⟨⟨⟩, -⟩ := hcaller
      cases older with
      | nil =>
        cases hqueued
        exact .inl rfl
      | cons first older =>
        obtain ⟨rfl, -⟩ := List.cons.inj hqueued
        exact absurd List.mem_cons_self holder
    | expire queue uncalled other =>
      have hempty := hqueued.symm.trans permitted.2
      simp at hempty
  | accept shared hother => exact absurd harmed (List.ne_nil_of_mem hother)
  | pass hwaiting hearly => exact .inr ⟨rfl, ⟨older, newer, hqueued, holder⟩, hcaller, halone⟩

/-- **Run.** Nothing ends the call under way but the result of its completion, once that is
    queued. -/
theorem due_run (due : Due number result before) (run : Run Sequential before events final) :
    .queue (.returned number result) ∈ events ∨
      (∀ event ∈ events, event.ended? = none) ∧ Due number result final := by
  induction run with
  | nil => exact .inr ⟨fun _ hmem => absurd hmem List.not_mem_nil, due⟩
  | snoc run step allowed ih =>
    obtain hreturned | ⟨hnone, hdue⟩ := ih
    · exact .inl (List.mem_append_left _ hreturned)
    · obtain rfl | ⟨hended, hdue⟩ := due_step hdue step allowed
      · exact .inl (List.mem_append_right _ (List.mem_singleton_self _))
      · refine .inr ⟨fun event hmem => ?_, hdue⟩
        obtain hmem | hmem := List.mem_append.mp hmem
        · exact hnone event hmem
        · exact List.mem_singleton.mp hmem ▸ hended

/-! ## Transactions -/

/-- What becomes of a submission before its caller goes on. -/
def transitsOf (number : Nat) : Submission α → List Transit
  | .refused _ => []
  | .pending => [.accepted number]
  | .completed _ => [.accepted number, .completed number]

/-- How a transaction that begins in a state is a course of traffic. -/
structure Transacts (before : Traffic α) (milliseconds : Nat) (submission : Submission α)
    (outcome : Except DriverError α × CompletionQueue α) (events : List (Occurrence α))
    (after : Traffic α) : Prop where
  run : Run Sequential before events after
  idle : after.Idle
  queue : after.shared.queue = outcome.2
  transits : events.filterMap transit? = transitsOf (before.shared.queue.last + 1) submission
  /-- The result is the one that the wait returns, or its timeout. -/
  result : match submission with
    | .refused error => outcome.1 = .error error
    | _ => .queue (.returned (before.shared.queue.last + 1) outcome.1) ∈ events ∨
      .queue (.expired (before.shared.queue.last + 1)) ∈ events ∧
        outcome.1 = .error (.timeout milliseconds)

/-- A transaction whose submission has been accepted goes on with a wait. -/
theorem transacts_of_wait {submission : Submission α} {queue : CompletionQueue α}
    {uncalled inFlight : List Nat} {overdue : Bool}
    (run : Run Sequential before events ⟨⟨queue, uncalled, none⟩,
      ⟨[], [before.shared.queue.last + 1], inFlight, overdue⟩⟩)
    (htransits : events.filterMap transit? = transitsOf (before.shared.queue.last + 1) submission)
    (haccepted : ∀ error, submission ≠ .refused error) (milliseconds : Nat) :
    ∃ events after, Transacts before milliseconds submission
      (queue.wait (before.shared.queue.last + 1) milliseconds) events after := by
  have hsubmitted : before.shared.queue.last + 1 ∈
      Calls.submitted ⟨[], [before.shared.queue.last + 1], inFlight, overdue⟩ :=
    List.mem_singleton_self _
  obtain ⟨more, late, hrun, hmore, hended⟩ := run_wait (letsWait_sequential _ _) hsubmitted
    milliseconds queue uncalled
  have hboth := run.append hrun
  rw [List.erase_cons_head] at hboth
  have hended := hended.imp (List.mem_append_right events)
    (And.imp_left (List.mem_append_right events))
  refine ⟨_, _, hboth, ⟨rfl, rfl, rfl⟩, rfl, ?_, ?_⟩
  · rw [List.filterMap_append, hmore, List.append_nil, htransits]
  · cases submission with
    | refused error => exact absurd rfl (haccepted error)
    | _ => exact hended

/-- A transaction is a course of sequential traffic. -/
theorem transacts (idle : before.Idle) (milliseconds : Nat)
    (submit : Nat → τ → Submission α × τ) (transport : τ) :
    let outcome := before.shared.queue.transact milliseconds submit transport
    ∃ events after, Transacts before milliseconds
      (submit (before.shared.queue.last + 1) transport).1 (outcome.1, outcome.2.1) events
      after := by
  obtain ⟨⟨queue, uncalled, waiting⟩, ⟨armed, submitted, inFlight, overdue⟩⟩ := before
  obtain ⟨rfl, rfl, rfl⟩ : armed = [] ∧ submitted = [] ∧ waiting = none :=
    ⟨idle.armed, idle.submitted, idle.waiting⟩
  have harm : Run Sequential _ _ _ := .single (.queue (.arm queue uncalled none) trivial) idle
  have haccept := harm.snoc (.accept _ (List.mem_singleton_self _)) trivial
  simp only [transact, arm, Calls.follow, Calls.accept, List.erase_cons_head, List.nil_append]
    at harm haccept ⊢
  generalize submit (queue.last + 1) transport = submission
  obtain ⟨error | _ | result, transport'⟩ := submission
  · have habandon := harm.snoc (.queue (.abandon _ _ List.mem_cons_self)
      (List.mem_singleton_self _)) trivial
    simp only [Calls.follow, List.erase_cons_head] at habandon
    exact ⟨_, _, habandon, ⟨rfl, rfl, rfl⟩, rfl, rfl, rfl⟩
  · exact transacts_of_wait haccept rfl (fun _ h => by cases h) milliseconds
  · have hcomplete := haccept.snoc (.queue (.complete _ _ result List.mem_cons_self)
      (List.mem_append_right _ (List.mem_singleton_self _))) trivial
    exact transacts_of_wait hcomplete rfl (fun _ h => by cases h) milliseconds

/-! ## How a call ends -/

/-- However sequential traffic goes on, a call ends in one given way, and needs nothing more
    of the transport for it. -/
def EndsIn (traffic : Traffic α) (ending : Occurrence α) : Prop :=
  ∀ events final, Run Sequential traffic events final →
    (∀ event ∈ events, event.ended? = ending.ended? → event = ending) ∧
    ∃ more last, Run Sequential final more last ∧ more.filterMap transit? = [] ∧
      ending ∈ events ++ more

/-- A call ends in one way only. -/
theorem endsIn_unique {ending ending' : Occurrence α} (hends : before.EndsIn ending)
    (hends' : before.EndsIn ending') (hcall : ending'.ended? = ending.ended?) :
    ending' = ending := by
  obtain ⟨-, events, final, hrun, -, hmem⟩ := hends' [] before .nil
  exact (hends events final hrun).1 ending' hmem hcall

/-- Whoever has submitted is the only caller until its call ends. -/
theorem caller_of_not_ended (run : Run Sequential {} events final)
    (haccepted : number ∈ events.filterMap accepted?) (hended : number ∉ events.filterMap ended?) :
    final.shared.waiting = some number ∨
      final.shared.waiting = none ∧ final.calls.submitted = [number] := by
  have ledger := ledger_of_run run
  have halone := underway_of_run run
  unfold underway at halone
  have hmem := ledger.submitted.mem_iff.mp haccepted
  rw [ledger.entered, List.append_assoc] at hmem
  obtain hwaiting | hsubmitted := List.mem_append.mp ((List.mem_append.mp hmem).resolve_left hended)
  · exact .inl (Option.mem_toList.mp hwaiting)
  · have hlength := List.length_pos_of_mem hsubmitted
    refine .inr ⟨?_, ?_⟩
    · rw [← Option.toList_eq_nil_iff, ← List.length_eq_zero_iff]
      omega
    · obtain ⟨only, honly⟩ := List.length_eq_one_iff.mp
        (show final.calls.submitted.length = 1 by omega)
      rw [honly] at hsubmitted ⊢
      rw [List.mem_singleton.mp hsubmitted]

/-- A caller who has submitted can always bring its call to an end. -/
theorem exists_end (hcaller : before.shared.waiting = some number ∨
    before.shared.waiting = none ∧ before.calls.submitted = [number]) :
    ∃ events final, Run Sequential before events final ∧ events.filterMap transit? = [] ∧
      number ∈ events.filterMap ended? := by
  obtain ⟨⟨queue, uncalled, waiting⟩, calls⟩ := before
  have hends : ∀ {events : List (Occurrence α)} {result : Except DriverError α} {p : Prop},
      .queue (.returned number result) ∈ events ∨ .queue (.expired number) ∈ events ∧ p →
        number ∈ events.filterMap ended? :=
    fun hended => mem_ended_iff.mpr (hended.symm.imp And.left fun hmem => ⟨_, hmem⟩)
  obtain ⟨⟨⟩⟩ | ⟨⟨⟩, hsubmitted⟩ := hcaller
  · obtain ⟨events, overdue, hrun, hsilent, hended⟩ := run_collect
      (letsWait_sequential number calls.inFlight) 0 queue.last uncalled calls.overdue queue.queued
    exact ⟨events, _, hrun, hsilent, hends hended⟩
  · have hmem : number ∈ calls.submitted := hsubmitted ▸ List.mem_singleton_self number
    obtain ⟨events, overdue, hrun, hsilent, hended⟩ := run_wait (letsWait_sequential _ _) hmem 0
      queue uncalled
    exact ⟨events, _, hrun, hsilent, hends hended⟩

/-- A call whose completion is queued returns its result. -/
theorem endsIn_returned_of_due (run : Run Sequential {} early before)
    (due : Due number result before) : before.EndsIn (.queue (.returned number result)) := by
  intro events final hlater
  obtain hreturned | ⟨hnone, hdue⟩ := due_run due hlater
  · refine ⟨fun event hevent hcall => ?_, [], final, .nil, rfl, by rwa [List.append_nil]⟩
    exact ended_unique (run.append hlater) (List.mem_append_right _ hevent)
      (List.mem_append_right _ hreturned) hcall rfl
  · refine ⟨fun event hevent hcall => ?_, ?_⟩
    · cases (hnone event hevent).symm.trans hcall
    · obtain ⟨more, last, hmore, hsilent, hend⟩ := exists_end hdue.caller
      obtain hreturned | ⟨hnone, -⟩ := due_run hdue hmore
      · exact ⟨more, last, hmore, hsilent, List.mem_append_right _ hreturned⟩
      · obtain ⟨event, hevent, hcall⟩ := List.mem_filterMap.mp hend
        cases (hnone event hevent).symm.trans hcall

/-- A call whose completion is lost times out. -/
theorem endsIn_expired_of_lost (run : Run Sequential {} early before)
    (haccepted : number ∈ early.filterMap accepted?)
    (hcompleted : number ∈ early.filterMap completed?)
    (hgone : number ∉ before.shared.queue.queued.map (·.1))
    (hended : number ∉ early.filterMap ended?) : before.EndsIn (.queue (.expired number)) := by
  have hexpires : ∀ events final, Run Sequential before events final →
      ∀ event ∈ events, event.ended? = some number → event = .queue (.expired number) := by
    intro events final hlater event hevent hcall
    have hmem : number ∈ events.filterMap ended? := List.mem_filterMap.mpr ⟨event, hevent, hcall⟩
    obtain hexpired | ⟨result, hreturned⟩ := mem_ended_iff.mp hmem
    · exact ended_unique (run.append hlater) (List.mem_append_right _ hevent)
        (List.mem_append_right _ hexpired) hcall rfl
    · exact absurd hreturned ((not_returned_of_lost run hcompleted hgone hlater).2 result)
  intro events final hlater
  refine ⟨hexpires events final hlater, ?_⟩
  by_cases hmem : number ∈ events.filterMap ended?
  · obtain ⟨event, hevent, hcall⟩ := List.mem_filterMap.mp hmem
    obtain rfl := hexpires events final hlater event hevent hcall
    exact ⟨[], final, .nil, rfl, by rwa [List.append_nil]⟩
  · have hcaller : final.shared.waiting = some number ∨
        final.shared.waiting = none ∧ final.calls.submitted = [number] := by
      refine caller_of_not_ended (run.append hlater) ?_ ?_
      · rw [List.filterMap_append]
        exact List.mem_append_left _ haccepted
      · rw [List.filterMap_append, List.mem_append, not_or]
        exact ⟨hended, hmem⟩
    obtain ⟨more, last, hmore, hsilent, hend⟩ := exists_end hcaller
    obtain ⟨event, hevent, hcall⟩ := List.mem_filterMap.mp hend
    obtain rfl := hexpires _ _ (hlater.append hmore) event (List.mem_append_right _ hevent) hcall
    exact ⟨more, last, hmore, hsilent, List.mem_append_right _ hevent⟩

section

variable (run : Run Sequential {} early before)
  (step : Step before (.queue (.completed number result)) after)
  (htime : .overdue number ∉ early)
include run step htime

/-- A completion in time is the first one of its submission, and its call has not ended. -/
theorem pending_of_completed :
    let called := early ++ [.queue (.completed number result)]
    number ∈ called.filterMap accepted? ∧ number ∈ called.filterMap completed? ∧
      number ∉ called.filterMap ended? ∧ number ∉ before.shared.queue.queued.map (·.1) := by
  have ledger := ledger_of_run run
  simp only [filterMap_snoc, accepted?, completed?, ended?, Option.toList_none,
    Option.toList_some, List.append_nil]
  cases step with
  | queue step permitted =>
    cases step with
    | complete queue waiting result huncalled =>
      have hcompleted := ledger.not_completed_of_inFlight permitted
      refine ⟨ledger.accepted_of_inFlight permitted,
        List.mem_append_right _ (List.mem_singleton_self _), fun hended => ?_, fun hmem => ?_⟩
      · obtain hexpired | ⟨result, hreturned⟩ := mem_ended_iff.mp hended
        · exact htime ((overdue_of_expired run).1 number hexpired)
        · exact hcompleted (ledger.completed_of_taken (List.mem_filterMap.mpr ⟨_, hreturned, rfl⟩))
      · exact hcompleted (ledger.taken.subset (List.mem_append_right _ hmem))

/-- A completion that comes in time and finds room is what its call returns; one that finds the
    queue full is lost, and its call times out. -/
theorem endsIn_of_room :
    after.EndsIn (.queue (if before.shared.queue.queued.length < depth then
      .returned number result else .expired number)) := by
  obtain ⟨haccepted, hcompleted, hended, hqueued⟩ := pending_of_completed run step htime
  have hrun := run.snoc step trivial
  have hcaller := caller_of_not_ended hrun haccepted hended
  have halone := underway_of_run hrun
  cases step with
  | queue step permitted =>
    cases step with
    | complete queue waiting result huncalled =>
      dsimp only at hqueued hcaller ⊢
      split
      · next hroom =>
        refine endsIn_returned_of_due hrun ⟨⟨queue.queued, [], ?_, hqueued⟩, hcaller, halone⟩
        simp only [complete, hroom, if_true]
      · next hfull =>
        refine endsIn_expired_of_lost hrun haccepted hcompleted ?_ hended
        simpa only [complete, hfull, if_false] using hqueued

end

/-- **Completions in time.** Let a caller make one call after another, some of which time out, and
    let the completion of the call under way come before its deadline has passed. The call returns
    that completion's result, however the traffic goes on, if and only if fewer than `depth` stale
    completions are queued when it comes. If not, the completion is lost and the call times out.
    What a transaction does is a course of this traffic. -/
theorem endsIn_of_completed (run : Run Sequential {} early before)
    (step : Step before (.queue (.completed number result)) after)
    (htime : .overdue number ∉ early) :
    (before.shared.queue.queued.length < depth ↔
      after.EndsIn (.queue (.returned number result))) ∧
    (depth ≤ before.shared.queue.queued.length ↔ after.EndsIn (.queue (.expired number))) ∧
    ∀ idle : Traffic α, idle.Idle → ∀ (milliseconds : Nat) (submit : Nat → τ → Submission α × τ)
      (transport : τ),
      let outcome := idle.shared.queue.transact milliseconds submit transport
      ∃ events after, Transacts idle milliseconds
        (submit (idle.shared.queue.last + 1) transport).1 (outcome.1, outcome.2.1) events
        after := by
  have hends := endsIn_of_room run step htime
  refine ⟨⟨fun hroom => ?_, fun hreturns => ?_⟩, ⟨fun hfull => ?_, fun hexpires => ?_⟩,
    fun idle hidle milliseconds submit transport => transacts hidle milliseconds submit transport⟩
  · rwa [if_pos hroom] at hends
  · by_contra hfull
    rw [if_neg hfull] at hends
    cases endsIn_unique hends hreturns rfl
  · rwa [if_neg (Nat.not_lt.mpr hfull)] at hends
  · by_contra hroom
    rw [if_pos (Nat.not_le.mp hroom)] at hends
    cases endsIn_unique hends hexpires rfl

/-! ## Stale completions -/

/-- A call that times out although its submission is accepted. -/
def timedOut (number : Nat) : List (Occurrence Nat) :=
  [.queue (.armed number), .accepted number, .queue (.entered number), .overdue number,
    .queue (.expired number)]

theorem run_timedOut {start : Traffic Nat} {events : List (Occurrence Nat)} {last : Nat}
    {uncalled inFlight : List Nat} {overdue : Bool}
    (run : Run Sequential start events
      ⟨⟨⟨last, []⟩, uncalled, none⟩, ⟨[], [], inFlight, overdue⟩⟩) :
    Run Sequential start (events ++ timedOut (last + 1))
      ⟨⟨⟨last + 1, []⟩, (last + 1) :: uncalled, none⟩, ⟨[], [], inFlight ++ [last + 1], true⟩⟩ := by
  have h : Run Sequential _ _ _ := run.snoc (.queue (.arm ..) trivial) ⟨rfl, rfl, rfl⟩
  have h := h.snoc (.accept _ List.mem_cons_self) trivial
  have h := h.snoc (.queue (.enter _ _ (last + 1)) (List.mem_singleton_self _)) trivial
  have h := h.snoc (.pass rfl rfl) trivial
  have h := h.snoc (.queue (.expire ..) ⟨rfl, rfl⟩) trivial
  simpa [Calls.follow, Calls.accept, arm, timedOut] using h

/-- One call has timed out, and its completion comes when the next one has been submitted. -/
def staleEvents : List (Occurrence Nat) :=
  timedOut 1 ++ [.queue (.armed 2), .accepted 2, .queue (.completed 1 (.ok 7))]

theorem run_stale : Run Sequential {} staleEvents
    ⟨⟨⟨2, [(1, .ok 7)]⟩, [2], none⟩, ⟨[], [2], [2], true⟩⟩ := by
  have h : Run Sequential ({} : Traffic Nat) _ _ := run_timedOut .nil
  have h := h.snoc (.queue (.arm ..) trivial) ⟨rfl, rfl, rfl⟩
  have h := h.snoc (.accept _ List.mem_cons_self) trivial
  exact h.snoc (.queue (.complete _ _ (.ok 7) (show 1 ∈ [2, 1] by decide))
    (show 1 ∈ [1, 2] by decide)) trivial

/-- The second call drops the stale completion and returns its own. -/
theorem endsIn_of_stale :
    EndsIn ⟨⟨⟨2, [(1, .ok 7), (2, .ok 9)]⟩, [], none⟩, ⟨[], [2], [], true⟩⟩
      (.queue (.returned 2 (.ok 9))) :=
  (endsIn_of_completed (τ := Unit) run_stale
    (.queue (.complete _ _ (.ok 9) (show 2 ∈ [2] by decide)) (show 2 ∈ [2] by decide))
    (by simp [staleEvents, timedOut])).1.mp (by decide)

/-- Four calls have timed out, and their completions come in order when the fifth one has been
    submitted. -/
def crowdedEvents : List (Occurrence Nat) :=
  timedOut 1 ++ timedOut 2 ++ timedOut 3 ++ timedOut 4 ++
    [.queue (.armed 5), .accepted 5, .queue (.completed 1 (.ok 1)), .queue (.completed 2 (.ok 2)),
      .queue (.completed 3 (.ok 3)), .queue (.completed 4 (.ok 4))]

def crowded : Traffic Nat :=
  ⟨⟨⟨5, [(1, .ok 1), (2, .ok 2), (3, .ok 3), (4, .ok 4)]⟩, [5], none⟩, ⟨[], [5], [5], true⟩⟩

theorem run_crowded : Run Sequential {} crowdedEvents crowded := by
  have h : Run Sequential ({} : Traffic Nat) _ _ :=
    run_timedOut (run_timedOut (run_timedOut (run_timedOut .nil)))
  have h := h.snoc (.queue (.arm ..) trivial) ⟨rfl, rfl, rfl⟩
  have h := h.snoc (.accept _ List.mem_cons_self) trivial
  have h := h.snoc (.queue (.complete _ _ (.ok 1) (show 1 ∈ [5, 4, 3, 2, 1] by decide))
    (show 1 ∈ [1, 2, 3, 4, 5] by decide)) trivial
  have h := h.snoc (.queue (.complete _ _ (.ok 2) (show 2 ∈ [5, 4, 3, 2] by decide))
    (show 2 ∈ [2, 3, 4, 5] by decide)) trivial
  have h := h.snoc (.queue (.complete _ _ (.ok 3) (show 3 ∈ [5, 4, 3] by decide))
    (show 3 ∈ [3, 4, 5] by decide)) trivial
  exact h.snoc (.queue (.complete _ _ (.ok 4) (show 4 ∈ [5, 4] by decide))
    (show 4 ∈ [4, 5] by decide)) trivial

/-- The queue of a caller whose four transactions have timed out and completed afterwards. -/
def crowdedQueue : CompletionQueue Nat :=
  let pending (queue : CompletionQueue Nat) : CompletionQueue Nat :=
    (queue.transact 20 (fun _ _ => (.pending, ())) ()).2.1
  ((((pending (pending (pending (pending {})))).complete 1 (.ok 1)).complete 2 (.ok 2)).complete 3
    (.ok 3)).complete 4 (.ok 4)

/-- The completion of the fifth submission comes in time and after all the others, but its call does
    not return its result. A transaction that completes before its caller goes on times out too. -/
theorem not_endsIn_of_crowded :
    (∃ lost, Run Sequential {} crowdedEvents crowded ∧
      Step crowded (.queue (.completed 5 (.ok 9))) lost ∧ .overdue 5 ∉ crowdedEvents ∧
      crowdedEvents.filterMap completed? ++ [5] = crowdedEvents.filterMap accepted? ∧
      lost.EndsIn (.queue (.expired 5)) ∧ ¬ lost.EndsIn (.queue (.returned 5 (.ok 9)))) ∧
    (crowdedQueue.transact 20 (fun _ _ => (.completed (.ok 9), ())) ()).1 =
      .error (.timeout 20) := by
  have hstep : Step crowded (.queue (.completed 5 (.ok 9))) _ :=
    .queue (.complete _ _ (.ok 9) (show 5 ∈ [5] by decide)) (show 5 ∈ [5] by decide)
  have htime : (.overdue 5 : Occurrence Nat) ∉ crowdedEvents := by simp [crowdedEvents, timedOut]
  have hends := endsIn_of_room run_crowded hstep htime
  rw [if_neg (by decide)] at hends
  exact ⟨⟨_, run_crowded, hstep, htime, rfl, hends, fun hreturns => by
    cases endsIn_unique hends hreturns rfl⟩, rfl⟩

end TensorLink.CompletionQueue.Traffic

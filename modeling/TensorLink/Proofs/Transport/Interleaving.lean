import TensorLink.Transport.Completion

/-!
# Completion queues with several callers

Any number of callers share one completion queue. Submissions are numbered, completions are called
from elsewhere at any moment or never, and waits take completions out of the queue one by one. Only
one caller at a time has the receiving end; what happens between two of its takes is up to the
others. An event is the smallest thing that can happen, and a run is any sequence of events that the
queue allows.

Results:
* `books_of_run`: how often each number has been handed out, completed, queued and returned.
* `Run.at_event`: every event of a run is a step from a state that the events before it lead to.
* `run_collect`, `run_wait`: a wait that nothing comes between is such a run.
* `result_of_own_completion`: a wait returns nothing but the result that was passed to the
  completion with its number, and no result is returned twice.
-/

namespace TensorLink.CompletionQueue

/-- What happens at a completion queue. -/
inductive Event (α : Type) where
  /-- A submission gets a number and a completion that reports under it. -/
  | armed (number : Nat)
  /-- The completion of a submission is called with a result. -/
  | completed (number : Nat) (result : Except DriverError α)
  /-- The completion of a submission is given up without having been called. -/
  | abandoned (number : Nat)
  /-- A caller who waits for a submission gets the receiving end. -/
  | entered (number : Nat)
  /-- The caller who waits takes the completion of another submission and drops it. -/
  | discarded (number other : Nat)
  /-- A wait returns what it has taken from the queue. -/
  | returned (number : Nat) (result : Except DriverError α)
  /-- A wait ends with an error of its own. -/
  | expired (number : Nat)

namespace Event

variable {α : Type}

/-- Whether a given number is handed out. -/
def arms (number : Nat) : Event α → Bool
  | armed other => other == number
  | _ => false

theorem eq_armed_of_arms {number : Nat} {event : Event α} (harms : event.arms number = true) :
    event = .armed number := by
  cases event with
  | armed other => rw [show other = number from beq_iff_eq.mp harms]
  | _ => cases harms

/-- Whether the completion of a given submission is called. -/
def completes (number : Nat) : Event α → Bool
  | completed other _ => other == number
  | _ => false

/-- Whether a wait returns the result of a given submission. -/
def returns (number : Nat) : Event α → Bool
  | returned other _ => other == number
  | _ => false

end Event

/-- A completion queue and its callers. -/
structure Shared (α : Type) where
  queue : CompletionQueue α := {}
  /-- The numbers whose completions may still be called; each can be called once. -/
  uncalled : List Nat := []
  /-- What the caller with the receiving end waits for. -/
  waiting : Option Nat := none

variable {α : Type}

/-- What can happen next, and what it leads to. -/
inductive Step : Shared α → Event α → Shared α → Prop where
  | arm (queue : CompletionQueue α) (uncalled : List Nat) (waiting : Option Nat) :
    Step ⟨queue, uncalled, waiting⟩ (.armed queue.arm.1)
      ⟨queue.arm.2, queue.arm.1 :: uncalled, waiting⟩
  | complete {number : Nat} {uncalled : List Nat} (queue : CompletionQueue α)
      (waiting : Option Nat) (result : Except DriverError α) (huncalled : number ∈ uncalled) :
    Step ⟨queue, uncalled, waiting⟩ (.completed number result)
      ⟨queue.complete number result, uncalled.erase number, waiting⟩
  | abandon {number : Nat} {uncalled : List Nat} (queue : CompletionQueue α)
      (waiting : Option Nat) (huncalled : number ∈ uncalled) :
    Step ⟨queue, uncalled, waiting⟩ (.abandoned number) ⟨queue, uncalled.erase number, waiting⟩
  | enter (queue : CompletionQueue α) (uncalled : List Nat) (number : Nat) :
    Step ⟨queue, uncalled, none⟩ (.entered number) ⟨queue, uncalled, some number⟩
  | discard {number other : Nat} (last : Nat) (result : Except DriverError α)
      (rest : List (Nat × Except DriverError α)) (uncalled : List Nat) (hstale : other ≠ number) :
    Step ⟨⟨last, (other, result) :: rest⟩, uncalled, some number⟩ (.discarded number other)
      ⟨⟨last, rest⟩, uncalled, some number⟩
  | collect (last number : Nat) (result : Except DriverError α)
      (rest : List (Nat × Except DriverError α)) (uncalled : List Nat) :
    Step ⟨⟨last, (number, result) :: rest⟩, uncalled, some number⟩ (.returned number result)
      ⟨⟨last, rest⟩, uncalled, none⟩
  | expire (queue : CompletionQueue α) (uncalled : List Nat) (number : Nat) :
    Step ⟨queue, uncalled, some number⟩ (.expired number) ⟨queue, uncalled, none⟩

/-- A sequence of events, oldest first, and the state that it leads to. -/
inductive Run (start : Shared α) : List (Event α) → Shared α → Prop where
  | nil : Run start [] start
  | snoc {events : List (Event α)} {before after : Shared α} {event : Event α}
      (run : Run start events before) (step : Step before event after) :
    Run start (events ++ [event]) after

/-- Every event of a run is a step from a state that the events before it lead to. -/
theorem Run.at_event {start final : Shared α} {early late : List (Event α)} {event : Event α}
    (run : Run start (early ++ event :: late) final) :
    ∃ before after, Run start early before ∧ Step before event after := by
  generalize hevents : early ++ event :: late = events at run
  induction run generalizing late with
  | nil => simp at hevents
  | @snoc events before after last run step ih =>
    obtain rfl | ⟨late, other, rfl⟩ := List.eq_nil_or_concat late
    · obtain ⟨rfl, hlast⟩ := List.append_inj' hevents rfl
      obtain rfl : event = last := by simpa using hlast
      exact ⟨before, after, run, step⟩
    · rw [List.concat_eq_append, ← List.cons_append, ← List.append_assoc] at hevents
      exact ih (List.append_inj' hevents rfl).1

/-! ## The books of a run -/

/-- How many completions of a submission a queue holds. -/
def held (queue : CompletionQueue α) (number : Nat) : Nat :=
  queue.queued.countP (·.1 == number)

/-- How the events of a run and the state that it leads to agree. -/
structure Books (events : List (Event α)) (shared : Shared α) : Prop where
  /-- Numbers are handed out in order. -/
  fresh (number : Nat) (hlast : shared.queue.last < number) :
    events.countP (Event.arms number) = 0
  /-- Each number is handed out once. -/
  armed_once (number : Nat) : events.countP (Event.arms number) ≤ 1
  /-- A completion that has been called, or may be called, belongs to a number handed out. -/
  called (number : Nat) : shared.uncalled.count number + events.countP (Event.completes number) ≤
    events.countP (Event.arms number)
  /-- What has been returned, or may be, belongs to a completion that has been called. -/
  delivered (number : Nat) : events.countP (Event.returns number) + shared.queue.held number ≤
    events.countP (Event.completes number)
  /-- What is queued has been passed to the completion of its number. -/
  queued : ∀ entry ∈ shared.queue.queued, .completed entry.1 entry.2 ∈ events

theorem countP_snoc (p : Event α → Bool) (events : List (Event α)) (event : Event α) :
    (events ++ [event]).countP p = events.countP p + if p event then 1 else 0 := by
  rw [List.countP_append, List.countP_singleton]

theorem held_complete_le (queue : CompletionQueue α) (number other : Nat)
    (result : Except DriverError α) :
    (queue.complete number result).held other ≤
      queue.held other + if number = other then 1 else 0 := by
  unfold complete held
  split
  · rw [List.countP_append, List.countP_singleton]
    simp
  · omega

theorem mem_queued_complete {queue : CompletionQueue α} {number : Nat}
    {result : Except DriverError α} {entry : Nat × Except DriverError α}
    (hentry : entry ∈ (queue.complete number result).queued) :
    entry ∈ queue.queued ∨ entry = (number, result) := by
  unfold complete at hentry
  split at hentry
  · exact (List.mem_append.mp hentry).imp_right List.mem_singleton.mp
  · exact .inl hentry

theorem books_nil : Books ([] : List (Event α)) {} :=
  ⟨fun _ _ => rfl, fun _ => Nat.zero_le _, fun _ => Nat.le_refl _, fun _ => Nat.le_refl _,
    fun _ hentry => absurd hentry List.not_mem_nil⟩

section

variable {events : List (Event α)} {before after : Shared α} {event : Event α}

theorem last_complete (queue : CompletionQueue α) (number : Nat) (result : Except DriverError α) :
    (queue.complete number result).last = queue.last := by
  unfold complete
  split <;> rfl

theorem fresh_step (books : Books events before) (step : Step before event after) (number : Nat)
    (hlast : after.queue.last < number) : (events ++ [event]).countP (Event.arms number) = 0 := by
  have hfresh := books.fresh number
  rw [countP_snoc]
  cases step with
  | arm queue uncalled waiting =>
    have hlast : queue.last + 1 < number := hlast
    have hother : (queue.arm.1 == number) = false := beq_false_of_ne (Nat.ne_of_lt hlast)
    simp only [Event.arms, hother]
    exact hfresh (Nat.lt_of_succ_lt hlast)
  | complete queue waiting result huncalled =>
    rw [last_complete] at hlast
    exact hfresh hlast
  | _ => exact hfresh hlast

theorem armed_once_step (books : Books events before) (step : Step before event after)
    (number : Nat) : (events ++ [event]).countP (Event.arms number) ≤ 1 := by
  have honce := books.armed_once number
  rw [countP_snoc]
  cases step with
  | arm queue uncalled waiting =>
    simp only [Event.arms, arm, beq_iff_eq]
    split
    · next hnumber =>
      -- The number is the one after the last, so it has not been handed out yet.
      have hfresh := books.fresh number (hnumber ▸ Nat.lt_succ_self queue.last)
      omega
    · exact honce
  | _ => exact honce

theorem called_step (books : Books events before) (step : Step before event after)
    (number : Nat) :
    after.uncalled.count number + (events ++ [event]).countP (Event.completes number) ≤
      (events ++ [event]).countP (Event.arms number) := by
  have hcalled := books.called number
  rw [countP_snoc, countP_snoc]
  cases step with
  | arm queue uncalled waiting =>
    have hcalled : uncalled.count number + _ ≤ _ := hcalled
    simp only [Event.arms, Event.completes, List.count_cons, beq_iff_eq, Bool.false_eq_true,
      if_false]
    omega
  | @complete other uncalled queue waiting result huncalled =>
    have hcount := List.count_pos_iff.mpr huncalled
    simp only [Event.arms, Event.completes, List.count_erase, beq_iff_eq, Bool.false_eq_true,
      if_false] at hcalled ⊢
    by_cases hnumber : other = number
    · subst hnumber
      simp only [if_true]
      omega
    · simp only [hnumber, if_false]
      omega
  | @abandon other uncalled queue waiting huncalled =>
    have hcount : (uncalled.erase other).count number ≤ uncalled.count number :=
      (List.erase_sublist ..).count_le number
    exact Nat.le_trans (Nat.add_le_add_right hcount _) hcalled
  | _ => exact hcalled

theorem delivered_step (books : Books events before) (step : Step before event after)
    (number : Nat) :
    (events ++ [event]).countP (Event.returns number) + after.queue.held number ≤
      (events ++ [event]).countP (Event.completes number) := by
  have hdelivered := books.delivered number
  rw [countP_snoc, countP_snoc]
  cases step with
  | @complete other uncalled queue waiting result huncalled =>
    have hheld := held_complete_le queue other number result
    simp only [Event.returns, Event.completes, beq_iff_eq, Bool.false_eq_true, if_false]
      at hdelivered ⊢
    omega
  | discard last result rest uncalled hstale =>
    simp only [held, List.countP_cons, Event.returns, Event.completes, Bool.false_eq_true,
      if_false] at hdelivered ⊢
    omega
  | collect last other result rest uncalled =>
    simp only [held, List.countP_cons, Event.returns, Event.completes, beq_iff_eq,
      Bool.false_eq_true, if_false] at hdelivered ⊢
    omega
  | _ => exact hdelivered

theorem queued_step (books : Books events before) (step : Step before event after) :
    ∀ entry ∈ after.queue.queued, .completed entry.1 entry.2 ∈ events ++ [event] := by
  intro entry hentry
  have hqueued := books.queued
  cases step with
  | complete queue waiting result huncalled =>
    obtain hearlier | rfl := mem_queued_complete hentry
    · exact List.mem_append_left _ (hqueued entry hearlier)
    · exact List.mem_append_right _ (List.mem_singleton_self _)
  | discard last result rest uncalled hstale =>
    exact List.mem_append_left _ (hqueued entry (List.mem_cons_of_mem _ hentry))
  | collect last number result rest uncalled =>
    exact List.mem_append_left _ (hqueued entry (List.mem_cons_of_mem _ hentry))
  | _ => exact List.mem_append_left _ (hqueued entry hentry)

/-- **Step.** Every event keeps the books in order. -/
theorem books_step (books : Books events before) (step : Step before event after) :
    Books (events ++ [event]) after :=
  ⟨fresh_step books step, armed_once_step books step, called_step books step,
    delivered_step books step, queued_step books step⟩

/-- **Run.** The books of every run are in order. -/
theorem books_of_run {final : Shared α} (run : Run {} events final) : Books events final := by
  induction run with
  | nil => exact books_nil
  | snoc run step ih => exact books_step ih step

end

/-! ## Waits that nothing comes between -/

/-- A caller with the receiving end who takes completions until its own comes. -/
theorem run_collect {start : Shared α} (number milliseconds last : Nat) (uncalled : List Nat)
    (queued : List (Nat × Except DriverError α)) {events : List (Event α)}
    (run : Run start events ⟨⟨last, queued⟩, uncalled, some number⟩) :
    let collected := collect number milliseconds queued
    ∃ more, Run start (events ++ more) ⟨⟨last, collected.2⟩, uncalled, none⟩ ∧
      (collected.1 = .error (.timeout milliseconds) ∨ .returned number collected.1 ∈ more) := by
  induction queued generalizing events with
  | nil => exact ⟨[.expired number], run.snoc (.expire ..), .inl rfl⟩
  | cons entry rest ih =>
    obtain ⟨other, result⟩ := entry
    by_cases hnumber : other = number
    · subst hnumber
      simp only [collect, if_true]
      exact ⟨[.returned other result], run.snoc (.collect ..), .inr (List.mem_singleton_self _)⟩
    · simp only [collect, hnumber, if_false]
      obtain ⟨more, hrun, hresult⟩ := ih (run.snoc (.discard _ _ _ _ hnumber))
      rw [List.append_assoc] at hrun
      exact ⟨_, hrun, hresult.imp_right (List.mem_cons_of_mem _)⟩

/-- A wait, as a run. -/
theorem run_wait {start : Shared α} {queue : CompletionQueue α} {uncalled : List Nat}
    {events : List (Event α)} (run : Run start events ⟨queue, uncalled, none⟩)
    (number milliseconds : Nat) :
    let waited := queue.wait number milliseconds
    ∃ more, Run start (events ++ more) ⟨waited.2, uncalled, none⟩ ∧
      (waited.1 = .error (.timeout milliseconds) ∨ .returned number waited.1 ∈ more) := by
  obtain ⟨more, hrun, hresult⟩ := run_collect number milliseconds queue.last uncalled queue.queued
    (run.snoc (.enter queue uncalled number))
  rw [List.append_assoc] at hrun
  exact ⟨_, hrun, hresult.imp_right (List.mem_cons_of_mem _)⟩

/-! ## Results and the waits that return them -/

section

variable {events early late : List (Event α)} {final : Shared α} {number : Nat}
  {result : Except DriverError α}

/-- A completion that is called belongs to a number that has been handed out before. -/
theorem armed_of_completed (run : Run {} (early ++ .completed number result :: late) final) :
    .armed number ∈ early := by
  obtain ⟨before, after, hrun, hstep⟩ := run.at_event
  cases hstep with
  | @complete _ uncalled queue waiting _ huncalled =>
    have hcalled := (books_of_run hrun).called number
    have hcount : 0 < uncalled.count number := List.count_pos_iff.mpr huncalled
    obtain ⟨event, hevent, harms⟩ := List.countP_pos_iff.mp
      (show 0 < early.countP (Event.arms number) by dsimp only at hcalled; omega)
    rwa [Event.eq_armed_of_arms harms] at hevent

/-- A result that a wait returns has been passed to the completion with the wait's number. -/
theorem completed_of_returned (run : Run {} (early ++ .returned number result :: late) final) :
    .completed number result ∈ early := by
  obtain ⟨before, after, hrun, hstep⟩ := run.at_event
  cases hstep with
  | collect => exact (books_of_run hrun).queued (number, result) List.mem_cons_self

/-- No result is returned twice, since each number is handed out once and its completion is called
    once. -/
theorem returned_once (run : Run {} events final) (number : Nat) :
    events.countP (Event.arms number) ≤ 1 ∧ events.countP (Event.completes number) ≤ 1 ∧
      events.countP (Event.returns number) ≤ 1 := by
  have hbooks := books_of_run run
  have harmed := hbooks.armed_once number
  have hcalled := hbooks.called number
  have hdelivered := hbooks.delivered number
  omega

end

/-- **Results of own completions.** However the calls of any number of callers and the completions
    of their submissions come between each other, a wait that returns a result returns the one that
    has been passed to the completion handed out with its number. No number is handed out twice, no
    completion is called twice, and no two waits return the result of one completion. A wait that
    nothing comes between is a run of its own, so all this holds of it as well. -/
theorem result_of_own_completion {events : List (Event α)} {final : Shared α}
    (run : Run {} events final) :
    (∀ early number result late, events = early ++ .returned number result :: late →
      ∃ first second third, early =
        first ++ .armed number :: (second ++ .completed number result :: third)) ∧
    (∀ number, events.countP (Event.arms number) ≤ 1 ∧
      events.countP (Event.completes number) ≤ 1 ∧ events.countP (Event.returns number) ≤ 1) ∧
    (final.waiting = none → ∀ number milliseconds,
      let waited := final.queue.wait number milliseconds
      ∃ more, Run {} (events ++ more) ⟨waited.2, final.uncalled, none⟩ ∧
        (waited.1 = .error (.timeout milliseconds) ∨ .returned number waited.1 ∈ more)) := by
  refine ⟨fun early number result late hevents => ?_, returned_once run,
    fun hfree number milliseconds => ?_⟩
  · subst hevents
    obtain ⟨second, third, rfl⟩ := List.append_of_mem (completed_of_returned run)
    rw [List.append_assoc, List.cons_append] at run
    obtain ⟨first, second, rfl⟩ := List.append_of_mem (armed_of_completed run)
    exact ⟨first, second, third, by rw [List.append_assoc, List.cons_append]⟩
  · obtain ⟨queue, uncalled, waiting⟩ := final
    obtain rfl : waiting = none := hfree
    exact run_wait run number milliseconds

/-- A wait for the first submission times out, its completion comes while another caller waits for
    the second one, and is dropped. -/
def lateEvents : List (Event Nat) :=
  [.armed 1, .entered 1, .expired 1, .armed 2, .entered 2, .completed 1 (.ok 7), .discarded 2 1,
    .completed 2 (.ok 9), .returned 2 (.ok 9)]

theorem run_late : Run {} lateEvents ⟨⟨2, []⟩, [], none⟩ := by
  have h : Run {} [] ({} : Shared Nat) := .nil
  have h := h.snoc (.arm ..)
  have h := h.snoc (.enter _ _ 1)
  have h := h.snoc (.expire ..)
  have h := h.snoc (.arm ..)
  have h := h.snoc (.enter _ _ 2)
  have h := h.snoc (.complete _ _ (.ok 7) (show 1 ∈ [2, 1] by decide))
  have h := h.snoc (.discard _ _ _ _ (by decide))
  have h := h.snoc (.complete _ _ (.ok 9) (show 2 ∈ [2] by decide))
  exact h.snoc (.collect ..)

/-- The second wait returns the result of the second submission. -/
theorem result_of_late_completion :
    Run {} lateEvents ⟨⟨2, []⟩, [], none⟩ ∧ ∃ first second third, lateEvents.take 8 =
      first ++ .armed 2 :: (second ++ .completed 2 (.ok 9) :: third) :=
  ⟨run_late, (result_of_own_completion run_late).1 (lateEvents.take 8) 2 (.ok 9) [] rfl⟩

end TensorLink.CompletionQueue

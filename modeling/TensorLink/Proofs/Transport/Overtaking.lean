import TensorLink.Proofs.Transport.Traffic

/-!
# Callers who overtake each other

Any number of callers share a pipe whose transport completes what it has accepted in order and
before anybody's deadline passes. So the completions are queued in the order of submission. A caller
who gets the receiving end drops every completion that is not its own, also those whose callers have
yet to get it. If the callers get it in the order of submission, and no more completions are called
than the queue holds, then each takes its own; otherwise some caller waits for a completion that
another one has dropped or the queue has lost, and its deadline passes.

Results:
* `inOrder_of_run`: completions come in the order of submission.
* `fair_step`, `fair_of_run`: as long as callers take turns, each takes its own completion.
* `inTurn_of_served`: if every call is served, then the callers have taken turns.
* `served_iff_inTurn`: exactly then is every call served.
-/

namespace TensorLink.CompletionQueue.Traffic

open Occurrence

variable {α : Type} {before after final : Traffic α} {events early late : List (Occurrence α)}
  {event : Occurrence α} {number : Nat}

/-- The transport completes submissions in order, and does so in time: a deadline passes only after
    the completion has come. -/
def Prompt (traffic : Traffic α) : Occurrence α → Prop
  | .queue (.completed number _) => traffic.calls.inFlight.head? = some number
  | .overdue number => number ∉ traffic.calls.inFlight
  | _ => True

theorem letsWait_prompt {inFlight : List Nat} (hcompleted : number ∉ inFlight) :
    LetsWait (Prompt (α := α)) number inFlight := by
  intro traffic event hflight hwaits
  cases event with
  | queue event =>
    cases event with
    | completed => cases hwaits
    | _ => trivial
  | accepted => trivial
  | overdue other =>
    obtain rfl : other = number := hwaits
    show other ∉ traffic.calls.inFlight
    rwa [hflight]

/-- Callers get the receiving end in the order of submission, and there are never more than `depth`
    completions that nobody has taken. -/
structure InTurn (events : List (Occurrence α)) : Prop where
  order : events.filterMap entered? <+: events.filterMap accepted?
  room : ∀ early, early <+: events →
    (early.filterMap completed?).length ≤ (early.filterMap taken?).length + depth

/-- Every submission that has been accepted completes, and its call returns the result. -/
def Served (events : List (Occurrence α)) : Prop :=
  ∀ number ∈ events.filterMap accepted?, ∃ result,
    .queue (.completed number result) ∈ events ∧ .queue (.returned number result) ∈ events

/-! ## Completions in order -/

/-- What a prompt transport keeps. -/
structure InOrder (events : List (Occurrence α)) (traffic : Traffic α) : Prop where
  completed : events.filterMap accepted? = events.filterMap completed? ++ traffic.calls.inFlight
  /-- Whose deadline has passed is not in flight any more. -/
  late : traffic.calls.overdue = true → ∀ number, traffic.shared.waiting = some number →
    number ∉ traffic.calls.inFlight

theorem inOrder_step (ledger : Ledger events before) (inOrder : InOrder events before)
    (step : Step before event after) (allowed : Prompt before event) :
    InOrder (events ++ [event]) after := by
  obtain ⟨hcompleted, hlate⟩ := inOrder
  refine ⟨?_, ?_⟩
  · simp only [filterMap_snoc]
    cases step with
    | @queue shared _ _ calls step permitted =>
      cases step with
      | @complete number uncalled queue waiting result huncalled =>
        -- The oldest submission in flight is the one that completes.
        obtain ⟨rest, hflight⟩ : ∃ rest, calls.inFlight = number :: rest :=
          List.head?_eq_some_iff.mp allowed
        simp only [accepted?, completed?, Option.toList_none, Option.toList_some, List.append_nil,
          Calls.follow] at hcompleted ⊢
        rw [hcompleted, hflight, List.erase_cons_head, List.append_assoc, List.singleton_append]
      | _ => simpa [accepted?, completed?, Calls.follow] using hcompleted
    | accept shared harmed => simp [accepted?, completed?, Calls.accept, hcompleted]
    | pass => simpa [accepted?, completed?] using hcompleted
  · cases step with
    | queue step permitted =>
      cases step with
      | complete queue waiting result huncalled =>
        exact fun hoverdue number hwaiting hflight =>
          hlate hoverdue number hwaiting (List.mem_of_mem_erase hflight)
      | enter queue uncalled number => exact fun hoverdue => by cases hoverdue
      | collect => exact fun _ _ hwaiting => by cases hwaiting
      | expire => exact fun _ _ hwaiting => by cases hwaiting
      | _ => exact hlate
    | @accept number calls shared harmed =>
      intro hoverdue waiter hwaiting hflight
      obtain hflight | hnew := List.mem_append.mp hflight
      · exact hlate hoverdue waiter hwaiting hflight
      · -- Whoever waits has submitted before.
        have hentered : waiter ∈ events.filterMap entered? :=
          ledger.entered ▸ List.mem_append_right _ (Option.mem_toList.mpr hwaiting)
        have haccepted : waiter ∈ events.filterMap accepted? :=
          ledger.submitted.mem_iff.mpr (List.mem_append_left _ hentered)
        obtain rfl := List.mem_singleton.mp hnew
        exact List.disjoint_of_nodup_append ledger.nodup harmed haccepted
    | pass hwaiting hearly =>
      intro _ number hsome
      cases hwaiting.symm.trans hsome
      exact allowed

theorem inOrder_of_run (run : Run Prompt {} events final) : InOrder events final := by
  induction run with
  | nil => exact ⟨rfl, fun hoverdue => by cases hoverdue⟩
  | snoc run step allowed ih => exact inOrder_step (ledger_of_run run) ih step allowed

/-! ## Callers who take turns -/

theorem InTurn.of_append (inTurn : InTurn (events ++ late)) (ledger : Ledger events before) :
    InTurn events := by
  refine ⟨?_, fun early hearly => inTurn.room early (hearly.trans (List.prefix_append _ _))⟩
  refine List.prefix_of_prefix_length_le
    (((List.prefix_append events late).filterMap _).trans inTurn.order)
    ((List.prefix_append events late).filterMap _) ?_
  rw [ledger.submitted.length_eq, List.length_append]
  exact Nat.le_add_right _ _

/-- What callers who take turns keep. -/
structure Fair (events : List (Occurrence α)) (traffic : Traffic α) : Prop where
  /-- No completion has met a full queue. -/
  kept : events.filterMap completed? =
    events.filterMap taken? ++ traffic.shared.queue.queued.map (·.1)
  /-- Every completion that has been taken has ended the wait for it. -/
  own : events.filterMap taken? = events.filterMap ended?
  intime : ∀ number, .queue (.expired number) ∉ events

/-- The next completion to be taken is that of the call with the receiving end. -/
theorem Fair.head_eq (fair : Fair events before) (ledger : Ledger events before)
    (inOrder : InOrder events before) (inTurn : InTurn events)
    (hwaiting : before.shared.waiting = some number) :
    (before.shared.queue.queued.map (·.1) ++ before.calls.inFlight).head? = some number := by
  have horder := inTurn.order
  rw [ledger.entered, hwaiting, Option.toList_some, inOrder.completed, fair.kept, fair.own,
    List.append_assoc] at horder
  obtain ⟨rest, hrest⟩ := (List.prefix_append_right_inj _).mp horder
  rw [← hrest]
  rfl

/-- **Step.** As long as callers take turns, they take their own completions. -/
theorem fair_step (fair : Fair events before) (ledger : Ledger events before)
    (inOrder : InOrder events before) (step : Step before event after)
    (inTurn : InTurn (events ++ [event])) : Fair (events ++ [event]) after := by
  have hbefore := inTurn.of_append ledger
  have hhead (number : Nat) (hwaiting : before.shared.waiting = some number) :=
    fair.head_eq ledger inOrder hbefore hwaiting
  have hroom := inTurn.room _ (List.prefix_refl _)
  obtain ⟨hkept, hown, hintime⟩ := fair
  suffices hevent : events.filterMap completed? ++ event.completed?.toList =
        events.filterMap taken? ++ event.taken?.toList ++ after.shared.queue.queued.map (·.1) ∧
      events.filterMap taken? ++ event.taken?.toList =
        events.filterMap ended? ++ event.ended?.toList ∧
      ∀ number, event ≠ .queue (.expired number) by
    obtain ⟨hkept, hown, hevent⟩ := hevent
    refine ⟨by simpa only [filterMap_snoc] using hkept, by simpa only [filterMap_snoc] using hown,
      fun number hmem => ?_⟩
    obtain hmem | hmem := List.mem_append.mp hmem
    · exact hintime number hmem
    · exact hevent number (List.mem_singleton.mp hmem).symm
  simp only [filterMap_snoc] at hroom
  cases step with
  | queue step permitted =>
    cases step with
    | @complete number uncalled queue waiting result huncalled =>
      refine ⟨?_, by simpa [taken?, ended?] using hown, fun _ h => by cases h⟩
      simp only [completed?, taken?, Option.toList_none, Option.toList_some, List.append_nil]
        at hroom ⊢
      have hroom : queue.queued.length < depth := by
        rw [hkept] at hroom
        simp only [List.length_append, List.length_map, List.length_singleton] at hroom
        omega
      simp only [complete, hroom, if_true, List.map_append]
      rw [hkept, List.append_assoc]
      rfl
    | @discard number other last result rest uncalled hstale =>
      exact absurd (Option.some.inj (hhead number rfl)) hstale
    | collect last number result rest uncalled =>
      exact ⟨by simpa [taken?, completed?] using hkept, by simp [taken?, ended?, hown],
        fun _ h => by cases h⟩
    | @expire queue uncalled number =>
      -- With nothing queued, the call would still be in flight, and its deadline in the future.
      have hempty : queue.queued = [] := permitted.2
      have hflight := hhead number rfl
      dsimp only at hflight
      rw [hempty, List.map_nil, List.nil_append] at hflight
      exact absurd (List.mem_of_head? hflight) (inOrder.late permitted.1 number rfl)
    | _ =>
      exact ⟨by simpa [taken?, completed?, arm] using hkept, by simpa [taken?, ended?] using hown,
        fun _ h => by cases h⟩
  | _ =>
    exact ⟨by simpa [taken?, completed?] using hkept, by simpa [taken?, ended?] using hown,
      fun _ h => by cases h⟩

/-- **Run.** As long as callers take turns, they take their own completions. -/
theorem fair_of_run (run : Run Prompt {} events final) (inTurn : InTurn events) :
    Fair events final := by
  induction run with
  | nil => exact ⟨rfl, rfl, fun _ => List.not_mem_nil⟩
  | snoc run step allowed ih =>
    have ledger := ledger_of_run run
    exact fair_step (ih (inTurn.of_append ledger)) ledger (inOrder_of_run run) step inTurn

/-- Callers who take turns are all served. -/
theorem served_of_inTurn (run : Run Prompt {} events final) (idle : final.Idle)
    (inTurn : InTurn events) : Served events := by
  have ledger := ledger_of_run run
  have fair := fair_of_run run inTurn
  intro number haccepted
  have hentered := ledger.submitted.mem_iff.mp haccepted
  rw [ledger.entered, idle.submitted, idle.waiting, Option.toList_none, List.append_nil,
    List.append_nil] at hentered
  obtain ⟨result, hreturned⟩ :=
    (mem_ended_iff.mp hentered).resolve_left (fair.intime number)
  exact ⟨result, run.completed_of_returned hreturned, hreturned⟩

/-! ## Callers who are all served -/

/-- With every call served, no completion is lost. -/
theorem room_of_served (run : Run Prompt {} events final) (served : Served events)
    (hearly : early <+: events) :
    (early.filterMap completed?).length ≤ (early.filterMap taken?).length + depth := by
  obtain ⟨late, rfl⟩ := hearly
  obtain ⟨mid, hrun, hlater⟩ := run.split
  have ledger := ledger_of_run hrun
  have hsubset : early.filterMap completed? ⊆
      early.filterMap taken? ++ mid.shared.queue.queued.map (·.1) := by
    intro number hcompleted
    have haccepted : number ∈ (early ++ late).filterMap accepted? := by
      rw [List.filterMap_append]
      exact List.mem_append_left _
        (ledger.completed.mem_iff.mpr (List.mem_append_left _ hcompleted))
    obtain ⟨result, -, hreturned⟩ := served number haccepted
    by_contra hlost
    obtain ⟨htaken, hgone⟩ := not_or.mp (mt List.mem_append.mpr hlost)
    obtain hreturned | hreturned := List.mem_append.mp hreturned
    · exact htaken (List.mem_filterMap.mpr ⟨_, hreturned, rfl⟩)
    · exact (not_returned_of_lost hrun hcompleted hgone hlater).2 result hreturned
  have hlength := (List.nodup_append'.mp ledger.nodup_completed).1.length_le_of_subset hsubset
  rw [List.length_append, List.length_map] at hlength
  exact Nat.le_trans hlength (Nat.add_le_add_left ledger.bounded _)

/-- Without timeouts, every wait ends with a completion that is taken. -/
theorem ended_sublist_taken (hintime : ∀ number, .queue (.expired number) ∉ events) :
    (events.filterMap ended?).Sublist (events.filterMap taken?) := by
  induction events with
  | nil => exact .refl _
  | cons event rest ih =>
    have ih := ih fun number hmem => hintime number (List.mem_cons_of_mem _ hmem)
    cases event with
    | queue event =>
      cases event with
      | discarded number other => exact ih.cons other
      | returned number result => exact ih.cons_cons number
      | expired number => exact absurd List.mem_cons_self (hintime number)
      | _ => exact ih
    | _ => exact ih

/-- Callers who are all served have had the receiving end in the order of submission. -/
theorem order_of_served (run : Run Prompt {} events final) (idle : final.Idle)
    (served : Served events) : events.filterMap entered? = events.filterMap accepted? := by
  have ledger := ledger_of_run run
  have hflight : final.calls.inFlight = [] := by
    rw [List.eq_nil_iff_forall_not_mem]
    intro number hflight
    obtain ⟨result, hcompleted, -⟩ := served number (ledger.accepted_of_inFlight hflight)
    exact ledger.not_completed_of_inFlight hflight (List.mem_filterMap.mpr ⟨_, hcompleted, rfl⟩)
  have hperm := ledger.submitted
  have hentered := ledger.entered
  rw [idle.submitted, List.append_nil] at hperm
  rw [idle.waiting, Option.toList_none, List.append_nil] at hentered
  have hintime : ∀ number, .queue (.expired number) ∉ events := by
    intro number hexpired
    have hmem : number ∈ events.filterMap entered? :=
      hentered ▸ mem_ended_iff.mpr (.inl hexpired)
    obtain ⟨result, -, hreturned⟩ := served number (hperm.mem_iff.mpr hmem)
    cases ended_unique run hexpired hreturned rfl rfl
  have hsublist : (events.filterMap entered?).Sublist (events.filterMap accepted?) := by
    rw [hentered, (inOrder_of_run run).completed, hflight, List.append_nil]
    exact (ended_sublist_taken hintime).trans
      ((List.sublist_append_left _ _).trans ledger.taken)
  exact hsublist.eq_of_length hperm.length_eq.symm

/-! ## Runs to the end -/

/-- As long as a call is under way, something else than a new call can happen. -/
theorem exists_step (run : Run Prompt {} events final) (hbusy : ¬ final.Idle) :
    ∃ event after, Step final event after ∧ Prompt final event ∧ event.arms = false := by
  have ledger := ledger_of_run run
  obtain ⟨⟨⟨last, queued⟩, uncalled, waiting⟩, ⟨armed, submitted, inFlight, overdue⟩⟩ := final
  cases waiting with
  | some waiter =>
    cases queued with
    | cons entry rest =>
      obtain ⟨number, result⟩ := entry
      by_cases hnumber : number = waiter
      · subst hnumber
        exact ⟨_, _, .queue (.collect ..) trivial, trivial, rfl⟩
      · exact ⟨_, _, .queue (.discard _ _ _ _ hnumber) trivial, trivial, rfl⟩
    | nil =>
      cases overdue with
      | true => exact ⟨_, _, .queue (.expire ..) ⟨rfl, rfl⟩, trivial, rfl⟩
      | false =>
        by_cases hflight : waiter ∈ inFlight
        · -- The oldest submission in flight can complete.
          obtain ⟨oldest, rest, rfl⟩ := List.exists_cons_of_ne_nil (List.ne_nil_of_mem hflight)
          have huncalled : oldest ∈ uncalled :=
            ledger.uncalled.mem_iff.mpr (List.mem_append_right _ List.mem_cons_self)
          exact ⟨_, _, .queue (.complete _ _ (.error .notConnected) huncalled) List.mem_cons_self,
            rfl, rfl⟩
        · exact ⟨_, _, .pass rfl rfl, hflight, rfl⟩
  | none =>
    cases submitted with
    | cons number rest => exact ⟨_, _, .queue (.enter ..) List.mem_cons_self, trivial, rfl⟩
    | nil =>
      cases armed with
      | cons number rest => exact ⟨_, _, .accept _ List.mem_cons_self, trivial, rfl⟩
      | nil => exact absurd ⟨rfl, rfl, rfl⟩ hbusy

/-- **Calls that are served.** Let any number of callers share a pipe whose transport completes
    submissions promptly and in order. The traffic comes to an end, and every call returns the
    result of its own submission if and only if the callers get the receiving end in the order of
    submission and there are never more than `depth` completions that nobody has taken. As long as
    that is so, no call times out. A wait for a submission that has completed is a course of this
    traffic. -/
theorem served_iff_inTurn (run : Run Prompt {} events final) :
    (final.Idle → (Served events ↔ InTurn events)) ∧
    (InTurn events → ∀ number, .queue (.expired number) ∉ events) ∧
    (¬ final.Idle →
      ∃ event after, Step final event after ∧ Prompt final event ∧ event.arms = false) ∧
    events.length ≤ 7 * events.countP arms ∧
    (final.shared.waiting = none → ∀ number ∈ final.calls.submitted,
      number ∉ final.calls.inFlight → ∀ milliseconds,
      let waited := final.shared.queue.wait number milliseconds
      ∃ more last, Run Prompt {} (events ++ more) last ∧ last.shared.queue = waited.2 ∧
        (.queue (.returned number waited.1) ∈ more ∨
          .queue (.expired number) ∈ more ∧ waited.1 = .error (.timeout milliseconds))) := by
  refine ⟨fun idle => ⟨fun served => ⟨?_, fun early hearly => room_of_served run served hearly⟩,
    fun inTurn => served_of_inTurn run idle inTurn⟩, fun inTurn => (fair_of_run run inTurn).intime,
    exists_step run, ?_, ?_⟩
  · exact order_of_served run idle served ▸ List.prefix_refl _
  · have hlength := length_le_of_run run
    omega
  · intro hfree number hsubmitted hcompleted milliseconds
    obtain ⟨⟨queue, uncalled, waiting⟩, calls⟩ := final
    obtain rfl : waiting = none := hfree
    obtain ⟨more, overdue, hwait, -, hended⟩ := run_wait (letsWait_prompt hcompleted) hsubmitted
      milliseconds queue uncalled
    exact ⟨more, _, run.append hwait, rfl, hended⟩

/-- Two callers whose submissions have been accepted one after the other and completed in that
    order. -/
def bothCompleted : List (Occurrence Nat) :=
  [.queue (.armed 1), .accepted 1, .queue (.armed 2), .accepted 2, .queue (.completed 1 (.ok 10)),
    .queue (.completed 2 (.ok 20))]

theorem run_bothCompleted : Run Prompt {} bothCompleted
    ⟨⟨⟨2, [(1, .ok 10), (2, .ok 20)]⟩, [], none⟩, ⟨[], [1, 2], [], false⟩⟩ := by
  have h : Run Prompt ({} : Traffic Nat) [] {} := .nil
  have h := h.snoc (.queue (.arm ..) trivial) trivial
  have h := h.snoc (.accept _ List.mem_cons_self) trivial
  have h := h.snoc (.queue (.arm ..) trivial) trivial
  have h := h.snoc (.accept _ List.mem_cons_self) trivial
  have h := h.snoc (.queue (.complete _ _ (.ok 10) (show 1 ∈ [2, 1] by decide))
    (show 1 ∈ [1, 2] by decide)) rfl
  exact h.snoc (.queue (.complete _ _ (.ok 20) (show 2 ∈ [2] by decide))
    (show 2 ∈ [2] by decide)) rfl

/-- The caller who has submitted first waits first. -/
def inTurnEvents : List (Occurrence Nat) :=
  [.queue (.entered 1), .queue (.returned 1 (.ok 10)), .queue (.entered 2),
    .queue (.returned 2 (.ok 20))]

theorem served_of_inTurnEvents : Served (bothCompleted ++ inTurnEvents) := by
  have h := run_bothCompleted
  have h := h.snoc (.queue (.enter _ _ 1) (show 1 ∈ [1, 2] by decide)) trivial
  have h := h.snoc (.queue (.collect ..) trivial) trivial
  have h := h.snoc (.queue (.enter _ _ 2) (show 2 ∈ [2] by decide)) trivial
  have h := h.snoc (.queue (.collect ..) trivial) trivial
  refine ((served_iff_inTurn h).1 ⟨rfl, rfl, rfl⟩).mpr ⟨by decide, fun early hearly => ?_⟩
  have hcompleted : _ ≤ 2 := (hearly.filterMap completed?).length_le
  exact Nat.le_trans hcompleted (Nat.le_trans (by decide) (Nat.le_add_left depth _))

/-- The caller who has submitted second waits first. -/
def overtakenEvents : List (Occurrence Nat) :=
  [.queue (.entered 2), .queue (.discarded 2 1), .queue (.returned 2 (.ok 20)),
    .queue (.entered 1), .overdue 1, .queue (.expired 1)]

/-- The first submission completes promptly and first, but its call times out. -/
theorem not_served_of_overtaken :
    (∃ final, Run Prompt {} (bothCompleted ++ overtakenEvents) final ∧ final.Idle ∧
      ¬ Served (bothCompleted ++ overtakenEvents)) ∧
    let queue := (({} : CompletionQueue Nat).arm.2.arm.2.complete 1 (.ok 10)).complete 2 (.ok 20)
    (queue.wait 2 20).1 = .ok 20 ∧ ((queue.wait 2 20).2.wait 1 20).1 = .error (.timeout 20) := by
  refine ⟨?_, rfl, rfl⟩
  have h := run_bothCompleted
  have h := h.snoc (.queue (.enter _ _ 2) (show 2 ∈ [1, 2] by decide)) trivial
  have h := h.snoc (.queue (.discard _ _ _ _ (by decide)) trivial) trivial
  have h := h.snoc (.queue (.collect ..) trivial) trivial
  have h := h.snoc (.queue (.enter _ _ 1) (show 1 ∈ [1] by decide)) trivial
  have h := h.snoc (.pass rfl rfl) (show 1 ∉ [] from List.not_mem_nil)
  have h := h.snoc (.queue (.expire ..) ⟨rfl, rfl⟩) trivial
  refine ⟨_, h, ⟨rfl, rfl, rfl⟩, fun served => ?_⟩
  obtain ⟨result, -, hreturned⟩ := served 1 (by decide)
  simp [bothCompleted, overtakenEvents] at hreturned

end TensorLink.CompletionQueue.Traffic

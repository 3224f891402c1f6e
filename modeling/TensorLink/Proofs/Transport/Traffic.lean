import Mathlib.Data.List.Nodup
import TensorLink.Proofs.Transport.Interleaving

/-!
# Traffic on a pipe

The callers of a completion queue, the transport that they submit to, and the clock. A caller gets a
number, submits under it, waits for the receiving end if the submission is accepted, and takes
completions until its own comes, or until its deadline has passed and nothing is queued. The
transport completes what it has accepted when it likes. The events at the queue are those of the
queue alone; here is also kept how far each call has come.

A rule says what may happen in a state, and a run of traffic is a run by a rule.

Results:
* `Run.shared`: a run of traffic is a run of its queue.
* `ledger_of_run`: which submissions are under way, and where every number stands.
* `ended_unique`: a call ends once.
* `run_collect`, `run_wait`: a wait that nothing comes between is a course of traffic.
* `not_returned_of_lost`: a completion that is gone is never returned.
* `length_le_of_run`: a run with `n` calls has at most `7 n` occurrences.
-/

namespace TensorLink.CompletionQueue

variable {α : Type}

/-- What happens on a pipe. -/
inductive Occurrence (α : Type) where
  /-- Something happens at the queue. A completion that is given up belongs to a submission that
      the transport refuses. -/
  | queue (event : Event α)
  /-- The transport accepts a submission. -/
  | accepted (number : Nat)
  /-- The deadline of the caller with the receiving end passes. -/
  | overdue (number : Nat)

/-- How far the calls on a pipe have come. -/
structure Calls where
  /-- The calls that have a number and have not submitted yet. -/
  armed : List Nat := []
  /-- The calls that have submitted and do not have the receiving end yet. -/
  submitted : List Nat := []
  /-- The submissions that the transport has accepted and not completed, oldest first. -/
  inFlight : List Nat := []
  /-- Whether the deadline of the caller with the receiving end has passed. -/
  overdue : Bool := false

namespace Calls

/-- What has to be the case for an event at the queue, apart from what the queue itself demands. -/
def Permits (calls : Calls) (queued : List (Nat × Except DriverError α)) : Event α → Prop
  | .completed number _ => number ∈ calls.inFlight
  | .abandoned number => number ∈ calls.armed
  | .entered number => number ∈ calls.submitted
  | .expired _ => calls.overdue = true ∧ queued = []
  | _ => True

/-- The calls after an event at the queue. -/
def follow (calls : Calls) : Event α → Calls
  | .armed number => { calls with armed := number :: calls.armed }
  | .completed number _ => { calls with inFlight := calls.inFlight.erase number }
  | .abandoned number => { calls with armed := calls.armed.erase number }
  | .entered number =>
    { calls with submitted := calls.submitted.erase number, overdue := false }
  | _ => calls

/-- The calls after a submission has been accepted. -/
def accept (calls : Calls) (number : Nat) : Calls :=
  { calls with
    armed := calls.armed.erase number
    submitted := calls.submitted ++ [number]
    inFlight := calls.inFlight ++ [number] }

end Calls

/-- A queue with its callers, and how far their calls have come. -/
structure Traffic (α : Type) where
  shared : Shared α := {}
  calls : Calls := {}

namespace Traffic

/-- No call is under way. -/
structure Idle (traffic : Traffic α) : Prop where
  armed : traffic.calls.armed = []
  submitted : traffic.calls.submitted = []
  waiting : traffic.shared.waiting = none

/-- What can happen next, and what it leads to. -/
inductive Step : Traffic α → Occurrence α → Traffic α → Prop where
  | queue {shared after : Shared α} {event : Event α} {calls : Calls}
      (step : CompletionQueue.Step shared event after)
      (permitted : calls.Permits shared.queue.queued event) :
    Step ⟨shared, calls⟩ (.queue event) ⟨after, calls.follow event⟩
  | accept {number : Nat} {calls : Calls} (shared : Shared α) (harmed : number ∈ calls.armed) :
    Step ⟨shared, calls⟩ (.accepted number) ⟨shared, calls.accept number⟩
  | pass {number : Nat} {shared : Shared α} {calls : Calls}
      (hwaiting : shared.waiting = some number) (hearly : calls.overdue = false) :
    Step ⟨shared, calls⟩ (.overdue number) ⟨shared, { calls with overdue := true }⟩

/-- A sequence of occurrences that a rule allows, oldest first, and what it leads to. -/
inductive Run (rule : Traffic α → Occurrence α → Prop) (start : Traffic α) :
    List (Occurrence α) → Traffic α → Prop where
  | nil : Run rule start [] start
  | snoc {events : List (Occurrence α)} {before after : Traffic α} {event : Occurrence α}
      (run : Run rule start events before) (step : Step before event after)
      (allowed : rule before event) : Run rule start (events ++ [event]) after

end Traffic

/-- What a transport has to do with a submission. -/
inductive Transit where
  | accepted (number : Nat)
  | completed (number : Nat)
  deriving DecidableEq, Repr

/-! ## Numbers in a run -/

namespace Occurrence

def transit? : Occurrence α → Option Transit
  | accepted number => some (.accepted number)
  | queue (.completed number _) => some (.completed number)
  | _ => none

def queue? : Occurrence α → Option (Event α)
  | queue event => some event
  | _ => none

def accepted? : Occurrence α → Option Nat
  | accepted number => some number
  | _ => none

def completed? : Occurrence α → Option Nat
  | queue (.completed number _) => some number
  | _ => none

def entered? : Occurrence α → Option Nat
  | queue (.entered number) => some number
  | _ => none

/-- The number of the completion that is taken from the queue. -/
def taken? : Occurrence α → Option Nat
  | queue (.discarded _ other) => some other
  | queue (.returned number _) => some number
  | _ => none

/-- The number of the wait that ends. -/
def ended? : Occurrence α → Option Nat
  | queue (.returned number _) => some number
  | queue (.expired number) => some number
  | _ => none

/-- What a call does from when it gets the receiving end until it ends. -/
def Waits (number : Nat) : Occurrence α → Prop
  | queue (.entered other) => other = number
  | queue (.discarded waiter _) => waiter = number
  | queue (.returned other _) => other = number
  | queue (.expired other) => other = number
  | overdue other => other = number
  | _ => False

/-- Whether a number is handed out. -/
def arms : Occurrence α → Bool
  | queue (.armed _) => true
  | _ => false

end Occurrence

namespace Occurrence

@[simp] theorem accepted?_queue (event : Event α) : accepted? (queue event) = none := rfl

@[simp] theorem accepted?_overdue (number : Nat) :
    accepted? (overdue number : Occurrence α) = none := rfl

@[simp] theorem completed?_accepted (number : Nat) :
    completed? (accepted number : Occurrence α) = none := rfl

end Occurrence

open Occurrence

theorem filterMap_snoc {β γ : Type} (pick : β → Option γ) (l : List β) (b : β) :
    (l ++ [b]).filterMap pick = l.filterMap pick ++ (pick b).toList := by
  rw [List.filterMap_append]
  cases h : pick b <;> simp [h]

namespace Traffic

variable {rule : Traffic α → Occurrence α → Prop} {start before after final : Traffic α}
  {events : List (Occurrence α)} {event : Occurrence α}

/-- A run of traffic is a run of its queue. -/
theorem Run.shared (run : Run rule start events final) :
    CompletionQueue.Run start.shared (events.filterMap queue?) final.shared := by
  induction run with
  | nil => exact .nil
  | snoc run step allowed ih =>
    rw [filterMap_snoc]
    cases step with
    | queue step permitted => exact ih.snoc step
    | accept => exact (List.append_nil _).symm ▸ ih
    | pass => exact (List.append_nil _).symm ▸ ih

/-- Where the numbers of a run stand. -/
structure Ledger (events : List (Occurrence α)) (traffic : Traffic α) : Prop where
  /-- Numbers are handed out in order. -/
  known : ∀ number ∈ traffic.calls.armed ++ events.filterMap accepted?,
    number ≤ traffic.shared.queue.last
  /-- Each number is submitted once. -/
  nodup : (traffic.calls.armed ++ events.filterMap accepted?).Nodup
  /-- A completion can be called as long as its submission has not been refused or completed. -/
  uncalled : traffic.shared.uncalled.Perm (traffic.calls.armed ++ traffic.calls.inFlight)
  /-- What has been accepted has been completed or is in flight. -/
  completed : (events.filterMap accepted?).Perm
    (events.filterMap completed? ++ traffic.calls.inFlight)
  /-- Completions are taken in the order in which they came, apart from those that have met a full
      queue. -/
  taken : (events.filterMap taken? ++ traffic.shared.queue.queued.map (·.1)).Sublist
    (events.filterMap completed?)
  /-- The callers of accepted submissions have had the receiving end, or have yet to get it. -/
  submitted : (events.filterMap accepted?).Perm
    (events.filterMap entered? ++ traffic.calls.submitted)
  /-- One wait ends before the next one begins. -/
  entered : events.filterMap entered? =
    events.filterMap ended? ++ traffic.shared.waiting.toList
  bounded : traffic.shared.queue.queued.length ≤ depth

theorem ledger_nil : Ledger [] ({} : Traffic α) where
  known _ hnumber := absurd hnumber List.not_mem_nil
  nodup := List.nodup_nil
  uncalled := .refl _
  completed := .refl _
  taken := .refl _
  submitted := .refl _
  entered := rfl
  bounded := Nat.zero_le _

section

variable (ledger : Ledger events before) (step : Step before event after)
include ledger step

/-- A number that is armed stays armed or is submitted, unless it is refused. -/
theorem numbers_step :
    (after.calls.armed ++ (events ++ [event]).filterMap accepted?).Nodup ∧
      ∀ number ∈ after.calls.armed ++ (events ++ [event]).filterMap accepted?,
        number ≤ after.shared.queue.last := by
  have hknown := ledger.known
  have hnodup := ledger.nodup
  rw [filterMap_snoc]
  cases step with
  | @queue shared _ _ calls step permitted =>
    rw [accepted?_queue, Option.toList_none, List.append_nil]
    cases step with
    | arm queue uncalled waiting =>
      refine ⟨List.nodup_cons.mpr ⟨fun hmem => ?_, hnodup⟩, fun number hmem => ?_⟩
      · exact absurd (hknown _ hmem) (Nat.not_succ_le_self _)
      · obtain rfl | hmem := List.mem_cons.mp hmem
        · exact Nat.le_refl _
        · exact Nat.le_succ_of_le (hknown number hmem)
    | complete queue waiting result huncalled =>
      dsimp only
      rw [last_complete]
      exact ⟨hnodup, hknown⟩
    | @abandon number uncalled queue waiting huncalled =>
      have hsub := (List.erase_sublist : (calls.armed.erase number).Sublist _).append_right
        (events.filterMap accepted?)
      exact ⟨hnodup.sublist hsub, fun number hmem => hknown number (hsub.subset hmem)⟩
    | _ => exact ⟨hnodup, hknown⟩
  | @accept number calls shared harmed =>
    have hperm : ((calls.accept number).armed ++ (events.filterMap accepted? ++ [number])).Perm
        (calls.armed ++ events.filterMap accepted?) := by
      rw [← List.append_assoc]
      refine (List.perm_append_singleton _ _).trans ?_
      exact (List.perm_cons_erase harmed).symm.append_right _
    exact ⟨hperm.nodup_iff.mpr hnodup, fun other hmem => hknown other (hperm.mem_iff.mp hmem)⟩
  | pass =>
    rw [accepted?_overdue, Option.toList_none, List.append_nil]
    exact ⟨hnodup, hknown⟩

/-- An accepted submission is in flight until it is completed. -/
theorem completed_step :
    ((events ++ [event]).filterMap accepted?).Perm
      ((events ++ [event]).filterMap completed? ++ after.calls.inFlight) := by
  have hcompleted := ledger.completed
  rw [filterMap_snoc, filterMap_snoc]
  cases step with
  | queue step permitted =>
    rw [accepted?_queue, Option.toList_none, List.append_nil]
    cases step with
    | @complete number uncalled queue waiting result huncalled =>
      refine hcompleted.trans ?_
      rw [List.append_assoc]
      exact (List.perm_cons_erase permitted).append_left _
    | _ => simpa [completed?, Calls.follow] using hcompleted
  | @accept number calls shared harmed =>
    rw [completed?_accepted, Option.toList_none, List.append_nil]
    have hboth := hcompleted.append_right [number]
    rwa [List.append_assoc] at hboth
  | pass => simpa [completed?, accepted?] using hcompleted

/-- The completion of a submission is queued, or lost to a full queue, and taken later. -/
theorem taken_step :
    ((events ++ [event]).filterMap taken? ++ after.shared.queue.queued.map (·.1)).Sublist
        ((events ++ [event]).filterMap completed?) ∧
      after.shared.queue.queued.length ≤ depth := by
  have htaken := ledger.taken
  have hbounded := ledger.bounded
  rw [filterMap_snoc, filterMap_snoc]
  cases step with
  | queue step permitted =>
    cases step with
    | @complete number uncalled queue waiting result huncalled =>
      refine ⟨?_, length_complete_le queue number result hbounded⟩
      simp only [taken?, completed?, Option.toList_none, Option.toList_some, List.append_nil]
      unfold complete
      split
      · rw [List.map_append, ← List.append_assoc]
        exact htaken.append_right _
      · exact htaken.trans (List.sublist_append_left _ _)
    | discard last result rest uncalled hstale =>
      refine ⟨?_, Nat.le_of_succ_le hbounded⟩
      simpa [completed?, taken?] using htaken
    | collect last number result rest uncalled =>
      refine ⟨?_, Nat.le_of_succ_le hbounded⟩
      simpa [completed?, taken?] using htaken
    | _ => exact ⟨by simpa [completed?, taken?, arm] using htaken, hbounded⟩
  | _ => exact ⟨by simpa [completed?, taken?] using htaken, hbounded⟩

/-- A caller submits, gets the receiving end, and ends its wait before another one gets it. -/
theorem entered_step :
    ((events ++ [event]).filterMap accepted?).Perm
        ((events ++ [event]).filterMap entered? ++ after.calls.submitted) ∧
      (events ++ [event]).filterMap entered? =
        (events ++ [event]).filterMap ended? ++ after.shared.waiting.toList := by
  have hsubmitted := ledger.submitted
  have hentered := ledger.entered
  simp only [filterMap_snoc]
  cases step with
  | queue step permitted =>
    cases step with
    | enter queue uncalled number =>
      refine ⟨?_, ?_⟩
      · simp only [accepted?, entered?, Option.toList_none, Option.toList_some, List.append_nil]
        refine hsubmitted.trans ?_
        rw [List.append_assoc]
        exact (List.perm_cons_erase permitted).append_left _
      · simpa [entered?, ended?] using hentered
    | _ => exact ⟨by simpa [entered?, Calls.follow] using hsubmitted,
        by simpa [entered?, ended?] using hentered⟩
  | @accept number calls shared harmed =>
    refine ⟨?_, by simpa [entered?, ended?] using hentered⟩
    have hboth := hsubmitted.append_right [number]
    rw [List.append_assoc] at hboth
    simpa [accepted?, entered?, Calls.accept] using hboth
  | pass =>
    exact ⟨by simpa [accepted?, entered?] using hsubmitted,
      by simpa [entered?, ended?] using hentered⟩

/-- A completion that may be called belongs to a number that is armed or in flight. -/
theorem uncalled_step :
    after.shared.uncalled.Perm (after.calls.armed ++ after.calls.inFlight) := by
  have huncalled := ledger.uncalled
  cases step with
  | @queue shared _ _ calls step permitted =>
    cases step with
    | arm queue uncalled waiting => exact huncalled.cons _
    | @complete number uncalled queue waiting result _ =>
      have hflight : number ∈ calls.inFlight := permitted
      have haccepted := ledger.completed.mem_iff.mpr (List.mem_append_right _ hflight)
      -- An accepted number is not armed any more.
      have harmed : number ∉ calls.armed := fun harmed =>
        List.disjoint_of_nodup_append ledger.nodup harmed haccepted
      have herase := huncalled.erase number
      rwa [List.erase_append_right _ harmed] at herase
    | @abandon number uncalled queue waiting _ =>
      have harmed : number ∈ calls.armed := permitted
      have herase := huncalled.erase number
      rwa [List.erase_append_left _ harmed] at herase
    | _ => exact huncalled
  | @accept number calls shared harmed =>
    refine huncalled.trans (((List.perm_cons_erase harmed).append_right _).trans ?_)
    refine List.Perm.trans ?_ (List.Perm.of_eq (List.append_assoc _ calls.inFlight [number]))
    exact (List.perm_append_singleton number _).symm
  | pass => exact huncalled

/-- **Step.** Every occurrence keeps the ledger in order. -/
theorem ledger_step : Ledger (events ++ [event]) after where
  known := (numbers_step ledger step).2
  nodup := (numbers_step ledger step).1
  uncalled := uncalled_step ledger step
  completed := completed_step ledger step
  taken := (taken_step ledger step).1
  submitted := (entered_step ledger step).1
  entered := (entered_step ledger step).2
  bounded := (taken_step ledger step).2

end

/-- **Run.** The ledger of every run is in order. -/
theorem ledger_of_run (run : Run rule {} events final) : Ledger events final := by
  induction run with
  | nil => exact ledger_nil
  | snoc run step _ ih => exact ledger_step ih step

/-- A course that goes on after another one. -/
theorem Run.append {late : List (Occurrence α)} (run : Run rule start events before)
    (later : Run rule before late final) : Run rule start (events ++ late) final := by
  induction later with
  | nil => rwa [List.append_nil]
  | snoc later step allowed ih =>
    rw [← List.append_assoc]
    exact ih.snoc step allowed

/-- A course, cut in two. -/
theorem Run.split {late : List (Occurrence α)} (run : Run rule start (events ++ late) final) :
    ∃ mid, Run rule start events mid ∧ Run rule mid late final := by
  generalize hall : events ++ late = all at run
  induction run generalizing late with
  | nil =>
    obtain ⟨rfl, rfl⟩ := List.append_eq_nil_iff.mp hall
    exact ⟨start, .nil, .nil⟩
  | @snoc all before after last run step allowed ih =>
    obtain rfl | ⟨late, other, rfl⟩ := List.eq_nil_or_concat late
    · rw [List.append_nil] at hall
      exact ⟨after, hall ▸ run.snoc step allowed, .nil⟩
    · rw [List.concat_eq_append, ← List.append_assoc] at hall
      obtain ⟨hinit, hlast⟩ := List.append_inj' hall rfl
      obtain rfl : other = last := List.singleton_inj.mp hlast
      obtain ⟨mid, hearly, hlate⟩ := ih hinit
      exact ⟨mid, hearly, by rw [List.concat_eq_append]; exact hlate.snoc step allowed⟩

theorem Run.single (step : Step before event after) (allowed : rule before event) :
    Run rule before [event] after :=
  Run.nil.snoc step allowed

/-! ## Where a number stands -/

section

variable {number : Nat}

theorem Ledger.nodup_completed (ledger : Ledger events final) :
    (events.filterMap completed? ++ final.calls.inFlight).Nodup :=
  ledger.completed.nodup_iff.mp (List.nodup_append'.mp ledger.nodup).2.1

theorem Ledger.nodup_entered (ledger : Ledger events final) :
    (events.filterMap entered? ++ final.calls.submitted).Nodup :=
  ledger.submitted.nodup_iff.mp (List.nodup_append'.mp ledger.nodup).2.1

theorem Ledger.accepted_of_inFlight (ledger : Ledger events final)
    (hflight : number ∈ final.calls.inFlight) : number ∈ events.filterMap accepted? :=
  ledger.completed.mem_iff.mpr (List.mem_append_right _ hflight)

theorem Ledger.not_completed_of_inFlight (ledger : Ledger events final)
    (hflight : number ∈ final.calls.inFlight) : number ∉ events.filterMap completed? :=
  fun hcompleted => List.disjoint_of_nodup_append ledger.nodup_completed hcompleted hflight

/-- What is taken has been completed. -/
theorem Ledger.completed_of_taken (ledger : Ledger events final)
    (htaken : number ∈ events.filterMap taken?) : number ∈ events.filterMap completed? :=
  ledger.taken.subset (List.mem_append_left _ htaken)

theorem mem_ended_iff : number ∈ events.filterMap ended? ↔
    .queue (.expired number) ∈ events ∨ ∃ result, .queue (.returned number result) ∈ events := by
  rw [List.mem_filterMap]
  constructor
  · rintro ⟨event, hevent, hended⟩
    unfold ended? at hended
    split at hended
    · cases hended
      exact .inr ⟨_, hevent⟩
    · cases hended
      exact .inl hevent
    · cases hended
  · rintro (hevent | ⟨result, hevent⟩)
    · exact ⟨_, hevent, rfl⟩
    · exact ⟨_, hevent, rfl⟩

/-- What is in flight is still waited for, or its caller has given up. -/
theorem Ledger.waited_of_inFlight (ledger : Ledger events final)
    (hflight : number ∈ final.calls.inFlight) :
    number ∈ final.calls.submitted ∨ final.shared.waiting = some number ∨
      .queue (.expired number) ∈ events := by
  obtain hentered | hsubmitted := List.mem_append.mp
    (ledger.submitted.mem_iff.mp (ledger.accepted_of_inFlight hflight))
  · rw [ledger.entered] at hentered
    obtain hended | hwaiting := List.mem_append.mp hentered
    · obtain hexpired | ⟨result, hreturned⟩ := mem_ended_iff.mp hended
      · exact .inr (.inr hexpired)
      · have htaken : number ∈ events.filterMap taken? :=
          List.mem_filterMap.mpr ⟨_, hreturned, rfl⟩
        exact absurd (ledger.completed_of_taken htaken) (ledger.not_completed_of_inFlight hflight)
    · exact .inr (.inl (Option.mem_toList.mp hwaiting))
  · exact .inl hsubmitted

/-- Of the elements that a list of values without repetitions is picked from, no two give the same
    value. -/
theorem eq_of_nodup_filterMap {β γ : Type} {pick : β → Option γ} {l : List β} {b b' : β} {c : γ}
    (hnodup : (l.filterMap pick).Nodup) (hb : b ∈ l) (hb' : b' ∈ l) (hpick : pick b = some c)
    (hpick' : pick b' = some c) : b = b' := by
  induction l with
  | nil => cases hb
  | cons first rest ih =>
    have hlater : ∀ b ∈ rest, pick first = some c → pick b = some c → False := by
      intro b hb hfirst hpick
      rw [List.filterMap_cons_some hfirst, List.nodup_cons] at hnodup
      exact hnodup.1 (List.mem_filterMap.mpr ⟨b, hb, hpick⟩)
    have hrest : (rest.filterMap pick).Nodup := by
      rw [List.filterMap_cons] at hnodup
      split at hnodup
      · exact hnodup
      · exact hnodup.of_cons
    obtain rfl | hmem := List.mem_cons.mp hb
    · obtain rfl | hmem' := List.mem_cons.mp hb'
      · rfl
      · exact (hlater b' hmem' hpick hpick').elim
    · obtain rfl | hmem' := List.mem_cons.mp hb'
      · exact (hlater b hmem hpick' hpick).elim
      · exact ih hrest hmem hmem'

/-- A call ends once, in one way. -/
theorem ended_unique (run : Run rule {} events final) {event event' : Occurrence α}
    (hevent : event ∈ events) (hevent' : event' ∈ events) (hended : event.ended? = some number)
    (hended' : event'.ended? = some number) : event = event' := by
  have ledger := ledger_of_run run
  have hnodup := (List.nodup_append'.mp ledger.nodup_entered).1
  rw [ledger.entered] at hnodup
  exact eq_of_nodup_filterMap (List.nodup_append'.mp hnodup).1 hevent hevent' hended hended'

/-- A result that is returned has been passed to the completion of its number. -/
theorem Run.completed_of_returned (run : Run rule {} events final)
    {result : Except DriverError α} (hreturned : .queue (.returned number result) ∈ events) :
    .queue (.completed number result) ∈ events := by
  have hqueue : .returned number result ∈ events.filterMap queue? :=
    List.mem_filterMap.mpr ⟨_, hreturned, rfl⟩
  have hrun := run.shared
  obtain ⟨early, late, hsplit⟩ := List.append_of_mem hqueue
  rw [hsplit] at hrun
  have hcompleted : .completed number result ∈ events.filterMap queue? :=
    hsplit ▸ List.mem_append_left _ (CompletionQueue.completed_of_returned hrun)
  obtain ⟨event, hevent, hqueue⟩ := List.mem_filterMap.mp hcompleted
  cases event with
  | queue event => exact Option.some.inj hqueue ▸ hevent
  | _ => cases hqueue

/-- A completion that has been called and is not queued is gone: no wait returns it. -/
theorem not_returned_of_lost {late : List (Occurrence α)} (run : Run rule {} events before)
    (hcompleted : number ∈ events.filterMap completed?)
    (hgone : number ∉ before.shared.queue.queued.map (·.1)) (later : Run rule before late final) :
    number ∉ final.shared.queue.queued.map (·.1) ∧
      ∀ result, .queue (.returned number result) ∉ late := by
  induction later with
  | nil => exact ⟨hgone, fun _ => List.not_mem_nil⟩
  | @snoc late mid after event later step _ ih =>
    obtain ⟨hgone, hnever⟩ := ih
    have ledger := ledger_of_run (run.append later)
    have hcalled : number ∉ mid.calls.inFlight := fun hflight =>
      ledger.not_completed_of_inFlight hflight <| by
        rw [List.filterMap_append]
        exact List.mem_append_left _ hcompleted
    simp only [List.mem_append, List.mem_singleton, not_or]
    cases step with
    | queue step permitted =>
      cases step with
      | @complete other uncalled queue waiting result huncalled =>
        refine ⟨?_, fun result => ⟨hnever result, nofun⟩⟩
        have hother : number ≠ other := fun h => hcalled (h ▸ permitted)
        unfold complete
        split
        · simpa [hother] using hgone
        · exact hgone
      | discard last result rest uncalled hstale =>
        exact ⟨fun h => hgone (List.mem_cons_of_mem _ h), fun result => ⟨hnever result, nofun⟩⟩
      | collect last other result rest uncalled =>
        refine ⟨fun h => hgone (List.mem_cons_of_mem _ h), fun result => ⟨hnever result, ?_⟩⟩
        rintro ⟨⟩
        exact hgone List.mem_cons_self
      | _ => exact ⟨hgone, fun result => ⟨hnever result, nofun⟩⟩
    | _ => exact ⟨hgone, fun result => ⟨hnever result, nofun⟩⟩

/-- A wait expires only after its deadline has passed. -/
theorem overdue_of_expired (run : Run rule {} events final) :
    (∀ number, .queue (.expired number) ∈ events → .overdue number ∈ events) ∧
      (final.calls.overdue = true → ∀ number, final.shared.waiting = some number →
        .overdue number ∈ events) := by
  induction run with
  | nil => exact ⟨fun _ hmem => absurd hmem List.not_mem_nil, nofun⟩
  | @snoc events mid after event run step _ ih =>
    obtain ⟨hexpired, hoverdue⟩ := ih
    simp only [List.mem_append, List.mem_singleton]
    cases step with
    | queue step permitted =>
      cases step with
      | enter queue uncalled number =>
        exact ⟨fun number hmem => .inl (hexpired number (hmem.resolve_right nofun)), nofun⟩
      | expire queue uncalled number =>
        refine ⟨fun other hmem => .inl ?_, nofun⟩
        obtain hmem | ⟨⟨⟩⟩ := hmem
        · exact hexpired other hmem
        · exact hoverdue permitted.1 number rfl
      | collect =>
        exact ⟨fun number hmem => .inl (hexpired number (hmem.resolve_right nofun)), nofun⟩
      | _ =>
        exact ⟨fun number hmem => .inl (hexpired number (hmem.resolve_right nofun)),
          fun hlate number hwaiting => .inl (hoverdue hlate number hwaiting)⟩
    | accept =>
      exact ⟨fun number hmem => .inl (hexpired number (hmem.resolve_right nofun)),
        fun hlate number hwaiting => .inl (hoverdue hlate number hwaiting)⟩
    | pass hwaiting hearly =>
      refine ⟨fun number hmem => .inl (hexpired number (hmem.resolve_right nofun)),
        fun _ number hsome => .inr ?_⟩
      cases hwaiting.symm.trans hsome
      rfl

end

/-! ## Waits -/

/-- A rule that lets a call come to its end as long as nothing is submitted or completed. -/
def LetsWait (rule : Traffic α → Occurrence α → Prop) (number : Nat) (inFlight : List Nat) : Prop :=
  ∀ (traffic : Traffic α) (event : Occurrence α), traffic.calls.inFlight = inFlight →
    event.Waits number → rule traffic event

section

variable {number : Nat} {calls : Calls} (hlets : LetsWait rule number calls.inFlight)
include hlets

/-- A caller with the receiving end who takes completions until its own comes or nothing is queued
    and the deadline has passed. -/
theorem run_collect (milliseconds last : Nat) (uncalled : List Nat) (overdue : Bool)
    (queued : List (Nat × Except DriverError α)) :
    let collected := collect number milliseconds queued
    ∃ events late, Run rule
        ⟨⟨⟨last, queued⟩, uncalled, some number⟩, { calls with overdue }⟩ events
        ⟨⟨⟨last, collected.2⟩, uncalled, none⟩, { calls with overdue := late }⟩ ∧
      events.filterMap transit? = [] ∧
      (.queue (.returned number collected.1) ∈ events ∨
        .queue (.expired number) ∈ events ∧ collected.1 = .error (.timeout milliseconds)) := by
  induction queued with
  | nil =>
    have hexpire : Run rule
        ⟨⟨⟨last, []⟩, uncalled, some number⟩, { calls with overdue := true }⟩
        [.queue (.expired number : Event α)] ⟨⟨⟨last, []⟩, uncalled, none⟩, _⟩ :=
      .single (.queue (.expire ..) ⟨rfl, rfl⟩) (hlets _ _ rfl rfl)
    cases overdue with
    | true => exact ⟨_, true, hexpire, rfl, .inr ⟨List.mem_singleton_self _, rfl⟩⟩
    | false =>
      have hpass : Run rule
          ⟨⟨⟨last, []⟩, uncalled, some number⟩, { calls with overdue := false }⟩
          [(.overdue number : Occurrence α)] _ := .single (.pass rfl rfl) (hlets _ _ rfl rfl)
      exact ⟨_, true, hpass.append hexpire, rfl,
        .inr ⟨List.mem_append_right _ (List.mem_singleton_self _), rfl⟩⟩
  | cons entry rest ih =>
    obtain ⟨other, result⟩ := entry
    by_cases hnumber : other = number
    · subst hnumber
      simp only [collect, if_true]
      exact ⟨_, overdue, .single (.queue (.collect ..) trivial) (hlets _ _ rfl rfl), rfl,
        .inl (List.mem_singleton_self _)⟩
    · simp only [collect, hnumber, if_false]
      obtain ⟨events, late, hrun, hsilent, hended⟩ := ih
      have hdiscard := Run.single (.queue (.discard _ result rest uncalled hnumber) trivial)
        (hlets ⟨⟨⟨last, _⟩, _, _⟩, { calls with overdue }⟩ _ rfl rfl)
      exact ⟨_, late, hdiscard.append hrun, hsilent,
        hended.imp (List.mem_cons_of_mem _) (And.imp_left (List.mem_cons_of_mem _))⟩

/-- A wait, as a course of traffic. -/
theorem run_wait (hsubmitted : number ∈ calls.submitted) (milliseconds : Nat)
    (queue : CompletionQueue α) (uncalled : List Nat) :
    let waited := queue.wait number milliseconds
    ∃ events overdue, Run rule ⟨⟨queue, uncalled, none⟩, calls⟩ events
        ⟨⟨waited.2, uncalled, none⟩,
          { calls with submitted := calls.submitted.erase number, overdue }⟩ ∧
      events.filterMap transit? = [] ∧
      (.queue (.returned number waited.1) ∈ events ∨
        .queue (.expired number) ∈ events ∧ waited.1 = .error (.timeout milliseconds)) := by
  have henter := Run.single (.queue (.enter queue uncalled number) hsubmitted)
    (hlets ⟨_, calls⟩ _ rfl rfl)
  obtain ⟨events, overdue, hrun, hsilent, hended⟩ := run_collect
    (show LetsWait rule number (calls.follow (.entered number : Event α)).inFlight from hlets)
    milliseconds queue.last uncalled false queue.queued
  exact ⟨_, overdue, henter.append hrun, hsilent,
    hended.imp (List.mem_cons_of_mem _) (And.imp_left (List.mem_cons_of_mem _))⟩

end

/-! ## How long a run can be -/

/-- How many occurrences a wait has still to come at most, apart from the completions it takes. -/
def waitPotential : Option Nat → Bool → Nat
  | none, _ => 0
  | some _, true => 1
  | some _, false => 2

/-- How many occurrences are still to come at most, without new calls. -/
def potential (traffic : Traffic α) : Nat :=
  6 * traffic.calls.armed.length + 3 * traffic.calls.submitted.length +
    2 * traffic.calls.inFlight.length + traffic.shared.queue.queued.length +
    waitPotential traffic.shared.waiting traffic.calls.overdue

/-- Every occurrence but the start of a call uses up some of what is to come. -/
theorem potential_step (step : Step before event after) :
    after.potential + 1 ≤ before.potential + if event.arms then 7 else 0 := by
  unfold potential
  cases step with
  | @queue shared _ _ calls step permitted =>
    cases step with
    | arm queue uncalled waiting =>
      simp only [arms, if_true, Calls.follow, arm, List.length_cons]
      omega
    | @complete number uncalled queue waiting result huncalled =>
      have hflight := List.length_erase_add_one permitted
      have hqueued : (queue.complete number result).queued.length ≤ queue.queued.length + 1 := by
        unfold complete
        split
        · exact Nat.le_of_eq List.length_append
        · exact Nat.le_succ _
      simp only [Calls.follow]
      omega
    | @abandon number uncalled queue waiting huncalled =>
      have harmed := List.length_erase_add_one permitted
      simp only [Calls.follow]
      omega
    | enter queue uncalled number =>
      have hsubmitted := List.length_erase_add_one permitted
      simp only [Calls.follow, waitPotential]
      omega
    | discard last result rest uncalled hstale =>
      simp only [Calls.follow, List.length_cons]
      omega
    | collect last number result rest uncalled =>
      simp only [Calls.follow, List.length_cons, waitPotential]
      omega
    | expire queue uncalled number =>
      simp only [Calls.follow, permitted.1, waitPotential]
      omega
  | accept shared harmed =>
    have harmed := List.length_erase_add_one harmed
    simp only [Calls.accept, List.length_append, List.length_singleton]
    omega
  | pass hwaiting hearly =>
    simp only [hwaiting, hearly, waitPotential]
    omega

/-- A run with `n` calls has at most `7 n` occurrences. -/
theorem length_le_of_run (run : Run rule {} events final) :
    events.length + final.potential ≤ 7 * events.countP arms := by
  induction run with
  | nil => exact Nat.le_refl _
  | snoc run step _ ih =>
    have hpays := potential_step step
    rw [List.length_append, List.length_singleton, List.countP_append, List.countP_singleton]
    split
    · next harms =>
      rw [if_pos harms] at hpays
      omega
    · next harms =>
      rw [if_neg harms] at hpays
      omega

end Traffic

end TensorLink.CompletionQueue

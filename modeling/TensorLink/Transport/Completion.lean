import TensorLink.Error

/-!
# Waiting for completions

A transfer is submitted now and completes later. Whoever waits numbers its submissions; a completion
is queued under the number of its submission, and a wait takes the completion with its own number,
dropping the stale ones before it. The queue holds four completions; one that meets a full queue is
lost.

Reference: `edgetpu-driver`, `transport`; SPEC_FULL 4.0, completion bridging.

* `length_complete_le`: the queue never grows beyond its depth.
-/

namespace TensorLink

/-- What becomes of a submission at once. -/
inductive Submission (α : Type) where
  /-- It is not accepted and never completes. -/
  | refused (error : DriverError)
  /-- It is accepted; a completion, if any, comes later. -/
  | pending
  /-- It is accepted and completes before the submitter goes on. -/
  | completed (result : Except DriverError α)

/-- The completions that wait to be collected, oldest first, and the number of the last submission
(`CompletionChannel`). Numbers never come round again; a counter of 64 bits does so only after
`2 ^ 64` submissions. -/
structure CompletionQueue (α : Type) where
  last : Nat := 0
  queued : List (Nat × Except DriverError α) := []

namespace CompletionQueue

variable {α : Type}

/-- The number of completions that a queue holds (`COMPLETION_DEPTH`). -/
def depth : Nat := 4

/-- Numbers the next submission. -/
def arm (queue : CompletionQueue α) : Nat × CompletionQueue α :=
  (queue.last + 1, { queue with last := queue.last + 1 })

/-- Queues the completion of a submission, or loses it if the queue is full. -/
def complete (queue : CompletionQueue α) (number : Nat) (result : Except DriverError α) :
    CompletionQueue α :=
  if queue.queued.length < depth then
    { queue with queued := queue.queued ++ [(number, result)] }
  else queue

/-- Takes the completion of a submission from a list of completions, and all those before it. -/
def collect (number milliseconds : Nat) :
    List (Nat × Except DriverError α) → Except DriverError α × List (Nat × Except DriverError α)
  | [] => (.error (.timeout milliseconds), [])
  | (other, result) :: rest =>
    if other = number then (result, rest) else collect number milliseconds rest

/-- Waits for the completion of a submission: it is queued already or does not come in time. -/
def wait (queue : CompletionQueue α) (number milliseconds : Nat) :
    Except DriverError α × CompletionQueue α :=
  let (result, queued) := collect number milliseconds queue.queued
  (result, { queue with queued })

/-- Submits a transfer on something in state `τ` and waits for its completion (`transact`). -/
def transact {τ : Type} (queue : CompletionQueue α) (milliseconds : Nat)
    (submit : Nat → τ → Submission α × τ) (transport : τ) :
    Except DriverError α × CompletionQueue α × τ :=
  let (number, armed) := queue.arm
  match submit number transport with
  | (.refused error, transport) => (.error error, armed, transport)
  | (.pending, transport) =>
    let (result, queue) := armed.wait number milliseconds
    (result, queue, transport)
  | (.completed result, transport) =>
    let (result, queue) := (armed.complete number result).wait number milliseconds
    (result, queue, transport)

/-- The queue never grows beyond its depth. -/
theorem length_complete_le (queue : CompletionQueue α) (number : Nat)
    (result : Except DriverError α) (bounded : queue.queued.length ≤ depth) :
    (queue.complete number result).queued.length ≤ depth := by
  unfold complete
  split
  · simp only [List.length_append, List.length_singleton]; omega
  · exact bounded

end CompletionQueue

end TensorLink

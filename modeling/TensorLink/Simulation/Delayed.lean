import TensorLink.Transport.Link

/-!
# Transports that take their time

A transport that carries out one submission at a time, each after the same delay, for a submitter
who waits for so long and no longer. A submission that is not carried out in time stays pending. It
keeps its place, and is carried out when its turn comes, but then nobody waits for it any more.

Time is counted in microseconds and passes only while someone waits.

Reference: `edgetpu-driver`, `software`; SPEC_FULL 2, software transport.

* `submit_punctual`: without a backlog a submission is carried out, if its delay does not exceed the
  wait for it.
-/

namespace TensorLink.Simulation

/-- Something in state `τ` behind a transport that takes its time (`set_completion_delay`). -/
structure Delayed (τ : Type) where
  inner : τ
  /-- How long each submission takes. -/
  delay : Nat := 0
  /-- The time. -/
  clock : Nat := 0
  /-- When the first submission of the backlog is carried out; without a backlog, when the last one
  was. -/
  due : Nat := 0
  /-- What the submissions that nobody waits for any more will do, oldest first. -/
  backlog : List (τ → τ) := []

namespace Delayed

variable {κ τ α : Type}

/-- Carries out the submissions of a backlog that are due by a deadline. -/
def catchUp (deadline : Nat) : List (τ → τ) → Delayed τ → Delayed τ
  | [], delayed => { delayed with backlog := [] }
  | first :: rest, delayed =>
    if deadline < delayed.due then { delayed with backlog := first :: rest }
    else
      let next := if rest.isEmpty then delayed.due else delayed.due + delayed.delay
      catchUp deadline rest { delayed with inner := first delayed.inner, due := next }

/-- Submits something and waits for it for at most `patience`. -/
def submit (patience : Nat) (run : τ → Submission α × τ) (delayed : Delayed τ) :
    Submission α × Delayed τ :=
  let deadline := delayed.clock + patience
  let delayed := catchUp deadline delayed.backlog delayed
  let late := { delayed with clock := deadline, backlog := delayed.backlog ++ [fun t => (run t).2] }
  if delayed.backlog.isEmpty then
    let done := max delayed.clock delayed.due + delayed.delay
    if deadline < done then (.pending, { late with due := done })
    else
      let (submission, inner) := run delayed.inner
      (submission, { delayed with inner, clock := done, due := done })
  else (.pending, late)

/-- What the delays are put before, as a part. -/
def innerPart : Part (Delayed τ) τ := ⟨inner, fun inner delayed => { delayed with inner }⟩

/-- A transport that takes its time, for submitters with the given patience. -/
def transport (patience : κ → Nat) (transport : Transport κ τ) : Transport κ (Delayed τ) where
  openPipe endpoint := innerPart.focus (transport.openPipe endpoint)
  control label setup data := submit (patience label) (transport.control label setup data)
  bulkOut label address data := submit (patience label) (transport.bulkOut label address data)
  bulkIn label address size := submit (patience label) (transport.bulkIn label address size)

/-- The patience of a link, in microseconds. -/
def patience (config : DriverConfig) (ticket : Ticket) : Nat :=
  1000 * ticket.pipe.timeout config

/-- Without a backlog a submission is carried out, if its delay does not exceed the wait for it. -/
theorem submit_punctual {patience : Nat} (run : τ → Submission α × τ) {delayed : Delayed τ}
    (free : delayed.backlog = []) (idle : delayed.due ≤ delayed.clock)
    (punctual : delayed.delay ≤ patience) :
    submit patience run delayed =
      ((run delayed.inner).1,
        { delayed with
          inner := (run delayed.inner).2
          clock := delayed.clock + delayed.delay
          due := delayed.clock + delayed.delay
          backlog := [] }) := by
  have started : max delayed.clock delayed.due = delayed.clock := Nat.max_eq_left idle
  simp [submit, catchUp, free, started, punctual]

end Delayed

end TensorLink.Simulation

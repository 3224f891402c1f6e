import TensorLink.Inference.DataStream

/-!
# A stream of given replies

A data stream without a transport: it records its calls, fills buffers from a queue of octets, then
with zeros, and may be made to fail at one call.

* `length_receive`: a buffer keeps its size.
-/

namespace TensorLink.Simulation

/-- A call of a data stream. -/
inductive StreamCall where
  | send (tag : StreamTag) (data : Bytes)
  | receive (size : Nat)
  | readEvent
  deriving DecidableEq, Repr

/-- The state of the stream. -/
structure ReplyStream where
  /-- What buffers are filled with. -/
  replies : Bytes := []
  /-- The number of the call that fails, counted from 1. -/
  failing : Option Nat := none
  /-- The number of calls so far. -/
  count : Nat := 0
  /-- The calls since the record was last taken, the latest first. -/
  log : List StreamCall := []

namespace ReplyStream

/-- Records a call, and fails if it is the one to fail. -/
def note (call : StreamCall) : DeviceM ReplyStream Unit := do
  let stream ← get
  let number := stream.count + 1
  set { stream with count := number, log := call :: stream.log }
  if stream.failing = some number then throw (.transferFailed s!"call {number}")

/-- The event that ends every inference. -/
def event : EventRecord := ⟨0x10, 2, 3⟩

/-- Fills a buffer. -/
def receive (buffer : Bytes) (stream : ReplyStream) : Received × ReplyStream :=
  match note (.receive buffer.length) stream with
  | .error error stream => (⟨buffer, .error error⟩, stream)
  | .ok () stream =>
    (⟨stream.replies.resize buffer.length 0, .ok ()⟩,
      { stream with replies := stream.replies.drop buffer.length })

/-- The data stream over this state. -/
def stream : DataStream ReplyStream where
  send tag data := note (.send tag data)
  receive := receive
  readEvent := do
    note .readEvent
    return event

/-- The calls since the record was last taken, oldest first, and the stream with none recorded. -/
def takeLog (stream : ReplyStream) : List StreamCall × ReplyStream :=
  (stream.log.reverse, { stream with log := [] })

theorem length_receive (buffer : Bytes) (stream : ReplyStream) :
    (receive buffer stream).1.buffer.length = buffer.length := by
  unfold receive
  split
  · rfl
  · exact Bytes.length_resize ..

end ReplyStream

end TensorLink.Simulation

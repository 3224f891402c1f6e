import TensorLink.Inference.Session
import TensorLink.Proofs.Recording

/-!
# The calls of an invocation

An invocation over a recorded stream makes the same calls and ends in the same way as one over the
stream itself, and leaves the list of its calls.

Results:
* `invoke_recorded`: recording the calls of the stream does not change an invocation.
-/

namespace TensorLink.Session

open Sequencing

variable {σ : Type}

/-- The calls of the stream that an invocation makes. -/
def calls (stream : DataStream σ) (session : Session) (input : Bytes) (outputs : List Bytes)
    (state : σ) : List StreamCall :=
  (session.invoke stream.recorded input outputs { inner := state }).stream.calls

/-- A run of a recorded stream as one of the stream. -/
def forget (running : Running (Recorded σ StreamCall)) : Running σ :=
  ⟨running.outputs, running.stream.inner⟩

theorem projects_onStream {α : Type} {call' : DeviceM (Recorded σ StreamCall) α}
    {call : DeviceM σ α} (h : Projects Recorded.inner call' call) :
    Projects forget (onStream call') (onStream call) := by
  intro running
  have hcall : call (streamPart.look (forget running)) =
      project Recorded.inner (call' (streamPart.look running)) := h running.stream
  unfold onStream Part.focus
  rw [hcall]
  cases call' (streamPart.look running) <;> rfl

theorem projects_receiveOutput (stream : DataStream σ) (name : String) (size : Nat) :
    Projects forget (receiveOutput stream.recorded name size) (receiveOutput stream name size) := by
  intro running
  unfold receiveOutput
  rw [show (forget running).outputs = running.outputs from rfl]
  cases running.outputs.find? (·.layer.name == name) with
  | none => rfl
  | some output =>
    dsimp only
    split
    · rfl
    · rw [show (forget running).stream = running.stream.inner from rfl,
        show (stream.recorded.receive (output.scratch.take size) running.stream).1 =
          (stream.receive (output.scratch.take size) running.stream.inner).1 from rfl]
      cases (stream.receive (output.scratch.take size) running.stream.inner).1.outcome <;> rfl

theorem projects_perform (stream : DataStream σ) (executable : Executable) (input : Bytes)
    (hint : Hint) : Projects forget (perform stream.recorded executable input hint)
      (perform stream executable input hint) := by
  have hsend : ∀ tag data, Projects forget (onStream (stream.recorded.send tag data))
      (onStream (stream.send tag data)) :=
    fun tag data => projects_onStream (Recorded.projects_observe _ _)
  cases hint with
  | range description name offset size =>
    cases description with
    | parameter => exact (Projects.ofExcept _).bind fun data => hsend _ data
    | inputActivation => exact (Projects.ofExcept _).bind fun data => hsend _ data
    | outputActivation => exact projects_receiveOutput stream name size
    | scratchpad => exact Projects.pure ()
  | instruction chunk =>
    simp only [perform]
    cases executable.bitstreams[chunk]? with
    | none => exact Projects.throw _
    | some octets => exact hsend _ octets
  | other => exact Projects.pure ()

theorem projects_execute (stream : DataStream σ) (executable : Executable) (input : Bytes) :
    Projects forget (execute stream.recorded executable input)
      (execute stream executable input) := by
  refine (Projects.forM (projects_perform stream executable input) _).bind fun _ =>
    (projects_onStream (Recorded.projects_observe _ _)).bind fun event => ?_
  intro running
  exact (Projects.ofExcept (ofModel (running.outputs.mapM OutputBuffer.tensor))).bind
    (fun tensors => Projects.pure (event, tensors)) running

/-- Recording the calls of the stream does not change an invocation. -/
theorem invoke_recorded (stream : DataStream σ) (session : Session) (input : Bytes)
    (outputs : List Bytes) (state : Recorded σ StreamCall) :
    let recorded := session.invoke stream.recorded input outputs state
    session.invoke stream input outputs state.inner =
      ⟨recorded.outcome, recorded.session, recorded.outputs, recorded.stream.inner⟩ := by
  unfold invoke
  dsimp only
  split
  · rfl
  · rename_i staged _
    have h := projects_execute stream session.executable staged ⟨session.outputs, state⟩
    change execute stream session.executable staged ⟨session.outputs, state.inner⟩ = _ at h
    rw [h]
    cases execute stream.recorded session.executable staged ⟨session.outputs, state⟩ <;> rfl

end TensorLink.Session

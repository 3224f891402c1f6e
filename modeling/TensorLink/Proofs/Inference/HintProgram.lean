import TensorLink.Proofs.Inference.Independence

/-!
# The program of the hints

The hints of an executable are a program: each asks for one call of the stream or for none, and
after the last one an event is read. The program is known before the first call, from the
executable, the sizes of the scratches and the input as it is staged; it ends early at a hint that
speaks of octets that are not there. The stream sees the calls of the program, in order, up to the
first that fails.

Results:
* `scratchSizes_set_filled`: filling a scratch does not change the program.
* `performs_hints`: carrying out the hints is carrying out the program.
* `Performed.failsLast`, `Performed.refused_of_notMem`, `Performed.event_of_concat`: how a program
  ends.
* `invoke_follows_hints`: the calls of an invocation are those of its program.
-/

namespace TensorLink.Session

open Sequencing Simulation

variable {σ : Type}

/-! ## Specification -/

/-- A call that a program asks for. -/
inductive Request where
  | send (tag : StreamTag) (data : Bytes)
  /-- Receive so many octets into the start of the scratch of the output at a position. -/
  | receive (output size : Nat)
  | readEvent
  deriving DecidableEq

/-- The scratch of an output, by its name and size. -/
structure ScratchSize where
  name : String
  size : Nat

/-- The scratches of outputs. -/
def scratchSizes (outputs : List OutputBuffer) : List ScratchSize :=
  outputs.map fun output => ⟨output.layer.name, output.scratch.length⟩

/-- Whether the octets that a hint speaks of are there. -/
def isAddressed (executable : Executable) (scratches : List ScratchSize) (staged : Bytes) :
    Hint → Bool
  | .range .parameter _ offset size => offset + size ≤ executable.parameters.length
  | .range .inputActivation _ offset size => offset + size ≤ staged.length
  | .range .outputActivation name _ size =>
    (scratches.find? (·.name == name)).all (size ≤ ·.size)
  | .range .scratchpad .. => true
  | .instruction chunk => chunk < executable.bitstreams.length
  | .other _ => true

/-- The call that a hint asks for, if it asks for one. -/
def request? (executable : Executable) (scratches : List ScratchSize) (staged : Bytes) :
    Hint → Option Request
  | .range .parameter _ offset size =>
    some (.send .parameters ((executable.parameters.drop offset).take size))
  | .range .inputActivation _ offset size =>
    some (.send .inputActivations ((staged.drop offset).take size))
  | .range .outputActivation name _ size =>
    (scratches.findIdx? (·.name == name)).map (.receive · size)
  | .range .scratchpad .. => none
  | .instruction chunk => executable.bitstreams[chunk]?.map (.send .instructions)
  | .other _ => none

/-- The calls that hints ask for, up to the first hint that speaks of octets that are not there; if
    there is none, an event is read after the last hint. -/
def program (executable : Executable) (scratches : List ScratchSize) (staged : Bytes) :
    List Hint → List Request
  | [] => [.readEvent]
  | hint :: rest =>
    if isAddressed executable scratches staged hint then
      (request? executable scratches staged hint).toList ++
        program executable scratches staged rest
    else []

/-- How a program is carried out on outputs: the calls, the outputs that they leave, and what comes
    of it. A receive is given the start of a scratch and leaves it filled, also if it fails. A
    program that breaks off ends with an error of the protocol. -/
inductive Performed : List OutputBuffer → List Request → List StreamCall → List OutputBuffer →
    Except DriverError EventRecord → Prop where
  | sent {outputs outputs' : List OutputBuffer} {requests : List Request}
      {calls : List StreamCall} {result : Except DriverError EventRecord} (tag : StreamTag)
      (data : Bytes) (rest : Performed outputs requests calls outputs' result) :
      Performed outputs (.send tag data :: requests) (.send tag data (.ok ()) :: calls) outputs'
        result
  | sendFailed {outputs : List OutputBuffer} {requests : List Request} (tag : StreamTag)
      (data : Bytes) (error : DriverError) :
      Performed outputs (.send tag data :: requests) [.send tag data (.error error)] outputs
        (.error error)
  | received {outputs outputs' : List OutputBuffer} {requests : List Request}
      {calls : List StreamCall} {result : Except DriverError EventRecord} {i size : Nat}
      {output : OutputBuffer} {received : Received} (hi : outputs[i]? = some output)
      (hsize : received.buffer.length = size) (hok : received.outcome = .ok ())
      (rest : Performed (outputs.set i (filled output received.buffer)) requests calls outputs'
        result) :
      Performed outputs (.receive i size :: requests)
        (.receive (output.scratch.take size) received :: calls) outputs' result
  | receiveFailed {outputs : List OutputBuffer} {requests : List Request} {i size : Nat}
      {output : OutputBuffer} {received : Received} {error : DriverError}
      (hi : outputs[i]? = some output) (hsize : received.buffer.length = size)
      (herror : received.outcome = .error error) :
      Performed outputs (.receive i size :: requests)
        [.receive (output.scratch.take size) received]
        (outputs.set i (filled output received.buffer)) (.error error)
  | event {outputs : List OutputBuffer} (outcome : Except DriverError EventRecord) :
      Performed outputs [.readEvent] [.readEvent outcome] outputs outcome
  | refused {outputs : List OutputBuffer} (reason : String) :
      Performed outputs [] [] outputs (.error (.protocol reason))

/-- The program of a session for an input as it is staged. -/
def hintProgram (session : Session) (staged : Bytes) : List Request :=
  program session.executable (scratchSizes session.outputs) staged session.executable.hints

/-- Every hint of a session speaks of octets that are there. -/
def WellAddressed (session : Session) (staged : Bytes) : Prop :=
  ∀ hint ∈ session.executable.hints,
    isAddressed session.executable (scratchSizes session.outputs) staged hint = true

/-- The calls of an invocation are those of its program. -/
structure FollowsHints (session : Session) (staged : Bytes) (calls : List StreamCall)
    (final : Session) (outcome : Except DriverError EventRecord) : Prop where
  /-- The calls of the program are made in their order, and the outputs become tensors once the
  event has been read. -/
  performed : ∃ event, Performed session.outputs (session.hintProgram staged) calls final.outputs
      event ∧
    outcome = event.bind fun event =>
      (ofModel (final.outputs.mapM OutputBuffer.tensor)).map fun _ => event
  /-- A call that fails is the last, and its error is returned. -/
  stops : ∀ (before after : List StreamCall) (call : StreamCall) (error : DriverError),
    calls = before ++ call :: after → call.failure? = some error →
      after = [] ∧ outcome = .error error
  /-- If no call fails, a hint that speaks of octets that are not there ends the invocation. -/
  refused : (∀ call ∈ calls, call.failure? = none) → ¬session.WellAddressed staged →
    ∃ reason, outcome = .error (.protocol reason)
  /-- If no call fails and there is no such hint, the last call reads the event, the only one. -/
  event : (∀ call ∈ calls, call.failure? = none) → session.WellAddressed staged →
    ∃ before event, calls = before ++ [.readEvent (.ok event)] ∧
      ∀ call ∈ before, ∀ outcome, call ≠ .readEvent outcome

/-! ## The program -/

section

variable {executable : Executable} {staged : Bytes} {outputs : List OutputBuffer} {i : Nat}
  {output : OutputBuffer} {received : Bytes}

theorem findIdx?_scratchSizes (outputs : List OutputBuffer) (name : String) :
    (scratchSizes outputs).findIdx? (·.name == name) =
      outputs.findIdx? (·.layer.name == name) := List.findIdx?_map

/-- Filling a scratch changes neither its name nor its size. -/
theorem scratchSizes_set_filled (hi : outputs[i]? = some output)
    (hle : received.length ≤ output.scratch.length) :
    scratchSizes (outputs.set i (filled output received)) = scratchSizes outputs := by
  refine map_set_eq hi ?_
  rw [length_scratch_filled hle]
  rfl

theorem length_biasElement (element start : Nat) (before : Staged) :
    (biasElement element before start).input.length = before.input.length := by
  unfold biasElement
  split
  · rfl
  · exact List.length_modify ..

theorem length_biasRange (session : Session) (before : Staged) (range : InputRange) :
    (biasRange session before range).input.length = before.input.length := by
  unfold biasRange
  split
  · rfl
  · split
    · exact List.foldlRecOn (motive := fun after => after.input.length = before.input.length) _ _
        rfl fun after hafter start _ => (length_biasElement _ start after).trans hafter
    · rfl

/-- Staging an input does not change its size. -/
theorem length_stageInput {session : Session} {input : Bytes}
    (h : session.stageInput input = .ok staged) : staged.length = input.length := by
  unfold stageInput at h
  dsimp only at h
  split at h
  · cases h
  · cases h
    exact List.foldlRecOn (motive := fun after : Staged => after.input.length = input.length)
      session.inputRanges (biasRange session) rfl
      fun after hafter range _ => (length_biasRange session after range).trans hafter

end

/-! ## Carrying out the program -/

/-- An operation carries out a program. -/
def Performs (operation : DeviceM (Running (Recorded σ StreamCall)) EventRecord)
    (requests : List Request) (running : Running (Recorded σ StreamCall)) : Prop :=
  ∃ calls, (operation.outcome running).2.stream.calls = running.stream.calls ++ calls ∧
    Performed running.outputs requests calls (operation.outcome running).2.outputs
      (operation.outcome running).1

section

variable {stream : DataStream σ} {executable : Executable} {staged : Bytes}
  {next : DeviceM (Running (Recorded σ StreamCall)) EventRecord} {requests : List Request}
  {running after : Running (Recorded σ StreamCall)}

/-- A hint that asks for nothing is passed over. -/
theorem performs_bind_of_ok {call : DeviceM (Running (Recorded σ StreamCall)) Unit}
    (hcall : call running = .ok () running) (hnext : Performs next requests running) :
    Performs (call >>= fun _ => next) requests running := by
  unfold Performs
  rw [outcome_bind_of_ok hcall]
  exact hnext

/-- A hint that speaks of octets that are not there ends a program. -/
theorem performs_bind_of_refused {call : DeviceM (Running (Recorded σ StreamCall)) Unit}
    {reason : String} (hcall : call running = .error (.protocol reason) running) :
    Performs (call >>= fun _ => next) [] running := by
  unfold Performs
  rw [outcome_bind_of_error hcall]
  exact ⟨[], (List.append_nil _).symm, .refused reason⟩

theorem performs_send (tag : StreamTag) (data : Bytes)
    (hnext : ∀ after : Running (Recorded σ StreamCall), after.outputs = running.outputs →
      Performs next requests after) :
    Performs (onStream (stream.recorded.send tag data) >>= fun _ => next)
      (.send tag data :: requests) running := by
  unfold Performs
  cases hsend : stream.recorded.send tag data running.stream with
  | ok value state =>
    have hcalls := Recorded.calls_of_observe_ok hsend
    have hrun : onStream (stream.recorded.send tag data) running =
      .ok value { running with stream := state } := streamPart.focus_of_ok running hsend
    obtain ⟨calls, hrest, hperformed⟩ := hnext { running with stream := state } rfl
    rw [outcome_bind_of_ok hrun]
    refine ⟨.send tag data (.ok ()) :: calls, ?_, .sent tag data hperformed⟩
    rw [List.append_cons, ← hcalls]
    exact hrest
  | error error state =>
    have hrun : onStream (stream.recorded.send tag data) running =
      .error error { running with stream := state } := streamPart.focus_of_error running hsend
    rw [outcome_bind_of_error hrun]
    exact ⟨_, Recorded.calls_of_observe_error hsend, .sendFailed tag data error⟩

theorem performs_receive (hkeeps : stream.KeepsSize) {name : String} {i size : Nat}
    {output : OutputBuffer} (hindex : running.outputs.findIdx? (·.layer.name == name) = some i)
    (hi : running.outputs[i]? = some output) (hle : size ≤ output.scratch.length)
    (hnext : ∀ after : Running (Recorded σ StreamCall),
      scratchSizes after.outputs = scratchSizes running.outputs → Performs next requests after) :
    Performs (receiveOutput stream.recorded name size >>= fun _ => next)
      (.receive i size :: requests) running := by
  obtain ⟨received, state, hreply⟩ : ∃ received state,
      stream.recorded.receive (output.scratch.take size) running.stream = (received, state) :=
    ⟨_, _, rfl⟩
  have hcalls : state.calls =
      running.stream.calls ++ [.receive (output.scratch.take size) received] := by
    cases hreply
    rfl
  have hsize : received.buffer.length = size := by
    cases hreply
    exact length_receive_take hkeeps hle running.stream.inner
  have hrun := receiveOutput_of_le hindex hi hle hreply hsize
  unfold Performs
  cases hreceived : received.outcome with
  | ok value =>
    rw [hreceived] at hrun
    obtain ⟨calls, hrest, hperformed⟩ := hnext
      ⟨running.outputs.set i (filled output received.buffer), state⟩
      (scratchSizes_set_filled hi (hsize.symm ▸ hle))
    rw [outcome_bind_of_ok hrun]
    refine ⟨.receive (output.scratch.take size) received :: calls, ?_,
      .received hi hsize hreceived hperformed⟩
    rw [List.append_cons, ← hcalls]
    exact hrest
  | error error =>
    rw [hreceived] at hrun
    rw [outcome_bind_of_error hrun]
    exact ⟨_, hcalls, .receiveFailed hi hsize hreceived⟩

theorem performs_readEvent :
    Performs (onStream stream.recorded.readEvent) [.readEvent] running := by
  unfold Performs DeviceM.outcome
  cases hread : stream.recorded.readEvent running.stream with
  | ok event state =>
    have hrun : onStream stream.recorded.readEvent running =
      .ok event { running with stream := state } := streamPart.focus_of_ok running hread
    rw [hrun]
    exact ⟨_, Recorded.calls_of_observe_ok hread, .event (.ok event)⟩
  | error error state =>
    have hrun : onStream stream.recorded.readEvent running =
      .error error { running with stream := state } := streamPart.focus_of_error running hread
    rw [hrun]
    exact ⟨_, Recorded.calls_of_observe_error hread, .event (.error error)⟩

/-- A range of a buffer is sent if it is there, and refused if it is not. -/
theorem performs_sendRegion (tag : StreamTag) (data : Bytes) (offset size : Nat) (what : String)
    (hnext : ∀ after : Running (Recorded σ StreamCall), after.outputs = running.outputs →
      Performs next requests after) :
    Performs ((DeviceM.ofExcept (region data offset size what) >>= fun octets =>
        onStream (stream.recorded.send tag octets)) >>= fun _ => next)
      (if offset + size ≤ data.length then
        .send tag ((data.drop offset).take size) :: requests else []) running := by
  by_cases hinside : offset + size ≤ data.length
  · rw [if_pos hinside, region, Bytes.slice?, if_pos hinside]
    exact performs_send tag _ hnext
  · rw [if_neg hinside, region, Bytes.slice?, if_neg hinside]
    exact performs_bind_of_refused rfl

/-- A hint is carried out as the program says. -/
theorem performs_perform (hkeeps : stream.KeepsSize) (hint : Hint)
    (hnext : ∀ after : Running (Recorded σ StreamCall),
      scratchSizes after.outputs = scratchSizes running.outputs → Performs next requests after) :
    Performs (perform stream.recorded executable staged hint >>= fun _ => next)
      (if isAddressed executable (scratchSizes running.outputs) staged hint then
        (request? executable (scratchSizes running.outputs) staged hint).toList ++ requests
      else []) running := by
  have hsame (after : Running (Recorded σ StreamCall)) (h : after.outputs = running.outputs) :
      Performs next requests after := hnext after (congrArg scratchSizes h)
  cases hint with
  | range role name offset size =>
    cases role with
    | parameter =>
      simp only [isAddressed, decide_eq_true_eq]
      exact performs_sendRegion .parameters _ offset size _ hsame
    | inputActivation =>
      simp only [isAddressed, decide_eq_true_eq]
      exact performs_sendRegion .inputActivations _ offset size _ hsame
    | outputActivation =>
      simp only [isAddressed, request?, find?_eq_bind_findIdx?, findIdx?_scratchSizes]
      cases hindex : running.outputs.findIdx? (·.layer.name == name) with
      | none =>
        exact performs_bind_of_ok (receiveOutput_of_unknown stream.recorded hindex)
          (hnext running rfl)
      | some i =>
        obtain ⟨output, hi⟩ := exists_getElem?_of_findIdx? hindex
        have hscratch : (scratchSizes running.outputs)[i]? =
            some ⟨output.layer.name, output.scratch.length⟩ := by
          rw [scratchSizes, List.getElem?_map, hi]
          rfl
        simp only [Option.bind_some, hscratch, Option.all_some, decide_eq_true_eq]
        split
        · next hle => exact performs_receive hkeeps hindex hi hle hnext
        · next hgt =>
          obtain ⟨reason, hrefused⟩ := receiveOutput_of_lt stream.recorded hindex hi
            (Nat.lt_of_not_le hgt)
          exact performs_bind_of_refused hrefused
    | scratchpad => exact performs_bind_of_ok rfl (hnext running rfl)
  | instruction chunk =>
    simp only [isAddressed, request?, decide_eq_true_eq]
    split
    · next hchunk =>
      rw [perform, List.getElem?_eq_getElem hchunk]
      exact performs_send .instructions _ hsame
    · next hchunk =>
      rw [perform, List.getElem?_eq_none (Nat.le_of_not_lt hchunk)]
      exact performs_bind_of_refused rfl
  | other => exact performs_bind_of_ok rfl (hnext running rfl)

/-- Carrying out the hints, and reading the event, is carrying out the program. -/
theorem performs_hints (hkeeps : stream.KeepsSize) (hints : List Hint)
    (running : Running (Recorded σ StreamCall)) :
    Performs
      (do
        hints.forM (perform stream.recorded executable staged)
        onStream stream.recorded.readEvent)
      (program executable (scratchSizes running.outputs) staged hints) running := by
  induction hints generalizing running with
  | nil => exact performs_bind_of_ok rfl performs_readEvent
  | cons hint rest ih =>
    rw [List.forM_eq_forM, List.forM_cons, bind_assoc]
    refine performs_perform hkeeps hint fun after hsizes => ?_
    rw [← hsizes]
    exact ih after

end

/-! ## How a program ends -/

section

variable {executable : Executable} {scratches : List ScratchSize} {staged : Bytes}
  {hints : List Hint}

theorem request?_ne_readEvent (executable : Executable) (scratches : List ScratchSize)
    (staged : Bytes) (hint : Hint) :
    request? executable scratches staged hint ≠ some .readEvent := by
  cases hint with
  | range role name offset size =>
    cases role <;> simp [request?]
  | instruction chunk => simp [request?]
  | other => simp [request?]

/-- If every hint speaks of octets that are there, the event is read once, after all hints. -/
theorem program_of_addressed
    (h : ∀ hint ∈ hints, isAddressed executable scratches staged hint = true) :
    program executable scratches staged hints =
      hints.filterMap (request? executable scratches staged) ++ [.readEvent] := by
  induction hints with
  | nil => rfl
  | cons hint rest ih =>
    obtain ⟨hhint, hrest⟩ := List.forall_mem_cons.mp h
    rw [program, if_pos hhint, ih hrest, List.filterMap_cons]
    cases request? executable scratches staged hint <;> rfl

/-- If some hint does not, the event is not read. -/
theorem readEvent_notMem_program
    (h : ¬∀ hint ∈ hints, isAddressed executable scratches staged hint = true) :
    .readEvent ∉ program executable scratches staged hints := by
  induction hints with
  | nil => exact absurd (fun _ hhint => absurd hhint List.not_mem_nil) h
  | cons hint rest ih =>
    rw [program]
    split
    · next hhint =>
      rw [List.mem_append, Option.mem_toList, not_or]
      exact ⟨request?_ne_readEvent _ _ _ _,
        ih fun hrest => h (List.forall_mem_cons.mpr ⟨hhint, hrest⟩)⟩
    · exact List.not_mem_nil

end

section

variable {outputs outputs' : List OutputBuffer} {requests : List Request} {calls : List StreamCall}
  {result : Except DriverError EventRecord}

/-- A call that fails is the last, and its error is what comes of the program. -/
theorem Performed.failsLast (h : Performed outputs requests calls outputs' result) :
    FailsLast StreamCall.failure? calls result := by
  induction h with
  | sent tag data _ ih => exact ih.cons rfl
  | sendFailed tag data error =>
    exact failsLast_singleton fun _ herror => failure?_eq_some_iff.mp herror
  | received hi hsize hok _ ih =>
    refine ih.cons ?_
    rw [StreamCall.failure?, hok]
    rfl
  | receiveFailed hi hsize herror =>
    refine failsLast_singleton fun _ hcall => ?_
    rw [StreamCall.failure?, herror] at hcall
    exact failure?_eq_some_iff.mp hcall
  | event outcome => exact failsLast_singleton fun _ herror => failure?_eq_some_iff.mp herror
  | refused => exact failsLast_nil

/-- A program without an event ends with an error of the protocol, if no call fails. -/
theorem Performed.refused_of_notMem (h : Performed outputs requests calls outputs' result)
    (hcalls : ∀ call ∈ calls, call.failure? = none) (hnone : .readEvent ∉ requests) :
    ∃ reason, result = .error (.protocol reason) := by
  induction h with
  | sent tag data _ ih =>
    exact ih (List.forall_mem_cons.mp hcalls).2 (mt (List.mem_cons_of_mem _) hnone)
  | sendFailed => cases (List.forall_mem_cons.mp hcalls).1
  | received hi hsize hok _ ih =>
    exact ih (List.forall_mem_cons.mp hcalls).2 (mt (List.mem_cons_of_mem _) hnone)
  | receiveFailed hi hsize herror =>
    have hfirst := (List.forall_mem_cons.mp hcalls).1
    rw [StreamCall.failure?, herror] at hfirst
    cases hfirst
  | event => exact absurd List.mem_cons_self hnone
  | refused reason => exact ⟨reason, rfl⟩

/-- A program with an event at its end reads it last, and once, if no call fails. -/
theorem Performed.event_of_concat {program : List Request}
    (h : Performed outputs program calls outputs' result)
    (hprogram : program = requests ++ [.readEvent]) (hnone : .readEvent ∉ requests)
    (hcalls : ∀ call ∈ calls, call.failure? = none) :
    ∃ before event, calls = before ++ [.readEvent (.ok event)] ∧
      ∀ call ∈ before, ∀ outcome, call ≠ .readEvent outcome := by
  induction h generalizing requests with
  | sent tag data _ ih =>
    obtain ⟨-, hfirst⟩ | ⟨requests, rfl, hrest⟩ := List.cons_eq_append_iff.mp hprogram
    · cases hfirst
    · obtain ⟨before, event, rfl, hbefore⟩ := ih hrest (mt (List.mem_cons_of_mem _) hnone)
        (List.forall_mem_cons.mp hcalls).2
      exact ⟨_ :: before, event, rfl, List.forall_mem_cons.mpr ⟨fun _ => nofun, hbefore⟩⟩
  | sendFailed => cases (List.forall_mem_cons.mp hcalls).1
  | received hi hsize hok _ ih =>
    obtain ⟨-, hfirst⟩ | ⟨requests, rfl, hrest⟩ := List.cons_eq_append_iff.mp hprogram
    · cases hfirst
    · obtain ⟨before, event, rfl, hbefore⟩ := ih hrest (mt (List.mem_cons_of_mem _) hnone)
        (List.forall_mem_cons.mp hcalls).2
      exact ⟨_ :: before, event, rfl, List.forall_mem_cons.mpr ⟨fun _ => nofun, hbefore⟩⟩
  | receiveFailed hi hsize herror =>
    have hfirst := (List.forall_mem_cons.mp hcalls).1
    rw [StreamCall.failure?, herror] at hfirst
    cases hfirst
  | event outcome =>
    cases outcome with
    | ok event => exact ⟨[], event, rfl, fun _ hcall => absurd hcall List.not_mem_nil⟩
    | error error => cases (List.forall_mem_cons.mp hcalls).1
  | refused => simp at hprogram

end

/-! ## Main theorem -/

/-- Once the program has been carried out, the scratches that it leaves become tensors. -/
theorem outcome_execute (stream : DataStream σ) (executable : Executable) (staged : Bytes)
    (running : Running σ) :
    let streamed : DeviceM (Running σ) EventRecord := do
      executable.hints.forM (perform stream executable staged)
      onStream stream.readEvent
    let ended := streamed.outcome running
    (execute stream executable staged).outcome running =
      (ended.1.bind fun event =>
        (ofModel (ended.2.outputs.mapM OutputBuffer.tensor)).map fun tensors => (event, tensors),
        ended.2) := by
  intro streamed ended
  have hexecute : execute stream executable staged = streamed >>= fun event => do
      let running ← get
      let tensors ← DeviceM.ofExcept (ofModel (running.outputs.mapM OutputBuffer.tensor))
      return (event, tensors) := by
    simp only [execute, streamed, bind_assoc]
  rw [hexecute]
  cases hstreamed : streamed running with
  | ok event after =>
    have hended : ended = (.ok event, after) := by
      unfold ended DeviceM.outcome
      rw [hstreamed]
    rw [outcome_bind_of_ok hstreamed, hended, DeviceM.outcome, get_bind]
    dsimp only
    cases ofModel (after.outputs.mapM OutputBuffer.tensor) <;> rfl
  | error error after =>
    have hended : ended = (.error error, after) := by
      unfold ended DeviceM.outcome
      rw [hstreamed]
    rw [outcome_bind_of_error hstreamed, hended]
    rfl

/-- An invocation whose buffers fit ends as the carrying out of the hints does. -/
theorem invoke_of_outcome (stream : DataStream σ) {session : Session} {input staged : Bytes}
    {outputs : List Bytes} (hfits : Fits session input outputs)
    (hstaged : session.stageInput input = .ok staged) (state : σ) :
    let run := session.invoke stream input outputs state
    let ended := (execute stream session.executable staged).outcome ⟨session.outputs, state⟩
    run.outcome = ended.1.map (·.1) ∧ run.session = { session with outputs := ended.2.outputs } ∧
      run.stream = ended.2.stream := by
  obtain ⟨staged', hstaged', hrun⟩ := invoke_of_fits stream state hfits
  cases hstaged.symm.trans hstaged'
  dsimp only
  rw [hrun, DeviceM.outcome]
  cases execute stream session.executable staged ⟨session.outputs, state⟩ <;>
    exact ⟨rfl, rfl, rfl⟩

theorem map_bind_fst {ε α β : Type} (first : Except ε α) (second : Except ε β) :
    (first.bind fun a => second.map fun b => (a, b)).map (·.1) =
      first.bind fun a => second.map fun _ => a := by
  cases first <;> cases second <;> rfl

/-- The calls of an invocation whose buffers fit carry out its program. -/
theorem performed_invoke {stream : DataStream σ} (hkeeps : stream.KeepsSize) {session : Session}
    {input staged : Bytes} {outputs : List Bytes} (hfits : Fits session input outputs)
    (hstaged : session.stageInput input = .ok staged) (state : σ) :
    let run := session.invoke stream input outputs state
    ∃ event, Performed session.outputs (session.hintProgram staged)
        (session.calls stream input outputs state) run.session.outputs event ∧
      run.outcome = event.bind fun event =>
        (ofModel (run.session.outputs.mapM OutputBuffer.tensor)).map fun _ => event := by
  have hrecorded := invoke_recorded stream session input outputs { inner := state }
  obtain ⟨houtcome, hsession, hstream⟩ :=
    invoke_of_outcome stream.recorded hfits hstaged { inner := state }
  have hperforms : Performs _ (session.hintProgram staged) ⟨session.outputs, { inner := state }⟩ :=
    performs_hints hkeeps session.executable.hints _
  obtain ⟨calls, hcalls, hperformed⟩ := hperforms
  rw [outcome_execute] at houtcome hsession hstream
  dsimp only at hrecorded houtcome hsession hstream
  rw [hrecorded]
  dsimp only
  rw [Session.calls, hstream, hcalls, hsession, houtcome, List.nil_append]
  exact ⟨_, hperformed, map_bind_fst _ _⟩

/-- **The chip sees the program of the hints.** An invocation whose buffers fit makes the calls of
    its program, in order and each on what the calls before have left, up to the first that
    fails. -/
theorem invoke_follows_hints {stream : DataStream σ} (hkeeps : stream.KeepsSize)
    (session : Session) {input : Bytes} {outputs : List Bytes} (hfits : Fits session input outputs)
    (state : σ) :
    ∃ staged, session.stageInput input = .ok staged ∧ staged.length = input.length ∧
      let run := session.invoke stream input outputs state
      FollowsHints session staged (session.calls stream input outputs state) run.session
        run.outcome := by
  obtain ⟨-, staged, hstaged⟩ := fits_iff.mp hfits
  obtain ⟨event, hperformed, houtcome⟩ := performed_invoke hkeeps hfits hstaged state
  refine ⟨staged, hstaged, length_stageInput hstaged, ⟨event, hperformed, houtcome⟩, ?_, ?_, ?_⟩
  · intro before after call error hcalls hcall
    obtain ⟨hlast, rfl⟩ := hperformed.failsLast before call after error hcalls hcall
    exact ⟨hlast, houtcome⟩
  · intro hsound haddressed
    obtain ⟨reason, rfl⟩ := hperformed.refused_of_notMem hsound
      (readEvent_notMem_program haddressed)
    exact ⟨reason, houtcome⟩
  · intro hsound haddressed
    refine hperformed.event_of_concat (program_of_addressed haddressed) ?_ hsound
    rw [List.mem_filterMap]
    rintro ⟨hint, -, hhint⟩
    exact request?_ne_readEvent _ _ _ _ hhint

/-- A program with a hint of every kind. The signed input is biased; no output has the name
    "other"; the last range of the parameters is not there, and the event is not read. -/
theorem invoke_follows_mixedHints :
    let executable : Executable :=
      { bitstreams := [[0xC0, 0xDE]]
        parameters := [1, 2, 3, 4, 5, 6]
        inputs := [.dense "in" .signedFixedPoint8 1 1 2]
        outputs := [.dense "out" .fixedPoint8 1 1 4]
        hints := [.range .parameter "" 2 3, .range .scratchpad "" 0 9, .instruction 0,
          .range .inputActivation "in" 0 2, .range .outputActivation "other" 0 9, .other 7,
          .range .outputActivation "out" 2 3, .range .parameter "" 4 3] }
    let session : Session := ⟨executable, [⟨.dense "out" .fixedPoint8 1 1 4, [0, 0, 0, 0]⟩]⟩
    let state : ReplyStream := { replies := [7, 8, 9] }
    ReplyStream.stream.KeepsSize ∧ Fits session [0x00, 0xFF] [[0, 0, 0, 0]] ∧
      session.hintProgram [0x80, 0x7F] =
        [.send .parameters [3, 4, 5], .send .instructions [0xC0, 0xDE],
          .send .inputActivations [0x80, 0x7F], .receive 0 3] ∧
      ∃ staged, session.stageInput [0x00, 0xFF] = .ok staged ∧ staged.length = 2 ∧
        let run := session.invoke ReplyStream.stream [0x00, 0xFF] [[0, 0, 0, 0]] state
        FollowsHints session staged
          (session.calls ReplyStream.stream [0x00, 0xFF] [[0, 0, 0, 0]] state) run.session
          run.outcome := by
  intro executable session state
  have hfits : Fits session [0x00, 0xFF] [[0, 0, 0, 0]] := fits_iff.mpr ⟨rfl, _, rfl⟩
  exact ⟨keepsSize_replyStream, hfits, by decide,
    invoke_follows_hints keepsSize_replyStream session hfits state⟩

end TensorLink.Session

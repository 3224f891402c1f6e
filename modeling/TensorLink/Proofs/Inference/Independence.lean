import TensorLink.Proofs.Inference.Atomicity
import TensorLink.Simulation.ReplyStream

/-!
# Results do not depend on history

The scratches of a session are never cleared: each invocation leaves in them what it has received,
also one that fails half-way. An invocation that ends well has carried out every output hint of the
executable, and each of them overwrites its scratch from the start; so nothing of what an earlier
invocation can have left is still there, and where no hint reaches, the scratch is as it was made.

Results:
* `agreesOff_invoke`: an invocation changes the scratches only where a hint of the executable
  reaches.
* `InStep.perform`, `InStep.performAll`: two runs whose streams reply alike stay in step, and what
  is left of the difference between their scratches is where the remaining hints reach.
* `invoke_independent_of_history`: an invocation that ends well gives what it gives on a freshly
  loaded session.
-/

namespace TensorLink

open Sequencing Simulation

variable {σ σ' : Type}

/-! ## Specification -/

namespace DataStream

/-- A buffer is filled in place: it keeps its size, whatever becomes of it. -/
def KeepsSize (stream : DataStream σ) : Prop :=
  ∀ (buffer : Bytes) (state : σ), (stream.receive buffer state).1.buffer.length = buffer.length

/-- A buffer that is filled without an error is overwritten as a whole: what is received does not
    depend on what the buffer held before. -/
def Overwrites (stream : DataStream σ) : Prop :=
  ∀ (buffer buffer' : Bytes) (state : σ), buffer'.length = buffer.length →
    (stream.receive buffer state).1.outcome = .ok () →
      stream.receive buffer' state = stream.receive buffer state

/-- In states that `alike` relates, the second stream replies to a call as the first one does, if
    the first one carries it out. A buffer of the same size is filled with the same octets, whatever
    it held before. -/
structure RepliesAlike (stream : DataStream σ) (stream' : DataStream σ') (alike : σ → σ' → Prop) :
    Prop where
  send : ∀ {tag : StreamTag} {data : Bytes} {state after : σ} {state' : σ'}, alike state state' →
    stream.send tag data state = .ok () after →
      ∃ after', stream'.send tag data state' = .ok () after' ∧ alike after after'
  receive : ∀ {buffer buffer' : Bytes} {state : σ} {state' : σ'}, alike state state' →
    buffer'.length = buffer.length → (stream.receive buffer state).1.outcome = .ok () →
      (stream'.receive buffer' state').1 = (stream.receive buffer state).1 ∧
        alike (stream.receive buffer state).2 (stream'.receive buffer' state').2
  readEvent : ∀ {event : EventRecord} {state after : σ} {state' : σ'}, alike state state' →
    stream.readEvent state = .ok event after →
      ∃ after', stream'.readEvent state' = .ok event after' ∧ alike after after'

/-- A stream that overwrites what it fills replies as it does itself in the same state. -/
theorem Overwrites.repliesAlike {stream : DataStream σ} (h : stream.Overwrites) :
    stream.RepliesAlike stream Eq where
  send := by
    rintro tag data state after _ rfl hsend
    exact ⟨after, hsend, rfl⟩
  receive := by
    rintro buffer buffer' state _ rfl hlength hok
    rw [h buffer buffer' state hlength hok]
    exact ⟨rfl, rfl⟩
  readEvent := by
    rintro event state after _ rfl hread
    exact ⟨after, hread, rfl⟩

end DataStream

namespace Session

/-- An earlier invocation: over any stream, with any buffers, however it ended. -/
structure Earlier where
  State : Type
  stream : DataStream State
  keepsSize : stream.KeepsSize
  input : Bytes
  outputs : List Bytes
  state : State

/-- The session that earlier invocations have left, the first one first. -/
def after (session : Session) : List Earlier → Session
  | [] => session
  | earlier :: rest =>
    (session.invoke earlier.stream earlier.input earlier.outputs earlier.state).session.after rest

/-! ## Where the scratches can differ -/

/-- A hint reaches the octets of an output that it overwrites: from the start of the scratch of the
    first output that has the name. -/
def Reaches (layers : List Layer) (i position : Nat) : Hint → Prop
  | .range .outputActivation name _ size =>
    layers.findIdx? (·.name == name) = some i ∧ position < size
  | _ => False

/-- An octet of the scratch of an output. -/
def octet? (outputs : List OutputBuffer) (i position : Nat) : Option UInt8 :=
  outputs[i]?.bind (·.scratch[position]?)

/-- Outputs of the same layers, whose scratches differ at most where one of the hints reaches. -/
structure AgreesOff (hints : List Hint) (outputs outputs' : List OutputBuffer) : Prop where
  layers : outputs.map (·.layer) = outputs'.map (·.layer)
  sizes : outputs.map (·.scratch.length) = outputs'.map (·.scratch.length)
  octets : ∀ i position, (∀ hint ∈ hints, ¬Reaches (outputs.map (·.layer)) i position hint) →
    octet? outputs i position = octet? outputs' i position

namespace AgreesOff

variable {hints rest : List Hint} {outputs outputs' outputs'' : List OutputBuffer}

theorem refl (hints : List Hint) (outputs : List OutputBuffer) : AgreesOff hints outputs outputs :=
  ⟨rfl, rfl, fun _ _ _ => rfl⟩

theorem symm (h : AgreesOff hints outputs outputs') : AgreesOff hints outputs' outputs :=
  ⟨h.layers.symm, h.sizes.symm, fun i position hoff =>
    (h.octets i position (by rw [h.layers]; exact hoff)).symm⟩

theorem trans (h : AgreesOff hints outputs outputs') (h' : AgreesOff hints outputs' outputs'') :
    AgreesOff hints outputs outputs'' :=
  ⟨h.layers.trans h'.layers, h.sizes.trans h'.sizes, fun i position hoff =>
    (h.octets i position hoff).trans (h'.octets i position (by rw [← h.layers]; exact hoff))⟩

/-- A hint that reaches nothing makes no difference. -/
theorem of_cons {hint : Hint} (h : AgreesOff (hint :: rest) outputs outputs')
    (hnone : ∀ i position, ¬Reaches (outputs.map (·.layer)) i position hint) :
    AgreesOff rest outputs outputs' := by
  refine ⟨h.layers, h.sizes, fun i position hoff => h.octets i position ?_⟩
  rintro hint' (_ | ⟨_, hmem⟩)
  · exact hnone i position
  · exact hoff hint' hmem

/-- A name belongs to the same output on both sides. -/
theorem findIdx?_eq (h : AgreesOff hints outputs outputs') (name : String) :
    outputs'.findIdx? (·.layer.name == name) = outputs.findIdx? (·.layer.name == name) := by
  have hmap := congrArg (List.findIdx? (·.name == name)) h.layers
  rw [List.findIdx?_map, List.findIdx?_map] at hmap
  exact hmap.symm

theorem getElem?_eq_some (h : AgreesOff hints outputs outputs') {i : Nat} {output : OutputBuffer}
    (hi : outputs[i]? = some output) :
    ∃ output', outputs'[i]? = some output' ∧
      output'.scratch.length = output.scratch.length := by
  have hsize := congrArg (·[i]?) h.sizes
  simp only [List.getElem?_map, hi, Option.map_some] at hsize
  obtain ⟨output', hi', hlength⟩ := Option.map_eq_some_iff.mp hsize.symm
  exact ⟨output', hi', hlength⟩

/-- Where no hint is left, outputs that agree are the same. -/
theorem eq_of_nil (h : AgreesOff [] outputs outputs') : outputs = outputs' := by
  have hlength : outputs.length = outputs'.length := by
    simpa using congrArg List.length h.layers
  apply List.ext_getElem hlength
  intro i hi hi'
  have hlayer : outputs[i].layer = outputs'[i].layer := by
    have := congrArg (·[i]?) h.layers
    simpa [hi, hi'] using this
  have hscratch : outputs[i].scratch = outputs'[i].scratch := by
    apply List.ext_getElem?
    intro position
    have := h.octets i position (by simp)
    simpa [octet?, hi, hi'] using this
  calc outputs[i] = ⟨outputs[i].layer, outputs[i].scratch⟩ := rfl
    _ = ⟨outputs'[i].layer, outputs'[i].scratch⟩ := by rw [hlayer, hscratch]

end AgreesOff

/-! ## Filling a scratch -/

/-- An output whose scratch starts with what has been received. -/
def filled (output : OutputBuffer) (received : Bytes) : OutputBuffer :=
  { output with scratch := received ++ output.scratch.drop received.length }

section

variable {outputs outputs' : List OutputBuffer} {i : Nat} {output output' : OutputBuffer}
  {received : Bytes}

theorem map_set_eq {α β : Type} {l : List α} {i : Nat} {a b : α} {f : α → β} (h : l[i]? = some a)
    (hf : f b = f a) : (l.set i b).map f = l.map f := by
  obtain ⟨hi, rfl⟩ := List.getElem?_eq_some_iff.mp h
  have hi' : i < (l.map f).length := by rw [List.length_map]; exact hi
  have hget : (l.map f)[i] = f l[i] := List.getElem_map f
  rw [List.map_set, hf, ← hget, List.set_getElem_self]

theorem layers_set_filled (hi : outputs[i]? = some output) :
    (outputs.set i (filled output received)).map (·.layer) = outputs.map (·.layer) :=
  have h : (filled output received).layer = output.layer := rfl
  map_set_eq hi h

theorem octet?_set_filled (hi : outputs[i]? = some output) (j position : Nat) :
    octet? (outputs.set i (filled output received)) j position =
      if j = i ∧ position < received.length then received[position]?
      else octet? outputs j position := by
  obtain ⟨hlt, rfl⟩ := List.getElem?_eq_some_iff.mp hi
  unfold octet?
  by_cases hj : j = i
  · subst hj
    rw [List.getElem?_set_self hlt, List.getElem?_eq_getElem hlt]
    simp only [Option.bind_some, filled, List.getElem?_append, List.getElem?_drop, true_and]
    split
    · rfl
    · congr 1
      omega
  · rw [List.getElem?_set_ne (Ne.symm hj), if_neg fun h => hj h.1]

theorem length_scratch_filled (h : received.length ≤ output.scratch.length) :
    (filled output received).scratch.length = output.scratch.length := by
  rw [filled, List.length_append, List.length_drop]
  omega

/-- Filling a scratch changes it only where the hint reaches. -/
theorem agreesOff_filled {hints : List Hint} {name : String} {offset size : Nat}
    (hhint : .range .outputActivation name offset size ∈ hints)
    (hindex : outputs.findIdx? (·.layer.name == name) = some i) (hi : outputs[i]? = some output)
    (hle : size ≤ output.scratch.length) (hlength : received.length = size) :
    AgreesOff hints outputs (outputs.set i (filled output received)) := by
  subst hlength
  refine ⟨(layers_set_filled hi).symm, (map_set_eq hi (length_scratch_filled hle)).symm,
    fun j position hoff => ?_⟩
  rw [octet?_set_filled hi, if_neg]
  rintro ⟨rfl, hlt⟩
  exact hoff _ hhint ⟨by rw [List.findIdx?_map]; exact hindex, hlt⟩

/-- Once two scratches are filled alike, the hint makes no difference any more. -/
theorem AgreesOff.filled {rest : List Hint} {name : String} {offset size : Nat}
    (h : AgreesOff (.range .outputActivation name offset size :: rest) outputs outputs')
    (hindex : outputs.findIdx? (·.layer.name == name) = some i) (hi : outputs[i]? = some output)
    (hi' : outputs'[i]? = some output') (hle : size ≤ output.scratch.length)
    (hle' : size ≤ output'.scratch.length) (hlength : received.length = size) :
    AgreesOff rest (outputs.set i (Session.filled output received))
      (outputs'.set i (Session.filled output' received)) := by
  subst hlength
  refine ⟨?_, ?_, fun j position hoff => ?_⟩
  · rw [layers_set_filled hi, layers_set_filled hi', h.layers]
  · rw [map_set_eq hi (length_scratch_filled hle), map_set_eq hi' (length_scratch_filled hle'),
      h.sizes]
  · rw [octet?_set_filled hi, octet?_set_filled hi']
    split
    · rfl
    · rename_i houtside
      refine h.octets j position ?_
      rw [layers_set_filled hi] at hoff
      rintro hint (_ | ⟨_, hmem⟩)
      · rintro ⟨hindex', hlt⟩
        rw [List.findIdx?_map] at hindex'
        exact houtside ⟨Option.some.inj (hindex'.symm.trans hindex), hlt⟩
      · exact hoff hint hmem

end

/-! ## Receiving an output -/

theorem find?_eq_bind_findIdx? {α : Type} (p : α → Bool) (l : List α) :
    l.find? p = (l.findIdx? p).bind (l[·]?) := by
  induction l with
  | nil => rfl
  | cons first rest ih =>
    rw [List.find?_cons, List.findIdx?_cons]
    cases p first with
    | true => rfl
    | false => cases h : rest.findIdx? p <;> simp [ih, h]

theorem replaceOutput_eq_set {name : String} {outputs : List OutputBuffer} {i : Nat}
    (hindex : outputs.findIdx? (·.layer.name == name) = some i) (output : OutputBuffer) :
    replaceOutput name output outputs = outputs.set i output := by
  induction outputs generalizing i with
  | nil => cases hindex
  | cons first rest ih =>
    rw [List.findIdx?_cons] at hindex
    rw [replaceOutput]
    split at hindex <;> rename_i hname
    · cases hindex
      rw [if_pos hname]
      rfl
    · obtain ⟨j, hj, rfl⟩ := Option.map_eq_some_iff.mp hindex
      rw [if_neg hname, ih hj, List.set_cons_succ]

section

variable {stream : DataStream σ} {name : String} {size i : Nat} {running : Running σ}
  {output : OutputBuffer}

/-- A name that no output has is passed over. -/
theorem receiveOutput_of_unknown (stream : DataStream σ)
    (hindex : running.outputs.findIdx? (·.layer.name == name) = none) :
    receiveOutput stream name size running = .ok () running := by
  unfold receiveOutput
  rw [find?_eq_bind_findIdx?, hindex, Option.bind_none]

/-- More octets than the scratch holds are refused without a call. -/
theorem receiveOutput_of_lt (stream : DataStream σ)
    (hindex : running.outputs.findIdx? (·.layer.name == name) = some i)
    (hi : running.outputs[i]? = some output) (hlt : output.scratch.length < size) :
    ∃ reason, receiveOutput stream name size running = .error (.protocol reason) running := by
  unfold receiveOutput
  rw [find?_eq_bind_findIdx?, hindex, Option.bind_some, hi]
  dsimp only
  rw [if_pos hlt]
  exact ⟨_, rfl⟩

theorem length_receive_take (hkeeps : stream.KeepsSize) (hle : size ≤ output.scratch.length)
    (state : σ) :
    (stream.receive (output.scratch.take size) state).1.buffer.length = size := by
  rw [hkeeps, List.length_take, Nat.min_eq_left hle]

/-- Otherwise the scratch starts with what has been received, also if the call fails. -/
theorem receiveOutput_of_le {received : Received} {state : σ}
    (hindex : running.outputs.findIdx? (·.layer.name == name) = some i)
    (hi : running.outputs[i]? = some output) (hle : size ≤ output.scratch.length)
    (hreply : stream.receive (output.scratch.take size) running.stream = (received, state))
    (hlength : received.buffer.length = size) :
    receiveOutput stream name size running = DeviceM.ofExcept received.outcome
      ⟨running.outputs.set i (filled output received.buffer), state⟩ := by
  have hfits : ¬output.scratch.length < size := Nat.not_lt.mpr hle
  unfold receiveOutput
  simp only [find?_eq_bind_findIdx?, hindex, Option.bind_some, hi, if_neg hfits, hreply,
    replaceOutput_eq_set hindex, filled, hlength]
  cases received.outcome <;> rfl

theorem exists_getElem?_of_findIdx? {α : Type} {p : α → Bool} {l : List α}
    (h : l.findIdx? p = some i) : ∃ a, l[i]? = some a := by
  obtain ⟨hi, -⟩ := List.findIdx?_eq_some_iff_getElem.mp h
  exact ⟨l[i], List.getElem?_eq_getElem hi⟩

end

/-! ## What a run can change -/

section

variable {stream : DataStream σ} {executable : Executable} {input : Bytes} {hints : List Hint}

/-- A step of a run that changes the scratches only where the hints reach. -/
def StaysWithin {α : Type} (hints : List Hint) (m : DeviceM (Running σ) α) : Prop :=
  Relates (fun running running' => AgreesOff hints running.outputs running'.outputs) m

theorem staysWithin_of_keeps {α : Type} {m : DeviceM (Running σ) α}
    (h : Keeps Running.outputs m) : StaysWithin hints m :=
  h.relates fun running running' heq => by
    rw [heq]
    exact .refl hints running.outputs

theorem keeps_outputs_onStream {α : Type} (call : DeviceM σ α) :
    Keeps Running.outputs (onStream call) := by
  intro running
  unfold onStream Part.focus
  cases call (streamPart.look running) <;> rfl

theorem staysWithin_receiveOutput (hkeeps : stream.KeepsSize) {name : String} {offset size : Nat}
    (hhint : .range .outputActivation name offset size ∈ hints) :
    StaysWithin hints (receiveOutput stream name size) := by
  intro running
  cases hindex : running.outputs.findIdx? (·.layer.name == name) with
  | none =>
    rw [receiveOutput_of_unknown stream hindex]
    exact .refl _ _
  | some i =>
    obtain ⟨output, hi⟩ := exists_getElem?_of_findIdx? hindex
    by_cases hle : size ≤ output.scratch.length
    · have hlength := length_receive_take hkeeps hle running.stream
      rw [receiveOutput_of_le hindex hi hle rfl hlength, left_ofExcept]
      exact agreesOff_filled hhint hindex hi hle hlength
    · obtain ⟨error, herror⟩ := receiveOutput_of_lt stream hindex hi (Nat.lt_of_not_le hle)
      rw [herror]
      exact .refl _ _

/-- A hint changes the scratches only where it reaches. -/
theorem staysWithin_perform (hkeeps : stream.KeepsSize) {hint : Hint} (hhint : hint ∈ hints) :
    StaysWithin hints (perform stream executable input hint) := by
  cases hint with
  | range description name offset size =>
    cases description with
    | parameter =>
      exact staysWithin_of_keeps
        ((Keeps.ofExcept _).bind fun data => keeps_outputs_onStream _)
    | inputActivation =>
      exact staysWithin_of_keeps
        ((Keeps.ofExcept _).bind fun data => keeps_outputs_onStream _)
    | outputActivation => exact staysWithin_receiveOutput hkeeps hhint
    | scratchpad => exact staysWithin_of_keeps (Keeps.pure ())
  | instruction chunk =>
    simp only [perform]
    cases executable.bitstreams[chunk]? with
    | none => exact staysWithin_of_keeps (Keeps.throw _)
    | some octets => exact staysWithin_of_keeps (keeps_outputs_onStream _)
  | other => exact staysWithin_of_keeps (Keeps.pure ())

theorem staysWithin_execute (hkeeps : stream.KeepsSize) (executable : Executable)
    (input : Bytes) : StaysWithin executable.hints (execute stream executable input) := by
  have htrans : ∀ running running' running'' : Running σ,
      AgreesOff executable.hints running.outputs running'.outputs →
      AgreesOff executable.hints running'.outputs running''.outputs →
      AgreesOff executable.hints running.outputs running''.outputs := fun _ _ _ h h' => h.trans h'
  refine Relates.bind htrans ?_ fun _ => staysWithin_of_keeps ?_
  · exact Relates.forM (fun running => .refl _ _) htrans fun hint hhint =>
      staysWithin_perform hkeeps hhint
  · exact (keeps_outputs_onStream _).bind fun event => Keeps.bind (fun _ => rfl) fun running =>
      (Keeps.ofExcept _).bind fun tensors => Keeps.pure _

/-- An invocation leaves the executable as it is, and changes the scratches only where its hints
    reach. -/
theorem agreesOff_invoke (hkeeps : stream.KeepsSize) (session : Session) (input : Bytes)
    (outputs : List Bytes) (state : σ) :
    (session.invoke stream input outputs state).session.executable = session.executable ∧
      AgreesOff session.executable.hints session.outputs
        (session.invoke stream input outputs state).session.outputs := by
  by_cases hfits : Fits session input outputs
  · obtain ⟨staged, -, hrun⟩ := invoke_of_fits stream state hfits
    have hexecute := staysWithin_execute hkeeps session.executable staged ⟨session.outputs, state⟩
    rw [hrun]
    split <;> rename_i hresult <;> rw [hresult] at hexecute <;> exact ⟨rfl, hexecute⟩
  · obtain ⟨reason, hrun⟩ := invoke_of_not_fits stream state hfits
    rw [hrun]
    exact ⟨rfl, .refl _ _⟩

/-- So do any number of invocations. -/
theorem agreesOff_after (session : Session) (history : List Earlier) :
    (session.after history).executable = session.executable ∧
      AgreesOff session.executable.hints session.outputs (session.after history).outputs := by
  induction history generalizing session with
  | nil => exact ⟨rfl, .refl _ _⟩
  | cons earlier rest ih =>
    obtain ⟨hexecutable, hfirst⟩ := agreesOff_invoke earlier.keepsSize session earlier.input
      earlier.outputs earlier.state
    obtain ⟨hexecutable', hrest⟩ := ih
      (session.invoke earlier.stream earlier.input earlier.outputs earlier.state).session
    rw [hexecutable] at hrest
    exact ⟨hexecutable'.trans hexecutable, hfirst.trans hrest⟩

end

/-! ## Two runs in step -/

/-- Two runs before the same hints: their scratches differ at most where these hints reach, and
    their streams reply alike. -/
structure InStep (alike : σ → σ' → Prop) (hints : List Hint) (running : Running σ)
    (running' : Running σ') : Prop where
  outputs : AgreesOff hints running.outputs running'.outputs
  stream : alike running.stream running'.stream

section

variable {stream : DataStream σ} {stream' : DataStream σ'} {alike : σ → σ' → Prop}
  {executable : Executable} {input : Bytes} {hint : Hint} {rest hints : List Hint}
  {running after : Running σ} {running' : Running σ'}

/-- A call that is answered alike keeps two runs in step. -/
theorem InStep.onStream {α : Type} {a : α} {call : DeviceM σ α} {call' : DeviceM σ' α}
    (h : InStep alike hints running running')
    (hcall : ∀ {state next state'}, alike state state' → call state = .ok a next →
      ∃ next', call' state' = .ok a next' ∧ alike next next')
    (hrun : onStream call running = .ok a after) :
    ∃ after', onStream call' running' = .ok a after' ∧ InStep alike hints after after' := by
  have hstream : ∃ next, call running.stream = .ok a next ∧
      after = { running with stream := next } := by
    unfold Session.onStream Part.focus at hrun
    split at hrun <;> rename_i hnext
    · cases hrun
      exact ⟨_, hnext, rfl⟩
    · cases hrun
  obtain ⟨next, hnext, rfl⟩ := hstream
  obtain ⟨next', hnext', halike⟩ := hcall h.stream hnext
  exact ⟨{ running' with stream := next' }, streamPart.focus_of_ok running' hnext',
    h.outputs, halike⟩

/-- A hint that changes no scratch makes no difference between two runs. -/
theorem InStep.of_cons (h : InStep alike (hint :: rest) running running')
    (hnone : ∀ i position, ¬Reaches (running.outputs.map (·.layer)) i position hint) :
    InStep alike rest running running' := ⟨h.outputs.of_cons hnone, h.stream⟩

/-- Two runs that receive alike stay in step, and the scratches agree where the hint reaches. -/
theorem InStep.receiveOutput (hkeeps : stream.KeepsSize)
    (hreplies : stream.RepliesAlike stream' alike) {name : String} {offset size : Nat}
    (h : InStep alike (.range .outputActivation name offset size :: rest) running running')
    (hrun : receiveOutput stream name size running = .ok () after) :
    ∃ after', receiveOutput stream' name size running' = .ok () after' ∧
      InStep alike rest after after' := by
  have hindex' := h.outputs.findIdx?_eq name
  cases hindex : running.outputs.findIdx? (·.layer.name == name) with
  | none =>
    rw [receiveOutput_of_unknown stream hindex] at hrun
    cases hrun
    refine ⟨running', receiveOutput_of_unknown stream' (hindex'.trans hindex), h.of_cons ?_⟩
    rintro i position ⟨hreach, -⟩
    rw [List.findIdx?_map] at hreach
    cases hindex.symm.trans hreach
  | some i =>
    obtain ⟨output, hi⟩ := exists_getElem?_of_findIdx? hindex
    obtain ⟨output', hi', hheld⟩ := h.outputs.getElem?_eq_some hi
    by_cases hle : size ≤ output.scratch.length
    · have hle' : size ≤ output'.scratch.length := hheld.symm ▸ hle
      have hlength := length_receive_take hkeeps hle running.stream
      have htake : (output'.scratch.take size).length = (output.scratch.take size).length := by
        rw [List.length_take, List.length_take, hheld]
      rw [receiveOutput_of_le hindex hi hle rfl hlength] at hrun
      obtain ⟨hok, rfl⟩ := ofExcept_eq_ok_iff.mp hrun
      obtain ⟨hreply, halike⟩ := hreplies.receive h.stream htake hok
      rw [← hreply] at hlength hok ⊢
      have hrun' := receiveOutput_of_le (hindex'.trans hindex) hi' hle' rfl hlength
      exact ⟨_, hrun'.trans (ofExcept_eq_ok_iff.mpr ⟨hok, rfl⟩),
        h.outputs.filled hindex hi hi' hle hle' hlength, halike⟩
    · obtain ⟨error, herror⟩ := receiveOutput_of_lt stream hindex hi (Nat.lt_of_not_le hle)
      rw [herror] at hrun
      cases hrun

/-- Two runs that send the same range stay in step. -/
theorem InStep.sendRegion (hreplies : stream.RepliesAlike stream' alike)
    (h : InStep alike hints running running') {tag : StreamTag} {range : Except DriverError Bytes}
    (hrun : (DeviceM.ofExcept range >>= fun data => Session.onStream (stream.send tag data))
      running = .ok () after) :
    ∃ after', (DeviceM.ofExcept range >>= fun data => Session.onStream (stream'.send tag data))
        running' = .ok () after' ∧ InStep alike hints after after' := by
  obtain ⟨data, mid, hdata, hsend⟩ := bind_eq_ok_iff.mp hrun
  obtain ⟨hrange, rfl⟩ := ofExcept_eq_ok_iff.mp hdata
  obtain ⟨after', hsend', hstep⟩ := h.onStream hreplies.send hsend
  have hdata' : DeviceM.ofExcept range running' = .ok data running' :=
    ofExcept_eq_ok_iff.mpr ⟨hrange, rfl⟩
  exact ⟨after', bind_eq_ok_iff.mpr ⟨data, running', hdata', hsend'⟩, hstep⟩

/-- Two runs that carry out the same hint stay in step: what is left of the difference is where the
    other hints reach. -/
theorem InStep.perform (hkeeps : stream.KeepsSize) (hreplies : stream.RepliesAlike stream' alike)
    (h : InStep alike (hint :: rest) running running')
    (hrun : perform stream executable input hint running = .ok () after) :
    ∃ after', perform stream' executable input hint running' = .ok () after' ∧
      InStep alike rest after after' := by
  cases hint with
  | range description name offset size =>
    cases description with
    | parameter => exact (h.of_cons fun _ _ => id).sendRegion hreplies hrun
    | inputActivation => exact (h.of_cons fun _ _ => id).sendRegion hreplies hrun
    | outputActivation => exact h.receiveOutput hkeeps hreplies hrun
    | scratchpad =>
      cases hrun
      exact ⟨running', rfl, h.of_cons fun _ _ => id⟩
  | instruction chunk =>
    simp only [Session.perform] at hrun ⊢
    cases hchunk : executable.bitstreams[chunk]? with
    | none =>
      rw [hchunk] at hrun
      cases hrun
    | some octets =>
      rw [hchunk] at hrun
      exact (h.of_cons fun _ _ => id).onStream hreplies.send hrun
  | other =>
    cases hrun
    exact ⟨running', rfl, h.of_cons fun _ _ => id⟩

/-- After the last hint the scratches are the same. -/
theorem InStep.performAll (hkeeps : stream.KeepsSize) (hreplies : stream.RepliesAlike stream' alike)
    (h : InStep alike hints running running')
    (hrun : hints.forM (Session.perform stream executable input) running = .ok () after) :
    ∃ after', hints.forM (Session.perform stream' executable input) running' = .ok () after' ∧
      InStep alike [] after after' := by
  induction hints generalizing running running' with
  | nil =>
    cases hrun
    exact ⟨running', rfl, h⟩
  | cons hint rest ih =>
    obtain ⟨mid, hfirst, hrest⟩ := forM_cons_eq_ok_iff.mp hrun
    obtain ⟨mid', hfirst', hmid⟩ := h.perform hkeeps hreplies hfirst
    obtain ⟨after', hrest', hafter⟩ := ih hmid hrest
    exact ⟨after', forM_cons_eq_ok_iff.mpr ⟨mid', hfirst', hrest'⟩, hafter⟩

/-- Two runs whose scratches differ at most where the hints reach end with the same event, the same
    tensors and the same scratches. -/
theorem InStep.execute (hkeeps : stream.KeepsSize) (hreplies : stream.RepliesAlike stream' alike)
    (h : InStep alike executable.hints running running') {event : EventRecord}
    {tensors : List Bytes}
    (hrun : execute stream executable input running = .ok (event, tensors) after) :
    ∃ after', Session.execute stream' executable input running' = .ok (event, tensors) after' ∧
      after'.outputs = after.outputs := by
  obtain ⟨_, mid, hhints, hrun⟩ := bind_eq_ok_iff.mp hrun
  obtain ⟨event', last, hevent, hrun⟩ := bind_eq_ok_iff.mp hrun
  rw [get_bind] at hrun
  obtain ⟨tensors', _, hmade, hrun⟩ := bind_eq_ok_iff.mp hrun
  obtain ⟨htensors, rfl⟩ := ofExcept_eq_ok_iff.mp hmade
  obtain ⟨hpair, rfl⟩ := pure_eq_ok_iff.mp hrun
  cases hpair
  obtain ⟨mid', hhints', hmid⟩ := h.performAll hkeeps hreplies hhints
  obtain ⟨last', hevent', hlast⟩ := hmid.onStream hreplies.readEvent hevent
  have houtputs : last'.outputs = last.outputs := hlast.outputs.eq_of_nil.symm
  refine ⟨last', ?_, houtputs⟩
  refine bind_eq_ok_iff.mpr ⟨(), mid', hhints', bind_eq_ok_iff.mpr ⟨event, last', hevent', ?_⟩⟩
  rw [get_bind, houtputs]
  exact bind_eq_ok_iff.mpr ⟨tensors, last', ofExcept_eq_ok_iff.mpr ⟨htensors, rfl⟩, rfl⟩

end

/-! ## Main theorem -/

/-- Whether the caller's buffers fit depends on the executable and the layers alone. -/
theorem Fits.congr {session session' : Session} {input : Bytes} {outputs : List Bytes}
    (hexecutable : session'.executable = session.executable)
    (hlayers : session'.outputs.map (·.layer) = session.outputs.map (·.layer))
    (h : Fits session' input outputs) : Fits session input outputs := by
  have hcount : session'.outputs.length = session.outputs.length := by
    simpa using congrArg List.length hlayers
  refine ⟨hcount ▸ h.enough, fun i output buffer hi hbuffer => ?_, ?_⟩
  · have hlayer := congrArg (·[i]?) hlayers
    simp only [List.getElem?_map, hi, Option.map_some] at hlayer
    obtain ⟨output', hi', hlayer⟩ := Option.map_eq_some_iff.mp hlayer
    have := h.room i output' buffer hi' hbuffer
    rwa [OutputBuffer.denseSize, hlayer] at this
  · rw [← hexecutable]
    exact h.covered

theorem stageInput_congr {session session' : Session}
    (hexecutable : session'.executable = session.executable) (input : Bytes) :
    session'.stageInput input = session.stageInput input := by
  obtain ⟨executable, _⟩ := session
  subst hexecutable
  rfl

/-- **Results do not depend on history.** Take a freshly loaded session and any earlier invocations
    of it, over any streams and however they ended. A further invocation that ends well gives the
    event and the outputs that it gives, with the same input and the same replies, on a copy that is
    freshly loaded from the executable; and both leave the same session. -/
theorem invoke_independent_of_history {executable : Executable} {session : Session}
    (hload : load executable = .ok session) (history : List Earlier) {stream : DataStream σ}
    {stream' : DataStream σ'} {alike : σ → σ' → Prop} (hkeeps : stream.KeepsSize)
    (hreplies : stream.RepliesAlike stream' alike) {state : σ} {state' : σ'}
    (hstate : alike state state') (input : Bytes) (outputs : List Bytes) {event : EventRecord}
    (hok : ((session.after history).invoke stream input outputs state).outcome = .ok event) :
    ∃ copy, load (session.after history).executable = .ok copy ∧
      let run := (session.after history).invoke stream input outputs state
      let run' := copy.invoke stream' input outputs state'
      run'.outcome = .ok event ∧ run'.outputs = run.outputs ∧ run'.session = run.session := by
  obtain ⟨hexecutable, hagrees⟩ := agreesOff_after session history
  have hloaded : session.executable = executable := by
    obtain ⟨fresh, -, hfresh⟩ := bind_ok_iff.mp hload
    cases hfresh
    rfl
  refine ⟨session, by rw [hexecutable, hloaded, hload], ?_⟩
  obtain ⟨hfits, staged, tensors, after, hstaged, hexecute⟩ := execute_of_invoke hok
  rw [invoke_of_execute hfits hstaged hexecute]
  rw [stageInput_congr hexecutable] at hstaged
  rw [hexecutable] at hexecute
  have hstep : InStep alike session.executable.hints ⟨(session.after history).outputs, state⟩
      ⟨session.outputs, state'⟩ := ⟨hagrees.symm, hstate⟩
  obtain ⟨after', hexecute', houtputs⟩ := hstep.execute hkeeps hreplies hexecute
  rw [invoke_of_execute (hfits.congr hexecutable hagrees.layers.symm) hstaged hexecute', houtputs,
    hexecutable]
  exact ⟨rfl, rfl, rfl⟩

theorem keepsSize_replyStream : ReplyStream.stream.KeepsSize := ReplyStream.length_receive

/-- A stream that fills buffers from a queue overwrites them. -/
theorem overwrites_replyStream : ReplyStream.stream.Overwrites := by
  intro buffer buffer' state hlength hok
  change (ReplyStream.receive buffer state).1.outcome = .ok () at hok
  change ReplyStream.receive buffer' state = ReplyStream.receive buffer state
  unfold ReplyStream.receive at hok ⊢
  rw [hlength]
  split
  · rename_i hnote
    rw [hnote] at hok
    cases hok
  · rfl

/-- An invocation that fails after it has filled a scratch leaves no trace in the next one. -/
theorem invoke_independent_of_failure :
    let executable : Executable :=
      { outputs := [.dense "out" .fixedPoint8 1 1 4]
        hints := [.range .outputActivation "out" 0 4, .range .outputActivation "out" 0 2] }
    let session : Session := ⟨executable, [⟨.dense "out" .fixedPoint8 1 1 4, [0, 0, 0, 0]⟩]⟩
    let failed : Session.Earlier :=
      { State := ReplyStream, stream := ReplyStream.stream,
        keepsSize := keepsSize_replyStream, input := [], outputs := [[0, 0, 0, 0]],
        state := { replies := [9, 9, 9, 9], failing := some 2 } }
    let state : ReplyStream := { replies := [1, 2, 3, 4, 5, 6] }
    load executable = .ok session ∧ session.after [failed] ≠ session ∧
      ((session.after [failed]).invoke ReplyStream.stream [] [[0, 0, 0, 0]] state).outcome =
        .ok ReplyStream.event ∧
      ∃ copy, load (session.after [failed]).executable = .ok copy ∧
        let run := (session.after [failed]).invoke ReplyStream.stream [] [[0, 0, 0, 0]] state
        let run' := copy.invoke ReplyStream.stream [] [[0, 0, 0, 0]] state
        run'.outcome = .ok ReplyStream.event ∧ run'.outputs = run.outputs ∧
          run'.session = run.session := by
  intro executable session failed state
  have hload : load executable = .ok session := rfl
  have hok : ((session.after [failed]).invoke ReplyStream.stream [] [[0, 0, 0, 0]] state).outcome =
      .ok ReplyStream.event := by decide
  exact ⟨hload, by decide, hok, invoke_independent_of_history hload [failed]
    keepsSize_replyStream overwrites_replyStream.repliesAlike rfl [] [[0, 0, 0, 0]] hok⟩

end Session

end TensorLink

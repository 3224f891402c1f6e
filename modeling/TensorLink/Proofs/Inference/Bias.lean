import TensorLink.Proofs.Inference.Atomicity
import TensorLink.Proofs.Octets

/-!
# The bias of an output

The tensor of an output holds the elements of all executions, but the bias is removed from those of
the first execution only. A signed tensor is free of it exactly if there are no other elements.

Results:
* `flipsTops_flipSigns`: what `flipSigns` flips.
* `FlipsTops.count_eq`: a change of top bits shows how many elements it has changed.
* `Session.unbiased_iff_once`: when the tensor of a signed output is free of the bias, also after an
  inference.
-/

namespace TensorLink

/-! ## Specification -/

/-- The top bit of the last octet of each of the first `count` elements is flipped, and no other
    bit. -/
structure FlipsTops (size count : Nat) (bytes bytes' : Bytes) : Prop where
  length_eq : bytes'.length = bytes.length
  flipped : ∀ element < count, bytes'[element * size + (size - 1)]? =
    bytes[element * size + (size - 1)]?.map (· ^^^ 0x80)
  kept : ∀ position, (∀ element < count, position ≠ element * size + (size - 1)) →
    bytes'[position]? = bytes[position]?

/-- `tensor` is `dense` without the bias, in every element of every execution. -/
def Unbiased (layer : Layer) (dense tensor : Bytes) : Prop :=
  FlipsTops layer.type.size (layer.elements * layer.executions) dense tensor

/-! ## Which elements are flipped -/

theorem endsElement_iff {size count position : Nat} (hsize : 0 < size) :
    endsElement size count position = true ↔
      ∃ element < count, position = element * size + (size - 1) := by
  simp only [endsElement, Bool.and_eq_true, decide_eq_true_eq, beq_iff_eq]
  constructor
  · rintro ⟨hlt, hmod⟩
    refine ⟨position / size, Nat.div_lt_of_lt_mul hlt, ?_⟩
    rw [← hmod, Nat.mul_comm, Nat.div_add_mod]
  · rintro ⟨element, hlt, rfl⟩
    have hmul := Nat.mul_le_mul_left size hlt
    rw [Nat.mul_succ, Nat.mul_comm] at hmul
    exact ⟨by omega, by rw [Nat.mul_comm, Nat.mul_add_mod, Nat.mod_eq_of_lt (by omega)]⟩

theorem flipsTops_flipSigns {size : Nat} (hsize : 0 < size) (count : Nat) (bytes : Bytes) :
    FlipsTops size count bytes (flipSigns size count bytes) := by
  refine ⟨length_flipSigns size count bytes, fun element hlt => ?_, fun position h => ?_⟩
  · have hends : endsElement size count (element * size + (size - 1)) = true :=
      (endsElement_iff hsize).mpr ⟨element, hlt, rfl⟩
    rw [getElem?_flipSigns, hends]
    rfl
  · have hends : endsElement size count position = false := by
      rw [Bool.eq_false_iff, ne_eq, endsElement_iff hsize]
      rintro ⟨element, hlt, heq⟩
      exact h element hlt heq
    rw [getElem?_flipSigns, hends]
    simp

theorem FlipsTops.le_of_le {size count count' : Nat} {bytes bytes' : Bytes} (hsize : 0 < size)
    (h : FlipsTops size count bytes bytes') (h' : FlipsTops size count' bytes bytes')
    (hlen : size * count' ≤ bytes.length) : count' ≤ count := by
  by_contra hlt
  -- The element after the first `count` ones is flipped by one change and kept by the other.
  have hmul := Nat.mul_le_mul_left size (show count + 1 ≤ count' by omega)
  rw [Nat.mul_succ] at hmul
  have hflipped := h'.flipped count (by omega)
  have hkept := h.kept (count * size + (size - 1)) (by
    intro element hlt heq
    have := Nat.eq_of_mul_eq_mul_right hsize (show count * size = element * size by omega)
    omega)
  rw [hkept, Nat.mul_comm, List.getElem?_eq_getElem (by omega)] at hflipped
  exact Bytes.xor_ne_self (by decide) _ (Option.some.inj hflipped).symm

/-- A change of top bits shows how many elements it has changed. -/
theorem FlipsTops.count_eq {size count count' : Nat} {bytes bytes' : Bytes} (hsize : 0 < size)
    (h : FlipsTops size count bytes bytes') (h' : FlipsTops size count' bytes bytes')
    (hlen : size * count ≤ bytes.length) (hlen' : size * count' ≤ bytes.length) :
    count = count' :=
  Nat.le_antisymm (h'.le_of_le hsize h hlen) (h.le_of_le hsize h' hlen')

/-! ## Removing the bias -/

namespace OutputBuffer

variable {output : OutputBuffer}

/-- Removing the bias of a signed layer flips the elements of one execution. -/
theorem removeBias_eq_ok_iff (hsigned : output.layer.type.isSigned = true) {dense tensor : Bytes} :
    output.removeBias dense = .ok tensor ↔
      output.denseSize ≤ dense.length ∧
        output.layer.type.size * output.layer.elements ≤ dense.length ∧
        tensor = flipSigns output.layer.type.size output.layer.elements dense := by
  unfold removeBias transformSigns
  rw [if_pos hsigned]
  dsimp only
  split <;> rename_i hdense
  · exact iff_of_false (by simp) fun h => by omega
  · split <;> rename_i hlen
    · rw [Except.ok.injEq]
      exact ⟨fun h => ⟨by omega, hlen, h.symm⟩, fun h => h.2.2.symm⟩
    · exact iff_of_false (by simp) fun h => hlen h.2.1

theorem denseSize_eq : output.denseSize =
    output.layer.type.size * (output.layer.elements * output.layer.executions) := by
  rw [denseSize, Layer.actualSize_eq, Nat.mul_comm]

theorem once_iff : output.layer.elements = output.layer.elements * output.layer.executions ↔
    output.layer.executions = 1 ∨ output.layer.elements = 0 := by
  rw [eq_comm]
  by_cases hempty : output.layer.elements = 0
  · simp [hempty]
  · rw [Nat.mul_eq_left hempty, or_iff_left hempty]

/-- What is left after the bias has been removed is free of it exactly if there was one execution,
    or nothing to remove it from. -/
theorem unbiased_removeBias_iff (hsigned : output.layer.type.isSigned = true) {dense tensor : Bytes}
    (h : output.removeBias dense = .ok tensor) :
    Unbiased output.layer dense tensor ↔
      output.layer.executions = 1 ∨ output.layer.elements = 0 := by
  obtain ⟨hdense, hlen, rfl⟩ := (removeBias_eq_ok_iff hsigned).mp h
  have hsize := output.layer.type.size_pos
  have hflips := flipsTops_flipSigns hsize output.layer.elements dense
  rw [denseSize_eq] at hdense
  rw [← once_iff]
  constructor
  · intro h
    exact hflips.count_eq hsize h hlen hdense
  · intro heq
    rw [Unbiased, ← heq]
    exact hflips

theorem removeBias_of_once (hsigned : output.layer.type.isSigned = true) {dense : Bytes}
    (hdense : output.denseSize ≤ dense.length)
    (honce : output.layer.executions = 1 ∨ output.layer.elements = 0) :
    ∃ tensor, output.removeBias dense = .ok tensor := by
  have hlen := hdense
  rw [denseSize_eq, ← once_iff.mpr honce] at hlen
  exact ⟨_, (removeBias_eq_ok_iff hsigned).mpr ⟨hdense, hlen, rfl⟩⟩

/-- A tensor is what is left of the dense copy of a scratch after the bias has been removed. -/
theorem tensor_eq_ok_iff {tensor : Bytes} :
    output.tensor = .ok tensor ↔
      ∃ dense, output.relayout (Bytes.zeros output.denseSize) = .ok () dense ∧
        output.removeBias dense = .ok tensor := by
  unfold OutputBuffer.tensor
  split <;> rename_i hrelayout
  · rw [hrelayout]
    simp
  · rw [hrelayout]
    simp

end OutputBuffer

namespace Session

open OutputBuffer

theorem delivered_of_invoke {σ : Type} {stream : DataStream σ} {session : Session} {input : Bytes}
    {outputs : List Bytes} {state : σ} {event : EventRecord}
    (h : (session.invoke stream input outputs state).outcome = .ok event) :
    Delivered session (session.invoke stream input outputs state).session outputs
      (session.invoke stream input outputs state).outputs := by
  obtain ⟨hfits, staged, tensors, running, hstaged, hexecute⟩ := execute_of_invoke h
  rw [invoke_of_execute hfits hstaged hexecute]
  exact delivered_of_execute hfits hexecute

/-- **The bias is removed from one execution.** Of a signed output, the dense tensor is freed of the
    bias exactly if the output is produced once per inference or has no elements. The same holds of
    what a successful inference leaves in the caller's buffer for the dense copy of the scratch. -/
theorem unbiased_iff_once (output : OutputBuffer) (hsigned : output.layer.type.isSigned = true) :
    (∀ dense : Bytes, output.denseSize ≤ dense.length →
      ((∃ tensor, output.removeBias dense = .ok tensor ∧ Unbiased output.layer dense tensor) ↔
        output.layer.executions = 1 ∨ output.layer.elements = 0)) ∧
    ∀ (σ : Type) (stream : DataStream σ) (session : Session) (input : Bytes) (outputs : List Bytes)
      (state : σ) (event : EventRecord) (i : Nat),
      let run := session.invoke stream input outputs state
      run.outcome = .ok event → run.session.outputs[i]? = some output →
        ∃ dense buffer, output.relayout (Bytes.zeros output.denseSize) = .ok () dense ∧
          run.outputs[i]? = some buffer ∧
          (Unbiased output.layer dense (buffer.take output.denseSize) ↔
            output.layer.executions = 1 ∨ output.layer.elements = 0) := by
  refine ⟨fun dense hdense => ?_, ?_⟩
  · constructor
    · rintro ⟨tensor, htensor, hunbiased⟩
      exact (unbiased_removeBias_iff hsigned htensor).mp hunbiased
    · intro honce
      obtain ⟨tensor, htensor⟩ := removeBias_of_once hsigned hdense honce
      exact ⟨tensor, htensor, (unbiased_removeBias_iff hsigned htensor).mpr honce⟩
  · intro σ stream session input outputs state event i run hrun houtput
    obtain ⟨tensor, buffer, htensor, hlength, -, hbuffer⟩ :=
      (delivered_of_invoke hrun).written i output houtput
    obtain ⟨dense, hdense, hremoved⟩ := tensor_eq_ok_iff.mp htensor
    refine ⟨dense, _, hdense, hbuffer, ?_⟩
    rw [← hlength, List.take_left']
    · exact unbiased_removeBias_iff hsigned hremoved
    · rfl

/-- An inference with one signed output that is produced once leaves it free of the bias. -/
theorem unbiased_octets :
    let output : OutputBuffer := ⟨.dense "out" .signedFixedPoint8 1 1 2, [0x7F, 0x81]⟩
    let session : Session := ⟨{ outputs := [output.layer] }, [output]⟩
    let stream : DataStream Unit :=
      { send := fun _ _ => pure ()
        receive := fun buffer state => (⟨buffer, .ok ()⟩, state)
        readEvent := pure ⟨0, 0, 0⟩ }
    let run := session.invoke stream [] [[0, 0]] ()
    output.layer.type.isSigned = true ∧ run.outcome = .ok ⟨0, 0, 0⟩ ∧
      run.session.outputs[0]? = some output ∧
      (∃ tensor, output.removeBias [0x7F, 0x81] = .ok tensor ∧
        Unbiased output.layer [0x7F, 0x81] tensor) ∧
      ∃ dense buffer, output.relayout (Bytes.zeros output.denseSize) = .ok () dense ∧
        run.outputs[0]? = some buffer ∧
        Unbiased output.layer dense (buffer.take output.denseSize) := by
  intro output session stream run
  have hsigned : output.layer.type.isSigned = true := rfl
  have honce : output.layer.executions = 1 ∨ output.layer.elements = 0 := .inl rfl
  have hrun : run.outcome = .ok ⟨0, 0, 0⟩ := rfl
  have houtput : run.session.outputs[0]? = some output := rfl
  obtain ⟨hremoved, hinvoked⟩ := unbiased_iff_once output hsigned
  obtain ⟨dense, buffer, hdense, hbuffer, hunbiased⟩ :=
    hinvoked Unit stream session [] [[0, 0]] () ⟨0, 0, 0⟩ 0 hrun houtput
  exact ⟨hsigned, hrun, houtput, (hremoved [0x7F, 0x81] (by decide)).mpr honce,
    dense, buffer, hdense, hbuffer, hunbiased.mpr honce⟩

/-- Of two executions, the second keeps its bias. -/
theorem not_unbiased_of_twice :
    let layer : Layer := { Layer.dense "out" .signedFixedPoint8 1 1 2 with executions := 2 }
    let output : OutputBuffer := ⟨layer, Bytes.zeros 4⟩
    OutputBuffer.ofLayer layer = .ok output ∧ layer.type.isSigned = true ∧
      output.denseSize ≤ (Bytes.zeros 4).length ∧
      output.removeBias (Bytes.zeros 4) = .ok [0x80, 0x80, 0x00, 0x00] ∧
      ¬∃ tensor, output.removeBias (Bytes.zeros 4) = .ok tensor ∧
        Unbiased layer (Bytes.zeros 4) tensor := by
  intro layer output
  refine ⟨rfl, rfl, by decide, by decide, ?_⟩
  rintro ⟨tensor, htensor, hunbiased⟩
  have hsigned : output.layer.type.isSigned = true := rfl
  have honce := (unbiased_removeBias_iff hsigned htensor).mp hunbiased
  revert honce
  decide

end Session

end TensorLink

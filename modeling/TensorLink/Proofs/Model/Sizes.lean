import TensorLink.Model.OutputBuffer
import TensorLink.Proofs.Model.Reencoding

/-!
# Sizes in words of 64 bits

The sizes of a layer are products of the numbers in its table. Reading a model bounds each number by
31 bits, and their products by nothing. A machine of 64 bits, which multiplies modulo `2 ^ 64`, gets
the sizes right as long as they fit a word.

Results:
* `Layer.chipSize_lt`, `Layer.actualSize_lt_of_oneDimensional`: the size on the chip, and the
  logical size of a layer with channels only, always fit a word.
* `Executable.sizesFit_iff`: for a layer that was read, all sizes fit exactly if it has channels
  only or its logical size fits.
* `Executable.not_sizesFit_of_decode`: a buffer that is read, with a layer whose logical size is
  `2 ^ 64`.
-/

namespace TensorLink

namespace Layer

/-- The sizes of a layer are below `2 ^ 64`, and a machine of 64 bits gets them right, also as the
    sizes of the scratch and of the dense tensor of its output buffer. -/
structure SizesFit (layer : Layer) : Prop where
  elements_lt : layer.elements < 2 ^ 64
  actualSize_lt : layer.actualSize < 2 ^ 64
  chipSize_lt : layer.chipSize < 2 ^ 64
  elementsWord : layer.elementsWord.toNat = layer.elements
  actualSizeWord : layer.actualSizeWord.toNat = layer.actualSize
  chipSizeWord : layer.chipSizeWord.toNat = layer.chipSize
  scratch : ∀ buffer, OutputBuffer.ofLayer layer = .ok buffer →
    buffer.scratch.length = layer.chipSizeWord.toNat
  tensor : ∀ buffer, OutputBuffer.ofLayer layer = .ok buffer →
    buffer.denseSize = layer.actualSizeWord.toNat

theorem sizesFit_of_lt {layer : Layer} (helements : layer.elements < 2 ^ 64)
    (hactual : layer.actualSize < 2 ^ 64) (hchip : layer.chipSize < 2 ^ 64) : layer.SizesFit := by
  have hactualWord : layer.actualSizeWord.toNat = layer.actualSize := by
    rw [actualSizeWord_eq]
    exact UInt64.toNat_ofNat_of_lt hactual
  have hchipWord : layer.chipSizeWord.toNat = layer.chipSize := by
    rw [chipSizeWord_eq]
    exact UInt64.toNat_ofNat_of_lt hchip
  refine ⟨helements, hactual, hchip, ?_, hactualWord, hchipWord, fun buffer hmade => ?_,
    fun buffer hmade => ?_⟩
  · rw [elementsWord_eq]
    exact UInt64.toNat_ofNat_of_lt helements
  · rw [OutputBuffer.length_scratch hmade, hchipWord]
  · obtain ⟨rfl, -⟩ := OutputBuffer.ofLayer_eq_ok_iff.mp hmade
    exact hactualWord.symm

/-! ## Products of numbers of 31 bits -/

/-- The size on the chip is a product of two numbers of 31 bits. -/
theorem chipSize_lt {layer : Layer} (h : layer.Representable) : layer.chipSize < 2 ^ 62 :=
  calc layer.chipSize
      < 2 ^ 31 * 2 ^ 31 := Nat.mul_lt_mul'' h.paddedSize h.executions
    _ = 2 ^ 62 := by decide

theorem size_le (type : DataType) : type.size ≤ 2 ^ 2 := by cases type <;> decide

/-- The logical size of a layer with channels only is a product of two numbers of 31 bits and the
    size of an element. -/
theorem actualSize_lt_of_oneDimensional {layer : Layer} (h : layer.Representable)
    (hdim : layer.isOneDimensional = true) : layer.actualSize < 2 ^ 64 := by
  have hone : layer.columns = 1 ∧ layer.rows = 1 := by simpa [isOneDimensional] using hdim
  have hproduct : layer.channels * layer.executions < 2 ^ 31 * 2 ^ 31 :=
    Nat.mul_lt_mul'' h.channels h.executions
  calc layer.actualSize
      = layer.channels * layer.executions * layer.type.size := by
        rw [actualSize_eq, elements, hone.1, hone.2, Nat.one_mul]
    _ ≤ layer.channels * layer.executions * 2 ^ 2 := Nat.mul_le_mul_left _ (size_le _)
    _ < 2 ^ 31 * 2 ^ 31 * 2 ^ 2 := Nat.mul_lt_mul_of_pos_right hproduct (by decide)
    _ = 2 ^ 64 := by decide

/-- A layer has no more elements than octets. -/
theorem elements_le_actualSize {layer : Layer} (h : layer.Representable) :
    layer.elements ≤ layer.actualSize :=
  calc layer.elements
      ≤ layer.elements * layer.type.size := Nat.le_mul_of_pos_right _ layer.type.size_pos
    _ ≤ layer.elements * layer.type.size * layer.executions := Nat.le_mul_of_pos_right _ h.produced

end Layer

namespace Executable

/-- **Sizes.** For every buffer that holds an executable, and every layer of it: the sizes of the
    layer and of its buffers fit a word exactly if the layer has channels only, or its logical size
    is below `2 ^ 64`. -/
theorem sizesFit_iff {buffer : Bytes} {executable : Executable} {layer : Layer}
    (hdecode : decode buffer = .ok executable)
    (hlayer : layer ∈ executable.inputs ++ executable.outputs) :
    layer.SizesFit ↔ layer.isOneDimensional = true ∨ layer.actualSize < 2 ^ 64 := by
  have hall := representable_of_decode hdecode
  have hrepresentable : layer.Representable :=
    (List.mem_append.mp hlayer).elim (hall.inputs layer) (hall.outputs layer)
  constructor
  · intro h
    exact .inr h.actualSize_lt
  · intro h
    have hactual : layer.actualSize < 2 ^ 64 :=
      h.elim (Layer.actualSize_lt_of_oneDimensional hrepresentable) id
    have hchip : layer.chipSize < 2 ^ 64 :=
      (Layer.chipSize_lt hrepresentable).trans (by decide)
    exact Layer.sizesFit_of_lt ((Layer.elements_le_actualSize hrepresentable).trans_lt hactual)
      hactual hchip

/-- The sizes of both layers of a buffer in which they are shared fit a word. -/
theorem sizesFit_sharedBuffer :
    let layer : Layer := .dense "a" .fixedPoint8 0 0 0
    let executable : Executable := { inputs := [layer, layer], outputs := [layer, layer] }
    decode sharedBuffer = .ok executable ∧ layer ∈ executable.inputs ++ executable.outputs ∧
      layer.SizesFit := by
  intro layer executable
  have hread : decode sharedBuffer = .ok executable := by decide +kernel
  have hlayer : layer ∈ executable.inputs ++ executable.outputs := List.mem_cons_self
  exact ⟨hread, hlayer, (sizesFit_iff hread hlayer).mpr (.inr (by decide))⟩

/-- Four rows of `2 ^ 30` channels of four octets, produced `2 ^ 30` times per inference. -/
def wrappingLayer : Layer where
  name := "wrapping"
  paddedSize := 0
  rows := 4
  columns := 1
  channels := 2 ^ 30
  type := .single
  executions := 2 ^ 30
  layout := some ⟨[0, 0, 0, 0], [0], [0], [0], [0, 1, 2, 3], [4]⟩

theorem decode_wrappingLayer :
    decode (encode { outputs := [wrappingLayer] }) = .ok { outputs := [wrappingLayer] } := by
  apply decode_encode_of_representable
  · refine ⟨by simp, by simp, fun layer hmem => ?_⟩
    obtain rfl := List.mem_singleton.mp hmem
    exact ⟨by decide, by decide, by decide, by decide, by decide, by decide⟩
  · decide +kernel

/-- Numbers of 31 bits do not bound their products: a buffer that is read may hold a layer whose
    logical size is `2 ^ 64`, which a machine of 64 bits takes for no octets at all. -/
theorem not_sizesFit_of_decode :
    (¬∀ (buffer : Bytes) (executable : Executable) (layer : Layer),
      decode buffer = .ok executable → layer ∈ executable.inputs ++ executable.outputs →
        layer.SizesFit) ∧
      wrappingLayer.actualSize = 2 ^ 64 ∧ wrappingLayer.actualSizeWord = 0 := by
  refine ⟨fun h => ?_, by decide, by decide⟩
  have hfit := h _ _ wrappingLayer decode_wrappingLayer (by simp)
  exact absurd hfit.actualSize_lt (by decide)

end Executable

end TensorLink

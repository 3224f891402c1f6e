import TensorLink.Proofs.Relayout.Coverage
import TensorLink.Proofs.Relayout.Tensor

/-!
# Layers with channels only

A layer with channels only lies in the scratch execution by execution, each one padded to the size
that the chip gives it. Its copying goes one of three ways: one execution is copied alone, several
without padding are copied at once, and several with padding are copied one by one, where the
padding is worked out from the sizes of all executions. All three are one formula.

Results:
* `mul_executionStride`: every execution is read where the chip has put it.
* `copyVector_returns_iff`: when the copying ends well, for any content of the scratch.
* `relayout_strips_padding`: relayout ends well exactly if the channels fit into the padded size and
  the destination holds all executions, and then it takes the channels and leaves the padding.
-/

namespace TensorLink.OutputBuffer

open Sequencing

variable {buffer : OutputBuffer}

/-! ## Specification -/

/-- `dest'` is `dest` with the channels of every execution in front, one execution after the other,
    each taken from the place where the chip has put it. -/
structure Stripped (buffer : OutputBuffer) (dest dest' : Bytes) : Prop where
  length_eq : dest'.length = dest.length
  taken : ∀ e < buffer.layer.executions, ∀ k < buffer.positionSize,
    dest'[e * buffer.positionSize + k]? = buffer.scratch[e * buffer.layer.paddedSize + k]?
  kept : ∀ i, buffer.layer.executions * buffer.positionSize ≤ i → dest'[i]? = dest[i]?

/-! ## Where the executions are read -/

section Stride

variable (hdim : buffer.layer.isOneDimensional = true)

include hdim

theorem actualSize_of_oneDimensional :
    buffer.layer.actualSize = buffer.layer.executions * buffer.positionSize := by
  have hcopied := copiedSize_of_oneDimensional hdim
  rw [copiedSize, copiedPositions, if_pos hdim] at hcopied
  exact hcopied.symm

/-- Executions lie as far apart as the chip puts them, but no closer than their channels. -/
theorem executionStride_of_ne_one (hexecutions : 0 < buffer.layer.executions)
    (hmany : buffer.layer.executions ≠ 1) :
    buffer.executionStride = max buffer.positionSize buffer.layer.paddedSize := by
  have hchip : buffer.layer.chipSize = buffer.layer.executions * buffer.layer.paddedSize :=
    Nat.mul_comm ..
  unfold executionStride
  rw [actualSize_of_oneDimensional hdim, hchip]
  split_ifs with h
  · have hequal := Nat.eq_of_mul_eq_mul_left hexecutions (h.resolve_left hmany)
    rw [hequal, max_self]
  · rw [← Nat.mul_sub, Nat.mul_div_cancel_left _ hexecutions]
    omega

/-- If the channels fit into the padded size, every execution is read where the chip has put it. -/
theorem mul_executionStride (hfits : buffer.positionSize ≤ buffer.layer.paddedSize) {e : Nat}
    (he : e < buffer.layer.executions) :
    e * buffer.executionStride = e * buffer.layer.paddedSize := by
  by_cases honce : buffer.layer.executions = 1
  · rw [show e = 0 by omega, Nat.zero_mul, Nat.zero_mul]
  · rw [executionStride_of_ne_one hdim (by omega) honce, max_eq_right hfits]

/-- All executions are read inside a scratch of the size of the layer on the chip exactly if the
    channels fit into the padded size. -/
theorem executions_inside_iff (hexecutions : 0 < buffer.layer.executions) :
    (∀ e < buffer.layer.executions,
        e * buffer.executionStride + buffer.positionSize ≤ buffer.layer.chipSize) ↔
      buffer.positionSize ≤ buffer.layer.paddedSize := by
  have hchip : buffer.layer.chipSize = buffer.layer.executions * buffer.layer.paddedSize :=
    Nat.mul_comm ..
  rw [hchip]
  constructor
  · intro hinside
    -- the last execution needs room for all
    have hlast := hinside (buffer.layer.executions - 1) (by omega)
    have hbefore : (buffer.layer.executions - 1) * buffer.positionSize ≤
        (buffer.layer.executions - 1) * buffer.executionStride := by
      by_cases honce : buffer.layer.executions = 1
      · rw [honce, Nat.sub_self, Nat.zero_mul, Nat.zero_mul]
      · rw [executionStride_of_ne_one hdim hexecutions honce]
        exact Nat.mul_le_mul_left _ (le_max_left ..)
    have hall : buffer.layer.executions * buffer.positionSize =
        (buffer.layer.executions - 1) * buffer.positionSize + buffer.positionSize := by
      rw [← Nat.succ_mul, Nat.succ_eq_add_one, Nat.sub_add_cancel hexecutions]
    exact Nat.le_of_mul_le_mul_left (by omega) hexecutions
  · intro hfits e he
    calc e * buffer.executionStride + buffer.positionSize
        ≤ e * buffer.layer.paddedSize + buffer.layer.paddedSize := by
          rw [mul_executionStride hdim hfits he]
          exact Nat.add_le_add_left hfits _
      _ = (e + 1) * buffer.layer.paddedSize := (Nat.succ_mul ..).symm
      _ ≤ buffer.layer.executions * buffer.layer.paddedSize := Nat.mul_le_mul_right _ he

end Stride

/-! ## When the copying ends well -/

/-- Positions that are copied one after the other fit into the destination. -/
theorem room_of_positions {source : Nat → Nat} {count : Nat} {dest dest' : Bytes}
    (hcount : 0 < count)
    (h : (List.range count).forM
      (fun n => buffer.copy (n * buffer.positionSize) (source n) buffer.positionSize) dest =
        .ok () dest') :
    count * buffer.positionSize ≤ dest.length := by
  obtain ⟨last, rfl⟩ := Nat.exists_eq_succ_of_ne_zero hcount.ne'
  obtain ⟨mid, hfront, hlast⟩ := forM_range_succ_eq_ok_iff.mp h
  have hlength : mid.length = dest.length :=
    (Keeps.forM (fun _ => keeps_copy buffer _ _ _) _).of_ok hfront
  obtain ⟨-, hroom, -⟩ := copy_eq_ok_iff.mp hlast
  rw [← hlength, Nat.succ_mul]
  exact hroom

/-- The copying ends well exactly if all executions are read inside the scratch, and written inside
    the destination. -/
theorem copyVector_returns_iff (hexecutions : 0 < buffer.layer.executions) {dest : Bytes} :
    (∃ dest', buffer.copyVector dest = .ok () dest') ↔
      (∀ e < buffer.layer.executions,
        e * buffer.executionStride + buffer.positionSize ≤ buffer.scratch.length) ∧
      buffer.layer.executions * buffer.positionSize ≤ dest.length := by
  constructor
  · rintro ⟨dest', h⟩
    refine ⟨fun e he => (copied_of_copyVector h).inside e (Nat.zero_le e) (by omega), ?_⟩
    unfold copyVector at h
    dsimp only at h
    split_ifs at h
    · obtain ⟨-, hroom, -⟩ := copy_eq_ok_iff.mp h
      rwa [Nat.zero_add, Nat.mul_comm] at hroom
    · exact room_of_positions hexecutions h
  · rintro ⟨hinside, hroom⟩
    unfold copyVector
    unfold executionStride at hinside
    dsimp only
    split_ifs at hinside ⊢
    · have hlast := hinside (buffer.layer.executions - 1) (by omega)
      rw [← Nat.succ_mul, Nat.succ_eq_add_one, Nat.sub_add_cancel hexecutions] at hlast
      refine ⟨_, copy_eq_ok_iff.mpr ⟨?_, ?_, rfl⟩⟩
      · rwa [Nat.zero_add, Nat.mul_comm]
      · rwa [Nat.zero_add, Nat.mul_comm]
    · let stride := buffer.positionSize +
        (buffer.layer.chipSize - buffer.layer.actualSize) / buffer.layer.executions
      have hinside' : ∀ e < buffer.layer.executions,
          (0 + e) * stride + buffer.positionSize ≤ buffer.scratch.length := by
        intro e he
        rw [Nat.zero_add]
        exact hinside e he
      obtain ⟨dest', h⟩ := @run_returns buffer 0 0 stride (· * stride) _ dest
        (fun e _ => by rw [Nat.zero_add, Nat.zero_add]) hinside' (by rwa [Nat.zero_add])
      exact ⟨dest', by simpa only [Nat.zero_add] using h⟩

/-! ## Main theorem -/

/-- **Padding is stripped.** For every layer with channels only that is executed, every content of
    its scratch and every destination: relayout ends well exactly if the channels fit into the
    padded size of an execution and the destination has room for those of all executions. It then
    takes the channels of every execution from the place where the chip has put them, and leaves
    all that follows in the destination as it was. -/
theorem relayout_strips_padding (buffer : OutputBuffer) (hrows : buffer.layer.rows = 1)
    (hcolumns : buffer.layer.columns = 1) (hexecutions : 1 ≤ buffer.layer.executions)
    (hscratch : buffer.scratch.length = buffer.layer.chipSize) (dest : Bytes) :
    ((∃ dest', buffer.relayout dest = .ok () dest') ↔
        buffer.positionSize ≤ buffer.layer.paddedSize ∧
          buffer.layer.executions * buffer.positionSize ≤ dest.length) ∧
      ∀ dest', buffer.relayout dest = .ok () dest' → Stripped buffer dest dest' := by
  have hdim : buffer.layer.isOneDimensional = true := by
    rw [Layer.isOneDimensional, hrows, hcolumns]
    rfl
  have hreturns : (∃ dest', buffer.copyVector dest = .ok () dest') ↔
      buffer.positionSize ≤ buffer.layer.paddedSize ∧
        buffer.layer.executions * buffer.positionSize ≤ dest.length := by
    rw [copyVector_returns_iff hexecutions, hscratch, executions_inside_iff hdim hexecutions]
  rw [relayout, if_pos hdim]
  refine ⟨hreturns, fun dest' h => ?_⟩
  have hcopied := copied_of_copyVector h
  obtain ⟨hfits, -⟩ := hreturns.mp ⟨dest', h⟩
  refine ⟨hcopied.length_eq, fun e he k hk => ?_, fun i hi => ?_⟩
  · rw [hcopied.gathered e (Nat.zero_le e) (by omega) k hk, mul_executionStride hdim hfits he]
  · exact hcopied.kept i (.inr (by rwa [Nat.zero_add]))

/-- Three channels, padded to four octets, of two executions. -/
theorem relayout_strips_padding_twice :
    let layer : Layer :=
      { Layer.dense "vector" .fixedPoint8 1 1 3 with paddedSize := 4, executions := 2 }
    let buffer : OutputBuffer := ⟨layer, [1, 2, 3, 0, 4, 5, 6, 0]⟩
    layer.rows = 1 ∧ layer.columns = 1 ∧ 1 ≤ layer.executions ∧
      buffer.scratch.length = layer.chipSize ∧
      ∃ dest', buffer.relayout [9, 9, 9, 9, 9, 9, 9] = .ok () dest' ∧
        Stripped buffer [9, 9, 9, 9, 9, 9, 9] dest' := by
  intro layer buffer
  have hscratch : buffer.scratch.length = layer.chipSize := rfl
  obtain ⟨hreturns, hstripped⟩ := relayout_strips_padding buffer rfl rfl (by decide) hscratch
    [9, 9, 9, 9, 9, 9, 9]
  obtain ⟨dest', hrun⟩ := hreturns.mpr (by decide)
  exact ⟨rfl, rfl, by decide, hscratch, dest', hrun, hstripped dest' hrun⟩

end TensorLink.OutputBuffer

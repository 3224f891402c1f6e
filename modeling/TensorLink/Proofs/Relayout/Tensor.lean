import TensorLink.Model.OutputBuffer
import TensorLink.Proofs.Sequencing

/-!
# The size of a tensor

Copying writes inside the destination only, so that the tensor of an output buffer is as large as
the destination that it was copied to.

Results:
* `keeps_relayout`: relayout keeps the length of the destination, also where it fails.
* `length_tensor`: the tensor of an output buffer has its dense size.
-/

namespace TensorLink.OutputBuffer

open Sequencing

variable (buffer : OutputBuffer)

theorem keeps_known {α : Type} (e : Except ModelError α) : Keeps List.length (known e) := by
  cases e with
  | ok a => exact Keeps.pure a
  | error error => exact Keeps.throw error

theorem keeps_copy (start source size : Nat) :
    Keeps List.length (buffer.copy start source size) := by
  unfold copy Bytes.slice?
  split
  · exact Keeps.throw _
  · rename_i octets hslice
    split at hslice
    · rename_i hsource
      cases hslice
      intro dest
      rw [get_bind]
      split
      · rename_i htarget
        apply Bytes.length_overwrite
        rw [List.length_take, List.length_drop]
        omega
      · rfl
    · cases hslice

theorem keeps_copyVector : Keeps List.length buffer.copyVector := by
  unfold copyVector
  dsimp only
  split
  · exact keeps_copy buffer _ _ _
  · exact Keeps.forM (fun execution => keeps_copy buffer _ _ _) _

theorem keeps_copyRow (y : Nat) (row : RowIndex) (stride : Nat) (x : Nat) (runs : List Nat) :
    Keeps List.length (buffer.copyRow y row stride x runs) := by
  induction runs generalizing x with
  | nil => exact Keeps.pure ()
  | cons run runs ih =>
    refine (keeps_known _).bind fun index => (keeps_known _).bind fun source => ?_
    exact (Keeps.forM (fun step => keeps_copy buffer _ _ _) _).bind fun _ => ih (x + run)

theorem keeps_copyTiles : Keeps List.length buffer.copyTiles := by
  refine (keeps_known _).bind fun layout => (keeps_known _).bind fun stride => ?_
  intro dest
  rw [get_bind]
  dsimp only
  split
  · rfl
  · exact Keeps.forM
      (fun y => (keeps_known _).bind fun row => keeps_copyRow buffer y row stride 0 _) _ dest

/-- Relayout keeps the length of the destination, also where it fails. -/
theorem keeps_relayout : Keeps List.length buffer.relayout := by
  unfold relayout
  split
  · exact keeps_copyVector buffer
  · exact keeps_copyTiles buffer

theorem length_removeBias {tensor tensor' : Bytes} (h : buffer.removeBias tensor = .ok tensor') :
    tensor'.length = tensor.length := by
  unfold removeBias transformSigns at h
  split at h
  · dsimp only at h
    split at h
    · cases h
    · split at h
      · cases h
        exact length_flipSigns _ _ _
      · cases h
  · cases h
    rfl

/-- The tensor of an output buffer has its dense size. -/
theorem length_tensor {tensor : Bytes} (h : buffer.tensor = .ok tensor) :
    tensor.length = buffer.denseSize := by
  unfold OutputBuffer.tensor at h
  split at h
  · cases h
  · rename_i dense hrelayout
    rw [length_removeBias buffer h, (keeps_relayout buffer).of_ok hrelayout, Bytes.length_zeros]

end TensorLink.OutputBuffer

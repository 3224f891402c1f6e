import TensorLink.Proofs.Octets
import TensorLink.Proofs.Sequencing
import TensorLink.Simulation.Download
import TensorLink.Task.Download

/-!
# What a firmware loader answers

Results:
* `Loader.control_download`, …: the answer to each request of a download.
* `Loader.program_append`: a block that continues the flash is added to it.
* `Loader.upload_eq`: an upload returns a block of what the loader shows of its flash.
* `firstDifference_modify`: a comparison finds the octet that comes back inverted.
-/

namespace TensorLink

namespace Simulation.Loader

variable (loader : Loader)

/-! ## Requests -/

/-- The loader that has answered one more class request. -/
def traced (request : UInt8) (value : UInt16) (length : Nat) : Loader :=
  { loader with requests := ⟨request, value, length⟩ :: loader.requests }

theorem control_setInterface (number setting : UInt16) :
    control (SetupPacket.setInterface number setting) [] loader = .ok [] loader := by
  have hfamily : (SetupPacket.setInterface number setting).family ≠ SetupPacket.classFamily := by
    change SetupPacket.toInterface &&& SetupPacket.familyMask ≠ SetupPacket.classFamily
    decide
  have hrequest : (SetupPacket.setInterface number setting).request =
      SetupPacket.selectInterface := rfl
  rw [control, if_neg hfamily, if_pos hrequest]
  rfl

variable {loader} in
/-- A class request that the loader knows is answered and recorded. -/
theorem control_of_answer {setup : SetupPacket} {data reply : Bytes} {loader' : Loader}
    (hfamily : setup.family = SetupPacket.classFamily)
    (h : loader.answer setup data = .ok (reply, loader')) :
    control setup data loader = .ok reply (loader'.traced setup.request setup.value
      (if data.isEmpty then reply.length else data.length)) := by
  rw [control, if_pos hfamily, Sequencing.get_bind, h]
  rfl

theorem family_input (request : UInt8) (value number length : UInt16) :
    (DfuRequest.input request value number length).family = SetupPacket.classFamily := by
  change (SetupPacket.inputBit ||| SetupPacket.classFamily ||| SetupPacket.toInterface) &&&
    SetupPacket.familyMask = SetupPacket.classFamily
  decide

theorem family_output (request : UInt8) (value number length : UInt16) :
    (DfuRequest.output request value number length).family = SetupPacket.classFamily := by
  change (SetupPacket.classFamily ||| SetupPacket.toInterface) &&& SetupPacket.familyMask =
    SetupPacket.classFamily
  decide

theorem control_getStatus (value number length : UInt16) :
    control (DfuRequest.input DfuRequest.getStatus value number length) [] loader =
      .ok loader.status.encode (loader.traced DfuRequest.getStatus value 6) :=
  control_of_answer (family_input ..) (by
    simp [answer, DfuRequest.input, DfuRequest.getStatus, DfuRequest.detach, DfuRequest.download,
      DfuRequest.upload])

theorem control_download (block number length : UInt16) {data : Bytes} (hdata : data ≠ []) :
    control (DfuRequest.output DfuRequest.download block number length) data loader =
      .ok [] ({ loader with flash := loader.program block data, state := downloadIdle }.traced
        DfuRequest.download block data.length) := by
  have hpresent : ¬data.isEmpty = true := by simpa using hdata
  have hanswer : loader.answer (DfuRequest.output DfuRequest.download block number length) data =
      .ok ([], { loader with flash := loader.program block data, state := downloadIdle }) := by
    simp [answer, DfuRequest.output, DfuRequest.download, DfuRequest.detach, hdata]
  rw [control_of_answer (family_output ..) hanswer, if_neg hpresent]
  rfl

theorem control_endDownload (block number length : UInt16) :
    control (DfuRequest.output DfuRequest.download block number length) [] loader =
      .ok [] ({ loader with manifested := true, state := manifesting }.traced
        DfuRequest.download block 0) :=
  control_of_answer (family_output ..) (by
    simp [answer, DfuRequest.output, DfuRequest.download, DfuRequest.detach])

theorem control_upload (block number length : UInt16) :
    control (DfuRequest.input DfuRequest.upload block number length) [] loader =
      .ok (loader.upload block length.toNat) ({ loader with state := uploadIdle }.traced
        DfuRequest.upload block (loader.upload block length.toNat).length) :=
  control_of_answer (family_input ..) (by
    simp [answer, DfuRequest.input, DfuRequest.upload, DfuRequest.download, DfuRequest.detach])

theorem control_detach (value number : UInt16) :
    control (DfuRequest.output DfuRequest.detach value number 0) [] loader =
      .ok [] ({ loader with detached := true }.traced DfuRequest.detach value 0) :=
  control_of_answer (family_output ..) (by simp [answer, DfuRequest.output])

/-! ## The flash -/

theorem program_append {block : UInt16} {data : Bytes}
    (h : loader.flash.length = block.toNat * DfuRequest.blockSize) :
    loader.program block data = loader.flash ++ data := by
  have hsize : max loader.flash.length (block.toNat * DfuRequest.blockSize + data.length) =
      loader.flash.length + data.length := by omega
  have hresize : loader.flash.resize (loader.flash.length + data.length) 0xFF =
      loader.flash ++ List.replicate data.length 0xFF := by
    rw [Bytes.resize, List.take_of_length_le (by omega), Nat.add_sub_cancel_left]
  unfold program
  dsimp only
  rw [hsize, hresize, Bytes.overwrite, ← h, List.take_left, List.drop_eq_nil_of_le (by simp),
    List.append_nil]

/-- What the loader shows of its flash. -/
def shown : Bytes :=
  match loader.corrupt with
  | none => loader.flash
  | some position => loader.flash.modify position (· ^^^ 0xFF)

theorem length_shown : loader.shown.length = loader.flash.length := by
  unfold shown
  cases loader.corrupt with
  | none => rfl
  | some position => exact List.length_modify ..

/-- An upload returns a block of what the loader shows. -/
theorem upload_eq (block : UInt16) (size : Nat) :
    loader.upload block size =
      (loader.shown.drop (block.toNat * DfuRequest.blockSize)).take size := by
  unfold upload shown
  cases loader.corrupt with
  | none => rfl
  | some position =>
    generalize block.toNat * DfuRequest.blockSize = start
    dsimp only
    apply List.ext_getElem?
    intro i
    split <;> rename_i hstart
    · rw [List.getElem?_modify, List.getElem?_take, List.getElem?_take, List.getElem?_drop,
        List.getElem?_drop, List.getElem?_modify]
      by_cases hi : i < size
      · rw [if_pos hi, if_pos hi]
        have hposition : position - start = i ↔ position = start + i := by omega
        simp only [hposition]
      · simp [hi]
    · have hposition : position ≠ start + i := by omega
      rw [List.getElem?_take, List.getElem?_take, List.getElem?_drop, List.getElem?_drop,
        List.getElem?_modify]
      simp [hposition]

end Simulation.Loader

/-! ## Comparing -/

namespace DownloadTask

/-- A comparison finds the octet that comes back inverted. -/
theorem firstDifference_modify {image : Bytes} {position : Nat} (h : position < image.length) :
    firstDifference image (image.modify position (· ^^^ 0xFF)) = some position := by
  induction image generalizing position with
  | nil => simp at h
  | cons octet rest ih =>
    cases position with
    | zero =>
      rw [List.modify_zero_cons, firstDifference,
        if_neg (Ne.symm (Bytes.xor_ne_self (by decide) octet))]
    | succ position =>
      rw [List.modify_succ_cons, firstDifference, if_pos rfl, ih (by simpa using h)]
      rfl

end DownloadTask

end TensorLink

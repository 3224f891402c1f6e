import TensorLink.Proofs.Model.RoundTrip

/-!
# Writing what was read

A buffer need not be laid out as `Executable.encode` lays it out: tables may be shared, fields may
stand in any order, and slots may be filled that no reader looks at. Whatever executable is read
from it is representable, because every size comes from a number of 31 bits and every hint was told
by its tag. So it can be written, and is read back.

Results:
* `Hint.representable_of_ofTable`, `Layer.representable_of_ofTable`: what is read from a table is
  representable.
* `Executable.representable_of_decode`: so is what is read from a buffer.
* `Executable.decode_encode_of_decode`: an executable that was read is read back when it is written.
-/

namespace TensorLink

open Sequencing

variable {buffer : Bytes} {table : TableView}

theorem lt_of_sizeOfField {value : Int32} {field : String} {size : Nat}
    (h : sizeOfField value field = .ok size) : size < 2 ^ 31 := by
  unfold sizeOfField at h
  split at h
  · cases h
  · cases h
    have := value.toInt_lt
    omega

theorem Hint.representable_of_ofTable {hint : Hint} (h : Hint.ofTable buffer table = .ok hint) :
    hint.Representable := by
  unfold Hint.ofTable at h
  obtain ⟨kind, -, h⟩ := bind_ok_iff.mp h
  by_cases hrange : kind = rangeTag
  · rw [if_pos hrange] at h
    obtain ⟨moved, -, h⟩ := bind_ok_iff.mp h
    obtain ⟨about?, -, h⟩ := bind_ok_iff.mp h
    cases about? with
    | none => cases h
    | some about =>
      obtain ⟨_, -, h⟩ := bind_ok_iff.mp h
      obtain ⟨role, -, h⟩ := bind_ok_iff.mp h
      obtain ⟨name, -, h⟩ := bind_ok_iff.mp h
      obtain ⟨_, -, h⟩ := bind_ok_iff.mp h
      obtain ⟨offset, hoffset, h⟩ := bind_ok_iff.mp h
      obtain ⟨_, -, h⟩ := bind_ok_iff.mp h
      obtain ⟨size, hsize, h⟩ := bind_ok_iff.mp h
      cases h
      exact ⟨lt_of_sizeOfField hoffset, lt_of_sizeOfField hsize⟩
  · rw [if_neg hrange] at h
    by_cases hinstruction : kind = instructionTag
    · rw [if_pos hinstruction] at h
      obtain ⟨inner, -, h⟩ := bind_ok_iff.mp h
      obtain ⟨_, -, h⟩ := bind_ok_iff.mp h
      obtain ⟨chunk, hchunk, h⟩ := bind_ok_iff.mp h
      cases h
      exact lt_of_sizeOfField hchunk
    · rw [if_neg hinstruction] at h
      cases h
      exact ⟨hrange, hinstruction⟩

theorem Layer.representable_of_ofTable {layer : Layer}
    (h : Layer.ofTable buffer table = .ok layer) : layer.Representable := by
  unfold Layer.ofTable at h
  obtain ⟨name?, -, h⟩ := bind_ok_iff.mp h
  cases name? with
  | none => cases h
  | some name =>
    obtain ⟨layout, -, h⟩ := bind_ok_iff.mp h
    obtain ⟨_, -, h⟩ := bind_ok_iff.mp h
    obtain ⟨paddedSize, hpadded, h⟩ := bind_ok_iff.mp h
    obtain ⟨_, -, h⟩ := bind_ok_iff.mp h
    obtain ⟨rows, hrows, h⟩ := bind_ok_iff.mp h
    obtain ⟨_, -, h⟩ := bind_ok_iff.mp h
    obtain ⟨columns, hcolumns, h⟩ := bind_ok_iff.mp h
    obtain ⟨_, -, h⟩ := bind_ok_iff.mp h
    obtain ⟨channels, hchannels, h⟩ := bind_ok_iff.mp h
    obtain ⟨_, -, h⟩ := bind_ok_iff.mp h
    obtain ⟨type, -, h⟩ := bind_ok_iff.mp h
    obtain ⟨_, -, h⟩ := bind_ok_iff.mp h
    obtain ⟨executions, hexecutions, h⟩ := bind_ok_iff.mp h
    cases h
    have := lt_of_sizeOfField hexecutions
    exact ⟨lt_of_sizeOfField hpadded, lt_of_sizeOfField hrows, lt_of_sizeOfField hcolumns,
      lt_of_sizeOfField hchannels, Nat.max_lt.mpr ⟨this, by omega⟩, Nat.le_max_right _ _⟩

namespace Executable

variable {executable : Executable}

/-- With hints that are representable, an executable is, whatever layers are read for it. -/
theorem representable_of_layersAndPurpose (root : TableView) (bitstreams : List Bytes)
    (parameters : Bytes) {hints : List Hint} (hhints : ∀ hint ∈ hints, hint.Representable)
    (h : (do
      let inputs ← (← root.tables buffer 8).mapM (Layer.ofTable buffer)
      let outputs ← (← root.tables buffer 9).mapM (Layer.ofTable buffer)
      let purpose ← Purpose.ofRaw (← root.i16 buffer 13 0)
      let cachingToken ← root.u64 buffer 14 0
      return ({ bitstreams, parameters, hints, inputs, outputs, purpose, cachingToken } :
        Executable)) = .ok executable) :
    executable.Representable := by
  have hlayers : ∀ {tables : List TableView} {layers : List Layer},
      tables.mapM (Layer.ofTable buffer) = .ok layers → ∀ layer ∈ layers, layer.Representable :=
    forall_of_mapM fun _ _ => Layer.representable_of_ofTable
  obtain ⟨_, -, h⟩ := bind_ok_iff.mp h
  obtain ⟨inputs, hinputs, h⟩ := bind_ok_iff.mp h
  obtain ⟨_, -, h⟩ := bind_ok_iff.mp h
  obtain ⟨outputs, houtputs, h⟩ := bind_ok_iff.mp h
  obtain ⟨_, -, h⟩ := bind_ok_iff.mp h
  obtain ⟨purpose, -, h⟩ := bind_ok_iff.mp h
  obtain ⟨cachingToken, -, h⟩ := bind_ok_iff.mp h
  cases h
  exact ⟨hhints, hlayers hinputs, hlayers houtputs⟩

/-- What is read from a buffer is representable, however the buffer is laid out. -/
theorem representable_of_decode (h : decode buffer = .ok executable) :
    executable.Representable := by
  unfold decode at h
  obtain ⟨root, -, h⟩ := bind_ok_iff.mp h
  obtain ⟨_, -, h⟩ := bind_ok_iff.mp h
  obtain ⟨bitstreams, -, h⟩ := bind_ok_iff.mp h
  obtain ⟨parameters, -, h⟩ := bind_ok_iff.mp h
  obtain ⟨list, -, h⟩ := bind_ok_iff.mp h
  cases list with
  | none =>
    obtain ⟨hints, hhints, h⟩ := bind_ok_iff.mp h
    cases hhints
    exact representable_of_layersAndPurpose root bitstreams (parameters.getD []) (by simp) h
  | some list =>
    obtain ⟨tables, -, h⟩ := bind_ok_iff.mp h
    obtain ⟨hints, hhints, h⟩ := bind_ok_iff.mp h
    exact representable_of_layersAndPurpose root bitstreams (parameters.getD [])
      (forall_of_mapM (fun _ _ => Hint.representable_of_ofTable) hhints) h

/-! ## Main theorem -/

/-- **Writing what was read.** Whatever executable a buffer holds, and however the buffer is laid
    out, the executable is read back from its own encoding. -/
theorem decode_encode_of_decode (h : decode buffer = .ok executable)
    (hsmall : executable.encode.length < 2 ^ 32) :
    decode executable.encode = .ok executable :=
  decode_encode_of_representable (representable_of_decode h) hsmall

/-- A buffer in which the input and output layers are one vector, of twice the same layer. -/
def sharedBuffer : Bytes :=
  [28, 0, 0, 0] ++
    -- The field list of the root table, and the table: slots 8 and 9 lead to one field.
    [24, 0, 8, 0, 0, 0, 0, 0, 0, 0, 0, 0, 0, 0, 0, 0, 0, 0, 0, 0, 4, 0, 4, 0] ++
    [24, 0, 0, 0, 4, 0, 0, 0] ++
    -- Two distances to one layer, its field list, the layer, and its name.
    [2, 0, 0, 0, 16, 0, 0, 0, 12, 0, 0, 0] ++ [6, 0, 8, 0, 4, 0, 0, 0] ++
    [8, 0, 0, 0, 4, 0, 0, 0] ++ [1, 0, 0, 0, 0x61]

/-- What is shared in the buffer is written out in the encoding, and read back the same. -/
theorem decode_encode_of_sharedBuffer :
    let layer : Layer := .dense "a" .fixedPoint8 0 0 0
    let executable : Executable := { inputs := [layer, layer], outputs := [layer, layer] }
    decode sharedBuffer = .ok executable ∧ executable.encode.length < 2 ^ 32 ∧
      executable.encode ≠ sharedBuffer ∧ decode executable.encode = .ok executable := by
  intro layer executable
  have hread : decode sharedBuffer = .ok executable := by decide +kernel
  have hsmall : executable.encode.length < 2 ^ 32 := by decide +kernel
  have hlayout : executable.encode ≠ sharedBuffer := by decide +kernel
  exact ⟨hread, hsmall, hlayout, decode_encode_of_decode hread hsmall⟩

end Executable

end TensorLink

import TensorLink.Model.Package
import TensorLink.Proofs.Table.Extension

/-!
# Decoding an extended buffer

Models are decoded by readers that last, so whatever is appended to a buffer that decodes, it
decodes to the same model. A buffer that has been cut off is refused, or nothing that matters was
lost: no reader takes what is missing for a field that is absent.

Results:
* `lasts_hint`, `lasts_layer`, `lasts_executable`: each part of a model is decoded alike.
* `decode_append_stable`: so are executables and packages as a whole.
-/

namespace TensorLink

open TableView

variable (buffer more : Bytes)

/-! ## Hints -/

theorem lasts_particulars (table : TableView) :
    Lasts (Hint.particulars buffer table) (Hint.particulars (buffer ++ more) table) :=
  (lasts_table? buffer more table 1).bind fun _ _ => .refl _

theorem lasts_hint (table : TableView) :
    Lasts (Hint.ofTable buffer table) (Hint.ofTable (buffer ++ more) table) := by
  unfold Hint.ofTable
  refine (lasts_u8 buffer more table 0 0).bind fun kind _ => ?_
  split
  · refine (lasts_particulars buffer more table).bind fun hint _ => ?_
    refine (lasts_table? buffer more hint 0).bind fun about _ => ?_
    cases about with
    | none => exact .refl _
    | some about =>
      refine (lasts_i16 buffer more about 0 0).bind fun role _ => ?_
      refine (Lasts.refl _).bind fun role _ => ?_
      refine (lasts_text? buffer more about 1).bind fun name _ => ?_
      refine (lasts_i32 buffer more hint 1 0).bind fun offset _ => ?_
      refine (Lasts.refl _).bind fun offset _ => ?_
      exact (lasts_i32 buffer more hint 2 0).bind fun size _ => .refl _
  · split
    · refine (lasts_particulars buffer more table).bind fun hint _ => ?_
      exact (lasts_i32 buffer more hint 0 0).bind fun chunk _ => .refl _
    · exact .refl _

/-! ## Layers -/

theorem lasts_layout (table : TableView) :
    Lasts (TileLayout.ofTable buffer table) (TileLayout.ofTable (buffer ++ more) table) := by
  unfold TileLayout.ofTable
  refine (lasts_i32s buffer more table 0).bind fun rowTile _ => ?_
  refine (lasts_i32s buffer more table 1).bind fun columnTile _ => ?_
  refine (lasts_i32s buffer more table 2).bind fun tileOffset _ => ?_
  refine (lasts_i32s buffer more table 3).bind fun columnOffset _ => ?_
  refine (lasts_i32s buffer more table 4).bind fun localRow _ => ?_
  exact (lasts_i32s buffer more table 5).bind fun rowSize _ => .refl _

theorem lasts_layoutOfTable (table : TableView) :
    Lasts (Layer.layoutOfTable buffer table) (Layer.layoutOfTable (buffer ++ more) table) := by
  unfold Layer.layoutOfTable
  refine (lasts_u8 buffer more table 7 0).bind fun tag _ => ?_
  split
  · exact .refl _
  · refine (lasts_table? buffer more table 8).bind fun output _ => ?_
    cases output with
    | none => exact .refl _
    | some output =>
      refine (lasts_table? buffer more output 0).bind fun layout _ => ?_
      cases layout with
      | none => exact .refl _
      | some layout => exact (lasts_layout buffer more layout).bind fun _ _ => .refl _

theorem lasts_layer (table : TableView) :
    Lasts (Layer.ofTable buffer table) (Layer.ofTable (buffer ++ more) table) := by
  unfold Layer.ofTable
  refine (lasts_text? buffer more table 0).bind fun name _ => ?_
  cases name with
  | none => exact .refl _
  | some name =>
    refine (lasts_layoutOfTable buffer more table).bind fun layout _ => ?_
    refine (lasts_i32 buffer more table 1 0).bind fun paddedSize _ => ?_
    refine (Lasts.refl _).bind fun paddedSize _ => ?_
    refine (lasts_i32 buffer more table 2 0).bind fun rows _ => ?_
    refine (Lasts.refl _).bind fun rows _ => ?_
    refine (lasts_i32 buffer more table 3 0).bind fun columns _ => ?_
    refine (Lasts.refl _).bind fun columns _ => ?_
    refine (lasts_i32 buffer more table 4 0).bind fun channels _ => ?_
    refine (Lasts.refl _).bind fun channels _ => ?_
    refine (lasts_i16 buffer more table 6 0).bind fun type _ => ?_
    refine (Lasts.refl _).bind fun type _ => ?_
    exact (lasts_i32 buffer more table 9 1).bind fun executions _ => .refl _

/-! ## Executables and packages -/

/-- What an executable holds beside its instructions, parameters and hints. -/
theorem lasts_layersAndPurpose (root : TableView)
    (build : List Layer → List Layer → Purpose → UInt64 → Executable) :
    Lasts
      (do
        let inputs ← (← root.tables buffer 8).mapM (Layer.ofTable buffer)
        let outputs ← (← root.tables buffer 9).mapM (Layer.ofTable buffer)
        let purpose ← Purpose.ofRaw (← root.i16 buffer 13 0)
        return build inputs outputs purpose (← root.u64 buffer 14 0))
      (do
        let inputs ← (← root.tables (buffer ++ more) 8).mapM (Layer.ofTable (buffer ++ more))
        let outputs ← (← root.tables (buffer ++ more) 9).mapM (Layer.ofTable (buffer ++ more))
        let purpose ← Purpose.ofRaw (← root.i16 (buffer ++ more) 13 0)
        return build inputs outputs purpose (← root.u64 (buffer ++ more) 14 0)) := by
  have hlayers (tables : List TableView) := Lasts.mapM (lasts_layer buffer more) tables
  refine (lasts_tables buffer more root 8).bind fun tables _ => ?_
  refine (hlayers tables).bind fun inputs _ => ?_
  refine (lasts_tables buffer more root 9).bind fun tables _ => ?_
  refine (hlayers tables).bind fun outputs _ => ?_
  refine (lasts_i16 buffer more root 13 0).bind fun purpose _ => ?_
  refine (Lasts.refl _).bind fun purpose _ => ?_
  exact (lasts_u64 buffer more root 14 0).bind fun token _ => .refl _

theorem lasts_executable :
    Lasts (Executable.decode buffer) (Executable.decode (buffer ++ more)) := by
  have hchunk (chunk : TableView) :
      Lasts (do return (← chunk.bytes? buffer 0).getD [])
        (do return (← chunk.bytes? (buffer ++ more) 0).getD []) :=
    (lasts_bytes? buffer more chunk 0).bind fun _ _ => .refl _
  unfold Executable.decode
  refine (lasts_root buffer more).bind fun root _ => ?_
  refine (lasts_tables buffer more root 5).bind fun chunks _ => ?_
  refine (Lasts.mapM hchunk chunks).bind fun bitstreams _ => ?_
  refine (lasts_bytes? buffer more root 6).bind fun parameters _ => ?_
  refine (lasts_table? buffer more root 7).bind fun list _ => ?_
  cases list with
  | none =>
    refine (Lasts.refl _).bind fun hints _ => ?_
    exact lasts_layersAndPurpose buffer more root fun inputs outputs purpose cachingToken =>
      { bitstreams, parameters := parameters.getD [], hints, inputs, outputs, purpose,
        cachingToken }
  | some list =>
    refine (lasts_tables buffer more list 0).bind fun tables _ => ?_
    refine (Lasts.mapM (lasts_hint buffer more) tables).bind fun hints _ => ?_
    exact lasts_layersAndPurpose buffer more root fun inputs outputs purpose cachingToken =>
      { bitstreams, parameters := parameters.getD [], hints, inputs, outputs, purpose,
        cachingToken }

/-- The package of the same executables, in a buffer of another size. -/
def Package.resized (size : Nat) (package : Package) : Package := { package with size }

theorem resized_ofExecutables (size size' : Nat) (executables : List Executable) :
    Package.resized size' <$> Package.ofExecutables size executables =
      Package.ofExecutables size' executables := by
  unfold Package.ofExecutables
  dsimp only
  split
  · rfl
  · split <;> rfl

theorem lasts_package :
    Lasts (Package.resized (buffer ++ more).length <$> Package.decode buffer)
      (Package.decode (buffer ++ more)) := by
  unfold Package.decode
  rw [map_bind]
  refine (lasts_root buffer more).bind fun root _ => ?_
  rw [map_bind]
  refine (lasts_bytes? buffer more root 1).bind fun inner _ => ?_
  match inner with
  | none => exact .of_error _ _
  | some [] => exact .of_error _ _
  | some (octet :: rest) =>
    -- What stands in the octets of a field does not depend on what follows the buffer.
    simp only [map_bind, resized_ofExecutables]
    exact .refl _

/-! ## Main theorem -/

/-- **Extension.** Whatever is appended to the buffer of an executable or of a package, it decodes
    to the same executable, or to the package of the same executables in the same roles; so a buffer
    that is cut off anywhere is refused or decodes like the whole. -/
theorem decode_append_stable :
    (∀ executable, Executable.decode buffer = .ok executable →
      Executable.decode (buffer ++ more) = .ok executable) ∧
    (∀ package, Package.decode buffer = .ok package →
      Package.decode (buffer ++ more) =
        .ok { package with size := buffer.length + more.length }) ∧
    (∀ kept, (∃ error, Executable.decode (buffer.take kept) = .error error) ∨
      Executable.decode (buffer.take kept) = Executable.decode buffer) ∧
    ∀ kept, (∃ error, Package.decode (buffer.take kept) = .error error) ∨
      ∃ package, Package.decode (buffer.take kept) = .ok package ∧
        Package.decode buffer = .ok { package with size := buffer.length } := by
  refine ⟨lasts_executable buffer more, fun package h => ?_, fun kept => ?_, fun kept => ?_⟩
  · rw [← List.length_append]
    exact lasts_package buffer more _ (by rw [h]; rfl)
  · cases h : Executable.decode (buffer.take kept) with
    | error error => exact .inl ⟨error, rfl⟩
    | ok executable =>
      have hwhole := lasts_executable (buffer.take kept) (buffer.drop kept) executable h
      rw [List.take_append_drop] at hwhole
      exact .inr hwhole.symm
  · cases h : Package.decode (buffer.take kept) with
    | error error => exact .inl ⟨error, rfl⟩
    | ok package =>
      have hwhole := lasts_package (buffer.take kept) (buffer.drop kept)
        (package.resized (buffer.take kept ++ buffer.drop kept).length) (by rw [h]; rfl)
      rw [List.take_append_drop] at hwhole
      exact .inr ⟨package, rfl, hwhole⟩

/-- A package of an executable that loads parameters and one that runs inference. -/
def pairPackage : Package :=
  let caching : Executable := { purpose := .parameterCaching, cachingToken := 7 }
  let inference : Executable := { purpose := .executionOnly, cachingToken := 7 }
  { size := 325, executables := [caching, inference], inferenceIndex := 1, inference,
    cachingIndex := some 0, caching := some caching }

/-- Both roles are found in the buffer of the pair, and in whatever it is extended to. -/
theorem decode_append_stable_pair :
    let buffer := Package.encode pairPackage.executables
    Package.decode buffer = .ok pairPackage ∧
      Package.decode (buffer ++ [0x44, 0x57]) = .ok { pairPackage with size := 327 } := by
  intro buffer
  have hdecode : Package.decode buffer = .ok pairPackage := by decide +kernel
  have hsize : buffer.length = 325 := by decide +kernel
  have happend := (decode_append_stable buffer [0x44, 0x57]).2.1 pairPackage hdecode
  rw [hsize] at happend
  exact ⟨hdecode, happend⟩

end TensorLink

import TensorLink.Model.Executable
import TensorLink.Proofs.Table.Reading

/-!
# Executables are read back

What a reader finds in the buffer of an executable, part by part. Sizes beyond the largest signed
number of 32 bits are read back as that number, an execution count of zero as one, and a hint of
another kind that has taken the number of a range or an instruction cannot be read at all.
Everything else is read back as it was written.

Results:
* `Hint.ofTable_toTree`, `Layer.ofTable_toTree`: how a hint and a layer are read back.
* `Executable.decode_encode`: how an executable is read back.
* `Executable.decode_encode_eq_ok_iff`: exactly the representable executables are read back as they
  were written.
-/

namespace TensorLink

/-! ## Sizes -/

/-- The size that is read back for a size. -/
def readSize (size : Nat) : Nat := min size maxInt32

theorem readSize_eq_iff (size : Nat) : readSize size = size ↔ size < 2 ^ 31 := by
  rw [readSize, show maxInt32 = 2 ^ 31 - 1 from rfl]
  omega

theorem sizeOfField_readSize (size : Nat) (field : String) :
    sizeOfField (Int32.ofNat (min size maxInt32)) field = .ok (readSize size) := by
  have hmax : maxInt32 = 2 ^ 31 - 1 := rfl
  have hint : (Int32.ofNat (min size maxInt32)).toInt = (min size maxInt32 : Nat) :=
    Int32.toInt_ofNat_of_lt (by omega)
  rw [sizeOfField, hint, if_neg (by omega), Int.toNat_natCast, readSize]

/-! ## Layers -/

variable {buffer : Bytes} {view : TableView}

theorem TileLayout.fits (layout : TileLayout) : layout.toTree.Fits :=
  Tree.fits_of_small (by simp [toTree]) (by simp [toTree])

theorem TileLayout.ofTable_toTree (hsmall : buffer.length < 2 ^ 32) {layout : TileLayout}
    (h : Shows buffer layout.toTree view) : TileLayout.ofTable buffer view = .ok layout := by
  have hrowTile : view.i32s buffer 0 = .ok layout.rowTile := h.i32s hsmall rfl
  have hcolumnTile : view.i32s buffer 1 = .ok layout.columnTile := h.i32s hsmall rfl
  have htileOffset : view.i32s buffer 2 = .ok layout.tileOffset := h.i32s hsmall rfl
  have hcolumnOffset : view.i32s buffer 3 = .ok layout.columnOffset := h.i32s hsmall rfl
  have hlocalRow : view.i32s buffer 4 = .ok layout.localRow := h.i32s hsmall rfl
  have hrowSize : view.i32s buffer 5 = .ok layout.rowSize := h.i32s hsmall rfl
  rw [TileLayout.ofTable, hrowTile, hcolumnTile, htileOffset, hcolumnOffset, hlocalRow, hrowSize]
  rfl

namespace Layer

/-- The layer that is read back for a layer. -/
def readBack (layer : Layer) : Layer :=
  { layer with
    paddedSize := readSize layer.paddedSize
    rows := readSize layer.rows
    columns := readSize layer.columns
    channels := readSize layer.channels
    executions := max (readSize layer.executions) 1 }

theorem fits (layer : Layer) : layer.toTree.Fits := by
  obtain ⟨_, _, _, _, _, _, _, layout⟩ := layer
  cases layout with
  | none => exact Tree.fits_of_small (by simp [toTree]) (by simp [toTree])
  | some layout => exact Tree.fits_of_small (by simp [toTree]) (by simp [toTree])

theorem layoutOfTable_toTree (hsmall : buffer.length < 2 ^ 32) {layer : Layer}
    (h : Shows buffer layer.toTree view) : layoutOfTable buffer view = .ok layer.layout := by
  obtain ⟨_, _, _, _, _, _, _, layout⟩ := layer
  cases layout with
  | none =>
    have htag : view.u8 buffer 7 0 = .ok 0 := h.u8_of_absent rfl 0
    rw [layoutOfTable, htag]
    rfl
  | some layout =>
    have htag : view.u8 buffer 7 0 = .ok outputTag := h.u8 rfl 0
    have hfits : Tree.Fits [(0, .table layout.toTree)] :=
      Tree.fits_of_small (by simp) (by simp)
    obtain ⟨output, houtput, hshows⟩ := h.table hsmall 8 hfits rfl
    obtain ⟨inner, hinner, hshows⟩ := hshows.table hsmall 0 layout.fits rfl
    have hlayout := TileLayout.ofTable_toTree hsmall hshows
    simp [layoutOfTable, htag, houtput, hinner, hlayout, bind, Except.bind, pure, Except.pure]

/-- The slots of a layer that every layer fills. -/
theorem value?_toTree (layer : Layer) :
    Tree.value? layer.toTree 0 = some (.text layer.name) ∧
      Tree.value? layer.toTree 1 = some (sizeValue layer.paddedSize) ∧
      Tree.value? layer.toTree 2 = some (sizeValue layer.rows) ∧
      Tree.value? layer.toTree 3 = some (sizeValue layer.columns) ∧
      Tree.value? layer.toTree 4 = some (sizeValue layer.channels) ∧
      Tree.value? layer.toTree 6 = some (.i16 layer.type.raw) ∧
      Tree.value? layer.toTree 9 = some (sizeValue layer.executions) := by
  obtain ⟨_, _, _, _, _, _, _, layout⟩ := layer
  cases layout <;> exact ⟨rfl, rfl, rfl, rfl, rfl, rfl, rfl⟩

/-- A layer is read back with its sizes cut to what a model holds. -/
theorem ofTable_toTree (hsmall : buffer.length < 2 ^ 32) {layer : Layer}
    (h : Shows buffer layer.toTree view) : ofTable buffer view = .ok layer.readBack := by
  obtain ⟨hname, hpadded, hrows, hcolumns, hchannels, htype, hexecutions⟩ := value?_toTree layer
  have hlayout := layoutOfTable_toTree hsmall h
  simp only [ofTable, h.text hsmall hname, hlayout, h.i32 hpadded, h.i32 hrows, h.i32 hcolumns,
    h.i32 hchannels, h.i16 htype, h.i32 hexecutions, sizeOfField_readSize, DataType.ofRaw_raw,
    bind, Except.bind, pure, Except.pure]
  rfl

end Layer

/-! ## Hints -/

namespace Hint

/-- The hint that is read back for a hint. A reader looks for the particulars of a hint of another
    kind if that kind is the number of a range or an instruction. -/
def readBack : Hint → Except ModelError Hint
  | range role name offset size => .ok (range role name (readSize offset) (readSize size))
  | instruction chunk => .ok (instruction (readSize chunk))
  | other kind =>
    if kind = rangeTag ∨ kind = instructionTag then .error (.missingField "DmaHint" "any_hint")
    else .ok (other kind)

theorem fits (hint : Hint) : hint.toTree.Fits := by
  cases hint <;> exact Tree.fits_of_small (by simp [toTree]) (by simp [toTree])

/-- The table of the buffer that a range hint speaks of. -/
def bufferTree (role : Role) (name : String) : Tree :=
  (0, .i16 role.raw) :: if name.isEmpty then [] else [(1, .text name)]

/-- The empty name is left out, and read back as the empty name. -/
theorem text_bufferTree (hsmall : buffer.length < 2 ^ 32) {role : Role} {name : String}
    (h : Shows buffer (bufferTree role name) view) :
    ∃ found, view.text? buffer 1 = .ok found ∧ found.getD "" = name := by
  by_cases hname : name.isEmpty
  · rw [bufferTree, if_pos hname] at h
    exact ⟨none, h.text_of_absent rfl, (String.isEmpty_iff.mp hname).symm⟩
  · rw [bufferTree, if_neg hname] at h
    exact ⟨some name, h.text hsmall rfl, rfl⟩

theorem i16_bufferTree {role : Role} {name : String}
    (h : Shows buffer (bufferTree role name) view) : view.i16 buffer 0 0 = .ok role.raw := by
  refine h.i16 ?_ 0
  rw [bufferTree]
  split <;> rfl

/-- A hint is read back with its sizes cut to what a model holds. -/
theorem ofTable_toTree (hsmall : buffer.length < 2 ^ 32) {hint : Hint}
    (h : Shows buffer hint.toTree view) : ofTable buffer view = hint.readBack := by
  cases hint with
  | range role name offset size =>
    have htag : view.u8 buffer 0 0 = .ok rangeTag := h.u8 rfl 0
    have hbuffer : (bufferTree role name).Fits :=
      Tree.fits_of_small (by rw [bufferTree]; split <;> simp) (by rw [bufferTree]; split <;> simp)
    have hmoved : Tree.Fits
        [(0, .table (bufferTree role name)), (1, sizeValue offset), (2, sizeValue size)] :=
      Tree.fits_of_small (by simp) (by simp)
    obtain ⟨inner, hinner, hshows⟩ := h.table hsmall 1 hmoved rfl
    obtain ⟨about, habout, hnamed⟩ := hshows.table hsmall 0 hbuffer rfl
    obtain ⟨found, hfound, hname⟩ := text_bufferTree hsmall hnamed
    have hrole := i16_bufferTree hnamed
    have hoffset : inner.i32 buffer 1 0 = .ok _ := hshows.i32 rfl 0
    have hsize : inner.i32 buffer 2 0 = .ok _ := hshows.i32 rfl 0
    simp [ofTable, htag, particulars, hinner, habout, hfound, hname, hrole, Role.ofRaw_raw, hoffset,
      hsize, sizeOfField_readSize, readBack, bind, Except.bind, pure, Except.pure]
  | instruction chunk =>
    have htag : view.u8 buffer 0 0 = .ok instructionTag := h.u8 rfl 0
    have hfits : Tree.Fits [(0, sizeValue chunk)] := Tree.fits_of_small (by simp) (by simp)
    obtain ⟨inner, hinner, hshows⟩ := h.table hsmall 1 hfits rfl
    have hchunk : inner.i32 buffer 0 0 = .ok _ := hshows.i32 rfl 0
    simp [ofTable, htag, particulars, hinner, hchunk, sizeOfField_readSize, readBack,
      show instructionTag ≠ rangeTag by decide, bind, Except.bind, pure, Except.pure]
  | other kind =>
    have htag : view.u8 buffer 0 0 = .ok kind := h.u8 rfl 0
    have habsent : view.table? buffer 1 = .ok none := h.table_of_absent rfl
    by_cases hrange : kind = rangeTag
    · simp [ofTable, htag, hrange, particulars, habsent, readBack, bind, Except.bind]
      rfl
    · by_cases hinstruction : kind = instructionTag
      · simp [ofTable, htag, hinstruction, particulars, habsent, readBack, bind, Except.bind]
        rfl
      · simp [ofTable, htag, hrange, hinstruction, readBack, bind, Except.bind, pure, Except.pure]

end Hint

/-! ## Executables -/

namespace Executable

theorem fits (executable : Executable) : executable.toTree.Fits :=
  Tree.fits_of_small (by simp [toTree]) (by simp [toTree])

/-- An executable is read back with its hints and layers read back one by one. -/
theorem decode_encode (executable : Executable) (hsmall : executable.encode.length < 2 ^ 32) :
    decode executable.encode =
      (executable.hints.mapM Hint.readBack).map fun hints =>
        { executable with
          hints
          inputs := executable.inputs.map Layer.readBack
          outputs := executable.outputs.map Layer.readBack } := by
  obtain ⟨root, hroot, hshows⟩ : ∃ root, TableView.root executable.encode = .ok root ∧
      Shows executable.encode executable.toTree root := root_encode executable.fits hsmall
  unfold decode
  generalize hbuffer : executable.encode = buffer at *
  obtain ⟨chunks, hchunks, hbitstreams⟩ : ∃ chunks, root.tables buffer 5 = .ok chunks ∧
      chunks.mapM (fun chunk => do return (← chunk.bytes? buffer 0).getD []) =
        executable.bitstreams.mapM fun chunk => .ok (id chunk) := by
    refine hshows.mapM_tables hsmall 5 (fun chunk => Tree.fits_of_small ?_ ?_) rfl
      fun chunk inner hinner => ?_
    · simp
    · simp
    · have hchunk : inner.bytes? buffer 0 = .ok (some chunk) := hinner.bytes hsmall rfl
      rw [hchunk]
      rfl
  have hparameters : root.bytes? buffer 6 = .ok (some executable.parameters) :=
    hshows.bytes hsmall rfl
  have hlistFits : Tree.Fits [(0, .tables (executable.hints.map Hint.toTree))] :=
    Tree.fits_of_small (by simp) (by simp)
  obtain ⟨list, hlist, hlistShows⟩ := hshows.table hsmall 7 hlistFits rfl
  obtain ⟨hintViews, hhintViews, hhints⟩ := hlistShows.mapM_tables hsmall 0
    Hint.fits rfl (fun hint inner hinner => Hint.ofTable_toTree hsmall hinner)
  obtain ⟨inputViews, hinputViews, hinputs⟩ := hshows.mapM_tables hsmall 8
    Layer.fits rfl (fun layer inner hinner => Layer.ofTable_toTree hsmall hinner)
  obtain ⟨outputViews, houtputViews, houtputs⟩ := hshows.mapM_tables hsmall 9
    Layer.fits rfl (fun layer inner hinner => Layer.ofTable_toTree hsmall hinner)
  have hpurpose : root.i16 buffer 13 0 = .ok executable.purpose.raw := hshows.i16 rfl 0
  have htoken : root.u64 buffer 14 0 = .ok executable.cachingToken := hshows.u64 rfl 0
  rw [Sequencing.mapM_ok] at hbitstreams hinputs houtputs
  rw [List.map_id] at hbitstreams
  simp only [hroot, hchunks, hbitstreams, hparameters, hlist, hhintViews, hhints, hinputViews,
    hinputs, houtputViews, houtputs, hpurpose, Purpose.ofRaw_raw, htoken, Sequencing.ok_bind]
  cases executable.hints.mapM Hint.readBack with
  | error e => rfl
  | ok hints => rfl

end Executable

/-! ## What is read back as it was written -/

/-- A hint whose sizes a model holds, and whose kind is no other's. -/
def Hint.Representable : Hint → Prop
  | range _ _ offset size => offset < 2 ^ 31 ∧ size < 2 ^ 31
  | instruction chunk => chunk < 2 ^ 31
  | other kind => kind ≠ rangeTag ∧ kind ≠ instructionTag

/-- A layer whose sizes a model holds, and that is produced at least once. -/
structure Layer.Representable (layer : Layer) : Prop where
  paddedSize : layer.paddedSize < 2 ^ 31
  rows : layer.rows < 2 ^ 31
  columns : layer.columns < 2 ^ 31
  channels : layer.channels < 2 ^ 31
  executions : layer.executions < 2 ^ 31
  produced : 1 ≤ layer.executions

/-- An executable whose hints and layers a model holds. -/
structure Executable.Representable (executable : Executable) : Prop where
  hints : ∀ hint ∈ executable.hints, hint.Representable
  inputs : ∀ layer ∈ executable.inputs, layer.Representable
  outputs : ∀ layer ∈ executable.outputs, layer.Representable

theorem Hint.readBack_eq_ok_iff (hint : Hint) : hint.readBack = .ok hint ↔ hint.Representable := by
  cases hint with
  | range role name offset size =>
    simp [readBack, Representable, readSize_eq_iff]
  | instruction chunk => simp [readBack, Representable, readSize_eq_iff]
  | other kind =>
    rw [readBack, Representable, ← not_or]
    split <;> simp_all

theorem Layer.readBack_eq_iff (layer : Layer) : layer.readBack = layer ↔ layer.Representable := by
  have hexecutions : max (readSize layer.executions) 1 = layer.executions ↔
      layer.executions < 2 ^ 31 ∧ 1 ≤ layer.executions := by
    rw [readSize, show maxInt32 = 2 ^ 31 - 1 from rfl]
    omega
  constructor
  · intro h
    have hcut := hexecutions.mp (congrArg Layer.executions h)
    exact ⟨(readSize_eq_iff _).mp (congrArg Layer.paddedSize h),
      (readSize_eq_iff _).mp (congrArg Layer.rows h),
      (readSize_eq_iff _).mp (congrArg Layer.columns h),
      (readSize_eq_iff _).mp (congrArg Layer.channels h), hcut.1, hcut.2⟩
  · intro h
    rw [readBack, (readSize_eq_iff _).mpr h.paddedSize, (readSize_eq_iff _).mpr h.rows,
      (readSize_eq_iff _).mpr h.columns, (readSize_eq_iff _).mpr h.channels,
      hexecutions.mpr ⟨h.executions, h.produced⟩]

theorem Hint.mapM_readBack_eq_ok_iff (hints : List Hint) :
    hints.mapM Hint.readBack = .ok hints ↔ ∀ hint ∈ hints, hint.Representable := by
  rw [Sequencing.mapM_eq_ok_self_iff]
  exact forall₂_congr fun hint _ => hint.readBack_eq_ok_iff

theorem Layer.map_readBack_eq_iff (layers : List Layer) :
    layers.map Layer.readBack = layers ↔ ∀ layer ∈ layers, layer.Representable := by
  nth_rewrite 2 [← List.map_id layers]
  rw [List.map_inj_left]
  exact forall₂_congr fun layer _ => layer.readBack_eq_iff

theorem Executable.decode_encode_of_representable {executable : Executable}
    (h : executable.Representable) (hsmall : executable.encode.length < 2 ^ 32) :
    decode executable.encode = .ok executable := by
  rw [decode_encode executable hsmall, (Hint.mapM_readBack_eq_ok_iff _).mpr h.hints,
    (Layer.map_readBack_eq_iff _).mpr h.inputs, (Layer.map_readBack_eq_iff _).mpr h.outputs]
  rfl

/-- Exactly the representable executables are read back as they were written. -/
theorem Executable.decode_encode_eq_ok_iff (executable : Executable)
    (hsmall : executable.encode.length < 2 ^ 32) :
    decode executable.encode = .ok executable ↔ executable.Representable := by
  refine ⟨fun h => ?_, fun h => decode_encode_of_representable h hsmall⟩
  rw [decode_encode executable hsmall] at h
  cases hread : executable.hints.mapM Hint.readBack with
  | error e => rw [hread] at h; cases h
  | ok hints =>
    rw [hread] at h
    have h := Except.ok.inj h
    have hself : hints = executable.hints := congrArg Executable.hints h
    exact ⟨(Hint.mapM_readBack_eq_ok_iff _).mp (by rw [hread, hself]),
      (Layer.map_readBack_eq_iff _).mp (congrArg Executable.inputs h),
      (Layer.map_readBack_eq_iff _).mp (congrArg Executable.outputs h)⟩

/-- An executable that streams one input with one chunk of instructions is read back. -/
theorem Executable.decode_encode_oneInput :
    let executable : Executable :=
      { bitstreams := [[0x09]]
        hints := [.instruction 0, .range .inputActivation "in" 0 2]
        inputs := [.dense "in" .fixedPoint8 1 1 2] }
    executable.encode.length < 2 ^ 32 ∧ decode executable.encode = .ok executable := by
  intro executable
  have hsmall : executable.encode.length < 2 ^ 32 := by decide +kernel
  refine ⟨hsmall, (Executable.decode_encode_eq_ok_iff executable hsmall).mpr ⟨?_, ?_, ?_⟩⟩
  · rintro hint hmem
    obtain rfl | rfl : hint = .instruction 0 ∨ hint = .range .inputActivation "in" 0 2 := by
      simpa [executable] using hmem
    · exact Nat.zero_lt_succ _
    · exact ⟨by decide, by decide⟩
  · rintro layer hmem
    obtain rfl : layer = .dense "in" .fixedPoint8 1 1 2 := by simpa [executable] using hmem
    exact ⟨by decide, by decide, by decide, by decide, by decide, by decide⟩
  · rintro layer hmem
    cases hmem

end TensorLink

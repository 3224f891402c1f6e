import TensorLink.Proofs.Relayout.Addresses
import TensorLink.Proofs.Relayout.Coverage

/-!
# Tiles are copied out run by run

The copying of a tiled layer asks the layout for three things only: where the first position lies,
where the one after it lies, and where every maximal run of columns of one tile starts in every row.
All else follows from the stride. This module says in these terms which layers are copied out, and
what becomes of the destination.

Results:
* `toInt_ofInt_of_liesAt`: signed words hold positions, and the steps between them.
* `elementIndex_eq_ok_iff`: the index of a position is the formula of its layout.
* `stride_eq_spacing_iff`: the stride is the spacing of the columns, defined if the first step is.
* `runStart_of_isRun`, `exists_isRun`: the columns that the copying takes together are the maximal
  runs.
* `relayout_gathers_runs`: relayout ends well exactly if the first step is defined and no step back,
  the destination has room, and every run is defined and lies inside the scratch; and then it
  gathers the runs.
-/

namespace TensorLink

/-! ## Specification -/

/-- The layout puts the first channel of row `y` and column `x` at element `index`. -/
def TileLayout.LiesAt (layout : TileLayout) (y x : Nat) (index : Int) : Prop :=
  ∃ rowTile row columnTile chunk rowSize column : Int32,
    layout.rowTile[y]? = some rowTile ∧ layout.localRow[y]? = some row ∧
      layout.columnTile[x]? = some columnTile ∧ 0 ≤ rowTile.toInt + columnTile.toInt ∧
      layout.tileOffset[(rowTile.toInt + columnTile.toInt).toNat]? = some chunk ∧
      layout.rowSize[x]? = some rowSize ∧ layout.columnOffset[x]? = some column ∧
      index = chunk.toInt + row.toInt * rowSize.toInt + column.toInt

/-- The `length` columns from `start` on are all that one tile holds there, of the first `columns`
    ones. -/
structure TileLayout.IsRun (layout : TileLayout) (columns start length : Nat) : Prop where
  pos : 0 < length
  le : start + length ≤ columns
  same : ∀ i < length, layout.columnTile[start + i]? = layout.columnTile[start]?
  opens : start = 0 ∨ layout.columnTile[start - 1]? ≠ layout.columnTile[start]?
  closes : start + length = columns ∨
    layout.columnTile[start + length]? ≠ layout.columnTile[start]?

namespace OutputBuffer

/-- The step from the first position to the one after it, in the same row or, if there is one column
    only, below: it is no step back and takes `step` octets, a number of 64 bits. -/
def FirstStep (buffer : OutputBuffer) (layout : TileLayout) (step : Nat) : Prop :=
  ∃ origin next : Int, layout.LiesAt 0 0 origin ∧
    (if 1 < buffer.layer.columns then layout.LiesAt 0 1 next else layout.LiesAt 1 0 next) ∧
    origin ≤ next ∧ step = (next - origin).toNat * buffer.layer.type.size ∧ step < UInt64.size

/-- The distance between the columns of a run: positions of one and of three octets take four, all
    others take the first step. -/
def spacing (buffer : OutputBuffer) (step : Nat) : Nat :=
  if buffer.positionSize = 1 ∨ buffer.positionSize = 3 then 4 else step

/-- Every run of every row has an offset, and its columns lie inside the scratch. -/
def RunsInside (buffer : OutputBuffer) (layout : TileLayout) (spacing : Nat) : Prop :=
  ∀ y < buffer.layer.rows, ∀ start length, layout.IsRun buffer.layer.columns start length →
    ∃ offset, buffer.offset y start 0 = .ok offset ∧
      ∀ i < length, offset + i * spacing + buffer.positionSize ≤ buffer.scratch.length

/-- `dest'` is `dest` with the dense tensor in front, gathered run by run. -/
structure GathersRuns (buffer : OutputBuffer) (layout : TileLayout) (spacing : Nat)
    (dest dest' : Bytes) : Prop where
  length_eq : dest'.length = dest.length
  gathered : ∀ y < buffer.layer.rows, ∀ start length offset,
    layout.IsRun buffer.layer.columns start length → buffer.offset y start 0 = .ok offset →
      ∀ i < length, ∀ k < buffer.positionSize,
        dest'[(y * buffer.layer.columns + (start + i)) * buffer.positionSize + k]? =
          buffer.scratch[offset + i * spacing + k]?
  kept : ∀ i, buffer.tensorSize ≤ i → dest'[i]? = dest[i]?

open Sequencing

variable {buffer : OutputBuffer} {layout : TileLayout}

/-! ## Positions in signed words -/

theorem natAbs_toInt_le (entry : Int32) : entry.toInt.natAbs ≤ 2 ^ 31 := by
  have hle := entry.le_toInt
  have hlt := entry.toInt_lt
  omega

/-- The entries that make up a position have 32 bits each. -/
theorem natAbs_le_of_liesAt {y x : Nat} {index : Int} (h : layout.LiesAt y x index) :
    index.natAbs ≤ 2 ^ 62 + 2 ^ 32 := by
  obtain ⟨rowTile, row, columnTile, chunk, rowSize, column, -, -, -, -, -, -, -, rfl⟩ := h
  have hproduct : (row.toInt * rowSize.toInt).natAbs ≤ 2 ^ 31 * 2 ^ 31 := by
    rw [Int.natAbs_mul]
    exact Nat.mul_le_mul (natAbs_toInt_le row) (natAbs_toInt_le rowSize)
  have hchunk := natAbs_toInt_le chunk
  have hcolumn := natAbs_toInt_le column
  omega

/-- A signed word holds every position, and the step from a position in a scratch of at most
    `2 ^ 61` octets to any other. -/
theorem toInt_ofInt_of_liesAt {y x : Nat} {origin index : Int} (h : layout.LiesAt y x index)
    (hinside : 0 ≤ origin) (hsmall : origin ≤ 2 ^ 61) :
    (Int64.ofInt index).toInt = index ∧
      (Int64.ofInt index - Int64.ofInt origin).toInt = index - origin := by
  have hindex := natAbs_le_of_liesAt h
  rw [← Int64.ofInt_sub]
  exact ⟨Int64.toInt_ofInt_of_le (by omega) (by omega),
    Int64.toInt_ofInt_of_le (by omega) (by omega)⟩

/-! ## Positions by the maps of a layout -/

theorem entry_eq_ok_iff {map : List Int32} {i : Nat} {what : String} {value : Int} :
    buffer.entry map i what = .ok value ↔ ∃ entry, map[i]? = some entry ∧ entry.toInt = value := by
  unfold entry
  cases map[i]? <;> simp

section Layout

variable (hlayout : buffer.layer.layout = some layout)

include hlayout

theorem layout_eq_ok : buffer.layout = .ok layout := by
  rw [OutputBuffer.layout, hlayout]

theorem rowIndex_eq_ok_iff {y : Nat} {row : RowIndex} :
    buffer.rowIndex y = .ok row ↔ ∃ rowTile localRow : Int32, layout.rowTile[y]? = some rowTile ∧
      layout.localRow[y]? = some localRow ∧ row = ⟨rowTile.toInt, localRow.toInt⟩ := by
  unfold rowIndex
  simp only [layout_eq_ok hlayout, ok_bind, bind_ok_iff, entry_eq_ok_iff]
  constructor
  · rintro ⟨_, ⟨rowTile, hrowTile, rfl⟩, _, ⟨localRow, hlocalRow, rfl⟩, hrow⟩
    cases hrow
    exact ⟨rowTile, localRow, hrowTile, hlocalRow, rfl⟩
  · rintro ⟨rowTile, localRow, hrowTile, hlocalRow, rfl⟩
    exact ⟨_, ⟨rowTile, hrowTile, rfl⟩, _, ⟨localRow, hlocalRow, rfl⟩, rfl⟩

/-- The index of a position is the formula of its layout, and defined where its maps have entries
    and the tile is none of a negative number. -/
theorem elementIndex_eq_ok_iff {y x : Nat} {index : Int} :
    (∃ row, buffer.rowIndex y = .ok row ∧ buffer.elementIndex row x 0 = .ok index) ↔
      layout.LiesAt y x index := by
  unfold elementIndex
  simp only [layout_eq_ok hlayout, ok_bind, bind_ok_iff, entry_eq_ok_iff, check_eq_ok_iff,
    rowIndex_eq_ok_iff hlayout, Int.not_lt]
  constructor
  · rintro ⟨_, ⟨rowTile, localRow, hrowTile, hlocalRow, rfl⟩, _, ⟨columnTile, hcolumnTile, rfl⟩,
      htile, _, ⟨chunk, hchunk, rfl⟩, _, ⟨rowSize, hrowSize, rfl⟩, _, ⟨column, hcolumn, rfl⟩, -,
      hindex⟩
    cases hindex
    exact ⟨rowTile, localRow, columnTile, chunk, rowSize, column, hrowTile, hlocalRow, hcolumnTile,
      htile, hchunk, hrowSize, hcolumn, Int.add_zero _⟩
  · rintro ⟨rowTile, localRow, columnTile, chunk, rowSize, column, hrowTile, hlocalRow, hcolumnTile,
      htile, hchunk, hrowSize, hcolumn, rfl⟩
    exact ⟨_, ⟨rowTile, localRow, hrowTile, hlocalRow, rfl⟩, _, ⟨columnTile, hcolumnTile, rfl⟩,
      htile, _, ⟨chunk, hchunk, rfl⟩, _, ⟨rowSize, hrowSize, rfl⟩, _, ⟨column, hcolumn, rfl⟩,
      Nat.not_lt_zero _, congrArg Except.ok (Int.add_zero _)⟩

/-- An operation that needs the index of a position ends well exactly if the layout has one and the
    operation ends well on it. -/
theorem elementIndex_bind_eq_ok_iff {β : Type} {f : Int → Except ModelError β} {y x : Nat} {b : β} :
    (buffer.rowIndex y >>= fun row => buffer.elementIndex row x 0 >>= f) = .ok b ↔
      ∃ index, layout.LiesAt y x index ∧ f index = .ok b := by
  simp only [bind_ok_iff, ← elementIndex_eq_ok_iff hlayout]
  constructor
  · rintro ⟨row, hrow, index, hindex, hf⟩
    exact ⟨index, ⟨row, hrow, hindex⟩, hf⟩
  · rintro ⟨index, ⟨row, hrow, hindex⟩, hf⟩
    exact ⟨row, hrow, index, hindex, hf⟩

/-- The stride is the spacing of the columns, and defined exactly if the first step is. -/
theorem stride_eq_spacing_iff {stride : Nat} :
    buffer.stride = .ok stride ↔
      ∃ step, FirstStep buffer layout step ∧ buffer.spacing step = stride := by
  have hopen : buffer.stride = .ok stride ↔ ∃ origin, layout.LiesAt 0 0 origin ∧ ∃ next,
      (if 1 < buffer.layer.columns then layout.LiesAt 0 1 next else layout.LiesAt 1 0 next) ∧
        ∃ step, buffer.octetOffset (next - origin) = .ok step ∧ buffer.spacing step = stride := by
    rw [OutputBuffer.stride, elementIndex_bind_eq_ok_iff hlayout]
    refine exists_congr fun origin => and_congr_right fun _ => ?_
    by_cases hcolumns : 1 < buffer.layer.columns
    · simp only [hcolumns, if_true, elementIndex_bind_eq_ok_iff hlayout, bind_ok_iff]
      simp only [pure, Except.pure, Except.ok.injEq, spacing]
    · simp only [hcolumns, if_false, elementIndex_bind_eq_ok_iff hlayout, bind_ok_iff]
      simp only [pure, Except.pure, Except.ok.injEq, spacing]
  rw [hopen]
  constructor
  · rintro ⟨origin, horigin, next, hnext, step, hstep, hstride⟩
    obtain ⟨hle, hlt, rfl⟩ := octetOffset_eq_ok_iff.mp hstep
    exact ⟨_, ⟨origin, next, horigin, hnext, Int.sub_nonneg.mp hle, rfl, hlt⟩, hstride⟩
  · rintro ⟨step, ⟨origin, next, horigin, hnext, hle, rfl, hlt⟩, hstride⟩
    exact ⟨origin, horigin, next, hnext, _,
      octetOffset_eq_ok_iff.mpr ⟨Int.sub_nonneg.mpr hle, hlt, rfl⟩, hstride⟩

end Layout

/-! ## Runs of columns -/

theorem runStart_of_same {tiles : List Int32} {start : Nat}
    (hopens : start = 0 ∨ tiles[start - 1]? ≠ tiles[start]?) {i : Nat}
    (hsame : ∀ j ≤ i, tiles[start + j]? = tiles[start]?) : runStart tiles (start + i) = start := by
  induction i with
  | zero =>
    cases start with
    | zero => rfl
    | succ start =>
      have hne : tiles[start + 1]? ≠ tiles[start]? := (hopens.resolve_left (by omega)).symm
      rw [Nat.add_zero, runStart, if_neg hne]
  | succ i ih =>
    have hequal : tiles[start + i + 1]? = tiles[start + i]? :=
      (hsame (i + 1) le_rfl).trans (hsame i (by omega)).symm
    rw [← Nat.add_assoc, runStart, if_pos hequal]
    exact ih fun j hj => hsame j (by omega)

/-- The run that a column belongs to cannot be extended to the left, and holds all columns up to
    this one. -/
theorem same_of_runStart (tiles : List Int32) (x : Nat) :
    (runStart tiles x = 0 ∨ tiles[runStart tiles x - 1]? ≠ tiles[runStart tiles x]?) ∧
      ∀ i, runStart tiles x + i ≤ x → tiles[runStart tiles x + i]? = tiles[runStart tiles x]? := by
  induction x with
  | zero =>
    refine ⟨.inl rfl, fun i hi => ?_⟩
    rw [runStart, Nat.zero_add] at hi
    rw [Nat.le_zero.mp hi, Nat.add_zero]
  | succ x ih =>
    rw [runStart]
    split_ifs with h
    · refine ⟨ih.1, fun i hi => ?_⟩
      rcases Nat.lt_or_eq_of_le hi with hlt | heq
      · exact ih.2 i (by omega)
      · have hle := runStart_le tiles x
        have hlast := ih.2 (x - runStart tiles x) (by omega)
        rw [show runStart tiles x + (x - runStart tiles x) = x by omega] at hlast
        rw [heq, h, hlast]
    · refine ⟨.inr (Ne.symm h), fun i hi => ?_⟩
      rw [show i = 0 by omega, Nat.add_zero]

/-- The columns of a maximal run are copied together. -/
theorem runStart_of_isRun {columns start length i : Nat} (h : layout.IsRun columns start length)
    (hi : i < length) : runStart layout.columnTile (start + i) = start :=
  runStart_of_same h.opens fun j hj => h.same j (by omega)

/-- Every column belongs to a maximal run. -/
theorem exists_isRun (layout : TileLayout) {columns x : Nat} (hx : x < columns) :
    ∃ length, layout.IsRun columns (runStart layout.columnTile x) length ∧
      x < runStart layout.columnTile x + length := by
  classical
  obtain ⟨hopens, hsame⟩ := same_of_runStart layout.columnTile x
  have hle := runStart_le layout.columnTile x
  -- the first column after `x` that the run does not hold
  have hexists : ∃ stop, x < stop ∧ (stop = columns ∨
      layout.columnTile[stop]? ≠ layout.columnTile[runStart layout.columnTile x]?) :=
    ⟨columns, hx, .inl rfl⟩
  obtain ⟨hafter, hcloses⟩ := Nat.find_spec hexists
  have hinside := Nat.find_min' hexists ⟨hx, .inl rfl⟩
  have hbefore := fun (j : Nat) => Nat.find_min hexists (m := j)
  generalize Nat.find hexists = stop at hafter hcloses hinside hbefore
  refine ⟨stop - runStart layout.columnTile x, ⟨by omega, by omega, fun i hi => ?_, hopens, ?_⟩,
    by omega⟩
  · by_cases hi' : runStart layout.columnTile x + i ≤ x
    · exact hsame i hi'
    · by_contra hother
      exact hbefore _ (by omega) ⟨by omega, .inr hother⟩
  · rw [Nat.add_sub_cancel' (by omega)]
    exact hcloses

/-! ## Runs and positions -/

/-- All runs lie inside the scratch exactly if all positions are read there. -/
theorem runsInside_iff {spacing : Nat} :
    RunsInside buffer layout spacing ↔
      ∀ y < buffer.layer.rows, ∀ x < buffer.layer.columns,
        (∃ offset, buffer.offset y (runStart layout.columnTile x) 0 = .ok offset) ∧
          buffer.source layout spacing y x + buffer.positionSize ≤ buffer.scratch.length := by
  constructor
  · intro h y hy x hx
    obtain ⟨length, hrun, hlast⟩ := exists_isRun layout hx
    obtain ⟨offset, hoffset, hinside⟩ := h y hy _ length hrun
    refine ⟨⟨offset, hoffset⟩, ?_⟩
    have hcolumn := Nat.add_sub_cancel' (runStart_le layout.columnTile x)
    rw [← hcolumn, source_of_run (by rw [hcolumn]) hoffset]
    exact hinside _ (by omega)
  · intro h y hy start length hrun
    have hpos := hrun.pos
    have hle := hrun.le
    obtain ⟨⟨offset, hoffset⟩, -⟩ := h y hy start (by omega)
    rw [show runStart layout.columnTile start = start from runStart_of_isRun hrun hpos] at hoffset
    refine ⟨offset, hoffset, fun i hi => ?_⟩
    rw [← source_of_run (runStart_of_isRun hrun hi) hoffset]
    exact (h y hy (start + i) (by omega)).2

/-- Positions that are copied from where they are read are gathered run by run. -/
theorem GathersRuns.of_copied {spacing : Nat} {dest dest' : Bytes}
    (h : Copied buffer (buffer.cellSource layout spacing) 0
      (buffer.layer.rows * buffer.layer.columns) dest dest') :
    GathersRuns buffer layout spacing dest dest' := by
  refine ⟨h.length_eq, fun y hy start length offset hrun hoffset i hi k hk => ?_, fun i hi => ?_⟩
  · have hle := hrun.le
    have hx : start + i < buffer.layer.columns := by omega
    rw [h.gathered _ (Nat.zero_le _) (by rw [Nat.zero_add]; exact cell_lt hy hx) k hk,
      cellSource_eq hx, source_of_run (runStart_of_isRun hrun hi) hoffset]
  · rw [tensorSize_eq] at hi
    exact h.kept i (.inr (by rwa [Nat.zero_add]))

/-! ## Main theorem -/

/-- **Relayout gathers runs.** For every layer that has an output buffer and extends over rows or
    columns, every content of its scratch and every destination: relayout ends well exactly if the
    first step is defined and no step back, the destination has room for the tensor, and the runs of
    every row have offsets and lie inside the scratch. It then takes every position from where its
    run puts it, and leaves all that follows in the destination as it was. -/
theorem relayout_gathers_runs {layer : Layer} {fresh : OutputBuffer}
    (hmade : ofLayer layer = .ok fresh) (hdim : layer.isOneDimensional = false)
    (hlayout : layer.layout = some layout) (hcolumns : 0 < layer.columns) (scratch dest : Bytes) :
    let buffer : OutputBuffer := ⟨layer, scratch⟩
    ((∃ dest', buffer.relayout dest = .ok () dest') ↔
        ∃ step, FirstStep buffer layout step ∧ buffer.tensorSize ≤ dest.length ∧
          RunsInside buffer layout (buffer.spacing step)) ∧
      ∀ dest' step, buffer.relayout dest = .ok () dest' → FirstStep buffer layout step →
        GathersRuns buffer layout (buffer.spacing step) dest dest' := by
  intro buffer
  obtain ⟨layout', hlayout', hcover, hrow⟩ := layout_of_tiled hmade hdim
  cases hlayout.symm.trans hlayout'
  rw [show buffer.relayout = buffer.copyTiles from relayout_eq_copyTiles hdim scratch]
  constructor
  · rw [copyTiles_returns_iff buffer hcolumns hcover hlayout (hrow scratch)]
    constructor
    · rintro ⟨stride, hstride, hroom, hinside⟩
      obtain ⟨step, hstep, rfl⟩ := (stride_eq_spacing_iff hlayout).mp hstride
      exact ⟨step, hstep, hroom, runsInside_iff.mpr hinside⟩
    · rintro ⟨step, hstep, hroom, hinside⟩
      exact ⟨_, (stride_eq_spacing_iff hlayout).mpr ⟨step, hstep, rfl⟩, hroom,
        runsInside_iff.mp hinside⟩
  · intro dest' step h hstep
    obtain ⟨stride, hstride, hcopied⟩ := copied_of_copyTiles buffer hcolumns hcover hlayout h
    have hspacing : buffer.stride = .ok (buffer.spacing step) :=
      (stride_eq_spacing_iff hlayout).mpr ⟨step, hstep, rfl⟩
    cases hstride.symm.trans hspacing
    exact GathersRuns.of_copied hcopied

/-- Two rows of three columns over two tiles: a run of two columns and one of one. -/
theorem relayout_gathers_runs_twoTiles :
    let layout : TileLayout := ⟨[0, 0], [0, 0, 1], [0, 8], [0, 2, 0], [0, 1], [4, 4, 2]⟩
    let buffer : OutputBuffer := ⟨twoTiles, [0, 1, 2, 3, 4, 5, 6, 7, 8, 9, 10, 11]⟩
    ofLayer twoTiles = .ok ⟨twoTiles, Bytes.zeros 12⟩ ∧ twoTiles.isOneDimensional = false ∧
      twoTiles.layout = some layout ∧ 0 < twoTiles.columns ∧
      ∃ dest' step, buffer.relayout (Bytes.zeros 13) = .ok () dest' ∧
        FirstStep buffer layout step ∧
        GathersRuns buffer layout (buffer.spacing step) (Bytes.zeros 13) dest' := by
  intro layout buffer
  have hmade : ofLayer twoTiles = .ok ⟨twoTiles, Bytes.zeros 12⟩ := rfl
  have hlayout : twoTiles.layout = some layout := rfl
  have hends : (match buffer.relayout (Bytes.zeros 13) with
      | .ok .. => true
      | .error .. => false) = true := by decide +kernel
  obtain ⟨dest', hrun⟩ : ∃ dest', buffer.relayout (Bytes.zeros 13) = .ok () dest' := by
    cases hend : buffer.relayout (Bytes.zeros 13) with
    | ok _ dest' => exact ⟨dest', rfl⟩
    | error =>
      rw [hend] at hends
      cases hends
  obtain ⟨hreturns, hgathers⟩ := relayout_gathers_runs hmade rfl hlayout (by decide)
    [0, 1, 2, 3, 4, 5, 6, 7, 8, 9, 10, 11] (Bytes.zeros 13)
  obtain ⟨step, hstep, -⟩ := hreturns.mp ⟨dest', hrun⟩
  exact ⟨hmade, rfl, hlayout, by decide, dest', step, hrun, hstep, hgathers dest' step hrun hstep⟩

end OutputBuffer

end TensorLink

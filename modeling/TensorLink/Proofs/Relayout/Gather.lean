import TensorLink.Model.OutputBuffer
import TensorLink.Proofs.Octets
import TensorLink.Proofs.Sequencing
import Mathlib.Tactic.Ring

/-!
# Relayout of tiles is a gather

Copying a tiled layer out goes row by row, and within a row by the maximal runs of columns that one
tile holds. The first column of a run is read where the layout says that it lies; every further
column is read one stride after the one before. `source` is the position that is read for a row and
a column.

Results:
* `copied_of_copyTiles`: if the copying ends well, every position of the dense tensor holds the
  octets of the scratch from its `source` on, and nothing past the tensor has changed.
* `copyTiles_returns_iff`: the copying ends well exactly if the stride is defined, the destination
  has room, and every `source` is defined and lies inside the scratch.
-/

namespace TensorLink.OutputBuffer

open Sequencing

variable {buffer : OutputBuffer} {layout : TileLayout}

/-! ## Copying consecutive positions -/

theorem copy_eq_ok_iff {start source size : Nat} {dest dest' : Bytes} :
    buffer.copy start source size dest = .ok () dest' ↔
      source + size ≤ buffer.scratch.length ∧ start + size ≤ dest.length ∧
        dest' = dest.overwrite start ((buffer.scratch.drop source).take size) := by
  unfold copy Bytes.slice?
  by_cases hs : source + size ≤ buffer.scratch.length
  · rw [if_pos hs]
    dsimp only
    constructor
    · intro h
      rw [get_bind] at h
      split at h
      · exact ⟨hs, ‹_›, (set_eq_ok_iff.mp h).symm⟩
      · exact absurd h throw_ne_ok
    · rintro ⟨-, hd, rfl⟩
      rw [get_bind, if_pos hd]
      rfl
  · rw [if_neg hs]
    simp [hs, throw_ne_ok]

/-- `dest'` is `dest` with `count` positions of the dense tensor from `first` on taken from the
    scratch, position `n` from `source n` on. -/
structure Copied (buffer : OutputBuffer) (source : Nat → Nat) (first count : Nat)
    (dest dest' : Bytes) : Prop where
  length_eq : dest'.length = dest.length
  inside : ∀ n, first ≤ n → n < first + count →
    source n + buffer.positionSize ≤ buffer.scratch.length
  gathered : ∀ n, first ≤ n → n < first + count → ∀ k < buffer.positionSize,
    dest'[n * buffer.positionSize + k]? = buffer.scratch[source n + k]?
  kept : ∀ i, i < first * buffer.positionSize ∨ (first + count) * buffer.positionSize ≤ i →
    dest'[i]? = dest[i]?

theorem Copied.refl (source : Nat → Nat) (first : Nat) (dest : Bytes) :
    Copied buffer source first 0 dest dest :=
  ⟨rfl, fun n h1 h2 => by omega, fun n h1 h2 => by omega, fun _ _ => rfl⟩

theorem Copied.trans {source : Nat → Nat} {first count more : Nat} {dest mid dest' : Bytes}
    (h : Copied buffer source first count dest mid)
    (h' : Copied buffer source (first + count) more mid dest') :
    Copied buffer source first (count + more) dest dest' := by
  refine ⟨h'.length_eq.trans h.length_eq, fun n h1 h2 => ?_, fun n h1 h2 k hk => ?_, fun i hi => ?_⟩
  · rcases Nat.lt_or_ge n (first + count) with hn | hn
    · exact h.inside n h1 hn
    · exact h'.inside n hn (by omega)
  · rcases Nat.lt_or_ge n (first + count) with hn | hn
    · have hlt : n * buffer.positionSize + k < (first + count) * buffer.positionSize := by
        have := Nat.mul_le_mul_right buffer.positionSize hn
        rw [Nat.succ_mul] at this
        omega
      rw [h'.kept _ (.inl hlt), h.gathered n h1 hn k hk]
    · exact h'.gathered n hn (by omega) k hk
  · have h1 := Nat.mul_le_mul_right buffer.positionSize (show first ≤ first + count by omega)
    have h2 := Nat.mul_le_mul_right buffer.positionSize
      (show first + count ≤ first + (count + more) by omega)
    rw [h'.kept i (by rw [Nat.add_assoc]; omega), h.kept i (by omega)]

/-- One position is copied. -/
theorem copied_of_copy {source : Nat → Nat} {n : Nat} {dest dest' : Bytes}
    (h : buffer.copy (n * buffer.positionSize) (source n) buffer.positionSize dest = .ok () dest') :
    Copied buffer source n 1 dest dest' := by
  obtain ⟨h1, h2, rfl⟩ := copy_eq_ok_iff.mp h
  have hlen : ((buffer.scratch.drop (source n)).take buffer.positionSize).length =
      buffer.positionSize := by
    rw [List.length_take, List.length_drop]; omega
  have hsucc : (n + 1) * buffer.positionSize = n * buffer.positionSize + buffer.positionSize :=
    Nat.succ_mul ..
  refine ⟨Bytes.length_overwrite (by omega), fun m hm hm' => ?_, fun m hm hm' k hk => ?_,
    fun i hi => ?_⟩
  · rw [show m = n by omega]; exact h1
  · rw [show m = n by omega, Bytes.getElem?_overwrite (by omega), if_pos (by omega),
      Nat.add_sub_cancel_left, List.getElem?_take_of_lt hk, List.getElem?_drop]
  · rw [Bytes.getElem?_overwrite (by omega), if_neg (by omega)]

section Run

variable {first start stride : Nat} {source : Nat → Nat}

/-- A run of columns is copied with a fixed stride. -/
theorem copied_of_run {run : Nat} {dest dest' : Bytes}
    (hs : ∀ i < run, source (first + i) = start + i * stride)
    (h : (List.range run).forM (fun i => buffer.copy ((first + i) * buffer.positionSize)
      (start + i * stride) buffer.positionSize) dest = .ok () dest') :
    Copied buffer source first run dest dest' := by
  induction run generalizing dest' with
  | zero =>
    obtain ⟨-, rfl⟩ := pure_eq_ok_iff.mp h
    exact Copied.refl source first dest
  | succ run ih =>
    obtain ⟨mid, h1, h2⟩ := forM_range_succ_eq_ok_iff.mp h
    rw [← hs run (by omega)] at h2
    exact (ih (fun i hi => hs i (by omega)) h1).trans (copied_of_copy h2)

theorem run_returns {run : Nat} (dest : Bytes)
    (hs : ∀ i < run, source (first + i) = start + i * stride)
    (hi : ∀ i < run, source (first + i) + buffer.positionSize ≤ buffer.scratch.length)
    (hd : (first + run) * buffer.positionSize ≤ dest.length) :
    ∃ dest', (List.range run).forM (fun i => buffer.copy ((first + i) * buffer.positionSize)
      (start + i * stride) buffer.positionSize) dest = .ok () dest' := by
  induction run with
  | zero => exact ⟨dest, rfl⟩
  | succ run ih =>
    have hsucc : (first + (run + 1)) * buffer.positionSize =
        (first + run) * buffer.positionSize + buffer.positionSize := by
      rw [← Nat.add_assoc, Nat.succ_mul]
    obtain ⟨mid, hmid⟩ := ih (fun i h => hs i (by omega)) (fun i h => hi i (by omega)) (by omega)
    have hlen := (copied_of_run (fun i h => hs i (by omega)) hmid).length_eq
    have hin := hi run (by omega)
    rw [hs run (by omega)] at hin
    exact ⟨_, forM_range_succ_eq_ok_iff.mpr
      ⟨mid, hmid, copy_eq_ok_iff.mpr ⟨hin, by omega, rfl⟩⟩⟩

end Run

/-! ## Runs of columns -/

/-- The first column of the maximal run of equal entries that column `x` belongs to. -/
def runStart (tiles : List Int32) : Nat → Nat
  | 0 => 0
  | x + 1 => if tiles[x + 1]? = tiles[x]? then runStart tiles x else x + 1

theorem runStart_le (tiles : List Int32) (x : Nat) : runStart tiles x ≤ x := by
  induction x with
  | zero => exact le_rfl
  | succ x ih =>
    rw [runStart]
    split_ifs <;> omega

theorem runStart_take {tiles : List Int32} {columns x : Nat} (h : x < columns) :
    runStart (tiles.take columns) x = runStart tiles x := by
  induction x with
  | zero => rfl
  | succ x ih =>
    rw [runStart, runStart, List.getElem?_take_of_lt h, List.getElem?_take_of_lt (by omega),
      ih (by omega)]

/-- `runs` are the lengths of the maximal runs of equal entries from `x` on. -/
def RunsFrom (tiles : List Int32) : Nat → List Nat → Prop
  | x, [] => x = tiles.length
  | x, run :: runs =>
    0 < run ∧ (∀ i < run, runStart tiles (x + i) = x) ∧ RunsFrom tiles (x + run) runs

theorem RunsFrom.le {tiles : List Int32} {x : Nat} {runs : List Nat} (h : RunsFrom tiles x runs) :
    x ≤ tiles.length := by
  induction runs generalizing x with
  | nil => exact Nat.le_of_eq h
  | cons run runs ih =>
    have := ih h.2.2
    omega

theorem runsFrom_runLengths {tiles : List Int32} {last : Int32} {rest : List Int32} :
    ∀ {x length : Nat}, 0 < length → (∀ i < length, runStart tiles (x + i) = x) →
      tiles[x + length - 1]? = some last → tiles.drop (x + length) = rest →
      RunsFrom tiles x (runLengths last length rest) := by
  induction rest generalizing last with
  | nil =>
    intro x length hpos hrun hlast hrest
    have h1 := List.drop_eq_nil_iff.mp hrest
    have h2 := (List.getElem?_eq_some_iff.mp hlast).1
    exact ⟨hpos, hrun, show x + length = tiles.length by omega⟩
  | cons a rest ih =>
    intro x length hpos hrun hlast hrest
    have ha : tiles[x + length]? = some a := by
      rw [← Nat.add_zero (x + length), ← List.getElem?_drop, hrest, List.getElem?_cons_zero]
    have hdrop : tiles.drop (x + length + 1) = rest := by
      rw [← List.drop_drop, hrest, List.drop_one, List.tail_cons]
    have hnext : x + length = x + length - 1 + 1 := by omega
    rw [runLengths]
    split_ifs with h
    · refine ih (by omega) (fun i hi => ?_) (by rw [← h]; exact ha) hdrop
      rcases Nat.lt_or_ge i length with hi' | hi'
      · exact hrun i hi'
      · rw [show x + i = x + length - 1 + 1 by omega, runStart, ← hnext, ha, hlast, h,
          if_pos rfl, show x + length - 1 = x + (length - 1) by omega]
        exact hrun _ (by omega)
    · refine ⟨hpos, hrun, ih (by omega) (fun i hi => ?_) ha hdrop⟩
      rw [show i = 0 by omega, Nat.add_zero, hnext, runStart, ← hnext, ha, hlast,
        if_neg (by simpa using h)]

/-- The runs that the copying goes by are the maximal runs of equal entries. -/
theorem runsFrom_columnRuns {tiles : List Int32} (h : tiles ≠ []) :
    RunsFrom tiles 0 (columnRuns tiles) := by
  cases tiles with
  | nil => exact absurd rfl h
  | cons tile rest =>
    refine runsFrom_runLengths (by omega) (fun i hi => ?_) (by simp) (by simp)
    rw [show 0 + i = 0 by omega, runStart]

/-! ## Rows -/

theorem offset_eq_ok_iff {y x channel position : Nat} :
    buffer.offset y x channel = .ok position ↔ ∃ row index, buffer.rowIndex y = .ok row ∧
      buffer.elementIndex row x channel = .ok index ∧ buffer.octetOffset index = .ok position := by
  unfold offset
  cases buffer.rowIndex y with
  | error e => simp [bind, Except.bind]
  | ok row => cases h : buffer.elementIndex row x channel <;> simp [bind, Except.bind, h]

theorem known_bind_eq_ok_iff {α β : Type} {e : Except ModelError α} {f : α → CopyM β} {b : β}
    {dest dest' : Bytes} :
    (known e >>= f) dest = .ok b dest' ↔ ∃ a, e = .ok a ∧ f a dest = .ok b dest' := by
  cases e with
  | ok a => exact ⟨fun h => ⟨a, rfl, h⟩, by rintro ⟨_, ⟨⟩, h⟩; exact h⟩
  | error e =>
    refine iff_of_false (fun h => ?_) (by simp)
    obtain ⟨_, _, h, -⟩ := bind_eq_ok_iff.mp h
    exact throw_ne_ok h

/-- Where row `y` and column `x` are read: the offset of the first column of the run, and one stride
    for each column after it. -/
def source (buffer : OutputBuffer) (layout : TileLayout) (stride y x : Nat) : Nat :=
  let start := runStart layout.columnTile x
  match buffer.offset y start 0 with
  | .ok position => position + (x - start) * stride
  | .error _ => 0

/-- `source` by the number of a position in the dense tensor. -/
def cellSource (buffer : OutputBuffer) (layout : TileLayout) (stride n : Nat) : Nat :=
  buffer.source layout stride (n / buffer.layer.columns) (n % buffer.layer.columns)

/-- Positions are numbered row by row. -/
theorem cell_lt {rows columns y x : Nat} (hy : y < rows) (hx : x < columns) :
    y * columns + x < rows * columns := by
  have := Nat.mul_le_mul_right columns hy
  rw [Nat.succ_mul] at this
  omega

theorem cellSource_eq {stride y x : Nat} (hx : x < buffer.layer.columns) :
    buffer.cellSource layout stride (y * buffer.layer.columns + x) =
      buffer.source layout stride y x := by
  have hdiv : (y * buffer.layer.columns + x) / buffer.layer.columns = y := by
    rw [Nat.mul_comm, Nat.mul_add_div (by omega), Nat.div_eq_of_lt hx, Nat.add_zero]
  have hmod : (y * buffer.layer.columns + x) % buffer.layer.columns = x := by
    rw [Nat.mul_comm, Nat.mul_add_mod, Nat.mod_eq_of_lt hx]
  rw [cellSource, hdiv, hmod]

theorem source_runStart {stride y x position : Nat} (hx : runStart layout.columnTile x = x)
    (h : buffer.offset y x 0 = .ok position) : buffer.source layout stride y x = position := by
  rw [source]
  simp only [hx, h, Nat.sub_self, Nat.zero_mul, Nat.add_zero]

theorem source_of_run {stride y x i position : Nat} (hx : runStart layout.columnTile (x + i) = x)
    (h : buffer.offset y x 0 = .ok position) :
    buffer.source layout stride y (x + i) = position + i * stride := by
  rw [source]
  simp only [hx, h, Nat.add_sub_cancel_left]

section Row

variable {stride y : Nat} {row : RowIndex}

/-- What the copying of the columns from `x` on of a row does. -/
theorem copied_of_row (hrow : buffer.rowIndex y = .ok row)
    (hlen : (layout.columnTile.take buffer.layer.columns).length = buffer.layer.columns)
    {x : Nat} {runs : List Nat} {dest dest' : Bytes}
    (hruns : RunsFrom (layout.columnTile.take buffer.layer.columns) x runs)
    (h : buffer.copyRow y row stride x runs dest = .ok () dest') :
    Copied buffer (buffer.cellSource layout stride) (y * buffer.layer.columns + x)
        (buffer.layer.columns - x) dest dest' ∧
      ∀ c, x ≤ c → c < buffer.layer.columns →
        ∃ position, buffer.offset y (runStart layout.columnTile c) 0 = .ok position := by
  induction runs generalizing x dest with
  | nil =>
    obtain ⟨-, rfl⟩ := pure_eq_ok_iff.mp h
    have hx : x = buffer.layer.columns := hruns.trans hlen
    rw [hx, Nat.sub_self]
    exact ⟨Copied.refl _ _ _, fun c h1 h2 => by omega⟩
  | cons run runs ih =>
    obtain ⟨hpos, hrun, hrest⟩ := hruns
    have hle := hrest.le
    rw [hlen] at hle
    have hstart : ∀ i < run, runStart layout.columnTile (x + i) = x := fun i hi =>
      (runStart_take (by omega)).symm.trans (hrun i hi)
    obtain ⟨index, hindex, h⟩ := known_bind_eq_ok_iff.mp h
    obtain ⟨position, hposition, h⟩ := known_bind_eq_ok_iff.mp h
    obtain ⟨_, mid, hloop, h⟩ := bind_eq_ok_iff.mp h
    have hoffset : buffer.offset y x 0 = .ok position :=
      offset_eq_ok_iff.mpr ⟨row, index, hrow, hindex, hposition⟩
    have hcell : ∀ i < run, buffer.cellSource layout stride (y * buffer.layer.columns + x + i) =
        position + i * stride := fun i hi => by
      rw [Nat.add_assoc, cellSource_eq (by omega), source_of_run (hstart i hi) hoffset]
    have hcopied := copied_of_run hcell hloop
    obtain ⟨hcopied', hdefined⟩ := ih hrest h
    rw [← Nat.add_assoc] at hcopied'
    refine ⟨?_, fun c h1 h2 => ?_⟩
    · rw [show buffer.layer.columns - x = run + (buffer.layer.columns - (x + run)) by omega]
      exact hcopied.trans hcopied'
    · rcases Nat.lt_or_ge c (x + run) with hc | hc
      · have := hstart (c - x) (by omega)
        rw [show x + (c - x) = c by omega] at this
        exact ⟨position, by rw [this]; exact hoffset⟩
      · exact hdefined c hc h2

theorem row_returns (hrow : buffer.rowIndex y = .ok row)
    (hlen : (layout.columnTile.take buffer.layer.columns).length = buffer.layer.columns)
    {x : Nat} {runs : List Nat} (dest : Bytes)
    (hruns : RunsFrom (layout.columnTile.take buffer.layer.columns) x runs)
    (hsource : ∀ c, x ≤ c → c < buffer.layer.columns →
      (∃ position, buffer.offset y (runStart layout.columnTile c) 0 = .ok position) ∧
        buffer.source layout stride y c + buffer.positionSize ≤ buffer.scratch.length)
    (hd : (y * buffer.layer.columns + buffer.layer.columns) * buffer.positionSize ≤ dest.length) :
    ∃ dest', buffer.copyRow y row stride x runs dest = .ok () dest' := by
  induction runs generalizing x dest with
  | nil => exact ⟨dest, rfl⟩
  | cons run runs ih =>
    obtain ⟨hpos, hrun, hrest⟩ := hruns
    have hle := hrest.le
    rw [hlen] at hle
    have hstart : ∀ i < run, runStart layout.columnTile (x + i) = x := fun i hi =>
      (runStart_take (by omega)).symm.trans (hrun i hi)
    obtain ⟨position, hoffset⟩ := (hsource x le_rfl (by omega)).1
    rw [show runStart layout.columnTile x = x from hstart 0 hpos] at hoffset
    obtain ⟨_, index, hrow', hindex, hposition⟩ := offset_eq_ok_iff.mp hoffset
    rw [hrow] at hrow'
    cases hrow'
    have hcell : ∀ i < run, buffer.cellSource layout stride (y * buffer.layer.columns + x + i) =
        position + i * stride := fun i hi => by
      rw [Nat.add_assoc, cellSource_eq (by omega), source_of_run (hstart i hi) hoffset]
    have hroom := Nat.mul_le_mul_right buffer.positionSize
      (show y * buffer.layer.columns + x + run ≤
        y * buffer.layer.columns + buffer.layer.columns by omega)
    have hinside : ∀ i < run, buffer.cellSource layout stride (y * buffer.layer.columns + x + i) +
        buffer.positionSize ≤ buffer.scratch.length := fun i hi => by
      rw [Nat.add_assoc, cellSource_eq (by omega)]
      exact (hsource (x + i) (by omega) (by omega)).2
    obtain ⟨mid, hloop⟩ := run_returns dest hcell hinside (by omega)
    have hmid := (copied_of_run hcell hloop).length_eq
    obtain ⟨dest', h⟩ := ih mid hrest (fun c hc => hsource c (by omega)) (by omega)
    exact ⟨dest', known_bind_eq_ok_iff.mpr ⟨index, hindex,
      known_bind_eq_ok_iff.mpr ⟨position, hposition, bind_eq_ok_iff.mpr ⟨(), mid, hloop, h⟩⟩⟩⟩

end Row

/-! ## The whole layer -/

/-- The loop over the first rows. -/
def copyRows (buffer : OutputBuffer) (stride : Nat) (runs : List Nat) (rows : Nat) : CopyM Unit :=
  (List.range rows).forM fun y => do
    buffer.copyRow y (← known (buffer.rowIndex y)) stride 0 runs

/-- The number of octets of the dense tensor of one execution. -/
def tensorSize (buffer : OutputBuffer) : Nat := buffer.layer.elements * buffer.layer.type.size

theorem tensorSize_eq (buffer : OutputBuffer) :
    buffer.tensorSize = buffer.layer.rows * buffer.layer.columns * buffer.positionSize := by
  unfold tensorSize positionSize Layer.elements
  ring

theorem copyTiles_eq_ok_iff (hlayout : buffer.layer.layout = some layout) {dest dest' : Bytes} :
    buffer.copyTiles dest = .ok () dest' ↔ ∃ stride, buffer.stride = .ok stride ∧
      buffer.tensorSize ≤ dest.length ∧
      buffer.copyRows stride (columnRuns (layout.columnTile.take buffer.layer.columns))
        buffer.layer.rows dest = .ok () dest' := by
  have hknown : buffer.layout = .ok layout := by rw [OutputBuffer.layout, hlayout]
  unfold copyTiles
  constructor
  · intro h
    obtain ⟨_, hl, h⟩ := known_bind_eq_ok_iff.mp h
    cases hknown.symm.trans hl
    obtain ⟨stride, hstride, h⟩ := known_bind_eq_ok_iff.mp h
    rw [get_bind] at h
    dsimp only at h
    split at h
    · obtain ⟨_, _, h, -⟩ := bind_eq_ok_iff.mp h
      exact absurd h throw_ne_ok
    · rename_i hroom
      exact ⟨stride, hstride, Nat.le_of_not_lt hroom, h⟩
  · rintro ⟨stride, hstride, hroom, h⟩
    refine known_bind_eq_ok_iff.mpr ⟨layout, hknown,
      known_bind_eq_ok_iff.mpr ⟨stride, hstride, ?_⟩⟩
    rw [get_bind]
    dsimp only
    split
    · rename_i hshort
      exact absurd hroom (Nat.not_le.mpr hshort)
    · exact h

section Tiles

variable (buffer) (hcols : 0 < buffer.layer.columns)
  (hcover : buffer.layer.columns ≤ layout.columnTile.length)

include hcols hcover

theorem runsFrom_columns : RunsFrom (layout.columnTile.take buffer.layer.columns) 0
    (columnRuns (layout.columnTile.take buffer.layer.columns)) := by
  apply runsFrom_columnRuns
  intro h
  have := congrArg List.length h
  rw [List.length_take_of_le hcover] at this
  exact absurd this hcols.ne'

theorem copied_of_rows {stride rows : Nat} {dest dest' : Bytes}
    (h : buffer.copyRows stride (columnRuns (layout.columnTile.take buffer.layer.columns)) rows
      dest = .ok () dest') :
    Copied buffer (buffer.cellSource layout stride) 0 (rows * buffer.layer.columns) dest dest' ∧
      ∀ y < rows, ∀ x < buffer.layer.columns,
        ∃ position, buffer.offset y (runStart layout.columnTile x) 0 = .ok position := by
  induction rows generalizing dest' with
  | zero =>
    obtain ⟨-, rfl⟩ := pure_eq_ok_iff.mp h
    rw [Nat.zero_mul]
    exact ⟨Copied.refl _ _ _, fun y hy => absurd hy (Nat.not_lt_zero y)⟩
  | succ rows ih =>
    obtain ⟨mid, h1, h2⟩ := forM_range_succ_eq_ok_iff.mp h
    obtain ⟨row, hrow, h2⟩ := known_bind_eq_ok_iff.mp h2
    obtain ⟨hcopied, hdefined⟩ := ih h1
    obtain ⟨hcopied', hdefined'⟩ := copied_of_row hrow (List.length_take_of_le hcover)
      (runsFrom_columns buffer hcols hcover) h2
    refine ⟨?_, fun y hy x hx => ?_⟩
    · rw [Nat.succ_mul]
      refine hcopied.trans ?_
      rw [Nat.zero_add]
      exact hcopied'
    · rcases Nat.lt_succ_iff_lt_or_eq.mp hy with hy | rfl
      · exact hdefined y hy x hx
      · exact hdefined' x (Nat.zero_le x) hx

theorem rows_return {stride rows : Nat} {dest : Bytes}
    (hrow : ∀ y < rows, ∃ row, buffer.rowIndex y = .ok row)
    (hsource : ∀ y < rows, ∀ x < buffer.layer.columns,
      (∃ position, buffer.offset y (runStart layout.columnTile x) 0 = .ok position) ∧
        buffer.source layout stride y x + buffer.positionSize ≤ buffer.scratch.length)
    (hd : rows * buffer.layer.columns * buffer.positionSize ≤ dest.length) :
    ∃ dest', buffer.copyRows stride (columnRuns (layout.columnTile.take buffer.layer.columns)) rows
      dest = .ok () dest' := by
  induction rows with
  | zero => exact ⟨dest, rfl⟩
  | succ rows ih =>
    have hle := Nat.mul_le_mul_right buffer.positionSize
      (Nat.mul_le_mul_right buffer.layer.columns (show rows ≤ rows + 1 by omega))
    obtain ⟨mid, h⟩ := ih (fun y hy => hrow y (by omega)) (fun y hy => hsource y (by omega))
      (hle.trans hd)
    have hlen := (copied_of_rows buffer hcols hcover h).1.length_eq
    obtain ⟨row, hrow⟩ := hrow rows (by omega)
    obtain ⟨dest', h'⟩ := row_returns hrow (List.length_take_of_le hcover) mid
      (runsFrom_columns buffer hcols hcover) (fun c _ => hsource rows (by omega) c)
      (by rw [hlen, ← Nat.succ_mul]; exact hd)
    exact ⟨dest', forM_range_succ_eq_ok_iff.mpr
      ⟨mid, h, known_bind_eq_ok_iff.mpr ⟨row, hrow, h'⟩⟩⟩

/-- What a copying of the whole layer that ends well does. -/
theorem copied_of_copyTiles (hlayout : buffer.layer.layout = some layout) {dest dest' : Bytes}
    (h : buffer.copyTiles dest = .ok () dest') :
    ∃ stride, buffer.stride = .ok stride ∧
      Copied buffer (buffer.cellSource layout stride) 0
        (buffer.layer.rows * buffer.layer.columns) dest dest' := by
  obtain ⟨stride, hstride, -, h⟩ := (copyTiles_eq_ok_iff hlayout).mp h
  exact ⟨stride, hstride, (copied_of_rows buffer hcols hcover h).1⟩

/-- The copying of the whole layer ends well exactly if the stride is defined, the destination has
    room, and every position is read at a defined place inside the scratch. -/
theorem copyTiles_returns_iff (hlayout : buffer.layer.layout = some layout)
    (hrow : ∀ y < buffer.layer.rows, ∃ row, buffer.rowIndex y = .ok row) {dest : Bytes} :
    (∃ dest', buffer.copyTiles dest = .ok () dest') ↔ ∃ stride, buffer.stride = .ok stride ∧
      buffer.tensorSize ≤ dest.length ∧
      ∀ y < buffer.layer.rows, ∀ x < buffer.layer.columns,
        (∃ position, buffer.offset y (runStart layout.columnTile x) 0 = .ok position) ∧
          buffer.source layout stride y x + buffer.positionSize ≤ buffer.scratch.length := by
  constructor
  · rintro ⟨dest', h⟩
    obtain ⟨stride, hstride, hroom, h⟩ := (copyTiles_eq_ok_iff hlayout).mp h
    obtain ⟨hcopied, hdefined⟩ := copied_of_rows buffer hcols hcover h
    refine ⟨stride, hstride, hroom, fun y hy x hx => ⟨hdefined y hy x hx, ?_⟩⟩
    have := hcopied.inside _ (Nat.zero_le _) (by rw [Nat.zero_add]; exact cell_lt hy hx)
    rw [cellSource_eq hx] at this
    exact this
  · rintro ⟨stride, hstride, hroom, hsource⟩
    obtain ⟨dest', h⟩ := rows_return buffer hcols hcover hrow hsource
      (by rw [← tensorSize_eq]; exact hroom)
    exact ⟨dest', (copyTiles_eq_ok_iff hlayout).mpr ⟨stride, hstride, hroom, h⟩⟩

end Tiles

end TensorLink.OutputBuffer

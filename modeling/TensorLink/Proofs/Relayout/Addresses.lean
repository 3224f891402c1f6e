import TensorLink.Proofs.Relayout.Gather

/-!
# Relayout and the offsets of a layout

A layout gives every position `(y, x)` of a layer an offset in the scratch. The copying asks for the
offset of the first column of a run only, and takes the columns after it to lie one stride apart,
where the stride is measured once, between the first two positions of the layer.

Results:
* `followsOffsets_iff`: the dense tensor holds every position from its offset on, for every content
  of the scratch, exactly if the offsets are evenly spaced: the step from the first position to the
  next is no step back, and two neighbouring columns of one tile lie one slot apart in every row.
* `not_followsOffsets_of_inside`: that all offsets are defined and inside the scratch does not
  suffice.
-/

namespace TensorLink.OutputBuffer

variable {buffer : OutputBuffer} {layout : TileLayout} {position : Nat → Nat → Nat}

/-! ## Specification -/

/-- `dest'` is `dest` with the dense tensor in front, each position taken from the scratch from its
    offset on. -/
structure HoldsTensor (buffer : OutputBuffer) (position : Nat → Nat → Nat) (dest dest' : Bytes) :
    Prop where
  length_eq : dest'.length = dest.length
  placed : ∀ y < buffer.layer.rows, ∀ x < buffer.layer.columns, ∀ k < buffer.positionSize,
    dest'[(y * buffer.layer.columns + x) * buffer.positionSize + k]? =
      buffer.scratch[position y x + k]?
  kept : ∀ i, buffer.tensorSize ≤ i → dest'[i]? = dest[i]?

/-- The position after the first one of a layer: in the same row, or below if there is one column
    only. -/
def nextPosition (buffer : OutputBuffer) (position : Nat → Nat → Nat) : Nat :=
  if 1 < buffer.layer.columns then position 0 1 else position 1 0

/-- The distance between neighbouring columns that the copying goes by: positions of one and of
    three octets take four, all others as much as the step from the first position to the next. -/
def slotSize (buffer : OutputBuffer) (position : Nat → Nat → Nat) : Nat :=
  if buffer.positionSize = 1 ∨ buffer.positionSize = 3 then 4
  else buffer.nextPosition position - position 0 0

/-- The first step is no step back, and neighbouring columns of one tile are one slot apart. -/
def EvenlySpaced (buffer : OutputBuffer) (layout : TileLayout) (position : Nat → Nat → Nat) :
    Prop :=
  position 0 0 ≤ buffer.nextPosition position ∧
    ∀ y < buffer.layer.rows, ∀ x, x + 1 < buffer.layer.columns →
      layout.columnTile[x + 1]? = layout.columnTile[x]? →
        position y (x + 1) = position y x + buffer.slotSize position

instance : Decidable (EvenlySpaced buffer layout position) :=
  decidable_of_iff (position 0 0 ≤ buffer.nextPosition position ∧
    ∀ y < buffer.layer.rows, ∀ x < buffer.layer.columns - 1,
      layout.columnTile[x + 1]? = layout.columnTile[x]? →
        position y (x + 1) = position y x + buffer.slotSize position)
    (and_congr_right fun _ => forall_congr' fun _ => forall_congr' fun _ => forall_congr' fun _ =>
      imp_congr_left (by omega))

/-- Whatever the scratch and the destination hold, relayout ends well and leaves the dense tensor in
    front of the destination. -/
def FollowsOffsets (buffer : OutputBuffer) (position : Nat → Nat → Nat) : Prop :=
  ∀ scratch dest : Bytes, scratch.length = buffer.scratch.length →
    buffer.tensorSize ≤ dest.length →
      ∃ dest', relayout { buffer with scratch } dest = .ok () dest' ∧
        HoldsTensor { buffer with scratch } position dest dest'

/-! ## The stride -/

theorem octetOffset_eq_ok_iff {index : Int} {p : Nat} :
    buffer.octetOffset index = .ok p ↔
      0 ≤ index ∧ index.toNat * buffer.layer.type.size < UInt64.size ∧
        index.toNat * buffer.layer.type.size = p := by
  unfold octetOffset
  split_ifs with h
  · rw [Except.ok.injEq]
    exact ⟨fun heq => ⟨h.1, h.2, heq⟩, fun heq => heq.2.2⟩
  · exact iff_of_false (by simp) (fun h' => h ⟨h'.1, h'.2.1⟩)

theorem octetOffset_sub_eq_ok_iff {i j : Int} {p p' step : Nat} (hi : buffer.octetOffset i = .ok p)
    (hj : buffer.octetOffset j = .ok p') :
    buffer.octetOffset (j - i) = .ok step ↔ p ≤ p' ∧ step = p' - p := by
  obtain ⟨hi0, -, rfl⟩ := octetOffset_eq_ok_iff.mp hi
  obtain ⟨hj0, hlt, rfl⟩ := octetOffset_eq_ok_iff.mp hj
  have hsize := buffer.layer.type.size_pos
  have hsub : (j - i).toNat = j.toNat - i.toNat := by omega
  have hle : i.toNat * buffer.layer.type.size ≤ j.toNat * buffer.layer.type.size ↔
      i.toNat ≤ j.toNat := Nat.mul_le_mul_right_iff hsize
  rw [octetOffset_eq_ok_iff, hle, hsub, Nat.sub_mul]
  constructor
  · rintro ⟨h, -, rfl⟩
    exact ⟨by omega, rfl⟩
  · rintro ⟨h, rfl⟩
    exact ⟨by omega, by omega, rfl⟩

/-- The stride is a slot, and defined if the first step is no step back. -/
theorem stride_eq_ok_iff {stride : Nat} (horigin : buffer.offset 0 0 0 = .ok (position 0 0))
    (hnext : if 1 < buffer.layer.columns then buffer.offset 0 1 0 = .ok (position 0 1)
      else buffer.offset 1 0 0 = .ok (position 1 0)) :
    buffer.stride = .ok stride ↔
      position 0 0 ≤ buffer.nextPosition position ∧ stride = buffer.slotSize position := by
  obtain ⟨row, origin, hrow, horigin, hp⟩ := offset_eq_ok_iff.mp horigin
  obtain ⟨next, hp', hstep⟩ : ∃ next, buffer.octetOffset next = .ok (buffer.nextPosition position) ∧
      buffer.stride = (buffer.octetOffset (next - origin)).map fun step =>
        if buffer.positionSize = 1 ∨ buffer.positionSize = 3 then 4 else step := by
    unfold OutputBuffer.stride nextPosition
    simp only [bind, Except.bind, hrow, horigin]
    by_cases hcols : 1 < buffer.layer.columns
    · simp only [hcols, if_true] at hnext ⊢
      obtain ⟨_, next, hrow', hnext, hp'⟩ := offset_eq_ok_iff.mp hnext
      cases hrow.symm.trans hrow'
      refine ⟨next, hp', ?_⟩
      rw [hnext]
      dsimp only
      cases buffer.octetOffset (next - origin) <;> rfl
    · simp only [hcols, if_false] at hnext ⊢
      obtain ⟨row', next, hrow', hnext, hp'⟩ := offset_eq_ok_iff.mp hnext
      refine ⟨next, hp', ?_⟩
      rw [hrow']
      dsimp only
      rw [hnext]
      dsimp only
      cases buffer.octetOffset (next - origin) <;> rfl
  have hiff : ∀ step, buffer.octetOffset (next - origin) = .ok step ↔ _ :=
    fun step => octetOffset_sub_eq_ok_iff hp hp'
  rw [hstep]
  unfold slotSize
  constructor
  · intro h
    cases hs : buffer.octetOffset (next - origin) with
    | error e => rw [hs] at h; cases h
    | ok step =>
      obtain ⟨hle, rfl⟩ := (hiff step).mp hs
      rw [hs] at h
      cases h
      exact ⟨hle, rfl⟩
  · rintro ⟨hle, rfl⟩
    rw [(hiff _).mpr ⟨hle, rfl⟩]
    rfl

/-! ## Where the copying reads -/

theorem source_succ {stride y x p : Nat}
    (htile : layout.columnTile[x + 1]? = layout.columnTile[x]?)
    (h : buffer.offset y (runStart layout.columnTile x) 0 = .ok p) :
    buffer.source layout stride y (x + 1) = buffer.source layout stride y x + stride := by
  have hle := runStart_le layout.columnTile x
  unfold source
  rw [runStart, if_pos htile]
  simp only [h]
  rw [show x + 1 - runStart layout.columnTile x = x - runStart layout.columnTile x + 1 by omega,
    Nat.succ_mul, Nat.add_assoc]

/-- If the offsets are evenly spaced, every position is read at its offset. -/
theorem source_eq_position (heven : EvenlySpaced buffer layout position) {y : Nat}
    (hy : y < buffer.layer.rows)
    (hoffset : ∀ x < buffer.layer.columns, buffer.offset y x 0 = .ok (position y x)) {x : Nat}
    (hx : x < buffer.layer.columns) :
    buffer.source layout (buffer.slotSize position) y x = position y x := by
  induction x with
  | zero => exact source_runStart rfl (hoffset 0 hx)
  | succ x ih =>
    by_cases htile : layout.columnTile[x + 1]? = layout.columnTile[x]?
    · have hle := runStart_le layout.columnTile x
      rw [source_succ htile (hoffset _ (by omega)), ih (by omega), heven.2 y hy x hx htile]
    · exact source_runStart (by rw [runStart, if_neg htile]) (hoffset _ hx)

/-- The scratch with a single octet that is not zero. -/
def marked (size place : Nat) : Bytes := (Bytes.zeros size).set place 1

theorem eq_of_marked {size p q : Nat} (hp : p < size)
    (h : (marked size p)[q]? = (marked size p)[p]?) : q = p := by
  by_contra hne
  have hlen : p < (Bytes.zeros size).length := by rw [Bytes.length_zeros]; exact hp
  unfold marked at h
  rw [List.getElem?_set_self hlen, List.getElem?_set_ne (Ne.symm hne)] at h
  obtain ⟨hq, hzero⟩ := List.getElem?_eq_some_iff.mp h
  rw [List.eq_of_mem_replicate (List.getElem_mem hq)] at hzero
  exact absurd hzero (by decide)

/-- If the copying places a position from `p` on whatever the scratch holds, it reads it at `p`. -/
theorem source_eq_of_placed (buffer : OutputBuffer) (hcols : 0 < buffer.layer.columns)
    (hchannels : 0 < buffer.positionSize)
    (hlayout : buffer.layer.layout = some layout)
    (hcover : buffer.layer.columns ≤ layout.columnTile.length) {stride y x p : Nat}
    (hstride : buffer.stride = .ok stride) (hy : y < buffer.layer.rows)
    (hx : x < buffer.layer.columns) {dest dest' : Bytes}
    (hp : p < buffer.scratch.length) (hmark : buffer.scratch = marked buffer.scratch.length p)
    (h : buffer.copyTiles dest = .ok () dest')
    (hplaced : dest'[(y * buffer.layer.columns + x) * buffer.positionSize]? = buffer.scratch[p]?) :
    buffer.source layout stride y x = p := by
  obtain ⟨_, hstride', hcopied⟩ := copied_of_copyTiles buffer hcols hcover hlayout h
  cases hstride.symm.trans hstride'
  have hread := hcopied.gathered _ (Nat.zero_le _) (by rw [Nat.zero_add]; exact cell_lt hy hx) 0
    hchannels
  rw [Nat.add_zero, Nat.add_zero, hplaced, cellSource_eq hx, hmark] at hread
  exact eq_of_marked hp hread.symm

/-- A tensor gathered at the offsets is one that is gathered at the sources. -/
theorem HoldsTensor.of_copied {stride : Nat} {dest dest' : Bytes}
    (h : Copied buffer (buffer.cellSource layout stride) 0
      (buffer.layer.rows * buffer.layer.columns) dest dest')
    (hsource : ∀ y < buffer.layer.rows, ∀ x < buffer.layer.columns,
      buffer.source layout stride y x = position y x) :
    HoldsTensor buffer position dest dest' := by
  refine ⟨h.length_eq, fun y hy x hx k hk => ?_, fun i hi => ?_⟩
  · rw [h.gathered _ (Nat.zero_le _) (by rw [Nat.zero_add]; exact cell_lt hy hx) k hk,
      cellSource_eq hx, hsource y hy x hx]
  · rw [tensorSize_eq] at hi
    exact h.kept i (.inr (by rw [Nat.zero_add]; exact hi))

section Fresh

variable {layer : Layer} (hdim : layer.isOneDimensional = false)
  (hlayout : layer.layout = some layout) (hcols : 0 < layer.columns)
  (hcover : layer.columns ≤ layout.columnTile.length)
  (hoffset : ∀ y < layer.rows, ∀ x < layer.columns,
    offset ⟨layer, Bytes.zeros layer.chipSize⟩ y x 0 = .ok (position y x))
  (hinside : ∀ y < layer.rows, ∀ x < layer.columns,
    position y x + positionSize ⟨layer, Bytes.zeros layer.chipSize⟩ ≤ layer.chipSize)

include hdim in
theorem relayout_eq_copyTiles (scratch : Bytes) :
    relayout ⟨layer, scratch⟩ = copyTiles ⟨layer, scratch⟩ := by
  rw [relayout, if_neg (by simp [hdim])]

include hdim hcols hoffset in
theorem stride_eq_slotSize_iff (hrows : 0 < layer.rows) (stride : Nat) :
    OutputBuffer.stride ⟨layer, Bytes.zeros layer.chipSize⟩ = .ok stride ↔
      position 0 0 ≤ nextPosition ⟨layer, Bytes.zeros layer.chipSize⟩ position ∧
        stride = slotSize ⟨layer, Bytes.zeros layer.chipSize⟩ position := by
  have hone : ¬(layer.columns = 1 ∧ layer.rows = 1) := by simpa [Layer.isOneDimensional] using hdim
  refine stride_eq_ok_iff (hoffset 0 hrows 0 hcols) ?_
  split_ifs with h
  · exact hoffset 0 hrows 1 h
  · have h' : ¬1 < layer.columns := h
    exact hoffset 1 (by omega) 0 hcols

include hdim hlayout hcols hcover hinside in
/-- If relayout follows the offsets, every position is read at its offset: the scratch that differs
    in one octet only shows where this octet is read. -/
theorem source_eq_of_followsOffsets (hchannels : 0 < layer.channels)
    (h : FollowsOffsets ⟨layer, Bytes.zeros layer.chipSize⟩ position) {y x : Nat}
    (hy : y < layer.rows) (hx : x < layer.columns) :
    ∃ stride, OutputBuffer.stride ⟨layer, Bytes.zeros layer.chipSize⟩ = .ok stride ∧
      source ⟨layer, Bytes.zeros layer.chipSize⟩ layout stride y x = position y x := by
  have hsize : 0 < layer.channels * layer.type.size := Nat.mul_pos hchannels layer.type.size_pos
  have hin : position y x < layer.chipSize :=
    (Nat.lt_add_of_pos_right hsize).trans_le (hinside y hy x hx)
  have hlen : (marked layer.chipSize (position y x)).length = layer.chipSize := by
    rw [marked, List.length_set, Bytes.length_zeros]
  obtain ⟨dest', hrun, hholds⟩ := h (marked layer.chipSize (position y x))
    (Bytes.zeros (tensorSize ⟨layer, Bytes.zeros layer.chipSize⟩))
    (by rw [hlen, Bytes.length_zeros]) (by rw [Bytes.length_zeros])
  rw [relayout_eq_copyTiles hdim] at hrun
  obtain ⟨stride, hstride, -⟩ := copied_of_copyTiles
    ⟨layer, marked layer.chipSize (position y x)⟩ hcols hcover hlayout hrun
  exact ⟨stride, hstride, source_eq_of_placed
    ⟨layer, marked layer.chipSize (position y x)⟩ hcols hsize hlayout hcover hstride
    hy hx (by rw [hlen]; exact hin) (by rw [hlen]) hrun (hholds.placed y hy x hx 0 hsize)⟩

include hdim hlayout hcols hcover hoffset hinside in
/-- If the offsets are evenly spaced, relayout follows them. -/
theorem followsOffsets_of_evenlySpaced (hrows : 0 < layer.rows)
    (h : EvenlySpaced ⟨layer, Bytes.zeros layer.chipSize⟩ layout position) :
    FollowsOffsets ⟨layer, Bytes.zeros layer.chipSize⟩ position := by
  intro scratch dest hscratch hdest
  rw [Bytes.length_zeros] at hscratch
  have hread : ∀ y < layer.rows, ∀ x < layer.columns,
      source ⟨layer, scratch⟩ layout (slotSize ⟨layer, scratch⟩ position) y x = position y x :=
    fun y hy x hx => source_eq_position h hy (hoffset y hy) hx
  obtain ⟨dest', hrun⟩ := (copyTiles_returns_iff ⟨layer, scratch⟩ hcols hcover hlayout
    (fun y hy => by
      obtain ⟨row, _, hrow, -⟩ := offset_eq_ok_iff.mp (hoffset y hy 0 hcols)
      exact ⟨row, hrow⟩)).mpr
    ⟨_, (stride_eq_slotSize_iff hdim hcols hoffset hrows _).mpr ⟨h.1, rfl⟩, hdest,
      fun y hy x hx => ⟨⟨_, hoffset y hy _ ((runStart_le _ x).trans_lt hx)⟩, by
        have hin := hinside y hy x hx
        rw [← hread y hy x hx, ← hscratch] at hin
        exact hin⟩⟩
  obtain ⟨stride, hstride, hcopied⟩ :=
    copied_of_copyTiles ⟨layer, scratch⟩ hcols hcover hlayout hrun
  obtain ⟨-, rfl⟩ := (stride_eq_slotSize_iff hdim hcols hoffset hrows stride).mp hstride
  exact ⟨dest', by rw [relayout_eq_copyTiles hdim]; exact hrun, HoldsTensor.of_copied hcopied hread⟩

end Fresh

/-! ## Main theorem -/

/-- **Addresses.** For every layer that has an output buffer, extends over rows and columns, and has
    offsets for all its positions inside the scratch: relayout follows the offsets exactly if they
    are evenly spaced. -/
theorem followsOffsets_iff {layer : Layer} (hmade : ofLayer layer = .ok buffer)
    (hdim : layer.isOneDimensional = false) (hlayout : layer.layout = some layout)
    (hrows : 0 < layer.rows) (hcols : 0 < layer.columns) (hchannels : 0 < layer.channels)
    (hoffset : ∀ y < layer.rows, ∀ x < layer.columns, buffer.offset y x 0 = .ok (position y x))
    (hinside : ∀ y < layer.rows, ∀ x < layer.columns,
      position y x + buffer.positionSize ≤ buffer.scratch.length) :
    FollowsOffsets buffer position ↔ EvenlySpaced buffer layout position := by
  obtain ⟨rfl, hcovers⟩ := ofLayer_eq_ok_iff.mp hmade
  simp only [hdim, Bool.false_eq_true, false_or, hlayout, Option.some.injEq,
    exists_eq_left'] at hcovers
  simp only [covers, Bool.and_eq_true, decide_eq_true_eq] at hcovers
  obtain ⟨⟨⟨-, hcover⟩, -⟩, -⟩ := hcovers
  rw [Bytes.length_zeros] at hinside
  refine ⟨fun h => ?_,
    followsOffsets_of_evenlySpaced hdim hlayout hcols hcover hoffset hinside hrows⟩
  have hread := fun {y x : Nat} (hy : y < layer.rows) (hx : x < layer.columns) =>
    source_eq_of_followsOffsets hdim hlayout hcols hcover hinside hchannels h hy hx
  have hstride := stride_eq_slotSize_iff hdim hcols hoffset hrows
  obtain ⟨_, hdefined, -⟩ := hread hrows hcols
  refine ⟨((hstride _).mp hdefined).1, fun y hy x hx htile => ?_⟩
  obtain ⟨stride₀, hstride₀, hread₀⟩ := hread hy (Nat.lt_of_succ_lt hx)
  obtain ⟨stride₁, hstride₁, hread₁⟩ := hread hy hx
  obtain rfl := ((hstride stride₀).mp hstride₀).2
  obtain rfl := ((hstride stride₁).mp hstride₁).2
  rw [← hread₀, ← hread₁]
  exact source_succ htile (hoffset y hy _ ((runStart_le _ x).trans_lt (Nat.lt_of_succ_lt hx)))

/-- Two rows of three columns over two tiles, all columns two octets apart. -/
def twoTiles : Layer where
  name := "tiles"
  paddedSize := 12
  rows := 2
  columns := 3
  channels := 2
  type := .fixedPoint8
  layout := some ⟨[0, 0], [0, 0, 1], [0, 8], [0, 2, 0], [0, 1], [4, 4, 2]⟩

theorem followsOffsets_twoTiles :
    FollowsOffsets ⟨twoTiles, Bytes.zeros 12⟩
      fun y x => if x = 2 then 8 + 2 * y else 4 * y + 2 * x :=
  (followsOffsets_iff (show ofLayer twoTiles = _ from rfl) rfl rfl (by decide) (by decide)
    (by decide) (show ∀ y < 2, ∀ x < 3, _ by decide) (by decide)).mpr
      (by decide)

/-- A row of two columns of one octet, without padding between them. -/
def adjacentOctets : Layer where
  name := "octets"
  paddedSize := 8
  rows := 1
  columns := 2
  channels := 1
  type := .fixedPoint8
  layout := some ⟨[0], [0, 0], [0], [0, 1], [0], [8, 8]⟩

/-- Defined offsets inside the scratch do not make relayout follow them: one octet takes a slot of
    four. -/
theorem not_followsOffsets_of_inside :
    ¬∀ (layer : Layer) (buffer : OutputBuffer) (position : Nat → Nat → Nat),
      ofLayer layer = .ok buffer → layer.isOneDimensional = false →
      0 < layer.rows → 0 < layer.columns → 0 < layer.channels → layer.executions = 1 →
      (∀ y < layer.rows, ∀ x < layer.columns, buffer.offset y x 0 = .ok (position y x)) →
      (∀ y < layer.rows, ∀ x < layer.columns,
        position y x + buffer.positionSize ≤ buffer.scratch.length) →
      FollowsOffsets buffer position := by
  intro h
  have hfollows := h adjacentOctets ⟨adjacentOctets, Bytes.zeros 8⟩ (fun _ x => x) rfl rfl
    (by decide) (by decide) (by decide) rfl (show ∀ y < 1, ∀ x < 2, _ by decide) (by decide)
  obtain ⟨dest', hrun, hholds⟩ := hfollows [0, 1, 2, 3, 4, 5, 6, 7] (Bytes.zeros 2) rfl (by decide)
  have hread : relayout ⟨adjacentOctets, [0, 1, 2, 3, 4, 5, 6, 7]⟩ (Bytes.zeros 2) =
      .ok () [0, 4] := rfl
  cases hread.symm.trans hrun
  exact absurd (hholds.placed 0 (by decide) 1 (by decide) 0 (by decide)) (by decide)

end TensorLink.OutputBuffer

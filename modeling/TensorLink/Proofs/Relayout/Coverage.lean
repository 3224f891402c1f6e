import TensorLink.Proofs.Relayout.Gather

/-!
# Which octets of a tensor relayout writes

A dense tensor has room for every execution of its layer. A layer with channels only is copied out
execution by execution. A layer that is spread over tiles is copied out once, however often it is
executed: the destination keeps what it held from the end of the first execution on.

Results:
* `copied_of_relayout`: relayout takes the front of the tensor from the scratch, position by
  position, and keeps all that follows.
* `determinesTensor_iff`: what a destination held before leaves no trace in the tensor exactly if
  the layer has channels only, is executed once, has no elements, or is always refused.
* `not_determinesTensor_of_executions`: a tiled layer of two executions.
-/

namespace TensorLink.OutputBuffer

open Sequencing

variable {layer : Layer} {buffer fresh : OutputBuffer}

/-! ## Copying the executions of a layer with channels only -/

/-- The distance between the executions of a layer with channels only in the scratch. -/
def executionStride (buffer : OutputBuffer) : Nat :=
  if buffer.layer.executions = 1 ∨ buffer.layer.chipSize = buffer.layer.actualSize then
    buffer.positionSize
  else
    buffer.positionSize +
      (buffer.layer.chipSize - buffer.layer.actualSize) / buffer.layer.executions

/-- One copy of several positions that lie one after the other. -/
theorem copied_of_copy_adjacent {count : Nat} {dest dest' : Bytes}
    (h : buffer.copy 0 0 (buffer.positionSize * count) dest = .ok () dest') :
    Copied buffer (· * buffer.positionSize) 0 count dest dest' := by
  obtain ⟨hsource, htarget, rfl⟩ := copy_eq_ok_iff.mp h
  rw [Nat.zero_add, Nat.mul_comm] at hsource htarget
  rw [Nat.mul_comm, List.drop_zero]
  have hlen : (buffer.scratch.take (count * buffer.positionSize)).length =
      count * buffer.positionSize := List.length_take_of_le hsource
  have hposition : ∀ n < count,
      n * buffer.positionSize + buffer.positionSize ≤ count * buffer.positionSize := by
    intro n hn
    rw [← Nat.succ_mul]
    exact Nat.mul_le_mul_right buffer.positionSize hn
  have hroom : 0 + (buffer.scratch.take (count * buffer.positionSize)).length ≤ dest.length := by
    omega
  refine ⟨Bytes.length_overwrite hroom, fun n _ hn => ?_, fun n _ hn k hk => ?_, fun i hi => ?_⟩
  · exact (hposition n (by omega)).trans hsource
  · have hin := hposition n (by omega)
    rw [Bytes.getElem?_overwrite hroom, if_pos (by omega), Nat.sub_zero,
      List.getElem?_take_of_lt (by omega)]
  · rw [Nat.zero_add] at hi
    rw [Bytes.getElem?_overwrite hroom, if_neg (by omega)]

theorem copied_of_copyVector {dest dest' : Bytes} (h : buffer.copyVector dest = .ok () dest') :
    Copied buffer (· * buffer.executionStride) 0 buffer.layer.executions dest dest' := by
  unfold copyVector at h
  unfold executionStride
  dsimp only at h
  split_ifs at h ⊢
  · exact copied_of_copy_adjacent h
  · have hsource : ∀ e < buffer.layer.executions, (0 + e) * (buffer.positionSize +
        (buffer.layer.chipSize - buffer.layer.actualSize) / buffer.layer.executions) =
          0 + e * (buffer.positionSize +
            (buffer.layer.chipSize - buffer.layer.actualSize) / buffer.layer.executions) :=
      fun e _ => by rw [Nat.zero_add, Nat.zero_add]
    apply copied_of_run hsource
    simpa only [Nat.zero_add] using h

/-! ## The written front of a tensor -/

/-- How many positions relayout copies: one for each execution of a layer with channels only, and
    those of one execution of any other layer. -/
def copiedPositions (buffer : OutputBuffer) : Nat :=
  if buffer.layer.isOneDimensional then buffer.layer.executions
  else buffer.layer.rows * buffer.layer.columns

/-- The number of octets that relayout writes. -/
def copiedSize (buffer : OutputBuffer) : Nat := buffer.copiedPositions * buffer.positionSize

theorem copiedSize_of_oneDimensional (h : buffer.layer.isOneDimensional = true) :
    buffer.copiedSize = buffer.denseSize := by
  have hone : buffer.layer.columns = 1 ∧ buffer.layer.rows = 1 := by
    simpa [Layer.isOneDimensional] using h
  unfold copiedSize copiedPositions positionSize denseSize Layer.actualSize Layer.elements
  rw [if_pos h, hone.1, hone.2, Nat.one_mul, Nat.mul_comm]

theorem copiedSize_of_tiled (h : buffer.layer.isOneDimensional = false) :
    buffer.copiedSize = buffer.tensorSize := by
  rw [tensorSize_eq, copiedSize, copiedPositions, h, if_neg Bool.false_ne_true]

/-- The layout of an accepted layer that is spread over tiles covers its rows and columns. -/
theorem layout_of_tiled (hmade : ofLayer layer = .ok fresh)
    (hdim : layer.isOneDimensional = false) :
    ∃ layout, layer.layout = some layout ∧ layer.columns ≤ layout.columnTile.length ∧
      ∀ scratch, ∀ y < layer.rows, ∃ row, rowIndex ⟨layer, scratch⟩ y = .ok row := by
  obtain ⟨-, hflat | ⟨layout, hlayout, hcovers⟩⟩ := ofLayer_eq_ok_iff.mp hmade
  · rw [hdim] at hflat
    exact absurd hflat Bool.false_ne_true
  · simp only [covers, Bool.and_eq_true, decide_eq_true_eq] at hcovers
    obtain ⟨⟨⟨⟨hrowTile, hlocalRow⟩, hcolumns⟩, -⟩, -⟩ := hcovers
    refine ⟨layout, hlayout, hcolumns, fun scratch y hy => ?_⟩
    have htile := List.getElem?_eq_getElem (hy.trans_le hrowTile)
    have hlocal := List.getElem?_eq_getElem (hy.trans_le hlocalRow)
    simp [rowIndex, OutputBuffer.layout, hlayout, entry, htile, hlocal, bind, Except.bind, pure,
      Except.pure]

/-- Relayout takes the front of the tensor from places of the scratch that do not depend on the
    destination, and keeps all that follows. -/
theorem copied_of_relayout (hmade : ofLayer layer = .ok fresh) (hcols : 0 < layer.columns)
    (scratch : Bytes) :
    ∃ source, ∀ dest dest', relayout ⟨layer, scratch⟩ dest = .ok () dest' →
      Copied ⟨layer, scratch⟩ source 0 (copiedPositions ⟨layer, scratch⟩) dest dest' := by
  unfold relayout copiedPositions
  cases hdim : layer.isOneDimensional with
  | true => exact ⟨_, fun dest dest' h => copied_of_copyVector h⟩
  | false =>
    obtain ⟨layout, hlayout, hcover, -⟩ := layout_of_tiled hmade hdim
    have hcopied := fun {dest dest' : Bytes}
        (h : copyTiles ⟨layer, scratch⟩ dest = .ok () dest') =>
      copied_of_copyTiles ⟨layer, scratch⟩ hcols hcover hlayout h
    cases hstride : OutputBuffer.stride ⟨layer, scratch⟩ with
    | ok stride =>
      refine ⟨cellSource ⟨layer, scratch⟩ layout stride, fun dest dest' h => ?_⟩
      obtain ⟨stride', hstride', hgather⟩ := hcopied h
      cases hstride.symm.trans hstride'
      exact hgather
    | error e =>
      refine ⟨fun _ => 0, fun dest dest' h => ?_⟩
      obtain ⟨stride, hdefined, -⟩ := hcopied h
      exact absurd (hstride.symm.trans hdefined) (by simp)

/-- Two tensors whose fronts are copied from the same places differ at most where their destinations
    did, past the front. -/
theorem Copied.eq_of_rest {source : Nat → Nat} {count : Nat} {dest dest' tensor tensor' : Bytes}
    (h : Copied buffer source 0 count dest tensor) (h' : Copied buffer source 0 count dest' tensor')
    (hrest : ∀ i, count * buffer.positionSize ≤ i → dest[i]? = dest'[i]?) : tensor = tensor' := by
  apply List.ext_getElem?
  intro i
  rcases Nat.lt_or_ge i (count * buffer.positionSize) with hi | hi
  · have hn : i / buffer.positionSize < count := Nat.div_lt_of_lt_mul (by rwa [Nat.mul_comm] at hi)
    have hk : i % buffer.positionSize < buffer.positionSize :=
      Nat.mod_lt _ (Nat.pos_of_mul_pos_left (Nat.zero_lt_of_lt hi))
    have hread := h.gathered _ (Nat.zero_le _) (by rwa [Nat.zero_add]) _ hk
    have hread' := h'.gathered _ (Nat.zero_le _) (by rwa [Nat.zero_add]) _ hk
    rw [Nat.div_add_mod'] at hread hread'
    exact hread.trans hread'.symm
  · have hpast : (0 + count) * buffer.positionSize ≤ i := by rwa [Nat.zero_add]
    rw [h.kept i (.inr hpast), h'.kept i (.inr hpast), hrest i hi]

/-! ## Traces of the destination -/

/-- What relayout leaves in a destination of the dense size does not depend on what it held. -/
def DeterminesTensor (buffer : OutputBuffer) : Prop :=
  ∀ dest dest' tensor tensor' : Bytes, dest.length = buffer.denseSize →
    dest'.length = buffer.denseSize → buffer.relayout dest = .ok () tensor →
      buffer.relayout dest' = .ok () tensor' → tensor = tensor'

/-- Relayout refuses every destination of the dense size. -/
def RefusesTensor (buffer : OutputBuffer) : Prop :=
  ∀ dest tensor : Bytes, dest.length = buffer.denseSize → buffer.relayout dest ≠ .ok () tensor

/-- All octets come from the scratch if the written front is the whole tensor. -/
theorem determinesTensor_of_copied (hmade : ofLayer layer = .ok fresh) (hcols : 0 < layer.columns)
    {scratch : Bytes}
    (hwhole : copiedSize ⟨layer, scratch⟩ = denseSize ⟨layer, scratch⟩) :
    DeterminesTensor ⟨layer, scratch⟩ := by
  intro dest dest' tensor tensor' hdest hdest' h h'
  obtain ⟨source, hcopied⟩ := copied_of_relayout hmade hcols scratch
  refine (hcopied _ _ h).eq_of_rest (hcopied _ _ h') fun i hi => ?_
  have hpast : denseSize ⟨layer, scratch⟩ ≤ i := hwhole ▸ hi
  rw [List.getElem?_eq_none (by omega), List.getElem?_eq_none (by omega)]

/-- Whether a tiled layer can be copied out depends on the length of the destination only. -/
theorem relayout_returns_of_length (hmade : ofLayer layer = .ok fresh)
    (hdim : layer.isOneDimensional = false) (hcols : 0 < layer.columns) {scratch : Bytes}
    {dest dest' tensor : Bytes} (hlen : dest'.length = dest.length)
    (h : relayout ⟨layer, scratch⟩ dest = .ok () tensor) :
    ∃ tensor', relayout ⟨layer, scratch⟩ dest' = .ok () tensor' := by
  obtain ⟨layout, hlayout, hcover, hrow⟩ := layout_of_tiled hmade hdim
  simp only [relayout, hdim, Bool.false_eq_true, if_false] at h ⊢
  obtain ⟨stride, hstride, hroom, hsource⟩ :=
    (copyTiles_returns_iff ⟨layer, scratch⟩ hcols hcover hlayout (hrow scratch)).mp ⟨tensor, h⟩
  exact (copyTiles_returns_iff ⟨layer, scratch⟩ hcols hcover hlayout (hrow scratch)).mpr
    ⟨stride, hstride, hlen ▸ hroom, hsource⟩

/-- An octet past the written front shows through. -/
theorem not_determinesTensor_of_copied (hmade : ofLayer layer = .ok fresh)
    (hdim : layer.isOneDimensional = false) (hcols : 0 < layer.columns)
    {scratch dest tensor : Bytes} (hdest : dest.length = denseSize ⟨layer, scratch⟩)
    (hfront : copiedSize ⟨layer, scratch⟩ < denseSize ⟨layer, scratch⟩)
    (h : relayout ⟨layer, scratch⟩ dest = .ok () tensor) : ¬DeterminesTensor ⟨layer, scratch⟩ := by
  intro hdetermines
  have hlast : copiedSize ⟨layer, scratch⟩ < dest.length := hdest ▸ hfront
  obtain ⟨octet, hoctet⟩ : ∃ octet, dest[copiedSize ⟨layer, scratch⟩]? = some octet :=
    ⟨_, List.getElem?_eq_getElem hlast⟩
  -- the destination with the first octet past the front changed
  let changed : Bytes := dest.set (copiedSize ⟨layer, scratch⟩) (octet + 1)
  have hlen : changed.length = dest.length := List.length_set
  obtain ⟨tensor', h'⟩ := relayout_returns_of_length hmade hdim hcols hlen h
  obtain ⟨source, hcopied⟩ := copied_of_relayout hmade hcols scratch
  have hpast : (0 + copiedPositions ⟨layer, scratch⟩) * positionSize ⟨layer, scratch⟩ ≤
      copiedSize ⟨layer, scratch⟩ := by rw [Nat.zero_add, copiedSize]
  have hkept := (hcopied _ _ h).kept _ (.inr hpast)
  have hkept' := (hcopied _ _ h').kept _ (.inr hpast)
  rw [hdetermines dest changed tensor tensor' hdest (hlen.trans hdest) h h', hkept',
    List.getElem?_set_self hlast, hoctet, Option.some.injEq] at hkept
  revert hkept
  simp

/-- **Determined tensors.** For every layer that has an output buffer and every content of the
    scratch: what the destination held leaves no trace in the tensor exactly if the layer has
    channels only, is executed once, has no elements, or cannot be copied out at all. -/
theorem determinesTensor_iff (hmade : ofLayer layer = .ok fresh) (scratch : Bytes) :
    DeterminesTensor ⟨layer, scratch⟩ ↔
      layer.isOneDimensional = true ∨ layer.executions = 1 ∨ layer.elements = 0 ∨
        RefusesTensor ⟨layer, scratch⟩ := by
  rcases Nat.eq_zero_or_pos layer.elements with hempty | hpos
  · refine iff_of_true (fun dest dest' tensor tensor' hdest hdest' h h' => ?_) (by simp [hempty])
    have hsize : denseSize ⟨layer, scratch⟩ = 0 := by
      simp [denseSize, Layer.actualSize, hempty]
    have hdest : dest = [] := List.eq_nil_of_length_eq_zero (hdest.trans hsize)
    have hdest' : dest' = [] := List.eq_nil_of_length_eq_zero (hdest'.trans hsize)
    rw [hdest] at h
    rw [hdest', h] at h'
    cases h'
    rfl
  have hcols : 0 < layer.columns := by
    apply Nat.pos_of_ne_zero
    intro hzero
    simp [Layer.elements, hzero] at hpos
  cases hdim : layer.isOneDimensional with
  | true =>
    exact iff_of_true
      (determinesTensor_of_copied hmade hcols (copiedSize_of_oneDimensional hdim)) (.inl rfl)
  | false =>
    have htiled : copiedSize ⟨layer, scratch⟩ = layer.elements * layer.type.size :=
      copiedSize_of_tiled hdim
    have hdense : denseSize ⟨layer, scratch⟩ =
        layer.elements * layer.type.size * layer.executions := rfl
    have hsize : 0 < layer.elements * layer.type.size := Nat.mul_pos hpos layer.type.size_pos
    constructor
    · intro hdetermines
      refine .inr (or_iff_not_imp_left.mpr fun honce => .inr fun dest tensor hdest h => ?_)
      refine not_determinesTensor_of_copied hmade hdim hcols hdest ?_ h hdetermines
      obtain ⟨layout, hlayout, -, -⟩ := layout_of_tiled hmade hdim
      -- the copying asks for room for one execution, so that there are executions
      have hroom : layer.elements * layer.type.size ≤ dest.length := by
        simp only [relayout, hdim, Bool.false_eq_true, if_false] at h
        obtain ⟨-, -, hroom, -⟩ := (copyTiles_eq_ok_iff hlayout).mp h
        exact hroom
      rw [hdest, hdense] at hroom
      rw [htiled, hdense]
      refine hroom.lt_of_ne fun heq => honce ?_
      exact Nat.eq_of_mul_eq_mul_left hsize (heq.symm.trans (Nat.mul_one _).symm)
    · rintro (hflat | honce | hempty | hrefuses)
      · exact absurd hflat Bool.false_ne_true
      · refine determinesTensor_of_copied hmade hcols ?_
        rw [htiled, hdense, honce, Nat.mul_one]
      · exact absurd hempty hpos.ne'
      · intro dest dest' tensor tensor' hdest hdest' h
        exact absurd h (hrefuses dest tensor hdest)

/-- A row of two columns of one octet on one tile, four octets apart, produced twice per
    inference. -/
def repeatedTile : Layer where
  name := "repeated"
  paddedSize := 8
  rows := 1
  columns := 2
  channels := 1
  type := .fixedPoint8
  executions := 2
  layout := some ⟨[0], [0, 0], [0], [0, 4], [0], [8, 8]⟩

theorem determinesTensor_once :
    let layer : Layer := { repeatedTile with executions := 1 }
    ofLayer layer = .ok ⟨layer, Bytes.zeros 8⟩ ∧
      DeterminesTensor ⟨layer, [0, 1, 2, 3, 4, 5, 6, 7]⟩ := by
  intro layer
  have hmade : ofLayer layer = .ok ⟨layer, Bytes.zeros 8⟩ := rfl
  exact ⟨hmade, (determinesTensor_iff hmade _).mpr (.inr (.inl rfl))⟩

/-- A tensor can hold what the caller's buffer held before: the second execution of a tiled layer is
    not copied out. -/
theorem not_determinesTensor_of_executions :
    ¬∀ (layer : Layer) (fresh : OutputBuffer) (scratch : Bytes), ofLayer layer = .ok fresh →
      1 ≤ layer.executions → scratch.length = layer.chipSize →
        DeterminesTensor ⟨layer, scratch⟩ := by
  intro h
  have hdetermines := h repeatedTile ⟨repeatedTile, Bytes.zeros 16⟩
    (List.range 16 |>.map UInt8.ofNat) rfl (by decide) rfl
  have hzeros : relayout ⟨repeatedTile, List.range 16 |>.map UInt8.ofNat⟩ [0, 0, 0, 0] =
      .ok () [0, 4, 0, 0] := rfl
  have hones : relayout ⟨repeatedTile, List.range 16 |>.map UInt8.ofNat⟩ [255, 255, 255, 255] =
      .ok () [0, 4, 255, 255] := rfl
  exact absurd (hdetermines _ _ _ _ rfl rfl hzeros hones) (by decide)

end TensorLink.OutputBuffer

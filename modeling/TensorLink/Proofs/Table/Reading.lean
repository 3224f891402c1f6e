import Mathlib.Algebra.Group.Nat.Defs
import TensorLink.Proofs.Sequencing
import TensorLink.Proofs.Table.Fields
import TensorLink.Table.View

/-!
# Tables are read back

A buffer that holds the layout of a tree shows this tree to a reader: in every slot the value of the
last field that has it, and nothing in a slot that no field has. `Shows` says so of one table;
what its fields refer to is shown in turn.

Results:
* `shows_of_holds`: where the layout of a tree stands, there is a table that shows it.
* `holds_placedField`, `holds_placeEach`: whatever the fields of a table refer to stands behind it.
* `TableView.follow_of_placeEach`: each distance of a vector leads to what has been laid out for it.
* `Shows.u8`, …, `Shows.byteStrings`: what each reader returns.
* `root_encode`: an encoded tree is shown by the root table of its buffer.
-/

namespace TensorLink

open Bytes

theorem ofNat_toUInt32 (value : Int32) : Int32.ofNat value.toUInt32.toNat = value := by
  apply Int32.toBitVec_inj.mp
  simp

namespace TableView

/-! ## Numbers and distances -/

theorem readNumber_of_holds {buffer : Bytes} {position width value : Nat} (what : String)
    (h : Holds buffer position (littleEndian width value)) (hwidth : 0 < width)
    (hvalue : value < 256 ^ width) : readNumber buffer position width what = .ok value := by
  have hslice := h.slice? (by rw [length_littleEndian]; exact hwidth)
  rw [length_littleEndian] at hslice
  rw [readNumber, hslice]
  dsimp only
  rw [ofLittleEndian_littleEndian]
  exact congrArg _ (Nat.mod_eq_of_lt hvalue)

theorem readNumber_u16 {buffer : Bytes} {position value : Nat} (what : String)
    (h : Holds buffer position (Tree.u16 value)) (hvalue : value ≤ 0xFFFF) :
    readNumber buffer position 2 what = .ok value := by
  rw [Tree.u16, Nat.min_eq_left hvalue] at h
  exact readNumber_of_holds what h (by omega) (by omega)

theorem readNumber_u32 {buffer : Bytes} {position value : Nat} (what : String)
    (h : Holds buffer position (Tree.u32 value)) (hvalue : value < 2 ^ 32) :
    readNumber buffer position 4 what = .ok value := by
  rw [Tree.u32, Nat.min_eq_left (by omega)] at h
  exact readNumber_of_holds what h (by omega) (by omega)

/-- A distance leads to its target. -/
theorem follow_of_holds {buffer : Bytes} {position target : Nat} (hsmall : buffer.length < 2 ^ 32)
    (h : Holds buffer position (Tree.u32 (target - position))) (hle : position ≤ target)
    (hlt : target < buffer.length) : follow buffer position = .ok target := by
  have hread := readNumber_u32 "u32" h (by omega)
  have htarget : position + (target - position) = target := by omega
  simp [follow, hread, bind, Except.bind, pure, Except.pure, htarget, hlt]

/-- A vector of elements is found behind its number of elements. -/
theorem vector_of_holds {buffer : Bytes} {cursor count : Nat} {elements : Bytes} (elementSize : Nat)
    (hsmall : buffer.length < 2 ^ 32)
    (h : Holds buffer cursor (Tree.placeVector cursor count elements).octets)
    (hcount : count * elementSize ≤ elements.length) (hsize : 0 < elementSize) :
    let start := (Tree.placeVector cursor count elements).target
    start < buffer.length ∧ vector buffer start elementSize = .ok (start + 4, count) ∧
      Holds buffer (start + 4) elements := by
  have halign := le_alignUp 4 cursor (by omega)
  have hpad : cursor + (Tree.padding 4 cursor).length = alignUp 4 cursor := by
    rw [Tree.padding, length_zeros]; omega
  unfold Tree.placeVector at h ⊢
  dsimp only at h ⊢
  have hnumber := h.left.right
  have helements := h.right
  have hlen := h.left.le (by rw [List.length_append, Tree.length_u32]; omega)
  have hle : count ≤ count * elementSize := Nat.le_mul_of_pos_right count hsize
  rw [List.length_append, Tree.length_u32, ← Nat.add_assoc, hpad] at helements hlen
  rw [hpad] at hnumber
  have hfit : alignUp 4 cursor + 4 + count * elementSize ≤ buffer.length := by
    by_cases hempty : elements.length = 0
    · omega
    · have := helements.le (by omega)
      omega
  have hread := readNumber_u32 "u32" hnumber (by omega)
  refine ⟨by omega, ?_, helements⟩
  simp [vector, hread, bind, Except.bind, pure, Except.pure, hfit]

theorem octets_of_vector {buffer : Bytes} {position start count : Nat} {value : Bytes}
    (hvector : vector buffer position 1 = .ok (start, count))
    (hvalue : (buffer.drop start).take count = value) : octets buffer position = .ok value := by
  simp [octets, hvector, hvalue, bind, Except.bind, pure, Except.pure]

/-- A vector of distances leads to what has been laid out after it. -/
theorem follow_of_placeDistances {buffer : Bytes} {cursor : Nat} (elements : Placements)
    (hsmall : buffer.length < 2 ^ 32)
    (h : Holds buffer cursor (Tree.placeDistances cursor elements).octets) :
    let start := (Tree.placeDistances cursor elements).target
    let count := elements.targets.length
    (start < buffer.length ∧ vector buffer start 4 = .ok (start + 4, count)) ∧
      Holds buffer (Tree.afterDistances cursor count) elements.octets ∧
      ∀ (i target : Nat), elements.targets[i]? = some target →
        Tree.afterDistances cursor count ≤ target → target < buffer.length →
        follow buffer (start + 4 + 4 * i) = .ok target := by
  intro start count
  let distances := elements.targets.mapIdx fun index target =>
    Tree.u32 (target - (start + 4 + 4 * index))
  have hwidth : ∀ part ∈ distances, part.length = 4 := by
    intro part hmem
    obtain ⟨i, hi, rfl⟩ := List.mem_mapIdx.mp hmem
    exact Tree.length_u32 _
  have hlength : distances.flatten.length = 4 * count := by
    rw [length_flatten hwidth, List.length_mapIdx]
  obtain ⟨hlt, hvector, helements⟩ := vector_of_holds 4 hsmall h (by
    change count * 4 ≤ (distances.flatten ++ elements.octets).length
    rw [List.length_append, hlength]
    omega) (by omega)
  change Holds buffer (start + 4) (distances.flatten ++ elements.octets) at helements
  have hafter : start + 4 + 4 * count = Tree.afterDistances cursor count := rfl
  refine ⟨⟨hlt, hvector⟩, by rw [← hafter, ← hlength]; exact helements.right,
    fun i target htarget hle hlt => ?_⟩
  have hi : i < count := (List.getElem?_eq_some_iff.mp htarget).1
  have hdistance : Holds buffer (start + 4 + 4 * i) (Tree.u32 (target - (start + 4 + 4 * i))) :=
    helements.left.flatten hwidth (by simp [distances, List.getElem?_mapIdx, htarget])
  exact follow_of_holds hsmall hdistance (by omega) hlt

/-- Numbers that stand one after the other are read one after the other. -/
theorem words_of_holds {buffer : Bytes} {start : Nat} {values : List Int32}
    (h : Holds buffer start (values.flatMap fun value => littleEndian 4 value.toUInt32.toNat)) :
    words values.length (buffer.drop start) = values := by
  induction values generalizing start with
  | nil => rfl
  | cons value values ih =>
    rw [List.flatMap_cons] at h
    have hfirst := h.left.take_drop
    have hrest := h.right
    rw [length_littleEndian] at hfirst hrest
    have hvalue : value.toUInt32.toNat < 256 ^ 4 := value.toUInt32.toNat_lt
    rw [List.length_cons, words, hfirst, ofLittleEndian_littleEndian, List.drop_drop, ih hrest,
      Nat.pow_eq, Nat.mod_eq_of_lt hvalue, ofNat_toUInt32]

end TableView

namespace Tree

/-! ## Where a layout puts things -/

variable {buffer : Bytes}

/-- A table whose field list and fields the format can express. -/
structure Fits (tree : Tree) : Prop where
  slots : 4 + 2 * slotCount tree ≤ 0xFFFF
  size : fieldsEnd tree ≤ 0xFFFF

theorem fits_of_limits {tree : Tree} (hslots : ∀ field ∈ tree, field.1 ≤ 32764)
    (hinline : fieldsEnd tree ≤ 65535) : tree.Fits := by
  have hcount := slotCount_le fun field hmem => Nat.lt_succ_of_le (hslots field hmem)
  exact ⟨by omega, hinline⟩

theorem fits_of_small {tree : Tree} (hslots : ∀ field ∈ tree, field.1 < 0x1000)
    (hlength : tree.length < 0x1000) : tree.Fits := by
  have hslots := slotCount_le hslots
  have hend := fieldsEnd_le_tableSize tree
  have hsize := tableSize_le tree
  exact ⟨by omega, by omega⟩

theorem length_fieldList (tree : Tree) : (fieldList tree).length = 4 + 2 * slotCount tree := by
  have hentries : ((List.range (slotCount tree)).map fun slot =>
      u16 (slotOffset tree slot)).flatten.length = 2 * _ := length_flatten (by simp [length_u16])
  rw [List.length_map, List.length_range] at hentries
  rw [fieldList, List.length_append, List.length_append, length_u16, length_u16, List.flatMap_def,
    hentries]

/-- The parts of a table that has been laid out. -/
theorem holds_placeTable {tree : Tree} {cursor : Nat} {refer : Nat → Placements}
    (h : Holds buffer cursor (placeTable tree cursor refer).octets) :
    let position := (placeTable tree cursor refer).target
    (alignUp 2 cursor + (fieldList tree).length ≤ position ∧
        position < alignUp 2 cursor + (fieldList tree).length + 8) ∧
      Holds buffer (alignUp 2 cursor) (fieldList tree) ∧
      Holds buffer position (tableOctets tree position (position - alignUp 2 cursor)
        (refer (position + tableSize tree)).targets) ∧
      Holds buffer (position + tableSize tree) (refer (position + tableSize tree)).octets := by
  have hlist := le_alignUp 2 cursor (by omega)
  have hle := le_alignUp 8 (alignUp 2 cursor + (fieldList tree).length) (by omega)
  have hlt := alignUp_lt 8 (alignUp 2 cursor + (fieldList tree).length) (by omega)
  unfold placeTable at h ⊢
  dsimp only at h ⊢
  generalize hposition : alignUp 8 (alignUp 2 cursor + (fieldList tree).length) = position at *
  generalize halign : alignUp 2 cursor = listStart at *
  have hpad : cursor + (padding 2 cursor).length = listStart := by
    rw [padding, length_zeros]; omega
  have hpad' : listStart + (fieldList tree).length +
      (padding 8 (listStart + (fieldList tree).length)).length = position := by
    rw [padding, length_zeros]; omega
  have hfieldList := h.left.left.left.right
  have htable := h.left.right
  have hfields := h.right
  have hsize := (holds_tableOctets tree position (position - listStart)
    (refer (position + tableSize tree)).targets).1
  simp only [List.length_append, ← Nat.add_assoc, hpad, hpad', hsize] at hfieldList htable hfields
  exact ⟨⟨hle, hlt⟩, hfieldList, htable, hfields⟩

/-- A table that has been laid out lies inside the buffer. -/
theorem placeTable_inside {tree : Tree} {cursor : Nat} {refer : Nat → Placements}
    (h : Holds buffer cursor (placeTable tree cursor refer).octets) :
    (placeTable tree cursor refer).target + tableSize tree ≤ buffer.length := by
  obtain ⟨-, -, htable, -⟩ := holds_placeTable h
  generalize (placeTable tree cursor refer).target = position at *
  have hsize := (holds_tableOctets tree position (position - alignUp 2 cursor)
    (refer (position + tableSize tree)).targets).1
  have hfour := four_le_tableSize tree
  have hinside := htable.le (by omega)
  rwa [hsize] at hinside

theorem le_target_placeTable (tree : Tree) (cursor : Nat) (refer : Nat → Placements) :
    cursor ≤ (placeTable tree cursor refer).target := by
  have := le_alignUp 2 cursor (by omega)
  have := le_alignUp 8 (alignUp 2 cursor + (fieldList tree).length) (by omega)
  unfold placeTable
  dsimp only
  omega

theorem le_target_placeValue (value : FieldValue) (cursor : Nat) :
    cursor ≤ (placeValue value cursor).target := by
  have halign := le_alignUp 4 cursor (by omega)
  cases value with
  | table fields => exact le_target_placeTable fields cursor _
  | bytes | text | i32s | byteStrings | tables => exact halign
  | _ => exact Nat.le_refl _

/-- Things that are laid out one after the other, each in the same way. -/
def placeEach {α : Type} (place : α → Nat → Placement) : List α → Nat → Placements
  | [], _ => ⟨[], []⟩
  | a :: rest, cursor =>
    let first := place a cursor
    let others := placeEach place rest (cursor + first.octets.length)
    ⟨first.target :: others.targets, first.octets ++ others.octets⟩

theorem placeFields_eq (fields : Tree) (cursor : Nat) :
    placeFields fields cursor = placeEach (fun field => placeValue field.2) fields cursor := by
  induction fields generalizing cursor with
  | nil => rfl
  | cons field rest ih => rw [placeFields, placeEach, ih]

theorem placeTables_eq (trees : List Tree) (cursor : Nat) :
    placeTables trees cursor =
      placeEach (fun tree cursor => placeTable tree cursor (placeFields tree)) trees cursor := by
  induction trees generalizing cursor with
  | nil => rfl
  | cons tree rest ih => rw [placeTables, placeEach, ih]

/-- A string of octets laid out at a cursor, with the zero octet that follows it. -/
def placeString (string : Bytes) (cursor : Nat) : Placement :=
  placeVector cursor string.length (string ++ [0])

theorem placeStrings_eq (strings : List Bytes) (cursor : Nat) :
    placeStrings cursor strings = placeEach placeString strings cursor := by
  induction strings generalizing cursor with
  | nil => rfl
  | cons string rest ih => rw [placeStrings, placeEach, ih]; rfl

section

variable {α : Type} {place : α → Nat → Placement} {elements : List α}

theorem length_targets_placeEach (elements : List α) (cursor : Nat) :
    (placeEach place elements cursor).targets.length = elements.length := by
  induction elements generalizing cursor with
  | nil => rfl
  | cons first rest ih => rw [placeEach, List.length_cons, List.length_cons, ih]

/-- Where several things have been laid out, each of them stands at the cursor or after it. -/
theorem holds_placeEach {cursor : Nat}
    (h : Holds buffer cursor (placeEach place elements cursor).octets) {i : Nat} {a : α}
    (ha : elements[i]? = some a) :
    ∃ start, cursor ≤ start ∧ Holds buffer start (place a start).octets ∧
      (placeEach place elements cursor).targets[i]? = some (place a start).target := by
  induction elements generalizing cursor i with
  | nil => simp at ha
  | cons first rest ih =>
    rw [placeEach] at h ⊢
    dsimp only at h ⊢
    cases i with
    | zero =>
      obtain rfl : first = a := by simpa using ha
      exact ⟨cursor, Nat.le_refl _, h.left, rfl⟩
    | succ i =>
      obtain ⟨start, hle, hheld, htarget⟩ := ih h.right (by simpa using ha)
      exact ⟨start, by omega, hheld, htarget⟩

end

/-- What a field refers to stands after the table, where its distance leads. -/
theorem holds_placeFields {fields : Tree} {cursor : Nat}
    (h : Holds buffer cursor (placeFields fields cursor).octets) {i slot : Nat}
    {value : FieldValue} (hfield : fields[i]? = some (slot, value)) :
    ∃ start, cursor ≤ start ∧ Holds buffer start (placeValue value start).octets ∧
      (placeFields fields cursor).targets[i]? = some (placeValue value start).target := by
  rw [placeFields_eq] at h ⊢
  exact holds_placeEach h hfield

/-- Every field of a table that has been laid out stands at its place, and what it refers to stands
    behind the table. -/
theorem holds_placedField {tree : Tree} {cursor : Nat}
    (h : Holds buffer cursor (placeTable tree cursor (placeFields tree)).octets) {i offset : Nat}
    {field : Nat × FieldValue} (hfield : tree[i]? = some field)
    (hoffset : (fieldOffsets tree)[i]? = some offset) :
    let position := (placeTable tree cursor (placeFields tree)).target
    ∃ start, position + tableSize tree ≤ start ∧
      Holds buffer (position + offset)
        (inlineOctets (position + offset) (placeValue field.2 start).target field.2) ∧
      Holds buffer start (placeValue field.2 start).octets := by
  intro position
  obtain ⟨-, -, htable, hfields⟩ := holds_placeTable h
  obtain ⟨start, hstart, hheld, htarget⟩ := holds_placeFields hfields hfield
  have hplaces := (holds_tableOctets tree position (position - alignUp 2 cursor)
    (placeFields tree (position + tableSize tree)).targets).2.2
  exact ⟨start, hstart, htable.trans (hplaces i field offset _ hfield hoffset htarget), hheld⟩

end Tree

/-- Each distance of a vector of distances leads to what has been laid out for it. -/
theorem TableView.follow_of_placeEach {buffer : Bytes} {cursor : Nat} {α : Type}
    {place : α → Nat → Placement} {elements : List α} (hsmall : buffer.length < 2 ^ 32)
    (h : Holds buffer cursor (Tree.placeDistances cursor
      (Tree.placeEach place elements (Tree.afterDistances cursor elements.length))).octets)
    (hinside : ∀ a ∈ elements, ∀ start, Holds buffer start (place a start).octets →
      start ≤ (place a start).target ∧ (place a start).target < buffer.length)
    {i : Nat} {a : α} (ha : elements[i]? = some a) :
    let placed := Tree.placeEach place elements (Tree.afterDistances cursor elements.length)
    ∃ start, Tree.afterDistances cursor elements.length ≤ start ∧
      Holds buffer start (place a start).octets ∧
      placed.targets[i]? = some (place a start).target ∧
      TableView.follow buffer ((Tree.placeDistances cursor placed).target + 4 + 4 * i) =
        .ok (place a start).target := by
  intro placed
  have hcount : placed.targets.length = elements.length := Tree.length_targets_placeEach ..
  obtain ⟨-, heach, hfollows⟩ := follow_of_placeDistances placed hsmall h
  rw [hcount] at heach hfollows
  obtain ⟨start, hstart, hheld, htarget⟩ := Tree.holds_placeEach heach ha
  obtain ⟨hle, hlt⟩ := hinside a (List.mem_of_getElem? ha) start hheld
  exact ⟨start, hstart, hheld, htarget, hfollows i _ htarget (by omega) hlt⟩

/-- A table that has been laid out is found, with its field list. -/
theorem TableView.ofPosition_of_holds {buffer : Bytes} {tree : Tree} {cursor : Nat}
    {refer : Nat → Placements} (hfits : tree.Fits)
    (h : Holds buffer cursor (Tree.placeTable tree cursor refer).octets) :
    let position := (Tree.placeTable tree cursor refer).target
    ofPosition buffer position =
      .ok ⟨position, alignUp 2 cursor, 4 + 2 * Tree.slotCount tree⟩ := by
  have hinside := Tree.placeTable_inside h
  obtain ⟨⟨hle, hlt⟩, hlist, htable, -⟩ := Tree.holds_placeTable h
  generalize (Tree.placeTable tree cursor refer).target = position at *
  generalize alignUp 2 cursor = listStart at *
  obtain ⟨-, hdistance, -⟩ := Tree.holds_tableOctets tree position (position - listStart)
    (refer (position + Tree.tableSize tree)).targets
  have hfour := Tree.four_le_tableSize tree
  have hslots := hfits.slots
  rw [Tree.length_fieldList] at hle hlt
  unfold Tree.fieldList at hlist
  have hlength := readNumber_u16 "u16" hlist.left.left hslots
  have hread : readNumber buffer position 4 "i32" = .ok (position - listStart) := by
    rw [Nat.min_eq_left (by omega)] at hdistance
    exact readNumber_of_holds "i32" (htable.trans hdistance) (by omega) (by omega)
  have hint : (Int32.ofNat (position - listStart)).toInt = (position - listStart : Nat) :=
    Int32.toInt_ofNat_of_lt (by omega)
  have hstart : (position : Int) - (position - listStart : Nat) = listStart := by omega
  have hnonneg : ¬(listStart : Int) < 0 := by omega
  have hbounds : ¬(4 + 2 * Tree.slotCount tree < 4 ∨
      buffer.length < listStart + (4 + 2 * Tree.slotCount tree)) := by omega
  simp only [ofPosition, hread, hint, hstart, hlength, bind, Except.bind, pure, Except.pure,
    if_neg hnonneg, Int.toNat_natCast, if_neg hbounds]

/-! ## What a table shows -/

/-- The field at a position holds a value: a number, or the distance to what stands after it. -/
structure Stored (buffer : Bytes) (position : Nat) (value : FieldValue) : Prop where
  held : ∃ start, position ≤ start ∧
    Holds buffer position (Tree.inlineOctets position (Tree.placeValue value start).target value) ∧
    Holds buffer start (Tree.placeValue value start).octets

/-- A table of a buffer shows a tree: what its slots hold are the values of the tree. -/
structure Shows (buffer : Bytes) (tree : Tree) (table : TableView) : Prop where
  absent : ∀ slot, tree.value? slot = none → table.field? buffer slot = .ok none
  present : ∀ slot value, tree.value? slot = some value →
    ∃ position, table.field? buffer slot = .ok (some position) ∧ Stored buffer position value

/-- The table that starts where a tree has been laid out shows the tree. -/
theorem shows_of_holds {buffer : Bytes} {tree : Tree} {cursor : Nat} (hfits : tree.Fits)
    (h : Holds buffer cursor (Tree.placeTable tree cursor (Tree.placeFields tree)).octets) :
    let position := (Tree.placeTable tree cursor (Tree.placeFields tree)).target
    position < buffer.length ∧
      ∃ table, TableView.ofPosition buffer position = .ok table ∧ Shows buffer tree table := by
  have hinside := Tree.placeTable_inside h
  have hfour := Tree.four_le_tableSize tree
  refine ⟨by omega, _, TableView.ofPosition_of_holds hfits h, ?_⟩
  obtain ⟨-, hlist, -, -⟩ := Tree.holds_placeTable h
  generalize alignUp 2 cursor = listStart at *
  unfold Tree.fieldList at hlist
  -- The entry of a slot in the field list.
  have hentry : ∀ slot < Tree.slotCount tree,
      TableView.readNumber buffer (listStart + (4 + 2 * slot)) 2 "u16" =
        .ok (Tree.slotOffset tree slot) := by
    intro slot hslot
    have hentries := hlist.right
    rw [List.flatMap_def, List.length_append, Tree.length_u16, Tree.length_u16] at hentries
    have h : Holds buffer (listStart + (2 + 2) + 2 * slot)
        (Tree.u16 (Tree.slotOffset tree slot)) :=
      hentries.flatten (by simp [Tree.length_u16]) (by simp [hslot])
    rw [Nat.add_assoc] at h
    refine TableView.readNumber_u16 "u16" h ?_
    cases hvalue : tree.value? slot with
    | none => rw [Tree.slotOffset_of_none hvalue]; omega
    | some value =>
      obtain ⟨i, hfield, hoffset⟩ := Tree.slotOffset_of_value hvalue
      have := Tree.fieldOffset_le_fieldsEnd hfield hoffset
      have := hfits.size
      omega
  constructor
  · intro slot hvalue
    by_cases hslot : slot < Tree.slotCount tree
    · have hread := hentry slot hslot
      rw [Tree.slotOffset_of_none hvalue] at hread
      rw [TableView.field?, if_neg (by dsimp only; omega), hread]
      rfl
    · exact TableView.field?_eq_none_of_short (by dsimp only; omega)
  · intro slot value hvalue
    obtain ⟨i, hfield, hoffset⟩ := Tree.slotOffset_of_value hvalue
    have hslot := Tree.lt_slotCount (List.mem_of_getElem? hfield)
    have hfour := Tree.four_le_fieldOffset hfield hoffset
    have hoffsetLe := Tree.fieldOffset_le hfield hoffset
    have hread := hentry slot hslot
    obtain ⟨start, hstart, hinline, hheld⟩ := Tree.holds_placedField h hfield hoffset
    generalize Tree.slotOffset tree slot = offset at *
    refine ⟨_, ?_, ⟨start, by omega, hinline, hheld⟩⟩
    rw [TableView.field?, if_neg (by dsimp only at hslot ⊢; omega), hread]
    obtain ⟨offset, rfl⟩ : ∃ n, offset = n + 1 := ⟨offset - 1, by omega⟩
    rfl

/-! ## What the readers return -/

section

variable {buffer : Bytes} {tree : Tree} {view : TableView} {slot : Nat}

/-- A number that stands in the table itself. -/
theorem Shows.scalar (h : Shows buffer tree view) {value : FieldValue} {width number : Nat}
    (hvalue : tree.value? slot = some value)
    (hinline : ∀ position target,
      Tree.inlineOctets position target value = littleEndian width number)
    (hwidth : 0 < width) (hnumber : number < 256 ^ width) :
    view.scalar? buffer slot width = .ok (some number) := by
  obtain ⟨position, hfield, ⟨start, -, hheld, -⟩⟩ := h.present _ _ hvalue
  rw [hinline] at hheld
  have hread := TableView.readNumber_of_holds "scalar field" hheld hwidth hnumber
  simp [TableView.scalar?, hfield, hread, bind, Except.bind, pure, Except.pure]

theorem Shows.u8 (h : Shows buffer tree view) {value : UInt8}
    (hvalue : tree.value? slot = some (.u8 value)) (absent : UInt8) :
    view.u8 buffer slot absent = .ok value := by
  have hscalar := h.scalar hvalue (fun _ _ => rfl) (by omega) value.toNat_lt
  simp [TableView.u8, hscalar, bind, Except.bind, pure, Except.pure]

theorem Shows.i16 (h : Shows buffer tree view) {value : Int16}
    (hvalue : tree.value? slot = some (.i16 value)) (absent : Int16) :
    view.i16 buffer slot absent = .ok value := by
  have hscalar := h.scalar hvalue (fun _ _ => rfl) (by omega) value.toUInt16.toNat_lt
  have hback : Int16.ofNat value.toUInt16.toNat = value := by
    apply Int16.toBitVec_inj.mp
    simp
  simp [TableView.i16, hscalar, hback, bind, Except.bind, pure, Except.pure]

theorem Shows.i32 (h : Shows buffer tree view) {value : Int32}
    (hvalue : tree.value? slot = some (.i32 value)) (absent : Int32) :
    view.i32 buffer slot absent = .ok value := by
  have hscalar := h.scalar hvalue (fun _ _ => rfl) (by omega) value.toUInt32.toNat_lt
  have hback := ofNat_toUInt32 value
  simp [TableView.i32, hscalar, hback, bind, Except.bind, pure, Except.pure]

theorem Shows.u64 (h : Shows buffer tree view) {value : UInt64}
    (hvalue : tree.value? slot = some (.u64 value)) (absent : UInt64) :
    view.u64 buffer slot absent = .ok value := by
  have hscalar := h.scalar hvalue (fun _ _ => rfl) (by omega) value.toNat_lt
  simp [TableView.u64, hscalar, bind, Except.bind, pure, Except.pure]

theorem Shows.u8_of_absent (h : Shows buffer tree view) (hvalue : tree.value? slot = none)
    (absent : UInt8) : view.u8 buffer slot absent = .ok absent := by
  simp [TableView.u8, TableView.scalar?, h.absent _ hvalue, bind, Except.bind, pure, Except.pure]

theorem Shows.text_of_absent (h : Shows buffer tree view) (hvalue : tree.value? slot = none) :
    view.text? buffer slot = .ok none := by
  simp [TableView.text?, TableView.bytes?, h.absent _ hvalue, bind, Except.bind, pure, Except.pure]

theorem Shows.table_of_absent (h : Shows buffer tree view) (hvalue : tree.value? slot = none) :
    view.table? buffer slot = .ok none := by
  simp [TableView.table?, h.absent _ hvalue, bind, Except.bind, pure, Except.pure]

variable (hsmall : buffer.length < 2 ^ 32)

include hsmall

/-- The distance in a field leads to what the field refers to. -/
theorem Stored.follow {position start : Nat} (value : FieldValue) (hle : position ≤ start)
    (hlt : (Tree.placeValue value start).target < buffer.length)
    (h : Holds buffer position (Tree.u32 ((Tree.placeValue value start).target - position))) :
    TableView.follow buffer position = .ok (Tree.placeValue value start).target :=
  TableView.follow_of_holds hsmall h
    (Nat.le_trans hle (Tree.le_target_placeValue value start)) hlt

theorem Shows.bytes (h : Shows buffer tree view) {value : Bytes}
    (hvalue : tree.value? slot = some (.bytes value)) :
    view.bytes? buffer slot = .ok (some value) := by
  obtain ⟨position, hfield, ⟨start, hle, hheld, hoctets⟩⟩ := h.present _ _ hvalue
  obtain ⟨hlt, hvector, hoctets⟩ := TableView.vector_of_holds 1 hsmall hoctets
    (by omega) (by omega)
  have hfollow : TableView.follow buffer position =
      .ok (Tree.placeVector start value.length value).target :=
    Stored.follow hsmall (.bytes value) hle hlt hheld
  have hread := TableView.octets_of_vector hvector hoctets.take_drop
  simp [TableView.bytes?, hfield, hfollow, hread, bind, Except.bind, pure, Except.pure]

theorem Shows.text (h : Shows buffer tree view) {value : String}
    (hvalue : tree.value? slot = some (.text value)) :
    view.text? buffer slot = .ok (some value) := by
  obtain ⟨position, hfield, ⟨start, hle, hheld, hoctets⟩⟩ := h.present _ _ hvalue
  obtain ⟨hlt, hvector, hoctets⟩ := TableView.vector_of_holds 1 hsmall hoctets
    (by rw [List.length_append]; omega) (by omega)
  have hfollow : TableView.follow buffer position =
      .ok (Tree.placeVector start (Text.Utf8.encode value).length
        (Text.Utf8.encode value ++ [0])).target :=
    Stored.follow hsmall (.text value) hle hlt hheld
  have hread := TableView.octets_of_vector hvector hoctets.left.take_drop
  simp [TableView.text?, TableView.bytes?, hfield, hfollow, hread, Text.Utf8.decode_encode, bind,
    Except.bind, pure, Except.pure]

theorem Shows.i32s (h : Shows buffer tree view) {values : List Int32}
    (hvalue : tree.value? slot = some (.i32s values)) :
    view.i32s buffer slot = .ok values := by
  obtain ⟨position, hfield, ⟨start, hle, hheld, hoctets⟩⟩ := h.present _ _ hvalue
  have hlength : (values.map fun value =>
      littleEndian 4 value.toUInt32.toNat).flatten.length = 4 * _ := length_flatten (by simp)
  rw [List.length_map] at hlength
  obtain ⟨hlt, hvector, hoctets⟩ := TableView.vector_of_holds 4 hsmall hoctets
    (by rw [List.flatMap_def, hlength]; omega) (by omega)
  have hfollow := Stored.follow hsmall (.i32s values) hle hlt hheld
  have hread := TableView.words_of_holds hoctets
  change TableView.vector buffer (Tree.placeValue (.i32s values) start).target 4 = _ at hvector
  simp only [TableView.i32s, hfield, hfollow, hvector, bind, Except.bind, pure, Except.pure]
  exact congrArg _ hread

theorem Shows.table (h : Shows buffer tree view) (slot : Nat) {child : Tree} (hfits : child.Fits)
    (hvalue : tree.value? slot = some (.table child)) :
    ∃ inner, view.table? buffer slot = .ok (some inner) ∧ Shows buffer child inner := by
  obtain ⟨position, hfield, ⟨start, hle, hheld, hoctets⟩⟩ := h.present _ _ hvalue
  obtain ⟨hlt, inner, hinner, hshows⟩ := shows_of_holds hfits hoctets
  have hfollow := Stored.follow hsmall (.table child) hle hlt hheld
  refine ⟨inner, ?_, hshows⟩
  simp only [TableView.table?, hfield, hfollow, bind, Except.bind, pure, Except.pure]
  exact congrArg (Except.map some) hinner

/-- The distances in a field lead to the things that are laid out after them. -/
theorem Shows.targets (h : Shows buffer tree view) {value : FieldValue} {α : Type}
    {place : α → Nat → Placement} {elements : List α} (hvalue : tree.value? slot = some value)
    (hinline : ∀ position target,
      Tree.inlineOctets position target value = Tree.u32 (target - position))
    (hplace : ∀ start, Tree.placeValue value start = Tree.placeDistances start
      (Tree.placeEach place elements (Tree.afterDistances start elements.length)))
    (hinside : ∀ a ∈ elements, ∀ start, Holds buffer start (place a start).octets →
      start ≤ (place a start).target ∧ (place a start).target < buffer.length) :
    ∃ targets, view.targets buffer slot = .ok targets ∧
      List.Forall₂ (fun target a => ∃ start, (place a start).target = target ∧
        Holds buffer start (place a start).octets) targets elements := by
  obtain ⟨position, hfield, ⟨start, hle, hheld, hoctets⟩⟩ := h.present _ _ hvalue
  rw [hinline] at hheld
  rw [hplace] at hoctets
  let placed := Tree.placeEach place elements (Tree.afterDistances start elements.length)
  have hcount : placed.targets.length = elements.length := Tree.length_targets_placeEach ..
  obtain ⟨⟨hlt, hvector⟩, -, -⟩ := TableView.follow_of_placeDistances placed hsmall hoctets
  have hfollow := Stored.follow hsmall value hle (by rw [hplace]; exact hlt) hheld
  rw [hplace] at hfollow
  rw [hcount] at hvector
  have hplaced : ∀ (i : Nat) (hi : i < elements.length) (hi' : i < placed.targets.length),
      TableView.follow buffer ((Tree.placeDistances start placed).target + 4 + 4 * i) =
          .ok placed.targets[i] ∧
        ∃ start', (place elements[i] start').target = placed.targets[i] ∧
          Holds buffer start' (place elements[i] start').octets := by
    intro i hi hi'
    obtain ⟨start', -, hheld, htarget, hfollow'⟩ := TableView.follow_of_placeEach hsmall hoctets
      hinside (List.getElem?_eq_getElem hi)
    obtain ⟨_, htarget'⟩ := List.getElem?_eq_some_iff.mp htarget
    rw [← htarget'] at hfollow'
    exact ⟨hfollow', start', htarget'.symm, hheld⟩
  have hpairs : List.Forall₂ (fun index target =>
      TableView.follow buffer ((Tree.placeDistances start placed).target + 4 + 4 * index) =
        Except.ok target) (List.range elements.length) placed.targets := by
    refine List.forall₂_iff_get.mpr ⟨by rw [List.length_range, hcount], fun i hi hi' => ?_⟩
    rw [List.length_range] at hi
    simpa using (hplaced i hi hi').1
  refine ⟨placed.targets, ?_, List.forall₂_iff_get.mpr
    ⟨hcount, fun i hi hi' => (hplaced i hi' hi).2⟩⟩
  change TableView.follow buffer position = .ok (Tree.placeDistances start placed).target at hfollow
  simp only [TableView.targets, hfield, hfollow, hvector, bind, Except.bind]
  exact Sequencing.mapM_eq_ok_of_forall₂ hpairs

theorem Shows.tables (h : Shows buffer tree view) (slot : Nat) (children : List Tree)
    (hfits : ∀ child ∈ children, child.Fits)
    (hvalue : tree.value? slot = some (.tables children)) :
    ∃ views, view.tables buffer slot = .ok views ∧
      List.Forall₂ (Shows buffer) children views := by
  obtain ⟨targets, htargets, hplaced⟩ := h.targets hsmall hvalue (fun _ _ => rfl)
    (fun start => by rw [Tree.placeValue, Tree.placeTables_eq]) fun child hmem start hheld =>
      ⟨Tree.le_target_placeTable child start _, (shows_of_holds (hfits child hmem) hheld).1⟩
  -- Each distance leads to a table that shows its tree.
  have hviews : List.Forall₂ (fun target child => ∃ inner,
      TableView.ofPosition buffer target = .ok inner ∧ Shows buffer child inner)
      targets children := by
    refine List.forall₂_iff_get.mpr ⟨hplaced.length_eq, fun i hi hi' => ?_⟩
    obtain ⟨start, htarget, hheld⟩ := hplaced.get hi hi'
    have hshown := (shows_of_holds (hfits _ (List.get_mem children ⟨i, hi'⟩)) hheld).2
    rwa [htarget] at hshown
  obtain ⟨inners, hinners, hshows⟩ := Sequencing.exists_mapM_forall₂ hviews
  refine ⟨inners, ?_, hshows⟩
  rw [TableView.tables, htargets]
  exact hinners

theorem Shows.byteStrings (h : Shows buffer tree view) {strings : List Bytes}
    (hvalue : tree.value? slot = some (.byteStrings strings)) :
    view.byteStrings buffer slot = .ok strings := by
  have hread : ∀ (string : Bytes) (start : Nat),
      Holds buffer start (Tree.placeString string start).octets →
        (Tree.placeString string start).target < buffer.length ∧
          TableView.octets buffer (Tree.placeString string start).target = .ok string := by
    intro string start hheld
    obtain ⟨hlt, hvector, hoctets⟩ := TableView.vector_of_holds 1 hsmall hheld
      (by rw [List.length_append]; omega) (by omega)
    exact ⟨hlt, TableView.octets_of_vector hvector hoctets.left.take_drop⟩
  obtain ⟨targets, htargets, hplaced⟩ := h.targets hsmall hvalue (fun _ _ => rfl)
    (fun start => by rw [Tree.placeValue, Tree.placeStrings_eq]) fun string _ start hheld =>
      ⟨le_alignUp 4 start (by omega), (hread string start hheld).1⟩
  have hstrings : List.Forall₂ (fun target string =>
      TableView.octets buffer target = Except.ok string) targets strings := by
    refine hplaced.imp fun target string ⟨start, htarget, hheld⟩ => ?_
    rw [← htarget]
    exact (hread string start hheld).2
  rw [TableView.byteStrings, htargets]
  exact Sequencing.mapM_eq_ok_of_forall₂ hstrings

/-- Tables that show the trees of the elements of a list are read as the elements are. -/
theorem Shows.mapM_tables {α β : Type} (h : Shows buffer tree view) (slot : Nat) {toTree : α → Tree}
    {elements : List α} (hfits : ∀ element, (toTree element).Fits)
    (hvalue : tree.value? slot = some (.tables (elements.map toTree)))
    {read : TableView → Except ModelError β} {readBack : α → Except ModelError β}
    (hread : ∀ element inner, Shows buffer (toTree element) inner →
      read inner = readBack element) :
    ∃ views, view.tables buffer slot = .ok views ∧ views.mapM read = elements.mapM readBack := by
  obtain ⟨views, hviews, hshows⟩ := h.tables hsmall slot (elements.map toTree) (by
    intro child hmem
    obtain ⟨element, -, rfl⟩ := List.mem_map.mp hmem
    exact hfits element) hvalue
  refine ⟨views, hviews, Sequencing.mapM_congr_forall₂ ?_⟩
  have hpairs := (List.forall₂_map_left_iff.mp hshows).flip
  exact hpairs.imp fun inner element hinner => hread element inner hinner

end

namespace Tree

theorem eight_le_length_encode (tree : Tree) (identifier : Bytes) :
    8 ≤ (tree.encode identifier).length := by
  simp only [encode, List.length_append, length_u32, List.length_take, length_zeros]
  omega

/-- A buffer opens with the distance to the root table, and the layout of its tree follows the
    identifier. -/
theorem holds_encode (tree : Tree) (identifier : Bytes) :
    let whole := placeTable tree 8 (placeFields tree)
    Holds (tree.encode identifier) 0 (u32 whole.target) ∧
      Holds (tree.encode identifier) 8 whole.octets := by
  have hidentifier : ((identifier ++ zeros 4).take 4).length = 4 := by
    rw [List.length_take, List.length_append, length_zeros]; omega
  have hwhole : Holds (tree.encode identifier) 0 (tree.encode identifier) := holds_self _
  nth_rewrite 2 [encode] at hwhole
  have hplaced := hwhole.right
  rw [List.length_append, hidentifier, length_u32] at hplaced
  exact ⟨hwhole.left.left, hplaced⟩

end Tree

/-- The root table of an encoded tree shows the tree. -/
theorem root_encode {tree : Tree} {identifier : Bytes} (hfits : tree.Fits)
    (hsmall : (tree.encode identifier).length < 2 ^ 32) :
    ∃ view, TableView.root (tree.encode identifier) = .ok view ∧
      Shows (tree.encode identifier) tree view := by
  obtain ⟨htarget, hplaced⟩ := Tree.holds_encode tree identifier
  have hlength := Tree.eight_le_length_encode tree identifier
  generalize tree.encode identifier = buffer at *
  obtain ⟨hlt, view, hview, hshows⟩ := shows_of_holds hfits hplaced
  have hfollow := TableView.follow_of_holds hsmall htarget (Nat.zero_le _) hlt
  refine ⟨view, ?_, hshows⟩
  simp only [TableView.root, if_neg (show ¬buffer.length < 8 by omega), hfollow, bind,
    Except.bind]
  exact hview

end TensorLink

import TensorLink.Proofs.Table.Paths

/-!
# Where the parts of a buffer stand

Readers that take words from memory as they lie there need more of a buffer than that its distances
lead to the right places: tables, fields and vectors have to be aligned, the fields of a table may
not overlap, and distances count forward from where they stand.

`TableInOrder` says so of one table. The tables of a buffer are those that the distances in it lead
to from the root table, through every field of a table, whether or not the field list leads to it.

Results:
* `width_dvd_fieldOffset`: fields are aligned inside their table.
* `leadsToVector_of_holds`, `leadsToEach_of_holds`: distances lead forward to aligned vectors.
* `Placed.tableInOrder`: a table that has been laid out is in order.
* `Placed.refersTo`: what it refers to has been laid out too.
* `tablesInOrder_encode`: all tables of an encoded tree are in order.
-/

namespace TensorLink

open Bytes

/-! ## Specification -/

/-- The distance stored at a position leads strictly forward, to a target inside the buffer. -/
structure LeadsForward (buffer : Bytes) (position target : Nat) : Prop where
  follow_eq : TableView.follow buffer position = .ok target
  forward : position < target
  inside : target < buffer.length

/-- A vector of so many elements, whose number stands at a multiple of four. -/
structure AlignedVector (buffer : Bytes) (position elementSize count : Nat) : Prop where
  aligned : 4 ∣ position
  vector_eq : TableView.vector buffer position elementSize = .ok (position + 4, count)

/-- The distance stored at a position leads forward to an aligned vector. -/
def LeadsToVector (buffer : Bytes) (position elementSize count : Nat) : Prop :=
  ∃ vector, LeadsForward buffer position vector ∧ AlignedVector buffer vector elementSize count

/-- The distance stored at a position leads forward to an aligned vector of distances, one for each
    element of a list, and these lead forward to something that is right for the element. -/
def LeadsToEach {α : Type} (buffer : Bytes) (position : Nat) (elements : List α)
    (Right : α → Nat → Prop) : Prop :=
  ∃ vector, LeadsForward buffer position vector ∧ AlignedVector buffer vector 4 elements.length ∧
    ∀ (i : Nat) (a : α), elements[i]? = some a →
      ∃ target, LeadsForward buffer (vector + 4 + 4 * i) target ∧ Right a target

/-- A field at a position: a number stands there, or a distance that leads forward, and what is
    found there is aligned. Of tables it is said here only that distances lead to them. -/
def FieldValue.Stands (buffer : Bytes) (position : Nat) : FieldValue → Prop
  | .u8 value => Holds buffer position (littleEndian 1 value.toNat)
  | .i16 value => Holds buffer position (littleEndian 2 value.toUInt16.toNat)
  | .i32 value => Holds buffer position (littleEndian 4 value.toUInt32.toNat)
  | .u64 value => Holds buffer position (littleEndian 8 value.toNat)
  | .bytes value => LeadsToVector buffer position 1 value.length
  | .text value => LeadsToVector buffer position 1 (Text.Utf8.encode value).length
  | .i32s values => LeadsToVector buffer position 4 values.length
  | .byteStrings strings => LeadsToEach buffer position strings fun string target =>
      AlignedVector buffer target 1 string.length
  | .table _ => ∃ target, LeadsForward buffer position target
  | .tables children => LeadsToEach buffer position children fun _ _ => True

/-- The fields of a table, each with its place inside the table. -/
def Tree.placedFields (tree : Tree) : List (FieldValue × Nat) :=
  (tree.map (·.2)).zip (Tree.fieldOffsets tree)

/-- A field at a place inside the table at a position is in order: it is aligned, and stands behind
    the distance to the field list and inside the table. -/
structure FieldInOrder (buffer : Bytes) (tree : Tree) (position : Nat) (value : FieldValue)
    (offset : Nat) : Prop where
  aligned : value.width ∣ position + offset
  behind : 4 ≤ offset
  inside : offset + value.width ≤ Tree.tableSize tree
  stands : value.Stands buffer (position + offset)

/-- A table at a position is in order: it is aligned; its field list is aligned and ends before it
    starts; its fields are in order and lie apart from each other. -/
structure TableInOrder (buffer : Bytes) (tree : Tree) (position : Nat) : Prop where
  aligned : 8 ∣ position
  inside : position + Tree.tableSize tree ≤ buffer.length
  fieldList : ∃ view, TableView.ofPosition buffer position = .ok view ∧ 2 ∣ view.fieldList ∧
    view.fieldListSize = 4 + 2 * Tree.slotCount tree ∧
    view.fieldList + view.fieldListSize ≤ position
  fields : ∀ field ∈ Tree.placedFields tree, FieldInOrder buffer tree position field.1 field.2
  apart : (Tree.placedFields tree).Pairwise fun field field' =>
    field.2 + field.1.width ≤ field'.2 ∨ field'.2 + field'.1.width ≤ field.2

/-- A table at a position has a field that refers to a table at another position. -/
inductive RefersTo (buffer : Bytes) (tree : Tree) (position : Nat) : Tree → Nat → Prop
  | table {child : Tree} {offset target : Nat}
      (hfield : (.table child, offset) ∈ Tree.placedFields tree)
      (hfollow : TableView.follow buffer (position + offset) = .ok target) :
      RefersTo buffer tree position child target
  | element {children : List Tree} {child : Tree} {offset vector i target : Nat}
      (hfield : (.tables children, offset) ∈ Tree.placedFields tree)
      (hvector : TableView.follow buffer (position + offset) = .ok vector)
      (hchild : children[i]? = some child)
      (hfollow : TableView.follow buffer (vector + 4 + 4 * i) = .ok target) :
      RefersTo buffer tree position child target

/-- The tables of a buffer whose root table stands at `start`, with where they stand. -/
inductive StandsIn (buffer : Bytes) (root : Tree) (start : Nat) : Tree → Nat → Prop
  | root : StandsIn buffer root start root start
  | inner {tree child : Tree} {position target : Nat}
      (h : StandsIn buffer root start tree position)
      (hrefers : RefersTo buffer tree position child target) :
      StandsIn buffer root start child target

/-! ## Fields inside a table -/

namespace Tree

theorem width_dvd_widthStart (widths : List Nat) {width : Nat}
    (hwidth : width = 1 ∨ width = 2 ∨ width = 4 ∨ width = 8) : width ∣ widthStart widths width := by
  have htwo := widthStart_two widths
  have hfour := widthStart_four widths
  have height : widthStart widths 8 = 8 := rfl
  rcases hwidth with rfl | rfl | rfl | rfl <;> split at hfour <;> omega

variable {tree : Tree} {i offset : Nat} {field : Nat × FieldValue}

/-- A field stands at a multiple of its width. -/
theorem width_dvd_fieldOffset (hfield : tree[i]? = some field)
    (hoffset : (fieldOffsets tree)[i]? = some offset) : field.2.width ∣ offset := by
  rw [fieldOffset_eq hfield hoffset]
  exact Nat.dvd_add (width_dvd_widthStart _ field.2.width_cases) (Nat.dvd_mul_right ..)

/-- The widths that fields have divide the alignment of a table. -/
theorem width_dvd_eight (value : FieldValue) : value.width ∣ 8 := by
  rcases value.width_cases with h | h | h | h <;> rw [h] <;> decide

theorem getElem?_of_placedFields {value : FieldValue}
    (h : (placedFields tree)[i]? = some (value, offset)) :
    ∃ slot, tree[i]? = some (slot, value) ∧ (fieldOffsets tree)[i]? = some offset := by
  obtain ⟨hvalue, hoffset⟩ := List.getElem?_zip_eq_some.mp h
  rw [List.getElem?_map] at hvalue
  obtain ⟨⟨slot, _⟩, hfield, rfl⟩ := Option.map_eq_some_iff.mp hvalue
  exact ⟨slot, hfield, hoffset⟩

theorem mem_placedFields {value : FieldValue} (h : (value, offset) ∈ placedFields tree) :
    ∃ (i slot : Nat), tree[i]? = some (slot, value) ∧ (fieldOffsets tree)[i]? = some offset := by
  obtain ⟨i, hi⟩ := List.mem_iff_getElem?.mp h
  exact ⟨i, getElem?_of_placedFields hi⟩

theorem exists_placedField {slot : Nat} {value : FieldValue} (h : (slot, value) ∈ tree) :
    ∃ offset, (value, offset) ∈ placedFields tree := by
  obtain ⟨i, hi⟩ := List.mem_iff_getElem?.mp h
  have hlt : i < (fieldOffsets tree).length := by
    rw [length_fieldOffsets]
    exact (List.getElem?_eq_some_iff.mp hi).1
  exact ⟨(fieldOffsets tree)[i], List.mem_of_getElem? (List.getElem?_zip_eq_some.mpr
    ⟨by rw [List.getElem?_map, hi]; rfl, List.getElem?_eq_getElem hlt⟩)⟩

theorem pairwise_placedFields (tree : Tree) : (placedFields tree).Pairwise fun field field' =>
    field.2 + field.1.width ≤ field'.2 ∨ field'.2 + field'.1.width ≤ field.2 := by
  rw [List.pairwise_iff_getElem]
  intro i j hi hj hij
  obtain ⟨_, hfield, hoffset⟩ := getElem?_of_placedFields (List.getElem?_eq_getElem hi)
  obtain ⟨_, hfield', hoffset'⟩ := getElem?_of_placedFields (List.getElem?_eq_getElem hj)
  exact fieldOffset_apart hij hfield hoffset hfield' hoffset'

end Tree

/-! ## What a field refers to -/

section

variable {buffer : Bytes} {position start : Nat}

/-- A table starts behind the cursor that it has been laid out at, and inside the buffer. -/
theorem placeTable_le_lt {tree : Tree} {refer : Nat → Placements}
    (h : Holds buffer start (Tree.placeTable tree start refer).octets) :
    start ≤ (Tree.placeTable tree start refer).target ∧
      (Tree.placeTable tree start refer).target < buffer.length := by
  have hinside := Tree.placeTable_inside h
  have hfour := Tree.four_le_tableSize tree
  exact ⟨Tree.le_target_placeTable tree start refer, by omega⟩

variable (hsmall : buffer.length < 2 ^ 32)

include hsmall

theorem leadsForward_of_holds {target : Nat} (hforward : position < target)
    (hinside : target < buffer.length)
    (h : Holds buffer position (Tree.u32 (target - position))) :
    LeadsForward buffer position target :=
  ⟨TableView.follow_of_holds hsmall h (Nat.le_of_lt hforward) hinside, hforward, hinside⟩

theorem alignedVector_of_holds {count elementSize : Nat} {elements : Bytes}
    (h : Holds buffer start (Tree.placeVector start count elements).octets)
    (hcount : count * elementSize ≤ elements.length) (hsize : 0 < elementSize) :
    let vector := (Tree.placeVector start count elements).target
    start ≤ vector ∧ vector < buffer.length ∧ AlignedVector buffer vector elementSize count := by
  obtain ⟨hlt, hvector, -⟩ := TableView.vector_of_holds elementSize hsmall h hcount hsize
  exact ⟨le_alignUp 4 start (by omega), hlt, dvd_alignUp 4 start, hvector⟩

/-- A distance leads forward to the vector that has been laid out for it. -/
theorem leadsToVector_of_holds {count elementSize : Nat} {elements : Bytes}
    (hforward : position < start)
    (hdistance : Holds buffer position
      (Tree.u32 ((Tree.placeVector start count elements).target - position)))
    (h : Holds buffer start (Tree.placeVector start count elements).octets)
    (hcount : count * elementSize ≤ elements.length) (hsize : 0 < elementSize) :
    LeadsToVector buffer position elementSize count := by
  obtain ⟨hle, hinside, hvector⟩ := alignedVector_of_holds hsmall h hcount hsize
  exact ⟨_, leadsForward_of_holds hsmall (by omega) hinside hdistance, hvector⟩

/-- A distance leads forward to the vector of distances that has been laid out for it, and these
    lead forward to the elements that have been laid out after them. -/
theorem leadsToEach_of_holds {α : Type} {place : α → Nat → Placement} {elements : List α}
    {Right : α → Nat → Prop} (hforward : position < start)
    (hdistance : Holds buffer position (Tree.u32 ((Tree.placeDistances start
      (Tree.placeEach place elements (Tree.afterDistances start elements.length))).target -
        position)))
    (h : Holds buffer start (Tree.placeDistances start
      (Tree.placeEach place elements (Tree.afterDistances start elements.length))).octets)
    (hinside : ∀ a ∈ elements, ∀ start, Holds buffer start (place a start).octets →
      start ≤ (place a start).target ∧ (place a start).target < buffer.length)
    (hright : ∀ a ∈ elements, ∀ start, Holds buffer start (place a start).octets →
      Right a (place a start).target) :
    LeadsToEach buffer position elements Right := by
  let placed := Tree.placeEach place elements (Tree.afterDistances start elements.length)
  have hcount : placed.targets.length = elements.length := Tree.length_targets_placeEach ..
  obtain ⟨⟨hlt, hvector⟩, -, -⟩ := TableView.follow_of_placeDistances placed hsmall h
  rw [hcount] at hvector
  have hle : start ≤ (Tree.placeDistances start placed).target := le_alignUp 4 start (by omega)
  refine ⟨(Tree.placeDistances start placed).target,
    leadsForward_of_holds hsmall (by omega) hlt hdistance, ⟨dvd_alignUp 4 start, hvector⟩,
    fun i a ha => ?_⟩
  have hmem := List.mem_of_getElem? ha
  obtain ⟨start', hafter, hheld, -, hfollow⟩ :=
    TableView.follow_of_placeEach hsmall h hinside ha
  obtain ⟨hle', hlt'⟩ := hinside a hmem start' hheld
  -- The distances themselves end where the first element is laid out.
  have hi := (List.getElem?_eq_some_iff.mp ha).1
  have hend : (Tree.placeDistances start placed).target + 4 + 4 * elements.length =
      Tree.afterDistances start elements.length := rfl
  exact ⟨_, ⟨hfollow, by omega, hlt'⟩, hright a hmem start' hheld⟩

/-- A field stands where its table holds it, if what it refers to has been laid out after it. -/
theorem stands_of_holds (value : FieldValue) (hforward : position < start)
    (hinline : Holds buffer position
      (Tree.inlineOctets position (Tree.placeValue value start).target value))
    (hplaced : Holds buffer start (Tree.placeValue value start).octets) :
    value.Stands buffer position := by
  cases value with
  | u8 | i16 | i32 | u64 => exact hinline
  | bytes value =>
    exact leadsToVector_of_holds hsmall hforward hinline hplaced (by omega) (by omega)
  | text value =>
    exact leadsToVector_of_holds hsmall hforward hinline hplaced
      (by rw [List.length_append]; omega) (by omega)
  | i32s values =>
    have hlength : (values.map fun value =>
        littleEndian 4 value.toUInt32.toNat).flatten.length = 4 * _ := length_flatten (by simp)
    rw [List.length_map] at hlength
    exact leadsToVector_of_holds hsmall hforward hinline hplaced
      (by rw [List.flatMap_def, hlength]; omega) (by omega)
  | byteStrings strings =>
    have hstring : ∀ (string : Bytes) (start : Nat),
        Holds buffer start (Tree.placeString string start).octets →
          (start ≤ (Tree.placeString string start).target ∧
            (Tree.placeString string start).target < buffer.length) ∧
            AlignedVector buffer (Tree.placeString string start).target 1 string.length := by
      intro string start h
      have hlength : string.length * 1 ≤ (string ++ [0]).length := by
        rw [List.length_append]; omega
      obtain ⟨hle, hlt, hvector⟩ := alignedVector_of_holds hsmall h hlength (by omega)
      exact ⟨⟨hle, hlt⟩, hvector⟩
    rw [Tree.placeValue, Tree.placeStrings_eq] at hinline hplaced
    exact leadsToEach_of_holds hsmall hforward hinline hplaced
      (fun string _ start h => (hstring string start h).1)
      (fun string _ start h => (hstring string start h).2)
  | table child =>
    obtain ⟨hle, hlt⟩ := placeTable_le_lt hplaced
    exact ⟨_, leadsForward_of_holds hsmall (Nat.lt_of_lt_of_le hforward hle) hlt hinline⟩
  | tables children =>
    rw [Tree.placeValue, Tree.placeTables_eq] at hinline hplaced
    exact leadsToEach_of_holds hsmall hforward hinline hplaced
      (fun _ _ _ h => placeTable_le_lt h) (fun _ _ _ _ => trivial)

end

/-! ## Tables -/

theorem LeadsForward.unique {buffer : Bytes} {position target target' : Nat}
    (h : LeadsForward buffer position target)
    (hfollow : TableView.follow buffer position = .ok target') : target = target' :=
  Except.ok.inj (h.follow_eq.symm.trans hfollow)

/-- A tree has been laid out in a buffer, with its table at a position. -/
def Placed (buffer : Bytes) (tree : Tree) (position : Nat) : Prop :=
  ∃ cursor, (Tree.placeTable tree cursor (Tree.placeFields tree)).target = position ∧
    Holds buffer cursor (Tree.placeTable tree cursor (Tree.placeFields tree)).octets

namespace Placed

variable {buffer : Bytes} {tree child : Tree} {position target : Nat}

/-- A field stands in its table, and what it refers to behind it. -/
theorem exists_of_mem (h : Placed buffer tree position) {value : FieldValue} {offset : Nat}
    (hmem : (value, offset) ∈ Tree.placedFields tree) :
    ∃ start, position + offset < start ∧
      Holds buffer (position + offset)
        (Tree.inlineOctets (position + offset) (Tree.placeValue value start).target value) ∧
      Holds buffer start (Tree.placeValue value start).octets := by
  obtain ⟨cursor, rfl, h⟩ := h
  obtain ⟨i, slot, hfield, hoffset⟩ := Tree.mem_placedFields hmem
  obtain ⟨start, hstart, hinline, hheld⟩ := Tree.holds_placedField h hfield hoffset
  have hsize : offset + value.width ≤ _ := Tree.fieldOffset_le hfield hoffset
  have hwidth := value.width_cases
  exact ⟨start, by omega, hinline, hheld⟩

variable (hsmall : buffer.length < 2 ^ 32)

include hsmall

/-- A table that has been laid out is in order. -/
theorem tableInOrder (hfits : tree.Fits) (h : Placed buffer tree position) :
    TableInOrder buffer tree position := by
  have ⟨cursor, hposition, hheld⟩ := h
  have haligned : 8 ∣ position := by
    rw [← hposition]
    exact dvd_alignUp 8 _
  obtain ⟨⟨hle, -⟩, -, -, -⟩ := Tree.holds_placeTable hheld
  have hinside := Tree.placeTable_inside hheld
  have hview := TableView.ofPosition_of_holds hfits hheld
  rw [Tree.length_fieldList] at hle
  rw [hposition] at hle hinside hview
  refine ⟨haligned, hinside, ⟨_, hview, dvd_alignUp 2 cursor, rfl, hle⟩, ?_,
    Tree.pairwise_placedFields tree⟩
  rintro ⟨value, offset⟩ hmem
  obtain ⟨i, slot, hfield, hoffset⟩ := Tree.mem_placedFields hmem
  obtain ⟨start, hforward, hinline, hheld⟩ := h.exists_of_mem hmem
  exact {
    aligned := Nat.dvd_add (Nat.dvd_trans (Tree.width_dvd_eight value) haligned)
      (Tree.width_dvd_fieldOffset hfield hoffset)
    behind := Tree.four_le_fieldOffset hfield hoffset
    inside := Tree.fieldOffset_le hfield hoffset
    stands := stands_of_holds hsmall value hforward hinline hheld }

/-- What a table that has been laid out refers to has been laid out. -/
theorem refersTo (h : Placed buffer tree position)
    (hrefers : RefersTo buffer tree position child target) : Placed buffer child target := by
  cases hrefers with
  | table hfield hfollow =>
    obtain ⟨start, hforward, hinline, hheld⟩ := h.exists_of_mem hfield
    obtain ⟨hle, hlt⟩ := placeTable_le_lt hheld
    have hleads := leadsForward_of_holds hsmall (Nat.lt_of_lt_of_le hforward hle) hlt hinline
    exact ⟨start, hleads.unique hfollow, hheld⟩
  | element hfield hvector hchild hfollow =>
    obtain ⟨start, hforward, hinline, hheld⟩ := h.exists_of_mem hfield
    rw [Tree.placeValue, Tree.placeTables_eq] at hinline hheld
    have heach : LeadsToEach buffer _ _ (Placed buffer) := leadsToEach_of_holds hsmall hforward
      hinline hheld (fun _ _ _ h => placeTable_le_lt h) fun _ _ start h => ⟨start, rfl, h⟩
    obtain ⟨vector, hleads, -, heach⟩ := heach
    obtain rfl := hleads.unique hvector
    obtain ⟨target, hleads', hplaced⟩ := heach _ _ hchild
    rwa [← hleads'.unique hfollow]

end Placed

/-- A table that a table refers to is within it. -/
theorem RefersTo.within {buffer : Bytes} {tree child : Tree} {position target : Nat}
    (h : RefersTo buffer tree position child target) {sub : Tree} (hsub : Tree.Within sub child) :
    Tree.Within sub tree := by
  cases h with
  | table hfield _ =>
    obtain ⟨i, slot, hfield, -⟩ := Tree.mem_placedFields hfield
    exact .table (List.mem_of_getElem? hfield) hsub
  | element hfield _ hchild _ =>
    obtain ⟨i, slot, hfield, -⟩ := Tree.mem_placedFields hfield
    exact .tables (List.mem_of_getElem? hfield) (List.mem_of_getElem? hchild) hsub

/-- Every table that stands in a buffer has been laid out there, and is within the root. -/
theorem StandsIn.placed {buffer : Bytes} {root tree : Tree} {start position : Nat}
    (hsmall : buffer.length < 2 ^ 32) (hroot : Placed buffer root start)
    (h : StandsIn buffer root start tree position) :
    Placed buffer tree position ∧ ∀ sub, Tree.Within sub tree → Tree.Within sub root := by
  induction h with
  | root => exact ⟨hroot, fun _ h => h⟩
  | inner _ hrefers ih =>
    exact ⟨ih.1.refersTo hsmall hrefers, fun sub hsub => ih.2 sub (hrefers.within hsub)⟩

/-- Where all tables are in order, every table of a tree stands in the buffer. -/
theorem StandsIn.exists_of_within {buffer : Bytes} {root tree sub : Tree} {start position : Nat}
    (hinOrder : ∀ tree position, StandsIn buffer root start tree position →
      TableInOrder buffer tree position)
    (h : StandsIn buffer root start tree position) (hsub : Tree.Within sub tree) :
    ∃ position', StandsIn buffer root start sub position' := by
  induction hsub generalizing position with
  | self => exact ⟨position, h⟩
  | table hfield _ ih =>
    obtain ⟨offset, hmem⟩ := Tree.exists_placedField hfield
    obtain ⟨target, hleads⟩ := ((hinOrder _ _ h).fields _ hmem).stands
    exact ih (.inner h (.table hmem hleads.follow_eq))
  | tables hfield hchild _ ih =>
    obtain ⟨offset, hmem⟩ := Tree.exists_placedField hfield
    obtain ⟨vector, hvector, -, heach⟩ := ((hinOrder _ _ h).fields _ hmem).stands
    obtain ⟨i, hi⟩ := List.mem_iff_getElem?.mp hchild
    obtain ⟨target, hleads, -⟩ := heach i _ hi
    exact ih (.inner h (.element hmem hvector.follow_eq hi hleads.follow_eq))

/-- The root table of an encoded tree has been laid out where the first distance leads. -/
theorem placed_encode (tree : Tree) (identifier : Bytes)
    (hsmall : (tree.encode identifier).length < 2 ^ 32) :
    ∃ start, LeadsForward (tree.encode identifier) 0 start ∧
      Placed (tree.encode identifier) tree start := by
  obtain ⟨htarget, hplaced⟩ := Tree.holds_encode tree identifier
  obtain ⟨hle, hlt⟩ := placeTable_le_lt hplaced
  exact ⟨_, leadsForward_of_holds hsmall (by omega) hlt htarget, 8, rfl, hplaced⟩

/-! ## Main theorem -/

/-- **Every table of an encoded tree is in order.** The first distance of the buffer leads forward
    to the root table, and from there distances lead to every table of the tree. Each table that
    they lead to is aligned, has its field list before it, its fields aligned and apart, and refers
    forward to aligned vectors and to tables. -/
theorem tablesInOrder_encode (tree : Tree) (identifier : Bytes)
    (hslots : ∀ sub, Tree.Within sub tree → ∀ field ∈ sub, field.1 ≤ 32764)
    (hinline : ∀ sub, Tree.Within sub tree → Tree.fieldsEnd sub ≤ 65535)
    (hsmall : (tree.encode identifier).length < 2 ^ 32) :
    let buffer := tree.encode identifier
    ∃ start, LeadsForward buffer 0 start ∧
      (∀ sub, Tree.Within sub tree → ∃ position, StandsIn buffer tree start sub position) ∧
      ∀ sub position, StandsIn buffer tree start sub position →
        TableInOrder buffer sub position := by
  intro buffer
  obtain ⟨start, hleads, hroot⟩ := placed_encode tree identifier hsmall
  have hinOrder : ∀ sub position, StandsIn buffer tree start sub position →
      TableInOrder buffer sub position := by
    intro sub position hstands
    obtain ⟨hplaced, hwithin⟩ := hstands.placed hsmall hroot
    have hsub := hwithin sub .self
    exact hplaced.tableInOrder hsmall (Tree.fits_of_limits (hslots sub hsub) (hinline sub hsub))
  exact ⟨start, hleads, fun sub hsub => StandsIn.exists_of_within hinOrder .root hsub, hinOrder⟩

/-- A tree with fields of every width, and a slot that two of them have: the table of the first one
    is in the buffer, although the field list does not lead to it. -/
theorem tablesInOrder_hiddenTable :
    let hidden : Tree := [(1, .i16 (-5)), (0, .u8 3)]
    let tree : Tree := [(0, .u8 7), (2, .table hidden), (1, .u64 9), (2, .text "ab"),
      (4, .byteStrings [[1], []])]
    let buffer := tree.encode []
    (∀ sub, Tree.Within sub tree → ∀ field ∈ sub, field.1 ≤ 32764) ∧
      (∀ sub, Tree.Within sub tree → Tree.fieldsEnd sub ≤ 65535) ∧ buffer.length < 2 ^ 32 ∧
      Tree.fieldOffsets tree = [28, 16, 8, 20, 24] ∧
      ∃ start position, LeadsForward buffer 0 start ∧ TableInOrder buffer tree start ∧
        LeadsForward buffer (start + 16) position ∧ TableInOrder buffer hidden position := by
  intro hidden tree buffer
  have hhidden : ∀ sub, Tree.Within sub hidden → sub = hidden := by
    rintro sub (_ | ⟨hfield, h⟩ | ⟨hfield, hchild, h⟩)
    · rfl
    · simp [hidden] at hfield
    · simp [hidden] at hfield
  have htree : ∀ sub, Tree.Within sub tree → sub ∈ [tree, hidden] := by
    rintro sub (_ | ⟨hfield, h⟩ | ⟨hfield, hchild, h⟩)
    · exact List.mem_cons_self
    · obtain ⟨-, rfl⟩ : _ ∧ _ = hidden := by simpa [tree] using hfield
      rw [hhidden sub h]
      exact List.mem_cons_of_mem _ List.mem_cons_self
    · simp [tree] at hfield
  have hlimits : ∀ sub ∈ [tree, hidden],
      (∀ field ∈ sub, field.1 ≤ 32764) ∧ Tree.fieldsEnd sub ≤ 65535 := by decide
  have hslots : ∀ sub, Tree.Within sub tree → ∀ field ∈ sub, field.1 ≤ 32764 :=
    fun sub h => (hlimits sub (htree sub h)).1
  have hinline : ∀ sub, Tree.Within sub tree → Tree.fieldsEnd sub ≤ 65535 :=
    fun sub h => (hlimits sub (htree sub h)).2
  have hsmall : buffer.length < 2 ^ 32 := by decide +kernel
  obtain ⟨start, hleads, -, hinOrder⟩ := tablesInOrder_encode tree [] hslots hinline hsmall
  have hroot := hinOrder tree start .root
  have hmem : (FieldValue.table hidden, 16) ∈ Tree.placedFields tree :=
    List.mem_of_getElem? (show (Tree.placedFields tree)[1]? = _ from rfl)
  obtain ⟨position, hforward⟩ := (hroot.fields _ hmem).stands
  exact ⟨hslots, hinline, hsmall, by decide, start, position, hleads, hroot, hforward,
    hinOrder hidden position (.inner .root (.table hmem hforward.follow_eq))⟩

end TensorLink

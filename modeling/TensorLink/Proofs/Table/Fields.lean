import Mathlib.Data.List.Fold
import Mathlib.Data.List.MinMax
import Mathlib.Order.Nat
import TensorLink.Proofs.Octets
import TensorLink.Table.Tree

/-!
# The fields of a table

The fields of a table lie apart from each other and from the distance to the field list, so that
every field is found where the table has put it; and the field list leads from a slot to the last
field that has it.

Results:
* `fieldOffset_le`, `fieldOffset_apart`: fields lie inside their table, and apart.
* `holds_tableOctets`: a table holds every field at its place.
* `slotOffset_of_value`, `slotOffset_of_none`: where the field list leads.
-/

namespace TensorLink

open Bytes

theorem Bytes.le_alignUp (alignment value : Nat) (h : 0 < alignment) :
    value ≤ alignUp alignment value := by
  have := Nat.div_add_mod (value + (alignment - 1)) alignment
  have := Nat.mod_lt (value + (alignment - 1)) h
  rw [alignUp, Nat.mul_comm]
  omega

theorem Bytes.alignUp_lt (alignment value : Nat) (h : 0 < alignment) :
    alignUp alignment value < value + alignment := by
  have := Nat.div_mul_le_self (value + (alignment - 1)) alignment
  rw [alignUp]
  omega

theorem Bytes.dvd_alignUp (alignment value : Nat) : alignment ∣ alignUp alignment value :=
  Nat.dvd_mul_left ..

theorem FieldValue.width_cases (value : FieldValue) :
    value.width = 1 ∨ value.width = 2 ∨ value.width = 4 ∨ value.width = 8 := by
  cases value <;> simp [FieldValue.width]

namespace Tree

/-! ## Places inside a table -/

theorem getElem?_offsetsFrom {widths seen rest : List Nat} {i width : Nat}
    (h : rest[i]? = some width) :
    (offsetsFrom widths seen rest)[i]? =
      some (widthStart widths width + width * (seen.count width + (rest.take i).count width)) := by
  induction rest generalizing seen i with
  | nil => simp at h
  | cons first rest ih =>
    cases i with
    | zero =>
      obtain rfl : first = width := by simpa using h
      simp [offsetsFrom]
    | succ i =>
      have hrest : rest[i]? = some width := by simpa using h
      rw [offsetsFrom, List.getElem?_cons_succ, ih hrest, List.take_succ_cons, List.count_cons,
        List.count_cons]
      congr 3
      omega

/-- Where the fields of a width end. -/
def widthEnd (widths : List Nat) (width : Nat) : Nat :=
  widthStart widths width + width * widths.count width

theorem widthStart_four (widths : List Nat) : widthStart widths 4 =
    if widths.count 8 = 0 then 4 else 8 + 8 * widths.count 8 := rfl

theorem widthStart_two (widths : List Nat) :
    widthStart widths 2 = widthStart widths 4 + 4 * widths.count 4 := rfl

theorem widthStart_one (widths : List Nat) :
    widthStart widths 1 = widthStart widths 2 + 2 * widths.count 2 := rfl

/-- Wider fields end before narrower ones start. -/
theorem widthEnd_le_widthStart {widths : List Nat} {width width' : Nat}
    (hwidth : width = 1 ∨ width = 2 ∨ width = 4 ∨ width = 8)
    (hwidth' : width' = 1 ∨ width' = 2 ∨ width' = 4 ∨ width' = 8) (hlt : width' < width)
    (hmem : 0 < widths.count width) : widthEnd widths width ≤ widthStart widths width' := by
  have hone := widthStart_one widths
  have htwo := widthStart_two widths
  have hfour := widthStart_four widths
  have height : widthStart widths 8 = 8 := rfl
  unfold widthEnd
  rcases hwidth with rfl | rfl | rfl | rfl <;> rcases hwidth' with rfl | rfl | rfl | rfl <;>
    split at hfour <;> omega

theorem widthEnd_le_end {widths : List Nat} {width : Nat}
    (hwidth : width = 1 ∨ width = 2 ∨ width = 4 ∨ width = 8) (hmem : 0 < widths.count width) :
    widthEnd widths width ≤ widthStart widths 1 + widths.count 1 := by
  rcases hwidth with rfl | hwidth
  · simp [widthEnd]
  · have hle : widthEnd widths width ≤ widthStart widths 1 :=
      widthEnd_le_widthStart (.inr hwidth) (.inl rfl) (by omega) hmem
    omega

theorem four_le_widthStart (widths : List Nat) (width : Nat) : 4 ≤ widthStart widths width := by
  have hfour : 4 ≤ widthStart widths 4 := by
    rw [widthStart_four]
    split <;> omega
  have htwo := widthStart_two widths
  have hone := widthStart_one widths
  have hcases : widthStart widths width = 8 ∨ widthStart widths width = widthStart widths 4 ∨
      widthStart widths width = widthStart widths 2 ∨
      widthStart widths width = widthStart widths 1 := by
    by_cases h8 : width = 8
    · exact .inl (by rw [h8]; rfl)
    · by_cases h4 : width = 4
      · exact .inr (.inl (by rw [h4]))
      · by_cases h2 : width = 2
        · exact .inr (.inr (.inl (by rw [h2])))
        · refine .inr (.inr (.inr ?_))
          simp only [widthStart, h8, h4, h2, if_false]
          rfl
  omega

/-- Where the fields of a table end: the octets that the distance to the field list and the fields
    take, without the zeros that fill the table up. -/
def fieldsEnd (tree : Tree) : Nat :=
  widthStart (tree.map (·.2.width)) 1 + (tree.map (·.2.width)).count 1

theorem fieldsEnd_le_tableSize (tree : Tree) : fieldsEnd tree ≤ tableSize tree :=
  le_alignUp 4 (fieldsEnd tree) (by omega)

theorem four_le_tableSize (tree : Tree) : 4 ≤ tableSize tree := by
  have hstart := four_le_widthStart (tree.map (·.2.width)) 1
  have hsize := fieldsEnd_le_tableSize tree
  unfold fieldsEnd at hsize
  omega

theorem count_widths_le (widths : List Nat) :
    widths.count 1 + widths.count 2 + widths.count 4 + widths.count 8 ≤ widths.length := by
  induction widths with
  | nil => decide
  | cons width rest ih =>
    have hcount : ∀ n, (width :: rest).count n = rest.count n + if width = n then 1 else 0 := by
      intro n
      simp [List.count_cons]
    rw [hcount, hcount, hcount, hcount, List.length_cons]
    split_ifs <;> omega

theorem tableSize_le (tree : Tree) : tableSize tree ≤ 8 * tree.length + 12 := by
  have halign := alignUp_lt 4
    (widthStart (tree.map (·.2.width)) 1 + (tree.map (·.2.width)).count 1) (by omega)
  have hcount := count_widths_le (tree.map (·.2.width))
  have hone := widthStart_one (tree.map (·.2.width))
  have htwo := widthStart_two (tree.map (·.2.width))
  have hfour := widthStart_four (tree.map (·.2.width))
  rw [List.length_map] at hcount
  unfold tableSize
  dsimp only
  split at hfour <;> omega

section

variable {tree : Tree} {i j offset offset' : Nat} {field field' : Nat × FieldValue}

/-- Where a field stands: after the fields of its width that come before it. -/
theorem fieldOffset_eq (hfield : tree[i]? = some field)
    (hoffset : (fieldOffsets tree)[i]? = some offset) :
    offset = widthStart (tree.map (·.2.width)) field.2.width +
      field.2.width * ((tree.map (·.2.width)).take i).count field.2.width := by
  have hwidth : (tree.map (·.2.width))[i]? = some field.2.width := by
    rw [List.getElem?_map, hfield, Option.map_some]
  rw [fieldOffsets, getElem?_offsetsFrom hwidth, List.count_nil, Nat.zero_add] at hoffset
  exact (Option.some.inj hoffset).symm

theorem count_take_lt {l : List Nat} {n : Nat} (hi : l[i]? = some n) (hij : i < j) :
    (l.take i).count n < (l.take j).count n := by
  have hsucc : (l.take (i + 1)).count n = (l.take i).count n + 1 := by
    rw [List.take_add_one, hi, List.count_append]
    simp
  have hle : (l.take (i + 1)).count n ≤ (l.take j).count n :=
    (List.take_sublist_take_left (by omega)).count_le n
  omega

/-- A field ends where the fields of its width end, or before. -/
theorem fieldOffset_le_widthEnd (hfield : tree[i]? = some field)
    (hoffset : (fieldOffsets tree)[i]? = some offset) :
    offset + field.2.width ≤ widthEnd (tree.map (·.2.width)) field.2.width ∧
      0 < (tree.map (·.2.width)).count field.2.width := by
  have hwidth : (tree.map (·.2.width))[i]? = some field.2.width := by
    rw [List.getElem?_map, hfield, Option.map_some]
  have hlt := count_take_lt hwidth (List.getElem?_eq_some_iff.mp hwidth).1
  rw [List.take_length] at hlt
  have hmul := Nat.mul_le_mul_left field.2.width hlt
  rw [Nat.mul_succ] at hmul
  rw [fieldOffset_eq hfield hoffset, widthEnd]
  omega

theorem four_le_fieldOffset (hfield : tree[i]? = some field)
    (hoffset : (fieldOffsets tree)[i]? = some offset) : 4 ≤ offset := by
  have := four_le_widthStart (tree.map (·.2.width)) field.2.width
  rw [fieldOffset_eq hfield hoffset]
  omega

/-- A field ends where the fields of its table end, or before. -/
theorem fieldOffset_le_fieldsEnd (hfield : tree[i]? = some field)
    (hoffset : (fieldOffsets tree)[i]? = some offset) :
    offset + field.2.width ≤ fieldsEnd tree := by
  obtain ⟨hle, hmem⟩ := fieldOffset_le_widthEnd hfield hoffset
  exact Nat.le_trans hle (widthEnd_le_end field.2.width_cases hmem)

/-- A field lies inside its table. -/
theorem fieldOffset_le (hfield : tree[i]? = some field)
    (hoffset : (fieldOffsets tree)[i]? = some offset) :
    offset + field.2.width ≤ tableSize tree :=
  Nat.le_trans (fieldOffset_le_fieldsEnd hfield hoffset) (fieldsEnd_le_tableSize tree)

/-- Two fields of a table lie apart. -/
theorem fieldOffset_apart (hij : i < j) (hfield : tree[i]? = some field)
    (hoffset : (fieldOffsets tree)[i]? = some offset) (hfield' : tree[j]? = some field')
    (hoffset' : (fieldOffsets tree)[j]? = some offset') :
    offset + field.2.width ≤ offset' ∨ offset' + field'.2.width ≤ offset := by
  obtain ⟨hle, hmem⟩ := fieldOffset_le_widthEnd hfield hoffset
  obtain ⟨hle', hmem'⟩ := fieldOffset_le_widthEnd hfield' hoffset'
  have hstart : widthStart (tree.map (·.2.width)) field.2.width ≤ offset := by
    rw [fieldOffset_eq hfield hoffset]; omega
  have hstart' : widthStart (tree.map (·.2.width)) field'.2.width ≤ offset' := by
    rw [fieldOffset_eq hfield' hoffset']; omega
  rcases Nat.lt_trichotomy field.2.width field'.2.width with hlt | heq | hlt
  · have := widthEnd_le_widthStart field'.2.width_cases field.2.width_cases hlt hmem'
    omega
  · -- Fields of one width stand in the order of the tree.
    have hwidth : (tree.map (·.2.width))[i]? = some field.2.width := by
      rw [List.getElem?_map, hfield, Option.map_some]
    have hmul := Nat.mul_le_mul_left field.2.width (count_take_lt hwidth hij)
    rw [Nat.mul_succ] at hmul
    rw [fieldOffset_eq hfield hoffset, fieldOffset_eq hfield' hoffset', ← heq]
    omega
  · have := widthEnd_le_widthStart field.2.width_cases field'.2.width_cases hlt hmem
    omega

end

/-! ## Writing a table -/

theorem length_u16 (value : Nat) : (u16 value).length = 2 := length_littleEndian 2 _

theorem length_u32 (value : Nat) : (u32 value).length = 4 := length_littleEndian 4 _

theorem length_inlineOctets (position target : Nat) (value : FieldValue) :
    (inlineOctets position target value).length = value.width := by
  cases value <;> simp [inlineOctets, FieldValue.width, length_u32]

/-- What a table is made of: strings of octets that are written at given places. -/
theorem holds_writes (writes : List (Nat × Bytes)) (start : Bytes)
    (hinside : ∀ write ∈ writes, write.1 + write.2.length ≤ start.length)
    (hapart : writes.Pairwise fun write write' =>
      write.1 + write.2.length ≤ write'.1 ∨ write'.1 + write'.2.length ≤ write.1) :
    let done := writes.foldl (fun octets write => octets.overwrite write.1 write.2) start
    done.length = start.length ∧ (∀ write ∈ writes, Holds done write.1 write.2) ∧
      ∀ position part, Holds start position part →
        (∀ write ∈ writes, position + part.length ≤ write.1 ∨
          write.1 + write.2.length ≤ position) → Holds done position part := by
  induction writes generalizing start with
  | nil => exact ⟨rfl, by simp, fun _ _ h _ => h⟩
  | cons first rest ih =>
    obtain ⟨hfirst, hrest⟩ := List.pairwise_cons.mp hapart
    have hlen := length_overwrite (hinside first List.mem_cons_self)
    obtain ⟨hdone, hheld, hkept⟩ := ih (start.overwrite first.1 first.2)
      (fun write hmem => by rw [hlen]; exact hinside write (List.mem_cons_of_mem _ hmem)) hrest
    refine ⟨hdone.trans hlen, ?_, fun position part h happ => ?_⟩
    · rintro write (_ | ⟨_, hmem⟩)
      · exact hkept _ _ (holds_overwrite (hinside first List.mem_cons_self)) hfirst
      · exact hheld write hmem
    · refine hkept _ _ (h.overwrite (hinside first List.mem_cons_self) ?_) fun write hmem =>
        happ write (List.mem_cons_of_mem _ hmem)
      exact happ first List.mem_cons_self

/-- A table holds the distance to its field list, and every field at its place. -/
theorem holds_tableOctets (tree : Tree) (position distance : Nat) (targets : List Nat) :
    let octets := tableOctets tree position distance targets
    octets.length = tableSize tree ∧ Holds octets 0 (littleEndian 4 (min distance 0x7FFFFFFF)) ∧
      ∀ (i : Nat) (field : Nat × FieldValue) (offset target : Nat), tree[i]? = some field →
        (fieldOffsets tree)[i]? = some offset → targets[i]? = some target →
        Holds octets offset (inlineOctets (position + offset) target field.2) := by
  intro octets
  -- The places of the fields, with what is written there.
  let places := (tree.map (·.2)).zip ((fieldOffsets tree).zip targets)
  let write : FieldValue × Nat × Nat → Nat × Bytes := fun place =>
    (place.2.1, inlineOctets (position + place.2.1) place.2.2 place.1)
  have hplace : ∀ (i : Nat) (place : FieldValue × Nat × Nat), places[i]? = some place →
      ∃ field, tree[i]? = some field ∧ field.2 = place.1 ∧
        (fieldOffsets tree)[i]? = some place.2.1 := by
    intro i ⟨value, offset, target⟩ h
    obtain ⟨hvalue, hpair⟩ := List.getElem?_zip_eq_some.mp h
    obtain ⟨hoffset, -⟩ := List.getElem?_zip_eq_some.mp hpair
    rw [List.getElem?_map] at hvalue
    obtain ⟨field, hfield, hvalue⟩ := Option.map_eq_some_iff.mp hvalue
    exact ⟨field, hfield, hvalue, hoffset⟩
  have hsize := four_le_tableSize tree
  have hstart : (littleEndian 4 (min distance 0x7FFFFFFF) ++ zeros (tableSize tree - 4)).length =
      tableSize tree := by
    rw [List.length_append, length_littleEndian, length_zeros]; omega
  have hlength : ∀ place, (write place).2.length = place.1.width := fun place =>
    length_inlineOctets ..
  obtain ⟨hdone, hheld, hkept⟩ := holds_writes (places.map write)
    (littleEndian 4 (min distance 0x7FFFFFFF) ++ zeros (tableSize tree - 4)) (by
      intro w hmem
      obtain ⟨place, hplaces, rfl⟩ := List.mem_map.mp hmem
      obtain ⟨i, hi⟩ := List.mem_iff_getElem?.mp hplaces
      obtain ⟨field, hfield, hvalue, hoffset⟩ := hplace i place hi
      have := fieldOffset_le hfield hoffset
      rw [hlength, hstart, ← hvalue]
      exact this)
    (by
      rw [List.pairwise_map, List.pairwise_iff_getElem]
      intro i j hi hj hij
      obtain ⟨field, hfield, hvalue, hoffset⟩ := hplace i _ (List.getElem?_eq_getElem hi)
      obtain ⟨field', hfield', hvalue', hoffset'⟩ := hplace j _ (List.getElem?_eq_getElem hj)
      have := fieldOffset_apart hij hfield hoffset hfield' hoffset'
      rw [hlength, hlength, ← hvalue, ← hvalue']
      exact this)
  rw [List.foldl_map] at hdone hheld hkept
  refine ⟨hdone.trans hstart, hkept 0 _ (holds_self _).left ?_, ?_⟩
  · intro w hmem
    obtain ⟨place, hplaces, rfl⟩ := List.mem_map.mp hmem
    obtain ⟨i, hi⟩ := List.mem_iff_getElem?.mp hplaces
    obtain ⟨field, hfield, -, hoffset⟩ := hplace i place hi
    have := four_le_fieldOffset hfield hoffset
    exact .inl (by rw [length_littleEndian]; exact this)
  · intro i field offset target hfield hoffset htarget
    have hi : places[i]? = some (field.2, offset, target) :=
      List.getElem?_zip_eq_some.mpr ⟨by rw [List.getElem?_map, hfield]; rfl,
        List.getElem?_zip_eq_some.mpr ⟨hoffset, htarget⟩⟩
    exact hheld _ (List.mem_map.mpr ⟨_, List.mem_of_getElem? hi, rfl⟩)

/-! ## Slots -/

/-- The value in a slot: that of the last field that has it. -/
def value? (tree : Tree) (slot : Nat) : Option FieldValue :=
  (tree.reverse.find? (·.1 == slot)).map (·.2)

theorem lt_slotCount {tree : Tree} {field : Nat × FieldValue} (h : field ∈ tree) :
    field.1 < slotCount tree := by
  have hmem : field.1 + 1 ∈ tree.map fun field => field.1 + 1 := List.mem_map.mpr ⟨field, h, rfl⟩
  rw [slotCount, List.foldl_eq_foldr]
  exact List.le_max_of_le' 0 hmem (Nat.le_refl _)

theorem slotCount_le {tree : Tree} {bound : Nat} (h : ∀ field ∈ tree, field.1 < bound) :
    slotCount tree ≤ bound := by
  rw [slotCount, List.foldl_eq_foldr]
  refine List.max_le_of_forall_le (tree.map fun field => field.1 + 1) bound fun slots hmem => ?_
  obtain ⟨field, hfield, rfl⟩ := List.mem_map.mp hmem
  exact h field hfield

/-- The field list leads to the last field with a slot. -/
theorem slotOffset_eq (tree : Tree) (slot : Nat) :
    slotOffset tree slot =
      (((tree.zip (fieldOffsets tree)).reverse.find? (·.1.1 == slot)).map (·.2)).getD 0 := by
  unfold slotOffset
  dsimp only
  rw [List.zip_map_left, List.filter_map, List.getLast?_map, List.getLast?_eq_head?_reverse,
    ← List.filter_reverse, List.head?_filter, Option.map_map]
  congr 2

theorem value?_eq (tree : Tree) (slot : Nat) :
    value? tree slot =
      ((tree.zip (fieldOffsets tree)).reverse.find? (·.1.1 == slot)).map (·.1.2) := by
  have hfst : tree = (tree.zip (fieldOffsets tree)).map (·.1) :=
    (List.map_fst_zip (by rw [length_fieldOffsets])).symm
  rw [value?]
  conv_lhs => rw [hfst]
  rw [← List.map_reverse, List.find?_map, Option.map_map]
  rfl

theorem slotOffset_of_none {tree : Tree} {slot : Nat} (h : value? tree slot = none) :
    slotOffset tree slot = 0 := by
  rw [value?_eq, Option.map_eq_none_iff] at h
  rw [slotOffset_eq, h]
  rfl

theorem slotOffset_of_value {tree : Tree} {slot : Nat} {value : FieldValue}
    (h : value? tree slot = some value) :
    ∃ i : Nat, tree[i]? = some (slot, value) ∧
      (fieldOffsets tree)[i]? = some (slotOffset tree slot) := by
  rw [value?_eq] at h
  obtain ⟨⟨⟨slot', value'⟩, offset⟩, hfind, hvalue⟩ := Option.map_eq_some_iff.mp h
  obtain rfl : value' = value := hvalue
  have hslot : slot' = slot := by simpa using List.find?_some hfind
  have hmem := List.mem_reverse.mp (List.mem_of_find?_eq_some hfind)
  obtain ⟨i, hi⟩ := List.mem_iff_getElem?.mp hmem
  obtain ⟨hfield, hoffset⟩ := List.getElem?_zip_eq_some.mp hi
  rw [slotOffset_eq, hfind]
  exact ⟨i, by rw [← hslot]; exact hfield, hoffset⟩

end Tree

end TensorLink

import Mathlib.Algebra.Ring.Nat
import Mathlib.Data.List.Pairwise
import TensorLink.Proofs.Octets
import TensorLink.Proofs.Register.Puts
import TensorLink.Register.Layout

/-!
# Register views

A register is declared as runs of bits, each a field or reserved, which are packed from bit 0
upwards. Setting a field of such a register is exact and isolated: it is refused exactly if the
value does not fit, and otherwise the field reads the value, while every other field and every bit
that does not belong to the field stay as they were.

Results:
* `packs_of_mem_all`: every layout is the packing of its declaration.
* `getLsbD_eq_octetBit`, `ofOctets_octetsOf`: a register and its octets, the lowest first.
* `apart_of_ne`, `written_put`: fields of a layout lie apart, so that setting one keeps the others.
* `views_exact_isolated`: what the checked setters of every register do.
-/

namespace TensorLink

/-! ## Specification -/

/-- The declaration of a register: runs of adjacent bits by their widths, from bit 0 upwards, each
    with the name of a field, or reserved. -/
structure Declaration where
  name : String
  runs : List (Option String × Nat)

namespace Declaration

/-- The number of bits that are declared. -/
def bits (declaration : Declaration) : Nat := (declaration.runs.map (·.2)).sum

/-- The names, offsets and widths of the fields among runs that are packed from a bit upwards. -/
def packedFrom : Nat → List (Option String × Nat) → List (String × Nat × Nat)
  | _, [] => []
  | start, (none, width) :: runs => packedFrom (start + width) runs
  | start, (some name, width) :: runs => (name, start, width) :: packedFrom (start + width) runs

/-- The registers as they are declared. -/
def all : List Declaration :=
  [⟨"Omc000", [(some "test_reg0", 8), (none, 8), (some "chip_id", 16)]⟩,
    ⟨"Omc0D0", [(some "adr", 4), (some "clk_en", 1), (none, 3), (some "tref", 4),
      (some "tslope", 4), (some "t_setting", 6), (none, 10)]⟩,
    ⟨"Omc0D8", [(some "enad", 1), (some "envr", 1), (some "enbg", 1), (none, 29)]⟩,
    ⟨"Omc0Dc", [(some "enthmc", 1), (none, 15), (some "data", 10), (none, 6)]⟩,
    ⟨"ScuCtrl0", [(none, 12), (some "rg_pcie_inact_phy_mode", 3),
      (some "rg_usb_inact_phy_mode", 3), (none, 14)]⟩,
    ⟨"ScuCtrl2", [(none, 18), (some "rg_gated_gcb", 2), (none, 12)]⟩,
    ⟨"ScuCtrl3", [(none, 8), (some "cur_pwr_state", 2), (none, 12), (some "rg_force_sleep", 2),
      (none, 2), (some "gcb_clock_rate", 2), (some "axi_clock_rate", 1), (none, 1),
      (some "usb_8051_clock_rate", 1), (none, 1)]⟩,
    ⟨"IdleRegister", [(some "counter", 31), (some "disable_idle", 1), (none, 32)]⟩,
    ⟨"TileConfig", [(some "tile", 7), (none, 57)]⟩,
    ⟨"DeepSleep", [(some "to_sleep_delay", 8), (some "to_wake_delay", 8), (none, 48)]⟩]

end Declaration

/-- A layout is a declaration, packed from bit 0 upwards. -/
structure Layout.Packs (layout : Layout) (declaration : Declaration) : Prop where
  name : layout.name = declaration.name
  bits : layout.bits = declaration.bits
  fields : layout.fields.map (fun field => (field.name, field.offset, field.width)) =
    Declaration.packedFrom 0 declaration.runs

/-- The octets of a register, the lowest first. -/
def octetsOf {n : Nat} (word : BitVec n) : Bytes := Bytes.littleEndian (n / 8) word.toNat

/-- The register that octets spell, the lowest first. -/
def ofOctets (n : Nat) (octets : Bytes) : BitVec n := BitVec.ofNat n (Bytes.ofLittleEndian octets)

/-- A bit of a string of octets: the lowest bit of the first octet is bit 0. -/
def octetBit (octets : Bytes) (bit : Nat) : Bool :=
  (octets.getD (bit / 8) 0).toNat.testBit (bit % 8)

/-- The register after a checked setter, which leaves it alone if it refuses the value. -/
def Field.assign {n : Nat} (field : Field) (value : Nat) (word : BitVec n) : BitVec n :=
  (field.write? value word).getD word

/-- A register with one field set to a value, and otherwise as before. -/
structure Layout.Written (layout : Layout) (field : Field) (value : Nat)
    (word word' : BitVec layout.bits) : Prop where
  read : field.read word' = value
  others : ∀ other ∈ layout.fields, other ≠ field → other.read word' = other.read word
  /-- Reserved bits are among those outside the field. -/
  kept : ∀ bit < layout.bits, ¬field.covers bit → word'.getLsbD bit = word.getLsbD bit

/-! ## Layouts and their declarations -/

theorem packs_of_mem_all : List.Forall₂ Layout.Packs Layout.all Declaration.all := by
  repeat' constructor

/-! ## Octets of a register -/

theorem testBit_ofLittleEndian (octets : Bytes) (bit : Nat) :
    (Bytes.ofLittleEndian octets).testBit bit = octetBit octets bit := by
  induction octets generalizing bit with
  | nil => simp [Bytes.ofLittleEndian, octetBit]
  | cons octet rest ih =>
    rw [Bytes.ofLittleEndian, Nat.add_comm, show (256 : Nat) = 2 ^ 8 from rfl,
      Nat.testBit_two_pow_mul_add _ octet.toNat_lt]
    unfold octetBit
    by_cases hlow : bit < 8
    · rw [if_pos hlow, Nat.div_eq_of_lt hlow, Nat.mod_eq_of_lt hlow]
      rfl
    · obtain ⟨above, rfl⟩ : ∃ above, bit = above + 8 := ⟨bit - 8, by omega⟩
      rw [if_neg hlow, Nat.add_sub_cancel, ih, octetBit, Nat.add_div_right _ (by decide),
        Nat.add_mod_right]
      rfl

theorem ofOctets_octetsOf {n : Nat} (hwhole : 8 ∣ n) (word : BitVec n) :
    ofOctets n (octetsOf word) = word := by
  obtain ⟨count, rfl⟩ := hwhole
  have hpow : Nat.pow 256 count = 2 ^ (8 * count) := by rw [Nat.pow_mul]; rfl
  apply BitVec.eq_of_toNat_eq
  rw [ofOctets, octetsOf, Nat.mul_div_cancel_left _ (by decide), Bytes.ofLittleEndian_littleEndian,
    hpow, Nat.mod_eq_of_lt word.isLt, BitVec.ofNat_toNat, BitVec.setWidth_eq]

theorem getLsbD_eq_octetBit {n : Nat} (hwhole : 8 ∣ n) (word : BitVec n) {bit : Nat}
    (hbit : bit < n) : word.getLsbD bit = octetBit (octetsOf word) bit := by
  calc word.getLsbD bit = (ofOctets n (octetsOf word)).getLsbD bit := by
        rw [ofOctets_octetsOf hwhole]
    _ = octetBit (octetsOf word) bit := by
        rw [ofOctets, BitVec.getLsbD_ofNat, decide_eq_true hbit, Bool.true_and,
          testBit_ofLittleEndian]

/-! ## Setting a field -/

namespace Layout

variable {layout : Layout} {field other : Field}

/-- One of two fields ends before the other begins. -/
def Apart (field other : Field) : Prop :=
  field.offset + field.width ≤ other.offset ∨ other.offset + other.width ≤ field.offset

instance : Std.Symm Apart := ⟨fun _ _ => Or.symm⟩

theorem apart_of_ne (hlayout : layout ∈ all) (hfield : field ∈ layout.fields)
    (hother : other ∈ layout.fields) (hne : field ≠ other) : Apart field other := by
  have hpairs : layout.fields.Pairwise Apart := (disjoint layout hlayout).imp Or.inl
  exact hpairs.forall hfield hother hne

theorem written_put (hlayout : layout ∈ all) (hfield : field ∈ layout.fields) {value : Nat}
    (hvalue : value < field.bound) (word : BitVec layout.bits) :
    layout.Written field value word (field.put value word) where
  read := Field.read_put field word (fits layout hlayout field hfield) hvalue
  others := by
    intro other hother hne
    have hapart := apart_of_ne hlayout hfield hother (Ne.symm hne)
    exact Field.read_put_of_disjoint field other value word (fits layout hlayout other hother)
      (Field.not_covers_of_apart hapart)
  kept := by
    intro bit hbit houtside
    rw [Field.getLsbD_put field value word bit hbit, if_neg houtside]

theorem whole_of_mem_all : ∀ layout ∈ all, 8 ∣ layout.bits := by decide

end Layout

theorem Field.write?_eq_some_iff {n : Nat} {field : Field} {value : Nat} {word word' : BitVec n} :
    field.write? value word = some word' ↔
      value < 2 ^ field.width ∧ field.put value word = word' := by
  unfold write? bound
  split
  · next hvalue => simp [show value < 2 ^ field.width from hvalue]
  · next hvalue => simp [show ¬value < 2 ^ field.width from hvalue]

/-- **The checked setters of every register are exact and isolated.** The layouts are the
    declarations of the registers, packed from bit 0 upwards. Of every register and all that it may
    hold: it is the same after it has been cut into octets and put together again, and the bits of
    the octets are its bits; a field takes exactly the values that have no more bits than it has;
    the field then reads the value, and the other fields and all bits outside are kept; a value that
    is refused changes nothing. -/
theorem views_exact_isolated :
    List.Forall₂ Layout.Packs Layout.all Declaration.all ∧
    ∀ layout ∈ Layout.all, ∀ word : BitVec layout.bits,
      ofOctets layout.bits (octetsOf word) = word ∧
      (∀ bit < layout.bits, word.getLsbD bit = octetBit (octetsOf word) bit) ∧
      ∀ field ∈ layout.fields, ∀ value : Nat,
        ((field.write? value word).isSome ↔ value < 2 ^ field.width) ∧
        (∀ word', field.write? value word = some word' →
          layout.Written field value word word' ∧ field.assign value word = word') ∧
        (field.write? value word = none → field.assign value word = word) := by
  refine ⟨packs_of_mem_all, fun layout hlayout word => ?_⟩
  have hwhole := Layout.whole_of_mem_all layout hlayout
  refine ⟨ofOctets_octetsOf hwhole word, fun bit => getLsbD_eq_octetBit hwhole word, ?_⟩
  intro field hfield value
  refine ⟨?_, ?_, ?_⟩
  · rw [Option.isSome_iff_exists]
    simp only [Field.write?_eq_some_iff, exists_and_left, exists_eq', and_true]
  · intro word' hwritten
    obtain ⟨hvalue, rfl⟩ := Field.write?_eq_some_iff.mp hwritten
    refine ⟨Layout.written_put hlayout hfield hvalue word, ?_⟩
    rw [Field.assign, hwritten, Option.getD_some]
  · intro hrefused
    rw [Field.assign, hrefused, Option.getD_none]

/-- All ones keep their other bits when one field is set, and a value of three bits is refused. -/
theorem views_exact_isolated_forceSleep :
    let word : BitVec ScuCtrl3.layout.bits := 0xFFFFFFFF
    ScuCtrl3.layout ∈ Layout.all ∧ ScuCtrl3.forceSleep ∈ ScuCtrl3.layout.fields ∧
      ScuCtrl3.layout.Written ScuCtrl3.forceSleep 2 word 0xFFBFFFFF ∧
      ScuCtrl3.forceSleep.assign 4 word = word := by
  intro word
  have hlayout : ScuCtrl3.layout ∈ Layout.all := by simp [Layout.all]
  have hfield : ScuCtrl3.forceSleep ∈ ScuCtrl3.layout.fields := by simp [ScuCtrl3.layout]
  obtain ⟨-, -, hfields⟩ := views_exact_isolated.2 ScuCtrl3.layout hlayout word
  obtain ⟨-, hwritten, -⟩ := hfields ScuCtrl3.forceSleep hfield 2
  obtain ⟨-, -, hrefused⟩ := hfields ScuCtrl3.forceSleep hfield 4
  exact ⟨hlayout, hfield, (hwritten _ (by decide)).1, hrefused (by decide)⟩

end TensorLink

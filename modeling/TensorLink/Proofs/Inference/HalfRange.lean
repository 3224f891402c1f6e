import Mathlib.Tactic.Linarith
import Mathlib.Tactic.Ring
import TensorLink.Proofs.Inference.Bias

/-!
# The bias as a number

Flipping the top bit of the last octet of an element is arithmetic: read as an unsigned number, the
element is then half of the range larger than it was in two's complement.

Results:
* `ofLittleEndian_append`: a string is read part by part.
* `toNat_flipped`: what the flip makes of an octet.
* `ofLittleEndian_flipped`: flipping the top bit of a number adds half of the range to it.
* `FlipsTops.element`: what a flip of tops makes of an element.
* `transformSigns_adds_half`: what the transform makes of a buffer, and when it is refused.
-/

namespace TensorLink

/-! ## Specification -/

/-- The octets of an element. -/
def elementAt (size index : Nat) (bytes : Bytes) : Bytes := (bytes.drop (index * size)).take size

/-- An element as an unsigned number. -/
def unsignedAt (size index : Nat) (bytes : Bytes) : Nat :=
  Bytes.ofLittleEndian (elementAt size index bytes)

/-- An element as a number in two's complement. -/
def signedAt (size index : Nat) (bytes : Bytes) : Int :=
  (BitVec.ofNat (8 * size) (unsignedAt size index bytes)).toInt

/-- Each of the first `count` elements of `bytes'` is that of `bytes`, half of the range larger, and
    everything after them is as it was. -/
structure AddsHalf (size count : Nat) (bytes bytes' : Bytes) : Prop where
  length_eq : bytes'.length = bytes.length
  shifted : ∀ index < count,
    (unsignedAt size index bytes' : Int) = signedAt size index bytes + 2 ^ (8 * size - 1)
  kept : ∀ position, size * count ≤ position → bytes'[position]? = bytes[position]?

/-- The buffer after an attempt to transform it, which leaves it alone if it is too short. -/
def signsTransformed (size count : Nat) (bytes : Bytes) : Bytes :=
  (transformSigns size count bytes).toOption.getD bytes

/-! ## Flipping the top bit of a number -/

theorem Bytes.ofLittleEndian_append (low high : Bytes) :
    ofLittleEndian (low ++ high) = ofLittleEndian low + 256 ^ low.length * ofLittleEndian high := by
  induction low with
  | nil => simp [ofLittleEndian]
  | cons octet low ih =>
    rw [List.cons_append, ofLittleEndian, ofLittleEndian, ih, List.length_cons, Nat.pow_succ]
    ring

/-- The flip adds half of the range of an octet below it, and takes it off above it. -/
theorem toNat_flipped (octet : UInt8) :
    (octet.toNat < 128 ∧ (octet ^^^ 0x80).toNat = octet.toNat + 128) ∨
      (128 ≤ octet.toNat ∧ (octet ^^^ 0x80).toNat + 128 = octet.toNat) := by
  have hxor : (octet ^^^ 0x80).toNat = octet.toNat ^^^ 128 := UInt8.toNat_xor octet 0x80
  have hall : ∀ n < 256, (n < 128 ∧ n ^^^ 128 = n + 128) ∨ (128 ≤ n ∧ (n ^^^ 128) + 128 = n) := by
    decide +kernel
  rw [hxor]
  exact hall octet.toNat octet.toNat_lt

/-- Flipping the top bit of a number adds half of the range to what it is in two's complement. -/
theorem ofLittleEndian_flipped (low : Bytes) (top : UInt8) :
    (Bytes.ofLittleEndian (low ++ [top ^^^ 0x80]) : Int) =
      (BitVec.ofNat (8 * (low.length + 1)) (Bytes.ofLittleEndian (low ++ [top]))).toInt +
        2 ^ (8 * (low.length + 1) - 1) := by
  have hread (octet : UInt8) : Bytes.ofLittleEndian (low ++ [octet]) =
      Bytes.ofLittleEndian low + 256 ^ low.length * octet.toNat := by
    rw [Bytes.ofLittleEndian_append]
    rfl
  have hlow : Bytes.ofLittleEndian low < 256 ^ low.length := Bytes.ofLittleEndian_lt low
  have hrange : 2 ^ (8 * (low.length + 1)) = 256 * 256 ^ low.length := by
    rw [Nat.pow_mul, Nat.pow_succ, Nat.mul_comm]
  have hhalf : (2 : Int) ^ (8 * (low.length + 1) - 1) = 128 * 256 ^ low.length := by
    rw [show 8 * (low.length + 1) - 1 = 8 * low.length + 7 by omega, pow_add, pow_mul]
    ring
  have hsize := top.toNat_lt
  have hinside : Bytes.ofLittleEndian low + 256 ^ low.length * top.toNat <
      2 ^ (8 * (low.length + 1)) := by
    rw [hrange]
    nlinarith
  rw [hread, hread, BitVec.toInt_eq_toNat_cond, BitVec.toNat_ofNat, Nat.mod_eq_of_lt hinside, hhalf,
    hrange]
  obtain ⟨hbelow, hflipped⟩ | ⟨habove, hflipped⟩ := toNat_flipped top
  · rw [hflipped, if_pos (by nlinarith)]
    push_cast
    ring
  · rw [if_neg (by nlinarith), ← hflipped]
    push_cast
    ring

/-! ## Elements -/

theorem length_elementAt {size count index : Nat} {bytes : Bytes} (hindex : index < count)
    (hlength : size * count ≤ bytes.length) : (elementAt size index bytes).length = size := by
  have hinside := Nat.mul_le_mul_left size (show index + 1 ≤ count from hindex)
  rw [elementAt, List.length_take, List.length_drop, Nat.mul_comm]
  rw [Nat.mul_succ] at hinside
  omega

theorem getElem?_elementAt (size index : Nat) (bytes : Bytes) (i : Nat) :
    (elementAt size index bytes)[i]? = if i < size then bytes[index * size + i]? else none := by
  rw [elementAt, List.getElem?_take, List.getElem?_drop]

/-- A flip of tops changes the top octet of an element, and nothing else of it. -/
theorem FlipsTops.element {size count index : Nat} {bytes bytes' : Bytes} (hsize : 1 ≤ size)
    (h : FlipsTops size count bytes bytes') (hindex : index < count)
    (hlength : size * count ≤ bytes.length) :
    ∃ low top, low.length + 1 = size ∧ elementAt size index bytes = low ++ [top] ∧
      elementAt size index bytes' = low ++ [top ^^^ 0x80] := by
  have hwhole := length_elementAt hindex hlength
  obtain hnil | ⟨low, top, helement⟩ := List.eq_nil_or_concat' (elementAt size index bytes)
  · rw [hnil, List.length_nil] at hwhole
    omega
  rw [helement, List.length_append, List.length_singleton] at hwhole
  refine ⟨low, top, hwhole, helement, List.ext_getElem? fun i => ?_⟩
  have hbefore := getElem?_elementAt size index bytes i
  rw [helement] at hbefore
  rw [getElem?_elementAt]
  obtain hlow | rfl | hbeyond := Nat.lt_trichotomy i low.length
  · -- Below the top octet, no element ends.
    have hkept := h.kept (index * size + i) fun element _ heq => by
      have hmod := congrArg (· % size) heq
      simp only [Nat.mul_comm _ size, Nat.mul_add_mod] at hmod
      rw [Nat.mod_eq_of_lt (by omega), Nat.mod_eq_of_lt (by omega)] at hmod
      omega
    rw [if_pos (by omega), List.getElem?_append_left hlow] at hbefore ⊢
    exact hkept.trans hbefore.symm
  · have hflipped := h.flipped index hindex
    rw [show size - 1 = low.length by omega] at hflipped
    rw [if_pos (by omega), List.getElem?_concat_length] at hbefore ⊢
    rw [hflipped, ← hbefore]
    rfl
  · rw [if_neg (by omega), List.getElem?_eq_none]
    rw [List.length_append, List.length_singleton]
    omega

theorem FlipsTops.addsHalf {size count : Nat} {bytes bytes' : Bytes} (hsize : 1 ≤ size)
    (h : FlipsTops size count bytes bytes') (hlength : size * count ≤ bytes.length) :
    AddsHalf size count bytes bytes' where
  length_eq := h.length_eq
  shifted := by
    intro index hindex
    obtain ⟨low, top, rfl, hbefore, hafter⟩ := h.element hsize hindex hlength
    rw [signedAt, unsignedAt, unsignedAt, hbefore, hafter]
    exact ofLittleEndian_flipped low top
  kept := by
    intro position hbeyond
    apply h.kept
    rintro element helement rfl
    have hinside := Nat.mul_le_mul_left size (show element + 1 ≤ count from helement)
    rw [Nat.mul_succ, Nat.mul_comm] at hinside
    omega

/-- **The sign transform adds half of the range.** On a buffer that holds all the elements it makes
    each of them, read as an unsigned number, half of the range larger than it was in two's
    complement, changes nothing after them, and is undone by a second transform. A buffer that is
    too short is refused, and left as it is. -/
theorem transformSigns_adds_half (size count : Nat) (hsize : 1 ≤ size) (bytes : Bytes) :
    (size * count ≤ bytes.length → ∃ bytes', transformSigns size count bytes = .ok bytes' ∧
      signsTransformed size count bytes = bytes' ∧ AddsHalf size count bytes bytes' ∧
      transformSigns size count bytes' = .ok bytes) ∧
    (bytes.length < size * count →
      transformSigns size count bytes = .error (.invalidLayer "<buffer>"
        s!"sign transform needs {size * count} bytes, buffer has {bytes.length}") ∧
      signsTransformed size count bytes = bytes) := by
  constructor
  · intro hlength
    have htransformed {octets : Bytes} (h : size * count ≤ octets.length) :
        transformSigns size count octets = .ok (flipSigns size count octets) := if_pos h
    refine ⟨flipSigns size count bytes, htransformed hlength, ?_, ?_, ?_⟩
    · rw [signsTransformed, htransformed hlength]
      rfl
    · exact (flipsTops_flipSigns hsize count bytes).addsHalf hsize hlength
    · rw [htransformed (by rwa [length_flipSigns]), flipSigns_flipSigns]
  · intro hshort
    have hrefused : transformSigns size count bytes = .error (.invalidLayer "<buffer>"
        s!"sign transform needs {size * count} bytes, buffer has {bytes.length}") :=
      if_neg (Nat.not_le.mpr hshort)
    refine ⟨hrefused, ?_⟩
    rw [signsTransformed, hrefused]
    rfl

/-- The largest word, the least one, and an octet after them; and what is left of them when the
    last word is cut short. -/
theorem transformSigns_adds_half_words :
    let bytes : Bytes := [0xff, 0x7f, 0x00, 0x80, 0x55]
    1 ≤ 2 ∧ 2 * 2 ≤ bytes.length ∧ (bytes.take 3).length < 2 * 2 ∧
      (∃ bytes', transformSigns 2 2 bytes = .ok bytes' ∧ bytes' = [0xff, 0xff, 0x00, 0x00, 0x55] ∧
        AddsHalf 2 2 bytes bytes' ∧ transformSigns 2 2 bytes' = .ok bytes) ∧
      signsTransformed 2 2 (bytes.take 3) = bytes.take 3 := by
  intro bytes
  have hlong : 2 * 2 ≤ bytes.length := by decide
  have hshort : (bytes.take 3).length < 2 * 2 := by decide
  obtain ⟨bytes', hok, -, hadds, hundone⟩ :=
    (transformSigns_adds_half 2 2 (by decide) bytes).1 hlong
  have hcomputed : transformSigns 2 2 bytes = .ok [0xff, 0xff, 0x00, 0x00, 0x55] := by decide
  obtain rfl : [0xff, 0xff, 0x00, 0x00, 0x55] = bytes' := Except.ok.inj (hcomputed.symm.trans hok)
  exact ⟨by decide, hlong, hshort, ⟨_, hok, rfl, hadds, hundone⟩,
    ((transformSigns_adds_half 2 2 (by decide) (bytes.take 3)).2 hshort).2⟩

end TensorLink

import Mathlib.Algebra.Ring.Parity
import Mathlib.Data.List.Nodup
import TensorLink.Proofs.Inference.HintProgram
import TensorLink.Proofs.Octets

/-!
# Staging an input

An input is staged hint by hint: the elements of each range that belongs to a layer of a signed type
are biased, unless an element with the same start has been biased before. Biasing undoes itself, so
that what matters for an octet is how many of the biased elements end there.

Results:
* `start_mem_firstElements_iff`, `nodup_starts_firstElements`: every start is kept, and kept once.
* `stageInput_eq_ok_iff`: staging is biasing the elements that the hints ask for, one by one.
* `getElem?_stageInput`: an octet is flipped if an odd number of the biased elements end there.
* `not_isBiased_of_forall_ne`, `isBiased_last_of_unique`, `isBiased_iff_of_size_eq`: where elements
  end, and where octets are biased.
* `stageInput_biasesOnce`: if the signed elements have one size and lie at multiples of it, each
  element that a hint covers is biased once, whatever the hints share and however they are ordered.
-/

namespace TensorLink.Session

/-! ## Specification -/

/-- An element in the input. -/
@[ext]
structure Element where
  start : Nat
  size : Nat
  deriving DecidableEq

/-- The position of the last octet of an element. -/
def Element.last (element : Element) : Nat := element.start + element.size - 1

/-- The elements that a range asks to be biased. -/
def signedElements (session : Session) (range : InputRange) : List Element :=
  match session.executable.input? range.name with
  | none => []
  | some layer =>
    if layer.type.isSigned then
      (elementStarts range layer.type.size).map fun start => ⟨start, layer.type.size⟩
    else []

/-- The elements that the hints ask to be biased, in their order. -/
def elements (session : Session) : List Element :=
  session.inputRanges.flatMap session.signedElements

/-- Keeps an element, unless one with the same start is kept already. -/
def keepFirst (kept : List Element) (element : Element) : List Element :=
  if element.start ∈ kept.map (·.start) then kept else kept ++ [element]

/-- Of the elements that share a start, the first. -/
def firstElements (elements : List Element) : List Element := elements.foldl keepFirst []

/-- An octet is biased: an odd number of the biased elements end there. -/
def IsBiased (session : Session) (position : Nat) : Prop :=
  Odd (((firstElements session.elements).map (·.last)).count position)

/-- A hint asks for a range of the input that belongs to a layer of a signed type. -/
def SignedHint (executable : Executable) (layer : Layer) (offset size : Nat) : Prop :=
  ∃ name, .range .inputActivation name offset size ∈ executable.hints ∧
    executable.input? name = some layer ∧ layer.type.isSigned = true

/-- The hints for layers of signed types speak of elements of `width` octets, and start at multiples
    of it. -/
def Aligned (executable : Executable) (width : Nat) : Prop :=
  ∀ layer offset size, SignedHint executable layer offset size →
    layer.type.size = width ∧ width ∣ offset

/-- An element of `width` octets at a multiple of `width` ends at a position, and a hint for a layer
    of a signed type covers it. -/
def EndsSigned (executable : Executable) (width position : Nat) : Prop :=
  position % width = width - 1 ∧ ∃ layer offset size, SignedHint executable layer offset size ∧
    offset + width ≤ position + 1 ∧ position + 1 ≤ offset + size

/-- `staged` is `input` with every element of a signed layer that a hint covers biased once. -/
structure BiasedOnce (executable : Executable) (width : Nat) (input staged : Bytes) : Prop where
  length_eq : staged.length = input.length
  biased : ∀ position, EndsSigned executable width position →
    staged[position]? = input[position]?.map (· ^^^ 0x80)
  kept : ∀ position, ¬EndsSigned executable width position → staged[position]? = input[position]?

/-! ## The elements that hints ask for -/

section

variable {session : Session} {range : InputRange} {element : Element}

/-- An element of a range starts a whole number of elements after the range, and ends within it. -/
theorem mem_elementStarts_iff {size start : Nat} (hsize : 0 < size) :
    start ∈ elementStarts range size ↔
      ∃ index, start = range.offset + index * size ∧ index * size + size ≤ range.size := by
  unfold elementStarts
  simp only [List.mem_map, List.mem_range, Nat.lt_iff_add_one_le, Nat.le_div_iff_mul_le hsize,
    Nat.succ_mul]
  exact exists_congr fun index => ⟨fun h => ⟨h.2.symm, h.1⟩, fun h => ⟨h.2, h.1.symm⟩⟩

theorem mem_signedElements_iff :
    element ∈ session.signedElements range ↔ ∃ layer,
      session.executable.input? range.name = some layer ∧ layer.type.isSigned = true ∧
        element.size = layer.type.size ∧ element.start ∈ elementStarts range element.size := by
  unfold signedElements
  cases session.executable.input? range.name with
  | none => simp
  | some layer =>
    simp only [Option.some.injEq, exists_eq_left']
    split
    · next hsigned =>
      rw [List.mem_map]
      constructor
      · rintro ⟨start, hstart, rfl⟩
        exact ⟨hsigned, rfl, hstart⟩
      · rintro ⟨-, hsize, hstart⟩
        exact ⟨element.start, hsize ▸ hstart, by rw [← hsize]⟩
    · next hsigned => simp [hsigned]

/-- The hints for layers of signed types ask for all their elements, and no others are asked for. -/
theorem mem_elements_iff :
    element ∈ session.elements ↔
      ∃ layer offset size, SignedHint session.executable layer offset size ∧
        element.size = layer.type.size ∧ ∃ index, element.start = offset + index * element.size ∧
          index * element.size + element.size ≤ size := by
  unfold elements
  rw [List.mem_flatMap]
  constructor
  · rintro ⟨range, hrange, hmem⟩
    obtain ⟨layer, hlayer, hsigned, hsize, hstart⟩ := mem_signedElements_iff.mp hmem
    rw [mem_elementStarts_iff (hsize ▸ layer.type.size_pos)] at hstart
    exact ⟨layer, range.offset, range.size,
      ⟨range.name, mem_inputRanges.mp hrange, hlayer, hsigned⟩, hsize, hstart⟩
  · rintro ⟨layer, offset, size, ⟨name, hhint, hlayer, hsigned⟩, hsize, hstart⟩
    refine ⟨⟨name, offset, size⟩, mem_inputRanges.mpr hhint,
      mem_signedElements_iff.mpr ⟨layer, hlayer, hsigned, hsize, ?_⟩⟩
    exact (mem_elementStarts_iff (hsize ▸ layer.type.size_pos)).mpr hstart

theorem size_pos_of_mem_elements (h : element ∈ session.elements) : 0 < element.size := by
  obtain ⟨layer, _, _, _, hsize, _⟩ := mem_elements_iff.mp h
  exact hsize ▸ layer.type.size_pos

end

/-! ## The elements that are biased -/

section

variable {kept elements : List Element} {element element' : Element} {start : Nat}

theorem start_mem_keepFirst_iff :
    start ∈ (keepFirst kept element).map (·.start) ↔
      start ∈ kept.map (·.start) ∨ start = element.start := by
  unfold keepFirst
  split
  · next hmem => exact ⟨.inl, fun h => h.elim id (· ▸ hmem)⟩
  · rw [List.map_append, List.mem_append, List.map_singleton, List.mem_singleton]

theorem nodup_starts_keepFirst (h : (kept.map (·.start)).Nodup) :
    ((keepFirst kept element).map (·.start)).Nodup := by
  unfold keepFirst
  split
  · exact h
  · next hnew =>
    rw [List.map_append, List.map_singleton, ← List.concat_eq_append]
    exact h.concat hnew

theorem mem_of_mem_keepFirst (h : element' ∈ keepFirst kept element) :
    element' ∈ kept ∨ element' = element := by
  unfold keepFirst at h
  split at h
  · exact .inl h
  · simpa using h

/-- Every start is kept. -/
theorem start_mem_firstElements_iff :
    start ∈ (firstElements elements).map (·.start) ↔ start ∈ elements.map (·.start) := by
  suffices h : ∀ kept, start ∈ (elements.foldl keepFirst kept).map (·.start) ↔
      start ∈ kept.map (·.start) ∨ start ∈ elements.map (·.start) by
    rw [firstElements, h, List.map_nil]
    exact or_iff_right List.not_mem_nil
  induction elements with
  | nil => simp
  | cons element rest ih =>
    intro kept
    rw [List.foldl_cons, ih, start_mem_keepFirst_iff, List.map_cons, List.mem_cons, or_assoc]

/-- No start is kept twice. -/
theorem nodup_starts_firstElements (elements : List Element) :
    ((firstElements elements).map (·.start)).Nodup :=
  List.foldlRecOn (motive := fun kept => (kept.map (·.start)).Nodup) elements keepFirst
    List.nodup_nil fun _ hkept _ _ => nodup_starts_keepFirst hkept

/-- Nothing else is kept. -/
theorem mem_of_mem_firstElements (h : element ∈ firstElements elements) : element ∈ elements := by
  have hsubset : ∀ element' ∈ firstElements elements, element' ∈ elements :=
    List.foldlRecOn (motive := fun kept => ∀ element' ∈ kept, element' ∈ elements) elements
      keepFirst (fun _ h => absurd h List.not_mem_nil) fun kept hkept element hmem element' h =>
        (mem_of_mem_keepFirst h).elim (hkept element') (· ▸ hmem)
  exact hsubset element h

/-- An octet where no element ends is not biased. -/
theorem not_isBiased_of_forall_ne {session : Session} {position : Nat}
    (h : ∀ element ∈ session.elements, element.last ≠ position) : ¬session.IsBiased position := by
  unfold IsBiased
  rw [List.count_eq_zero.mpr]
  · exact Nat.not_odd_zero
  · rintro hmem
    obtain ⟨element, hkept, hlast⟩ := List.mem_map.mp hmem
    exact h element (mem_of_mem_firstElements hkept) hlast

/-- The last octet of an element is biased if every element that starts or ends there is this
    one. -/
theorem isBiased_last_of_unique {session : Session} (hmem : element ∈ session.elements)
    (hunique : ∀ element' ∈ session.elements,
      element'.start = element.start ∨ element'.last = element.last → element' = element) :
    session.IsBiased element.last := by
  unfold IsBiased
  have hkept : element ∈ firstElements session.elements := by
    have hstart := start_mem_firstElements_iff.mpr (List.mem_map_of_mem hmem)
    obtain ⟨element', hkept, hstart⟩ := List.mem_map.mp hstart
    rwa [← hunique element' (mem_of_mem_firstElements hkept) (.inl hstart)]
  have hcount : ((firstElements session.elements).map (·.last)).count element.last =
      (firstElements session.elements).count element := by
    rw [List.count, List.count, List.countP_map]
    refine List.countP_congr fun element' hkept' => ?_
    rw [Function.comp_apply, beq_iff_eq, beq_iff_eq]
    exact ⟨fun hlast => hunique element' (mem_of_mem_firstElements hkept') (.inr hlast),
      fun h => h ▸ rfl⟩
  rw [hcount, List.count_eq_one_of_mem ((nodup_starts_firstElements _).of_map _) hkept]
  exact odd_one

/-- If the elements have one size, an octet is biased if any of them ends there. -/
theorem isBiased_iff_of_size_eq {session : Session} {width position : Nat}
    (hsize : ∀ element ∈ session.elements, element.size = width) :
    session.IsBiased position ↔ ∃ element ∈ session.elements, element.last = position := by
  constructor
  · intro hbiased
    by_contra hnone
    exact not_isBiased_of_forall_ne (fun element hmem hlast => hnone ⟨element, hmem, hlast⟩) hbiased
  · rintro ⟨element, hmem, rfl⟩
    refine isBiased_last_of_unique hmem fun element' hmem' hsame => ?_
    have hpos := size_pos_of_mem_elements hmem
    have hsizes : element'.size = element.size := by rw [hsize element hmem, hsize element' hmem']
    unfold Element.last at hsame
    exact Element.ext (by omega) hsizes

end

/-! ## The input as it is staged -/

/-- Biases an element, unless one with the same start has been biased. -/
def Staged.bias (staged : Staged) (element : Element) : Staged :=
  biasElement element.size staged element.start

/-- What has been staged is the input with the given elements biased. -/
structure Staged.Biases (staged : Staged) (input : Bytes) (kept : List Element) : Prop where
  octets : ∀ position, staged.input[position]? =
    input[position]?.map flipTop^[(kept.map (·.last)).count position]
  starts : ∀ start, start ∈ staged.biased ↔ start ∈ kept.map (·.start)

section

variable {session : Session} {input staged : Bytes} {kept : List Element} {before : Staged}

theorem biases_nil (input : Bytes) : Staged.Biases ⟨input, []⟩ input [] where
  octets position := by simp
  starts start := by simp

/-- To bias an element is to keep it. -/
theorem Staged.Biases.bias (h : before.Biases input kept) (element : Element) :
    (before.bias element).Biases input (keepFirst kept element) := by
  unfold Staged.bias biasElement keepFirst
  by_cases hmem : element.start ∈ kept.map (·.start)
  · rw [if_pos (List.contains_iff_mem.mpr ((h.starts _).mpr hmem)), if_pos hmem]
    exact h
  · rw [if_neg (mt List.contains_iff_mem.mp (mt (h.starts _).mp hmem)), if_neg hmem]
    refine ⟨fun position => ?_, fun start => ?_⟩
    · rw [List.getElem?_modify, h.octets, List.map_append, List.count_append, List.map_singleton,
        List.count_singleton, ← Element.last, Option.map_eq_map]
      split
      · next hlast =>
        rw [if_pos (beq_iff_eq.mpr hlast), Function.iterate_succ', Option.map_map]
      · next hlast => rw [if_neg (mt beq_iff_eq.mp hlast), Nat.add_zero, Option.map_id']
    · rw [List.mem_cons, h.starts, List.map_append, List.mem_append, List.map_singleton,
        List.mem_singleton, or_comm]

/-- So it is with elements biased one after the other. -/
theorem Staged.Biases.foldl (h : before.Biases input kept) (elements : List Element) :
    (elements.foldl Staged.bias before).Biases input (elements.foldl keepFirst kept) := by
  induction elements generalizing before kept with
  | nil => exact h
  | cons element rest ih => exact ih (h.bias element)

theorem biasRange_eq_foldl (session : Session) (before : Staged) (range : InputRange) :
    biasRange session before range = (session.signedElements range).foldl Staged.bias before := by
  unfold biasRange signedElements
  cases session.executable.input? range.name with
  | none => rfl
  | some layer =>
    dsimp only
    split
    · rw [List.foldl_map]
      rfl
    · rfl

/-- Staging biases the elements that the hints ask for, in their order. -/
theorem stageInput_eq_ok_iff :
    session.stageInput input = .ok staged ↔ session.inputSize ≤ input.length ∧
      (session.elements.foldl Staged.bias ⟨input, []⟩).input = staged := by
  unfold stageInput elements
  rw [List.foldl_flatMap]
  simp only [← biasRange_eq_foldl]
  split
  · next h => simp [Nat.not_le.mpr h]
  · next h => simp [Nat.le_of_not_lt h]

theorem involutive_flipTop : Function.Involutive flipTop := flipTop_flipTop

/-- An octet is flipped if an odd number of the biased elements end there. -/
theorem getElem?_stageInput (h : session.stageInput input = .ok staged) (position : Nat) :
    (session.IsBiased position → staged[position]? = input[position]?.map (· ^^^ 0x80)) ∧
      (¬session.IsBiased position → staged[position]? = input[position]?) := by
  obtain ⟨-, rfl⟩ := stageInput_eq_ok_iff.mp h
  rw [((biases_nil input).foldl session.elements).octets position]
  constructor
  · intro hodd
    rw [← firstElements, involutive_flipTop.iterate_odd hodd]
    rfl
  · intro heven
    rw [← firstElements, involutive_flipTop.iterate_even (Nat.not_odd_iff_even.mp heven),
      Option.map_id_fun, id]

/-- Two stagings of an input agree in an octet if it is biased in both or in neither. -/
theorem getElem?_stageInput_eq_iff {session' : Session} {staged' : Bytes}
    (h : session.stageInput input = .ok staged) (h' : session'.stageInput input = .ok staged')
    {position : Nat} (hposition : position < input.length) :
    staged'[position]? = staged[position]? ↔
      (session'.IsBiased position ↔ session.IsBiased position) := by
  obtain ⟨hbiased, hkept⟩ := getElem?_stageInput h position
  obtain ⟨hbiased', hkept'⟩ := getElem?_stageInput h' position
  rw [List.getElem?_eq_getElem hposition] at hbiased hkept hbiased' hkept'
  have hne : input[position] ^^^ 0x80 ≠ input[position] := Bytes.xor_ne_self (by decide) _
  by_cases hodd : session.IsBiased position <;> by_cases hodd' : session'.IsBiased position
  · rw [hbiased hodd, hbiased' hodd']
    exact iff_of_true rfl (iff_of_true hodd' hodd)
  · rw [hbiased hodd, hkept' hodd']
    exact iff_of_false (fun h => hne (Option.some.inj h).symm) fun h => hodd' (h.mpr hodd)
  · rw [hkept hodd, hbiased' hodd']
    exact iff_of_false (fun h => hne (Option.some.inj h)) fun h => hodd (h.mp hodd')
  · rw [hkept hodd, hkept' hodd']
    exact iff_of_true rfl (iff_of_false hodd' hodd)

end

/-! ## Main theorem -/

section

variable {session : Session} {width : Nat} {input : Bytes}

/-- Where elements of one size at multiples of it end. -/
theorem exists_last_eq_iff (haligned : Aligned session.executable width) {position : Nat} :
    (∃ element ∈ session.elements, element.last = position) ↔
      EndsSigned session.executable width position := by
  constructor
  · rintro ⟨element, hmem, hlast⟩
    obtain ⟨layer, offset, size, hhint, hsize, index, hstart, hle⟩ := mem_elements_iff.mp hmem
    obtain ⟨hwidth, hdvd⟩ := haligned layer offset size hhint
    have hpos := layer.type.size_pos
    rw [hsize, hwidth] at hstart hle
    rw [Element.last, hstart, hsize, hwidth] at hlast
    rw [hwidth] at hpos
    have hmod : (offset + index * width) % width = 0 :=
      Nat.mod_eq_zero_of_dvd (Nat.dvd_add hdvd (Nat.dvd_mul_left width index))
    refine ⟨?_, layer, offset, size, hhint, by omega, by omega⟩
    rw [← hlast, Nat.add_sub_assoc hpos, Nat.add_mod, hmod, Nat.zero_add, Nat.mod_mod,
      Nat.mod_eq_of_lt (by omega)]
  · rintro ⟨hmod, layer, offset, size, hhint, hfirst, hlast⟩
    obtain ⟨hwidth, skipped, rfl⟩ := haligned layer offset size hhint
    have hpos : 0 < width := hwidth ▸ layer.type.size_pos
    have hdiv := Nat.div_add_mod position width
    have hle : skipped ≤ position / width := by
      rw [Nat.le_div_iff_mul_le hpos, Nat.mul_comm]
      omega
    obtain ⟨index, hindex⟩ := Nat.exists_eq_add_of_le hle
    rw [hindex, Nat.mul_add, Nat.mul_comm width index] at hdiv
    refine ⟨⟨width * skipped + index * width, width⟩, mem_elements_iff.mpr
      ⟨layer, width * skipped, size, hhint, hwidth.symm, index, rfl, ?_⟩, ?_⟩
    · change index * width + width ≤ size
      omega
    · change width * skipped + index * width + width - 1 = position
      omega

/-- An octet is biased if such an element ends there. -/
theorem isBiased_iff_endsSigned (haligned : Aligned session.executable width) (position : Nat) :
    session.IsBiased position ↔ EndsSigned session.executable width position := by
  have hsize : ∀ element ∈ session.elements, element.size = width := by
    intro element hmem
    obtain ⟨layer, offset, size, hhint, hsize, -⟩ := mem_elements_iff.mp hmem
    exact hsize.trans (haligned layer offset size hhint).1
  rw [isBiased_iff_of_size_eq hsize, exists_last_eq_iff haligned]

theorem exists_biasedOnce (session : Session) (haligned : Aligned session.executable width)
    (hcovered : ∀ name offset size,
      .range .inputActivation name offset size ∈ session.executable.hints →
        offset + size ≤ input.length) :
    ∃ staged, session.stageInput input = .ok staged ∧
      BiasedOnce session.executable width input staged := by
  have hstaged := stageInput_eq_ok_iff.mpr ⟨inputSize_le_iff.mpr hcovered, rfl⟩
  refine ⟨_, hstaged, length_stageInput hstaged, fun position hends => ?_, fun position hends => ?_⟩
  · exact (getElem?_stageInput hstaged position).1
      ((isBiased_iff_endsSigned haligned position).mpr hends)
  · exact (getElem?_stageInput hstaged position).2
      (mt (isBiased_iff_endsSigned haligned position).mp hends)

/-- There is one way to bias every element once. -/
theorem BiasedOnce.unique {executable : Executable} {staged staged' : Bytes}
    (h : BiasedOnce executable width input staged)
    (h' : BiasedOnce executable width input staged') : staged' = staged := by
  apply List.ext_getElem?
  intro position
  by_cases hends : EndsSigned executable width position
  · rw [h.biased position hends, h'.biased position hends]
  · rw [h.kept position hends, h'.kept position hends]

section

variable {executable executable' : Executable} {staged : Bytes}

/-- Neither the order of the hints nor how often one is repeated matters to what they ask for. -/
theorem signedHint_congr (hinputs : executable'.inputs = executable.inputs)
    (hhints : ∀ hint, hint ∈ executable'.hints ↔ hint ∈ executable.hints) :
    SignedHint executable' = SignedHint executable := by
  funext layer offset size
  unfold SignedHint Executable.input?
  rw [hinputs]
  simp only [hhints]

theorem Aligned.congr (h : Aligned executable width)
    (hsigned : SignedHint executable' = SignedHint executable) : Aligned executable' width := by
  unfold Aligned
  rw [hsigned]
  exact h

theorem BiasedOnce.congr (h : BiasedOnce executable width input staged)
    (hsigned : SignedHint executable' = SignedHint executable) :
    BiasedOnce executable' width input staged := by
  have hends : EndsSigned executable' = EndsSigned executable := by
    unfold EndsSigned
    rw [hsigned]
  exact ⟨h.length_eq, hends ▸ h.biased, hends ▸ h.kept⟩

end

/-- **Signed elements are biased exactly once.** Let the signed layers that input hints name have
    elements of `width` octets, and let these hints start at multiples of it. Any input that covers
    the hints is staged, and the octets that change are the last ones of the elements that some such
    hint covers: each has its top bit flipped, however often hints share it. The same hints in any
    other order, or repeated, stage the input alike. -/
theorem stageInput_biasesOnce (session : Session) (haligned : Aligned session.executable width)
    (hcovered : ∀ name offset size,
      .range .inputActivation name offset size ∈ session.executable.hints →
        offset + size ≤ input.length) :
    ∃ staged, session.stageInput input = .ok staged ∧
      BiasedOnce session.executable width input staged ∧
      ∀ session' : Session, session'.executable.inputs = session.executable.inputs →
        (∀ hint, hint ∈ session'.executable.hints ↔ hint ∈ session.executable.hints) →
          session'.stageInput input = .ok staged := by
  obtain ⟨staged, hstaged, honce⟩ := exists_biasedOnce session haligned hcovered
  refine ⟨staged, hstaged, honce, fun session' hinputs hhints => ?_⟩
  have hsigned := signedHint_congr hinputs hhints
  obtain ⟨staged', hstaged', honce'⟩ := exists_biasedOnce session' (haligned.congr hsigned)
    fun name offset size hmem => hcovered name offset size ((hhints _).mp hmem)
  rw [hstaged', honce.unique (honce'.congr hsigned.symm)]

/-- Hints that overlap and repeat each other, beside a layer that is not signed and a name that no
    layer has. -/
theorem stageInput_biasesOnce_overlapping :
    let executable : Executable :=
      { inputs := [.dense "in" .signedFixedPoint16 1 1 4, .dense "mask" .fixedPoint8 1 1 8]
        hints := [.range .inputActivation "in" 0 5, .range .inputActivation "mask" 1 3,
          .range .inputActivation "in" 2 4, .range .inputActivation "none" 0 8,
          .range .inputActivation "in" 0 5] }
    let session : Session := ⟨executable, []⟩
    let input : Bytes := [0, 1, 2, 3, 4, 5, 6, 7]
    let staged : Bytes := [0, 0x81, 2, 0x83, 4, 0x85, 6, 7]
    session.stageInput input = .ok staged ∧ BiasedOnce executable 2 input staged ∧
      ∀ session' : Session, session'.executable.inputs = executable.inputs →
        (∀ hint, hint ∈ session'.executable.hints ↔ hint ∈ executable.hints) →
          session'.stageInput input = .ok staged := by
  intro executable session input staged
  have hstaged : session.stageInput input = .ok staged := by decide
  have haligned : Aligned executable 2 := by
    rintro layer offset size ⟨name, hmem, hlayer, hsigned⟩
    simp only [executable, List.mem_cons, List.not_mem_nil, or_false, Hint.range.injEq] at hmem
    obtain ⟨-, rfl, rfl, -⟩ | ⟨-, rfl, rfl, -⟩ | ⟨-, rfl, rfl, -⟩ | ⟨-, rfl, rfl, -⟩ |
      ⟨-, rfl, rfl, -⟩ := hmem <;> cases hlayer
    · exact ⟨rfl, by decide⟩
    · cases hsigned
    · exact ⟨rfl, by decide⟩
    · exact ⟨rfl, by decide⟩
  have hcovered : ∀ name offset size, .range .inputActivation name offset size ∈ executable.hints →
      offset + size ≤ input.length := by
    intro name offset size hmem
    simp only [executable, List.mem_cons, List.not_mem_nil, or_false, Hint.range.injEq] at hmem
    obtain ⟨-, -, rfl, rfl⟩ | ⟨-, -, rfl, rfl⟩ | ⟨-, -, rfl, rfl⟩ | ⟨-, -, rfl, rfl⟩ |
      ⟨-, -, rfl, rfl⟩ := hmem <;> decide
  obtain ⟨staged', hstaged', hrest⟩ := stageInput_biasesOnce session haligned hcovered
  cases hstaged.symm.trans hstaged'
  exact ⟨hstaged, hrest⟩

end

end TensorLink.Session

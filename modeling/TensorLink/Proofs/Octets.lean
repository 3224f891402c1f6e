import TensorLink.Bytes

/-!
# Octets in place

Where a string of octets stands within a larger one. What is written over a range stands there
afterwards, and everything that lies apart from the range stands where it stood.

Results:
* `getElem?_overwrite`: an overwritten string, octet by octet.
* `holds_append_iff`: a concatenation stands in place exactly if its parts do, one after the other.
* `Holds.slice?`, `Holds.flatten`: what stands in place is read, alone or as one of several parts.
-/

namespace TensorLink.Bytes

/-- An octet differs from itself with some bits flipped. -/
theorem xor_ne_self {mask : UInt8} (hmask : mask ≠ 0) (octet : UInt8) : octet ^^^ mask ≠ octet := by
  intro h
  apply hmask
  calc mask = octet ^^^ (octet ^^^ mask) := by
        rw [← UInt8.xor_assoc, UInt8.xor_self, UInt8.zero_xor]
    _ = 0 := by rw [h, UInt8.xor_self]

theorem getElem?_overwrite {bytes data : Bytes} {start : Nat}
    (h : start + data.length ≤ bytes.length) (i : Nat) :
    (bytes.overwrite start data)[i]? =
      if start ≤ i ∧ i < start + data.length then data[i - start]? else bytes[i]? := by
  have hlen : (bytes.take start).length = start := by rw [List.length_take]; omega
  unfold Bytes.overwrite
  rw [List.append_assoc, List.getElem?_append, hlen]
  by_cases h1 : i < start
  · rw [if_pos h1, if_neg (by omega), List.getElem?_take_of_lt h1]
  · rw [if_neg h1, List.getElem?_append]
    by_cases h2 : i - start < data.length
    · rw [if_pos h2, if_pos (by omega)]
    · rw [if_neg h2, if_neg (by omega), List.getElem?_drop]
      congr 1
      omega

/-- `part` stands at position `start` of `bytes`. -/
def Holds (bytes : Bytes) (start : Nat) (part : Bytes) : Prop :=
  ∀ i < part.length, bytes[start + i]? = part[i]?

variable {bytes part part' data : Bytes} {start start' : Nat}

theorem holds_self (bytes : Bytes) : Holds bytes 0 bytes := fun i _ => by rw [Nat.zero_add]

theorem holds_append_iff :
    Holds bytes start (part ++ part') ↔
      Holds bytes start part ∧ Holds bytes (start + part.length) part' := by
  constructor
  · intro h
    refine ⟨fun i hi => ?_, fun i hi => ?_⟩
    · rw [h i (by rw [List.length_append]; omega), List.getElem?_append_left hi]
    · rw [Nat.add_assoc, h _ (by rw [List.length_append]; omega),
        List.getElem?_append_right (by omega), Nat.add_sub_cancel_left]
  · rintro ⟨h, h'⟩ i hi
    rw [List.length_append] at hi
    by_cases hlt : i < part.length
    · rw [h i hlt, List.getElem?_append_left hlt]
    · have := h' (i - part.length) (by omega)
      rwa [show start + part.length + (i - part.length) = start + i by omega,
        ← List.getElem?_append_right (by omega)] at this

theorem Holds.left (h : Holds bytes start (part ++ part')) : Holds bytes start part :=
  (holds_append_iff.mp h).1

theorem Holds.right (h : Holds bytes start (part ++ part')) :
    Holds bytes (start + part.length) part' :=
  (holds_append_iff.mp h).2

/-- What stands in a part stands in the whole. -/
theorem Holds.trans (h : Holds bytes start part) (h' : Holds part start' part') :
    Holds bytes (start + start') part' := by
  intro i hi
  have hpart := h' i hi
  rw [List.getElem?_eq_getElem hi] at hpart ⊢
  rw [Nat.add_assoc, h _ (List.getElem?_eq_some_iff.mp hpart).1, hpart]

/-- What stands in place lies inside. -/
theorem Holds.le (h : Holds bytes start part) (hpart : 0 < part.length) :
    start + part.length ≤ bytes.length := by
  have hlast := h (part.length - 1) (by omega)
  rw [List.getElem?_eq_getElem (show part.length - 1 < part.length by omega)] at hlast
  have := (List.getElem?_eq_some_iff.mp hlast).1
  omega

theorem Holds.take_drop (h : Holds bytes start part) :
    (bytes.drop start).take part.length = part := by
  apply List.ext_getElem?
  intro i
  rw [List.getElem?_take]
  split
  · rename_i hi
    rw [List.getElem?_drop, h i hi]
  · rename_i hi
    rw [List.getElem?_eq_none (by omega)]

theorem Holds.slice? (h : Holds bytes start part) (hpart : 0 < part.length) :
    bytes.slice? start part.length = some part := by
  rw [Bytes.slice?, if_pos (h.le hpart), h.take_drop]

theorem holds_overwrite (h : start + data.length ≤ bytes.length) :
    Holds (bytes.overwrite start data) start data := by
  intro i hi
  rw [getElem?_overwrite h, if_pos (by omega), Nat.add_sub_cancel_left]

/-- What lies apart from an overwritten range stands where it stood. -/
theorem Holds.overwrite (h : Holds bytes start part)
    (hinside : start' + data.length ≤ bytes.length)
    (hapart : start + part.length ≤ start' ∨ start' + data.length ≤ start) :
    Holds (bytes.overwrite start' data) start part := by
  intro i hi
  rw [getElem?_overwrite hinside, if_neg (by omega), h i hi]

/-- Parts of one width stand one after the other. -/
theorem Holds.flatten {parts : List Bytes} {width : Nat} (h : Holds bytes start parts.flatten)
    (hwidth : ∀ part ∈ parts, part.length = width) {i : Nat} (hpart : parts[i]? = some part) :
    Holds bytes (start + width * i) part := by
  induction parts generalizing start i with
  | nil => simp at hpart
  | cons first rest ih =>
    rw [List.flatten_cons] at h
    cases i with
    | zero =>
      obtain rfl : first = part := by simpa using hpart
      simpa using h.left
    | succ i =>
      have hrest := ih h.right (fun part hmem => hwidth part (List.mem_cons_of_mem _ hmem))
        (by simpa using hpart)
      rwa [hwidth first List.mem_cons_self, Nat.add_assoc, Nat.add_comm width, ← Nat.mul_succ]
        at hrest

theorem length_flatten {parts : List Bytes} {width : Nat}
    (hwidth : ∀ part ∈ parts, part.length = width) :
    parts.flatten.length = width * parts.length := by
  induction parts with
  | nil => rfl
  | cons first rest ih =>
    rw [List.flatten_cons, List.length_append, hwidth first List.mem_cons_self,
      ih fun part hmem => hwidth part (List.mem_cons_of_mem _ hmem), List.length_cons, Nat.mul_succ]
    omega

end TensorLink.Bytes

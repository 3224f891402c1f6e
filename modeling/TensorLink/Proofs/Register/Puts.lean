import TensorLink.Register.Field

/-!
# Several fields of a register

A step of bring-up sets several fields of one register at once. The bits that it sets do not depend
on the register, and the others are kept; so what it does is not changed by anything that was done
to the same fields before.

Results:
* `putAll_congr`: only the bits outside the fields matter.
* `putAll_putAll`: setting fields makes up for anything that was done to them before.
* `read_putAll_of_mem`, `read_putAll_of_apart`: what a field reads that is set, and one that lies
  apart.
-/

namespace TensorLink.Field

variable {n : Nat}

/-- The register with several fields set, the last one of the list first. -/
def putAll (puts : List (Field × Nat)) (word : BitVec n) : BitVec n :=
  puts.foldr (fun put word => put.1.put put.2 word) word

theorem putAll_cons (put : Field × Nat) (puts : List (Field × Nat)) (word : BitVec n) :
    putAll (put :: puts) word = put.1.put put.2 (putAll puts word) := rfl

theorem getLsbD_putAll_congr {puts : List (Field × Nat)} {word word' : BitVec n} {bit : Nat}
    (hbit : bit < n)
    (h : (∀ put ∈ puts, ¬put.1.covers bit) → word.getLsbD bit = word'.getLsbD bit) :
    (putAll puts word).getLsbD bit = (putAll puts word').getLsbD bit := by
  induction puts with
  | nil => exact h fun _ hput => absurd hput List.not_mem_nil
  | cons put puts ih =>
    rw [putAll_cons, putAll_cons, getLsbD_put _ _ _ _ hbit, getLsbD_put _ _ _ _ hbit]
    split
    · rfl
    · next houtside => exact ih fun hputs => h (List.forall_mem_cons.mpr ⟨houtside, hputs⟩)

theorem getLsbD_putAll_of_outside {puts : List (Field × Nat)} (word : BitVec n) {bit : Nat}
    (hbit : bit < n) (houtside : ∀ put ∈ puts, ¬put.1.covers bit) :
    (putAll puts word).getLsbD bit = word.getLsbD bit := by
  induction puts with
  | nil => rfl
  | cons put puts ih =>
    obtain ⟨hput, hputs⟩ := List.forall_mem_cons.mp houtside
    rw [putAll_cons, getLsbD_put _ _ _ _ hbit, if_neg hput, ih hputs]

/-- Registers that agree outside the fields are set to the same. -/
theorem putAll_congr {puts : List (Field × Nat)} {word word' : BitVec n}
    (h : ∀ bit < n, (∀ put ∈ puts, ¬put.1.covers bit) → word.getLsbD bit = word'.getLsbD bit) :
    putAll puts word = putAll puts word' :=
  BitVec.eq_of_getLsbD_eq fun bit hbit => getLsbD_putAll_congr hbit (h bit hbit)

/-- Setting fields makes up for anything that was done to them before. -/
theorem putAll_putAll {puts puts' : List (Field × Nat)}
    (hfields : puts'.map (·.1) ⊆ puts.map (·.1)) (word : BitVec n) :
    putAll puts (putAll puts' word) = putAll puts word := by
  refine putAll_congr fun bit hbit houtside => getLsbD_putAll_of_outside word hbit ?_
  intro put' hput'
  obtain ⟨put, hput, hfield⟩ := List.mem_map.mp (hfields (List.mem_map_of_mem hput'))
  rw [← hfield]
  exact houtside put hput

/-- Two fields one of which ends before the other begins. -/
theorem not_covers_of_apart {field other : Field}
    (h : field.offset + field.width ≤ other.offset ∨ other.offset + other.width ≤ field.offset)
    (bit : Nat) : ¬(field.covers bit ∧ other.covers bit) := by
  unfold covers
  omega

/-- A field that is set reads what it was set to, if no two of the fields that are set overlap. -/
theorem read_putAll_of_mem {puts : List (Field × Nat)} (word : BitVec n) {put : Field × Nat}
    (hput : put ∈ puts)
    (hapart : puts.Pairwise fun put put' => put.1.offset + put.1.width ≤ put'.1.offset ∨
      put'.1.offset + put'.1.width ≤ put.1.offset)
    (hfits : ∀ put ∈ puts, put.1.offset + put.1.width ≤ n ∧ put.2 < put.1.bound) :
    put.1.read (putAll puts word) = put.2 := by
  induction puts with
  | nil => exact absurd hput List.not_mem_nil
  | cons first puts ih =>
    obtain ⟨hfirst, hputs⟩ := List.pairwise_cons.mp hapart
    obtain ⟨hfit, hfits⟩ := List.forall_mem_cons.mp hfits
    rw [putAll_cons]
    obtain rfl | hput := List.mem_cons.mp hput
    · exact read_put _ _ hfit.1 hfit.2
    · rw [read_put_of_disjoint _ _ _ _ (hfits put hput).1 (not_covers_of_apart (hfirst put hput)),
        ih hput hputs hfits]

/-- A field that lies apart from others is read as before they were set. -/
theorem read_putAll_of_apart (field : Field) {puts : List (Field × Nat)} (word : BitVec n)
    (hfits : field.offset + field.width ≤ n)
    (hapart : ∀ put ∈ puts, put.1.offset + put.1.width ≤ field.offset ∨
      field.offset + field.width ≤ put.1.offset) :
    field.read (putAll puts word) = field.read word := by
  induction puts with
  | nil => rfl
  | cons put puts ih =>
    obtain ⟨hput, hputs⟩ := List.forall_mem_cons.mp hapart
    rw [putAll_cons, read_put_of_disjoint _ _ _ _ hfits (not_covers_of_apart hput), ih hputs]

end TensorLink.Field

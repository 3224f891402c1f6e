import TensorLink.Proofs.Sequencing
import TensorLink.Table.View

/-!
# Reading an extended buffer

Every position is checked against the end of the buffer before it is read, and nothing else depends
on where the buffer ends. So what a reader finds in a buffer it finds in every extension of it; a
buffer that has been cut off either shows the same or is refused.

Results:
* `Lasts.bind`, `Lasts.mapM`: a sequence of readers lasts if each of them does.
* `lasts_follow`, `lasts_vector`, `lasts_ofPosition`: the readers of distances, vectors and tables.
* `lasts_u8`, …, `lasts_tables`: the readers of the fields of a table.
-/

namespace TensorLink

open Bytes

/-- Where the first ends well, the second ends in the same way. -/
def Lasts {ε α : Type} (short long : Except ε α) : Prop := ∀ a, short = .ok a → long = .ok a

namespace Lasts

variable {ε α β : Type}

theorem refl (e : Except ε α) : Lasts e e := fun _ h => h

/-- A failure may turn into anything. -/
theorem of_error (error : ε) (long : Except ε α) : Lasts (.error error) long := by
  intro a h
  cases h

theorem bind {short long : Except ε α} {f g : α → Except ε β} (h : Lasts short long)
    (hf : ∀ a, short = .ok a → Lasts (f a) (g a)) : Lasts (short >>= f) (long >>= g) := by
  cases hshort : short with
  | error error => exact of_error error _
  | ok a =>
    rw [h a hshort]
    exact hf a hshort

theorem mapM {f g : α → Except ε β} (h : ∀ a, Lasts (f a) (g a)) (l : List α) :
    Lasts (l.mapM f) (l.mapM g) := by
  induction l with
  | nil => exact refl _
  | cons a l ih =>
    rw [List.mapM_cons, List.mapM_cons]
    exact (h a).bind fun _ _ => ih.bind fun _ _ => refl _

/-- A check that a longer buffer passes as well. -/
theorem check {p q : Prop} [Decidable p] [Decidable q] {short long : Except ε α} {error : ε}
    {other : Except ε α} (hpq : p → q) (h : Lasts short long) :
    Lasts (if p then short else .error error) (if q then long else other) := by
  by_cases hp : p
  · rw [if_pos hp, if_pos (hpq hp)]
    exact h
  · rw [if_neg hp]
    exact of_error error _

/-- A fault that a longer buffer does not have either. -/
theorem checkNot {p q : Prop} [Decidable p] [Decidable q] {short long : Except ε α} {error : ε}
    {other : Except ε α} (hqp : q → p) (h : Lasts short long) :
    Lasts (if p then .error error else short) (if q then other else long) := by
  by_cases hp : p
  · rw [if_pos hp]
    exact of_error error _
  · rw [if_neg hp, if_neg fun hq => hp (hqp hq)]
    exact h

end Lasts

namespace TableView

variable (buffer more : Bytes)

/-! ## Numbers, distances and vectors -/

theorem take_drop_append {start size : Nat} (h : start + size ≤ buffer.length) :
    ((buffer ++ more).drop start).take size = (buffer.drop start).take size := by
  rw [List.drop_append_of_le_length (by omega),
    List.take_append_of_le_length (by rw [List.length_drop]; omega)]

theorem lasts_readNumber (position width : Nat) (what : String) :
    Lasts (readNumber buffer position width what)
      (readNumber (buffer ++ more) position width what) := by
  intro number h
  unfold readNumber slice? at h ⊢
  by_cases hend : position + width ≤ buffer.length
  · have hend' : position + width ≤ (buffer ++ more).length := by
      rw [List.length_append]
      omega
    rw [if_pos hend] at h
    rw [if_pos hend', take_drop_append buffer more hend]
    exact h
  · rw [if_neg hend] at h
    cases h

theorem lasts_follow (position : Nat) :
    Lasts (follow buffer position) (follow (buffer ++ more) position) := by
  unfold follow
  refine (lasts_readNumber buffer more position 4 _).bind fun distance _ => ?_
  refine .check (fun h => ?_) (.refl _)
  rw [List.length_append]
  omega

theorem lasts_vector (position elementSize : Nat) :
    Lasts (vector buffer position elementSize) (vector (buffer ++ more) position elementSize) := by
  unfold vector
  refine (lasts_readNumber buffer more position 4 _).bind fun count _ => ?_
  refine .check (fun h => ?_) (.refl _)
  rw [List.length_append]
  omega

/-- The elements of a vector that is found lie within the buffer. -/
theorem le_length_of_vector {position elementSize start count : Nat}
    (h : vector buffer position elementSize = .ok (start, count)) :
    start + count * elementSize ≤ buffer.length := by
  unfold vector at h
  cases hcount : readNumber buffer position 4 "u32" with
  | error error => rw [hcount] at h; cases h
  | ok number =>
    rw [hcount, Sequencing.ok_bind] at h
    split at h
    · cases h
      assumption
    · cases h

theorem lasts_octets (position : Nat) :
    Lasts (octets buffer position) (octets (buffer ++ more) position) := by
  unfold octets
  refine (lasts_vector buffer more position 1).bind fun (start, count) hvector => ?_
  have hend := le_length_of_vector buffer hvector
  dsimp only
  rw [take_drop_append buffer more (by omega)]
  exact .refl _

/-! ## Tables -/

theorem lasts_ofPosition (position : Nat) :
    Lasts (ofPosition buffer position) (ofPosition (buffer ++ more) position) := by
  unfold ofPosition
  refine (lasts_readNumber buffer more position 4 _).bind fun distance _ => ?_
  refine .checkNot id ?_
  refine (lasts_readNumber buffer more _ 2 _).bind fun size _ => ?_
  refine .checkNot (fun h => ?_) (.refl _)
  rw [List.length_append] at h
  omega

theorem lasts_root : Lasts (root buffer) (root (buffer ++ more)) := by
  unfold root
  refine .checkNot (fun h => ?_) ?_
  · rw [List.length_append] at h
    omega
  · exact (lasts_follow buffer more 0).bind fun position _ => lasts_ofPosition buffer more position

/-! ## Fields -/

variable (table : TableView) (slot : Nat)

theorem lasts_field? :
    Lasts (table.field? buffer slot) (table.field? (buffer ++ more) slot) := by
  unfold field?
  split
  · exact .refl _
  · exact (lasts_readNumber buffer more _ 2 _).bind fun offset _ => .refl _

theorem lasts_scalar? (width : Nat) :
    Lasts (table.scalar? buffer slot width) (table.scalar? (buffer ++ more) slot width) := by
  unfold scalar?
  refine (lasts_field? buffer more table slot).bind fun position _ => ?_
  cases position with
  | none => exact .refl _
  | some position => exact (lasts_readNumber buffer more position width _).bind fun _ _ => .refl _

theorem lasts_u8 (absent : UInt8) :
    Lasts (table.u8 buffer slot absent) (table.u8 (buffer ++ more) slot absent) :=
  (lasts_scalar? buffer more table slot 1).bind fun _ _ => .refl _

theorem lasts_i16 (absent : Int16) :
    Lasts (table.i16 buffer slot absent) (table.i16 (buffer ++ more) slot absent) :=
  (lasts_scalar? buffer more table slot 2).bind fun _ _ => .refl _

theorem lasts_i32 (absent : Int32) :
    Lasts (table.i32 buffer slot absent) (table.i32 (buffer ++ more) slot absent) :=
  (lasts_scalar? buffer more table slot 4).bind fun _ _ => .refl _

theorem lasts_u64 (absent : UInt64) :
    Lasts (table.u64 buffer slot absent) (table.u64 (buffer ++ more) slot absent) :=
  (lasts_scalar? buffer more table slot 8).bind fun _ _ => .refl _

theorem lasts_table? :
    Lasts (table.table? buffer slot) (table.table? (buffer ++ more) slot) := by
  unfold table?
  refine (lasts_field? buffer more table slot).bind fun position _ => ?_
  cases position with
  | none => exact .refl _
  | some position =>
    refine (lasts_follow buffer more position).bind fun target _ => ?_
    exact (lasts_ofPosition buffer more target).bind fun _ _ => .refl _

theorem lasts_bytes? :
    Lasts (table.bytes? buffer slot) (table.bytes? (buffer ++ more) slot) := by
  unfold bytes?
  refine (lasts_field? buffer more table slot).bind fun position _ => ?_
  cases position with
  | none => exact .refl _
  | some position =>
    refine (lasts_follow buffer more position).bind fun target _ => ?_
    exact (lasts_octets buffer more target).bind fun _ _ => .refl _

theorem lasts_text? :
    Lasts (table.text? buffer slot) (table.text? (buffer ++ more) slot) :=
  (lasts_bytes? buffer more table slot).bind fun _ _ => .refl _

/-- The words of a vector are read from its octets alone. -/
theorem words_append (count : Nat) (octets rest : Bytes) (h : 4 * count ≤ octets.length) :
    words count (octets ++ rest) = words count octets := by
  induction count generalizing octets with
  | zero => rfl
  | succ count ih =>
    rw [words, words, List.take_append_of_le_length (by omega),
      List.drop_append_of_le_length (by omega), ih _ (by rw [List.length_drop]; omega)]

theorem lasts_i32s : Lasts (table.i32s buffer slot) (table.i32s (buffer ++ more) slot) := by
  unfold i32s
  refine (lasts_field? buffer more table slot).bind fun position _ => ?_
  cases position with
  | none => exact .refl _
  | some position =>
    refine (lasts_follow buffer more position).bind fun target _ => ?_
    refine (lasts_vector buffer more target 4).bind fun (start, count) hvector => ?_
    have hend := le_length_of_vector buffer hvector
    dsimp only
    rw [List.drop_append_of_le_length (by omega),
      words_append count _ more (by rw [List.length_drop]; omega)]
    exact .refl _

theorem lasts_targets :
    Lasts (table.targets buffer slot) (table.targets (buffer ++ more) slot) := by
  unfold targets
  refine (lasts_field? buffer more table slot).bind fun position _ => ?_
  cases position with
  | none => exact .refl _
  | some position =>
    refine (lasts_follow buffer more position).bind fun target _ => ?_
    refine (lasts_vector buffer more target 4).bind fun (start, count) _ => ?_
    exact .mapM (fun index => lasts_follow buffer more (start + 4 * index)) (List.range count)

theorem lasts_tables : Lasts (table.tables buffer slot) (table.tables (buffer ++ more) slot) :=
  (lasts_targets buffer more table slot).bind fun targets _ =>
    .mapM (lasts_ofPosition buffer more) targets

end TableView

end TensorLink

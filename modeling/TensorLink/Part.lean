import TensorLink.Error

/-!
# Parts of a state

An operation on a part of a larger state is an operation on the whole, which leaves the rest of it
alone. `Part σ τ` says how to look at the part and how to replace it.

* `focus_of_ok`, `focus_of_error`: how an operation on the part ends.
-/

namespace TensorLink

/-- A part in state `τ` of something in state `σ`. -/
structure Part (σ τ : Type) where
  look : σ → τ
  replace : τ → σ → σ

namespace Part

variable {σ τ α : Type}

/-- Runs a function of the part. -/
def run (part : Part σ τ) (operation : τ → α × τ) (whole : σ) : α × σ :=
  let (result, inner) := operation (part.look whole)
  (result, part.replace inner whole)

/-- Changes the part. -/
def change (part : Part σ τ) (operation : τ → τ) (whole : σ) : σ :=
  part.replace (operation (part.look whole)) whole

/-- An operation on the part, as one on the whole. -/
def focus (part : Part σ τ) (operation : DeviceM τ α) : DeviceM σ α := fun whole =>
  match operation (part.look whole) with
  | .ok value inner => .ok value (part.replace inner whole)
  | .error error inner => .error error (part.replace inner whole)

/-- An operation that succeeds on the part succeeds on the whole. -/
theorem focus_of_ok (part : Part σ τ) (whole : σ) {operation : DeviceM τ α} {value : α} {inner : τ}
    (h : operation (part.look whole) = .ok value inner) :
    part.focus operation whole = .ok value (part.replace inner whole) := by
  simp only [focus, h]

/-- An operation that fails on the part fails on the whole, with what it has changed. -/
theorem focus_of_error (part : Part σ τ) (whole : σ) {operation : DeviceM τ α}
    {error : DriverError} {inner : τ} (h : operation (part.look whole) = .error error inner) :
    part.focus operation whole = .error error (part.replace inner whole) := by
  simp only [focus, h]

end Part

end TensorLink

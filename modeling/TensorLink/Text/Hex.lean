/-!
# Hexadecimal text

Addresses, identifiers and status codes are shown in lower-case hexadecimal after `0x`, with at
least a given number of digits.

* `digits_length_le`: at least the requested number of digits is shown.
-/

namespace TensorLink.Text.Hex

/-- The lower-case hexadecimal digits of `value`, filled with zeros to at least `least` digits. -/
def digits (least value : Nat) : List Char :=
  let shown := Nat.toDigits 16 value
  List.replicate (least - shown.length) '0' ++ shown

/-- `value` after `0x`, with at least `least` digits. -/
def padded (least value : Nat) : String := String.ofList ('0' :: 'x' :: digits least value)

/-- `value` after `0x`, with no digit more than it needs. -/
def plain (value : Nat) : String := padded 1 value

/-- At least so many digits are written as were asked for. -/
theorem digits_length_le (least value : Nat) : least ≤ (digits least value).length := by
  simp only [digits, List.length_append, List.length_replicate]
  omega

end TensorLink.Text.Hex

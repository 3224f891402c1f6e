/-!
# Reading natural numbers

A number in a setting is an optional `+` and at least one ASCII digit, and lies below a limit. The
characters are taken from left to right, and the first one that is no digit, or takes the number to
the limit, decides which fault is reported.
-/

namespace TensorLink.Text.Natural

/-- Why a text is not a number below the limit. -/
inductive Fault where
  | empty
  | invalidDigit
  | overflow
  deriving DecidableEq, Repr

/-- The wording of a fault. -/
def Fault.message : Fault → String
  | .empty => "cannot parse integer from empty string"
  | .invalidDigit => "invalid digit found in string"
  | .overflow => "number too large to fit in target type"

/-- Reads digits onto the number read so far. -/
def readDigits (limit : Nat) : Nat → List Char → Except Fault Nat
  | value, [] => .ok value
  | value, c :: rest =>
    if c.isDigit then
      let next := 10 * value + (c.toNat - '0'.toNat)
      if next < limit then readDigits limit next rest else .error .overflow
    else .error .invalidDigit

/-- The number below `limit` that the text spells. -/
def read (limit : Nat) (text : String) : Except Fault Nat :=
  match text.toList with
  | [] => .error .empty
  | ['+'] => .error .invalidDigit
  | '+' :: rest => readDigits limit 0 rest
  | cs => readDigits limit 0 cs

end TensorLink.Text.Natural

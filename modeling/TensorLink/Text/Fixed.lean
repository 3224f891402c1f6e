/-!
# Numbers with a fixed number of decimal places

A single-precision number is shown as the nearest decimal with so many places; a number halfway
between two of them goes to the even one. The number is taken exactly: it is a whole number times a
power of two, and a number below one is the quotient of two whole numbers.

* `le_roundEven`, `roundEven_le`: rounding moves a quotient by half at most.
-/

namespace TensorLink.Text.Fixed

/-- The whole number nearest to a quotient, the even one of two that are equally near. -/
def roundEven (numerator denominator : Nat) : Nat :=
  let quotient := numerator / denominator
  let twice := 2 * (numerator % denominator)
  if twice < denominator then quotient
  else if denominator < twice then quotient + 1
  else if quotient % 2 = 0 then quotient
  else quotient + 1

/-- A number of units, each of which is one in the last of so many decimal places. -/
def ofUnits (places units : Nat) : String :=
  let whole := toString (units / Nat.pow 10 places)
  let shown := Nat.toDigits 10 (units % Nat.pow 10 places)
  if places = 0 then whole
  else String.ofList (whole.toList ++ '.' :: List.replicate (places - shown.length) '0' ++ shown)

/-- The number of fractions that share an exponent. -/
def fractions : Nat := 0x800000

/-- The number of exponents, the one of infinite numbers included. -/
def exponents : Nat := 0x100

/-- The significand and the exponent of the magnitude of a finite number with the given bits. -/
def magnitude (bits : Nat) : Nat × Int :=
  let exponent : Nat := bits / fractions % exponents
  let fraction := bits % fractions
  if exponent = 0 then (fraction, -149) else (fraction + fractions, (exponent : Int) - 150)

/-- The magnitude in units of the last of so many decimal places, rounded. -/
def units (places : Nat) : Nat × Int → Nat
  | (significand, .ofNat exponent) => significand * Nat.pow 10 places * Nat.pow 2 exponent
  | (significand, .negSucc exponent) =>
    roundEven (significand * Nat.pow 10 places) (Nat.pow 2 (exponent + 1))

/-- A number with so many decimal places. -/
def ofFloat32 (places : Nat) (value : Float32) : String :=
  let bits := value.toBits.toNat
  let sign := if bits < fractions * exponents then "" else "-"
  if bits / fractions % exponents = exponents - 1 then
    if bits % fractions = 0 then sign ++ "inf" else "NaN"
  else sign ++ ofUnits places (units places (magnitude bits))

/-- Rounding goes down by half at most. -/
theorem le_roundEven (numerator denominator : Nat) (positive : 0 < denominator) :
    2 * numerator ≤ 2 * (denominator * roundEven numerator denominator) + denominator := by
  have split := Nat.div_add_mod numerator denominator
  have rest := Nat.mod_lt numerator positive
  unfold roundEven
  simp only
  have more : denominator * (numerator / denominator + 1) =
      denominator * (numerator / denominator) + denominator := Nat.mul_succ ..
  by_cases below : 2 * (numerator % denominator) < denominator
  · rw [if_pos below]; omega
  · rw [if_neg below]
    by_cases above : denominator < 2 * (numerator % denominator)
    · rw [if_pos above, more]; omega
    · rw [if_neg above]
      by_cases even : numerator / denominator % 2 = 0
      · rw [if_pos even]; omega
      · rw [if_neg even, more]; omega

/-- Rounding goes up by half at most. -/
theorem roundEven_le (numerator denominator : Nat) (positive : 0 < denominator) :
    2 * (denominator * roundEven numerator denominator) ≤ 2 * numerator + denominator := by
  have split := Nat.div_add_mod numerator denominator
  have rest := Nat.mod_lt numerator positive
  unfold roundEven
  simp only
  have more : denominator * (numerator / denominator + 1) =
      denominator * (numerator / denominator) + denominator := Nat.mul_succ ..
  by_cases below : 2 * (numerator % denominator) < denominator
  · rw [if_pos below]; omega
  · rw [if_neg below]
    by_cases above : denominator < 2 * (numerator % denominator)
    · rw [if_pos above, more]; omega
    · rw [if_neg above]
      by_cases even : numerator / denominator % 2 = 0
      · rw [if_pos even]; omega
      · rw [if_neg even, more]; omega

end TensorLink.Text.Fixed

/-!
# Blank characters

A character is blank when Unicode gives it the property `White_Space`. Settings and mode names are
read with the blanks at both ends removed, and without regard to the case of ASCII letters.

* `isBlank_of_isWhitespace`: every ASCII white-space character is blank.
-/

namespace TensorLink.Text

/-- The ranges of code points with the property `White_Space`, both ends included. -/
def blankRanges : List (Nat × Nat) :=
  [(0x09, 0x0D), (0x20, 0x20), (0x85, 0x85), (0xA0, 0xA0), (0x1680, 0x1680), (0x2000, 0x200A),
    (0x2028, 0x2029), (0x202F, 0x202F), (0x205F, 0x205F), (0x3000, 0x3000)]

/-- Whether a character is blank. -/
def isBlank (c : Char) : Bool :=
  blankRanges.any fun range => range.1 ≤ c.toNat && c.toNat ≤ range.2

/-- The text without the blanks at its two ends. -/
def trim (text : String) : String :=
  let body := text.toList.dropWhile isBlank
  String.ofList (body.reverse.dropWhile isBlank).reverse

/-- The text with its ASCII capital letters made small. -/
def foldCase (text : String) : String := String.ofList (text.toList.map Char.toLower)

/-- The white space of ASCII is blank. -/
theorem isBlank_of_isWhitespace {c : Char} (h : c.isWhitespace = true) : isBlank c = true := by
  simp only [Char.isWhitespace, Bool.or_eq_true, decide_eq_true_eq] at h
  rcases h with ((h | h) | h) | h <;> subst h <;> decide

end TensorLink.Text

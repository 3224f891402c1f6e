import TensorLink.Bytes

/-!
# Files

What reading a file has found. The program reads its files before it works on them, so that
everything after the reading is a function of this value.
-/

namespace TensorLink

/-- What a path leads to. -/
inductive FileSource where
  /-- Nothing is there. -/
  | missing
  /-- Something is there that cannot be read, for the given reason. -/
  | unreadable (detail : String)
  /-- A file with these octets. -/
  | content (octets : Bytes)
  deriving DecidableEq, Repr

end TensorLink

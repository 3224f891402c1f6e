/-!
# Model errors

What can be wrong with a compiled model: its file, its tables, the values in them, or the shape of a
layer. `ModelError.message` is the one place that words them.

Reference: `edgetpu-models`, `error`; SPEC_FULL 7.
-/

namespace TensorLink

/-- Why a model cannot be used. -/
inductive ModelError where
  /-- No file has this path. -/
  | fileNotFound (path : String)
  /-- The octets are no well-formed tree of tables. -/
  | malformed (reason : String)
  /-- A table lacks a field that it must have. -/
  | missingField (table field : String)
  /-- A field holds a number outside its range. -/
  | unknownValue (field : String) (value : Int)
  /-- No executable of the package runs inference. -/
  | noInferenceExecutable
  /-- The geometry of a layer does not fit a buffer. -/
  | invalidLayer (name reason : String)
  /-- The file cannot be read. -/
  | io (detail : String)
  deriving DecidableEq, Repr

namespace ModelError

/-- The name of the kind of an error. -/
def kind : ModelError → String
  | fileNotFound _ => "FileNotFound"
  | malformed _ => "Malformed"
  | missingField .. => "MissingField"
  | unknownValue .. => "UnknownValue"
  | noInferenceExecutable => "NoInferenceExecutable"
  | invalidLayer .. => "InvalidLayer"
  | io _ => "Io"

/-- The wording of an error. -/
def message : ModelError → String
  | fileNotFound path => s!"Package file not found: {path}"
  | malformed reason => s!"Malformed package: {reason}"
  | missingField table field => s!"{table} is missing required field '{field}'"
  | unknownValue field value => s!"{field} has unknown value {value}"
  | noInferenceExecutable => "Package has no inference executable"
  | invalidLayer name reason => s!"Invalid layer '{name}': {reason}"
  | io detail => s!"I/O error: {detail}"

/-- The wordings of the errors behind this one, outermost first. -/
def causes : ModelError → List String
  | io detail => [detail]
  | _ => []

end ModelError

end TensorLink

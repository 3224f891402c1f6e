import TensorLink.Error

/-!
# Reports

What a run of the program comes to: its exit code, and what it writes to its output and to its error
output. A run writes lines until it ends or fails; a failure is reported with its causes, one below
the other, numbered if there are several.

Reference: `edgetpu-cli`; SPEC_FULL 10.5.
-/

namespace TensorLink.Command

/-- The end of a run. -/
structure Report where
  code : Nat
  output : String
  errors : String
  deriving DecidableEq, Repr

/-- A failure of the program: what it says, and what it was caused by. -/
structure Failure where
  message : String
  causes : List String := []
  deriving DecidableEq, Repr

namespace Failure

/-- A driver error as a failure. -/
def ofError (error : DriverError) : Failure := ⟨error.message, error.causes⟩

/-- A cause after its label, with its further lines indented by as much. -/
def cause (label : String) (text : String) : String :=
  let margin := String.ofList (List.replicate label.length ' ')
  label ++ ("\n" ++ margin).intercalate (text.splitOn "\n") ++ "\n"

/-- Numbered causes, the first one numbered `number`. -/
def numbered : Nat → List String → String
  | _, [] => ""
  | number, text :: rest =>
    let digits := toString number
    let margin := String.ofList (List.replicate (5 - digits.length) ' ')
    cause (margin ++ digits ++ ": ") text ++ numbered (number + 1) rest

/-- The text of a failure. -/
def text (failure : Failure) : String :=
  "Error: " ++ failure.message ++ "\n" ++
    match failure.causes with
    | [] => ""
    | [single] => "\nCaused by:\n" ++ cause "    " single
    | several => "\nCaused by:\n" ++ numbered 0 several

end Failure

/-- A part of a run, which adds to what has been written. -/
abbrev RunM := EStateM Failure String

namespace RunM

/-- Writes a line. -/
def line (text : String) : RunM Unit := modify (· ++ text ++ "\n")

/-- Goes on with a value, or fails. -/
def ofExcept {α : Type} : Except DriverError α → RunM α
  | .ok value => pure value
  | .error error => throw (Failure.ofError error)

/-- The report of a whole run. -/
def report (run : RunM Unit) : Report :=
  match run "" with
  | .ok () output => ⟨0, output, ""⟩
  | .error failure output => ⟨1, output, failure.text⟩

end RunM

end TensorLink.Command

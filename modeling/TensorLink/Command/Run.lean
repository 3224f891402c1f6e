import TensorLink.Command.Demo
import TensorLink.Command.Inspect
import TensorLink.Command.Line

/-!
# Running the program

The program runs without an accelerator: it inspects packages and demonstrates itself on simulated
devices. The commands for hardware are refused, because this build cannot reach any.

Reference: `edgetpu-cli`; SPEC_FULL 10.5.
-/

namespace TensorLink.Command

/-- What is said of a call that fits no form, and of the forms when help is asked for. -/
def forms : String :=
  "Usage: edgetpu [-v] inspect PACKAGE\n" ++
  "       edgetpu [-v] simulate [--mode MODE]\n" ++
  "       edgetpu [-v] enumerate\n" ++
  "       edgetpu [-v] temperature [--mode MODE]\n" ++
  "       edgetpu [-v] invoke PACKAGE INPUT [--mode MODE] [--output FILE]\n" ++
  "       edgetpu [-v] dfu FIRMWARE\n"

/-- The program's name and version. -/
def version : String := "edgetpu 0.1.0\n"

/-- Why a command for hardware is refused (`NEEDS_USB`). -/
def needsHardware : Failure := ⟨"this command needs a build with `--features usb`", []⟩

/-- Carries out a call. -/
def perform (lookup : String → Option String) (read : String → FileSource) (call : Call) :
    RunM Unit :=
  match call.verb with
  | .inspect =>
    let path := call.operands.headD ""
    Inspect.run path (read path)
  | .simulate => Demo.run lookup call.mode
  | .enumerate | .temperature | .invoke | .dfu => throw needsHardware

/-- Runs the program on a command line; `lookup` gives settings and `read` reads files. -/
def run (lookup : String → Option String) (read : String → FileSource) (words : List String) :
    Report :=
  match parse words with
  | .ok call => (perform lookup read call).report
  | .error .usage => ⟨2, "", forms⟩
  | .error .help => ⟨0, forms, ""⟩
  | .error .version => ⟨0, version, ""⟩

end TensorLink.Command

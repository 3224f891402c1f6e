import TensorLink.Command.Run

/-!
# The program

Reads the settings and the file that the command line names, runs the program on them, and writes
what it reports.
-/

namespace TensorLink

/-- Reads a file. -/
def readSource (path : String) : IO FileSource := do
  try
    return .content (← IO.FS.readBinFile path).toList
  catch error =>
    match error with
    | .noFileOrDirectory .. => return .missing
    | other => return .unreadable (toString other)

/-- The settings that the environment makes. -/
def readSettings : IO (List (String × String)) := do
  let keys := [DriverConfig.modeKey, DriverConfig.controlTimeoutKey, DriverConfig.bulkTimeoutKey,
    DriverConfig.pollLimitKey, DriverConfig.openTimeoutKey]
  keys.filterMapM fun key => do
    return (← IO.getEnv key).map fun value => (key, value)

end TensorLink

open TensorLink in
def main (words : List String) : IO UInt32 := do
  let settings ← readSettings
  let source ← match Command.parse words with
    | .ok ⟨.inspect, path :: _, _, _, _⟩ => readSource path
    | _ => pure .missing
  let report := Command.run (fun key => List.lookup key settings) (fun _ => source) words
  IO.print report.output
  IO.eprint report.errors
  return UInt32.ofNat report.code

import TensorLink.FileSource

/-!
# A directory in memory

Files by name, for reading without a file system. A path leads to the file that it names, blank and
single-dot components apart; the directory itself and those above it cannot be read as files.
-/

namespace TensorLink.Simulation

/-- The files of a directory by name. -/
structure Directory where
  files : List (String × Bytes)

namespace Directory

/-- What reading a directory as a file reports. -/
def unreadable : FileSource := .unreadable "Is a directory (os error 21)"

/-- The components of a path that lead somewhere else. -/
def components (path : String) : List String :=
  (path.splitOn "/").filter fun component => component != "" && component != "."

/-- What a path leads to. -/
def look (directory : Directory) (path : String) : FileSource :=
  match components path with
  | [] => if path.isEmpty then .missing else unreadable
  | [name] =>
    if name = ".." then unreadable
    else if path.startsWith "/" || path.endsWith "/" || path.endsWith "/." then .missing
    else
      match directory.files.lookup name with
      | some octets => .content octets
      | none => .missing
  | _ => .missing

end Directory

end TensorLink.Simulation

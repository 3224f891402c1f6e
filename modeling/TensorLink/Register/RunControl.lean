/-!
# Run control

Each execution unit of the chip has a run-control register. A chip lists these registers by name and
offset, and marks one that it does not have by an offset that no register has.

Reference: `edgetpu-chip`, `run_control`; SPEC_FULL 4.2, run control.

* `mem_present_iff`: the present entries of a table are those with a real offset.
-/

namespace TensorLink

/-- What a run-control register is told to do. -/
inductive RunControl where
  | idle
  | run
  | halt
  | singleStep
  deriving DecidableEq, Repr

/-- The name of a state. -/
def RunControl.name : RunControl → String
  | idle => "Idle"
  | run => "Run"
  | halt => "Halt"
  | singleStep => "SingleStep"

/-- The number that stands for a state in a run-control register. -/
def RunControl.value : RunControl → Nat
  | idle => 0
  | run => 1
  | halt => 2
  | singleStep => 3

/-- What a run-status register reports. -/
inductive RunStatus where
  | idle
  | run
  | singleStep
  | halting
  | halted
  deriving DecidableEq, Repr

/-- The name of a status. -/
def RunStatus.name : RunStatus → String
  | idle => "Idle"
  | run => "Run"
  | singleStep => "SingleStep"
  | halting => "Halting"
  | halted => "Halted"

/-- The status that a number in a run-status register stands for. -/
def RunStatus.ofNat? : Nat → Option RunStatus
  | 0 => some idle
  | 1 => some run
  | 2 => some singleStep
  | 3 => some halting
  | 4 => some halted
  | _ => none

/-- The offset of a register that a chip does not have (`ABSENT`). -/
def absentOffset : Nat := UInt64.size - 1

/-- A run-control register by name and offset (`RunControlBlock`). -/
structure RunControlEntry where
  name : String
  offset : Nat
  deriving DecidableEq, Repr

namespace RunControlEntry

/-- Whether the chip does not have the register. -/
def isAbsent (entry : RunControlEntry) : Bool := entry.offset == absentOffset

/-- The entries of a table whose register the chip has, in the same order. -/
def present (table : List RunControlEntry) : List RunControlEntry :=
  table.filter fun entry => !entry.isAbsent

theorem mem_present_iff {table : List RunControlEntry} {entry : RunControlEntry} :
    entry ∈ present table ↔ entry ∈ table ∧ entry.offset ≠ absentOffset := by
  simp [present, isAbsent]

end RunControlEntry

end TensorLink

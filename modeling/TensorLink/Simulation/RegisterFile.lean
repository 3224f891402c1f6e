import TensorLink.Register.Access
import TensorLink.Register.Chip
import TensorLink.Register.Layout

/-!
# A register file

Registers without a transport, for running bring-up against arbitrary values. A register may be
given a list of values that its reads return one after the other before its own; one access may be
made to fail; and the power register may report sleep and wakefulness as it is told.
-/

namespace TensorLink.Simulation

/-- The kind of an access. -/
inductive AccessKind where
  | read32
  | read64
  | write32
  | write64
  deriving DecidableEq, Repr

/-- The name of a kind of access. -/
def AccessKind.name : AccessKind → String
  | read32 => "r32"
  | read64 => "r64"
  | write32 => "w32"
  | write64 => "w64"

/-- An access by kind, offset and value. -/
structure AccessTrace where
  kind : AccessKind
  offset : Nat
  value : Nat
  deriving DecidableEq, Repr

/-- The state of a register file. -/
structure RegisterFile where
  registers : Nat → BitVec 64
  /-- The values that reads of an offset return first. -/
  scheduled : Nat → List (BitVec 64)
  /-- The offset of the power register, if it reports sleep and wakefulness. -/
  power : Option Nat
  /-- The number of the access that fails, counted from 1 since the record was last taken. -/
  failing : Option Nat
  /-- The number of accesses since the record was last taken. -/
  count : Nat := 0
  /-- The accesses since the record was last taken, the latest first. -/
  log : List AccessTrace := []

namespace RegisterFile

/-- The file of a chip whose identity is as expected, with other values of some registers and values
that some of them return first. -/
def ofTables (chip : Chip) (values : List (Nat × BitVec 64))
    (scheduled : List (Nat × List (BitVec 64))) (powered : Bool) (failing : Option Nat) :
    RegisterFile where
  registers offset :=
    ((values.reverse.lookup offset).getD
      (if offset = chip.apex.omc000 then BitVec.ofNat 64 (chip.chipId <<< 16) else 0))
  scheduled offset := (scheduled.reverse.lookup offset).getD []
  power := if powered then some chip.scu.scuCtrl3 else none
  failing := failing

/-- Records an access, and fails if it is the one to fail. -/
def note (kind : AccessKind) (offset value : Nat) : DeviceM RegisterFile Unit := do
  let file ← get
  let number := file.count + 1
  set { file with count := number, log := ⟨kind, offset, value⟩ :: file.log }
  if file.failing = some number then throw (.transferFailed s!"access {number}")

/-- The value that the next read of an offset returns. -/
def fetch (offset : Nat) : DeviceM RegisterFile (BitVec 64) := do
  let file ← get
  match file.scheduled offset with
  | [] => return file.registers offset
  | value :: rest =>
    set { file with
      scheduled := fun other => if other = offset then rest else file.scheduled other }
    return value

/-- Gives a register a value. -/
def store (offset : Nat) (value : BitVec 64) : DeviceM RegisterFile Unit := do
  modify fun file => { file with
    registers := fun other => if other = offset then value else file.registers other }

/-- The value that the power register holds after it has been told something. -/
def reported (value : BitVec 64) : BitVec 64 :=
  ScuCtrl3.powerState.put (if ScuCtrl3.forceSleep.read value = 3 then 2 else 0) value

/-- Writes a register. -/
def write (kind : AccessKind) (offset : Nat) (value : BitVec 64) : DeviceM RegisterFile Unit := do
  note kind offset value.toNat
  let powered := (← get).power = some offset
  store offset (if powered then reported value else value)

/-- Reads a register. -/
def read (n : Nat) (kind : AccessKind) (offset : Nat) : DeviceM RegisterFile (BitVec n) := do
  let value := (← fetch offset).setWidth n
  note kind offset value.toNat
  return value

/-- Access to the registers. -/
def access : RegisterAccess RegisterFile where
  read32 := read 32 .read32
  read64 := read 64 .read64
  write32 offset value := write .write32 offset (value.setWidth 64)
  write64 := write .write64

/-- The accesses since the record was last taken, oldest first, and the file with none recorded. -/
def takeLog (file : RegisterFile) : List AccessTrace × RegisterFile :=
  (file.log.reverse, { file with count := 0, log := [] })

end RegisterFile

end TensorLink.Simulation

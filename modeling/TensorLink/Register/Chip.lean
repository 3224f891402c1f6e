import TensorLink.Register.RunControl

/-!
# Chips

A chip is described by its name, the number it identifies itself with, the offsets of the registers
that bring-up touches, and its two tables of run-control registers. `Chip.beagle` is the chip of the
USB accelerator.

Reference: `edgetpu-chip`, `config` and `regs`; SPEC_FULL 3 and 4.2.

* `beagle_scalarCore`: the register that bring-up waits for on a Beagle.
-/

namespace TensorLink

/-- Offsets of the identity and temperature registers. -/
structure ApexOffsets where
  omc000 : Nat
  omc0D0 : Nat
  omc0D8 : Nat
  omc0Dc : Nat
  deriving DecidableEq, Repr

/-- Offsets of the power and clock registers. -/
structure ScuOffsets where
  scuCtrl0 : Nat
  scuCtrl2 : Nat
  scuCtrl3 : Nat
  deriving DecidableEq, Repr

/-- Offsets of the registers of the USB front end. -/
structure UsbOffsets where
  descrEp : Nat
  multiBoEp : Nat
  outfeedChunkLength : Nat
  deriving DecidableEq, Repr

/-- What the host has to know of a chip (`ChipConfig`). -/
structure Chip where
  name : String
  chipId : Nat
  apex : ApexOffsets
  scu : ScuOffsets
  gcbbCredit0 : Nat
  idleRegister : Nat
  tileConfig0 : Nat
  deepSleep : Nat
  usb : UsbOffsets
  /-- Run controls of the scalar core, in the order in which they are written. -/
  scalarRunControls : List RunControlEntry
  /-- Run controls of the tiles, in the order in which they are written. -/
  tileRunControls : List RunControlEntry
  deriving DecidableEq, Repr

namespace Chip

/-- The entries for the numbered issues of a tile unit, none of which a Beagle has. -/
def absentIssues (unit : String) : List RunControlEntry :=
  (List.range 8).map fun issue => ⟨s!"{unit}_{issue}", absentOffset⟩

/-- Run controls of the scalar core of a Beagle. -/
def beagleScalarCore : List RunControlEntry :=
  [⟨"scalarCoreRunControl", 0x44018⟩, ⟨"avDataPopRunControl", 0x44158⟩,
    ⟨"parameterPopRunControl", 0x44198⟩, ⟨"infeedRunControl", 0x441d8⟩,
    ⟨"outfeedRunControl", 0x44218⟩]

/-- Run controls of the tiles of a Beagle. -/
def beagleTiles : List RunControlEntry :=
  [⟨"opRunControl", 0x400c0⟩] ++ absentIssues "opRunControl" ++
  [⟨"narrowToWideRunControl", 0x40150⟩] ++ absentIssues "narrowToWideRunControl" ++
  [⟨"wideToNarrowRunControl", 0x40110⟩] ++ absentIssues "wideToNarrowRunControl" ++
  [⟨"meshBus0RunControl", 0x40250⟩, ⟨"meshBus1RunControl", 0x40298⟩,
    ⟨"meshBus2RunControl", 0x402e0⟩, ⟨"meshBus3RunControl", 0x40328⟩,
    ⟨"ringBusConsumer0RunControl", 0x40190⟩, ⟨"ringBusConsumer1RunControl", 0x401d0⟩,
    ⟨"ringBusProducerRunControl", 0x40210⟩, ⟨"narrowToNarrowRunControl", absentOffset⟩]

/-- The chip of the USB accelerator. -/
def beagle : Chip where
  name := "beagle"
  chipId := 0x89A
  apex := ⟨0x1a000, 0x1a0d0, 0x1a0d8, 0x1a0dc⟩
  scu := ⟨0x1a30c, 0x1a314, 0x1a318⟩
  gcbbCredit0 := 0x1907c
  idleRegister := 0x4a000
  tileConfig0 := 0x48788
  deepSleep := 0x40020
  usb := ⟨0x4c148, 0x4c160, 0x4c058⟩
  scalarRunControls := beagleScalarCore
  tileRunControls := beagleTiles

/-- The run control of the scalar core: the first entry of its table that the chip has
(`scalar_core_run_control`). -/
def scalarCore? (chip : Chip) : Option Nat :=
  (RunControlEntry.present chip.scalarRunControls).head?.map (·.offset)

/-- The first run control of the scalar core of a Beagle is there. -/
theorem beagle_scalarCore : beagle.scalarCore? = some 0x44018 := by decide

end Chip

end TensorLink

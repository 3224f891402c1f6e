import TensorLink.Register.Access
import TensorLink.Register.Chip
import TensorLink.Register.Performance

/-!
# Bring-up

Bring-up takes a chip from reset to running at a performance mode. It is one forward sequence of
register accesses with three waits; the first failure ends it, and the whole sequence may be run
again.

| Step | Registers | Action |
|------|-----------|--------|
| 1 | `omc0_00` | check the chip's identity |
| 2 | `omc0_00` | write a test pattern and read it back |
| 3 | `scu_ctrl_0` | clear the modes of inactive links |
| 4 | `scu_ctrl_2` | disable clock gating |
| 5 | `scu_ctrl_3`, `gcbb_credit0` | force sleep, wait for it, pulse credits |
| 6 | `scu_ctrl_3` | leave sleep with the mode's clocks, wait until awake |
| 7 | scalar core run control | wait for zero |
| 8 | `idleRegister`, `tileconfig0` | enable idling, select every tile |
| 9 | `deepSleep` | set the sleep and wake delays |
| 10 | `scu_ctrl_2` | enable clock gating |
| 11 | USB front end | set endpoints and the output chunk length |
| 12 | `omc0_d0`, `omc0_d8`, `omc0_dc` | start the temperature sensor |
| 13 | run controls | set every unit running |

Reference: `edgetpu-driver`, `bringup`; SPEC_FULL 4.2.

* `poll_succ`: a wait reads once per attempt.
-/

namespace TensorLink

/-- A chip behind a way to access its registers (`BringUp`). -/
structure BringUp (σ : Type) where
  registers : RegisterAccess σ
  chip : Chip
  /-- How often a register is read before a wait fails. -/
  pollLimit : Nat

namespace BringUp

variable {σ : Type}

/-- The pattern written to the test register. -/
def testPattern : Nat := 0xAA

/-- The value of the force-sleep field that puts the chip to sleep. -/
def enterSleep : Nat := 3

/-- The value of the force-sleep field that wakes the chip. -/
def exitSleep : Nat := 2

/-- The power state of a sleeping chip. -/
def asleep : Nat := 2

/-- The power state of a chip that is awake. -/
def awake : Nat := 0

/-- The value of the gating field that disables clock gating. -/
def gatingDisabled : Nat := 2

/-- The value of the gating field that enables clock gating. -/
def gatingEnabled : Nat := 1

/-- The address field of the temperature sensor. -/
def sensorAddress : Nat := 0xC

/-- Reads until a value is as wanted, at most `attempts` more times. -/
def poll {α : Type} (read : DeviceM σ α) (wanted : α → Bool) (exhausted : DriverError) :
    Nat → DeviceM σ α
  | 0 => throw exhausted
  | attempts + 1 => do
    let value ← read
    if wanted value then return value else poll read wanted exhausted attempts

/-- Waits for a condition on a 32-bit register (`poll32`). -/
def await32 (self : BringUp σ) (offset : Nat) (condition : String)
    (wanted : BitVec 32 → Bool) : DeviceM σ Unit := do
  let _ ← poll (self.registers.read32 offset) wanted
    (.pollExhausted offset condition self.pollLimit) self.pollLimit

/-- Waits for a condition on a 64-bit register (`poll64`). -/
def await64 (self : BringUp σ) (offset : Nat) (condition : String)
    (wanted : BitVec 64 → Bool) : DeviceM σ Unit := do
  let _ ← poll (self.registers.read64 offset) wanted
    (.pollExhausted offset condition self.pollLimit) self.pollLimit

/-- Reads a 32-bit register and writes it back changed. -/
def modify32 (self : BringUp σ) (offset : Nat) (change : BitVec 32 → BitVec 32) :
    DeviceM σ Unit := do
  let word ← self.registers.read32 offset
  self.registers.write32 offset (change word)

/-- Step 1; the register is needed again in step 2 (`check_chip_id`). -/
def checkChipId (self : BringUp σ) : DeviceM σ (BitVec 32) := do
  let word ← self.registers.read32 self.chip.apex.omc000
  if Omc000.chipId.read word ≠ self.chip.chipId then
    throw (.chipIdMismatch self.chip.chipId (Omc000.chipId.read word))
  return word

/-- Step 2 (`check_test_register`). -/
def checkTestRegister (self : BringUp σ) (word : BitVec 32) : DeviceM σ Unit := do
  let offset := self.chip.apex.omc000
  self.registers.write32 offset (Omc000.testReg0.put testPattern word)
  let echoed := Omc000.testReg0.read (← self.registers.read32 offset)
  if echoed ≠ testPattern then
    let found := Text.Hex.padded 2 echoed
    let wrote := Text.Hex.padded 2 testPattern
    throw (.protocol s!"test register read back {found}, wrote {wrote}")

/-- Step 3 (`disable_inactive_phy_modes`). -/
def clearInactiveModes (self : BringUp σ) : DeviceM σ Unit := do
  let offset := self.chip.scu.scuCtrl0
  self.modify32 offset fun word =>
    ScuCtrl0.usbInactivePhyMode.put 0 (ScuCtrl0.pcieInactivePhyMode.put 0 word)
  let _ ← self.registers.read32 offset

/-- Steps 4 and 10 (`set_clock_gating`). -/
def setClockGating (self : BringUp σ) (gating : Nat) : DeviceM σ Unit :=
  self.modify32 self.chip.scu.scuCtrl2 (ScuCtrl2.gatedGcb.put gating)

/-- Step 5: a chip that is asleep already is left alone (`enter_reset`). -/
def enterReset (self : BringUp σ) : DeviceM σ Unit := do
  let offset := self.chip.scu.scuCtrl3
  let word ← self.registers.read32 offset
  if ScuCtrl3.forceSleep.read word ≠ enterSleep then
    self.registers.write32 offset (ScuCtrl3.forceSleep.put enterSleep word)
    self.await32 offset "cur_pwr_state == sleep" fun word => ScuCtrl3.powerState.read word == asleep
    self.registers.write32 self.chip.gcbbCredit0 0xF
    self.registers.write32 self.chip.gcbbCredit0 0

/-- Step 6 (`exit_reset`). -/
def exitReset (self : BringUp σ) (mode : PerformanceMode) : DeviceM σ Unit := do
  let offset := self.chip.scu.scuCtrl3
  self.modify32 offset fun word => mode.apply (ScuCtrl3.forceSleep.put exitSleep word)
  self.await32 offset "cur_pwr_state == awake" fun word => ScuCtrl3.powerState.read word == awake

/-- Step 7 (`wait_scalar_core`). -/
def awaitScalarCore (self : BringUp σ) : DeviceM σ Unit :=
  match self.chip.scalarCore? with
  | none => pure ()
  | some offset => self.await64 offset "scalarCoreRunControl == 0" fun word => word == 0

/-- Selects every tile and waits until the selection holds (`broadcast_tiles`). -/
def selectAllTiles (self : BringUp σ) : DeviceM σ Unit := do
  let offset := self.chip.tileConfig0
  self.registers.write64 offset TileConfig.broadcast
  self.await64 offset "tileconfig0 == broadcast" fun word => word == TileConfig.broadcast

/-- Step 8 (`configure_idle_and_tiles`). -/
def configureIdling (self : BringUp σ) : DeviceM σ Unit := do
  let word := IdleRegister.counter.put 1 (IdleRegister.disableIdle.put 0 (0 : BitVec 64))
  self.registers.write64 self.chip.idleRegister word
  self.selectAllTiles

/-- Step 9 (`configure_deep_sleep`). -/
def configureDeepSleep (self : BringUp σ) : DeviceM σ Unit :=
  self.registers.write64 self.chip.deepSleep
    (DeepSleep.toWakeDelay.put 30 (DeepSleep.toSleepDelay.put 2 (0 : BitVec 64)))

/-- Step 11 (`configure_usb_dma`). -/
def configureUsb (self : BringUp σ) : DeviceM σ Unit := do
  self.registers.write64 self.chip.usb.descrEp 0xF0
  self.registers.write64 self.chip.usb.multiBoEp 0
  self.registers.write64 self.chip.usb.outfeedChunkLength 0x20

/-- Step 12 (`enable_temperature_sensor`). -/
def startTemperatureSensor (self : BringUp σ) : DeviceM σ Unit := do
  let apex := self.chip.apex
  self.modify32 apex.omc0D0 fun word =>
    Omc0D0.tSetting.put 0 (Omc0D0.tslope.put 0 (Omc0D0.tref.put 0
      (Omc0D0.adr.put sensorAddress (Omc0D0.clkEn.put 1 word))))
  self.modify32 apex.omc0D8 fun word =>
    Omc0D8.enad.put 1 (Omc0D8.envr.put 1 (Omc0D8.enbg.put 1 word))
  self.modify32 apex.omc0Dc (Omc0Dc.enthmc.put 1)

/-- Writes a state to the registers of a table that the chip has. -/
def writeRunControls (self : BringUp σ) (table : List RunControlEntry) (state : RunControl) :
    DeviceM σ Unit :=
  (RunControlEntry.present table).forM fun entry =>
    self.registers.write64 entry.offset (BitVec.ofNat 64 state.value)

/-- Step 13, also for other states: the scalar core first, then every tile (`set_run_control`). -/
def setRunControl (self : BringUp σ) (state : RunControl) : DeviceM σ Unit := do
  self.writeRunControls self.chip.scalarRunControls state
  self.selectAllTiles
  self.writeRunControls self.chip.tileRunControls state

/-- Runs every step in order. -/
def run (self : BringUp σ) (mode : PerformanceMode) : DeviceM σ Unit := do
  let word ← self.checkChipId
  self.checkTestRegister word
  self.clearInactiveModes
  self.setClockGating gatingDisabled
  let _ ← self.registers.read32 self.chip.scu.scuCtrl2
  self.enterReset
  self.exitReset mode
  self.awaitScalarCore
  self.configureIdling
  self.configureDeepSleep
  self.setClockGating gatingEnabled
  self.configureUsb
  self.startTemperatureSensor
  self.setRunControl .run

/-- The temperature of the chip in degrees Celsius. -/
def temperature (self : BringUp σ) : DeviceM σ Float32 := do
  return Omc0Dc.celsius (← self.registers.read32 self.chip.apex.omc0Dc)

theorem poll_succ {α : Type} (read : DeviceM σ α) (wanted : α → Bool) (exhausted : DriverError)
    (attempts : Nat) : poll read wanted exhausted (attempts + 1) = (do
      let value ← read
      if wanted value then pure value else poll read wanted exhausted attempts) := rfl

end BringUp

end TensorLink

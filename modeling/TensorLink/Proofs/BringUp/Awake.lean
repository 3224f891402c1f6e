import TensorLink.Proofs.BringUp.AccessOrder
import TensorLink.Proofs.BringUp.Restart

/-!
# Bringing up a chip that is awake

A Beagle that is awake is brought up from whatever its registers hold, if no transfer is lost. In
the end every register that bring-up uses as a whole holds a fixed number, every register of which
it uses some fields holds these and is otherwise what it was, and no other register has changed.

Results:
* `broughtUp_of_settled`: registers that have settled are those of a chip that has been brought up.
* `run_brings_up`: bring-up ends well, and the chip has been brought up.
-/

namespace TensorLink.BringUp

open Simulation

/-! ## Specification -/

/-- The fields that bring-up changes, by register. The temperature register is written back with the
    sensor's sample in it. -/
def changedFields : List (Nat × List Field) :=
  [(Chip.beagle.apex.omc000, [Omc000.testReg0]),
    (Chip.beagle.scu.scuCtrl0, [ScuCtrl0.usbInactivePhyMode, ScuCtrl0.pcieInactivePhyMode]),
    (Chip.beagle.scu.scuCtrl2, [ScuCtrl2.gatedGcb]),
    (Chip.beagle.scu.scuCtrl3, [ScuCtrl3.powerState, ScuCtrl3.usb8051Clock, ScuCtrl3.axiClock,
      ScuCtrl3.gcbClock, ScuCtrl3.forceSleep]),
    (Chip.beagle.apex.omc0D0, [Omc0D0.tSetting, Omc0D0.tslope, Omc0D0.tref, Omc0D0.adr,
      Omc0D0.clkEn]),
    (Chip.beagle.apex.omc0D8, [Omc0D8.enad, Omc0D8.envr, Omc0D8.enbg]),
    (Chip.beagle.apex.omc0Dc, [Omc0Dc.enthmc, Omc0Dc.data])]

/-- The clocks that a power register selects. -/
def SelectsClocks (clocks : ClockTriple) (word : BitVec 32) : Prop :=
  ScuCtrl3.gcbClock.read word = clocks.gcb.code ∧ ScuCtrl3.axiClock.read word = clocks.axi.code ∧
    ScuCtrl3.usb8051Clock.read word = clocks.usb.code

/-- A chip that has been brought up at a performance mode. -/
structure BroughtUp (mode : PerformanceMode) (start finish : Beagle) : Prop where
  /-- The chip runs at the clocks of the mode. -/
  clocks : SelectsClocks mode.clocks ((finish.registers Chip.beagle.scu.scuCtrl3).setWidth 32)
  /-- It has been told to wake up, and reports that it is awake. -/
  awake : ScuCtrl3.forceSleep.read ((finish.registers Chip.beagle.scu.scuCtrl3).setWidth 32) = 2 ∧
    ScuCtrl3.powerState.read ((finish.registers Chip.beagle.scu.scuCtrl3).setWidth 32) = 0
  /-- Every unit that it has is running. -/
  running : ∀ entry ∈ RunControlEntry.present
    (Chip.beagle.scalarRunControls ++ Chip.beagle.tileRunControls),
      finish.registers entry.offset = 1
  selected : finish.registers Chip.beagle.tileConfig0 = 0x7F
  credits : finish.registers Chip.beagle.gcbbCredit0 = 0
  gated : ScuCtrl2.gatedGcb.read ((finish.registers Chip.beagle.scu.scuCtrl2).setWidth 32) = 1
  /-- Of a register of which bring-up changes some fields, the other bits are kept. -/
  kept : ∀ entry ∈ changedFields, ∀ bit < 32, (∀ field ∈ entry.2, ¬field.covers bit) →
    (finish.registers entry.1).getLsbD bit = (start.registers entry.1).getLsbD bit
  /-- A register that bring-up does not use is kept. -/
  untouched : ∀ offset, ¬Uses Chip.beagle offset →
    finish.registers offset = start.registers offset

/-! ## Registers that have settled -/

section

variable {mode : PerformanceMode} {start finish : Beagle} {sample : Nat}

theorem runControls_eq : runControls =
    RunControlEntry.present (Chip.beagle.scalarRunControls ++ Chip.beagle.tileRunControls) :=
  (List.filter_append _ _).symm

theorem uses_of_mem_touched : ∀ offset ∈ touched, Uses Chip.beagle offset := by
  have htouched : ∀ offset ∈ touched,
      offset ∈ fixedOffsets Chip.beagle ∨ offset ∈ runOffsets := by decide +kernel
  intro offset hoffset
  refine (htouched offset hoffset).imp_right fun hrun => ?_
  obtain ⟨entry, hentry, rfl⟩ := List.mem_map.mp hrun
  exact ⟨entry, runControls_eq ▸ hentry, rfl⟩

/-- What the fields of the power register read in the end. -/
theorem read_awakeFields (mode : PerformanceMode) (sample : Nat) (value : BitVec 64) :
    ∀ put ∈ awakeFields mode,
      put.1.read ((settle mode sample power value).setWidth 32) = put.2 := by
  intro put hput
  rw [settle_power, setWidth_word]
  refine Field.read_putAll_of_mem _ hput ?_ ?_
  · cases mode <;> decide
  · cases mode <;> decide

theorem lookup_settledFields (mode : PerformanceMode) (sample : Nat) :
    ∀ entry ∈ settledFields mode sample,
      (settledFields mode sample).lookup entry.1 = some entry.2 := by
  simp only [settledFields, List.forall_mem_cons]
  exact ⟨rfl, rfl, rfl, rfl, rfl, rfl, rfl, nofun⟩

/-- Bits outside the fields that are changed are kept. -/
theorem getLsbD_settle {entry : Nat × List Field} (hentry : entry ∈ changedFields) {bit : Nat}
    (hbit : bit < 32) (houtside : ∀ field ∈ entry.2, ¬field.covers bit) (value : BitVec 64) :
    (settle mode sample entry.1 value).getLsbD bit = value.getLsbD bit := by
  have hlow (word : BitVec 64) : word.getLsbD bit = (word.setWidth 32).getLsbD bit := by
    rw [BitVec.getLsbD_setWidth, decide_eq_true hbit, Bool.true_and]
  have hfields : changedFields =
      (settledFields mode sample).map fun entry => (entry.1, entry.2.map (·.1)) := rfl
  obtain ⟨⟨offset, puts⟩, hputs, rfl⟩ := List.mem_map.mp (hfields ▸ hentry)
  have hlookup : (settledFields mode sample).lookup offset = some puts :=
    lookup_settledFields mode sample _ hputs
  rw [settle_of_fields hlookup, hlow, hlow value, setWidth_word]
  exact Field.getLsbD_putAll_of_outside _ hbit fun put hput =>
    houtside put.1 (List.mem_map_of_mem hput)

/-- Registers that have settled are those of a chip that has been brought up. -/
theorem broughtUp_of_settled
    (h : ∀ offset, finish.registers offset =
      settle mode start.sample offset (start.registers offset)) : BroughtUp mode start finish := by
  have hpower := read_awakeFields mode start.sample (start.registers power)
  rw [← h] at hpower
  simp only [awakeFields, List.forall_mem_cons] at hpower
  obtain ⟨hstate, husb, haxi, hgcb, hsleep, -⟩ := hpower
  refine
    { clocks := ⟨hgcb, haxi, husb⟩
      awake := ⟨hsleep, hstate⟩
      running := fun entry hentry => ?_
      selected := ?_
      credits := ?_
      gated := ?_
      kept := fun entry hentry bit hbit houtside => ?_
      untouched := fun offset hoffset => ?_ }
  · rw [h, settle_runOffset _ _ (List.mem_map.mpr ⟨entry, runControls_eq ▸ hentry, rfl⟩)]
    rfl
  · rw [h, settle_of_number (by decide) rfl]
    rfl
  · rw [h, settle_of_number (by decide) rfl]
  · rw [h, settle_of_fields rfl, setWidth_word]
    exact Field.read_put _ _ (by decide) (by decide)
  · rw [h, getLsbD_settle hentry hbit houtside]
  · rw [h, settle_of_untouched (mt (uses_of_mem_touched offset) hoffset)]

end

/-! ## Main theorem -/

variable {τ : Type}

/-- **Bring-up succeeds on every Beagle that is awake.** -/
theorem run_brings_up (carrier : LossyCarrier τ) (hsound : ¬carrier.mayFail) {config : DriverConfig}
    (hlimit : 1 ≤ config.pollLimit) (mode : PerformanceMode) {link : Link τ}
    (hready : carrier.LinkReady link) (hidentified : Identified (carrier.chip link))
    (hawake : ¬Dormant (carrier.chip link)) :
    ∃ after, (carrier.bringUp config).run mode link = .ok () after ∧
      BroughtUp mode (carrier.chip link) (carrier.chip after) := by
  obtain ⟨after, hrun, hregisters⟩ :
      ∃ after, (carrier.bringUp config).run mode link = .ok () after ∧
        (carrier.chip after).registers = outcome mode (carrier.chip link) :=
    exists_ok_run carrier hsound hlimit hready hidentified fun h => absurd h hawake
  refine ⟨after, hrun, broughtUp_of_settled fun offset => ?_⟩
  rw [hregisters, outcome_of_not_dormant hawake]

/-- A chip with a number in every register, that is awake and has been running. -/
def usedChip : Beagle where
  registers offset :=
    if offset = Chip.beagle.apex.omc000 then 0xDEADBEEF089A0055
    else if offset = Chip.beagle.scu.scuCtrl3 then 0xFFFFFFFFFFBFFFFF
    else BitVec.ofNat 64 (offset * 0x9E3779B97F4A7C15)
  sample := 1023

/-- Such a chip is brought up at the lowest speed, with a single read for each wait. -/
theorem run_brings_up_usedChip :
    let link : Link Beagle := { owner := 3, transport := usedChip }
    ¬LossyCarrier.direct.mayFail ∧ LossyCarrier.direct.LinkReady link ∧
      Identified (LossyCarrier.direct.chip link) ∧ ¬Dormant (LossyCarrier.direct.chip link) ∧
      ∃ after, (LossyCarrier.direct.bringUp { pollLimit := 1 }).run .low link = .ok () after ∧
        BroughtUp .low (LossyCarrier.direct.chip link) (LossyCarrier.direct.chip after) := by
  intro link
  have hready : LossyCarrier.direct.LinkReady link := ⟨CompletionQueue.ready_nil 0, trivial⟩
  have hidentified : Identified (LossyCarrier.direct.chip link) := by decide
  have hawake : ¬Dormant (LossyCarrier.direct.chip link) := by decide
  exact ⟨id, hready, hidentified, hawake,
    run_brings_up .direct id (Nat.le_refl 1) .low hready hidentified hawake⟩

end TensorLink.BringUp

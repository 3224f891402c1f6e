import TensorLink.BringUp
import TensorLink.Proofs.Register.Puts
import TensorLink.Simulation.Beagle

/-!
# What bring-up makes of a register

Bring-up gives each register that it writes a last value: a fixed number, or what the register held
with some fields set. Every write on the way there is made up for by the last one, so a register
that has been written in the course of bring-up and one that has not settle to the same value.

Results:
* `settle_of_fields`, `settle_of_number`, `settle_of_untouched`: the value that a register settles
  to.
* `settle_settle`: a register that has settled stays as it is.
* `Progress.advance`: what writes keep on the way.
-/

namespace TensorLink.BringUp

open Simulation

/-! ## The values that registers settle to -/

/-- What a register of 32 bits holds after a change. -/
def word (change : BitVec 32 → BitVec 32) (value : BitVec 64) : BitVec 64 :=
  (change (value.setWidth 32)).setWidth 64

/-- The fields of the power register of a chip that has been put to sleep. -/
def sleepFields : List (Field × Nat) :=
  [(ScuCtrl3.powerState, asleep), (ScuCtrl3.forceSleep, enterSleep)]

/-- The fields of the power register of a chip that has been woken up at a performance mode. -/
def awakeFields (mode : PerformanceMode) : List (Field × Nat) :=
  [(ScuCtrl3.powerState, awake), (ScuCtrl3.usb8051Clock, mode.clocks.usb.code),
    (ScuCtrl3.axiClock, mode.clocks.axi.code), (ScuCtrl3.gcbClock, mode.clocks.gcb.code),
    (ScuCtrl3.forceSleep, exitSleep)]

/-- The fields that bring-up leaves set, by register. The temperature register is read with the
    sensor's sample in it, and written back. -/
def settledFields (mode : PerformanceMode) (sample : Nat) : List (Nat × List (Field × Nat)) :=
  [(Chip.beagle.apex.omc000, [(Omc000.testReg0, testPattern)]),
    (Chip.beagle.scu.scuCtrl0,
      [(ScuCtrl0.usbInactivePhyMode, 0), (ScuCtrl0.pcieInactivePhyMode, 0)]),
    (Chip.beagle.scu.scuCtrl2, [(ScuCtrl2.gatedGcb, gatingEnabled)]),
    (Chip.beagle.scu.scuCtrl3, awakeFields mode),
    (Chip.beagle.apex.omc0D0,
      [(Omc0D0.tSetting, 0), (Omc0D0.tslope, 0), (Omc0D0.tref, 0), (Omc0D0.adr, sensorAddress),
        (Omc0D0.clkEn, 1)]),
    (Chip.beagle.apex.omc0D8, [(Omc0D8.enad, 1), (Omc0D8.envr, 1), (Omc0D8.enbg, 1)]),
    (Chip.beagle.apex.omc0Dc, [(Omc0Dc.enthmc, 1), (Omc0Dc.data, sample)])]

/-- The run controls of a Beagle. -/
def runControls : List RunControlEntry :=
  RunControlEntry.present Chip.beagle.scalarRunControls ++
    RunControlEntry.present Chip.beagle.tileRunControls

/-- The numbers that bring-up leaves in the other registers that it writes. -/
def settledValues : List (Nat × BitVec 64) :=
  [(Chip.beagle.gcbbCredit0, 0),
    (Chip.beagle.idleRegister, IdleRegister.counter.put 1 (IdleRegister.disableIdle.put 0 0)),
    (Chip.beagle.tileConfig0, TileConfig.broadcast),
    (Chip.beagle.deepSleep, DeepSleep.toWakeDelay.put 30 (DeepSleep.toSleepDelay.put 2 0)),
    (Chip.beagle.usb.descrEp, 0xF0), (Chip.beagle.usb.multiBoEp, 0),
    (Chip.beagle.usb.outfeedChunkLength, 0x20)] ++
  runControls.map fun entry => (entry.offset, BitVec.ofNat 64 RunControl.run.value)

/-- What a register holds in the end. -/
def settle (mode : PerformanceMode) (sample offset : Nat) (value : BitVec 64) : BitVec 64 :=
  match (settledFields mode sample).lookup offset with
  | some puts => word (Field.putAll puts) value
  | none => (settledValues.lookup offset).getD value

/-- The registers that bring-up writes. -/
def touched : List Nat := (settledFields .max 0).map (·.1) ++ settledValues.map (·.1)

section

variable {mode : PerformanceMode} {sample offset : Nat}

theorem word_word (change change' : BitVec 32 → BitVec 32) (value : BitVec 64) :
    word change (word change' value) = word (fun low => change (change' low)) value := by
  unfold word
  rw [BitVec.setWidth_setWidth_of_le _ (by decide), BitVec.setWidth_eq]

/-- Setting fields makes up for what was done to them before. -/
theorem word_putAll {puts puts' : List (Field × Nat)}
    (hfields : puts'.map (·.1) ⊆ puts.map (·.1)) (value : BitVec 64) :
    word (Field.putAll puts) (word (Field.putAll puts') value) =
      word (Field.putAll puts) value := by
  rw [word_word, word, word, Field.putAll_putAll hfields]

theorem settle_of_fields {puts : List (Field × Nat)}
    (hoffset : (settledFields mode sample).lookup offset = some puts) (value : BitVec 64) :
    settle mode sample offset value = word (Field.putAll puts) value := by
  rw [settle, hoffset]

theorem settle_of_value {settled : BitVec 64}
    (hfields : (settledFields mode sample).lookup offset = none)
    (hoffset : settledValues.lookup offset = some settled) (value : BitVec 64) :
    settle mode sample offset value = settled := by
  rw [settle, hfields, hoffset]
  rfl

theorem settle_of_absent (hfields : (settledFields mode sample).lookup offset = none)
    (hvalues : settledValues.lookup offset = none) (value : BitVec 64) :
    settle mode sample offset value = value := by
  rw [settle, hfields, hvalues]
  rfl

theorem lookup_eq_none {α : Type} {table : List (Nat × α)} (h : offset ∉ table.map (·.1)) :
    table.lookup offset = none := by
  refine List.lookup_eq_none_iff.mpr fun entry hentry => ?_
  rw [bne_iff_ne]
  exact fun hoffset => h (List.mem_map.mpr ⟨entry, hentry, hoffset.symm⟩)

/-- The registers of which bring-up sets fields are the same for every mode and sample. -/
theorem settle_of_number {settled : BitVec 64}
    (hfields : offset ∉ (settledFields .max 0).map (·.1))
    (hoffset : settledValues.lookup offset = some settled) (value : BitVec 64) :
    settle mode sample offset value = settled := by
  have hfields : offset ∉ (settledFields mode sample).map (·.1) := hfields
  exact settle_of_value (lookup_eq_none hfields) hoffset value

theorem settle_of_untouched (hoffset : offset ∉ touched) (value : BitVec 64) :
    settle mode sample offset value = value := by
  have hfields : offset ∉ (settledFields mode sample).map (·.1) :=
    fun h => hoffset (List.mem_append_left _ h)
  have hvalues : offset ∉ settledValues.map (·.1) := fun h => hoffset (List.mem_append_right _ h)
  exact settle_of_absent (lookup_eq_none hfields) (lookup_eq_none hvalues) value

/-- A register that has settled stays as it is. -/
theorem settle_settle (value : BitVec 64) :
    settle mode sample offset (settle mode sample offset value) =
      settle mode sample offset value := by
  cases hfields : (settledFields mode sample).lookup offset with
  | some puts => rw [settle_of_fields hfields, settle_of_fields hfields, word_putAll fun _ h => h]
  | none =>
    cases hvalue : settledValues.lookup offset with
    | some settled => rw [settle_of_value hfields hvalue, settle_of_value hfields hvalue]
    | none => rw [settle_of_absent hfields hvalue]

/-- Setting fields of a register does not change what it settles to, if bring-up sets them later. -/
theorem settle_word {puts puts' : List (Field × Nat)}
    (hoffset : (settledFields mode sample).lookup offset = some puts)
    (hfields : puts'.map (·.1) ⊆ puts.map (·.1)) (value : BitVec 64) :
    settle mode sample offset (word (Field.putAll puts') value) =
      settle mode sample offset value := by
  rw [settle_of_fields hoffset, settle_of_fields hoffset, word_putAll hfields]

end

/-! ## On the way -/

/-- How far bring-up has come: the registers that it has written, and those that have settled. -/
structure Progress (mode : PerformanceMode) (start : Beagle) (written settled : List Nat)
    (beagle : Beagle) : Prop where
  sample : beagle.sample = start.sample
  /-- Every register still settles to what it would have settled to at the start. -/
  pending : ∀ offset, settle mode start.sample offset (beagle.registers offset) =
    settle mode start.sample offset (start.registers offset)
  settled : ∀ offset ∈ settled,
    settle mode start.sample offset (beagle.registers offset) = beagle.registers offset
  unwritten : ∀ offset ∉ written, beagle.registers offset = start.registers offset

section Progress

variable {mode : PerformanceMode} {start before after : Beagle}
  {written settled changed settled' : List Nat}

theorem progress_nil (mode : PerformanceMode) (start : Beagle) : Progress mode start [] [] start :=
  ⟨rfl, fun _ => rfl, fun _ h => absurd h List.not_mem_nil, fun _ _ => rfl⟩

/-- Some registers are changed, and all of these that have settled then hold their last values. -/
theorem Progress.advance (progress : Progress mode start written settled before)
    (hsample : after.sample = before.sample)
    (hkept : ∀ offset ∉ changed, after.registers offset = before.registers offset)
    (hpending : ∀ offset ∈ changed, settle mode start.sample offset (after.registers offset) =
      settle mode start.sample offset (before.registers offset))
    (hold : ∀ offset ∈ settled', offset ∉ changed → offset ∈ settled)
    (hsettled : ∀ offset ∈ settled', offset ∈ changed →
      settle mode start.sample offset (after.registers offset) = after.registers offset) :
    Progress mode start (changed ++ written) settled' after := by
  refine ⟨hsample.trans progress.sample, fun offset => ?_, fun offset hoffset => ?_,
    fun offset hoffset => ?_⟩
  · by_cases hchanged : offset ∈ changed
    · exact (hpending offset hchanged).trans (progress.pending offset)
    · rw [hkept offset hchanged]
      exact progress.pending offset
  · by_cases hchanged : offset ∈ changed
    · exact hsettled offset hoffset hchanged
    · rw [hkept offset hchanged]
      exact progress.settled offset (hold offset hoffset hchanged)
  · rw [List.mem_append, not_or] at hoffset
    rw [hkept offset hoffset.1]
    exact progress.unwritten offset hoffset.2

/-- A register other than the power register gets its last value. -/
theorem Progress.finish {offset : Nat} {value : BitVec 64}
    (progress : Progress mode start written settled before)
    (hordinary : offset ≠ Chip.beagle.scu.scuCtrl3)
    (hpending : settle mode start.sample offset value =
      settle mode start.sample offset (before.registers offset))
    (hsettled : settle mode start.sample offset value = value) :
    Progress mode start (offset :: written) (offset :: settled)
      (before.writeRegister offset value) := by
  have hvalue : (before.writeRegister offset value).registers offset = value := by
    rw [Beagle.writeRegister, if_neg hordinary, Beagle.registers_setRegister_self]
  have hkept (other : Nat) (hother : other ∉ [offset]) :
      (before.writeRegister offset value).registers other = before.registers other :=
    Beagle.registers_writeRegister_of_ne before value hordinary (by simpa using hother)
  refine progress.advance ?_ hkept ?_ ?_ ?_
  · rw [Beagle.writeRegister, if_neg hordinary]
    rfl
  · intro other hother
    rw [List.mem_singleton.mp hother, hvalue, hpending]
  · intro other hother hkept
    exact (List.mem_cons.mp hother).resolve_left (by simpa using hkept)
  · intro other _ hother
    rw [List.mem_singleton.mp hother, hvalue, hsettled]

/-- A register other than the power register gets a value that is not its last. -/
theorem Progress.touch {offset : Nat} {value : BitVec 64}
    (progress : Progress mode start written settled before)
    (hordinary : offset ≠ Chip.beagle.scu.scuCtrl3) (hunsettled : offset ∉ settled)
    (hpending : settle mode start.sample offset value =
      settle mode start.sample offset (before.registers offset)) :
    Progress mode start (offset :: written) settled (before.writeRegister offset value) := by
  have hkept (other : Nat) (hother : other ∉ [offset]) :
      (before.writeRegister offset value).registers other = before.registers other :=
    Beagle.registers_writeRegister_of_ne before value hordinary (by simpa using hother)
  refine progress.advance ?_ hkept ?_ (fun _ h _ => h) ?_
  · rw [Beagle.writeRegister, if_neg hordinary]
    rfl
  · intro other hother
    rw [List.mem_singleton.mp hother, Beagle.writeRegister, if_neg hordinary,
      Beagle.registers_setRegister_self, hpending]
  · intro other hother hchanged
    exact absurd (List.mem_singleton.mp hchanged ▸ hother) hunsettled

end Progress

/-! ## Sleeping and waking -/

theorem setWidth_word (change : BitVec 32 → BitVec 32) (value : BitVec 64) :
    (word change value).setWidth 32 = change (value.setWidth 32) := by
  rw [word, BitVec.setWidth_setWidth_of_le _ (by decide), BitVec.setWidth_eq]

/-- The offset of the power register. -/
abbrev power : Nat := Chip.beagle.scu.scuCtrl3

/-- The offsets of the run controls. -/
def runOffsets : List Nat := runControls.map (·.offset)

theorem runOffsets_eq : runOffsets =
    (RunControlEntry.present Chip.beagle.scalarRunControls).map (·.offset) ++
      (RunControlEntry.present Chip.beagle.tileRunControls).map (·.offset) :=
  List.map_append

theorem lt_of_mem_runOffsets : ∀ offset ∈ runOffsets, offset < UInt32.size := by
  decide +kernel

theorem isRunControl_iff (offset : Nat) :
    Beagle.isRunControl offset = true ↔ offset ∈ runOffsets := by
  simp [Beagle.isRunControl, runOffsets, runControls]

theorem lookup_runOffset : ∀ offset ∈ runOffsets, offset ∉ (settledFields .max 0).map (·.1) ∧
    settledValues.lookup offset = some (BitVec.ofNat 64 RunControl.run.value) := by
  decide +kernel

/-- The run controls settle to the same value. -/
theorem settle_runOffset (mode : PerformanceMode) (sample : Nat) {offset : Nat}
    (hoffset : offset ∈ runOffsets) (value : BitVec 64) :
    settle mode sample offset value = BitVec.ofNat 64 RunControl.run.value :=
  settle_of_number (lookup_runOffset offset hoffset).1 (lookup_runOffset offset hoffset).2 value

/-- Sleep is reported, and clears the run controls. -/
theorem writeRegister_sleep (beagle : Beagle) :
    beagle.writeRegister power ((ScuCtrl3.forceSleep.put enterSleep
        ((beagle.registers power).setWidth 32)).setWidth 64) =
      (beagle.setRegister power
        (word (Field.putAll sleepFields) (beagle.registers power))).clearRunControls := by
  unfold Beagle.writeRegister Beagle.writePower
  rw [if_pos rfl]
  dsimp only
  rw [BitVec.setWidth_setWidth_of_le _ (by decide), BitVec.setWidth_eq]
  have hsleep : ScuCtrl3.forceSleep.read (ScuCtrl3.forceSleep.put enterSleep
      ((beagle.registers power).setWidth 32)) = Beagle.sleepRequest :=
    Field.read_put _ _ (by decide) (by decide)
  rw [if_pos hsleep, if_pos hsleep]
  rfl

/-- Setting the clocks leaves the request to sleep or to wake up alone. -/
theorem forceSleep_apply (mode : PerformanceMode) (low : BitVec 32) :
    ScuCtrl3.forceSleep.read (mode.apply low) = ScuCtrl3.forceSleep.read low := by
  let clocks : List (Field × Nat) :=
    [(ScuCtrl3.usb8051Clock, mode.clocks.usb.code), (ScuCtrl3.axiClock, mode.clocks.axi.code),
      (ScuCtrl3.gcbClock, mode.clocks.gcb.code)]
  have happly : mode.apply low = Field.putAll clocks low := rfl
  rw [happly, Field.read_putAll_of_apart _ _ (by decide)]
  simp [clocks, ScuCtrl3.usb8051Clock, ScuCtrl3.axiClock, ScuCtrl3.gcbClock, ScuCtrl3.forceSleep]

/-- Wakefulness is reported. -/
theorem writeRegister_wake (mode : PerformanceMode) (beagle : Beagle) :
    beagle.writeRegister power ((mode.apply (ScuCtrl3.forceSleep.put exitSleep
        ((beagle.registers power).setWidth 32))).setWidth 64) =
      beagle.setRegister power
        (word (Field.putAll (awakeFields mode)) (beagle.registers power)) := by
  unfold Beagle.writeRegister Beagle.writePower
  rw [if_pos rfl]
  dsimp only
  rw [BitVec.setWidth_setWidth_of_le _ (by decide), BitVec.setWidth_eq]
  have hwake : ScuCtrl3.forceSleep.read (mode.apply (ScuCtrl3.forceSleep.put exitSleep
      ((beagle.registers power).setWidth 32))) = exitSleep := by
    rw [forceSleep_apply, Field.read_put _ _ (by decide) (by decide)]
  have hawake : ¬exitSleep = Beagle.sleepRequest := by decide
  rw [hwake, if_neg hawake, if_neg hawake]
  rfl

section

variable {mode : PerformanceMode} {start before : Beagle} {written settled : List Nat}

theorem settle_power (sample : Nat) (value : BitVec 64) :
    settle mode sample power value = word (Field.putAll (awakeFields mode)) value :=
  settle_of_fields rfl value

/-- Putting the chip to sleep settles nothing, and disturbs nothing that bring-up does not write
    later. -/
theorem Progress.sleep (progress : Progress mode start written settled before)
    (hunsettled : ∀ offset ∈ power :: runOffsets, offset ∉ settled) :
    Progress mode start ((power :: runOffsets) ++ written) settled
      (before.setRegister power
        (word (Field.putAll sleepFields) (before.registers power))).clearRunControls := by
  have hfields : sleepFields.map (·.1) ⊆ (awakeFields mode).map (·.1) := by
    simp [sleepFields, awakeFields]
  refine progress.advance rfl (fun offset hoffset => ?_) (fun offset hoffset => ?_)
    (fun _ h _ => h) fun offset hsettled hchanged => absurd hsettled (hunsettled offset hchanged)
  · obtain ⟨hpower, hrun⟩ := not_or.mp (mt List.mem_cons.mpr hoffset)
    rw [Beagle.registers_clearRunControls, if_neg (mt (isRunControl_iff offset).mp hrun),
      Beagle.registers_setRegister_of_ne _ _ hpower]
  · rw [Beagle.registers_clearRunControls]
    by_cases hrun : offset ∈ runOffsets
    · rw [settle_runOffset _ _ hrun, settle_runOffset _ _ hrun]
    · obtain rfl := (List.mem_cons.mp hoffset).resolve_right hrun
      rw [if_neg (mt (isRunControl_iff _).mp hrun), Beagle.registers_setRegister_self,
        settle_word rfl hfields]

/-- Waking the chip up settles the power register. -/
theorem Progress.wake (progress : Progress mode start written settled before) :
    Progress mode start (power :: written) (power :: settled)
      (before.setRegister power
        (word (Field.putAll (awakeFields mode)) (before.registers power))) := by
  have hkept (offset : Nat) (hoffset : offset ∉ [power]) :
      (before.setRegister power (word (Field.putAll (awakeFields mode))
        (before.registers power))).registers offset = before.registers offset :=
    Beagle.registers_setRegister_of_ne _ _ (by simpa using hoffset)
  refine progress.advance ?_ hkept (fun offset hoffset => ?_) (fun offset hoffset hkept => ?_)
    fun offset _ hoffset => ?_
  · rfl
  · rw [List.mem_singleton.mp hoffset, Beagle.registers_setRegister_self, ← settle_power,
      settle_settle]
  · exact (List.mem_cons.mp hoffset).resolve_left (by simpa using hkept)
  · rw [List.mem_singleton.mp hoffset, Beagle.registers_setRegister_self, ← settle_power,
      settle_settle]

end

end TensorLink.BringUp

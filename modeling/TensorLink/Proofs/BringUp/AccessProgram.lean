import TensorLink.BringUp
import TensorLink.Proofs.Recording

/-!
# Bring-up as a program of accesses

The thirteen steps of bring-up as data: a table of actions, each of which reads a register, writes
one or waits for one. What is written may depend on the word that was read last, the word in hand;
nothing else is carried from one action to the next.

Results:
* `performs_run`: bring-up performs the table.
* `projects_run`: bring-up of recorded registers does what bring-up of the registers does.
-/

namespace TensorLink.BringUp

open Sequencing

variable {σ : Type}

/-! ## The table -/

/-- Something that is done to a register. -/
inductive Action where
  /-- Read a register and take its word in hand, unless there is something wrong with it. -/
  | read32 (offset : Nat) (fault : BitVec 32 → Option DriverError)
  /-- Write what a function makes of the word in hand. -/
  | write32 (offset : Nat) (value : BitVec 32 → BitVec 32)
  | write64 (offset : Nat) (value : BitVec 64)
  /-- Wait for a condition on a register; the word in hand is kept. -/
  | await32 (offset : Nat) (condition : String) (wanted : BitVec 32 → Bool)
  | await64 (offset : Nat) (condition : String) (wanted : BitVec 64 → Bool)
  /-- Do something if the word in hand asks for it. -/
  | onlyIf (condition : BitVec 32 → Bool) (action : Action)

/-- A word with which nothing is wrong. -/
def noFault (_ : BitVec 32) : Option DriverError := none

/-- The word of another chip. -/
def identityFault (chip : Chip) (word : BitVec 32) : Option DriverError :=
  if Omc000.chipId.read word ≠ chip.chipId then
    some (.chipIdMismatch chip.chipId (Omc000.chipId.read word))
  else none

/-- A word without the test pattern. -/
def echoFault (word : BitVec 32) : Option DriverError :=
  let echoed := Omc000.testReg0.read word
  if echoed ≠ testPattern then
    let found := Text.Hex.padded 2 echoed
    let wrote := Text.Hex.padded 2 testPattern
    some (.protocol s!"test register read back {found}, wrote {wrote}")
  else none

/-- Whether the word of the power register is that of a chip that has not been put to sleep. -/
def notAsleep (word : BitVec 32) : Bool := ScuCtrl3.forceSleep.read word ≠ enterSleep

/-- A register that is read and written back changed. -/
def modification (offset : Nat) (change : BitVec 32 → BitVec 32) : List Action :=
  [.read32 offset noFault, .write32 offset change]

/-- Puts a chip to sleep, waits for it and pulses the credits. -/
def sleeping (chip : Chip) : List Action :=
  [.write32 chip.scu.scuCtrl3 (ScuCtrl3.forceSleep.put enterSleep),
    .await32 chip.scu.scuCtrl3 "cur_pwr_state == sleep"
      fun word => ScuCtrl3.powerState.read word == asleep,
    .write32 chip.gcbbCredit0 fun _ => 0xF,
    .write32 chip.gcbbCredit0 fun _ => 0]

/-- The selection of every tile. -/
def selection (chip : Chip) : List Action :=
  [.write64 chip.tileConfig0 TileConfig.broadcast,
    .await64 chip.tileConfig0 "tileconfig0 == broadcast" fun word => word == TileConfig.broadcast]

/-- The start of the units of a table that the chip has. -/
def start (table : List RunControlEntry) : List Action :=
  (RunControlEntry.present table).map fun entry =>
    .write64 entry.offset (BitVec.ofNat 64 RunControl.run.value)

/-- The thirteen steps. -/
def steps (chip : Chip) (mode : PerformanceMode) : List (List Action) :=
  let power := chip.scu.scuCtrl3
  [ [.read32 chip.apex.omc000 (identityFault chip)],
    [.write32 chip.apex.omc000 (Omc000.testReg0.put testPattern),
      .read32 chip.apex.omc000 echoFault],
    modification chip.scu.scuCtrl0 (fun word =>
      ScuCtrl0.usbInactivePhyMode.put 0 (ScuCtrl0.pcieInactivePhyMode.put 0 word)) ++
      [.read32 chip.scu.scuCtrl0 noFault],
    modification chip.scu.scuCtrl2 (ScuCtrl2.gatedGcb.put gatingDisabled) ++
      [.read32 chip.scu.scuCtrl2 noFault],
    .read32 power noFault :: (sleeping chip).map (.onlyIf notAsleep),
    modification power (fun word => mode.apply (ScuCtrl3.forceSleep.put exitSleep word)) ++
      [.await32 power "cur_pwr_state == awake" fun word => ScuCtrl3.powerState.read word == awake],
    (chip.scalarCore?.map fun offset =>
      .await64 offset "scalarCoreRunControl == 0" fun word => word == 0).toList,
    .write64 chip.idleRegister (IdleRegister.counter.put 1 (IdleRegister.disableIdle.put 0 0)) ::
      selection chip,
    [.write64 chip.deepSleep (DeepSleep.toWakeDelay.put 30 (DeepSleep.toSleepDelay.put 2 0))],
    modification chip.scu.scuCtrl2 (ScuCtrl2.gatedGcb.put gatingEnabled),
    [.write64 chip.usb.descrEp 0xF0, .write64 chip.usb.multiBoEp 0,
      .write64 chip.usb.outfeedChunkLength 0x20],
    modification chip.apex.omc0D0 (fun word =>
      Omc0D0.tSetting.put 0 (Omc0D0.tslope.put 0 (Omc0D0.tref.put 0
        (Omc0D0.adr.put sensorAddress (Omc0D0.clkEn.put 1 word))))) ++
      modification chip.apex.omc0D8 (fun word =>
        Omc0D8.enad.put 1 (Omc0D8.envr.put 1 (Omc0D8.enbg.put 1 word))) ++
      modification chip.apex.omc0Dc (Omc0Dc.enthmc.put 1),
    start chip.scalarRunControls ++ selection chip ++ start chip.tileRunControls ]

/-! ## Performing the table -/

/-- Performs an action with a word in hand, and returns the word that is in hand then. -/
@[simp]
def Action.perform (self : BringUp σ) : Action → BitVec 32 → DeviceM σ (BitVec 32)
  | .read32 offset fault, _ => do
    let word ← self.registers.read32 offset
    match fault word with
    | some error => throw error
    | none => return word
  | .write32 offset value, word => do
    self.registers.write32 offset (value word)
    return word
  | .write64 offset value, word => do
    self.registers.write64 offset value
    return word
  | .await32 offset condition wanted, word => do
    self.await32 offset condition wanted
    return word
  | .await64 offset condition wanted, word => do
    self.await64 offset condition wanted
    return word
  | .onlyIf condition action, word =>
    if condition word then action.perform self word else return word

/-- Performs things in their order, each with the word that the one before has left in hand. -/
@[simp]
def performEach {ι : Type} (perform : ι → BitVec 32 → DeviceM σ (BitVec 32)) :
    List ι → BitVec 32 → DeviceM σ (BitVec 32)
  | [], word => pure word
  | first :: rest, word => perform first word >>= performEach perform rest

/-- Performs the actions of a step. -/
def performStep (self : BringUp σ) : List Action → BitVec 32 → DeviceM σ (BitVec 32) :=
  performEach fun action => action.perform self

theorem performEach_append {ι : Type} (perform : ι → BitVec 32 → DeviceM σ (BitVec 32))
    (items items' : List ι) (word : BitVec 32) :
    performEach perform (items ++ items') word =
      performEach perform items word >>= performEach perform items' := by
  induction items generalizing word with
  | nil => exact (pure_bind word _).symm
  | cons first rest ih =>
    rw [List.cons_append, performEach, performEach, bind_assoc]
    exact congrArg _ (funext ih)

/-- An operation performs things, whatever word is in hand at first. -/
def Performs {ι : Type} (perform : ι → BitVec 32 → DeviceM σ (BitVec 32)) (items : List ι)
    (operation : DeviceM σ Unit) : Prop :=
  ∀ word, (performEach perform items word >>= fun _ => pure ()) = operation

section

variable {ι : Type} {perform : ι → BitVec 32 → DeviceM σ (BitVec 32)} {first : ι}
  {items items' : List ι} {operation operation' : DeviceM σ Unit}

theorem performs_nil : Performs perform [] (pure ()) := fun _ => rfl

/-- What is done after an operation does not see the word that it leaves in hand. -/
theorem bind_of_discarded {m : DeviceM σ (BitVec 32)} {next : BitVec 32 → DeviceM σ Unit}
    (hm : (m >>= fun _ => pure ()) = operation) (hnext : ∀ word, next word = operation') :
    m >>= next = operation >>= fun _ => operation' := by
  rw [← hm, bind_assoc, funext hnext]
  rfl

theorem Performs.append (h : Performs perform items operation)
    (h' : Performs perform items' operation') :
    Performs perform (items ++ items') (operation >>= fun _ => operation') := by
  intro word
  rw [performEach_append, bind_assoc]
  exact bind_of_discarded (h word) h'

theorem Performs.cons (hfirst : ∀ word, (perform first word >>= fun _ => pure ()) = operation)
    (hrest : Performs perform items operation') :
    Performs perform (first :: items) (operation >>= fun _ => operation') := by
  intro word
  rw [performEach, bind_assoc]
  exact bind_of_discarded (hfirst word) hrest

end

/-! ## Bring-up performs the table -/

section

variable {self : BringUp σ}

/-- Step 1, of which the word stays in hand. -/
theorem performStep_identification (word : BitVec 32) :
    performStep self [.read32 self.chip.apex.omc000 (identityFault self.chip)] word =
      self.checkChipId := by
  simp only [performStep, performEach, Action.perform, identityFault, checkChipId, bind_pure]
  refine congrArg _ (funext fun word => ?_)
  by_cases hidentity : Omc000.chipId.read word = self.chip.chipId
  · simp only [hidentity, ne_eq, not_true_eq_false, if_false]
  · simp only [hidentity, ne_eq, not_false_eq_true, if_true]
    rfl

/-- Step 2, on the word of step 1. -/
theorem performStep_testPattern (word : BitVec 32) :
    (performStep self [.write32 self.chip.apex.omc000 (Omc000.testReg0.put testPattern),
        .read32 self.chip.apex.omc000 echoFault] word >>= fun _ => pure ()) =
      self.checkTestRegister word := by
  simp only [performStep, performEach, Action.perform, echoFault, checkTestRegister, bind_assoc,
    pure_bind]
  refine congrArg _ (funext fun _ => congrArg _ (funext fun word => ?_))
  by_cases hecho : Omc000.testReg0.read word = testPattern
  · simp only [hecho, ne_eq, not_true_eq_false, if_false, pure_bind]
  · simp only [hecho, ne_eq, not_false_eq_true, if_true]
    rfl

theorem performs_modification (offset : Nat) (change : BitVec 32 → BitVec 32) :
    Performs (Action.perform self) (modification offset change) (self.modify32 offset change) := by
  intro word
  simp only [modification, performEach, Action.perform, noFault, modify32, bind_assoc, pure_bind,
    bind_pure_unit]

theorem performs_read32 (offset : Nat) :
    Performs (Action.perform self) [.read32 offset noFault]
      (self.registers.read32 offset >>= fun _ => pure ()) := by
  intro word
  simp only [performEach, Action.perform, noFault, bind_assoc, pure_bind]

theorem performs_selection :
    Performs (Action.perform self) (selection self.chip) self.selectAllTiles := by
  intro word
  simp only [selection, performEach, Action.perform, selectAllTiles, bind_assoc, pure_bind,
    bind_pure_unit]

/-- Step 5: a chip that is asleep asks for nothing. -/
theorem performs_enterReset :
    Performs (Action.perform self)
      (.read32 self.chip.scu.scuCtrl3 noFault :: (sleeping self.chip).map (.onlyIf notAsleep))
      self.enterReset := by
  intro word
  simp only [sleeping, List.map_cons, List.map_nil, performEach, Action.perform, noFault, notAsleep,
    decide_eq_true_eq, enterReset, bind_assoc, pure_bind]
  refine congrArg _ (funext fun word => ?_)
  by_cases hasleep : ScuCtrl3.forceSleep.read word = enterSleep
  · simp only [hasleep, ne_eq, not_true_eq_false, if_false, pure_bind]
  · simp only [hasleep, ne_eq, not_false_eq_true, if_true, bind_assoc, pure_bind, bind_pure_unit]

/-- Step 7: a chip without a scalar core is not waited for. -/
theorem performs_awaitScalarCore :
    Performs (Action.perform self) (self.chip.scalarCore?.map fun offset =>
      .await64 offset "scalarCoreRunControl == 0" fun word => word == 0).toList
      self.awaitScalarCore := by
  intro word
  unfold awaitScalarCore
  cases self.chip.scalarCore? with
  | none => rfl
  | some offset =>
    simp only [Option.map_some, Option.toList_some, performEach, Action.perform, bind_assoc,
      pure_bind, bind_pure_unit]

theorem performs_start (table : List RunControlEntry) :
    Performs (Action.perform self) (start table) (self.writeRunControls table .run) := by
  unfold start writeRunControls
  induction RunControlEntry.present table with
  | nil => exact performs_nil
  | cons entry rest ih =>
    rw [List.forM_eq_forM, List.forM_cons]
    refine ih.cons fun word => ?_
    simp only [Action.perform, bind_assoc, pure_bind, bind_pure_unit]

theorem performs_write64 (offset : Nat) (value : BitVec 64) :
    Performs (Action.perform self) [.write64 offset value]
      (self.registers.write64 offset value) := by
  intro word
  simp only [performEach, Action.perform, bind_assoc, pure_bind, bind_pure_unit]

theorem performs_await32 (offset : Nat) (condition : String) (wanted : BitVec 32 → Bool) :
    Performs (Action.perform self) [.await32 offset condition wanted]
      (self.await32 offset condition wanted) := by
  intro word
  simp only [performEach, Action.perform, bind_assoc, pure_bind, bind_pure_unit]

/-- Step 12. -/
theorem performs_startTemperatureSensor :
    Performs (Action.perform self)
      (modification self.chip.apex.omc0D0 (fun word =>
        Omc0D0.tSetting.put 0 (Omc0D0.tslope.put 0 (Omc0D0.tref.put 0
          (Omc0D0.adr.put sensorAddress (Omc0D0.clkEn.put 1 word))))) ++
        modification self.chip.apex.omc0D8 (fun word =>
          Omc0D8.enad.put 1 (Omc0D8.envr.put 1 (Omc0D8.enbg.put 1 word))) ++
        modification self.chip.apex.omc0Dc (Omc0Dc.enthmc.put 1))
      self.startTemperatureSensor := by
  rw [List.append_assoc]
  exact (performs_modification _ _).append
    ((performs_modification _ _).append (performs_modification _ _))

/-- Step 13. -/
theorem performs_setRunControl :
    Performs (Action.perform self)
      (start self.chip.scalarRunControls ++ selection self.chip ++ start self.chip.tileRunControls)
      (self.setRunControl .run) := by
  rw [List.append_assoc]
  exact (performs_start _).append (performs_selection.append (performs_start _))

/-- Bring-up performs the table. -/
theorem performs_run (self : BringUp σ) (mode : PerformanceMode) :
    Performs (performStep self) (steps self.chip mode) (self.run mode) := by
  let disableGating : DeviceM σ Unit := do
    self.setClockGating gatingDisabled
    let _ ← self.registers.read32 self.chip.scu.scuCtrl2
  have hrun : self.run mode = (do
      let word ← self.checkChipId
      self.checkTestRegister word
      self.clearInactiveModes
      disableGating
      self.enterReset
      self.exitReset mode
      self.awaitScalarCore
      self.configureIdling
      self.configureDeepSleep
      self.setClockGating gatingEnabled
      self.configureUsb
      self.startTemperatureSensor
      self.setRunControl .run
      pure ()) := by
    simp only [run, disableGating, bind_assoc, pure_bind, bind_pure_unit]
  intro word
  rw [hrun, steps, performEach, performStep_identification, bind_assoc]
  refine congrArg _ (funext fun word => ?_)
  rw [performEach, bind_assoc]
  refine bind_of_discarded (performStep_testPattern word) ?_
  refine Performs.cons ((performs_modification _ _).append (performs_read32 _)) ?_
  refine Performs.cons ((performs_modification _ _).append (performs_read32 _)) ?_
  refine Performs.cons performs_enterReset ?_
  refine Performs.cons ((performs_modification _ _).append (performs_await32 _ _ _)) ?_
  refine Performs.cons performs_awaitScalarCore ?_
  refine Performs.cons ((performs_write64 _ _).append performs_selection) ?_
  refine Performs.cons (performs_write64 _ _) ?_
  refine Performs.cons (performs_modification _ _) ?_
  refine Performs.cons ((performs_write64 _ _).append
    ((performs_write64 _ _).append (performs_write64 _ _))) ?_
  refine Performs.cons performs_startTemperatureSensor ?_
  exact Performs.cons performs_setRunControl performs_nil

end

/-! ## Recorded registers -/

/-- The accesses of a run, in their order. -/
def accesses (self : BringUp σ) (mode : PerformanceMode) (state : σ) : List RegisterCall :=
  let recorded : BringUp (Recorded σ RegisterCall) :=
    { self with registers := self.registers.recorded }
  ((recorded.run mode).outcome { inner := state }).2.calls

section

variable {self : BringUp σ}

theorem projects_poll {α : Type} (entry : Except DriverError α → RegisterCall)
    (read : DeviceM σ α) (wanted : α → Bool) (exhausted : DriverError) (attempts : Nat) :
    Projects Recorded.inner (poll (Recorded.observe entry read) wanted exhausted attempts)
      (poll read wanted exhausted attempts) := by
  induction attempts with
  | zero => exact Projects.throw exhausted
  | succ attempts ih =>
    refine (Recorded.projects_observe entry read).bind fun value => ?_
    split
    · exact Projects.pure value
    · exact ih

theorem projects_perform (action : Action) (word : BitVec 32) :
    Projects Recorded.inner
      (action.perform { self with registers := self.registers.recorded } word)
      (action.perform self word) := by
  induction action with
  | read32 offset fault =>
    refine (Recorded.projects_observe _ _).bind fun word => ?_
    cases fault word with
    | none => exact Projects.pure word
    | some error => exact Projects.throw error
  | write32 offset value =>
    exact (Recorded.projects_observe _ _).bind fun _ => Projects.pure word
  | write64 offset value =>
    exact (Recorded.projects_observe _ _).bind fun _ => Projects.pure word
  | await32 offset condition wanted =>
    exact ((projects_poll _ _ wanted _ _).bind fun _ => Projects.pure ()).bind
      fun _ => Projects.pure word
  | await64 offset condition wanted =>
    exact ((projects_poll _ _ wanted _ _).bind fun _ => Projects.pure ()).bind
      fun _ => Projects.pure word
  | onlyIf condition action ih =>
    unfold Action.perform
    split
    · exact ih
    · exact Projects.pure word

theorem projects_performEach {σ' ι : Type} {f : σ' → σ}
    {perform' : ι → BitVec 32 → DeviceM σ' (BitVec 32)}
    {perform : ι → BitVec 32 → DeviceM σ (BitVec 32)}
    (h : ∀ item word, Projects f (perform' item word) (perform item word)) (items : List ι)
    (word : BitVec 32) :
    Projects f (performEach perform' items word) (performEach perform items word) := by
  induction items generalizing word with
  | nil => exact Projects.pure word
  | cons first rest ih => exact (h first word).bind ih

/-- Bring-up of recorded registers does what bring-up of the registers does. -/
theorem projects_run (self : BringUp σ) (mode : PerformanceMode) :
    Projects Recorded.inner ({ self with registers := self.registers.recorded }.run mode)
      (self.run mode) := by
  rw [← performs_run self mode 0, ← performs_run _ mode 0]
  exact (projects_performEach (fun step word => projects_performEach projects_perform step word)
    _ 0).bind fun _ => Projects.pure ()

end

end TensorLink.BringUp

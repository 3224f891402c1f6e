import TensorLink.Proofs.BringUp.Settled
import TensorLink.Proofs.Transport.RegisterChannel

/-!
# The steps of bring-up

What each step of bring-up does to a Beagle, over a path that may lose register accesses. A step
ends well, or it is cut short by a lost access, which leaves the chip somewhere on the way.

Results:
* `Meets.bind`, `Meets.modify32`, `Meets.await32`: how operations are put together.
* `meets_run`: a run brings every register to its last value, except that a chip that was asleep at
  the start keeps its credits; wherever it is cut short, it can be run again.
-/

namespace TensorLink

/-- The bring-up of the Beagle behind a path. -/
abbrev RegisterPath.bringUp {σ : Type} (path : RegisterPath σ) (limit : Nat) : BringUp σ :=
  ⟨path.access, Chip.beagle, limit⟩

namespace BringUp

open Sequencing Simulation

variable {σ α β : Type}

/-! ## Operations over a path -/

/-- How an operation ends: as it should, or cut short. -/
inductive Ended (path : RegisterPath σ) (post : α → Beagle → Prop) (broken : Beagle → Prop) :
    EStateM.Result DriverError σ α → Prop where
  | ok {value : α} {state : σ} (hready : path.ready state)
      (hpost : post value (path.device state)) :
    Ended path post broken (.ok value state)
  | error {error : DriverError} {state : σ} (hmayFail : path.mayFail)
      (hbroken : broken (path.device state)) :
    Ended path post broken (.error error state)

/-- An operation takes chips of one sort to chips of another, unless it is cut short. -/
def Meets (path : RegisterPath σ) (broken : Beagle → Prop) (operation : DeviceM σ α)
    (pre : Beagle → Prop) (post : α → Beagle → Prop) : Prop :=
  ∀ state, path.ready state → pre (path.device state) → Ended path post broken (operation state)

section Meets

variable {path : RegisterPath σ} {broken pre pre' : Beagle → Prop} {offset limit : Nat}

theorem Meets.pure {post : α → Beagle → Prop} (value : α) (hpost : ∀ beagle, pre beagle →
    post value beagle) : Meets path broken (Pure.pure value) pre post :=
  fun _ hready hpre => .ok hready (hpost _ hpre)

theorem Meets.mono {operation : DeviceM σ α} {post post' : α → Beagle → Prop}
    (h : Meets path broken operation pre post) (hpre : ∀ beagle, pre' beagle → pre beagle)
    (hpost : ∀ value beagle, post value beagle → post' value beagle) :
    Meets path broken operation pre' post' := by
  intro state hready hstart
  cases hresult : operation state with
  | ok value after =>
    have hended := h state hready (hpre _ hstart)
    rw [hresult] at hended
    obtain ⟨hready', hend⟩ := hended
    exact .ok hready' (hpost _ _ hend)
  | error error after =>
    have hended := h state hready (hpre _ hstart)
    rw [hresult] at hended
    obtain ⟨⟩ | ⟨hmayFail, hbroken⟩ := hended
    exact .error hmayFail hbroken

theorem Meets.bind {operation : DeviceM σ α} {next : α → DeviceM σ β} {mid : α → Beagle → Prop}
    {post : β → Beagle → Prop} (h : Meets path broken operation pre mid)
    (hnext : ∀ value, Meets path broken (next value) (mid value) post) :
    Meets path broken (operation >>= next) pre post := by
  intro state hready hstart
  have hended := h state hready hstart
  cases hresult : operation state with
  | ok value after =>
    rw [hresult] at hended
    obtain ⟨hready', hmid⟩ := hended
    rw [bind_of_ok hresult]
    exact hnext value after hready' hmid
  | error error after =>
    rw [hresult] at hended
    obtain ⟨⟩ | ⟨hmayFail, hbroken⟩ := hended
    rw [bind_of_error hresult]
    exact .error hmayFail hbroken

/-- An access that takes a chip from one state to another. -/
theorem ended_of_takes {operation : EStateM.Result DriverError σ α} {value : α}
    {before after : Beagle} {post : α → Beagle → Prop}
    (h : Takes path.ready path.device path.mayFail value before after operation)
    (hbefore : broken before) (hafter : broken after) (hpost : post value after) :
    Ended path post broken operation := by
  cases h with
  | ok hready hdevice => exact .ok hready (hdevice ▸ hpost)
  | error hmayFail hdevice =>
    exact .error hmayFail (hdevice.elim (fun h => h ▸ hbefore) fun h => h ▸ hafter)

/-- A read returns what the chip holds. -/
theorem Meets.read32 (hoffset : offset < UInt32.size)
    (hbroken : ∀ beagle, pre beagle → broken beagle) :
    Meets path broken (path.access.read32 offset) pre
      fun low beagle => pre beagle ∧ low = (beagle.readRegister offset).setWidth 32 :=
  fun _ hready hpre => ended_of_takes (path.read32 hoffset hready) (hbroken _ hpre)
    (hbroken _ hpre) ⟨hpre, rfl⟩

theorem Meets.read64 (hoffset : offset < UInt32.size)
    (hbroken : ∀ beagle, pre beagle → broken beagle) :
    Meets path broken (path.access.read64 offset) pre
      fun value beagle => pre beagle ∧ value = beagle.readRegister offset :=
  fun _ hready hpre => ended_of_takes (path.read64 hoffset hready) (hbroken _ hpre)
    (hbroken _ hpre) ⟨hpre, rfl⟩

theorem Meets.write32 {post : Beagle → Prop} (hoffset : offset < UInt32.size) (value : BitVec 32)
    (hpost : ∀ beagle, pre beagle → post (beagle.writeRegister offset (value.setWidth 64)))
    (hbefore : ∀ beagle, pre beagle → broken beagle)
    (hafter : ∀ beagle, post beagle → broken beagle) :
    Meets path broken (path.access.write32 offset value) pre fun _ => post :=
  fun _ hready hpre => ended_of_takes (path.write32 hoffset value hready) (hbefore _ hpre)
    (hafter _ (hpost _ hpre)) (hpost _ hpre)

theorem Meets.write64 {post : Beagle → Prop} (hoffset : offset < UInt32.size) (value : BitVec 64)
    (hpost : ∀ beagle, pre beagle → post (beagle.writeRegister offset value))
    (hbefore : ∀ beagle, pre beagle → broken beagle)
    (hafter : ∀ beagle, post beagle → broken beagle) :
    Meets path broken (path.access.write64 offset value) pre fun _ => post :=
  fun _ hready hpre => ended_of_takes (path.write64 hoffset value hready) (hbefore _ hpre)
    (hafter _ (hpost _ hpre)) (hpost _ hpre)

theorem Meets.modify32 {post : Beagle → Prop} (hoffset : offset < UInt32.size)
    (change : BitVec 32 → BitVec 32)
    (hpost : ∀ beagle, pre beagle → post (beagle.writeRegister offset
      ((change ((beagle.readRegister offset).setWidth 32)).setWidth 64)))
    (hbefore : ∀ beagle, pre beagle → broken beagle)
    (hafter : ∀ beagle, post beagle → broken beagle) :
    Meets path broken ((path.bringUp limit).modify32 offset change) pre fun _ => post := by
  refine (Meets.read32 hoffset hbefore).bind fun low => ?_
  refine Meets.write32 hoffset _ (fun beagle hread => ?_) (fun beagle hread => hbefore _ hread.1)
    hafter
  rw [hread.2]
  exact hpost beagle hread.1

theorem Meets.branch {condition : Prop} [Decidable condition] {operation other : DeviceM σ α}
    {post : α → Beagle → Prop} (hcondition : ∀ beagle, pre beagle → condition)
    (h : Meets path broken operation pre post) :
    Meets path broken (if condition then operation else other) pre post := by
  intro state hready hpre
  rw [if_pos (hcondition _ hpre)]
  exact h state hready hpre

/-- A wait for something that holds already reads once. -/
theorem meets_poll {read : DeviceM σ α} {post : α → Beagle → Prop} {wanted : α → Bool}
    (hread : Meets path broken read pre post)
    (hwanted : ∀ value beagle, post value beagle → wanted value = true) (hlimit : 1 ≤ limit)
    (exhausted : DriverError) : Meets path broken (poll read wanted exhausted limit) pre post := by
  obtain ⟨attempts, rfl⟩ := Nat.exists_eq_add_of_le' hlimit
  rw [poll_succ]
  refine hread.bind fun value => ?_
  intro state hready hpost
  rw [if_pos (hwanted value _ hpost)]
  exact .ok hready hpost

theorem Meets.await32 (hoffset : offset < UInt32.size) (hlimit : 1 ≤ limit) (condition : String)
    {wanted : BitVec 32 → Bool}
    (hwanted : ∀ beagle, pre beagle →
      wanted ((beagle.readRegister offset).setWidth 32) = true)
    (hbroken : ∀ beagle, pre beagle → broken beagle) :
    Meets path broken ((path.bringUp limit).await32 offset condition wanted) pre fun _ => pre :=
  (meets_poll (Meets.read32 hoffset hbroken)
    (fun _ beagle hread => hread.2 ▸ hwanted beagle hread.1) hlimit _).bind
      fun _ => .pure () fun _ hread => hread.1

theorem Meets.await64 (hoffset : offset < UInt32.size) (hlimit : 1 ≤ limit) (condition : String)
    {wanted : BitVec 64 → Bool}
    (hwanted : ∀ beagle, pre beagle → wanted (beagle.readRegister offset) = true)
    (hbroken : ∀ beagle, pre beagle → broken beagle) :
    Meets path broken ((path.bringUp limit).await64 offset condition wanted) pre fun _ => pre :=
  (meets_poll (Meets.read64 hoffset hbroken)
    (fun _ beagle hread => hread.2 ▸ hwanted beagle hread.1) hlimit _).bind
      fun _ => .pure () fun _ hread => hread.1

end Meets

/-! ## The chip in the course of a run -/

/-- A chip that has been put to sleep. -/
def Dormant (beagle : Beagle) : Prop :=
  ScuCtrl3.forceSleep.read ((beagle.registers power).setWidth 32) = enterSleep

instance (beagle : Beagle) : Decidable (Dormant beagle) := by
  unfold Dormant
  infer_instance

/-- A chip that identifies itself as a Beagle. -/
def Identified (beagle : Beagle) : Prop :=
  Omc000.chipId.read ((beagle.registers Chip.beagle.apex.omc000).setWidth 32) = Chip.beagle.chipId

instance (beagle : Beagle) : Decidable (Identified beagle) := by
  unfold Identified
  infer_instance

/-- The run control of the scalar core. -/
abbrev scalarCore : Nat := 0x44018

/-- The phases of a run, by what is known of power and of the scalar core. -/
inductive Phase where
  /-- Neither has been touched. -/
  | early
  /-- The scalar core has stopped. -/
  | asleep
  /-- The chip is awake and its scalar core has not been started. -/
  | waking
  | awake

/-- What is known in a phase. -/
def Phase.Holds (start beagle : Beagle) : Phase → Prop
  | .early => beagle.registers power = start.registers power ∧
    beagle.registers scalarCore = start.registers scalarCore
  | .asleep => beagle.registers scalarCore = 0
  | .waking => ¬Dormant beagle ∧ beagle.registers scalarCore = 0
  | .awake => ¬Dormant beagle

/-- What is known in a phase does not depend on the registers that bring-up writes otherwise. -/
theorem Phase.Holds.frame {phase : Phase} {start before after : Beagle}
    (h : phase.Holds start before)
    (hpower : after.registers power = before.registers power)
    (hscalar : phase = .awake ∨ after.registers scalarCore = before.registers scalarCore) :
    phase.Holds start after := by
  have hdormant : Dormant after ↔ Dormant before := by rw [Dormant, Dormant, hpower]
  cases phase with
  | awake => exact mt hdormant.mp h
  | early =>
    have hscalar := hscalar.resolve_left (by simp)
    exact ⟨hpower.trans h.1, hscalar.trans h.2⟩
  | asleep =>
    have hscalar := hscalar.resolve_left (by simp)
    exact hscalar.trans h
  | waking =>
    have hscalar := hscalar.resolve_left (by simp)
    exact ⟨mt hdormant.mp h.1, hscalar.trans h.2⟩

/-- How far a run has come. -/
structure Stage (mode : PerformanceMode) (start : Beagle) (phase : Phase)
    (written settled : List Nat) (beagle : Beagle) : Prop where
  progress : Progress mode start written settled beagle
  holds : phase.Holds start beagle

/-- A chip that bring-up can be run on, with the same result as from the start. -/
structure Resumable (mode : PerformanceMode) (start beagle : Beagle) : Prop where
  sample : beagle.sample = start.sample
  pending : ∀ offset, settle mode start.sample offset (beagle.registers offset) =
    settle mode start.sample offset (start.registers offset)
  /-- If the chip is asleep, its scalar core has stopped. -/
  rested : Dormant beagle → beagle.registers scalarCore = 0

section Steps

variable {path : RegisterPath σ} {mode : PerformanceMode} {start : Beagle} {limit : Nat}
  {phase : Phase} {written settled written' settled' : List Nat} {beagle : Beagle}

theorem Stage.resumable (hrested : Dormant start → start.registers scalarCore = 0)
    (stage : Stage mode start phase written settled beagle) : Resumable mode start beagle := by
  refine ⟨stage.progress.sample, stage.progress.pending, fun hdormant => ?_⟩
  have hholds := stage.holds
  cases phase with
  | early =>
    rw [Dormant, hholds.1] at hdormant
    rw [hholds.2]
    exact hrested hdormant
  | asleep => exact hholds
  | waking => exact hholds.2
  | awake => exact absurd hdormant hholds

theorem Stage.weaken (stage : Stage mode start phase written settled beagle)
    (hwritten : written ⊆ written') (hsettled : settled' ⊆ settled) :
    Stage mode start phase written' settled' beagle :=
  ⟨⟨stage.progress.sample, stage.progress.pending,
    fun offset hoffset => stage.progress.settled offset (hsettled hoffset),
    fun offset hoffset => stage.progress.unwritten offset fun h => hoffset (hwritten h)⟩,
    stage.holds⟩

theorem readRegister_of_ne {offset : Nat} (hoffset : offset ≠ Chip.beagle.apex.omc0Dc)
    (beagle : Beagle) : beagle.readRegister offset = beagle.registers offset := if_neg hoffset

/-- A register that power and the scalar core do not depend on gets a value. -/
theorem Phase.Holds.write {offset : Nat} (h : phase.Holds start beagle) (hpower : offset ≠ power)
    (hscalar : phase = .awake ∨ offset ≠ scalarCore) (value : BitVec 64) :
    phase.Holds start (beagle.writeRegister offset value) :=
  h.frame (Beagle.registers_writeRegister_of_ne beagle value hpower hpower.symm)
    (hscalar.imp_right fun h => Beagle.registers_writeRegister_of_ne beagle value hpower h.symm)

/-- The fields that a register is to have are set. -/
theorem Stage.set {offset : Nat} {puts : List (Field × Nat)}
    (stage : Stage mode start phase written settled beagle)
    (hfields : (settledFields mode start.sample).lookup offset = some puts)
    (hordinary : offset ≠ power ∧ offset ≠ scalarCore) :
    Stage mode start phase (offset :: written) (offset :: settled)
      (beagle.writeRegister offset (word (Field.putAll puts) (beagle.registers offset))) := by
  rw [← settle_of_fields hfields]
  exact ⟨stage.progress.finish hordinary.1 (settle_settle _) (settle_settle _),
    stage.holds.write hordinary.1 (.inr hordinary.2) _⟩

/-- A register gets the number that it is to have. -/
theorem Stage.put {offset : Nat} {value : BitVec 64}
    (stage : Stage mode start phase written settled beagle)
    (hfields : offset ∉ (settledFields .max 0).map (·.1))
    (hvalue : settledValues.lookup offset = some value)
    (hscalar : phase = .awake ∨ offset ≠ scalarCore) :
    Stage mode start phase (offset :: written) (offset :: settled)
      (beagle.writeRegister offset value) := by
  have hpower : offset ≠ power := by
    rintro rfl
    exact hfields (by decide)
  have hsettle (other : BitVec 64) : settle mode start.sample offset other = value :=
    settle_of_number hfields hvalue other
  exact ⟨stage.progress.finish hpower ((hsettle _).trans (hsettle _).symm) (hsettle _),
    stage.holds.write hpower hscalar _⟩

/-- A register that has not settled yet gets a value for the time being. -/
theorem Stage.touch {offset : Nat} {value : BitVec 64}
    (stage : Stage mode start phase written settled beagle)
    (hordinary : offset ≠ power ∧ offset ≠ scalarCore) (hunsettled : offset ∉ settled)
    (hpending : settle mode start.sample offset value =
      settle mode start.sample offset (beagle.registers offset)) :
    Stage mode start phase (offset :: written) settled (beagle.writeRegister offset value) :=
  ⟨stage.progress.touch hordinary.1 hunsettled hpending,
    stage.holds.write hordinary.1 (.inr hordinary.2) _⟩

/-- A register that has settled is read with its fields set. -/
theorem Stage.read_settled {offset : Nat} {puts : List (Field × Nat)}
    (stage : Stage mode start phase written settled beagle) (hsettled : offset ∈ settled)
    (hfields : (settledFields mode start.sample).lookup offset = some puts) :
    (beagle.registers offset).setWidth 32 =
      Field.putAll puts ((beagle.registers offset).setWidth 32) := by
  have hvalue := stage.progress.settled offset hsettled
  rw [settle_of_fields hfields] at hvalue
  rw [← setWidth_word (Field.putAll puts), hvalue]

theorem Stage.sleep (stage : Stage mode start .early written settled beagle)
    (hunsettled : ∀ offset ∈ power :: runOffsets, offset ∉ settled) :
    Stage mode start .asleep ((power :: runOffsets) ++ written) settled
      (beagle.setRegister power
        (word (Field.putAll sleepFields) (beagle.registers power))).clearRunControls := by
  refine ⟨stage.progress.sleep hunsettled, ?_⟩
  have hscalar : Beagle.isRunControl scalarCore = true := by decide
  show (Beagle.clearRunControls _).registers scalarCore = 0
  rw [Beagle.registers_clearRunControls, if_pos hscalar]

/-- A chip whose power register has settled is not asleep. -/
theorem not_dormant_of_putAll {low : BitVec 32}
    (hpower : (beagle.registers power).setWidth 32 = Field.putAll (awakeFields mode) low) :
    ¬Dormant beagle := by
  let above : List (Field × Nat) := (awakeFields mode).dropLast
  have hfields : Field.putAll (awakeFields mode) low =
      Field.putAll above (ScuCtrl3.forceSleep.put exitSleep low) := rfl
  have hapart : ∀ put ∈ above, put.1.offset + put.1.width ≤ ScuCtrl3.forceSleep.offset ∨
      ScuCtrl3.forceSleep.offset + ScuCtrl3.forceSleep.width ≤ put.1.offset := by
    simp [above, awakeFields, ScuCtrl3.powerState, ScuCtrl3.usb8051Clock, ScuCtrl3.axiClock,
      ScuCtrl3.gcbClock, ScuCtrl3.forceSleep]
  have hread : ScuCtrl3.forceSleep.read ((beagle.registers power).setWidth 32) = exitSleep := by
    rw [hpower, hfields, Field.read_putAll_of_apart _ _ (by decide) hapart,
      Field.read_put _ _ (by decide) (by decide)]
  rw [Dormant, hread]
  decide

theorem Stage.wake (stage : Stage mode start .asleep written settled beagle) :
    Stage mode start .waking (power :: written) (power :: settled)
      (beagle.setRegister power
        (word (Field.putAll (awakeFields mode)) (beagle.registers power))) := by
  have hpower : ((beagle.setRegister power (word (Field.putAll (awakeFields mode))
      (beagle.registers power))).registers power).setWidth 32 =
        Field.putAll (awakeFields mode) ((beagle.registers power).setWidth 32) := by
    rw [Beagle.registers_setRegister_self, setWidth_word]
  refine ⟨stage.progress.wake, not_dormant_of_putAll hpower, ?_⟩
  rw [Beagle.registers_setRegister_of_ne _ _ (by decide)]
  exact stage.holds

theorem Stage.started (stage : Stage mode start .waking written settled beagle) :
    Stage mode start .awake written settled beagle :=
  ⟨stage.progress, stage.holds.1⟩

/-- A register that has settled, or that bring-up does not write, holds its last value. -/
theorem Stage.registers_eq (stage : Stage mode start phase written settled beagle) {offset : Nat}
    (hoffset : offset ∈ touched → offset ∈ settled) :
    beagle.registers offset = settle mode start.sample offset (start.registers offset) := by
  rw [← stage.progress.pending offset]
  by_cases htouched : offset ∈ touched
  · exact (stage.progress.settled offset (hoffset htouched)).symm
  · exact (settle_of_untouched htouched _).symm

/-! ## The steps -/

variable (hrested : Dormant start → start.registers scalarCore = 0)

include hrested

theorem meets_set (offset : Nat) {puts : List (Field × Nat)} {change : BitVec 32 → BitVec 32}
    (hfields : (settledFields mode start.sample).lookup offset = some puts)
    (hoffset : offset < UInt32.size ∧ offset ≠ power ∧ offset ≠ scalarCore)
    (hchange : ∀ beagle : Beagle, beagle.sample = start.sample →
      change ((beagle.readRegister offset).setWidth 32) =
        Field.putAll puts ((beagle.registers offset).setWidth 32)) :
    Meets path (Resumable mode start) ((path.bringUp limit).modify32 offset change)
      (Stage mode start phase written settled)
      fun _ => Stage mode start phase (offset :: written) (offset :: settled) := by
  refine Meets.modify32 hoffset.1 change (fun beagle stage => ?_)
    (fun _ => Stage.resumable hrested) (fun _ => Stage.resumable hrested)
  rw [hchange beagle stage.progress.sample]
  exact stage.set hfields hoffset.2

theorem meets_put (offset : Nat) {value : BitVec 64}
    (hfields : offset ∉ (settledFields .max 0).map (·.1))
    (hvalue : settledValues.lookup offset = some value) (hoffset : offset < UInt32.size)
    (hscalar : phase = .awake ∨ offset ≠ scalarCore) :
    Meets path (Resumable mode start) (path.access.write64 offset value)
      (Stage mode start phase written settled)
      fun _ => Stage mode start phase (offset :: written) (offset :: settled) :=
  Meets.write64 hoffset value (fun _ stage => stage.put hfields hvalue hscalar)
    (fun _ => Stage.resumable hrested) (fun _ => Stage.resumable hrested)

/-- A register is read to no purpose. -/
theorem meets_ignore (offset : Nat) (hoffset : offset < UInt32.size) :
    Meets path (Resumable mode start) (path.access.read32 offset)
      (Stage mode start phase written settled)
      fun _ => Stage mode start phase written settled :=
  (Meets.read32 hoffset fun _ => Stage.resumable hrested).mono (fun _ h => h) fun _ _ h => h.1

theorem meets_checkChipId (hidentified : Identified start) :
    Meets path (Resumable mode start) (path.bringUp limit).checkChipId (· = start)
      fun low beagle => beagle = start ∧
        low = (beagle.registers Chip.beagle.apex.omc000).setWidth 32 := by
  have hresumable (beagle : Beagle) (hstart : beagle = start) : Resumable mode start beagle := by
    subst hstart
    exact ⟨rfl, fun _ => rfl, hrested⟩
  refine (Meets.read32 (show Chip.beagle.apex.omc000 < UInt32.size by decide) hresumable).bind
    fun low => ?_
  rintro state hready ⟨hstart, hlow⟩
  rw [readRegister_of_ne (show Chip.beagle.apex.omc000 ≠ Chip.beagle.apex.omc0Dc by decide)] at hlow
  have hfound : Omc000.chipId.read low = Chip.beagle.chipId := by
    rw [hlow, hstart]
    exact hidentified
  rw [if_neg (not_not_intro hfound)]
  exact .ok hready ⟨hstart, hlow⟩

theorem meets_checkTestRegister (low : BitVec 32) :
    Meets path (Resumable mode start) ((path.bringUp limit).checkTestRegister low)
      (fun beagle => beagle = start ∧
        low = (beagle.registers Chip.beagle.apex.omc000).setWidth 32)
      fun _ => Stage mode start .early [Chip.beagle.apex.omc000] [Chip.beagle.apex.omc000] := by
  have hoffset : Chip.beagle.apex.omc000 < UInt32.size := by decide
  have hstart : Stage mode start .early [] [] start := ⟨progress_nil mode start, rfl, rfl⟩
  have hwrite : Meets path (Resumable mode start)
      (path.access.write32 Chip.beagle.apex.omc000 (Omc000.testReg0.put testPattern low))
      (fun beagle => beagle = start ∧
        low = (beagle.registers Chip.beagle.apex.omc000).setWidth 32)
      fun _ => Stage mode start .early [Chip.beagle.apex.omc000] [Chip.beagle.apex.omc000] := by
    refine Meets.write32 hoffset _ ?_ ?_ fun _ => Stage.resumable hrested
    · rintro beagle ⟨rfl, rfl⟩
      have hfields : (settledFields mode beagle.sample).lookup Chip.beagle.apex.omc000 =
          some [(Omc000.testReg0, testPattern)] := rfl
      have hset := hstart.set hfields (by decide)
      rw [word] at hset
      exact hset
    · rintro beagle ⟨rfl, -⟩
      exact hstart.resumable hrested
  refine hwrite.bind fun _ => (Meets.read32 hoffset fun _ => Stage.resumable hrested).bind
    fun echo => ?_
  rintro state hready ⟨stage, rfl⟩
  have hecho : Omc000.testReg0.read (((path.device state).readRegister
      Chip.beagle.apex.omc000).setWidth 32) = testPattern := by
    rw [readRegister_of_ne (by decide), stage.read_settled List.mem_cons_self rfl]
    exact Field.read_put _ _ (by decide) (by decide)
  rw [if_neg (not_not_intro hecho)]
  exact .ok hready stage

theorem meets_clearInactiveModes :
    Meets path (Resumable mode start) (path.bringUp limit).clearInactiveModes
      (Stage mode start phase written settled)
      fun _ => Stage mode start phase (Chip.beagle.scu.scuCtrl0 :: written)
        (Chip.beagle.scu.scuCtrl0 :: settled) := by
  refine (meets_set hrested Chip.beagle.scu.scuCtrl0 rfl (by decide) fun beagle _ => ?_).bind
    fun _ => (meets_ignore hrested Chip.beagle.scu.scuCtrl0 (by decide)).bind
      fun _ => .pure () fun _ h => h
  rw [readRegister_of_ne (by decide)]
  rfl

theorem meets_disableGating (hunsettled : Chip.beagle.scu.scuCtrl2 ∉ settled) :
    Meets path (Resumable mode start) ((path.bringUp limit).setClockGating gatingDisabled)
      (Stage mode start phase written settled)
      fun _ => Stage mode start phase (Chip.beagle.scu.scuCtrl2 :: written) settled := by
  refine Meets.modify32 (show Chip.beagle.scu.scuCtrl2 < UInt32.size by decide) _
    (fun beagle stage => stage.touch (by decide) hunsettled ?_) (fun _ => Stage.resumable hrested)
    (fun _ => Stage.resumable hrested)
  rw [readRegister_of_ne (by decide)]
  have hgating : [(ScuCtrl2.gatedGcb, gatingDisabled)].map (·.1) ⊆
      [(ScuCtrl2.gatedGcb, gatingEnabled)].map (·.1) := fun _ h => h
  exact settle_word rfl hgating _

theorem meets_enableGating :
    Meets path (Resumable mode start) ((path.bringUp limit).setClockGating gatingEnabled)
      (Stage mode start phase written settled)
      fun _ => Stage mode start phase (Chip.beagle.scu.scuCtrl2 :: written)
        (Chip.beagle.scu.scuCtrl2 :: settled) := by
  refine meets_set hrested Chip.beagle.scu.scuCtrl2 rfl (by decide) fun beagle _ => ?_
  rw [readRegister_of_ne (by decide)]
  rfl

/-- Step 5 leaves a chip alone that is asleep already. -/
theorem meets_enterReset_of_dormant (hdormant : Dormant start) :
    Meets path (Resumable mode start) (path.bringUp limit).enterReset
      (Stage mode start .early written settled)
      fun _ => Stage mode start .asleep written settled := by
  refine (Meets.read32 (show power < UInt32.size by decide) fun _ => Stage.resumable hrested).bind
    fun low => ?_
  rintro state hready ⟨stage, rfl⟩
  have hasleep : ScuCtrl3.forceSleep.read
      (((path.device state).readRegister power).setWidth 32) = enterSleep := by
    rw [readRegister_of_ne (by decide), stage.holds.1]
    exact hdormant
  rw [if_neg (not_not_intro hasleep)]
  exact .ok hready ⟨stage.progress, stage.holds.2.trans (hrested hdormant)⟩

theorem meets_pulseCredits (hunsettled : Chip.beagle.gcbbCredit0 ∉ settled) :
    Meets path (Resumable mode start)
      (do
        path.access.write32 Chip.beagle.gcbbCredit0 0xF
        path.access.write32 Chip.beagle.gcbbCredit0 0)
      (Stage mode start .asleep written settled)
      fun _ => Stage mode start .asleep
        (Chip.beagle.gcbbCredit0 :: Chip.beagle.gcbbCredit0 :: written)
        (Chip.beagle.gcbbCredit0 :: settled) := by
  have hoffset : Chip.beagle.gcbbCredit0 < UInt32.size := by decide
  have hfields : Chip.beagle.gcbbCredit0 ∉ (settledFields .max 0).map (·.1) := by decide
  have hvalue : settledValues.lookup Chip.beagle.gcbbCredit0 = some 0 := rfl
  have hset : Meets path (Resumable mode start)
      (path.access.write32 Chip.beagle.gcbbCredit0 0xF)
      (Stage mode start .asleep written settled)
      fun _ => Stage mode start .asleep (Chip.beagle.gcbbCredit0 :: written) settled := by
    refine Meets.write32 hoffset _ (fun beagle stage => stage.touch (by decide) hunsettled ?_)
      (fun _ => Stage.resumable hrested) (fun _ => Stage.resumable hrested)
    rw [settle_of_number hfields hvalue, settle_of_number hfields hvalue]
  exact hset.bind fun _ => Meets.write32 hoffset _
    (fun beagle stage => stage.put hfields hvalue (.inr (by decide)))
    (fun _ => Stage.resumable hrested) (fun _ => Stage.resumable hrested)

/-- Step 5 puts a chip to sleep that is not asleep yet, and clears the credits. -/
theorem meets_enterReset_of_not_dormant (hdormant : ¬Dormant start)
    (hunsettled : ∀ offset ∈ Chip.beagle.gcbbCredit0 :: power :: runOffsets, offset ∉ settled)
    (hlimit : 1 ≤ limit) :
    Meets path (Resumable mode start) (path.bringUp limit).enterReset
      (Stage mode start .early written settled)
      fun _ => Stage mode start .asleep
        (Chip.beagle.gcbbCredit0 :: Chip.beagle.gcbbCredit0 :: ((power :: runOffsets) ++ written))
        (Chip.beagle.gcbbCredit0 :: settled) := by
  obtain ⟨hcredit, hunsettled⟩ := List.forall_mem_cons.mp hunsettled
  have hpower : power < UInt32.size := by decide
  -- The chip reports sleep as soon as it is told to sleep.
  let Asleep (beagle : Beagle) : Prop :=
    Stage mode start .asleep ((power :: runOffsets) ++ written) settled beagle ∧
      ScuCtrl3.powerState.read ((beagle.registers power).setWidth 32) = asleep
  have hwrite (low : BitVec 32) : Meets path (Resumable mode start)
      (path.access.write32 power (ScuCtrl3.forceSleep.put enterSleep low))
      (fun beagle => Stage mode start .early written settled beagle ∧
        low = (beagle.readRegister power).setWidth 32)
      fun _ => Asleep := by
    refine Meets.write32 hpower _ ?_ (fun beagle h => h.1.resumable hrested)
      fun beagle h => h.1.resumable hrested
    rintro beagle ⟨stage, rfl⟩
    rw [readRegister_of_ne (by decide), writeRegister_sleep]
    refine ⟨stage.sleep hunsettled, ?_⟩
    rw [Beagle.registers_clearRunControls, if_neg (by decide), Beagle.registers_setRegister_self,
      setWidth_word]
    exact Field.read_put _ _ (by decide) (by decide)
  refine (Meets.read32 hpower fun _ => Stage.resumable hrested).bind fun low => Meets.branch ?_ ?_
  · rintro beagle ⟨stage, rfl⟩
    rw [readRegister_of_ne (by decide), stage.holds.1]
    exact hdormant
  refine (hwrite low).bind fun _ => (Meets.await32 hpower hlimit _ ?_ ?_).bind fun _ =>
    (meets_pulseCredits hrested hcredit).mono (fun beagle h => h.1) fun _ _ h => h
  · rintro beagle ⟨-, hasleep⟩
    rw [readRegister_of_ne (by decide), hasleep]
    rfl
  · exact fun beagle h => h.1.resumable hrested

/-- Step 6 wakes the chip up. -/
theorem meets_exitReset (hlimit : 1 ≤ limit) :
    Meets path (Resumable mode start) ((path.bringUp limit).exitReset mode)
      (Stage mode start .asleep written settled)
      fun _ => Stage mode start .waking (power :: written) (power :: settled) := by
  have hpower : power < UInt32.size := by decide
  have hmodify : Meets path (Resumable mode start)
      ((path.bringUp limit).modify32 power fun low =>
        mode.apply (ScuCtrl3.forceSleep.put exitSleep low))
      (Stage mode start .asleep written settled)
      fun _ => Stage mode start .waking (power :: written) (power :: settled) := by
    refine Meets.modify32 hpower _ (fun beagle stage => ?_) (fun _ => Stage.resumable hrested)
      (fun _ => Stage.resumable hrested)
    rw [readRegister_of_ne (by decide), writeRegister_wake]
    exact stage.wake
  refine hmodify.bind fun _ => Meets.await32 hpower hlimit _ (fun beagle stage => ?_)
    fun _ => Stage.resumable hrested
  have hawake : ScuCtrl3.powerState.read ((beagle.registers power).setWidth 32) = awake := by
    rw [stage.read_settled List.mem_cons_self rfl]
    exact Field.read_put _ _ (by decide) (by decide)
  rw [readRegister_of_ne (by decide), hawake]
  rfl

/-- Step 7 finds that the scalar core has stopped. -/
theorem meets_awaitScalarCore (hlimit : 1 ≤ limit) :
    Meets path (Resumable mode start) (path.bringUp limit).awaitScalarCore
      (Stage mode start .waking written settled)
      fun _ => Stage mode start .waking written settled := by
  have hwait : (path.bringUp limit).awaitScalarCore =
      (path.bringUp limit).await64 scalarCore "scalarCoreRunControl == 0" (· == 0) := by
    unfold awaitScalarCore
    rw [Chip.beagle_scalarCore]
  rw [hwait]
  refine Meets.await64 (show scalarCore < UInt32.size by decide) hlimit _ (fun beagle stage => ?_)
    fun _ => Stage.resumable hrested
  rw [readRegister_of_ne (by decide), stage.holds.2]
  rfl

theorem meets_selectAllTiles (hlimit : 1 ≤ limit) :
    Meets path (Resumable mode start) (path.bringUp limit).selectAllTiles
      (Stage mode start phase written settled)
      fun _ => Stage mode start phase (Chip.beagle.tileConfig0 :: written)
        (Chip.beagle.tileConfig0 :: settled) := by
  have hoffset : Chip.beagle.tileConfig0 < UInt32.size := by decide
  have hfields : Chip.beagle.tileConfig0 ∉ (settledFields .max 0).map (·.1) := by decide
  have hvalue : settledValues.lookup Chip.beagle.tileConfig0 = some TileConfig.broadcast := rfl
  refine (meets_put hrested Chip.beagle.tileConfig0 hfields hvalue hoffset
    (.inr (by decide))).bind fun _ => Meets.await64 hoffset hlimit _ (fun beagle stage => ?_)
      fun _ => Stage.resumable hrested
  have hselected := stage.progress.settled _ List.mem_cons_self
  rw [settle_of_number hfields hvalue] at hselected
  rw [readRegister_of_ne (by decide), ← hselected]
  rfl

/-- Step 8. -/
theorem meets_configureIdling (hlimit : 1 ≤ limit) :
    Meets path (Resumable mode start) (path.bringUp limit).configureIdling
      (Stage mode start phase written settled)
      fun _ => Stage mode start phase
        (Chip.beagle.tileConfig0 :: Chip.beagle.idleRegister :: written)
        (Chip.beagle.tileConfig0 :: Chip.beagle.idleRegister :: settled) :=
  (meets_put hrested Chip.beagle.idleRegister (by decide) rfl (by decide) (.inr (by decide))).bind
    fun _ => meets_selectAllTiles hrested hlimit

/-- Step 9. -/
theorem meets_configureDeepSleep :
    Meets path (Resumable mode start) (path.bringUp limit).configureDeepSleep
      (Stage mode start phase written settled)
      fun _ => Stage mode start phase (Chip.beagle.deepSleep :: written)
        (Chip.beagle.deepSleep :: settled) :=
  meets_put hrested Chip.beagle.deepSleep (by decide) rfl (by decide) (.inr (by decide))

/-- Step 11. -/
theorem meets_configureUsb :
    Meets path (Resumable mode start) (path.bringUp limit).configureUsb
      (Stage mode start phase written settled)
      fun _ => Stage mode start phase
        (Chip.beagle.usb.outfeedChunkLength :: Chip.beagle.usb.multiBoEp ::
          Chip.beagle.usb.descrEp :: written)
        (Chip.beagle.usb.outfeedChunkLength :: Chip.beagle.usb.multiBoEp ::
          Chip.beagle.usb.descrEp :: settled) :=
  (meets_put hrested Chip.beagle.usb.descrEp (by decide) rfl (by decide) (.inr (by decide))).bind
    fun _ => (meets_put hrested Chip.beagle.usb.multiBoEp (by decide) rfl (by decide)
      (.inr (by decide))).bind fun _ => meets_put hrested Chip.beagle.usb.outfeedChunkLength
        (by decide) rfl (by decide) (.inr (by decide))

/-- Step 12. The sensor's sample is written back to the register that it was read from. -/
theorem meets_startTemperatureSensor :
    Meets path (Resumable mode start) (path.bringUp limit).startTemperatureSensor
      (Stage mode start phase written settled)
      fun _ => Stage mode start phase
        (Chip.beagle.apex.omc0Dc :: Chip.beagle.apex.omc0D8 :: Chip.beagle.apex.omc0D0 :: written)
        (Chip.beagle.apex.omc0Dc :: Chip.beagle.apex.omc0D8 :: Chip.beagle.apex.omc0D0 ::
          settled) := by
  refine (meets_set hrested Chip.beagle.apex.omc0D0 rfl (by decide) ?_).bind fun _ =>
    (meets_set hrested Chip.beagle.apex.omc0D8 rfl (by decide) ?_).bind fun _ =>
      meets_set hrested Chip.beagle.apex.omc0Dc rfl (by decide) ?_
  · intro beagle _
    rw [readRegister_of_ne (by decide)]
    rfl
  · intro beagle _
    rw [readRegister_of_ne (by decide)]
    rfl
  · intro beagle hsample
    have hread : beagle.readRegister Chip.beagle.apex.omc0Dc =
        word (Omc0Dc.data.put beagle.sample) (beagle.registers Chip.beagle.apex.omc0Dc) := by
      unfold Beagle.readRegister
      exact if_pos rfl
    rw [hread, setWidth_word, hsample]
    rfl

theorem meets_writeRunControls (table : List RunControlEntry)
    (htable : ∀ entry ∈ RunControlEntry.present table, entry.offset ∈ runOffsets) :
    Meets path (Resumable mode start) ((path.bringUp limit).writeRunControls table .run)
      (Stage mode start .awake written settled)
      fun _ => Stage mode start .awake
        ((RunControlEntry.present table).map (·.offset) ++ written)
        ((RunControlEntry.present table).map (·.offset) ++ settled) := by
  unfold writeRunControls
  rw [List.forM_eq_forM]
  generalize RunControlEntry.present table = entries at htable ⊢
  induction entries generalizing written settled with
  | nil => exact .pure () fun _ stage => stage
  | cons entry entries ih =>
    obtain ⟨hentry, hentries⟩ := List.forall_mem_cons.mp htable
    obtain ⟨hfields, hvalue⟩ := lookup_runOffset entry.offset hentry
    rw [List.forM_cons]
    refine (meets_put hrested entry.offset hfields hvalue (lt_of_mem_runOffsets _ hentry)
      (.inl rfl)).bind fun _ => (ih hentries).mono (fun _ h => h) fun _ beagle stage => ?_
    refine stage.weaken (fun offset hoffset => ?_) fun offset hoffset => ?_
    · simpa [or_left_comm] using hoffset
    · simpa [or_left_comm] using hoffset

/-- Step 13. -/
theorem meets_setRunControl (hlimit : 1 ≤ limit) :
    Meets path (Resumable mode start) ((path.bringUp limit).setRunControl .run)
      (Stage mode start .awake written settled)
      fun _ => Stage mode start .awake (Chip.beagle.tileConfig0 :: runOffsets ++ written)
        (Chip.beagle.tileConfig0 :: runOffsets ++ settled) := by
  refine (meets_writeRunControls hrested Chip.beagle.scalarRunControls ?_).bind fun _ =>
    (meets_selectAllTiles hrested hlimit).bind fun _ =>
      (meets_writeRunControls hrested Chip.beagle.tileRunControls ?_).mono (fun _ h => h)
        fun _ beagle stage => ?_
  · exact fun entry hentry => List.mem_map_of_mem (List.mem_append_left _ hentry)
  · exact fun entry hentry => List.mem_map_of_mem (List.mem_append_right _ hentry)
  · rw [runOffsets_eq]
    refine stage.weaken (fun offset hoffset => ?_) fun offset hoffset => ?_
    · simp only [List.mem_append, List.mem_cons] at hoffset ⊢
      tauto
    · simp only [List.mem_append, List.mem_cons] at hoffset ⊢
      tauto

/-! ## A whole run -/

/-- The registers that bring-up writes from step 6 on, the last one first. -/
def lateOffsets : List Nat :=
  Chip.beagle.tileConfig0 :: runOffsets ++
    [Chip.beagle.apex.omc0Dc, Chip.beagle.apex.omc0D8, Chip.beagle.apex.omc0D0,
      Chip.beagle.usb.outfeedChunkLength, Chip.beagle.usb.multiBoEp, Chip.beagle.usb.descrEp,
      Chip.beagle.scu.scuCtrl2, Chip.beagle.deepSleep, Chip.beagle.tileConfig0,
      Chip.beagle.idleRegister, power]

theorem meets_afterReset (hlimit : 1 ≤ limit) :
    Meets path (Resumable mode start)
      (do
        (path.bringUp limit).exitReset mode
        (path.bringUp limit).awaitScalarCore
        (path.bringUp limit).configureIdling
        (path.bringUp limit).configureDeepSleep
        (path.bringUp limit).setClockGating gatingEnabled
        (path.bringUp limit).configureUsb
        (path.bringUp limit).startTemperatureSensor
        (path.bringUp limit).setRunControl .run)
      (Stage mode start .asleep written settled)
      fun _ => Stage mode start .awake (lateOffsets ++ written) (lateOffsets ++ settled) := by
  refine (meets_exitReset hrested hlimit).bind fun _ =>
    (meets_awaitScalarCore hrested hlimit).bind fun _ =>
    (meets_configureIdling hrested hlimit).bind fun _ =>
    (meets_configureDeepSleep hrested).bind fun _ =>
    (meets_enableGating hrested).bind fun _ =>
    (meets_configureUsb hrested).bind fun _ =>
    (meets_startTemperatureSensor hrested).bind fun _ =>
    (meets_setRunControl hrested hlimit).mono (fun _ stage => stage.started) fun _ _ stage => ?_
  rw [lateOffsets, List.append_assoc, List.append_assoc]
  exact stage

/-- The registers in the end. The credits of a chip that is asleep at the start are left alone. -/
def outcome (mode : PerformanceMode) (start : Beagle) (offset : Nat) : BitVec 64 :=
  if Dormant start ∧ offset = Chip.beagle.gcbbCredit0 then start.registers offset
  else settle mode start.sample offset (start.registers offset)

/-- A run brings every register to its last value, if no access is lost; wherever it is cut short,
    it can be run again. -/
theorem meets_run (hlimit : 1 ≤ limit) (hidentified : Identified start) :
    Meets path (Resumable mode start) ((path.bringUp limit).run mode) (· = start)
      fun _ beagle => Resumable mode start beagle ∧ beagle.registers = outcome mode start := by
  refine (meets_checkChipId hrested hidentified).bind fun low =>
    (meets_checkTestRegister hrested low).bind fun _ =>
    (meets_clearInactiveModes hrested).bind fun _ =>
    (meets_disableGating hrested (by decide)).bind fun _ =>
    (meets_ignore hrested Chip.beagle.scu.scuCtrl2 (by decide)).bind fun _ => ?_
  -- A chip that is asleep is left alone in step 5, and with it its credits.
  by_cases hdormant : Dormant start
  · refine (meets_enterReset_of_dormant hrested hdormant).bind fun _ =>
      (meets_afterReset hrested hlimit).mono (fun _ h => h)
        fun _ beagle stage => ⟨stage.resumable hrested, funext fun offset => ?_⟩
    unfold outcome
    split
    · next h =>
      rw [h.2]
      exact stage.progress.unwritten _ (by decide +kernel)
    · next h =>
      have hsettled : ∀ offset ∈ touched, offset ≠ Chip.beagle.gcbbCredit0 → offset ∈
          lateOffsets ++ [Chip.beagle.scu.scuCtrl0, Chip.beagle.apex.omc000] := by decide +kernel
      exact stage.registers_eq fun htouched =>
        hsettled offset htouched fun hcredit => h ⟨hdormant, hcredit⟩
  · refine (meets_enterReset_of_not_dormant hrested hdormant (by decide +kernel) hlimit).bind
      fun _ => (meets_afterReset hrested hlimit).mono (fun _ h => h)
        fun _ beagle stage => ⟨stage.resumable hrested, funext fun offset => ?_⟩
    have hsettled : ∀ offset ∈ touched, offset ∈ lateOffsets ++ [Chip.beagle.gcbbCredit0,
        Chip.beagle.scu.scuCtrl0, Chip.beagle.apex.omc000] := by decide +kernel
    rw [outcome, if_neg fun h => hdormant h.1]
    exact stage.registers_eq (hsettled offset)

end Steps

end BringUp

end TensorLink

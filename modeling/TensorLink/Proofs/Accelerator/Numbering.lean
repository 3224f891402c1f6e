import TensorLink.Proofs.Accelerator.Mirror
import TensorLink.Proofs.BringUp.AccessProgram
import TensorLink.Proofs.Transport.Exclusion

/-!
# Numbered class drivers

A host may hand out the same handle for two class drivers, one after the other. To tell which
opening a handle comes from, the class drivers are numbered in the order in which they are opened: a
numbered host does what the host does, and hands out numbers instead of handles.

What counts the openings is a view of the world that only these change. The attach task opens class
drivers; bringing up a chip opens none.

Results:
* `counts_numbered`: a class driver has the number of those that were opened before it.
* `view_bringUp`: what bringing up a chip leaves alone.
-/

namespace TensorLink

open Sequencing

/-! ## Numbering -/

section

variable {κ σ : Type}

/-- A world and the class drivers that have been opened in it, the latest last. -/
structure Numbered (σ : Type) where
  inner : σ
  drivers : List ClassHandle := []

namespace Numbered

/-- The world, as a part. -/
def innerPart : Part (Numbered σ) σ := ⟨inner, fun inner state => { state with inner }⟩

/-- The class driver with a number; one that has not been given out stands for itself. -/
def driver (number : ClassHandle) (state : Numbered σ) : ClassHandle :=
  state.drivers.getD number.number number

/-- How many class drivers have been opened. -/
def count (state : Numbered σ) : Nat := state.drivers.length

end Numbered

/-- The host that hands out the numbers of class drivers. -/
def Host.numbered (host : Host κ σ) : Host κ (Numbered σ) where
  openClass interface state :=
    match host.openClass interface state.inner with
    | .ok handle inner => .ok ⟨state.count⟩ ⟨inner, state.drivers ++ [handle]⟩
    | .error error inner => .error error { state with inner }
  closeClass interface := Numbered.innerPart.change (host.closeClass interface)
  resetBus := Numbered.innerPart.focus host.resetBus
  requestReenumeration := Numbered.innerPart.focus host.requestReenumeration
  transport number :=
    let behind (state : Numbered σ) :=
      (host.transport (state.driver number)).within Numbered.innerPart
    { openPipe := fun endpoint state => (behind state).openPipe endpoint state
      control := fun label setup data state => (behind state).control label setup data state
      bulkOut := fun label address data state => (behind state).bulkOut label address data state
      bulkIn := fun label address size state => (behind state).bulkIn label address size state }

/-- A host that knows its class drivers by how many it has opened before. -/
structure Host.Counts (host : Host κ σ) (count : σ → Nat) : Prop extends host.Leaves count where
  openClass {interface : Interface} {world mid : σ} {handle : ClassHandle} :
    host.openClass interface world = .ok handle mid →
      handle.number = count world ∧ count mid = count world + 1

/-- What happens to the world leaves the class drivers that have been opened. -/
theorem Numbered.keeps_focus {α : Type} (operation : DeviceM σ α) :
    Keeps count (innerPart.focus operation) := by
  intro state
  unfold Part.focus
  cases operation (innerPart.look state) <;> rfl

/-- A numbered host knows its class drivers by their numbers. -/
theorem Host.counts_numbered (host : Host κ σ) : host.numbered.Counts Numbered.count where
  closeClass _ _ := rfl
  openPipe _ _ state := Numbered.keeps_focus _ state
  control _ _ _ _ _ := rfl
  openClass {interface state mid handle} h := by
    unfold numbered at h
    dsimp only at h
    split at h
    · cases h
      exact ⟨rfl, List.length_append⟩
    · cases h

end

/-! ## What bringing up leaves alone -/

/-- No access to a register changes a view of the state. -/
structure RegisterAccess.Leaves {σ β : Type} (registers : RegisterAccess σ) (view : σ → β) :
    Prop where
  read32 (offset : Nat) : Keeps view (registers.read32 offset)
  read64 (offset : Nat) : Keeps view (registers.read64 offset)
  write32 (offset : Nat) (value : BitVec 32) : Keeps view (registers.write32 offset value)
  write64 (offset : Nat) (value : BitVec 64) : Keeps view (registers.write64 offset value)

namespace BringUp

variable {σ β : Type} {view : σ → β}

theorem keeps_poll {α : Type} {read : DeviceM σ α} (keeps : Keeps view read) (wanted : α → Bool)
    (exhausted : DriverError) (attempts : Nat) :
    Keeps view (poll read wanted exhausted attempts) := by
  induction attempts with
  | zero => exact Keeps.throw exhausted
  | succ attempts ih =>
    refine keeps.bind fun value => ?_
    split
    · exact Keeps.pure value
    · exact ih

theorem keeps_performEach {ι : Type} {perform : ι → BitVec 32 → DeviceM σ (BitVec 32)}
    (keeps : ∀ item word, Keeps view (perform item word)) (items : List ι) (word : BitVec 32) :
    Keeps view (performEach perform items word) := by
  induction items generalizing word with
  | nil => exact Keeps.pure word
  | cons first rest ih => exact (keeps first word).bind ih

variable {self : BringUp σ} (leaves : self.registers.Leaves view)

include leaves

theorem keeps_action (action : Action) (word : BitVec 32) :
    Keeps view (action.perform self word) := by
  induction action with
  | read32 offset fault =>
    refine (leaves.read32 offset).bind fun word => ?_
    cases fault word with
    | none => exact Keeps.pure word
    | some error => exact Keeps.throw error
  | write32 offset value => exact (leaves.write32 offset _).bind fun _ => Keeps.pure word
  | write64 offset value => exact (leaves.write64 offset value).bind fun _ => Keeps.pure word
  | await32 offset condition wanted =>
    exact ((keeps_poll (leaves.read32 offset) wanted _ _).bind fun _ => Keeps.pure ()).bind
      fun _ => Keeps.pure word
  | await64 offset condition wanted =>
    exact ((keeps_poll (leaves.read64 offset) wanted _ _).bind fun _ => Keeps.pure ()).bind
      fun _ => Keeps.pure word
  | onlyIf condition action ih =>
    unfold Action.perform
    split
    · exact ih
    · exact Keeps.pure word

/-- Bring-up leaves alone whatever the accesses leave alone. -/
theorem keeps_run (mode : PerformanceMode) : Keeps view (self.run mode) := by
  rw [← performs_run self mode 0]
  exact (keeps_performEach (keeps_performEach (keeps_action leaves)) _ 0).bind
    fun _ => Keeps.pure ()

end BringUp

namespace Accelerator

variable {σ β : Type} {host : Host Waiter σ} {view : σ → β} (leaves : host.Leaves view)

include leaves

theorem keeps_controlTransfer (handle : ClassHandle) (config : DriverConfig) (setup : SetupPacket)
    (data : Bytes) :
    Keeps (fun link : Link σ => view link.transport)
      (Link.controlTransfer (carrier host handle) config setup data) := by
  intro link
  unfold Link.controlTransfer
  rw [left_ofOutcome]
  show view (CompletionQueue.transact _ _ _ _).2.2 = view link.transport
  rw [Link.transport_transact]
  exact leaves.control handle _ setup data link.transport

/-- Access to registers leaves alone whatever the control transfers of a host do. -/
theorem leaves_registers (handle : ClassHandle) (config : DriverConfig) :
    (Link.registers (carrier host handle) config).Leaves fun link => view link.transport := by
  have hread (offset : Nat) (width : RegisterWidth) :
      Keeps (fun link : Link σ => view link.transport)
        (Link.readRegister (carrier host handle) config offset width) := by
    refine (keeps_controlTransfer leaves handle config _ _).bind fun data => ?_
    dsimp only
    split
    · exact (Keeps.throw _).bind fun _ => Keeps.pure _
    · exact Keeps.pure _
  have hwrite (offset : Nat) (width : RegisterWidth) (value : Nat) :
      Keeps (fun link : Link σ => view link.transport)
        (Link.writeRegister (carrier host handle) config offset width value) :=
    (keeps_controlTransfer leaves handle config _ _).bind fun _ => Keeps.pure ()
  exact ⟨fun offset => (hread offset .bits32).bind fun _ => Keeps.pure _,
    fun offset => (hread offset .bits64).bind fun _ => Keeps.pure _,
    fun offset value => hwrite offset .bits32 value.toNat,
    fun offset value => hwrite offset .bits64 value.toNat⟩

/-- **Bring-up.** Bringing up a chip changes no view that the transports leave alone; so it opens no
    class driver. -/
theorem view_bringUp (handle : ClassHandle) (mode : PerformanceMode) (accelerator : Accelerator σ) :
    view (accelerator.bringUp host handle mode).2.world = view accelerator.world := by
  have hregisters : (sequences host handle accelerator.config).registers.Leaves
      fun link => view link.transport := leaves_registers leaves handle accelerator.config
  have hkeeps := BringUp.keeps_run hregisters mode
    { owner := accelerator.contexts, transport := accelerator.world }
  unfold bringUp DeviceM.outcome
  dsimp only
  cases hrun : (sequences host handle accelerator.config).run mode
      { owner := accelerator.contexts, transport := accelerator.world } <;>
    · rw [hrun] at hkeeps
      exact hkeeps

end Accelerator

end TensorLink

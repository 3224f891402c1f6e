import TensorLink.Proofs.Transport.RegisterChannel
import TensorLink.Simulation.Delayed

/-!
# Registers behind a link are a memory

Seen over a link, the registers of a Beagle are a memory: each holds what was written to it last,
and the chip sees the accesses that were asked for, one for one. An access of 32 bits and one of 64
bits at the same offset go to the same register. Left out are the two registers that behave on their
own, and transfers that get lost.

Results:
* `RegisterOperation.held_eq_initial`: a register that no access writes holds what it did.
* `LossyCarrier.performed`: what one access does.
* `LossyCarrier.performs_as_memory`: a sequence of accesses over a link reads what was written last,
  and leaves one trace for each access on the chip.
-/

namespace TensorLink

open Sequencing Simulation

/-! ## Specification -/

/-- An access to ask for. -/
inductive RegisterOperation where
  | read32 (offset : Nat)
  | read64 (offset : Nat)
  | write32 (offset : Nat) (value : BitVec 32)
  | write64 (offset : Nat) (value : BitVec 64)
  deriving DecidableEq, Repr

/-- What an access returns. -/
inductive RegisterAnswer where
  | word (value : BitVec 32)
  | doubleWord (value : BitVec 64)
  | written
  deriving DecidableEq, Repr

namespace RegisterOperation

/-- The register of an access. -/
def offset : RegisterOperation → Nat
  | read32 offset | read64 offset | write32 offset _ | write64 offset _ => offset

/-- The width of an access. -/
def width : RegisterOperation → RegisterWidth
  | read32 _ | write32 .. => .bits32
  | read64 _ | write64 .. => .bits64

/-- The direction of an access. -/
def direction : RegisterOperation → Direction
  | read32 _ | read64 _ => .input
  | write32 .. | write64 .. => .output

/-- What an access writes, if it does: 32 bits are extended by zeros. -/
def written? : RegisterOperation → Option (BitVec 64)
  | read32 _ | read64 _ => none
  | write32 _ value => some (value.setWidth 64)
  | write64 _ value => some value

/-- What an access writes to a given register, if it does. -/
def stored? (register : Nat) (operation : RegisterOperation) : Option (BitVec 64) :=
  if operation.offset = register then operation.written? else none

/-- What a register holds after some accesses: what was written to it last, or else its initial
    value. -/
def held (initial : Nat → BitVec 64) (earlier : List RegisterOperation) (register : Nat) :
    BitVec 64 :=
  (earlier.reverse.findSome? (stored? register)).getD (initial register)

/-- What an access to a register with the given content returns: a read of 32 bits the low ones. -/
def answer (content : BitVec 64) : RegisterOperation → RegisterAnswer
  | read32 _ => .word (content.setWidth 32)
  | read64 _ => .doubleWord content
  | write32 .. | write64 .. => .written

/-- The trace that an access to a register with the given content leaves on the chip. -/
def trace (content : BitVec 64) (operation : RegisterOperation) : RegisterTrace where
  direction := operation.direction
  width := operation.width
  offset := operation.offset
  value := operation.written?.getD content

/-- Asks for an access. -/
def perform {σ : Type} (registers : RegisterAccess σ) : RegisterOperation → DeviceM σ RegisterAnswer
  | read32 offset => do return .word (← registers.read32 offset)
  | read64 offset => do return .doubleWord (← registers.read64 offset)
  | write32 offset value => do
    registers.write32 offset value
    return .written
  | write64 offset value => do
    registers.write64 offset value
    return .written

/-- Whether an access is to one of the registers that keep what they are told. -/
def Plain (operation : RegisterOperation) : Prop :=
  operation.offset < UInt32.size ∧ operation.offset ≠ Chip.beagle.scu.scuCtrl3 ∧
    operation.offset ≠ Chip.beagle.apex.omc0Dc

instance (operation : RegisterOperation) : Decidable operation.Plain :=
  inferInstanceAs (Decidable (_ ∧ _ ∧ _))

variable {initial : Nat → BitVec 64} {register : Nat}

/-- The first access happens before all others. -/
theorem held_cons (operation : RegisterOperation) (later : List RegisterOperation) :
    held initial (operation :: later) = held (held initial [operation]) later := by
  funext register
  unfold held
  rw [List.reverse_cons, List.findSome?_append]
  cases later.reverse.findSome? (stored? register) <;> rfl

/-- A register that is not written keeps its value. -/
theorem held_eq_initial {earlier : List RegisterOperation}
    (hsilent : ∀ operation ∈ earlier, operation.stored? register = none) :
    held initial earlier register = initial register := by
  unfold held
  rw [List.findSome?_eq_none_iff.mpr fun operation hmem =>
    hsilent operation (List.mem_reverse.mp hmem), Option.getD_none]

end RegisterOperation

/-- The outcome of some accesses to a memory: each returns what its register held by then, and
    leaves its trace. -/
structure MemoryOutcome (initial : Nat → BitVec 64) (operations : List RegisterOperation)
    (answers : List RegisterAnswer) (log : List RegisterTrace) : Prop where
  answers_length : answers.length = operations.length
  log_length : log.length = operations.length
  answered : ∀ (i : Nat) (operation : RegisterOperation), operations[i]? = some operation →
    answers[i]? =
      some (operation.answer (RegisterOperation.held initial (operations.take i) operation.offset))
  logged : ∀ (i : Nat) (operation : RegisterOperation), operations[i]? = some operation →
    log[i]? =
      some (operation.trace (RegisterOperation.held initial (operations.take i) operation.offset))

theorem MemoryOutcome.nil (initial : Nat → BitVec 64) : MemoryOutcome initial [] [] [] :=
  ⟨rfl, rfl, by simp, by simp⟩

theorem MemoryOutcome.cons {initial : Nat → BitVec 64} {operation : RegisterOperation}
    {operations : List RegisterOperation} {answers : List RegisterAnswer}
    {log : List RegisterTrace}
    (h : MemoryOutcome (RegisterOperation.held initial [operation]) operations answers log) :
    MemoryOutcome initial (operation :: operations)
      (operation.answer (initial operation.offset) :: answers)
      (operation.trace (initial operation.offset) :: log) := by
  refine ⟨congrArg (· + 1) h.answers_length, congrArg (· + 1) h.log_length, fun i later hi => ?_,
    fun i later hi => ?_⟩
  · cases i with
    | zero =>
      cases hi
      rfl
    | succ i =>
      rw [List.take_succ_cons, RegisterOperation.held_cons]
      exact h.answered i later hi
  · cases i with
    | zero =>
      cases hi
      rfl
    | succ i =>
      rw [List.take_succ_cons, RegisterOperation.held_cons]
      exact h.logged i later hi

namespace Simulation.Beagle

/-- A chip after some accesses, of which it has kept a log. -/
def afterOperations (operations : List RegisterOperation) (log : List RegisterTrace)
    (beagle : Beagle) : Beagle :=
  { beagle with
    registers := RegisterOperation.held beagle.registers operations
    accesses := log.reverse ++ beagle.accesses }

theorem afterOperations_cons (operation : RegisterOperation) (operations : List RegisterOperation)
    (trace : RegisterTrace) (log : List RegisterTrace) (beagle : Beagle) :
    afterOperations operations log (afterOperations [operation] [trace] beagle) =
      afterOperations (operation :: operations) (trace :: log) beagle := by
  simp only [afterOperations, RegisterOperation.held_cons operation operations,
    List.reverse_cons, List.reverse_nil, List.nil_append, List.append_assoc]

theorem readRegister_of_plain {offset : Nat} (hoffset : offset ≠ Chip.beagle.apex.omc0Dc)
    (beagle : Beagle) : beagle.readRegister offset = beagle.registers offset := if_neg hoffset

/-- A chip whose register is read. -/
theorem note_of_read {operation : RegisterOperation} (hread : operation.written? = none)
    (hdirection : operation.direction = .input) (beagle : Beagle) :
    beagle.note .input operation.width operation.offset (beagle.registers operation.offset) =
      beagle.afterOperations [operation]
        [operation.trace (beagle.registers operation.offset)] := by
  have hheld : RegisterOperation.held beagle.registers [operation] = beagle.registers := by
    funext register
    exact RegisterOperation.held_eq_initial (by simp [RegisterOperation.stored?, hread])
  simp only [note, afterOperations, hheld, RegisterOperation.trace, hread, hdirection,
    Option.getD_none, List.reverse_singleton, List.singleton_append]

/-- A chip whose register is written. -/
theorem writeRegister_of_write {operation : RegisterOperation} {value : BitVec 64}
    (hwrite : operation.written? = some value) (hdirection : operation.direction = .output)
    (hoffset : operation.offset ≠ Chip.beagle.scu.scuCtrl3) (beagle : Beagle) :
    (beagle.note .output operation.width operation.offset value).writeRegister operation.offset
        value =
      beagle.afterOperations [operation]
        [operation.trace (beagle.registers operation.offset)] := by
  have hheld : RegisterOperation.held beagle.registers [operation] =
      fun other => if other = operation.offset then value else beagle.registers other := by
    funext register
    by_cases hregister : operation.offset = register
    · simp [RegisterOperation.held, RegisterOperation.stored?, hwrite, hregister]
    · simp [RegisterOperation.held, RegisterOperation.stored?, hregister, Ne.symm hregister]
  simp only [writeRegister, if_neg hoffset, setRegister, note, afterOperations, hheld,
    RegisterOperation.trace, hwrite, hdirection, Option.getD_some, List.reverse_singleton,
    List.singleton_append]

end Simulation.Beagle

namespace LossyCarrier

variable {τ : Type} {carrier : LossyCarrier τ} (config : DriverConfig) {link : Link τ}

/-- A carrier that takes its time, but not too much of it, loses no more than the one behind it. -/
def delayed (carrier : LossyCarrier τ) : LossyCarrier (Delayed τ) where
  transport := Delayed.transport (Delayed.patience config) carrier.transport
  device delayed := carrier.device delayed.inner
  fair delayed := carrier.fair delayed.inner ∧ delayed.backlog = [] ∧
    delayed.due ≤ delayed.clock ∧ ∀ ticket, delayed.delay ≤ Delayed.patience config ticket
  mayFail := carrier.mayFail
  carries ticket setup data before reply answered hfair hcontrol := by
    obtain ⟨hinner, hfree, hidle, hdelay⟩ := hfair
    obtain ⟨hfair, houtcome⟩ := carrier.carries ticket setup data before.inner reply answered hinner
      hcontrol
    dsimp only [Delayed.transport]
    rw [Delayed.submit_punctual _ hfree hidle (hdelay ticket)]
    exact ⟨⟨hfair, rfl, Nat.le_refl _, hdelay⟩, houtcome⟩

section Lossless

variable (hlossless : ¬carrier.mayFail) (hready : carrier.LinkReady link)

include hlossless hready

/-! ## One transfer and one access -/

/-- A transfer that cannot get lost returns what the chip answers. -/
theorem controlTransfer_eq_ok {setup : SetupPacket} {data reply : Bytes} {answered : Beagle}
    (hcontrol : Beagle.control setup data (carrier.device link.transport) = .ok reply answered) :
    ∃ link', Link.controlTransfer carrier.transport config setup data link = .ok reply link' ∧
      carrier.LinkReady link' ∧ carrier.device link'.transport = answered := by
  obtain ⟨hfair, ⟨hcompleted, hdevice⟩ | ⟨hmayFail, -, -⟩⟩ :=
    carrier.carries ⟨link.owner, .control, link.control.last + 1⟩ setup data link.transport reply
      answered hready.fair hcontrol
  · have htransact := CompletionQueue.transact_of_completed hready.control
      (PipeName.control.timeout config)
      (fun number => carrier.transport.control ⟨link.owner, .control, number⟩ setup data)
      (Prod.ext hcompleted rfl)
    unfold Link.controlTransfer DeviceM.ofOutcome
    dsimp only
    rw [htransact]
    exact ⟨_, rfl, ⟨CompletionQueue.ready_nil _, hfair⟩, hdevice⟩
  · exact absurd hmayFail hlossless

variable {offset : Nat} (hoffset : offset < UInt32.size)

include hoffset

theorem readRegister_eq_ok (width : RegisterWidth) :
    ∃ link', Link.readRegister carrier.transport config offset width link =
        .ok (((carrier.device link.transport).readRegister offset).toNat %
          Nat.pow 256 width.octets) link' ∧
      carrier.LinkReady link' ∧ carrier.device link'.transport =
        (carrier.device link.transport).note .input width offset
          ((carrier.device link.transport).readRegister offset) := by
  obtain ⟨link', htransfer, hready', hdevice⟩ := controlTransfer_eq_ok config hlossless hready
    (Beagle.control_read hoffset width (carrier.device link.transport))
  refine ⟨link', ?_, hready', hdevice⟩
  unfold Link.readRegister
  rw [bind_of_ok htransfer]
  dsimp only
  rw [if_neg (by rw [Bytes.length_littleEndian]; exact Nat.lt_irrefl _),
    List.take_of_length_le (Nat.le_of_eq (Bytes.length_littleEndian ..)),
    Bytes.ofLittleEndian_littleEndian]
  rfl

theorem writeRegister_eq_ok (width : RegisterWidth) (value : Nat) :
    ∃ link', Link.writeRegister carrier.transport config offset width value link = .ok () link' ∧
      carrier.LinkReady link' ∧ carrier.device link'.transport =
        let written := BitVec.ofNat 64 (value % Nat.pow 256 width.octets)
        ((carrier.device link.transport).note .output width offset written).writeRegister offset
          written := by
  obtain ⟨link', htransfer, hready', hdevice⟩ := controlTransfer_eq_ok config hlossless hready
    (Beagle.control_write hoffset width value (carrier.device link.transport))
  refine ⟨link', ?_, hready', hdevice⟩
  unfold Link.writeRegister
  rw [bind_of_ok htransfer]
  rfl

end Lossless

/-- **Step.** An access to a plain register returns what the register holds, leaves its trace, and
    changes nothing else. -/
theorem performed (hlossless : ¬carrier.mayFail) (hready : carrier.LinkReady link)
    {operation : RegisterOperation} (hplain : operation.Plain) :
    let chip := carrier.device link.transport
    ∃ link', operation.perform (Link.registers carrier.transport config) link =
        .ok (operation.answer (chip.registers operation.offset)) link' ∧
      carrier.LinkReady link' ∧ carrier.device link'.transport =
        chip.afterOperations [operation] [operation.trace (chip.registers operation.offset)] := by
  intro chip
  obtain ⟨hoffset, hpower, hsensor⟩ := hplain
  have hcontent := Beagle.readRegister_of_plain hsensor chip
  cases operation with
  | read32 offset =>
    obtain ⟨link', hread, hready', hdevice⟩ :=
      readRegister_eq_ok config hlossless hready hoffset .bits32
    have hanswer : (Link.registers carrier.transport config).read32 offset link =
        .ok ((chip.registers offset).setWidth 32) link' := by
      refine (bind_of_ok hread).trans ?_
      rw [ofNat_octets32, hcontent]
      rfl
    rw [hcontent] at hdevice
    exact ⟨link', bind_of_ok hanswer, hready',
      hdevice.trans (@Beagle.note_of_read (.read32 offset) rfl rfl chip)⟩
  | read64 offset =>
    obtain ⟨link', hread, hready', hdevice⟩ :=
      readRegister_eq_ok config hlossless hready hoffset .bits64
    have hanswer : (Link.registers carrier.transport config).read64 offset link =
        .ok (chip.registers offset) link' := by
      refine (bind_of_ok hread).trans ?_
      rw [ofNat_octets64, hcontent]
      rfl
    rw [hcontent] at hdevice
    exact ⟨link', bind_of_ok hanswer, hready',
      hdevice.trans (@Beagle.note_of_read (.read64 offset) rfl rfl chip)⟩
  | write32 offset value =>
    obtain ⟨link', hwrite, hready', hdevice⟩ :=
      writeRegister_eq_ok config hlossless hready hoffset .bits32 value.toNat
    rw [ofNat_toNat32] at hdevice
    exact ⟨link', bind_of_ok hwrite, hready', hdevice.trans
      (@Beagle.writeRegister_of_write (.write32 offset value) _ rfl rfl hpower chip)⟩
  | write64 offset value =>
    obtain ⟨link', hwrite, hready', hdevice⟩ :=
      writeRegister_eq_ok config hlossless hready hoffset .bits64 value.toNat
    rw [ofNat_octets64] at hdevice
    exact ⟨link', bind_of_ok hwrite, hready', hdevice.trans
      (@Beagle.writeRegister_of_write (.write64 offset value) _ rfl rfl hpower chip)⟩

/-- **Run.** Over a link whose carrier loses nothing, every sequence of accesses to plain registers
    ends well. Each access returns what was written to its register last, the chip keeps one trace
    for each access, and of the rest of the chip nothing changes. -/
theorem performs_as_memory (hlossless : ¬carrier.mayFail) (hready : carrier.LinkReady link)
    {operations : List RegisterOperation} (hplain : ∀ operation ∈ operations, operation.Plain) :
    ∃ answers log link',
      operations.mapM (·.perform (Link.registers carrier.transport config)) link =
        .ok answers link' ∧
      MemoryOutcome (carrier.device link.transport).registers operations answers log ∧
      carrier.LinkReady link' ∧ carrier.device link'.transport =
        (carrier.device link.transport).afterOperations operations log := by
  induction operations generalizing link with
  | nil => exact ⟨[], [], link, rfl, .nil _, hready, rfl⟩
  | cons operation operations ih =>
    obtain ⟨hfirst, hrest⟩ := List.forall_mem_cons.mp hplain
    obtain ⟨mid, hperform, hmid, hdevice⟩ := performed config hlossless hready hfirst
    obtain ⟨answers, log, link', hrun, houtcome, hready', hdevice'⟩ := ih hmid hrest
    rw [hdevice] at houtcome hdevice'
    refine ⟨_, _, link', ?_, houtcome.cons, hready', ?_⟩
    · rw [List.mapM_cons, bind_of_ok hperform, bind_of_ok hrun]
      rfl
    · rw [hdevice', Beagle.afterOperations_cons]

/-- Accesses of both widths to two registers of a new chip, over a transport that takes a
    millisecond for each transfer. -/
theorem performs_mixed_widths :
    let config : DriverConfig := {}
    let carrier := direct.delayed config
    let link : Link (Delayed Beagle) :=
      { owner := 0, transport := { inner := Beagle.new, delay := 1000 } }
    let operations : List RegisterOperation :=
      [.write64 0x44018 0x1122334455667788, .read32 0x44018, .write32 0x44018 0xaabbccdd,
        .read64 0x44020, .read64 0x44018]
    ¬carrier.mayFail ∧ carrier.LinkReady link ∧ (∀ operation ∈ operations, operation.Plain) ∧
      ∃ answers log link',
        operations.mapM (·.perform (Link.registers carrier.transport config)) link =
          .ok answers link' ∧
        MemoryOutcome Beagle.new.registers operations answers log ∧
        answers[1]? = some (.word 0x55667788) ∧ answers[3]? = some (.doubleWord 0) ∧
        answers[4]? = some (.doubleWord 0xaabbccdd) ∧
        log[2]? = some ⟨.output, .bits32, 0x44018, 0xaabbccdd⟩ := by
  intro config carrier link operations
  have hpunctual : ∀ ticket, link.transport.delay ≤ Delayed.patience config ticket := by
    intro ticket
    unfold Delayed.patience
    cases ticket.pipe <;> decide
  have hready : carrier.LinkReady link :=
    ⟨CompletionQueue.ready_nil 0, trivial, rfl, Nat.le_refl 0, hpunctual⟩
  have hplain : ∀ operation ∈ operations, operation.Plain := by decide
  obtain ⟨answers, log, link', hrun, houtcome, -, -⟩ :=
    performs_as_memory config (show ¬carrier.mayFail from id) hready hplain
  exact ⟨id, hready, hplain, answers, log, link', hrun, houtcome,
    (houtcome.answered 1 _ rfl).trans (by decide), (houtcome.answered 3 _ rfl).trans (by decide),
    (houtcome.answered 4 _ rfl).trans (by decide), houtcome.logged 2 _ rfl⟩

end LossyCarrier

end TensorLink

import TensorLink.Proofs.BringUp.Steps

/-!
# Running bring-up again

Bring-up that is cut short leaves some registers written and others not; running it again from the
start is meant to make up for this, whatever the chip was left in. It does so for every register but
one: a chip that is asleep is not put to sleep again, and its credits, which are cleared with that,
stay as they are.

Results:
* `Resumable.outcome_eq`, `Resumable.outcome_eq_iff`: what a second run makes of a chip.
* `resumable_left`, `exists_ok_run`: the first run and the second.
* `restores_iff_not_creditsPending`: the second run has the same result as a run that was never cut
  short, exactly if the first one did not leave a sleeping chip with credits.
-/

namespace TensorLink

open Sequencing Simulation

/-- The bring-up of the chip behind a link. -/
def LossyCarrier.bringUp {τ : Type} (carrier : LossyCarrier τ) (config : DriverConfig) :
    BringUp (Link τ) :=
  ⟨Link.registers carrier.transport config, Chip.beagle, config.pollLimit⟩

namespace BringUp

variable {mode : PerformanceMode} {start beagle : Beagle}

/-- A chip that has been put to sleep, and whose credits have not been cleared. -/
def CreditsPending (beagle : Beagle) : Prop :=
  Dormant beagle ∧ beagle.registers Chip.beagle.gcbbCredit0 ≠ 0

instance (beagle : Beagle) : Decidable (CreditsPending beagle) := by
  unfold CreditsPending
  infer_instance

/-- Bring-up does not change the identity of a chip. -/
theorem Resumable.identified (resumable : Resumable mode start beagle)
    (hidentified : Identified start) : Identified beagle := by
  let puts : List (Field × Nat) := [(Omc000.testReg0, testPattern)]
  have hfields : (settledFields mode start.sample).lookup Chip.beagle.apex.omc000 = some puts := rfl
  have hidentity (low : BitVec 32) :
      Omc000.chipId.read (Field.putAll puts low) = Omc000.chipId.read low :=
    Field.read_putAll_of_apart _ _ (by decide) (by decide)
  have hpending := congrArg (BitVec.setWidth 32) (resumable.pending Chip.beagle.apex.omc000)
  rw [settle_of_fields hfields, settle_of_fields hfields, setWidth_word, setWidth_word] at hpending
  unfold Identified
  rw [← hidentity, hpending, hidentity]
  exact hidentified

theorem outcome_of_not_dormant (hdormant : ¬Dormant start) (offset : Nat) :
    outcome mode start offset = settle mode start.sample offset (start.registers offset) :=
  if_neg fun h => hdormant h.1

/-- A run makes the same of a chip that was left by another, except for its credits if it is
    asleep. -/
theorem Resumable.outcome_eq (resumable : Resumable mode start beagle) (hdormant : ¬Dormant start)
    {offset : Nat} (hoffset : ¬(Dormant beagle ∧ offset = Chip.beagle.gcbbCredit0)) :
    outcome mode beagle offset = outcome mode start offset := by
  rw [outcome, if_neg hoffset, outcome_of_not_dormant hdormant, resumable.sample,
    resumable.pending]

theorem Resumable.outcome_eq_iff (resumable : Resumable mode start beagle)
    (hdormant : ¬Dormant start) :
    outcome mode beagle = outcome mode start ↔ ¬CreditsPending beagle := by
  have hcredit : outcome mode start Chip.beagle.gcbbCredit0 = 0 := by
    rw [outcome_of_not_dormant hdormant]
    exact settle_of_number (by decide) rfl _
  refine ⟨fun heq ⟨hasleep, hpending⟩ => hpending ?_, fun hcleared => funext fun offset => ?_⟩
  · rw [← hcredit, ← heq, outcome, if_pos ⟨hasleep, rfl⟩]
  · by_cases hoffset : Dormant beagle ∧ offset = Chip.beagle.gcbbCredit0
    · obtain ⟨hasleep, rfl⟩ := hoffset
      rw [hcredit, outcome, if_pos ⟨hasleep, rfl⟩]
      exact not_not.mp fun hpending => hcleared ⟨hasleep, hpending⟩
    · exact resumable.outcome_eq hdormant hoffset

/-! ## Two runs -/

variable {τ : Type} (carrier : LossyCarrier τ) {config : DriverConfig} {link : Link τ}

/-- How a run over a link ends. -/
theorem ended_run (mode : PerformanceMode) (hlimit : 1 ≤ config.pollLimit)
    (hready : carrier.LinkReady link) (hidentified : Identified (carrier.chip link))
    (hrested : Dormant (carrier.chip link) → (carrier.chip link).registers scalarCore = 0) :
    Ended (.ofLink carrier config)
      (fun _ beagle => Resumable mode (carrier.chip link) beagle ∧
        beagle.registers = outcome mode (carrier.chip link))
      (Resumable mode (carrier.chip link)) ((carrier.bringUp config).run mode link) :=
  meets_run hrested hlimit hidentified link hready rfl

/-- Wherever a run ends, bring-up can be run again. -/
theorem resumable_left (hlimit : 1 ≤ config.pollLimit) (hready : carrier.LinkReady link)
    (hidentified : Identified (carrier.chip link)) (hdormant : ¬Dormant (carrier.chip link)) :
    Resumable mode (carrier.chip link)
      (carrier.chip (left ((carrier.bringUp config).run mode link))) := by
  have hended := ended_run carrier mode hlimit hready hidentified
    fun h => absurd h hdormant
  cases hresult : (carrier.bringUp config).run mode link with
  | ok _ after =>
    rw [hresult] at hended
    obtain ⟨-, hresumable, -⟩ := hended
    exact hresumable
  | error error after =>
    rw [hresult] at hended
    obtain ⟨⟩ | ⟨-, hresumable⟩ := hended
    exact hresumable

/-- A run in which no transfer is lost ends well. -/
theorem exists_ok_run (hsound : ¬carrier.mayFail) (hlimit : 1 ≤ config.pollLimit)
    (hready : carrier.LinkReady link) (hidentified : Identified (carrier.chip link))
    (hrested : Dormant (carrier.chip link) → (carrier.chip link).registers scalarCore = 0) :
    ∃ after, (carrier.bringUp config).run mode link = .ok () after ∧
      (carrier.chip after).registers = outcome mode (carrier.chip link) := by
  have hended := ended_run carrier mode hlimit hready hidentified hrested
  cases hresult : (carrier.bringUp config).run mode link with
  | ok _ after =>
    rw [hresult] at hended
    obtain ⟨-, -, hregisters⟩ := hended
    exact ⟨after, rfl, hregisters⟩
  | error error after =>
    rw [hresult] at hended
    obtain ⟨⟩ | ⟨hmayFail, -⟩ := hended
    exact absurd hmayFail hsound

/-- A run on a chip that was left by another ends well, and has the same result as a run on the chip
    as it was at first. -/
def Restores (carrier : LossyCarrier τ) (config : DriverConfig) (mode : PerformanceMode)
    (again fresh : Link τ) : Prop :=
  ∃ rerun once, (carrier.bringUp config).run mode again = .ok () rerun ∧
    (carrier.bringUp config).run mode fresh = .ok () once ∧
      (carrier.chip rerun).registers = (carrier.chip once).registers

/-- Running bring-up again restores a chip that was awake, wherever the first run was cut short,
    exactly if it is not left asleep with credits. -/
theorem restores_iff_not_creditsPending {τ' : Type} (flawed : LossyCarrier τ)
    (sound : LossyCarrier τ') (hsound : ¬sound.mayFail) (config : DriverConfig)
    (hlimit : 1 ≤ config.pollLimit) (mode : PerformanceMode) (link : Link τ)
    (hlink : flawed.LinkReady link) (hidentified : Identified (flawed.chip link))
    (hdormant : ¬Dormant (flawed.chip link)) (again fresh : Link τ')
    (hagain : sound.LinkReady again) (hfresh : sound.LinkReady fresh)
    (hleft : sound.chip again =
      flawed.chip (left ((flawed.bringUp config).run mode link)))
    (hstart : sound.chip fresh = flawed.chip link) :
    Restores sound config mode again fresh ↔ ¬CreditsPending (sound.chip again) := by
  have hresumable : Resumable mode (sound.chip fresh) (sound.chip again) := by
    rw [hleft, hstart]
    exact resumable_left flawed hlimit hlink hidentified hdormant
  rw [← hstart] at hidentified hdormant
  obtain ⟨rerun, hrerun, hregisters⟩ := exists_ok_run sound hsound hlimit hagain
    (hresumable.identified hidentified) hresumable.rested
  obtain ⟨once, honce, hregisters'⟩ := exists_ok_run sound hsound hlimit hfresh hidentified
    fun h => absurd h hdormant
  rw [← hresumable.outcome_eq_iff hdormant, ← hregisters, ← hregisters']
  constructor
  · rintro ⟨rerun', once', hrerun', honce', heq⟩
    cases hrerun.symm.trans hrerun'
    cases honce.symm.trans honce'
    exact heq
  · exact fun heq => ⟨rerun, once, hrerun, honce, heq⟩

/-- A new chip behind a link that follows a script. -/
def scriptedLink (directives : List (Directive Bytes)) : Link (Scripted Ticket Beagle) :=
  { owner := 0, transport := { device := Beagle.new, script := { control := directives } } }

/-- A link to the chip that bring-up at full speed has left behind such a link. -/
def linkAgain (directives : List (Directive Bytes)) : Link Beagle :=
  { owner := 1
    transport := LossyCarrier.scripted.chip (left ((LossyCarrier.scripted.bringUp {}).run .max
      (scriptedLink directives))) }

theorem chip_linkAgain (directives : List (Directive Bytes)) :
    LossyCarrier.direct.chip (linkAgain directives) = LossyCarrier.scripted.chip
      (left ((LossyCarrier.scripted.bringUp {}).run .max (scriptedLink directives))) := rfl

/-- A link to a new chip. -/
def newLink : Link Beagle := { owner := 1, transport := Beagle.new }

theorem chip_newLink (directives : List (Directive Bytes)) :
    LossyCarrier.direct.chip newLink = LossyCarrier.scripted.chip (scriptedLink directives) := rfl

/-- A script that makes up no answers keeps its word. -/
theorem linkReady_scriptedLink {directives : List (Directive Bytes)}
    (honest : ∀ reply, Directive.reply (.ok reply) ∉ directives) :
    LossyCarrier.scripted.LinkReady (scriptedLink directives) := by
  refine ⟨CompletionQueue.ready_nil 0, fun directive hmem reply hreply => honest reply ?_⟩
  rw [← hreply]
  exact hmem

/-- The transfer that clears the credits reaches the chip, but does not complete in time. -/
def lateClear : List (Directive Bytes) := List.replicate 13 .pass ++ [.hold]

/-- Bring-up that is given up after it has cleared the credits is made up for. -/
theorem restores_lateClear :
    LossyCarrier.scripted.LinkReady (scriptedLink lateClear) ∧
      Identified (LossyCarrier.scripted.chip (scriptedLink lateClear)) ∧
      ¬Dormant (LossyCarrier.scripted.chip (scriptedLink lateClear)) ∧
      Restores .direct {} .max (linkAgain lateClear) newLink := by
  have hlink : LossyCarrier.scripted.LinkReady (scriptedLink lateClear) :=
    linkReady_scriptedLink fun reply => by simp [lateClear]
  have hidentified : Identified (LossyCarrier.scripted.chip (scriptedLink lateClear)) := by decide
  have hdormant : ¬Dormant (LossyCarrier.scripted.chip (scriptedLink lateClear)) := by decide
  exact ⟨hlink, hidentified, hdormant,
    (restores_iff_not_creditsPending .scripted .direct id {} (by decide) .max
      (scriptedLink lateClear) hlink hidentified hdormant (linkAgain lateClear) newLink
      ⟨CompletionQueue.ready_nil 0, trivial⟩ ⟨CompletionQueue.ready_nil 0, trivial⟩
      (chip_linkAgain _) (chip_newLink _)).mpr (by decide +kernel)⟩

/-- The transfer that clears the credits is lost. -/
def lostClear : List (Directive Bytes) :=
  List.replicate 13 .pass ++ [.reply (.error (.transferFailed "lost"))]

/-- Bring-up that is cut short between the first and the second write of the credits is not made up
    for: the credits stay set. -/
theorem not_restores_of_lostClear :
    ¬∀ (config : DriverConfig) (mode : PerformanceMode) (link : Link (Scripted Ticket Beagle))
      (again fresh : Link Beagle), 1 ≤ config.pollLimit →
      LossyCarrier.scripted.LinkReady link → Identified (LossyCarrier.scripted.chip link) →
      ¬Dormant (LossyCarrier.scripted.chip link) →
      LossyCarrier.direct.LinkReady again → LossyCarrier.direct.LinkReady fresh →
      LossyCarrier.direct.chip again = LossyCarrier.scripted.chip
        (left ((LossyCarrier.scripted.bringUp config).run mode link)) →
      LossyCarrier.direct.chip fresh = LossyCarrier.scripted.chip link →
      Restores .direct config mode again fresh := by
  intro h
  have hlink : LossyCarrier.scripted.LinkReady (scriptedLink lostClear) :=
    linkReady_scriptedLink fun reply => by simp [lostClear]
  obtain ⟨rerun, once, hrerun, honce, heq⟩ := h {} .max (scriptedLink lostClear)
    (linkAgain lostClear) newLink (by decide) hlink (by decide) (by decide)
    ⟨CompletionQueue.ready_nil 0, trivial⟩ ⟨CompletionQueue.ready_nil 0, trivial⟩
    (chip_linkAgain _) (chip_newLink _)
  let credits (link : Link Beagle) : BitVec 64 :=
    (LossyCarrier.direct.chip (left ((LossyCarrier.direct.bringUp {}).run .max
      link))).registers Chip.beagle.gcbbCredit0
  have hkept : credits (linkAgain lostClear) = 0xF := by decide +kernel
  have hcleared : credits newLink = 0 := by decide +kernel
  have hsame : credits (linkAgain lostClear) = credits newLink := by
    dsimp only [credits]
    rw [hrerun, honce]
    exact congrFun heq _
  rw [hkept, hcleared] at hsame
  exact absurd hsame (by decide)

end BringUp

end TensorLink

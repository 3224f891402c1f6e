import Mathlib.Tactic.IntervalCases
import TensorLink.Proofs.BringUp.AccessOrder
import TensorLink.Proofs.Register.Puts
import TensorLink.Proofs.Register.Views

/-!
# The bits that bring-up leaves alone

Bring-up shares most of its registers with others: of the word that a register holds, a step owns a
few fields. Whatever the registers answer, a step writes such a register only right after reading
it, and what it writes is the word that was read with its own fields set. Step 2 relies on the read
of step 1 for this; what a wait has read is never written back.

Results:
* `Replaces.putAll`: setting the fields of a change keeps all other fields and bits.
* `Chain.changesOnly`, `Chain.stepChangesOnly`: actions that pass the audit write nothing but the
  credits and changes of what was read last.
* `audited_steps`: the table of bring-up passes it.
* `run_changes_fields_only`: the writes of a run.
-/

namespace TensorLink.BringUp

open Sequencing

variable {σ : Type}

/-! ## Specification -/

/-- A change of a register: fields of its layout, and what they are set to. -/
structure Change where
  offset : Nat
  layout : Layout
  puts : List (Field × Nat)

/-- What each of the thirteen steps changes in the registers of which it owns some fields. -/
def changes (chip : Chip) (mode : PerformanceMode) : List (List Change) :=
  [ [],
    [⟨chip.apex.omc000, Omc000.layout, [(Omc000.testReg0, 0xAA)]⟩],
    [⟨chip.scu.scuCtrl0, ScuCtrl0.layout,
      [(ScuCtrl0.usbInactivePhyMode, 0), (ScuCtrl0.pcieInactivePhyMode, 0)]⟩],
    [⟨chip.scu.scuCtrl2, ScuCtrl2.layout, [(ScuCtrl2.gatedGcb, 2)]⟩],
    [⟨chip.scu.scuCtrl3, ScuCtrl3.layout, [(ScuCtrl3.forceSleep, 3)]⟩],
    [⟨chip.scu.scuCtrl3, ScuCtrl3.layout,
      [(ScuCtrl3.usb8051Clock, mode.clocks.usb.code), (ScuCtrl3.axiClock, mode.clocks.axi.code),
        (ScuCtrl3.gcbClock, mode.clocks.gcb.code), (ScuCtrl3.forceSleep, 2)]⟩],
    [],
    [],
    [],
    [⟨chip.scu.scuCtrl2, ScuCtrl2.layout, [(ScuCtrl2.gatedGcb, 1)]⟩],
    [],
    [⟨chip.apex.omc0D0, Omc0D0.layout,
        [(Omc0D0.tSetting, 0), (Omc0D0.tslope, 0), (Omc0D0.tref, 0), (Omc0D0.adr, 0xC),
          (Omc0D0.clkEn, 1)]⟩,
      ⟨chip.apex.omc0D8, Omc0D8.layout, [(Omc0D8.enad, 1), (Omc0D8.envr, 1), (Omc0D8.enbg, 1)]⟩,
      ⟨chip.apex.omc0Dc, Omc0Dc.layout, [(Omc0Dc.enthmc, 1)]⟩],
    [] ]

/-- `value` is `word` with the fields of a change set, and nothing else replaced. -/
structure Replaces (change : Change) (word value : BitVec 32) : Prop where
  set : ∀ put ∈ change.puts, put.1.read value = put.2
  others : ∀ field ∈ change.layout.fields, field ∉ change.puts.map (·.1) →
    field.read value = field.read word
  /-- Reserved bits are among those outside the fields that are set. -/
  kept : ∀ bit < 32, (∀ put ∈ change.puts, ¬put.1.covers bit) →
    value.getLsbD bit = word.getLsbD bit

/-- One of the two writes that pulse the credits of a chip. -/
def PulsesCredits (chip : Chip) (offset : Nat) (value : BitVec 32) : Prop :=
  offset = chip.gcbbCredit0 ∧ (value = 0xF ∨ value = 0)

/-- Of accesses that follow others, each write of 32 bits pulses the credits or makes one of some
    changes of the word that the access right before it has read. -/
def ChangesOnly (chip : Chip) (changes : List Change) (prior calls : List RegisterCall) : Prop :=
  ∀ (before : List RegisterCall) (offset : Nat) (value : BitVec 32)
    (outcome : Except DriverError Unit) (after : List RegisterCall),
    calls = before ++ .write32 offset value outcome :: after →
      PulsesCredits chip offset value ∨ ∃ change ∈ changes, change.offset = offset ∧
        ∃ word, (prior ++ before).getLast? = some (.read32 offset (.ok word)) ∧
          Replaces change word value

/-! ## What a change replaces -/

/-- Different fields of a layout of 32 bits, and values that they can hold. -/
structure Sets (layout : Layout) (puts : List (Field × Nat)) : Prop where
  layout_mem : layout ∈ Layout.all
  bits_eq : layout.bits = 32
  nodup : (puts.map (·.1)).Nodup
  fits : ∀ put ∈ puts, put.1 ∈ layout.fields ∧ put.2 < put.1.bound

/-- Setting the fields of a change keeps all other fields and bits. -/
theorem Replaces.putAll {change : Change} (h : Sets change.layout change.puts)
    (word : BitVec 32) : Replaces change word (Field.putAll change.puts word) where
  set := by
    intro put hput
    apply Field.read_putAll_of_mem word hput
    · have hpairs := List.pairwise_map.mp h.nodup
      refine hpairs.imp_of_mem fun hleft hright hne => ?_
      exact Layout.apart_of_ne h.layout_mem (h.fits _ hleft).1 (h.fits _ hright).1 hne
    · intro put hput
      obtain ⟨hfield, hvalue⟩ := h.fits put hput
      have hfits := Layout.fits _ h.layout_mem put.1 hfield
      exact ⟨h.bits_eq ▸ hfits, hvalue⟩
  others := by
    intro field hfield hother
    have hfits := Layout.fits _ h.layout_mem field hfield
    apply Field.read_putAll_of_apart field word (h.bits_eq ▸ hfits)
    intro put hput
    refine Layout.apart_of_ne h.layout_mem (h.fits put hput).1 hfield fun heq => hother ?_
    exact heq ▸ List.mem_map_of_mem hput
  kept := by
    intro bit hbit houtside
    exact Field.getLsbD_putAll_of_outside word hbit houtside

theorem sets_of_mem_changes (chip : Chip) (mode : PerformanceMode) :
    ∀ step ∈ changes chip mode, ∀ change ∈ step, Sets change.layout change.puts := by
  have hmem (index : Nat) {layout : Layout} (h : Layout.all[index]? = some layout) :
      layout ∈ Layout.all := List.mem_of_getElem? h
  have hclocks : Sets ScuCtrl3.layout [(ScuCtrl3.usb8051Clock, mode.clocks.usb.code),
      (ScuCtrl3.axiClock, mode.clocks.axi.code), (ScuCtrl3.gcbClock, mode.clocks.gcb.code),
      (ScuCtrl3.forceSleep, 2)] := by
    cases mode <;> exact ⟨hmem 6 rfl, rfl, by decide, by decide⟩
  simp only [changes, List.forall_mem_cons, List.not_mem_nil, false_imp_iff, implies_true, and_true,
    true_and]
  exact ⟨⟨hmem 0 rfl, rfl, by decide, by decide⟩, ⟨hmem 4 rfl, rfl, by decide, by decide⟩,
    ⟨hmem 5 rfl, rfl, by decide, by decide⟩, ⟨hmem 6 rfl, rfl, by decide, by decide⟩, hclocks,
    ⟨hmem 5 rfl, rfl, by decide, by decide⟩, ⟨hmem 1 rfl, rfl, by decide, by decide⟩,
    ⟨hmem 2 rfl, rfl, by decide, by decide⟩, ⟨hmem 3 rfl, rfl, by decide, by decide⟩⟩

/-! ## The audit of a program -/

/-- The register that an action reads into hand. -/
def Action.handed : Action → Option Nat
  | .read32 offset _ => some offset
  | .write32 .. | .write64 .. | .await32 .. | .await64 .. | .onlyIf .. => none

/-- Of the registers of 32 bits, an action writes no others than the credits and the one that was
    read into hand right before, and that with a change of the word in hand. -/
def Action.Admitted (chip : Chip) (changes : List Change) (hand : Option Nat) : Action → Prop
  | .write32 offset value =>
    (∀ word, PulsesCredits chip offset (value word)) ∨
      hand = some offset ∧
        ∃ change ∈ changes, change.offset = offset ∧ value = Field.putAll change.puts
  | .read32 .. | .write64 .. | .await32 .. | .await64 .. => True
  | .onlyIf _ action => action.Admitted chip changes hand

/-- The actions of a step are admitted, each after the one before. -/
def Audited (chip : Chip) (changes : List Change) : Option Nat → List Action → Prop
  | _, [] => True
  | hand, action :: actions =>
    action.Admitted chip changes hand ∧ Audited chip changes action.handed actions

/-- The register that is in hand after the actions of a step. -/
def handAfter : Option Nat → List Action → Option Nat
  | hand, [] => hand
  | _, action :: actions => handAfter action.handed actions

/-- Steps are audited, each with its own changes and after the one before. -/
def AuditedSteps (chip : Chip) : Option Nat → List (List Action) → List (List Change) → Prop
  | _, [], [] => True
  | hand, step :: steps, changes :: others =>
    Audited chip changes hand step ∧ AuditedSteps chip (handAfter hand step) steps others
  | _, _, _ => False

/-- The word in hand is what the last access has read from the register in hand. -/
def InHand (hand : Option Nat) (prior : List RegisterCall) (word : BitVec 32) : Prop :=
  ∀ offset, hand = some offset → prior.getLast? = some (.read32 offset (.ok word))

section

variable {chip : Chip} {mode : PerformanceMode} {limit : Nat} {own : List Change}
  {hand : Option Nat} {action : Action} {actions : List Action} {word next : BitVec 32}
  {prior calls calls' : List RegisterCall} {segments : List (List RegisterCall)}
  {result : Except DriverError (BitVec 32)}

theorem changesOnly_of_writes (h : calls.filterMap RegisterCall.write32? = []) :
    ChangesOnly chip own prior calls := by
  rintro before offset value outcome after rfl
  simp [RegisterCall.write32?] at h

theorem ChangesOnly.append (h : ChangesOnly chip own prior calls)
    (h' : ChangesOnly chip own (prior ++ calls) calls') :
    ChangesOnly chip own prior (calls ++ calls') := by
  intro before offset value outcome after heq
  obtain ⟨middle, rfl, hlater⟩ | ⟨middle, rfl, hlater⟩ := List.append_eq_append_iff.mp heq
  · rw [← List.append_assoc]
    exact h' middle offset value outcome after hlater
  · obtain ⟨rfl, hlater⟩ | ⟨middle, rfl, -⟩ := List.cons_eq_append_iff.mp hlater
    · have := h' [] offset value outcome after hlater.symm
      rwa [List.append_nil, List.append_nil] at this
    · exact h before offset value outcome middle rfl

/-- An action that is admitted writes nothing but the credits and changes of the word in hand. -/
theorem Answered.changesOnly (h : Answered limit action word calls result)
    (hadmitted : action.Admitted chip own hand) (hhand : InHand hand prior word)
    (hsets : ∀ change ∈ own, Sets change.layout change.puts) :
    ChangesOnly chip own prior calls := by
  induction h with
  | read32 => exact changesOnly_of_writes rfl
  | write32 offset value word outcome =>
    intro before offset' value' outcome' after hcalls
    obtain ⟨rfl, hcalls⟩ | ⟨_, _, hcalls⟩ := List.cons_eq_append_iff.mp hcalls
    · cases hcalls
      obtain hcredits | ⟨hread, change, hchange, hoffset, rfl⟩ := hadmitted
      · exact .inl (hcredits word)
      · refine .inr ⟨change, hchange, hoffset, word, ?_, .putAll (hsets change hchange) word⟩
        rw [List.append_nil]
        exact hhand offset hread
    · simp at hcalls
  | write64 => exact changesOnly_of_writes rfl
  | await32 polls => exact changesOnly_of_writes (polls.writes fun _ => rfl)
  | await64 polls => exact changesOnly_of_writes (polls.writes fun _ => rfl)
  | done hcondition answered ih => exact ih hadmitted hhand
  | leftAlone => exact changesOnly_of_writes rfl

/-- After an action that ends well, the word in hand is what it has read. -/
theorem Answered.inHand (h : Answered limit action word calls result)
    (hresult : result = .ok next) : InHand action.handed (prior ++ calls) next := by
  intro offset hoffset
  cases h with
  | read32 =>
    cases hoffset
    obtain ⟨rfl, -⟩ := checked_eq_ok_iff.mp hresult
    exact List.getLast?_concat
  | _ => cases hoffset

/-- Actions that pass the audit write nothing but the credits and changes of what was read last. -/
theorem Chain.changesOnly (h : Chain (Answered limit) actions word segments result)
    (haudited : Audited chip own hand actions) (hhand : InHand hand prior word)
    (hsets : ∀ change ∈ own, Sets change.layout change.puts) :
    ChangesOnly chip own prior segments.flatten ∧
      ∀ next, result = .ok next →
        InHand (handAfter hand actions) (prior ++ segments.flatten) next := by
  induction h generalizing hand prior with
  | nil word =>
    refine ⟨changesOnly_of_writes rfl, fun next hnext => ?_⟩
    cases hnext
    rwa [List.flatten_nil, List.append_nil]
  | @cons action _ _ _ calls _ _ first rest ih =>
    have hnext : InHand action.handed (prior ++ calls) _ := first.inHand rfl
    obtain ⟨hrest, hafter⟩ := ih haudited.2 hnext
    rw [List.flatten_cons]
    refine ⟨(first.changesOnly haudited.1 hhand hsets).append hrest, fun next hnext => ?_⟩
    rw [← List.append_assoc]
    exact hafter next hnext
  | stop _ first =>
    rw [List.flatten_singleton]
    exact ⟨first.changesOnly haudited.1 hhand hsets, nofun⟩

/-- Steps that pass the audit write nothing but the credits and their own changes. -/
theorem Chain.stepChangesOnly {program : List (List Action)} {table : List (List Change)}
    (h : Chain (StepAnswered limit) program word segments result)
    (haudited : AuditedSteps chip hand program table) (hhand : InHand hand prior word)
    (hsets : ∀ step ∈ table, ∀ change ∈ step, Sets change.layout change.puts) {k : Nat}
    (hcalls : segments[k]? = some calls) :
    ∃ step, table[k]? = some step ∧
      ChangesOnly chip step (prior ++ (segments.take k).flatten) calls := by
  induction h generalizing hand prior table k with
  | nil => simp at hcalls
  | @cons item items word next first segments result hfirst hrest ih =>
    obtain _ | ⟨own, others⟩ := table
    · exact haudited.elim
    obtain ⟨hown, hothers⟩ := List.forall_mem_cons.mp hsets
    obtain ⟨pieces, rfl, hchain⟩ := hfirst
    obtain ⟨honly, hafter⟩ := hchain.changesOnly haudited.1 hhand hown
    cases k with
    | zero =>
      cases hcalls
      exact ⟨own, rfl, by rwa [List.take_zero, List.flatten_nil, List.append_nil]⟩
    | succ k =>
      obtain ⟨step, hstep, hchanges⟩ := ih haudited.2 (hafter next rfl) hothers hcalls
      refine ⟨step, hstep, ?_⟩
      rwa [List.take_succ_cons, List.flatten_cons, ← List.append_assoc]
  | stop items hfirst =>
    obtain _ | ⟨own, others⟩ := table
    · exact haudited.elim
    obtain ⟨pieces, rfl, hchain⟩ := hfirst
    obtain ⟨honly, -⟩ := hchain.changesOnly haudited.1 hhand (hsets own List.mem_cons_self)
    cases k with
    | zero =>
      cases hcalls
      exact ⟨own, rfl, by rwa [List.take_zero, List.flatten_nil, List.append_nil]⟩
    | succ k => simp at hcalls

/-! ## The table of bring-up -/

theorem audited_of_forall_admitted (h : ∀ action ∈ actions, ∀ hand, action.Admitted chip own hand) :
    Audited chip own hand actions := by
  induction actions generalizing hand with
  | nil => trivial
  | cons action actions ih =>
    obtain ⟨haction, hactions⟩ := List.forall_mem_cons.mp h
    exact ⟨haction hand, ih hactions⟩

theorem audited_modification {change : Change} (hchange : change ∈ own)
    (hactions : Audited chip own none actions) :
    Audited chip own hand
      (modification change.offset (Field.putAll change.puts) ++ actions) :=
  ⟨trivial, .inr ⟨rfl, change, hchange, rfl, rfl⟩, hactions⟩

/-- Every write of the table pulses the credits, or changes what was read right before. -/
theorem audited_steps (chip : Chip) (mode : PerformanceMode) :
    AuditedSteps chip none (steps chip mode) (changes chip mode) := by
  have hstart (table : List RunControlEntry) :
      ∀ action ∈ start table, ∀ hand, action.Admitted chip [] hand :=
    List.forall_mem_map.mpr fun _ _ _ => trivial
  have hselection : ∀ action ∈ selection chip, ∀ hand, action.Admitted chip [] hand := by
    simp [selection, Action.Admitted]
  have hcore : ∀ action ∈ (chip.scalarCore?.map fun offset => Action.await64 offset
      "scalarCoreRunControl == 0" fun word => word == 0).toList, ∀ hand,
      action.Admitted chip [] hand := by
    cases chip.scalarCore? <;> simp [Action.Admitted]
  have hsensor (d0 d8 dc : Change) : Audited chip [d0, d8, dc] none
      (modification d0.offset (Field.putAll d0.puts) ++
        (modification d8.offset (Field.putAll d8.puts) ++
          (modification dc.offset (Field.putAll dc.puts) ++ []))) :=
    audited_modification (by simp) (audited_modification (by simp)
      (audited_modification (by simp) trivial))
  refine ⟨⟨trivial, trivial⟩,
    ⟨.inr ⟨rfl, _, List.mem_singleton_self _, rfl, rfl⟩, trivial, trivial⟩,
    audited_modification (List.mem_singleton_self _) ⟨trivial, trivial⟩,
    audited_modification (List.mem_singleton_self _) ⟨trivial, trivial⟩, ?sleep,
    audited_modification (List.mem_singleton_self _) ⟨trivial, trivial⟩,
    audited_of_forall_admitted hcore, ⟨trivial, audited_of_forall_admitted hselection⟩,
    ⟨trivial, trivial⟩, audited_modification (List.mem_singleton_self _) trivial,
    ⟨trivial, trivial, trivial, trivial⟩, hsensor _ _ _, ?runControl, trivial⟩
  case sleep =>
    -- What the wait reads is not written back: the credits are fixed numbers.
    exact ⟨trivial, .inr ⟨rfl, _, List.mem_singleton_self _, rfl, rfl⟩, trivial,
      .inl fun _ => ⟨rfl, .inl rfl⟩, .inl fun _ => ⟨rfl, .inr rfl⟩, trivial⟩
  case runControl =>
    refine audited_of_forall_admitted ?_
    simp only [List.forall_mem_append]
    exact ⟨⟨hstart _, hselection⟩, hstart _⟩

/-! ## Runs that end well -/

theorem Chain.exists_of_ok {ι : Type} {answered : ι → BitVec 32 → List RegisterCall →
    Except DriverError (BitVec 32) → Prop} {items : List ι}
    (h : Chain answered items word segments result) (hresult : result = .ok next) {k : Nat}
    {item : ι} (hitem : items[k]? = some item) :
    ∃ calls start ended, segments[k]? = some calls ∧ answered item start calls (.ok ended) := by
  induction h generalizing k with
  | nil => simp at hitem
  | cons first rest ih =>
    cases k with
    | zero =>
      cases hitem
      exact ⟨_, _, _, rfl, first⟩
    | succ k => exact ih hresult hitem
  | stop => cases hresult

/-- In a run that ends well, a write that does not depend on what was read is made. -/
theorem Chain.exists_write_of_ok {program : List (List Action)}
    (h : Chain (StepAnswered limit) program word segments result) (hresult : result = .ok next)
    {k : Nat} (hstep : program[k]? = some actions) {offset : Nat}
    {value : BitVec 32 → BitVec 32} (hwrite : .write32 offset value ∈ actions) :
    ∃ calls, segments[k]? = some calls ∧
      ∃ written outcome, .write32 offset written outcome ∈ calls := by
  obtain ⟨calls, _, _, hcalls, ⟨pieces, rfl, hchain⟩⟩ := h.exists_of_ok hresult hstep
  obtain ⟨i, hi⟩ := List.mem_iff_getElem?.mp hwrite
  obtain ⟨piece, start, ended, hpiece, hanswered⟩ := hchain.exists_of_ok rfl hi
  refine ⟨_, hcalls, value start, ?_⟩
  generalize Except.ok ended = result at hanswered
  cases hanswered with
  | write32 _ _ _ outcome =>
    exact ⟨outcome, List.mem_flatten.mpr
      ⟨_, List.mem_of_getElem? hpiece, List.mem_singleton_self _⟩⟩

/-- The writes of the table that do not depend on what was read: all but those of step 5. -/
theorem exists_write_of_mem_changes {k : Nat} (hk : k ≠ 4) {step : List Change}
    (hstep : (changes chip mode)[k]? = some step) :
    ∃ actions, (steps chip mode)[k]? = some actions ∧
      ∀ change ∈ step, ∃ value, Action.write32 change.offset value ∈ actions := by
  have hlt : k < 13 := (List.getElem?_eq_some_iff.mp hstep).1
  have hwrite {offset : Nat} {value : BitVec 32 → BitVec 32} :
      .write32 offset value ∈ modification offset value :=
    List.mem_cons_of_mem _ (List.mem_singleton_self _)
  interval_cases k <;> cases hstep <;> refine ⟨_, rfl, ?_⟩
  case «4».refl => exact absurd rfl hk
  case «11».refl =>
    simp only [List.forall_mem_cons, List.not_mem_nil, false_imp_iff, implies_true, and_true]
    exact ⟨⟨_, List.mem_append_left _ (List.mem_append_left _ hwrite)⟩,
      ⟨_, List.mem_append_left _ (List.mem_append_right _ hwrite)⟩,
      ⟨_, List.mem_append_right _ hwrite⟩⟩
  all_goals simp [modification]

/-! ## Main theorem -/

/-- What a run writes to the registers of which it owns some fields, by its steps. -/
structure ChangesFieldsOnly (chip : Chip) (mode : PerformanceMode)
    (segments : List (List RegisterCall)) (outcome : Except DriverError Unit) : Prop where
  /-- A step writes the credits, or changes what the access right before has read. -/
  only : ∀ (k : Nat) (calls : List RegisterCall), segments[k]? = some calls →
    ∃ step, (changes chip mode)[k]? = some step ∧
      ChangesOnly chip step (segments.take k).flatten calls
  /-- A run that ends well makes every change, but for that of step 5, which a chip that is asleep
  already does not need. -/
  made : outcome = .ok () → ∀ (k : Nat) (step : List Change), k ≠ 4 →
    (changes chip mode)[k]? = some step → ∃ calls, segments[k]? = some calls ∧
      ∀ change ∈ step, ∃ value written, .write32 change.offset value written ∈ calls

theorem Chain.changesFieldsOnly
    (h : Chain (StepAnswered limit) (steps chip mode) word segments result) :
    ChangesFieldsOnly chip mode segments (result.map fun _ => ()) where
  only := by
    intro k calls hcalls
    have hnothing : InHand none [] word := nofun
    obtain ⟨step, hstep, honly⟩ := h.stepChangesOnly (audited_steps chip mode) hnothing
      (sets_of_mem_changes chip mode) hcalls
    exact ⟨step, hstep, honly⟩
  made := by
    intro hok k step hk hstep
    obtain ⟨next, hresult, -⟩ := map_eq_ok_iff.mp hok
    obtain ⟨actions, hactions, hwrites⟩ := exists_write_of_mem_changes hk hstep
    obtain ⟨calls, _, _, hcalls, -⟩ := h.exists_of_ok hresult hactions
    refine ⟨calls, hcalls, fun change hchange => ?_⟩
    obtain ⟨value, hvalue⟩ := hwrites change hchange
    obtain ⟨calls', hcalls', hwritten⟩ := h.exists_write_of_ok hresult hactions hvalue
    cases hcalls.symm.trans hcalls'
    exact hwritten

end

/-- The credits of a Beagle have a register of their own. -/
theorem credits_apart (mode : PerformanceMode) :
    ∀ step ∈ changes Chip.beagle mode, ∀ change ∈ step,
      change.offset ≠ Chip.beagle.gcbbCredit0 := by
  cases mode <;> decide

/-- **Bring-up changes its own fields only.** Whatever the registers answer, and wherever one of
    them fails: of the registers of which bring-up owns some fields, a step writes only those that
    the table gives for it, each right after it was read, and writes what was read with the fields
    of the step set and every other field and every reserved bit kept. -/
theorem run_changes_fields_only (self : BringUp σ) (mode : PerformanceMode) (state : σ) :
    ∃ segments result, self.accesses mode state = segments.flatten ∧
      Chain (StepAnswered self.pollLimit) (steps self.chip mode) 0 segments result ∧
      ((self.run mode).outcome state).1 = result.map (fun _ => ()) ∧
      ChangesFieldsOnly self.chip mode segments ((self.run mode).outcome state).1 ∧
      ∀ step ∈ changes Chip.beagle mode, ∀ change ∈ step,
        change.offset ≠ Chip.beagle.gcbbCredit0 := by
  obtain ⟨calls, hcalls, segments, result, rfl, houtcome, hchain⟩ :=
    emits_run self mode { inner := state }
  have hended : ((self.run mode).outcome state).1 = result.map fun _ => () := by
    rw [(projects_run self mode).outcome { inner := state }, houtcome]
  exact ⟨segments, result, hcalls, hchain, hended, hended ▸ hchain.changesFieldsOnly,
    credits_apart mode⟩

end TensorLink.BringUp

import TensorLink.Proofs.BringUp.AccessTrace

/-!
# The order of accesses

What a run does, whatever the registers answer and wherever one of them fails: which accesses it
makes and in which order, what it makes of the first answers, when it stops and with which error.
Each of these follows from the accesses of the table.

Results:
* `Chain.failsLast`, `Chain.blames`: a failed access is the last, and an error has its reason in the
  last accesses.
* `Chain.slept`, `Chain.completed`: the writes of step 5, and those of step 13.
* `run_follows_program`: the accesses of a run, and how it ends.
-/

namespace TensorLink.BringUp

open Sequencing

variable {σ : Type}

/-! ## Specification -/

/-- The registers that bring-up uses on every chip. -/
def fixedOffsets (chip : Chip) : List Nat :=
  [chip.apex.omc000, chip.apex.omc0D0, chip.apex.omc0D8, chip.apex.omc0Dc, chip.scu.scuCtrl0,
    chip.scu.scuCtrl2, chip.scu.scuCtrl3, chip.gcbbCredit0, chip.idleRegister, chip.tileConfig0,
    chip.deepSleep, chip.usb.descrEp, chip.usb.multiBoEp, chip.usb.outfeedChunkLength]

/-- A register that a chip has and bring-up may use: no run control that is absent is one. -/
def Uses (chip : Chip) (offset : Nat) : Prop :=
  offset ∈ fixedOffsets chip ∨
    ∃ entry ∈ RunControlEntry.present (chip.scalarRunControls ++ chip.tileRunControls),
      entry.offset = offset

/-- The register of an action. -/
def Action.offset : Action → Nat
  | .read32 offset _ | .write32 offset _ | .write64 offset _ | .await32 offset _ _
  | .await64 offset _ _ => offset
  | .onlyIf _ action => action.offset

/-- How often an action reads at most. -/
def Action.readLimit (limit : Nat) : Action → Nat
  | .read32 .. => 1
  | .write32 .. | .write64 .. => 0
  | .await32 .. | .await64 .. => limit
  | .onlyIf _ action => action.readLimit limit

/-- What step 5 writes, by the word that it has read. -/
def sleepWrites (chip : Chip) (word : BitVec 32) : List (Nat × BitVec 32) :=
  if ScuCtrl3.forceSleep.read word = enterSleep then []
  else [(chip.scu.scuCtrl3, ScuCtrl3.forceSleep.put enterSleep word), (chip.gcbbCredit0, 0xF),
    (chip.gcbbCredit0, 0)]

/-- The writes that start the units of a table. -/
def startWrites (table : List RunControlEntry) : List RegisterCall :=
  (RunControlEntry.present table).map fun entry => .write64 entry.offset 1 (.ok ())

/-- The selection of every tile, which is read until it holds. -/
def Selects (chip : Chip) (calls : List RegisterCall) : Prop :=
  ∃ waits, calls = .write64 chip.tileConfig0 TileConfig.broadcast (.ok ()) ::
      waits ++ [.read64 chip.tileConfig0 (.ok TileConfig.broadcast)] ∧
    ∀ call ∈ waits, ∃ word, call = .read64 chip.tileConfig0 (.ok word) ∧
      word ≠ TileConfig.broadcast

/-- Accesses that end with an error, and why. -/
inductive Blames (chip : Chip) (limit : Nat) : List RegisterCall → DriverError → Prop where
  | access (before : List RegisterCall) {call : RegisterCall} {error : DriverError}
    (hcall : call.failure? = some error) : Blames chip limit (before ++ [call]) error
  | identity (before : List RegisterCall) {word : BitVec 32}
    (hword : Omc000.chipId.read word ≠ chip.chipId) :
    Blames chip limit (before ++ [.read32 chip.apex.omc000 (.ok word)])
      (.chipIdMismatch chip.chipId (Omc000.chipId.read word))
  | echo (before : List RegisterCall) {word : BitVec 32} (reason : String)
    (hword : Omc000.testReg0.read word ≠ testPattern) :
    Blames chip limit (before ++ [.read32 chip.apex.omc000 (.ok word)]) (.protocol reason)
  | exhausted (before : List RegisterCall) {polls : List RegisterCall} {offset : Nat}
    (condition : String) (hlength : polls.length = limit)
    (hpolls : ∀ call ∈ polls, call.isRead = true ∧ call.offset = offset ∧ call.failure? = none) :
    Blames chip limit (before ++ polls) (.pollExhausted offset condition limit)

/-- What a run does: its accesses, one list for each step that is begun, and how it ends. -/
structure FollowsProgram (chip : Chip) (mode : PerformanceMode) (limit : Nat)
    (segments : List (List RegisterCall)) (outcome : Except DriverError Unit) : Prop where
  /-- The accesses are those of the steps, in the order of the steps. -/
  ordered : ∃ result, Chain (StepAnswered limit) (steps chip mode) 0 segments result ∧
    outcome = result.map fun _ => ()
  /-- Nothing is written before the chip has identified itself. -/
  identified : ∀ (before : List RegisterCall) (call : RegisterCall) (after : List RegisterCall),
    segments.flatten = before ++ call :: after → call.isRead = false →
      ∃ word rest, before = .read32 chip.apex.omc000 (.ok word) :: rest ∧
        Omc000.chipId.read word = chip.chipId
  /-- A chip that is asleep is left alone in step 5; another one is put to sleep, and its credits
  are written unless the step ends badly before. -/
  slept : ∀ calls, segments[4]? = some calls → ∃ answer rest,
    calls = .read32 chip.scu.scuCtrl3 answer :: rest ∧
      (∀ error, answer = .error error → rest = []) ∧
      ∀ word, answer = .ok word →
        rest.filterMap RegisterCall.write32? <+: sleepWrites chip word ∧
        (sleepWrites chip word = [] ↔ rest = []) ∧
        (5 < segments.length → rest.filterMap RegisterCall.write32? = sleepWrites chip word)
  /-- The accesses of a step are those of its actions, each at the register of the action, and no
  wait reads more often than it may. -/
  bounded : ∀ (k : Nat) (calls : List RegisterCall), segments[k]? = some calls →
    ∃ step, (steps chip mode)[k]? = some step ∧
      ∃ pieces : List (List RegisterCall), calls = pieces.flatten ∧
      ∀ (i : Nat) (piece : List RegisterCall), pieces[i]? = some piece →
        ∃ action, step[i]? = some action ∧ (∀ call ∈ piece, call.offset = action.offset) ∧
          piece.countP (·.isRead) ≤ action.readLimit limit
  /-- No run control is used that the chip does not have. -/
  present : ∀ call ∈ segments.flatten, Uses chip call.offset
  /-- A failed access is the last, and its error is returned. -/
  sound : ∀ (before : List RegisterCall) (call : RegisterCall) (after : List RegisterCall)
    (error : DriverError), segments.flatten = before ++ call :: after →
      call.failure? = some error → after = [] ∧ outcome = .error error
  /-- If the chip is another one, this is the last access. -/
  mistaken : ∀ (word : BitVec 32) (rest : List RegisterCall),
    segments.flatten = .read32 chip.apex.omc000 (.ok word) :: rest →
      Omc000.chipId.read word ≠ chip.chipId →
        rest = [] ∧ outcome = .error (.chipIdMismatch chip.chipId (Omc000.chipId.read word))
  /-- If the test pattern does not come back, this is the last access. -/
  unechoed : ∀ (first second : RegisterCall) (word : BitVec 32) (rest : List RegisterCall),
    segments.flatten = first :: second :: .read32 chip.apex.omc000 (.ok word) :: rest →
      Omc000.testReg0.read word ≠ testPattern →
        rest = [] ∧ ∃ reason, outcome = .error (.protocol reason)
  /-- An error has its reason in the last accesses. -/
  blamed : ∀ error, outcome = .error error → Blames chip limit segments.flatten error
  /-- A run that ends well has started every unit of the scalar core, has then selected all tiles
  and has started every unit of theirs. -/
  completed : outcome = .ok () → segments.length = 13 ∧ ∃ before selected,
    segments.flatten = before ++ (startWrites chip.scalarRunControls ++
      (selected ++ startWrites chip.tileRunControls)) ∧ Selects chip selected

/-! ## Failed accesses -/

section

variable {α β : Type} {f : α → β} {ended : Except DriverError α}

theorem map_eq_ok_iff {value : β} : ended.map f = .ok value ↔ ∃ a, ended = .ok a ∧ f a = value := by
  cases ended <;> simp [Except.map]

theorem map_eq_error_iff {error : DriverError} :
    ended.map f = .error error ↔ ended = .error error := by
  cases ended <;> simp [Except.map]

end

section

variable {limit : Nat} {word : BitVec 32} {calls : List RegisterCall}

theorem Polls.failsLast {α : Type} {entry : Except DriverError α → RegisterCall}
    {wanted : α → Bool} {exhausted : DriverError} {attempts : Nat}
    {result : Except DriverError Unit}
    (hentry : ∀ outcome, (entry outcome).failure? = failure? outcome)
    (h : Polls entry wanted exhausted attempts calls result) :
    FailsLast RegisterCall.failure? calls result := by
  induction h with
  | exhausted => exact failsLast_nil
  | failed attempts error =>
    refine failsLast_singleton fun _ herror => ?_
    exact failure?_eq_some_iff.mp ((hentry _).symm.trans herror)
  | settled attempts hwanted => exact failsLast_nil.cons (hentry _)
  | again hwanted rest ih => exact ih.cons (hentry _)

theorem Answered.failsLast {action : Action} {result : Except DriverError (BitVec 32)}
    (h : Answered limit action word calls result) :
    FailsLast RegisterCall.failure? calls result := by
  induction h with
  | read32 offset fault word answer =>
    refine failsLast_singleton fun error herror => ?_
    exact checked_eq_error_iff.mpr (.inl (failure?_eq_some_iff.mp herror))
  | write32 =>
    exact failsLast_singleton fun _ herror =>
      map_eq_error_iff.mpr (failure?_eq_some_iff.mp herror)
  | write64 =>
    exact failsLast_singleton fun _ herror =>
      map_eq_error_iff.mpr (failure?_eq_some_iff.mp herror)
  | await32 polls => exact (polls.failsLast fun _ => rfl).map _
  | await64 polls => exact (polls.failsLast fun _ => rfl).map _
  | done hcondition answered ih => exact ih
  | leftAlone => exact failsLast_nil

end

/-! ## Chains -/

section

variable {ι : Type} {answered : ι → BitVec 32 → List RegisterCall →
    Except DriverError (BitVec 32) → Prop} {items items' : List ι} {word final : BitVec 32}
  {segments : List (List RegisterCall)} {result : Except DriverError (BitVec 32)}

/-- The first thing ends badly, or the others follow it. -/
theorem Chain.cons_cases {item : ι} (h : Chain answered (item :: items) word segments result) :
    ∃ calls rest ended, segments = calls :: rest ∧ answered item word calls ended ∧
      ((∃ error, ended = .error error ∧ rest = [] ∧ result = .error error) ∨
        ∃ next, ended = .ok next ∧ Chain answered items next rest result) := by
  cases h with
  | cons first rest => exact ⟨_, _, _, rfl, first, .inr ⟨_, rfl, rest⟩⟩
  | stop _ first => exact ⟨_, _, _, rfl, first, .inl ⟨_, rfl, rfl, rfl⟩⟩

/-- The accesses of one thing, and that it ends well unless it is the last. -/
theorem Chain.exists_of_getElem? (h : Chain answered items word segments result) {k : Nat}
    {calls : List RegisterCall} (hk : segments[k]? = some calls) :
    ∃ item start ended, items[k]? = some item ∧ answered item start calls ended ∧
      (k + 1 < segments.length → ∃ next, ended = .ok next) := by
  induction h generalizing k with
  | nil => simp at hk
  | cons first rest ih =>
    cases k with
    | zero =>
      cases hk
      exact ⟨_, _, _, rfl, first, fun _ => ⟨_, rfl⟩⟩
    | succ k =>
      obtain ⟨item, start, ended, hitem, hanswered, hended⟩ := ih hk
      exact ⟨item, start, ended, hitem, hanswered, fun hlt => hended (Nat.lt_of_succ_lt_succ hlt)⟩
  | stop items first =>
    cases k with
    | zero =>
      cases hk
      exact ⟨_, _, _, rfl, first, fun hlt => absurd hlt (Nat.lt_irrefl _)⟩
    | succ k => simp at hk

theorem Chain.exists_of_mem (h : Chain answered items word segments result)
    {calls : List RegisterCall} (hcalls : calls ∈ segments) :
    ∃ item ∈ items, ∃ start ended, answered item start calls ended := by
  obtain ⟨k, hk⟩ := List.mem_iff_getElem?.mp hcalls
  obtain ⟨item, start, ended, hitem, hanswered, -⟩ := h.exists_of_getElem? hk
  exact ⟨item, List.mem_of_getElem? hitem, start, ended, hanswered⟩

/-- What ends badly is the last thing that was begun. -/
theorem Chain.exists_of_error (h : Chain answered items word segments result) {error : DriverError}
    (herror : result = .error error) :
    ∃ before calls, segments = before ++ [calls] ∧
      ∃ item ∈ items, ∃ start, answered item start calls (.error error) := by
  induction h with
  | nil => cases herror
  | cons first rest ih =>
    obtain ⟨before, calls, rfl, item, hitem, hanswered⟩ := ih herror
    exact ⟨_ :: before, calls, rfl, item, List.mem_cons_of_mem _ hitem, hanswered⟩
  | stop items first =>
    cases herror
    exact ⟨[], _, rfl, _, List.mem_cons_self, _, first⟩

/-- Things that end well are done to the last. -/
theorem Chain.length_eq (h : Chain answered items word segments result)
    (hresult : result = .ok final) : segments.length = items.length := by
  induction h with
  | nil => rfl
  | cons first rest ih => exact congrArg (· + 1) (ih hresult)
  | stop => cases hresult

theorem Chain.exists_of_append (h : Chain answered (items ++ items') word segments (.ok final)) :
    ∃ first rest mid, segments = first ++ rest ∧ Chain answered items word first (.ok mid) ∧
      Chain answered items' mid rest (.ok final) := by
  induction items generalizing word segments with
  | nil => exact ⟨[], segments, word, rfl, .nil word, h⟩
  | cons item items ih =>
    cases h with
    | cons hfirst hrest =>
      obtain ⟨first, rest, mid, rfl, hitems, hitems'⟩ := ih hrest
      exact ⟨_ :: first, rest, mid, rfl, .cons hfirst hitems, hitems'⟩

theorem Chain.failsLast
    (hanswered : ∀ item word calls result, answered item word calls result →
      FailsLast RegisterCall.failure? calls result)
    (h : Chain answered items word segments result) :
    FailsLast RegisterCall.failure? segments.flatten result := by
  induction h with
  | nil => exact failsLast_nil
  | cons first rest ih => exact (hanswered _ _ _ _ first).append ih
  | stop items first =>
    rw [List.flatten_singleton]
    exact hanswered _ _ _ _ first

end

section

variable {chip : Chip} {mode : PerformanceMode} {limit : Nat} {action : Action} {step : List Action}
  {word next : BitVec 32} {calls : List RegisterCall}
  {segments : List (List RegisterCall)} {result : Except DriverError (BitVec 32)}

theorem StepAnswered.failsLast (h : StepAnswered limit step word calls result) :
    FailsLast RegisterCall.failure? calls result := by
  obtain ⟨segments, rfl, hchain⟩ := h
  exact hchain.failsLast fun _ _ _ _ => Answered.failsLast

/-! ## The registers and the reads of an action -/

/-- A wait reads one register, at most as often as it may. -/
theorem Polls.reads {α : Type} {entry : Except DriverError α → RegisterCall} {wanted : α → Bool}
    {exhausted : DriverError} {attempts offset : Nat} {ended : Except DriverError Unit}
    (h : Polls entry wanted exhausted attempts calls ended)
    (hentry : ∀ outcome, (entry outcome).offset = offset) :
    calls.length ≤ attempts ∧ ∀ call ∈ calls, call.offset = offset := by
  induction h with
  | exhausted => exact ⟨Nat.le_refl 0, fun _ hcall => absurd hcall List.not_mem_nil⟩
  | failed => exact ⟨Nat.le_add_left 1 _, List.forall_mem_singleton.mpr (hentry _)⟩
  | settled => exact ⟨Nat.le_add_left 1 _, List.forall_mem_singleton.mpr (hentry _)⟩
  | again hwanted rest ih =>
    exact ⟨Nat.succ_le_succ ih.1, List.forall_mem_cons.mpr ⟨hentry _, ih.2⟩⟩

theorem Answered.offset (h : Answered limit action word calls result) :
    ∀ call ∈ calls, call.offset = action.offset := by
  induction h with
  | read32 => exact List.forall_mem_singleton.mpr rfl
  | write32 => exact List.forall_mem_singleton.mpr rfl
  | write64 => exact List.forall_mem_singleton.mpr rfl
  | await32 polls => exact (polls.reads fun _ => rfl).2
  | await64 polls => exact (polls.reads fun _ => rfl).2
  | done hcondition answered ih => exact ih
  | leftAlone => exact fun _ hcall => absurd hcall List.not_mem_nil

theorem Answered.countP_le (h : Answered limit action word calls result) :
    calls.countP (·.isRead) ≤ action.readLimit limit := by
  induction h with
  | read32 => exact Nat.le_refl 1
  | write32 => exact Nat.le_refl 0
  | write64 => exact Nat.le_refl 0
  | await32 polls => exact Nat.le_trans List.countP_le_length (polls.reads fun _ => rfl).1
  | await64 polls => exact Nat.le_trans List.countP_le_length (polls.reads fun _ => rfl).1
  | done hcondition answered ih => exact ih
  | leftAlone => exact Nat.zero_le _

theorem StepAnswered.bounded (h : StepAnswered limit step word calls result) :
    ∃ pieces : List (List RegisterCall), calls = pieces.flatten ∧
      ∀ (i : Nat) (piece : List RegisterCall), pieces[i]? = some piece →
        ∃ action, step[i]? = some action ∧ (∀ call ∈ piece, call.offset = action.offset) ∧
          piece.countP (·.isRead) ≤ action.readLimit limit := by
  obtain ⟨pieces, rfl, hchain⟩ := h
  refine ⟨pieces, rfl, fun i piece hpiece => ?_⟩
  obtain ⟨action, _, _, haction, hanswered, -⟩ := hchain.exists_of_getElem? hpiece
  exact ⟨action, haction, hanswered.offset, hanswered.countP_le⟩

theorem uses_of_mem_start {table : List RunControlEntry}
    (htable : table ⊆ chip.scalarRunControls ++ chip.tileRunControls) :
    ∀ action ∈ start table, Uses chip action.offset := by
  refine List.forall_mem_map.mpr fun entry hentry => .inr ⟨entry, ?_, rfl⟩
  obtain ⟨hmem, hpresent⟩ := RunControlEntry.mem_present_iff.mp hentry
  exact RunControlEntry.mem_present_iff.mpr ⟨htable hmem, hpresent⟩

/-- Every action of the table uses a register that the chip has. -/
theorem uses_of_mem_steps (chip : Chip) (mode : PerformanceMode) :
    ∀ step ∈ steps chip mode, ∀ action ∈ step, Uses chip action.offset := by
  have hfixed : ∀ offset ∈ fixedOffsets chip, Uses chip offset := fun _ => .inl
  have hscalar : ∀ action ∈ start chip.scalarRunControls, Uses chip action.offset :=
    uses_of_mem_start (List.subset_append_left _ _)
  have htile : ∀ action ∈ start chip.tileRunControls, Uses chip action.offset :=
    uses_of_mem_start (List.subset_append_right _ _)
  have hcore : ∀ action ∈ (chip.scalarCore?.map fun offset => Action.await64 offset
      "scalarCoreRunControl == 0" fun word => word == 0).toList, Uses chip action.offset := by
    intro action haction
    obtain ⟨offset, hoffset, rfl⟩ := Option.map_eq_some_iff.mp (Option.mem_toList.mp haction)
    obtain ⟨entry, hentry, rfl⟩ := Option.map_eq_some_iff.mp hoffset
    exact hscalar (.write64 entry.offset _)
      (List.mem_map.mpr ⟨entry, List.mem_of_mem_head? hentry, rfl⟩)
  simp only [fixedOffsets, List.forall_mem_cons] at hfixed
  simp only [steps, modification, sleeping, selection, List.forall_mem_cons, List.forall_mem_append,
    List.map_cons, List.map_nil, Action.offset, hfixed, List.not_mem_nil, false_imp_iff,
    implies_true, true_and, and_true]
  exact ⟨hcore, hscalar, htile⟩

theorem Chain.present (h : Chain (StepAnswered limit) (steps chip mode) word segments result) :
    ∀ call ∈ segments.flatten, Uses chip call.offset := by
  intro call hcall
  obtain ⟨calls, hcalls, hcall⟩ := List.mem_flatten.mp hcall
  obtain ⟨step, hstep, _, _, actions, rfl, hchain⟩ := h.exists_of_mem hcalls
  obtain ⟨calls, hcalls, hcall⟩ := List.mem_flatten.mp hcall
  obtain ⟨action, haction, _, _, hanswered⟩ := hchain.exists_of_mem hcalls
  rw [hanswered.offset call hcall]
  exact uses_of_mem_steps chip mode step hstep action haction

/-! ## The reason of an error -/

/-- A read of an action finds fault only with the identity of the chip and with the test pattern. -/
def Action.Justified (chip : Chip) : Action → Prop
  | .read32 offset fault => fault = noFault ∨
    offset = chip.apex.omc000 ∧ (fault = identityFault chip ∨ fault = echoFault)
  | .write32 .. | .write64 .. | .await32 .. | .await64 .. => True
  | .onlyIf _ action => action.Justified chip

theorem justified_of_mem_steps (chip : Chip) (mode : PerformanceMode) :
    ∀ step ∈ steps chip mode, ∀ action ∈ step, action.Justified chip := by
  have hstart (table : List RunControlEntry) : ∀ action ∈ start table, action.Justified chip :=
    List.forall_mem_map.mpr fun _ _ => trivial
  have hcore : ∀ action ∈ (chip.scalarCore?.map fun offset => Action.await64 offset
      "scalarCoreRunControl == 0" fun word => word == 0).toList, action.Justified chip := by
    intro action haction
    obtain ⟨offset, -, rfl⟩ := Option.map_eq_some_iff.mp (Option.mem_toList.mp haction)
    trivial
  simp only [steps, modification, sleeping, selection, List.forall_mem_cons, List.forall_mem_append,
    List.map_cons, List.map_nil, Action.Justified, true_or, or_true, and_self, List.not_mem_nil,
    false_imp_iff, implies_true, true_and, and_true]
  exact ⟨hcore, hstart _, hstart _⟩

variable {error : DriverError}

theorem identityFault_eq_some_iff : identityFault chip word = some error ↔
    Omc000.chipId.read word ≠ chip.chipId ∧
      error = .chipIdMismatch chip.chipId (Omc000.chipId.read word) := by
  unfold identityFault
  split
  · next h => exact ⟨fun herror => ⟨h, (Option.some.inj herror).symm⟩, fun h => h.2 ▸ rfl⟩
  · next h => exact ⟨nofun, fun h' => absurd h'.1 h⟩

theorem echoFault_eq_some (h : echoFault word = some error) :
    Omc000.testReg0.read word ≠ testPattern ∧ ∃ reason, error = .protocol reason := by
  unfold echoFault at h
  dsimp only at h
  split at h
  · next hecho =>
    cases h
    exact ⟨hecho, _, rfl⟩
  · cases h

theorem echoFault_of_ne (h : Omc000.testReg0.read word ≠ testPattern) :
    ∃ reason, echoFault word = some (.protocol reason) := ⟨_, if_pos h⟩

theorem Blames.prepend (before : List RegisterCall) (h : Blames chip limit calls error) :
    Blames chip limit (before ++ calls) error := by
  cases h with
  | access before' hcall =>
    rw [← List.append_assoc]
    exact .access _ hcall
  | identity before' hword =>
    rw [← List.append_assoc]
    exact .identity _ hword
  | echo before' reason hword =>
    rw [← List.append_assoc]
    exact .echo _ reason hword
  | exhausted before' condition hlength hpolls =>
    rw [← List.append_assoc]
    exact .exhausted _ condition hlength hpolls

/-- A wait ends badly if a read fails, or if every read that it may make was in vain. -/
theorem Polls.exists_of_error {α : Type} {entry : Except DriverError α → RegisterCall}
    {wanted : α → Bool} {exhausted : DriverError} {attempts : Nat}
    {ended : Except DriverError Unit}
    (hentry : ∀ outcome, (entry outcome).failure? = failure? outcome)
    (h : Polls entry wanted exhausted attempts calls ended) (hended : ended = .error error) :
    (∃ before call, calls = before ++ [call] ∧ call.failure? = some error) ∨
      error = exhausted ∧ calls.length = attempts ∧
        ∀ call ∈ calls, ∃ value, call = entry (.ok value) := by
  induction h with
  | exhausted =>
    cases hended
    exact .inr ⟨rfl, rfl, fun _ hcall => absurd hcall List.not_mem_nil⟩
  | failed attempts error' =>
    cases hended
    exact .inl ⟨[], _, rfl, hentry _⟩
  | settled => cases hended
  | again hwanted rest ih =>
    obtain ⟨before, call, rfl, hcall⟩ | ⟨rfl, hlength, hall⟩ := ih hended
    · exact .inl ⟨_ :: before, call, rfl, hcall⟩
    · exact .inr ⟨rfl, congrArg (· + 1) hlength, List.forall_mem_cons.mpr ⟨⟨_, rfl⟩, hall⟩⟩

/-- The error of an action has its reason in the last accesses. -/
theorem Answered.blames (h : Answered limit action word calls result)
    (hjustified : action.Justified chip) (hresult : result = .error error) :
    Blames chip limit calls error := by
  have hpolls {α : Type} {entry : Except DriverError α → RegisterCall} {wanted : α → Bool}
      {offset : Nat} {condition : String} {calls : List RegisterCall}
      {ended : Except DriverError Unit} {word : BitVec 32}
      (h : Polls entry wanted (.pollExhausted offset condition limit) limit calls ended)
      (hentry : ∀ outcome, (entry outcome).failure? = failure? outcome)
      (hread : ∀ value, (entry (.ok value)).isRead = true ∧ (entry (.ok value)).offset = offset)
      (hended : ended.map (fun _ => word) = .error error) : Blames chip limit calls error := by
    obtain ⟨before, call, rfl, hcall⟩ | ⟨rfl, hlength, hall⟩ :=
      h.exists_of_error hentry (map_eq_error_iff.mp hended)
    · exact .access before hcall
    · refine .exhausted [] condition hlength fun call hcall => ?_
      obtain ⟨value, rfl⟩ := hall call hcall
      exact ⟨(hread value).1, (hread value).2, hentry _⟩
  induction h with
  | read32 offset fault word answer =>
    obtain rfl | ⟨next, rfl, hfault⟩ := checked_eq_error_iff.mp hresult
    · exact .access [] rfl
    · obtain rfl | ⟨rfl, rfl | rfl⟩ := hjustified
      · cases hfault
      · obtain ⟨hidentity, rfl⟩ := identityFault_eq_some_iff.mp hfault
        exact .identity [] hidentity
      · obtain ⟨hecho, reason, rfl⟩ := echoFault_eq_some hfault
        exact .echo [] reason hecho
  | write32 offset value word outcome =>
    obtain rfl := map_eq_error_iff.mp hresult
    exact .access [] rfl
  | write64 offset value word outcome =>
    obtain rfl := map_eq_error_iff.mp hresult
    exact .access [] rfl
  | await32 polls => exact hpolls polls (fun _ => rfl) (fun _ => ⟨rfl, rfl⟩) hresult
  | await64 polls => exact hpolls polls (fun _ => rfl) (fun _ => ⟨rfl, rfl⟩) hresult
  | done hcondition answered ih => exact ih hjustified hresult
  | leftAlone => cases hresult

/-- The error of a run has its reason in the last accesses. -/
theorem Chain.blames (h : Chain (StepAnswered limit) (steps chip mode) word segments result)
    (hresult : result = .error error) : Blames chip limit segments.flatten error := by
  obtain ⟨before, calls, rfl, step, hstep, _, actions, rfl, hchain⟩ := h.exists_of_error hresult
  obtain ⟨before', calls, rfl, action, haction, _, hanswered⟩ := hchain.exists_of_error rfl
  rw [List.flatten_append, List.flatten_singleton, List.flatten_append, List.flatten_singleton]
  exact ((hanswered.blames (justified_of_mem_steps chip mode step hstep action haction)
    rfl).prepend _).prepend _

/-! ## The first answers -/

theorem StepAnswered.read32 {offset : Nat} {fault : BitVec 32 → Option DriverError}
    (h : StepAnswered limit [.read32 offset fault] word calls result) :
    ∃ answer, calls = [.read32 offset answer] ∧ result = checked fault answer := by
  obtain ⟨segments, rfl, hchain⟩ := h
  obtain ⟨calls, rest, ended, rfl, hread, hended⟩ := hchain.cons_cases
  cases hread with
  | read32 _ _ _ answer =>
    obtain ⟨error, herror, rfl, rfl⟩ | ⟨next, hnext, hrest⟩ := hended
    · exact ⟨answer, rfl, herror.symm⟩
    · cases hrest
      exact ⟨answer, rfl, hnext.symm⟩

/-- A run begins with reading the identity, and ends there if it is another one. -/
theorem Chain.identification
    (h : Chain (StepAnswered limit) (steps chip mode) word segments result) :
    ∃ answer rest, segments = [.read32 chip.apex.omc000 answer] :: rest ∧
      ((∃ error, checked (identityFault chip) answer = .error error ∧ rest = [] ∧
          result = .error error) ∨
        ∃ next, checked (identityFault chip) answer = .ok next ∧
          Chain (StepAnswered limit) ((steps chip mode).drop 1) next rest result) := by
  obtain ⟨calls, rest, ended, rfl, hread, hended⟩ := Chain.cons_cases h
  obtain ⟨answer, rfl, rfl⟩ := hread.read32
  exact ⟨answer, rest, rfl, hended⟩

theorem identityFault_eq_none_iff :
    identityFault chip word = none ↔ Omc000.chipId.read word = chip.chipId := by
  unfold identityFault
  split
  · next h => exact ⟨nofun, fun h' => absurd h' h⟩
  · next h => exact ⟨fun _ => not_not.mp h, fun _ => rfl⟩

/-- Nothing is written before the chip has identified itself. -/
theorem Chain.identified (h : Chain (StepAnswered limit) (steps chip mode) word segments result)
    {before after : List RegisterCall} {call : RegisterCall}
    (hcalls : segments.flatten = before ++ call :: after) (hcall : call.isRead = false) :
    ∃ word rest, before = .read32 chip.apex.omc000 (.ok word) :: rest ∧
      Omc000.chipId.read word = chip.chipId := by
  obtain ⟨answer, rest, rfl, hrest⟩ := h.identification
  obtain ⟨-, hfirst⟩ | ⟨before, rfl, hlater⟩ := List.cons_eq_append_iff.mp hcalls
  · cases hfirst
    cases hcall
  · obtain ⟨error, -, rfl, -⟩ | ⟨word, hword, -⟩ := hrest
    · simp at hlater
    · obtain ⟨rfl, hidentity⟩ := checked_eq_ok_iff.mp hword
      exact ⟨word, before, rfl, identityFault_eq_none_iff.mp hidentity⟩

theorem Chain.mistaken (h : Chain (StepAnswered limit) (steps chip mode) word segments result)
    {found : BitVec 32} {after : List RegisterCall}
    (hcalls : segments.flatten = .read32 chip.apex.omc000 (.ok found) :: after)
    (hfound : Omc000.chipId.read found ≠ chip.chipId) :
    after = [] ∧ result = .error (.chipIdMismatch chip.chipId (Omc000.chipId.read found)) := by
  obtain ⟨answer, rest, rfl, hrest⟩ := h.identification
  cases hcalls
  obtain ⟨error, herror, rfl, rfl⟩ | ⟨next, hnext, -⟩ := hrest
  · obtain hanswer | ⟨found', hfound', hfault⟩ := checked_eq_error_iff.mp herror
    · cases hanswer
    · cases hfound'
      exact ⟨rfl, congrArg _ (identityFault_eq_some_iff.mp hfault).2⟩
  · obtain ⟨hanswer, hidentity⟩ := checked_eq_ok_iff.mp hnext
    cases hanswer
    exact absurd (identityFault_eq_none_iff.mp hidentity) hfound

/-- The third access of a run reads the test pattern back. -/
theorem Chain.unechoed (h : Chain (StepAnswered limit) (steps chip mode) word segments result)
    {first second : RegisterCall} {found : BitVec 32} {after : List RegisterCall}
    (hcalls : segments.flatten =
      first :: second :: .read32 chip.apex.omc000 (.ok found) :: after)
    (hfound : Omc000.testReg0.read found ≠ testPattern) :
    after = [] ∧ ∃ reason, result = .error (.protocol reason) := by
  obtain ⟨answer, rest, rfl, hrest⟩ := h.identification
  obtain ⟨error, -, rfl, -⟩ | ⟨next, -, hrest⟩ := hrest
  · simp at hcalls
  obtain ⟨calls, rest, ended, rfl, ⟨actions, rfl, hstep⟩, hended⟩ := Chain.cons_cases hrest
  obtain ⟨calls, reads, written, rfl, hwrite, hwritten⟩ := hstep.cons_cases
  cases hwrite with
  | write32 _ _ _ outcome =>
    obtain ⟨error, -, rfl, rfl⟩ | ⟨next, -, hread⟩ := hwritten
    · -- The pattern is not written, and nothing is read back.
      obtain ⟨_, -, rfl, -⟩ | ⟨_, ⟨⟩, -⟩ := hended
      simp at hcalls
    obtain ⟨calls, none, echoed, rfl, hread, hechoed⟩ := hread.cons_cases
    cases hread with
    | read32 _ _ _ answer =>
      obtain ⟨reason, hfault⟩ := echoFault_of_ne hfound
      have hnone : none = [] := by
        obtain ⟨_, -, rfl, -⟩ | ⟨_, -, hnil⟩ := hechoed
        · rfl
        · cases hnil
          rfl
      subst hnone
      cases hcalls
      have herror := checked_eq_error_iff.mpr (.inr ⟨found, rfl, hfault⟩)
      rw [herror] at hechoed
      obtain ⟨_, ⟨⟩, -, rfl⟩ | ⟨_, ⟨⟩, -⟩ := hechoed
      obtain ⟨_, ⟨⟩, rfl, rfl⟩ | ⟨_, ⟨⟩, -⟩ := hended
      exact ⟨rfl, reason, rfl⟩

/-! ## Step 5 -/

/-- Whether an action leaves the word in hand. -/
def Action.keepsWord : Action → Bool
  | .read32 .. => false
  | .write32 .. | .write64 .. | .await32 .. | .await64 .. => true
  | .onlyIf _ action => action.keepsWord

/-- What an action writes to a 32-bit register with a word in hand. -/
def Action.write32? (word : BitVec 32) : Action → Option (Nat × BitVec 32)
  | .write32 offset value => some (offset, value word)
  | .read32 .. | .write64 .. | .await32 .. | .await64 .. => none
  | .onlyIf condition action => if condition word then action.write32? word else none

theorem Answered.eq_of_keepsWord (h : Answered limit action word calls result)
    (hkeeps : action.keepsWord = true) (hresult : result = .ok next) : next = word := by
  have hmapped {outcome : Except DriverError Unit} {word : BitVec 32}
      (h : outcome.map (fun _ => word) = .ok next) : next = word := by
    obtain ⟨_, -, rfl⟩ := map_eq_ok_iff.mp h
    rfl
  induction h with
  | read32 => cases hkeeps
  | write32 => exact hmapped hresult
  | write64 => exact hmapped hresult
  | await32 => exact hmapped hresult
  | await64 => exact hmapped hresult
  | done hcondition answered ih => exact ih hkeeps hresult
  | leftAlone => exact (Except.ok.inj hresult).symm

theorem Polls.writes {α : Type} {entry : Except DriverError α → RegisterCall} {wanted : α → Bool}
    {exhausted : DriverError} {attempts : Nat} {ended : Except DriverError Unit}
    (h : Polls entry wanted exhausted attempts calls ended)
    (hentry : ∀ outcome, (entry outcome).write32? = none) :
    calls.filterMap RegisterCall.write32? = [] := by
  induction h with
  | exhausted => rfl
  | failed => exact List.filterMap_cons_none (hentry _)
  | settled => exact List.filterMap_cons_none (hentry _)
  | again hwanted rest ih => exact (List.filterMap_cons_none (hentry _)).trans ih

theorem Answered.writes (h : Answered limit action word calls result) :
    calls.filterMap RegisterCall.write32? = (action.write32? word).toList := by
  induction h with
  | read32 => rfl
  | write32 => rfl
  | write64 => rfl
  | await32 polls => exact polls.writes fun _ => rfl
  | await64 polls => exact polls.writes fun _ => rfl
  | done hcondition answered ih => rw [ih, Action.write32?, if_pos hcondition]
  | leftAlone action hcondition =>
    rw [Action.write32?, if_neg (Bool.eq_false_iff.mp hcondition)]
    rfl

theorem filterMap_cons_toList {α β : Type} (f : α → Option β) (a : α) (l : List α) :
    (a :: l).filterMap f = (f a).toList ++ l.filterMap f := by
  rw [List.filterMap_cons]
  cases f a <;> rfl

/-- Actions that leave the word in hand write what they make of it, up to the one that ends
    badly. -/
theorem Chain.writes {actions : List Action}
    (h : Chain (Answered limit) actions word segments result)
    (hkeeps : ∀ action ∈ actions, action.keepsWord = true) :
    segments.flatten.filterMap RegisterCall.write32? <+: actions.filterMap (·.write32? word) ∧
      ∀ next, result = .ok next → segments.flatten.filterMap RegisterCall.write32? =
        actions.filterMap (·.write32? word) := by
  induction h with
  | nil word => exact ⟨List.prefix_rfl, fun _ _ => rfl⟩
  | @cons action actions word next calls segments result first rest ih =>
    obtain ⟨hkeep, hkeeps⟩ := List.forall_mem_cons.mp hkeeps
    obtain ⟨hstarts, hall⟩ := ih hkeeps
    cases first.eq_of_keepsWord hkeep rfl
    rw [List.flatten_cons, List.filterMap_append, first.writes, filterMap_cons_toList]
    exact ⟨(List.prefix_append_right_inj _).mpr hstarts,
      fun next hresult => by rw [hall next hresult]⟩
  | @stop action word calls error actions first =>
    rw [List.flatten_singleton, first.writes, filterMap_cons_toList]
    exact ⟨List.prefix_append _ _, nofun⟩

/-- Actions that the word in hand does not ask for are not done. -/
theorem Chain.flatten_eq_nil {condition : BitVec 32 → Bool} {actions : List Action}
    (h : Chain (Answered limit) (actions.map (.onlyIf condition)) word segments result)
    (hcondition : condition word = false) : segments.flatten = [] := by
  induction actions generalizing word segments with
  | nil =>
    cases h
    rfl
  | cons action actions ih =>
    obtain ⟨calls, rest, ended, rfl, hfirst, hended⟩ := h.cons_cases
    cases hfirst with
    | done hasked => cases hasked.symm.trans hcondition
    | leftAlone =>
      obtain ⟨_, ⟨⟩, -⟩ | ⟨_, ⟨⟩, hrest⟩ := hended
      rw [List.flatten_cons, ih hrest hcondition, List.append_nil]

theorem sleepWrites_eq_nil_iff : sleepWrites chip word = [] ↔ notAsleep word = false := by
  unfold sleepWrites notAsleep
  split
  · next h => simp [h]
  · next h => simp [h]

theorem filterMap_sleeping (chip : Chip) (word : BitVec 32) :
    ((sleeping chip).map (.onlyIf notAsleep)).filterMap (Action.write32? word) =
      sleepWrites chip word := by
  cases hasleep : notAsleep word with
  | false =>
    rw [sleepWrites_eq_nil_iff.mpr hasleep]
    simp [sleeping, Action.write32?, hasleep]
  | true =>
    have hword : ScuCtrl3.forceSleep.read word ≠ enterSleep := by simpa [notAsleep] using hasleep
    rw [sleepWrites, if_neg hword]
    simp [sleeping, Action.write32?, hasleep]

/-- Step 5 reads the power register, and what it writes then depends on what it has read. -/
theorem Chain.slept (h : Chain (StepAnswered limit) (steps chip mode) word segments result)
    (hcalls : segments[4]? = some calls) :
    ∃ answer rest, calls = .read32 chip.scu.scuCtrl3 answer :: rest ∧
      (∀ error, answer = .error error → rest = []) ∧
      ∀ word, answer = .ok word →
        rest.filterMap RegisterCall.write32? <+: sleepWrites chip word ∧
        (sleepWrites chip word = [] ↔ rest = []) ∧
        (5 < segments.length → rest.filterMap RegisterCall.write32? = sleepWrites chip word) := by
  obtain ⟨step, start, ended, hstep, ⟨actions, rfl, hchain⟩, hended⟩ := h.exists_of_getElem? hcalls
  cases hstep
  obtain ⟨read, others, answered, rfl, hread, hanswered⟩ := Chain.cons_cases hchain
  cases hread with
  | read32 _ _ _ answer =>
    refine ⟨answer, others.flatten, rfl, ?_, ?_⟩
    · rintro error rfl
      obtain ⟨_, -, rfl, -⟩ | ⟨_, ⟨⟩, -⟩ := hanswered
      rfl
    · rintro found rfl
      obtain ⟨_, ⟨⟩, -⟩ | ⟨_, ⟨⟩, hrest⟩ := hanswered
      obtain ⟨hstarts, hall⟩ := hrest.writes (by simp [sleeping, Action.keepsWord])
      rw [filterMap_sleeping] at hstarts hall
      refine ⟨hstarts, ⟨fun hnil => ?_, fun hnil => ?_⟩, fun hlt => ?_⟩
      · exact hrest.flatten_eq_nil (sleepWrites_eq_nil_iff.mp hnil)
      · obtain ⟨calls, later, first, rfl, hfirst, -⟩ := Chain.cons_cases hrest
        cases hfirst with
        | done _ hwrite =>
          cases hwrite
          cases hnil
        | leftAlone _ hasleep => exact sleepWrites_eq_nil_iff.mpr hasleep
      · obtain ⟨next, rfl⟩ := hended hlt
        exact hall next rfl

/-! ## Step 13 -/

/-- A wait that ends well has read what it waited for, and nothing else failed. -/
theorem Polls.exists_of_ok {α : Type} {entry : Except DriverError α → RegisterCall}
    {wanted : α → Bool} {exhausted : DriverError} {attempts : Nat}
    {ended : Except DriverError Unit} (h : Polls entry wanted exhausted attempts calls ended)
    (hended : ended = .ok ()) :
    ∃ waits value, calls = waits ++ [entry (.ok value)] ∧ wanted value = true ∧
      ∀ call ∈ waits, ∃ value, call = entry (.ok value) ∧ wanted value = false := by
  induction h with
  | exhausted => cases hended
  | failed => cases hended
  | settled attempts hwanted =>
    exact ⟨[], _, rfl, hwanted, fun _ hcall => absurd hcall List.not_mem_nil⟩
  | again hwanted rest ih =>
    obtain ⟨waits, value, rfl, hvalue, hwaits⟩ := ih hended
    exact ⟨_ :: waits, value, rfl, hvalue, List.forall_mem_cons.mpr ⟨⟨_, rfl, hwanted⟩, hwaits⟩⟩

theorem Chain.started {table : List RunControlEntry}
    (h : Chain (Answered limit) (start table) word segments result) (hresult : result = .ok next) :
    segments.flatten = startWrites table := by
  unfold start at h
  unfold startWrites
  generalize RunControlEntry.present table = entries at h ⊢
  induction entries generalizing word segments with
  | nil =>
    cases h
    rfl
  | cons entry entries ih =>
    obtain ⟨calls, rest, ended, rfl, hwrite, hended⟩ := h.cons_cases
    obtain ⟨error, -, -, rfl⟩ | ⟨after, hafter, hrest⟩ := hended
    · cases hresult
    cases hwrite with
    | write64 =>
      obtain ⟨_, rfl, -⟩ := map_eq_ok_iff.mp hafter
      rw [List.flatten_cons, ih hrest]
      rfl

theorem Chain.selected (h : Chain (Answered limit) (selection chip) word segments result)
    (hresult : result = .ok next) : Selects chip segments.flatten := by
  obtain ⟨calls, rest, ended, rfl, hwrite, hended⟩ := Chain.cons_cases h
  obtain ⟨_, -, -, rfl⟩ | ⟨after, hafter, hrest⟩ := hended
  · cases hresult
  obtain ⟨reads, rest, ended, rfl, hwait, hended⟩ := Chain.cons_cases hrest
  obtain ⟨_, -, -, rfl⟩ | ⟨last, hlast, hrest⟩ := hended
  · cases hresult
  cases hrest
  cases hwrite with
  | write64 =>
    obtain ⟨_, rfl, -⟩ := map_eq_ok_iff.mp hafter
    cases hwait with
    | await64 polls =>
      obtain ⟨_, hended, -⟩ := map_eq_ok_iff.mp hlast
      obtain ⟨waits, value, rfl, hvalue, hwaits⟩ := polls.exists_of_ok hended
      cases eq_of_beq hvalue
      refine ⟨waits, by simp, fun call hcall => ?_⟩
      obtain ⟨word, rfl, hword⟩ := hwaits call hcall
      exact ⟨word, rfl, ne_of_beq_false hword⟩

/-- A run that ends well has started all units, those of the tiles once all tiles are selected. -/
theorem Chain.completed (h : Chain (StepAnswered limit) (steps chip mode) word segments result)
    (hresult : result = .ok next) :
    segments.length = 13 ∧ ∃ before selected,
      segments.flatten = before ++ (startWrites chip.scalarRunControls ++
        (selected ++ startWrites chip.tileRunControls)) ∧ Selects chip selected := by
  refine ⟨h.length_eq hresult, ?_⟩
  subst hresult
  have hsplit : steps chip mode = (steps chip mode).take 12 ++ [start chip.scalarRunControls ++
    selection chip ++ start chip.tileRunControls] := rfl
  rw [hsplit] at h
  obtain ⟨before, rest, _, rfl, -, hlast⟩ := h.exists_of_append
  obtain ⟨calls, rest, ended, rfl, ⟨actions, rfl, hstep⟩, hended⟩ := hlast.cons_cases
  obtain ⟨_, -, -, ⟨⟩⟩ | ⟨_, rfl, hrest⟩ := hended
  cases hrest
  obtain ⟨others, tiles, _, rfl, hothers, htiles⟩ := hstep.exists_of_append
  obtain ⟨scalars, selected, _, rfl, hscalars, hselected⟩ := hothers.exists_of_append
  refine ⟨before.flatten, selected.flatten, ?_, hselected.selected rfl⟩
  rw [← hscalars.started rfl, ← htiles.started rfl]
  simp

/-! ## Main theorem -/

/-- Accesses that are those of the table follow the program. -/
theorem Chain.followsProgram
    (h : Chain (StepAnswered limit) (steps chip mode) 0 segments result) :
    FollowsProgram chip mode limit segments (result.map fun _ => ()) where
  ordered := ⟨result, h, rfl⟩
  identified _ _ _ hcalls hcall := h.identified hcalls hcall
  slept _ hcalls := h.slept hcalls
  bounded _ _ hcalls := by
    obtain ⟨step, _, _, hstep, hanswered, -⟩ := h.exists_of_getElem? hcalls
    exact ⟨step, hstep, hanswered.bounded⟩
  present := h.present
  sound := (h.failsLast fun _ _ _ _ => StepAnswered.failsLast).map _
  mistaken word rest hcalls hword := by
    obtain ⟨hrest, rfl⟩ := h.mistaken hcalls hword
    exact ⟨hrest, rfl⟩
  unechoed _ _ word rest hcalls hword := by
    obtain ⟨hrest, reason, rfl⟩ := h.unechoed hcalls hword
    exact ⟨hrest, reason, rfl⟩
  blamed _ herror := h.blames (map_eq_error_iff.mp herror)
  completed hok := by
    obtain ⟨_, hresult, -⟩ := map_eq_ok_iff.mp hok
    exact h.completed hresult

end

/-- **Bring-up follows its program of accesses.** Whatever the registers answer, and wherever one of
    them fails, a run makes the accesses of the steps in their order, up to the first failed access,
    mismatch or exhausted wait, whose error it returns. -/
theorem run_follows_program (self : BringUp σ) (mode : PerformanceMode) (state : σ) :
    ∃ segments, self.accesses mode state = segments.flatten ∧
      FollowsProgram self.chip mode self.pollLimit segments ((self.run mode).outcome state).1 := by
  obtain ⟨calls, hcalls, segments, result, rfl, houtcome, hchain⟩ :=
    emits_run self mode { inner := state }
  refine ⟨segments, hcalls, ?_⟩
  rw [(projects_run self mode).outcome { inner := state }, houtcome]
  exact hchain.followsProgram

end TensorLink.BringUp

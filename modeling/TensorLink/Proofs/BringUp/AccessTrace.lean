import TensorLink.Proofs.BringUp.AccessProgram

/-!
# The accesses of bring-up

The accesses that bring-up makes, whatever the registers answer. An action makes the accesses that
it stands for, up to the first that fails; a step makes those of its actions and a run those of its
steps, up to the first that ends badly. The accesses are kept step by step.

Results:
* `emits_perform`, `emits_performEach`: the accesses of an action, and of things in their order.
* `emits_run`: the accesses of a run are those of the table.
-/

namespace TensorLink.BringUp

open Sequencing

variable {σ : Type}

/-! ## Accesses and answers -/

/-- The reads of a wait: until a word is as wanted, at most so many. -/
inductive Polls {α : Type} (call : Except DriverError α → RegisterCall) (wanted : α → Bool)
    (exhausted : DriverError) : Nat → List RegisterCall → Except DriverError Unit → Prop where
  | exhausted : Polls call wanted exhausted 0 [] (.error exhausted)
  | failed (attempts : Nat) (error : DriverError) :
    Polls call wanted exhausted (attempts + 1) [call (.error error)] (.error error)
  | settled (attempts : Nat) {value : α} (hwanted : wanted value = true) :
    Polls call wanted exhausted (attempts + 1) [call (.ok value)] (.ok ())
  | again {attempts : Nat} {value : α} {calls : List RegisterCall}
    {result : Except DriverError Unit} (hwanted : wanted value = false)
    (rest : Polls call wanted exhausted attempts calls result) :
    Polls call wanted exhausted (attempts + 1) (call (.ok value) :: calls) result

/-- What comes of a read: its error, the fault that is found with the word, or the word. -/
def checked (fault : BitVec 32 → Option DriverError) :
    Except DriverError (BitVec 32) → Except DriverError (BitVec 32)
  | .error error => .error error
  | .ok word =>
    match fault word with
    | some error => .error error
    | none => .ok word

theorem checked_eq_ok_iff {fault : BitVec 32 → Option DriverError}
    {answer : Except DriverError (BitVec 32)} {word : BitVec 32} :
    checked fault answer = .ok word ↔ answer = .ok word ∧ fault word = none := by
  cases answer with
  | error error' => simp [checked]
  | ok next =>
    cases hfault : fault next with
    | none =>
      simp only [checked, hfault, Except.ok.injEq]
      exact ⟨fun h => ⟨h, h ▸ hfault⟩, fun h => h.1⟩
    | some error =>
      simp only [checked, hfault, Except.ok.injEq, reduceCtorEq, false_iff]
      rintro ⟨rfl, hnone⟩
      cases hfault.symm.trans hnone

theorem checked_eq_error_iff {fault : BitVec 32 → Option DriverError}
    {answer : Except DriverError (BitVec 32)} {error : DriverError} :
    checked fault answer = .error error ↔
      answer = .error error ∨ ∃ word, answer = .ok word ∧ fault word = some error := by
  cases answer with
  | error error' => simp [checked]
  | ok word => cases hfault : fault word <;> simp [checked, hfault]

/-- The accesses that an action makes with a word in hand, and the word that is in hand then or the
    error that the action ends with. -/
inductive Answered (limit : Nat) : Action → BitVec 32 → List RegisterCall →
    Except DriverError (BitVec 32) → Prop where
  | read32 (offset : Nat) (fault : BitVec 32 → Option DriverError) (word : BitVec 32)
    (answer : Except DriverError (BitVec 32)) :
    Answered limit (.read32 offset fault) word [.read32 offset answer] (checked fault answer)
  | write32 (offset : Nat) (value : BitVec 32 → BitVec 32) (word : BitVec 32)
    (outcome : Except DriverError Unit) :
    Answered limit (.write32 offset value) word [.write32 offset (value word) outcome]
      (outcome.map fun _ => word)
  | write64 (offset : Nat) (value : BitVec 64) (word : BitVec 32)
    (outcome : Except DriverError Unit) :
    Answered limit (.write64 offset value) word [.write64 offset value outcome]
      (outcome.map fun _ => word)
  | await32 {offset : Nat} {condition : String} {wanted : BitVec 32 → Bool} {word : BitVec 32}
    {calls : List RegisterCall} {result : Except DriverError Unit}
    (polls : Polls (.read32 offset) wanted (.pollExhausted offset condition limit) limit calls
      result) :
    Answered limit (.await32 offset condition wanted) word calls (result.map fun _ => word)
  | await64 {offset : Nat} {condition : String} {wanted : BitVec 64 → Bool} {word : BitVec 32}
    {calls : List RegisterCall} {result : Except DriverError Unit}
    (polls : Polls (.read64 offset) wanted (.pollExhausted offset condition limit) limit calls
      result) :
    Answered limit (.await64 offset condition wanted) word calls (result.map fun _ => word)
  | done {condition : BitVec 32 → Bool} {action : Action} {word : BitVec 32}
    {calls : List RegisterCall} {result : Except DriverError (BitVec 32)}
    (hcondition : condition word = true) (answered : Answered limit action word calls result) :
    Answered limit (.onlyIf condition action) word calls result
  | leftAlone {condition : BitVec 32 → Bool} (action : Action) {word : BitVec 32}
    (hcondition : condition word = false) :
    Answered limit (.onlyIf condition action) word [] (.ok word)

/-- The accesses of things that are done in their order, one list for each thing that is begun: the
    first that ends badly is the last. -/
inductive Chain {ι : Type} (answered : ι → BitVec 32 → List RegisterCall →
    Except DriverError (BitVec 32) → Prop) : List ι → BitVec 32 → List (List RegisterCall) →
    Except DriverError (BitVec 32) → Prop where
  | nil (word : BitVec 32) : Chain answered [] word [] (.ok word)
  | cons {item : ι} {items : List ι} {word next : BitVec 32} {calls : List RegisterCall}
    {segments : List (List RegisterCall)} {result : Except DriverError (BitVec 32)}
    (first : answered item word calls (.ok next))
    (rest : Chain answered items next segments result) :
    Chain answered (item :: items) word (calls :: segments) result
  | stop {item : ι} {word : BitVec 32} {calls : List RegisterCall} {error : DriverError}
    (items : List ι) (first : answered item word calls (.error error)) :
    Chain answered (item :: items) word [calls] (.error error)

/-- The accesses of a step. -/
def StepAnswered (limit : Nat) (step : List Action) (word : BitVec 32) (calls : List RegisterCall)
    (result : Except DriverError (BitVec 32)) : Prop :=
  ∃ segments, calls = segments.flatten ∧ Chain (Answered limit) step word segments result

/-! ## The accesses of an operation -/

/-- The accesses that an operation on recorded registers makes, and what it ends with. -/
def Emits {α : Type} (operation : DeviceM (Recorded σ RegisterCall) α)
    (post : List RegisterCall → Except DriverError α → Prop) : Prop :=
  ∀ state, ∃ calls, (operation.outcome state).2.calls = state.calls ++ calls ∧
    post calls (operation.outcome state).1

section

variable {α β : Type} {post : List RegisterCall → Except DriverError α → Prop}

theorem emits_pure {value : α} (h : post [] (.ok value)) :
    Emits (pure value : DeviceM (Recorded σ RegisterCall) α) post :=
  fun _ => ⟨[], (List.append_nil _).symm, h⟩

theorem emits_throw {error : DriverError} (h : post [] (.error error)) :
    Emits (throw error : DeviceM (Recorded σ RegisterCall) α) post :=
  fun _ => ⟨[], (List.append_nil _).symm, h⟩

theorem Emits.mono {operation : DeviceM (Recorded σ RegisterCall) α}
    {post' : List RegisterCall → Except DriverError α → Prop} (h : Emits operation post)
    (hpost : ∀ calls outcome, post calls outcome → post' calls outcome) :
    Emits operation post' := by
  intro state
  obtain ⟨calls, hcalls, hmade⟩ := h state
  exact ⟨calls, hcalls, hpost _ _ hmade⟩

theorem emits_observe (entry : Except DriverError α → RegisterCall) (operation : DeviceM σ α) :
    Emits (Recorded.observe entry operation) fun calls outcome => calls = [entry outcome] := by
  intro state
  unfold DeviceM.outcome Recorded.observe
  cases operation state.inner <;> exact ⟨_, rfl, rfl⟩

theorem Emits.bind {m : DeviceM (Recorded σ RegisterCall) α}
    {k : α → DeviceM (Recorded σ RegisterCall) β}
    {post' : List RegisterCall → Except DriverError β → Prop} (hm : Emits m post)
    (herror : ∀ calls error, post calls (.error error) → post' calls (.error error))
    (hk : ∀ first value, post first (.ok value) →
      Emits (k value) fun rest outcome => post' (first ++ rest) outcome) :
    Emits (m >>= k) post' := by
  intro state
  obtain ⟨first, hfirst, hpost⟩ := hm state
  unfold DeviceM.outcome at hfirst hpost
  cases hresult : m state with
  | ok value after =>
    rw [hresult] at hfirst hpost
    obtain ⟨rest, hrest, hpost'⟩ := hk first value hpost after
    rw [outcome_bind_of_ok hresult]
    exact ⟨first ++ rest, by rw [hrest, hfirst, List.append_assoc], hpost'⟩
  | error error after =>
    rw [hresult] at hfirst hpost
    rw [outcome_bind_of_error hresult]
    exact ⟨first, hfirst, herror first error hpost⟩

/-- An operation whose value is replaced. -/
theorem Emits.returning {m : DeviceM (Recorded σ RegisterCall) α} (hm : Emits m post) (value : β) :
    Emits (m >>= fun _ => pure value) fun calls outcome =>
      ∃ ended, post calls ended ∧ outcome = ended.map fun _ => value := by
  refine hm.bind (fun calls error h => ⟨.error error, h, rfl⟩) fun first ended h => ?_
  refine emits_pure ⟨.ok ended, ?_, rfl⟩
  rwa [List.append_nil]

end

section

variable {self : BringUp σ}

theorem emits_poll {α : Type} (entry : Except DriverError α → RegisterCall) (read : DeviceM σ α)
    (wanted : α → Bool) (exhausted : DriverError) (attempts : Nat) :
    Emits (poll (Recorded.observe entry read) wanted exhausted attempts >>= fun _ => pure ())
      (Polls entry wanted exhausted attempts) := by
  induction attempts with
  | zero => exact emits_throw .exhausted
  | succ attempts ih =>
    rw [poll_succ, bind_assoc]
    refine (emits_observe entry read).bind (fun calls error h => h ▸ .failed attempts error)
      fun first value h => ?_
    subst h
    split
    · next hwanted => exact emits_pure (.settled attempts hwanted)
    · next hwanted => exact ih.mono fun _ _ => .again (Bool.eq_false_iff.mpr hwanted)

theorem emits_perform (action : Action) (word : BitVec 32) :
    Emits (action.perform { self with registers := self.registers.recorded } word)
      (Answered self.pollLimit action word) := by
  induction action with
  | read32 offset fault =>
    refine (emits_observe _ _).bind
      (fun calls error h => h ▸ .read32 offset fault word (.error error)) fun first next h => ?_
    subst h
    have hanswered : Answered self.pollLimit (.read32 offset fault) word
        [.read32 offset (.ok next)] (checked fault (.ok next)) :=
      .read32 offset fault word (.ok next)
    cases hfault : fault next with
    | none =>
      rw [checked_eq_ok_iff.mpr ⟨rfl, hfault⟩] at hanswered
      exact emits_pure hanswered
    | some error =>
      rw [checked_eq_error_iff.mpr (.inr ⟨next, rfl, hfault⟩)] at hanswered
      exact emits_throw hanswered
  | write32 offset value =>
    refine ((emits_observe _ _).returning word).mono ?_
    rintro calls _ ⟨outcome, rfl, rfl⟩
    exact .write32 offset value word outcome
  | write64 offset value =>
    refine ((emits_observe _ _).returning word).mono ?_
    rintro calls _ ⟨outcome, rfl, rfl⟩
    exact .write64 offset value word outcome
  | await32 offset condition wanted =>
    refine ((emits_poll _ _ wanted _ _).returning word).mono ?_
    rintro calls _ ⟨outcome, hpolls, rfl⟩
    exact .await32 hpolls
  | await64 offset condition wanted =>
    refine ((emits_poll _ _ wanted _ _).returning word).mono ?_
    rintro calls _ ⟨outcome, hpolls, rfl⟩
    exact .await64 hpolls
  | onlyIf condition action ih =>
    unfold Action.perform
    split
    · next hcondition => exact ih.mono fun _ _ => .done hcondition
    · next hcondition => exact emits_pure (.leftAlone action (Bool.eq_false_iff.mpr hcondition))

end

theorem emits_performEach {ι : Type}
    {perform : ι → BitVec 32 → DeviceM (Recorded σ RegisterCall) (BitVec 32)}
    {answered : ι → BitVec 32 → List RegisterCall → Except DriverError (BitVec 32) → Prop}
    (h : ∀ item word, Emits (perform item word) (answered item word)) (items : List ι)
    (word : BitVec 32) :
    Emits (performEach perform items word) fun calls result =>
      ∃ segments, calls = segments.flatten ∧ Chain answered items word segments result := by
  induction items generalizing word with
  | nil => exact emits_pure ⟨[], rfl, .nil word⟩
  | cons item items ih =>
    refine (h item word).bind (fun calls error hfirst => ?_) fun calls next hfirst => ?_
    · exact ⟨[calls], (List.append_nil calls).symm, .stop items hfirst⟩
    · refine (ih next).mono ?_
      rintro rest result ⟨segments, rfl, hchain⟩
      exact ⟨calls :: segments, rfl, .cons hfirst hchain⟩

/-- The accesses of a run are those of the table. -/
theorem emits_run (self : BringUp σ) (mode : PerformanceMode) :
    Emits ({ self with registers := self.registers.recorded }.run mode) fun calls outcome =>
      ∃ segments result, calls = segments.flatten ∧ outcome = result.map (fun _ => ()) ∧
        Chain (StepAnswered self.pollLimit) (steps self.chip mode) 0 segments result := by
  rw [← performs_run _ mode 0]
  refine (emits_performEach (fun step word => emits_performEach emits_perform step word) _ 0).bind
    ?_ ?_
  · rintro calls error ⟨segments, rfl, hchain⟩
    exact ⟨segments, .error error, rfl, rfl, hchain⟩
  · rintro calls word ⟨segments, rfl, hchain⟩
    exact emits_pure ⟨segments, .ok word, List.append_nil _, rfl, hchain⟩

end TensorLink.BringUp

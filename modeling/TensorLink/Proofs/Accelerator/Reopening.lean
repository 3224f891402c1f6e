import TensorLink.Proofs.Accelerator.History

/-!
# Parameters after a device is opened again

Power goes off with the last user of a context, and the chip loses its parameters; which packages
are taken to be resident is kept. A package that was in a slot when the device was opened is
therefore run without loading its parameters, until slots are emptied for another. Every other
package has loaded its parameters on the context that it runs on.

Results:
* `plan_cases`, `plan_eq_some`: parameters are loaded into a free slot, and how room is made.
* `accounts_of_ran`: a run of a package keeps the residency in agreement with the past.
* `consistent_of_effect`, `justified_history`: so does every action, and so does every course of
  actions.
* `loaded_iff_not_carried`: a package that caches parameters has loaded them on the context that it
  runs on, exactly if they have not been carried over from an earlier one.
-/

namespace TensorLink

namespace Residency

/-! ## Slots -/

/-- The package in a slot. -/
def at? (residency : Residency) : Slot → Option PackageId
  | .first => residency.first
  | .second => residency.second

theorem contains_evict (residency : Residency) (id : PackageId) :
    residency.evict.contains id = false := rfl

/-- Parameters are loaded into the first slot once both have been emptied, or, under the token in
    use and beside other packages, into the first slot that is free. -/
theorem plan_cases {residency room : Residency} {id : PackageId} {token : UInt64} {slot : Slot}
    (hplan : residency.plan id token = some (slot, room)) :
    slot = .first ∧ room = residency.evict ∨
      token = residency.token ∧ residency.contains id = false ∧ room = residency ∧
        (slot = .first ∧ residency.first = none ∨
          slot = .second ∧ residency.first ≠ none ∧ residency.second = none) := by
  unfold plan at hplan
  split at hplan
  · cases hplan
    exact .inl ⟨rfl, rfl⟩
  · rename_i htoken
    have htoken : token = residency.token := Decidable.not_not.mp htoken
    split at hplan
    · cases hplan
    · rename_i hcontains
      have hcontains : residency.contains id = false := Bool.eq_false_iff.mpr hcontains
      split at hplan
      · rename_i hfirst
        cases hplan
        exact .inr ⟨htoken, hcontains, rfl, .inl ⟨rfl, hfirst⟩⟩
      · rename_i hfirst
        split at hplan
        · rename_i hsecond
          cases hplan
          exact .inr ⟨htoken, hcontains, rfl, .inr ⟨rfl, hfirst, hsecond⟩⟩
        · cases hplan
          exact .inl ⟨rfl, rfl⟩

/-- Parameters are loaded into a free slot, once every slot has been emptied if none was free. -/
theorem plan_eq_some {residency room : Residency} {id : PackageId} {token : UInt64} {slot : Slot}
    (hplan : residency.plan id token = some (slot, room)) :
    (room = residency ∧ residency.contains id = false ∨ room = residency.evict) ∧
      room.at? slot = none := by
  rcases plan_cases hplan with
    ⟨rfl, rfl⟩ | ⟨-, hcontains, rfl, ⟨rfl, hfirst⟩ | ⟨rfl, -, hsecond⟩⟩
  · exact ⟨.inr rfl, rfl⟩
  · exact ⟨.inl ⟨rfl, hcontains⟩, hfirst⟩
  · exact ⟨.inl ⟨rfl, hcontains⟩, hsecond⟩

/-- Loading parameters into a free slot adds their package. -/
theorem contains_load_iff {room : Residency} {slot : Slot} (id : PackageId) (token : UInt64)
    (other : PackageId) (hfree : room.at? slot = none) :
    (room.load slot id token).contains other = true ↔ id = other ∨ room.contains other = true := by
  cases slot with
  | first =>
    have hfirst : room.first = none := hfree
    simp [load, contains, hfirst]
  | second =>
    have hsecond : room.second = none := hfree
    simp [load, contains, hsecond, or_comm]

end Residency

namespace Accelerator

/-! ## The past of a context -/

/-- The parameters of a package have been loaded on a context. -/
def Loaded (past : List Event) (number : Nat) (id : PackageId) : Prop :=
  ∃ token, ⟨number, .loaded id token⟩ ∈ past

/-- The parameters of a package were taken to be resident when a context was opened, and no slots
    have been emptied on it since. -/
def Carried (past : List Event) (number : Nat) (id : PackageId) : Prop :=
  (∃ residency, ⟨number, .opened residency⟩ ∈ past ∧ residency.contains id = true) ∧
    ⟨number, .evicted⟩ ∉ past

theorem loaded_append (past : List Event) (happenings : List Happening) (number : Nat)
    (id : PackageId) :
    Loaded (past ++ happenings.map (⟨number, ·⟩)) number id ↔
      Loaded past number id ∨ ∃ token, .loaded id token ∈ happenings := by
  simp only [Loaded, List.mem_append, List.mem_map, Event.mk.injEq, true_and, exists_eq_right,
    exists_or]

theorem carried_append {happenings : List Happening}
    (hopened : ∀ residency, .opened residency ∉ happenings) (past : List Event) (number : Nat)
    (id : PackageId) :
    Carried (past ++ happenings.map (⟨number, ·⟩)) number id ↔
      Carried past number id ∧ .evicted ∉ happenings := by
  simp only [Carried, List.mem_append, List.mem_map, Event.mk.injEq, true_and, exists_eq_right,
    hopened, or_false, not_or, and_assoc]

/-- How the past of a context and the packages that are taken to be resident agree. -/
structure Accounts (past : List Event) (number : Nat) (residency : Residency) : Prop where
  opened : ∃ residency, ⟨number, .opened residency⟩ ∈ past
  /-- Every resident package has loaded its parameters, or they have been carried over. -/
  explained (id : PackageId) : residency.contains id = true →
    Loaded past number id ∨ Carried past number id
  /-- What has been carried over is still resident, and has not been loaded. -/
  kept (id : PackageId) : Carried past number id →
    residency.contains id = true ∧ ¬Loaded past number id

namespace Accounts

variable {past : List Event} {number : Nat} {residency room : Residency}

theorem loaded_iff (accounts : Accounts past number residency) {id : PackageId}
    (hcontains : residency.contains id = true) :
    Loaded past number id ↔ ¬Carried past number id :=
  ⟨fun hloaded hcarried => (accounts.kept id hcarried).2 hloaded,
    (accounts.explained id hcontains).resolve_right⟩

/-- Forgetting the token changes nothing about the slots. -/
theorem forgetToken (accounts : Accounts past number residency) :
    Accounts past number residency.forgetToken :=
  ⟨accounts.opened, accounts.explained, accounts.kept⟩

/-- A note of anything but an opening, an eviction or a completed load changes nothing. -/
theorem pass (accounts : Accounts past number residency) (happening : Happening)
    (hopened : ∀ residency, happening ≠ .opened residency) (hevicted : happening ≠ .evicted)
    (hloaded : ∀ id token, happening ≠ .loaded id token) :
    Accounts (past ++ [happening].map (⟨number, ·⟩)) number residency := by
  have hloaded_iff (id : PackageId) : Loaded (past ++ [happening].map (⟨number, ·⟩)) number id ↔
      Loaded past number id := by
    rw [loaded_append]
    simp only [List.mem_singleton, (hloaded id _).symm, exists_false, or_false]
  have hcarried_iff (id : PackageId) :
      Carried (past ++ [happening].map (⟨number, ·⟩)) number id ↔ Carried past number id := by
    rw [carried_append (by simpa only [List.mem_singleton] using fun r => (hopened r).symm)]
    simp only [List.mem_singleton, hevicted.symm, not_false_eq_true, and_true]
  refine ⟨?_, fun id => ?_, fun id => ?_⟩
  · exact accounts.opened.imp fun _ => List.mem_append_left _
  · rw [hloaded_iff, hcarried_iff]
    exact accounts.explained id
  · rw [hloaded_iff, hcarried_iff]
    exact accounts.kept id

/-- Making room empties every slot, with a note of it, or none. -/
theorem evictions (accounts : Accounts past number residency)
    (hroom : room = residency ∨ room = residency.evict) :
    Accounts (past ++ (Registry.evictions residency room).map (⟨number, ·⟩)) number room := by
  unfold Registry.evictions
  by_cases hsame : room = residency
  · rw [if_pos hsame, List.map_nil, List.append_nil, hsame]
    exact accounts
  · rw [if_neg hsame]
    have hevict := hroom.resolve_left hsame
    refine ⟨accounts.opened.imp fun _ => List.mem_append_left _, fun id hcontains => ?_,
      fun id hcarried => ?_⟩
    · rw [hevict, Residency.contains_evict] at hcontains
      cases hcontains
    · rw [carried_append (by simp)] at hcarried
      exact absurd (List.mem_singleton_self _) hcarried.2

/-- A package whose parameters have been loaded into a free slot is accounted for. -/
theorem load (accounts : Accounts past number room) {slot : Slot} {id : PackageId}
    (token : UInt64) (habsent : room.contains id = false) (hfree : room.at? slot = none) :
    Accounts (past ++ [Happening.loaded id token].map (⟨number, ·⟩)) number
      (room.load slot id token) := by
  have hloaded_iff (other : PackageId) :
      Loaded (past ++ [Happening.loaded id token].map (⟨number, ·⟩)) number other ↔
        Loaded past number other ∨ id = other := by
    rw [loaded_append]
    simp [eq_comm (a := other)]
  have hcarried_iff (other : PackageId) :
      Carried (past ++ [Happening.loaded id token].map (⟨number, ·⟩)) number other ↔
        Carried past number other := by
    rw [carried_append (by simp)]
    simp
  refine ⟨accounts.opened.imp fun _ => List.mem_append_left _, fun other hcontains => ?_,
    fun other hcarried => ?_⟩
  · rw [hloaded_iff, hcarried_iff]
    obtain hid | hroom := (Residency.contains_load_iff id token other hfree).mp hcontains
    · exact .inl (.inr hid)
    · exact (accounts.explained other hroom).imp_left .inl
  · rw [hcarried_iff] at hcarried
    obtain ⟨hroom, hloaded⟩ := accounts.kept other hcarried
    rw [hloaded_iff, Residency.contains_load_iff id token other hfree]
    refine ⟨.inr hroom, ?_⟩
    rintro (hloaded' | rfl)
    · exact hloaded hloaded'
    · rw [habsent] at hroom
      cases hroom

end Accounts

/-! ## Justified inferences -/

/-- What is known of the past of a package that caches parameters and is about to run. -/
structure Reached (past : List Event) (number : Nat) (id : PackageId) : Prop where
  opened : ∃ residency, ⟨number, .opened residency⟩ ∈ past
  newest : ∀ event ∈ past, event.context ≤ number
  loaded_iff : Loaded past number id ↔ ¬Carried past number id

/-- Every inference of a package that caches parameters has the past that it should have. -/
def Justified : List Event → List Event → Prop
  | _, [] => True
  | past, event :: rest =>
    (∀ id, event.happening = .inferred id true → Reached past event.context id) ∧
      Justified (past ++ [event]) rest

theorem justified_append {past events rest : List Event} (hevents : Justified past events)
    (hrest : Justified (past ++ events) rest) : Justified past (events ++ rest) := by
  induction events generalizing past with
  | nil => simpa using hrest
  | cons event events ih =>
    refine ⟨hevents.1, ih hevents.2 ?_⟩
    rwa [List.append_assoc]

/-- The past of any one inference. -/
theorem Justified.reached {past before after : List Event} {number : Nat} {id : PackageId}
    (h : Justified past (before ++ ⟨number, .inferred id true⟩ :: after)) :
    Reached (past ++ before) number id := by
  induction before generalizing past with
  | nil =>
    rw [List.append_nil]
    exact h.1 id rfl
  | cons event before ih =>
    rw [List.append_cons]
    exact ih h.2

/-- How the history of an accelerator and its standing agree. -/
structure Consistent (past : List Event) (standing : Standing) : Prop where
  earlier : ∀ event ∈ past, event.context < standing.contexts
  newest : ∀ number, standing.device = some number → number + 1 = standing.contexts
  accounts : ∀ number, standing.device = some number → Accounts past number standing.residency

theorem consistent_nil {standing : Standing} (hdevice : standing.device = none) :
    Consistent [] standing :=
  ⟨fun _ hevent => absurd hevent List.not_mem_nil, fun _ h => by simp [hdevice] at h,
    fun _ h => by simp [hdevice] at h⟩

/-- Happenings on a context that is not older than any other keep it that way. -/
theorem newest_append {past : List Event} {number : Nat}
    (hnewest : ∀ event ∈ past, event.context ≤ number) (happenings : List Happening) :
    ∀ event ∈ past ++ happenings.map (⟨number, ·⟩), event.context ≤ number := by
  intro event hevent
  obtain hpast | hnew := List.mem_append.mp hevent
  · exact hnewest event hpast
  · obtain ⟨_, -, rfl⟩ := List.mem_map.mp hnew
    exact Nat.le_refl number

/-- Happenings none of which is an inference of a package that caches parameters. -/
theorem justified_of_quiet (past : List Event) (number : Nat) (happenings : List Happening)
    (hquiet : ∀ id, .inferred id true ∉ happenings) :
    Justified past (happenings.map (⟨number, ·⟩)) := by
  induction happenings generalizing past with
  | nil => trivial
  | cons happening rest ih =>
    refine ⟨fun id h => ?_, ih _ fun id h => hquiet id (List.mem_cons_of_mem _ h)⟩
    exact absurd (by rw [show happening = _ from h]; exact List.mem_cons_self) (hquiet id)

section Ran

variable {past : List Event} {number : Nat} {registry : Registry} {id : PackageId}
  {happenings : List Happening} {residency : Residency}

/-- An inference after quiet happenings needs the right accounts just before it. -/
theorem justified_inferred (hnewest : ∀ event ∈ past, event.context ≤ number)
    (happenings : List Happening) (hquiet : ∀ id, Happening.inferred id true ∉ happenings)
    (accounts : Accounts (past ++ happenings.map (⟨number, ·⟩)) number residency)
    (hcontains : residency.contains id = true) :
    Justified past ((happenings ++ [Happening.inferred id true]).map (⟨number, ·⟩)) := by
  rw [List.map_append]
  refine justified_append (justified_of_quiet past number happenings hquiet)
    ⟨fun other h => ?_, trivial⟩
  obtain rfl : id = other := by simpa using h
  exact ⟨accounts.opened, newest_append hnewest happenings, accounts.loaded_iff hcontains⟩

/-- The accounts when room has been made for the parameters of a package. -/
theorem accounts_loading (accounts : Accounts past number residency) {token : UInt64}
    {slot : Slot} {room : Residency}
    (hplan : residency.plan id token = some (slot, room)) :
    Accounts (past ++ (Registry.evictions residency room ++
      [Happening.loading id token]).map (⟨number, ·⟩)) number room := by
  have hroom := (Residency.plan_eq_some hplan).1.imp_left And.left
  have hloading := (accounts.evictions hroom).pass (.loading id token) (by simp) (by simp)
    (by simp)
  rwa [List.append_assoc, ← List.map_append] at hloading

theorem inferred_notMem_evictions (residency room : Residency) (id : PackageId) :
    Happening.inferred id true ∉ Registry.evictions residency room := by
  unfold Registry.evictions
  split <;> simp

/-- A run of a package keeps the accounts right, and its inference is justified. -/
theorem accounts_of_ran (hnewest : ∀ event ∈ past, event.context ≤ number)
    (accounts : Accounts past number registry.residency)
    (run : registry.Ran id happenings residency) :
    Accounts (past ++ happenings.map (⟨number, ·⟩)) number residency ∧
      Justified past (happenings.map (⟨number, ·⟩)) := by
  cases run with
  | unknown => exact ⟨by simpa using accounts, trivial⟩
  | plain hpackage hcaching =>
    refine ⟨accounts.forgetToken.pass _ (by simp) (by simp) (by simp), ?_⟩
    exact justified_of_quiet past number _ (by simp)
  | resident hpackage hcaching hplan =>
    have hcontains := ((Residency.plan_eq_none_iff _ _ _).mp hplan).2
    refine ⟨accounts.pass _ (by simp) (by simp) (by simp), ?_⟩
    exact justified_inferred hnewest [] (by simp) (by simpa using accounts) hcontains
  | refused hpackage hcaching hplan =>
    refine ⟨accounts_loading accounts hplan, justified_of_quiet past number _ fun other => ?_⟩
    simp [inferred_notMem_evictions]
  | @loaded package caching slot room hpackage hcaching hplan =>
    obtain ⟨hroom, hfree⟩ := Residency.plan_eq_some hplan
    have habsent : room.contains id = false := by
      obtain ⟨rfl, habsent⟩ | rfl := hroom
      · exact habsent
      · exact Residency.contains_evict _ id
    have hloaded := (accounts_loading accounts hplan).load caching.executable.cachingToken
      habsent hfree
    have hinferred := hloaded.pass (.inferred id true) (by simp) (by simp) (by simp)
    constructor
    · simpa only [List.append_assoc, ← List.map_append, List.cons_append, List.nil_append]
        using hinferred
    · rw [List.append_assoc, ← List.map_append] at hloaded
      have hjustified := justified_inferred hnewest _ (fun other => ?_) hloaded
        (Residency.contains_load room slot id _)
      · simpa only [List.append_assoc, List.cons_append, List.nil_append] using hjustified
      · simp [inferred_notMem_evictions]

end Ran

/-- A context that has just been opened carries over what is taken to be resident. -/
theorem accounts_opened {past : List Event} {number : Nat}
    (hearlier : ∀ event ∈ past, event.context < number) (residency : Residency) :
    Accounts (past ++ [⟨number, .opened residency⟩]) number residency := by
  have hnew (happening : Happening) :
      ⟨number, happening⟩ ∈ past ++ [⟨number, .opened residency⟩] ↔
        happening = .opened residency := by
    have hpast : ⟨number, happening⟩ ∉ past := fun h => Nat.lt_irrefl _ (hearlier _ h)
    simp [hpast]
  refine ⟨⟨residency, (hnew _).mpr rfl⟩, fun id hcontains => .inr ?_, fun id hcarried => ?_⟩
  · exact ⟨⟨residency, (hnew _).mpr rfl, hcontains⟩, by simp [hnew]⟩
  · obtain ⟨⟨residency', hopened, hcontains⟩, -⟩ := hcarried
    obtain rfl : residency' = residency := by simpa using (hnew _).mp hopened
    exact ⟨hcontains, by simp [Loaded, hnew]⟩

/-! ## Runs of the whole accelerator -/

theorem consistent_opened {past : List Event} {contexts : Nat} {residency : Residency}
    (consistent : Consistent past ⟨none, contexts, residency⟩) :
    Consistent (past ++ [⟨contexts, .opened residency⟩])
      ⟨some contexts, contexts + 1, residency⟩ := by
  have hearlier : ∀ event ∈ past, event.context < contexts := consistent.earlier
  refine ⟨fun event hevent => ?_, fun number h => ?_, fun number h => ?_⟩
  · obtain hpast | hnew := List.mem_append.mp hevent
    · exact Nat.lt_succ_of_lt (hearlier event hpast)
    · rw [List.mem_singleton.mp hnew]
      exact Nat.lt_succ_self contexts
  · cases h
    rfl
  · cases h
    exact accounts_opened hearlier residency

/-- **Step.** What an action brings about is justified, and the history and the standing agree after
    it, if they did so before. -/
theorem consistent_of_effect {past events : List Event} {before after : Standing}
    (consistent : Consistent past before) (effect : Effect before events after) :
    Consistent (past ++ events) after ∧ Justified past events := by
  cases effect with
  | unseen => exact ⟨by simpa using consistent, trivial⟩
  | closed device contexts residency =>
    refine ⟨⟨?_, fun number h => ?_, fun number h => ?_⟩, trivial⟩
    · simpa using consistent.earlier
    · cases h
    · cases h
  | opened contexts residency =>
    refine ⟨consistent_opened consistent, ?_⟩
    exact justified_of_quiet past contexts [.opened residency] (by simp)
  | @ran registry id happenings residency number contexts run =>
    -- No context is newer than the one in use, so its happenings go on the accounts of this one.
    have hcontexts : number + 1 = contexts := consistent.newest number rfl
    have hnewest : ∀ event ∈ past, event.context ≤ number := fun event hevent => by
      have hearlier : event.context < contexts := consistent.earlier event hevent
      omega
    obtain ⟨haccounts, hjustified⟩ := accounts_of_ran hnewest (consistent.accounts number rfl) run
    refine ⟨⟨fun event hevent => ?_, fun other h => ?_, fun other h => ?_⟩, hjustified⟩
    · have hevent := newest_append hnewest happenings event hevent
      show event.context < contexts
      omega
    · cases h
      exact hcontexts
    · cases h
      exact haccounts

section

variable {σ : Type} (host : Host Waiter σ) (power : PowerSwitch σ)

/-- **Run.** Everything that a course of actions brings about is justified. -/
theorem justified_history {past : List Event} {accelerator : Accelerator σ}
    (consistent : Consistent past accelerator.standing) (actions : List (Action σ)) :
    Justified past (accelerator.history host power actions) := by
  induction actions generalizing past accelerator with
  | nil => trivial
  | cons action actions ih =>
    obtain ⟨hafter, hjustified⟩ :=
      consistent_of_effect consistent (effect_perform host power accelerator action)
    exact justified_append hjustified (ih hafter)

/-- **When parameters have been loaded.** Whatever users do with an accelerator that nobody had
    opened, and whatever the world around it does, a package that caches parameters is only run on
    the latest context. It has loaded its parameters on that context exactly if they were not taken
    to be resident when the context was opened, or slots have been emptied on it since. -/
theorem loaded_iff_not_carried {start : Accelerator σ} (hdevice : start.device = none)
    (actions : List (Action σ)) {before after : List Event} {number : Nat} {id : PackageId}
    (hhistory : start.history host power actions =
      before ++ ⟨number, .inferred id true⟩ :: after) :
    (∃ residency, ⟨number, .opened residency⟩ ∈ before) ∧
      (∀ event ∈ before, event.context ≤ number) ∧
      (Loaded before number id ↔ ¬Carried before number id) := by
  have hstanding : start.standing.device = none := by rw [standing, hdevice, Option.map_none]
  have hjustified := justified_history host power (consistent_nil hstanding) actions
  rw [hhistory] at hjustified
  obtain ⟨hopened, hnewest, hloaded⟩ := hjustified.reached
  exact ⟨hopened, hnewest, hloaded⟩

end

/-- What a chip that is always ready holds in its registers. -/
def readyRegister (offset : Nat) : Nat :=
  if offset = Chip.beagle.apex.omc000 then
    (Omc000.chipId.put Chip.beagle.chipId
      (Omc000.testReg0.put BringUp.testPattern (0 : BitVec 32))).toNat
  else if offset = Chip.beagle.scu.scuCtrl3 then
    (ScuCtrl3.forceSleep.put BringUp.enterSleep (0 : BitVec 32)).toNat
  else if offset = Chip.beagle.tileConfig0 then TileConfig.broadcast.toNat
  else 0

/-- A host with a chip that is always ready and completes every transfer at once. -/
def readyHost : Host Waiter Unit where
  openClass _ := pure ⟨0⟩
  closeClass _ := id
  resetBus := pure ()
  requestReenumeration := pure ()
  transport _ :=
    { openPipe := fun _ => pure ()
      control := fun _ setup _ state =>
        (.completed (.ok (Bytes.littleEndian 8 (readyRegister (RegisterRequest.offset setup)))),
          state)
      bulkOut := fun _ _ data state => (.completed (.ok data.length), state)
      bulkIn := fun _ _ size state => (.completed (.ok (Bytes.zeros size)), state) }

/-- An accelerator that is plugged in when it gets power. -/
def plugged : PowerSwitch Unit := .plug Unit Interface.application

/-- A package with one octet of parameters and one of instructions. -/
def octetPackage : Bytes :=
  Package.encode
    [{ parameters := [1], hints := [.range .parameter "" 0 1], purpose := .parameterCaching,
       cachingToken := 7 },
     { bitstreams := [[9]], hints := [.instruction 0], purpose := .executionOnly,
       cachingToken := 7 }]

/-- An accelerator that nobody uses yet. -/
def unused : Accelerator Unit := { config := {}, attach := { world := { world := () } } }

/-- A package is registered and run on a device. -/
def firstRun : List (Action Unit) :=
  [.register ⟨0⟩ octetPackage, .openDevice .max, .invoke ⟨0⟩ [] []]

/-- What comes before the inference of the first run. -/
def firstPast : List Event := [⟨0, .opened {}⟩, ⟨0, .loading ⟨0⟩ 7⟩, ⟨0, .loaded ⟨0⟩ 7⟩]

/-- A package that is run for the first time has loaded its parameters. -/
theorem loaded_firstRun :
    unused.history readyHost plugged firstRun = firstPast ++ ⟨0, .inferred ⟨0⟩ true⟩ :: [] ∧
      Loaded firstPast 0 ⟨0⟩ := by
  have hhistory : unused.history readyHost plugged firstRun =
      firstPast ++ ⟨0, .inferred ⟨0⟩ true⟩ :: [] := by decide +kernel
  obtain ⟨-, -, hloaded⟩ := loaded_iff_not_carried readyHost plugged rfl firstRun hhistory
  refine ⟨hhistory, hloaded.mpr fun hcarried => ?_⟩
  obtain ⟨⟨residency, hopened, hcontains⟩, -⟩ := hcarried
  obtain rfl : residency = {} := by simpa [firstPast] using hopened
  cases hcontains

/-- The package is run, the device is closed and opened again, and the package is run once more. -/
def reopenedRun : List (Action Unit) :=
  firstRun ++ [.closeDevice 0, .openDevice .max, .invoke ⟨0⟩ [] []]

/-- What comes before the second inference. -/
def reopenedPast : List Event :=
  firstPast ++ [⟨0, .inferred ⟨0⟩ true⟩, ⟨1, .opened { token := 7, first := some ⟨0⟩ }⟩]

/-- On a device that has been opened again, a package is run without its parameters. -/
theorem not_loaded_of_reopened :
    ¬∀ (σ : Type) (host : Host Waiter σ) (power : PowerSwitch σ) (world : σ)
      (config : DriverConfig) (start : Accelerator σ) (actions : List (Action σ))
      (before after : List Event) (number : Nat) (id : PackageId),
      new world config = .ok start →
      start.history host power actions = before ++ ⟨number, .inferred id true⟩ :: after →
      Loaded before number id := by
  intro h
  have hhistory : unused.history readyHost plugged reopenedRun =
      reopenedPast ++ ⟨1, .inferred ⟨0⟩ true⟩ :: [] := by decide +kernel
  obtain ⟨token, hloaded⟩ := h Unit readyHost plugged () {} unused reopenedRun reopenedPast [] 1
    ⟨0⟩ rfl hhistory
  simp [reopenedPast, firstPast] at hloaded

end Accelerator

end TensorLink

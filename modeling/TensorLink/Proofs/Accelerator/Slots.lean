import Mathlib.Data.List.Induction
import Mathlib.Data.List.ReduceOption
import TensorLink.Proofs.Accelerator.Freshness
import TensorLink.Proofs.Sequencing

/-!
# What is in the slots

Slots are emptied before parameters are loaded, and a package is put into a slot only when they have
been loaded. So a load that fails may leave the slots empty, but it never leaves a package in a slot
whose parameters have not been loaded.

At every moment the slots hold, one after the other, exactly the packages whose parameters have been
loaded since slots were emptied last. An emptying is noted if slots were in use; emptying slots that
are empty already takes nothing out of them.

Results:
* `Orderly.load`: what loading parameters makes of the slots.
* `slotted_of_ran`, `slotted_of_effect`: what a run of a package and an action make of the slots.
* `unfinished_of_error`, `residency_of_unfinished`: a load that fails does not come to its end, and
  puts nothing into a slot.
* `slots_of_history`: what is in the slots, over every course of actions.
-/

namespace TensorLink

namespace Residency

/-! ## Slots -/

/-- The slots are filled from the first on, with different packages. -/
structure Orderly (residency : Residency) : Prop where
  ordered : residency.first = none → residency.second = none
  distinct : ∀ id, residency.first = some id → residency.second ≠ some id

/-- The packages in the slots. -/
def packages (residency : Residency) : List PackageId := residency.slots.reduceOption

theorem contains_iff_mem (residency : Residency) (id : PackageId) :
    residency.contains id = true ↔ id ∈ residency.packages := by
  rw [packages, List.reduceOption_mem_iff]
  simp [contains, slots, @eq_comm _ (some id)]

theorem orderly_evict (residency : Residency) : residency.evict.Orderly :=
  ⟨fun _ => rfl, nofun⟩

section

variable {residency room : Residency} {id : PackageId} {token : UInt64} {slot : Slot}

/-- Making room leaves the slots in order. -/
theorem Orderly.of_plan (orderly : residency.Orderly)
    (hplan : residency.plan id token = some (slot, room)) : room.Orderly := by
  rcases plan_cases hplan with ⟨-, rfl⟩ | ⟨-, -, rfl, -⟩
  · exact orderly_evict residency
  · exact orderly

/-- Loading parameters fills the next slot, with a package that is in none. -/
theorem Orderly.load (orderly : residency.Orderly)
    (hplan : residency.plan id token = some (slot, room)) :
    (room.load slot id token).Orderly ∧
      (room.load slot id token).packages = room.packages ++ [id] := by
  rcases plan_cases hplan with
    ⟨rfl, rfl⟩ | ⟨-, hcontains, rfl, ⟨rfl, hfirst⟩ | ⟨rfl, hfirst, hsecond⟩⟩
  · exact ⟨⟨nofun, nofun⟩, rfl⟩
  · have hsecond := orderly.ordered hfirst
    obtain ⟨current, first, second⟩ := room
    cases hfirst
    cases hsecond
    exact ⟨⟨nofun, nofun⟩, rfl⟩
  · obtain ⟨current, first, second⟩ := room
    cases hsecond
    obtain ⟨other, rfl⟩ := Option.ne_none_iff_exists'.mp hfirst
    refine ⟨⟨nofun, fun id' hid hid' => ?_⟩, rfl⟩
    cases hid
    cases hid'
    simp [contains] at hcontains

end

end Residency

namespace Accelerator

/-! ## What has been loaded -/

/-- What a happening makes of the packages that have been loaded since slots were emptied last. -/
def noteLoad (ids : List PackageId) : Happening → List PackageId
  | .evicted => []
  | .loaded id _ => ids ++ [id]
  | .opened _ | .loading _ _ | .inferred _ _ => ids

/-- The packages whose parameters have been loaded since slots were emptied last, in order. -/
def loadedSince (past : List Event) : List PackageId :=
  (past.map Event.happening).foldl noteLoad []

theorem loadedSince_append (past : List Event) (number : Nat) (happenings : List Happening) :
    loadedSince (past ++ happenings.map (⟨number, ·⟩)) =
      happenings.foldl noteLoad (loadedSince past) := by
  unfold loadedSince
  rw [List.map_append, List.foldl_append, List.map_map]
  exact congrArg (List.foldl noteLoad _) (List.map_id happenings)

/-- What has been loaded since slots were emptied last, has been loaded, and no slots have been
    emptied since. -/
theorem exists_loaded_of_mem {past : List Event} {id : PackageId} (h : id ∈ loadedSince past) :
    ∃ earlier number token later, past = earlier ++ ⟨number, .loaded id token⟩ :: later ∧
      ∀ event ∈ later, event.happening ≠ .evicted := by
  induction past using List.reverseRec with
  | nil => cases h
  | append_singleton past event ih =>
    obtain ⟨number, happening⟩ := event
    rw [show past ++ [⟨number, happening⟩] = past ++ [happening].map (⟨number, ·⟩) from rfl,
      loadedSince_append, List.foldl_cons, List.foldl_nil] at h
    -- What was loaded before stays the last load, as long as the slots are not emptied now.
    have hbefore : id ∈ loadedSince past → happening ≠ .evicted →
        ∃ earlier number' token later, past ++ [⟨number, happening⟩] =
            earlier ++ ⟨number', .loaded id token⟩ :: later ∧
          ∀ event ∈ later, event.happening ≠ .evicted := by
      intro hpast hhappening
      obtain ⟨earlier, number', token, later, rfl, hlater⟩ := ih hpast
      refine ⟨earlier, number', token, later ++ [⟨number, happening⟩], by simp, ?_⟩
      intro event hevent
      rcases List.mem_append.mp hevent with hevent | hevent
      · exact hlater event hevent
      · rw [List.mem_singleton.mp hevent]
        exact hhappening
    cases happening with
    | evicted => cases h
    | loaded other token =>
      rcases List.mem_append.mp h with hpast | hnew
      · exact hbefore hpast (by simp)
      · rw [List.mem_singleton.mp hnew]
        exact ⟨past, number, token, [], rfl, fun _ hevent => absurd hevent List.not_mem_nil⟩
    | _ => exact hbefore h (by simp)

/-! ## What actions make of the slots -/

/-- The slots are in order, and hold what has been loaded since they were emptied last. -/
structure Slotted (past : List Event) (residency : Residency) : Prop where
  orderly : residency.Orderly
  packages_eq : residency.packages = loadedSince past

/-- Making room takes out of the slots what the note of it says. -/
theorem foldl_evictions {residency room : Residency} {id : PackageId} {token : UInt64} {slot : Slot}
    (hplan : residency.plan id token = some (slot, room)) :
    (Registry.evictions residency room).foldl noteLoad residency.packages = room.packages := by
  unfold Registry.evictions
  split
  · rename_i hsame
    rw [hsame]
    rfl
  · rename_i hother
    rcases (Residency.plan_eq_some hplan).1 with ⟨hsame, -⟩ | rfl
    · exact absurd hsame hother
    · rfl

section Ran

variable {past : List Event} {registry : Registry} {id : PackageId}
  {happenings : List Happening} {residency : Residency}

/-- **Run of a package.** Whatever comes of it, the slots hold what has been loaded. -/
theorem slotted_of_ran (slotted : Slotted past registry.residency)
    (run : registry.Ran id happenings residency) (number : Nat) :
    Slotted (past ++ happenings.map (⟨number, ·⟩)) residency := by
  obtain ⟨orderly, hpackages⟩ := slotted
  -- What is noted of a run, from what was in the slots before it.
  suffices hrun : residency.Orderly ∧
      residency.packages = happenings.foldl noteLoad registry.residency.packages by
    refine ⟨hrun.1, ?_⟩
    rw [loadedSince_append, ← hpackages]
    exact hrun.2
  cases run with
  | unknown => exact ⟨orderly, rfl⟩
  | plain => exact ⟨⟨orderly.ordered, orderly.distinct⟩, rfl⟩
  | resident => exact ⟨orderly, rfl⟩
  | refused hpackage hcaching hplan =>
    refine ⟨orderly.of_plan hplan, ?_⟩
    rw [List.foldl_append, foldl_evictions hplan]
    rfl
  | loaded hpackage hcaching hplan =>
    obtain ⟨horderly, hloaded⟩ := orderly.load hplan
    refine ⟨horderly, ?_⟩
    rw [List.foldl_append, foldl_evictions hplan, hloaded]
    rfl

/-- A load that does not come to its end leaves the token as it was, and the slots as they were or
    empty, without the package. -/
theorem residency_of_unfinished {other : PackageId} {token : UInt64}
    (run : registry.Ran id happenings residency) (hloading : .loading other token ∈ happenings)
    (hunfinished : .loaded other token ∉ happenings) :
    residency.contains other = false ∧ residency.token = registry.residency.token ∧
      (residency = registry.residency ∨ residency = registry.residency.evict) := by
  have hevictions : ∀ room, .loading other token ∉ Registry.evictions registry.residency room := by
    intro room
    unfold Registry.evictions
    split <;> simp
  cases run with
  | unknown => cases hloading
  | plain => simp at hloading
  | resident => simp at hloading
  | refused hpackage hcaching hplan =>
    obtain ⟨rfl, -⟩ : other = id ∧ _ := by simpa [hevictions] using hloading
    rcases (Residency.plan_eq_some hplan).1 with ⟨rfl, habsent⟩ | rfl
    · exact ⟨habsent, rfl, .inl rfl⟩
    · exact ⟨rfl, rfl, .inr rfl⟩
  | loaded hpackage hcaching hplan =>
    obtain ⟨rfl, rfl⟩ : other = id ∧ _ := by simpa [hevictions] using hloading
    simp at hunfinished

end Ran

/-- A run of a package has begun to load its parameters and has not come to the end of it. -/
def Unfinished (events : List Event) (id : PackageId) : Prop :=
  ∃ number token, ⟨number, .loading id token⟩ ∈ events ∧ ⟨number, .loaded id token⟩ ∉ events

/-- A run of a package whose parameters have to be loaded, and do not load. -/
theorem unfinished_of_error {σ : Type} (host : Host Waiter σ) (power : PowerSwitch σ)
    {accelerator : Accelerator σ} {context : DeviceContext} {id : PackageId}
    {package : RegisteredPackage} {caching : Session} {slot : Slot} {room : Residency}
    {input : Bytes} {error : DriverError} (hdevice : accelerator.device = some context)
    (hpackage : accelerator.registry.find? id = some package)
    (hcaching : package.caching = some caching)
    (hplan : accelerator.registry.residency.plan id caching.executable.cachingToken =
      some (slot, room))
    (hfailed : (caching.invoke (Link.stream (carrier host context.handle) accelerator.config) input
      [] (context.link.onto accelerator.world)).outcome = .error error) (outputs : List Bytes) :
    Unfinished (accelerator.events host power (.invoke id input outputs)) id := by
  have hevents : accelerator.events host power (.invoke id input outputs) =
      (Registry.evictions accelerator.registry.residency room ++
        [Happening.loading id caching.executable.cachingToken]).map (⟨context.number, ·⟩) := by
    simp only [events, hdevice, Registry.invokeNoted, hpackage, hcaching, hplan,
      Registry.loadAndInferNoted, hfailed]
  refine ⟨context.number, caching.executable.cachingToken, ?_, ?_⟩
  · rw [hevents]
    simp
  · rw [hevents]
    simp [loaded_notMem_evictions]

/-- An action in the course of which a load does not come to its end. -/
theorem residency_of_effect {events : List Event} {before after : Standing} {id : PackageId}
    (effect : Effect before events after) (h : Unfinished events id) :
    after.residency.contains id = false ∧ after.residency.token = before.residency.token ∧
      (after.residency = before.residency ∨ after.residency = before.residency.evict) := by
  obtain ⟨number, token, hloading, hunfinished⟩ := h
  cases effect with
  | unseen => cases hloading
  | closed => cases hloading
  | opened => simp at hloading
  | ran current contexts run =>
    obtain ⟨happening, hmem, hevent⟩ := List.mem_map.mp hloading
    cases hevent
    exact residency_of_unfinished run hmem fun h => hunfinished (List.mem_map_of_mem h)

/-- **Action.** Whatever a user does, the slots hold what has been loaded. -/
theorem slotted_of_effect {past events : List Event} {before after : Standing}
    (slotted : Slotted past before.residency) (effect : Effect before events after) :
    Slotted (past ++ events) after.residency := by
  cases effect with
  | unseen => rwa [List.append_nil]
  | closed => rwa [List.append_nil]
  | opened contexts residency =>
    refine ⟨slotted.orderly, slotted.packages_eq.trans ?_⟩
    exact (loadedSince_append past contexts [.opened residency]).symm
  | ran number contexts run => exact slotted_of_ran slotted run number

section

variable {σ : Type} (host : Host Waiter σ) (power : PowerSwitch σ)

/-- **Course.** Over every course of actions the slots hold what has been loaded. -/
theorem slotted_after {past : List Event} {accelerator : Accelerator σ}
    (slotted : Slotted past accelerator.registry.residency) (actions : List (Action σ)) :
    Slotted (past ++ accelerator.history host power actions)
      (accelerator.after host power actions).registry.residency := by
  induction actions generalizing past accelerator with
  | nil =>
    rw [history, List.append_nil]
    exact slotted
  | cons action actions ih =>
    rw [history, ← List.append_assoc]
    exact ih (slotted_of_effect slotted (effect_perform host power accelerator action))

/-- A package has parameters to load, and they have been loaded since slots were emptied last. -/
def Resident (past : List Event) (registry : Registry) (id : PackageId) : Prop :=
  ∃ package caching, registry.find? id = some package ∧ package.caching = some caching ∧
    ∃ earlier number later,
      past = earlier ++ ⟨number, .loaded id caching.executable.cachingToken⟩ :: later ∧
        ∀ event ∈ later, event.happening ≠ .evicted

theorem resident_of_mem {past : List Event} {registry : Registry} {id : PackageId}
    (settled : Settled past registry) (h : id ∈ loadedSince past) : Resident past registry id := by
  obtain ⟨earlier, number, token, later, hpast, hlater⟩ := exists_loaded_of_mem h
  have htoken : registry.token? id = some token := settled number id token (by simp [hpast])
  obtain ⟨package, hpackage, hcached⟩ := Option.bind_eq_some_iff.mp htoken
  obtain ⟨caching, hcaching, rfl⟩ := Option.map_eq_some_iff.mp hcached
  exact ⟨package, caching, hpackage, hcaching, earlier, number, later, hpast, hlater⟩

/-- **Runs.** At every moment the slots hold what has been loaded. -/
theorem resident_after {start : Accelerator σ} (hdevice : start.device = none)
    (hempty : start.registry.residency = {}) (actions : List (Action σ)) :
    let accelerator := start.after host power actions
    let past := start.history host power actions
    Slotted past accelerator.registry.residency ∧
      ∀ id, accelerator.registry.residency.contains id = true →
        Resident past accelerator.registry id := by
  intro accelerator past
  have hstart : Slotted [] start.registry.residency := by
    rw [hempty]
    exact ⟨⟨fun _ => rfl, nofun⟩, rfl⟩
  have hslotted := slotted_after host power hstart actions
  have hsettled := (known_after host power (known_of_closed hdevice) actions).settled
  rw [List.nil_append] at hslotted hsettled
  refine ⟨hslotted, fun id hcontains => resident_of_mem hsettled ?_⟩
  rw [← hslotted.packages_eq]
  exact (Residency.contains_iff_mem _ id).mp hcontains

/-! ## Main theorem -/

/-- **Slots.** Whatever users do with an accelerator, in any order, and whatever the world around it
    does, be it that any transfer fails: the two slots never hold the same package, the second is
    filled only if the first is, and together they hold exactly the packages whose parameters have
    been loaded to the end since slots were emptied last, in this order. Each of these is registered
    and has parameters to load. An action in the course of which the load of a package does not come
    to its end leaves the package in no slot and the token as it was. -/
theorem slots_of_history {world : σ} {config : DriverConfig} {start : Accelerator σ}
    (hnew : new world config = .ok start) (actions : List (Action σ)) :
    let accelerator := start.after host power actions
    let past := start.history host power actions
    let residency := accelerator.registry.residency
    (∀ id, residency.first = some id → residency.second ≠ some id) ∧
      (residency.second.isSome → residency.first.isSome) ∧
      residency.slots.reduceOption = loadedSince past ∧
      (∀ id, residency.contains id = true → Resident past accelerator.registry id) ∧
      ∀ action id, Unfinished (accelerator.events host power action) id →
        let residency' := (accelerator.perform host power action).registry.residency
        residency'.contains id = false ∧ residency'.token = residency.token ∧
          (residency' = residency ∨ residency' = residency.evict) := by
  intro accelerator past residency
  have hstart : start.device = none ∧ start.registry.residency = {} := by
    obtain ⟨_, -, hmade⟩ := Sequencing.bind_ok_iff.mp hnew
    cases hmade
    exact ⟨rfl, rfl⟩
  obtain ⟨⟨⟨hordered, hdistinct⟩, hpackages⟩, hresident⟩ :=
    resident_after host power hstart.1 hstart.2 actions
  refine ⟨hdistinct, fun hsecond => ?_, hpackages, hresident, fun action id h => ?_⟩
  · rw [Option.isSome_iff_ne_none] at hsecond ⊢
    exact fun hfirst => hsecond (hordered hfirst)
  · exact residency_of_effect (effect_perform host power accelerator action) h

end

/-- A host with a chip that is always ready, and that takes bulk data until it is broken. -/
def fragileHost : Host Waiter Bool where
  openClass _ := pure ⟨0⟩
  closeClass _ := id
  resetBus := pure ()
  requestReenumeration := pure ()
  transport _ :=
    { openPipe := fun _ => pure ()
      control := fun _ setup _ broken =>
        (.completed (.ok (Bytes.littleEndian 8 (readyRegister (RegisterRequest.offset setup)))),
          broken)
      bulkOut := fun _ _ data broken =>
        (if broken then .refused (.transferFailed "lost") else .completed (.ok data.length), broken)
      bulkIn := fun _ _ size broken => (.completed (.ok (Bytes.zeros size)), broken) }

/-- Three packages are registered, and two of them are run before the host breaks. -/
def brokenRun : List (Action Bool) :=
  [.register ⟨0⟩ octetPackage, .register ⟨1⟩ octetPackage, .register ⟨2⟩ octetPackage,
    .openDevice .max, .invoke ⟨0⟩ [] [], .invoke ⟨1⟩ [] [], .change fun _ => true]

/-- Both slots are filled. Loading the parameters of the third package takes the others out of them,
    and as it fails, nothing is put there instead. -/
theorem slots_brokenRun :
    let start : Accelerator Bool := { config := {}, attach := { world := { world := false } } }
    let power : PowerSwitch Bool := .plug Bool Interface.application
    let accelerator := start.after fragileHost power brokenRun
    let third : Action Bool := .invoke ⟨2⟩ [] []
    new false {} = .ok start ∧
      accelerator.registry.residency = { token := 7, first := some ⟨0⟩, second := some ⟨1⟩ } ∧
      Resident (start.history fragileHost power brokenRun) accelerator.registry ⟨1⟩ ∧
      Unfinished (accelerator.events fragileHost power third) ⟨2⟩ ∧
      (accelerator.perform fragileHost power third).registry.residency.contains ⟨2⟩ = false ∧
      (accelerator.perform fragileHost power third).registry.residency = { token := 7 } := by
  intro start power accelerator third
  have hnew : new false {} = .ok start := by rfl
  obtain ⟨-, -, -, hresident, hunfinished⟩ :=
    slots_of_history fragileHost power hnew brokenRun
  rw [show start.after fragileHost power brokenRun = accelerator from rfl] at hunfinished
  have hfilled : accelerator.registry.residency =
      { token := 7, first := some ⟨0⟩, second := some ⟨1⟩ } := by decide +kernel
  have hfailed : Unfinished (accelerator.events fragileHost power third) ⟨2⟩ :=
    ⟨0, 7, by decide +kernel, by decide +kernel⟩
  obtain ⟨habsent, -, -⟩ := hunfinished third ⟨2⟩ hfailed
  have hcontains : accelerator.registry.residency.contains ⟨1⟩ = true := by
    rw [hfilled]
    rfl
  exact ⟨hnew, hfilled, hresident ⟨1⟩ hcontains, hfailed, habsent, by decide +kernel⟩

end Accelerator

end TensorLink

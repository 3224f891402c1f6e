import TensorLink.Proofs.Accelerator.History

/-!
# Registered packages in the course of a history

A package that has been registered stays registered, and the token of its parameters never changes:
running an executable changes nothing of it but the scratches of its outputs. A history is cut into
the actions that bring it about, each of them performed on the accelerator that those before it lead
to.

Results:
* `find?_update`: putting a package in the place of another.
* `token?_perform`: whatever a user does, the token of a registered package stays the same.
* `exists_action_of_history`: everything that happens, happens in the course of one action.
* `ran_of_mem_events`: only a run of a package brings about anything but an opening.
* `settled_perform`: parameters are loaded under the token that their package keeps.
-/

namespace TensorLink

namespace Session

variable {σ : Type}

theorem executable_invoke (stream : DataStream σ) (session : Session) (input : Bytes)
    (outputs : List Bytes) (state : σ) :
    (session.invoke stream input outputs state).session.executable = session.executable := by
  unfold invoke
  dsimp only
  split
  · rfl
  · split <;> rfl

end Session

namespace Registry

variable {σ : Type} {registry : Registry}

/-- The token of the parameters that a registered package caches. -/
def token? (registry : Registry) (id : PackageId) : Option UInt64 :=
  (registry.find? id).bind fun package => package.caching.map (·.executable.cachingToken)

theorem token?_of_caching {id : PackageId} {package : RegisteredPackage} {caching : Session}
    (hpackage : registry.find? id = some package) (hcaching : package.caching = some caching) :
    registry.token? id = some caching.executable.cachingToken := by
  rw [token?, hpackage, Option.bind_some, hcaching, Option.map_some]

/-- A package put in the place of a registered one is found there, and the others as before. -/
theorem find?_update (id : PackageId) (package : RegisteredPackage) (other : PackageId) :
    (registry.update id package).find? other =
      if other = id then (registry.find? id).map fun _ => package else registry.find? other := by
  unfold find? update
  have hkey : ((fun entry : PackageId × RegisteredPackage => decide (entry.1 = other)) ∘
      fun entry => if entry.1 = id then (id, package) else entry) =
        fun entry => decide (entry.1 = other) := by
    funext entry
    by_cases h : entry.1 = id <;> simp [h]
  rw [List.find?_map, hkey, Option.map_map]
  by_cases hid : other = id
  · subst hid
    rw [if_pos rfl, Option.map_map]
    cases hfind : registry.packages.find? (·.1 = other) with
    | none => rfl
    | some entry =>
      have hentry : entry.1 = other := by simpa using List.find?_some hfind
      simp [hentry]
  · rw [if_neg hid]
    cases hfind : registry.packages.find? (·.1 = other) with
    | none => rfl
    | some entry =>
      have hentry : entry.1 = other := by simpa using List.find?_some hfind
      simp [hentry, hid]

/-- A package put in the place of one with the same token. -/
theorem token?_update {id : PackageId} {package : RegisteredPackage}
    (htoken : registry.token? id = package.caching.map (·.executable.cachingToken))
    (other : PackageId) : (registry.update id package).token? other = registry.token? other := by
  rw [token?, find?_update]
  by_cases hid : other = id
  · subst hid
    rw [if_pos rfl]
    cases hfind : registry.find? other with
    | none => rw [token?, hfind, Option.map_none, Option.bind_none]
    | some old => rw [htoken, Option.map_some, Option.bind_some]
  · rw [if_neg hid, token?]

theorem token?_infer (stream : DataStream σ) {id : PackageId} {package : RegisteredPackage}
    (input : Bytes) (outputs : List Bytes) (state : σ)
    (htoken : registry.token? id = package.caching.map (·.executable.cachingToken))
    (other : PackageId) :
    (infer stream registry id package input outputs state).registry.token? other =
      registry.token? other := by
  let inferred : RegisteredPackage :=
    { package with inference := (package.inference.invoke stream input outputs state).session }
  have htoken : registry.token? id = inferred.caching.map (·.executable.cachingToken) := htoken
  exact token?_update htoken other

theorem token?_loadAndInfer (stream : DataStream σ) {id : PackageId} {package : RegisteredPackage}
    {caching : Session} (slot : Slot) (input : Bytes) (outputs : List Bytes) (state : σ)
    (htoken : registry.token? id = some caching.executable.cachingToken) (other : PackageId) :
    (loadAndInfer stream registry id package caching slot input outputs state).registry.token?
      other = registry.token? other := by
  have hloaded : registry.token? id = (some (caching.invoke stream input [] state).session).map
      (·.executable.cachingToken) := by
    rw [htoken, Option.map_some, Session.executable_invoke]
  unfold loadAndInfer
  dsimp only
  split
  · exact token?_update hloaded other
  · rw [token?_infer]
    · exact token?_update hloaded other
    · exact (token?_update hloaded id).trans hloaded

/-- Running a package changes no token. -/
theorem token?_invoke (stream : DataStream σ) (registry : Registry) (id : PackageId)
    (input : Bytes) (outputs : List Bytes) (state : σ) (other : PackageId) :
    (registry.invoke stream id input outputs state).registry.token? other =
      registry.token? other := by
  unfold invoke
  cases hpackage : registry.find? id with
  | none => rfl
  | some package =>
    have htoken : registry.token? id = package.caching.map (·.executable.cachingToken) := by
      rw [token?, hpackage, Option.bind_some]
    dsimp only
    cases hcaching : package.caching with
    | none => exact token?_infer stream input outputs state htoken other
    | some caching =>
      have hcached := token?_of_caching hpackage hcaching
      dsimp only
      cases hplan : registry.residency.plan id caching.executable.cachingToken with
      | none => exact token?_infer stream input outputs state htoken other
      | some planned =>
        obtain ⟨slot, room⟩ := planned
        have hroom : ({ registry with residency := room } : Registry).token? id =
            some caching.executable.cachingToken := hcached
        exact token?_loadAndInfer stream slot input outputs state hroom other

/-- Registering a package leaves those that are registered as they are. -/
theorem find?_register {registered : Registry} {id other : PackageId} {buffer : Bytes}
    {package : RegisteredPackage} (hregister : registry.register id buffer = .ok registered)
    (hother : registry.find? other = some package) :
    registered.find? other = some package := by
  unfold register at hregister
  split at hregister
  · cases hregister
    exact hother
  · cases hdecode : Session.ofModel (Package.decode buffer) with
    | error error => simp [hdecode, bind, Except.bind] at hregister
    | ok decoded =>
      cases hready : Session.ofModel (RegisteredPackage.ofPackage decoded) with
      | error error => simp [hdecode, hready, bind, Except.bind] at hregister
      | ok ready =>
        simp only [hdecode, hready, bind, Except.bind, pure, Except.pure,
          Except.ok.injEq] at hregister
        rw [← hregister]
        unfold find? at hother ⊢
        obtain ⟨entry, hentry, hpackage⟩ := Option.map_eq_some_iff.mp hother
        rw [List.find?_append, hentry, Option.some_or, Option.map_some, hpackage]

end Registry

namespace Accelerator

variable {σ : Type} (host : Host Waiter σ) (power : PowerSwitch σ)

/-! ## What actions do to the registry -/

theorem token?_register {accelerator registered : Accelerator σ} {id other : PackageId}
    {buffer : Bytes} {token : UInt64} (htoken : accelerator.registry.token? id = some token)
    (hregister : accelerator.register other buffer = .ok registered) :
    registered.registry.token? id = some token := by
  unfold register at hregister
  cases hregistry : accelerator.registry.register other buffer with
  | error error => simp [hregistry, bind, Except.bind] at hregister
  | ok registry =>
    simp only [hregistry, bind, Except.bind, pure, Except.pure, Except.ok.injEq] at hregister
    obtain ⟨package, hpackage, hcaching⟩ := Option.bind_eq_some_iff.mp htoken
    rw [← hregister, Registry.token?, Registry.find?_register hregistry hpackage,
      Option.bind_some, hcaching]

theorem registry_approach (count : Nat) (accelerator : Accelerator σ) :
    (approach host count accelerator).registry = accelerator.registry := by
  induction count generalizing accelerator with
  | zero => rfl
  | succ count ih =>
    rw [approach]
    split
    · rfl
    · rw [ih]
      rfl

theorem registry_connect (mode : PerformanceMode) (accelerator : Accelerator σ) :
    (accelerator.connect host mode).2.registry = accelerator.registry := by
  have happroach := registry_approach host (2 * accelerator.attach.inbox.length) accelerator
  unfold connect
  dsimp only
  split
  · exact happroach
  · rw [← happroach]
    unfold bringUp
    dsimp only
    split <;> rfl

theorem registry_openDevice (mode : PerformanceMode) (accelerator : Accelerator σ) :
    (accelerator.openDevice host power mode).2.registry = accelerator.registry := by
  unfold openDevice
  split
  · rfl
  · have hpower : (accelerator.setPower power true).2.registry = accelerator.registry := rfl
    split
    · next hfailed => rw [← hpower, hfailed]
    · next powered hpowered =>
      rw [← hpower, hpowered, ← registry_connect host mode powered]
      split
      · next hconnected => rw [hconnected]
      · next connected hconnected =>
        rw [hconnected]
        rfl

theorem registry_closeDevice (number : Nat) (accelerator : Accelerator σ) :
    (accelerator.closeDevice power number).registry = accelerator.registry := by
  unfold closeDevice
  split
  · rfl
  · split
    · rfl
    · split <;> rfl

theorem registry_onDevice {α : Type} (operation : DeviceContext → DeviceM (Link σ) α)
    (accelerator : Accelerator σ) :
    (accelerator.onDevice operation).2.registry = accelerator.registry := by
  unfold onDevice
  split <;> rfl

theorem registry_temperature (accelerator : Accelerator σ) :
    (accelerator.temperature host).2.registry = accelerator.registry := by
  unfold temperature
  split <;> rfl

theorem registry_deliver (waiter : Waiter) (completion : Completion)
    (accelerator : Accelerator σ) :
    (accelerator.deliver waiter completion).registry = accelerator.registry := by
  unfold deliver
  split <;> rfl

/-- **Tokens.** Whatever a user does, the token of a registered package stays the same. -/
theorem token?_perform {accelerator : Accelerator σ} {id : PackageId} {token : UInt64}
    (htoken : accelerator.registry.token? id = some token) (action : Action σ) :
    (accelerator.perform host power action).registry.token? id = some token := by
  have unchanged {after : Accelerator σ} (hafter : after.registry = accelerator.registry) :
      after.registry.token? id = some token := by
    rw [hafter, htoken]
  cases action with
  | register other buffer =>
    cases hregister : accelerator.register other buffer with
    | error error =>
      simp only [perform, hregister]
      exact htoken
    | ok registered =>
      simp only [perform, hregister]
      exact token?_register htoken hregister
  | openDevice mode => exact unchanged (registry_openDevice host power mode accelerator)
  | closeDevice number => exact unchanged (registry_closeDevice power number accelerator)
  | invoke other input outputs =>
    unfold perform invoke
    cases accelerator.device with
    | none => exact htoken
    | some context => exact (Registry.token?_invoke ..).trans htoken
  | temperature => exact unchanged (registry_temperature host accelerator)
  | operate operation => exact unchanged (registry_onDevice operation accelerator)
  | setPower enable => exact htoken
  | post event => exact htoken
  | step => exact htoken
  | settle => exact htoken
  | deliver waiter completion => exact unchanged (registry_deliver waiter completion accelerator)
  | change world => exact htoken

/-! ## Cutting a history -/

/-- The accelerator after a course of actions. -/
def after (accelerator : Accelerator σ) (actions : List (Action σ)) : Accelerator σ :=
  actions.foldl (perform host power) accelerator

/-- Everything that happens, happens in the course of one action. -/
theorem exists_action_of_history {accelerator : Accelerator σ} {actions : List (Action σ)}
    {before rest : List Event} {event : Event}
    (hhistory : accelerator.history host power actions = before ++ event :: rest) :
    ∃ front action back earlier later, actions = front ++ action :: back ∧
      before = accelerator.history host power front ++ earlier ∧
      (accelerator.after host power front).events host power action =
        earlier ++ event :: later := by
  induction actions generalizing accelerator before with
  | nil => simp [history] at hhistory
  | cons action actions ih =>
    rw [history] at hhistory
    obtain ⟨mid, rfl, hmid⟩ | ⟨mid, hevents, hmid⟩ := List.append_eq_append_iff.mp hhistory
    · obtain ⟨front, action', back, earlier, later, rfl, rfl, hevents⟩ := ih hmid
      refine ⟨action :: front, action', back, earlier, later, rfl, ?_, hevents⟩
      rw [history, List.append_assoc]
    · obtain ⟨rfl, hrest⟩ | ⟨later, rfl, hrest⟩ := List.cons_eq_append_iff.mp hmid
      · obtain ⟨front, action', back, earlier, later, rfl, hbefore, hevents'⟩ :=
          ih (hrest.trans (List.nil_append _).symm)
        refine ⟨action :: front, action', back, earlier, later, rfl, ?_, hevents'⟩
        rw [history, List.append_assoc, ← hbefore, hevents, List.append_nil, List.append_nil]
      · exact ⟨[], action, actions, before, later, rfl, rfl, hevents⟩

/-- Only a run of a package on the device in use brings about anything but an opening. -/
theorem ran_of_mem_events {accelerator : Accelerator σ} {action : Action σ} {event : Event}
    (hevent : event ∈ accelerator.events host power action)
    (hopened : ∀ residency, event.happening ≠ .opened residency) :
    accelerator.standing.device = some event.context ∧
      ∃ id happenings residency, accelerator.registry.Ran id happenings residency ∧
        accelerator.events host power action = happenings.map (⟨event.context, ·⟩) := by
  cases action with
  | openDevice mode =>
    unfold events at hevent
    dsimp only at hevent
    split at hevent
    · exact absurd (congrArg Event.happening (List.mem_singleton.mp hevent)) (hopened _)
    · cases hevent
  | invoke id input outputs =>
    unfold events at hevent ⊢
    dsimp only at hevent ⊢
    cases hdevice : accelerator.device with
    | none => simp [hdevice] at hevent
    | some context =>
      rw [hdevice] at hevent
      obtain ⟨happening, -, rfl⟩ := List.mem_map.mp hevent
      refine ⟨?_, id, _, _, Registry.ran_invokeNoted .., rfl⟩
      rw [standing, hdevice, Option.map_some]
  | _ => cases hevent

theorem loaded_notMem_evictions (residency room : Residency) (id : PackageId) (token : UInt64) :
    .loaded id token ∉ Registry.evictions residency room := by
  unfold Registry.evictions
  split <;> simp

/-- Parameters are loaded under the token of their package. -/
theorem token?_of_ran {registry : Registry} {id other : PackageId} {happenings : List Happening}
    {residency : Residency} {token : UInt64} (run : registry.Ran id happenings residency)
    (hloaded : .loaded other token ∈ happenings) : registry.token? other = some token := by
  cases run with
  | unknown => cases hloaded
  | plain => simp at hloaded
  | resident => simp at hloaded
  | refused => simp [loaded_notMem_evictions] at hloaded
  | loaded hpackage hcaching =>
    simp [loaded_notMem_evictions] at hloaded
    rw [hloaded.1, hloaded.2]
    exact Registry.token?_of_caching hpackage hcaching

/-- Every load of parameters in the past was under the token that their package still has. -/
def Settled (past : List Event) (registry : Registry) : Prop :=
  ∀ number id token, ⟨number, .loaded id token⟩ ∈ past → registry.token? id = some token

theorem settled_perform {past : List Event} {accelerator : Accelerator σ}
    (settled : Settled past accelerator.registry) (action : Action σ) :
    Settled (past ++ accelerator.events host power action)
      (accelerator.perform host power action).registry := by
  intro number id token hloaded
  refine token?_perform host power ?_ action
  obtain hpast | hnew := List.mem_append.mp hloaded
  · exact settled number id token hpast
  · obtain ⟨-, other, happenings, residency, run, hevents⟩ :=
      ran_of_mem_events host power hnew (by simp)
    rw [hevents] at hnew
    exact token?_of_ran run (by simpa using hnew)

end Accelerator

end TensorLink

import TensorLink.Accelerator.Sharing

/-!
# The history of an accelerator

What happens to the parameters on a chip: a device is opened, slots are emptied, parameters are
loaded, and packages are run. Running a package is repeated here with a note of all this as it
happens; without the notes it is the same program. An accelerator's users may do anything in any
order, while the world around it changes as it likes; its history is what they bring about.

Results:
* `invokeNoted_fst`: noting what happens does not change how a package is run.
* `ran_invokeNoted`: what may happen in the course of a run, and which parameters are resident after
  it.
* `effect_perform`: what one action of a user may bring about, and how it changes the device in use
  and the resident parameters.
-/

namespace TensorLink

/-- What happens to the parameters on a chip. -/
inductive Happening where
  /-- The device is opened, while these parameters are taken to be resident. -/
  | opened (residency : Residency)
  /-- Slots that were in use are emptied. -/
  | evicted
  /-- The executable that loads the parameters of a package is about to run. -/
  | loading (id : PackageId) (token : UInt64)
  /-- It has run to its end. -/
  | loaded (id : PackageId) (token : UInt64)
  /-- The inference of a package is about to run; the package may have parameters to load. -/
  | inferred (id : PackageId) (caching : Bool)
  deriving DecidableEq, Repr

namespace Registry

variable {σ : Type}

/-! ## Runs with notes -/

/-- The note that slots have been emptied to make room, if they were in use. -/
def evictions (residency room : Residency) : List Happening :=
  if room = residency then [] else [.evicted]

/-- As `infer`. -/
def inferNoted (stream : DataStream σ) (registry : Registry) (id : PackageId)
    (package : RegisteredPackage) (input : Bytes) (outputs : List Bytes) (state : σ) :
    Performed σ × List Happening :=
  (infer stream registry id package input outputs state, [.inferred id package.caching.isSome])

/-- As `loadAndInfer`. -/
def loadAndInferNoted (stream : DataStream σ) (registry : Registry) (id : PackageId)
    (package : RegisteredPackage) (caching : Session) (slot : Slot) (input : Bytes)
    (outputs : List Bytes) (state : σ) : Performed σ × List Happening :=
  let token := caching.executable.cachingToken
  let loaded := caching.invoke stream input [] state
  let package := { package with caching := some loaded.session }
  let registry := registry.update id package
  match loaded.outcome with
  | .error error => (⟨.error error, registry, outputs, loaded.stream⟩, [.loading id token])
  | .ok _ =>
    let residency := registry.residency.load slot id token
    let (performed, noted) :=
      inferNoted stream { registry with residency } id package input outputs loaded.stream
    (performed, .loading id token :: .loaded id token :: noted)

/-- As `invoke`. -/
def invokeNoted (stream : DataStream σ) (registry : Registry) (id : PackageId) (input : Bytes)
    (outputs : List Bytes) (state : σ) : Performed σ × List Happening :=
  match registry.find? id with
  | none => (⟨.error (.unknownPackage id.number), registry, outputs, state⟩, [])
  | some package =>
    match package.caching with
    | none =>
      let residency := registry.residency.forgetToken
      inferNoted stream { registry with residency } id package input outputs state
    | some caching =>
      match registry.residency.plan id caching.executable.cachingToken with
      | none => inferNoted stream registry id package input outputs state
      | some (slot, residency) =>
        let (performed, noted) := loadAndInferNoted stream { registry with residency } id package
          caching slot input outputs state
        (performed, evictions registry.residency residency ++ noted)

theorem loadAndInferNoted_fst (stream : DataStream σ) (registry : Registry) (id : PackageId)
    (package : RegisteredPackage) (caching : Session) (slot : Slot) (input : Bytes)
    (outputs : List Bytes) (state : σ) :
    (loadAndInferNoted stream registry id package caching slot input outputs state).1 =
      loadAndInfer stream registry id package caching slot input outputs state := by
  unfold loadAndInferNoted loadAndInfer
  cases houtcome : (caching.invoke stream input [] state).outcome with
  | error error => simp only [houtcome]
  | ok record => simp only [houtcome, inferNoted]

/-- Noting what happens does not change how a package is run. -/
theorem invokeNoted_fst (stream : DataStream σ) (registry : Registry) (id : PackageId)
    (input : Bytes) (outputs : List Bytes) (state : σ) :
    (registry.invokeNoted stream id input outputs state).1 =
      registry.invoke stream id input outputs state := by
  unfold invokeNoted invoke
  cases hpackage : registry.find? id with
  | none => rfl
  | some package =>
    dsimp only
    cases hcaching : package.caching with
    | none => rfl
    | some caching =>
      dsimp only
      cases hplan : registry.residency.plan id caching.executable.cachingToken with
      | none => rfl
      | some planned => exact loadAndInferNoted_fst ..

/-- What happens in the course of a run of a package, and the resident parameters after it. -/
inductive Ran (registry : Registry) (id : PackageId) : List Happening → Residency → Prop where
  | unknown (hpackage : registry.find? id = none) : Ran registry id [] registry.residency
  | plain {package : RegisteredPackage} (hpackage : registry.find? id = some package)
      (hcaching : package.caching = none) :
    Ran registry id [.inferred id false] registry.residency.forgetToken
  | resident {package : RegisteredPackage} {caching : Session}
      (hpackage : registry.find? id = some package) (hcaching : package.caching = some caching)
      (hplan : registry.residency.plan id caching.executable.cachingToken = none) :
    Ran registry id [.inferred id true] registry.residency
  | refused {package : RegisteredPackage} {caching : Session} {slot : Slot} {room : Residency}
      (hpackage : registry.find? id = some package) (hcaching : package.caching = some caching)
      (hplan : registry.residency.plan id caching.executable.cachingToken = some (slot, room)) :
    Ran registry id
      (evictions registry.residency room ++ [.loading id caching.executable.cachingToken]) room
  | loaded {package : RegisteredPackage} {caching : Session} {slot : Slot} {room : Residency}
      (hpackage : registry.find? id = some package) (hcaching : package.caching = some caching)
      (hplan : registry.residency.plan id caching.executable.cachingToken = some (slot, room)) :
    Ran registry id
      (evictions registry.residency room ++ [.loading id caching.executable.cachingToken,
        .loaded id caching.executable.cachingToken, .inferred id true])
      (room.load slot id caching.executable.cachingToken)

theorem ran_invokeNoted (stream : DataStream σ) (registry : Registry) (id : PackageId)
    (input : Bytes) (outputs : List Bytes) (state : σ) :
    Ran registry id (registry.invokeNoted stream id input outputs state).2
      (registry.invoke stream id input outputs state).registry.residency := by
  rw [← invokeNoted_fst]
  unfold invokeNoted
  cases hpackage : registry.find? id with
  | none => exact .unknown hpackage
  | some package =>
    dsimp only
    cases hcaching : package.caching with
    | none =>
      have h := Ran.plain hpackage hcaching
      simp only [inferNoted, hcaching]
      exact h
    | some caching =>
      dsimp only
      cases hplan : registry.residency.plan id caching.executable.cachingToken with
      | none =>
        simp only [inferNoted, hcaching]
        exact .resident hpackage hcaching hplan
      | some planned =>
        obtain ⟨slot, room⟩ := planned
        dsimp only
        unfold loadAndInferNoted
        dsimp only
        split
        · exact .refused hpackage hcaching hplan
        · exact .loaded hpackage hcaching hplan

end Registry

namespace Accelerator

variable {σ : Type}

/-! ## Actions of users -/

/-- What users of an accelerator do, and the changes of the world around it. -/
inductive Action (σ : Type) where
  | register (id : PackageId) (buffer : Bytes)
  | openDevice (mode : PerformanceMode)
  | closeDevice (number : Nat)
  | invoke (id : PackageId) (input : Bytes) (outputs : List Bytes)
  | temperature
  /-- Anything else over the link of the device in use. -/
  | operate (operation : DeviceContext → DeviceM (Link σ) Unit)
  | setPower (enable : Bool)
  | post (event : HostEvent)
  | step
  | settle
  | deliver (waiter : Waiter) (completion : Completion)
  | change (world : σ → σ)

/-- Something that happens while a context is in use. -/
structure Event where
  /-- The number of the context. -/
  context : Nat
  happening : Happening
  deriving DecidableEq, Repr

section

variable (host : Host Waiter σ) (power : PowerSwitch σ)

/-- The accelerator after an action. -/
def perform (accelerator : Accelerator σ) : Action σ → Accelerator σ
  | .register id buffer =>
    match accelerator.register id buffer with
    | .error _ => accelerator
    | .ok registered => registered
  | .openDevice mode => (accelerator.openDevice host power mode).2
  | .closeDevice number => accelerator.closeDevice power number
  | .invoke id input outputs => (accelerator.invoke host id input outputs).accelerator
  | .temperature => (accelerator.temperature host).2
  | .operate operation => (accelerator.onDevice operation).2
  | .setPower enable => (accelerator.setPower power enable).2
  | .post event => (accelerator.post event).2
  | .step => accelerator.step host
  | .settle => accelerator.settle host
  | .deliver waiter completion => accelerator.deliver waiter completion
  | .change world => accelerator.setWorld (world accelerator.world)

/-- What an action brings about. -/
def events (accelerator : Accelerator σ) : Action σ → List Event
  | .openDevice mode =>
    match accelerator.device, (accelerator.openDevice host power mode).1 with
    | none, .ok context => [⟨context.number, .opened accelerator.registry.residency⟩]
    | _, _ => []
  | .invoke id input outputs =>
    match accelerator.device with
    | none => []
    | some context =>
      let stream := Link.stream (carrier host context.handle) accelerator.config
      let link := context.link.onto accelerator.world
      (accelerator.registry.invokeNoted stream id input outputs link).2.map (⟨context.number, ·⟩)
  | _ => []

/-- What a course of actions brings about. -/
def history : Accelerator σ → List (Action σ) → List Event
  | _, [] => []
  | accelerator, action :: actions =>
    accelerator.events host power action ++ history (accelerator.perform host power action) actions

end

/-! ## What an action may bring about -/

/-- The part of an accelerator that its history depends on. -/
structure Standing where
  /-- The number of the context in use. -/
  device : Option Nat
  contexts : Nat
  residency : Residency

/-- The standing of an accelerator. -/
def standing (accelerator : Accelerator σ) : Standing :=
  ⟨accelerator.device.map (·.number), accelerator.contexts, accelerator.registry.residency⟩

/-- What an action may bring about, between two standings. -/
inductive Effect : Standing → List Event → Standing → Prop where
  | unseen (standing : Standing) : Effect standing [] standing
  | opened (contexts : Nat) (residency : Residency) :
    Effect ⟨none, contexts, residency⟩ [⟨contexts, .opened residency⟩]
      ⟨some contexts, contexts + 1, residency⟩
  | closed (device : Option Nat) (contexts : Nat) (residency : Residency) :
    Effect ⟨device, contexts, residency⟩ [] ⟨none, contexts, residency⟩
  | ran {registry : Registry} {id : PackageId} {happenings : List Happening}
      {residency : Residency} (number contexts : Nat)
      (run : registry.Ran id happenings residency) :
    Effect ⟨some number, contexts, registry.residency⟩ (happenings.map (⟨number, ·⟩))
      ⟨some number, contexts, residency⟩

section

variable (host : Host Waiter σ) (power : PowerSwitch σ)

theorem standing_setWorld (world : σ) (accelerator : Accelerator σ) :
    (accelerator.setWorld world).standing = accelerator.standing := rfl

theorem standing_setPower (enable : Bool) (accelerator : Accelerator σ) :
    (accelerator.setPower power enable).2.standing = accelerator.standing := rfl

theorem standing_post (event : HostEvent) (accelerator : Accelerator σ) :
    (accelerator.post event).2.standing = accelerator.standing := rfl

theorem standing_step (accelerator : Accelerator σ) :
    (accelerator.step host).standing = accelerator.standing := rfl

theorem standing_settle (accelerator : Accelerator σ) :
    (accelerator.settle host).standing = accelerator.standing := rfl

theorem standing_approach (count : Nat) (accelerator : Accelerator σ) :
    (approach host count accelerator).standing = accelerator.standing := by
  induction count generalizing accelerator with
  | zero => rfl
  | succ count ih =>
    rw [approach]
    split
    · rfl
    · rw [ih, standing_step]

theorem standing_deliver (waiter : Waiter) (completion : Completion)
    (accelerator : Accelerator σ) :
    (accelerator.deliver waiter completion).standing = accelerator.standing := by
  cases waiter with
  | attach request => cases completion <;> rfl
  | link ticket =>
    obtain ⟨config, attach, device, contexts, registry⟩ := accelerator
    cases device <;> rfl

theorem standing_overLink {α : Type} {accelerator : Accelerator σ} {context : DeviceContext}
    (operation : Link σ → α × Link σ) (hdevice : accelerator.device = some context) :
    (accelerator.overLink context operation).2.standing = accelerator.standing := by
  simp only [standing, hdevice]
  rfl

theorem standing_onDevice {α : Type} (operation : DeviceContext → DeviceM (Link σ) α)
    (accelerator : Accelerator σ) :
    (accelerator.onDevice operation).2.standing = accelerator.standing := by
  unfold onDevice
  cases hdevice : accelerator.device with
  | none => rfl
  | some context => exact standing_overLink _ hdevice

theorem standing_temperature (accelerator : Accelerator σ) :
    (accelerator.temperature host).2.standing = accelerator.standing := by
  unfold temperature
  cases hdevice : accelerator.device with
  | none => rfl
  | some context => exact standing_overLink _ hdevice

/-- Registering a package leaves the residency as it was. -/
theorem residency_register {registry registered : Registry} {id : PackageId} {buffer : Bytes}
    (hregister : registry.register id buffer = .ok registered) :
    registered.residency = registry.residency := by
  unfold Registry.register at hregister
  split at hregister
  · cases hregister
    rfl
  · cases hpackage : Session.ofModel (Package.decode buffer) with
    | error error => simp [hpackage, bind, Except.bind] at hregister
    | ok package =>
      cases hready : Session.ofModel (RegisteredPackage.ofPackage package) with
      | error error => simp [hpackage, hready, bind, Except.bind] at hregister
      | ok ready =>
        simp only [hpackage, hready, bind, Except.bind, pure, Except.pure,
          Except.ok.injEq] at hregister
        rw [← hregister]

theorem standing_register {accelerator registered : Accelerator σ} {id : PackageId}
    {buffer : Bytes} (hregister : accelerator.register id buffer = .ok registered) :
    registered.standing = accelerator.standing := by
  unfold register at hregister
  cases hregistry : accelerator.registry.register id buffer with
  | error error => simp [hregistry, bind, Except.bind] at hregister
  | ok registry =>
    simp only [hregistry, bind, Except.bind, pure, Except.pure, Except.ok.injEq] at hregister
    rw [← hregister, standing, standing, residency_register hregistry]

/-- The standing after an attempt to open a device that is not in use. -/
def Opened (before : Standing) (result : Except DriverError DeviceContext)
    (after : Standing) : Prop :=
  match result with
  | .error _ => after = before
  | .ok context => context.number = before.contexts ∧
    after = ⟨some before.contexts, before.contexts + 1, before.residency⟩

theorem opened_bringUp (handle : ClassHandle) (mode : PerformanceMode)
    (accelerator : Accelerator σ) :
    Opened accelerator.standing (accelerator.bringUp host handle mode).1
      (accelerator.bringUp host handle mode).2.standing := by
  unfold bringUp
  dsimp only
  split
  · exact standing_setWorld _ accelerator
  · exact ⟨rfl, rfl⟩

theorem opened_connect (mode : PerformanceMode) (accelerator : Accelerator σ) :
    Opened accelerator.standing (accelerator.connect host mode).1
      (accelerator.connect host mode).2.standing := by
  unfold connect
  rw [← standing_approach host (2 * accelerator.attach.inbox.length) accelerator]
  dsimp only
  split
  · rfl
  · exact opened_bringUp ..

theorem opened_openDevice (mode : PerformanceMode) {accelerator : Accelerator σ}
    (hdevice : accelerator.device = none) :
    Opened accelerator.standing (accelerator.openDevice host power mode).1
      (accelerator.openDevice host power mode).2.standing := by
  unfold openDevice
  rw [hdevice, ← standing_setPower power true accelerator]
  dsimp only
  cases hpower : accelerator.setPower power true with
  | mk outcome powered =>
    cases outcome with
    | error error => rfl
    | ok _ =>
      have hconnect := opened_connect host mode powered
      dsimp only
      cases hresult : powered.connect host mode with
      | mk result connected =>
        rw [hresult] at hconnect
        cases result with
        | ok context => exact hconnect
        | error error => exact (standing_setPower power false connected).trans hconnect

theorem effect_openDevice (mode : PerformanceMode) (accelerator : Accelerator σ) :
    Effect accelerator.standing (accelerator.events host power (.openDevice mode))
      (accelerator.openDevice host power mode).2.standing := by
  cases hdevice : accelerator.device with
  | some context =>
    have hstanding : (accelerator.openDevice host power mode).2.standing =
        accelerator.standing := by
      simp only [openDevice, standing, hdevice, Option.map_some]
    simp only [events, hdevice, hstanding]
    exact .unseen _
  | none =>
    have hopened := opened_openDevice host power mode hdevice
    cases hresult : (accelerator.openDevice host power mode).1 with
    | error error =>
      rw [hresult] at hopened
      simp only [events, hdevice, hresult]
      rw [show _ = accelerator.standing from hopened]
      exact .unseen _
    | ok context =>
      rw [hresult] at hopened
      obtain ⟨hnumber, hafter⟩ := hopened
      simp only [events, hdevice, hresult]
      rw [hafter, hnumber, standing, hdevice, Option.map_none]
      exact .opened _ _

theorem effect_closeDevice (number : Nat) (accelerator : Accelerator σ) :
    Effect accelerator.standing [] (accelerator.closeDevice power number).standing := by
  unfold closeDevice
  cases hdevice : accelerator.device with
  | none => exact .unseen _
  | some context =>
    dsimp only
    split
    · exact .unseen _
    · split
      · simp only [standing, hdevice, Option.map_some]
        exact .unseen _
      · exact .closed _ _ _

theorem effect_invoke (id : PackageId) (input : Bytes) (outputs : List Bytes)
    (accelerator : Accelerator σ) :
    Effect accelerator.standing (accelerator.events host power (.invoke id input outputs))
      (accelerator.invoke host id input outputs).accelerator.standing := by
  cases hdevice : accelerator.device with
  | none =>
    simp only [events, invoke, hdevice]
    exact .unseen _
  | some context =>
    simp only [events, invoke, hdevice]
    rw [standing, hdevice, Option.map_some]
    exact .ran context.number accelerator.contexts (Registry.ran_invokeNoted ..)

/-- **What one action may bring about**, and how it changes the standing of the accelerator. -/
theorem effect_perform (accelerator : Accelerator σ) (action : Action σ) :
    Effect accelerator.standing (accelerator.events host power action)
      (accelerator.perform host power action).standing := by
  have unseen {after : Accelerator σ} (hafter : after.standing = accelerator.standing) :
      Effect accelerator.standing [] after.standing := by
    rw [hafter]
    exact .unseen _
  cases action with
  | openDevice mode => exact effect_openDevice host power mode accelerator
  | closeDevice number => exact effect_closeDevice power number accelerator
  | invoke id input outputs => exact effect_invoke host power id input outputs accelerator
  | register id buffer =>
    refine unseen ?_
    cases hregister : accelerator.register id buffer with
    | error error => simp only [perform, hregister]
    | ok registered =>
      simp only [perform, hregister]
      exact standing_register hregister
  | temperature => exact unseen (standing_temperature host accelerator)
  | operate operation => exact unseen (standing_onDevice operation accelerator)
  | setPower enable => exact unseen (standing_setPower power enable accelerator)
  | post event => exact unseen (standing_post event accelerator)
  | step => exact unseen (standing_step host accelerator)
  | settle => exact unseen (standing_settle host accelerator)
  | deliver waiter completion => exact unseen (standing_deliver waiter completion accelerator)
  | change world => exact unseen (standing_setWorld (world accelerator.world) accelerator)

end

end Accelerator

end TensorLink

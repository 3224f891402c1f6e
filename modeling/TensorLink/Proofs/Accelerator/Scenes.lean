import TensorLink.Proofs.Accelerator.Mirror

/-!
# The users of an accelerator, step by step

Opening a device is not one step. A user asks for power, and the switch posts its events one by one
while nobody else can ask; the user waits for the connection, looks at it, and brings the chip up.
If this fails, power is given up in the same way. Meanwhile the attach task handles its messages,
and whoever has dropped the last reference to a context gives up power when the switch is free. Only
one user opens the device at a time; no context can be had from the moment its last reference is
dropped.

A scene is an accelerator together with whoever is under way there. It also keeps what each opening
has returned, and of each opening the accelerator as it was when power was asked for, and whether
the connection has been empty since.

Results:
* `exists_run_openDevice`, `exists_run_closeDevice`: opening and closing a device without
  interruption is one of the ways in which the steps may go.
-/

namespace TensorLink

variable {σ : Type}

namespace Accelerator

/-- Asks for power or gives it up, without posting the events to which this leads. -/
def request (power : PowerSwitch σ) (enable : Bool) :
    Accelerator σ → Except DriverError (List HostEvent) × Accelerator σ :=
  attachPart.run (AttachTask.request (siteSwitch power) enable)

/-- What users know of the connection. -/
def connection (accelerator : Accelerator σ) : Connection := accelerator.attach.world.connection

/-- Posts events in order, up to the first that is not taken. -/
def postAll (events : List HostEvent) :
    Accelerator σ → Except DriverError Unit × Accelerator σ :=
  attachPart.run (AttachTask.postAll events)

/-- The accelerator once an opening is over: after one that has failed, power is given up. -/
def released (power : PowerSwitch σ) :
    Except DriverError DeviceContext × Accelerator σ → Accelerator σ
  | (.ok _, accelerator) => accelerator
  | (.error _, accelerator) => (accelerator.setPower power false).2

theorem setPower_eq (power : PowerSwitch σ) (enable : Bool) (accelerator : Accelerator σ) :
    accelerator.setPower power enable =
      match accelerator.request power enable with
      | (.error error, requested) => (.error error, requested)
      | (.ok events, requested) => requested.postAll events := by
  unfold setPower request postAll Part.run
  rw [AttachTask.setPower_eq]
  generalize AttachTask.request _ _ (attachPart.look accelerator) = requested
  obtain ⟨outcome, task⟩ := requested
  cases outcome <;> rfl

theorem postAll_cons (event : HostEvent) (rest : List HostEvent) (accelerator : Accelerator σ) :
    accelerator.postAll (event :: rest) =
      match accelerator.post event with
      | (.ok (), posted) => posted.postAll rest
      | (.error error, posted) => (.error error, posted) := by
  unfold postAll post Part.run
  rw [AttachTask.postAll]
  generalize AttachTask.post _ (attachPart.look accelerator) = posted
  obtain ⟨outcome, task⟩ := posted
  cases outcome <;> rfl

/-- How opening a device goes that nobody uses. -/
theorem openDevice_of_unused (host : Host Waiter σ) (power : PowerSwitch σ)
    (mode : PerformanceMode) {accelerator : Accelerator σ} (hdevice : accelerator.device = none) :
    accelerator.openDevice host power mode =
      match accelerator.setPower power true with
      | (.error error, refused) => (.error error, refused)
      | (.ok (), powered) =>
        ((powered.connect host mode).1, released power (powered.connect host mode)) := by
  unfold openDevice
  rw [hdevice]
  dsimp only
  generalize accelerator.setPower power true = powered
  obtain ⟨_ | _, powered⟩ := powered
  · rfl
  · dsimp only
    generalize powered.connect host mode = connected
    obtain ⟨_ | _, connected⟩ := connected <;> rfl

/-- What is left of opening a device once power has been asked for. -/
def powerUp (host : Host Waiter σ) (power : PowerSwitch σ) (mode : PerformanceMode)
    (events : List HostEvent) (accelerator : Accelerator σ) :
    Except DriverError DeviceContext × Accelerator σ :=
  match accelerator.postAll events with
  | (.error error, refused) => (.error error, refused)
  | (.ok (), powered) =>
    ((powered.connect host mode).1, released power (powered.connect host mode))

theorem openDevice_of_request (host : Host Waiter σ) (power : PowerSwitch σ)
    (mode : PerformanceMode) {accelerator : Accelerator σ} (hdevice : accelerator.device = none) :
    accelerator.openDevice host power mode =
      match accelerator.request power true with
      | (.error error, refused) => (.error error, refused)
      | (.ok events, requested) => requested.powerUp host power mode events := by
  rw [openDevice_of_unused host power mode hdevice, setPower_eq]
  generalize accelerator.request power true = requested
  obtain ⟨_ | events, requested⟩ := requested <;> rfl

end Accelerator

/-! ## Scenes -/

/-- How far a user has come who opens the device. -/
inductive Stage where
  /-- Power has been asked for, and the switch is being driven. -/
  | powering
  /-- The connection is waited for. -/
  | waiting
  /-- A class driver has been found in use, and the chip has still to be brought up. -/
  | connected (handle : ClassHandle)
  /-- Opening has failed, and power has still to be given up. -/
  | failed (error : DriverError)
  /-- Power has been given up, and the switch is being driven. -/
  | returning (error : DriverError)

/-- A user who opens the device. -/
structure Opening (σ : Type) where
  mode : PerformanceMode
  stage : Stage
  /-- The accelerator when power was asked for. -/
  asked : Accelerator σ
  /-- Whether the connection has been empty at some time since, up to the look at it. -/
  vacant : Bool

/-- What an opening returns. -/
inductive Return (σ : Type) where
  /-- The context that is in use. -/
  | shared (context : DeviceContext)
  | opened (context : DeviceContext) (opening : Opening σ)
  /-- Power could not be switched on. -/
  | refused (error : DriverError)
  /-- The device could not be reached or brought up. -/
  | failed (error : DriverError)

/-- The context or the error that an opening returns. -/
def Return.outcome : Return σ → Except DriverError DeviceContext
  | shared context | opened context _ => .ok context
  | refused error | failed error => .error error

/-- An accelerator and whoever is under way there. -/
structure Scene (σ : Type) where
  accelerator : Accelerator σ
  /-- The user who opens the device, if there is one. -/
  opening : Option (Opening σ) := none
  /-- How many have dropped the last reference to a context and have still to give up power. -/
  leaving : Nat := 0
  /-- The events that the switch has still to post, while someone drives it. -/
  driving : Option (List HostEvent) := none
  /-- What openings have returned so far. -/
  returned : List (Return σ) := []

namespace Scene

/-- What may happen in a scene. -/
inductive Move (σ : Type) where
  /-- A user starts to open the device. -/
  | openDevice (mode : PerformanceMode)
  /-- Whoever drives the switch posts its next event, or is done. -/
  | drive
  /-- The user who waits looks at the connection, too late or not. -/
  | look (late : Bool)
  | bringUp
  /-- The user whose opening has failed gives up power. -/
  | giveUp
  | clone
  | drop
  /-- Someone who has dropped the last reference gives up power. -/
  | leave
  /-- The attach task handles a message. -/
  | step
  | announce (event : HostEvent)
  | deliver (waiter : Waiter) (completion : Completion)
  | change (world : σ → σ)

/-- Goes on with an opening. -/
def advance (opening : Opening σ) (stage : Stage) (scene : Scene σ) : Scene σ :=
  { scene with opening := some { opening with stage } }

/-- Ends an opening. -/
def finish (result : Return σ) (scene : Scene σ) : Scene σ :=
  { scene with opening := none, returned := scene.returned ++ [result] }

/-- Whoever has driven the switch is done. -/
def conclude (result : Except DriverError Unit) (scene : Scene σ) : Scene σ :=
  let free := { scene with driving := none }
  match scene.opening with
  | none => free
  | some opening =>
    match opening.stage, result with
    | .powering, .ok () => free.advance opening .waiting
    | .powering, .error error => free.finish (.refused error)
    | .returning error, _ => free.finish (.failed error)
    | _, _ => free

/-- Notes whether the connection is empty, for a user who has not looked at it yet. -/
def note (scene : Scene σ) : Scene σ :=
  match scene.opening with
  | none => scene
  | some opening =>
    match opening.stage with
    | .powering | .waiting =>
      let vacant := opening.vacant || scene.accelerator.connection.handle.isNone
      { scene with opening := some { opening with vacant } }
    | _ => scene

/-- Posts the next event of the switch. -/
def drive (scene : Scene σ) : Scene σ :=
  match scene.driving with
  | none => scene
  | some [] => scene.conclude (.ok ())
  | some (event :: rest) =>
    let (outcome, accelerator) := scene.accelerator.post event
    match outcome with
    | .ok () => { scene with accelerator, driving := some rest }
    | .error error => { scene with accelerator }.conclude (.error error)

/-- Looks at the connection. -/
def look (late : Bool) (scene : Scene σ) : Scene σ :=
  match scene.opening with
  | none => scene
  | some opening =>
    match opening.stage with
    | .waiting =>
      if scene.accelerator.connection.decided || late then
        match scene.accelerator.connection.await scene.accelerator.config.openTimeout with
        | .ok handle => scene.advance opening (.connected handle)
        | .error error => scene.advance opening (.failed error)
      else scene
    | _ => scene

/-- Drops a reference to the context in use. -/
def drop (scene : Scene σ) : Scene σ :=
  match scene.accelerator.device with
  | none => scene
  | some context =>
    if 1 < context.references then
      { scene with
        accelerator := { scene.accelerator with
          device := some { context with references := context.references - 1 } } }
    else
      { scene with
        accelerator := { scene.accelerator with device := none }, leaving := scene.leaving + 1 }

section

variable (host : Host Waiter σ) (power : PowerSwitch σ)

/-- Starts to open the device; whoever finds the switch in use waits for it. -/
def openDevice (mode : PerformanceMode) (scene : Scene σ) : Scene σ :=
  match scene.opening, scene.accelerator.device, scene.driving with
  | none, some context, _ =>
    let context := { context with references := context.references + 1 }
    { scene with accelerator := { scene.accelerator with device := some context } }.finish
      (.shared context)
  | none, none, none =>
    let (outcome, accelerator) := scene.accelerator.request power true
    match outcome with
    | .error error => { scene with accelerator }.finish (.refused error)
    | .ok events =>
      let opening : Opening σ :=
        ⟨mode, .powering, scene.accelerator, accelerator.connection.handle.isNone⟩
      { scene with accelerator, driving := some events, opening := some opening }
  | _, _, _ => scene

/-- Brings the chip up. -/
def bringUp (scene : Scene σ) : Scene σ :=
  match scene.opening with
  | none => scene
  | some opening =>
    match opening.stage with
    | .connected handle =>
      let (outcome, accelerator) := scene.accelerator.bringUp host handle opening.mode
      match outcome with
      | .ok context => { scene with accelerator }.finish (.opened context opening)
      | .error error => { scene with accelerator }.advance opening (.failed error)
    | _ => scene

/-- Gives up power; if this fails, the switch has nothing to post. -/
def release (scene : Scene σ) : Scene σ :=
  let (outcome, accelerator) := scene.accelerator.request power false
  { scene with accelerator, driving := some (outcome.toOption.getD []) }

/-- Gives up power after an opening that has failed. -/
def giveUp (scene : Scene σ) : Scene σ :=
  match scene.opening, scene.driving with
  | some opening, none =>
    match opening.stage with
    | .failed error => (scene.advance opening (.returning error)).release power
    | _ => scene
  | _, _ => scene

/-- Gives up power after the last reference to a context. -/
def leave (scene : Scene σ) : Scene σ :=
  match scene.leaving, scene.driving with
  | leaving + 1, none => { scene with leaving }.release power
  | _, _ => scene

/-- Makes a move; one that is not possible changes nothing. -/
def move (scene : Scene σ) : Move σ → Scene σ
  | .openDevice mode => scene.openDevice power mode
  | .drive => scene.drive
  | .look late => scene.look late
  | .bringUp => scene.bringUp host
  | .giveUp => scene.giveUp power
  | .clone =>
    { scene with
      accelerator := { scene.accelerator with
        device := scene.accelerator.device.map fun context =>
          { context with references := context.references + 1 } } }
  | .drop => scene.drop
  | .leave => scene.leave power
  | .step => { scene with accelerator := scene.accelerator.step host }.note
  | .announce event => { scene with accelerator := (scene.accelerator.post event).2 }
  | .deliver waiter completion =>
    { scene with accelerator := scene.accelerator.deliver waiter completion }
  | .change world =>
    { scene with accelerator := scene.accelerator.setWorld (world scene.accelerator.world) }

/-- Makes moves one after the other. -/
def run (scene : Scene σ) (moves : List (Move σ)) : Scene σ :=
  moves.foldl (move host power) scene

/-! ## Users who are not interrupted -/

/-- Some moves lead from one scene to another. -/
def Reaches (scene after : Scene σ) : Prop := ∃ moves, scene.run host power moves = after

variable {host power}

theorem Reaches.refl (scene : Scene σ) : Reaches host power scene scene := ⟨[], rfl⟩

theorem Reaches.trans {scene mid after : Scene σ} (h : Reaches host power scene mid)
    (h' : Reaches host power mid after) : Reaches host power scene after := by
  obtain ⟨moves, rfl⟩ := h
  obtain ⟨moves', rfl⟩ := h'
  exact ⟨moves ++ moves', List.foldl_append⟩

theorem Reaches.of_move {scene after : Scene σ} (next : Move σ)
    (h : scene.move host power next = after) : Reaches host power scene after := ⟨[next], h⟩

variable (host power)

/-- Whoever drives the switch posts all its events, up to the first that is not taken. -/
theorem reaches_conclude (events : List HostEvent) {scene : Scene σ}
    (hdriving : scene.driving = some events) :
    Reaches host power scene
      ({ scene with accelerator := (scene.accelerator.postAll events).2 }.conclude
        (scene.accelerator.postAll events).1) := by
  induction events generalizing scene with
  | nil =>
    refine .of_move .drive ?_
    show scene.drive = _
    unfold drive
    rw [hdriving]
    rfl
  | cons event rest ih =>
    rw [Accelerator.postAll_cons]
    have hdrive : scene.drive =
        let (outcome, accelerator) := scene.accelerator.post event
        match outcome with
        | .ok () => { scene with accelerator, driving := some rest }
        | .error error => { scene with accelerator }.conclude (.error error) := by
      unfold drive
      rw [hdriving]
    dsimp only at hdrive
    generalize scene.accelerator.post event = posted at hdrive ⊢
    obtain ⟨outcome, posted⟩ := posted
    cases outcome with
    | error error => exact .of_move .drive hdrive
    | ok _ =>
      have hrest : { scene with accelerator := posted, driving := some rest }.driving =
          some rest := rfl
      exact (Reaches.of_move .drive hdrive).trans (ih hrest)

/-- Whoever gives up power is done once the switch has posted its events. -/
theorem reaches_of_release (scene : Scene σ) :
    ∃ result, Reaches host power (scene.release power)
      ({ scene with accelerator := (scene.accelerator.setPower power false).2 }.conclude
        result) := by
  rw [Accelerator.setPower_eq]
  unfold release
  cases scene.accelerator.request power false with
  | mk outcome requested =>
    cases outcome with
    | error error => exact ⟨_, reaches_conclude host power [] rfl⟩
    | ok events => exact ⟨_, reaches_conclude host power events rfl⟩

variable (mode : PerformanceMode) (asked : Accelerator σ) (leaving : Nat)
  (returned : List (Return σ))

/-- Power is given up after an opening that has failed. -/
theorem reaches_failed (error : DriverError) (vacant : Bool) (accelerator : Accelerator σ) :
    Reaches host power
      ⟨accelerator, some ⟨mode, .failed error, asked, vacant⟩, leaving, none, returned⟩
      ⟨(accelerator.setPower power false).2, none, leaving, none, returned ++ [.failed error]⟩ := by
  obtain ⟨result, hreleased⟩ := reaches_of_release host power
    ⟨accelerator, some ⟨mode, .returning error, asked, vacant⟩, leaving, none, returned⟩
  exact (Reaches.of_move .giveUp rfl).trans hreleased

/-- The attach task handles messages while the connection is waited for. -/
theorem exists_reaches_approach (count : Nat) (vacant : Bool) (accelerator : Accelerator σ) :
    ∃ vacant', Reaches host power
      ⟨accelerator, some ⟨mode, .waiting, asked, vacant⟩, leaving, none, returned⟩
      ⟨accelerator.approach host count, some ⟨mode, .waiting, asked, vacant'⟩, leaving, none,
        returned⟩ := by
  induction count generalizing accelerator vacant with
  | zero => exact ⟨vacant, .refl _⟩
  | succ count ih =>
    rw [Accelerator.approach]
    split
    · exact ⟨vacant, .refl _⟩
    · obtain ⟨vacant', hrest⟩ := ih _ (accelerator.step host)
      exact ⟨vacant', (Reaches.of_move .step rfl).trans hrest⟩

/-- The chip is brought up, or power is given up. -/
theorem exists_reaches_bringUp (handle : ClassHandle) (vacant : Bool)
    (accelerator : Accelerator σ) :
    ∃ result : Return σ, result.outcome = (accelerator.bringUp host handle mode).1 ∧
      Reaches host power
        ⟨accelerator, some ⟨mode, .connected handle, asked, vacant⟩, leaving, none, returned⟩
        ⟨Accelerator.released power (accelerator.bringUp host handle mode), none, leaving, none,
          returned ++ [result]⟩ := by
  let opening : Opening σ := ⟨mode, .connected handle, asked, vacant⟩
  have hmove : Scene.move host power ⟨accelerator, some opening, leaving, none, returned⟩
      .bringUp =
      let (outcome, after) := accelerator.bringUp host handle mode
      match outcome with
      | .ok context => ⟨after, none, leaving, none, returned ++ [.opened context opening]⟩
      | .error error =>
        ⟨after, some ⟨mode, .failed error, asked, vacant⟩, leaving, none, returned⟩ := rfl
  dsimp only at hmove
  generalize accelerator.bringUp host handle mode = brought at hmove ⊢
  obtain ⟨outcome, after⟩ := brought
  cases outcome with
  | ok context => exact ⟨.opened context opening, rfl, .of_move .bringUp hmove⟩
  | error error =>
    exact ⟨.failed error, rfl, (Reaches.of_move .bringUp hmove).trans (reaches_failed ..)⟩

/-- Whoever waits to the end sees the connection, and the chip is brought up. -/
theorem exists_reaches_connect (vacant : Bool) (accelerator : Accelerator σ) :
    ∃ result : Return σ, result.outcome = (accelerator.connect host mode).1 ∧
      Reaches host power
        ⟨accelerator, some ⟨mode, .waiting, asked, vacant⟩, leaving, none, returned⟩
        ⟨Accelerator.released power (accelerator.connect host mode), none, leaving, none,
          returned ++ [result]⟩ := by
  obtain ⟨vacant', happroach⟩ := exists_reaches_approach host power mode asked
    leaving returned (2 * accelerator.attach.inbox.length) vacant accelerator
  unfold Accelerator.connect
  dsimp only
  generalize accelerator.approach host (2 * accelerator.attach.inbox.length) = decided
    at happroach ⊢
  have hlook : Scene.move host power
      ⟨decided, some ⟨mode, .waiting, asked, vacant'⟩, leaving, none, returned⟩ (.look true) =
      match decided.connection.await decided.config.openTimeout with
      | .ok handle =>
        ⟨decided, some ⟨mode, .connected handle, asked, vacant'⟩, leaving, none, returned⟩
      | .error error =>
        ⟨decided, some ⟨mode, .failed error, asked, vacant'⟩, leaving, none, returned⟩ := by
    unfold move look
    simp only [Bool.or_true, if_true]
    rfl
  cases hawait : decided.connection.await decided.config.openTimeout with
  | error error =>
    rw [hawait] at hlook
    have hconnection : decided.attach.world.connection.await decided.config.openTimeout =
        .error error := hawait
    rw [hconnection]
    exact ⟨.failed error, rfl, (happroach.trans (.of_move _ hlook)).trans (reaches_failed ..)⟩
  | ok handle =>
    rw [hawait] at hlook
    have hconnection : decided.attach.world.connection.await decided.config.openTimeout =
        .ok handle := hawait
    rw [hconnection]
    obtain ⟨result, houtcome, hbringUp⟩ := exists_reaches_bringUp host power
      mode asked leaving returned handle vacant' decided
    exact ⟨result, houtcome, (happroach.trans (.of_move _ hlook)).trans hbringUp⟩

/-- A user who has asked for power drives the switch, and goes on if power is on. -/
theorem exists_reaches_powerUp (events : List HostEvent) (vacant : Bool)
    (accelerator : Accelerator σ) :
    ∃ result : Return σ, result.outcome = (accelerator.powerUp host power mode events).1 ∧
      Reaches host power
        ⟨accelerator, some ⟨mode, .powering, asked, vacant⟩, leaving, some events, returned⟩
        ⟨(accelerator.powerUp host power mode events).2, none, leaving, none,
          returned ++ [result]⟩ := by
  have hposted : Reaches host power
      ⟨accelerator, some ⟨mode, .powering, asked, vacant⟩, leaving, some events, returned⟩ _ :=
    reaches_conclude host power events rfl
  unfold Accelerator.powerUp
  dsimp only at hposted
  generalize accelerator.postAll events = posted at hposted ⊢
  obtain ⟨outcome, powered⟩ := posted
  cases outcome with
  | error error => exact ⟨.refused error, rfl, hposted⟩
  | ok _ =>
    obtain ⟨result, houtcome, hconnect⟩ := exists_reaches_connect host power
      mode asked leaving returned vacant powered
    exact ⟨result, houtcome, hposted.trans hconnect⟩

end

section

variable (host : Host Waiter σ) (power : PowerSwitch σ)

/-- **Opening.** A user who opens the device without interruption comes to what opening it at once
    comes to. -/
theorem exists_run_openDevice (mode : PerformanceMode) {scene : Scene σ}
    (hopening : scene.opening = none) (hdriving : scene.driving = none) :
    ∃ (moves : List (Move σ)) (result : Return σ),
      result.outcome = (scene.accelerator.openDevice host power mode).1 ∧
      scene.run host power moves =
        { scene with
          accelerator := (scene.accelerator.openDevice host power mode).2
          returned := scene.returned ++ [result] } := by
  obtain ⟨accelerator, opening, leaving, driving, returned⟩ := scene
  subst hopening hdriving
  cases hdevice : accelerator.device with
  | some context =>
    let shared := { context with references := context.references + 1 }
    refine ⟨[.openDevice mode], .shared shared, ?_, ?_⟩
    · simp only [Accelerator.openDevice, hdevice, Return.outcome, shared]
    · simp only [run, List.foldl_cons, List.foldl_nil, move, openDevice, hdevice,
        Accelerator.openDevice, finish, shared]
  | none =>
    have hmove : Scene.move host power ⟨accelerator, none, leaving, none, returned⟩
        (.openDevice mode) =
        let (outcome, requested) := accelerator.request power true
        match outcome with
        | .error error => ⟨requested, none, leaving, none, returned ++ [.refused error]⟩
        | .ok events =>
          ⟨requested, some ⟨mode, .powering, accelerator, requested.connection.handle.isNone⟩,
            leaving, some events, returned⟩ := by
      simp only [move, openDevice, hdevice, finish]
    rw [Accelerator.openDevice_of_request host power mode hdevice]
    dsimp only
    generalize accelerator.request power true = requested at hmove ⊢
    obtain ⟨outcome, requested⟩ := requested
    cases outcome with
    | error error => exact ⟨[.openDevice mode], .refused error, rfl, hmove⟩
    | ok events =>
      obtain ⟨result, houtcome, hpowerUp⟩ := exists_reaches_powerUp host
        power mode accelerator leaving returned events _ requested
      obtain ⟨moves, hmoves⟩ := (Reaches.of_move _ hmove).trans hpowerUp
      exact ⟨moves, result, houtcome, hmoves⟩

/-- **Closing.** So does a user who closes the device. -/
theorem exists_run_closeDevice (number : Nat) {scene : Scene σ}
    (hopening : scene.opening = none) (hdriving : scene.driving = none) :
    ∃ moves : List (Move σ), scene.run host power moves =
      { scene with accelerator := scene.accelerator.closeDevice power number } := by
  obtain ⟨accelerator, opening, leaving, driving, returned⟩ := scene
  subst hopening hdriving
  unfold Accelerator.closeDevice
  cases hdevice : accelerator.device with
  | none => exact ⟨[], rfl⟩
  | some context =>
    dsimp only
    split
    · exact ⟨[], rfl⟩
    · have hdrop : Scene.move host power ⟨accelerator, none, leaving, none, returned⟩ .drop =
          if 1 < context.references then
            let context := { context with references := context.references - 1 }
            ⟨{ accelerator with device := some context }, none, leaving, none, returned⟩
          else ⟨{ accelerator with device := none }, none, leaving + 1, none, returned⟩ := by
        simp only [move, drop, hdevice]
      split <;> rename_i hshared
      · rw [if_pos hshared] at hdrop
        exact ⟨[.drop], hdrop⟩
      · rw [if_neg hshared] at hdrop
        obtain ⟨result, hreleased⟩ := reaches_of_release host power
          ⟨{ accelerator with device := none }, none, leaving, none, returned⟩
        exact ((Reaches.of_move _ hdrop).trans (.of_move .leave rfl)).trans hreleased

end

end Scene

end TensorLink

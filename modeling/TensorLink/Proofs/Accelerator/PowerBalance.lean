import TensorLink.Proofs.Accelerator.Reopening
import TensorLink.Proofs.Accelerator.Scenes

/-!
# Who holds power

Power is counted. It is held by the context in use, by a user who opens the device until power is
given up again, and by everyone who has dropped the last reference to a context and has not given
power up yet.

An opening whose request for power fails has been counted, but holds nothing that could give power
up. So the count is ahead of the holders by one for every opening that has been refused power, and
by nothing else: an opening that fails later gives power up, whatever the switch does then.

Results:
* `balanced_move`: what every move keeps.
* `users_of_quiet`: the count when nobody is under way.
* `powered_openDevice_iff`: whether an opening that fails leaves power as it was.
* `users_eq_iff_not_refused`: when the count is that of the contexts in use.
-/

namespace TensorLink

variable {σ : Type}

/-! ## Counting -/

section

variable (power : PowerSwitch σ)

theorem AttachTask.users_request (enable : Bool) (task : AttachTask σ) :
    (task.request power enable).2.users = usersAfter enable task.users := by
  unfold request
  dsimp only
  split <;> rfl

end

namespace Accelerator

variable (host : Host Waiter σ) (power : PowerSwitch σ)

/-- How many users have asked for power. -/
def users (accelerator : Accelerator σ) : Nat := accelerator.attach.users

theorem users_request (enable : Bool) (accelerator : Accelerator σ) :
    (accelerator.request power enable).2.users =
      AttachTask.usersAfter enable accelerator.users :=
  AttachTask.users_request (siteSwitch power) enable accelerator.attach

theorem users_setPower (enable : Bool) (accelerator : Accelerator σ) :
    (accelerator.setPower power enable).2.users =
      AttachTask.usersAfter enable accelerator.users :=
  AttachTask.users_setPower (siteSwitch power) enable accelerator.attach

theorem users_post (event : HostEvent) (accelerator : Accelerator σ) :
    (accelerator.post event).2.users = accelerator.users := by
  show (accelerator.attach.post event).2.users = accelerator.attach.users
  unfold AttachTask.post
  split <;> rfl

theorem users_step (accelerator : Accelerator σ) :
    (accelerator.step host).users = accelerator.users := by
  show (accelerator.attach.step (siteHost host) Site.listener).users = accelerator.attach.users
  obtain hidle | ⟨message, before, -, hbefore, received⟩ :=
    step_cases host host.leaves_unit accelerator.attach
  · rw [hidle]
  · exact received.users_eq.trans (congrArg Aspect.users hbefore).symm

theorem users_bringUp (handle : ClassHandle) (mode : PerformanceMode)
    (accelerator : Accelerator σ) :
    (accelerator.bringUp host handle mode).2.users = accelerator.users := by
  unfold bringUp
  dsimp only
  split <;> rfl

theorem users_connect (mode : PerformanceMode) (accelerator : Accelerator σ) :
    (accelerator.connect host mode).2.users = accelerator.users := by
  have happroach := approach_of_step host (·.users = accelerator.users)
    (fun other hother => (users_step host other).trans hother)
    (2 * accelerator.attach.inbox.length) rfl
  unfold connect
  dsimp only
  split
  · exact happroach
  · exact (users_bringUp ..).trans happroach

theorem isSome_device {accelerator : Accelerator σ} {standing : Standing}
    (hstanding : accelerator.standing = standing) :
    accelerator.device.isSome = standing.device.isSome := by
  rw [← hstanding]
  exact Option.isSome_map.symm

theorem users_deliver (waiter : Waiter) (completion : Completion) (accelerator : Accelerator σ) :
    (accelerator.deliver waiter completion).users = accelerator.users := by
  have haspect : aspect (fun _ => ()) (accelerator.deliver waiter completion).attach = _ :=
    aspect_delivered waiter completion accelerator
  exact congrArg Aspect.users haspect

end Accelerator

/-! ## Balance -/

/-- How much power a user holds who opens the device. -/
def Stage.held : Stage → Nat
  | powering | waiting | connected _ | failed _ => 1
  | returning _ => 0

/-- Whether an opening has been refused power. -/
def Return.isRefused : Return σ → Bool
  | refused _ => true
  | shared _ | opened _ _ | failed _ => false

namespace Scene

open Accelerator

/-- How many contexts are in use. -/
def alive (scene : Scene σ) : Nat := if scene.accelerator.device.isSome then 1 else 0

/-- How much power the user holds who opens the device. -/
def held (scene : Scene σ) : Nat :=
  match scene.opening with
  | none => 0
  | some opening => opening.stage.held

/-- How many openings have been refused power. -/
def refusals (scene : Scene σ) : Nat := scene.returned.countP Return.isRefused

/-- The count of power is that of the holders and of the refusals; nobody opens a device in use. -/
structure Balanced (scene : Scene σ) : Prop where
  users_eq : scene.accelerator.users =
    scene.alive + scene.held + scene.leaving + scene.refusals
  exclusive : scene.accelerator.device.isSome → scene.opening = none

variable {scene : Scene σ}

/-- The balance is one of the count, and of whether there is a context. -/
theorem Balanced.of_eq (balanced : Balanced scene) {accelerator : Accelerator σ}
    (husers : accelerator.users = scene.accelerator.users)
    (hdevice : accelerator.device.isSome = scene.accelerator.device.isSome) :
    Balanced { scene with accelerator } := by
  obtain ⟨husers', hexclusive⟩ := balanced
  refine ⟨?_, fun h => hexclusive (hdevice.symm.trans h)⟩
  unfold alive at husers' ⊢
  rw [hdevice]
  exact husers.trans husers'

theorem refusals_finish (result : Return σ) (scene : Scene σ) :
    (scene.finish result).refusals = scene.refusals + if result.isRefused then 1 else 0 := by
  unfold finish refusals
  rw [List.countP_append, List.countP_singleton]

theorem held_of_opening {opening : Opening σ} (hopening : scene.opening = some opening) :
    scene.held = opening.stage.held := by
  unfold held
  rw [hopening]

theorem held_of_none (hopening : scene.opening = none) : scene.held = 0 := by
  unfold held
  rw [hopening]

/-- A user who goes on holds what was held before. -/
theorem Balanced.goOn {opening opening' : Opening σ} (balanced : Balanced scene)
    (hopening : scene.opening = some opening)
    (hheld : opening'.stage.held = opening.stage.held) :
    Balanced { scene with opening := some opening' } := by
  obtain ⟨husers, hexclusive⟩ := balanced
  refine ⟨?_, fun h => ?_⟩
  · rw [held_of_opening hopening, ← hheld] at husers
    exact husers
  · rw [hexclusive h] at hopening
    cases hopening

/-- An opening that ends with nothing held, or is refused power, leaves the balance. -/
theorem Balanced.finish {result : Return σ} (balanced : Balanced scene)
    (hheld : scene.held = if result.isRefused then 1 else 0) : Balanced (scene.finish result) := by
  refine ⟨?_, fun _ => rfl⟩
  have husers := balanced.users_eq
  rw [refusals_finish, ← hheld]
  show scene.accelerator.users = scene.alive + 0 + scene.leaving + (scene.refusals + scene.held)
  omega

theorem balanced_conclude (result : Except DriverError Unit) (balanced : Balanced scene) :
    Balanced (scene.conclude result) := by
  have hfree : Balanced { scene with driving := none } := ⟨balanced.users_eq, balanced.exclusive⟩
  unfold conclude
  dsimp only
  split
  · exact hfree
  · rename_i opening hopening
    have hheld : { scene with driving := none }.held = opening.stage.held :=
      held_of_opening hopening
    split <;> rename_i hstage
    · exact hfree.goOn hopening (by rw [hstage]; rfl)
    · exact hfree.finish (by rw [hheld, hstage]; rfl)
    · exact hfree.finish (by rw [hheld, hstage]; rfl)
    · exact hfree

theorem balanced_drive (balanced : Balanced scene) : Balanced scene.drive := by
  unfold drive
  split
  · exact balanced
  · exact balanced_conclude _ balanced
  · rename_i event rest hdriving
    have hposted : Balanced { scene with accelerator := (scene.accelerator.post event).2 } :=
      balanced.of_eq (users_post event scene.accelerator) rfl
    dsimp only
    split
    · exact ⟨hposted.users_eq, hposted.exclusive⟩
    · exact balanced_conclude _ hposted

theorem balanced_look (late : Bool) (balanced : Balanced scene) : Balanced (scene.look late) := by
  unfold look
  split
  · exact balanced
  · rename_i opening hopening
    split
    · rename_i hstage
      split
      · split <;> exact balanced.goOn hopening (by rw [hstage]; rfl)
      · exact balanced
    · exact balanced

theorem balanced_drop (balanced : Balanced scene) : Balanced scene.drop := by
  unfold drop
  split
  · exact balanced
  · rename_i context hdevice
    split
    · exact balanced.of_eq rfl (by rw [hdevice]; rfl)
    · refine ⟨?_, fun h => by cases h⟩
      have husers := balanced.users_eq
      unfold alive at husers ⊢
      rw [hdevice, Option.isSome_some, if_pos rfl] at husers
      show scene.accelerator.users = 0 + scene.held + (scene.leaving + 1) + scene.refusals
      omega

theorem balanced_note (balanced : Balanced scene) : Balanced scene.note := by
  unfold note
  split
  · exact balanced
  · rename_i opening hopening
    dsimp only
    split
    · exact balanced.goOn hopening rfl
    · exact balanced.goOn hopening rfl
    · exact balanced

section

variable (host : Host Waiter σ) (power : PowerSwitch σ)

/-- Giving up power that is held keeps the balance. -/
theorem balanced_release (hexclusive : scene.accelerator.device.isSome → scene.opening = none)
    (husers : scene.accelerator.users =
      scene.alive + scene.held + scene.leaving + scene.refusals + 1) :
    Balanced (scene.release power) := by
  refine ⟨?_, hexclusive⟩
  show (scene.accelerator.request power false).2.users =
    scene.alive + scene.held + scene.leaving + scene.refusals
  rw [users_request, husers]
  rfl

theorem balanced_giveUp (balanced : Balanced scene) : Balanced (scene.giveUp power) := by
  unfold giveUp
  split
  · rename_i opening hopening hdriving
    split
    · rename_i error hstage
      have hheld := held_of_opening hopening
      rw [hstage] at hheld
      have husers := balanced.users_eq
      rw [hheld] at husers
      refine balanced_release power (fun h => ?_) ?_
      · cases hopening.symm.trans (balanced.exclusive h)
      · show scene.accelerator.users = scene.alive + 0 + scene.leaving + scene.refusals + 1
        change _ = scene.alive + 1 + _ + _ at husers
        omega
    · exact balanced
  · exact balanced

theorem balanced_leave (balanced : Balanced scene) : Balanced (scene.leave power) := by
  unfold leave
  split
  · rename_i leaving hleaving hdriving
    refine balanced_release power balanced.exclusive ?_
    have husers := balanced.users_eq
    rw [hleaving] at husers
    show scene.accelerator.users = scene.alive + scene.held + leaving + scene.refusals + 1
    omega
  · exact balanced

/-- Whoever opens the device holds power from the request on, or has been refused it. -/
theorem balanced_openDevice (mode : PerformanceMode) (balanced : Balanced scene) :
    Balanced (scene.openDevice power mode) := by
  unfold openDevice
  split
  · rename_i context hopening hdevice
    refine Balanced.finish (balanced.of_eq rfl ?_) (held_of_none hopening)
    rw [hdevice]
    rfl
  · rename_i hopening hdevice hdriving
    have husers : (scene.accelerator.request power true).2.users =
        scene.alive + 0 + scene.leaving + scene.refusals + 1 := by
      rw [users_request, balanced.users_eq, held_of_none hopening]
      rfl
    dsimp only
    split
    · refine ⟨?_, fun _ => rfl⟩
      rw [refusals_finish]
      exact husers
    · refine ⟨?_, fun h => ?_⟩
      · show (scene.accelerator.request power true).2.users =
          scene.alive + 1 + scene.leaving + scene.refusals
        omega
      · cases (congrArg Option.isSome hdevice).symm.trans h
  · exact balanced

theorem balanced_bringUp (balanced : Balanced scene) : Balanced (scene.bringUp host) := by
  unfold bringUp
  split
  · exact balanced
  · rename_i opening hopening
    split
    · rename_i handle hstage
      have hbrought := opened_bringUp host handle opening.mode scene.accelerator
      have husers := users_bringUp host handle opening.mode scene.accelerator
      dsimp only
      split <;> rename_i hresult <;> rw [hresult] at hbrought
      · -- The context takes over what the user has held.
        have hunused : scene.alive = 0 :=
          if_neg fun h => by cases hopening.symm.trans (balanced.exclusive h)
        have hcount := balanced.users_eq
        rw [hunused, held_of_opening hopening, hstage] at hcount
        have hused := isSome_device hbrought.2
        refine ⟨?_, fun _ => rfl⟩
        rw [refusals_finish, alive]
        show (scene.accelerator.bringUp host handle opening.mode).2.users =
          (if (scene.accelerator.bringUp host handle opening.mode).2.device.isSome then 1 else 0) +
            0 + scene.leaving + (scene.refusals + 0)
        rw [hused, husers]
        exact hcount
      · exact (balanced.of_eq husers ((isSome_device hbrought).trans Option.isSome_map)).goOn
          hopening (by rw [hstage]; rfl)
    · exact balanced

/-- **Move.** Every move keeps the balance. -/
theorem balanced_move (balanced : Balanced scene) (next : Move σ) :
    Balanced (scene.move host power next) := by
  cases next with
  | openDevice mode => exact balanced_openDevice power mode balanced
  | drive => exact balanced_drive balanced
  | look late => exact balanced_look late balanced
  | bringUp => exact balanced_bringUp host balanced
  | giveUp => exact balanced_giveUp power balanced
  | clone => exact balanced.of_eq rfl Option.isSome_map
  | drop => exact balanced_drop balanced
  | leave => exact balanced_leave power balanced
  | step => exact balanced_note (balanced.of_eq (users_step host scene.accelerator) rfl)
  | announce event => exact balanced.of_eq (users_post event scene.accelerator) rfl
  | deliver waiter completion =>
    exact balanced.of_eq (users_deliver waiter completion scene.accelerator)
      ((isSome_device (standing_deliver waiter completion scene.accelerator)).trans
        Option.isSome_map)
  | change world => exact balanced.of_eq rfl rfl

/-- An accelerator that nobody uses yet, and nobody under way. -/
def start (config : DriverConfig) (world : σ) : Scene σ :=
  { accelerator := { config, attach := { world := { world } } } }

theorem balanced_start (config : DriverConfig) (world : σ) : Balanced (start config world) :=
  ⟨rfl, fun h => by cases h⟩

/-- **Run.** So does every run. -/
theorem balanced_run (config : DriverConfig) (world : σ) (moves : List (Move σ)) :
    Balanced ((start config world).run host power moves) :=
  List.foldlRecOn moves (move host power) (balanced_start config world)
    fun _ balanced next _ => balanced_move host power balanced next

/-- Nobody opens the device, and nobody is about to give up power. -/
structure Quiet (scene : Scene σ) : Prop where
  opening : scene.opening = none
  leaving : scene.leaving = 0
  driving : scene.driving = none

/-- When nobody is under way, the count is that of the contexts in use and of the refusals. -/
theorem users_of_quiet (config : DriverConfig) (world : σ) (moves : List (Move σ))
    (quiet : Quiet ((start config world).run host power moves)) :
    ((start config world).run host power moves).accelerator.users =
      ((start config world).run host power moves).alive +
        ((start config world).run host power moves).refusals := by
  rw [(balanced_run host power config world moves).users_eq, held_of_none quiet.opening,
    quiet.leaving]
  rfl

theorem refusals_eq_zero_iff (scene : Scene σ) :
    scene.refusals = 0 ↔ ∀ result ∈ scene.returned, result.isRefused = false := by
  simp [refusals, List.countP_eq_zero]

end

end Scene

/-! ## Openings that fail -/

namespace Accelerator

variable (host : Host Waiter σ) (power : PowerSwitch σ)

theorem powered_eq_true_iff {accelerator : Accelerator σ} :
    accelerator.attach.powered = true ↔ 0 < accelerator.users := decide_eq_true_iff

theorem powered_eq_false_iff {accelerator : Accelerator σ} :
    accelerator.attach.powered = false ↔ accelerator.users = 0 :=
  decide_eq_false_iff_not.trans (by rw [Nat.pos_iff_ne_zero, not_not]; rfl)

/-- The switch fails for the first user only. -/
theorem users_of_setPower_error {accelerator : Accelerator σ} {error : DriverError}
    (hfailed : (accelerator.setPower power true).1 = .error error) : accelerator.users = 0 := by
  by_contra hused
  have hheld : AttachTask.drives true (AttachTask.usersAfter true accelerator.attach.users) =
      false := by
    change ¬accelerator.attach.users = 0 at hused
    simp [AttachTask.drives, AttachTask.usersAfter, hused]
  have hok : (accelerator.setPower power true).1 = .ok () :=
    congrArg Prod.fst (AttachTask.setPower_held (siteSwitch power) true accelerator.attach hheld)
  cases hok.symm.trans hfailed

/-- Power is given up after an opening that has failed. -/
theorem users_released {result : Except DriverError DeviceContext × Accelerator σ}
    {error : DriverError} (hfailed : result.1 = .error error) :
    (released power result).users = result.2.users - 1 := by
  obtain ⟨outcome, accelerator⟩ := result
  cases hfailed
  exact users_setPower power false accelerator

/-- An opening that fails leaves power as it was, exactly if power has been switched on. -/
theorem powered_openDevice_iff (mode : PerformanceMode) {accelerator : Accelerator σ}
    {error : DriverError} (hfailed : (accelerator.openDevice host power mode).1 = .error error) :
    (accelerator.openDevice host power mode).2.attach.powered = accelerator.attach.powered ↔
      (accelerator.setPower power true).1 = .ok () := by
  cases hdevice : accelerator.device with
  | some context => simp [openDevice, hdevice] at hfailed
  | none =>
    rw [openDevice_of_unused host power mode hdevice] at hfailed ⊢
    have husers := users_setPower power true accelerator
    cases hpower : accelerator.setPower power true with
    | mk outcome powered =>
      rw [hpower] at husers hfailed
      cases outcome with
      | error refusal =>
        have hunused := users_of_setPower_error power (congrArg Prod.fst hpower)
        rw [hunused] at husers
        refine iff_of_false (fun hsame => ?_) fun hok => by cases hok
        have hbefore : accelerator.attach.powered = false := powered_eq_false_iff.mpr hunused
        have hafter : powered.attach.powered = true :=
          powered_eq_true_iff.mpr (husers.symm ▸ Nat.one_pos)
        cases hafter.symm.trans (hsame.trans hbefore)
      | ok _ =>
        refine iff_of_true ?_ rfl
        have hreleased : (released power (powered.connect host mode)).users = _ :=
          users_released power hfailed
        rw [users_connect, husers] at hreleased
        exact congrArg (fun users => decide (0 < users)) hreleased

/-- **Power.** However openings, clones and drops interleave with each other and with the attach
    task, and however the switch fails: when nobody is under way, the count of power is that of the
    contexts in use, exactly if no opening has been refused power so far. An opening that fails
    leaves power as it was, exactly if it has not been refused power. -/
theorem users_eq_iff_not_refused (config : DriverConfig) (world : σ) :
    (∀ moves : List (Scene.Move σ),
      let scene := (Scene.start config world).run host power moves
      scene.Quiet →
        (scene.accelerator.attach.users = (if scene.accelerator.device.isSome then 1 else 0) ↔
          ∀ result ∈ scene.returned, result.isRefused = false)) ∧
    ∀ (mode : PerformanceMode) (accelerator : Accelerator σ) (error : DriverError),
      (accelerator.openDevice host power mode).1 = .error error →
        ((accelerator.openDevice host power mode).2.attach.powered = accelerator.attach.powered ↔
          (accelerator.setPower power true).1 = .ok ()) := by
  refine ⟨?_, fun mode accelerator error hfailed =>
    powered_openDevice_iff host power mode hfailed⟩
  intro moves scene quiet
  have husers : scene.accelerator.attach.users = scene.alive + scene.refusals :=
    Scene.users_of_quiet host power config world moves quiet
  rw [← Scene.refusals_eq_zero_iff, husers]
  exact Nat.add_eq_left

/-- A device is opened, shared, closed by one of its users, and opened again by another. -/
def sharedMoves : List (Scene.Move Unit) :=
  [.openDevice .max, .drive, .drive, .drive, .step, .step, .look false, .bringUp, .clone, .drop,
    .openDevice .max]

/-- The context that is in use holds power, and an opening that comes to nothing gives it up. -/
theorem users_sharedMoves :
    (((Scene.start {} ()).run readyHost plugged sharedMoves).Quiet ∧
      ((Scene.start {} ()).run readyHost plugged sharedMoves).accelerator.attach.users = 1) ∧
      (unused.openDevice readyHost (.alwaysOn Unit) .max).1 = .error (.timeout 5000) ∧
      (unused.openDevice readyHost (.alwaysOn Unit) .max).2.attach.powered =
        unused.attach.powered := by
  have hquiet : ((Scene.start {} ()).run readyHost plugged sharedMoves).Quiet :=
    ⟨Option.isNone_iff_eq_none.mp (by decide +kernel), by decide +kernel,
      Option.isNone_iff_eq_none.mp (by decide +kernel)⟩
  have hdevice : ((Scene.start {} ()).run readyHost plugged
      sharedMoves).accelerator.device.isSome = true := by decide +kernel
  have hall : (((Scene.start {} ()).run readyHost plugged sharedMoves).returned.all
      fun result => !result.isRefused) = true := by decide +kernel
  have haccepted : ∀ result ∈ ((Scene.start {} ()).run readyHost plugged sharedMoves).returned,
      result.isRefused = false := by simpa using hall
  have husers := ((users_eq_iff_not_refused readyHost plugged {} ()).1 sharedMoves hquiet).mpr
    haccepted
  rw [if_pos hdevice] at husers
  have hlate : (unused.openDevice readyHost (.alwaysOn Unit) .max).1 = .error (.timeout 5000) := rfl
  exact ⟨⟨hquiet, husers⟩, hlate, ((users_eq_iff_not_refused readyHost (.alwaysOn Unit) {} ()).2
    .max unused _ hlate).mpr rfl⟩

/-- The attach task fails, and then a user asks for power. -/
def refusedMoves : List (Scene.Move Unit) :=
  [.announce (.transferFailed "lost"), .step, .openDevice .max, .drive]

/-- Power that nobody holds is counted for good. -/
theorem not_users_eq_of_refused :
    ¬∀ (σ : Type) (host : Host Waiter σ) (power : PowerSwitch σ) (config : DriverConfig)
      (world : σ) (moves : List (Scene.Move σ)),
      let scene := (Scene.start config world).run host power moves
      scene.Quiet →
        scene.accelerator.attach.users = if scene.accelerator.device.isSome then 1 else 0 := by
  intro h
  have husers := h Unit readyHost plugged {} () refusedMoves ⟨rfl, rfl, rfl⟩
  cases husers

end Accelerator

end TensorLink

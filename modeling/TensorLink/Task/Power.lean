import TensorLink.Task.Attach

/-!
# Power

Power is shared: the first user to ask for it switches it on, and the last one to give it up
switches it off. A switch may have a device plugged in or out as a consequence; these events are
posted to the attach task. Giving up power that nobody holds drives the switch off once more.

Reference: `edgetpu-driver`, `task`; SPEC_FULL 4.5, power.

* `users_setPower`: every request is counted, whatever the switch does.
* `setPower_held`: as long as others hold power, the switch is not driven.
-/

namespace TensorLink

/-- A power switch on something in state `σ`: driving it on or off may fail, and else leads to
events of the host (`PowerControl`). -/
structure PowerSwitch (σ : Type) where
  drive : Bool → σ → Except DriverError (List HostEvent) × σ

namespace PowerSwitch

/-- The switch of an accelerator that always has power (`AlwaysOn`). -/
def alwaysOn (σ : Type) : PowerSwitch σ := ⟨fun _ state => (.ok [], state)⟩

/-- The switch that plugs in a device with the given interfaces, and pulls it out (`SimulatedPlug`).
-/
def plug (σ : Type) (interfaces : List Interface) : PowerSwitch σ :=
  ⟨fun on state =>
    (.ok (if on then [.attach interfaces, .enumerationDone] else [.detach]), state)⟩

end PowerSwitch

namespace AttachTask

variable {σ : Type}

/-- Posts events in order, up to the first that is not taken. -/
def postAll : List HostEvent → AttachTask σ → Except DriverError Unit × AttachTask σ
  | [], task => (.ok (), task)
  | event :: rest, task =>
    match task.post event with
    | (.ok (), task) => postAll rest task
    | (.error error, task) => (.error error, task)

/-- The number of users after one has asked for power or given it up. They are counted without a
bound; a counter of 32 bits counts the same as long as fewer than `2 ^ 32` of them hold power at
once. -/
def usersAfter (enable : Bool) (users : Nat) : Nat := if enable then users + 1 else users - 1

/-- Whether the switch is driven when this many users are left after a request. -/
def drives (enable : Bool) (users : Nat) : Bool := users == (if enable then 1 else 0)

/-- Asks for power or gives it up (`set_power`). -/
def setPower (power : PowerSwitch σ) (enable : Bool) (task : AttachTask σ) :
    Except DriverError Unit × AttachTask σ :=
  let users := usersAfter enable task.users
  let counted := { task with users }
  if drives enable users then
    let (result, world) := power.drive enable task.world
    match result with
    | .error error => (.error error, { counted with world })
    | .ok events => { counted with world }.postAll events
  else (.ok (), counted)

/-- Whether anyone holds power (`get_power`). -/
def powered (task : AttachTask σ) : Bool := 0 < task.users

theorem users_postAll (events : List HostEvent) (task : AttachTask σ) :
    (task.postAll events).2.users = task.users := by
  induction events generalizing task with
  | nil => rfl
  | cons event rest ih =>
    unfold postAll post
    by_cases failed : task.state = .error <;> simp [failed, ih]

/-- Every request is counted, whatever the switch does. -/
theorem users_setPower (power : PowerSwitch σ) (enable : Bool) (task : AttachTask σ) :
    (task.setPower power enable).2.users = usersAfter enable task.users := by
  unfold setPower
  simp only
  split
  · split
    · rfl
    · rw [users_postAll]
  · rfl

/-- As long as others hold power, the switch is not driven. -/
theorem setPower_held (power : PowerSwitch σ) (enable : Bool) (task : AttachTask σ)
    (held : drives enable (usersAfter enable task.users) = false) :
    task.setPower power enable = (.ok (), { task with users := usersAfter enable task.users }) := by
  simp [setPower, held]

end AttachTask

end TensorLink

import TensorLink.Simulation.Scripted
import TensorLink.Task.Power

/-!
# A host in software

A host with one simulated device, whose transport stands behind every class driver. It records what
is asked of it, counts what succeeds, and may be told to refuse calls by their names. The same
record takes the calls of a listener and of a power switch.

Reference: `edgetpu-driver`, `software`; SPEC_FULL 2, software transport.
-/

namespace TensorLink.Simulation

/-- A call of a host, a listener or a power switch. -/
inductive HostCall where
  | openClass (interface : UInt8)
  | closeClass (interface : UInt8)
  | resetBus
  | requestReenumeration
  | connected (available : Bool)
  | failed
  | power (on : Bool)
  deriving DecidableEq, Repr

namespace HostCall

/-- The name of the kind of a call. -/
def name : HostCall → String
  | openClass _ => "open_class"
  | closeClass _ => "close_class"
  | resetBus => "reset_bus"
  | requestReenumeration => "request_reenumeration"
  | connected _ => "notify_connected"
  | failed => "notify_error"
  | power _ => "set_power"

/-- Whether a call was made of the host, and not of a listener or a switch. -/
def ofHost : HostCall → Bool
  | openClass _ | closeClass _ | resetBus | requestReenumeration => true
  | connected _ | failed | power _ => false

end HostCall

/-- The state of the host and its device (`SoftwareHost`). -/
structure Controller (κ δ : Type) where
  transport : Scripted κ δ
  /-- The names of the calls that are refused. -/
  refusing : List String := []
  /-- Whether class drivers fail to start. -/
  refusingClass : Bool := false
  /-- Whether the calls of a listener are recorded. -/
  listening : Bool := true
  opened : Nat := 0
  closed : Nat := 0
  resets : Nat := 0
  reenumerations : Nat := 0
  /-- The calls since the record was last taken, the latest first. -/
  calls : List HostCall := []

namespace Controller

variable {κ δ : Type}

/-- Records a call. -/
def note (call : HostCall) (controller : Controller κ δ) : Controller κ δ :=
  { controller with calls := call :: controller.calls }

/-- Records a call, and fails if its kind is refused. -/
def attempt (call : HostCall) : DeviceM (Controller κ δ) Unit := do
  modify (note call)
  if (← get).refusing.contains call.name then throw (.transferFailed s!"{call.name} refused")

/-- Opens the class driver of an interface. -/
def openClass (interface : Interface) : DeviceM (Controller κ δ) ClassHandle := do
  attempt (.openClass interface.number)
  let controller ← get
  if controller.refusingClass then
    throw (.transferFailed s!"class init refused for interface {interface.number.toNat}")
  set { controller with opened := controller.opened + 1 }
  return ⟨controller.opened + 1⟩

/-- Closes the class driver of an interface. -/
def closeClass (interface : Interface) (controller : Controller κ δ) : Controller κ δ :=
  { controller.note (.closeClass interface.number) with closed := controller.closed + 1 }

/-- The transport of the device, as a part of the host. -/
def bus : Part (Controller κ δ) (Scripted κ δ) :=
  ⟨Controller.transport, fun transport controller => { controller with transport }⟩

/-- The host. -/
def host (model : DeviceModel δ) : Host κ (Controller κ δ) where
  openClass := openClass
  closeClass := closeClass
  resetBus := do
    attempt .resetBus
    modify fun controller => { controller with resets := controller.resets + 1 }
  requestReenumeration := do
    attempt .requestReenumeration
    modify fun controller => { controller with reenumerations := controller.reenumerations + 1 }
  transport _ := (Scripted.transport model).within bus

/-- A listener whose calls are recorded, if they are to be. -/
def listener : Listener (Controller κ δ) where
  connected handle controller :=
    if controller.listening then controller.note (.connected handle.isSome) else controller
  failed controller := if controller.listening then controller.note .failed else controller

/-- A power switch that plugs nothing in or out. -/
def switch : PowerSwitch (Controller κ δ) where
  drive on controller :=
    let (result, controller) := (attempt (.power on)).outcome controller
    (result.map fun () => [], controller)

/-- The calls since the record was last taken, oldest first, and the host with none recorded. -/
def takeCalls (controller : Controller κ δ) : List HostCall × Controller κ δ :=
  (controller.calls.reverse, { controller with calls := [] })

end Controller

end TensorLink.Simulation

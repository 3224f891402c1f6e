import TensorLink.Accelerator.Connection
import TensorLink.Accelerator.Registry
import TensorLink.BringUp
import TensorLink.Task.Power
import TensorLink.Transport.Link

/-!
# A shared accelerator

One accelerator and all that its users share: the attach task, the connection that it reports, the
device context in use, and the registered packages.

The first user who opens the device switches the power on, waits for the connection and brings the
chip up; whoever opens it while a context is in use gets that context. The last user who closes it
switches the power off. A device that does not open leaves power as it was, unless the switch itself
has failed.

Reference: `edgetpu-driver`, `manager`; SPEC_FULL 4.6.
-/

namespace TensorLink

/-- Who waits for a completion: the attach task, or a link to an open device. -/
inductive Waiter where
  | attach (request : AttachState)
  | link (ticket : Ticket)
  deriving DecidableEq, Repr

/-- The connection beside the world that the attach task acts on. -/
structure Site (σ : Type) where
  connection : Connection := {}
  world : σ

namespace Site

variable {σ : Type}

/-- The connection, as a part. -/
def connectionPart : Part (Site σ) Connection :=
  ⟨connection, fun connection site => { site with connection }⟩

/-- The world, as a part. -/
def worldPart : Part (Site σ) σ := ⟨world, fun world site => { site with world }⟩

/-- The listener that keeps the connection. -/
def listener : Listener (Site σ) where
  connected handle := connectionPart.change (Connection.listener.connected handle)
  failed := connectionPart.change Connection.listener.failed

end Site

/-- An open device, brought up in some mode. -/
structure DeviceContext where
  /-- Tells the contexts of an accelerator apart. -/
  number : Nat
  handle : ClassHandle
  mode : PerformanceMode
  /-- How many users have the context open. -/
  references : Nat
  /-- The completions that wait for this context. -/
  link : Link Unit

/-- An accelerator and its users (`Manager`). -/
structure Accelerator (σ : Type) where
  config : DriverConfig
  attach : AttachTask (Site σ)
  device : Option DeviceContext := none
  /-- How many contexts have been made. -/
  contexts : Nat := 0
  registry : Registry := {}

namespace Accelerator

variable {σ : Type}

/-- The temperature while no device is open (`NO_DEVICE_TEMPERATURE`). -/
def absentTemperature : Float32 := -276.88

/-- An accelerator that nobody uses yet. -/
def new (world : σ) (config : DriverConfig) : Except DriverError (Accelerator σ) := do
  config.validate
  return { config, attach := { world := { world } } }

/-- The attach task, as a part. -/
def attachPart : Part (Accelerator σ) (AttachTask (Site σ)) :=
  ⟨attach, fun attach accelerator => { accelerator with attach }⟩

/-- The world that everything acts on. -/
def world (accelerator : Accelerator σ) : σ := accelerator.attach.world.world

/-- Changes the world. -/
def setWorld (world : σ) (accelerator : Accelerator σ) : Accelerator σ :=
  attachPart.change (AttachTask.act (Site.worldPart.replace world)) accelerator

/-- A power switch of the world, as one of the attach task's surroundings. -/
def siteSwitch (power : PowerSwitch σ) : PowerSwitch (Site σ) :=
  ⟨fun on => Site.worldPart.run (power.drive on)⟩

/-- Asks for power or gives it up. -/
def setPower (power : PowerSwitch σ) (enable : Bool) :
    Accelerator σ → Except DriverError Unit × Accelerator σ :=
  attachPart.run (AttachTask.setPower (siteSwitch power) enable)

/-- Posts an event of the host. -/
def post (event : HostEvent) : Accelerator σ → Except DriverError Unit × Accelerator σ :=
  attachPart.run (AttachTask.post event)

/-- Tells the connection something directly. -/
def notify (tell : Connection → Connection) : Accelerator σ → Accelerator σ :=
  attachPart.change (AttachTask.act (Site.connectionPart.change tell))

section

variable (host : Host Waiter σ)

/-- The host as the attach task sees it. -/
def siteHost : Host AttachState (Site σ) := (host.relabel Waiter.attach).within Site.worldPart

/-- Lets the attach task handle its oldest message. -/
def step : Accelerator σ → Accelerator σ :=
  attachPart.change (AttachTask.step (siteHost host) Site.listener)

/-- Lets the attach task handle every message. -/
def settle : Accelerator σ → Accelerator σ :=
  attachPart.change (AttachTask.settle (siteHost host) Site.listener)

/-- Lets the attach task handle up to so many messages, until the connection is decided
(`wait_for_transport`). -/
def approach : Nat → Accelerator σ → Accelerator σ
  | 0, accelerator => accelerator
  | count + 1, accelerator =>
    if accelerator.attach.world.connection.decided then accelerator
    else approach count (accelerator.step host)

/-- The transport that links to an open device use. -/
def carrier (handle : ClassHandle) : Transport Ticket σ :=
  (host.transport handle).relabel Waiter.link

/-- Hands a completion that came later to whoever waits for it. -/
def deliver (waiter : Waiter) (completion : Completion) (accelerator : Accelerator σ) :
    Accelerator σ :=
  match waiter, completion with
  | .attach request, .octets result =>
    attachPart.change (AttachTask.deliver request (result.map fun _ => ())) accelerator
  | .attach _, .count _ => accelerator
  | .link ticket, completion =>
    { accelerator with
      device := accelerator.device.map fun context =>
        { context with link := context.link.deliver ticket completion } }

/-! ## The open device -/

/-- Runs something over the link of a context, and keeps the link. -/
def overLink {α : Type} (context : DeviceContext) (operation : Link σ → α × Link σ)
    (accelerator : Accelerator σ) : α × Accelerator σ :=
  let (result, link) := operation (context.link.onto accelerator.world)
  (result, { accelerator.setWorld link.transport with
    device := some { context with link := link.onto () } })

/-- The sequences that run on a chip behind a class driver. -/
def sequences (handle : ClassHandle) (config : DriverConfig) : BringUp (Link σ) :=
  ⟨Link.registers (carrier host handle) config, Chip.beagle, config.pollLimit⟩

/-- Brings up the chip behind a class driver and makes a context for it. -/
def bringUp (handle : ClassHandle) (mode : PerformanceMode) (accelerator : Accelerator σ) :
    Except DriverError DeviceContext × Accelerator σ :=
  let number := accelerator.contexts
  let (result, link) := ((sequences host handle accelerator.config).run mode).outcome
    { owner := number, transport := accelerator.world }
  let accelerator := accelerator.setWorld link.transport
  match result with
  | .error error => (.error error, accelerator)
  | .ok () =>
    let context : DeviceContext := ⟨number, handle, mode, 1, link.onto ()⟩
    (.ok context, { accelerator with device := some context, contexts := number + 1 })

/-- Waits for the connection and brings the chip up. The wait ends with the first connection that is
known, and twice as many steps as there are messages decide it. -/
def connect (mode : PerformanceMode) (accelerator : Accelerator σ) :
    Except DriverError DeviceContext × Accelerator σ :=
  let accelerator := accelerator.approach host (2 * accelerator.attach.inbox.length)
  match accelerator.attach.world.connection.await accelerator.config.openTimeout with
  | .error error => (.error error, accelerator)
  | .ok handle => accelerator.bringUp host handle mode

/-- Opens the device (`open_device`). -/
def openDevice (power : PowerSwitch σ) (mode : PerformanceMode) (accelerator : Accelerator σ) :
    Except DriverError DeviceContext × Accelerator σ :=
  match accelerator.device with
  | some context =>
    let context := { context with references := context.references + 1 }
    (.ok context, { accelerator with device := some context })
  | none =>
    match accelerator.setPower power true with
    | (.error error, accelerator) => (.error error, accelerator)
    | (.ok (), accelerator) =>
      match accelerator.connect host mode with
      | (.ok context, accelerator) => (.ok context, accelerator)
      | (.error error, accelerator) => (.error error, (accelerator.setPower power false).2)

/-- Closes the context with a given number for one of its users (dropping a `DeviceContext`). -/
def closeDevice (power : PowerSwitch σ) (number : Nat) (accelerator : Accelerator σ) :
    Accelerator σ :=
  match accelerator.device with
  | none => accelerator
  | some context =>
    if context.number ≠ number then accelerator
    else if 1 < context.references then
      { accelerator with
        device := some { context with references := context.references - 1 } }
    else ({ accelerator with device := none }.setPower power false).2

/-- Runs something over the link of the device in use. -/
def onDevice {α : Type} (operation : DeviceContext → DeviceM (Link σ) α)
    (accelerator : Accelerator σ) : Except DriverError α × Accelerator σ :=
  match accelerator.device with
  | none => (.error .notConnected, accelerator)
  | some context => accelerator.overLink context (operation context).outcome

/-- The temperature of the chip in degrees Celsius (`temperature`). -/
def temperature (accelerator : Accelerator σ) : Except DriverError Float32 × Accelerator σ :=
  match accelerator.device with
  | none => (.ok absentTemperature, accelerator)
  | some context =>
    let measure := (sequences host context.handle accelerator.config).temperature
    accelerator.overLink context measure.outcome

/-! ## Packages -/

/-- Registers the package in a buffer (`register_package`). -/
def register (id : PackageId) (buffer : Bytes) (accelerator : Accelerator σ) :
    Except DriverError (Accelerator σ) := do
  return { accelerator with registry := ← accelerator.registry.register id buffer }

/-- How a run on an accelerator ended. -/
structure Run (σ : Type) where
  outcome : Except DriverError EventRecord
  outputs : List Bytes
  accelerator : Accelerator σ

/-- Runs a package on the device in use. -/
def invoke (id : PackageId) (input : Bytes) (outputs : List Bytes) (accelerator : Accelerator σ) :
    Run σ :=
  match accelerator.device with
  | none => ⟨.error .notConnected, outputs, accelerator⟩
  | some context =>
    let stream := Link.stream (carrier host context.handle) accelerator.config
    let (performed, accelerator) := accelerator.overLink context fun link =>
      let performed := accelerator.registry.invoke stream id input outputs link
      (performed, performed.stream)
    ⟨performed.outcome, performed.outputs, { accelerator with registry := performed.registry }⟩

end

end Accelerator

end TensorLink

import TensorLink.Accelerator.Sharing
import TensorLink.Command.Report
import TensorLink.Simulation.Controller
import TensorLink.Simulation.Device
import TensorLink.Task.Download
import TensorLink.Text.Fixed

/-!
# Demonstration

A run of everything on simulated devices: a chip is opened, its temperature read, and an inference
run that returns its input; then firmware is downloaded to a loader.

Reference: `edgetpu-cli`, the command `simulate`; SPEC_FULL 10.5.
-/

namespace TensorLink.Command.Demo

open TensorLink.Simulation

/-- The size of the tensors of the demonstration. -/
def tensorSize : Nat := 64

/-- The size of the firmware of the demonstration. -/
def firmwareSize : Nat := 10000

/-- An executable that sends its input and takes it back as its output (`demo_package`). -/
def echo : Executable where
  bitstreams := [[0xC0, 0xDE]]
  parameters := []
  hints := [.instruction 0, .range .inputActivation "input" 0 tensorSize,
    .range .outputActivation "output" 0 tensorSize]
  inputs := [Layer.dense "input" .fixedPoint8 1 1 tensorSize]
  outputs := [Layer.dense "output" .fixedPoint8 1 1 tensorSize]
  purpose := .standAlone
  cachingToken := 0

/-- The input of the inference. -/
def input : Bytes := (List.range tensorSize).map fun index => UInt8.ofNat (3 * index)

/-- The image that is downloaded. -/
def firmware : Bytes := (List.range firmwareSize).map fun index => UInt8.ofNat (index % 251)

/-- A host with a simulated device. -/
def world (κ : Type) (device : Device) : Controller κ Device :=
  { transport := { device } }

/-- The identity of the package. -/
def packageId : PackageId := ⟨0⟩

/-- How many register writes a device has seen. -/
def registerWrites (device : Device) : Nat :=
  match device.beagle? with
  | some chip => chip.writes.length
  | none => 0

/-- Runs an inference on a simulated chip. -/
def chip (config : DriverConfig) : RunM Unit := do
  let host : Host Waiter (Controller Waiter Device) := Controller.host Device.model
  let power := PowerSwitch.plug _ Interface.application
  RunM.line s!"Simulated Beagle ({config.mode.name} mode)"
  let accelerator ← RunM.ofExcept (Accelerator.new (world Waiter (.beagle Beagle.new)) config)
  let (opened, accelerator) := accelerator.openDevice host power config.mode
  let _ ← RunM.ofExcept opened
  RunM.line "  Bring-up     ok"
  let (temperature, accelerator) := accelerator.temperature host
  let celsius := Text.Fixed.ofFloat32 2 (← RunM.ofExcept temperature)
  RunM.line s!"  Temperature  {celsius} °C"
  let accelerator ← RunM.ofExcept (accelerator.register packageId (Package.encode [echo]))
  let outputs ← RunM.ofExcept (accelerator.registry.allocateOutputs packageId)
  let run := accelerator.invoke host packageId input outputs
  let event ← RunM.ofExcept run.outcome
  let output := run.outputs.headD []
  let verdict := if output = input then "matches" else "DIFFERS"
  RunM.line
    s!"  Invoke       {output.length} bytes out, event tag {event.tag.toNat}, echo {verdict}"
  RunM.line s!"  CSR writes   {registerWrites run.accelerator.world.transport.device}"

/-- Downloads firmware to a simulated loader. -/
def download : RunM Unit := do
  let host : Host DownloadState (Controller DownloadState Device) := Controller.host Device.model
  RunM.line "Simulated DFU device"
  let task ← RunM.ofExcept (DownloadTask.new (world DownloadState (.loader {})) firmware)
  let (attached, task) := task.post (.attach Interface.download)
  RunM.ofExcept attached
  let (enumerated, task) := task.post .enumerationDone
  RunM.ofExcept enumerated
  let (ended, task) := task.run host Controller.listener 5000
  let report ← RunM.ofExcept ended
  let blocks := report.history.count .transfer
  let readbacks := report.history.count .readBack
  RunM.line s!"  Download     {report.size} bytes, {blocks} blocks, {readbacks} readbacks"
  RunM.line s!"  Final state  {task.state.name}"

/-- The whole demonstration, under the given settings but in the given mode (`cmd_simulate`). -/
def run (lookup : String → Option String) (mode : PerformanceMode) : RunM Unit := do
  let config ← RunM.ofExcept (DriverConfig.ofSettings lookup)
  chip { config with mode }
  RunM.line ""
  download

end TensorLink.Command.Demo

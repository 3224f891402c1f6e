import TensorLink.Transport.Basic

/-!
# Hosts

The tasks that attach accelerators and download firmware act on a host: it opens and closes class
drivers for interfaces, resets the bus, and asks for devices to be enumerated again. An open class
driver is a transport, known by a handle. Whoever wants to hear of connections listens to a task.

Reference: `edgetpu-driver`, `host` and `task`; SPEC_FULL 4.4 and 4.5.
-/

namespace TensorLink

/-- An open class driver. -/
structure ClassHandle where
  number : Nat
  deriving DecidableEq, Repr

/-- A host in state `σ`; its transports label submissions with `κ` (`UsbHost`). -/
structure Host (κ σ : Type) where
  /-- Opens the class driver of an interface. -/
  openClass : Interface → DeviceM σ ClassHandle
  /-- Closes the class driver of an interface. -/
  closeClass : Interface → σ → σ
  resetBus : DeviceM σ Unit
  requestReenumeration : DeviceM σ Unit
  /-- The transport behind an open class driver. -/
  transport : ClassHandle → Transport κ σ

/-- The same host under other labels. -/
def Host.relabel {κ κ' σ : Type} (label : κ' → κ) (host : Host κ σ) : Host κ' σ where
  openClass := host.openClass
  closeClass := host.closeClass
  resetBus := host.resetBus
  requestReenumeration := host.requestReenumeration
  transport handle := (host.transport handle).relabel label

/-- A host in a part of a larger state. -/
def Host.within {κ σ τ : Type} (part : Part σ τ) (host : Host κ τ) : Host κ σ where
  openClass interface := part.focus (host.openClass interface)
  closeClass interface := part.change (host.closeClass interface)
  resetBus := part.focus host.resetBus
  requestReenumeration := part.focus host.requestReenumeration
  transport handle := (host.transport handle).within part

/-- Whoever hears of connections, in state `σ` (`ConnectionListener`). -/
structure Listener (σ : Type) where
  /-- A class driver has become usable, or there is none any more. -/
  connected : Option ClassHandle → σ → σ
  /-- A task has failed for good. -/
  failed : σ → σ

/-- The listener that does nothing. -/
def Listener.silent (σ : Type) : Listener σ where
  connected _ state := state
  failed state := state

/-- How many messages a task's queue holds before completions are lost (`TASK_QUEUE_DEPTH`). -/
def taskQueueDepth : Nat := 4

end TensorLink

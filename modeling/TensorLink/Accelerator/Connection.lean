import TensorLink.Task.Host

/-!
# Connections

What is known of an accelerator's connection: the class driver in use, if there is one, and whether
a task has failed for good. A connection learns of both as the listener of the attach task.

Reference: `edgetpu-driver`, `manager`; SPEC_FULL 4.6.
-/

namespace TensorLink

/-- The connection of an accelerator. -/
structure Connection where
  handle : Option ClassHandle := none
  failed : Bool := false
  deriving DecidableEq, Repr

namespace Connection

/-- Records that a class driver has become usable, or that there is none any more
(`notify_connected`). -/
def connect (handle : Option ClassHandle) (connection : Connection) : Connection :=
  { connection with handle }

/-- Records that a task has failed (`notify_error`). -/
def fail (_ : Connection) : Connection := { handle := none, failed := true }

/-- The connection as a listener of tasks. -/
def listener : Listener Connection := ⟨connect, fail⟩

/-- Whether there is nothing to wait for. -/
def decided (connection : Connection) : Bool := connection.failed || connection.handle.isSome

/-- What a wait of at most so many milliseconds for a connection ends with, when nothing more is on
its way (`wait_for_transport`). -/
def await (connection : Connection) (milliseconds : Nat) : Except DriverError ClassHandle :=
  if connection.failed then .error (.invalidState "attach task failed")
  else
    match connection.handle with
    | some handle => .ok handle
    | none => .error (.timeout milliseconds)

end Connection

end TensorLink

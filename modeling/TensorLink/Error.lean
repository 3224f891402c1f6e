import TensorLink.Model.Error
import TensorLink.Text.Hex

/-!
# Driver errors

What can go wrong between the host and an accelerator. `DriverError.message` is the one place that
words these errors; `isTransport` and `isTimeout` are the two classes that callers tell apart.

`DeviceM σ` is the type of operations on something in state `σ`: an operation ends with a value or a
driver error, and leaves a state either way.

Reference: `edgetpu-driver`, `error`; SPEC_FULL 7.
-/

namespace TensorLink

/-- Why an operation on an accelerator failed (`EdgeTpuError`). -/
inductive DriverError where
  /-- No file has this path. -/
  | fileNotFound (path : String)
  /-- A transfer failed or was refused. -/
  | transferFailed (reason : String)
  /-- No completion came within this many milliseconds. -/
  | timeout (milliseconds : Nat)
  /-- A register did not reach a condition within the allowed number of reads. -/
  | pollExhausted (offset : Nat) (condition : String) (attempts : Nat)
  /-- An endpoint that the operation needs is not open. -/
  | endpointUnavailable (address : UInt8) (reason : String)
  /-- The chip identifies itself as another chip. -/
  | chipIdMismatch (expected found : Nat)
  /-- The device answered, but not as the protocol demands. -/
  | protocol (reason : String)
  /-- The firmware read back differs from the image, first at this octet. -/
  | firmwareMismatch (offset : Nat)
  /-- A buffer cannot be provided. -/
  | resource (reason : String)
  /-- The caller passed an unusable argument. -/
  | invalidArgument (reason : String)
  /-- The caller asked for a package that is not registered, by the number of its identity. -/
  | unknownPackage (number : Nat)
  /-- The state of a task does not allow the operation. -/
  | invalidState (description : String)
  /-- No accelerator is connected. -/
  | notConnected
  /-- A setting has an unusable value. -/
  | config (key reason : String)
  /-- The model is unusable. -/
  | model (source : ModelError)
  /-- A file cannot be read. -/
  | io (detail : String)
  deriving DecidableEq, Repr

namespace DriverError

/-- The largest number of milliseconds that a timeout reports. -/
def maxMilliseconds : Nat := UInt64.size - 1

/-- The timeout after a wait of so many microseconds, in whole milliseconds. -/
def timeoutAfter (microseconds : Nat) : DriverError :=
  timeout (min (microseconds / 1000) maxMilliseconds)

/-- The name of the kind of an error. -/
def kind : DriverError → String
  | fileNotFound _ => "FileNotFound"
  | transferFailed _ => "TransferFailed"
  | timeout _ => "Timeout"
  | pollExhausted .. => "PollExhausted"
  | endpointUnavailable .. => "EndpointUnavailable"
  | chipIdMismatch .. => "ChipIdMismatch"
  | protocol _ => "Protocol"
  | firmwareMismatch _ => "FirmwareMismatch"
  | resource _ => "Resource"
  | invalidArgument _ | unknownPackage _ => "InvalidArgument"
  | invalidState _ => "InvalidState"
  | notConnected => "NotConnected"
  | config .. => "Config"
  | model _ => "Model"
  | io _ => "Io"

/-- The wording of an error. -/
def message : DriverError → String
  | fileNotFound path => s!"File not found: {path}"
  | transferFailed reason => s!"Transfer failed: {reason}"
  | timeout milliseconds => s!"Operation timeout after {milliseconds}ms"
  | pollExhausted offset condition attempts =>
    let register := Text.Hex.plain offset
    s!"Register {register} did not reach {condition} after {attempts} reads"
  | endpointUnavailable address reason =>
    let endpoint := Text.Hex.padded 2 address.toNat
    s!"Endpoint {endpoint} unavailable: {reason}"
  | chipIdMismatch expected found =>
    let wanted := Text.Hex.plain expected
    let read := Text.Hex.plain found
    s!"Chip id mismatch: expected {wanted}, found {read}"
  | protocol reason => s!"Protocol error: {reason}"
  | firmwareMismatch offset => s!"Firmware verification failed at byte {offset}"
  | resource reason => s!"Resource exhausted: {reason}"
  | invalidArgument reason => s!"Invalid argument: {reason}"
  | unknownPackage number => s!"Invalid argument: package {number} is not registered"
  | invalidState description => s!"Invalid state: {description}"
  | notConnected => "No Edge TPU connected"
  | config key reason => s!"Invalid configuration for {key}: {reason}"
  | model source => "Model error: " ++ source.message
  | io detail => s!"I/O error: {detail}"

/-- The wordings of the errors behind this one, outermost first. -/
def causes : DriverError → List String
  | model source => source.message :: source.causes
  | io detail => [detail]
  | _ => []

/-- Whether the transport failed, timeouts included. -/
def isTransport : DriverError → Bool
  | transferFailed _ | timeout _ | endpointUnavailable .. => true
  | _ => false

/-- Whether something took too long. -/
def isTimeout : DriverError → Bool
  | timeout _ | pollExhausted .. => true
  | _ => false

end DriverError

/-- An operation on something in state `σ`: it ends with a value or a driver error, and leaves a
state either way. -/
abbrev DeviceM (σ : Type) := EStateM DriverError σ

namespace DeviceM

/-- Runs an operation: its outcome and the state it leaves. -/
def outcome {σ α : Type} (operation : DeviceM σ α) (state : σ) : Except DriverError α × σ :=
  match operation state with
  | .ok value state => (.ok value, state)
  | .error error state => (.error error, state)

/-- The operation with a given outcome function. -/
def ofOutcome {σ α : Type} (run : σ → Except DriverError α × σ) : DeviceM σ α := fun state =>
  match run state with
  | (.ok value, state) => .ok value state
  | (.error error, state) => .error error state

/-- Ends an operation with an outcome that is already known. -/
def ofExcept {σ α : Type} : Except DriverError α → DeviceM σ α
  | .ok value => pure value
  | .error error => throw error

end DeviceM

end TensorLink

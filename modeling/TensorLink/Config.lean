import TensorLink.Error
import TensorLink.Register.Performance
import TensorLink.Text.Natural
import TensorLink.Wire

/-!
# Configuration

Timeouts and limits of the driver. Settings named in the environment replace the defaults; a setting
that cannot be read, or that the protocol cannot work with, is refused.

Reference: `edgetpu-driver`, `config`; SPEC_FULL 10.3.

* `validate_eq_ok_iff`: a configuration is usable if its chunk size and poll limit are positive.
-/

namespace TensorLink

/-- Timeouts in milliseconds, limits, and the mode in which a device is opened. -/
structure DriverConfig where
  /-- How long to wait for a control transfer. -/
  controlTimeout : Nat := 200
  /-- How long to wait for each bulk transfer of a payload or an output. -/
  bulkTimeout : Nat := 1000
  /-- How long to wait for the event that ends an inference. -/
  eventTimeout : Nat := 1000
  /-- The largest bulk transfer. -/
  maxChunk : Nat := maxBulkChunk
  /-- How often a register is read before bring-up gives up on it. -/
  pollLimit : Nat := 100000
  /-- How long to wait for an accelerator to connect. -/
  openTimeout : Nat := 5000
  mode : PerformanceMode := .preferred
  deriving DecidableEq, Repr

namespace DriverConfig

def modeKey : String := "EDGETPU_PERFORMANCE_MODE"

def controlTimeoutKey : String := "EDGETPU_CONTROL_TIMEOUT_MS"

def bulkTimeoutKey : String := "EDGETPU_BULK_TIMEOUT_MS"

def pollLimitKey : String := "EDGETPU_POLL_LIMIT"

def openTimeoutKey : String := "EDGETPU_OPEN_TIMEOUT_MS"

/-- Reads a setting, if it is made (`parse`). -/
def setting {α : Type} (lookup : String → Option String) (key : String)
    (read : String → Except String α) : Except DriverError (Option α) :=
  match lookup key with
  | none => .ok none
  | some raw =>
    match read (Text.trim raw) with
    | .ok value => .ok (some value)
    | .error fault => .error (.config key s!"'{raw}': {fault}")

/-- Reads a number below a limit. -/
def number (limit : Nat) (text : String) : Except String Nat :=
  (Text.Natural.read limit text).mapError Text.Natural.Fault.message

/-- Refuses a configuration that the protocol cannot work with. -/
def validate (config : DriverConfig) : Except DriverError Unit :=
  if config.maxChunk = 0 then .error (.config "max_bulk_chunk" "must be non-zero")
  else if config.pollLimit = 0 then .error (.config pollLimitKey "must be non-zero")
  else .ok ()

/-- The defaults with the settings that `lookup` gives in their place (`from_lookup`). -/
def ofSettings (lookup : String → Option String) : Except DriverError DriverConfig := do
  let base : DriverConfig := {}
  let mode ← setting lookup modeKey PerformanceMode.parse
  let control ← setting lookup controlTimeoutKey (number UInt64.size)
  let bulk ← setting lookup bulkTimeoutKey (number UInt64.size)
  let poll ← setting lookup pollLimitKey (number UInt32.size)
  let «open» ← setting lookup openTimeoutKey (number UInt64.size)
  let config : DriverConfig :=
    { base with
      mode := mode.getD base.mode
      controlTimeout := control.getD base.controlTimeout
      bulkTimeout := bulk.getD base.bulkTimeout
      eventTimeout := bulk.getD base.eventTimeout
      pollLimit := poll.getD base.pollLimit
      openTimeout := «open».getD base.openTimeout }
  config.validate
  return config

/-- A configuration is usable exactly if transfers move something and a wait tries at least once. -/
theorem validate_eq_ok_iff (config : DriverConfig) :
    config.validate = .ok () ↔ 0 < config.maxChunk ∧ 0 < config.pollLimit := by
  unfold validate
  by_cases chunk : config.maxChunk = 0
  · simp [chunk]
  · by_cases poll : config.pollLimit = 0
    · simp [chunk, poll]
    · simp only [chunk, poll, if_false, true_iff]
      omega

end DriverConfig

end TensorLink

import TensorLink.Error
import TensorLink.Wire

/-!
# Data streams

Whatever carries an inference: it sends tagged payloads, fills a buffer with outputs, and reports
the event that ends the inference.

Reference: `edgetpu-driver`, `stream`; SPEC_FULL 4.3.
-/

namespace TensorLink

/-- What became of a buffer that was to be filled. -/
structure Received where
  buffer : Bytes
  outcome : Except DriverError Unit

/-- A data stream over something in state `σ`. -/
structure DataStream (σ : Type) where
  /-- Sends a payload under a tag. -/
  send : StreamTag → Bytes → DeviceM σ Unit
  /-- Fills a buffer; a failure may leave it filled in part. -/
  receive : Bytes → σ → Received × σ
  /-- Reads one event. -/
  readEvent : DeviceM σ EventRecord

end TensorLink

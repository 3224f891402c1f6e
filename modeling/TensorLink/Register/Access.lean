import TensorLink.Error

/-!
# Register access

Whatever reads and writes registers of 32 and 64 bits: the control pipe of a chip, or a register
file that stands in for one.

Reference: `edgetpu-driver`, `csr`; SPEC_FULL 4.1.
-/

namespace TensorLink

/-- Access to the registers of something in state `σ` (`RegisterAccess`; SPEC_FULL 4.1). -/
structure RegisterAccess (σ : Type) where
  read32 : Nat → DeviceM σ (BitVec 32)
  read64 : Nat → DeviceM σ (BitVec 64)
  write32 : Nat → BitVec 32 → DeviceM σ Unit
  write64 : Nat → BitVec 64 → DeviceM σ Unit

end TensorLink

import TensorLink.Simulation.Beagle
import TensorLink.Simulation.Download

/-!
# Simulated devices

The device on a simulated bus is a chip in application mode or a firmware loader.
-/

namespace TensorLink.Simulation

/-- A simulated device of either kind. -/
inductive Device where
  | beagle (chip : Beagle)
  | loader (unit : Loader)

namespace Device

/-- An operation of either kind of device. -/
def dispatch {α : Type} (onBeagle : DeviceM Beagle α) (onLoader : DeviceM Loader α) :
    DeviceM Device α
  | .beagle chip =>
    match onBeagle chip with
    | .ok value chip => .ok value (.beagle chip)
    | .error error chip => .error error (.beagle chip)
  | .loader unit =>
    match onLoader unit with
    | .ok value unit => .ok value (.loader unit)
    | .error error unit => .error error (.loader unit)

/-- Either kind as a device on the bus. -/
def model : DeviceModel Device where
  control setup data := dispatch (Beagle.model.control setup data) (Loader.model.control setup data)
  bulkOut address data :=
    dispatch (Beagle.model.bulkOut address data) (Loader.model.bulkOut address data)
  bulkIn address size :=
    dispatch (Beagle.model.bulkIn address size) (Loader.model.bulkIn address size)

/-- Changes a chip in application mode, and leaves a loader as it is. -/
def mapBeagle (change : Beagle → Beagle) : Device → Device
  | .beagle chip => .beagle (change chip)
  | .loader unit => .loader unit

/-- The chip in application mode, if the device is one. -/
def beagle? : Device → Option Beagle
  | .beagle chip => some chip
  | .loader _ => none

end Device

end TensorLink.Simulation

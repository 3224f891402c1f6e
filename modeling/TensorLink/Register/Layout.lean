import TensorLink.Register.Field

/-!
# Register layouts

The registers that the host reads and changes, each as the list of its fields from bit 0 upwards;
the bits that no field names are reserved. The two temperature conversions belong to `Omc0Dc`.

Reference: `edgetpu-chip`, `fields`; SPEC_FULL 4.2.

* `Layout.fits`: every field of every layout lies within its register.
* `Layout.disjoint`: no two fields of a layout share a bit.
-/

namespace TensorLink

/-- A register's name, its width in bits and its named fields. -/
structure Layout where
  name : String
  bits : Nat
  fields : List Field

namespace Layout

/-- The field with a given name. -/
def find? (layout : Layout) (name : String) : Option Field :=
  layout.fields.find? (·.name == name)

end Layout

/-! ## Identity and temperature sensor -/

namespace Omc000

def testReg0 : Field := ⟨"test_reg0", 0, 8, .number⟩

def chipId : Field := ⟨"chip_id", 16, 16, .number⟩

def layout : Layout := ⟨"Omc000", 32, [testReg0, chipId]⟩

end Omc000

namespace Omc0D0

def adr : Field := ⟨"adr", 0, 4, .number⟩

def clkEn : Field := ⟨"clk_en", 4, 1, .flag⟩

def tref : Field := ⟨"tref", 8, 4, .number⟩

def tslope : Field := ⟨"tslope", 12, 4, .number⟩

def tSetting : Field := ⟨"t_setting", 16, 6, .number⟩

def layout : Layout := ⟨"Omc0D0", 32, [adr, clkEn, tref, tslope, tSetting]⟩

end Omc0D0

namespace Omc0D8

def enad : Field := ⟨"enad", 0, 1, .flag⟩

def envr : Field := ⟨"envr", 1, 1, .flag⟩

def enbg : Field := ⟨"enbg", 2, 1, .flag⟩

def layout : Layout := ⟨"Omc0D8", 32, [enad, envr, enbg]⟩

end Omc0D8

namespace Omc0Dc

def enthmc : Field := ⟨"enthmc", 0, 1, .flag⟩

def data : Field := ⟨"data", 16, 10, .number⟩

def layout : Layout := ⟨"Omc0Dc", 32, [enthmc, data]⟩

/-- The sensor's sample in thousandths of a degree Celsius: a step of the sample is a quarter of a
degree downwards, and sample 662 stands for 0.55 degrees. -/
def millicelsius (word : BitVec 32) : Int := (662 - (data.read word : Int)) * 250 + 550

/-- The sensor's sample in degrees Celsius, in single precision. -/
def celsius (word : BitVec 32) : Float32 := Float32.ofInt (millicelsius word) / 1000

end Omc0Dc

/-! ## Power and clocks -/

namespace ScuCtrl0

def pcieInactivePhyMode : Field := ⟨"rg_pcie_inact_phy_mode", 12, 3, .number⟩

def usbInactivePhyMode : Field := ⟨"rg_usb_inact_phy_mode", 15, 3, .number⟩

def layout : Layout := ⟨"ScuCtrl0", 32, [pcieInactivePhyMode, usbInactivePhyMode]⟩

end ScuCtrl0

namespace ScuCtrl2

def gatedGcb : Field := ⟨"rg_gated_gcb", 18, 2, .number⟩

def layout : Layout := ⟨"ScuCtrl2", 32, [gatedGcb]⟩

end ScuCtrl2

namespace ScuCtrl3

def powerState : Field := ⟨"cur_pwr_state", 8, 2, .number⟩

def forceSleep : Field := ⟨"rg_force_sleep", 22, 2, .number⟩

def gcbClock : Field := ⟨"gcb_clock_rate", 26, 2, .clock ["K500", "K250", "K125", "K63"]⟩

def axiClock : Field := ⟨"axi_clock_rate", 28, 1, .clock ["K125", "K250"]⟩

def usb8051Clock : Field := ⟨"usb_8051_clock_rate", 30, 1, .clock ["K250", "K500"]⟩

def layout : Layout := ⟨"ScuCtrl3", 32, [powerState, forceSleep, gcbClock, axiClock, usb8051Clock]⟩

end ScuCtrl3

/-! ## Tiles and idling -/

namespace IdleRegister

def counter : Field := ⟨"counter", 0, 31, .number⟩

def disableIdle : Field := ⟨"disable_idle", 31, 1, .flag⟩

def layout : Layout := ⟨"IdleRegister", 64, [counter, disableIdle]⟩

end IdleRegister

namespace TileConfig

def tile : Field := ⟨"tile", 0, 7, .number⟩

def layout : Layout := ⟨"TileConfig", 64, [tile]⟩

/-- The tile number that selects every tile. -/
def broadcastTile : Nat := 0x7F

/-- The selector that makes writes reach every tile. -/
def broadcast : BitVec 64 := tile.put broadcastTile 0

end TileConfig

namespace DeepSleep

def toSleepDelay : Field := ⟨"to_sleep_delay", 0, 8, .number⟩

def toWakeDelay : Field := ⟨"to_wake_delay", 8, 8, .number⟩

def layout : Layout := ⟨"DeepSleep", 64, [toSleepDelay, toWakeDelay]⟩

end DeepSleep

namespace Layout

/-- Every register layout that the host uses. -/
def all : List Layout :=
  [Omc000.layout, Omc0D0.layout, Omc0D8.layout, Omc0Dc.layout, ScuCtrl0.layout, ScuCtrl2.layout,
    ScuCtrl3.layout, IdleRegister.layout, TileConfig.layout, DeepSleep.layout]

/-- The fields of a register lie within its width. -/
theorem fits : ∀ layout ∈ all, ∀ field ∈ layout.fields,
    field.offset + field.width ≤ layout.bits := by decide

/-- The fields of a register do not overlap. -/
theorem disjoint : ∀ layout ∈ all, layout.fields.Pairwise fun low high =>
    low.offset + low.width ≤ high.offset := by decide

end Layout

end TensorLink

import TensorLink.Register.Layout
import TensorLink.Text.Blank

/-!
# Performance modes

A performance mode is one of four fixed settings of the three clocks that `scu_ctrl_3` selects. A
mode is read by its name, without regard to case or to blanks around it.

Reference: `edgetpu-chip`, `perf`; SPEC_FULL 4.2, step 6.

* `parse_name`: every mode is read back from its name.
-/

namespace TensorLink

/-- A preset of the chip's clocks. -/
inductive PerformanceMode where
  | low
  | medium
  | high
  | max
  deriving DecidableEq, Repr, Inhabited

/-- The rate of the core clock. -/
inductive GcbClock where
  | k500
  | k250
  | k125
  | k63
  deriving DecidableEq, Repr

/-- The rate of the fabric clock. -/
inductive AxiClock where
  | k125
  | k250
  deriving DecidableEq, Repr

/-- The rate of the clock of the USB controller. -/
inductive UsbClock where
  | k250
  | k500
  deriving DecidableEq, Repr

/-- The code of a core clock rate. -/
def GcbClock.code : GcbClock → Nat
  | k500 => 0
  | k250 => 1
  | k125 => 2
  | k63 => 3

/-- The code of a fabric clock rate. -/
def AxiClock.code : AxiClock → Nat
  | k125 => 0
  | k250 => 1

/-- The code of a USB controller clock rate. -/
def UsbClock.code : UsbClock → Nat
  | k250 => 0
  | k500 => 1

/-- The three clock rates of a preset. -/
structure ClockTriple where
  gcb : GcbClock
  axi : AxiClock
  usb : UsbClock
  deriving DecidableEq, Repr

namespace PerformanceMode

/-- Every mode, the slowest first. -/
def all : List PerformanceMode := [low, medium, high, max]

/-- The mode used when none is asked for. -/
def preferred : PerformanceMode := high

/-- The clock rates of a mode. -/
def clocks : PerformanceMode → ClockTriple
  | max => ⟨.k500, .k250, .k500⟩
  | high => ⟨.k250, .k125, .k500⟩
  | medium => ⟨.k125, .k125, .k500⟩
  | low => ⟨.k63, .k125, .k250⟩

/-- The nominal frequency of the core clock in megahertz (`gcb_mhz`). -/
def megahertz : PerformanceMode → Nat
  | max => 500
  | high => 250
  | medium => 125
  | low => 63

/-- Sets the clock fields of `scu_ctrl_3`. -/
def apply (mode : PerformanceMode) (word : BitVec 32) : BitVec 32 :=
  let clocks := mode.clocks
  ScuCtrl3.usb8051Clock.put clocks.usb.code
    (ScuCtrl3.axiClock.put clocks.axi.code (ScuCtrl3.gcbClock.put clocks.gcb.code word))

/-- The name of a mode. -/
def name : PerformanceMode → String
  | low => "low"
  | medium => "medium"
  | high => "high"
  | max => "max"

/-- The wording of the refusal of an unknown mode. -/
def unknown (text : String) : String :=
  s!"unknown performance mode '{text}' (expected low, medium, high or max)"

/-- The mode that a text names (`from_str`). -/
def parse (text : String) : Except String PerformanceMode :=
  match all.find? fun mode => mode.name == Text.foldCase (Text.trim text) with
  | some mode => .ok mode
  | none => .error (unknown text)

/-- The name of a mode names it. -/
theorem parse_name (mode : PerformanceMode) : parse mode.name = .ok mode := by
  cases mode <;> rfl

end PerformanceMode

end TensorLink

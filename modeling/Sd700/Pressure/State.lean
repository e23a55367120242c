import Mathlib.Data.Rat.Floor
import Sd700.Build.Contract

/-! The static variables of the pressure source controller and the decision record it emits.
Force and voltage expressions are read as exact rationals; clocks and frame stamps keep their
32-bit width, and the 8-bit counters keep their wrap. -/

namespace Sd700.Pressure.State
open Build.Contract

/-- An increment stored back into a `uint8_t`. -/
def u8 (n : Nat) : Nat := n % 256

/-- `lroundf`: nearest integer, halves away from zero. -/
def lround (q : ℚ) : ℤ :=
  if 0 ≤ q then ⌊q + 1 / 2⌋ else -⌊-q + 1 / 2⌋

inductive Mode
  | coarse | micro | fine | hold | stop | emergency
  deriving DecidableEq, Repr

inductive Action
  | wait | pulse | brake | approach | off
  deriving DecidableEq, Repr

/-- `s_pulse_*` and `s_cur_pulse_duration`: the boost shared by MICRO and FINE pulses. -/
structure Pulse where
  refPressure : ℚ
  boost : ℚ
  fbSnapshot : U32
  curDuration : Nat
  stallCnt : Nat
  forwardMs : Nat
  lastPositive : Bool

/-- `s_precision_*`: the small-step ladder used close to the target. -/
structure Precision where
  level : Nat
  extraMs : Nat
  tightestBand : Nat
  noRiseCnt : Nat
  escapeSteps : Nat
  latched : Bool
  stallCnt : Nat
  refPressure : ℚ
  fbStamp : U32

/-- `s_near_*`: the deceleration zone and the pause after a force jump. -/
structure Near where
  forwardActive : Bool
  stallLevel : Nat
  feedbackStamp : U32
  lastPressure : ℚ
  pauseStart : U32
  wait : Bool

/-- `s_last_valid_pressure` and `s_glitch_*`: confirmation of sudden readings. -/
structure Glitch where
  lastValid : ℚ
  cnt : Nat
  candidate : ℚ
  feedbackStamp : U32

/-- `s_reverse_*`: boost of the release direction. -/
structure Reverse where
  refPressure : ℚ
  boost : ℚ
  stallCnt : Nat

/-- `s_low_*`: two settled frames between pulses of a low target. -/
structure Low where
  feedbackStamp : U32
  settleFrames : Nat

/-- The fields of `PressureControl_t` that the controller reads. -/
structure Control where
  target : ℚ
  current : ℚ
  error : ℚ
  mode : Mode
  intervalMs : U32
  lastControlTime : U32
  pulseStart : U32
  pulseActive : Bool
  pulseEnd : U32

/-- The part of `ForceBuildDecision` written while `PressureControl_Update` runs. -/
structure Output where
  action : Action
  command : ℤ
  normalMs : Nat
  deriving DecidableEq, Repr

structure Source where
  ready : Bool
  control : Control
  pulse : Pulse
  precision : Precision
  near : Near
  glitch : Glitch
  reverse : Reverse
  low : Low
  hasContacted : Bool
  now : U32
  feedbackStamp : U32
  actualPressure : ℚ
  sequence : U64
  haveSequence : Bool
  out : Output

/-- `ForceBuildDecision`. -/
structure Decision where
  action : Action
  mode : BuildMode
  phase : Phase
  normalMs : Nat
  settleMs : Nat
  precisionLevel : Nat
  precisionExtraMs : Nat
  precisionEscape : Nat
  precisionBand : Nat
  boostCommand : ℤ
  stallCount : Nat
  command : ℤ
  filtered : ℚ
  precisionLatched : Bool
  nearWait : Bool
  deriving DecidableEq

/-- `(ForceBuildDecision){0}`. -/
def Decision.zero : Decision :=
  ⟨.wait, .none, .idle, 0, 0, 0, 0, 0, 0, 0, 0, 0, 0, false, false⟩

def Output.zero : Output :=
  ⟨.wait, 0, 0⟩

/-- `PULSE_DURATION_MS`. -/
def pulseDurationMs : Nat := 9

/-- `MICRO_FORWARD_MAX_MS`. -/
def microForwardMaxMs : Nat := 12

/-- `PRECISION_MAX_LEVEL`. -/
def precisionMaxLevel : Nat := 32

/-- `PRECISION_ESCAPE_MAX_STEPS`. -/
def precisionEscapeMaxSteps : Nat := 26

/-- `NEAR_STALL_MAX_LEVEL`. -/
def nearStallMaxLevel : Nat := 4

/-- The values `PressureControl_ResetAdaptive` gives the pulse statics. -/
def Pulse.initial : Pulse :=
  ⟨-1, 0, 0, pulseDurationMs, 0, pulseDurationMs, false⟩

def Precision.initial : Precision :=
  ⟨0, 0, 0, 0, 0, false, 0, -1, 0⟩

def Near.initial : Near :=
  ⟨false, 0, 0, -1, 0, false⟩

def Glitch.initial : Glitch :=
  ⟨-1, 0, -1, 0⟩

def Reverse.initial : Reverse :=
  ⟨-1, 0, 0⟩

def Low.initial : Low :=
  ⟨0, 0⟩

/-- Every static at its load-time value, before any `ForceBuildSource_Reset`. -/
def Source.initial : Source where
  ready := false
  control := ⟨0, 0, 0, .coarse, 0, 0, 0, false, 0⟩
  pulse := .initial
  precision := .initial
  near := .initial
  glitch := .initial
  reverse := .initial
  low := .initial
  hasContacted := false
  now := 0
  feedbackStamp := 0
  actualPressure := 0
  sequence := 0
  haveSequence := false
  out := .zero

/-- `SourceOutput_Brake`. -/
def Source.brake (s : Source) : Source :=
  { s with out := { s.out with action := .brake, command := 0 } }

/-- `SourceOutput_EmergencyStop`. -/
def Source.emergencyStop (s : Source) : Source :=
  { s with out := { s.out with action := .off, command := 0 } }

/-- `SourceOutput_SetVoltage`. -/
def Source.setVoltage (s : Source) (v : ℚ) : Source :=
  { s with out := { s.out with command := lround (v * 1000) } }

/-- `PressureControl_StartPulseTimer`. -/
def Source.startPulseTimer (s : Source) : Source :=
  { s with out := { s.out with action := .pulse, normalMs := s.pulse.curDuration } }

end Sd700.Pressure.State

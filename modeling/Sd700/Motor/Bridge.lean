import Sd700.Build.Contract

/-! The H-bridge of `motor_hw_real.c`: two shutdown pins and two PWM carriers. The executor is written
against `Hardware`, so that a bridge that does not obey can stand in for the one that does. -/

namespace Sd700.Motor.Bridge
open Build.Contract

/-- The calls of `motor_hw_real.h` that a Build executor makes, over the state of a bridge. -/
structure Hardware (Bridge : Type) where
  outputArmingAllowed : Bool
  isDisabled : Bridge → Bool
  matchesPlan : U16 → U16 → Bridge → Bool
  isBraking : Bridge → Bool
  disableImmediate : Bridge → Bridge
  initializeDisabled : Bridge → Bool × Bridge
  applyPress : U16 → Bridge → Bool × Bridge
  updatePress : U16 → Bridge → Bool × Bridge
  buildBrake : Bridge → Bool × Bridge
  buildFromBrake : U16 → Bridge → Bool × Bridge

/-- The registers: the shutdown pins, and of both carriers the compare value, the channel and the counter
enable. `configured` stands for the registers that only initialization writes. -/
structure Registers where
  initialized : Bool
  configured : Bool
  sd1 : Bool
  sd2 : Bool
  compare2 : U16
  compare3 : U16
  channel2 : Bool
  channel3 : Bool
  running2 : Bool
  running3 : Bool
  deriving DecidableEq

namespace Registers

/-- `MOTOR_HW_PWM_PERIOD_COUNTS`. -/
def periodCounts : U16 := 4799

variable (b : Registers)

def channelsOn : Bool := b.channel2 && b.channel3 && b.running2 && b.running3

def channelsOff : Bool := !b.channel2 && !b.channel3 && !b.running2 && !b.running3

/-- `MotorHwReal_IsDisabled`. -/
def isDisabled : Bool :=
  !b.sd1 && !b.sd2 && decide (b.compare2 = 0) && decide (b.compare3 = 0) && b.channelsOff

/-- `MotorHwReal_DisableImmediate`. -/
def disableImmediate : Registers :=
  { b with sd1 := false, sd2 := false, compare2 := 0, compare3 := 0, channel2 := false
           channel3 := false, running2 := false, running3 := false }

/-- `MotorHwReal_InitializeDisabled`, where the peripherals take their configuration. -/
def initializeDisabled : Bool × Registers :=
  (true, { b.disableImmediate with initialized := true, configured := true })

/-- `MotorHwReal_ZeroCarriersAreRunning`. -/
def zeroCarriersAreRunning : Bool :=
  !b.sd1 && !b.sd2 && decide (b.compare2 = 0) && decide (b.compare3 = 0) && b.channelsOn

/-- `MotorHwReal_ActiveCompareIsValid` towards PRESS. -/
def activeCompareIsValid (duty : U16) : Bool :=
  b.sd1 && b.sd2 && b.channelsOn && decide (b.compare2 = 0) && decide (b.compare3 = duty)

/-- `MotorHwReal_ActiveCompareIsValid` towards RELEASE. -/
def releaseCompareIsValid (duty : U16) : Bool :=
  b.sd1 && b.sd2 && b.channelsOn && decide (b.compare2 = duty) && decide (b.compare3 = 0)

/-- `MotorHwReal_FailApply`. -/
def failApply : Bool × Registers := (false, b.disableImmediate)

/-- `MotorHwReal_ApplyPress`: both carriers start with zero compares before the pins open. -/
def applyPress (armed : Bool) (duty : U16) : Bool × Registers :=
  let b := b.disableImmediate
  if ¬ b.initialized ∨ duty = 0 ∨ periodCounts < duty ∨ ¬ armed ∨ ¬ b.isDisabled then b.failApply
  else
    let b := { b with channel2 := true, channel3 := true, running2 := true, running3 := true }
    if ¬ b.zeroCarriersAreRunning then b.failApply
    else
      let b := { b with sd1 := true, sd2 := true, compare2 := 0, compare3 := duty }
      if ¬ b.activeCompareIsValid duty then b.failApply else (true, b)

/-- `MotorHwReal_Update` towards PRESS. -/
def updatePress (armed : Bool) (duty : U16) : Bool × Registers :=
  let previous := b.compare3
  if ¬ b.initialized ∨ ¬ armed ∨ previous = 0 ∨ duty = 0 ∨ periodCounts < duty ∨ ¬ b.configured ∨
      ¬ b.activeCompareIsValid previous then b.failApply
  else
    let b := { b with compare3 := duty }
    if ¬ b.activeCompareIsValid duty then b.failApply else (true, b)

/-- `MotorHwReal_MatchesPlan`. -/
def matchesPlan (t2 t3 : U16) : Bool :=
  if t2 = 0 ∧ t3 = 0 then b.isDisabled
  else if t2 ≠ 0 ∧ t3 ≠ 0 then false
  else b.configured && if t3 ≠ 0 then b.activeCompareIsValid t3 else b.releaseCompareIsValid t2

/-- `MotorHwReal_IsBraking`: both low sides on, nothing on the high sides. -/
def isBraking : Bool := b.initialized && b.configured && b.activeCompareIsValid 0

/-- `MotorHwReal_BuildBrake`. -/
def buildBrake (armed : Bool) : Bool × Registers :=
  if ¬ b.initialized ∨ ¬ armed ∨ ¬ b.configured ∨ ¬ b.activeCompareIsValid b.compare3 then b.failApply
  else
    let b := { b with compare2 := 0, compare3 := 0 }
    if b.isBraking then (true, b) else b.failApply

/-- `MotorHwReal_BuildFromBrake`. -/
def buildFromBrake (armed : Bool) (duty : U16) : Bool × Registers :=
  if ¬ b.isBraking ∨ ¬ armed ∨ duty = 0 ∨ periodCounts < duty then b.failApply
  else
    let b := { b with compare3 := duty }
    if b.activeCompareIsValid duty then (true, b) else b.failApply

end Registers

/-- The bridge of the board. `armed` is `MotorHwReal_OutputArmingAllowed`, fixed when it is built. -/
def Hardware.board (armed : Bool) : Hardware Registers where
  outputArmingAllowed := armed
  isDisabled := Registers.isDisabled
  matchesPlan t2 t3 b := b.matchesPlan t2 t3
  isBraking := Registers.isBraking
  disableImmediate := Registers.disableImmediate
  initializeDisabled := Registers.initializeDisabled
  applyPress duty b := b.applyPress armed duty
  updatePress duty b := b.updatePress armed duty
  buildBrake b := b.buildBrake armed
  buildFromBrake duty b := b.buildFromBrake armed duty

/-! ### What the registers of the board do -/

namespace Registers
variable {b : Registers} {duty : U16}

@[simp] theorem disableImmediate_disabled (b : Registers) : b.disableImmediate.isDisabled = true := rfl

@[simp] theorem disableImmediate_initialized (b : Registers) :
    b.disableImmediate.initialized = b.initialized := rfl

@[simp] theorem disableImmediate_configured (b : Registers) :
    b.disableImmediate.configured = b.configured := rfl

structure Drives (duty : U16) (b : Registers) : Prop where
  initialized : b.initialized = true
  configured : b.configured = true
  valid : b.activeCompareIsValid duty = true

theorem Drives.disabled (drives : Drives duty b) : b.isDisabled = false := by
  have pins := drives.valid
  simp only [activeCompareIsValid, Bool.and_eq_true] at pins
  simp [isDisabled, pins.1.1.1.1]

theorem Drives.compare (drives : Drives duty b) : b.compare3 = duty := by
  have pins := drives.valid
  simp only [activeCompareIsValid, Bool.and_eq_true, decide_eq_true_eq] at pins
  exact pins.2

theorem Drives.matches (drives : Drives duty b) (positive : duty ≠ 0#16) : b.matchesPlan 0#16 duty = true := by
  simp [matchesPlan, positive, drives.configured, drives.valid]

theorem Drives.braking (drives : Drives 0#16 b) : b.isBraking = true := by
  simp [isBraking, drives.initialized, drives.configured, drives.valid]

theorem isBraking_drives (braking : b.isBraking = true) : Drives 0#16 b := by
  simp only [isBraking, Bool.and_eq_true] at braking
  exact ⟨braking.1.1, braking.1.2, braking.2⟩

theorem Drives.set (drives : Drives duty b) (next : U16) : Drives next { b with compare3 := next } := by
  have pins := drives.valid
  simp only [activeCompareIsValid, channelsOn, Bool.and_eq_true, decide_eq_true_eq] at pins
  refine ⟨drives.initialized, drives.configured, ?_⟩
  simp [activeCompareIsValid, channelsOn, pins]

theorem drives_of_matches (initialized : b.initialized = true) (positive : duty ≠ 0#16)
    (matched : b.matchesPlan 0#16 duty = true) : Drives duty b := by
  unfold matchesPlan at matched
  rw [if_neg (by simp [positive]), if_neg (by simp), if_pos (show duty ≠ 0 from positive), Bool.and_eq_true]
    at matched
  exact ⟨initialized, matched.1, matched.2⟩

/-! A call that succeeds had an armed output and a bridge that was set up. -/

theorem applyPress_ok {armed : Bool} (ok : (b.applyPress armed duty).1 = true) :
    armed = true ∧ duty ≠ 0#16 ∧ (b.applyPress armed duty).2.initialized = true := by
  unfold applyPress at ok ⊢
  dsimp only at ok ⊢
  split at ok
  · exact nomatch ok
  rename_i admitted
  split at ok
  · exact nomatch ok
  rename_i running
  split at ok
  · exact nomatch ok
  rename_i valid
  rw [if_neg admitted, if_neg running, if_neg valid]
  push Not at admitted
  exact ⟨admitted.2.2.2.1, admitted.2.1, admitted.1⟩

theorem buildFromBrake_ok {armed : Bool} (ok : (b.buildFromBrake armed duty).1 = true) :
    armed = true ∧ duty ≠ 0#16 ∧ (b.buildFromBrake armed duty).2.initialized = true := by
  unfold buildFromBrake at ok ⊢
  dsimp only at ok ⊢
  split at ok
  · exact nomatch ok
  rename_i admitted
  split at ok
  · rename_i valid
    rw [if_neg admitted, if_pos valid]
    push Not at admitted
    exact ⟨admitted.2.1, admitted.2.2.1, (isBraking_drives admitted.1).initialized⟩
  · exact nomatch ok

theorem updatePress_ok {armed : Bool} (ok : (b.updatePress armed duty).1 = true) :
    armed = true ∧ duty ≠ 0#16 ∧ (b.updatePress armed duty).2.initialized = true := by
  unfold updatePress at ok ⊢
  dsimp only at ok ⊢
  split at ok
  · exact nomatch ok
  rename_i admitted
  split at ok
  · exact nomatch ok
  rename_i valid
  rw [if_neg admitted, if_neg valid]
  push Not at admitted
  exact ⟨admitted.2.1, admitted.2.2.2.1, admitted.1⟩

/-! On a bridge that works, they succeed. -/

theorem applyPress_drives (initialized : b.initialized = true) (configured : b.configured = true)
    (positive : duty ≠ 0#16) (bounded : duty ≤ periodCounts) :
    (b.applyPress true duty).1 = true ∧ Drives duty (b.applyPress true duty).2 := by
  have drives : Drives duty { b.disableImmediate with
      channel2 := true, channel3 := true, running2 := true, running3 := true
      sd1 := true, sd2 := true, compare2 := 0, compare3 := duty } :=
    ⟨initialized, configured, by simp [activeCompareIsValid, channelsOn]⟩
  unfold applyPress
  dsimp only
  rw [if_neg (by simp [initialized, positive, BitVec.not_lt.mpr bounded]), if_neg (by simp [zeroCarriersAreRunning, channelsOn, disableImmediate]),
    if_neg (by simp [activeCompareIsValid, channelsOn])]
  exact ⟨rfl, drives⟩

theorem buildBrake_drives (drives : Drives duty b) :
    (b.buildBrake true).1 = true ∧ Drives 0#16 (b.buildBrake true).2 := by
  have valid : b.activeCompareIsValid b.compare3 = true := by
    rw [drives.compare]
    exact drives.valid
  have zero : b.compare2 = 0 := by
    have pins := drives.valid
    simp only [activeCompareIsValid, Bool.and_eq_true, decide_eq_true_eq] at pins
    exact pins.1.2
  have same : { b with compare2 := 0, compare3 := 0 } = { b with compare3 := 0 } := by
    rw [← zero]
  have brakes : Drives 0#16 { b with compare2 := 0, compare3 := 0 } := by
    rw [same]
    exact drives.set 0#16
  unfold buildBrake
  rw [if_neg (by simp [drives.initialized, drives.configured, valid])]
  dsimp only
  rw [if_pos brakes.braking]
  exact ⟨rfl, brakes⟩

theorem buildFromBrake_drives (drives : Drives 0#16 b) (positive : duty ≠ 0#16) (bounded : duty ≤ periodCounts) :
    (b.buildFromBrake true duty).1 = true ∧ Drives duty (b.buildFromBrake true duty).2 := by
  have set := drives.set duty
  unfold buildFromBrake
  rw [if_neg (by simp [drives.braking, positive, BitVec.not_lt.mpr bounded])]
  dsimp only
  rw [if_pos set.valid]
  exact ⟨rfl, set⟩

theorem updatePress_drives {previous : U16} (drives : Drives previous b) (on : previous ≠ 0#16)
    (positive : duty ≠ 0#16) (bounded : duty ≤ periodCounts) :
    (b.updatePress true duty).1 = true ∧ Drives duty (b.updatePress true duty).2 := by
  have set := drives.set duty
  unfold updatePress
  rw [drives.compare]
  dsimp only
  rw [if_neg (by simp [drives.initialized, drives.configured, drives.valid, on, positive,
    BitVec.not_lt.mpr bounded]), if_neg (by simp [set.valid])]
  exact ⟨rfl, set⟩

end Registers

end Sd700.Motor.Bridge

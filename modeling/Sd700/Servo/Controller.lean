import Sd700.Servo.Config

/-! `ForceServo_Init`, `ForceServo_Prepare` and `ForceServo_Commit`: the trajectory, the filters and
the output shaping of the continuous controller. Float expressions are read exactly, over any ordered field;
the machine runs over the rationals. -/

namespace Sd700.Servo.Controller
open Config

/-- `ForceServo`. -/
structure ForceServoOver (K : Type) where
  reference : K
  referenceRate : K
  filtered : K
  derivative : K
  integral : K
  start : K
  target : K
  trajectoryS : K
  elapsedS : K
  previousCommitted : K
  initialized : Bool

abbrev ForceServo := ForceServoOver ℚ

/-- `FS_LIMIT_*`. -/
structure Limits where
  amplitude : Bool
  rate : Bool
  interlock : Bool
  quantization : Bool
  boost : Bool

/-- `ForceServoStep`. -/
structure StepOver (K : Type) where
  dtS : K
  reference : K
  referenceRate : K
  filtered : K
  error : K
  p : K
  i : K
  d : K
  ff : K
  rawOutput : K
  limitedOutput : K
  nextIntegral : K
  limits : Limits

abbrev Step := StepOver ℚ

variable {K : Type} [Field K] [LinearOrder K]

def ForceServoOver.zero : ForceServoOver K := ⟨0, 0, 0, 0, 0, 0, 0, 0, 0, 0, false⟩

abbrev ForceServo.zero : ForceServo := ForceServoOver.zero

/-- `FORCE_SERVO_REPRESENTABLE`. -/
def representable : K := 100000

def clamp (x lo hi : K) : K := min hi (max lo x)

/-- `(int32_t)x`: truncation towards zero. -/
def truncate [FloorRing K] (q : K) : ℤ := if 0 ≤ q then ⌊q⌋ else -⌊-q⌋

/-- `ForceServo_Init`. -/
def init (sqrtf : K → K) (p : BuildPolicy) (c : ForceServoConfig) (m target : K) :
    Option (ForceServoOver K) :=
  if ¬ configValid p c ∨ m < 0 ∨ representable < m ∨ target ≤ 0 ∨ representable < target then none
  else some { ForceServoOver.zero with
    start := m, filtered := m, reference := m, target := target
    trajectoryS := trajectorySeconds sqrtf c m target, initialized := true }

local instance atLeastTwo_two : Nat.AtLeastTwo 2 := ⟨le_refl 2⟩
local instance atLeastTwo_three : Nat.AtLeastTwo 3 := ⟨by omega⟩
local instance atLeastTwo_six : Nat.AtLeastTwo 6 := ⟨by omega⟩

/-- The trajectory point after `dt` more seconds: a cubic smoothstep. -/
def follow (s : ForceServoOver K) (dt : K) : ForceServoOver K :=
  let elapsed := min (s.elapsedS + dt) s.trajectoryS
  let x := if 0 < s.trajectoryS then elapsed / s.trajectoryS else 1
  { s with
    elapsedS := elapsed
    reference := s.start + (s.target - s.start) * x * x * (3 - 2 * x)
    referenceRate := if 0 < s.trajectoryS then (s.target - s.start) * 6 * x * (1 - x) / s.trajectoryS else 0 }

def observe (c : ForceServoConfig) (s : ForceServoOver K) (m dt : K) : ForceServoOver K :=
  let filtered := s.filtered + dt / (c.measurementFilterS + dt) * (m - s.filtered)
  { s with
    filtered := filtered
    derivative := s.derivative
      + dt / (c.dFilterS + dt) * ((filtered - s.filtered) / dt - s.derivative) }

/-- The rate limit on the clamped demand: a commissioning build ramps increasing magnitude only. -/
def limitRate (p : BuildPolicy) (c : ForceServoConfig) (previous amplitude dt : K) : K :=
  if p.commissioning then
    let origin := if 0 < amplitude * previous then previous else 0
    if 0 ≤ amplitude then min amplitude (origin + c.outputRate * dt)
    else max amplitude (origin - c.outputRate * dt)
  else clamp amplitude (previous - c.outputRate * dt) (previous + c.outputRate * dt)

def demand (p : BuildPolicy) (c : ForceServoConfig) (s : ForceServoOver K) (dt : K) : StepOver K :=
  let error := s.reference - s.filtered
  let i := if c.ki = 0 then 0 else s.integral
  let d := if c.kd = 0 then 0 else -(c.kd : K) * s.derivative
  let raw := c.kp * error + i + d + 0
  let amplitude := clamp raw (-c.releaseCap) c.pressCap
  let limited := limitRate p c s.previousCommitted amplitude dt
  { dtS := dt, reference := s.reference, referenceRate := s.referenceRate, filtered := s.filtered
    error := error, p := c.kp * error, i := i, d := d, ff := 0, rawOutput := raw
    limitedOutput := limited, nextIntegral := 0
    limits := ⟨decide (amplitude ≠ raw), decide (limited ≠ amplitude), false, false, false⟩ }

/-- `ForceServo_Prepare`. -/
def prepare (p : BuildPolicy) (c : ForceServoConfig) (s : ForceServoOver K) (m dt : K) :
    Option (ForceServoOver K × StepOver K) :=
  if ¬ s.initialized ∨ ¬ configValid p c ∨ m < 0 ∨ representable < m ∨
      dt < c.controlMinMs * (1 / 1000) ∨ c.feedbackGapMs * (1 / 1000) < dt then none
  else
    let s := observe c (follow s dt) m dt
    some (s, demand p c s dt)

/-- What `ForceServo_Prepare` admits of a measurement and a period. -/
def Admits (c : ForceServoConfig) (m dt : K) : Prop :=
  0 ≤ m ∧ m ≤ representable ∧ c.controlMinMs * (1 / 1000) ≤ dt ∧ dt ≤ c.feedbackGapMs * (1 / 1000)

/-- `ForceServo_Commit`. -/
def commit [FloorRing K] (p : BuildPolicy) (c : ForceServoConfig) (s : ForceServoOver K) (o : StepOver K)
    (committed : ℤ) : Option (ForceServoOver K × StepOver K) :=
  if ¬ configValid p c ∨ o.dtS ≤ 0 ∨ c.feedbackGapMs * (1 / 1000) < o.dtS ∨
      (c.pressCap : K) < committed ∨ (committed : K) < -c.releaseCap then none
  else
    let tracking : K :=
      if p.commissioning ∧ ¬ (o.limits.amplitude ∨ o.limits.rate ∨ o.limits.interlock) ∧
          committed = truncate o.limitedOutput then 0 else committed - o.rawOutput
    let next := if c.ki = 0 then 0
      else s.integral + o.dtS * (c.ki * o.error + c.trackingGain * tracking)
    let integral := clamp next c.integralMin c.integralMax
    some ({ s with integral := integral, previousCommitted := committed },
      { o with nextIntegral := integral })

end Sd700.Servo.Controller

import Sd700.Logic.Binary32
import Sd700.Build.Contract

/-! The build policy, the writable controller configuration and the compiled operating profile.
Both tables are kept as binary32 words, in wire order, because the code hashes, compares and
transmits them as words; their accessors read the words as rationals. -/

namespace Sd700.Servo.Config
open Logic.Binary32 Build.Contract

/-- The preprocessor selections of `motion_build_policy.h` that remain in a ForceServo build. -/
structure BuildPolicy where
  commissioning : Bool
  characterization : Bool
  buildToTarget : Bool
  characterization_commissioning : characterization = true → commissioning = true
  buildToTarget_characterization : buildToTarget = true → characterization = true

namespace BuildPolicy

def locked : BuildPolicy := ⟨false, false, false, by decide, by decide⟩
def commissioned : BuildPolicy := ⟨true, false, false, by decide, by decide⟩
def characterized : BuildPolicy := ⟨true, true, false, by decide, by decide⟩
def toTarget : BuildPolicy := ⟨true, true, true, by decide, by decide⟩

variable (p : BuildPolicy)

/-- `FORCE_SERVO_SCHEMA`. -/
def schema : U16 :=
  if p.characterization then (if p.buildToTarget then 0xF10D else 0xF109) else 0xF107

def pressOperatingCap : ℚ :=
  if p.characterization then 0 else if p.commissioning then 720 else 100

def commandCeiling : ℚ :=
  if p.characterization then (if p.buildToTarget then 12000 else 9600)
  else if p.commissioning then 9600 else 100

def liveProfileId : ℚ :=
  if p.characterization then (if p.buildToTarget then 7 else 5) else if p.commissioning then 4 else 1

end BuildPolicy

/-- `FS_RELEASE_OPERATING_CAP`, which is also the ceiling of a profile. -/
def releaseOperatingCap : ℚ := 100

/-! ### Controller configuration -/

/-- `FORCE_SERVO_PARAMETERS`: default, lower and upper bound of each field. -/
def parameters (p : BuildPolicy) : List (ℚ × ℚ × ℚ) :=
  let pick (a b : ℚ) : ℚ := if p.commissioning then a else b
  let choose (a b : ℚ) : ℚ := if p.characterization then a else b
  [ (pick 10 1, 0, 1000), (0, 0, 1000), (0, 0, 100), (1 / 50, 1 / 1000, 1),
    (pick 200 20, 1 / 10, 200), (pick 1000 40, 1 / 10, 1000), (1000, 1, 100000),
    (p.pressOperatingCap, choose 0 1, p.commandCeiling),
    (releaseOperatingCap, 1, releaseOperatingCap),
    (-1000, -5000, 0), (1000, 0, 5000), (5, 1 / 100, 100), (0, 0, 1), (5, 1, 50),
    (pick 125 40, 2, pick 125 40), (20, 1, 20), (pick 130 50, 3, pick 130 50),
    (5, 1 / 10, 20), (10, 1 / 5, 40), (choose 0 45000, choose 0 1000, 60000), (5000, 100, 30000),
    (50, 1, 275), (choose 5000 10000, 100, 30000), (2, 2, 100), (500, 0, 30000) ]

/-- `ForceServoConfig`: one word for each parameter. -/
structure ForceServoConfig where
  words : Vector Word 25
  deriving DecidableEq

theorem saturation_lt : 20 < 25 := by decide

namespace ForceServoConfig
variable (c : ForceServoConfig)

def kp : ℚ := value c.words[0]
def ki : ℚ := value c.words[1]
def kd : ℚ := value c.words[2]
def dFilterS : ℚ := value c.words[3]
def referenceRate : ℚ := value c.words[4]
def referenceAcceleration : ℚ := value c.words[5]
def outputRate : ℚ := value c.words[6]
def pressCap : ℚ := value c.words[7]
def releaseCap : ℚ := value c.words[8]
def integralMin : ℚ := value c.words[9]
def integralMax : ℚ := value c.words[10]
def trackingGain : ℚ := value c.words[11]
def measurementFilterS : ℚ := value c.words[12]
def controlMinMs : ℚ := value c.words[13]
def feedbackGapMs : ℚ := value c.words[14]
def sampleAgeMs : ℚ := value c.words[15]
def leaseMs : ℚ := value c.words[16]
def holdEnter : ℚ := value c.words[17]
def holdExit : ℚ := value c.words[18]
def sessionMs : ℚ := value c.words[19]
def saturationMs : ℚ := value c.words[20]
def trackingError : ℚ := value c.words[21]
def trackingMs : ℚ := value c.words[22]
def reverseDeadtimeMs : ℚ := value c.words[23]
def holdDwellMs : ℚ := value c.words[24]

/-- `config.press_cap = ...`. -/
def withPressCap (w : Word) : ForceServoConfig := ⟨c.words.set 7 w⟩

end ForceServoConfig

/-- `g_force_servo_default_config`. -/
def defaultConfig (p : BuildPolicy) : ForceServoConfig :=
  ⟨Vector.ofFn fun i => encode (((parameters p)[i.val]?.map (·.1)).getD 0)⟩

def inBounds (w : Word) (bound : ℚ × ℚ × ℚ) : Bool :=
  finite w && decide (value (encode bound.2.1) ≤ value w) && decide (value w ≤ value (encode bound.2.2))

def integral (q : ℚ) : Bool := (⌊q⌋ : ℚ) = q

/-- `ForceServo_ConfigValid`. -/
def configValid (p : BuildPolicy) (c : ForceServoConfig) : Bool :=
  (c.words.toList.zipWith inBounds (parameters p)).all id &&
  decide (c.integralMin < c.integralMax) && decide (c.holdEnter < c.holdExit) &&
  decide (c.controlMinMs < c.feedbackGapMs) && decide (c.feedbackGapMs < c.leaseMs) &&
  decide (c.sampleAgeMs < c.leaseMs) &&
  decide (c.trackingGain * c.feedbackGapMs * (1 / 1000) ≤ 1) &&
  ((p.characterization && decide (c.sessionMs = 0)) ||
    (decide (c.saturationMs ≤ c.sessionMs) && decide (c.trackingMs ≤ c.sessionMs))) &&
  [c.controlMinMs, c.feedbackGapMs, c.sampleAgeMs, c.leaseMs, c.sessionMs, c.saturationMs,
    c.holdDwellMs, c.trackingMs, c.reverseDeadtimeMs].all integral

/-- FNV-1a over the little-endian bytes of the words: `ForceServo_ConfigDigest` and its siblings. -/
def digest (words : List Word) : U32 :=
  let mix (h : U32) (byte : Word) : U32 := (h ^^^ byte) * 16777619
  words.foldl (fun h (u : Word) => (List.range 4).foldl (fun h (j : Nat) => mix h (u >>> (8 * j) &&& 255#32)) h)
    2166136261

/-! ### Operating profile -/

/-- `ForceServoProfile`: one word for each field of `FORCE_SERVO_PROFILE_FIELDS`. -/
structure ForceServoProfile where
  words : Vector Word 33
  deriving DecidableEq

theorem peakPress_lt : 15 < 33 := by decide

namespace ForceServoProfile
variable (p : ForceServoProfile)

def id : ℚ := value p.words[0]
def unit : ℚ := value p.words[1]
def qualifications : ℚ := value p.words[2]
def rawMin : ℚ := value p.words[3]
def rawTrip : ℚ := value p.words[4]
def scale : ℚ := value p.words[5]
def offset : ℚ := value p.words[6]
def calibrationMin : ℚ := value p.words[7]
def calibrationMax : ℚ := value p.words[8]
def operatingMax : ℚ := value p.words[9]
def forceTrip : ℚ := value p.words[10]
def hardwareBoundary : ℚ := value p.words[11]
def contact : ℚ := value p.words[12]
def continuousPress : ℚ := value p.words[13]
def release : ℚ := value p.words[14]
def peakPress : ℚ := value p.words[15]
def boostMs : ℚ := value p.words[16]
def boostTotalMs : ℚ := value p.words[17]
def taperMargin : ℚ := value p.words[18]
def energizedMs : ℚ := value p.words[19]
def sessionMs : ℚ := value p.words[20]
def captureMs : ℚ := value p.words[21]
def buildMs : ℚ := value p.words[22]
def progressWindowMs : ℚ := value p.words[23]
def progressUnits : ℚ := value p.words[24]
def noResponseMs : ℚ := value p.words[25]
def experimentEnabled : ℚ := value p.words[26]
def limitsSource : ℚ := value p.words[27]
def assistRiseMs : ℚ := value p.words[28]
def assistEndMs : ℚ := value p.words[29]
def offMs : ℚ := value p.words[30]
def responseUnits : ℚ := value p.words[31]
def excessiveRiseUnits : ℚ := value p.words[32]

/-- `profile.continuous_press = ...`. -/
def withContinuousPress (w : Word) : ForceServoProfile := ⟨p.words.set 13 w⟩

/-- `profile.peak_press = ...`. -/
def withPeakPress (w : Word) : ForceServoProfile := ⟨p.words.set 15 w⟩

end ForceServoProfile

/-- The values of `g_force_servo_profile`. -/
def profileDefaults (p : BuildPolicy) : List ℚ :=
  let choose (a b : ℚ) : ℚ := if p.characterization then a else b
  [ p.liveProfileId, choose 2 0, 0, 0, choose 3000 325, 1, 0, 0, 0, choose 3000 275,
    choose 3000 325, 0, if p.buildToTarget then 10 else 20, p.pressOperatingCap,
    releaseOperatingCap, 0, choose 4 0, choose 4 0, choose 30 0, choose 0 5000, choose 0 5000,
    choose 0 5000, choose 0 5000, 500, 2, 5000, 1, choose 3 1, choose 1 0, choose 2 0,
    choose 5000 0, choose 2 0, choose 25 0 ]

/-- `g_force_servo_profile`. -/
def liveProfile (p : BuildPolicy) : ForceServoProfile :=
  ⟨Vector.ofFn fun i => encode ((profileDefaults p)[i.val]?.getD 0)⟩

/-- One of `g_force_servo_candidates`. -/
def candidate (cid command : ℚ) : ForceServoProfile :=
  let values : List ℚ := [cid, 0, 0, 0, 325, 1, 0, 0, 0, 275, 325, 0, 20, 2400, 100, command, 0, 0,
    0, 0, 0, 0, 0, 500, 2, 5000, 0, 0, 0, 0, 0, 0, 0]
  ⟨Vector.ofFn fun i => encode (values[i.val]?.getD 0)⟩

/-- `g_force_servo_candidates`. -/
def candidates : List ForceServoProfile :=
  [candidate 20 4800, candidate 30 7200, candidate 40 9600]

/-- `(uint16_t)p->id` and its siblings: truncation of a nonnegative float. -/
def u16 (q : ℚ) : U16 := BitVec.ofInt 16 ⌊q⌋
def u32 (q : ℚ) : U32 := BitVec.ofInt 32 ⌊q⌋

/-- `ForceServo_FindProfile`. -/
def findProfile (p : BuildPolicy) (id : U16) : Option ForceServoProfile :=
  (liveProfile p :: candidates).find? fun profile => id = u16 profile.id

def disabledValid (f : ForceServoProfile) : Bool :=
  f.limitsSource = 0 ∧ f.unit = 0 ∧ f.scale = 1 ∧ f.offset = 0 ∧ f.continuousPress < f.peakPress ∧
    f.energizedMs = 0 ∧ f.sessionMs = 0 ∧ f.captureMs = 0 ∧ f.buildMs = 0 ∧ f.boostMs = 0 ∧
    f.boostTotalMs = 0 ∧ f.assistRiseMs = 0 ∧ f.assistEndMs = 0 ∧ f.offMs = 0

def rangesValid (f : ForceServoProfile) : Bool :=
  (1 ≤ f.id ∧ f.id ≤ 65535 ∧ integral f.id ∧ (f.unit = 0 ∨ f.unit = 1) ∧ 0 ≤ f.qualifications ∧
    f.qualifications ≤ 15 ∧ integral f.qualifications ∧ 0 ≤ f.rawMin ∧ f.rawTrip ≤ 65535 ∧
    f.rawMin < f.rawTrip ∧ integral f.rawMin ∧ integral f.rawTrip ∧ 0 < f.scale ∧
    0 < f.operatingMax ∧ f.operatingMax < f.forceTrip ∧ f.forceTrip ≤ 100000 ∧ 0 ≤ f.contact ∧
    f.contact < f.operatingMax ∧ 1 ≤ f.continuousPress ∧ f.continuousPress ≤ 2400 ∧
    1 ≤ f.release ∧ f.release ≤ releaseOperatingCap ∧ 0 ≤ f.peakPress ∧ f.peakPress ≤ 9600 ∧
    0 ≤ f.boostMs ∧ 0 ≤ f.boostTotalMs ∧ 0 ≤ f.taperMargin) ∧
  ((f.experimentEnabled = 0 ∨ f.experimentEnabled = 1) ∧ 0 ≤ f.limitsSource ∧ f.limitsSource ≤ 2 ∧
    integral f.limitsSource ∧ 0 ≤ f.assistRiseMs ∧ 0 ≤ f.assistEndMs ∧ 0 ≤ f.offMs ∧
    f.offMs ≤ 60000 ∧ 0 ≤ f.responseUnits ∧ 0 ≤ f.excessiveRiseUnits)

def assistValid (f : ForceServoProfile) : Bool :=
  0 < f.peakPress → 4 ≤ f.boostMs ∧ 1 ≤ f.assistRiseMs ∧ f.assistRiseMs < f.assistEndMs ∧
    f.assistEndMs ≤ f.boostMs - 2 ∧ 1 ≤ f.offMs ∧ 0 < f.taperMargin ∧ 0 < f.responseUnits ∧
    f.responseUnits < f.excessiveRiseUnits

def budgetValid (f : ForceServoProfile) : Bool :=
  (1 ≤ f.energizedMs ∧ f.energizedMs ≤ 60000 ∧ f.energizedMs ≤ f.sessionMs ∧ f.sessionMs ≤ 60000 ∧
    1 ≤ f.captureMs ∧ f.captureMs ≤ f.energizedMs ∧ 1 ≤ f.buildMs ∧ f.buildMs ≤ f.energizedMs ∧
    1 ≤ f.progressWindowMs ∧ f.progressWindowMs ≤ f.noResponseMs ∧ 0 < f.progressUnits ∧
    f.noResponseMs ≤ f.sessionMs ∧ f.boostMs ≤ f.energizedMs ∧ f.boostTotalMs ≤ 60000 ∧
    f.boostMs ≤ f.boostTotalMs) ∧
  [f.energizedMs, f.sessionMs, f.captureMs, f.buildMs, f.progressWindowMs, f.noResponseMs,
    f.boostMs, f.boostTotalMs, f.assistRiseMs, f.assistEndMs, f.offMs].all integral

def calibrationValid (f : ForceServoProfile) : Bool :=
  f.forceTrip < f.hardwareBoundary ∧ f.hardwareBoundary ≤ 100000 ∧ 0 ≤ f.calibrationMin ∧
    f.calibrationMin < f.operatingMax ∧ f.forceTrip ≤ f.calibrationMax ∧
    f.calibrationMax ≤ 100000 ∧ f.rawMin * f.scale + f.offset ≤ f.calibrationMin ∧
    f.forceTrip ≤ f.rawTrip * f.scale + f.offset

def characterizationValid (p : BuildPolicy) (f : ForceServoProfile) : Bool :=
  let live := liveProfile p
  (p.buildToTarget → f.peakPress = 0 ∧ f.continuousPress = 0) ∧
    (f.withPeakPress live.words[15]).withContinuousPress live.words[13] = live ∧
    0 ≤ f.continuousPress ∧ f.continuousPress ≤ 2400 ∧ integral f.continuousPress ∧
    0 ≤ f.peakPress ∧ f.peakPress ≤ 9600 ∧ integral f.peakPress

/-- `ForceServo_ProfileValid`. -/
def profileValid (p : BuildPolicy) (f : ForceServoProfile) : Bool :=
  f.words.toList.all finite &&
    if p.characterization ∧ f.unit = 2 then characterizationValid p f
    else rangesValid f &&
      if f.experimentEnabled = 0 then disabledValid f
      else decide (f.limitsSource ≠ 0) && assistValid f && budgetValid f &&
        if f.unit = 0 then decide (f.scale = 1 ∧ f.offset = 0) else calibrationValid f

/-- `ForceServo_ProfileConfigValid`. -/
def profileConfigValid (p : BuildPolicy) (f : ForceServoProfile) (c : ForceServoConfig) : Bool :=
  profileValid p f && configValid p c &&
    if p.characterization ∧ f.unit = 2 then
      decide (c.withPressCap (defaultConfig p).words[7] = defaultConfig p) &&
        decide (c.pressCap = f.continuousPress)
    else decide (c.pressCap ≤ f.continuousPress) && decide (c.releaseCap ≤ f.release)

/-! ### Targets and plans -/

/-- `ForceServoRejection`. -/
inductive Rejection
  | ok | profileInvalid | missingSensorRange | missingCalibration | missingMechanicalLimit
  | missingCurrentTimeLimit | targetOutsideOperatingRange | targetOutsideCalibration
  | trajectoryExceedsBudget | boostUnqualified | wrongTargetUnit | experimentLimitsUnreviewed
  | coolingRequired
  deriving DecidableEq

def missingQualification (f : ForceServoProfile) : Option Rejection :=
  let q := u32 f.qualifications
  if q &&& 1 = 0 then some .missingSensorRange
  else if q &&& 2 = 0 then some .missingCalibration
  else if q &&& 4 = 0 then some .missingMechanicalLimit
  else if q &&& 8 = 0 then some .missingCurrentTimeLimit
  else none

/-- `ForceServo_TargetAllowed` behind the qualification bits. -/
def targetInRange (p : BuildPolicy) (f : ForceServoProfile) (t : ℚ) (newtons : Bool) : Rejection :=
  if ¬ profileValid p f then .profileInvalid
  else if newtons ≠ decide (f.unit = 1) then .wrongTargetUnit
  else if t ≤ 0 ∨ f.operatingMax < t then .targetOutsideOperatingRange
  else if f.unit = 1 ∧ (t < f.calibrationMin ∨ f.calibrationMax < t) then .targetOutsideCalibration
  else .ok

/-- `ForceServo_TargetAllowed`. -/
def targetAllowed (p : BuildPolicy) (f : ForceServoProfile) (t : ℚ) (newtons : Bool) : Rejection :=
  if ¬ finite f.words[2] ∨ f.qualifications < 0 ∨ 15 < f.qualifications then .profileInvalid
  else if p.characterization ∧ f.unit = 2 then
    if ¬ profileValid p f then .profileInvalid
    else if ¬ newtons then .wrongTargetUnit
    else if 1 ≤ t ∧ t ≤ 3000 ∧ integral t then .ok
    else .targetOutsideOperatingRange
  else
    match if newtons ∨ f.unit = 1 then missingQualification f else none with
    | some missing => missing
    | none => targetInRange p f t newtons

/-- `ForceServo_Measure`. -/
def measure (p : BuildPolicy) (f : ForceServoProfile) (raw : U32) (control : ℤ) : Option ℚ :=
  let counts : ℚ := raw.toNat
  if ¬ profileValid p f then none
  else if p.characterization ∧ f.unit = 2 then
    if 3000 < raw.toNat ∨ control ≠ raw.toNat then none else some counts
  else if counts < f.rawMin ∨ f.rawTrip ≤ counts then none
  else
    let m := if f.unit = 1 then counts * f.scale + f.offset else control
    if 0 ≤ m ∧ m < f.forceTrip ∧ (f.unit = 1 → f.calibrationMin ≤ m ∧ m ≤ f.calibrationMax) then some m
    else none

/-- `ForceServo_BoostQualified`. -/
def boostQualified (p : BuildPolicy) (f : ForceServoProfile) : Bool :=
  profileValid p f &&
    if p.characterization ∧ f.unit = 2 then decide (0 < f.peakPress)
    else decide (f.experimentEnabled ≠ 0 ∧ (f.unit = 0 ∨ f.qualifications = 15) ∧
      f.continuousPress < f.peakPress ∧ f.peakPress ≤ p.commandCeiling ∧ 0 < f.boostMs ∧
      f.boostMs ≤ f.boostTotalMs ∧ 0 < f.taperMargin)

local instance atLeastTwo_two : Nat.AtLeastTwo 2 := ⟨le_refl 2⟩
local instance atLeastTwo_three : Nat.AtLeastTwo 3 := ⟨by omega⟩
local instance atLeastTwo_six : Nat.AtLeastTwo 6 := ⟨by omega⟩

/-- `ForceServo_TrajectorySeconds`, with the square root of the target's math library. -/
def trajectorySeconds {K : Type} [Field K] [LinearOrder K] (sqrtf : K → K) (c : ForceServoConfig) (m t : K) : K :=
  let distance := |t - m|
  max (3 / 2 * distance / (c.referenceRate : K)) (sqrtf (6 * distance / (c.referenceAcceleration : K)))

def planTarget (p : BuildPolicy) (f : ForceServoProfile) (c : ForceServoConfig) (m t : ℚ) : Rejection :=
  if f.experimentEnabled = 0 then .experimentLimitsUnreviewed
  else if ¬ profileConfigValid p f c ∨ m < 0 ∨
      (f.forceTrip ≤ m ∧ ¬ (p.buildToTarget ∧ m = 3000 ∧ t = 3000)) then .profileInvalid
  else targetAllowed p f t (f.unit ≠ 0)

/-- `ForceServo_PlanAllowed`. -/
def planAllowed (sqrtf : ℚ → ℚ) (p : BuildPolicy) (f : ForceServoProfile) (c : ForceServoConfig)
    (m t : ℚ) : Rejection :=
  match planTarget p f c m t with
  | .ok =>
    if p.characterization ∧ f.unit = 2 then .ok
    else
      let seconds := trajectorySeconds sqrtf c m t
      let budget := min f.energizedMs (min f.sessionMs c.sessionMs)
      if budget < seconds * 1000 + c.holdDwellMs ∨ f.buildMs < seconds * 1000 then .trajectoryExceedsBudget
      else .ok
  | rejected => rejected

/-! ### Characterization plans -/

/-- `ForceCharacterizationPlan`. -/
structure Plan where
  targetN : Word
  assistPercent : Word
  continuousPercent : Word
  deriving DecidableEq

/-- `ForceServo_PercentCommand`, with the two roundings of its float expression. -/
def percentCommand (percent : Word) : ℤ :=
  ⌊value (encode (value (encode (value percent * 240)) + 1 / 2))⌋

/-- `ForceServo_CharacterizationPlanValid`. -/
def planValid (p : BuildPolicy) (plan : Plan) : Bool :=
  finite plan.targetN ∧ finite plan.assistPercent ∧ finite plan.continuousPercent ∧
    (p.buildToTarget → value plan.assistPercent = 0 ∧ value plan.continuousPercent = 0) ∧
    1 ≤ value plan.targetN ∧ value plan.targetN ≤ 3000 ∧ integral (value plan.targetN) ∧
    0 ≤ value plan.assistPercent ∧ value plan.assistPercent ≤ 40 ∧
    0 ≤ value plan.continuousPercent ∧ value plan.continuousPercent ≤ 10

/-- `ForceServo_CharacterizationDigest`. -/
def planDigest (plan : Plan) : U32 :=
  digest [plan.targetN, plan.assistPercent, plan.continuousPercent]

end Sd700.Servo.Config

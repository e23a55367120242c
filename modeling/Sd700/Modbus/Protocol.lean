import Sd700.Servo.Machine

/-! The register protocol of a ForceServo build: `force_servo_protocol.c`, the semantic map it
overlays, and the read request of the RTU server. -/

namespace Sd700.Modbus.Protocol
open Build.Contract Logic.Binary32 Servo.Config Servo.Controller Servo.State Servo.BuildMachine
  Servo.Machine Motor.Interface

variable {Exec : Type} (env : Platform Exec)

/-! ### Register map -/

def regBegin : U16 := 0x100
def regCommit : U16 := 0x101
def regSnapshot : U16 := 0x102
def regTargetN : U16 := 0x103
def regProfileSelect : U16 := 0x104
def regConfig : U16 := 0x110
def regProfile : U16 := 0x180
def regCandidates : U16 := 0x400
def regPlanBegin : U16 := 0x500
def regPlanCommit : U16 := 0x501
def regPlanStage : U16 := 0x510
def regPlanAck : U16 := 0x520
def regPlanArm : U16 := 0x524
def regPlanActive : U16 := 0x540
def regBuildConfig : U16 := 0x600
def inputInfo : U16 := 0x100
def inputSnapshot : U16 := 0x200
def coilStart : U16 := 0x10
def coilReset : U16 := 0x11

def offset (base : U16) (count : Nat) (a : U16) : Option Nat :=
  if base ≤ a ∧ a.toNat < base.toNat + count then some (a.toNat - base.toNat) else none

def half (index : Nat) (u : U32) : U16 :=
  if index % 2 = 0 then u.extractLsb' 16 16 else u.extractLsb' 0 16

/-- `(uint16_t)(1U << i)`. -/
def bit16 (i : Nat) : U16 := 1#16 <<< i

def word32 (high low : U16) : U32 := high ++ low

/-- `FORCE_SERVO_CONFIG_WORDS`, `FORCE_SERVO_PROFILE_WORDS` and `FORCE_BUILD_CONFIG_WORDS`. -/
def configWords : Nat := 50
def profileWords : Nat := 66
def buildConfigWords : Nat := 90

/-- `FORCE_SERVO_DIAG_WORDS`. -/
def diagnosticCount (p : BuildPolicy) : Nat := if p.buildToTarget then 332 else 226

def planAddress (a : U16) : Bool :=
  a = regPlanBegin ∨ a = regPlanCommit ∨ a = regPlanArm ∨ (offset regPlanStage 10 a).isSome ∨
    (offset regPlanAck 4 a).isSome

/-- `ForceServoProtocol_WriteAddress`. -/
def writeAddress (p : BuildPolicy) (function : BitVec 8) (a : U16) : Bool :=
  (function = 5 ∧ (a = coilStart ∨ a = coilReset)) ∨
    (function = 6 ∧ ((regBegin ≤ a ∧ a ≤ regProfileSelect) ∨ (offset regConfig configWords a).isSome ∨
      (p.characterization ∧ planAddress a)))

/-! ### Plans -/

def stagedPlan (s : PlanState) : Plan × U32 × U32 :=
  (⟨word32 s.staging[0] s.staging[1], word32 s.staging[2] s.staging[3],
      word32 s.staging[4] s.staging[5]⟩,
    word32 s.staging[6] s.staging[7], word32 s.staging[8] s.staging[9])

def plannedTuning (p : BuildPolicy) (plan : Plan) : ForceServoProfile × ForceServoConfig :=
  let peak := encode (percentCommand plan.assistPercent)
  let cap := encode (percentCommand plan.continuousPercent)
  (((liveProfile p).withPeakPress peak).withContinuousPress cap, (defaultConfig p).withPressCap cap)

/-- The `invalid` exit of `plan_write`. -/
def invalidPlan (w : System Exec) : System Exec × CommandResult :=
  ({ w with
    plan := { w.plan with available := false, stagingOpen := false }
    targetValid := false }, .invalidValue)

/-- The staged halves are complete, carry the present version and describe a valid plan. -/
def planComplete (s : PlanState) : Bool :=
  let staged := stagedPlan s
  s.mask = 0x3FF ∧ s.version ≠ 0xFFFFFFFF ∧ staged.2.1 = s.version ∧
    planValid env.policy staged.1 ∧ staged.2.2 = planDigest staged.1 ∧
    profileConfigValid env.policy (plannedTuning env.policy staged.1).1
      (plannedTuning env.policy staged.1).2

def quiescent (w : System Exec) : Bool :=
  w.state = .idle ∧ ¬ w.session.active ∧ ¬ w.session.startPending ∧ outputIsDisabled env w ∧
    ¬ (snapshot env w).logicalActive

def installPlan (w : System Exec) : System Exec :=
  let plan := (stagedPlan w.plan).1
  let tuned := plannedTuning env.policy plan
  { w with
    plan := { w.plan with
      plan := plan, digest := planDigest plan, version := w.plan.version + 1
      readMask := 0, ackMask := 0, available := true }
    tuning := ⟨tuned.2, tuned.1, w.plan.version + 2, digest tuned.2.words.toList⟩
    targetUnits := truncate (value plan.targetN), targetValid := true
    controller := ForceServo.zero }

def commitPlan (now : U32) (w : System Exec) : System Exec × CommandResult :=
  let w := { w with plan := { w.plan with stagingOpen := false } }
  if ¬ planComplete env w.plan then invalidPlan w
  else if ¬ quiescent env w then invalidPlan w
  else (tick env now (installPlan env w), .accepted)

/-- The evidence an ARM needs: all twelve words read back, all four acknowledged as they stand. -/
def armEvidence (s : PlanState) : Bool :=
  s.available ∧ s.readMask = 0xFFF ∧ s.ackMask = 15 ∧ word32 s.ack[0] s.ack[1] = s.version ∧
    word32 s.ack[2] s.ack[3] = s.digest

/-- `plan_write`: any editing or error revokes START authority. -/
def planWrite (a v : U16) (now : U32) (w : System Exec) : System Exec × CommandResult :=
  let w := { w with plan := { w.plan with armed := false } }
  if a = regPlanBegin ∧ v = 0xB501 then
    ({ w with
      plan := { w.plan with
        stagingOpen := true, mask := 0, readMask := 0, ackMask := 0, available := false }
      targetValid := false }, .accepted)
  else if (offset regPlanStage 10 a).isSome ∧ w.plan.stagingOpen then
    let i := a.toNat - regPlanStage.toNat
    ({ w with plan := { w.plan with
        staging := w.plan.staging.setIfInBounds i v, mask := w.plan.mask ||| bit16 i } }, .accepted)
  else if a = regPlanCommit ∧ v = 0xC501 ∧ w.plan.stagingOpen then commitPlan env now w
  else if (offset regPlanAck 4 a).isSome ∧ w.plan.available then
    let i := a.toNat - regPlanAck.toNat
    ({ w with plan := { w.plan with
        ack := w.plan.ack.setIfInBounds i v, ackMask := w.plan.ackMask ||| bit16 i } }, .accepted)
  else if a = regPlanArm ∧ v = 0xA501 ∧ armEvidence w.plan then
    ({ w with plan := { w.plan with armed := true } }, .accepted)
  else invalidPlan w

/-! ### Configuration uploads -/

def reject (rejection : Rejection) (w : System Exec) : System Exec :=
  { w with report := { w.report with rejection := rejection } }

def selectProfile (v : U16) (now : U32) (w : System Exec) : System Exec × CommandResult :=
  if v = u16 w.tuning.profile.id ∧ w.tuning.profile.experimentEnabled ≠ 0 then (w, .accepted)
  else
    match findProfile env.policy v with
    | none => ({ reject .profileInvalid w with targetValid := false }, .invalidValue)
    | some selected =>
      if selected.experimentEnabled = 0 then
        (tick env now { reject .experimentLimitsUnreviewed w with targetValid := false }, .notReady)
      else if ¬ profileConfigValid env.policy selected w.tuning.config then (w, .invalidValue)
      else
        (tick env now { w with
          tuning := { w.tuning with profile := selected }
          staging := { w.staging with isOpen := false } }, .accepted)

def writeTarget (v : U16) (now : U32) (w : System Exec) : System Exec × CommandResult :=
  let rejection := targetAllowed env.policy w.tuning.profile v.toNat true
  let w := reject rejection w
  if rejection ≠ .ok then (tick env now { w with targetValid := false }, .invalidValue)
  else
    let w := handleCommand env ⟨.setTarget, v.toNat⟩ now w
    (w, w.lastCommandResult)

def stagedConfig (s : Staging) : ForceServoConfig :=
  ⟨Vector.ofFn fun i => word32 (s.words.get ⟨2 * i.val, by omega⟩) (s.words.get ⟨2 * i.val + 1, by omega⟩)⟩

def commitConfig (v : U16) (now : U32) (w : System Exec) : System Exec × CommandResult :=
  let candidate := stagedConfig w.staging
  let closed := { w with staging := { w.staging with isOpen := false } }
  let version := if w.tuning.configVersion + 1 = 0 then 1 else w.tuning.configVersion + 1
  if v ≠ 0xC101 ∨ w.staging.mask ≠ 0x3FFFFFFFFFFFF ∨ w.staging.version ≠ w.tuning.configVersion then
    (w, .invalidValue)
  else if ¬ profileConfigValid env.policy w.tuning.profile candidate then (closed, .invalidValue)
  else if w.state ≠ .idle ∨ w.session.active ∨ w.session.startPending ∨ ¬ outputIsDisabled env w then
    (w, .busy)
  else
    (tick env now { closed with
      tuning := { w.tuning with
        config := candidate, configDigest := digest candidate.words.toList, configVersion := version }
      controller := ForceServo.zero }, .accepted)

def configWrite (a v : U16) (now : U32) (w : System Exec) : System Exec × CommandResult :=
  if a = regProfileSelect then selectProfile env v now w
  else if a = regTargetN then writeTarget env v now w
  else if a = regBegin then
    if v ≠ 0xB101 then (w, .invalidValue)
    else
      ({ w with staging := { w.staging with
          mask := 0, version := w.tuning.configVersion, isOpen := true } }, .accepted)
  else if ¬ w.staging.isOpen then (w, .notReady)
  else if regConfig ≤ a then
    let i := a.toNat - regConfig.toNat
    ({ w with staging := { w.staging with
        words := w.staging.words.setIfInBounds i v, mask := w.staging.mask ||| 1#64 <<< i } }, .accepted)
  else if a = regCommit then commitConfig env v now w
  else (w, .unsupported)

def freeze (v : U16) (w : System Exec) : System Exec × CommandResult :=
  if v ≠ 0xD101 then (w, .invalidValue) else ({ w with frozen := env.diagnosticWords w }, .accepted)

/-- `ForceServoProtocol_Write` on an address of its own. -/
def servoWrite (function : BitVec 8) (a v : U16) (now : U32) (w : System Exec) :
    System Exec × CommandResult :=
  if function = 5 then
    if v ≠ 0xFF00 then (w, .invalidValue)
    else
      let type : CommandType := if a = coilStart then .forceStart else .faultReset
      let w := handleCommand env ⟨type, 0⟩ now w
      (w, w.lastCommandResult)
  else if a = regSnapshot then freeze env v w
  else if ¬ quiescent env w then (w, .busy)
  else if env.policy.characterization then planWrite env a v now w
  else configWrite env a v now w

def coilCommand (a v : U16) : Option CommandType :=
  if a = 1 then
    if v = 0xFF00 then some .autoStart else if v = 0 then some .stop else none
  else if v = 0xFF00 then some (if a = 3 then .directPressPulse else .directReleasePulse)
  else none

/-- `ModbusSemantic_ApplyWrite`. -/
def applyWrite (function : BitVec 8) (a v : U16) (now : U32) (w : System Exec) :
    System Exec × CommandResult :=
  if writeAddress env.policy function a then servoWrite env function a v now w
  else if function = 6 ∧ a = 0 then
    let w := handleCommand env ⟨.setTarget, v.toNat⟩ now w
    (w, w.lastCommandResult)
  else if function = 5 ∧ (a = 1 ∨ a = 2 ∨ a = 3) then
    match coilCommand a v with
    | none => (w, .invalidValue)
    | some type =>
      let w := handleCommand env ⟨type, 0⟩ now w
      (w, w.lastCommandResult)
  else (w, .unsupported)

/-! ### Reads -/

def tableHalf (words : List U32) (index : Nat) : U16 :=
  half index (words[index / 2]?.getD 0)

def activePlanWord (s : PlanState) (i : Nat) : U16 :=
  if i < 6 then tableHalf [s.plan.targetN, s.plan.assistPercent, s.plan.continuousPercent] i
  else if i = 6 then BitVec.ofInt 16 (percentCommand s.plan.assistPercent)
  else if i = 7 then BitVec.ofInt 16 (percentCommand s.plan.continuousPercent)
  else half i (if i < 10 then s.version else s.digest)

def markRead (i : Nat) (w : System Exec) : System Exec :=
  { w with plan := { w.plan with readMask := w.plan.readMask ||| bit16 i } }

def plainHolding (a : U16) (w : System Exec) : Option U16 :=
  match offset regBuildConfig buildConfigWords a with
  | some i => if env.policy.buildToTarget then some (tableHalf forceBuildFields i) else none
  | none =>
    match offset regCandidates (3 * profileWords) a with
    | some i => some (tableHalf (candidates.flatMap fun c => c.words.toList) i)
    | none =>
      match offset regProfile profileWords a with
      | some i => some (tableHalf w.tuning.profile.words.toList i)
      | none =>
        if a = regProfileSelect then some (u16 w.tuning.profile.id)
        else if a = regTargetN then
          some (if w.tuning.profile.unit ≠ 0 ∧ w.targetValid then BitVec.ofInt 16 w.targetUnits else 0)
        else
          (offset regConfig configWords a).map (tableHalf w.tuning.config.words.toList)

/-- `ForceServoProtocol_Read` on holding registers. -/
def readServoHolding (a : U16) (w : System Exec) : System Exec × Option U16 :=
  match offset regPlanActive 12 a with
  | some i =>
    if env.policy.characterization then (markRead i w, some (activePlanWord w.plan i)) else (w, none)
  | none => (w, plainHolding env a w)

/-- `ModbusSemantic_ReadHolding`. -/
def readHolding (a : U16) (w : System Exec) : System Exec × Option U16 :=
  match readServoHolding env a w with
  | (w, some v) => (w, some v)
  | (w, none) =>
    (w, if a = 0 then some (if w.targetValid then BitVec.ofInt 16 w.targetUnits else 0) else none)

/-- The identity words of `ForceServoProtocol_Read`. -/
def infoWords (w : System Exec) : List U16 :=
  [env.policy.schema, if (snapshot env w).physicalOutputLocked then 1 else 0,
    BitVec.ofNat 16 configWords, BitVec.ofNat 16 (diagnosticCount env.policy),
    half 0 w.tuning.configVersion, half 1 w.tuning.configVersion,
    half 0 w.tuning.configDigest, half 1 w.tuning.configDigest]

def MachineState.code : MachineState → U16
  | .bootSafe => 0
  | .idle => 1
  | .fault => 9
  | .forceApproach => 12
  | .forceBuild => 13
  | .forceHold => 14
  | .forceTaper => 15
  | .forceTargetReachedOff => 16

def MachineFault.code : MachineFault → U16
  | .none => 0
  | .boot => 1
  | .pressureSensor => 2
  | .overpressure => 3
  | .overcurrent => 4
  | .motionTimeout => 5
  | .motor => 6
  | .internal => 7

def saturate (u : U32) : U16 := if 65535 < u then 65535 else u.setWidth 16

/-- `MODBUS_INPUT_STATUS_FLAGS`. -/
def statusFlags (now : U32) (w : System Exec) : U16 :=
  let motor := snapshot env w
  let flag (b : Bool) (i : Nat) : U16 := if b then bit16 i else 0
  flag (isPressureFresh now w) 0 ||| flag w.targetValid 1 ||| flag motor.logicalActive 2 |||
    flag motor.physicalOutputLocked 3 ||| flag motor.physicalOutputDisabled 4 ||| flag true 5 |||
    flag w.config.benchReleaseCorrectionEnabled 6

/-- The input registers of the legacy map, from address 0 on. The request words of the AutoTarget
machine stay zero in a ForceServo build. -/
def legacyInput (now : U32) (w : System Exec) : List U16 :=
  let motor := snapshot env w
  let s := w.pressure
  let usable := s.frameValid ∧ s.controlUnitsValid ∧ 0 ≤ s.control ∧ s.control ≤ 65535
  [ if usable then BitVec.ofInt 16 s.control else 0xFFFF, if s.frameValid then saturate s.raw else 0xFFFF,
    MachineState.code w.state, MachineFault.code w.fault, BitVec.ofNat 16 w.faultDetail.ctorIdx,
    BitVec.ofNat 16 w.lastCommandResult.ctorIdx, BitVec.ofNat 16 motor.lastAction.ctorIdx,
    saturate motor.commandMv, motor.plannedTim2Ccr3, motor.plannedTim3Ccr3, statusFlags env now w ] ++
  (List.range 7).map (fun i => (s.frame[i]?.getD 0).setWidth 16) ++
  [ motor.lastFailureResult, motor.lastFailureStage,
    s.sequence.extractLsb' 48 16, s.sequence.extractLsb' 32 16, s.sequence.extractLsb' 16 16,
    s.sequence.extractLsb' 0 16, half 0 s.received, half 1 s.received,
    0, 0, 0, 0, 0, 0, 0, if w.targetValid then BitVec.ofInt 16 w.targetUnits else 0, 0,
    half 0 now, half 1 now ]

/-- `ModbusSemantic_ReadInput`. -/
def readInput (a : U16) (now : U32) (w : System Exec) : Option U16 :=
  match offset inputSnapshot (diagnosticCount env.policy) a with
  | some i => some (w.frozen[i]?.getD 0)
  | none =>
    match offset inputInfo 8 a with
    | some i => (infoWords env w)[i]?
    | none => (legacyInput env now w)[a.toNat]?

/-! ### The read request of the RTU server -/

/-- `MODBUS_RTU_MAX_READ_REGISTERS`. -/
def maxReadRegisters : Nat := 11

inductive ReadFunction
  | holding | input
  deriving DecidableEq

/-- The answer to a read request: the words of a normal response, or an exception code. -/
inductive Response
  | words (values : List U16)
  | exception (code : Nat)
  deriving DecidableEq

def readRegister (f : ReadFunction) (candidate : Nat) (now : U32) (w : System Exec) :
    System Exec × Option U16 :=
  if 65535 < candidate then (w, none)
  else
    match f with
    | .holding => readHolding env (BitVec.ofNat 16 candidate) w
    | .input => (w, readInput env (BitVec.ofNat 16 candidate) now w)

/-- The loop of `ModbusRtuServer_ProcessRead`: `count` more registers from `candidate` on. -/
def readLoop (f : ReadFunction) (now : U32) : Nat → Nat → List U16 → System Exec → System Exec × Response
  | _, 0, values, w => (w, .words values)
  | candidate, count + 1, values, w =>
    match readRegister env f candidate now w with
    | (w, none) => (w, .exception 2)
    | (w, some v) => readLoop f now (candidate + 1) count (values ++ [v]) w

/-- `ModbusRtuServer_ProcessRead`. -/
def processRead (f : ReadFunction) (address quantity : U16) (now : U32) (w : System Exec) :
    System Exec × Response :=
  if quantity = 0 ∨ maxReadRegisters < quantity.toNat then (w, .exception 3)
  else readLoop env f now address.toNat quantity.toNat [] w

end Sd700.Modbus.Protocol

import Sd700.Servo.BuildMachine

/-! `force_servo_machine.c`: boot, commands, safety checks, pressure samples, motor service and
tick of a ForceServo build. -/

namespace Sd700.Servo.Machine
open Build.Contract Config Controller Motor.Interface Logic.Modular State BuildMachine

variable {Exec : Type} (env : Platform Exec)

/-- `FORCE_SERVO_START_WAIT_MS`. -/
def startWaitMs : U32 := 250

/-- `AUTO_TARGET_SETTLE_DELAY_MS`. -/
def settleDelayMs : U32 := 50

/-! ### Boot -/

def PlanState.zero : PlanState :=
  ⟨⟨0, 0, 0⟩, Vector.replicate 10 0, Vector.replicate 4 0, 0, 0, 0, 0, 0, false, false, false⟩

def Sample.zero : Sample := ⟨0, 0, 0, List.replicate 7 0, 0, false, false⟩

/-- `Machine_Initialize`. The flag tells whether a configuration was given and its other fields are the
compiled ones. -/
def initialized (config : MachineConfig) (accepted : Bool) (now : U32) (source : Pressure.State.Source)
    (exec : Exec) : System Exec :=
  publish env now <| disable env {
    state := .bootSafe, fault := .none, faultDetail := .none, lastCommandResult := .accepted
    config := config, configValid := accepted && decide (config = env.machineConfig)
    pressure := Sample.zero, haveSample := false
    targetUnits := if env.policy.commissioning ∧ ¬ env.policy.characterization then 250 else 0
    targetValid := env.policy.commissioning && !env.policy.characterization
    motorRequestSequence := 0
    session := ⟨false, false, 0⟩
    course := ⟨false, false, false, 0, 0, 0, 0, 0, 0, 0⟩
    plan := PlanState.zero
    tuning := ⟨defaultConfig env.policy, liveProfile env.policy, 1,
      digest (defaultConfig env.policy).words.toList⟩
    staging := ⟨Vector.replicate 50 0, 0, 0, false⟩
    controller := ForceServo.zero
    cooling := ⟨0, false, 0⟩
    assist := ⟨false, false, 0, 0, false, 0, 0, 0, 0, 0, 0, 0, false, false⟩
    progress := ⟨false, false, 0, false, 0, false, 0, 0, 0, 0, 0⟩
    report := ⟨.none, false, .ok⟩
    build := ⟨0, .idle, 0, 0, false, 0, 0, false⟩
    frozen := [], source := source, exec := exec }

/-- `Machine_CompleteBoot`. -/
def completeBoot (checks : Bool) (now : U32) (w : System Exec) : System Exec :=
  if w.state ≠ .bootSafe then w
  else if ¬ checks ∨ ¬ w.configValid ∨ ¬ profileConfigValid env.policy w.tuning.profile w.tuning.config ∨
      ¬ outputIsDisabled env w ∨ ¬ isHealthy env w then
    fault env .boot .bootConfiguration now w
  else publish env now { w with state := .idle }

/-! ### Starting a session -/

def sessionBudget (w : System Exec) : U32 :=
  u32 (min w.tuning.profile.energizedMs (min w.tuning.profile.sessionMs w.tuning.config.sessionMs))

def continuousRequest (now : U32) (requested : ℤ) (w : System Exec) : ContinuousRequest where
  token := w.course.token
  sequence := w.pressure.sequence
  received := w.pressure.received
  now := now
  leaseMs := u32 w.tuning.config.leaseMs
  maxAgeMs := u32 w.tuning.config.sampleAgeMs
  deadtimeMs := u32 w.tuning.config.reverseDeadtimeMs
  requested := requested

/-- The last part of `contact`: the new owner starts at zero output. -/
def firstUpdate (now : U32) (w : System Exec) : System Exec × Bool :=
  let update := drive env (.updateContinuous (continuousRequest now 0 w)) w
  if update.1.result ≠ .ok then (update.2, false)
  else
    ({ update.2 with
      course := { w.course with lastControlRxMs := w.pressure.received }
      state := .forceBuild }, true)

def grantBudget (now : U32) (w : System Exec) : System Exec × Bool :=
  let budget := drive env
    (.setBudget w.course.token now (sessionBudget w) ⌊w.tuning.config.pressCap⌋) w
  if budget.1.result ≠ .ok then (budget.2, false) else firstUpdate env now budget.2

/-- `contact` once the measurement is known: open the continuous owner. -/
def openContinuous (now : U32) (w : System Exec) : System Exec × Bool :=
  let begun := drive env .beginContinuous w
  if begun.1.result ≠ .ok then (begun.2, false)
  else grantBudget env now
    { begun.2 with course := { begun.2.course with token := begun.1.token } }

/-- `contact`; the second component is its return value. -/
def contact (now : U32) (w : System Exec) : System Exec × Bool :=
  let failed := disableFails env w
  let w := disable env w
  if failed then (w, false)
  else
    let w := { w with course := { w.course with contacted := true, contactAtMs := w.pressure.received } }
    match measured env w with
    | none => (w, false)
    | some force =>
      let w := { w with progress := { w.progress with
        contactCounted := decide (w.tuning.profile.contact ≤ force) } }
      match init env.sqrtf env.policy w.tuning.config force w.targetUnits with
      | none => (w, false)
      | some controller => openContinuous env now { w with controller := controller }

/-- The flags of a new session. Only a characterization build starts the assist ledger over. -/
def openSession (now : U32) (w : System Exec) : System Exec :=
  let force := (measured env w).getD 0
  let number := if w.course.number + 1 = 0 then 1 else w.course.number + 1
  { w with
    session := { w.session with startPending := false, active := true }
    course := { w.course with
      contacted := false, everHeld := false, approachWait := false, number := number
      startedMs := now, holdAtMs := 0 }
    staging := { w.staging with isOpen := false }
    cooling := { w.cooling with requiredOffMs := u32 w.tuning.profile.offMs }
    assist := {
      used := false, initialContact := decide (w.tuning.profile.contact ≤ force)
      handoffRequest := w.assist.handoffRequest, endSequence := w.assist.endSequence
      active := false, startedMs := 0, durationMs := 0
      spentMs := if env.policy.characterization then 0 else w.assist.spentMs
      endMs := 0, endReason := 0, normalEndMs := 0, pressureBefore := 0, afterValid := false
      responsePending := false }
    progress := {
      contactCounted := false, saturationActive := false
      saturationStartedMs := w.progress.saturationStartedMs, trackingActive := false
      trackingStartedMs := w.progress.trackingStartedMs, commanded := false, atMs := now, goodMs := now
      anchor := force, start := force, noResponseMs := 0 }
    report := ⟨.none, decide ((w.targetUnits : ℚ) ≤ force), .ok⟩
    state := .forceApproach }

/-- The continuous owner of a session that starts in contact, or of any commissioning session. -/
def beginContinuous (now : U32) (w : System Exec) : System Exec :=
  if env.policy.commissioning ∨ w.tuning.profile.contact ≤ w.progress.start then
    let opened := contact env now w
    let w := if opened.2 then opened.1 else fault env .motor .motorHardware now opened.1
    { w with course := { w.course with contactAtMs := now } }
  else w

/-- `begin_session` up to its return value. -/
def beginSession (now : U32) (w : System Exec) : System Exec :=
  let w := openSession env now w
  if env.policy.buildToTarget then
    let begun := BuildMachine.begin env now w
    if begun.2 then begun.1 else fault env .motor .motorHardware now begun.1
  else beginContinuous env now w

/-- The return value of `begin_session`, on the context it leaves. -/
def beginResult (w : System Exec) : CommandResult :=
  if w.state = .fault then .executorFailed else .accepted

/-! ### Commands -/

def giveResult (r : CommandResult) (w : System Exec) : System Exec :=
  { w with lastCommandResult := r }

def stop (now : U32) (w : System Exec) : System Exec × CommandResult :=
  let w := settleAccount env now w
  let w := revokePlan { w with session := { w.session with startPending := false } }
  let w := beginCooling now (finishBoost now 3 (giveReason .operatorStop w))
  let w := { endSession w with staging := { w.staging with isOpen := false } }
  if disableFails env w then
    (fault env .motor .motorHardware now (disable env w), .executorFailed)
  else
    let w := disable env w
    (if w.state ≠ .fault then { w with state := .idle } else w, .accepted)

def faultReset (w : System Exec) : System Exec × CommandResult :=
  if w.state = .fault ∧ outputIsDisabled env w ∧ isHealthy env w then
    ({ w with state := .idle, fault := .none, faultDetail := .none }, .accepted)
  else (w, .notAllowed)

def setTarget (units : ℤ) (w : System Exec) : System Exec × CommandResult :=
  if env.policy.characterization then ({ revokePlan w with targetValid := false }, .notAllowed)
  else if w.state ≠ .idle ∨ w.session.startPending ∨ ¬ outputIsDisabled env w then (w, .busy)
  else
    let rejection := targetAllowed env.policy w.tuning.profile units (w.tuning.profile.unit ≠ 0)
    let w := { w with report := { w.report with rejection := rejection } }
    if rejection ≠ .ok then ({ w with targetValid := false }, .invalidValue)
    else ({ w with targetUnits := units, targetValid := true }, .accepted)

def startPlan (w : System Exec) : Rejection :=
  if ¬ w.haveSample then .profileInvalid
  else
    match measured env w with
    | none => .profileInvalid
    | some force =>
      planAllowed env.sqrtf env.policy w.tuning.profile w.tuning.config force w.targetUnits

/-- A START that is accepted: authority is spent, and the next fresh frame begins the session. -/
def requestStart (now : U32) (w : System Exec) : System Exec :=
  { revokePlan w with
    session := { w.session with startPending := true, startRequestedMs := now }
    staging := { w.staging with isOpen := false } }

/-- The readiness of a START, on the context that `ForceBuildMachine_Ready` leaves. -/
def startReady (now : U32) (w : System Exec) : Bool :=
  (!env.policy.characterization || (w.plan.armed && w.plan.available)) &&
    (env.policy.commissioning || isPressureFresh now w) &&
    profileConfigValid env.policy w.tuning.profile w.tuning.config && isHealthy env w &&
    outputIsDisabled env w && !(snapshot env w).physicalOutputLocked

def admitStart (now : U32) (w : System Exec) : System Exec × CommandResult :=
  if ¬ w.targetValid then (w, .notReady)
  else
    let rested : Bool := !env.policy.buildToTarget || ready env now (syncEpoch env now w)
    let w := if env.policy.buildToTarget then refreshBuild env now (syncEpoch env now w) else w
    if ¬ (rested ∧ startReady env now w) then (w, .notReady)
    else if env.policy.commissioning then
      let rejection := startPlan env w
      let w := { w with report := { w.report with rejection := rejection } }
      if rejection ≠ .ok then (w, .notReady) else (requestStart now w, .accepted)
    else if w.tuning.profile.rawTrip ≤ rawForce w then
      (fault env .overpressure .none now w, .notReady)
    else
      let w := beginSession env now w
      (w, beginResult w)

def forceStart (now : U32) (w : System Exec) : System Exec × CommandResult :=
  if w.state ≠ .idle ∨ w.session.active ∨ w.session.startPending then (w, .busy)
  else if w.cooling.active ∧ ¬ Reached now w.cooling.untilMs then
    ({ w with report := { w.report with rejection := .coolingRequired } }, .notReady)
  else admitStart env now w

/-- `Machine_HandleCommand` before its result is stored. -/
def command (c : Command) (now : U32) (w : System Exec) : System Exec × CommandResult :=
  match c.type with
  | .stop | .jogStop => stop env now w
  | .faultReset => faultReset env w
  | .setTarget => setTarget env c.targetUnits w
  | .forceStart => forceStart env now w
  | _ => (w, .unsupported)

/-- `Machine_HandleCommand`; the result is `lastCommandResult`. -/
def handleCommand (c : Command) (now : U32) (w : System Exec) : System Exec :=
  let done := command env c now w
  publish env now (giveResult done.2 done.1)

/-! ### Safety checks -/

/-- `Machine_CheckPressureSafety` while a START waits for its frame. -/
def checkPending (now : U32) (w : System Exec) : System Exec :=
  if ¬ outputIsDisabled env w ∨ ¬ isHealthy env w ∨ (snapshot env w).logicalActive then
    fault env .motor .motorHardware now w
  else if startWaitMs ≤ now - w.session.startRequestedMs then
    fault env .pressureSensor .pressureTimeout now w
  else w

/-- `Machine_CheckPressureSafety` of a continuous session. -/
def checkContinuous (now : U32) (w : System Exec) : System Exec :=
  let profile := w.tuning.profile
  let limit := u32 (min w.tuning.config.sessionMs (min profile.sessionMs profile.energizedMs))
  if ¬ w.session.active then w
  else if limit ≠ 0 ∧ limit ≤ now - w.course.startedMs then
    fault env .motionTimeout .sessionTimeout now w
  else if 0 < profile.buildMs ∧ w.course.contacted ∧ ¬ w.course.everHeld ∧
      u32 profile.buildMs ≤ now - w.course.contactAtMs then
    fault env .motionTimeout .cycleTimeout now w
  else if u32 w.tuning.config.feedbackGapMs < now - w.pressure.received then
    fault env .pressureSensor .pressureTimeout now w
  else if w.course.contacted ∧ (env.executor.continuousExpired w.exec ∨
      (snapshot env w).lastCompletion = .lease ∨ ¬ env.executor.activeRequestIsValid w.exec) then
    fault env .motor .leaseExpired now w
  else w

def endCooling (now : U32) (w : System Exec) : System Exec :=
  if w.cooling.active ∧ Reached now w.cooling.untilMs then
    { w with cooling := { w.cooling with active := false } }
  else w

/-- `Machine_CheckPressureSafety`. -/
def checkPressureSafety (now : U32) (w : System Exec) : System Exec :=
  let w := endCooling now w
  if w.session.startPending then checkPending env now w
  else if env.policy.buildToTarget then safety env now w
  else checkContinuous env now w

/-! ### Assist service -/

/-- `service_assist`. -/
def serviceAssist (now : U32) (w : System Exec) : System Exec :=
  if ¬ w.session.active ∨ ¬ w.assist.active then w
  else
    let call := drive env (.serviceBoost w.course.token now) w
    if call.1.result ≠ .ok then fault env .motor .leaseExpired now call.2
    else
      let w := { call.2 with controller := { call.2.controller with previousCommitted := call.1.committed } }
      if call.1.flag then finishBoost now 2 w else w

/-! ### Pressure samples -/

def sampleUsable (p : Sample) : Bool :=
  p.frameValid && p.controlUnitsValid && decide (0 ≤ p.control) &&
    (!env.policy.characterization || (decide (p.raw ≤ 65535) && decide (p.control = p.raw.toNat)))

def faultIfEngaged (detail : FaultDetail) (now : U32) (w : System Exec) : System Exec :=
  if w.session.active ∨ w.session.startPending then fault env .pressureSensor detail now w else w

def outOfOrder (p : Sample) (w : System Exec) : Bool :=
  w.haveSample && !decide (After p.sequence w.pressure.sequence)

def receivedBackwards (p : Sample) (w : System Exec) : Bool :=
  w.haveSample && decide (0x80000000#32 ≤ p.received - w.pressure.received)

def store (p : Sample) (w : System Exec) : System Exec :=
  { w with pressure := p, haveSample := true }

def answersStart (now : U32) (w : System Exec) : Bool :=
  isPressureFresh now w && decide (Reached w.pressure.received w.session.startRequestedMs)

/-- A waiting START at the boundary of a characterization build without segments: a terminal attempt
without an executor owner. -/
def recordBoundaryStart (now : U32) (w : System Exec) : System Exec :=
  if w.session.startPending then
    { w with
      course := { w.course with
        number := if w.course.number + 1 = 0 then 1 else w.course.number + 1
        startedMs := w.session.startRequestedMs }
      assist := { w.assist with
        active := false, startedMs := 0, durationMs := 0, spentMs := 0, endMs := 0, endReason := 0
        normalEndMs := 0, pressureBefore := 0, afterValid := false, responsePending := false }
      progress := { w.progress with contactCounted := false, noResponseMs := 0 }
      report := ⟨.none, false, .ok⟩
      cooling := { w.cooling with untilMs := now + 5000, active := true } }
  else w

def boundaryReached (now : U32) (w : System Exec) : Bool :=
  env.policy.characterization && (w.session.active || w.session.startPending) && isPressureFresh now w &&
    (!w.session.startPending || decide (Reached w.pressure.received w.session.startRequestedMs)) &&
    decide (w.targetUnits = 3000) && decide (3000 ≤ w.pressure.raw)

def stopAtBoundary (now : U32) (w : System Exec) : System Exec :=
  let w := recordBoundaryStart now w
  handleCommand env ⟨.stop, 0⟩ now
    { w with report := { w.report with runReason := .boundaryTargetReached, targetReached := true } }

def tripped (w : System Exec) : Bool :=
  let profile := w.tuning.profile
  profile.rawTrip ≤ rawForce w ∨
    (profile.unit = 1 ∧ profile.forceTrip ≤ rawForce w * profile.scale + profile.offset)

def noteSample (now : U32) (force : ℚ) (w : System Exec) : System Exec :=
  let after := 2 ≤ w.assist.endReason ∧ ¬ w.assist.afterValid ∧ isPressureFresh now w ∧
    After w.pressure.sequence w.assist.endSequence ∧ Reached w.pressure.received w.assist.endMs
  let reached := w.session.active ∧ isPressureFresh now w ∧ (w.targetUnits : ℚ) ≤ force
  { w with
    assist := { w.assist with afterValid := decide after || w.assist.afterValid }
    report := { w.report with targetReached := decide reached || w.report.targetReached } }

def pendingReady (w : System Exec) : Bool :=
  w.state = .idle ∧ w.targetValid ∧ 0 < w.targetUnits ∧
    targetAllowed env.policy w.tuning.profile w.targetUnits (w.tuning.profile.unit ≠ 0) = .ok ∧
    profileConfigValid env.policy w.tuning.profile w.tuning.config ∧ isHealthy env w ∧
    outputIsDisabled env w ∧ ¬ (snapshot env w).physicalOutputLocked

def beginAnswered (now : U32) (w : System Exec) : System Exec :=
  let w := beginSession env now w
  giveResult (beginResult w) w

def answerStart (now : U32) (force : ℚ) (w : System Exec) : System Exec :=
  if ¬ answersStart now w then w
  else if ¬ pendingReady env w then fault env .motor .motorRequestRejected now w
  else
    let rejection :=
      planAllowed env.sqrtf env.policy w.tuning.profile w.tuning.config force w.targetUnits
    let w := { w with report := { w.report with rejection := rejection } }
    if rejection ≠ .ok then fault env .motor .motorRequestRejected now w
    else beginAnswered env now w

/-! ### Control on an accepted sample of a continuous session

Each stage hands the context on, or returns from `Machine_HandlePressureSample` with it. -/

inductive Stage (Exec : Type)
  | next (w : System Exec)
  | done (w : System Exec)

def Stage.andThen (stage : Stage Exec) (rest : System Exec → System Exec) : System Exec :=
  match stage with
  | .next w => rest w
  | .done w => w

def contactStage (now : U32) (force : ℚ) (w : System Exec) : Stage Exec :=
  if ¬ isPressureFresh now w then .done (fault env .pressureSensor .pressureTimeout now w)
  else if ¬ env.policy.characterization ∧ w.course.contacted ∧ w.progress.contactCounted ∧
      force < w.tuning.profile.contact then
    .done (fault env .pressureSensor .contactLost now w)
  else if w.course.contacted ∧ ¬ w.progress.contactCounted ∧ w.tuning.profile.contact ≤ force then
    .next { w with
      progress := { w.progress with contactCounted := true }
      assist := { w.assist with
        initialContact := env.policy.characterization || w.assist.initialContact } }
  else .next w

def responseStage (now : U32) (force : ℚ) (w : System Exec) : Stage Exec :=
  if ¬ w.assist.responsePending then .next w
  else if ¬ After w.pressure.sequence w.assist.endSequence ∨ ¬ Reached w.pressure.received w.assist.endMs then
    .done (publish env now w)
  else
    let excessive := w.tuning.profile.excessiveRiseUnits ≤ force - w.assist.pressureBefore
    let w := { w with assist := { w.assist with responsePending := false } }
    if excessive then
      .done (fault env .motionTimeout
        (if env.policy.characterization then .postAssistExcessiveRise else .assistExcessiveRise) now w)
    else .next w

def handoffAssist (now : U32) (taper : Bool) (w : System Exec) : Stage Exec :=
  let ceiling := (snapshot env w).commandMv
  let wanted : ℤ := if taper then 0 else w.assist.handoffRequest
  let lower : ℤ := if ceiling < BitVec.ofInt 32 wanted then ceiling.toInt else wanted
  let call := drive env (.handoffBoost w.course.token now lower) w
  if call.1.result ≠ .ok then .done (fault env .motor .leaseExpired now call.2)
  else
    let w := finishBoost now 2 call.2
    .next { w with controller := { w.controller with previousCommitted := lower } }

def assistStage (now : U32) (force : ℚ) (w : System Exec) : Stage Exec :=
  if ¬ w.assist.active then .next w
  else
    let rise := force - w.assist.pressureBefore
    let taper : Bool := w.targetUnits - force ≤ w.tuning.profile.taperMargin ∨
      w.controller.reference - force ≤ 0 ∨ w.state = .forceHold
    if w.tuning.profile.excessiveRiseUnits ≤ rise then
      .done (fault env .motionTimeout .assistExcessiveRise now w)
    else if w.tuning.profile.responseUnits ≤ rise ∨ taper then handoffAssist env now taper w
    else .next w

/-- An assist past its planned end is reduced before the new demand is evaluated; samples inside the
control grid only service the assist. -/
def gridStage (now : U32) (w : System Exec) : Stage Exec :=
  let w := if w.assist.active ∧ Reached now w.assist.normalEndMs then serviceAssist env now w else w
  if ¬ w.session.active then .done w
  else if w.course.contacted ∧
      w.pressure.received - w.course.lastControlRxMs < u32 w.tuning.config.controlMinMs then
    .done (serviceAssist env now w)
  else .next w

def approachStage (now : U32) (force : ℚ) (w : System Exec) : Stage Exec :=
  if w.course.contacted then .next w
  else if w.tuning.profile.contact ≤ force then
    let opened := contact env now w
    .done (publish env now
      (if opened.2 then opened.1 else fault env .motor .motorHardware now opened.1))
  else .done (publish env now w)

/-- Whether the session may be given its assist now: the code `assist_admission == 1`. -/
def assistAdmitted (force : ℚ) (step : Step) (w : System Exec) : Bool :=
  let profile := w.tuning.profile
  boostQualified env.policy profile ∧ w.assist.initialContact ∧ w.progress.contactCounted ∧
    profile.taperMargin < w.targetUnits - force ∧ ¬ w.course.everHeld ∧
    (if env.policy.characterization then 0 < step.error ∧ 0 ≤ w.controller.previousCommitted
      else 0 < truncate step.limitedOutput ∧ 0 < step.error ∧ 0 < w.controller.previousCommitted) ∧
    w.assist.spentMs + u32 profile.boostMs ≤ u32 profile.boostTotalMs

def assistFitsSession (now : U32) (w : System Exec) : Bool :=
  env.policy.characterization ||
    decide (now - w.course.startedMs + u32 w.tuning.profile.boostMs <
      u32 (min w.tuning.config.sessionMs (min w.tuning.profile.sessionMs w.tuning.profile.energizedMs)))

def reserveAssist (requested : ℤ) (w : System Exec) : System Exec :=
  { w with assist := { w.assist with
      used := true, spentMs := w.assist.spentMs + u32 w.tuning.profile.boostMs
      handoffRequest := requested } }

def noteAssist (force : ℚ) (w : System Exec) : System Exec :=
  let armed := snapshot env w
  { w with assist := { w.assist with
      active := true, startedMs := armed.boostStartedMs, durationMs := u32 w.tuning.profile.boostMs
      endReason := 1, pressureBefore := force, normalEndMs := armed.boostPlannedEndMs } }

def admitStage (now : U32) (force : ℚ) (requested : ℤ) (step : Step) (w : System Exec) : Stage Exec :=
  if w.assist.used ∨ ¬ assistAdmitted env force step w ∨ ¬ assistFitsSession env now w then .next w
  else
    let w := reserveAssist requested w
    let profile := w.tuning.profile
    let armed := drive env (.armBoost w.course.token now (u32 profile.boostMs)) w
    if armed.1.result ≠ .ok then .done (fault env .motor .motorHardware now armed.2)
    else
      let planned := drive env (.setBoostPlan w.course.token now (u32 profile.assistRiseMs)
        (u32 profile.assistEndMs) ⌊profile.peakPress⌋ requested) armed.2
      if planned.1.result ≠ .ok then .done (fault env .motor .motorHardware now planned.2)
      else .next (noteAssist env force planned.2)

def assistDemand (planned : ℤ) (step : Step) : Step :=
  { step with
    ff := planned - step.limitedOutput, rawOutput := step.rawOutput + (planned - step.limitedOutput)
    limitedOutput := planned, limits := { step.limits with boost := true } }

/-- The no-response window: its anchors advance only after a net gain of the noise's size. -/
def trackResponse (now : U32) (force : ℚ) (committed : ℤ) (w : System Exec) : System Exec :=
  let margin := w.targetUnits - force
  if 0 < committed ∧ w.tuning.config.holdExit < margin then
    let fresh := { w.progress with
      goodMs := if w.progress.commanded then w.progress.goodMs else now
      atMs := if w.progress.commanded then w.progress.atMs else now
      anchor := if w.progress.commanded then w.progress.anchor else force
      start := if w.progress.commanded then w.progress.start else force
      commanded := true }
    let due := u32 w.tuning.profile.progressWindowMs ≤ now - fresh.atMs
    let gained := w.tuning.profile.progressUnits ≤ force - fresh.anchor
    let goodMs := if due ∧ gained then now else fresh.goodMs
    { w with progress := { fresh with
        goodMs := goodMs
        anchor := if due ∧ gained then force else fresh.anchor
        atMs := if due then now else fresh.atMs
        noResponseMs := now - goodMs } }
  else { w with progress := { w.progress with commanded := false, noResponseMs := 0 } }

/-- `progress_status` is neither 1 nor 3: the run shows no progress. -/
def stalled (force : ℚ) (committed : ℤ) (w : System Exec) : Bool :=
  ¬ (0 < committed ∧ w.tuning.config.holdExit < w.targetUnits - force ∧
    w.progress.noResponseMs < u32 w.tuning.profile.progressWindowMs ∧
    w.tuning.profile.progressUnits ≤ force - w.progress.start)

def trackLimits (now : U32) (step : Step) (w : System Exec) : System Exec :=
  let saturated := step.limits.amplitude
  let tracking : Bool := w.controller.trajectoryS ≤ w.controller.elapsedS ∧
    w.tuning.config.trackingError < |step.error|
  { w with progress := { w.progress with
      saturationStartedMs := if saturated ∧ ¬ w.progress.saturationActive then now
        else w.progress.saturationStartedMs
      trackingStartedMs := if tracking ∧ ¬ w.progress.trackingActive then now
        else w.progress.trackingStartedMs
      saturationActive := saturated, trackingActive := tracking } }

def updateHold (now : U32) (step : Step) (w : System Exec) : System Exec :=
  let error := |w.targetUnits - step.filtered|
  if w.controller.trajectoryS ≤ w.controller.elapsedS ∧ error ≤ w.tuning.config.holdEnter then
    { w with
      course := { w.course with
        holdAtMs := if w.state ≠ .forceHold then now else w.course.holdAtMs, everHeld := true }
      state := .forceHold }
  else if w.state ≠ .forceHold ∨ w.tuning.config.holdExit < error then { w with state := .forceBuild }
  else w

def supervise (now : U32) (force : ℚ) (committed : ℤ) (step : Step) (w : System Exec) : System Exec :=
  let w := trackResponse now force committed (trackLimits now step w)
  let complete : Bool := w.controller.trajectoryS ≤ w.controller.elapsedS
  let trackingMs := if w.progress.trackingActive then now - w.progress.trackingStartedMs else 0
  let w :=
    if u32 (min w.tuning.config.saturationMs w.tuning.profile.noResponseMs) ≤ w.progress.noResponseMs then
      fault env .motionTimeout .saturationTimeout now w
    else if complete ∧ u32 w.tuning.config.trackingMs ≤ trackingMs ∧ stalled force committed w then
      fault env .motionTimeout .trackingTimeout now w
    else updateHold now step w
  publish env now w

def commitStage (now : U32) (force : ℚ) (effective : ForceServoConfig) (reply : DriveReply) (requested : ℤ)
    (demandExit : Bool) (step : Step) (w : System Exec) : System Exec :=
  let step := { step with limits := { step.limits with
    interlock := step.limits.interlock || reply.flag
    quantization := decide ((requested : ℚ) ≠ step.limitedOutput) || step.limits.quantization } }
  match commit env.policy effective w.controller step reply.committed with
  | none => fault env .internal .numeric now w
  | some (controller, step) =>
    let w := { w with controller := controller }
    let w := if demandExit then finishBoost now 2 w else w
    supervise env now force reply.committed step
      { w with course := { w.course with lastControlRxMs := w.pressure.received } }

def updateStage (now : U32) (force : ℚ) (requested : ℤ) (demandExit : Bool) (step : Step)
    (w : System Exec) : System Exec :=
  let c := w.tuning.config
  let assisting := w.assist.active ∧ ¬ demandExit
  let planned := env.executor.continuousBoostCommand w.course.token now w.exec
  let requested := if assisting then planned else requested
  let step := if assisting then assistDemand planned step else step
  let effective := if assisting then c.withPressCap (getElem w.tuning.profile.words 15 peakPress_lt) else c
  if assisting ∧ (planned < 0 ∨ (¬ env.policy.characterization ∧ planned = 0)) then
    fault env .internal .numeric now w
  else
    let call := drive env (.updateContinuous (continuousRequest now requested w)) w
    if call.1.result ≠ .ok then fault env .motor .motorHardware now call.2
    else commitStage env now force effective call.1 requested demandExit step call.2

def exitStage (now : U32) (demandExit : Bool) (w : System Exec) : Stage Exec :=
  if ¬ demandExit then .next w
  else
    let call := drive env (.endBoost w.course.token) w
    if call.1.result ≠ .ok then .done (fault env .motor .motorHardware now call.2) else .next call.2

def controlStep (now : U32) (force : ℚ) (w : System Exec) : System Exec :=
  let dt : ℚ := (w.pressure.received - w.course.lastControlRxMs).toNat / 1000
  match prepare env.policy w.tuning.config w.controller force dt with
  | none => fault env .internal .numeric now w
  | some (controller, step) =>
    let w := { w with controller := controller }
    let requested := truncate step.limitedOutput
    let demandExit := w.assist.active &&
      (if env.policy.characterization then decide (step.error ≤ 0) else decide (requested ≤ 0))
    (exitStage env now demandExit w).andThen fun w =>
    (admitStage env now force requested step w).andThen fun w =>
    updateStage env now force requested demandExit step w

/-- The control part of `Machine_HandlePressureSample`. -/
def control (now : U32) (force : ℚ) (w : System Exec) : System Exec :=
  (contactStage env now force w).andThen fun w =>
  (responseStage env now force w).andThen fun w =>
  (assistStage env now force w).andThen fun w =>
  (gridStage env now w).andThen fun w =>
  (approachStage env now force w).andThen fun w =>
  controlStep env now force w

def processSample (now : U32) (w : System Exec) : System Exec :=
  if tripped w then fault env .overpressure .none now w
  else
    match measured env w with
    | none => faultIfEngaged env .pressureInvalid now w
    | some force =>
      let w := noteSample now force w
      if w.session.startPending then publish env now (answerStart env now force w)
      else if ¬ w.session.active then publish env now w
      else control env now force w

def processBuildSample (now : U32) (w : System Exec) : System Exec :=
  if ¬ w.session.startPending then publish env now (pressure env now w)
  else if answersStart now w ∧ w.targetUnits = 3000 ∧ w.pressure.raw = 3000 then
    publish env now (beginAnswered env now w)
  else processSample env now w

def acceptSample (p : Sample) (now : U32) (w : System Exec) : System Exec :=
  let w := store p (checkPressureSafety env now w)
  if env.policy.buildToTarget then processBuildSample env now w
  else if boundaryReached env now w then stopAtBoundary env now w
  else processSample env now w

/-- `Machine_HandlePressureSample`. -/
def handlePressureSample (p : Sample) (now : U32) (w : System Exec) : System Exec :=
  if ¬ sampleUsable env p then faultIfEngaged env .pressureInvalid now w
  else if outOfOrder p w then
    if p.sequence ≠ w.pressure.sequence then faultIfEngaged env .pressureOrderLost now w else w
  else if receivedBackwards p w then faultIfEngaged env .pressureOrderLost now w
  else acceptSample env p now w

/-! ### Service and tick -/

def serviceContinuous (now : U32) (w : System Exec) : System Exec :=
  let e := snapshot env w
  if w.course.contacted then
    if e.lastCompletion = .lease then fault env .motor .leaseExpired now w
    else if e.lastCompletion ≠ .none then fault env .motor .motorHardware now w
    else w
  else if ¬ e.logicalActive ∧ w.motorRequestSequence ≠ 0 then
    if e.requestSequence ≠ w.motorRequestSequence ∨ e.lastCompletion ≠ .normal then
      fault env .motionTimeout .approachTimeout now w
    else { w with
      motorRequestSequence := 0
      course := { w.course with approachWait := true, settleAfterMs := now + settleDelayMs } }
  else w

/-- `Machine_HandleMotorService`. -/
def handleMotorService (now : U32) (w : System Exec) : System Exec :=
  if ¬ w.session.active then w
  else publish env now
    (if env.policy.buildToTarget then service env now w else serviceContinuous env now w)

def startApproach (now : U32) (w : System Exec) : System Exec :=
  let settled := ¬ w.course.approachWait ∨
    (Reached now w.course.settleAfterMs ∧ Reached w.pressure.received w.course.settleAfterMs)
  if w.session.active ∧ ¬ w.course.contacted ∧ ¬ (snapshot env w).logicalActive ∧ settled then
    let call := drive env (.startRun w.config.firstApproachCommandMv w.config.firstApproachDurationMs
      w.config.firstApproachBackstopMs now) w
    if call.1.result ≠ .ok then fault env .motor .motorRequestRejected now call.2
    else { call.2 with motorRequestSequence := (snapshot env call.2).requestSequence }
  else w

/-- `Machine_Tick`. -/
def tick (now : U32) (w : System Exec) : System Exec :=
  let w := checkPressureSafety env now w
  publish env now
    (if env.policy.buildToTarget then service env now w
      else startApproach env now (serviceAssist env now w))

end Sd700.Servo.Machine

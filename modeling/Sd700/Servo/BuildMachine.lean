import Sd700.Build.Segment
import Sd700.Servo.State

/-! `fault` of the machine and `force_build_machine.c`: accounting of the no-response allowance,
the Build session's safety checks, and the pressure frame that decides on a segment. -/

namespace Sd700.Servo.BuildMachine
open Build.Contract Build.Segment Config Controller Motor.Interface Logic.Modular State

variable {Exec : Type} (env : Platform Exec)

/-! ### Accounting and faults -/

def spending (w : System Exec) : Bool :=
  w.session.active && !w.build.monitoring && w.build.phase ≠ .approach

/-- `ForceBuildMachine_Account`. -/
def account (now : U32) (w : System Exec) : System Exec :=
  let dt := now - w.build.accountedMs
  let spent := w.build.noResponseMs
  { w with build := { w.build with
      accountedMs := now
      noResponseMs :=
        if spending w ∧ spent < Config.noResponseMs then
          spent + (if dt < Config.noResponseMs - spent then dt else Config.noResponseMs - spent)
        else spent } }

/-- `publish`: the diagnostic record is telemetry, but a Build build reads the ledger for it. -/
def publish (now : U32) (w : System Exec) : System Exec :=
  if env.policy.buildToTarget then refreshBuild env now w else w

/-- `finish_boost`. -/
def finishBoost (now : U32) (reason : Nat) (w : System Exec) : System Exec :=
  if w.assist.active then
    { w with assist := { w.assist with
        active := false, endMs := now, endReason := reason, endSequence := w.pressure.sequence
        responsePending := decide (reason = 2) || w.assist.responsePending } }
  else w

/-- `begin_cooling`. -/
def beginCooling (now : U32) (w : System Exec) : System Exec :=
  if w.session.active ∧ w.cooling.requiredOffMs ≠ 0 then
    { w with cooling := { w.cooling with untilMs := now + w.cooling.requiredOffMs, active := true } }
  else w

def revokePlan (w : System Exec) : System Exec :=
  { w with plan := { w.plan with armed := false, available := false } }

def endSession (w : System Exec) : System Exec :=
  { w with
    session := { w.session with startPending := false, active := false }
    assist := { w.assist with active := false }
    controller := { w.controller with initialized := false, integral := 0 } }

def giveReason (reason : RunReason) (w : System Exec) : System Exec :=
  if w.report.runReason = .none then { w with report := { w.report with runReason := reason } } else w

def faultReason (detail : FaultDetail) (w : System Exec) : RunReason :=
  if detail = .sessionTimeout then
    if w.report.targetReached then .sessionComplete else .targetNotReachedWithinSession
  else .fault

def recordFault (f : MachineFault) (detail : FaultDetail) (w : System Exec) : System Exec :=
  if w.state ≠ .fault then { w with state := .fault, fault := f, faultDetail := detail } else w

/-- `Account`, at the head of the two ways a session ends. -/
def settleAccount (now : U32) (w : System Exec) : System Exec :=
  if env.policy.buildToTarget then account now w else w

/-- `fault`. -/
def fault (f : MachineFault) (detail : FaultDetail) (now : U32) (w : System Exec) : System Exec :=
  let w := revokePlan (disable env (settleAccount env now w))
  let w := beginCooling now (finishBoost now 3 (giveReason (faultReason detail w) w))
  publish env now (recordFault f detail (endSession w))

theorem publish_state {env : Platform Exec} {now : U32} (w : System Exec) : (publish env now w).state = w.state := by
  unfold publish
  split <;> rfl

theorem fault_state {env : Platform Exec} {now : U32} (f : MachineFault) (detail : FaultDetail) (w : System Exec) :
    (fault env f detail now w).state = .fault := by
  unfold fault
  dsimp only
  rw [publish_state]
  unfold recordFault
  split
  · rfl
  · rename_i faulted
    exact not_not.mp faulted

/-! ### Epoch, readiness and safety -/

/-- `sync_epoch`. -/
def syncEpoch (now : U32) (w : System Exec) : System Exec :=
  let e := buildSnapshot env now w
  let w := refreshBuild env now w
  if w.build.epoch ≠ e.epoch then
    { w with build := { w.build with epoch := e.epoch, noResponseMs := 0 } }
  else w

/-- `ForceBuildMachine_Ready`, on the context its `sync_epoch` leaves. -/
def ready (now : U32) (w : System Exec) : Bool :=
  !(buildSnapshot env now w).inhibited && !w.build.postPending &&
    decide (w.build.noResponseMs < Config.noResponseMs)

/-- `ForceBuildMachine_Service`. -/
def service (now : U32) (w : System Exec) : System Exec :=
  let e := buildSnapshot env now w
  let w := refreshBuild env now w
  if w.session.active ∧ ¬ w.build.monitoring ∧ e.endReason.isCutoff then
    fault env .motor .buildCutoff now w
  else w

def cutoffDue (now : U32) (e : BuildSnapshot) : Bool :=
  ((e.segmentActive || e.preloadActive) && decide (Reached now e.receiveDeadlineMs)) ||
    (e.segmentActive && decide (Reached now e.deadlineMs)) ||
    (e.preloadActive && decide (Reached now e.preloadDeadlineMs))

/-- `ForceBuildMachine_Safety` for a session that drives. -/
def checkDrive (now : U32) (w : System Exec) : System Exec :=
  let e := buildSnapshot env now w
  let w := refreshBuild env now w
  if e.endReason.isCutoff then fault env .motor .buildCutoff now w
  else if ¬ env.executor.buildOwnerValid w.course.token w.exec then
    fault env .motor .leaseExpired now w
  else if cutoffDue now e then fault env .motor .buildCutoff now w
  else if w.build.phase ≠ .approach ∧ Config.noResponseMs ≤ w.build.noResponseMs then
    fault env .motionTimeout .buildNoResponse now w
  else w

/-- `ForceBuildMachine_Safety` behind the accounting. -/
def checkSession (now : U32) (w : System Exec) : System Exec :=
  if ¬ w.session.active then w
  else if u32 w.tuning.config.feedbackGapMs < now - w.pressure.received then
    fault env .pressureSensor .pressureTimeout now w
  else if w.build.monitoring then
    if ¬ outputIsDisabled env w then fault env .motor .motorHardware now w else w
  else checkDrive env now w

/-- `ForceBuildMachine_Safety`. -/
def safety (now : U32) (w : System Exec) : System Exec :=
  checkSession env now (syncEpoch env now (account now w))

/-! ### Pressure frames -/

def markTargetOff (w : System Exec) : System Exec :=
  { w with
    session := { w.session with startPending := false, active := true }
    build := { w.build with monitoring := true, phase := .targetOff }
    report := { w.report with
      targetReached := true
      runReason := if w.targetUnits = 3000 then .boundaryTargetReached else .targetReachedOff }
    controller := { w.controller with previousCommitted := 0, integral := 0 }
    state := .forceTargetReachedOff }

/-- `target_off`. -/
def targetOff (now : U32) (w : System Exec) : System Exec :=
  let w := account now w
  if disableFails env w then fault env .motor .motorHardware now (disable env w)
  else markTargetOff (disable env w)

/-- `pid_diagnostic`: the controller runs along without an output of its own. -/
def pidDiagnostic (now : U32) (force : ℚ) (w : System Exec) : System Exec :=
  let interval := w.pressure.received - w.course.lastControlRxMs
  let c := w.tuning.config
  if interval < u32 c.controlMinMs then w
  else
    match prepare env.policy c w.controller force (interval.toNat / 1000) with
    | none => fault env .internal .numeric now w
    | some (controller, step) =>
      let actual : ℤ := if outputIsDisabled env w then 0 else (snapshot env w).commandMv.toInt
      let w := { w with controller := controller }
      match commit env.policy (c.withPressCap (Logic.Binary32.encode 12000)) controller step actual with
      | none => fault env .internal .numeric now w
      | some (controller, _) =>
        { w with
          controller := controller
          course := { w.course with lastControlRxMs := w.pressure.received } }

/-- A qualified frame after a pulse: the segment has ended, and the frame is later in sequence and
not received before that end. -/
def postDue (e : BuildSnapshot) (w : System Exec) : Bool :=
  w.build.postPending && !e.segmentActive && decide (After w.pressure.sequence w.build.postSequence) &&
    decide (Reached w.pressure.received e.endedMs)

def driving (w : System Exec) : Bool :=
  w.session.active && !w.build.monitoring

def sourceFrame (now : U32) (force : ℚ) (e : BuildSnapshot) (w : System Exec) :
    Pressure.Update.Frame where
  measured := force
  sequence := w.pressure.sequence
  received := w.pressure.received
  now := now
  pulseActive := e.segmentActive && e.mode ≠ .coarse
  endedMs := if e.mode = .coarse then 0 else e.endedMs

/-- The progress anchor and the allowance after a net gain of `progress_N`. -/
def creditProgress (post : Bool) (force : ℚ) (w : System Exec) : System Exec :=
  if post ∧ Config.progressN.toNat ≤ force - w.build.progressAnchor then
    { w with build := { w.build with progressAnchor := force, noResponseMs := 0 } }
  else w

def phaseState : Phase → MachineState
  | .approach => .forceApproach
  | .build => .forceBuild
  | _ => .forceTaper

def enterPhase (phase : Phase) (w : System Exec) : System Exec :=
  let next := if phase = .idle then w.build.phase else phase
  { w with build := { w.build with phase := next }, state := phaseState next }

/-- BRAKE on an active segment. A failed call faults, and the frame's diagnostics follow. -/
def brakeSegment (now : U32) (w : System Exec) : System Exec :=
  let call := drive env (.endSegment w.course.token now) w
  if call.1.result ≠ .ok then fault env .motor .buildCutoff now call.2 else call.2

def awaitPost (pulse : Bool) (w : System Exec) : System Exec :=
  { w with build := { w.build with postPending := pulse, postSequence := w.pressure.sequence } }

def startSegment (now : U32) (force : ℚ) (q : Pressure.State.Decision) (w : System Exec) :
    System Exec :=
  let request := segmentRequest (BitVec.ofInt 32 w.targetUnits) q
  let call := drive env
    (.startSegment w.course.token request w.pressure.sequence w.pressure.received now) w
  if q.command ≤ 0 then fault env .motor .motorRequestRejected now w
  else if call.1.result ≠ .ok then fault env .motor .motorRequestRejected now call.2
  else pidDiagnostic env now force (awaitPost (q.action = .pulse) call.2)

def act (now : U32) (force : ℚ) (e : BuildSnapshot) (q : Pressure.State.Decision) (w : System Exec) :
    System Exec :=
  let drives := q.action = .pulse ∨ q.action = .approach
  let idle := ¬ e.segmentActive ∨ (e.mode = .coarse ∧ q.action = .pulse)
  if q.action = .off then targetOff env now w
  else if q.action = .brake ∧ e.segmentActive then
    pidDiagnostic env now force (brakeSegment env now w)
  else if drives ∧ idle then startSegment env now force q w
  else pidDiagnostic env now force w

/-- The second half of `ForceBuildMachine_Pressure`: one step of the source controller. -/
def stepSource (now : U32) (force : ℚ) (e : BuildSnapshot) (post : Bool) (w : System Exec) :
    System Exec :=
  let w := account now w
  let stepped := Pressure.Update.step (sourceFrame now force e w) w.source
  let w := creditProgress post force { w with source := stepped.1 }
  act env now force e stepped.2 (enterPhase stepped.2.phase w)

/-- Offer the frame as the pulse's answer; a session that drives needs the executor's acceptance. -/
def settlePost (now : U32) (force : ℚ) (e : BuildSnapshot) (w : System Exec) : System Exec :=
  let asked := env.executor.acceptPost w.course.token e.request w.pressure.sequence
    w.pressure.received now w.exec
  let post := postDue e w
  let answered : System Exec := { w with exec := asked.2 }
  let close (w : System Exec) : System Exec :=
    if post then { w with build := { w.build with postPending := false } } else w
  if post ∧ driving w then
    if ¬ asked.1 then fault env .motor .motorRequestRejected now answered
    else stepSource env now force e post (close answered)
  else if driving w then stepSource env now force e post w
  else close w

def renewFeedback (now : U32) (force : ℚ) (w : System Exec) : System Exec :=
  let e := buildSnapshot env now w
  let w := refreshBuild env now w
  if driving w ∧ (e.segmentActive ∨ e.preloadActive) then
    let call := drive env
      (.refreshFeedback w.course.token w.pressure.sequence w.pressure.received now) w
    if call.1.result ≠ .ok then fault env .motor .leaseExpired now call.2
    else settlePost env now force (buildSnapshot env now call.2) (refreshBuild env now call.2)
  else settlePost env now force e w

/-- The boundary of 3000 counts: the target 3000 ends its session, anything else is overpressure.
The second component says whether the frame is done with. -/
def checkBoundary (now : U32) (w : System Exec) : System Exec × Bool :=
  if w.pressure.raw < 3000 then (w, false)
  else
    let w := if driving w ∧ w.targetUnits = 3000 then targetOff env now w else w
    if w.targetUnits ≠ 3000 ∨ ¬ w.build.monitoring ∨ 3000 < rawForce w then
      (fault env .overpressure .none now w, true)
    else (w, false)

/-- `ForceBuildMachine_Pressure` on a fresh frame. -/
def freshPressure (now : U32) (w : System Exec) : System Exec :=
  let checked := checkBoundary env now w
  let w := checked.1
  if checked.2 then w
  else if driving w ∧ (w.targetUnits : ℚ) ≤ rawForce w then targetOff env now w
  else renewFeedback env now (rawForce w) w

/-- `ForceBuildMachine_Pressure`. -/
def pressure (now : U32) (w : System Exec) : System Exec :=
  if ¬ isPressureFresh now w then
    if w.session.active then fault env .pressureSensor .pressureTimeout now w else w
  else freshPressure env now w

/-! ### Begin -/

def openBuild (now : U32) (w : System Exec) : System Exec :=
  { w with
    build := { w.build with accountedMs := now, monitoring := false, progressAnchor := rawForce w } }

def firstPhase (w : System Exec) : Phase :=
  if rawForce w < 10 ∧ 3 < w.targetUnits - rawForce w then .approach else .build

/-- The session once its owner is open: the source controller starts over and decides at once. -/
def launchBuild (now token : U32) (w : System Exec) : System Exec :=
  pressure env now { w with
    course := { w.course with token := token, lastControlRxMs := w.pressure.received }
    source := Pressure.Update.reset w.targetUnits now w.source
    build := { w.build with phase := firstPhase w }
    state := phaseState (firstPhase w) }

/-- `ForceBuildMachine_Begin`; the second component is its return value. -/
def begin (now : U32) (w : System Exec) : System Exec × Bool :=
  let w := openBuild now (syncEpoch env now w)
  if (w.targetUnits : ℚ) ≤ rawForce w then
    let w := targetOff env now w
    (w, w.state ≠ .fault)
  else
    match init env.sqrtf env.policy w.tuning.config (rawForce w) w.targetUnits with
    | none => (w, false)
    | some controller =>
      let call := drive env (.beginBuild now) { w with controller := controller }
      if call.1.result ≠ .ok then (call.2, false)
      else
        let w := launchBuild env now call.1.token call.2
        (w, w.state ≠ .fault)

end Sd700.Servo.BuildMachine

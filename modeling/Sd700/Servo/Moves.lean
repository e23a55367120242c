import Mathlib.Logic.Relation
import Sd700.Modbus.Protocol

/-! What an entry point of the machine can do. A call is a path of moves at one instant; each move is
one elementary change of the context together with the guard under which the code makes it. The
safety theorems only look at moves. -/

namespace Sd700.Servo.Moves
open Build.Contract Config Controller Motor.Interface Logic.Modular State BuildMachine Servo.Machine

variable {Exec : Type} (env : Platform Exec)

structure Core (Exec : Type) where
  state : MachineState
  fault : MachineFault
  faultDetail : FaultDetail
  session : Session
  plan : PlanState
  tuning : Tuning
  targetUnits : ℤ
  targetValid : Bool
  build : BuildState
  pressure : Sample
  haveSample : Bool
  contacted : Bool
  exec : Exec

def core (w : System Exec) : Core Exec :=
  ⟨w.state, w.fault, w.faultDetail, w.session, w.plan, w.tuning, w.targetUnits, w.targetValid, w.build,
    w.pressure, w.haveSample, w.course.contacted, w.exec⟩

def Settled (now : U32) (w : System Exec) : Prop :=
  env.policy.buildToTarget = true → w.build.accountedMs = now

def Drives (w : System Exec) : Prop :=
  w.session.active = true ∧ (env.policy.buildToTarget = true → w.build.monitoring = false)

def Unengaged (w : System Exec) : Prop :=
  w.session.active = false ∧ w.session.startPending = false

structure Permit where
  edits : Prop
  reads : Prop
  resets : Prop
  starts : Prop
  runs : Prop
  stores : Sample → Prop
  frames : Sample → Prop

def Permit.none : Permit := ⟨False, False, False, False, True, fun _ => False, fun _ => False⟩

/-- The stored frame lies in the range of the sensor: up to 3000 counts for a Build build, what
`ForceServo_Measure` accepts for any other. -/
def InRange (w : System Exec) : Prop :=
  if env.policy.buildToTarget then w.pressure.raw ≤ 3000 else (measured env w).isSome

/-- What a commissioning build drives its output on: the frame at hand, fresh and in range. -/
def Feeds (may : Permit) (now : U32) (w : System Exec) : Prop :=
  env.policy.commissioning = true → may.frames w.pressure ∧ isPressureFresh now w = true ∧ InRange env w

/-- A segment, a renewal or an ordinary update is fed by the frame it names; a run is for a session
without contact. -/
def Fed (may : Permit) (now : U32) (w : System Exec) : DriveCall → Prop
  | .startRun _ _ _ _ => may.runs ∧ env.policy.buildToTarget = false ∧ w.course.contacted = false
  | .updateContinuous request => Feeds env may now w ∧ request.sequence = w.pressure.sequence ∧
      request.received = w.pressure.received ∧ request.now = now
  | .startSegment _ _ sequence received at_ =>
    Feeds env may now w ∧ sequence = w.pressure.sequence ∧ received = w.pressure.received ∧ at_ = now
  | .endSegment _ at_ => Feeds env may now w ∧ at_ = now
  | .refreshFeedback _ sequence received at_ =>
    Feeds env may now w ∧ sequence = w.pressure.sequence ∧ received = w.pressure.received ∧ at_ = now
  | _ => True

/-- A START that meets its frame; a locked build starts its session in the command itself. -/
def MayOpen (may : Permit) (now : U32) (w : System Exec) : Prop :=
  may.frames w.pressure ∧ w.session.startPending = true ∧ isPressureFresh now w = true ∧
      Reached w.pressure.received w.session.startRequestedMs ∨
    env.policy.commissioning = false ∧ may.starts ∧ w.state = .idle ∧ w.session.active = false

def MayRequest (w : System Exec) : Prop :=
  w.state = .idle ∧ w.session.active = false ∧ w.session.startPending = false ∧
    w.targetValid = true ∧ env.policy.commissioning = true ∧
    (env.policy.characterization = true → w.plan.armed = true ∧ w.plan.available = true) ∧
    (env.policy.buildToTarget = true →
      w.build.postPending = false ∧ w.build.noResponseMs < Config.noResponseMs) ∧
    w.haveSample = true

/-- The frame answers a pulse: the executor shows that the segment has ended, and the frame is later. -/
def Answers (now : U32) (w : System Exec) : Prop :=
  driving w = true ∧ isPressureFresh now w = true ∧ postDue (buildSnapshot env now w) w = true

def offer (token request now : U32) (w : System Exec) : Bool × Exec :=
  env.executor.acceptPost token request w.pressure.sequence w.pressure.received now
    (env.executor.buildSnapshot now w.exec).2

def openedSession (now : U32) (w : System Exec) : System Exec :=
  if env.policy.buildToTarget then openBuild now (syncEpoch env now (openSession env now w))
  else openSession env now w

def answered (now : U32) (x : Exec) (w : System Exec) : System Exec :=
  creditProgress true (rawForce w)
    (account now { w with exec := x, build := { w.build with postPending := false } })

/-- One elementary change at instant `now`, in a call with the given permit. -/
inductive Move (may : Permit) (now : U32) : System Exec → System Exec → Prop
  /-- Nothing that matters changes. -/
  | quiet (w w' : System Exec) (same : core w' = core w) : Move may now w w'
  | disabled (w : System Exec) : Move may now w (disable env w)
  | refreshed (w : System Exec) : Move may now w (refreshBuild env now w)
  | offered (w : System Exec) (token request : U32) (sequence : U64) (received : U32) :
      Move may now w { w with exec := (env.executor.acceptPost token request sequence received now w.exec).2 }
  | driven (w : System Exec) (call : DriveCall) (drives : Drives env w) (fed : Fed env may now w call) :
      Move may now w (drive env call w).2
  | touched (w : System Exec) (drives : Drives env w) :
      Move may now w { w with course := { w.course with contacted := true } }
  | accounted (w : System Exec) : Move may now w (account now w)
  | revoked (w : System Exec) : Move may now w (revokePlan w)
  | untargeted (w : System Exec) : Move may now w { revokePlan w with targetValid := false }
  | withdrawn (w : System Exec) :
      Move may now w { w with session := { w.session with startPending := false } }
  | ended (w : System Exec) (settled : Settled env now w) : Move may now w (endSession w)
  | recorded (w : System Exec) (f : MachineFault) (detail : FaultDetail) (off : Unengaged w)
      (unplanned : w.plan.available = false) (x : Exec) (quieted : w.exec = (env.executor.disable x).2) :
      Move may now w (recordFault f detail w)
  | idled (w : System Exec) (off : Unengaged w) (sound : w.state ≠ .fault)
      (quieted : w.state = .bootSafe ∧ outputIsDisabled env w = true ∨
        ∃ x, (env.executor.disable x).1 = .ok ∧ w.exec = (env.executor.disable x).2) :
      Move may now w { w with state := .idle }
  | reset (w : System Exec) (asked : may.resets) (faulted : w.state = .fault) (off : outputIsDisabled env w = true)
      (healthy : isHealthy env w = true) :
      Move may now w { w with state := .idle, fault := .none, faultDetail := .none }
  | requested (w : System Exec) (asked : may.starts) (ready : MayRequest env w) : Move may now w (requestStart now w)
  | opened (w : System Exec) (opens : MayOpen env may now w) : Move may now w (openedSession env now w)
  | synced (w : System Exec) (build : env.policy.buildToTarget = true)
      (books : Settled env now w ∨ w.session.active = false) :
      Move may now w (syncEpoch env now w)
  | reached (w : System Exec) (x : Exec) (ok : (env.executor.disable x).1 = .ok)
      (off : w.exec = (env.executor.disable x).2) (settled : Settled env now w)
      (active : w.session.active = true) (build : env.policy.buildToTarget = true) :
      Move may now w (markTargetOff w)
  | phased (w : System Exec) (phase : Phase) (settled : Settled env now w) (drives : Drives env w)
      (build : env.policy.buildToTarget = true) : Move may now w (enterPhase phase w)
  | answered (w : System Exec) (asked : may.frames w.pressure) (answers : Answers env now w)
      (token request : U32) (accepted : (offer env token request now w).1 = true) :
      Move may now w (answered now (offer env token request now w).2 w)
  | closed (w : System Exec) (idle : ¬ Drives env w) :
      Move may now w { w with build := { w.build with postPending := false } }
  | awaited (w : System Exec) (asked : may.frames w.pressure) (pulse : Bool) (drives : Drives env w) :
      Move may now w (awaitPost pulse w)
  | stored (w : System Exec) (p : Sample) (asked : may.stores p) (usable : sampleUsable env p = true)
      (later : outOfOrder p w = false) (forwards : receivedBackwards p w = false) :
      Move may now w (store p w)
  | marked (w : System Exec) (i : Nat) (asked : may.reads) : Move may now w (Modbus.Protocol.markRead i w)
  | running (w : System Exec) (state : MachineState) (drives : Drives env w)
      (continuous : env.policy.buildToTarget = false) (run : state = .forceBuild ∨ state = .forceHold) :
      Move may now w { w with state := state }
  | edited (w w' : System Exec) (asked : may.edits) (idle : w.state = .idle) (off : w.session.startPending = false)
      (same : core w' = { core w with
        plan := w'.plan, tuning := w'.tuning, targetUnits := w'.targetUnits, targetValid := w'.targetValid }) :
      Move may now w w'

abbrev Path (may : Permit) (now : U32) : System Exec → System Exec → Prop :=
  Relation.ReflTransGen (Move env may now)

variable {env} {may : Permit} {now : U32}

/-! ### What an operation leaves alone -/

theorem syncEpoch_eq (w : System Exec) : syncEpoch env now w = { refreshBuild env now w with
    build := { w.build with
      epoch := (buildSnapshot env now w).epoch
      noResponseMs := if w.build.epoch ≠ (buildSnapshot env now w).epoch then 0 else w.build.noResponseMs } } := by
  unfold syncEpoch
  dsimp only
  split
  · rename_i changed
    have other : w.build.epoch ≠ (buildSnapshot env now w).epoch := changed
    simp only [ne_eq, other, not_false_eq_true, if_true, refreshBuild]
  · rename_i same
    have known : w.build.epoch = (buildSnapshot env now w).epoch := not_not.mp same
    simp only [← known, ne_eq, not_true_eq_false, if_false, refreshBuild]

theorem creditProgress_eq (post : Bool) (force : ℚ) (w : System Exec) : creditProgress post force w =
    { w with build := { w.build with
      progressAnchor := if post ∧ Config.progressN.toNat ≤ force - w.build.progressAnchor then force
        else w.build.progressAnchor
      noResponseMs := if post ∧ Config.progressN.toNat ≤ force - w.build.progressAnchor then 0
        else w.build.noResponseMs } } := by
  unfold creditProgress
  split <;> rfl

theorem recordFault_eq (f : MachineFault) (detail : FaultDetail) (w : System Exec) : recordFault f detail w =
    { w with
      state := .fault
      fault := if w.state = .fault then w.fault else f
      faultDetail := if w.state = .fault then w.faultDetail else detail } := by
  unfold recordFault
  by_cases faulted : w.state = .fault
  · simp only [faulted, ne_eq, not_true_eq_false, if_false, if_true]
    rw [← faulted]
  · simp only [faulted, ne_eq, not_false_eq_true, if_false, if_true]

theorem Move.kept (stores : ∀ p, ¬ may.stores p) {w w' : System Exec} (move : Move env may now w w') :
    w'.pressure = w.pressure ∧ w'.haveSample = w.haveSample := by
  cases move with
  | quiet _ same => exact ⟨congrArg Core.pressure same, congrArg Core.haveSample same⟩
  | edited _ _ _ _ same => exact ⟨congrArg Core.pressure same, congrArg Core.haveSample same⟩
  | stored p asked => exact absurd asked (stores p)
  | recorded =>
    rw [recordFault_eq]
    exact ⟨rfl, rfl⟩
  | synced =>
    rw [syncEpoch_eq]
    exact ⟨rfl, rfl⟩
  | opened =>
    unfold openedSession
    rw [syncEpoch_eq]
    split <;> exact ⟨rfl, rfl⟩
  | answered =>
    unfold Moves.answered
    rw [creditProgress_eq]
    exact ⟨rfl, rfl⟩
  | _ => exact ⟨rfl, rfl⟩

theorem Path.kept (stores : ∀ p, ¬ may.stores p) {w w' : System Exec} (path : Path env may now w w') :
    w'.pressure = w.pressure ∧ w'.haveSample = w.haveSample := by
  induction path with
  | refl => exact ⟨rfl, rfl⟩
  | tail _ move ih =>
    have last := move.kept stores
    exact ⟨last.1.trans ih.1, last.2.trans ih.2⟩

theorem Move.tuned (edits : ¬ may.edits) {w w' : System Exec} (move : Move env may now w w') :
    w'.tuning = w.tuning ∧ w'.targetUnits = w.targetUnits := by
  cases move with
  | quiet _ same => exact ⟨congrArg Core.tuning same, congrArg Core.targetUnits same⟩
  | edited _ asked => exact absurd asked edits
  | recorded =>
    rw [recordFault_eq]
    exact ⟨rfl, rfl⟩
  | synced =>
    rw [syncEpoch_eq]
    exact ⟨rfl, rfl⟩
  | opened =>
    unfold openedSession
    rw [syncEpoch_eq]
    split <;> exact ⟨rfl, rfl⟩
  | answered =>
    unfold Moves.answered
    rw [creditProgress_eq]
    exact ⟨rfl, rfl⟩
  | _ => exact ⟨rfl, rfl⟩

theorem Path.tuned (edits : ¬ may.edits) {w w' : System Exec} (path : Path env may now w w') :
    w'.tuning = w.tuning ∧ w'.targetUnits = w.targetUnits := by
  induction path with
  | refl => exact ⟨rfl, rfl⟩
  | tail _ move ih =>
    have last := move.tuned edits
    exact ⟨last.1.trans ih.1, last.2.trans ih.2⟩

theorem Path.fresh (stores : ∀ p, ¬ may.stores p) (edits : ¬ may.edits) {w w' : System Exec}
    (path : Path env may now w w') : isPressureFresh now w' = isPressureFresh now w := by
  have kept := Path.kept stores path
  have tuned := Path.tuned edits path
  unfold isPressureFresh
  rw [kept.1, kept.2, tuned.1]

/-! ### The frame a session is fed with -/

structure SameFrame (w w' : System Exec) : Prop where
  pressure : w'.pressure = w.pressure
  haveSample : w'.haveSample = w.haveSample
  tuning : w'.tuning = w.tuning

theorem SameFrame.refl (w : System Exec) : SameFrame w w := ⟨rfl, rfl, rfl⟩

theorem SameFrame.trans {u v w : System Exec} (first : SameFrame u v) (second : SameFrame v w) : SameFrame u w :=
  ⟨second.pressure.trans first.pressure, second.haveSample.trans first.haveSample,
    second.tuning.trans first.tuning⟩

theorem SameFrame.of_core {w w' : System Exec} (same : core w' = core w) : SameFrame w w' :=
  ⟨congrArg Core.pressure same, congrArg Core.haveSample same, congrArg Core.tuning same⟩

theorem Path.frame (stores : ∀ p, ¬ may.stores p) (edits : ¬ may.edits) {w w' : System Exec}
    (path : Path env may now w w') : SameFrame w w' :=
  ⟨(Path.kept stores path).1, (Path.kept stores path).2, (Path.tuned edits path).1⟩

theorem Feeds.of_same {w w' : System Exec} (feeds : Feeds env may now w) (same : SameFrame w w') :
    Feeds env may now w' := by
  unfold Feeds isPressureFresh InRange measured at *
  rw [same.pressure, same.haveSample, same.tuning]
  exact feeds

theorem Feeds.frames {w : System Exec} (feeds : Feeds env may now w) (build : env.policy.buildToTarget = true) :
    may.frames w.pressure :=
  (feeds (env.policy.characterization_commissioning (env.policy.buildToTarget_characterization build))).1

/-! ### Faults and bookkeeping -/

theorem publish_path (w : System Exec) : Path env may now w (publish env now w) := by
  unfold publish
  split
  · exact .single (.refreshed w)
  · exact .refl

theorem finishBoost_core (reason : Nat) (w : System Exec) : core (finishBoost now reason w) = core w := by
  unfold finishBoost
  split <;> rfl

theorem beginCooling_core (w : System Exec) : core (beginCooling now w) = core w := by
  unfold beginCooling
  split <;> rfl

theorem giveReason_core (reason : RunReason) (w : System Exec) : core (giveReason reason w) = core w := by
  unfold giveReason
  split <;> rfl

theorem closing_core (reason : RunReason) (w : System Exec) :
    core (beginCooling now (finishBoost now 3 (giveReason reason w))) = core w := by
  rw [beginCooling_core, finishBoost_core, giveReason_core]

theorem settleAccount_path (w : System Exec) : Path env may now w (settleAccount env now w) := by
  unfold settleAccount
  split
  · exact .single (.accounted w)
  · exact .refl

theorem settleAccount_settled (w : System Exec) : Settled env now (settleAccount env now w) := by
  intro build
  simp only [settleAccount, build, if_true, account]

theorem Settled.of_core {w w' : System Exec} (settled : Settled env now w) (same : core w' = core w) :
    Settled env now w' := by
  intro build
  rw [show w'.build = w.build from congrArg Core.build same]
  exact settled build

theorem Drives.of_core {w w' : System Exec} (drives : Drives env w) (same : core w' = core w) :
    Drives env w' := by
  have session : w'.session = w.session := congrArg Core.session same
  have build : w'.build = w.build := congrArg Core.build same
  rw [Drives, session, build]
  exact drives

theorem fault_path (f : MachineFault) (detail : FaultDetail) (w : System Exec) :
    Path env may now w (fault env f detail now w) := by
  unfold fault
  have settled := @settleAccount_settled Exec env now w
  refine (settleAccount_path w).trans ?_
  generalize settleAccount env now w = u at settled
  refine .head (.disabled u) ?_
  refine .head (.revoked (disable env u)) ?_
  have closed := @closing_core Exec now (faultReason detail (revokePlan (disable env u)))
    (revokePlan (disable env u))
  refine .head (.quiet _ _ closed) ?_
  have booked : Settled env now (revokePlan (disable env u)) := settled
  refine .head (.ended _ (booked.of_core closed)) ?_
  have exec := congrArg Core.exec closed
  have unplanned := congrArg (fun c => c.plan.available) closed
  refine .head (.recorded _ f detail ⟨rfl, rfl⟩ unplanned u.exec exec) ?_
  exact publish_path _

/-! ### Build sessions -/

theorem service_path (w : System Exec) : Path env may now w (service env now w) := by
  unfold service
  refine .head (.refreshed w) ?_
  dsimp only
  split
  · exact fault_path ..
  · exact .refl

theorem checkDrive_path (w : System Exec) : Path env may now w (checkDrive env now w) := by
  unfold checkDrive
  refine .head (.refreshed w) ?_
  dsimp only
  split_ifs
  all_goals first
    | exact fault_path ..
    | exact .refl

theorem checkSession_path (w : System Exec) : Path env may now w (checkSession env now w) := by
  unfold checkSession
  split_ifs
  all_goals first
    | exact fault_path ..
    | exact checkDrive_path w
    | exact .refl

theorem safety_path (build : env.policy.buildToTarget = true) (w : System Exec) :
    Path env may now w (safety env now w) := by
  unfold safety
  refine .head (.accounted w) ?_
  refine .head (.synced _ build (.inl fun _ => rfl)) ?_
  exact checkSession_path _

theorem targetOff_path (build : env.policy.buildToTarget = true) {w : System Exec}
    (active : w.session.active = true) : Path env may now w (targetOff env now w) := by
  unfold targetOff
  refine .head (.accounted w) ?_
  refine .head (.disabled _) ?_
  dsimp only
  split
  · exact fault_path ..
  · rename_i succeeded
    have ok : (env.executor.disable (account now w).exec).1 = .ok := by
      simpa [disableFails] using succeeded
    exact .single (.reached _ _ ok rfl (fun _ => rfl) active build)

theorem pidDiagnostic_path (force : ℚ) (w : System Exec) :
    Path env may now w (pidDiagnostic env now force w) := by
  unfold pidDiagnostic
  dsimp only
  split
  · exact .refl
  · split
    · exact fault_path ..
    · split
      · rename_i controller _ _ _ _
        exact .head (.quiet w { w with controller := controller } rfl) (fault_path ..)
      · exact .single (.quiet _ _ rfl)

theorem driving_drives (build : env.policy.buildToTarget = true) {w : System Exec} :
    driving w = true ↔ Drives env w := by
  simp [driving, Drives, build]

theorem brakeSegment_path {w : System Exec} (feeds : Feeds env may now w) (drives : Drives env w) :
    Path env may now w (brakeSegment env now w) := by
  unfold brakeSegment
  have braked : Path env may now w (drive env (.endSegment w.course.token now) w).2 :=
    .single (.driven w _ drives ⟨feeds, rfl⟩)
  dsimp only
  split
  · exact braked.trans (fault_path ..)
  · exact braked

theorem startSegment_path (build : env.policy.buildToTarget = true) (force : ℚ) (q : Pressure.State.Decision)
    {w : System Exec} (feeds : Feeds env may now w) (drives : Drives env w) :
    Path env may now w (startSegment env now force q w) := by
  unfold startSegment
  have fed : Fed env may now w (.startSegment w.course.token (Build.Segment.segmentRequest (BitVec.ofInt 32 w.targetUnits) q)
      w.pressure.sequence w.pressure.received now) := ⟨feeds, rfl, rfl, rfl⟩
  dsimp only
  generalize DriveCall.startSegment _ _ _ _ _ = call at fed ⊢
  have started : Path env may now w (drive env call w).2 := .single (.driven w call drives fed)
  have framed : may.frames (drive env call w).2.pressure := feeds.frames build
  have still : Drives env (drive env call w).2 := drives
  generalize drive env call w = answer at started framed still
  split
  · exact fault_path ..
  split
  · exact started.trans (fault_path ..)
  · exact started.trans (.head (.awaited _ framed _ still) (pidDiagnostic_path ..))

theorem act_path (build : env.policy.buildToTarget = true) (force : ℚ) (e : BuildSnapshot)
    (q : Pressure.State.Decision) {w : System Exec} (feeds : Feeds env may now w) (drives : Drives env w) :
    Path env may now w (act env now force e q w) := by
  unfold act
  dsimp only
  split
  · exact targetOff_path build drives.1
  split
  · exact (brakeSegment_path feeds drives).trans (pidDiagnostic_path ..)
  split
  · exact startSegment_path build force q feeds drives
  · exact pidDiagnostic_path ..

theorem enterPhase_act_path (build : env.policy.buildToTarget = true) (force : ℚ) (e : BuildSnapshot)
    (q : Pressure.State.Decision) {w : System Exec} (feeds : Feeds env may now w) (drives : Drives env w)
    (settled : Settled env now w) : Path env may now w (act env now force e q (enterPhase q.phase w)) := by
  refine .head (.phased w q.phase settled drives build) ?_
  exact act_path build force e q (feeds.of_same ⟨rfl, rfl, rfl⟩) drives

theorem creditProgress_core (post : Bool) (force : ℚ) (w : System Exec) (source : Pressure.State.Source) :
    core (creditProgress post force { w with source := source }) = core (creditProgress post force w) := by
  unfold creditProgress
  split <;> rfl

theorem creditProgress_settled (post : Bool) (force : ℚ) {w : System Exec} (settled : Settled env now w) :
    Settled env now (creditProgress post force w) := by
  unfold creditProgress
  split
  · exact settled
  · exact settled

theorem creditProgress_drives (post : Bool) (force : ℚ) {w : System Exec} (drives : Drives env w) :
    Drives env (creditProgress post force w) := by
  unfold creditProgress
  split
  · exact drives
  · exact drives

theorem creditProgress_frame (post : Bool) (force : ℚ) (w : System Exec) :
    SameFrame w (creditProgress post force w) := by
  rw [creditProgress_eq]
  exact ⟨rfl, rfl, rfl⟩

theorem stepSource_path (build : env.policy.buildToTarget = true) (force : ℚ) (e : BuildSnapshot)
    {w : System Exec} (feeds : Feeds env may now w) (drives : Drives env w) :
    Path env may now w (stepSource env now force e false w) := by
  unfold stepSource
  have idle : ∀ u : System Exec, creditProgress false force u = u := by
    intro u
    simp [creditProgress]
  dsimp only
  rw [idle]
  refine .head (.accounted w) ?_
  generalize Pressure.Update.step (sourceFrame now force e (account now w)) (account now w).source = stepped
  refine .head (.quiet (account now w) { account now w with source := stepped.1 } rfl) ?_
  exact enterPhase_act_path build force e stepped.2 (feeds.of_same ⟨rfl, rfl, rfl⟩) drives (fun _ => rfl)

theorem stepSource_answered_path (build : env.policy.buildToTarget = true) (e : BuildSnapshot)
    {w : System Exec} (feeds : Feeds env may now w) (answers : Answers env now w) (token request : U32)
    (accepted : (offer env token request now w).1 = true) :
    Path env may now w (stepSource env now (rawForce w) e true
      { w with
        exec := (offer env token request now w).2
        build := { w.build with postPending := false } }) := by
  unfold stepSource
  have drives := (driving_drives build).mp answers.1
  dsimp only
  generalize Pressure.Update.step _ _ = stepped
  refine .head (.answered w (feeds.frames build) answers token request accepted) ?_
  unfold answered
  generalize (offer env token request now w).2 = x
  have settled : Settled env now
      (account now { w with exec := x, build := { w.build with postPending := false } }) := fun _ => rfl
  have still : Drives env
      (account now { w with exec := x, build := { w.build with postPending := false } }) := drives
  have framed : Feeds env may now
      (account now { w with exec := x, build := { w.build with postPending := false } }) :=
    feeds.of_same ⟨rfl, rfl, rfl⟩
  generalize account now { w with exec := x, build := { w.build with postPending := false } } = u
    at settled still framed
  have same := creditProgress_core true (rawForce w) u stepped.1
  refine .head (.quiet _ _ same) ?_
  have booked := (@creditProgress_settled Exec env now true (rawForce w) u settled).of_core same
  have credited := creditProgress_frame true (rawForce w) { u with source := stepped.1 }
  refine enterPhase_act_path build (rawForce w) e stepped.2 (framed.of_same ?_)
    ((creditProgress_drives true (rawForce w) still).of_core same) booked
  exact ⟨credited.pressure, credited.haveSample, credited.tuning⟩

/-- The frame is judged on what the executor shows of its segment. -/
theorem settlePost_path (build : env.policy.buildToTarget = true) {w : System Exec}
    (feeds : Feeds env may now w) (fresh : isPressureFresh now w = true) :
    Path env may now w
      (settlePost env now (rawForce w) (buildSnapshot env now w) (refreshBuild env now w)) := by
  unfold settlePost
  dsimp only
  by_cases post : postDue (buildSnapshot env now w) (refreshBuild env now w) = true
  · by_cases drives : driving (refreshBuild env now w) = true
    · simp only [post, drives, and_self, if_true]
      split
      · have offered : Path env may now w { refreshBuild env now w with
            exec := (offer env w.course.token (buildSnapshot env now w).request now w).2 } :=
          .head (.refreshed w) (.single (.offered (refreshBuild env now w) _ _ _ _))
        exact offered.trans (fault_path ..)
      · rename_i accepted
        rw [not_not] at accepted
        exact stepSource_answered_path build _ feeds ⟨drives, fresh, post⟩ _ _ accepted
    · have idle : ¬ Drives env (refreshBuild env now w) := fun h => drives ((driving_drives build).mpr h)
      simp only [post, drives, if_true]
      exact .head (.refreshed w) (.single (.closed _ idle))
  · rw [Bool.not_eq_true] at post
    refine .head (.refreshed w) ?_
    have framed : Feeds env may now (refreshBuild env now w) := feeds.of_same ⟨rfl, rfl, rfl⟩
    by_cases drives : driving (refreshBuild env now w) = true
    · simp only [post, drives, if_true]
      exact stepSource_path build (rawForce w) _ framed ((driving_drives build).mp drives)
    · simp only [post, drives]
      exact .refl

theorem renewFeedback_path (build : env.policy.buildToTarget = true) {w : System Exec}
    (feeds : Feeds env may now w) (fresh : isPressureFresh now w = true) :
    Path env may now w (renewFeedback env now (rawForce w) w) := by
  unfold renewFeedback
  dsimp only
  split
  · rename_i renews
    have drives : Drives env (refreshBuild env now w) := (driving_drives build).mp renews.1
    have framed : Feeds env may now (refreshBuild env now w) := feeds.of_same ⟨rfl, rfl, rfl⟩
    have fed : Fed env may now (refreshBuild env now w) (.refreshFeedback (refreshBuild env now w).course.token
        (refreshBuild env now w).pressure.sequence (refreshBuild env now w).pressure.received now) :=
      ⟨framed, rfl, rfl, rfl⟩
    generalize DriveCall.refreshFeedback _ _ _ _ = call at fed ⊢
    have renewed : Path env may now w (drive env call (refreshBuild env now w)).2 :=
      .head (.refreshed w) (.single (.driven _ call drives fed))
    have answered : Feeds env may now (drive env call (refreshBuild env now w)).2 :=
      framed.of_same ⟨rfl, rfl, rfl⟩
    refine renewed.trans ?_
    split
    · exact fault_path ..
    · exact settlePost_path build answered fresh
  · exact settlePost_path build feeds fresh

theorem checkBoundary_path (build : env.policy.buildToTarget = true) (w : System Exec) :
    Path env may now w (checkBoundary env now w).1 := by
  unfold checkBoundary
  split
  · exact .refl
  · have ended : Path env may now w
        (if driving w ∧ w.targetUnits = 3000 then targetOff env now w else w) := by
      split
      · rename_i off
        exact targetOff_path build ((driving_drives build).mp off.1).1
      · exact .refl
    dsimp only
    generalize (if driving w ∧ w.targetUnits = 3000 then targetOff env now w else w) = u at ended
    split
    · exact ended.trans (fault_path ..)
    · exact ended

theorem checkBoundary_range (w : System Exec) (goes : (checkBoundary env now w).2 = false) :
    (checkBoundary env now w).1.pressure.raw ≤ 3000 := by
  revert goes
  unfold checkBoundary
  dsimp only
  split
  · rename_i below
    intro _
    exact BitVec.le_of_lt below
  generalize (if driving w ∧ w.targetUnits = 3000 then targetOff env now w else w) = u
  split
  · intro done_
    exact nomatch done_
  · rename_i within
    intro _
    simp only [not_or, not_lt, rawForce] at within
    have counts : u.pressure.raw.toNat ≤ 3000 := by exact_mod_cast within.2.2
    exact BitVec.le_def.mpr counts

theorem freshPressure_path (build : env.policy.buildToTarget = true) {w : System Exec}
    (asked : may.frames w.pressure) (fresh : isPressureFresh now w = true) :
    Path env may now w (freshPressure env now w) := by
  unfold freshPressure
  have checked := @checkBoundary_path Exec env may now build w
  have kept := Path.kept (fun _ stores => stores) (@checkBoundary_path Exec env .none now build w)
  have still := Path.fresh (fun _ stores => stores) id (@checkBoundary_path Exec env .none now build w)
  have range := @checkBoundary_range Exec env now w
  dsimp only
  generalize checkBoundary env now w = done_ at checked kept still range
  split_ifs with ended target
  · exact checked
  · exact checked.trans (targetOff_path build ((driving_drives build).mp target.1).1)
  · have fed : Feeds env may now done_.1 := by
      intro _
      refine ⟨?_, still.trans fresh, ?_⟩
      · rw [kept.1]
        exact asked
      · rw [InRange, if_pos build]
        exact range (by simpa using ended)
    exact checked.trans (renewFeedback_path build fed (still.trans fresh))

theorem pressure_path (build : env.policy.buildToTarget = true) {w : System Exec}
    (asked : may.frames w.pressure) : Path env may now w (pressure env now w) := by
  unfold pressure
  split
  · split
    · exact fault_path ..
    · exact .refl
  · rename_i fresh
    exact freshPressure_path build asked (not_not.mp fresh)

theorem launchBuild_path (build : env.policy.buildToTarget = true) (token : U32) {w : System Exec}
    (asked : may.frames w.pressure) (drives : Drives env w) (settled : Settled env now w) :
    Path env may now w (launchBuild env now token w) := by
  unfold launchBuild
  have named : firstPhase w ≠ .idle := by
    unfold firstPhase
    split <;> simp
  refine .trans ?_ (pressure_path build asked)
  refine .head (.phased w (firstPhase w) settled drives build) (.single (.quiet _ _ ?_))
  simp only [enterPhase, if_neg named]
  rfl

theorem begin_path (build : env.policy.buildToTarget = true) {w : System Exec}
    (asked : may.frames w.pressure) (active : w.session.active = true) :
    Path env may now (openBuild now (syncEpoch env now w)) (begin env now w).1 := by
  unfold begin
  have session : (openBuild now (syncEpoch env now w)).session = w.session := by
    rw [syncEpoch_eq]
    rfl
  have framed : may.frames (openBuild now (syncEpoch env now w)).pressure := by
    rw [syncEpoch_eq]
    exact asked
  have drives : Drives env (openBuild now (syncEpoch env now w)) :=
    ⟨by rw [session]; exact active, fun _ => rfl⟩
  have settled : Settled env now (openBuild now (syncEpoch env now w)) := fun _ => rfl
  dsimp only
  generalize openBuild now (syncEpoch env now w) = u at drives settled framed
  split
  · exact targetOff_path build drives.1
  · split
    · exact .refl
    · rename_i controller _
      have ready : Drives env { u with controller := controller } := drives
      split
      · exact .head (.quiet u { u with controller := controller } rfl)
          (.single (.driven _ (.beginBuild now) ready trivial))
      · exact .head (.quiet u { u with controller := controller } rfl)
          (.head (.driven _ (.beginBuild now) ready trivial) (launchBuild_path build _ framed ready settled))

/-! ### Continuous sessions -/

theorem firstUpdate_path (continuous : env.policy.buildToTarget = false) {w : System Exec}
    (feeds : Feeds env may now w) (drives : Drives env w) : Path env may now w (firstUpdate env now w).1 := by
  unfold firstUpdate
  refine .head (.driven w (.updateContinuous (continuousRequest now 0 w)) drives ⟨feeds, rfl, rfl, rfl⟩) ?_
  dsimp only
  split
  · exact .refl
  · exact .head (.running _ .forceBuild drives continuous (.inl rfl)) (.single (.quiet _ _ rfl))

theorem grantBudget_path (continuous : env.policy.buildToTarget = false) {w : System Exec}
    (feeds : Feeds env may now w) (drives : Drives env w) : Path env may now w (grantBudget env now w).1 := by
  unfold grantBudget
  have granted : Path env may now w (drive env
      (.setBudget w.course.token now (sessionBudget w) ⌊w.tuning.config.pressCap⌋) w).2 :=
    .single (.driven w _ drives trivial)
  dsimp only
  split
  · exact granted
  · exact granted.trans (firstUpdate_path continuous (feeds.of_same ⟨rfl, rfl, rfl⟩) drives)

theorem openContinuous_path (continuous : env.policy.buildToTarget = false) {w : System Exec}
    (feeds : Feeds env may now w) (drives : Drives env w) : Path env may now w (openContinuous env now w).1 := by
  unfold openContinuous
  refine .head (.driven w .beginContinuous drives trivial) ?_
  have ready : Drives env (drive env .beginContinuous w).2 := drives
  have framed : Feeds env may now (drive env .beginContinuous w).2 := feeds.of_same ⟨rfl, rfl, rfl⟩
  generalize drive env .beginContinuous w = begun at ready framed
  dsimp only
  split
  · exact .refl
  · refine .head (.quiet begun.2
      { begun.2 with course := { begun.2.course with token := begun.1.token } } rfl) ?_
    exact grantBudget_path continuous (framed.of_same ⟨rfl, rfl, rfl⟩) ready

theorem contact_path (continuous : env.policy.buildToTarget = false) {w : System Exec}
    (feeds : Feeds env may now w) (drives : Drives env w) : Path env may now w (contact env now w).1 := by
  unfold contact
  refine .head (.disabled w) ?_
  have ready : Drives env (disable env w) := drives
  have framed : Feeds env may now (disable env w) := feeds.of_same ⟨rfl, rfl, rfl⟩
  generalize disable env w = u at ready framed
  dsimp only
  split
  · exact .refl
  · refine .head (.touched u ready) ?_
    split
    · exact .single (.quiet _ _ rfl)
    · split
      · exact .single (.quiet _ _ rfl)
      · refine .trans ?_ (openContinuous_path continuous (framed.of_same ⟨rfl, rfl, rfl⟩) ready)
        exact .single (.quiet _ _ rfl)

/-- A session that begins: its first moves open it, and what follows drives. -/
theorem beginContinuous_path (continuous : env.policy.buildToTarget = false) {w : System Exec}
    (feeds : Feeds env may now w) (drives : Drives env w) : Path env may now w (beginContinuous env now w) := by
  unfold beginContinuous
  split
  · have opened := @contact_path Exec env may now continuous w feeds drives
    dsimp only
    generalize contact env now w = done at opened
    refine opened.trans ?_
    split
    · exact .single (.quiet _ _ rfl)
    · refine .trans (fault_path .motor .motorHardware done.1) (.single (.quiet _ _ rfl))
  · exact .refl

theorem beginSession_path {w : System Exec} (opens : MayOpen env may now w)
    (range : env.policy.buildToTarget = false → env.policy.commissioning = true → InRange env w) :
    Path env may now w (beginSession env now w) := by
  refine .head (.opened w opens) ?_
  unfold beginSession openedSession
  cases build : env.policy.buildToTarget with
  | true =>
    have framed : may.frames w.pressure := by
      rcases opens with ⟨asked, -⟩ | ⟨locked, -⟩
      · exact asked
      · rw [env.policy.characterization_commissioning (env.policy.buildToTarget_characterization build)] at locked
        exact nomatch locked
    have begun := @begin_path Exec env may now build (openSession env now w) framed rfl
    simp only [if_true]
    refine begun.trans ?_
    split
    · exact .refl
    · exact fault_path ..
  | false =>
    simp only [if_false, Bool.false_eq_true]
    refine beginContinuous_path build (Feeds.of_same ?_ ⟨rfl, rfl, rfl⟩) ⟨rfl, by simp [build]⟩
    intro commissioned
    rcases opens with ⟨asked, -, fresh, -⟩ | ⟨locked, -⟩
    · exact ⟨asked, fresh, range build commissioned⟩
    · rw [commissioned] at locked
      exact nomatch locked

end Sd700.Servo.Moves

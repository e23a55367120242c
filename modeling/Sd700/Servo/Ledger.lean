import Sd700.Servo.Machine

/-! The books a ForceServo machine keeps: the configuration and its upload, the assist ledger and the
no-response clock. Most calls leave them as they are. -/

namespace Sd700.Servo.Ledger
open Build.Contract Config Controller Motor.Interface Logic.Modular State BuildMachine Servo.Machine

variable {Exec Note : Type}

structure Books (Note : Type) where
  tuning : Tuning
  target : ℤ
  words : Vector U16 50
  mask : U64
  version : U32
  used : Bool
  spentMs : U32
  commanded : Bool
  atMs : U32
  goodMs : U32
  anchor : ℚ
  note : Note

def books (note : Exec → Note) (w : System Exec) : Books Note where
  tuning := w.tuning
  target := w.targetUnits
  words := w.staging.words
  mask := w.staging.mask
  version := w.staging.version
  used := w.assist.used
  spentMs := w.assist.spentMs
  commanded := w.progress.commanded
  atMs := w.progress.atMs
  goodMs := w.progress.goodMs
  anchor := w.progress.anchor
  note := note w.exec

def DriveCall.noted : DriveCall → Bool
  | .armBoost _ _ _ | .updateContinuous _ => true
  | _ => false

structure Overlooks (E : Executor Exec) (note : Exec → Note) (arming : U32 → Note → Note)
    (updating : DriveReply → Note → Note) : Prop where
  disable : ∀ x, note (E.disable x).2 = note x
  shown : ∀ now x, note (E.buildSnapshot now x).2 = note x
  posted : ∀ token request sequence received now x,
    note (E.acceptPost token request sequence received now x).2 = note x
  driven : ∀ call x, DriveCall.noted call = false → note (E.drive call x).2 = note x
  armed : ∀ token now durationMs x, note (E.drive (.armBoost token now durationMs) x).2 = arming durationMs (note x)
  updated : ∀ request x, note (E.drive (.updateContinuous request) x).2 =
    updating (E.drive (.updateContinuous request) x).1 (note x)

variable {env : Platform Exec} {note : Exec → Note} {arming : U32 → Note → Note}
  {updating : DriveReply → Note → Note} (quiet : Overlooks env.executor note arming updating) (now : U32)

/-! ### The executor -/

theorem exec_books (w : System Exec) {x : Exec} (same : note x = note w.exec) :
    books note { w with exec := x } = books note w := by
  unfold books
  rw [same]

include quiet

theorem disable_books (w : System Exec) : books note (disable env w) = books note w :=
  exec_books w (quiet.disable w.exec)

theorem refreshBuild_books (w : System Exec) : books note (refreshBuild env now w) = books note w :=
  exec_books w (quiet.shown now w.exec)

theorem drive_books (call : DriveCall) (w : System Exec) (other : DriveCall.noted call = false) :
    books note (drive env call w).2 = books note w :=
  exec_books w (quiet.driven call w.exec other)

theorem publish_books (w : System Exec) : books note (publish env now w) = books note w := by
  unfold publish
  split
  · exact refreshBuild_books quiet now w
  · rfl

/-! ### Faults -/

omit quiet

theorem finishBoost_books (reason : Nat) (w : System Exec) : books note (finishBoost now reason w) = books note w := by
  unfold finishBoost
  split <;> rfl

theorem beginCooling_books (w : System Exec) : books note (beginCooling now w) = books note w := by
  unfold beginCooling
  split <;> rfl

theorem giveReason_books (reason : RunReason) (w : System Exec) : books note (giveReason reason w) = books note w := by
  unfold giveReason
  split <;> rfl

theorem recordFault_books (f : MachineFault) (detail : FaultDetail) (w : System Exec) :
    books note (recordFault f detail w) = books note w := by
  unfold recordFault
  split <;> rfl

theorem settleAccount_books (w : System Exec) : books note (settleAccount env now w) = books note w := by
  unfold settleAccount
  split <;> rfl

theorem creditProgress_books (post : Bool) (force : ℚ) (w : System Exec) :
    books note (creditProgress post force w) = books note w := by
  unfold creditProgress
  split <;> rfl

theorem closing_books (reason : RunReason) (w : System Exec) :
    books note (endSession (beginCooling now (finishBoost now 3 (giveReason reason w)))) = books note w :=
  (beginCooling_books now _).trans ((finishBoost_books now 3 _).trans (giveReason_books reason w))

include quiet

theorem fault_books (f : MachineFault) (detail : FaultDetail) (w : System Exec) :
    books note (fault env f detail now w) = books note w := by
  unfold fault
  dsimp only
  rw [publish_books quiet, recordFault_books, closing_books]
  exact (disable_books quiet _).trans (settleAccount_books now w)

theorem faultIfEngaged_books (detail : FaultDetail) (w : System Exec) :
    books note (faultIfEngaged env detail now w) = books note w := by
  unfold faultIfEngaged
  split
  · exact fault_books quiet now _ _ w
  · rfl

/-! ### Build sessions -/

theorem syncEpoch_books (w : System Exec) : books note (syncEpoch env now w) = books note w := by
  unfold syncEpoch
  dsimp only
  split
  · exact refreshBuild_books quiet now w
  · exact refreshBuild_books quiet now w

theorem service_books (w : System Exec) : books note (service env now w) = books note w := by
  unfold service
  dsimp only
  split
  · exact (fault_books quiet now _ _ _).trans (refreshBuild_books quiet now w)
  · exact refreshBuild_books quiet now w

theorem checkDrive_books (w : System Exec) : books note (checkDrive env now w) = books note w := by
  have shown := refreshBuild_books quiet now w
  unfold checkDrive
  dsimp only
  split
  · exact (fault_books quiet now _ _ _).trans shown
  split
  · exact (fault_books quiet now _ _ _).trans shown
  split
  · exact (fault_books quiet now _ _ _).trans shown
  split
  · exact (fault_books quiet now _ _ _).trans shown
  · exact shown

theorem safety_books (w : System Exec) : books note (safety env now w) = books note w := by
  have synced : books note (syncEpoch env now (account now w)) = books note w := syncEpoch_books quiet now _
  unfold safety checkSession
  split
  · exact synced
  split
  · exact (fault_books quiet now _ _ _).trans synced
  split
  · split
    · exact (fault_books quiet now _ _ _).trans synced
    · exact synced
  · exact (checkDrive_books quiet now _).trans synced

theorem targetOff_books (w : System Exec) : books note (targetOff env now w) = books note w := by
  have off : books note (disable env (account now w)) = books note w := disable_books quiet _
  unfold targetOff
  dsimp only
  split
  · exact (fault_books quiet now _ _ _).trans off
  · exact off

theorem pidDiagnostic_books (force : ℚ) (w : System Exec) : books note (pidDiagnostic env now force w) = books note w := by
  unfold pidDiagnostic
  dsimp only
  split
  · rfl
  split
  · exact fault_books quiet now _ _ w
  split
  · exact fault_books quiet now _ _ _
  · rfl

theorem brakeSegment_books (w : System Exec) : books note (brakeSegment env now w) = books note w := by
  have driven := drive_books quiet (.endSegment w.course.token now) w rfl
  unfold brakeSegment
  dsimp only
  split
  · exact (fault_books quiet now _ _ _).trans driven
  · exact driven

theorem startSegment_books (force : ℚ) (q : Pressure.State.Decision) (w : System Exec) :
    books note (startSegment env now force q w) = books note w := by
  unfold startSegment
  dsimp only
  split
  · exact fault_books quiet now _ _ w
  split
  · exact (fault_books quiet now _ _ _).trans (drive_books quiet _ w rfl)
  · exact (pidDiagnostic_books quiet now force _).trans (drive_books quiet _ w rfl)

theorem act_books (force : ℚ) (e : BuildSnapshot) (q : Pressure.State.Decision) (w : System Exec) :
    books note (act env now force e q w) = books note w := by
  unfold act
  dsimp only
  split
  · exact targetOff_books quiet now w
  split
  · exact (pidDiagnostic_books quiet now force _).trans (brakeSegment_books quiet now w)
  split
  · exact startSegment_books quiet now force q w
  · exact pidDiagnostic_books quiet now force w

theorem stepSource_books (force : ℚ) (e : BuildSnapshot) (post : Bool) (w : System Exec) :
    books note (stepSource env now force e post w) = books note w := by
  unfold stepSource
  dsimp only
  exact (act_books quiet now force e _ _).trans (creditProgress_books post force _)

theorem settlePost_books (force : ℚ) (e : BuildSnapshot) (w : System Exec) :
    books note (settlePost env now force e w) = books note w := by
  have asked := quiet.posted w.course.token e.request w.pressure.sequence w.pressure.received now w.exec
  unfold settlePost
  dsimp only
  split
  · split
    · exact (fault_books quiet now _ _ _).trans (exec_books w asked)
    · rw [stepSource_books quiet]
      split <;> exact exec_books w asked
  split
  · exact stepSource_books quiet now force e _ w
  · split <;> rfl

theorem renewFeedback_books (force : ℚ) (w : System Exec) :
    books note (renewFeedback env now force w) = books note w := by
  have shown := refreshBuild_books quiet now w
  unfold renewFeedback
  dsimp only
  split
  · have driven := (drive_books quiet (.refreshFeedback (refreshBuild env now w).course.token
      (refreshBuild env now w).pressure.sequence (refreshBuild env now w).pressure.received now) (refreshBuild env now w)
      rfl).trans shown
    split
    · exact (fault_books quiet now _ _ _).trans driven
    · exact (settlePost_books quiet now force _ _).trans ((refreshBuild_books quiet now _).trans driven)
  · exact (settlePost_books quiet now force _ _).trans shown

theorem checkBoundary_books (w : System Exec) : books note (checkBoundary env now w).1 = books note w := by
  unfold checkBoundary
  dsimp only
  split
  · rfl
  split
  · have off := targetOff_books quiet now w
    split
    · exact (fault_books quiet now _ _ _).trans off
    · exact off
  · split
    · exact fault_books quiet now _ _ w
    · rfl

theorem pressure_books (w : System Exec) : books note (pressure env now w) = books note w := by
  have checked := checkBoundary_books quiet now w
  unfold pressure freshPressure
  dsimp only
  split
  · split
    · exact fault_books quiet now _ _ w
    · rfl
  split
  · exact checked
  split
  · exact (targetOff_books quiet now _).trans checked
  · exact (renewFeedback_books quiet now _ _).trans checked

theorem begin_books (w : System Exec) : books note (BuildMachine.begin env now w).1 = books note w := by
  have opened : books note (openBuild now (syncEpoch env now w)) = books note w := syncEpoch_books quiet now w
  unfold BuildMachine.begin launchBuild
  dsimp only
  split
  · exact (targetOff_books quiet now _).trans opened
  split
  · exact opened
  split
  · exact (drive_books quiet (.beginBuild now) _ rfl).trans opened
  · exact (pressure_books quiet now _).trans ((drive_books quiet (.beginBuild now) _ rfl).trans opened)

/-! ### Opening a continuous owner -/

section
variable (silent : ∀ reply n, updating reply n = n)
include silent

theorem update_books (request : ContinuousRequest) (w : System Exec) :
    books note (drive env (.updateContinuous request) w).2 = books note w :=
  exec_books w ((quiet.updated request w.exec).trans (silent _ _))

theorem firstUpdate_books (w : System Exec) : books note (firstUpdate env now w).1 = books note w := by
  have driven := update_books quiet silent (continuousRequest now 0 w) w
  unfold firstUpdate
  dsimp only
  split
  · exact driven
  · exact driven

theorem grantBudget_books (w : System Exec) : books note (grantBudget env now w).1 = books note w := by
  have driven := drive_books quiet
    (.setBudget w.course.token now (sessionBudget w) ⌊w.tuning.config.pressCap⌋) w rfl
  unfold grantBudget
  dsimp only
  split
  · exact driven
  · exact (firstUpdate_books quiet now silent _).trans driven

theorem openContinuous_books (w : System Exec) : books note (openContinuous env now w).1 = books note w := by
  have driven := drive_books quiet .beginContinuous w rfl
  unfold openContinuous
  dsimp only
  split
  · exact driven
  · exact (grantBudget_books quiet now silent _).trans driven

theorem contact_books (w : System Exec) : books note (contact env now w).1 = books note w := by
  have off := disable_books quiet w
  unfold contact
  dsimp only
  split
  · exact off
  split
  · exact off
  split
  · exact off
  · exact (openContinuous_books quiet now silent _).trans off

theorem contacted_books (f : MachineFault) (detail : FaultDetail) (w : System Exec) :
    books note (if (contact env now w).2 then (contact env now w).1 else fault env f detail now (contact env now w).1) =
      books note w := by
  split
  · exact contact_books quiet now silent w
  · exact (fault_books quiet now _ _ _).trans (contact_books quiet now silent w)

theorem beginContinuous_books (w : System Exec) : books note (beginContinuous env now w) = books note w := by
  unfold beginContinuous
  dsimp only
  split
  · exact contacted_books quiet now silent _ _ w
  · rfl

theorem beginSession_books (w : System Exec) :
    books note (beginSession env now w) = books note (openSession env now w) := by
  have begun := begin_books quiet now (openSession env now w)
  unfold beginSession
  dsimp only
  split
  · split
    · exact begun
    · exact (fault_books quiet now _ _ _).trans begun
  · exact beginContinuous_books quiet now silent _

end

/-! ### Commands and checks -/

theorem stop_books (w : System Exec) : books note (stop env now w).1 = books note w := by
  have settled : books note (settleAccount env now w) = books note w := settleAccount_books now w
  unfold stop
  dsimp only
  generalize settleAccount env now w = u at settled
  have ended : books note (endSession (beginCooling now (finishBoost now 3 (giveReason .operatorStop
      (revokePlan { u with session := { u.session with startPending := false } }))))) = books note w :=
    (closing_books now .operatorStop _).trans settled
  split
  · exact (fault_books quiet now _ _ _).trans ((disable_books quiet _).trans ended)
  split
  · exact (disable_books quiet _).trans ended
  · exact (disable_books quiet _).trans ended

omit quiet in
theorem faultReset_books (w : System Exec) : books note (faultReset env w).1 = books note w := by
  unfold faultReset
  split <;> rfl

omit quiet in
theorem setTarget_books (units : ℤ) (w : System Exec) :
    books note (setTarget env units w).1 = { books note w with target := (setTarget env units w).1.targetUnits } := by
  unfold setTarget
  dsimp only
  split
  · rfl
  split
  · rfl
  split <;> rfl

theorem handled_books (r : CommandResult) (w : System Exec) : books note (publish env now (giveResult r w)) = books note w :=
  publish_books quiet now (giveResult r w)

theorem checkPending_books (w : System Exec) : books note (checkPending env now w) = books note w := by
  unfold checkPending
  split
  · exact fault_books quiet now _ _ w
  split
  · exact fault_books quiet now _ _ w
  · rfl

theorem checkContinuous_books (w : System Exec) : books note (checkContinuous env now w) = books note w := by
  unfold checkContinuous
  dsimp only
  split
  · rfl
  split
  · exact fault_books quiet now _ _ w
  split
  · exact fault_books quiet now _ _ w
  split
  · exact fault_books quiet now _ _ w
  split
  · exact fault_books quiet now _ _ w
  · rfl

omit quiet in
theorem endCooling_books (w : System Exec) : books note (endCooling now w) = books note w := by
  unfold endCooling
  split <;> rfl

theorem checkPressureSafety_books (w : System Exec) : books note (checkPressureSafety env now w) = books note w := by
  have ended : books note (endCooling now w) = books note w := endCooling_books now w
  unfold checkPressureSafety
  dsimp only
  split
  · exact (checkPending_books quiet now _).trans ended
  split
  · exact (safety_books quiet now _).trans ended
  · exact (checkContinuous_books quiet now _).trans ended

theorem completeBoot_books (checks : Bool) (w : System Exec) :
    books note (completeBoot env checks now w) = books note w := by
  unfold completeBoot
  split
  · rfl
  split
  · exact fault_books quiet now _ _ w
  · exact publish_books quiet now _

/-! ### Service and tick -/

theorem serviceAssist_books (w : System Exec) : books note (serviceAssist env now w) = books note w := by
  have driven := drive_books quiet (.serviceBoost w.course.token now) w rfl
  unfold serviceAssist
  dsimp only
  split
  · rfl
  split
  · exact (fault_books quiet now _ _ _).trans driven
  split
  · exact (finishBoost_books now 2 _).trans driven
  · exact driven

theorem serviceContinuous_books (w : System Exec) : books note (serviceContinuous env now w) = books note w := by
  unfold serviceContinuous
  dsimp only
  split
  · split
    · exact fault_books quiet now _ _ w
    split
    · exact fault_books quiet now _ _ w
    · rfl
  split
  · split
    · exact fault_books quiet now _ _ w
    · rfl
  · rfl

theorem handleMotorService_books (w : System Exec) : books note (handleMotorService env now w) = books note w := by
  unfold handleMotorService
  split
  · rfl
  · rw [publish_books quiet]
    split
    · exact service_books quiet now w
    · exact serviceContinuous_books quiet now w

theorem startApproach_books (w : System Exec) : books note (startApproach env now w) = books note w := by
  have driven := drive_books quiet (.startRun w.config.firstApproachCommandMv w.config.firstApproachDurationMs
    w.config.firstApproachBackstopMs now) w rfl
  unfold startApproach
  dsimp only
  split
  · split
    · exact (fault_books quiet now _ _ _).trans driven
    · exact driven
  · rfl

theorem tick_books (w : System Exec) : books note (tick env now w) = books note w := by
  have checked := checkPressureSafety_books quiet now w
  unfold tick
  dsimp only
  rw [publish_books quiet]
  split
  · exact (service_books quiet now _).trans checked
  · exact (startApproach_books quiet now _).trans ((serviceAssist_books quiet now _).trans checked)

end Sd700.Servo.Ledger

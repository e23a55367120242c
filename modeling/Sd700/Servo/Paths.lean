import Sd700.Servo.Moves

/-! Every entry point of `force_servo_machine.c` is a path of moves. -/

namespace Sd700.Servo.Paths
open Build.Contract Config Controller Motor.Interface Logic.Modular State BuildMachine Servo.Machine Moves

variable {Exec : Type} {env : Platform Exec} {may : Permit} {now : U32}

/-! ### Commands -/

theorem closing_path (reason : RunReason) (w : System Exec) :
    Path env may now w (beginCooling now (finishBoost now 3 (giveReason reason w))) :=
  .single (.quiet _ _ (closing_core reason w))

theorem stop_path (w : System Exec) : Path env may now w (stop env now w).1 := by
  unfold stop
  have settled := @settleAccount_settled Exec env now w
  have booked := @settleAccount_path Exec env may now w
  dsimp only
  generalize settleAccount env now w = u at settled booked
  have withdrawn : Path env may now u
      (revokePlan { u with session := { u.session with startPending := false } }) :=
    .head (.withdrawn u) (.single (.revoked _))
  have here : Settled env now (revokePlan { u with session := { u.session with startPending := false } }) :=
    settled
  have closed := @closing_core Exec now .operatorStop
    (revokePlan { u with session := { u.session with startPending := false } })
  have ending := @closing_path Exec env may now .operatorStop
    (revokePlan { u with session := { u.session with startPending := false } })
  generalize revokePlan { u with session := { u.session with startPending := false } } = v at *
  generalize beginCooling now (finishBoost now 3 (giveReason .operatorStop v)) = x at closed ending
  have ended : Path env may now w (endSession x) :=
    booked.trans (withdrawn.trans (ending.tail (.ended x (here.of_core closed))))
  have shut : Path env may now w { endSession x with staging := { x.staging with isOpen := false } } :=
    ended.tail (.quiet _ _ rfl)
  have off : Unengaged (disable env { endSession x with staging := { x.staging with isOpen := false } }) :=
    ⟨rfl, rfl⟩
  have disabled := shut.tail (.disabled _)
  have quieted : ¬ disableFails env { endSession x with staging := { x.staging with isOpen := false } } = true →
      ∃ before, (env.executor.disable before).1 = .ok ∧
        (disable env { endSession x with staging := { x.staging with isOpen := false } }).exec =
          (env.executor.disable before).2 := by
    intro succeeded
    have disabledOk : (env.executor.disable x.exec).1 = .ok := by
      by_contra failed
      exact succeeded (decide_eq_true failed)
    exact ⟨x.exec, disabledOk, rfl⟩
  generalize disable env { endSession x with staging := { x.staging with isOpen := false } } = y at *
  split
  · exact disabled.trans (fault_path ..)
  · rename_i succeeded
    dsimp only
    split
    · rename_i sound
      exact disabled.tail (.idled y off sound (.inr (quieted succeeded)))
    · exact disabled

theorem faultReset_path (w : System Exec) (asked : may.resets) :
    Path env may now w (faultReset env w).1 := by
  unfold faultReset
  split
  · rename_i ready
    exact .single (.reset w asked ready.1 ready.2.1 ready.2.2)
  · exact .refl

theorem setTarget_path (units : ℤ) (w : System Exec)
    (asked : env.policy.characterization = false → may.edits) :
    Path env may now w (setTarget env units w).1 := by
  unfold setTarget
  split
  · exact .single (.untargeted w)
  rename_i plain
  split
  · exact .refl
  rename_i ready
  simp only [not_or, not_not, Bool.not_eq_true] at ready
  have edit := asked (by simpa using plain)
  dsimp only
  split
  · exact .single (.edited w _ edit ready.1 ready.2.1 rfl)
  · exact .single (.edited w _ edit ready.1 ready.2.1 rfl)

theorem requestStart_path {w : System Exec} (asked : may.starts) (ready : MayRequest env w) :
    Path env may now w (requestStart now w) :=
  .single (.requested w asked ready)

theorem rested_path {w : System Exec} (off : w.session.active = false) : Path env may now w
    (if env.policy.buildToTarget then refreshBuild env now (syncEpoch env now w) else w) := by
  split
  · rename_i build
    exact .head (.synced w build (.inr off)) (.single (.refreshed _))
  · exact .refl

theorem syncEpoch_build (w : System Exec) :
    (syncEpoch env now w).build.postPending = w.build.postPending := by
  unfold syncEpoch
  dsimp only
  split
  · rfl
  · rfl

theorem rested_same (w : System Exec) : ∀ u, u =
    (if env.policy.buildToTarget then refreshBuild env now (syncEpoch env now w) else w) →
      u.state = w.state ∧ u.session = w.session ∧ u.targetValid = w.targetValid ∧ u.plan = w.plan := by
  intro u read
  subst read
  unfold syncEpoch
  dsimp only
  split_ifs <;> exact ⟨rfl, rfl, rfl, rfl⟩

theorem ready_allowance {w : System Exec} (rested : ready env now (syncEpoch env now w) = true) :
    (syncEpoch env now w).build.postPending = false ∧
      (syncEpoch env now w).build.noResponseMs < Config.noResponseMs := by
  simp only [ready, Bool.and_eq_true, Bool.not_eq_true', decide_eq_true_eq] at rested
  exact ⟨rested.1.2, rested.2⟩

theorem startPlan_sampled {w : System Exec} (allowed : ¬ startPlan env w ≠ .ok) : w.haveSample = true := by
  by_contra unseen
  exact allowed (by simp [startPlan, unseen])

/-- A START either leaves the session alone, or was accepted, or was tried and failed. -/
theorem admitStart_path (w : System Exec) (idle : w.state = .idle) (off : Unengaged w)
    (asked : (admitStart env now w).2 = .accepted ∨ (admitStart env now w).2 = .executorFailed → may.starts) :
    Path env may now w (admitStart env now w).1 := by
  unfold admitStart at asked ⊢
  split
  · exact .refl
  rename_i valid
  rw [if_neg valid] at asked
  have read := @rested_path Exec env may now w off.1
  have same := @rested_same Exec env now w _ rfl
  have allowance : env.policy.buildToTarget = true → ready env now (syncEpoch env now w) = true →
      (if env.policy.buildToTarget then refreshBuild env now (syncEpoch env now w) else w).build.postPending =
          false ∧
        (if env.policy.buildToTarget then refreshBuild env now (syncEpoch env now w) else w).build.noResponseMs
          < Config.noResponseMs := by
    intro build rested
    rw [if_pos build]
    exact ready_allowance rested
  dsimp only at asked ⊢
  generalize (if env.policy.buildToTarget then refreshBuild env now (syncEpoch env now w) else w) = u at *
  split
  · exact read
  rename_i admitted
  rw [if_neg admitted] at asked
  rw [not_not] at admitted
  split
  · rename_i commissioned
    rw [if_pos commissioned] at asked
    have judged : Path env may now w
        { u with report := { u.report with rejection := startPlan env u } } := read.tail (.quiet _ _ rfl)
    split
    · exact judged
    · rename_i allowed
      rw [if_neg allowed] at asked
      have start : may.starts := asked (.inl rfl)
      refine judged.trans (requestStart_path start ?_)
      refine ⟨same.1.trans idle, ?_, ?_, ?_, commissioned, ?_, ?_, startPlan_sampled allowed⟩
      · rw [show _ = w.session from same.2.1]
        exact off.1
      · rw [show _ = w.session from same.2.1]
        exact off.2
      · rw [show _ = w.targetValid from same.2.2.1]
        simpa using valid
      · intro plans
        have armed := admitted.2
        simp only [startReady, plans, Bool.and_eq_true, Bool.not_true, Bool.false_or] at armed
        exact armed.1.1.1.1.1
      · intro build
        refine allowance build ?_
        simpa [build] using admitted.1
  · rename_i locked
    rw [if_neg locked] at asked
    split
    · exact read.trans (fault_path ..)
    · rename_i below
      rw [if_neg below] at asked
      refine read.trans (beginSession_path (.inr ⟨by simpa using locked, asked ?_, same.1.trans idle, ?_⟩)
        (fun _ commissioned => absurd commissioned locked))
      · unfold beginResult
        split
        · exact .inr rfl
        · exact .inl rfl
      · rw [same.2.1]
        exact off.1

theorem forceStart_path (w : System Exec)
    (asked : (forceStart env now w).2 = .accepted ∨ (forceStart env now w).2 = .executorFailed → may.starts) :
    Path env may now w (forceStart env now w).1 := by
  unfold forceStart at asked ⊢
  split
  · exact .refl
  rename_i free
  rw [if_neg free] at asked
  simp only [not_or, not_not, Bool.not_eq_true] at free
  split
  · exact .single (.quiet _ _ rfl)
  · rename_i cool
    rw [if_neg cool] at asked
    exact admitStart_path w free.1 ⟨free.2.1, free.2.2⟩ asked

structure Commands (env : Platform Exec) (may : Permit) (now : U32) (c : Command) (w : System Exec) : Prop where
  edits : c.type = .setTarget → env.policy.characterization = false → may.edits
  resets : c.type = .faultReset → may.resets
  starts : c.type = .forceStart → (command env c now w).2 = .accepted ∨
    (command env c now w).2 = .executorFailed → may.starts

theorem command_path {c : Command} {w : System Exec} (asked : Commands env may now c w) :
    Path env may now w (command env c now w).1 := by
  obtain ⟨type, units⟩ := c
  cases type with
  | stop => exact stop_path w
  | jogStop => exact stop_path w
  | faultReset => exact faultReset_path w (asked.resets rfl)
  | setTarget => exact setTarget_path units w (asked.edits rfl)
  | forceStart => exact forceStart_path w (asked.starts rfl)
  | autoStart => exact .refl
  | jogPress => exact .refl
  | jogRelease => exact .refl
  | ackComplete => exact .refl
  | directPressPulse => exact .refl
  | directReleasePulse => exact .refl

theorem handleCommand_path {c : Command} {w : System Exec} (asked : Commands env may now c w) :
    Path env may now w (handleCommand env c now w) := by
  unfold handleCommand
  have done_ := command_path asked
  generalize command env c now w = answer at done_
  have stored : Path env may now w (giveResult answer.2 answer.1) := done_.tail (.quiet _ _ rfl)
  exact stored.trans (publish_path _)

theorem handleStop_path (w : System Exec) :
    Path env may now w (handleCommand env ⟨.stop, 0⟩ now w) := by
  apply handleCommand_path
  constructor
  · intro type
    cases type
  · intro type
    cases type
  · intro type
    cases type

/-! ### Safety checks -/

theorem checkPending_path (w : System Exec) : Path env may now w (checkPending env now w) := by
  unfold checkPending
  split
  · exact fault_path ..
  split
  · exact fault_path ..
  · exact .refl

theorem checkContinuous_path (w : System Exec) : Path env may now w (checkContinuous env now w) := by
  unfold checkContinuous
  dsimp only
  split
  · exact .refl
  split
  · exact fault_path ..
  split
  · exact fault_path ..
  split
  · exact fault_path ..
  split
  · exact fault_path ..
  · exact .refl

theorem endCooling_core (w : System Exec) : core (endCooling now w) = core w := by
  unfold endCooling
  split <;> rfl

theorem checkPressureSafety_path (w : System Exec) :
    Path env may now w (checkPressureSafety env now w) := by
  unfold checkPressureSafety
  have cooled : Path env may now w (endCooling now w) := .single (.quiet _ _ (endCooling_core w))
  dsimp only
  generalize endCooling now w = u at cooled
  refine cooled.trans ?_
  split
  · exact checkPending_path u
  split
  · rename_i build
    exact safety_path build u
  · exact checkContinuous_path u

/-! ### Stages of the continuous controller -/

def StageSpec (env : Platform Exec) (may : Permit) (now : U32) (w : System Exec) : Stage Exec → Prop
  | .next v => Path env may now w v ∧ Drives env v ∧ SameFrame w v
  | .done v => Path env may now w v

theorem StageSpec.andThen {w : System Exec} {stage : Stage Exec} {rest : System Exec → System Exec}
    (spec : StageSpec env may now w stage)
    (later : ∀ v, Drives env v → SameFrame w v → Path env may now v (rest v)) :
    Path env may now w (stage.andThen rest) := by
  cases stage with
  | next v => exact spec.1.trans (later v spec.2.1 spec.2.2)
  | done v => exact spec

theorem finishBoost_path (reason : Nat) (w : System Exec) :
    Path env may now w (finishBoost now reason w) :=
  .single (.quiet _ _ (finishBoost_core reason w))

theorem serviceAssist_path (continuous : env.policy.buildToTarget = false) (w : System Exec) :
    Path env may now w (serviceAssist env now w) := by
  unfold serviceAssist
  split
  · exact .refl
  rename_i running
  simp only [not_or, not_not] at running
  have drives : Drives env w := ⟨running.1, by simp [continuous]⟩
  have served : Path env may now w (drive env (.serviceBoost w.course.token now) w).2 :=
    .single (.driven w _ drives trivial)
  dsimp only
  generalize drive env (.serviceBoost w.course.token now) w = call at served
  split
  · exact served.trans (fault_path ..)
  · have noted : Path env may now w
        { call.2 with controller := { call.2.controller with previousCommitted := call.1.committed } } :=
      served.tail (.quiet _ _ rfl)
    split
    · exact noted.trans (finishBoost_path ..)
    · exact noted

theorem serviceAssist_frame (continuous : env.policy.buildToTarget = false) (w : System Exec) :
    SameFrame w (serviceAssist env now w) :=
  Path.frame (fun _ stores => stores) id (@serviceAssist_path Exec env .none now continuous w)

theorem contactStage_spec (force : ℚ) {w : System Exec} (drives : Drives env w) :
    StageSpec env may now w (contactStage env now force w) := by
  unfold contactStage
  split
  · exact fault_path ..
  split
  · exact fault_path ..
  split
  · exact ⟨.single (.quiet _ _ rfl), drives, rfl, rfl, rfl⟩
  · exact ⟨.refl, drives, .refl w⟩

theorem responseStage_spec (force : ℚ) {w : System Exec} (drives : Drives env w) :
    StageSpec env may now w (responseStage env now force w) := by
  unfold responseStage
  split
  · exact ⟨.refl, drives, .refl w⟩
  split
  · exact publish_path w
  · have noted : Path env may now w
        { w with assist := { w.assist with responsePending := false } } := .single (.quiet _ _ rfl)
    dsimp only
    split
    · exact noted.trans (fault_path ..)
    · exact ⟨noted, drives, rfl, rfl, rfl⟩

theorem handoffAssist_spec (taper : Bool) {w : System Exec} (drives : Drives env w) :
    StageSpec env may now w (handoffAssist env now taper w) := by
  unfold handoffAssist
  dsimp only
  generalize (if (snapshot env w).commandMv <
      BitVec.ofInt 32 (if taper = true then 0 else w.assist.handoffRequest) then
    (snapshot env w).commandMv.toInt else if taper = true then 0 else w.assist.handoffRequest) = lower
  have handed : Path env may now w (drive env (.handoffBoost w.course.token now lower) w).2 :=
    .single (.driven w _ drives trivial)
  have still : Drives env (drive env (.handoffBoost w.course.token now lower) w).2 := drives
  have frame : SameFrame w (drive env (.handoffBoost w.course.token now lower) w).2 := ⟨rfl, rfl, rfl⟩
  generalize drive env (.handoffBoost w.course.token now lower) w = call at handed still frame
  split
  · exact handed.trans (fault_path ..)
  · have finished := @finishBoost_core Exec now 2 call.2
    exact ⟨(handed.trans (finishBoost_path 2 call.2)).tail (.quiet _ _ rfl),
      (still.of_core finished).of_core rfl, frame.trans (.trans (.of_core finished) (.of_core rfl))⟩

theorem assistStage_spec (force : ℚ) {w : System Exec} (drives : Drives env w) :
    StageSpec env may now w (assistStage env now force w) := by
  unfold assistStage
  dsimp only
  split
  · exact ⟨.refl, drives, .refl w⟩
  split
  · exact fault_path ..
  split
  · exact handoffAssist_spec _ drives
  · exact ⟨.refl, drives, .refl w⟩

theorem gridStage_spec (continuous : env.policy.buildToTarget = false) (w : System Exec) :
    StageSpec env may now w (gridStage env now w) := by
  unfold gridStage
  have served : Path env may now w
      (if w.assist.active = true ∧ Reached now w.assist.normalEndMs then serviceAssist env now w else w) := by
    split
    · exact serviceAssist_path continuous w
    · exact .refl
  have frame : SameFrame w
      (if w.assist.active = true ∧ Reached now w.assist.normalEndMs then serviceAssist env now w else w) := by
    split
    · exact serviceAssist_frame continuous w
    · exact .refl w
  dsimp only
  generalize (if w.assist.active = true ∧ Reached now w.assist.normalEndMs then serviceAssist env now w
    else w) = u at served frame
  split
  · exact served
  · rename_i active
    split
    · exact served.trans (serviceAssist_path continuous u)
    · exact ⟨served, ⟨by simpa using active, by simp [continuous]⟩, frame⟩

theorem approachStage_spec (continuous : env.policy.buildToTarget = false) (force : ℚ) {w : System Exec}
    (feeds : Feeds env may now w) (drives : Drives env w) :
    StageSpec env may now w (approachStage env now force w) := by
  unfold approachStage
  split
  · exact ⟨.refl, drives, .refl w⟩
  split
  · have opened := @contact_path Exec env may now continuous w feeds drives
    refine .trans ?_ (publish_path _)
    split
    · exact opened
    · exact opened.trans (fault_path ..)
  · exact publish_path w

theorem admitStage_spec (force : ℚ) (requested : ℤ) (step : Step) {w : System Exec}
    (drives : Drives env w) : StageSpec env may now w (admitStage env now force requested step w) := by
  unfold admitStage
  split
  · exact ⟨.refl, drives, .refl w⟩
  have reserved : Path env may now w (reserveAssist requested w) := .single (.quiet _ _ rfl)
  have ready : Drives env (reserveAssist requested w) := drives
  have kept : SameFrame w (reserveAssist requested w) := ⟨rfl, rfl, rfl⟩
  dsimp only
  generalize reserveAssist requested w = u at reserved ready kept
  have armed : Path env may now w
      (drive env (.armBoost u.course.token now (u32 u.tuning.profile.boostMs)) u).2 :=
    reserved.tail (.driven u _ ready trivial)
  have still : Drives env (drive env (.armBoost u.course.token now (u32 u.tuning.profile.boostMs)) u).2 :=
    ready
  have held : SameFrame w (drive env (.armBoost u.course.token now (u32 u.tuning.profile.boostMs)) u).2 :=
    kept.trans ⟨rfl, rfl, rfl⟩
  generalize drive env (.armBoost u.course.token now (u32 u.tuning.profile.boostMs)) u = call
    at armed still held
  split
  · exact armed.trans (fault_path ..)
  have fed : Fed env may now call.2 (.setBoostPlan u.course.token now (u32 u.tuning.profile.assistRiseMs)
    (u32 u.tuning.profile.assistEndMs) ⌊u.tuning.profile.peakPress⌋ requested) := trivial
  generalize DriveCall.setBoostPlan u.course.token now (u32 u.tuning.profile.assistRiseMs)
    (u32 u.tuning.profile.assistEndMs) ⌊u.tuning.profile.peakPress⌋ requested = plan at fed ⊢
  have planned : Path env may now w (drive env plan call.2).2 := armed.tail (.driven call.2 _ still fed)
  have ended : Drives env (drive env plan call.2).2 := still
  have same : SameFrame w (drive env plan call.2).2 := held.trans ⟨rfl, rfl, rfl⟩
  generalize drive env plan call.2 = done_ at planned ended same
  split
  · exact planned.trans (fault_path ..)
  · exact ⟨planned.tail (.quiet _ _ rfl), ended, same.trans ⟨rfl, rfl, rfl⟩⟩

theorem exitStage_spec (demandExit : Bool) {w : System Exec} (drives : Drives env w) :
    StageSpec env may now w (exitStage env now demandExit w) := by
  unfold exitStage
  split
  · exact ⟨.refl, drives, .refl w⟩
  have left : Path env may now w (drive env (.endBoost w.course.token) w).2 :=
    .single (.driven w _ drives trivial)
  have still : Drives env (drive env (.endBoost w.course.token) w).2 := drives
  have same : SameFrame w (drive env (.endBoost w.course.token) w).2 := ⟨rfl, rfl, rfl⟩
  dsimp only
  generalize drive env (.endBoost w.course.token) w = call at left still same
  split
  · exact left.trans (fault_path ..)
  · exact ⟨left, still, same⟩

/-! ### One control update -/

theorem trackLimits_core (step : Step) (w : System Exec) : core (trackLimits now step w) = core w := rfl

theorem trackResponse_core (force : ℚ) (committed : ℤ) (w : System Exec) :
    core (trackResponse now force committed w) = core w := by
  unfold trackResponse
  dsimp only
  split <;> rfl

theorem updateHold_path (continuous : env.policy.buildToTarget = false) (step : Step) {w : System Exec}
    (drives : Drives env w) : Path env may now w (updateHold now step w) := by
  unfold updateHold
  dsimp only
  split
  · exact .head (.running w .forceHold drives continuous (.inr rfl)) (.single (.quiet _ _ rfl))
  split
  · exact .single (.running w .forceBuild drives continuous (.inl rfl))
  · exact .refl

theorem supervise_path (continuous : env.policy.buildToTarget = false) (force : ℚ) (committed : ℤ)
    (step : Step) {w : System Exec} (drives : Drives env w) :
    Path env may now w (supervise env now force committed step w) := by
  unfold supervise
  have tracked : core (trackResponse now force committed (trackLimits now step w)) = core w :=
    trackResponse_core force committed (trackLimits now step w)
  have begun : Path env may now w (trackResponse now force committed (trackLimits now step w)) :=
    .single (.quiet _ _ tracked)
  have still := drives.of_core tracked
  dsimp only
  generalize trackResponse now force committed (trackLimits now step w) = u at begun still
  generalize (if u.progress.trackingActive = true then now - u.progress.trackingStartedMs else 0) = tracking
  refine .trans ?_ (publish_path _)
  refine begun.trans ?_
  split
  · exact fault_path ..
  split
  · exact fault_path ..
  · exact updateHold_path continuous step still

theorem commitStage_path (continuous : env.policy.buildToTarget = false) (force : ℚ)
    (effective : ForceServoConfig) (reply : DriveReply) (requested : ℤ) (demandExit : Bool) (step : Step)
    {w : System Exec} (drives : Drives env w) :
    Path env may now w (commitStage env now force effective reply requested demandExit step w) := by
  unfold commitStage
  dsimp only
  split
  · exact fault_path ..
  · rename_i controller closed _
    have committed : Path env may now w { w with controller := controller } := .single (.quiet _ _ rfl)
    have still : Drives env { w with controller := controller } := drives
    have finished : Path env may now w
          (if demandExit = true then finishBoost now 2 { w with controller := controller }
            else { w with controller := controller }) ∧
        Drives env (if demandExit = true then finishBoost now 2 { w with controller := controller }
            else { w with controller := controller }) := by
      split
      · exact ⟨committed.trans (finishBoost_path ..), still.of_core (finishBoost_core ..)⟩
      · exact ⟨committed, still⟩
    generalize (if demandExit = true then finishBoost now 2 { w with controller := controller }
      else { w with controller := controller }) = u at finished
    have noted : Path env may now w
        { u with course := { u.course with lastControlRxMs := u.pressure.received } } :=
      finished.1.tail (.quiet _ _ rfl)
    exact noted.trans (supervise_path continuous force reply.committed closed finished.2)

theorem updateStage_path (continuous : env.policy.buildToTarget = false) (force : ℚ) (requested : ℤ)
    (demandExit : Bool) (step : Step) {w : System Exec} (feeds : Feeds env may now w) (drives : Drives env w) :
    Path env may now w (updateStage env now force requested demandExit step w) := by
  unfold updateStage
  dsimp only
  split
  · exact fault_path ..
  generalize wanted : DriveCall.updateContinuous _ = call
  have fed : Fed env may now w call := by
    rw [← wanted]
    exact ⟨feeds, rfl, rfl, rfl⟩
  have updated : Path env may now w (drive env call w).2 := .single (.driven w _ drives fed)
  have still : Drives env (drive env call w).2 := drives
  generalize drive env call w = answer at updated still
  split
  · exact updated.trans (fault_path ..)
  · exact updated.trans (commitStage_path continuous _ _ _ _ _ _ still)

theorem controlStep_path (continuous : env.policy.buildToTarget = false) (force : ℚ) {w : System Exec}
    (feeds : Feeds env may now w) (drives : Drives env w) : Path env may now w (controlStep env now force w) := by
  unfold controlStep
  dsimp only
  split
  · exact fault_path ..
  · rename_i controller step _
    have prepared : Path env may now w { w with controller := controller } := .single (.quiet _ _ rfl)
    have still : Drives env { w with controller := controller } := drives
    have same : SameFrame w { w with controller := controller } := ⟨rfl, rfl, rfl⟩
    refine prepared.trans ?_
    refine (exitStage_spec _ still).andThen fun u driven left => ?_
    refine (admitStage_spec force _ step driven).andThen fun v ready admitted => ?_
    exact updateStage_path continuous force _ _ step (feeds.of_same (same.trans (left.trans admitted))) ready

/-- A stale frame ends in the first stage; a fresh one feeds the others. -/
theorem control_path (continuous : env.policy.buildToTarget = false) (force : ℚ) {w : System Exec}
    (asked : may.frames w.pressure) (range : InRange env w) (drives : Drives env w) :
    Path env may now w (Machine.control env now force w) := by
  by_cases fresh : isPressureFresh now w = true
  · have feeds : Feeds env may now w := fun _ => ⟨asked, fresh, range⟩
    unfold Machine.control
    refine (contactStage_spec force drives).andThen fun u touched first => ?_
    refine (responseStage_spec force touched).andThen fun v answered second => ?_
    refine (assistStage_spec force answered).andThen fun x assisted third => ?_
    refine (gridStage_spec continuous x).andThen fun y gridded fourth => ?_
    have fed := feeds.of_same (first.trans (second.trans (third.trans fourth)))
    refine (approachStage_spec continuous force fed gridded).andThen fun z near fifth => ?_
    exact controlStep_path continuous force (fed.of_same fifth) near
  · have stale : contactStage env now force w = .done (fault env .pressureSensor .pressureTimeout now w) :=
      if_pos fresh
    unfold Machine.control
    rw [stale]
    exact fault_path ..

/-! ### Pressure samples -/

theorem faultIfEngaged_path (detail : FaultDetail) (w : System Exec) :
    Path env may now w (faultIfEngaged env detail now w) := by
  unfold faultIfEngaged
  split
  · exact fault_path ..
  · exact .refl

theorem beginAnswered_path {w : System Exec} (opens : MayOpen env may now w)
    (range : env.policy.buildToTarget = false → InRange env w) :
    Path env may now w (beginAnswered env now w) := by
  have begun := beginSession_path opens (fun continuous _ => range continuous)
  unfold beginAnswered
  generalize beginSession env now w = u at begun
  exact begun.tail (.quiet _ _ rfl)

theorem answersStart_opens {w : System Exec} (asked : may.frames w.pressure) (pending : w.session.startPending = true)
    (answers : answersStart now w = true) : MayOpen env may now w := by
  simp only [answersStart, Bool.and_eq_true, decide_eq_true_eq] at answers
  exact .inl ⟨asked, pending, answers.1, answers.2⟩

theorem answerStart_path (force : ℚ) {w : System Exec} (asked : may.frames w.pressure)
    (pending : w.session.startPending = true) (range : env.policy.buildToTarget = false → InRange env w) :
    Path env may now w (answerStart env now force w) := by
  unfold answerStart
  split
  · exact .refl
  rename_i answers
  rw [not_not] at answers
  split
  · exact fault_path ..
  dsimp only
  generalize planAllowed env.sqrtf env.policy w.tuning.profile w.tuning.config force w.targetUnits = verdict
  have judged : Path env may now w { w with report := { w.report with rejection := verdict } } :=
    .single (.quiet _ _ rfl)
  split
  · exact judged.trans (fault_path ..)
  · have opens : MayOpen env may now { w with report := { w.report with rejection := verdict } } :=
      answersStart_opens asked pending answers
    exact judged.trans (beginAnswered_path opens range)

theorem stopAtBoundary_path (w : System Exec) : Path env may now w (stopAtBoundary env now w) := by
  unfold stopAtBoundary
  have recorded : core (recordBoundaryStart now w) = core w := by
    unfold recordBoundaryStart
    split <;> rfl
  refine .trans ?_ (handleStop_path _)
  exact .single (.quiet _ _ recorded)

theorem noteSample_core (force : ℚ) (w : System Exec) : core (noteSample now force w) = core w := rfl

theorem processSample_path {w : System Exec} (asked : may.frames w.pressure)
    (build : env.policy.buildToTarget = true → w.session.startPending = true) :
    Path env may now w (processSample env now w) := by
  unfold processSample
  split
  · exact fault_path ..
  split
  · exact faultIfEngaged_path ..
  rename_i force read
  have range : env.policy.buildToTarget = false → InRange env w := by
    intro continuous
    simp only [InRange, continuous, Bool.false_eq_true, if_false, read, Option.isSome_some]
  have noted : Path env may now w (noteSample now force w) :=
    .single (.quiet _ _ (noteSample_core force w))
  have same : (noteSample now force w).session = w.session := rfl
  have opens : may.frames (noteSample now force w).pressure := asked
  have ranges : env.policy.buildToTarget = false → InRange env (noteSample now force w) := range
  dsimp only
  generalize noteSample now force w = u at noted same opens ranges
  refine noted.trans ?_
  split
  · rename_i pending
    exact (answerStart_path force opens pending ranges).trans (publish_path _)
  rename_i waiting
  have continuous : env.policy.buildToTarget = false := by
    by_contra segments
    rw [same] at waiting
    exact waiting (build (by simpa using segments))
  split
  · exact publish_path u
  · rename_i active
    exact control_path continuous force opens (ranges continuous) ⟨by simpa using active, by simp [continuous]⟩

theorem processBuildSample_path (build : env.policy.buildToTarget = true) {w : System Exec}
    (asked : may.frames w.pressure) :
    Path env may now w (processBuildSample env now w) := by
  unfold processBuildSample
  split
  · exact (pressure_path build asked).trans (publish_path _)
  rename_i pending
  rw [not_not] at pending
  split
  · rename_i boundary
    have opens : MayOpen env may now w := answersStart_opens asked pending boundary.1
    have segments (continuous : env.policy.buildToTarget = false) : InRange env w := by
      rw [build] at continuous
      exact nomatch continuous
    exact (beginAnswered_path opens segments).trans (publish_path _)
  · exact processSample_path asked fun _ => pending

theorem processStored_path {w : System Exec} (asked : may.frames w.pressure) : Path env may now w
    (if env.policy.buildToTarget then processBuildSample env now w
      else if boundaryReached env now w then stopAtBoundary env now w
      else processSample env now w) := by
  split
  · rename_i build
    exact processBuildSample_path build asked
  rename_i continuous
  split
  · exact stopAtBoundary_path w
  · exact processSample_path asked fun build => absurd build continuous

/-- The order of a frame is judged against the frame before it. -/
theorem checkPressureSafety_sample (w : System Exec) :
    (checkPressureSafety env now w).pressure = w.pressure ∧
      (checkPressureSafety env now w).haveSample = w.haveSample :=
  Path.kept (fun _ stores => stores) (@checkPressureSafety_path Exec env .none now w)

theorem acceptSample_path {p : Sample} {w : System Exec} (asked : may.stores p) (opens : may.frames p)
    (usable : sampleUsable env p = true) (later : outOfOrder p w = false)
    (forwards : receivedBackwards p w = false) : Path env may now w (acceptSample env p now w) := by
  unfold acceptSample
  have same := @checkPressureSafety_sample Exec env now w
  refine (checkPressureSafety_path w).trans ?_
  dsimp only
  generalize checkPressureSafety env now w = u at same
  refine .head (.stored u p asked usable ?_ ?_) (processStored_path opens)
  · simpa only [outOfOrder, same.1, same.2] using later
  · simpa only [receivedBackwards, same.1, same.2] using forwards

theorem handlePressureSample_path {p : Sample} (asked : may.stores p) (opens : may.frames p) (w : System Exec) :
    Path env may now w (handlePressureSample env p now w) := by
  unfold handlePressureSample
  split
  · exact faultIfEngaged_path ..
  rename_i usable
  split
  · split
    · exact faultIfEngaged_path ..
    · exact .refl
  rename_i later
  split
  · exact faultIfEngaged_path ..
  · rename_i forwards
    exact acceptSample_path asked opens (by simpa using usable) (by simpa using later) (by simpa using forwards)

/-! ### Service and tick -/

theorem serviceContinuous_path (w : System Exec) : Path env may now w (serviceContinuous env now w) := by
  unfold serviceContinuous
  dsimp only
  split
  · split
    · exact fault_path ..
    split
    · exact fault_path ..
    · exact .refl
  split
  · split
    · exact fault_path ..
    · exact .single (.quiet _ _ rfl)
  · exact .refl

theorem handleMotorService_path (w : System Exec) : Path env may now w (handleMotorService env now w) := by
  unfold handleMotorService
  split
  · exact .refl
  refine .trans ?_ (publish_path _)
  split
  · exact service_path w
  · exact serviceContinuous_path w

theorem startApproach_path (runs : may.runs) (continuous : env.policy.buildToTarget = false) (w : System Exec) :
    Path env may now w (startApproach env now w) := by
  unfold startApproach
  dsimp only
  split
  · rename_i ready
    have fed : Fed env may now w (.startRun w.config.firstApproachCommandMv w.config.firstApproachDurationMs
        w.config.firstApproachBackstopMs now) := by
      refine ⟨runs, continuous, ?_⟩
      simpa using ready.2.1
    generalize DriveCall.startRun _ _ _ _ = call at fed ⊢
    have driven : Path env may now w (drive env call w).2 :=
      .single (.driven w _ ⟨ready.1, by simp [continuous]⟩ fed)
    generalize drive env call w = answer at driven
    split
    · exact driven.trans (fault_path ..)
    · exact driven.tail (.quiet _ _ rfl)
  · exact .refl

theorem tick_path (runs : may.runs) (w : System Exec) : Path env may now w (tick env now w) := by
  unfold tick
  have checked := @checkPressureSafety_path Exec env may now w
  dsimp only
  generalize checkPressureSafety env now w = u at checked
  refine .trans ?_ (publish_path _)
  refine checked.trans ?_
  split
  · exact service_path u
  · rename_i continuous
    have off : env.policy.buildToTarget = false := by simpa using continuous
    exact (serviceAssist_path off u).trans (startApproach_path runs off _)

theorem completeBoot_path {w : System Exec} (off : w.state = .bootSafe → Unengaged w) (checks : Bool) :
    Path env may now w (completeBoot env checks now w) := by
  unfold completeBoot
  split
  · exact .refl
  rename_i booting
  rw [not_not] at booting
  split
  · exact fault_path ..
  · rename_i ready
    simp only [not_or, not_not] at ready
    refine .head (.idled w (off booting) ?_ (.inl ⟨booting, ready.2.2.2.1⟩)) (publish_path _)
    rw [booting]
    simp

end Sd700.Servo.Paths

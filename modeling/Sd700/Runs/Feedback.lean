import Sd700.Runs.Terminal

/-! What feeds a session of a commissioning build. Its output is started, renewed and updated by frames
that are later than the one before, recent and in range; any other frame, and any gap, ends it. -/

namespace Sd700.Runs.Feedback
open Build.Contract Servo.Config Servo.State Servo.BuildMachine Servo.Machine Servo.Moves Servo.Paths
  Motor.Interface Logic.Modular Logic.Run Runs.Calls
open Runs.Terminal (Orderly Sound checkPressureSafety_cases targetOff_cases stop_rests
  endCooling_eq AtRest)
open Modbus.Protocol (regPlanBegin regPlanStage regPlanCommit regPlanActive regPlanAck regPlanArm coilStart)

variable {Exec : Type} {env : Platform Exec} {between : Exec → Exec → Prop} {may : Permit} {now : U32}

/-! ### What a session rests on -/

def Sampled (env : Platform Exec) (w : System Exec) : Prop :=
  env.policy.commissioning = true → w.session.active = true ∨ w.session.startPending = true → w.haveSample = true

theorem Sampled.of_same {w w' : System Exec} (sampled : Sampled env w) (session : w'.session = w.session)
    (haveSample : w'.haveSample = w.haveSample) : Sampled env w' := by
  unfold Sampled
  rw [session, haveSample]
  exact sampled

theorem fresh_sampled {w : System Exec} (fresh : isPressureFresh now w = true) : w.haveSample = true := by
  simp only [isPressureFresh, Bool.and_eq_true] at fresh
  exact fresh.1.1.1

theorem openedSession_sample (w : System Exec) : (openedSession env now w).haveSample = w.haveSample := by
  unfold openedSession
  rw [syncEpoch_eq]
  split
  · rfl
  · rfl

theorem Sampled.move {w w' : System Exec} (sampled : Sampled env w) (move : Move env may now w w') :
    Sampled env w' := by
  cases move with
  | quiet _ same => exact sampled.of_same (congrArg Core.session same) (congrArg Core.haveSample same)
  | edited _ _ _ _ same => exact sampled.of_same (congrArg Core.session same) (congrArg Core.haveSample same)
  | withdrawn =>
    rintro commissioned (active | pending)
    · exact sampled commissioned (.inl active)
    · exact nomatch pending
  | ended =>
    rintro - (active | pending)
    · exact nomatch active
    · exact nomatch pending
  | recorded =>
    rw [recordFault_eq]
    exact sampled.of_same rfl rfl
  | requested _ ready => exact fun _ _ => ready.2.2.2.2.2.2.2
  | opened opens =>
    intro commissioned _
    rw [openedSession_sample]
    rcases opens with ⟨-, -, fresh, -⟩ | ⟨locked, -⟩
    · exact fresh_sampled fresh
    · rw [commissioned] at locked
      exact nomatch locked
  | synced =>
    rw [syncEpoch_eq]
    exact sampled.of_same rfl rfl
  | answered =>
    rw [Servo.Moves.answered, creditProgress_eq]
    exact sampled.of_same rfl rfl
  | reached _ _ _ _ active => exact fun commissioned _ => sampled commissioned (.inl active)
  | stored => exact fun _ _ => rfl
  | _ => exact sampled.of_same rfl rfl

theorem Sampled.path {w w' : System Exec} (sampled : Sampled env w) (path : Path env may now w w') :
    Sampled env w' := by
  induction path with
  | refl => exact sampled
  | tail _ move ih => exact ih.move move

def Touching (env : Platform Exec) (w : System Exec) : Prop :=
  env.policy.commissioning = true → env.policy.buildToTarget = false → w.session.active = true →
    w.course.contacted = true

theorem Touching.inactive {w : System Exec} (inactive : w.session.active = false) : Touching env w := by
  intro _ _ active
  rw [inactive] at active
  exact nomatch active

theorem Touching.of_same {w w' : System Exec} (touching : Touching env w) (session : w'.session = w.session)
    (contacted : w'.course.contacted = w.course.contacted) : Touching env w' := by
  unfold Touching
  rw [session, contacted]
  exact touching

theorem Touching.move {w w' : System Exec} (touching : Touching env w) (unopened : ¬ MayOpen env may now w)
    (move : Move env may now w w') : Touching env w' := by
  cases move with
  | quiet _ same => exact touching.of_same (congrArg Core.session same) (congrArg Core.contacted same)
  | edited _ _ _ _ same => exact touching.of_same (congrArg Core.session same) (congrArg Core.contacted same)
  | touched => exact fun _ _ _ => rfl
  | ended => exact .inactive rfl
  | recorded =>
    rw [recordFault_eq]
    exact touching.of_same rfl rfl
  | opened opens => exact absurd opens unopened
  | synced =>
    rw [syncEpoch_eq]
    exact touching.of_same rfl rfl
  | answered =>
    rw [Servo.Moves.answered, creditProgress_eq]
    exact touching.of_same rfl rfl
  | reached _ _ _ _ active build =>
    intro _ continuous
    rw [build] at continuous
    exact absurd continuous.symm Bool.false_ne_true
  | _ => exact touching

/-- A call that cannot begin a session: no frame comes, or no START waits and none is given. -/
def Continuing (may : Permit) (w : System Exec) : Prop :=
  (∀ p, ¬ may.frames p) ∨ w.session.startPending = false ∧ ¬ may.starts

theorem Continuing.unopened {w : System Exec} (continuing : Continuing may w)
    (commissioned : env.policy.commissioning = true) : ¬ MayOpen env may now w := by
  rintro (⟨asked, pending, -⟩ | ⟨locked, -⟩)
  · rcases continuing with none | ⟨waiting, -⟩
    · exact none _ asked
    · rw [waiting] at pending
      exact nomatch pending
  · rw [commissioned] at locked
    exact nomatch locked

theorem Continuing.move {w w' : System Exec} (continuing : Continuing may w)
    (commissioned : env.policy.commissioning = true) (move : Move env may now w w') : Continuing may w' := by
  rcases continuing with none | ⟨waiting, still⟩
  · exact .inl none
  refine .inr ⟨?_, still⟩
  cases move with
  | quiet _ same => exact (congrArg (fun c => c.session.startPending) same).trans waiting
  | edited _ _ _ _ same => exact (congrArg (fun c => c.session.startPending) same).trans waiting
  | requested asked => exact absurd asked still
  | opened opens => exact absurd opens (Continuing.unopened (.inr ⟨waiting, still⟩) commissioned)
  | recorded =>
    rw [recordFault_eq]
    exact waiting
  | synced =>
    rw [syncEpoch_eq]
    exact waiting
  | answered =>
    rw [Servo.Moves.answered, creditProgress_eq]
    exact waiting
  | withdrawn => rfl
  | ended => rfl
  | reached => rfl
  | _ => exact waiting

theorem Touching.path {w w' : System Exec} (touching : Touching env w) (continuing : Continuing may w)
    (path : Path env may now w w') : Touching env w' := by
  intro commissioned
  have both : Touching env w' ∧ Continuing may w' := by
    induction path with
    | refl => exact ⟨touching, continuing⟩
    | tail _ move ih => exact ⟨ih.1.move (ih.2.unopened commissioned) move, ih.2.move commissioned move⟩
  exact both.1 commissioned

/-! ### A START that meets its frame -/

theorem fault_inactive (f : MachineFault) (detail : FaultDetail) (w : System Exec) :
    (fault env f detail now w).session.active = false := by
  unfold fault publish
  dsimp only
  rw [recordFault_eq]
  split
  · rfl
  · rfl

theorem openContinuous_contacted (w : System Exec) :
    (openContinuous env now w).1.course.contacted = w.course.contacted := by
  unfold openContinuous grantBudget firstUpdate
  dsimp only
  split_ifs
  · rfl
  · rfl
  · rfl
  · rfl

theorem contact_contacted {w : System Exec} (opened : (contact env now w).2 = true) :
    (contact env now w).1.course.contacted = true := by
  revert opened
  unfold contact
  dsimp only
  split
  · exact fun failed => nomatch failed
  split
  · exact fun failed => nomatch failed
  split
  · exact fun failed => nomatch failed
  · intro _
    rw [openContinuous_contacted]

theorem beginSession_touching (w : System Exec) : Touching env (beginSession env now w) := by
  intro commissioned continuous
  unfold beginSession beginContinuous
  dsimp only
  rw [if_neg (by simp [continuous]), if_pos (.inl commissioned)]
  split
  · rename_i opened
    exact fun _ => contact_contacted opened
  · intro active
    have ended : (fault env .motor .motorHardware now (contact env now (openSession env now w)).1).session.active =
        false := fault_inactive ..
    rw [show (fault env .motor .motorHardware now (contact env now (openSession env now w)).1).session.active =
      true from active] at ended
    exact nomatch ended

theorem Touching.publish {w : System Exec} (touching : Touching env w) : Touching env (publish env now w) := by
  unfold Servo.BuildMachine.publish
  split
  · exact touching
  · exact touching

theorem answerStart_touching (force : ℚ) {w : System Exec} (touching : Touching env w) :
    Touching env (answerStart env now force w) := by
  unfold answerStart
  split
  · exact touching
  split
  · exact .inactive (fault_inactive ..)
  dsimp only
  split
  · exact .inactive (fault_inactive ..)
  · exact (beginSession_touching _).of_same rfl rfl

theorem processSample_touching {w : System Exec} (touching : Touching env w) (pending : w.session.startPending = true) :
    Touching env (processSample env now w) := by
  unfold processSample
  split
  · exact .inactive (fault_inactive ..)
  split
  · unfold faultIfEngaged
    split
    · exact .inactive (fault_inactive ..)
    · exact touching
  · rename_i force _
    have noted : Touching env (noteSample now force w) := touching.of_same rfl rfl
    dsimp only
    rw [if_pos (show (noteSample now force w).session.startPending = true from pending)]
    exact (answerStart_touching force noted).publish

def feeding (p : Sample) : Permit := ⟨False, False, False, False, False, fun q => q = p, fun q => q = p⟩

theorem acceptSample_touching {p : Sample} {w : System Exec} (touching : Touching env w)
    (continuous : env.policy.buildToTarget = false) : Touching env (acceptSample env p now w) := by
  have checked : Touching env (checkPressureSafety env now w) :=
    touching.path (.inl fun _ => id) (@checkPressureSafety_path Exec env .none now w)
  have stored : Touching env (store p (checkPressureSafety env now w)) := checked.of_same rfl rfl
  unfold acceptSample
  dsimp only
  generalize store p (checkPressureSafety env now w) = u at stored
  rw [if_neg (by simp [continuous])]
  split
  · exact stored.path (.inl fun _ => id) (@stopAtBoundary_path Exec env .none now u)
  cases pending : u.session.startPending with
  | true => exact processSample_touching stored pending
  | false =>
    have path : Path env ⟨False, False, False, False, False, fun _ => False, fun _ => True⟩ now u
        (processSample env now u) :=
      processSample_path trivial (fun build => absurd build (by simp [continuous]))
    exact stored.path (.inr ⟨pending, id⟩) path

theorem Touching.called {w : System Exec} (touching : Touching env w) (orderly : Orderly env w) (e : Event)
    (now : U32) : Touching env (call env e now w) := by
  by_cases delivers : ∃ p, e = .sample p
  · obtain ⟨p, rfl⟩ := delivers
    intro commissioned continuous
    have faults (detail : FaultDetail) : Touching env (faultIfEngaged env detail now w) :=
      touching.path (.inl fun _ => id) (@faultIfEngaged_path Exec env .none now detail w)
    have screened : Touching env (handlePressureSample env p now w) := by
      unfold handlePressureSample
      split
      · exact faults _
      split
      · split
        · exact faults _
        · exact touching
      split
      · exact faults _
      · exact acceptSample_touching touching continuous
    exact screened commissioned continuous
  · exact touching.path (.inl fun p same => delivers ⟨p, same⟩) (call_path e orderly.boot)

structure Supported (env : Platform Exec) (w : System Exec) : Prop where
  orderly : Orderly env w
  sampled : Sampled env w
  touching : Touching env w

theorem Supported.turned {w : System Exec} (supported : Supported env w) (input : Input Exec) :
    Supported env (turn env w input) := by
  cases input with
  | call e now =>
    exact ⟨supported.orderly.called e now, supported.sampled.path (call_path e supported.orderly.boot),
      supported.touching.called supported.orderly e now⟩
  | moved x =>
    exact ⟨supported.orderly.turned (.moved x), supported.sampled.of_same rfl rfl,
      supported.touching.of_same rfl rfl⟩

theorem initialized_supported (config : MachineConfig) (accepted : Bool) (source : Pressure.State.Source)
    (exec : Exec) : Supported env (initialized env config accepted now source exec) := by
  have initial : (initialized env config accepted now source exec).session = ⟨false, false, 0⟩ := by
    unfold initialized Servo.BuildMachine.publish
    split
    · rfl
    · rfl
  refine ⟨Terminal.initialized_orderly config accepted source exec, ?_, ?_⟩
  · intro _ engaged
    rw [initial] at engaged
    rcases engaged with active | pending
    · exact nomatch active
    · exact nomatch pending
  · exact .inactive (congrArg Session.active initial)

theorem Supported.reachable {w : System Exec} (reachable : Reachable env between w) : Supported env w := by
  obtain ⟨config, accepted, now, source, exec, runs⟩ := reachable
  exact runs_invariant (fun _ input _ supported => supported.turned input) runs
    (initialized_supported config accepted source exec)

/-- A session that is active has met its START, and has not faulted. -/
theorem Supported.waiting {w : System Exec} (supported : Supported env w) (active : w.session.active = true) :
    w.session.startPending = false ∧ w.state ≠ .fault := by
  have running : w.session.active ≠ false := by simp [active]
  constructor
  · by_contra pending
    have idle := supported.orderly.waiting (by simpa using pending)
    exact running (supported.orderly.parked (.inl idle))
  · exact fun faulted => running (supported.orderly.parked (.inr (.inr faulted)))

/-! ### Drive calls and their frames -/

/-- The frame lies in the range of the sensor, as the active profile reads it; a Build build reads up to
3000 counts. -/
def Readable (env : Platform Exec) (p : Sample) (w : System Exec) : Prop :=
  if env.policy.buildToTarget then p.raw ≤ 3000
  else (measure env.policy w.tuning.profile p.raw p.control).isSome = true

/-- A valid frame that is later than the last one, not older by its tick, recent and in range. -/
structure Admissible (env : Platform Exec) (p : Sample) (now : U32) (w : System Exec) : Prop where
  usable : sampleUsable env p = true
  later : w.haveSample = true → After p.sequence w.pressure.sequence
  forwards : w.haveSample = true → Reached p.received w.pressure.received
  recent : now - p.received ≤ u32 w.tuning.config.sampleAgeMs
  range : Readable env p w

/-- The call delivers an admissible frame with this sequence and tick, at this instant. -/
def Carries (env : Platform Exec) (e : Event) (now : U32) (w : System Exec) (sequence : U64)
    (received at_ : U32) : Prop :=
  ∃ p, e = .sample p ∧ Admissible env p now w ∧ sequence = p.sequence ∧ received = p.received ∧ at_ = now

/-- What may drive the output: a renewal, an update or a segment carries its frame, the end of a segment
comes from one, and a run is not for these builds. The assist, once admitted, and the calls that open an
owner are not concerned. -/
def DrivenBy (env : Platform Exec) (e : Event) (now : U32) (w : System Exec) : DriveCall → Prop
  | .startRun _ _ _ _ => False
  | .updateContinuous request => Carries env e now w request.sequence request.received request.now
  | .startSegment _ _ sequence received at_ => Carries env e now w sequence received at_
  | .endSegment _ at_ => ∃ p, e = .sample p ∧ Admissible env p now w ∧ at_ = now
  | .refreshFeedback _ sequence received at_ => Carries env e now w sequence received at_
  | _ => True

/-- The drive calls between two contexts, each with what drove it. -/
def Driven (env : Platform Exec) (e : Event) (now : U32) (w w' : System (Exec × Log)) : Prop :=
  ∃ calls, w'.exec.2.drives = calls ++ w.exec.2.drives ∧ ∀ entry ∈ calls, DrivenBy env.logged e now w entry.1

theorem Move.drives_log {v v' : System (Exec × Log)} (move : Move env.logged may now v v') :
    v'.exec.2.drives = v.exec.2.drives ∨ ∃ call reply, v'.exec.2.drives = (call, reply) :: v.exec.2.drives ∧
      Drives env.logged v ∧ Fed env.logged may now v call := by
  cases move with
  | quiet _ same => exact .inl (congrArg (fun c => c.exec.2.drives) same)
  | edited _ _ _ _ same => exact .inl (congrArg (fun c => c.exec.2.drives) same)
  | driven call drives fed => exact .inr ⟨call, _, rfl, drives, fed⟩
  | recorded =>
    rw [recordFault_eq]
    exact .inl rfl
  | synced =>
    rw [syncEpoch_eq]
    exact .inl rfl
  | opened =>
    left
    unfold openedSession
    rw [syncEpoch_eq]
    split
    · rfl
    · rfl
  | answered =>
    rw [Servo.Moves.answered, creditProgress_eq]
    exact .inl rfl
  | _ => exact .inl rfl

/-- Every drive call of a path is made in a session that drives, on what feeds it. -/
theorem Path.drives_log {w w' : System (Exec × Log)} (path : Path env.logged may now w w') :
    ∃ calls, w'.exec.2.drives = calls ++ w.exec.2.drives ∧ ∀ entry ∈ calls, ∃ v,
      Path env.logged may now w v ∧ Drives env.logged v ∧ Fed env.logged may now v entry.1 := by
  induction path with
  | refl => exact ⟨[], rfl, fun _ member => absurd member List.not_mem_nil⟩
  | tail before move ih =>
    obtain ⟨calls, same, fed⟩ := ih
    rcases Move.drives_log move with kept | ⟨call, reply, added, drives, feeds⟩
    · exact ⟨calls, kept.trans same, fed⟩
    · refine ⟨(call, reply) :: calls, by rw [added, same]; rfl, ?_⟩
      intro entry member
      rcases List.mem_cons.mp member with rfl | member
      · exact ⟨_, before, drives, feeds⟩
      · exact fed entry member

/-- Without a frame nothing drives the output but the assist that was admitted. -/
theorem driven_of_frameless {e : Event} {w w' : System (Exec × Log)} (frames : ∀ p, ¬ may.frames p)
    (commissioned : env.policy.commissioning = true) (touching : Touching env.logged w)
    (path : Path env.logged may now w w') : Driven env e now w w' := by
  obtain ⟨calls, same, fed⟩ := Path.drives_log path
  refine ⟨calls, same, ?_⟩
  intro entry member
  obtain ⟨v, before, drives, feeds⟩ := fed entry member
  have unfed {P : Prop} (feeds : Feeds env.logged may now v) : P := absurd (feeds commissioned).1 (frames _)
  obtain ⟨call, reply⟩ := entry
  cases call with
  | startRun commandMv durationMs backstopMs at_ =>
    have contacted := touching.path (.inl frames) before commissioned feeds.2.1 drives.1
    rw [feeds.2.2] at contacted
    exact nomatch contacted
  | updateContinuous request => exact unfed feeds.1
  | startSegment token request sequence received at_ => exact unfed feeds.1
  | endSegment token at_ => exact unfed feeds.1
  | refreshFeedback token sequence received at_ => exact unfed feeds.1
  | _ => trivial

theorem not_outOfOrder {p : Sample} {w : System Exec} (ordered : outOfOrder p w = false) (seen : w.haveSample = true) :
    After p.sequence w.pressure.sequence := by
  simpa [outOfOrder, seen] using ordered

theorem not_receivedBackwards {p : Sample} {w : System Exec} (forwards : receivedBackwards p w = false)
    (seen : w.haveSample = true) : Reached p.received w.pressure.received := by
  simp only [receivedBackwards, seen, Bool.true_and, decide_eq_false_iff_not, BitVec.not_le] at forwards
  exact BitVec.lt_def.mp forwards

theorem acceptSample_driven {p : Sample} {w : System (Exec × Log)} (commissioned : env.policy.commissioning = true)
    (usable : sampleUsable env.logged p = true) (later : outOfOrder p w = false)
    (forwards : receivedBackwards p w = false) : Driven env (.sample p) now w (acceptSample env.logged p now w) := by
  have path : Path env.logged (feeding p) now w (acceptSample env.logged p now w) :=
    acceptSample_path rfl rfl usable later forwards
  obtain ⟨calls, same, fed⟩ := Path.drives_log path
  refine ⟨calls, same, ?_⟩
  intro entry member
  obtain ⟨v, before, drives, feeds⟩ := fed entry member
  have tuned := (Path.tuned id before).1
  have admissible (feeds : Feeds env.logged (feeding p) now v) :
      v.pressure = p ∧ Admissible env.logged p now w := by
    obtain ⟨framed, fresh, range⟩ := feeds commissioned
    have same : v.pressure = p := framed
    refine ⟨same, usable, not_outOfOrder later, not_receivedBackwards forwards, ?_, ?_⟩
    · simp only [isPressureFresh, Bool.and_eq_true, decide_eq_true_eq, same, tuned] at fresh
      exact fresh.2
    · simp only [InRange, measured, same, tuned] at range
      exact range
  obtain ⟨call, reply⟩ := entry
  cases call with
  | startRun commandMv durationMs backstopMs at_ => exact feeds.1
  | updateContinuous request =>
    obtain ⟨fed, sequence, received, instant⟩ := feeds
    obtain ⟨stored, admitted⟩ := admissible fed
    exact ⟨p, rfl, admitted, by rw [sequence, stored], by rw [received, stored], instant⟩
  | startSegment token request sequence received at_ =>
    obtain ⟨fed, sequence, received, instant⟩ := feeds
    obtain ⟨stored, admitted⟩ := admissible fed
    exact ⟨p, rfl, admitted, by rw [sequence, stored], by rw [received, stored], instant⟩
  | endSegment token at_ => exact ⟨p, rfl, (admissible feeds.1).2, feeds.2⟩
  | refreshFeedback token sequence received at_ =>
    obtain ⟨fed, sequence, received, instant⟩ := feeds
    obtain ⟨stored, admitted⟩ := admissible fed
    exact ⟨p, rfl, admitted, by rw [sequence, stored], by rw [received, stored], instant⟩
  | _ => trivial

theorem handlePressureSample_driven {p : Sample} {w : System (Exec × Log)}
    (commissioned : env.policy.commissioning = true) (touching : Touching env.logged w) :
    Driven env (.sample p) now w (handlePressureSample env.logged p now w) := by
  have faults (detail : FaultDetail) : Driven env (.sample p) now w (faultIfEngaged env.logged detail now w) :=
    driven_of_frameless (fun _ => id) commissioned touching (@faultIfEngaged_path _ env.logged .none now detail w)
  unfold handlePressureSample
  split
  · exact faults _
  rename_i usable
  split
  · split
    · exact faults _
    · exact ⟨[], rfl, fun _ member => absurd member List.not_mem_nil⟩
  rename_i later
  split
  · exact faults _
  · rename_i forwards
    exact acceptSample_driven commissioned (by simpa using usable) (by simpa using later) (by simpa using forwards)

theorem call_driven {w : System (Exec × Log)} (commissioned : env.policy.commissioning = true)
    (supported : Supported env.logged w) (e : Event) (now : U32) :
    Driven env e now w (call env.logged e now w) := by
  by_cases delivers : ∃ p, e = .sample p
  · obtain ⟨p, rfl⟩ := delivers
    exact handlePressureSample_driven commissioned supported.touching
  · exact driven_of_frameless (fun p same => delivers ⟨p, same⟩) commissioned supported.touching
      (call_path e supported.orderly.boot)

/-! ### Frames and gaps that end a session -/

/-- A valid frame with the sequence of the last one. -/
def Duplicate (env : Platform Exec) (p : Sample) (w : System Exec) : Prop :=
  sampleUsable env p = true ∧ p.sequence = w.pressure.sequence

/-- The feedback gap has passed since the last frame was received. -/
def GapPassed (now : U32) (w : System Exec) : Prop :=
  u32 w.tuning.config.feedbackGapMs < now - w.pressure.received

def AtBoundary (env : Platform Exec) (p : Sample) (w : System Exec) : Prop :=
  env.policy.characterization = true ∧ env.policy.buildToTarget = false ∧ w.targetUnits = 3000 ∧ 3000 ≤ p.raw

/-- Such a frame, admissible but for its range and without a gap: it ends the run by an ordinary STOP. -/
structure EndsAtBoundary (env : Platform Exec) (p : Sample) (now : U32) (w : System Exec) : Prop where
  boundary : AtBoundary env p w
  usable : sampleUsable env p = true
  later : w.haveSample = true → After p.sequence w.pressure.sequence
  forwards : w.haveSample = true → Reached p.received w.pressure.received
  recent : now - p.received ≤ u32 w.tuning.config.sampleAgeMs
  prompt : ¬ GapPassed now w

theorem checkSession_gap {w : System Exec} (active : w.session.active = true) (gap : GapPassed now w) :
    (checkSession env now w).state = .fault := by
  unfold GapPassed at gap
  unfold checkSession
  rw [if_neg (not_not.mpr active), if_pos gap]
  exact fault_state ..

theorem checkContinuous_gap {w : System Exec} (active : w.session.active = true) (gap : GapPassed now w) :
    (checkContinuous env now w).state = .fault := by
  unfold GapPassed at gap
  unfold checkContinuous
  dsimp only
  rw [if_neg (not_not.mpr active)]
  split
  · exact fault_state ..
  split
  · exact fault_state ..
  · exact fault_state ..

/-- Every check of a session finds the gap, before a new frame can hide it. -/
theorem checkPressureSafety_gap {w : System Exec} (active : w.session.active = true)
    (waiting : w.session.startPending = false) (gap : GapPassed now w) :
    (checkPressureSafety env now w).state = .fault := by
  obtain ⟨c, cooled⟩ := @endCooling_eq Exec now w
  unfold checkPressureSafety
  dsimp only
  rw [cooled, if_neg (by simp [waiting])]
  split
  · apply checkSession_gap
    · rw [syncEpoch_eq]
      exact active
    · rw [syncEpoch_eq]
      exact gap
  · exact checkContinuous_gap active gap

/-- The checks before a frame fault, or leave what the frame is judged by. -/
theorem checkPressureSafety_keeps {w : System Exec} (waiting : w.session.startPending = false) :
    (checkPressureSafety env now w).state = .fault ∨
      ∃ x c b, checkPressureSafety env now w = { w with exec := x, cooling := c, build := b } := by
  by_cases build : env.policy.buildToTarget = true
  · rcases @checkPressureSafety_cases Exec env now build w waiting with faulted | ⟨x, c, b, same, -⟩
    · exact .inl faulted
    · exact .inr ⟨x, c, b, same⟩
  · obtain ⟨c, cooled⟩ := @endCooling_eq Exec now w
    unfold checkPressureSafety
    dsimp only
    rw [cooled, if_neg (by simp [waiting]), if_neg build]
    unfold checkContinuous
    dsimp only
    split
    · exact .inr ⟨w.exec, c, w.build, rfl⟩
    split
    · exact .inl (fault_state ..)
    split
    · exact .inl (fault_state ..)
    split
    · exact .inl (fault_state ..)
    split
    · exact .inl (fault_state ..)
    · exact .inr ⟨w.exec, c, w.build, rfl⟩

theorem processSample_stale {w : System Exec} (active : w.session.active = true)
    (waiting : w.session.startPending = false) (stale : isPressureFresh now w = false) :
    (processSample env now w).state = .fault := by
  unfold processSample
  split
  · exact fault_state ..
  split
  · unfold faultIfEngaged
    rw [if_pos (.inl active)]
    exact fault_state ..
  · rename_i force _
    have old : ¬ isPressureFresh now (noteSample now force w) = true := by
      rw [show isPressureFresh now (noteSample now force w) = isPressureFresh now w from rfl, stale]
      exact Bool.false_ne_true
    have ended : contactStage env now force (noteSample now force w) =
        .done (fault env .pressureSensor .pressureTimeout now (noteSample now force w)) := if_pos old
    dsimp only
    rw [if_neg (show ¬ (noteSample now force w).session.startPending = true by
        rw [show (noteSample now force w).session = w.session from rfl, waiting]; exact Bool.false_ne_true),
      if_neg (show ¬ ¬ (noteSample now force w).session.active = true from not_not.mpr active)]
    unfold Servo.Machine.control
    rw [ended]
    exact fault_state ..

theorem processSample_unreadable {w : System Exec} (active : w.session.active = true)
    (unread : measured env w = none) : (processSample env now w).state = .fault := by
  unfold processSample
  split
  · exact fault_state ..
  · rw [unread]
    dsimp only
    unfold faultIfEngaged
    rw [if_pos (.inl active)]
    exact fault_state ..

/-- A frame past the boundary faults a Build session, whether it drives or watches its target. -/
theorem checkBoundary_above (build : env.policy.buildToTarget = true) {w : System Exec}
    (above : ¬ w.pressure.raw ≤ 3000) :
    ∃ u, checkBoundary env now w = (fault env .overpressure .none now u, true) := by
  have force : (3000 : ℚ) < rawForce w := by
    have counts : 3000 < w.pressure.raw.toNat := BitVec.lt_def.mp (BitVec.not_le.mp above)
    simp only [rawForce]
    exact_mod_cast counts
  have kept : rawForce (if driving w ∧ w.targetUnits = 3000 then targetOff env now w else w) = rawForce w := by
    split
    · rename_i off
      have active := ((driving_drives build).mp off.1).1
      have same := (Path.kept (fun _ => id) (@targetOff_path Exec env .none now build w active)).1
      rw [rawForce, same, rawForce]
    · rfl
  unfold checkBoundary
  rw [if_neg (fun below => above (BitVec.le_of_lt below))]
  dsimp only
  generalize (if driving w ∧ w.targetUnits = 3000 then targetOff env now w else w) = u at kept
  rw [if_pos (.inr (.inr (by rw [kept]; exact force)))]
  exact ⟨u, rfl⟩

theorem pressure_unreadable (build : env.policy.buildToTarget = true) {w : System Exec}
    (fresh : isPressureFresh now w = true) (above : ¬ w.pressure.raw ≤ 3000) :
    (pressure env now w).state = .fault := by
  obtain ⟨u, ended⟩ := @checkBoundary_above Exec env now build w above
  unfold pressure freshPressure
  rw [if_neg (not_not.mpr fresh), ended]
  exact fault_state ..

theorem pressure_stale {w : System Exec} (active : w.session.active = true)
    (stale : isPressureFresh now w = false) : (pressure env now w).state = .fault := by
  unfold pressure
  rw [if_pos (by simp [stale]), if_pos active]
  exact fault_state ..

/-- A stored frame that is too old or out of range ends the session: in FAULT, or by a STOP at the
boundary. -/
theorem processStored_rejects {w : System Exec} (active : w.session.active = true)
    (waiting : w.session.startPending = false)
    (rejected : isPressureFresh now w = false ∨ ¬ Readable env w.pressure w) :
    (if env.policy.buildToTarget then processBuildSample env now w
      else if boundaryReached env now w then stopAtBoundary env now w
      else processSample env now w).state = .fault ∨
    (AtBoundary env w.pressure w ∧ isPressureFresh now w = true) ∧
      (if env.policy.buildToTarget then processBuildSample env now w
        else if boundaryReached env now w then stopAtBoundary env now w
        else processSample env now w) = stopAtBoundary env now w := by
  split
  · rename_i build
    left
    unfold processBuildSample
    rw [if_pos (by simp [waiting]), publish_state]
    cases fresh : isPressureFresh now w with
    | false => exact pressure_stale active fresh
    | true =>
      have above := rejected.resolve_left (by simp [fresh])
      rw [Readable, if_pos build] at above
      exact pressure_unreadable build fresh above
  rename_i continuous
  split
  · rename_i boundary
    simp only [boundaryReached, Bool.and_eq_true, decide_eq_true_eq] at boundary
    obtain ⟨⟨⟨⟨⟨characterized, -⟩, fresh⟩, -⟩, target⟩, counts⟩ := boundary
    exact .inr ⟨⟨⟨characterized, by simpa using continuous, target, counts⟩, fresh⟩, rfl⟩
  · left
    cases fresh : isPressureFresh now w with
    | false => exact processSample_stale active waiting fresh
    | true =>
      have unread := rejected.resolve_left (by simp [fresh])
      rw [Readable, if_neg continuous] at unread
      exact processSample_unreadable active (by simpa [measured] using unread)

theorem recent_of_fresh {w : System Exec} (fresh : isPressureFresh now w = true) :
    now - w.pressure.received ≤ u32 w.tuning.config.sampleAgeMs := by
  simp only [isPressureFresh, Bool.and_eq_true, decide_eq_true_eq] at fresh
  exact fresh.2

/-- A frame that is not admissible, and any frame after a gap, ends the session. -/
theorem handlePressureSample_rejects {p : Sample} {w : System Exec} (supported : Supported env w)
    (active : w.session.active = true) (distinct : ¬ Duplicate env p w)
    (rejected : ¬ Admissible env p now w ∨ GapPassed now w) :
    (handlePressureSample env p now w).state = .fault ∨
      EndsAtBoundary env p now w ∧ ∃ u, u.state = w.state ∧
        handlePressureSample env p now w = stopAtBoundary env now u := by
  have waiting := (supported.waiting active).1
  have faults (detail : FaultDetail) : (faultIfEngaged env detail now w).state = .fault := by
    unfold faultIfEngaged
    rw [if_pos (.inl active)]
    exact fault_state ..
  unfold handlePressureSample
  split
  · exact .inl (faults _)
  rename_i usable
  rw [not_not] at usable
  split
  · left
    rw [if_pos (fun same => distinct ⟨usable, same⟩)]
    exact faults _
  rename_i later
  split
  · exact .inl (faults _)
  rename_i forwards
  have ordered := not_outOfOrder (p := p) (w := w) (by simpa using later)
  have advances := not_receivedBackwards (p := p) (w := w) (by simpa using forwards)
  unfold acceptSample
  dsimp only
  -- A fault of the checks is not left in this call.
  have ends (faulted : (checkPressureSafety env now w).state = .fault) := by
    have orderly : Orderly env (store p (checkPressureSafety env now w)) :=
      (supported.orderly.path (@checkPressureSafety_path Exec env .none now w)).of_same rfl rfl rfl
    have path := @processStored_path Exec env (feeding p) now (store p (checkPressureSafety env now w)) rfl
    exact (orderly.fault_path id faulted path).1
  by_cases gap : GapPassed now w
  · exact .inl (ends (checkPressureSafety_gap active waiting gap))
  rcases @checkPressureSafety_keeps Exec env now w waiting with faulted | ⟨x, c, b, same⟩
  · exact .inl (ends faulted)
  have unfit := rejected.resolve_right gap
  rw [same]
  have stored : isPressureFresh now (store p { w with exec := x, cooling := c, build := b }) = false ∨
      ¬ Readable env p (store p { w with exec := x, cooling := c, build := b }) := by
    by_contra fits
    simp only [not_or, not_not, Bool.not_eq_false] at fits
    apply unfit
    exact ⟨usable, ordered, advances, recent_of_fresh fits.1, fits.2⟩
  have ended := processStored_rejects (w := store p { w with exec := x, cooling := c, build := b }) active waiting stored
  rcases ended with faulted | ⟨⟨boundary, fresh⟩, stops⟩
  · exact .inl faulted
  · exact .inr ⟨⟨boundary, usable, ordered, advances, recent_of_fresh fresh, gap⟩,
      store p { w with exec := x, cooling := c, build := b }, rfl, stops⟩

theorem gap_faults {w : System Exec} (supported : Supported env w) (active : w.session.active = true)
    (waiting : w.session.startPending = false) (gap : GapPassed now w) {e : Event} (checks : e = .tick ∨ e = .safety) :
    (call env e now w).state = .fault := by
  have faulted : (checkPressureSafety env now w).state = .fault := checkPressureSafety_gap active waiting gap
  rcases checks with rfl | rfl
  · have orderly : Orderly env (checkPressureSafety env now w) :=
      supported.orderly.path (@checkPressureSafety_path Exec env .none now w)
    show (tick env now w).state = .fault
    unfold tick
    dsimp only
    rw [publish_state]
    split
    · exact (orderly.fault_path id faulted (@service_path Exec env .none now _)).1
    · rename_i continuous
      have off : env.policy.buildToTarget = false := by simpa using continuous
      have path := (@serviceAssist_path Exec env .none now off (checkPressureSafety env now w)).trans
        (startApproach_path trivial off _)
      exact (orderly.fault_path id faulted path).1
  · exact faulted

theorem duplicate_ignored {p : Sample} {w : System Exec} (seen : w.haveSample = true) (duplicate : Duplicate env p w) :
    handlePressureSample env p now w = w := by
  obtain ⟨usable, same⟩ := duplicate
  have repeats : outOfOrder p w = true := by
    simp [outOfOrder, seen, same, not_after_self]
  unfold handlePressureSample
  rw [if_neg (not_not.mpr usable), if_pos repeats, if_neg (not_not.mpr same)]

theorem stop_idle (obeys : Obeys env.executor between) {w : System Exec} (sound : w.state ≠ .fault) :
    (stop env now w).1.state = .idle ∧ (stop env now w).1.session.active = false := by
  have ok (u : System Exec) : disableFails env u = false := by
    simp [disableFails, obeys.disableOk]
  have settled : (settleAccount env now w).state = w.state := by
    unfold settleAccount
    split
    · rfl
    · rfl
  have closed := @closing_core Exec now .operatorStop
    (revokePlan { settleAccount env now w with session :=
      { (settleAccount env now w).session with startPending := false } })
  have state := (congrArg Core.state closed).trans settled
  unfold stop
  dsimp only
  rw [if_neg (by simp [ok])]
  split
  · exact ⟨rfl, rfl⟩
  · rename_i faulted
    exact absurd (state.symm.trans (not_not.mp faulted)) sound

theorem handleStop_idle (obeys : Obeys env.executor between) {w : System Exec} (sound : w.state ≠ .fault) :
    (handleCommand env ⟨.stop, 0⟩ now w).state = .idle ∧
      (handleCommand env ⟨.stop, 0⟩ now w).session.active = false := by
  have done_ : (stop env now w).1.state = .idle ∧ (stop env now w).1.session.active = false := stop_idle obeys sound
  unfold handleCommand Servo.BuildMachine.publish
  split
  · exact done_
  · exact done_

theorem stopAtBoundary_idle (obeys : Obeys env.executor between) {w : System Exec} (sound : w.state ≠ .fault) :
    (stopAtBoundary env now w).state = .idle ∧ (stopAtBoundary env now w).session.active = false := by
  unfold stopAtBoundary
  apply handleStop_idle obeys
  show (recordBoundaryStart now w).state ≠ .fault
  unfold recordBoundaryStart
  split
  · exact sound
  · exact sound

/-! ### The feedback contract -/

def FaultedOff (env : Platform Exec) (w : System Exec) : Prop :=
  w.state = .fault ∧ outputIsDisabled env w = true

/-- IDLE after a session, with the output disabled. -/
def StoppedOff (env : Platform Exec) (w : System Exec) : Prop :=
  w.state = .idle ∧ w.session.active = false ∧ outputIsDisabled env w = true

/-- In every state a commissioning build reaches: whatever drives the output comes from an admissible frame;
and while a session is active, any other frame that is no duplicate, and any check after a gap, ends it in
FAULT, but for the frame that stops a characterization at its boundary; a duplicate changes nothing. -/
theorem feedback_contract (env : Platform Exec) (commissioned : env.policy.commissioning = true)
    (between : Exec → Exec → Prop) (obeys : Obeys env.executor between) (w : System (Exec × Log))
    (reachable : Reachable env.logged (logged between) w) :
    (∀ e now, Driven env e now w (call env.logged e now w)) ∧
    (w.session.active = true → w.haveSample = true ∧
      (∀ p now, ¬ Duplicate env.logged p w → ¬ Admissible env.logged p now w ∨ GapPassed now w →
        FaultedOff env.logged (call env.logged (.sample p) now w) ∨
          EndsAtBoundary env.logged p now w ∧ StoppedOff env.logged (call env.logged (.sample p) now w)) ∧
      (∀ e now, e = .tick ∨ e = .safety → GapPassed now w →
        FaultedOff env.logged (call env.logged e now w)) ∧
      ∀ p now, Duplicate env.logged p w → call env.logged (.sample p) now w = w) := by
  have supported : Supported env.logged w := .reachable reachable
  have sound : Sound env.logged w := .reachable obeys.logged reachable
  have faulted {e : Event} {now : U32} (fault : (call env.logged e now w).state = .fault) :
      FaultedOff env.logged (call env.logged e now w) :=
    ⟨fault, (sound.called obeys.logged e now).still (.inl fault)⟩
  refine ⟨fun e now => call_driven commissioned supported e now, ?_⟩
  intro active
  have seen := supported.sampled commissioned (.inl active)
  obtain ⟨waiting, unfaulted⟩ := supported.waiting active
  refine ⟨seen, ?_, ?_, ?_⟩
  · intro p now distinct rejected
    rcases handlePressureSample_rejects supported active distinct rejected with fault | ⟨boundary, u, state, stops⟩
    · exact .inl (faulted fault)
    · have unfaulted' : u.state ≠ .fault := by
        rw [state]
        exact unfaulted
      have idle : (stopAtBoundary env.logged now u).state = .idle ∧ _ := stopAtBoundary_idle obeys.logged unfaulted'
      have rests : AtRest env.logged (stopAtBoundary env.logged now u) := stop_rests obeys.logged (.inl rfl)
      refine .inr ⟨boundary, ?_⟩
      show StoppedOff env.logged (handlePressureSample env.logged p now w)
      rw [stops]
      exact ⟨idle.1, idle.2, rests.off⟩
  · intro e now checks gap
    exact faulted (gap_faults supported active waiting gap checks)
  · intro p now duplicate
    exact duplicate_ignored seen duplicate

/-! ### A characterization at its boundary -/

/-- A characterization without segments, on a bridge that is one switch and with a root table of one value. -/
def benchPlatform : Platform Bool :=
  ⟨.characterized, .switch, fun _ => 3, ⟨900, 100, 200, false⟩, fun _ => []⟩

/-- Boot, a plan of 3000 staged and committed, read back and acknowledged, armed, started, and the frame that
opens its session. -/
def benchEvents : List (Event × U32) :=
  [(.boot true, 0)] ++
    ((planning [17723, 32768, 0, 0, 16672, 0, 0, 0, 15357, 10994] [0, 1, 15357, 10994]).map fun e => (e, 2)) ++
    [(.sample (benchFrame 1 1500 3), 3), (.write 5 coilStart 0xFF00, 4), (.sample (benchFrame 2 1500 5), 5)]

def benchSession : System (Bool × Log) :=
  calls benchPlatform.logged benchEvents
    (initialized benchPlatform.logged ⟨900, 100, 200, false⟩ true 0 Pressure.State.Source.initial (false, ⟨[], [], []⟩))

theorem benchSession_reachable : Reachable benchPlatform.logged (logged fun _ _ => False) benchSession := by
  unfold benchSession
  apply Reachable.calls
  exact ⟨⟨900, 100, 200, false⟩, true, 0, .initial, (false, ⟨[], [], []⟩), .refl⟩

/-- A frame of 3001 counts, and a tick 200 ms after the last frame, in that session. -/
theorem benchSession_ends : benchSession.session.active = true ∧
    ¬ Duplicate benchPlatform.logged (benchFrame 3 3001 15) benchSession ∧
    ¬ Readable benchPlatform.logged (benchFrame 3 3001 15) benchSession ∧
    (call benchPlatform.logged (.sample (benchFrame 3 3001 15)) 15 benchSession).state = .idle ∧
    GapPassed 205 benchSession := by
  unfold Duplicate Readable GapPassed
  decide +kernel

/-- Not every frame out of range ends in FAULT: at its target of 3000 a characterization takes 3001 counts for an
ordinary STOP. -/
theorem boundary_stops :
    ¬ ∀ (env : Platform Bool) (between : Bool → Bool → Prop), env.policy.commissioning = true →
      Obeys env.executor between → ∀ w, Reachable env.logged (logged between) w → w.session.active = true →
      ∀ p now, ¬ Duplicate env.logged p w → ¬ Admissible env.logged p now w →
        FaultedOff env.logged (call env.logged (.sample p) now w) := by
  intro every
  obtain ⟨active, distinct, outside, stopped, _⟩ := benchSession_ends
  have faulted := every benchPlatform (fun _ _ => False) rfl switch_obeys benchSession benchSession_reachable
    active (benchFrame 3 3001 15) 15 distinct (fun admissible => outside admissible.range)
  exact nomatch stopped.symm.trans faulted.1

/-- The same session, with a tick 200 ms after its last frame. -/
theorem feedback_contract_bench :
    (call benchPlatform.logged .tick 205 benchSession).state = .fault := by
  have contract := feedback_contract benchPlatform rfl (fun _ _ => False) switch_obeys benchSession
    benchSession_reachable
  obtain ⟨active, _, _, _, gap⟩ := benchSession_ends
  exact ((contract.2 active).2.2.1 .tick 205 (.inl rfl) gap).1

end Sd700.Runs.Feedback

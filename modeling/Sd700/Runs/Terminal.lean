import Sd700.Runs.Calls

/-! A machine that has stopped, has faulted or has reached its target does not drive its output again
until a START is accepted. -/

namespace Sd700.Runs.Terminal
open Build.Contract Servo.Config Servo.State Servo.BuildMachine Servo.Machine Servo.Moves Servo.Paths
  Motor.Interface Logic.Modular Logic.Run Runs.Calls

variable {Exec : Type} {env : Platform Exec} {between : Exec → Exec → Prop} {may : Permit} {now : U32}

/-! ### The order of every run -/

structure Orderly (env : Platform Exec) (w : System Exec) : Prop where
  waiting : w.session.startPending = true → w.state = .idle
  parked : w.state = .idle ∨ w.state = .bootSafe ∨ w.state = .fault → w.session.active = false
  reached : w.state = .forceTargetReachedOff → env.policy.buildToTarget = true ∧
    (w.session.active = true → w.build.monitoring = true)

theorem Orderly.of_same {w w' : System Exec} (orderly : Orderly env w) (state : w'.state = w.state)
    (session : w'.session = w.session) (monitoring : w'.build.monitoring = w.build.monitoring) :
    Orderly env w' := by
  refine ⟨?_, ?_, ?_⟩
  · rw [state, session]
    exact orderly.waiting
  · rw [state, session]
    exact orderly.parked
  · rw [state, session, monitoring]
    exact orderly.reached

/-- A session that drives is in none of the states that stand still. -/
theorem Orderly.drives {w : System Exec} (orderly : Orderly env w) (drives : Drives env w) :
    w.state ≠ .idle ∧ w.state ≠ .bootSafe ∧ w.state ≠ .fault ∧ w.state ≠ .forceTargetReachedOff ∧
      w.session.startPending = false := by
  have running : w.session.active ≠ false := by simp [drives.1]
  refine ⟨?_, ?_, ?_, ?_, ?_⟩
  · exact fun idle => running (orderly.parked (.inl idle))
  · exact fun booting => running (orderly.parked (.inr (.inl booting)))
  · exact fun faulted => running (orderly.parked (.inr (.inr faulted)))
  · intro target
    obtain ⟨build, monitors⟩ := orderly.reached target
    have := monitors drives.1
    simp [drives.2 build] at this
  · by_contra pending
    exact running (orderly.parked (.inl (orderly.waiting (by simpa using pending))))

def drivingStates : List MachineState := [.forceApproach, .forceBuild, .forceHold, .forceTaper]

theorem Orderly.of_driving {w w' : System Exec} (orderly : Orderly env w) (drives : Drives env w)
    (session : w'.session = w.session) (state : w'.state = w.state ∨ w'.state ∈ drivingStates) :
    Orderly env w' := by
  obtain ⟨idle, booting, faulted, target, pending⟩ := orderly.drives drives
  have elsewhere : w'.state ≠ .idle ∧ w'.state ≠ .bootSafe ∧ w'.state ≠ .fault ∧
      w'.state ≠ .forceTargetReachedOff := by
    rcases state with same | listed
    · rw [same]
      exact ⟨idle, booting, faulted, target⟩
    · simp only [drivingStates, List.mem_cons, List.not_mem_nil, or_false] at listed
      rcases listed with same | same | same | same <;> rw [same] <;> simp
  refine ⟨?_, ?_, ?_⟩
  · rw [session, pending]
    simp
  · rintro (here | here | here)
    · exact absurd here elsewhere.1
    · exact absurd here elsewhere.2.1
    · exact absurd here elsewhere.2.2.1
  · exact fun here => absurd here elsewhere.2.2.2

theorem phaseState_drives (phase : Build.Contract.Phase) : phaseState phase ∈ drivingStates := by
  cases phase <;> simp [phaseState, drivingStates]

theorem openedSession_eq (w : System Exec) :
    (openedSession env now w).state = .forceApproach ∧
      (openedSession env now w).session = { w.session with startPending := false, active := true } := by
  unfold openedSession
  rw [syncEpoch_eq]
  split <;> exact ⟨rfl, rfl⟩

theorem Orderly.move {w w' : System Exec} (orderly : Orderly env w) (move : Move env may now w w') :
    Orderly env w' := by
  cases move with
  | quiet _ same =>
    refine orderly.of_same (congrArg Core.state same) (congrArg Core.session same) ?_
    exact congrArg BuildState.monitoring (congrArg Core.build same)
  | edited _ _ _ _ same =>
    refine orderly.of_same (congrArg Core.state same) (congrArg Core.session same) ?_
    exact congrArg BuildState.monitoring (congrArg Core.build same)
  | answered =>
    rw [Servo.Moves.answered, creditProgress_eq]
    exact orderly.of_same rfl rfl rfl
  | synced =>
    rw [syncEpoch_eq]
    exact orderly.of_same rfl rfl rfl
  | withdrawn => exact ⟨fun pending => (nomatch pending), orderly.parked, orderly.reached⟩
  | ended =>
    exact ⟨fun pending => (nomatch pending), fun _ => rfl,
      fun target => ⟨(orderly.reached target).1, fun active => (nomatch active)⟩⟩
  | recorded f detail off _ x quieted =>
    rw [recordFault_eq]
    refine ⟨fun pending => ?_, fun _ => off.1, fun target => (nomatch target)⟩
    exact absurd off.2 (by simpa using pending)
  | idled off => exact ⟨fun _ => rfl, fun _ => off.1, fun target => (nomatch target)⟩
  | reset _ faulted =>
    exact ⟨fun _ => rfl, fun _ => orderly.parked (.inr (.inr faulted)), fun target => (nomatch target)⟩
  | requested _ ready =>
    refine ⟨fun _ => ready.1, fun _ => ready.2.1, ?_⟩
    exact fun target => absurd ready.1 (by rw [show w.state = _ from target]; simp)
  | opened =>
    have shape := @openedSession_eq Exec env now w
    refine ⟨?_, ?_, ?_⟩
    · rw [shape.2]
      exact fun pending => nomatch pending
    · rw [shape.1]
      rintro (target | target | target) <;> nomatch target
    · rw [shape.1]
      exact fun target => nomatch target
  | reached x _ off _ _ build =>
    refine ⟨fun pending => (nomatch pending), ?_, fun _ => ⟨build, fun _ => rfl⟩⟩
    rintro (target | target | target) <;> nomatch target
  | phased phase _ drives => exact orderly.of_driving drives rfl (.inr (phaseState_drives _))
  | running state drives _ run =>
    refine orderly.of_driving drives rfl (.inr ?_)
    rcases run with same | same <;> simp [drivingStates, same]
  | _ => exact orderly.of_same rfl rfl rfl

theorem Orderly.path {w w' : System Exec} (orderly : Orderly env w) (path : Path env may now w w') :
    Orderly env w' := by
  induction path with
  | refl => exact orderly
  | tail _ move ih => exact ih.move move

theorem Orderly.boot {w : System Exec} (orderly : Orderly env w) (booting : w.state = .bootSafe) :
    Unengaged w := by
  refine ⟨orderly.parked (.inr (.inl booting)), ?_⟩
  by_contra pending
  have idle := orderly.waiting (by simpa using pending)
  rw [booting] at idle
  exact nomatch idle

theorem Orderly.faulted {w : System Exec} (orderly : Orderly env w) (faulted : w.state = .fault) :
    Unengaged w := by
  refine ⟨orderly.parked (.inr (.inr faulted)), ?_⟩
  by_contra pending
  have idle := orderly.waiting (by simpa using pending)
  rw [faulted] at idle
  exact nomatch idle

theorem Orderly.called {w : System Exec} (orderly : Orderly env w) (e : Event) (now : U32) :
    Orderly env (call env e now w) :=
  orderly.path (call_path e orderly.boot)

theorem Orderly.turned {w : System Exec} (orderly : Orderly env w) (input : Input Exec) :
    Orderly env (turn env w input) := by
  cases input with
  | call e now => exact orderly.called e now
  | moved x => exact orderly.of_same rfl rfl rfl

theorem initialized_orderly (config : MachineConfig) (accepted : Bool) (source : Pressure.State.Source)
    (exec : Exec) : Orderly env (initialized env config accepted now source exec) := by
  unfold initialized publish
  split
  all_goals exact ⟨fun pending => (nomatch pending), fun _ => rfl, fun target => (nomatch target)⟩

theorem Orderly.recorded {past : List (Logic.Run.Turn (System Exec) (Input Exec))} {w : System Exec}
    (recorded : Logic.Run.Recorded (turn env) (admits between) (Boots env) past w) : Orderly env w := by
  refine Logic.Run.recorded_invariant (fun _ w => Orderly env w) ?_ ?_ recorded
  · rintro _ ⟨config, accepted, now, source, exec, rfl⟩
    exact initialized_orderly config accepted source exec
  · intro _ w input _ _ orderly
    exact orderly.turned input

/-! ### States that stand still -/

/-- In FAULT and at the target the output is off, at every point of every call. -/
structure Sound (env : Platform Exec) (w : System Exec) : Prop where
  orderly : Orderly env w
  still : w.state = .fault ∨ w.state = .forceTargetReachedOff → outputIsDisabled env w = true

theorem Obeys.offer_off (obeys : Obeys env.executor between) (token request : U32) {w : System Exec}
    (off : outputIsDisabled env w = true) :
    env.executor.outputIsDisabled (offer env token request now w).2 = true :=
  obeys.postOff token request _ _ now _ (obeys.snapshotOff now w.exec off)

/-- A move that neither drives nor changes the state keeps an output off. -/
theorem Sound.still_same {w w' : System Exec} (sound : Sound env w) (state : w'.state = w.state)
    (off : outputIsDisabled env w = true → outputIsDisabled env w' = true) :
    w'.state = .fault ∨ w'.state = .forceTargetReachedOff → outputIsDisabled env w' = true := by
  rw [state]
  exact fun stands => off (sound.still stands)

theorem Sound.move (obeys : Obeys env.executor between) {w w' : System Exec} (sound : Sound env w)
    (move : Move env may now w w') : Sound env w' := by
  refine ⟨sound.orderly.move move, ?_⟩
  cases move with
  | quiet _ same =>
    have exec : w'.exec = w.exec := congrArg Core.exec same
    exact sound.still_same (congrArg Core.state same) fun off => by rwa [outputIsDisabled, exec]
  | edited _ _ _ _ same =>
    have exec : w'.exec = w.exec := congrArg Core.exec same
    exact sound.still_same (congrArg Core.state same) fun off => by rwa [outputIsDisabled, exec]
  | disabled => exact sound.still_same rfl fun _ => obeys.disableOff w.exec
  | refreshed => exact sound.still_same rfl (obeys.snapshotOff now w.exec)
  | offered token request sequence received =>
    exact sound.still_same rfl (obeys.postOff token request sequence received now w.exec)
  | driven call drives =>
    obtain ⟨-, -, faulted, target, -⟩ := sound.orderly.drives drives
    rintro (here | here)
    · exact absurd here faulted
    · exact absurd here target
  | answered _ _ token request =>
    rw [Servo.Moves.answered, creditProgress_eq]
    exact sound.still_same rfl (Obeys.offer_off obeys token request)
  | synced =>
    rw [syncEpoch_eq]
    exact sound.still_same rfl (obeys.snapshotOff now w.exec)
  | recorded f detail off _ x quieted =>
    rw [recordFault_eq]
    intro _
    show env.executor.outputIsDisabled w.exec = true
    rw [quieted]
    exact obeys.disableOff x
  | reached x _ off =>
    intro _
    show env.executor.outputIsDisabled w.exec = true
    rw [off]
    exact obeys.disableOff x
  | opened =>
    rw [(@openedSession_eq Exec env now w).1]
    rintro (target | target) <;> nomatch target
  | idled => rintro (target | target) <;> nomatch target
  | reset => rintro (target | target) <;> nomatch target
  | phased phase =>
    have listed := phaseState_drives (if phase = .idle then w.build.phase else phase)
    rintro (target | target)
    · rw [show phaseState _ = _ from target] at listed
      simp [drivingStates] at listed
    · rw [show phaseState _ = _ from target] at listed
      simp [drivingStates] at listed
  | running state _ _ run =>
    rcases run with same | same
    all_goals
      subst same
      rintro (target | target) <;> nomatch target
  | _ => exact sound.still_same rfl id

theorem Sound.path (obeys : Obeys env.executor between) {w w' : System Exec} (sound : Sound env w)
    (path : Path env may now w w') : Sound env w' := by
  induction path with
  | refl => exact sound
  | tail _ move ih => exact ih.move obeys move

theorem Sound.called (obeys : Obeys env.executor between) {w : System Exec} (sound : Sound env w) (e : Event)
    (now : U32) : Sound env (call env e now w) :=
  sound.path obeys (call_path e sound.orderly.boot)

theorem Sound.turned (obeys : Obeys env.executor between) {w : System Exec} (sound : Sound env w)
    (input : Input Exec) (admitted : admits between w input) : Sound env (turn env w input) := by
  cases input with
  | call e now => exact sound.called obeys e now
  | moved x =>
    exact ⟨sound.orderly.of_same rfl rfl rfl, sound.still_same rfl (obeys.betweenOff w.exec x admitted)⟩

theorem initialized_sound (config : MachineConfig) (accepted : Bool) (source : Pressure.State.Source)
    (exec : Exec) : Sound env (initialized env config accepted now source exec) := by
  refine ⟨initialized_orderly config accepted source exec, ?_⟩
  unfold initialized publish
  split
  all_goals rintro (target | target) <;> nomatch target

theorem Sound.reachable (obeys : Obeys env.executor between) {w : System Exec}
    (reachable : Reachable env between w) : Sound env w := by
  obtain ⟨config, accepted, now, source, exec, runs⟩ := reachable
  exact runs_invariant (fun _ input admitted sound => sound.turned obeys input admitted) runs
    (initialized_sound config accepted source exec)

/-! ### At rest -/

structure AtRest (env : Platform Exec) (w : System Exec) : Prop where
  waiting : w.session.startPending = false
  idle : ¬ Drives env w
  off : outputIsDisabled env w = true

theorem AtRest.of_same {w w' : System Exec} (rest : AtRest env w) (session : w'.session = w.session)
    (monitoring : w'.build.monitoring = w.build.monitoring)
    (off : outputIsDisabled env w = true → outputIsDisabled env w' = true) : AtRest env w' := by
  refine ⟨?_, ?_, off rest.off⟩
  · rw [session]
    exact rest.waiting
  · rw [Drives, session, monitoring]
    exact rest.idle

theorem not_drives {w : System Exec} (inactive : w.session.active = false) : ¬ Drives env w := by
  rintro ⟨active, -⟩
  rw [inactive] at active
  exact nomatch active

theorem AtRest.shut {w : System Exec} (shut : Unengaged w) (off : outputIsDisabled env w = true) :
    AtRest env w :=
  ⟨shut.2, not_drives shut.1, off⟩

theorem AtRest.move (obeys : Obeys env.executor between) (still : ¬ may.starts) {w w' : System Exec}
    (rest : AtRest env w) (move : Move env may now w w') : AtRest env w' := by
  cases move with
  | quiet _ same =>
    have exec : w'.exec = w.exec := congrArg Core.exec same
    refine rest.of_same (congrArg Core.session same) ?_ ?_
    · exact congrArg BuildState.monitoring (congrArg Core.build same)
    · exact fun off => by rwa [outputIsDisabled, exec]
  | edited _ _ _ _ same =>
    have exec : w'.exec = w.exec := congrArg Core.exec same
    refine rest.of_same (congrArg Core.session same) ?_ ?_
    · exact congrArg BuildState.monitoring (congrArg Core.build same)
    · exact fun off => by rwa [outputIsDisabled, exec]
  | disabled => exact rest.of_same rfl rfl fun _ => obeys.disableOff w.exec
  | refreshed => exact rest.of_same rfl rfl (obeys.snapshotOff now w.exec)
  | offered token request sequence received =>
    exact rest.of_same rfl rfl (obeys.postOff token request sequence received now w.exec)
  | driven call drives => exact absurd drives rest.idle
  | touched drives => exact absurd drives rest.idle
  | awaited _ _ drives => exact absurd drives rest.idle
  | phased _ _ drives => exact absurd drives rest.idle
  | running _ drives => exact absurd drives rest.idle
  | accounted => exact rest.of_same rfl rfl id
  | revoked => exact rest.of_same rfl rfl id
  | untargeted => exact rest.of_same rfl rfl id
  | stored => exact rest.of_same rfl rfl id
  | marked => exact rest.of_same rfl rfl id
  | closed => exact rest.of_same rfl rfl id
  | idled => exact rest.of_same rfl rfl id
  | reset => exact rest.of_same rfl rfl id
  | answered _ _ token request =>
    rw [Servo.Moves.answered, creditProgress_eq]
    exact rest.of_same rfl rfl (Obeys.offer_off obeys token request)
  | synced =>
    rw [syncEpoch_eq]
    exact rest.of_same rfl rfl (obeys.snapshotOff now w.exec)
  | withdrawn => exact ⟨rfl, rest.idle, rest.off⟩
  | ended => exact .shut ⟨rfl, rfl⟩ rest.off
  | recorded f detail off =>
    rw [recordFault_eq]
    exact .shut off rest.off
  | requested asked => exact absurd asked still
  | opened opens =>
    rcases opens with ⟨-, pending, -, -⟩ | ⟨-, asked, -, -⟩
    · rw [rest.waiting] at pending
      exact nomatch pending
    · exact absurd asked still
  | reached _ _ _ _ _ build =>
    refine ⟨rfl, ?_, rest.off⟩
    rintro ⟨-, drives⟩
    exact nomatch drives build

theorem AtRest.drives {w w' : System (Exec × Log)} (still : ¬ may.starts) (rest : AtRest env.logged w)
    (move : Move env.logged may now w w') : w'.exec.2.drives = w.exec.2.drives := by
  cases move with
  | quiet _ same => exact congrArg (fun c => c.exec.2.drives) same
  | edited _ _ _ _ same => exact congrArg (fun c => c.exec.2.drives) same
  | driven call drives => exact absurd drives rest.idle
  | opened opens =>
    rcases opens with ⟨-, pending, -, -⟩ | ⟨-, asked, -, -⟩
    · rw [rest.waiting] at pending
      exact nomatch pending
    · exact absurd asked still
  | answered =>
    rw [Servo.Moves.answered, creditProgress_eq]
    rfl
  | synced =>
    rw [syncEpoch_eq]
    rfl
  | recorded =>
    rw [recordFault_eq]
  | _ => rfl

theorem AtRest.path (obeys : Obeys env.executor between) (still : ¬ may.starts) {w w' : System Exec}
    (rest : AtRest env w) (path : Path env may now w w') : AtRest env w' := by
  induction path with
  | refl => exact rest
  | tail _ move ih => exact ih.move obeys still move

theorem AtRest.drives_path {w w' : System (Exec × Log)} (obeys : Obeys env.executor between)
    (still : ¬ may.starts) (rest : AtRest env.logged w) (path : Path env.logged may now w w') :
    w'.exec.2.drives = w.exec.2.drives := by
  induction path with
  | refl => rfl
  | tail before move ih => exact ((rest.path obeys.logged still before).drives still move).trans ih

/-! ### Faults -/

theorem Orderly.fault_kept {w w' : System Exec} (orderly : Orderly env w) (kept : ¬ may.resets)
    (faulted : w.state = .fault) (move : Move env may now w w') :
    w'.state = .fault ∧ w'.fault = w.fault ∧ w'.faultDetail = w.faultDetail := by
  obtain ⟨inactive, unasked⟩ := orderly.faulted faulted
  have halted : ¬ Drives env w := not_drives inactive
  cases move with
  | quiet _ same =>
    exact ⟨(congrArg Core.state same).trans faulted, congrArg Core.fault same, congrArg Core.faultDetail same⟩
  | edited _ _ _ _ same =>
    exact ⟨(congrArg Core.state same).trans faulted, congrArg Core.fault same, congrArg Core.faultDetail same⟩
  | synced =>
    rw [syncEpoch_eq]
    exact ⟨faulted, rfl, rfl⟩
  | answered =>
    rw [Servo.Moves.answered, creditProgress_eq]
    exact ⟨faulted, rfl, rfl⟩
  | recorded =>
    rw [recordFault_eq]
    exact ⟨rfl, if_pos faulted, if_pos faulted⟩
  | idled _ elsewhere => exact absurd faulted elsewhere
  | reset asked => exact absurd asked kept
  | phased _ _ drives => exact absurd drives halted
  | running _ drives => exact absurd drives halted
  | reached _ _ _ _ active =>
    rw [inactive] at active
    exact nomatch active
  | opened opens =>
    rcases opens with ⟨-, pending, -, -⟩ | ⟨-, -, idle, -⟩
    · rw [unasked] at pending
      exact nomatch pending
    · rw [faulted] at idle
      exact nomatch idle
  | _ => exact ⟨faulted, rfl, rfl⟩

theorem Orderly.fault_path {w w' : System Exec} (orderly : Orderly env w) (kept : ¬ may.resets)
    (faulted : w.state = .fault) (path : Path env may now w w') :
    w'.state = .fault ∧ w'.fault = w.fault ∧ w'.faultDetail = w.faultDetail := by
  induction path with
  | refl => exact ⟨faulted, rfl, rfl⟩
  | tail before move ih =>
    have last := (orderly.path before).fault_kept kept ih.1 move
    exact ⟨last.1, last.2.1.trans ih.2.1, last.2.2.trans ih.2.2⟩

/-- The fault and its detail are those of the call, unless one is recorded already. -/
theorem fault_code (f : MachineFault) (detail : FaultDetail) {w : System Exec} (sound : w.state ≠ .fault) :
    (fault env f detail now w).fault = f ∧ (fault env f detail now w).faultDetail = detail := by
  have settled : (settleAccount env now w).state = w.state := by
    unfold settleAccount
    split <;> rfl
  unfold fault
  dsimp only
  generalize settleAccount env now w = u at settled
  have closed := congrArg Core.state (@closing_core Exec now (faultReason detail (revokePlan (disable env u)))
    (revokePlan (disable env u)))
  generalize beginCooling now (finishBoost now 3 (giveReason (faultReason detail (revokePlan (disable env u)))
    (revokePlan (disable env u)))) = v at closed
  have unfaulted : (endSession v).state ≠ .fault := by
    rw [show (endSession v).state = u.state from closed, settled]
    exact sound
  have recorded : (recordFault f detail (endSession v)).fault = f ∧
      (recordFault f detail (endSession v)).faultDetail = detail := by
    rw [recordFault_eq]
    exact ⟨if_neg unfaulted, if_neg unfaulted⟩
  unfold publish
  split
  · exact recorded
  · exact recorded

/-- A fault is left by a reset only, and only with the output off and the executor healthy. -/
theorem Orderly.fault_left {w : System Exec} (orderly : Orderly env w)
    (faulted : w.state = .fault) (e : Event) (now : U32) :
    ((call env e now w).state = .fault ∧ (call env e now w).fault = w.fault ∧
        (call env e now w).faultDetail = w.faultDetail) ∨
      (carried e = some .faultReset ∧ outputIsDisabled env w = true ∧ isHealthy env w = true ∧
        (call env e now w).state = .idle) := by
  by_cases resets : carried e = some .faultReset
  · obtain ⟨units, same⟩ := @call_carried Exec env _ _ resets now w
    rw [same]
    unfold handleCommand command faultReset giveResult
    dsimp only
    rw [publish_state]
    split
    · rename_i ready
      exact .inr ⟨resets, ready.2.1, ready.2.2, rfl⟩
    · left
      refine ⟨faulted, ?_, ?_⟩ <;> unfold publish <;> split <;> rfl
  · exact .inl (orderly.fault_path resets faulted (call_path e orderly.boot))

/-! ### The three ways to stop -/

/-- The end of STOP: the session's flags are down and the output is off. -/
theorem stop_done (obeys : Obeys env.executor between) (w : System Exec) : AtRest env (stop env now w).1 := by
  have ok : ∀ u : System Exec, disableFails env u = false := by
    intro u
    simp [disableFails, obeys.disableOk]
  unfold stop
  dsimp only
  rw [if_neg (by simp [ok])]
  dsimp only
  split
  · exact .shut ⟨rfl, rfl⟩ (obeys.disableOff _)
  · exact .shut ⟨rfl, rfl⟩ (obeys.disableOff _)

theorem AtRest.publish (obeys : Obeys env.executor between) {w : System Exec} (rest : AtRest env w) :
    AtRest env (publish env now w) :=
  rest.path obeys (fun starts => starts) (@publish_path Exec env .none now w)

theorem stop_rests (obeys : Obeys env.executor between) {type : CommandType} {units : ℤ} {w : System Exec}
    (stops : type = .stop ∨ type = .jogStop) : AtRest env (handleCommand env ⟨type, units⟩ now w) := by
  have stopped : command env ⟨type, units⟩ now w = stop env now w := by
    rcases stops with same | same <;> rw [same] <;> rfl
  unfold handleCommand
  rw [stopped]
  have done_ := @stop_done Exec env between now obeys w
  generalize stop env now w = answer at done_
  have stored : AtRest env (giveResult answer.2 answer.1) := done_.of_same rfl rfl id
  exact stored.publish obeys

theorem Sound.fault_rests {w : System Exec} (sound : Sound env w) (faulted : w.state = .fault) :
    AtRest env w :=
  .shut (sound.orderly.faulted faulted) (sound.still (.inl faulted))

theorem Sound.target_rests {w : System Exec} (sound : Sound env w)
    (target : w.state = .forceTargetReachedOff) : AtRest env w := by
  obtain ⟨build, monitors⟩ := sound.orderly.reached target
  refine ⟨?_, ?_, sound.still (.inr target)⟩
  · by_contra pending
    have idle := sound.orderly.waiting (by simpa using pending)
    rw [target] at idle
    exact nomatch idle
  · rintro ⟨active, drives⟩
    rw [monitors active] at drives
    exact nomatch drives build

/-- The target is reached by a driving session: the output is off when the call returns, or it faults. -/
theorem targetOff_cases (w : System Exec) :
    (targetOff env now w).state = .fault ∨
      (targetOff env now w = markTargetOff (disable env (account now w))) := by
  unfold targetOff
  dsimp only
  split
  · exact .inl (fault_state ..)
  · exact .inr rfl

/-- While the target is watched, a frame changes nothing that is shown. -/
theorem renewFeedback_watching (force : ℚ) {w : System Exec} (watching : w.build.monitoring = true) :
    (renewFeedback env now force w).state = w.state := by
  have off : driving (refreshBuild env now w) = false := by
    simp [driving, refreshBuild, watching]
  unfold renewFeedback settlePost
  dsimp only
  simp only [off, Bool.false_eq_true, false_and, and_false, if_false]
  split <;> rfl

/-- A fault settles the books and leaves the rest of the Build state alone. -/
theorem fault_build (f : MachineFault) (detail : FaultDetail) (w : System Exec) :
    (fault env f detail now w).build = (settleAccount env now w).build := by
  unfold fault
  dsimp only
  generalize settleAccount env now w = u
  have closed := congrArg Core.build (@closing_core Exec now (faultReason detail (revokePlan (disable env u)))
    (revokePlan (disable env u)))
  have published : ∀ v : System Exec, (publish env now v).build = v.build := by
    intro v
    unfold publish
    split <;> rfl
  rw [published, recordFault_eq]
  exact closed

theorem fault_monitoring (f : MachineFault) (detail : FaultDetail) (w : System Exec) :
    (fault env f detail now w).build.monitoring = w.build.monitoring := by
  rw [fault_build]
  unfold settleAccount
  split <;> rfl

theorem targetOff_watches {w : System Exec} (drives : driving w = true) :
    (targetOff env now w).state = .fault ∧ (targetOff env now w).build.monitoring = false ∨
      targetOff env now w = markTargetOff (disable env (account now w)) := by
  unfold targetOff
  dsimp only
  split
  · left
    refine ⟨fault_state .., ?_⟩
    rw [fault_monitoring]
    simp only [driving, Bool.and_eq_true, Bool.not_eq_true'] at drives
    exact drives.2
  · exact .inr rfl

theorem checkBoundary_below {w : System Exec} (below : w.pressure.raw < 3000) :
    checkBoundary env now w = (w, false) := by
  unfold checkBoundary
  rw [if_pos below]

theorem checkBoundary_ends {w : System Exec} (drives : driving w = true) (reached : ¬ w.pressure.raw < 3000) :
    (checkBoundary env now w).2 = true ∧ (checkBoundary env now w).1.state = .fault ∨
      (checkBoundary env now w).2 = false ∧ (checkBoundary env now w).1.build.monitoring = true ∧
        (checkBoundary env now w).1.state = .forceTargetReachedOff := by
  unfold checkBoundary
  rw [if_neg reached]
  dsimp only
  by_cases boundary : w.targetUnits = 3000
  · have ended : (if driving w = true ∧ w.targetUnits = 3000 then targetOff env now w else w) =
        targetOff env now w := if_pos ⟨drives, boundary⟩
    rw [ended]
    rcases @targetOff_watches Exec env now w drives with ⟨-, blind⟩ | off
    · rw [if_pos (.inr (.inl (by simp [blind])))]
      exact .inl ⟨rfl, fault_state ..⟩
    · rw [off]
      split
      · exact .inl ⟨rfl, fault_state ..⟩
      · exact .inr ⟨rfl, rfl, rfl⟩
  · have goes : (if driving w = true ∧ w.targetUnits = 3000 then targetOff env now w else w) = w :=
      if_neg fun both => boundary both.2
    rw [goes, if_pos (.inl boundary)]
    exact .inl ⟨rfl, fault_state ..⟩

theorem freshPressure_target {w : System Exec} (drives : driving w = true)
    (target : (w.targetUnits : ℚ) ≤ rawForce w) :
    (freshPressure env now w).state = .fault ∨ (freshPressure env now w).state = .forceTargetReachedOff := by
  unfold freshPressure
  dsimp only
  by_cases below : w.pressure.raw < 3000
  · rw [checkBoundary_below below, if_neg (by simp), if_pos ⟨drives, target⟩]
    rcases @targetOff_watches Exec env now w drives with ⟨faulted, -⟩ | off
    · exact .inl faulted
    · rw [off]
      exact .inr rfl
  · rcases @checkBoundary_ends Exec env now w drives below with ⟨ended, faulted⟩ | ⟨goes, watching, off⟩
    · rw [if_pos ended]
      exact .inl faulted
    · have halted : driving (checkBoundary env now w).1 = false := by
        simp [driving, watching]
      rw [if_neg (by simp [goes]), if_neg (by simp [halted]), renewFeedback_watching _ watching]
      exact .inr off

/-- The checks before a frame either fault or leave the session as it is. -/
theorem checkDrive_cases (w : System Exec) :
    (checkDrive env now w).state = .fault ∨ checkDrive env now w = refreshBuild env now w := by
  unfold checkDrive
  dsimp only
  split
  · exact .inl (fault_state ..)
  split
  · exact .inl (fault_state ..)
  split
  · exact .inl (fault_state ..)
  split
  · exact .inl (fault_state ..)
  · exact .inr rfl

theorem checkSession_cases (w : System Exec) :
    (checkSession env now w).state = .fault ∨ ∃ x, checkSession env now w = { w with exec := x } := by
  unfold checkSession
  split
  · exact .inr ⟨w.exec, rfl⟩
  split
  · exact .inl (fault_state ..)
  split
  · split
    · exact .inl (fault_state ..)
    · exact .inr ⟨w.exec, rfl⟩
  · rcases @checkDrive_cases Exec env now w with faulted | same
    · exact .inl faulted
    · exact .inr ⟨_, same⟩

theorem endCooling_eq (w : System Exec) : ∃ c, endCooling now w = { w with cooling := c } := by
  unfold endCooling
  split
  · exact ⟨_, rfl⟩
  · exact ⟨w.cooling, rfl⟩

theorem checkPressureSafety_cases (build : env.policy.buildToTarget = true) {w : System Exec}
    (waiting : w.session.startPending = false) :
    (checkPressureSafety env now w).state = .fault ∨
      ∃ x c b, checkPressureSafety env now w = { w with exec := x, cooling := c, build := b } ∧
        b.monitoring = w.build.monitoring := by
  obtain ⟨c, cooled⟩ := @endCooling_eq Exec now w
  unfold checkPressureSafety
  dsimp only
  rw [cooled, if_neg (by simp [waiting]), if_pos build]
  unfold safety
  rw [syncEpoch_eq]
  rcases @checkSession_cases Exec env now _ with faulted | ⟨x, same⟩
  · exact .inl faulted
  · exact .inr ⟨x, c, _, same, rfl⟩

/-- A frame a session can be fed: usable, in order and fresh. -/
def Feeds (env : Platform Exec) (p : Sample) (now : U32) (w : System Exec) : Prop :=
  sampleUsable env p = true ∧ outOfOrder p w = false ∧ receivedBackwards p w = false ∧
    now - p.received ≤ u32 w.tuning.config.sampleAgeMs

/-- The first frame at or above the target ends a Build session, in the call that delivers it. -/
theorem Orderly.target_entered (build : env.policy.buildToTarget = true)
    {p : Sample} {w : System Exec} (orderly : Orderly env w) (drives : Drives env w) (feeds : Feeds env p now w)
    (target : w.targetUnits ≤ p.raw.toNat) :
    (handlePressureSample env p now w).state = .fault ∨
      (handlePressureSample env p now w).state = .forceTargetReachedOff := by
  obtain ⟨usable, later, forwards, fresh⟩ := feeds
  have waiting := (orderly.drives drives).2.2.2.2
  unfold handlePressureSample acceptSample
  rw [if_neg (by simp [usable]), if_neg (by simp [later]), if_neg (by simp [forwards])]
  dsimp only
  rw [if_pos build]
  rcases @checkPressureSafety_cases Exec env now build w waiting with faulted | ⟨x, c, b, same, watching⟩
  · left
    have checked : Orderly env (checkPressureSafety env now w) :=
      orderly.path (@checkPressureSafety_path Exec env .none now w)
    have stored : Orderly env (store p (checkPressureSafety env now w)) := checked.of_same rfl rfl rfl
    let may : Permit := ⟨False, False, False, False, True, fun _ => False, fun _ => True⟩
    have kept : Path env may now (store p (checkPressureSafety env now w))
        (processBuildSample env now (store p (checkPressureSafety env now w))) :=
      processBuildSample_path build trivial
    exact (stored.fault_path id faulted kept).1
  · have still : driving (store p (checkPressureSafety env now w)) = true := by
      rw [same]
      simp [driving, store, drives.1, drives.2 build, watching]
    have asked : ¬ (store p (checkPressureSafety env now w)).session.startPending = true := by
      rw [same]
      simp [store, waiting]
    have freshly : isPressureFresh now (store p (checkPressureSafety env now w)) = true := by
      simp only [sampleUsable, Bool.and_eq_true] at usable
      rw [same]
      simp only [isPressureFresh, store, usable.1.1.1, usable.1.1.2, Bool.true_and]
      exact decide_eq_true fresh
    have met : ((store p (checkPressureSafety env now w)).targetUnits : ℚ) ≤
        rawForce (store p (checkPressureSafety env now w)) := by
      rw [same]
      simp only [store, rawForce]
      exact_mod_cast target
    unfold processBuildSample
    rw [if_pos asked, publish_state]
    unfold pressure
    rw [if_neg (by simp [freshly])]
    exact freshPressure_target still met

/-- A call that stops the machine: STOP itself, or the boundary frame that stands for one. -/
def StopsNow (env : Platform Exec) (e : Event) (now : U32) (w : System Exec) : Prop :=
  carried e = some .stop ∨ carried e = some .jogStop ∨
    ∃ p, e = .sample p ∧ sampleUsable env p = true ∧ outOfOrder p w = false ∧ receivedBackwards p w = false ∧
      env.policy.buildToTarget = false ∧
      boundaryReached env now (store p (checkPressureSafety env now w)) = true

theorem stopsNow_rests (obeys : Obeys env.executor between) {e : Event} {w : System Exec}
    (stops : StopsNow env e now w) : AtRest env (call env e now w) := by
  rcases stops with carries | carries | ⟨p, rfl, usable, later, forwards, continuous, boundary⟩
  · obtain ⟨units, same⟩ := @call_carried Exec env _ _ carries now w
    rw [same]
    exact stop_rests obeys (.inl rfl)
  · obtain ⟨units, same⟩ := @call_carried Exec env _ _ carries now w
    rw [same]
    exact stop_rests obeys (.inr rfl)
  · unfold call handlePressureSample acceptSample
    dsimp only
    rw [if_neg (by simp [usable]), if_neg (by simp [later]), if_neg (by simp [forwards]),
      if_neg (by simp [continuous]), if_pos boundary]
    exact stop_rests obeys (.inl rfl)

def withoutStart (env : Platform Exec) (between : Exec → Exec → Prop) (w : System Exec) : Input Exec → Prop
  | .call e now => ¬ startsNow env e now w
  | .moved x => between w.exec x

/-- From here on no drive call is made and the output is off, for as long as no START is accepted. -/
def StaysOff (env : Platform Exec) (between : Exec → Exec → Prop) (w : System (Exec × Log)) : Prop :=
  ∀ w', Runs (turn env.logged) (withoutStart env.logged (logged between)) w w' →
    w'.exec.2.drives = w.exec.2.drives ∧ outputIsDisabled env.logged w' = true

theorem AtRest.staysOff (obeys : Obeys env.executor between) {w : System (Exec × Log)}
    (sound : Sound env.logged w) (rest : AtRest env.logged w) : StaysOff env between w := by
  intro w' runs
  have kept : Sound env.logged w' ∧ AtRest env.logged w' ∧ w'.exec.2.drives = w.exec.2.drives := by
    induction runs with
    | refl => exact ⟨sound, rest, rfl⟩
    | tail _ next ih =>
      obtain ⟨input, admitted, rfl⟩ := next
      obtain ⟨sound, rest, same⟩ := ih
      cases input with
      | call e now =>
        have path := @call_path _ env.logged now e _ sound.orderly.boot
        have still : ¬ (permit env.logged e now _).starts := admitted
        exact ⟨sound.path obeys.logged path, rest.path obeys.logged still path,
          (rest.drives_path obeys still path).trans same⟩
      | moved x =>
        have off := obeys.logged.betweenOff _ x admitted
        exact ⟨⟨sound.orderly.of_same rfl rfl rfl, sound.still_same rfl off⟩, rest.of_same rfl rfl off,
          (congrArg Log.drives admitted.2).trans same⟩
  exact ⟨kept.2.2, kept.2.1.off⟩

/-! ### Terminal states -/

/-- After a STOP, a fault or the target no call drives the output until a START is accepted; a Build
session at its target is there, or has faulted, when the frame's call returns; and a fault keeps its
code until a reset with the output off and the executor healthy. -/
theorem terminal_stays_off (env : Platform Exec) (between : Exec → Exec → Prop)
    (obeys : Obeys env.executor between) (w : System (Exec × Log))
    (reachable : Reachable env.logged (logged between) w) :
    (∀ e now, StopsNow env.logged e now w → StaysOff env between (call env.logged e now w)) ∧
    (w.state = .fault → StaysOff env between w) ∧
    (w.state = .forceTargetReachedOff → StaysOff env between w) ∧
    (env.policy.buildToTarget = true → w.session.active = true → w.build.monitoring = false →
      ∀ p now, Feeds env.logged p now w → w.targetUnits ≤ p.raw.toNat →
        (call env.logged (.sample p) now w).state = .fault ∨
        (call env.logged (.sample p) now w).state = .forceTargetReachedOff ∧
          outputIsDisabled env.logged (call env.logged (.sample p) now w) = true) ∧
    (w.state = .fault → ∀ e now,
      ((call env.logged e now w).state = .fault ∧ (call env.logged e now w).fault = w.fault ∧
        (call env.logged e now w).faultDetail = w.faultDetail) ∨
      (carried e = some .faultReset ∧ outputIsDisabled env.logged w = true ∧
        isHealthy env.logged w = true ∧ (call env.logged e now w).state = .idle)) := by
  have sound : Sound env.logged w := .reachable obeys.logged reachable
  refine ⟨?_, ?_, ?_, ?_, ?_⟩
  · intro e now stops
    exact (stopsNow_rests obeys.logged stops).staysOff obeys (sound.called obeys.logged e now)
  · exact fun faulted => (sound.fault_rests faulted).staysOff obeys sound
  · exact fun target => (sound.target_rests target).staysOff obeys sound
  · intro build active drives p now feeds target
    have ended := Orderly.target_entered (show env.logged.policy.buildToTarget = true from build) sound.orderly ⟨active, fun _ => drives⟩ feeds target
    have after : Sound env.logged (call env.logged (.sample p) now w) :=
      sound.called obeys.logged (.sample p) now
    rcases ended with faulted | off
    · exact .inl faulted
    · exact .inr ⟨off, after.still (.inr off)⟩
  · exact fun faulted e now => sound.orderly.fault_left faulted e now

def switchPlatform (policy : BuildPolicy) : Platform Bool :=
  ⟨policy, .switch, id, ⟨900, 100, 200, false⟩, fun _ => []⟩

/-- Boot, a plan of 3000 N, a frame at 1500 N, START, and the frame that opens the session and its output. -/
def switchEvents : List (Event × U32) :=
  [(.boot true, 0)] ++ ((planning3000 0).map fun e => (e, 2)) ++
    [(.sample (benchFrame 1 1500 3), 3), (.write 5 Modbus.Protocol.coilStart 0xFF00, 4), (.sample (benchFrame 2 1500 5), 5)]

def switchBooted (time : U32) : System (Bool × Log) :=
  initialized (switchPlatform .toTarget).logged ⟨900, 100, 200, false⟩ true time Pressure.State.Source.initial
    (false, ⟨[], [], []⟩)

def switchDriving : System (Bool × Log) := calls (switchPlatform .toTarget).logged switchEvents (switchBooted 0)

/-- The session is driving: a STOP, a frame at its target and a fault each end it with the output off for good. -/
theorem terminal_stays_off_driving :
    outputIsDisabled (switchPlatform .toTarget).logged switchDriving = false ∧
    StaysOff (switchPlatform .toTarget) (fun _ _ => False)
      (call (switchPlatform .toTarget).logged (.command ⟨.stop, 0⟩) 6 switchDriving) ∧
    StaysOff (switchPlatform .toTarget) (fun _ _ => False)
      (call (switchPlatform .toTarget).logged (.sample (benchFrame 3 3000 105)) 105 switchDriving) ∧
    StaysOff (switchPlatform .toTarget) (fun _ _ => False)
      (call (switchPlatform .toTarget).logged .tick 205 switchDriving) := by
  have reachable : Reachable (switchPlatform .toTarget).logged (logged fun _ _ => False) switchDriving := by
    apply Reachable.calls
    exact ⟨⟨900, 100, 200, false⟩, true, 0, .initial, (false, ⟨[], [], []⟩), .refl⟩
  have law := terminal_stays_off (switchPlatform .toTarget) (fun _ _ => False) switch_obeys
  have driving := law switchDriving reachable
  have drives : outputIsDisabled (switchPlatform .toTarget).logged switchDriving = false ∧
      switchDriving.session.active = true ∧ switchDriving.build.monitoring = false ∧
      Feeds (switchPlatform .toTarget).logged (benchFrame 3 3000 105) 105 switchDriving ∧
      switchDriving.targetUnits ≤ (benchFrame 3 3000 105).raw.toNat ∧
      (call (switchPlatform .toTarget).logged (.sample (benchFrame 3 3000 105)) 105 switchDriving).state ≠ .fault ∧
      (call (switchPlatform .toTarget).logged .tick 205 switchDriving).state = .fault := by
    unfold Feeds
    decide +kernel
  obtain ⟨on, active, watches, feeds, reached, sound, faulted⟩ := drives
  have ended := driving.2.2.2.1 rfl active watches _ 105 feeds reached
  refine ⟨on, driving.1 _ 6 (.inl rfl), ?_, ?_⟩
  · have target := (ended.resolve_left sound).1
    exact (law _ (reachable.call (.sample (benchFrame 3 3000 105)) 105)).2.2.1 target
  · exact (law _ (reachable.call .tick 205)).2.1 faulted

end Sd700.Runs.Terminal

import Sd700.Logic.Run
import Sd700.Servo.Paths

/-! The calls into a ForceServo build, as one event type: the machine's entry points, and the register
accesses that reach them over Modbus. Every call is a path of moves it is permitted to make. -/

namespace Sd700.Runs.Calls
open Build.Contract Servo.Config Servo.Controller Servo.State Servo.BuildMachine Servo.Machine
  Servo.Moves Servo.Paths Motor.Interface Logic.Modular Modbus.Protocol

variable {Exec : Type}

inductive Event
  | boot (checks : Bool)
  | report (f : MachineFault) (detail : FaultDetail)
  | sample (p : Sample)
  | command (c : Command)
  | write (function : BitVec 8) (a v : U16)
  | read (f : ReadFunction) (address quantity : U16)
  | tick
  | service
  | safety

def call (env : Platform Exec) (e : Event) (now : U32) (w : System Exec) : System Exec :=
  match e with
  | .boot checks => completeBoot env checks now w
  | .report f detail => fault env f detail now w
  | .sample p => handlePressureSample env p now w
  | .command c => handleCommand env c now w
  | .write function a v => (applyWrite env function a v now w).1
  | .read f address quantity => (processRead env f address quantity now w).1
  | .tick => tick env now w
  | .service => handleMotorService env now w
  | .safety => checkPressureSafety env now w

def coilWrite (function : BitVec 8) (a v : U16) : Option CommandType :=
  if function ≠ 5 then none
  else if a = coilStart ∨ a = coilReset then
    if v ≠ 0xFF00 then none else if a = coilStart then some .forceStart else some .faultReset
  else if a = 1 ∨ a = 2 ∨ a = 3 then coilCommand a v
  else none

def carried : Event → Option CommandType
  | .command c => some c.type
  | .write function a v => coilWrite function a v
  | _ => none

def startsNow (env : Platform Exec) (e : Event) (now : U32) (w : System Exec) : Prop :=
  carried e = some .forceStart ∧
    ((forceStart env now w).2 = .accepted ∨ (forceStart env now w).2 = .executorFailed)

/-- A register write outside a characterization build, or any write to the map of this protocol. -/
def editsNow (env : Platform Exec) : Event → Prop
  | .command c => c.type = .setTarget ∧ env.policy.characterization = false
  | .write function a _ => function = 6 ∧
      (writeAddress env.policy function a = true ∨ env.policy.characterization = false)
  | _ => False

def permit (env : Platform Exec) (e : Event) (now : U32) (w : System Exec) : Permit where
  edits := editsNow env e
  reads := ∃ f address quantity, e = .read f address quantity
  resets := carried e = some .faultReset
  starts := startsNow env e now w
  runs := ∀ p, e ≠ .sample p
  stores p := e = .sample p
  frames p := e = .sample p

variable {env : Platform Exec} {may : Permit} {now : U32}

/-! ### Register writes -/

theorem coilCommand_path {type : CommandType} {w : System Exec}
    (set : type ≠ .setTarget) (resets : type = .faultReset → may.resets)
    (starts : type = .forceStart → (forceStart env now w).2 = .accepted ∨
      (forceStart env now w).2 = .executorFailed → may.starts) :
    Path env may now w (handleCommand env ⟨type, 0⟩ now w) := by
  apply handleCommand_path
  constructor
  · exact fun same => absurd same set
  · exact resets
  · intro start result
    refine starts start ?_
    simpa only [command, show type = .forceStart from start] using result

theorem plan_edited {w w' : System Exec} (asked : may.edits) (idle : w.state = .idle)
    (off : w.session.startPending = false)
    (same : core w' = { core w with
      plan := w'.plan, tuning := w'.tuning, targetUnits := w'.targetUnits, targetValid := w'.targetValid }) :
    Path env may now w w' :=
  .single (.edited w w' asked idle off same)

theorem planWrite_path (asked : may.edits) (runs : may.runs) (a v : U16) {w : System Exec} (idle : w.state = .idle)
    (off : w.session.startPending = false) : Path env may now w (planWrite env a v now w).1 := by
  unfold planWrite
  dsimp only
  split
  · exact plan_edited asked idle off rfl
  split
  · exact plan_edited asked idle off rfl
  split
  · unfold commitPlan
    dsimp only
    split
    · exact plan_edited asked idle off rfl
    split
    · exact plan_edited asked idle off rfl
    · refine .trans ?_ (tick_path runs _)
      exact plan_edited asked idle off rfl
  split
  · exact plan_edited asked idle off rfl
  split
  · exact plan_edited asked idle off rfl
  · exact plan_edited asked idle off rfl

theorem selectProfile_path (asked : may.edits) (runs : may.runs) (v : U16) {w : System Exec} (idle : w.state = .idle)
    (off : w.session.startPending = false) : Path env may now w (selectProfile env v now w).1 := by
  unfold selectProfile
  split
  · exact .refl
  split
  · exact plan_edited asked idle off rfl
  split
  · refine .trans ?_ (tick_path runs _)
    exact plan_edited asked idle off rfl
  split
  · exact .refl
  · refine .trans ?_ (tick_path runs _)
    exact plan_edited asked idle off rfl

theorem setTarget_commands (asked : env.policy.characterization = false → may.edits) (units : ℤ)
    (w : System Exec) : Commands env may now ⟨.setTarget, units⟩ w where
  edits _ plain := asked plain
  resets same := nomatch same
  starts same := nomatch same

theorem writeTarget_path (asked : may.edits) (runs : may.runs) (v : U16) {w : System Exec} (idle : w.state = .idle)
    (off : w.session.startPending = false) : Path env may now w (writeTarget env v now w).1 := by
  unfold writeTarget
  dsimp only
  split
  · refine .trans ?_ (tick_path runs _)
    exact plan_edited asked idle off rfl
  · refine .trans ?_ (handleCommand_path (setTarget_commands (fun _ => asked) _ _))
    exact plan_edited asked idle off rfl

theorem commitConfig_path (asked : may.edits) (runs : may.runs) (v : U16) {w : System Exec} (idle : w.state = .idle)
    (off : w.session.startPending = false) : Path env may now w (commitConfig env v now w).1 := by
  unfold commitConfig
  dsimp only
  split
  · exact .refl
  split
  · exact plan_edited asked idle off rfl
  split
  · exact .refl
  · refine .trans ?_ (tick_path runs _)
    exact plan_edited asked idle off rfl

theorem configWrite_path (asked : may.edits) (runs : may.runs) (a v : U16) {w : System Exec} (idle : w.state = .idle)
    (off : w.session.startPending = false) : Path env may now w (configWrite env a v now w).1 := by
  unfold configWrite
  split
  · exact selectProfile_path asked runs v idle off
  split
  · exact writeTarget_path asked runs v idle off
  split
  · split
    · exact .refl
    · exact plan_edited asked idle off rfl
  split
  · exact .refl
  split
  · exact plan_edited asked idle off rfl
  split
  · exact commitConfig_path asked runs v idle off
  · exact .refl

theorem quiescent_idle {w : System Exec} (rests : quiescent env w = true) :
    w.state = .idle ∧ w.session.active = false ∧ w.session.startPending = false ∧
      outputIsDisabled env w = true := by
  simp only [quiescent, Bool.decide_and, Bool.and_eq_true, decide_eq_true_eq, Bool.not_eq_true] at rests
  exact ⟨rests.1, rests.2.1, rests.2.2.1, rests.2.2.2.1⟩

theorem applyWrite_path (function : BitVec 8) (a v : U16) (w : System Exec) :
    Path env (permit env (.write function a v) now w) now w (applyWrite env function a v now w).1 := by
  unfold applyWrite
  split
  · rename_i address
    unfold servoWrite
    split
    · rename_i coil
      have target : a = coilStart ∨ a = coilReset := by
        simpa [writeAddress, coil] using address
      split
      · exact .refl
      · rename_i value
        dsimp only
        rw [not_not] at value
        have type : carried (.write function a v) =
            some (if a = coilStart then CommandType.forceStart else .faultReset) := by
          simp only [carried, coilWrite, coil, target, value]
          by_cases start : a = coilStart <;> simp [start]
        refine coilCommand_path ?_ ?_ ?_
        · split <;> simp
        · intro reset
          exact type.trans (congrArg some reset)
        · intro start result
          exact ⟨type.trans (congrArg some start), result⟩
    · rename_i register
      have holding : function = 6 := by
        simp only [writeAddress, register, false_and, false_or, Bool.decide_and, decide_eq_true_eq,
          Bool.and_eq_true] at address
        exact address.1
      have asked : (permit env (.write function a v) now w).edits := ⟨holding, .inl address⟩
      have runs : (permit env (.write function a v) now w).runs := fun p same => nomatch same
      split
      · unfold freeze
        split
        · exact .refl
        · exact .single (.quiet _ _ rfl)
      split
      · exact .refl
      rename_i rests
      rw [not_not] at rests
      obtain ⟨idle, -, off, -⟩ := quiescent_idle rests
      split
      · exact planWrite_path asked runs a v idle off
      · exact configWrite_path asked runs a v idle off
  rename_i foreign
  split
  · rename_i target
    have asked : env.policy.characterization = false → (permit env (.write function a v) now w).edits :=
      fun plain => ⟨target.1, .inr plain⟩
    exact handleCommand_path (setTarget_commands asked _ _)
  split
  · rename_i coil
    split
    · exact .refl
    · rename_i type named
      have legacy : ¬ (a = coilStart ∨ a = coilReset) := by
        simpa [writeAddress, coil.1] using foreign
      have type' : carried (.write function a v) = some type := by
        simp only [carried, coilWrite, coil.1, legacy, coil.2, ne_eq, not_true_eq_false, if_false, if_true]
        exact named
      refine coilCommand_path ?_ ?_ ?_
      · intro same
        rw [same] at named
        unfold coilCommand at named
        split_ifs at named <;> simp_all
      · intro reset
        exact type'.trans (congrArg some reset)
      · intro start result
        exact ⟨type'.trans (congrArg some start), result⟩
  · exact .refl

/-! ### Register reads -/

theorem readServoHolding_path (asked : may.reads) (a : U16) (w : System Exec) :
    Path env may now w (readServoHolding env a w).1 := by
  unfold readServoHolding
  split
  · split
    · exact .single (.marked w _ asked)
    · exact .refl
  · exact .refl

theorem readHolding_context (a : U16) (w : System Exec) :
    (readHolding env a w).1 = (readServoHolding env a w).1 := by
  unfold readHolding
  split
  · rename_i served
    rw [served]
  · rename_i refused
    rw [refused]

theorem readRegister_path (asked : may.reads) (f : ReadFunction) (candidate : Nat) (w : System Exec) :
    Path env may now w (readRegister env f candidate now w).1 := by
  unfold readRegister
  split
  · exact .refl
  cases f with
  | input => exact .refl
  | holding =>
    dsimp only
    rw [readHolding_context]
    exact readServoHolding_path asked _ w

theorem readLoop_path (asked : may.reads) (f : ReadFunction) (count : Nat) :
    ∀ (candidate : Nat) (values : List U16) (w : System Exec),
      Path env may now w (readLoop env f now candidate count values w).1 := by
  induction count with
  | zero => exact fun _ _ _ => .refl
  | succ count ih =>
    intro candidate values w
    have first := @readRegister_path Exec env may now asked f candidate w
    unfold readLoop
    split
    · rename_i refused
      rw [refused] at first
      exact first
    · rename_i served
      rw [served] at first
      exact first.trans (ih (candidate + 1) _ _)

theorem processRead_path (asked : may.reads) (f : ReadFunction) (address quantity : U16) (w : System Exec) :
    Path env may now w (processRead env f address quantity now w).1 := by
  unfold processRead
  split
  · exact .refl
  · exact readLoop_path asked f _ _ _ w

/-! ### Calls -/

theorem call_path (e : Event) {w : System Exec} (boot : w.state = .bootSafe → Unengaged w) :
    Path env (permit env e now w) now w (call env e now w) := by
  cases e with
  | boot checks => exact completeBoot_path boot checks
  | report f detail => exact fault_path f detail w
  | sample p => exact handlePressureSample_path rfl rfl w
  | command c =>
    refine handleCommand_path ⟨?_, ?_, ?_⟩
    · exact fun set plain => ⟨set, plain⟩
    · exact fun reset => congrArg some reset
    · intro start result
      refine ⟨congrArg some start, ?_⟩
      simpa only [command, start] using result
  | write function a v => exact applyWrite_path function a v w
  | read f address quantity =>
    have asked : (permit env (.read f address quantity) now w).reads := ⟨f, address, quantity, rfl⟩
    exact processRead_path asked f address quantity w
  | tick => exact tick_path (fun p same => nomatch same) w
  | service => exact handleMotorService_path w
  | safety => exact checkPressureSafety_path w

theorem call_carried {e : Event} {type : CommandType} (carries : carried e = some type) (now : U32)
    (w : System Exec) : ∃ units, call env e now w = handleCommand env ⟨type, units⟩ now w := by
  cases e with
  | command c =>
    cases carries
    exact ⟨c.targetUnits, rfl⟩
  | write function a v =>
    refine ⟨0, ?_⟩
    unfold carried coilWrite at carries
    dsimp only at carries
    by_cases coil : function = 5
    · subst coil
      rw [if_neg (by simp)] at carries
      have own : writeAddress env.policy 5 a = true ↔ a = coilStart ∨ a = coilReset := by
        simp [writeAddress]
      by_cases address : a = coilStart ∨ a = coilReset
      · rw [if_pos address] at carries
        by_cases value : v = 0xFF00
        · rw [if_neg (by simp [value])] at carries
          have named : (if a = coilStart then CommandType.forceStart else .faultReset) = type := by
            split_ifs at carries ⊢ <;> simpa using carries
          simp only [call, applyWrite, own.mpr address, if_true, servoWrite, value, ne_eq,
            not_true_eq_false, if_false, named]
        · rw [if_pos value] at carries
          exact nomatch carries
      · rw [if_neg address] at carries
        have foreign : writeAddress env.policy 5 a = false := by
          simpa using mt own.mp address
        have coil : ¬ ((5 : BitVec 8) = 6 ∧ a = 0) := by simp
        by_cases legacy : a = 1 ∨ a = 2 ∨ a = 3
        · rw [if_pos legacy] at carries
          simp only [call, applyWrite, foreign, Bool.false_eq_true, if_false, coil, legacy, and_self,
            if_true, carries]
        · rw [if_neg legacy] at carries
          exact nomatch carries
    · rw [if_pos coil] at carries
      exact nomatch carries
  | _ => exact nomatch carries

/-! ### Runs -/

/-- What happens next: a call at some instant, or something inside the executor between two calls. -/
inductive Input (Exec : Type)
  | call (e : Event) (now : U32)
  | moved (x : Exec)

def turn (env : Platform Exec) (w : System Exec) : Input Exec → System Exec
  | .call e now => call env e now w
  | .moved x => { w with exec := x }

/-- Interrupts and services of the executor follow its own relation. -/
def admits (between : Exec → Exec → Prop) (w : System Exec) : Input Exec → Prop
  | .call _ _ => True
  | .moved x => between w.exec x

def Boots (env : Platform Exec) (w : System Exec) : Prop :=
  ∃ config accepted now source exec, w = initialized env config accepted now source exec

def Reachable (env : Platform Exec) (between : Exec → Exec → Prop) (w : System Exec) : Prop :=
  ∃ config accepted now source exec, Logic.Run.Runs (turn env) (admits between)
    (initialized env config accepted now source exec) w

def calls (env : Platform Exec) (events : List (Event × U32)) (w : System Exec) : System Exec :=
  events.foldl (fun w e => call env e.1 e.2 w) w

theorem Reachable.calls {between : Exec → Exec → Prop} {w : System Exec} (reachable : Reachable env between w) (events : List (Event × U32)) :
    Reachable env between (calls env events w) := by
  induction events generalizing w with
  | nil => exact reachable
  | cons e events ih =>
    obtain ⟨config, accepted, time, source, exec, runs⟩ := reachable
    exact ih ⟨config, accepted, time, source, exec, runs.tail ⟨.call e.1 e.2, trivial, rfl⟩⟩

theorem Reachable.call {between : Exec → Exec → Prop} {w : System Exec} (reachable : Reachable env between w) (e : Event)
    (now : U32) : Reachable env between (call env e now w) :=
  reachable.calls [(e, now)]

/-- What the machine relies on when it is told that its output is off. -/
structure Obeys (E : Executor Exec) (between : Exec → Exec → Prop) : Prop where
  disableOk : ∀ x, (E.disable x).1 = .ok
  disableOff : ∀ x, E.outputIsDisabled (E.disable x).2 = true
  snapshotOff : ∀ now x, E.outputIsDisabled x = true → E.outputIsDisabled (E.buildSnapshot now x).2 = true
  postOff : ∀ token request sequence received now x, E.outputIsDisabled x = true →
    E.outputIsDisabled (E.acceptPost token request sequence received now x).2 = true
  betweenOff : ∀ x x', between x x' → E.outputIsDisabled x = true → E.outputIsDisabled x' = true

/-- The relation between calls, on a state with a log. -/
def logged (between : Exec → Exec → Prop) (x x' : Exec × Log) : Prop :=
  between x.1 x'.1 ∧ x'.2 = x.2

theorem Obeys.logged (obeys : Obeys env.executor between) :
    Obeys env.logged.executor (Calls.logged between) where
  disableOk x := obeys.disableOk x.1
  disableOff x := obeys.disableOff x.1
  snapshotOff now x := obeys.snapshotOff now x.1
  postOff token request sequence received now x := obeys.postOff token request sequence received now x.1
  betweenOff x x' moved := obeys.betweenOff x.1 x'.1 moved.1

theorem switch_obeys : Obeys .switch (fun _ _ => False) where
  disableOk _ := rfl
  disableOff _ := rfl
  snapshotOff _ _ off := off
  postOff _ _ _ _ _ _ off := off
  betweenOff _ _ moved := moved.elim

/-! ### Scripts -/

def benchFrame (sequence raw received : Nat) : Sample :=
  ⟨BitVec.ofNat 64 sequence, BitVec.ofNat 32 received, BitVec.ofNat 32 raw, [], raw, true, true⟩

def planning (stage evidence : List U16) : List Event :=
  [.write 6 regPlanBegin 0xB501] ++
    (stage.zipIdx.map fun word => .write 6 (regPlanStage + BitVec.ofNat 16 word.2) word.1) ++
    [.write 6 regPlanCommit 0xC501, .read .holding regPlanActive 6, .read .holding (regPlanActive + 6) 6] ++
    (evidence.zipIdx.map fun word => .write 6 (regPlanAck + BitVec.ofNat 16 word.2) word.1) ++
    [.write 6 regPlanArm 0xA501]

/-- The plan of 3000 N, on which a Build session drives, in the place of a plan of some version. -/
def planning3000 (version : U16) : List Event :=
  planning [17723, 32768, 0, 0, 0, 0, 0, version, 48302, 17445] [0, version + 1, 48302, 17445]

end Sd700.Runs.Calls

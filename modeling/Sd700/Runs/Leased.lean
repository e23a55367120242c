import Sd700.Motor.Sessions
import Sd700.Runs.Projection

/-! The machine over the continuous executor: what the machine does to the executor is a run of the executor, and
every update in that run is fed by the frame the machine was handed in the same call. -/

namespace Sd700.Runs.Leased
open Build.Contract Servo.Config Servo.Controller Servo.State Servo.BuildMachine Servo.Machine Servo.Moves Motor.Interface
  Motor.Continuous Logic.Run Logic.Modular Projection

variable {c : Ceilings} {armed : Bool} {env : Platform State} {w : System State}

/-- The executor of a commissioning build without Build segments. Its failure latches are telemetry and read 0. -/
def executor (c : Ceilings) (armed : Bool) : Executor State where
  snapshot s :=
    ⟨s.logical.lastAction, s.logical.lastCompletion, s.logical.commandMv, s.logical.requestSequence,
      s.boostTimes.startedMs, s.boostTimes.deadlineMs, s.boostTimes.plannedEndMs, s.logical.tim2, s.logical.tim3,
      s.logical.active, !armed, s.bridge.isDisabled, 0, 0⟩
  outputIsDisabled s := s.bridge.isDisabled
  isHealthy s := s.isHealthy armed
  activeRequestIsValid s := s.activeRequestIsValid armed
  continuousExpired s := s.continuousExpired
  continuousBoostCommand token now s := s.boostCommand token now
  buildOwnerValid _ _ := false
  drive := driveCall c armed
  disable s := s.disable
  buildSnapshot _ s := (⟨0, false, 0, .none, 0, 0, 0, 0, .none, false, false⟩, s)
  acceptPost _ _ _ _ _ s := (false, s)

def isDrive : Event → Bool
  | .drive _ => true
  | .disable | .service _ | .guardOutput | .interrupt | .tick => false

theorem step_time {x : State} (sound : x.Sound c) {event : Event} (still : event ≠ .tick) :
    (x.step c armed event).time = x.time := by
  have outcome := State.step_outcome armed sound event
  generalize x.step c armed event = y at outcome ⊢
  cases outcome with
  | same => rfl
  | dark off idle kin kept => exact kin.time
  | accepts ok accepts => exact accepts.time
  | lowers fits commands running short => exact commands.time
  | climbs owned fits step rises forward commands timer => exact commands.time
  | begins fits => rw [State.begins_eq fits]
  | budgets fits => rw [State.budgets_eq fits]
  | boosts fits => rw [State.boosts_eq fits]
  | ends fits => rw [State.ends_eq fits]
  | plans fits => rw [State.plans_eq fits]
  | ticks => exact absurd rfl still

def event : Order → Option Event
  | .drive call => some (.drive call)
  | .disable => some .disable
  | .show_ _ | .offer _ _ _ _ _ => none

theorem order_drive {order : Order} {call : DriveCall} (named : event order = some (.drive call)) :
    order = .drive call := by
  cases order with
  | drive drive =>
    cases named
    rfl
  | _ => cases named

theorem event_still {order : Order} {e : Event} (named : event order = some e) : e ≠ .tick := by
  cases order with
  | drive call =>
    rintro rfl
    cases named
  | disable =>
    rintro rfl
    cases named
  | _ => contradiction

/-- The executor with the loop that serves, guards or disables it, TIM5 and its interrupt. -/
def component (c : Ceilings) (armed : Bool) : Component State Event where
  executor := executor c armed
  step := State.step c armed
  admits := State.admitsEvent
  boots := State.Boots
  time := State.time
  drives := isDrive
  event := event
  obeyed order x := by cases order <;> rfl
  free order e x named := by
    cases order with
    | drive call =>
      cases named
      exact True.intro
    | disable =>
      cases named
      exact True.intro
    | _ => contradiction
  plain order e named driven := by
    cases order with
    | drive call => exact ⟨call, rfl⟩
    | disable =>
      cases named
      contradiction
    | _ => contradiction
  still trace x order e run named := step_time (run_sound run) (event_still named)

instance componentDecidable (c : Ceilings) (armed : Bool) (x : State) (e : Event) :
    Decidable ((component c armed).admits x e) :=
  inferInstanceAs (Decidable (x.admitsEvent e))

theorem component_obeys (c : Ceilings) (armed : Bool) : Calls.Obeys (executor c armed) (Aside (component c armed)) where
  disableOk _ := rfl
  disableOff _ := rfl
  snapshotOff _ _ off := off
  postOff _ _ _ _ _ _ off := off
  betweenOff := by
    rintro s _ ⟨trace, event, run, drives, _, rfl⟩ off
    have outcome := State.step_outcome armed (run_sound run) event
    change (s.step c armed event).bridge.isDisabled = true
    generalize s.step c armed event = t at outcome ⊢
    cases outcome with
    | same => exact off
    | dark off' idle kin kept => exact off'
    | ticks => exact off
    | _ => cases drives

structure Commissions (c : Ceilings) (armed : Bool) (env : Platform State) : Prop where
  runs : env.executor = executor c armed
  commissioning : env.policy.commissioning = true

abbrev Run (c : Ceilings) (armed : Bool) (env : Platform State) :
    List (Turn (System State) (Input Event)) → System State → Prop :=
  Projection.Run (component c armed) env

def Handed (env : Platform State) (past : List (Turn (System State) (Input Event))) (r : ContinuousRequest)
    (turn : Turn State Event) : Prop :=
  ∃ call ∈ past, ∃ p now, call.event = .call (.sample p) now ∧ Measurable env call.before p ∧
    r.sequence = p.sequence ∧ r.received = p.received ∧ turn.before.time = call.before.exec.time

theorem Called.handed (commissions : Commissions c armed env)
    {past : List (Turn (System State) (Input Event))} {turn : Turn State Event} {r : ContinuousRequest}
    (called : Called (component c armed) env past turn) (named : turn.event = .drive (.updateContinuous r)) :
    Handed env past r turn := by
  obtain ⟨call, listed, e, now, entered, within⟩ := called
  obtain ⟨p, rfl, measurable, sequence, received⟩ := within.handed commissions.commissioning (by
    intro order v same given
    rw [named] at same
    obtain rfl := order_drive same
    exact ⟨given.1, given.2.1, given.2.2.1⟩)
  exact ⟨call, listed, p, now, entered, measurable, sequence, received, within.1⟩

/-- The executor has had a run of its own, and every update in it was handed its frame. -/
def Follows (c : Ceilings) (armed : Bool) (env : Platform State)
    (past : List (Turn (System State) (Input Event))) (w : System State) : Prop :=
  ∃ trace, Motor.Continuous.Run c armed trace w.exec ∧ ∀ turn ∈ trace, ∀ r,
    turn.event = .drive (.updateContinuous r) → Handed env past r turn

/-- What the machine does to the executor is a run of the executor, and every update in that run names the valid
frame the machine was handed in the same call. -/
theorem machine_follows (commissions : Commissions c armed env)
    {past : List (Turn (System State) (Input Event))} (run : Run c armed env past w) :
    Follows c armed env past w := by
  obtain ⟨trace, traced, called⟩ := Projection.follows (c := component c armed) commissions.runs run
  refine ⟨trace, traced, ?_⟩
  intro turn listed r named
  apply Called.handed commissions (called turn listed ?_) named
  rw [named]
  rfl

/-- Whenever the output is on, the machine was handed a valid frame in range, at most 20 ms old then, less than 130 ms
of real time ago: a loop that hangs or a sensor that falls silent leaves no output behind. -/
theorem output_fed (commissions : Commissions c armed env)
    {past : List (Turn (System State) (Input Event))} (run : Run c armed env past w)
    (on : outputIsDisabled env w = false) :
    w.exec.timer.armed = true ∧ ∃ call ∈ past, ∃ p now, call.event = .call (.sample p) now ∧
      Measurable env call.before p ∧ (call.before.exec.clock - p.received).toNat ≤ 20 ∧
      w.exec.time / 10 + (call.before.exec.clock - p.received).toNat < call.before.exec.time / 10 + 130 := by
  obtain ⟨trace, traced, handed⟩ := Projection.follows (c := component c armed) commissions.runs run
  have lit : w.exec.bridge.isDisabled = false := by
    unfold outputIsDisabled at on
    rw [commissions.runs] at on
    exact on
  obtain ⟨running, turn, listed, r, sampled, _, young, bound, fresh⟩ := run_recent traced lit
  have driven : (component c armed).drives turn.event = true := by
    rw [sampled.1]
    rfl
  obtain ⟨call, known, p, now, entered, measurable, _, received, time⟩ :=
    Called.handed commissions (handed turn listed driven) sampled.1
  have clock : turn.before.clock = call.before.exec.clock := congrArg (fun time => stamp 32 (time / 10)) time
  unfold State.age at young fresh
  rw [clock, received] at young fresh
  rw [time] at fresh
  exact ⟨running, call, known, p, now, entered, measurable, young, by omega⟩

/-! ### A session that presses -/

/-- The ceilings of a commissioning build that is no characterization build. -/
def commissioned : Ceilings := ⟨9600, 100, 720, 720, 0, false, false⟩

def platform : Platform State := ⟨.commissioned, executor commissioned true, fun _ => 3, ⟨900, 100, 200, false⟩, fun _ => []⟩

def frame (sequence : U64) (received : U32) (force : ℕ) : Input Event :=
  .call (.sample ⟨sequence, received, BitVec.ofNat 32 force, [], force, true, true⟩) received

/-- Boot, a frame, START, the frame that opens the session, and 100 ms later one that makes it press. -/
def pressed : List (Input Event) :=
  [.call (.boot true) 0, frame 1 0 100, .call (.write 5 Modbus.Protocol.coilStart 0xFF00) 0, frame 2 0 100] ++
    List.replicate 1000 (.between .tick) ++ [frame 3 100 100]

def machine : List (Turn (System State) (Input Event)) × System State :=
  play (turn (component commissioned true) platform) ([], initialized platform ⟨900, 100, 200, false⟩ true 0
    Pressure.State.Source.initial cold) pressed

theorem machine_run : Run commissioned true platform machine.1 machine.2 := by
  apply recorded_possible
  · exact .first _ ⟨⟨900, 100, 200, false⟩, true, 0, .initial, cold, ⟨_, _, _, rfl⟩, rfl⟩
  · decide +kernel

theorem platform_commissions : Commissions commissioned true platform := ⟨rfl, rfl⟩

theorem machine_follows_pressed : Follows commissioned true platform machine.1 machine.2 :=
  machine_follows platform_commissions machine_run

theorem output_fed_pressed : ∃ call ∈ machine.1, ∃ p now, call.event = .call (.sample p) now ∧
    machine.2.exec.time / 10 + (call.before.exec.clock - p.received).toNat < call.before.exec.time / 10 + 130 := by
  obtain ⟨_, call, listed, p, now, entered, _, _, fresh⟩ :=
    output_fed platform_commissions machine_run (by decide +kernel)
  exact ⟨call, listed, p, now, entered, fresh⟩

end Sd700.Runs.Leased

import Sd700.Motor.Frames
import Sd700.Runs.Projection

/-! The machine over the Build executor: what the machine does to the executor is a run of the executor, so a bridge
that is on was fed by a frame the machine was handed less than 130 milliseconds ago. -/

namespace Sd700.Runs.Carried
open Build.Contract Servo.Config Servo.State Servo.BuildMachine Servo.Machine Servo.Moves Motor.Interface
  Motor.BuildExecutor Motor.Bridge Logic.Run Logic.Modular Projection

variable {Bridge : Type} {hw : Hardware Bridge} {env : Platform (Device Bridge)} {w : System (Device Bridge)}

def isDrive : Event → Bool
  | .drive _ => true
  | .disable | .shown | .post _ _ _ _ | .service _ | .guardOutput | .interrupt | .tick => false

def event : Order → Option Event
  | .drive call => some (.drive call)
  | .disable => some .disable
  | .show_ _ => some .shown
  | .offer token request sequence received _ => some (.post token request sequence received)

theorem order_drive {order : Order} {call : DriveCall} (named : event order = some (.drive call)) :
    order = .drive call := by
  cases order with
  | drive drive =>
    cases named
    rfl
  | _ => cases named

theorem event_still {order : Order} {e : Event} (named : event order = some e) : e ≠ .tick := by
  cases order with
  | _ =>
    rintro rfl
    cases named

/-- The executor with the loop that serves, guards or disables it, TIM5 and its interrupt. -/
def component (hw : Hardware Bridge) (obeys : StaysOff hw) : Component (Device Bridge) Event where
  executor := executor hw
  step := Device.step hw
  admits := Device.prompt
  boots := Device.Boots hw
  time := Device.time
  drives := isDrive
  event := event
  obeyed order x := by cases order <;> rfl
  free order e x named := by
    cases order with
    | _ =>
      cases named
      exact True.intro
  plain order e named driven := by
    cases order with
    | drive call => exact ⟨call, rfl⟩
    | _ =>
      cases named
      contradiction
  still trace x order e run named :=
    ((Device.step_outcome obeys (Device.run_quiet obeys run) (event_still named)).steady
      (Device.run_quiet obeys run)).time

instance componentDecidable (hw : Hardware Bridge) (obeys : StaysOff hw) (x : Device Bridge) (e : Event) :
    Decidable ((component hw obeys).admits x e) :=
  Device.promptDecidable x e

theorem component_obeys (obeys : Cuts hw) : Calls.Obeys (executor hw) (Aside (component hw obeys.toStaysOff)) where
  disableOk m := (Device.disable_off obeys m).1
  disableOff m := (Device.disable_off obeys m).2
  snapshotOff _ m off := by
    have same : (m.refreshRest hw m.clock).bridge = m.bridge := congrArg (fun t => t.2.1) (Device.refreshRest_outline m m.clock)
    change hw.isDisabled (m.refreshRest hw m.clock).bridge = true
    rw [same]
    exact off
  postOff token request sequence received _ _ off := Device.acceptBuildPost_off obeys token request sequence received off
  betweenOff := by
    rintro m _ ⟨trace, event, run, drives, _, rfl⟩ off
    have sound : m.Sound hw := ⟨Device.run_quiet obeys.toStaysOff run, fun on => by
      rw [show hw.isDisabled m.bridge = true from off] at on
      contradiction⟩
    by_cases still : event = .tick
    · rw [still]
      exact off
    · rcases Device.step_lit obeys sound still with kept | ⟨received, ⟨call, driven, _⟩, _⟩
      · exact kept.off off
      · change event = .drive call at driven
        rw [driven] at drives
        contradiction

/-- A Build build that drives, over this executor. -/
structure Commissions (hw : Hardware Bridge) (env : Platform (Device Bridge)) : Prop where
  runs : env.executor = executor hw
  commissioning : env.policy.commissioning = true
  build : env.policy.buildToTarget = true

def InRange (p : Sample) : Prop := p.frameValid = true ∧ p.controlUnitsValid = true ∧ p.raw ≤ 3000

theorem run_later (obeys : Cuts hw) (commissions : Commissions hw env)
    {past : List (Turn (System (Device Bridge)) (Input Event))}
    (run : Projection.Run (component hw obeys.toStaysOff) env past w) :
    ∀ call ∈ past, call.before.exec.time ≤ w.exec.time :=
  Projection.run_later commissions.runs
    (fun _ _ event traced => Device.step_later obeys.toStaysOff (Device.run_quiet obeys.toStaysOff traced) event) run

/-- A drive call that was fed within a call of the machine was fed by a frame that call handed in. -/
theorem Called.handed (commissions : Commissions hw env) {obeys : StaysOff hw}
    {past : List (Turn (System (Device Bridge)) (Input Event))} {turn : Turn (Device Bridge) Event} {received : U32}
    (called : Called (component hw obeys) env past turn) (fed : Device.Fed hw turn received) :
    ∃ call ∈ past, ∃ p now, call.event = .call (.sample p) now ∧ InRange p ∧ received = p.received ∧
      turn.before.time = call.before.exec.time := by
  obtain ⟨call, known, e, now, entered, within⟩ := called
  obtain ⟨drive, driven, framed, _⟩ := fed
  have handed : ∃ sequence p, e = .sample p ∧ Measurable env call.before p ∧ sequence = p.sequence ∧
      received = p.received := by
    cases drive with
    | startSegment token request sequence at_ when =>
      cases framed
      refine ⟨sequence, within.handed commissions.commissioning ?_⟩
      intro order v same given
      rw [driven] at same
      obtain rfl := order_drive same
      exact ⟨given.1, given.2.1, given.2.2.1⟩
    | refreshFeedback token sequence at_ when =>
      cases framed
      refine ⟨sequence, within.handed commissions.commissioning ?_⟩
      intro order v same given
      rw [driven] at same
      obtain rfl := order_drive same
      exact ⟨given.1, given.2.1, given.2.2.1⟩
    | _ => cases framed
  obtain ⟨_, p, rfl, ⟨valid, units, range⟩, _, same⟩ := handed
  rw [commissions.build, if_pos rfl] at range
  exact ⟨call, known, p, now, entered, ⟨valid, units, range⟩, same, within.1⟩

/-- A bridge that is on was fed within a call of the machine, by a frame that is not 130 milliseconds old yet. -/
theorem lit_called (obeys : Cuts hw) (commissions : Commissions hw env)
    {past : List (Turn (System (Device Bridge)) (Input Event))}
    (run : Projection.Run (component hw obeys.toStaysOff) env past w) (on : outputIsDisabled env w = false) :
    w.exec.timer.armed = true ∧ ∃ turn received, Called (component hw obeys.toStaysOff) env past turn ∧
      Device.Fed hw turn received ∧ (turn.before.clock - received).toNat ≤ 20 ∧
      w.exec.time / 10 + (turn.before.clock - received).toNat < turn.before.time / 10 + 130 := by
  obtain ⟨trace, traced, called⟩ := Projection.follows (c := component hw obeys.toStaysOff) commissions.runs run
  have lit : hw.isDisabled w.exec.bridge = false := by
    unfold outputIsDisabled at on
    rw [commissions.runs] at on
    exact on
  obtain ⟨armed, turn, listed, received, fed, young, fresh⟩ := (Device.run_dated obeys traced).recent lit
  have drives : (component hw obeys.toStaysOff).drives turn.event = true := by
    obtain ⟨drive, driven, _⟩ := fed
    rw [driven]
    rfl
  exact ⟨armed, turn, received, called turn listed drives, fed, young, fresh⟩

/-- A bridge that is on was fed by a valid frame, in range and at most 20 ms old when the machine was handed it, less
than 130 ms of real time ago, and TIM5 is armed behind it. -/
theorem output_carried (obeys : Cuts hw) (commissions : Commissions hw env)
    {past : List (Turn (System (Device Bridge)) (Input Event))}
    (run : Projection.Run (component hw obeys.toStaysOff) env past w) (on : outputIsDisabled env w = false) :
    w.exec.timer.armed = true ∧ ∃ call ∈ past, ∃ p now, call.event = .call (.sample p) now ∧ InRange p ∧
      (call.before.exec.clock - p.received).toNat ≤ 20 ∧
      w.exec.time / 10 + (call.before.exec.clock - p.received).toNat < call.before.exec.time / 10 + 130 := by
  obtain ⟨armed, turn, received, called, fed, young, fresh⟩ := lit_called obeys commissions run on
  obtain ⟨call, known, p, now, entered, range, rfl, time⟩ := Called.handed commissions called fed
  have clock : turn.before.clock = call.before.exec.clock := congrArg (fun time => stamp 32 (time / 10)) time
  rw [clock] at young fresh
  rw [time] at fresh
  exact ⟨armed, call, known, p, now, entered, range, young, fresh⟩

/-! ### A session that approaches -/

def waited (ticks : ℕ) (w : System (Device Bridge)) : System (Device Bridge) :=
  { w with exec := { w.exec with time := w.exec.time + ticks } }

theorem waited_tick (idle : w.exec.timer.enabled = false) (ticks : ℕ) :
    { waited ticks w with exec := (waited ticks w).exec.step hw .tick } = waited (ticks + 1) w := by
  unfold waited
  change { w with exec := ({ w.exec with time := w.exec.time + ticks } : Device Bridge).elapse 1 } = _
  unfold Device.elapse
  dsimp only
  rw [Motor.Timer.StopTimer.elapse_stopped idle, Nat.add_assoc]

theorem calm_closed {x : Device Bridge} (closed : x.timer.line = false) : x.raised = false := by
  unfold Device.raised
  rw [closed]
  rfl

theorem run_rested {obeys : StaysOff hw} {past : List (Turn (System (Device Bridge)) (Input Event))}
    (run : Projection.Run (component hw obeys) env past w) (idle : w.exec.timer.enabled = false)
    (closed : w.exec.timer.line = false) (ticks : ℕ) :
    ∃ past, Projection.Run (component hw obeys) env past (waited ticks w) := by
  induction ticks with
  | zero => exact ⟨past, run⟩
  | succ ticks ih =>
    obtain ⟨rest, rested⟩ := ih
    have next := Recorded.turn (Input.between Event.tick) rested ⟨rfl, calm_closed closed⟩
    rw [show turn (component hw obeys) env (waited ticks w) (.between .tick) = waited (ticks + 1) w from
      @waited_tick _ hw w idle ticks] at next
    exact ⟨_, next⟩

def platform : Platform (Device Registers) :=
  ⟨.toTarget, executor (.board true), id, ⟨900, 100, 200, false⟩, fun _ => []⟩

theorem platform_commissions : Commissions (.board true) platform := ⟨rfl, rfl, rfl⟩

abbrev board : Component (Device Registers) Event := component (.board true) (board_cuts true).toStaysOff

def planned : List (Input Event) :=
  [.call (.boot true) 0] ++ (Calls.planning3000 0).map fun e => .call e 2

def frame (sequence raw received : ℕ) : Input Event :=
  .call (.sample (Calls.benchFrame sequence raw received)) (BitVec.ofNat 32 received)

/-- A frame, START, the frame that opens the session with an approach, and 10 ms later one that renews it. -/
def approached : List (Input Event) :=
  [frame 1 5 108000, .call (.write 5 Modbus.Protocol.coilStart 0xFF00) 108000, frame 2 5 108000] ++
    List.replicate 100 (.between .tick) ++ [frame 3 5 108010]

def first : System (Device Registers) :=
  initialized platform ⟨900, 100, 200, false⟩ true 0 Pressure.State.Source.initial Device.cold

def armed : System (Device Registers) := (play (turn board platform) ([], first) planned).2

def rested : System (Device Registers) := waited 1080000 armed

def machine : System (Device Registers) := (play (turn board platform) ([], rested) approached).2

theorem machine_run : ∃ past, Projection.Run board platform past machine := by
  have starts : Projection.Run board platform [] first :=
    .first _ ⟨⟨900, 100, 200, false⟩, true, 0, .initial, Device.cold, ⟨true, _, 0, rfl⟩, rfl⟩
  have free : possible (turn board platform) (admits board) first planned = true := by decide +kernel
  have plans : Projection.Run board platform (play (turn board platform) ([], first) planned).1 armed :=
    @recorded_possible _ _ _ _ _ _ planned ([], first) starts free
  obtain ⟨past, rests⟩ := run_rested plans (by decide +kernel) (by decide +kernel) 1080000
  have prompt : possible (turn board platform) (admits board) rested approached = true := by decide +kernel
  have drives := @recorded_possible _ _ _ _ _ _ approached (past, rested) rests prompt
  rw [play_append] at drives
  dsimp only at drives
  exact ⟨_, drives⟩

theorem output_carried_approached : ∃ past : List (Turn (System (Device Registers)) (Input Event)), ∃ call ∈ past,
    ∃ p now, call.event = .call (.sample p) now ∧ InRange p ∧
      machine.exec.time / 10 + (call.before.exec.clock - p.received).toNat < call.before.exec.time / 10 + 130 := by
  obtain ⟨past, run⟩ := machine_run
  have on : outputIsDisabled platform machine = false := by decide +kernel
  obtain ⟨_, call, listed, p, now, entered, range, _, fresh⟩ :=
    output_carried (board_cuts true) platform_commissions run on
  exact ⟨past, call, listed, p, now, entered, range, fresh⟩

end Sd700.Runs.Carried

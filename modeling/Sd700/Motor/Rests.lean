import Sd700.Logic.Run
import Sd700.Motor.Exposure

/-! Whole runs of the Build executor: a new epoch needs a full rest of the bridge, and an epoch has one approach. -/

namespace Sd700.Motor.BuildExecutor
open Build.Contract Interface Logic.Modular Logic.Run Timer Bridge

variable {Bridge : Type} {hw : Hardware Bridge}

/-- What happens to the executor: a call of the program, the interrupt of TIM5, or one of its counts. -/
inductive Event
  | drive (call : DriveCall)
  | disable
  | shown
  | post (token request : U32) (sequence : U64) (received : U32)
  | service (now : U32)
  | guardOutput
  | interrupt
  | tick

namespace Device

variable {m n : Device Bridge}

def step (hw : Hardware Bridge) (m : Device Bridge) : Event → Device Bridge
  | .drive call => (driveCall hw call m).2
  | .disable => (m.disable hw).2
  | .shown => (m.getBuildSnapshot hw).2
  | .post token request sequence received => (m.acceptBuildPost hw token request sequence received).2
  | .service now => (m.service hw now).2
  | .guardOutput => (m.guardOutput hw).2
  | .interrupt => m.irqHandler hw
  | .tick => m.elapse 1

def Boots (hw : Hardware Bridge) (m : Device Bridge) : Prop :=
  ∃ clockValid bridge time, m = initial hw clockValid bridge time

theorem drive_outcome (obeys : StaysOff hw) (quiet : m.Quiet hw) (call : DriveCall) :
    Outcome hw m (driveCall hw call m).2 := by
  cases call with
  | beginBuild now => exact beginBuild_outcome quiet
  | startSegment token request sequence received now =>
    exact startBuildSegment_outcome obeys quiet token request sequence received
  | endSegment token now => exact .calm (endBuildSegment_calm obeys quiet token)
  | refreshFeedback token sequence received now =>
    exact .calm (refreshBuildFeedback_calm obeys quiet token sequence received)
  | _ => exact .calm (.refl quiet)

theorem step_outcome (obeys : StaysOff hw) (quiet : m.Quiet hw) {event : Event} (still : event ≠ .tick) :
    Outcome hw m (m.step hw event) := by
  cases event with
  | drive call => exact drive_outcome obeys quiet call
  | disable => exact .calm (disable_calm obeys quiet)
  | shown => exact .refreshed (.refl (refreshRest_steady quiet).quiet)
  | post token request sequence received =>
    exact .calm (acceptBuildPost_calm obeys quiet token request sequence received)
  | service now => exact .calm (service_calm obeys quiet now)
  | guardOutput => exact .calm (guardOutput_calm obeys quiet)
  | interrupt => exact .calm (irqHandler_calm obeys quiet)
  | tick => exact absurd rfl still

theorem Outcome.steady (quiet : m.Quiet hw) (outcome : Outcome hw m n) : Steady hw m n := by
  cases outcome with
  | calm calm => exact calm.steady
  | refreshed calm => exact (refreshRest_steady quiet).trans calm.steady

/-- Unless the bridge has rested for a new epoch, the epoch stays and no allowance comes back. -/
theorem Outcome.bound (outcome : Outcome hw m n) :
    Bound m n ∨ (Rested hw m ∧ n.build.epoch = m.build.epoch + 1) := by
  cases outcome with
  | calm calm => exact .inl calm.bound
  | refreshed calm =>
    rcases @refreshRest_bound _ hw m with bound | ⟨rested, next, _⟩
    · exact .inl (bound.trans calm.bound)
    · exact .inr ⟨rested, calm.bound.epoch.trans next⟩

theorem tick_steady (quiet : m.Quiet hw) : (m.elapse 1).Quiet hw := ⟨quiet.off, quiet.pressing⟩

theorem step_quiet (obeys : StaysOff hw) (quiet : m.Quiet hw) (event : Event) : (m.step hw event).Quiet hw := by
  by_cases tick : event = .tick
  · rw [tick]
    exact tick_steady quiet
  · exact ((step_outcome obeys quiet tick).steady quiet).quiet

theorem step_later (obeys : StaysOff hw) (quiet : m.Quiet hw) (event : Event) : m.time ≤ (m.step hw event).time := by
  by_cases tick : event = .tick
  · rw [tick]
    exact Nat.le_succ _
  · exact ((step_outcome obeys quiet tick).steady quiet).time.ge

theorem step_bound (obeys : StaysOff hw) (quiet : m.Quiet hw) (event : Event) :
    Bound m (m.step hw event) ∨ (Rested hw m ∧ (m.step hw event).build.epoch = m.build.epoch + 1) := by
  by_cases tick : event = .tick
  · rw [tick]
    exact .inl ⟨rfl, id, id⟩
  · exact (step_outcome obeys quiet tick).bound

theorem boots_quiet (obeys : StaysOff hw) (boots : Boots hw m) : m.Quiet hw := by
  obtain ⟨clockValid, bridge, time, rfl⟩ := boots
  refine ⟨?_, fun active => by contradiction⟩
  intro verified
  have started := obeys.initializes _ verified
  unfold initial
  dsimp only
  split
  · exact started
  · exact obeys.disables _ started

/-! ### The streak of a bridge that is off -/

/-- The millisecond since which every state between two events has shown the bridge off. -/
def offSince (hw : Hardware Bridge) : List (Turn (Device Bridge) Event) → Device Bridge → Option ℕ
  | [], m => if hw.isDisabled m.bridge then some (m.time / 10) else none
  | turn :: past, m =>
    if hw.isDisabled m.bridge then some ((offSince hw past turn.before).getD (m.time / 10)) else none

/-- The rest clock shows no more than the streak. -/
structure Streak (hw : Hardware Bridge) (past : List (Turn (Device Bridge) Event)) (m : Device Bridge) : Prop where
  past_ : ∀ since, offSince hw past m = some since → since ≤ m.time / 10
  shown : m.offVerified = true → ∃ since start, offSince hw past m = some since ∧ since ≤ start ∧
    start ≤ m.time / 10 ∧ m.offAt = stamp 32 start

variable {admits : Device Bridge → Event → Prop} {past : List (Turn (Device Bridge) Event)}

theorem boots_streak (boots : Boots hw m) (quiet : m.Quiet hw) : Streak hw [] m := by
  constructor
  · intro since begun
    unfold offSince at begun
    split at begun
    · exact le_of_eq (Option.some.inj begun).symm
    · contradiction
  · intro verified
    refine ⟨m.time / 10, m.time / 10, if_pos (quiet.off verified), le_rfl, le_rfl, ?_⟩
    obtain ⟨clockValid, bridge, time, rfl⟩ := boots
    rfl

theorem streak_step (obeys : StaysOff hw) (quiet : m.Quiet hw) (streak : Streak hw past m) (event : Event) :
    Streak hw (⟨m, event, m.step hw event⟩ :: past) (m.step hw event) := by
  have later : m.time / 10 ≤ (m.step hw event).time / 10 := Nat.div_le_div_right (step_later obeys quiet event)
  constructor
  · intro since begun
    unfold offSince at begun
    split at begun
    · rw [← Option.some.inj begun]
      dsimp only
      cases before : offSince hw past m with
      | none => exact le_rfl
      | some first => exact (streak.past_ first before).trans later
    · contradiction
  intro verified
  have off := (step_quiet obeys quiet event).off verified
  have continues (since : ℕ) (before : offSince hw past m = some since) :
      offSince hw (⟨m, event, m.step hw event⟩ :: past) (m.step hw event) = some since := by
    unfold offSince
    rw [if_pos off]
    dsimp only
    rw [before]
    rfl
  by_cases tick : event = .tick
  · rw [tick] at continues later verified ⊢
    obtain ⟨since, start, before, first, last, shown⟩ := streak.shown verified
    exact ⟨since, start, continues since before, first, last.trans later, shown⟩
  have steady := (step_outcome obeys quiet tick).steady quiet
  rcases steady.kept verified with fresh | ⟨before, same⟩
  · cases begun : offSince hw past m with
    | none =>
      refine ⟨m.time / 10, m.time / 10, ?_, le_rfl, later, fresh⟩
      unfold offSince
      rw [if_pos off]
      dsimp only
      rw [begun, steady.time]
      rfl
    | some since => exact ⟨since, m.time / 10, continues since begun, streak.past_ since begun, later, fresh⟩
  · obtain ⟨since, start, begun, first, last, shown⟩ := streak.shown before
    exact ⟨since, start, continues since begun, first, last.trans later, same.trans shown⟩

/-- The runs of the executor from its start, whichever orders of events they admit. -/
abbrev Run (hw : Hardware Bridge) (admits : Device Bridge → Event → Prop) :
    List (Turn (Device Bridge) Event) → Device Bridge → Prop :=
  Recorded (step hw) admits (Boots hw)

theorem run_quiet (obeys : StaysOff hw) (run : Run hw admits past m) : m.Quiet hw :=
  recorded_invariant (fun _ m => m.Quiet hw) (fun _ boots => boots_quiet obeys boots)
    (fun _ _ event _ _ quiet => step_quiet obeys quiet event) run

theorem run_streak (obeys : StaysOff hw) (run : Run hw admits past m) : Streak hw past m :=
  recorded_invariant (Streak hw) (fun _ boots => boots_streak boots (boots_quiet obeys boots))
    (fun _ _ event recorded _ streak => streak_step obeys (run_quiet obeys recorded) streak event) run

theorem Rested.streak (rested : Rested hw m) (streak : Streak hw past m) :
    ∃ since, offSince hw past m = some since ∧ since + 108000 ≤ m.time / 10 := by
  obtain ⟨verified, long, _⟩ := rested
  unfold confirmOff at verified long
  by_cases on : ¬ hw.isDisabled m.bridge
  · rw [if_pos on] at verified
    contradiction
  rw [if_neg on] at verified long
  by_cases unverified : ¬ m.offVerified
  · rw [if_pos unverified] at long
    have none_ : m.clock - m.clock = 0#32 := BitVec.sub_self _
    rw [show m.clock - _ = 0#32 from none_] at long
    contradiction
  rw [if_neg unverified] at verified long
  obtain ⟨since, start, begun, first, last, shown⟩ := streak.shown verified
  refine ⟨since, begun, ?_⟩
  rw [shown] at long
  have rest : (108000#32 : U32).toNat ≤ (m.clock - stamp 32 start).toNat := long
  unfold clock stamp at rest
  rw [BitVec.toNat_sub, BitVec.toNat_ofNat, BitVec.toNat_ofNat, BitVec.toNat_ofNat] at rest
  omega

/-! ### Epochs -/

def Renews (turn : Turn (Device Bridge) Event) : Prop := turn.after.build.epoch ≠ turn.before.build.epoch

/-- A new epoch is the next one, and the bridge has been off for 108 seconds on end before it. -/
theorem epoch_rests (obeys : StaysOff hw) {event : Event} (run : Run hw admits (⟨m, event, n⟩ :: past) n)
    (renews : Renews ⟨m, event, n⟩) :
    n.build.epoch = m.build.epoch + 1 ∧ ∃ since, offSince hw past m = some since ∧ since + 108000 ≤ m.time / 10 := by
  obtain ⟨recorded, same, _⟩ := @Recorded.at_turn _ _ _ _ _ [] _ _ _ run
  change Run hw admits past m at recorded
  change n = m.step hw event at same
  rw [same] at renews ⊢
  rcases step_bound obeys (run_quiet obeys recorded) event with bound | ⟨rested, next⟩
  · exact absurd bound.epoch renews
  · exact ⟨next, rested.streak (run_streak obeys recorded)⟩

def Approached (hw : Hardware Bridge) (turn : Turn (Device Bridge) Event) : Prop :=
  ∃ token r sequence received now, turn.event = .drive (.startSegment token r sequence received now) ∧
    r.phase = .approach ∧ (turn.before.startBuildSegment hw token r sequence received).1 = .ok

theorem approach_spends (quiet : m.Quiet hw) {token : U32} {r : Request} {sequence : U64} {received : U32}
    (approach : r.phase = .approach) (ok : (m.startBuildSegment hw token r sequence received).1 = .ok) :
    (m.startBuildSegment hw token r sequence received).2.spent ∧ ¬ (m.refreshRest hw m.clock).spent ∧
      (m.startBuildSegment hw token r sequence received).2.build.epoch = (m.refreshRest hw m.clock).build.epoch := by
  obtain ⟨duty, taken, accepted⟩ := start_ok ok
  obtain ⟨timer, same⟩ := takesOver_ok (congrArg Prod.fst accepted.takes)
  have keeps : taken = { m.refreshRest hw m.clock with timer := timer } :=
    (congrArg Prod.snd accepted.takes).symm.trans same
  have energized := accepted.energized
  have owned : (taken.giveWay r m.clock).owned = true := energized.owned
  have refreshed := Calm.refl (refreshRest_steady quiet).quiet
  have settled : Calm hw (m.refreshRest hw m.clock) taken := by
    rw [keeps]
    exact refreshed.same rfl
  have given := (giveWay_calm settled.quiet r m.clock).bound
  refine ⟨?_, ?_, ?_⟩
  · have spends := @book_spends _ (taken.giveWay r m.clock) r approach sequence received m.clock
    unfold startBuildSegment
    rw [energized.same]
    exact spends
  · intro spent
    have still : taken.spent := by
      rw [keeps]
      exact spent
    rcases given.spent still with rest | reserved
    · rw [giveWay_rest owned, keeps] at rest
      change (m.refreshRest hw m.clock).restRequired = true at rest
      rw [accepted.rested] at rest
      contradiction
    · exact accepted.left approach (.inl reserved)
  · unfold startBuildSegment
    rw [energized.same]
    exact given.epoch.trans settled.bound.epoch

/-- Until the next epoch, an accepted approach leaves no allowance. -/
theorem run_spent (obeys : StaysOff hw) (run : Run hw admits past m) (since : Since (Approached hw) Renews past) :
    m.spent := by
  have invariant := recorded_invariant (fun past m => Since (Approached hw) Renews past → m.spent)
    (fun _ _ none_ => none_.elim) ?_ run
  · exact invariant since
  intro past m event recorded _ spent since
  have quiet := run_quiet obeys recorded
  rcases since with ⟨token, r, sequence, received, now, started, approach, ok⟩ | ⟨same, before⟩
  · change event = _ at started
    rw [started]
    exact (approach_spends quiet approach ok).1
  · rcases step_bound obeys quiet event with bound | ⟨_, next⟩
    · exact bound.spent (spent before)
    · exact absurd (next.trans_ne (by simp)) same

/-- Between two accepted approaches, the second one's turn included, a new epoch has begun. -/
theorem approach_once (obeys : StaysOff hw) {later between earlier : List (Turn (Device Bridge) Event)}
    {first second : Turn (Device Bridge) Event}
    (run : Run hw admits (later ++ second :: (between ++ first :: earlier)) m) (before : Approached hw first)
    (again : Approached hw second) : ∃ turn ∈ second :: between, Renews turn := by
  obtain ⟨recorded, same, _⟩ := run.at_turn
  have quiet := run_quiet obeys recorded
  by_contra none_
  push Not at none_
  have since : Since (Approached hw) Renews (between ++ first :: earlier) :=
    .intro before (fun turn listed => none_ turn (List.mem_cons_of_mem second listed))
  have spent := run_spent obeys recorded since
  obtain ⟨token, r, sequence, received, now, started, approach, ok⟩ := again
  obtain ⟨_, left, epoch⟩ := approach_spends quiet approach ok
  rcases @refreshRest_bound _ hw second.before with bound | ⟨_, next, _⟩
  · exact left (bound.spent spent)
  apply none_ second List.mem_cons_self
  unfold Renews
  rw [same, started]
  change (second.before.startBuildSegment hw token r sequence received).2.build.epoch ≠ _
  rw [epoch, next]
  simp

/-! ### A run with two approaches -/

theorem run_rested {past : List (Turn (Device Bridge) Event)} (run : Run hw admits past m)
    (idle : m.timer.enabled = false) (free : ∀ time, admits { m with time := time } .tick) (ticks : ℕ) :
    ∃ rest, Run hw admits (rest ++ past) { m with time := m.time + ticks } := by
  induction ticks with
  | zero => exact ⟨[], run⟩
  | succ ticks ih =>
    obtain ⟨rest, rested⟩ := ih
    have next := Recorded.turn Event.tick rested (free _)
    have same : step hw { m with time := m.time + ticks } .tick = { m with time := m.time + (ticks + 1) } := by
      change ({ m with time := m.time + ticks } : Device Bridge).elapse 1 = _
      unfold elapse
      dsimp only
      rw [StopTimer.elapse_stopped idle, Nat.add_assoc]
    rw [same] at next
    exact ⟨_ :: rest, next⟩

def cold : Device Registers := initial (.board true) true ⟨false, false, false, false, 0, 0, false, false, false, false⟩ 0

def warmed : Device Registers := { cold with time := 1080000 }

theorem warmed_run {admits : Device Registers → Event → Prop} (free : ∀ time, admits { cold with time := time } .tick) :
    ∃ past, Run (.board true) admits past warmed := by
  have first : Run (.board true) admits [] cold := .first _ ⟨true, _, 0, rfl⟩
  obtain ⟨rest, run⟩ := run_rested first rfl free 1080000
  exact ⟨rest ++ [], run⟩

theorem epoch_rests_warmed : ∃ past since, offSince (.board true) past warmed = some since ∧
    since + 108000 ≤ warmed.time / 10 := by
  obtain ⟨past, run⟩ := @warmed_run (fun _ _ => True) (fun _ => trivial)
  exact ⟨past, (epoch_rests (board_staysOff true) (run.turn .shown trivial) (by unfold Renews; decide +kernel)).2⟩

/-- An approach towards 1000 N on a frame received at this millisecond. -/
def approach (token : U32) (sequence : U64) (received : U32) : Event :=
  .drive (.startSegment token ⟨.approach, 5000, 0, 0, .coarse, 0, 0, 0, 1000, false⟩ sequence received received)

def begun : Device Registers := warmed.step (.board true) (.drive (.beginBuild 0))

def halted : Device Registers := (begun.step (.board true) (approach 1 1 108000)).step (.board true) .disable

def again : Device Registers := { halted with time := halted.time + 1080000 }.step (.board true) (.drive (.beginBuild 0))

theorem approach_once_again : ∃ between : List (Turn (Device Registers) Event),
    ∃ turn ∈ ⟨again, approach 2 1 216000, again.step (.board true) (approach 2 1 216000)⟩ :: between, Renews turn := by
  obtain ⟨past, run⟩ := @warmed_run (fun _ _ => True) (fun _ => trivial)
  have run := (run.turn (.drive (.beginBuild 0)) trivial).turn (approach 1 1 108000) trivial
  have run := run.turn .disable trivial
  obtain ⟨rest, run⟩ := run_rested run (by decide +kernel) (fun _ => trivial) 1080000
  rw [List.append_cons] at run
  have run := (run.turn (.drive (.beginBuild 0)) trivial).turn (approach 2 1 216000) trivial
  have both := @approach_once _ (.board true) _ _ (board_staysOff true) [] (_ :: rest ++ [_]) _ _ _ run
    ⟨1, _, 1, 108000, 108000, rfl, rfl, by decide +kernel⟩ ⟨2, _, 1, 216000, 216000, rfl, rfl, by decide +kernel⟩
  exact ⟨_, both⟩

end Device

end Sd700.Motor.BuildExecutor

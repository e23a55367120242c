import Sd700.Logic.Run
import Sd700.Motor.Samples

/-! The lease behind a continuous output: whatever the program calls, and however its calls fall between the counts
and the interrupt of TIM5, an output is on only while the lease of an accepted sample runs. -/

namespace Sd700.Motor.Continuous
open Build.Contract Logic.Modular Logic.Checks Interface Bridge Timer Locked Unlocked

namespace State
variable {c : Ceilings} {armed : Bool} {s t : State}

/-! ### The deadlines hold -/

theorem near_of_not_reached {deadline clock : U32} (early : ¬Reached clock deadline) : (deadline - clock).toNat ≤ 2 ^ 31 := by
  unfold Reached at early
  rw [BitVec.toNat_sub] at *
  have one := clock.isLt
  have two := deadline.isLt
  omega

theorem leased_of_running {remaining : U32} (running : Running remaining t.timer) (isOpen : t.session.isOpen = true)
    (sequenced : t.session.hasSequence = true) (settled : t.pending = none) (active : t.logical.active = true)
    (continuous : t.logical.lastAction = .continuous)
    (planned : Planned c t.session.committed t.logical.tim2 t.logical.tim3)
    (driven : t.bridge.matchesPlan t.logical.tim2 t.logical.tim3 = true)
    (short : remaining ≤ t.session.receiveDeadline - t.clock) (near : (t.session.receiveDeadline - t.clock).toNat ≤ 130)
    (session : t.session.limited = true →
      remaining ≤ t.session.deadline - t.clock ∧ (t.session.deadline - t.clock).toNat ≤ 2 ^ 31) : t.Leased c where
  isOpen := isOpen
  sequenced := sequenced
  settled := settled
  active := active
  continuous := continuous
  healthy := running.healthy
  enabled := running.enabled
  interrupts := running.interrupts
  line := running.line
  repeats := running.repeats
  reload := running.reload
  ahead := running.counting.ahead
  planned := planned
  driven := driven
  receive := running.before short (Nat.le_trans near (by decide))
  near := near
  session limited := running.before (session limited).1 (session limited).2

theorem receive_left (s : State) (r : ContinuousRequest) : r.received + r.leaseMs - s.clock = r.leaseMs - s.age r := by
  unfold age
  rw [sub_sub_eq_add_sub, add_comm]

theorem age_lt {r : ContinuousRequest} (admitted : s.admits c armed r) :
    (s.age r).toNat < r.leaseMs.toNat ∧ (s.age r).toNat ≤ 20 ∧ r.leaseMs.toNat ≤ 130 := by
  obtain ⟨_, ceiling, _, timed, _⟩ := admitted
  unfold overCeiling at ceiling
  unfold illTimed at timed
  push Not at ceiling timed
  have fresh : (s.age r).toNat ≤ r.maxAgeMs.toNat := BitVec.not_lt.mp timed.2.2.2.1
  have longer : r.maxAgeMs.toNat < r.leaseMs.toNat := BitVec.not_le.mp timed.2.2.1
  have bound : r.leaseMs.toNat ≤ 130 := BitVec.not_lt.mp ceiling.2.2.2.1
  have old : r.maxAgeMs.toNat ≤ 20 := BitVec.not_lt.mp ceiling.2.2.2.2.1
  omega

theorem lease_left {r : ContinuousRequest} (admitted : s.admits c armed r) :
    (r.leaseMs - s.age r).toNat = r.leaseMs.toNat - (s.age r).toNat := by
  obtain ⟨fresh, _, bound⟩ := age_lt admitted
  exact BitVec.toNat_sub_of_le (show (s.age r).toNat ≤ r.leaseMs.toNat by omega)

theorem Accepts.leased {r : ContinuousRequest} (sound : s.Sound c) (accepts : s.Accepts c armed r t) : t.Leased c := by
  obtain ⟨remaining, running, short, _⟩ := accepts.lease
  have clock : t.clock = s.clock := congrArg (fun time => stamp 32 (time / 10)) accepts.time
  have owner := (not_not.mp (not_or.mp accepts.owned).1).1
  have session := accepts.session
  have receive : t.session.receiveDeadline - t.clock = r.leaseMs - s.age r := by
    rw [session, clock]
    exact receive_left s r
  have admitted := accepts.admitted
  apply leased_of_running running _ _ accepts.settled accepts.active accepts.continuous
  · rw [session]
    exact accepts.planned
  · exact accepts.driven
  · rw [receive]
    exact BitVec.le_trans short (grant_le s _)
  · rw [receive, lease_left admitted]
    have bound := (age_lt admitted).2.2
    omega
  · intro limited
    rw [session] at limited ⊢
    rw [clock]
    refine ⟨BitVec.le_trans short (grant_session limited _), near_of_not_reached ?_⟩
    intro reached
    exact admitted.1 ⟨sound.limited limited, Or.inl ⟨limited, reached⟩⟩
  · rw [session]
    exact owner
  · rw [session]
    rfl

theorem sound_of_leased (leased : t.Leased c) (running : t.timer.armed = true)
    (limited : t.session.limited = true → t.session.budgetSet = true) (configured : t.bridge.configured = true) :
    t.Sound c :=
  ⟨fun _ => leased, fun _ => running, limited, configured⟩

theorem Accepts.sound {r : ContinuousRequest} (sound : s.Sound c) (accepts : s.Accepts c armed r t) : t.Sound c := by
  obtain ⟨remaining, running, _⟩ := accepts.lease
  apply sound_of_leased (accepts.leased sound) running.armed _ accepts.configured
  rw [accepts.session]
  exact sound.limited

/-! ### What no way out touches -/

structure Kin (s t : State) : Prop where
  time : t.time = s.time
  generation : t.session.generation = s.session.generation
  limited : t.session.limited = s.session.limited
  budgetSet : t.session.budgetSet = s.session.budgetSet
  boostUsed : t.session.boostUsed = s.session.boostUsed
  configured : t.bridge.configured = s.bridge.configured

variable {u : State}

theorem Kin.refl (s : State) : Kin s s := ⟨rfl, rfl, rfl, rfl, rfl, rfl⟩

theorem Kin.trans (first : Kin s t) (then_ : Kin t u) : Kin s u :=
  ⟨then_.time.trans first.time, then_.generation.trans first.generation, then_.limited.trans first.limited,
    then_.budgetSet.trans first.budgetSet, then_.boostUsed.trans first.boostUsed,
    then_.configured.trans first.configured⟩

theorem irqHandler_kin (s : State) : Kin s s.irqHandler := by
  unfold irqHandler
  by_cases stopped : ¬s.timer.armed
  · rw [if_pos stopped]
    exact ⟨rfl, rfl, rfl, rfl, rfl, rfl⟩
  · rw [if_neg stopped]
    exact ⟨rfl, rfl, rfl, rfl, rfl, rfl⟩

theorem commitArm_kin (s : State) : Kin s s.commitArm.2 := by
  unfold commitArm
  by_cases sick : ¬s.timer.armed ∨ ¬s.timer.healthy
  · rw [if_pos sick]
    exact Kin.refl s
  rw [if_neg sick]
  by_cases flagged : s.timer.flagged = true
  · rw [if_pos flagged]
    exact irqHandler_kin s
  · rw [if_neg flagged]
    exact ⟨rfl, rfl, rfl, rfl, rfl, rfl⟩

theorem timed_kin (s : State) (timer : StopTimer) : Kin s ({ s with timer := timer }).commitArm.2 :=
  Kin.trans (t := { s with timer := timer }) ⟨rfl, rfl, rfl, rfl, rfl, rfl⟩ (commitArm_kin _)

theorem renewLease_kin (s : State) (remaining : U32) : Kin s (s.renewLease remaining).2 := by
  unfold renewLease
  by_cases refused : ¬s.timer.isArmed ∨ ¬s.timer.healthy ∨ ¬StopTimer.leaseFits remaining
  · rw [if_pos refused]
    exact Kin.refl s
  rw [if_neg refused]
  by_cases flagged : s.timer.flagged = true
  · rw [if_pos flagged]
    exact irqHandler_kin s
  rw [if_neg flagged]
  by_cases late : Reached s.timer.count s.timer.compare
  · rw [if_pos late]
    exact ⟨rfl, rfl, rfl, rfl, rfl, rfl⟩
  · rw [if_neg late]
    exact timed_kin s _

theorem lease_kin (s : State) (remaining : U32) : Kin s (s.lease remaining).2 := by
  unfold lease
  by_cases further : s.session.hasSequence = true
  · rw [if_pos further]
    exact renewLease_kin s remaining
  rw [if_neg further]
  unfold armLease
  by_cases refused : ¬s.timer.isHealthy ∨ s.timer.armed ∨ ¬StopTimer.leaseFits remaining
  · rw [if_pos refused]
    exact Kin.refl s
  · rw [if_neg refused]
    exact timed_kin s _

theorem apply_kin (s : State) (armed running : Bool) (plan : Plan) : Kin s (s.apply armed running plan).2 := by
  have kept : (s.apply armed running plan).2.bridge.configured = s.bridge.configured := by
    unfold apply
    cases plan.direction with
    | press =>
      cases running with
      | true =>
        dsimp only
        unfold Registers.updatePress
        dsimp only
        split_ifs <;> rfl
      | false =>
        dsimp only
        unfold Registers.applyPress
        dsimp only
        split_ifs <;> rfl
    | release =>
      cases running with
      | true =>
        dsimp only
        unfold updateRelease
        dsimp only
        split_ifs <;> rfl
      | false =>
        dsimp only
        unfold applyRelease
        dsimp only
        split_ifs <;> rfl
  exact ⟨rfl, rfl, rfl, rfl, rfl, kept⟩

theorem need_kin (kin : Kin s t) (condition : Prop) [Decidable condition] :
    Yields (Kin s) (fun _ => True) (need condition t) := by
  unfold need
  by_cases holds : condition
  · rw [if_pos holds]
    exact trivial
  · rw [if_neg holds]
    exact kin

theorem tried_kin {answer : Bool × State} (kin : Kin s answer.2) : Yields (Kin s) (Kin s) (tried answer) := by
  unfold tried
  by_cases ok : answer.1 = true
  · rw [if_pos ok]
    exact kin
  · rw [if_neg ok]
    exact kin

theorem lower_kin (kin : Kin s t) (requested : ℤ) :
    Yields (Kin s) (fun out => Kin s out.2.2) (t.lower c armed requested) := by
  unfold lower
  by_cases zero : requested = 0
  · rw [if_pos zero]
    apply Yields.bind (need_kin _ _)
    · intro _ _
      exact kin.trans ⟨rfl, rfl, rfl, rfl, rfl, rfl⟩
    · exact kin.trans ⟨rfl, rfl, rfl, rfl, rfl, rfl⟩
  · rw [if_neg zero]
    cases c.plan .press requested.toNat with
    | none => exact kin
    | some plan =>
      apply Yields.bind (tried_kin (kin.trans (apply_kin t armed true plan)))
      intro u applied
      apply Yields.bind (need_kin applied _)
      intro _ _
      exact applied

theorem renewed_kin (kin : Kin s t) : Yields (Kin s) (Kin s) t.renewed := by
  unfold renewed
  apply Yields.bind (need_kin kin _)
  intro _ _
  apply Yields.bind (tried_kin (kin.trans (renewLease_kin t _)))
  intro u renewed
  apply Yields.bind (tried_kin (renewed.trans (commitArm_kin u)))
  intro v committed
  apply Yields.bind (need_kin committed _)
  intro _ _
  exact committed.trans ⟨rfl, rfl, rfl, rfl, rfl, rfl⟩

theorem handoff_kin (s : State) (requested : ℤ) : Yields (Kin s) (Kin s) (s.handoff c armed requested) := by
  unfold handoff
  apply Yields.bind (need_kin (Kin.refl s) _)
  intro _ _
  apply Yields.bind (tried_kin (commitArm_kin s))
  intro u committed
  apply Yields.bind (lower_kin committed requested)
  intro out lowered
  apply Yields.bind (need_kin lowered _)
  intro _ _
  apply Yields.bind (tried_kin (lowered.trans (commitArm_kin _)))
  intro v committed
  apply Yields.bind (need_kin committed _)
  intro _ _
  apply Yields.bind (renewed_kin committed)
  intro w renewed
  exact renewed.trans ⟨rfl, rfl, rfl, rfl, rfl, rfl⟩

theorem climb_kin (s : State) (requested : ℤ) : Yields (Kin s) (Kin s) (s.climb c armed requested) := by
  unfold climb
  apply Yields.bind (need_kin (Kin.refl s) _)
  intro _ _
  apply Yields.bind (tried_kin (commitArm_kin s))
  intro u committed
  by_cases same : requested = u.session.committed
  · rw [if_pos same]
    exact committed
  · rw [if_neg same]
    cases c.plan .press requested.toNat with
    | none => exact committed
    | some plan =>
      apply Yields.bind (tried_kin (committed.trans (apply_kin u armed _ plan)))
      intro v applied
      apply Yields.bind (need_kin applied _)
      intro _ _
      apply Yields.bind (tried_kin (applied.trans (commitArm_kin v)))
      intro w kept
      apply Yields.bind (need_kin kept _)
      intro _ _
      exact kept.trans ⟨rfl, rfl, rfl, rfl, rfl, rfl⟩

theorem interlock_kin (s : State) (r : ContinuousRequest) :
    Yields (Kin s) (fun out => Kin s out.2) (s.interlock r) := by
  unfold interlock
  by_cases turns : s.reverses r
  · rw [if_pos turns]
    apply Yields.bind (need_kin _ _)
    · intro _ _
      exact ⟨rfl, rfl, rfl, rfl, rfl, rfl⟩
    · exact ⟨rfl, rfl, rfl, rfl, rfl, rfl⟩
  · rw [if_neg turns]
    by_cases soon : s.tooSoon r
    · rw [if_pos soon]
      exact Kin.refl s
    · rw [if_neg soon]
      exact Kin.refl s

theorem output_kin (kin : Kin s t) (actual : ℤ) :
    Yields (Kin s) (fun out => Kin s out.2.2) (t.output c armed actual) := by
  unfold output
  by_cases zero : actual = 0
  · rw [if_pos zero]
    have off : Kin t (if t.session.committed ≠ 0 then t.rest else t.disableImmediate) := by
      by_cases on : t.session.committed ≠ 0
      · rw [if_pos on]
        exact ⟨rfl, rfl, rfl, rfl, rfl, rfl⟩
      · rw [if_neg on]
        exact ⟨rfl, rfl, rfl, rfl, rfl, rfl⟩
    apply Yields.bind (need_kin (kin.trans off) _)
    intro _ _
    exact kin.trans off
  · rw [if_neg zero]
    cases c.plan (directionOf actual) actual.natAbs with
    | none => exact kin
    | some plan =>
      apply Yields.bind (tried_kin (kin.trans (apply_kin t armed _ plan)))
      intro u applied
      apply Yields.bind (need_kin applied _)
      intro _ _
      exact applied.trans ⟨rfl, rfl, rfl, rfl, rfl, rfl⟩

theorem finishBoost_kin (kin : Kin s t) (ends : Bool) (normal remaining : U32) :
    Yields (Kin s) (fun out => Kin s out.2) (t.finishBoost ends normal remaining) := by
  unfold finishBoost
  cases ends with
  | false => exact kin
  | true =>
    rw [if_pos rfl]
    apply Yields.bind (tried_kin (kin.trans (renewLease_kin t _)))
    intro u renewed
    apply Yields.bind (tried_kin (renewed.trans (commitArm_kin u)))
    intro v committed
    exact committed.trans ⟨rfl, rfl, rfl, rfl, rfl, rfl⟩

theorem commit_kin (kin : Kin s t) (r : ContinuousRequest) (actual : ℤ) :
    Yields (Kin s) (Kin s) (t.commit c armed r actual) := by
  unfold commit
  dsimp only
  apply Yields.bind (tried_kin (kin.trans (lease_kin t _)))
  intro u leased
  apply Yields.bind (need_kin leased _)
  intro _ _
  apply Yields.bind (output_kin leased actual)
  intro out driven
  apply Yields.bind (tried_kin (driven.trans (commitArm_kin _)))
  intro v committed
  apply Yields.bind (need_kin committed _)
  intro _ _
  apply Yields.bind (finishBoost_kin committed _ _ _)
  intro out finished
  exact finished.trans ⟨rfl, rfl, rfl, rfl, rfl, rfl⟩

theorem settle_kin {body : Except State State} (yields : Yields (Kin s) (Kin s) body) : Kin s (settle body).2 := by
  cases body with
  | ok t => exact yields
  | error t => exact Kin.trans yields ⟨rfl, rfl, rfl, rfl, rfl, rfl⟩

theorem update_kin (s : State) (r : ContinuousRequest) : Kin s (s.updateContinuous c armed r).2 := by
  unfold updateContinuous
  by_cases refused : s.refuses r
  · rw [if_pos refused]
    exact Kin.refl s
  rw [if_neg refused]
  apply settle_kin
  apply Yields.bind (need_kin (Kin.refl s) _)
  intro _ _
  apply Yields.bind (interlock_kin s r)
  intro out turned
  exact commit_kin turned r out.1

theorem handoffBoost_kin (s : State) (token : U32) (requested : ℤ) :
    Kin s (s.handoffBoost c armed token requested).2 := by
  unfold handoffBoost
  by_cases foreign_ : ¬s.owns token
  · rw [if_pos foreign_]
    exact Kin.refl s
  · rw [if_neg foreign_]
    exact settle_kin (handoff_kin s requested)

/-! ### What an event can do -/

inductive Outcome (c : Ceilings) (armed : Bool) (s : State) : Event → State → Prop
  | same {event : Event} : Outcome c armed s event s
  | dark {event : Event} {t : State} (off : t.bridge.isDisabled = true) (idle : t.timer.armed = false) (kin : Kin s t)
      (kept : t.session.isOpen = true → t.session = s.session) : Outcome c armed s event t
  | accepts {r : ContinuousRequest} (ok : (s.updateContinuous c armed r).1 = .ok)
      (accepts : s.Accepts c armed r (s.updateContinuous c armed r).2) :
      Outcome c armed s (.drive (.updateContinuous r)) (s.updateContinuous c armed r).2
  | lowers {call : DriveCall} {t : State} {requested : ℤ} {remaining : U32} (fits : s.handoffFits c armed requested)
      (commands : Commands c requested (s.handed requested) s t) (running : Running remaining t.timer)
      (short : remaining ≤ s.grant (s.session.receiveDeadline - s.clock)) : Outcome c armed s (.drive call) t
  | climbs {token now : U32} {t : State} {requested : ℤ} (owned : s.owns token) (fits : s.serviceFits armed)
      (step : s.stepFits c requested) (rises : requested = s.session.committed ∨ 0 < requested)
      (forward : 0 ≤ s.session.committed) (commands : Commands c requested (s.climbed requested) s t)
      (timer : t.timer = s.timer) : Outcome c armed s (.drive (.serviceBoost token now)) t
  | begins (fits : s.mayBegin armed = true) :
      Outcome c armed s (.drive .beginContinuous) (s.beginContinuous armed).2
  | budgets {token now durationMs : U32} {cap : ℤ} (fits : s.budgetFits c token durationMs cap) :
      Outcome c armed s (.drive (.setBudget token now durationMs cap)) (s.setBudget c token durationMs cap).2
  | boosts {token now durationMs : U32} (fits : s.boostFits c armed token durationMs) :
      Outcome c armed s (.drive (.armBoost token now durationMs)) (s.armBoost c armed token durationMs).2
  | ends {token : U32} (fits : s.owns token ∧ s.session.boostSet = true) :
      Outcome c armed s (.drive (.endBoost token)) (s.endBoost token).2
  | plans {token now riseMs endMs : U32} {peak lower : ℤ} (fits : s.boostPlanFits c armed token riseMs endMs peak lower) :
      Outcome c armed s (.drive (.setBoostPlan token now riseMs endMs peak lower))
        (s.setBoostPlan c armed token riseMs endMs peak lower).2
  | ticks : Outcome c armed s .tick { s with time := s.time + 1, timer := s.timer.tick }

variable {event : Event}

theorem settle_outcome {body : Except State State} (yields : Yields (Kin s) (Kin s) body)
    (done : ∀ t, body = .ok t → Outcome c armed s event t) : Outcome c armed s event (settle body).2 := by
  cases body with
  | ok t => exact done t rfl
  | error t => exact .dark rfl rfl (Kin.trans yields ⟨rfl, rfl, rfl, rfl, rfl, rfl⟩) (fun opened => by contradiction)

theorem handoffBoost_outcome (sound : s.Sound c) (call : DriveCall) (token : U32) (requested : ℤ) :
    Outcome c armed s (.drive call) (s.handoffBoost c armed token requested).2 := by
  unfold handoffBoost
  by_cases foreign_ : ¬s.owns token
  · rw [if_pos foreign_]
    exact .same
  · rw [if_neg foreign_]
    apply settle_outcome (handoff_kin s requested)
    intro t done
    obtain ⟨fits, commands, remaining, running, short⟩ := handoff_ok sound done
    exact .lowers fits commands running short

theorem serviceBoost_outcome (sound : s.Sound c) (token now : U32) :
    Outcome c armed s (.drive (.serviceBoost token now)) (s.serviceBoost c armed token).2.2 := by
  unfold serviceBoost
  by_cases foreign_ : ¬s.owns token
  · rw [if_pos foreign_]
    exact .same
  rw [if_neg foreign_]
  by_cases refused : ¬s.serviceFits armed
  · rw [if_pos refused]
    exact .dark rfl rfl ⟨rfl, rfl, rfl, rfl, rfl, rfl⟩ (fun opened => by contradiction)
  rw [if_neg refused]
  have fits := not_not.mp refused
  obtain ⟨running, leased, _⟩ := leased_of_valid sound fits.2.2.1 fits.2.2.2.2.2.2
  by_cases over_ : Reached s.clock s.session.boostEndMs
  · rw [if_pos over_]
    exact handoffBoost_outcome sound _ token _
  · rw [if_neg over_]
    apply settle_outcome (climb_kin s _)
    intro t done
    obtain ⟨step, rises, forward, commands, timer⟩ := climb_ok leased sound.configured done
    exact .climbs (not_not.mp foreign_) fits step rises forward commands timer

theorem settle_failed {body : Except State State} (failed : (settle body).1 ≠ .ok) (kin : Kin s (settle body).2) :
    Outcome c armed s event (settle body).2 := by
  cases body with
  | ok t => exact absurd rfl failed
  | error t => exact .dark rfl rfl kin (fun opened => by contradiction)

theorem update_outcome (sound : s.Sound c) (r : ContinuousRequest) :
    Outcome c armed s (.drive (.updateContinuous r)) (s.updateContinuous c armed r).2 := by
  by_cases ok : (s.updateContinuous c armed r).1 = .ok
  · exact .accepts ok (update_accepts sound ok)
  have kin := @update_kin c armed s r
  unfold updateContinuous at ok kin ⊢
  by_cases refused : s.refuses r
  · rw [if_pos refused]
    exact .same
  rw [if_neg refused] at ok kin ⊢
  exact settle_failed ok kin

theorem publishCompletion_dark (happened : StopEvent) :
    Kin t (t.publishCompletion happened).2 ∧ (t.publishCompletion happened).2.timer = t.timer ∧
      (t.publishCompletion happened).2.session = t.session ∧
      (t.publishCompletion happened).2.bridge.isDisabled = true := by
  unfold publishCompletion
  dsimp only
  by_cases on : ¬t.bridge.isDisabled
  · rw [if_pos on]
    exact ⟨⟨rfl, rfl, rfl, rfl, rfl, rfl⟩, rfl, rfl, rfl⟩
  · rw [if_neg on]
    have off := not_not.mp on
    by_cases failed : happened = .error
    · rw [if_pos failed]
      exact ⟨⟨rfl, rfl, rfl, rfl, rfl, rfl⟩, rfl, rfl, off⟩
    · rw [if_neg failed]
      exact ⟨⟨rfl, rfl, rfl, rfl, rfl, rfl⟩, rfl, rfl, off⟩

theorem published_outcome (kin : Kin s t) (idle : t.timer.armed = false) (session : t.session = s.session)
    (happened : StopEvent) : Outcome c armed s event (t.publishCompletion happened).2 := by
  obtain ⟨still, timer, same, off⟩ := publishCompletion_dark (t := t) happened
  apply Outcome.dark off _ (kin.trans still)
  · intro _
    exact same.trans session
  · rw [timer]
    exact idle

theorem abandon_outcome (s : State) : Outcome c armed s event s.abandon.2 :=
  published_outcome (s := s) (t := s.disableImmediate.cancel) ⟨rfl, rfl, rfl, rfl, rfl, rfl⟩ rfl rfl _

theorem off_outcome (s : State) : Outcome c armed s event s.disableImmediate.cancel :=
  .dark rfl rfl ⟨rfl, rfl, rfl, rfl, rfl, rfl⟩ fun _ => rfl

theorem service_outcome (sound : s.Sound c) (now : U32) : Outcome c armed s event (s.service now).2 := by
  unfold service
  cases settled : s.pending with
  | some happened =>
    have idle : s.timer.armed = false := by
      by_contra running
      have clear := (sound.leased (Bool.eq_true_of_not_eq_false running)).settled
      rw [settled] at clear
      contradiction
    exact published_outcome (s := s) (t := { s with pending := none }) ⟨rfl, rfl, rfl, rfl, rfl, rfl⟩ idle rfl happened
  | none =>
    dsimp only
    by_cases inactive : ¬s.logical.active
    · rw [if_pos inactive]
      have failed : Outcome c armed s event
          { s.disableImmediate.cancel with logical := { s.logical with lastCompletion := .error } } :=
        .dark rfl rfl ⟨rfl, rfl, rfl, rfl, rfl, rfl⟩ fun _ => rfl
      by_cases on : ¬s.bridge.isDisabled
      · rw [if_pos on]
        exact failed
      rw [if_neg on]
      by_cases running : s.timer.isArmed = true
      · rw [if_pos running]
        exact failed
      rw [if_neg running]
      by_cases sick : ¬s.timer.isHealthy
      · rw [if_pos sick]
        exact .same
      · rw [if_neg sick]
        exact .same
    rw [if_neg inactive]
    by_cases sick : ¬s.timer.isHealthy
    · rw [if_pos sick]
      exact abandon_outcome s
    rw [if_neg sick]
    by_cases stopped : ¬s.timer.isArmed
    · rw [if_pos stopped]
      exact abandon_outcome s
    rw [if_neg stopped]
    by_cases late : Reached now s.logical.backstopMs
    · rw [if_pos late]
      exact abandon_outcome s
    rw [if_neg late]
    by_cases dropped : s.bridge.isDisabled ∧
        ¬(s.session.isOpen ∧ s.logical.lastAction = .continuous ∧ s.session.committed = 0)
    · rw [if_pos dropped]
      exact abandon_outcome s
    · rw [if_neg dropped]
      exact .same

theorem guardOutput_outcome (s : State) : Outcome c armed s event (s.guardOutput armed).2 := by
  unfold guardOutput
  dsimp only
  by_cases pending : s.pending ≠ none
  · rw [if_pos pending]
    exact off_outcome s
  rw [if_neg pending]
  by_cases active : s.logical.active = true
  · rw [if_pos active]
    by_cases valid : s.activeRequestIsValid armed = true
    · rw [if_pos valid]
      exact .same
    · rw [if_neg valid]
      exact off_outcome s
  rw [if_neg active]
  by_cases on : ¬s.bridge.isDisabled
  · rw [if_pos on]
    exact off_outcome s
  rw [if_neg on]
  by_cases running : s.timer.isArmed = true
  · rw [if_pos running]
    exact off_outcome s
  · rw [if_neg running]
    exact off_outcome s

theorem irqHandler_outcome (s : State) : Outcome c armed s event s.irqHandler := by
  have kin := irqHandler_kin s
  unfold irqHandler at kin ⊢
  by_cases stopped : ¬s.timer.armed
  · rw [if_pos stopped] at kin ⊢
    exact .dark rfl rfl kin (fun opened => by contradiction)
  · rw [if_neg stopped] at kin ⊢
    exact .dark rfl rfl kin (fun opened => by contradiction)

theorem driveCall_outcome (sound : s.Sound c) (call : DriveCall) :
    Outcome c armed s (.drive call) (driveCall c armed call s).2 := by
  cases call with
  | startRun commandMv durationMs backstopMs now => exact .same
  | beginContinuous =>
    by_cases fits : s.mayBegin armed = true
    · exact .begins fits
    · change Outcome c armed s _ (s.beginContinuous armed).2
      unfold beginContinuous
      rw [if_pos fits]
      exact .same
  | setBudget token now durationMs cap =>
    by_cases fits : s.budgetFits c token durationMs cap
    · exact .budgets fits
    · change Outcome c armed s _ (s.setBudget c token durationMs cap).2
      unfold setBudget
      rw [if_pos fits]
      exact .same
  | armBoost token now durationMs =>
    by_cases fits : s.boostFits c armed token durationMs
    · exact .boosts fits
    · change Outcome c armed s _ (s.armBoost c armed token durationMs).2
      unfold armBoost
      rw [if_pos fits]
      exact .same
  | setBoostPlan token now riseMs endMs peak lower =>
    by_cases fits : s.boostPlanFits c armed token riseMs endMs peak lower
    · exact .plans fits
    · change Outcome c armed s _ (s.setBoostPlan c armed token riseMs endMs peak lower).2
      unfold setBoostPlan
      rw [if_pos fits]
      exact .same
  | serviceBoost token now => exact serviceBoost_outcome sound token now
  | handoffBoost token now requested => exact handoffBoost_outcome sound _ token requested
  | endBoost token =>
    by_cases fits : s.owns token ∧ s.session.boostSet = true
    · exact .ends fits
    · change Outcome c armed s _ (s.endBoost token).2
      unfold endBoost
      rw [if_pos fits]
      exact .same
  | updateContinuous r => exact update_outcome sound r
  | beginBuild now => exact .same
  | startSegment token request sequence received now => exact .same
  | endSegment token now => exact .same
  | refreshFeedback token sequence received now => exact .same

variable (armed) in
theorem step_outcome (sound : s.Sound c) (event : Event) : Outcome c armed s event (s.step c armed event) := by
  cases event with
  | drive call => exact driveCall_outcome sound call
  | disable => exact .dark rfl rfl ⟨rfl, rfl, rfl, rfl, rfl, rfl⟩ (fun opened => by contradiction)
  | service now => exact service_outcome sound now
  | guardOutput => exact guardOutput_outcome s
  | interrupt => exact irqHandler_outcome s
  | tick => exact .ticks

/-! ### A count of the timer -/

theorem Leased.counting (leased : s.Leased c) : s.timer.Counting where
  healthy := leased.healthy
  enabled := leased.enabled
  interrupts := leased.interrupts
  line := leased.line
  repeats _ := leased.reload
  reload pulse := by
    rw [leased.repeats] at pulse
    contradiction
  ahead := leased.ahead

/-- Until the interrupt is asked for, a count takes one off the lead. -/
theorem tick_lead (leased : s.Leased c) (quiet : raised s.timer = false) :
    s.timer.tick.Counting ∧ s.timer.tick.lead = s.lead - 1 ∧ 0 < s.lead :=
  leased.counting.tick (leased.counting.asks.symm.trans quiet)

theorem tick_leased (leased : s.Leased c) (quiet : raised s.timer = false) :
    Leased c { s with time := s.time + 1, timer := s.timer.tick } := by
  have repeats (pulse : s.timer.onePulse = true) : s.timer.count ≠ s.timer.reload := by
    rw [leased.repeats] at pulse
    contradiction
  obtain ⟨same, _⟩ := StopTimer.tick_counting leased.enabled (fun _ => leased.reload) repeats
  obtain ⟨counting, lead, ahead⟩ := tick_lead leased quiet
  obtain ⟨receive, nearer, _⟩ := leased.receive.tick lead ahead
  exact {
    isOpen := leased.isOpen
    sequenced := leased.sequenced
    settled := leased.settled
    active := leased.active
    continuous := leased.continuous
    healthy := counting.healthy
    enabled := counting.enabled
    interrupts := counting.interrupts
    line := counting.line
    repeats := by rw [same]; exact leased.repeats
    reload := by rw [same]; exact leased.reload
    ahead := counting.ahead
    planned := leased.planned
    driven := leased.driven
    receive := receive
    near := Nat.le_trans nearer leased.near
    session := fun limited => ((leased.session limited).tick lead ahead).1 }

/-! ### Every event keeps the lease -/

theorem Commands.leased {command : ℤ} {session : Session} {remaining : U32} (leased : s.Leased c)
    (commands : Commands c command session s t) (running : Running remaining t.timer)
    (short : remaining ≤ s.grant (s.session.receiveDeadline - s.clock))
    (same : session = s.handed command) : t.Leased c := by
  have clock : t.clock = s.clock := congrArg (fun time => stamp 32 (time / 10)) commands.time
  have shown := commands.session.trans same
  apply leased_of_running running _ _ commands.settled (commands.active.trans leased.active)
    (commands.continuous.trans leased.continuous)
  · rw [shown]
    exact commands.planned
  · exact commands.driven
  · rw [shown, clock]
    exact BitVec.le_trans short (grant_le s _)
  · rw [shown, clock]
    exact leased.near
  · intro limited
    rw [shown] at limited ⊢
    rw [clock]
    exact ⟨BitVec.le_trans short (grant_session limited _), (leased.session limited).2⟩
  · rw [shown]
    exact leased.isOpen
  · rw [shown]
    exact leased.sequenced

theorem climbed_sound {requested : ℤ} (sound : s.Sound c) (running : s.timer.armed = true)
    (commands : Commands c requested (s.climbed requested) s t) (timer : t.timer = s.timer) : t.Sound c := by
  have leased := sound.leased running
  have clock : t.clock = s.clock := congrArg (fun time => stamp 32 (time / 10)) commands.time
  have before : ∀ deadline, s.Before deadline → t.Before deadline := by
    intro deadline early
    change t.timer.Before t.time deadline
    rw [timer, commands.time]
    exact early
  have session := commands.session
  apply sound_of_leased _ (timer ▸ running) _ commands.configured
  · exact {
      isOpen := by rw [session]; exact leased.isOpen
      sequenced := by rw [session]; exact leased.sequenced
      settled := commands.settled
      active := commands.active.trans leased.active
      continuous := commands.continuous.trans leased.continuous
      healthy := timer ▸ leased.healthy
      enabled := timer ▸ leased.enabled
      interrupts := timer ▸ leased.interrupts
      line := timer ▸ leased.line
      repeats := timer ▸ leased.repeats
      reload := timer ▸ leased.reload
      ahead := by
        change t.timer.flagged = true ∨ 0 < t.timer.lead
        rw [timer]
        exact leased.ahead
      planned := by rw [session]; exact commands.planned
      driven := commands.driven
      receive := by rw [session]; exact before _ leased.receive
      near := by rw [session, clock]; exact leased.near
      session := by rw [session]; exact fun limited => before _ (leased.session limited) }
  · rw [session]
    exact sound.limited

/-- An event that leaves the output, the timer and the owner alone. -/
theorem Sound.beside {session : Session} (sound : s.Sound c) (times : BoostTimes)
    (isOpen : session.isOpen = s.session.isOpen) (sequenced : session.hasSequence = s.session.hasSequence)
    (committed : session.committed = s.session.committed)
    (receive : session.receiveDeadline = s.session.receiveDeadline) (limited : session.limited = s.session.limited)
    (deadline : session.deadline = s.session.deadline) (budgetSet : session.budgetSet = s.session.budgetSet) :
    Sound c { s with session := session, boostTimes := times } where
  leased running :=
    have leased := sound.leased running
    { isOpen := isOpen.trans leased.isOpen
      sequenced := sequenced.trans leased.sequenced
      settled := leased.settled
      active := leased.active
      continuous := leased.continuous
      healthy := leased.healthy
      enabled := leased.enabled
      interrupts := leased.interrupts
      line := leased.line
      repeats := leased.repeats
      reload := leased.reload
      ahead := leased.ahead
      planned := by rw [committed]; exact leased.planned
      driven := leased.driven
      receive := by rw [receive]; exact leased.receive
      near := by rw [receive]; exact leased.near
      session := by rw [limited, deadline]; exact leased.session }
  lit := sound.lit
  limited := by rw [limited, budgetSet]; exact sound.limited
  configured := sound.configured

theorem begins_idle (sound : s.Sound c) (fits : s.mayBegin armed = true) : s.timer.armed = false := by
  simp only [mayBegin, Bool.and_eq_true, Bool.not_eq_true'] at fits
  by_contra running
  have leased := sound.leased (Bool.eq_true_of_not_eq_false running)
  have closed := fits.1.1.1.1.1.1.2
  rw [leased.isOpen] at closed
  contradiction

theorem budgets_idle {token durationMs : U32} {cap : ℤ} (sound : s.Sound c)
    (fits : s.budgetFits c token durationMs cap) : s.timer.armed = false := by
  by_contra running
  exact fits.2.2.1 (sound.leased (Bool.eq_true_of_not_eq_false running)).sequenced

theorem begins_eq (fits : s.mayBegin armed = true) :
    (s.beginContinuous armed).2 = { s with
      logical := { s.logical with lastAction := .continuous, lastCompletion := .none }
      boostTimes := ⟨0, 0, 0⟩
      session := { s.session with
        generation := if s.session.generation + 1 = 0 then 1 else s.session.generation + 1
        isOpen := true, hasSequence := false, committed := 0, lastSign := 0, budgetSet := false, limited := false
        boostSet := false, boostUsed := false, boostEnd := false, boostPlan := false } } := by
  unfold beginContinuous
  rw [if_neg (not_not.mpr fits)]

theorem budgets_eq {token durationMs : U32} {cap : ℤ} (fits : s.budgetFits c token durationMs cap) :
    (s.setBudget c token durationMs cap).2 = { s with session := { s.session with
      budgetSet := true, limited := decide (durationMs ≠ 0), deadline := s.clock + durationMs, normalCap := cap } } := by
  unfold setBudget
  rw [if_neg (not_not.mpr fits)]

theorem boosts_eq {token durationMs : U32} (fits : s.boostFits c armed token durationMs) :
    (s.armBoost c armed token durationMs).2 = { s with
      boostTimes := { s.boostTimes with startedMs := s.clock, deadlineMs := s.clock + durationMs }
      session := { s.session with
        boostSet := true, boostUsed := true, boostDeadline := s.clock + durationMs, boostStarted := s.clock } } := by
  unfold armBoost
  rw [if_neg (not_not.mpr fits)]

theorem ends_eq {token : U32} (fits : s.owns token ∧ s.session.boostSet = true) :
    (s.endBoost token).2 = { s with session := { s.session with boostEnd := true } } := by
  unfold endBoost
  rw [if_neg (not_not.mpr fits)]

theorem plans_eq {token riseMs endMs : U32} {peak lower : ℤ}
    (fits : s.boostPlanFits c armed token riseMs endMs peak lower) :
    (s.setBoostPlan c armed token riseMs endMs peak lower).2 = { s with
      boostTimes := { s.boostTimes with plannedEndMs := s.session.boostStarted + endMs }
      session := { s.session with
        boostPlan := true, boostInitial := min s.session.committed peak, boostPeak := peak, boostLower := lower
        boostRise := riseMs, boostEndMs := s.session.boostStarted + endMs } } := by
  unfold setBoostPlan
  rw [if_neg (not_not.mpr fits)]

theorem outcome_sound (sound : s.Sound c) (admitted : s.admitsEvent event) (outcome : Outcome c armed s event t) :
    t.Sound c := by
  cases outcome with
  | same => exact sound
  | dark off idle kin kept =>
    apply Sound.dark off idle
    · intro limited
      exact kin.budgetSet.trans (sound.limited (kin.limited.symm.trans limited))
    · exact kin.configured.trans sound.configured
  | accepts _ accepts => exact accepts.sound sound
  | lowers fits commands running short =>
    obtain ⟨_, leased, _⟩ := leased_of_valid sound fits.2.2.2.2.2.2.2.2.1 fits.2.2.2.2.2.2.2.2.2.2.2.2
    apply sound_of_leased (commands.leased leased running short rfl) running.armed _ commands.configured
    rw [commands.session]
    exact sound.limited
  | climbs owned fits step rises forward commands timer =>
    obtain ⟨running, _⟩ := leased_of_valid sound fits.2.2.1 fits.2.2.2.2.2.2
    exact climbed_sound sound running commands timer
  | begins fits =>
    have idle := begins_idle sound fits
    rw [begins_eq fits]
    exact Sound.dark (sound.off_of_idle idle) idle (fun limited => by contradiction) sound.configured
  | budgets fits =>
    have idle := budgets_idle sound fits
    rw [budgets_eq fits]
    exact Sound.dark (sound.off_of_idle idle) idle (fun _ => rfl) sound.configured
  | boosts fits =>
    rw [boosts_eq fits]
    exact sound.beside _ rfl rfl rfl rfl rfl rfl rfl
  | ends fits =>
    rw [ends_eq fits]
    exact sound.beside s.boostTimes rfl rfl rfl rfl rfl rfl rfl
  | plans fits =>
    rw [plans_eq fits]
    exact sound.beside _ rfl rfl rfl rfl rfl rfl rfl
  | ticks =>
    exact {
      leased := fun running => tick_leased (sound.leased ((StopTimer.tick_armed s.timer).symm.trans running)) admitted
      lit := fun on => (StopTimer.tick_armed s.timer).trans (sound.lit on)
      limited := sound.limited
      configured := sound.configured }

variable (armed) in
theorem step_sound (sound : s.Sound c) (admitted : s.admitsEvent event) : (s.step c armed event).Sound c :=
  outcome_sound sound admitted (step_outcome armed sound event)

theorem boots_sound (boots : s.Boots) : s.Sound c := by
  obtain ⟨bridge, timer, time, rfl⟩ := boots
  exact Sound.dark rfl rfl (fun limited => by contradiction) rfl

end State

end Sd700.Motor.Continuous

import Sd700.Motor.Starts

/-! What every call of the Build executor leaves of the rest clock and of the exposure ledger: only a bridge that was
just seen off restarts the clock, and nothing but a new epoch gives an allowance back. -/

namespace Sd700.Motor.BuildExecutor
open Build.Contract Interface Logic.Modular Timer Bridge

variable {Bridge : Type} {hw : Hardware Bridge}

/-- What the executor relies on in a bridge that is off: switching it off leaves it off, and it matches no plan. -/
structure StaysOff (hw : Hardware Bridge) : Prop where
  disables : ∀ b, hw.isDisabled b = true → hw.isDisabled (hw.disableImmediate b) = true
  initializes : ∀ b, hw.isDisabled b = true → hw.isDisabled (hw.initializeDisabled b).2 = true
  drives : ∀ duty b, hw.matchesPlan 0 duty b = true → duty ≠ 0 → hw.isDisabled b = false

theorem board_staysOff (armed : Bool) : StaysOff (.board armed) where
  disables _ _ := rfl
  initializes _ _ := rfl
  drives duty b matched positive := by
    change b.matchesPlan 0 duty = true at matched
    unfold Registers.matchesPlan at matched
    rw [if_neg (fun same => positive same.2), if_neg (fun same => same.1 rfl), if_pos positive] at matched
    change b.isDisabled = false
    unfold Registers.isDisabled
    have valid := (Bool.and_eq_true _ _).mp matched
    unfold Registers.activeCompareIsValid at valid
    simp only [Bool.and_eq_true] at valid
    rw [valid.2.1.1.1.1]
    rfl

namespace Device

variable {m n : Device Bridge}

def spent (m : Device Bridge) : Prop := m.restRequired = true ∨ Config.approachTotalMs ≤ m.build.approachReservedMs

/-- The rest clock runs for a bridge that is off, and a segment on the books has a PRESS plan and no completion. -/
structure Quiet (hw : Hardware Bridge) (m : Device Bridge) : Prop where
  off : m.offVerified = true → hw.isDisabled m.bridge = true
  pressing : m.build.segmentActive = true → m.drive.tim2 = 0 ∧ m.drive.tim3 ≠ 0 ∧ m.pending = none

structure Steady (hw : Hardware Bridge) (m n : Device Bridge) : Prop where
  time : n.time = m.time
  quiet : n.Quiet hw
  kept : n.offVerified = true → n.offAt = m.clock ∨ (m.offVerified = true ∧ n.offAt = m.offAt)

structure Bound (m n : Device Bridge) : Prop where
  epoch : n.build.epoch = m.build.epoch
  spent : m.spent → n.spent
  rest : m.restRequired = true → n.restRequired = true

structure Calm (hw : Hardware Bridge) (m n : Device Bridge) : Prop where
  steady : Steady hw m n
  bound : Bound m n

theorem Steady.refl (quiet : m.Quiet hw) : Steady hw m m :=
  ⟨rfl, quiet, fun verified => .inr ⟨verified, rfl⟩⟩

theorem Steady.trans {k : Device Bridge} (first : Steady hw m n) (second : Steady hw n k) : Steady hw m k where
  time := second.time.trans first.time
  quiet := second.quiet
  kept verified := by
    have clock : n.clock = m.clock := congrArg (fun time => stamp 32 (time / 10)) first.time
    rcases second.kept verified with fresh | ⟨before, same⟩
    · exact .inl (fresh.trans clock)
    · rw [same]
      exact first.kept before

theorem Bound.refl (m : Device Bridge) : Bound m m := ⟨rfl, id, id⟩

theorem Bound.trans {k : Device Bridge} (first : Bound m n) (second : Bound n k) : Bound m k :=
  ⟨second.epoch.trans first.epoch, second.spent ∘ first.spent, second.rest ∘ first.rest⟩

theorem Calm.refl (quiet : m.Quiet hw) : Calm hw m m := ⟨.refl quiet, .refl m⟩

theorem Calm.trans {k : Device Bridge} (first : Calm hw m n) (second : Calm hw n k) : Calm hw m k :=
  ⟨first.steady.trans second.steady, first.bound.trans second.bound⟩

theorem Calm.quiet (calm : Calm hw m n) : n.Quiet hw := calm.steady.quiet

def core (m : Device Bridge) : ℕ × Bridge × Bool × U32 × Bool × U16 × U16 × Option StopEvent × U32 × Bool × U32 :=
  (m.time, m.bridge, m.offVerified, m.offAt, m.build.segmentActive, m.drive.tim2, m.drive.tim3, m.pending,
    m.build.epoch, m.restRequired, m.build.approachReservedMs)

theorem Calm.same {k : Device Bridge} (calm : Calm hw m n) (same : k.core = n.core) : Calm hw m k := by
  unfold core at same
  simp only [Prod.mk.injEq] at same
  obtain ⟨time, bridge, verified, at_, active, tim2, tim3, pending, epoch, rest, reserved⟩ := same
  obtain ⟨⟨sameTime, ⟨off, pressing⟩, kept⟩, ⟨sameEpoch, spends, rests⟩⟩ := calm
  refine ⟨⟨time.trans sameTime, ⟨?_, ?_⟩, ?_⟩, ⟨epoch.trans sameEpoch, ?_, ?_⟩⟩
  · rw [verified, bridge]
    exact off
  · rw [active, tim2, tim3, pending]
    exact pressing
  · rw [verified, at_]
    exact kept
  · unfold spent at spends ⊢
    rw [rest, reserved]
    exact spends
  · rw [rest]
    exact rests

/-! ### Small steps -/

theorem disableImmediate_calm (obeys : StaysOff hw) (quiet : m.Quiet hw) : Calm hw m (m.disableImmediate hw) where
  steady := ⟨rfl, ⟨fun verified => obeys.disables _ (quiet.off verified), quiet.pressing⟩,
    fun verified => .inr ⟨verified, rfl⟩⟩
  bound := ⟨rfl, id, id⟩

theorem recordPulseEnd_segment (m : Device Bridge) (now : U32) (reason : EndReason) :
    (m.recordPulseEnd now reason).build.segmentActive = false := by
  unfold recordPulseEnd
  by_cases active : ¬ m.build.segmentActive
  · rw [if_pos active]
    exact Bool.eq_false_iff.mpr active
  · rw [if_neg active]

theorem recordPulseEnd_calm (quiet : m.Quiet hw) (now : U32) (reason : EndReason) :
    Calm hw m (m.recordPulseEnd now reason) := by
  have segment := recordPulseEnd_segment m now reason
  unfold recordPulseEnd at segment ⊢
  by_cases active : ¬ m.build.segmentActive
  · rw [if_pos active]
    exact .refl quiet
  rw [if_neg active] at segment ⊢
  refine ⟨⟨rfl, ⟨quiet.off, fun on => by contradiction⟩, fun verified => .inr ⟨verified, rfl⟩⟩, rfl, ?_, ?_⟩
  · intro before
    by_cases overran : m.overran now
    · left
      simp [overran]
    · rcases before with rest | reserved
      · left
        simp [rest]
      · right
        unfold overrunMs
        rw [if_neg overran, ite_self]
        simpa using reserved
  · intro rest
    simp [rest]

theorem chargePreload_calm (quiet : m.Quiet hw) (now : U32) : Calm hw m (m.chargePreload now) := by
  unfold chargePreload
  by_cases off : ¬ m.build.preloadActive
  · rw [if_pos off]
    exact .refl quiet
  · rw [if_neg off]
    exact (Calm.refl quiet).same rfl

theorem chargePreload_segment (m : Device Bridge) (now : U32) :
    (m.chargePreload now).build.segmentActive = m.build.segmentActive := by
  unfold chargePreload
  by_cases off : ¬ m.build.preloadActive
  · rw [if_pos off]
  · rw [if_neg off]

theorem confirmOff_steady (quiet : m.Quiet hw) : Steady hw m (m.confirmOff hw m.clock) := by
  unfold confirmOff
  by_cases on : ¬ hw.isDisabled m.bridge
  · rw [if_pos on]
    exact ⟨rfl, ⟨fun verified => by contradiction, quiet.pressing⟩, fun verified => by contradiction⟩
  rw [if_neg on]
  by_cases unverified : ¬ m.offVerified
  · rw [if_pos unverified]
    exact ⟨rfl, ⟨fun _ => not_not.mp on, quiet.pressing⟩, fun _ => .inl rfl⟩
  · rw [if_neg unverified]
    exact .refl quiet

theorem confirmOff_bound (m : Device Bridge) (now : U32) : Bound m (m.confirmOff hw now) := by
  unfold confirmOff
  by_cases on : ¬ hw.isDisabled m.bridge
  · rw [if_pos on]
    exact ⟨rfl, id, id⟩
  rw [if_neg on]
  by_cases unverified : ¬ m.offVerified
  · rw [if_pos unverified]
    exact ⟨rfl, id, id⟩
  · rw [if_neg unverified]
    exact .refl m

theorem confirmOff_calm (quiet : m.Quiet hw) {now : U32} (clock : now = m.clock) : Calm hw m (m.confirmOff hw now) := by
  rw [clock]
  exact ⟨confirmOff_steady quiet, confirmOff_bound m _⟩

theorem confirmOff_segment (m : Device Bridge) (now : U32) :
    (m.confirmOff hw now).build.segmentActive = m.build.segmentActive := by
  unfold confirmOff
  by_cases on : ¬ hw.isDisabled m.bridge
  · rw [if_pos on]
  rw [if_neg on]
  by_cases unverified : ¬ m.offVerified
  · rw [if_pos unverified]
  · rw [if_neg unverified]

theorem recordOff_segment (m : Device Bridge) (now : U32) (reason : EndReason) :
    (m.recordOff hw now reason).build.segmentActive = false := by
  change (((m.recordPulseEnd now reason).chargePreload now).confirmOff hw now).build.segmentActive = false
  rw [confirmOff_segment, chargePreload_segment, recordPulseEnd_segment]

theorem Steady.clock (steady : Steady hw m n) : n.clock = m.clock :=
  congrArg (fun time => stamp 32 (time / 10)) steady.time

theorem recordOff_calm (quiet : m.Quiet hw) {now : U32} (clock : now = m.clock) (reason : EndReason) :
    Calm hw m (m.recordOff hw now reason) := by
  have ended := recordPulseEnd_calm quiet now reason
  have charged := ended.trans (chargePreload_calm ended.quiet now)
  have confirmed := charged.trans (confirmOff_calm charged.quiet (clock.trans charged.steady.clock.symm))
  exact confirmed.same rfl

/-! ### Ways off -/

/-- A segment that is off the books may leave any completion and any plan. -/
theorem Calm.closed {k : Device Bridge} (calm : Calm hw m n) (ended : k.build.segmentActive = false)
    (time : k.time = n.time) (bridge : k.bridge = n.bridge) (verified : k.offVerified = n.offVerified)
    (at_ : k.offAt = n.offAt) (epoch : k.build.epoch = n.build.epoch) (rest : k.restRequired = n.restRequired)
    (reserved : k.build.approachReservedMs = n.build.approachReservedMs) : Calm hw m k := by
  refine calm.trans ⟨⟨time, ⟨?_, ?_⟩, ?_⟩, epoch, ?_, ?_⟩
  · rw [verified, bridge]
    exact calm.quiet.off
  · intro active
    rw [ended] at active
    contradiction
  · rw [verified, at_]
    exact fun before => .inr ⟨before, rfl⟩
  · unfold spent
    rw [rest, reserved]
    exact id
  · rw [rest]
    exact id

theorem shutDown_calm (obeys : StaysOff hw) (quiet : m.Quiet hw) (event : StopEvent) :
    Calm hw m (m.shutDown hw event) := by
  have off := disableImmediate_calm obeys quiet
  have recorded := off.trans (recordOff_calm off.quiet rfl (if event = .normal then .normal else .deadline))
  exact recorded.closed (recordOff_segment _ _ _) rfl rfl rfl rfl rfl rfl rfl

theorem abort_calm (obeys : StaysOff hw) (quiet : m.Quiet hw) (reason : EndReason) :
    Calm hw m (m.abort hw reason) := by
  have off := disableImmediate_calm obeys quiet
  have recorded := off.trans (recordOff_calm off.quiet rfl reason)
  exact recorded.closed (recordOff_segment _ _ _) rfl rfl rfl rfl rfl rfl rfl

abbrev Calming (hw : Hardware Bridge) (call : Device Bridge → Bool × Device Bridge) : Prop :=
  ∀ m, m.Quiet hw → Calm hw m (call m).2

theorem finishPulse_calm (quiet : m.Quiet hw) (obeys : StaysOff hw) {renew : U32 → Device Bridge → Bool × Device Bridge}
    (renews : ∀ remaining, Calming hw (renew remaining)) (now : U32) (reason : EndReason) :
    Calm hw m (m.finishPulse hw renew now reason).2 := by
  unfold finishPulse
  by_cases refused : ¬ m.owned ∨ ¬ m.build.segmentActive ∨ m.pending ≠ none ∨ m.drive.direction ≠ .press ∨ m.due now ∨
      ¬ hw.matchesPlan m.drive.tim2 m.drive.tim3 m.bridge
  · rw [if_pos refused]
    exact .refl quiet
  rw [if_neg refused]
  push Not at refused
  obtain ⟨_, active, _, _, _, matched⟩ := refused
  obtain ⟨none2, some3, idle⟩ := quiet.pressing active
  rw [none2] at matched
  -- a bridge that matches the segment's plan is on, so the rest clock stands
  have unverified : m.offVerified ≠ true := by
    intro verified
    have on := obeys.drives _ _ matched some3
    rw [quiet.off verified] at on
    contradiction
  have braked : Calm hw m (m.brakeBridge hw).2 :=
    ⟨⟨rfl, ⟨fun verified => absurd verified unverified, quiet.pressing⟩, fun verified => .inr ⟨verified, rfl⟩⟩,
      ⟨rfl, id, id⟩⟩
  dsimp only
  by_cases lost : ¬ stands (m.brakeBridge hw) ∨ (m.brakeBridge hw).2.due (m.brakeBridge hw).2.clock
  · rw [if_pos lost]
    exact braked
  rw [if_neg lost]
  have kept : Calm hw m ((m.brakeBridge hw).2.keepTimer renew).2 := by
    apply braked.trans
    unfold keepTimer
    dsimp only
    by_cases approach : (m.brakeBridge hw).2.build.phase = .approach
    · rw [if_pos approach]
      exact renews _ _ braked.quiet
    · rw [if_neg approach]
      exact (Calm.refl braked.quiet).same rfl
  by_cases late : ¬ stands ((m.brakeBridge hw).2.keepTimer renew) ∨
      ((m.brakeBridge hw).2.keepTimer renew).2.due ((m.brakeBridge hw).2.keepTimer renew).2.clock
  · rw [if_pos late]
    exact kept
  rw [if_neg late]
  have ended := kept.trans (recordPulseEnd_calm kept.quiet ((m.brakeBridge hw).2.keepTimer renew).2.clock reason)
  exact ended.closed (recordPulseEnd_segment _ _ _) rfl rfl rfl rfl rfl rfl rfl

theorem expired_calm (obeys : StaysOff hw) (quiet : m.Quiet hw) (event : StopEvent) :
    Calm hw m (m.expired hw event) := by
  unfold expired
  by_cases pulse : event = .normal ∧ m.pulsing
  · rw [if_pos pulse]
    have finished : Calm hw m (m.finishPulse hw (fun _ m => (false, m)) m.clock .normal).2 :=
      finishPulse_calm quiet obeys (fun _ _ still => .refl still) _ _
    dsimp only
    by_cases ok : (m.finishPulse hw (fun _ m => (false, m)) m.clock .normal).1 = .ok
    · rw [if_pos ok]
      exact finished
    · rw [if_neg ok]
      exact finished.trans (shutDown_calm obeys finished.quiet _)
  rw [if_neg pulse]
  by_cases running : m.build.preloadActive ∨ (m.build.segmentActive ∧ m.build.phase = .approach)
  · rw [if_pos running]
    exact shutDown_calm obeys quiet _
  · rw [if_neg running]
    exact shutDown_calm obeys quiet _

theorem irqHandler_calm (obeys : StaysOff hw) (quiet : m.Quiet hw) : Calm hw m (m.irqHandler hw) := by
  unfold irqHandler
  by_cases idle : ¬ m.timer.armed
  · rw [if_pos idle]
    have entered : Calm hw m { m with timer := { m.timer with healthy := false } } := (Calm.refl quiet).same rfl
    exact (entered.trans (expired_calm obeys entered.quiet .error)).same rfl
  rw [if_neg idle]
  have entered : Calm hw m m.enterIrq := (Calm.refl quiet).same rfl
  have ended := entered.trans (expired_calm obeys entered.quiet m.irqEvent)
  apply ended.same
  unfold leaveIrq
  dsimp only
  by_cases handed : (m.enterIrq.expired hw m.irqEvent).timer.handoff = true
  · rw [if_pos handed]
    rfl
  · rw [if_neg handed]
    rfl

theorem commitArm_calm (obeys : StaysOff hw) : Calming hw (commitArm hw) := by
  intro m quiet
  unfold commitArm
  by_cases unfit : ¬ m.timer.armed ∨ ¬ m.timer.healthy
  · rw [if_pos unfit]
    exact .refl quiet
  rw [if_neg unfit]
  by_cases flagged : m.timer.flagged = true
  · rw [if_pos flagged]
    exact irqHandler_calm obeys quiet
  · rw [if_neg flagged]
    exact (Calm.refl quiet).same rfl

theorem Calming.retimed {call : Device Bridge → Bool × Device Bridge} (calming : Calming hw call) (quiet : m.Quiet hw)
    (timer : StopTimer) : Calm hw m (call { m with timer := timer }).2 := by
  have retimed : Calm hw m { m with timer := timer } := (Calm.refl quiet).same rfl
  exact retimed.trans (calming _ retimed.quiet)

theorem armLease_calm (obeys : StaysOff hw) (remaining : U32) : Calming hw fun m => m.armLease hw remaining := by
  intro m quiet
  unfold armLease
  by_cases unfit : ¬ m.timer.isHealthy ∨ m.timer.armed ∨ ¬ StopTimer.leaseFits remaining
  · dsimp only
    rw [if_pos unfit]
    exact .refl quiet
  · dsimp only
    rw [if_neg unfit]
    exact (commitArm_calm obeys).retimed quiet _

theorem renewLease_calm (obeys : StaysOff hw) (remaining : U32) : Calming hw fun m => m.renewLease hw remaining := by
  intro m quiet
  unfold renewLease
  dsimp only
  by_cases unfit : ¬ m.timer.isArmed ∨ ¬ m.timer.healthy ∨ ¬ StopTimer.leaseFits remaining
  · rw [if_pos unfit]
    exact .refl quiet
  rw [if_neg unfit]
  by_cases flagged : m.timer.flagged = true
  · rw [if_pos flagged]
    exact irqHandler_calm obeys quiet
  rw [if_neg flagged]
  by_cases late : Reached m.timer.count m.timer.compare
  · rw [if_pos late]
    exact (expired_calm obeys quiet .normal).same rfl
  · rw [if_neg late]
    exact (commitArm_calm obeys).retimed quiet _

/-! ### Starts -/

theorem refreshRest_steady (quiet : m.Quiet hw) : Steady hw m (m.refreshRest hw m.clock) := by
  have confirmed : Steady hw m (m.confirmOff hw m.clock) := confirmOff_steady quiet
  unfold refreshRest settleRest
  dsimp only
  split
  · exact ⟨confirmed.time, ⟨confirmed.quiet.off, confirmed.quiet.pressing⟩, confirmed.kept⟩
  · exact ⟨confirmed.time, ⟨confirmed.quiet.off, confirmed.quiet.pressing⟩, confirmed.kept⟩

def Rested (hw : Hardware Bridge) (m : Device Bridge) : Prop :=
  (m.confirmOff hw m.clock).offVerified = true ∧
    Config.fullRestMs ≤ m.clock - (m.confirmOff hw m.clock).offAt ∧ m.build.segmentActive = false ∧
    m.build.preloadActive = false

/-- A bridge that is off is verified off as soon as it is looked at. -/
theorem confirmOff_verified (off : hw.isDisabled (m.confirmOff hw m.clock).bridge = true) :
    (m.confirmOff hw m.clock).offVerified = true := by
  unfold confirmOff at off ⊢
  by_cases on : ¬ hw.isDisabled m.bridge
  · rw [if_pos on] at off
    exact absurd off on
  rw [if_neg on]
  by_cases unverified : ¬ m.offVerified
  · rw [if_pos unverified]
  · rw [if_neg unverified]
    exact not_not.mp unverified

theorem refreshRest_bound (m : Device Bridge) :
    Bound m (m.refreshRest hw m.clock) ∨
      (Rested hw m ∧ (m.refreshRest hw m.clock).build.epoch = m.build.epoch + 1 ∧
        (m.refreshRest hw m.clock).build.approachReservedMs = 0 ∧
        (m.refreshRest hw m.clock).restRequired = false) := by
  have confirmed := @confirmOff_bound _ hw m m.clock
  have books := @confirmOff_build _ hw m m.clock
  have verified := @confirmOff_verified _ hw m
  unfold Rested
  unfold refreshRest
  generalize m.confirmOff hw m.clock = k at confirmed books verified ⊢
  unfold settleRest
  dsimp only
  by_cases due : ((¬ k.build.segmentActive ∧ ¬ k.build.preloadActive ∧ hw.isDisabled k.bridge = true) ∧
      (k.restRequired = true ∨ k.build.reservedMs ≠ 0) ∧ Config.fullRestMs ≤ m.clock - k.offAt)
  · right
    rw [if_pos due]
    obtain ⟨⟨ended, released, off⟩, _, long⟩ := due
    rw [books] at ended released
    refine ⟨⟨verified off, long, Bool.eq_false_iff.mpr ended, Bool.eq_false_iff.mpr released⟩, ?_, rfl, rfl⟩
    rw [← books]
    rfl
  · left
    rw [if_neg due]
    exact ⟨confirmed.epoch, confirmed.spent, confirmed.rest⟩

theorem takesOver_calm (obeys : StaysOff hw) (quiet : m.Quiet hw) (r : Request) (now : U32) :
    Calm hw m (m.takesOver hw r now).2 := by
  unfold takesOver
  by_cases brake : m.build.preloadActive = true
  · rw [if_pos brake]
    by_cases released : ¬ hw.isBraking m.bridge
    · rw [if_pos released]
      exact .refl quiet
    · rw [if_neg released]
      exact commitArm_calm obeys m quiet
  rw [if_neg brake]
  by_cases approach : m.fromApproach r = true
  · rw [if_pos approach]
    by_cases unmatched : ¬ hw.matchesPlan 0 m.drive.tim3 m.bridge
    · rw [if_pos unmatched]
      exact .refl quiet
    · rw [if_neg unmatched]
      exact commitArm_calm obeys m quiet
  · rw [if_neg approach]
    exact .refl quiet

theorem giveWay_calm (quiet : m.Quiet hw) (r : Request) (now : U32) : Calm hw m (m.giveWay r now) := by
  unfold giveWay
  dsimp only
  by_cases approach : m.fromApproach r = true
  · rw [if_pos approach]
    have ended := recordPulseEnd_calm quiet now .reduced
    have cleared : Calm hw m { m.recordPulseEnd now .reduced with
      build := { (m.recordPulseEnd now .reduced).build with postPending := false } } := ended.same rfl
    exact cleared.trans (chargePreload_calm cleared.quiet now)
  · rw [if_neg approach]
    exact chargePreload_calm quiet now

theorem giveWay_pending (m : Device Bridge) (r : Request) (now : U32) : (m.giveWay r now).pending = m.pending := by
  have charged (k : Device Bridge) : (k.chargePreload now).pending = k.pending := by
    unfold chargePreload
    by_cases off : ¬ k.build.preloadActive
    · rw [if_pos off]
    · rw [if_neg off]
  unfold giveWay
  dsimp only
  rw [charged]
  by_cases approach : m.fromApproach r = true
  · rw [if_pos approach]
    change (m.recordPulseEnd now .reduced).pending = m.pending
    unfold recordPulseEnd
    by_cases active : ¬ m.build.segmentActive
    · rw [if_pos active]
    · rw [if_neg active]
  · rw [if_neg approach]

theorem refreshRest_pending (m : Device Bridge) (now : U32) : (m.refreshRest hw now).pending = m.pending := by
  have confirmed : (m.confirmOff hw now).pending = m.pending := by
    unfold confirmOff
    by_cases on : ¬ hw.isDisabled m.bridge
    · rw [if_pos on]
    rw [if_neg on]
    by_cases unverified : ¬ m.offVerified
    · rw [if_pos unverified]
    · rw [if_neg unverified]
  unfold refreshRest settleRest
  dsimp only
  split
  · exact confirmed
  · exact confirmed

theorem reserve_all (reserved : U32) : reserved + (Config.approachTotalMs - reserved) = Config.approachTotalMs := by
  rw [BitVec.add_comm]
  exact BitVec.sub_add_cancel _ _

theorem book_spends {r : Request} (approach : r.phase = .approach) (sequence : U64) (received now : U32) :
    (m.book r sequence received now).spent := by
  right
  unfold book hardLimit approachLeft
  dsimp only
  rw [if_pos approach, if_pos approach, reserve_all]
  exact BitVec.le_refl _

theorem book_bound (m : Device Bridge) (r : Request) (sequence : U64) (received now : U32) :
    Bound m (m.book r sequence received now) := by
  refine ⟨rfl, ?_, id⟩
  intro before
  by_cases approach : r.phase = .approach
  · exact book_spends approach sequence received now
  rcases before with rest | reserved
  · exact .inl rest
  · right
    unfold book
    dsimp only
    rw [if_neg approach]
    change _ ≤ m.build.approachReservedMs + 0#32
    rw [BitVec.add_zero]
    exact reserved

theorem book_calm (quiet : m.Quiet hw) (r : Request) (sequence : U64) (received now : U32) :
    Calm hw m (m.book r sequence received now) :=
  ⟨⟨rfl, ⟨quiet.off, quiet.pressing⟩, fun verified => .inr ⟨verified, rfl⟩⟩, book_bound m r sequence received now⟩

theorem planPress_ne {command : U32} {duty : U16} (plans : planPress command = some duty) : duty ≠ 0 := by
  unfold planPress Pulses.planCommand at plans
  by_cases high : (12000 : U32) < command
  · rw [if_pos high] at plans
    contradiction
  rw [if_neg high] at plans
  by_cases bad : command.toNat = 0 ∨ Pulses.supplyReferenceMv < command.toNat
  · rw [if_pos bad] at plans
    contradiction
  rw [if_neg bad] at plans
  have counts := Option.some.inj plans
  unfold Pulses.supplyReferenceMv Pulses.pwmPeriodCounts at counts
  dsimp only at counts
  rw [← counts]
  have positive : 0 < command.toNat := Nat.pos_of_ne_zero (fun zero => bad (.inl zero))
  intro zero
  have value := congrArg BitVec.toNat zero
  rw [BitVec.toNat_ofNat] at value
  change min _ _ % 2 ^ 16 = 0 at value
  omega

theorem plan_calm (quiet : m.Quiet hw) (r : Request) {duty : U16} (positive : duty ≠ 0) (now : U32) :
    Calm hw m (m.plan r duty now) where
  steady := ⟨rfl, ⟨quiet.off, fun active => ⟨rfl, positive, (quiet.pressing active).2.2⟩⟩,
    fun verified => .inr ⟨verified, rfl⟩⟩
  bound := ⟨rfl, id, id⟩

theorem program_calm (obeys : StaysOff hw) (r : Request) (origin : Origin) (now : U32) :
    Calming hw fun m => m.program hw r origin now := by
  intro m quiet
  unfold program
  dsimp only
  by_cases approach : r.phase = .approach
  · rw [if_pos approach]
    exact armLease_calm obeys _ m quiet
  rw [if_neg approach]
  by_cases off : origin = .off
  · rw [if_pos off]
    exact (Calm.refl quiet).same rfl
  · rw [if_neg off]
    exact (Calm.refl quiet).same rfl

theorem apply_calm (quiet : m.Quiet hw) (origin : Origin) (duty : U16) :
    Calm hw m (apply hw { m with offVerified := false } origin duty).2 where
  steady := ⟨rfl, ⟨fun verified => by contradiction, quiet.pressing⟩, fun verified => by contradiction⟩
  bound := ⟨rfl, id, id⟩

theorem energize_calm (obeys : StaysOff hw) (quiet : m.Quiet hw) (idle : m.pending = none)
    (planned : m.drive.tim2 = 0 ∧ m.drive.tim3 ≠ 0) (r : Request) (origin : Origin) (duty : U16) (now : U32) :
    Calm hw m (m.energize hw 0 r origin duty now).2 := by
  unfold energize
  dsimp only
  have still : Calm hw m (m.elapse 0) := (Calm.refl quiet).same rfl
  have programmed := still.trans (program_calm obeys r origin now _ still.quiet)
  by_cases failed : ¬ ((m.elapse 0).program hw r origin now).1
  · rw [if_pos failed]
    exact programmed.trans (abort_calm obeys programmed.quiet _)
  rw [if_neg failed]
  obtain ⟨timer, same, _⟩ := program_ok (not_not.mp failed)
  have kept : ((m.elapse 0).program hw r origin now).2 = { m.elapse 0 with timer := timer } := congrArg Prod.snd same
  have waits : ((m.elapse 0).program hw r origin now).2.pending = none := by
    rw [kept]
    exact idle
  have presses : ((m.elapse 0).program hw r origin now).2.drive = m.drive := by
    rw [kept]
    rfl
  generalize ((m.elapse 0).program hw r origin now).2 = armed at programmed waits presses ⊢
  have active : Calm hw m { armed with build := { armed.build with segmentActive := true } } := by
    refine ⟨⟨programmed.steady.time, ⟨programmed.quiet.off, ?_⟩, programmed.steady.kept⟩, programmed.bound.epoch,
      programmed.bound.spent, programmed.bound.rest⟩
    intro _
    change armed.drive.tim2 = 0 ∧ armed.drive.tim3 ≠ 0 ∧ armed.pending = none
    rw [presses]
    exact ⟨planned.1, planned.2, waits⟩
  have ready := active.trans (commitArm_calm obeys _ active.quiet)
  generalize commitArm hw { armed with build := { armed.build with segmentActive := true } } = kept at ready ⊢
  by_cases lost : ¬ stands kept
  · rw [if_pos lost]
    exact ready.trans (abort_calm obeys ready.quiet _)
  rw [if_neg lost]
  have applied := ready.trans (apply_calm ready.quiet origin duty)
  generalize apply hw { kept.2 with offVerified := false } origin duty = driven at applied ⊢
  by_cases refused : ¬ driven.1 ∨ ¬ hw.matchesPlan 0 duty driven.2.bridge
  · rw [if_pos refused]
    exact applied.trans (abort_calm obeys applied.quiet _)
  rw [if_neg refused]
  have done := applied.trans (commitArm_calm obeys _ applied.quiet)
  by_cases dropped : ¬ stands (driven.2.commitArm hw)
  · rw [if_pos dropped]
    exact done.trans (abort_calm obeys done.quiet _)
  · rw [if_neg dropped]
    exact done

inductive Outcome (hw : Hardware Bridge) (m : Device Bridge) : Device Bridge → Prop
  | calm {n : Device Bridge} (calm : Calm hw m n) : Outcome hw m n
  | refreshed {n : Device Bridge} (calm : Calm hw (m.refreshRest hw m.clock) n) : Outcome hw m n

theorem startBuildSegment_outcome (obeys : StaysOff hw) (quiet : m.Quiet hw) (token : U32) (r : Request)
    (sequence : U64) (received : U32) : Outcome hw m (m.startBuildSegment hw token r sequence received).2 := by
  unfold startBuildSegment startBuildSegmentAfter
  dsimp only
  by_cases refused : m.refuses token r sequence
  · rw [if_pos refused]
    exact .calm (.refl quiet)
  rw [if_neg refused]
  apply Outcome.refreshed
  have refreshed := refreshRest_steady quiet
  have rested := Calm.refl refreshed.quiet
  by_cases unfit : (m.refreshRest hw m.clock).restRequired = true ∨ ageMs < m.clock - received ∨
      ¬ (m.refreshRest hw m.clock).isHealthy hw
  · rw [if_pos unfit]
    exact abort_calm obeys rested.quiet _
  rw [if_neg unfit]
  have taken := takesOver_calm obeys refreshed.quiet r m.clock
  by_cases wrong : ¬ ((m.refreshRest hw m.clock).takesOver hw r m.clock).1 ∨
      ¬ ((m.refreshRest hw m.clock).takesOver hw r m.clock).2.admits r (m.clock - received)
  · rw [if_pos wrong]
    exact taken.trans (abort_calm obeys taken.quiet _)
  rw [if_neg wrong]
  push Not at wrong
  obtain ⟨timer, same⟩ := takesOver_ok wrong.1
  generalize ((m.refreshRest hw m.clock).takesOver hw r m.clock).2 = k at taken same wrong ⊢
  have free := taken.trans (giveWay_calm taken.quiet r m.clock)
  by_cases over_ : r.phase = .approach ∧ (k.giveWay r m.clock).approachSpent
  · rw [if_pos over_]
    have required : Calm hw (m.refreshRest hw m.clock) { k.giveWay r m.clock with restRequired := true } :=
      ⟨⟨free.steady.time, ⟨free.quiet.off, free.quiet.pressing⟩, free.steady.kept⟩, free.bound.epoch,
        fun _ => .inl rfl, fun _ => rfl⟩
    exact required.trans (abort_calm obeys required.quiet _)
  rw [if_neg over_]
  have booked := free.trans (book_calm free.quiet r sequence received m.clock)
  have pending : (k.giveWay r m.clock).pending = none := by
    rw [giveWay_pending, same]
    have idle := (not_or.mp (not_or.mp (not_or.mp (not_or.mp (not_or.mp refused).2).2).2).2).1
    exact (refreshRest_pending m m.clock).trans (not_not.mp idle)
  cases plans : planPress r.command with
  | none => exact booked.trans (abort_calm obeys booked.quiet _)
  | some duty =>
    have positive := planPress_ne plans
    have planned := booked.trans (plan_calm booked.quiet r positive m.clock)
    exact planned.trans (energize_calm obeys planned.quiet pending ⟨rfl, positive⟩ r _ duty m.clock)

/-! ### The other calls -/

theorem beginBuild_outcome (quiet : m.Quiet hw) : Outcome hw m (m.beginBuild hw).2 := by
  have rested := Calm.refl (refreshRest_steady quiet).quiet
  unfold beginBuild
  dsimp only
  apply Outcome.refreshed
  by_cases refused : ¬ (m.refreshRest hw m.clock).mayBegin hw
  · rw [if_pos refused]
    exact rested
  · rw [if_neg refused]
    exact rested.same rfl

theorem abortLate_calm (obeys : StaysOff hw) (quiet : m.Quiet hw) : Calm hw m (m.abortLate hw) := by
  have aborted := abort_calm obeys quiet .deadline
  exact ⟨⟨aborted.steady.time, ⟨aborted.quiet.off, aborted.quiet.pressing⟩, aborted.steady.kept⟩,
    aborted.bound.epoch, fun _ => .inl rfl, fun _ => rfl⟩

theorem endBuildSegment_calm (obeys : StaysOff hw) (quiet : m.Quiet hw) (token : U32) :
    Calm hw m (m.endBuildSegment hw token).2 := by
  unfold endBuildSegment
  dsimp only
  by_cases foreign_ : ¬ m.owned ∨ token ≠ m.generation ∨ ¬ m.build.segmentActive ∨ m.pending ≠ none
  · rw [if_pos foreign_]
    exact .refl quiet
  rw [if_neg foreign_]
  have held : Calm hw m (if m.drive.direction = .press then m else m.disableImmediate hw) := by
    by_cases press : m.drive.direction = .press
    · rw [if_pos press]
      exact .refl quiet
    · rw [if_neg press]
      exact disableImmediate_calm obeys quiet
  have kept := held.trans (commitArm_calm obeys _ held.quiet)
  generalize commitArm hw (if m.drive.direction = .press then m else m.disableImmediate hw) = k at kept ⊢
  by_cases lost : ¬ stands k ∨ k.2.due m.clock
  · rw [if_pos lost]
    exact kept.trans (abortLate_calm obeys kept.quiet)
  rw [if_neg lost]
  by_cases press : m.drive.direction = .press
  · rw [if_pos press]
    have finished : Calm hw k.2
        (k.2.finishPulse hw (fun remaining m => m.renewLease hw remaining) m.clock .reduced).2 :=
      finishPulse_calm kept.quiet obeys (fun remaining => renewLease_calm obeys remaining) _ _
    by_cases ok : (k.2.finishPulse hw (fun remaining m => m.renewLease hw remaining) m.clock .reduced).1 = .ok
    · rw [if_pos ok]
      exact kept.trans finished
    · rw [if_neg ok]
      exact kept.trans (finished.trans (abort_calm obeys finished.quiet _))
  rw [if_neg press]
  have recorded := kept.trans (recordOff_calm kept.quiet kept.steady.clock.symm .reduced)
  have ended := @recordOff_segment _ hw k.2 m.clock .reduced
  split
  · exact recorded.closed ended rfl rfl rfl rfl rfl rfl rfl
  · exact recorded.closed ended rfl rfl rfl rfl rfl rfl rfl

theorem acceptBuildPost_calm (obeys : StaysOff hw) (quiet : m.Quiet hw) (token request : U32) (sequence : U64)
    (received : U32) : Calm hw m (m.acceptBuildPost hw token request sequence received).2 := by
  unfold acceptBuildPost
  dsimp only
  split
  · exact .refl quiet
  split
  · split
    · exact .refl quiet
    · have kept := commitArm_calm obeys m quiet
      split
      · exact kept
      · exact kept.same rfl
  · split
    · exact .refl quiet
    · exact (Calm.refl quiet).same rfl

theorem refreshBuildFeedback_calm (obeys : StaysOff hw) (quiet : m.Quiet hw) (token : U32) (sequence : U64)
    (received : U32) : Calm hw m (m.refreshBuildFeedback hw token sequence received).2 := by
  unfold refreshBuildFeedback
  dsimp only
  split
  · exact .refl quiet
  split
  · exact (Calm.refl quiet).same rfl
  split
  · exact abort_calm obeys quiet _
  have kept : Calm hw m (m.renewLease hw (m.renewedDeadline received - m.clock)).2 := renewLease_calm obeys _ m quiet
  split
  · exact kept.trans (abort_calm obeys kept.quiet _)
  · exact kept.same rfl

theorem disable_calm (obeys : StaysOff hw) (quiet : m.Quiet hw) : Calm hw m (m.disable hw).2 := by
  have off := disableImmediate_calm obeys quiet
  have recorded := off.trans (recordOff_calm off.quiet rfl .stop)
  have ended := @recordOff_segment _ hw (m.disableImmediate hw) (m.disableImmediate hw).clock .stop
  unfold disable
  dsimp only
  generalize (m.disableImmediate hw).recordOff hw (m.disableImmediate hw).clock .stop = k at recorded ended ⊢
  have closed : Calm hw m { k.cancel with
      owned := false, pending := none
      drive := { k.drive with
        lastAction := .disabled, commandMv := 0, logicalDeadlineMs := 0, logicalBackstopMs := 0
        tim2 := 0, tim3 := 0, logicalActive := false } } := recorded.closed ended rfl rfl rfl rfl rfl rfl rfl
  split
  · exact closed.trans (disableImmediate_calm obeys closed.quiet)
  split
  · exact closed.same rfl
  · exact closed

/-- A completion is published for a segment that is off the books. -/
theorem publishCompletion_calm (obeys : StaysOff hw) (quiet : m.Quiet hw) (event : StopEvent)
    (ended : event = .normal → m.build.segmentActive = false) : Calm hw m (m.publishCompletion hw event).2 := by
  unfold publishCompletion
  dsimp only
  generalize same : (if m.drive.lastAction = .buildSegment ∧ m.build.endReason = .deadline then .error else event) =
    shown
  have shownNormal : shown = .normal → m.build.segmentActive = false := by
    intro normal
    rw [← same] at normal
    by_cases late : m.drive.lastAction = .buildSegment ∧ m.build.endReason = .deadline
    · rw [if_pos late] at normal
      contradiction
    · rw [if_neg late] at normal
      exact ended normal
  have recorded : Calm hw m (if shown ≠ .normal then (m.disableImmediate hw).recordOff hw (m.disableImmediate hw).clock
        .deadline else m) ∧
      (if shown ≠ .normal then (m.disableImmediate hw).recordOff hw (m.disableImmediate hw).clock .deadline
        else m).build.segmentActive = false := by
    by_cases abnormal : shown ≠ .normal
    · rw [if_pos abnormal]
      have off := disableImmediate_calm obeys quiet
      exact ⟨off.trans (recordOff_calm off.quiet rfl .deadline), recordOff_segment _ _ _⟩
    · rw [if_neg abnormal]
      exact ⟨.refl quiet, shownNormal (not_not.mp abnormal)⟩
  generalize (if shown ≠ .normal then (m.disableImmediate hw).recordOff hw (m.disableImmediate hw).clock .deadline
    else m) = k at recorded ⊢
  obtain ⟨calm, over_⟩ := recorded
  split
  · have off := calm.trans (disableImmediate_calm obeys calm.quiet)
    exact off.closed over_ rfl rfl rfl rfl rfl rfl rfl
  · exact calm.closed over_ rfl rfl rfl rfl rfl rfl rfl

theorem service_calm (obeys : StaysOff hw) (quiet : m.Quiet hw) (now : U32) : Calm hw m (m.service hw now).2 := by
  have silenced : Calm hw m ((m.disableImmediate hw).cancel) := (disableImmediate_calm obeys quiet).same rfl
  have failure : Calm hw m (m.publishFailure hw).2 :=
    silenced.trans (publishCompletion_calm obeys silenced.quiet .error (fun normal => by contradiction))
  unfold service
  cases happened : m.pending with
  | some event =>
    dsimp only
    have over_ : m.build.segmentActive = false := by
      apply Bool.eq_false_iff.mpr
      intro active
      rw [(quiet.pressing active).2.2] at happened
      contradiction
    have taken : Calm hw m { m with pending := none } :=
      (Calm.refl quiet).closed over_ rfl rfl rfl rfl rfl rfl rfl
    exact taken.trans (publishCompletion_calm obeys taken.quiet event (fun _ => over_))
  | none =>
    dsimp only
    split
    · split
      · exact silenced.same rfl
      split
      · exact silenced.same rfl
      split
      · exact .refl quiet
      · exact .refl quiet
    split
    · exact failure
    split
    · exact failure
    · exact .refl quiet

theorem guardOutput_calm (obeys : StaysOff hw) (quiet : m.Quiet hw) : Calm hw m (m.guardOutput hw).2 := by
  have silenced : Calm hw m ((m.disableImmediate hw).cancel) := (disableImmediate_calm obeys quiet).same rfl
  unfold guardOutput guardPendingCompletion
  dsimp only
  split
  · exact silenced
  split
  · split
    · exact .refl quiet
    · exact silenced
  · exact silenced

end Device

end Sd700.Motor.BuildExecutor

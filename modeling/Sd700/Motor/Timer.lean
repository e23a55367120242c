import Mathlib.Logic.Function.Iterate
import Sd700.Build.Contract
import Sd700.Logic.Modular

/-! TIM5 as `motor_stop_timer_tim5.c` programs it: ten counts a millisecond, a compare that ends a pulse
and an auto-reload that backs it up. The calls that may run the interrupt handler stand with the executor,
whose handler it is. -/

namespace Sd700.Motor.Timer
open Build.Contract Logic.Modular

/-- `MotorStopTimerEvent`. -/
inductive StopEvent
  | normal | backstop | error
  deriving DecidableEq

/-- The driver's statics, and the bits and words of TIM5 and its interrupt line. -/
structure StopTimer where
  initialized : Bool
  armed : Bool
  healthy : Bool
  normalCallback : Bool
  handoff : Bool
  enabled : Bool
  onePulse : Bool
  interrupts : Bool
  line : Bool
  count : U32
  compare : U32
  reload : U32
  updated : Bool
  compared : Bool
  overcaptured : Bool
  deriving DecidableEq

namespace StopTimer

variable (t : StopTimer)

/-- `UIF`, `CC1IF` or `CC1OF` is set. -/
def flagged : Bool := t.updated || t.compared || t.overcaptured

/-- `MotorStopTimer_IsArmed`. -/
def isArmed : Bool := t.armed && t.enabled

/-- `MotorStopTimer_IsHealthy`. -/
def isHealthy : Bool := t.initialized && t.healthy

def clearFlags : StopTimer := { t with updated := false, compared := false, overcaptured := false }

/-- `MotorStopTimer_Cancel`. -/
def cancel : StopTimer :=
  { t.clearFlags with enabled := false, interrupts := false, count := 0, armed := false, line := false }

def start (onePulse : Bool) (compare reload : U32) : StopTimer :=
  { t.clearFlags with
    onePulse := onePulse, compare := compare, reload := reload, count := 0, interrupts := true
    armed := true, enabled := true }

/-- `MotorStopTimer_Arm`. -/
def arm (normalMs backstopMs : U32) : Bool × StopTimer :=
  let t := t.cancel
  if ¬ t.isHealthy ∨ normalMs = 0 ∨ backstopMs ≤ normalMs ∨ 2 ^ 32 ≤ normalMs.toNat * 10 ∨
      2 ^ 32 ≤ backstopMs.toNat * 10 then (false, t)
  else (true, t.start true (normalMs * 10) (backstopMs * 10 - 1))

/-- What `MotorStopTimer_ArmLease` and `MotorStopTimer_RenewLease` ask of a lease. -/
def leaseFits (remainingMs : U32) : Bool := decide (1 < remainingMs) && decide (remainingMs ≤ leaseMs)

def leaseCounts (remainingMs : U32) : U32 := (remainingMs - 1) * 10

/-- `MotorStopTimer_BuildTransitionReady`. -/
def buildTransitionReady : Bool := t.isArmed && t.healthy && !t.flagged

/-- `MotorStopTimer_BuildHandoff`. -/
def buildHandoff (remainingMs : U32) : Bool × StopTimer :=
  if ¬ t.buildTransitionReady ∨ ¬ t.onePulse ∨ t.reload ≤ t.count ∨ ¬ leaseFits remainingMs then (false, t)
  else
    let t := { t with
      compare := t.count + leaseCounts remainingMs, reload := BitVec.allOnes 32, onePulse := false }
    if ¬ t.buildTransitionReady ∨ Reached t.count t.compare then (false, t)
    else (true, { t with handoff := t.normalCallback || t.handoff })

/-- `MotorStopTimer_BuildPulse`. -/
def buildPulse (normalMs hardMs : U32) : Bool × StopTimer :=
  if ¬ t.buildTransitionReady ∨ t.onePulse ∨ Reached t.count t.compare ∨ normalMs = 0 ∨
      hardMs ≤ normalMs ∨ leaseMs < hardMs then (false, t)
  else
    let t := { t with
      compare := t.count + normalMs * 10, reload := t.count + hardMs * 10 - 1, onePulse := true }
    (t.buildTransitionReady && decide (t.count < t.reload), t)

/-! ### Time -/

/-- One count of the timer: a match sets its flag, and the reload ends a one-pulse count. -/
def tick : StopTimer :=
  if ¬ t.enabled then t
  else if t.count = t.reload then
    { t with
      count := 0, updated := true, compared := t.compared || decide (t.compare = 0)
      enabled := !t.onePulse }
  else { t with count := t.count + 1, compared := t.compared || decide (t.compare = t.count + 1) }

def elapse (ticks : Nat) : StopTimer := tick^[ticks] t

variable {t}

@[simp] theorem elapse_zero (t : StopTimer) : t.elapse 0 = t := rfl

theorem elapse_succ (t : StopTimer) (ticks : Nat) : t.elapse (ticks + 1) = (t.elapse ticks).tick :=
  Function.iterate_succ_apply' tick ticks t

theorem elapse_stopped (stopped : t.enabled = false) (ticks : Nat) : t.elapse ticks = t := by
  induction ticks with
  | zero => rfl
  | succ ticks ih =>
    rw [elapse_succ, ih]
    simp [tick, stopped]

theorem count_toNat {c : U32} {ticks : Nat} (bounded : c.toNat + ticks < 2 ^ 32) :
    (c + BitVec.ofNat 32 ticks).toNat = c.toNat + ticks := by
  rw [BitVec.toNat_add, BitVec.toNat_ofNat]
  omega

theorem count_succ (c : U32) (ticks : Nat) :
    c + BitVec.ofNat 32 ticks + 1 = c + BitVec.ofNat 32 (ticks + 1) := by
  apply BitVec.eq_of_toNat_eq
  simp only [BitVec.toNat_add, BitVec.ofNat_eq_ofNat, BitVec.toNat_ofNat]
  omega

theorem elapse_counting (on : t.enabled = true) (clear : t.compared = false) (ticks : Nat)
    (compare : t.count.toNat + ticks < t.compare.toNat) (reload : t.count.toNat + ticks ≤ t.reload.toNat) :
    t.elapse ticks = { t with count := t.count + BitVec.ofNat 32 ticks } := by
  induction ticks with
  | zero => simp
  | succ ticks ih =>
    have wide := t.compare.isLt
    have moved : (t.count + BitVec.ofNat 32 ticks).toNat = t.count.toNat + ticks := count_toNat (by omega)
    have next : (t.count + BitVec.ofNat 32 (ticks + 1)).toNat = t.count.toNat + (ticks + 1) :=
      count_toNat (by omega)
    have early : t.count + BitVec.ofNat 32 ticks ≠ t.reload := by
      intro same
      have value := congrArg BitVec.toNat same
      omega
    have unmatched : t.compare ≠ t.count + BitVec.ofNat 32 (ticks + 1) := by
      intro same
      have value := congrArg BitVec.toNat same
      omega
    rw [elapse_succ, ih (by omega) (by omega)]
    unfold tick
    rw [if_neg (by simp [on]), if_neg early]
    simp only [count_succ, clear, Bool.false_or, decide_eq_false unmatched]

/-- At its compare, still short of its reload, the compare flag is set and nothing else. -/
theorem elapse_matching (on : t.enabled = true) (clear : t.compared = false) {ticks : Nat} (later : 0 < ticks)
    (compare : t.count.toNat + ticks = t.compare.toNat) (reload : t.compare.toNat ≤ t.reload.toNat) :
    t.elapse ticks = { t with count := t.compare, compared := true } := by
  obtain ⟨before, rfl⟩ : ∃ before, ticks = before + 1 := ⟨ticks - 1, by omega⟩
  have wide := t.compare.isLt
  have moved : (t.count + BitVec.ofNat 32 before).toNat = t.count.toNat + before := count_toNat (by omega)
  have next : t.count + BitVec.ofNat 32 (before + 1) = t.compare := by
    apply BitVec.eq_of_toNat_eq
    rw [count_toNat (by omega), compare]
  have early : t.count + BitVec.ofNat 32 before ≠ t.reload := by
    intro same
    have value := congrArg BitVec.toNat same
    omega
  rw [elapse_succ, elapse_counting on clear before (by omega) (by omega)]
  unfold tick
  rw [if_neg (by simp [on]), if_neg early]
  simp only [count_succ, next, decide_true, Bool.or_true]

/-! ### A pulse on the timer -/

/-- A pulse is programmed: its compare and its reload lie ahead by so many milliseconds of ten counts. -/
structure Pulsed (normalMs hardMs : U32) (t : StopTimer) : Prop where
  ready : t.buildTransitionReady = true
  onePulse : t.onePulse = true
  compare : t.compare.toNat = t.count.toNat + normalMs.toNat * 10
  reload : t.reload.toNat + 1 = t.count.toNat + hardMs.toNat * 10

theorem flagged_eq_false (t : StopTimer) :
    t.flagged = false ↔ t.updated = false ∧ t.compared = false ∧ t.overcaptured = false := by
  simp [flagged, and_assoc]

theorem Pulsed.flags {normalMs hardMs : U32} (pulsed : Pulsed normalMs hardMs t) :
    t.armed = true ∧ t.enabled = true ∧ t.healthy = true ∧ t.updated = false ∧ t.compared = false ∧
      t.overcaptured = false := by
  have ready := pulsed.ready
  simp only [buildTransitionReady, isArmed, Bool.and_eq_true, Bool.not_eq_true', flagged_eq_false] at ready
  exact ⟨ready.1.1.1, ready.1.1.2, ready.1.2, ready.2⟩

theorem Pulsed.line {normalMs hardMs : U32} (pulsed : Pulsed normalMs hardMs t) :
    Pulsed normalMs hardMs { t with line := true } :=
  ⟨pulsed.ready, pulsed.onePulse, pulsed.compare, pulsed.reload⟩

theorem arm_pulsed {normalMs hardMs : U32} (ok : (t.arm normalMs hardMs).1 = true) :
    Pulsed normalMs hardMs (t.arm normalMs hardMs).2 := by
  unfold arm at ok ⊢
  dsimp only at ok ⊢
  split at ok
  · exact nomatch ok
  rename_i fits
  rw [if_neg fits]
  push Not at fits
  obtain ⟨healthy, positive, longer, normalFits, hardFits⟩ := fits
  rw [isHealthy, Bool.and_eq_true] at healthy
  have lengths : normalMs.toNat < hardMs.toNat := BitVec.not_le.mp longer
  refine ⟨?_, rfl, ?_, ?_⟩
  · simp only [buildTransitionReady, isArmed, start, flagged, clearFlags, Bool.or_self, Bool.not_false,
      Bool.and_true, healthy.2]
  · simp only [start, BitVec.toNat_mul, BitVec.toNat_ofNat, BitVec.ofNat_eq_ofNat]
    omega
  · simp only [start, BitVec.toNat_sub, BitVec.toNat_mul, BitVec.toNat_ofNat, BitVec.ofNat_eq_ofNat]
    omega

theorem buildPulse_pulsed {normalMs hardMs : U32} (ok : (t.buildPulse normalMs hardMs).1 = true) :
    Pulsed normalMs hardMs (t.buildPulse normalMs hardMs).2 := by
  unfold buildPulse at ok ⊢
  dsimp only at ok ⊢
  split at ok
  · exact nomatch ok
  rename_i fits
  rw [if_neg fits]
  push Not at fits
  obtain ⟨-, -, -, positive, longer, short⟩ := fits
  rw [Bool.and_eq_true, decide_eq_true_eq] at ok
  have lengths : normalMs.toNat < hardMs.toNat := BitVec.not_le.mp longer
  have bound : hardMs.toNat ≤ 130 := BitVec.not_lt.mp short
  have room : t.count.toNat < (t.count + hardMs * 10 - 1).toNat := ok.2
  have wide := t.count.isLt
  have scaled {ms : U32} (short : ms.toNat ≤ 130) : (ms * 10#32).toNat = ms.toNat * 10 := by
    simp only [BitVec.toNat_mul, BitVec.toNat_ofNat]
    omega
  simp only [BitVec.toNat_sub, BitVec.toNat_add, scaled bound, BitVec.toNat_ofNat, BitVec.ofNat_eq_ofNat] at room
  -- The reload is ahead of the counter, so neither word has wrapped.
  have unwrapped : t.count.toNat + hardMs.toNat * 10 ≤ 2 ^ 32 := by
    by_contra wrapped
    have low : (t.count.toNat + hardMs.toNat * 10) % 2 ^ 32 = t.count.toNat + hardMs.toNat * 10 - 2 ^ 32 := by
      omega
    rw [low] at room
    omega
  refine ⟨ok.1, rfl, ?_, ?_⟩
  · simp only [BitVec.toNat_add, BitVec.ofNat_eq_ofNat, scaled (show normalMs.toNat ≤ 130 by omega)]
    omega
  · simp only [BitVec.toNat_sub, BitVec.toNat_add, scaled bound, BitVec.toNat_ofNat, BitVec.ofNat_eq_ofNat]
    omega

theorem Pulsed.counting {normalMs hardMs : U32} (pulsed : Pulsed normalMs hardMs t) (longer : normalMs < hardMs)
    {ticks : Nat} (before : ticks < normalMs.toNat * 10) :
    t.elapse ticks = { t with count := t.count + BitVec.ofNat 32 ticks } := by
  obtain ⟨-, on, -, -, clear, -⟩ := pulsed.flags
  have lengths : normalMs.toNat < hardMs.toNat := longer
  have compare := pulsed.compare
  have reload := pulsed.reload
  exact elapse_counting on clear ticks (by omega) (by omega)

theorem Pulsed.matched {normalMs hardMs : U32} (pulsed : Pulsed normalMs hardMs t) (longer : normalMs < hardMs)
    (positive : normalMs ≠ 0) :
    t.elapse (normalMs.toNat * 10) = { t with count := t.compare, compared := true } := by
  obtain ⟨-, on, -, -, clear, -⟩ := pulsed.flags
  have lengths : normalMs.toNat < hardMs.toNat := longer
  have compare := pulsed.compare
  have reload := pulsed.reload
  have later : 0 < normalMs.toNat := by
    apply Nat.pos_of_ne_zero
    intro zero
    exact positive (BitVec.eq_of_toNat_eq zero)
  exact elapse_matching on clear (by omega) (by omega) (by omega)

/-! ### The handoff to BRAKE -/

/-- The timer once BRAKE holds it: free-running, with its compare a millisecond short of the lease. -/
def handedOff (t : StopTimer) (remainingMs : U32) : StopTimer :=
  { t with
    compare := t.count + leaseCounts remainingMs, reload := BitVec.allOnes 32, onePulse := false
    handoff := t.normalCallback || t.handoff }

theorem leaseFits_iff {remainingMs : U32} :
    leaseFits remainingMs = true ↔ 1 < remainingMs.toNat ∧ remainingMs.toNat ≤ 130 := by
  unfold leaseFits
  rw [Bool.and_eq_true, decide_eq_true_eq, decide_eq_true_eq]
  exact Iff.rfl

theorem leaseCounts_toNat {remainingMs : U32} (fits : leaseFits remainingMs = true) :
    (leaseCounts remainingMs).toNat = (remainingMs.toNat - 1) * 10 := by
  obtain ⟨low, high⟩ := leaseFits_iff.mp fits
  simp only [leaseCounts, BitVec.toNat_mul, BitVec.toNat_sub, BitVec.toNat_ofNat, BitVec.ofNat_eq_ofNat]
  omega

theorem lease_ahead {remainingMs : U32} (fits : leaseFits remainingMs = true) (count : U32) :
    ¬ Reached count (count + leaseCounts remainingMs) := by
  have counts := leaseCounts_toNat fits
  obtain ⟨low, high⟩ := leaseFits_iff.mp fits
  have order := reached_add_iff (b := count) (x := 0#32) (y := leaseCounts remainingMs) (by decide) (by omega)
  rw [BitVec.add_zero] at order
  rw [order, counts]
  simp only [BitVec.toNat_ofNat]
  omega

theorem buildHandoff_ok {remainingMs : U32} (ready : t.buildTransitionReady = true) (onePulse : t.onePulse = true)
    (room : t.count < t.reload) (fits : leaseFits remainingMs = true) :
    t.buildHandoff remainingMs = (true, t.handedOff remainingMs) := by
  have ahead := lease_ahead fits t.count
  unfold buildHandoff
  rw [if_neg (by simp [ready, onePulse, BitVec.not_le.mpr room, fits])]
  dsimp only
  have still : ({ t with
      compare := t.count + leaseCounts remainingMs, reload := BitVec.allOnes 32
      onePulse := false } : StopTimer).buildTransitionReady = true := ready
  rw [if_neg (not_or.mpr ⟨not_not.mpr still, ahead⟩)]
  rfl

end StopTimer

end Sd700.Motor.Timer

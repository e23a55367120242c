import Sd700.Motor.Timer

/-! How long TIM5 lets an output run: the counts until its compare, against a deadline in milliseconds. -/

namespace Sd700.Motor.Timer
open Build.Contract Logic.Modular

def millis (time : ℕ) : U32 := stamp 32 (time / 10)

namespace StopTimer

def lead (t : StopTimer) : ℕ := (t.compare - t.count).toNat

def Before (t : StopTimer) (time : ℕ) (deadline : U32) : Prop :=
  time % 10 + t.lead < 10 * (deadline - millis time).toNat ∧ (deadline - millis time).toNat ≤ 2 ^ 31

structure Counting (t : StopTimer) : Prop where
  healthy : t.isHealthy = true
  enabled : t.enabled = true
  interrupts : t.interrupts = true
  line : t.line = true
  repeats : t.onePulse = false → t.reload = BitVec.allOnes 32
  reload : t.onePulse = true → t.lead ≤ (t.reload - t.count).toNat
  ahead : t.flagged = true ∨ 0 < t.lead

variable {t : StopTimer} {time : ℕ} {deadline : U32}

theorem stamp_succ (time : ℕ) : stamp 32 (time + 1) = stamp 32 time + 1 := by
  unfold stamp
  exact BitVec.ofNat_add time 1

theorem Before.not_reached (before : t.Before time deadline) : ¬Reached (millis time) deadline := by
  obtain ⟨soon, near⟩ := before
  have away : 0 < (deadline - millis time).toNat := by omega
  unfold Reached
  have turned : (millis time - deadline).toNat + (deadline - millis time).toNat = 2 ^ 32 := by
    rw [BitVec.toNat_sub, BitVec.toNat_sub] at *
    have one := (millis time).isLt
    have two := deadline.isLt
    omega
  omega

/-- One count takes one off the lead, and at most a millisecond off a deadline. -/
theorem Before.tick (before : t.Before time deadline) {next : StopTimer} (lead : next.lead = t.lead - 1)
    (ahead : 0 < t.lead) :
    next.Before (time + 1) deadline ∧ (deadline - millis (time + 1)).toNat ≤ (deadline - millis time).toNat ∧
      (time + 1) / 10 + (deadline - millis (time + 1)).toNat = time / 10 + (deadline - millis time).toNat := by
  obtain ⟨soon, near⟩ := before
  by_cases turn : time % 10 = 9
  · have later : (time + 1) / 10 = time / 10 + 1 := by omega
    have clock : millis (time + 1) = millis time + 1 := by
      unfold millis
      rw [later, stamp_succ]
    have left : (deadline - millis (time + 1)).toNat = (deadline - millis time).toNat - 1 := by
      rw [clock, show deadline - (millis time + 1) = deadline - millis time - 1 from sub_add_eq_sub_sub _ _ _]
      apply BitVec.toNat_sub_of_le
      change 1 ≤ (deadline - millis time).toNat
      omega
    unfold Before
    rw [left, lead]
    omega
  · have same : (time + 1) / 10 = time / 10 := by omega
    have clock : millis (time + 1) = millis time := by
      unfold millis
      rw [same]
    unfold Before
    rw [clock, lead]
    omega

theorem tick_armed (t : StopTimer) : t.tick.armed = t.armed := by
  unfold tick
  split_ifs <;> rfl

/-- A running timer counts on, and the count before the compare raises its flag. -/
theorem tick_counting (enabled : t.enabled = true) (repeats : t.onePulse = false → t.reload = BitVec.allOnes 32)
    (short : t.onePulse = true → t.count ≠ t.reload) :
    t.tick = { t with count := t.count + 1, updated := t.tick.updated, compared := t.tick.compared } ∧
      (t.compare = t.count + 1 → t.tick.flagged = true) := by
  obtain ⟨initialized, armed, healthy, callback, handoff, on, pulse, interrupts, line, count, compare, end_, updated,
    compared, overcaptured⟩ := t
  dsimp only at enabled repeats short
  subst enabled
  unfold tick
  dsimp only
  rw [if_neg (not_not.mpr rfl)]
  by_cases wraps : count = end_
  · cases pulse with
    | true => exact absurd wraps (short rfl)
    | false =>
      rw [if_pos wraps, wraps, repeats rfl]
      exact ⟨rfl, fun _ => rfl⟩
  · rw [if_neg wraps]
    refine ⟨rfl, fun same => ?_⟩
    unfold flagged
    simp only [same, decide_true, Bool.or_true, Bool.true_or]

/-- Until the interrupt is asked for, a count takes one off the lead. -/
theorem Counting.tick (counting : t.Counting) (clear : t.flagged = false) :
    t.tick.Counting ∧ t.tick.lead = t.lead - 1 ∧ 0 < t.lead := by
  have ahead : 0 < t.lead := by
    cases counting.ahead with
    | inl flagged =>
      rw [clear] at flagged
      contradiction
    | inr ahead => exact ahead
  have short (pulse : t.onePulse = true) : t.count ≠ t.reload := by
    intro same
    have bounded := counting.reload pulse
    rw [same, BitVec.sub_self] at bounded
    exact absurd (Nat.lt_of_lt_of_le ahead bounded) (Nat.lt_irrefl 0)
  obtain ⟨same, fires⟩ := tick_counting counting.enabled counting.repeats short
  have less (word : U32) (positive : 0 < (word - t.count).toNat) :
      (word - (t.count + 1)).toNat = (word - t.count).toNat - 1 := by
    rw [show word - (t.count + 1) = word - t.count - 1 from sub_add_eq_sub_sub _ _ _]
    exact BitVec.toNat_sub_of_le (show 1 ≤ (word - t.count).toNat from positive)
  have lead : t.tick.lead = t.lead - 1 := by
    rw [same]
    exact less t.compare ahead
  refine ⟨?_, lead, ahead⟩
  exact {
    healthy := by rw [same]; exact counting.healthy
    enabled := by rw [same]; exact counting.enabled
    interrupts := by rw [same]; exact counting.interrupts
    line := by rw [same]; exact counting.line
    repeats := by rw [same]; exact counting.repeats
    reload := by
      rw [lead, same]
      intro pulse
      have bounded := counting.reload pulse
      change t.lead - 1 ≤ (t.reload - (t.count + 1)).toNat
      rw [less t.reload (Nat.lt_of_lt_of_le ahead bounded)]
      exact Nat.sub_le_sub_right bounded 1
    ahead := by
      by_cases fired : t.compare = t.count + 1
      · exact .inl (fires fired)
      · right
        have apart : t.lead ≠ 1 := by
          intro one
          apply fired
          have word : t.compare - t.count = 1 := BitVec.eq_of_toNat_eq one
          rw [← word, add_sub_cancel]
        omega }

/-- A timer that counts and shows no flag asks for nothing; one that shows a flag asks. -/
theorem Counting.asks (counting : t.Counting) : (t.line && t.interrupts && t.flagged) = t.flagged := by
  rw [counting.line, counting.interrupts]
  rfl

end StopTimer

structure Running (remaining : U32) (t : StopTimer) : Prop where
  armed : t.armed = true
  healthy : t.isHealthy = true
  enabled : t.enabled = true
  interrupts : t.interrupts = true
  line : t.line = true
  repeats : t.onePulse = false
  reload : t.reload = BitVec.allOnes 32
  clear : t.flagged = false
  fits : StopTimer.leaseFits remaining = true
  ahead : t.compare - t.count = StopTimer.leaseCounts remaining

variable {t : StopTimer} {remaining : U32}

theorem Running.lead (running : Running remaining t) : t.lead = (remaining.toNat - 1) * 10 ∧ 1 < remaining.toNat := by
  unfold StopTimer.lead
  rw [running.ahead, StopTimer.leaseCounts_toNat running.fits]
  exact ⟨rfl, (StopTimer.leaseFits_iff.mp running.fits).1⟩

theorem Running.counting (running : Running remaining t) : t.Counting where
  healthy := running.healthy
  enabled := running.enabled
  interrupts := running.interrupts
  line := running.line
  repeats _ := running.reload
  reload pulse := by
    rw [running.repeats] at pulse
    contradiction
  ahead := by
    obtain ⟨lead, long⟩ := running.lead
    right
    omega

theorem Running.before (running : Running remaining t) {time : ℕ} {deadline : U32}
    (short : remaining ≤ deadline - millis time) (near : (deadline - millis time).toNat ≤ 2 ^ 31) :
    t.Before time deadline := by
  obtain ⟨lead, long⟩ := running.lead
  refine ⟨?_, near⟩
  have short : remaining.toNat ≤ (deadline - millis time).toNat := short
  rw [lead]
  omega

/-- A lease stays one when only the marks of the handler change. -/
theorem Running.marked (running : Running remaining t) (callback handoff : Bool) :
    Running remaining { t with normalCallback := callback, handoff := handoff } :=
  ⟨running.armed, running.healthy, running.enabled, running.interrupts, running.line, running.repeats, running.reload,
    running.clear, running.fits, running.ahead⟩

end Sd700.Motor.Timer

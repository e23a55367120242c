import Mathlib.Algebra.BigOperators.Intervals
import Sd700.Motor.BuildExecutor

/-! The calls of `motor_stop_timer_tim5.c` that program a running TIM5 anew, register access by register access.
The counter runs on between any two of them, and sets its flags as it does. -/

namespace Sd700.Motor.TimerAccess
open Build.Contract Logic.Modular Timer StopTimer

/-- How a call ends: it is done, it was refused, or it ran the interrupt handler or the executor's handler. -/
inductive Exit
  | done | refused | irq | late
  deriving DecidableEq

/-- The counts that pass between two accesses, the first gap of a call at 0. -/
abbrev Gaps := Nat → Nat

def at_ (gap : Gaps) (access : Nat) (t : StopTimer) : StopTimer := t.elapse (gap access)

/-- `MotorStopTimer_RenewLease`, and `MotorStopTimer_CommitArm` behind it. -/
def renewLease (gap : Gaps) (remaining : U32) (t : StopTimer) : Exit × StopTimer :=
  let counter := t.count
  let t := at_ gap 0 t
  let oldDeadline := t.compare
  let t := at_ gap 1 t
  if ¬ t.isArmed ∨ ¬ t.healthy ∨ ¬ leaseFits remaining then (.refused, t)
  else
    let t := at_ gap 2 t
    if t.flagged then (.irq, t)
    else if Reached counter oldDeadline then (.late, t)
    else
      let t := at_ gap 3 t
      let t := { t with compare := counter + leaseCounts remaining }
      let t := at_ gap 4 t
      if ¬ t.armed ∨ ¬ t.healthy then (.refused, t)
      else if t.flagged then (.irq, t)
      else (.done, { t with line := true })

/-- `MotorStopTimer_BuildTransitionReady`: the counter enable and then the flags. -/
def transitionReady (gap : Gaps) (access : Nat) (t : StopTimer) : Bool × StopTimer :=
  let ready := t.isArmed && t.healthy
  let t := at_ gap access t
  (ready && !t.flagged, t)

/-- `TIM5->CR1` is read and written back with another one-pulse bit, its counter enable as it was read. -/
def setOnePulse (gap : Gaps) (access : Nat) (onePulse : Bool) (t : StopTimer) : StopTimer :=
  let enabled := t.enabled
  let t := at_ gap access t
  { t with enabled := enabled, onePulse := onePulse }

/-- The new words are written, the one-pulse bit with them, and the timer is looked at again. -/
def reprogram (gap : Gaps) (compare reload : U32) (onePulse : Bool) (t : StopTimer) : Bool × StopTimer :=
  let t := { at_ gap 5 t with compare := compare }
  let t := { at_ gap 6 t with reload := reload }
  let t := setOnePulse gap 8 onePulse (at_ gap 7 t)
  transitionReady gap 10 (at_ gap 9 t)

/-- `MotorStopTimer_BuildHandoff`. Of the two registers of a comparison the counter is read last. -/
def buildHandoff (gap : Gaps) (remaining : U32) (t : StopTimer) : Exit × StopTimer :=
  let (ready, t) := transitionReady gap 0 t
  let t := at_ gap 1 t
  let onePulse := t.onePulse
  let t := at_ gap 2 t
  let reload := t.reload
  let t := at_ gap 3 t
  if ¬ ready ∨ ¬ onePulse ∨ reload ≤ t.count ∨ ¬ leaseFits remaining then (.refused, t)
  else
    let t := at_ gap 4 t
    let counter := t.count
    let (ready, t) := reprogram gap (counter + leaseCounts remaining) (BitVec.allOnes 32) false t
    let t := at_ gap 11 t
    let compare := t.compare
    let t := at_ gap 12 t
    if ¬ ready ∨ Reached t.count compare then (.refused, t)
    else (.done, { t with handoff := t.normalCallback || t.handoff })

/-- `MotorStopTimer_BuildPulse`. -/
def buildPulse (gap : Gaps) (normalMs hardMs : U32) (t : StopTimer) : Exit × StopTimer :=
  let (ready, t) := transitionReady gap 0 t
  let t := at_ gap 1 t
  let onePulse := t.onePulse
  let t := at_ gap 2 t
  let compare := t.compare
  let t := at_ gap 3 t
  if ¬ ready ∨ onePulse ∨ Reached t.count compare ∨ normalMs = 0 ∨ hardMs ≤ normalMs ∨ leaseMs < hardMs then
    (.refused, t)
  else
    let t := at_ gap 4 t
    let counter := t.count
    let (ready, t) := reprogram gap (counter + normalMs * 10) (counter + hardMs * 10 - 1) true t
    let t := at_ gap 11 t
    let reload := t.reload
    let t := at_ gap 12 t
    (if ready ∧ t.count < reload then .done else .refused, t)

/-! ### With the counter standing still -/

def still : Gaps := fun _ => 0

@[simp] theorem at_still (access : Nat) (t : StopTimer) : at_ still access t = t := rfl

@[simp] theorem transitionReady_still (access : Nat) (t : StopTimer) :
    transitionReady still access t = (t.buildTransitionReady, t) := rfl

@[simp] theorem setOnePulse_still (access : Nat) (onePulse : Bool) (t : StopTimer) :
    setOnePulse still access onePulse t = { t with onePulse := onePulse } := rfl

def verdict (left : Exit × StopTimer) : Bool × StopTimer := (decide (left.1 = .done), left.2)

theorem buildHandoff_still (remaining : U32) (t : StopTimer) :
    t.buildHandoff remaining = verdict (buildHandoff still remaining t) := by
  unfold buildHandoff StopTimer.buildHandoff reprogram
  simp only [transitionReady_still, at_still, setOnePulse_still]
  refine Eq.trans ?_ (apply_ite verdict _ _ _).symm
  refine if_congr Iff.rfl rfl (Eq.trans ?_ (apply_ite verdict _ _ _).symm)
  exact if_congr Iff.rfl rfl rfl

theorem decide_exit (b : Bool) (p : Prop) [Decidable p] [Decidable (b = true ∧ p)] :
    decide ((if b = true ∧ p then Exit.done else .refused) = .done) = (b && decide p) := by
  by_cases held : p
  · cases b <;> simp [held]
  · simp [held]

theorem buildPulse_still (normalMs hardMs : U32) (t : StopTimer) :
    t.buildPulse normalMs hardMs = verdict (buildPulse still normalMs hardMs t) := by
  unfold buildPulse StopTimer.buildPulse reprogram
  simp only [transitionReady_still, at_still, setOnePulse_still]
  refine Eq.trans ?_ (apply_ite verdict _ _ _).symm
  exact if_congr Iff.rfl rfl (Prod.ext (decide_exit _ _).symm rfl)

theorem renewLease_at_still (remaining : U32) (t : StopTimer) :
    renewLease still remaining t =
      if ¬ t.isArmed ∨ ¬ t.healthy ∨ ¬ leaseFits remaining then (.refused, t)
      else if t.flagged then (.irq, t)
      else if Reached t.count t.compare then (.late, t)
      else
        let renewed := { t with compare := t.count + leaseCounts remaining }
        if ¬ t.armed ∨ ¬ t.healthy then (.refused, renewed)
        else if renewed.flagged then (.irq, renewed) else (.done, { renewed with line := true }) := rfl

/-- The lease of the executor, whose handlers the access model leaves open. -/
theorem renewLease_still {β : Type} (hw : Bridge.Hardware β) (m : BuildExecutor.Device β)
    (remaining : U32) :
    m.renewLease hw remaining =
      match renewLease still remaining m.timer with
      | (.done, t) => (true, { m with timer := t })
      | (.refused, _) => (false, m)
      | (.irq, _) => (false, m.irqHandler hw)
      | (.late, _) => (false, (m.expired hw .normal).cancel) := by
  rw [renewLease_at_still]
  unfold BuildExecutor.Device.renewLease
  by_cases refused : ¬ m.timer.isArmed ∨ ¬ m.timer.healthy ∨ ¬ leaseFits remaining
  · rw [if_pos refused, if_pos refused]
  rw [if_neg refused, if_neg refused]
  by_cases flagged : m.timer.flagged
  · rw [if_pos flagged, if_pos flagged]
  rw [if_neg flagged, if_neg flagged]
  by_cases late : Reached m.timer.count m.timer.compare
  · rw [if_pos late, if_pos late]
  rw [if_neg late, if_neg late]
  have armed : ¬ (¬ m.timer.armed ∨ ¬ m.timer.healthy) := by
    rintro (disarmed | unhealthy)
    · exact refused (.inl fun armed => disarmed (Bool.and_eq_true _ _ ▸ armed).1)
    · exact refused (.inr (.inl unhealthy))
  rw [if_neg armed]
  unfold BuildExecutor.Device.commitArm
  refine (if_neg armed).trans ((if_neg flagged).trans ?_)
  dsimp only
  have unflagged : ¬ StopTimer.flagged { m.timer with compare := m.timer.count + leaseCounts remaining } := flagged
  rw [if_neg unflagged]

/-! ### A counter that runs on -/

section
variable {t : StopTimer} {gap : Gaps} {n m : Nat}

@[simp] theorem tick_compare (t : StopTimer) : t.tick.compare = t.compare := by
  unfold tick
  split_ifs <;> rfl

@[simp] theorem tick_reload (t : StopTimer) : t.tick.reload = t.reload := by
  unfold tick
  split_ifs <;> rfl

@[simp] theorem tick_armed (t : StopTimer) : t.tick.armed = t.armed := by
  unfold tick
  split_ifs <;> rfl

@[simp] theorem tick_healthy (t : StopTimer) : t.tick.healthy = t.healthy := by
  unfold tick
  split_ifs <;> rfl

@[simp] theorem tick_onePulse (t : StopTimer) : t.tick.onePulse = t.onePulse := by
  unfold tick
  split_ifs <;> rfl

structure Same (t u : StopTimer) : Prop where
  compare : u.compare = t.compare
  reload : u.reload = t.reload
  armed : u.armed = t.armed
  healthy : u.healthy = t.healthy
  onePulse : u.onePulse = t.onePulse

theorem elapse_same (t : StopTimer) (n : Nat) : Same t (t.elapse n) := by
  induction n with
  | zero => exact ⟨rfl, rfl, rfl, rfl, rfl⟩
  | succ n ih =>
    rw [elapse_succ]
    exact ⟨(tick_compare _).trans ih.compare, (tick_reload _).trans ih.reload, (tick_armed _).trans ih.armed,
      (tick_healthy _).trans ih.healthy, (tick_onePulse _).trans ih.onePulse⟩

structure Latches (t u : StopTimer) : Prop where
  updated : t.updated = true → u.updated = true
  compared : t.compared = true → u.compared = true
  overcaptured : t.overcaptured = true → u.overcaptured = true

theorem Latches.refl (t : StopTimer) : Latches t t := ⟨id, id, id⟩

theorem Latches.trans {t u v : StopTimer} (first : Latches t u) (second : Latches u v) : Latches t v :=
  ⟨second.updated ∘ first.updated, second.compared ∘ first.compared, second.overcaptured ∘ first.overcaptured⟩

theorem tick_latches (t : StopTimer) : Latches t t.tick := by
  unfold tick
  split_ifs
  · exact ⟨fun _ => rfl, fun set => by simp [set], id⟩
  · exact ⟨id, fun set => by simp [set], id⟩
  · exact .refl t

theorem elapse_latches (t : StopTimer) (n : Nat) : Latches t (t.elapse n) := by
  induction n with
  | zero => exact .refl t
  | succ n ih =>
    rw [elapse_succ]
    exact ih.trans (tick_latches _)

theorem Latches.clear {t u : StopTimer} (latches : Latches t u) (clear : u.flagged = false) : t.flagged = false := by
  rw [flagged_eq_false] at clear ⊢
  refine ⟨?_, ?_, ?_⟩
  · by_contra set
    exact Bool.noConfusion (clear.1.symm.trans (latches.updated (Bool.not_eq_false _ ▸ set)))
  · by_contra set
    exact Bool.noConfusion (clear.2.1.symm.trans (latches.compared (Bool.not_eq_false _ ▸ set)))
  · by_contra set
    exact Bool.noConfusion (clear.2.2.symm.trans (latches.overcaptured (Bool.not_eq_false _ ▸ set)))

theorem elapse_counted (on : t.enabled = true) (n : Nat) (clear : (t.elapse n).updated = false) :
    (t.elapse n).count = t.count + BitVec.ofNat 32 n ∧ (t.elapse n).enabled = true := by
  induction n with
  | zero => exact ⟨(BitVec.add_zero _).symm, on⟩
  | succ n ih =>
    rw [elapse_succ] at clear ⊢
    have before : (t.elapse n).updated = false := by
      by_contra set
      exact Bool.noConfusion (clear.symm.trans ((tick_latches _).updated (Bool.not_eq_false _ ▸ set)))
    obtain ⟨counted, running⟩ := ih before
    unfold tick at clear ⊢
    rw [if_neg (by simp [running])] at clear ⊢
    by_cases full : (t.elapse n).count = (t.elapse n).reload
    · rw [if_pos full] at clear
      cases clear
    · rw [if_neg full]
      refine ⟨?_, running⟩
      show (t.elapse n).count + 1 = _
      rw [counted, count_succ]

theorem elapse_enabled (n : Nat) (on : (t.elapse n).enabled = true) : t.enabled = true := by
  by_contra off
  rw [elapse_stopped (Bool.not_eq_true _ ▸ off)] at on
  exact off on

end

/-! ### Deadlines -/

/-- A word lies strictly ahead of a running counter, by at most so many counts. -/
def Ahead (t : StopTimer) (word : U32) (limit : Nat) : Prop :=
  t.enabled = true ∧ 0 < (word - t.count).toNat ∧ (word - t.count).toNat ≤ limit

/-- A word set some counts ahead of the counter is still ahead while fewer have passed. -/
theorem ahead_iff {counter : U32} {limit passed : Nat} {counts : U32} {t : StopTimer} (on : t.enabled = true)
    (counted : t.count = counter + BitVec.ofNat 32 passed) (length : counts.toNat = limit) :
    Ahead t (counter + counts) limit ↔ passed % 2 ^ 32 < limit := by
  have bounded := counts.isLt
  have distance : (counter + counts - t.count).toNat = (limit + 2 ^ 32 - passed % 2 ^ 32) % 2 ^ 32 := by
    rw [counted, add_sub_add_left_eq_sub, BitVec.toNat_sub, BitVec.toNat_ofNat, length]
    have small := Nat.mod_lt passed (show 0 < 2 ^ 32 by decide)
    congr 1
    omega
  unfold Ahead
  rw [distance, on]
  have small := Nat.mod_lt passed (show 0 < 2 ^ 32 by decide)
  generalize passed % 2 ^ 32 = late at small
  simp only [true_and]
  omega

def passed (gap : Gaps) (from_ to_ : Nat) : Nat := ∑ k ∈ Finset.Ico from_ to_, gap k

/-- From one point of a call to a later one: no flag is lost, and while no update sets one the counter counts. -/
structure Onward (t u : StopTimer) (counts : Nat) : Prop where
  latches : Latches t u
  counted : t.enabled = true → u.updated = false →
    u.count = t.count + BitVec.ofNat 32 counts ∧ u.enabled = true

section
variable {t u v next : StopTimer} {gap : Gaps} {a k n : Nat} {remaining normalMs hardMs compare reload : U32}
  {onePulse : Bool}

theorem passed_self (gap : Gaps) (a : Nat) : passed gap a a = 0 := by
  unfold passed
  rw [Finset.Ico_self, Finset.sum_empty]

theorem passed_succ (gap : Gaps) (ordered : a ≤ k) : passed gap a (k + 1) = passed gap a k + gap k :=
  Finset.sum_Ico_succ_top ordered gap

theorem Onward.refl (t : StopTimer) (gap : Gaps) (a : Nat) : Onward t t (passed gap a a) := by
  rw [passed_self]
  exact ⟨.refl t, fun on _ => ⟨(BitVec.add_zero _).symm, on⟩⟩

theorem Latches.fresh (latches : Latches t u) (clear : u.updated = false) : t.updated = false := by
  by_contra set
  exact Bool.noConfusion (clear.symm.trans (latches.updated (Bool.not_eq_false _ ▸ set)))

theorem Onward.at_ (onward : Onward t u (passed gap a k)) (ordered : a ≤ k) :
    Onward t (at_ gap k u) (passed gap a (k + 1)) := by
  have latches := elapse_latches u (gap k)
  refine ⟨onward.latches.trans latches, fun on clear => ?_⟩
  obtain ⟨counted, running⟩ := onward.counted on (latches.fresh clear)
  obtain ⟨further, still⟩ := elapse_counted running (gap k) clear
  refine ⟨?_, still⟩
  show (u.elapse (gap k)).count = _
  rw [further, counted, passed_succ gap ordered, BitVec.ofNat_add, add_assoc]

theorem Onward.write (onward : Onward t u n) (count : v.count = u.count) (enabled : v.enabled = u.enabled)
    (updated : v.updated = u.updated) (compared : v.compared = u.compared)
    (overcaptured : v.overcaptured = u.overcaptured) : Onward t v n := by
  refine ⟨onward.latches.trans ⟨?_, ?_, ?_⟩, fun on clear => ?_⟩
  · rw [updated]
    exact id
  · rw [compared]
    exact id
  · rw [overcaptured]
    exact id
  · rw [count, enabled]
    exact onward.counted on (updated ▸ clear)

theorem Onward.setOnePulse (onward : Onward t u (passed gap a k)) (ordered : a ≤ k) (onePulse : Bool) :
    Onward t (setOnePulse gap k onePulse u) (passed gap a (k + 1)) := by
  have later := onward.at_ ordered
  refine ⟨later.latches.trans ⟨id, id, id⟩, fun on clear => ?_⟩
  exact ⟨(later.counted on clear).1, (onward.counted on ((elapse_latches u (gap k)).fresh clear)).2⟩

theorem isArmed_enabled (armed : t.isArmed = true) : t.enabled = true := by
  rw [isArmed, Bool.and_eq_true] at armed
  exact armed.2

theorem renewLease_done (done_ : renewLease gap remaining t = (.done, next)) :
    t.flagged = false ∧ ¬ Reached t.count t.compare ∧ leaseFits remaining = true ∧
      next.compare = t.count + leaseCounts remaining ∧ next.enabled = true ∧
      next.count = t.count + BitVec.ofNat 32 (passed gap 0 5) := by
  unfold renewLease at done_
  dsimp only at done_
  have second := ((Onward.refl t gap 0).at_ (by omega)).at_ (k := 1) (by omega)
  have deadline : (at_ gap 0 t).compare = t.compare := (elapse_same t (gap 0)).compare
  have begun (read : (at_ gap 1 (at_ gap 0 t)).enabled = true) : t.enabled = true :=
    elapse_enabled _ (elapse_enabled _ read)
  rw [deadline] at done_
  generalize at_ gap 1 (at_ gap 0 t) = t2 at done_ second begun
  split at done_
  · cases done_
  rename_i fits
  push Not at fits
  have third := second.at_ (by omega)
  generalize at_ gap 2 t2 = t3 at done_ third
  split at done_
  · cases done_
  rename_i clear
  split at done_
  · cases done_
  rename_i early
  have fourth := third.at_ (by omega)
  generalize at_ gap 3 t3 = t4 at done_ fourth
  have written := @Onward.write t t4 { t4 with compare := t.count + leaseCounts remaining } _ fourth rfl rfl rfl rfl
    rfl
  have fifth := written.at_ (by omega)
  have kept := elapse_same { t4 with compare := t.count + leaseCounts remaining } (gap 4)
  change Same _ (at_ gap 4 _) at kept
  generalize at_ gap 4 { t4 with compare := t.count + leaseCounts remaining } = t5 at done_ fifth kept
  split at done_
  · cases done_
  split at done_
  · cases done_
  rename_i unflagged
  cases done_
  obtain ⟨counted, running⟩ := fifth.counted (begun (isArmed_enabled fits.1))
    ((flagged_eq_false t5).mp (Bool.not_eq_true _ ▸ unflagged)).1
  exact ⟨third.latches.clear (Bool.not_eq_true _ ▸ clear), early, fits.2.2,
    kept.compare, running, counted⟩

theorem reprogram_ready (ready : (reprogram gap compare reload onePulse t).1 = true) :
    Onward t (reprogram gap compare reload onePulse t).2 (passed gap 5 11) ∧
      (reprogram gap compare reload onePulse t).2.flagged = false ∧
      (reprogram gap compare reload onePulse t).2.compare = compare ∧
      (reprogram gap compare reload onePulse t).2.reload = reload ∧
      (reprogram gap compare reload onePulse t).2.onePulse = onePulse := by
  unfold reprogram at ready ⊢
  dsimp only at ready ⊢
  have fifth := (Onward.refl t gap 5).at_ (by omega)
  generalize at_ gap 5 t = t5 at ready fifth ⊢
  have sixth := (@Onward.write t t5 { t5 with compare := compare } _ fifth rfl rfl rfl rfl rfl).at_ (by omega)
  have first := elapse_same { t5 with compare := compare } (gap 6)
  change Same _ (at_ gap 6 _) at first
  generalize at_ gap 6 { t5 with compare := compare } = t6 at ready sixth first ⊢
  have seventh := (@Onward.write t t6 { t6 with reload := reload } _ sixth rfl rfl rfl rfl rfl).at_ (by omega)
  have second := elapse_same { t6 with reload := reload } (gap 7)
  change Same _ (at_ gap 7 _) at second
  generalize at_ gap 7 { t6 with reload := reload } = t7 at ready seventh second ⊢
  have eighth := seventh.setOnePulse (by omega) onePulse
  have third := elapse_same t7 (gap 8)
  have words : (setOnePulse gap 8 onePulse t7).compare = t7.compare ∧
      (setOnePulse gap 8 onePulse t7).reload = t7.reload ∧ (setOnePulse gap 8 onePulse t7).onePulse = onePulse :=
    ⟨third.compare, third.reload, rfl⟩
  generalize setOnePulse gap 8 onePulse t7 = t8 at ready eighth words ⊢
  have ninth := eighth.at_ (by omega)
  have fourth := elapse_same t8 (gap 9)
  change Same _ (at_ gap 9 _) at fourth
  generalize at_ gap 9 t8 = t9 at ready ninth fourth ⊢
  have last := ninth.at_ (by omega)
  have fifth := elapse_same t9 (gap 10)
  simp only [transitionReady, Bool.and_eq_true, Bool.not_eq_true'] at ready ⊢
  exact ⟨last, ready.2, (fifth.compare.trans fourth.compare).trans (words.1.trans (second.compare.trans first.compare)),
    (fifth.reload.trans fourth.reload).trans (words.2.1.trans second.reload),
    (fifth.onePulse.trans fourth.onePulse).trans words.2.2⟩

/-- A counter that runs through its whole range counts on for ever. -/
theorem elapse_free (on : t.enabled = true) (whole : t.reload = BitVec.allOnes 32) (free : t.onePulse = false)
    (n : Nat) : (t.elapse n).count = t.count + BitVec.ofNat 32 n ∧ (t.elapse n).enabled = true := by
  induction n with
  | zero => exact ⟨(BitVec.add_zero _).symm, on⟩
  | succ n ih =>
    obtain ⟨counted, running⟩ := ih
    have same := elapse_same t n
    rw [elapse_succ, ← count_succ, ← counted]
    unfold tick
    rw [if_neg (by simp [running])]
    by_cases full : (t.elapse n).count = (t.elapse n).reload
    · rw [if_pos full, full, same.reload, whole, same.onePulse, free]
      exact ⟨show (0 : U32) = BitVec.allOnes 32 + 1 by decide, rfl⟩
    · rw [if_neg full]
      exact ⟨rfl, running⟩

theorem elapse_elapse (t : StopTimer) (n m : Nat) : (t.elapse n).elapse m = t.elapse (n + m) := by
  unfold elapse
  rw [Nat.add_comm, Function.iterate_add_apply]

/-- A one-pulse counter runs up to its reload, and stops one count behind it. -/
theorem elapse_pulse (on : t.enabled = true) (clear : t.updated = false) (n : Nat)
    (short : n ≤ (t.reload - t.count).toNat) : (t.elapse n).updated = false := by
  induction n with
  | zero => exact clear
  | succ n ih =>
    have before := ih (by omega)
    obtain ⟨counted, running⟩ := elapse_counted on n before
    have bounded := (t.reload - t.count).isLt
    have early : (t.elapse n).count ≠ (t.elapse n).reload := by
      intro full
      rw [counted, (elapse_same t n).reload] at full
      have distance : (t.reload - t.count).toNat = n := by
        rw [← full, add_sub_cancel_left, BitVec.toNat_ofNat]
        omega
      omega
    rw [elapse_succ]
    unfold tick
    rw [if_neg (by simp [running]), if_neg early]
    exact before

theorem elapse_stops (on : t.enabled = true) (one : t.onePulse = true) (clear : t.updated = false) (n : Nat)
    (long : (t.reload - t.count).toNat < n) : (t.elapse n).enabled = false := by
  have word : t.count + BitVec.ofNat 32 (t.reload - t.count).toNat = t.reload := by
    rw [BitVec.ofNat_toNat, BitVec.setWidth_eq, add_sub_cancel]
  have short := elapse_pulse on clear _ (le_refl (t.reload - t.count).toNat)
  generalize (t.reload - t.count).toNat = room at long short word
  obtain ⟨counted, running⟩ := elapse_counted on room short
  have same := elapse_same t room
  have full : (t.elapse room).count = (t.elapse room).reload := by rw [counted, same.reload, word]
  have stopped : (t.elapse (room + 1)).enabled = false := by
    rw [elapse_succ]
    unfold tick
    rw [if_neg (by simp [running]), if_pos full]
    simp [same.onePulse, one]
  obtain ⟨rest, rfl⟩ : ∃ rest, n = room + 1 + rest := ⟨n - (room + 1), by omega⟩
  rw [← elapse_elapse, elapse_stopped stopped]
  exact stopped

theorem buildHandoff_done (done_ : buildHandoff gap remaining t = (.done, next)) :
    t.flagged = false ∧ leaseFits remaining = true ∧
      ∃ counter, next.compare = counter + leaseCounts remaining ∧ next.enabled = true ∧
        next.count = counter + BitVec.ofNat 32 (passed gap 5 13) := by
  unfold buildHandoff at done_
  unfold transitionReady at done_
  dsimp only at done_
  have first := (Onward.refl t gap 0).at_ (by omega)
  generalize at_ gap 0 t = t0 at done_ first
  have third := ((first.at_ (by omega)).at_ (by omega)).at_ (by omega)
  generalize at_ gap 3 (at_ gap 2 (at_ gap 1 t0)) = t3 at done_ third
  split at done_
  · cases done_
  rename_i admitted
  push Not at admitted
  obtain ⟨ready, -, -, fits⟩ := admitted
  simp only [Bool.and_eq_true, Bool.not_eq_true'] at ready
  have fourth := third.at_ (by omega)
  generalize at_ gap 4 t3 = t4 at done_ fourth
  split at done_
  · cases done_
  rename_i finished
  push Not at finished
  cases done_
  have again := reprogram_ready finished.1
  generalize (reprogram gap (t4.count + leaseCounts remaining) (BitVec.allOnes 32) false t4).2 = u at again ⊢
  obtain ⟨onward, clear, compare, reload, free⟩ := again
  have started : t4.enabled = true :=
    (fourth.counted (isArmed_enabled ready.1.1) (onward.latches.fresh ((flagged_eq_false u).mp clear).1)).2
  obtain ⟨counted, running⟩ := onward.counted started ((flagged_eq_false u).mp clear).1
  have same := elapse_same u (gap 11 + gap 12)
  obtain ⟨further, still⟩ := elapse_free running reload free (gap 11 + gap 12)
  have ended : at_ gap 12 (at_ gap 11 u) = u.elapse (gap 11 + gap 12) := elapse_elapse u _ _
  rw [ended]
  refine ⟨first.latches.clear ready.2, fits, t4.count, same.compare.trans compare, still, ?_⟩
  show (u.elapse (gap 11 + gap 12)).count = _
  rw [further, counted, passed_succ gap (show 5 ≤ 12 by omega), passed_succ gap (show 5 ≤ 11 by omega),
    Nat.add_assoc, BitVec.ofNat_add (passed gap 5 11), add_assoc]

theorem buildPulse_done (done_ : buildPulse gap normalMs hardMs t = (.done, next)) :
    t.flagged = false ∧ normalMs < hardMs ∧ hardMs ≤ leaseMs ∧
      ∃ (counter : U32) (u : StopTimer), next = u.elapse (gap 11 + gap 12) ∧ u.compare = counter + normalMs * 10 ∧
        u.reload = counter + hardMs * 10 - 1 ∧ u.onePulse = true ∧ u.enabled = true ∧ u.updated = false ∧
        u.count = counter + BitVec.ofNat 32 (passed gap 5 11) := by
  unfold buildPulse at done_
  unfold transitionReady at done_
  dsimp only at done_
  have first := (Onward.refl t gap 0).at_ (by omega)
  generalize at_ gap 0 t = t0 at done_ first
  have third := ((first.at_ (by omega)).at_ (by omega)).at_ (by omega)
  generalize at_ gap 3 (at_ gap 2 (at_ gap 1 t0)) = t3 at done_ third
  split at done_
  · cases done_
  rename_i admitted
  push Not at admitted
  obtain ⟨ready, -, -, -, longer, fits⟩ := admitted
  simp only [Bool.and_eq_true, Bool.not_eq_true'] at ready
  have fourth := third.at_ (by omega)
  generalize at_ gap 4 t3 = t4 at done_ fourth
  rw [Prod.mk.injEq] at done_
  obtain ⟨finished, left⟩ := done_
  split at finished
  · rename_i ended
    have again := reprogram_ready ended.1
    generalize (reprogram gap (t4.count + normalMs * 10) (t4.count + hardMs * 10 - 1) true t4).2 = u at again left
    obtain ⟨onward, clear, compare, reload, one⟩ := again
    have fresh := ((flagged_eq_false u).mp clear).1
    have started : t4.enabled = true :=
      (fourth.counted (isArmed_enabled ready.1.1) (onward.latches.fresh fresh)).2
    obtain ⟨counted, running⟩ := onward.counted started fresh
    have same : next = u.elapse (gap 11 + gap 12) := left.symm.trans (elapse_elapse u _ _)
    exact ⟨first.latches.clear ready.2, BitVec.not_le.mp longer, BitVec.not_lt.mp fits, t4.count, u, same, compare,
      reload, one, running, fresh, counted⟩
  · cases finished

end

/-! ### The promise -/

/-- The timer at the accesses of a call: it runs on through the gaps and has the words of the call written to it, and
nothing else happens to it. A write is told the timer in front of its gap and behind it. -/
def course (gap : Gaps) (writes : Nat → StopTimer → StopTimer → StopTimer) (t : StopTimer) : Nat → StopTimer
  | 0 => t
  | k + 1 => writes k (course gap writes t k) (at_ gap k (course gap writes t k))

def leaseWrites (compare : U32) (k : Nat) (_ u : StopTimer) : StopTimer :=
  if k = 3 then { u with compare := compare } else u

def transitionWrites (compare reload : U32) (onePulse : Bool) (k : Nat) (before u : StopTimer) : StopTimer :=
  if k = 5 then { u with compare := compare }
  else if k = 6 then { u with reload := reload }
  else if k = 8 then { u with enabled := before.enabled, onePulse := onePulse }
  else u

/-- The timer at the accesses of `MotorStopTimer_RenewLease`, up to its last look at the flags. -/
def renewing (gap : Gaps) (remaining : U32) (t : StopTimer) : List StopTimer :=
  (List.range 6).map (course gap (leaseWrites (t.count + leaseCounts remaining)) t)

def transitionCount (gap : Gaps) (t : StopTimer) : U32 := (course gap (fun _ _ u => u) t 5).count

def handing (gap : Gaps) (remaining : U32) (t : StopTimer) : List StopTimer :=
  (List.range 14).map
    (course gap (transitionWrites (transitionCount gap t + leaseCounts remaining) (BitVec.allOnes 32) false) t)

def pulsing (gap : Gaps) (normalMs hardMs : U32) (t : StopTimer) : List StopTimer :=
  (List.range 14).map
    (course gap (transitionWrites (transitionCount gap t + normalMs * 10) (transitionCount gap t + hardMs * 10 - 1)
      true) t)

/-- A call found no flag and lost none that was set when it began or at any access of it, found the old deadline open,
and left a running counter with its compare strictly ahead, by at most what was asked for. -/
structure Kept (open_ : Prop) (limit : Nat) (during : List StopTimer) (t next : StopTimer) : Prop where
  unlatched : t.flagged = false
  lossless : ∀ u ∈ during, Latches u next
  old : open_
  ahead : Ahead next next.compare limit

/-- The compare of a handoff has not been reached, unless its own interrupt makes the call. -/
def HandoffOpen (t : StopTimer) : Prop := t.normalCallback = true ∨ ¬ Reached t.count t.compare

section
variable {t next : StopTimer} {gap : Gaps} {remaining normalMs hardMs : U32}

theorem course_latches {writes : Nat → StopTimer → StopTimer → StopTimer}
    (silent : ∀ k before u, Latches u (writes k before u)) {k n : Nat} (ordered : k ≤ n) :
    Latches (course gap writes t k) (course gap writes t n) := by
  induction ordered with
  | refl => exact .refl _
  | step _ ih => exact ih.trans ((elapse_latches _ _).trans (silent _ _ _))

theorem leaseWrites_silent (compare : U32) (k : Nat) (before u : StopTimer) :
    Latches u (leaseWrites compare k before u) := by
  unfold leaseWrites
  split
  · exact ⟨id, id, id⟩
  · exact .refl u

theorem transitionWrites_silent (compare reload : U32) (onePulse : Bool) (k : Nat) (before u : StopTimer) :
    Latches u (transitionWrites compare reload onePulse k before u) := by
  unfold transitionWrites
  split
  · exact ⟨id, id, id⟩
  split
  · exact ⟨id, id, id⟩
  split
  · exact ⟨id, id, id⟩
  · exact .refl u

theorem course_lossless {writes : Nat → StopTimer → StopTimer → StopTimer}
    (silent : ∀ k before u, Latches u (writes k before u)) {n : Nat}
    (ends : Latches (course gap writes t n) next) :
    ∀ u ∈ (List.range (n + 1)).map (course gap writes t), Latches u next := by
  intro u listed
  obtain ⟨k, inside, rfl⟩ := List.mem_map.mp listed
  exact (course_latches silent (Nat.le_of_lt_succ (List.mem_range.mp inside))).trans ends

theorem renewLease_lossless (done_ : renewLease gap remaining t = (.done, next)) :
    ∀ u ∈ renewing gap remaining t, Latches u next := by
  apply course_lossless (leaseWrites_silent _)
  unfold renewLease at done_
  dsimp only at done_
  split at done_
  · cases done_
  split at done_
  · cases done_
  split at done_
  · cases done_
  split at done_
  · cases done_
  split at done_
  · cases done_
  · cases done_
    exact ⟨id, id, id⟩

theorem buildHandoff_lossless (done_ : buildHandoff gap remaining t = (.done, next)) :
    ∀ u ∈ handing gap remaining t, Latches u next := by
  apply course_lossless (transitionWrites_silent _ _ _)
  unfold buildHandoff at done_
  dsimp only at done_
  split at done_
  · cases done_
  split at done_
  · cases done_
  · cases done_
    exact ⟨id, id, id⟩

theorem buildPulse_lossless (done_ : buildPulse gap normalMs hardMs t = (.done, next)) :
    ∀ u ∈ pulsing gap normalMs hardMs t, Latches u next := by
  apply course_lossless (transitionWrites_silent _ _ _)
  unfold buildPulse at done_
  dsimp only at done_
  split at done_
  · cases done_
  · cases (Prod.mk.inj done_).2
    exact .refl _

theorem renewLease_kept_iff (done_ : renewLease gap remaining t = (.done, next)) :
    Kept (¬ Reached t.count t.compare) ((remaining.toNat - 1) * 10) (renewing gap remaining t) t next ↔
      passed gap 0 5 % 2 ^ 32 < (remaining.toNat - 1) * 10 := by
  obtain ⟨clear, early, fits, compare, running, counted⟩ := renewLease_done done_
  have ahead := ahead_iff running counted (leaseCounts_toNat fits)
  constructor
  · intro kept
    have left := kept.ahead
    rw [compare] at left
    exact ahead.mp left
  · intro less
    exact ⟨clear, renewLease_lossless done_, early, compare.symm ▸ ahead.mpr less⟩

theorem buildHandoff_kept_iff (done_ : buildHandoff gap remaining t = (.done, next)) :
    Kept (HandoffOpen t) ((remaining.toNat - 1) * 10) (handing gap remaining t) t next ↔
      HandoffOpen t ∧ passed gap 5 13 % 2 ^ 32 < (remaining.toNat - 1) * 10 := by
  obtain ⟨clear, fits, counter, compare, running, counted⟩ := buildHandoff_done done_
  have ahead := ahead_iff running counted (leaseCounts_toNat fits)
  constructor
  · intro kept
    have left := kept.ahead
    rw [compare] at left
    exact ⟨kept.old, ahead.mp left⟩
  · rintro ⟨old, less⟩
    exact ⟨clear, buildHandoff_lossless done_, old, compare.symm ▸ ahead.mpr less⟩

/-- The counts that the pulse's reload lies ahead of the counter when its flags are looked at last. -/
def reloadRoom (gap : Gaps) (hardMs : U32) : Nat :=
  (hardMs.toNat * 10 - 1 + 2 ^ 32 - passed gap 5 11 % 2 ^ 32) % 2 ^ 32

theorem buildPulse_kept_iff (done_ : buildPulse gap normalMs hardMs t = (.done, next)) :
    Kept (¬ Reached t.count t.compare) (normalMs.toNat * 10) (pulsing gap normalMs hardMs t) t next ∧
        Ahead next next.reload (hardMs.toNat * 10) ↔
      ¬ Reached t.count t.compare ∧ passed gap 5 13 % 2 ^ 32 < normalMs.toNat * 10 ∧
        gap 11 + gap 12 ≤ reloadRoom gap hardMs := by
  have lossless := buildPulse_lossless done_
  obtain ⟨clear, longer, fits, counter, u, rfl, compare, reload, one, running, fresh, counted⟩ :=
    buildPulse_done done_
  have shorter : normalMs.toNat < hardMs.toNat := longer
  have bound : hardMs.toNat ≤ 130 := fits
  have normal : (normalMs * 10).toNat = normalMs.toNat * 10 := by
    simp only [BitVec.toNat_mul, BitVec.toNat_ofNat, BitVec.ofNat_eq_ofNat]
    omega
  have hard : (hardMs * 10 - 1).toNat = hardMs.toNat * 10 - 1 := by
    simp only [BitVec.toNat_sub, BitVec.toNat_mul, BitVec.toNat_ofNat, BitVec.ofNat_eq_ofNat]
    omega
  have split : counter + hardMs * 10 - 1 = counter + (hardMs * 10 - 1) := add_sub_assoc _ _ _
  rw [split] at reload
  have room : (u.reload - u.count).toNat = reloadRoom gap hardMs := by
    unfold reloadRoom
    rw [reload, counted, add_sub_add_left_eq_sub, BitVec.toNat_sub, hard, BitVec.toNat_ofNat]
    have small := Nat.mod_lt (passed gap 5 11) (show 0 < 2 ^ 32 by decide)
    congr 1
    omega
  have same := elapse_same u (gap 11 + gap 12)
  by_cases short : gap 11 + gap 12 ≤ reloadRoom gap hardMs
  · obtain ⟨further, still⟩ := elapse_counted running _ (elapse_pulse running fresh _ (room.symm ▸ short))
    have total : (u.elapse (gap 11 + gap 12)).count = counter + BitVec.ofNat 32 (passed gap 5 13) := by
      rw [further, counted, passed_succ gap (show 5 ≤ 12 by omega), passed_succ gap (show 5 ≤ 11 by omega),
        Nat.add_assoc, BitVec.ofNat_add (passed gap 5 11), add_assoc]
    have ahead := ahead_iff still total normal
    have behind := ahead_iff still total hard
    rw [← compare, ← same.compare] at ahead
    rw [← reload, ← same.reload] at behind
    constructor
    · rintro ⟨kept, -⟩
      exact ⟨kept.old, ahead.mp kept.ahead, short⟩
    · rintro ⟨old, less, -⟩
      obtain ⟨on, positive, near⟩ := behind.mpr (by omega)
      exact ⟨⟨clear, lossless, old, ahead.mpr less⟩, on, positive, by omega⟩
  · have stopped := elapse_stops running one fresh (gap 11 + gap 12) (by omega)
    constructor
    · rintro ⟨kept, -⟩
      exact absurd kept.ahead.1 (stopped.symm ▸ Bool.false_ne_true)
    · rintro ⟨-, -, less⟩
      exact absurd less short

end

/-- Whenever one of the three calls is done, it has kept its promise exactly when fewer counts than it was asked
for have passed since it read the counter; the handoff also needs the old compare open, which it does not look at,
and the pulse the old deadline open when it is called and its reload ahead of what passes after its last look at
the flags. -/
theorem reprogramming_contract (gap : Gaps) (remaining normalMs hardMs : U32) (t next : StopTimer) :
    (renewLease gap remaining t = (.done, next) →
      (Kept (¬ Reached t.count t.compare) ((remaining.toNat - 1) * 10) (renewing gap remaining t) t next ↔
        passed gap 0 5 % 2 ^ 32 < (remaining.toNat - 1) * 10)) ∧
    (buildHandoff gap remaining t = (.done, next) →
      (Kept (HandoffOpen t) ((remaining.toNat - 1) * 10) (handing gap remaining t) t next ↔
        HandoffOpen t ∧ passed gap 5 13 % 2 ^ 32 < (remaining.toNat - 1) * 10)) ∧
    (buildPulse gap normalMs hardMs t = (.done, next) →
      (Kept (¬ Reached t.count t.compare) (normalMs.toNat * 10) (pulsing gap normalMs hardMs t) t next ∧
          Ahead next next.reload (hardMs.toNat * 10) ↔
        ¬ Reached t.count t.compare ∧ passed gap 5 13 % 2 ^ 32 < normalMs.toNat * 10 ∧
          gap 11 + gap 12 ≤ reloadRoom gap hardMs)) :=
  ⟨renewLease_kept_iff, buildHandoff_kept_iff, buildPulse_kept_iff⟩

def benchLease : StopTimer :=
  ⟨true, true, true, false, false, true, false, true, true, 100, 1000, BitVec.allOnes 32, false, false, false⟩

/-- A pulse at count 100 with its compare at 400 and its reload at 799. -/
def benchPulse : StopTimer :=
  ⟨true, true, true, false, false, true, true, true, true, 100, 400, 799, false, false, false⟩

def benchGap : Gaps := fun _ => 1

theorem reprogramming_contract_bench :
    (Kept (¬ Reached benchLease.count benchLease.compare) 1190 (renewing benchGap 120 benchLease) benchLease
          (renewLease benchGap 120 benchLease).2 ↔
        passed benchGap 0 5 % 2 ^ 32 < 1190) ∧
      (Kept (HandoffOpen benchPulse) 1190 (handing benchGap 120 benchPulse) benchPulse
          (buildHandoff benchGap 120 benchPulse).2 ↔
        HandoffOpen benchPulse ∧ passed benchGap 5 13 % 2 ^ 32 < 1190) ∧
      (Kept (¬ Reached benchLease.count benchLease.compare) 50 (pulsing benchGap 5 30 benchLease) benchLease
            (buildPulse benchGap 5 30 benchLease).2 ∧
          Ahead (buildPulse benchGap 5 30 benchLease).2 (buildPulse benchGap 5 30 benchLease).2.reload 300 ↔
        ¬ Reached benchLease.count benchLease.compare ∧ passed benchGap 5 13 % 2 ^ 32 < 50 ∧
          benchGap 11 + benchGap 12 ≤ reloadRoom benchGap 30) :=
  ⟨(reprogramming_contract benchGap 120 5 30 benchLease _).1 (by decide +kernel),
    (reprogramming_contract benchGap 120 5 30 benchPulse _).2.1 (by decide +kernel),
    (reprogramming_contract benchGap 120 5 30 benchLease _).2.2 (by decide +kernel)⟩

/-- Ten counts pass between the last look at the flags and the write of a lease of two milliseconds. -/
def overtakingGap : Gaps := fun k => if k = 3 then 10 else 0

/-- The lease is renewed with a compare that the counter has already reached. -/
theorem renewLease_overtaken :
    (renewLease overtakingGap 2 benchLease).1 = .done ∧
      ¬ Kept (¬ Reached benchLease.count benchLease.compare) ((2 - 1) * 10) (renewing overtakingGap 2 benchLease)
        benchLease (renewLease overtakingGap 2 benchLease).2 := by
  refine ⟨by decide +kernel, fun kept => ?_⟩
  have behind : ((renewLease overtakingGap 2 benchLease).2.compare -
      (renewLease overtakingGap 2 benchLease).2.count).toNat = 0 := by decide +kernel
  have ahead := kept.ahead.2.1
  omega

end Sd700.Motor.TimerAccess

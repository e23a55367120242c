import Sd700.Motor.TimerAccess

/-! The handler that `motor_stop_timer_tim5.c` calls back: from the interrupt, from `MotorStopTimer_CommitArm` and
from `MotorStopTimer_RenewLease`. The hardware goes on between any two register accesses, and a log keeps what was
armed, disarmed and called. -/

namespace Sd700.Motor.TerminalEvents
open Build.Contract Logic.Modular Timer StopTimer

/-! ### The timer between two accesses -/

/-- What the hardware may do to the timer: count, stop, and latch flags. It clears none. -/
structure Drift (S : Type) where
  move : StopTimer → StopTimer
  rest : S → S
  initialized : ∀ t, (move t).initialized = t.initialized
  armed : ∀ t, (move t).armed = t.armed
  healthy : ∀ t, (move t).healthy = t.healthy
  normalCallback : ∀ t, (move t).normalCallback = t.normalCallback
  handoff : ∀ t, (move t).handoff = t.handoff
  updated : ∀ t, t.updated = true → (move t).updated = true
  overcaptured : ∀ t, t.overcaptured = true → (move t).overcaptured = true

/-- The flags of `TIM5->SR` the driver looks at. -/
structure Status where
  updated : Bool
  compared : Bool
  overcaptured : Bool
  deriving DecidableEq

def Status.event (found : Status) : StopEvent :=
  if found.overcaptured then .error
  else if found.updated then .backstop
  else if found.compared then .normal
  else .error

def Status.clear : Status := ⟨false, false, false⟩

def status (t : StopTimer) : Status := ⟨t.updated, t.compared, t.overcaptured⟩

/-- Where the handler is called from: the interrupt handler, or a lease that is renewed too late. -/
inductive Cause
  | interrupt | lateLease
  deriving DecidableEq

/-- What the log keeps. An entry of the handler stands with what the driver found: whether the timer was armed, the
flags as it read them, and the one-pulse bit where it looked at it. -/
inductive Note
  | armed
  | disarmed
  | entered (cause : Cause) (armed : Bool) (found : Status) (onePulse : Bool) (event : StopEvent)
  | handedOver (raised : Bool)
  | kept
  deriving DecidableEq

/-- The timer, what else the handler works on, the accesses made so far, whether an update or an overcapture has been
raised since the flags were last cleared as a whole, and the log, newest first. -/
structure World (S : Type) where
  timer : StopTimer
  rest : S
  accesses : Nat
  raised : Bool
  log : List Note

/-- What a handler asks of the timer before it returns. It works on what it finds after each call. -/
inductive Handling (S : Type)
  | returns (left : S)
  | cancels (left : S) (next : S → Handling S)
  | handsOver (left : S) (remaining : U32) (next : Bool → S → Handling S)
  | looks (left : S) (next : Bool → Bool → S → Handling S)

namespace World

variable {S : Type} (env : Nat → Drift S) (handler : StopEvent → S → Handling S) (w : World S)

def pass : World S :=
  let timer := (env w.accesses).move w.timer
  { w with
    timer := timer, rest := (env w.accesses).rest w.rest, accesses := w.accesses + 1
    raised := w.raised || timer.updated || timer.overcaptured }

def note (line : Note) : World S := { w with log := line :: w.log }

/-- `MotorStopTimer_Cancel`. -/
def cancel : World S := { w with timer := w.timer.cancel, raised := false, log := .disarmed :: w.log }

def start (onePulse : Bool) (compare reload : U32) : World S :=
  { w with timer := w.timer.start onePulse compare reload, raised := false, log := .armed :: w.log }

/-- `MotorStopTimer_Arm`, which looks at the counter enable it has set. -/
def arm (normalMs backstopMs : U32) : Bool × World S :=
  let w := (w.pass env).cancel
  if ¬ w.timer.isHealthy ∨ normalMs = 0 ∨ backstopMs ≤ normalMs ∨ 2 ^ 32 ≤ normalMs.toNat * 10 ∨
      2 ^ 32 ≤ backstopMs.toNat * 10 then (false, w)
  else
    let w := ((w.pass env).start true (normalMs * 10) (backstopMs * 10 - 1)).pass env
    if w.timer.enabled then (true, w)
    else (false, cancel { w with timer := { w.timer with healthy := false } })

/-- `MotorStopTimer_BuildTransitionReady`: the counter enable and then the flags. -/
def transitionReady : Bool × World S :=
  let w := w.pass env
  let ready := w.timer.isArmed && w.timer.healthy
  let w := w.pass env
  (ready && !w.timer.flagged, w)

/-- The words of another output are written into the timer that runs on, the counter enable as it was read. -/
def reprogram (compare reload : U32) (onePulse : Bool) : World S :=
  let w := w.pass env
  let w := { w with timer := { w.timer with compare := compare } }
  let w := w.pass env
  let w := { w with timer := { w.timer with reload := reload } }
  let w := w.pass env
  let enabled := w.timer.enabled
  let w := w.pass env
  { w with timer := { w.timer with enabled := enabled, onePulse := onePulse } }

def handOver (raised : Bool) : World S :=
  { w with timer := { w.timer with handoff := true }, log := .handedOver raised :: w.log }

/-- `MotorStopTimer_BuildHandoff`. Within the callback of a normal compare it lets the interrupt keep the timer. -/
def buildHandoff (remaining : U32) : Bool × World S :=
  let (ready, w) := w.transitionReady env
  let w := w.pass env
  if ¬ ready ∨ ¬ w.timer.onePulse ∨ w.timer.reload ≤ w.timer.count ∨ ¬ leaseFits remaining then (false, w)
  else
    let w := w.pass env
    let w := w.reprogram env (w.timer.count + leaseCounts remaining) (BitVec.allOnes 32) false
    let (ready, looked) := w.transitionReady env
    let w := looked.pass env
    if ¬ ready ∨ Reached w.timer.count w.timer.compare then (false, w)
    else if w.timer.normalCallback then (true, w.handOver looked.raised)
    else (true, w)

/-- `MotorStopTimer_BuildPulse`. -/
def buildPulse (normalMs hardMs : U32) : Bool × World S :=
  let (ready, w) := w.transitionReady env
  let w := w.pass env
  if ¬ ready ∨ w.timer.onePulse ∨ Reached w.timer.count w.timer.compare ∨ normalMs = 0 ∨ hardMs ≤ normalMs ∨
      leaseMs < hardMs then (false, w)
  else
    let w := w.pass env
    let w := w.reprogram env (w.timer.count + normalMs * 10) (w.timer.count + hardMs * 10 - 1) true
    let (ready, w) := w.transitionReady env
    let w := w.pass env
    (ready && decide (w.timer.count < w.timer.reload), w)

end World

def Handling.run {S : Type} (env : Nat → Drift S) : Handling S → World S → World S
  | .returns left, w => { w with rest := left }
  | .cancels left next, w =>
    let w := (World.pass env { w with rest := left }).cancel
    (next w.rest).run env w
  | .handsOver left remaining next, w =>
    let answer := World.buildHandoff env { w with rest := left } remaining
    (next answer.1 answer.2.rest).run env answer.2
  | .looks left next, w =>
    let w := World.pass env { w with rest := left }
    (next w.timer.isArmed w.timer.isHealthy w.rest).run env w

namespace World

variable {S : Type} (env : Nat → Drift S) (handler : StopEvent → S → Handling S) (w : World S)

def call (cause : Cause) (found : Status) (onePulse : Bool) (event : StopEvent) : World S :=
  (handler event w.rest).run env (w.note (.entered cause w.timer.armed found onePulse event))

/-- Only the normal compare of a pulse is acknowledged: `SR = ~CC1IF` writes ones to every other flag. -/
def acknowledge (callback : Bool) : World S :=
  let w := w.pass env
  { w with timer := { w.timer with
      normalCallback := callback, handoff := false, compared := w.timer.compared && !callback } }

/-- `MotorStopTimer_IrqHandler`. -/
def irqHandler : World S :=
  let w := w.pass env
  let found := status w.timer
  if ¬ w.timer.armed then
    let w := { w with timer := { w.timer with healthy := false } }
    ((w.call env handler .interrupt found false .error).pass env).cancel
  else
    let w := { w with timer := { w.timer with healthy := w.timer.healthy && decide (found.event ≠ StopEvent.error) } }
    let w := w.pass env
    let onePulse := w.timer.onePulse
    let w := w.acknowledge env (decide (found.event = StopEvent.normal) && onePulse)
    let w := w.call env handler .interrupt found onePulse found.event
    let w := { w with timer := { w.timer with normalCallback := false } }
    if w.timer.handoff then note { w with timer := { w.timer with handoff := false } } .kept
    else (w.pass env).cancel

/-- `MotorStopTimer_CommitArm`. -/
def commitArm : Bool × World S :=
  if ¬ w.timer.armed ∨ ¬ w.timer.healthy then (false, w)
  else
    let w := w.pass env
    if w.timer.flagged then (false, w.irqHandler env handler)
    else (true, { w with timer := { w.timer with line := true } })

/-- `MotorStopTimer_ArmLease`. -/
def armLease (remaining : U32) : Bool × World S :=
  if ¬ w.timer.isHealthy ∨ w.timer.armed ∨ ¬ leaseFits remaining then (false, w)
  else
    let w := (w.pass env).cancel
    let w := (w.pass env).start false (leaseCounts remaining) (BitVec.allOnes 32)
    w.commitArm env handler

/-- `MotorStopTimer_RenewLease`. -/
def renewLease (remaining : U32) : Bool × World S :=
  let w := w.pass env
  let counter := w.timer.count
  let w := w.pass env
  let oldDeadline := w.timer.compare
  let w := w.pass env
  if ¬ w.timer.isArmed ∨ ¬ w.timer.healthy ∨ ¬ leaseFits remaining then (false, w)
  else
    let w := w.pass env
    let found := status w.timer
    if w.timer.flagged then (false, w.irqHandler env handler)
    else if Reached counter oldDeadline then
      (false, ((w.call env handler .lateLease found false .normal).pass env).cancel)
    else
      let w := w.pass env
      commitArm env handler { w with timer := { w.timer with compare := counter + leaseCounts remaining } }

end World

inductive Call
  | arm (normalMs backstopMs : U32)
  | armLease (remaining : U32)
  | commitArm
  | renewLease (remaining : U32)
  | buildHandoff (remaining : U32)
  | buildPulse (normalMs hardMs : U32)
  | interrupt
  | cancel

namespace World

variable {S : Type} (env : Nat → Drift S) (handler : StopEvent → S → Handling S)

def step (w : World S) : Call → World S
  | .arm normalMs backstopMs => (w.arm env normalMs backstopMs).2
  | .armLease remaining => (w.armLease env handler remaining).2
  | .commitArm => (w.commitArm env handler).2
  | .renewLease remaining => (w.renewLease env handler remaining).2
  | .buildHandoff remaining => (w.buildHandoff env remaining).2
  | .buildPulse normalMs hardMs => (w.buildPulse env normalMs hardMs).2
  | .interrupt => w.irqHandler env handler
  | .cancel => (w.pass env).cancel

def runs (w : World S) (calls : List Call) : World S := calls.foldl (step env handler) w

end World

/-! ### What the log says -/

/-- Terminal events since the timer was last armed or disarmed: entries of the handler that it has not answered by
keeping the timer. -/
def terminal : List Note → Nat
  | [] => 0
  | .armed :: _ => 0
  | .disarmed :: _ => 0
  | .entered .. :: past => terminal past + 1
  | .handedOver _ :: past => terminal past
  | .kept :: past => terminal past - 1

/-- An interrupt was taken while the timer was disarmed. -/
def Stray (log : List Note) : Prop := ∃ found onePulse event, .entered .interrupt false found onePulse event ∈ log

/-- The normal compare of a pulse whose handler has handed over, with neither an update nor an overcapture raised. -/
def HandedOver (past : List Note) : Prop :=
  ∃ inner found before, past = inner ++ .entered .interrupt true found true .normal :: before ∧
    found.event = .normal ∧ .handedOver false ∈ inner ∧ ∀ line ∈ inner, line = .disarmed ∨ line = .handedOver false

def Fits : Note → List Note → Prop
  | .armed, past => ¬ Stray past
  | .disarmed, _ => True
  | .entered .interrupt armed found _ event, past =>
    terminal past = 0 ∧ event = if armed then found.event else .error
  | .entered .lateLease armed found _ event, past =>
    terminal past = 0 ∧ armed = true ∧ found = .clear ∧ event = .normal
  | .handedOver raised, _ => raised = false
  | .kept, past => HandedOver past

inductive Lawful : List Note → Prop
  | nil : Lawful []
  | cons {line : Note} {past : List Note} (fits : Fits line past) (most : terminal (line :: past) ≤ 1)
      (law : Lawful past) : Lawful (line :: past)

namespace World

variable {S : Type} {env : Nat → Drift S} {handler : StopEvent → S → Handling S} {w u v : World S}

/-- No flag has been erased: an update or an overcapture that was raised still stands. -/
def Faithful (w : World S) : Prop := w.raised = (w.timer.updated || w.timer.overcaptured)

def Inner (line : Note) : Prop := line = .disarmed ∨ line = .handedOver false

structure Within (w v : World S) : Prop where
  initialized : v.timer.initialized = w.timer.initialized
  healthy : v.timer.healthy = w.timer.healthy
  normalCallback : v.timer.normalCallback = w.timer.normalCallback
  armed : v.timer.armed = true → w.timer.armed = true
  faithful : w.Faithful → v.Faithful
  called : v.timer.handoff = true → w.timer.handoff = true ∨ w.timer.normalCallback = true
  log : w.Faithful → ∃ lines, v.log = lines ++ w.log ∧ (∀ line ∈ lines, Inner line) ∧
    (v.timer.handoff = true → w.timer.handoff = true ∨ .handedOver false ∈ lines)

theorem Within.refl (w : World S) : Within w w :=
  ⟨rfl, rfl, rfl, id, id, .inl, fun _ => ⟨[], rfl, by simp, .inl⟩⟩

theorem Within.trans (first : Within w u) (second : Within u v) : Within w v := by
  refine ⟨second.initialized.trans first.initialized, second.healthy.trans first.healthy,
    second.normalCallback.trans first.normalCallback, first.armed ∘ second.armed, second.faithful ∘ first.faithful,
    fun kept => ?_, fun faithful => ?_⟩
  · obtain before | called := second.called kept
    · exact first.called before
    · exact .inr (first.normalCallback ▸ called)
  · obtain ⟨early, earlier, inner, handed⟩ := first.log faithful
    obtain ⟨late, later, inner', handed'⟩ := second.log (first.faithful faithful)
    refine ⟨late ++ early, by rw [later, earlier, List.append_assoc], fun line listed => ?_, fun kept => ?_⟩
    · obtain listed | listed := List.mem_append.mp listed
      · exact inner' line listed
      · exact inner line listed
    · obtain before | listed := handed' kept
      · exact (handed before).imp_right (List.mem_append_right late)
      · exact .inr (List.mem_append_left early listed)

theorem within_pass (env : Nat → Drift S) (w : World S) : Within w (w.pass env) := by
  have handoff := (env w.accesses).handoff w.timer
  refine ⟨(env w.accesses).initialized _, (env w.accesses).healthy _, (env w.accesses).normalCallback _,
    fun armed => ((env w.accesses).armed _).symm.trans armed, fun faithful => ?_,
    fun kept => .inl (handoff.symm.trans kept), fun _ => ⟨[], rfl, by simp, fun kept => .inl (handoff.symm.trans kept)⟩⟩
  have updated := (env w.accesses).updated w.timer
  have overcaptured := (env w.accesses).overcaptured w.timer
  unfold Faithful at faithful ⊢
  show (w.raised || ((env w.accesses).move w.timer).updated || ((env w.accesses).move w.timer).overcaptured) = _
  rw [faithful]
  dsimp only [pass]
  cases hu : w.timer.updated <;> cases ho : w.timer.overcaptured <;> simp_all

theorem within_cancel (w : World S) : Within w w.cancel :=
  ⟨rfl, rfl, rfl, fun armed => absurd armed Bool.false_ne_true, fun _ => rfl, .inl,
    fun _ => ⟨[.disarmed], rfl, by simp [Inner], .inl⟩⟩

theorem within_rest (w : World S) (left : S) : Within w { w with rest := left } :=
  ⟨rfl, rfl, rfl, id, id, .inl, fun _ => ⟨[], rfl, by simp, .inl⟩⟩

theorem within_transitionReady (w : World S) : Within w (w.transitionReady env).2 :=
  (within_pass env w).trans (within_pass env _)

/-- A timer that is found ready shows neither an update nor an overcapture. -/
theorem transitionReady_clear (ready : (w.transitionReady env).1 = true) (faithful : w.Faithful) :
    (w.transitionReady env).2.raised = false := by
  have later : (w.transitionReady env).2.Faithful := (within_transitionReady w).faithful faithful
  unfold transitionReady at ready later ⊢
  dsimp only at ready later ⊢
  rw [later]
  simp only [flagged, Bool.and_eq_true, Bool.not_eq_true', Bool.or_eq_false_iff] at ready
  rw [ready.2.1.1, ready.2.2]
  rfl

theorem Within.pass (before : Within w u) : Within w (u.pass env) := before.trans (within_pass env u)

/-- The driver writes to registers that hold neither a flag nor a static. -/
theorem Within.write {t : StopTimer} (before : Within w u) (initialized : t.initialized = u.timer.initialized)
    (healthy : t.healthy = u.timer.healthy) (normalCallback : t.normalCallback = u.timer.normalCallback)
    (armed : t.armed = u.timer.armed) (handoff : t.handoff = u.timer.handoff) (updated : t.updated = u.timer.updated)
    (overcaptured : t.overcaptured = u.timer.overcaptured) : Within w { u with timer := t } := by
  refine before.trans ⟨initialized, healthy, normalCallback, fun on => armed.symm.trans on, fun faithful => ?_,
    fun kept => .inl (handoff.symm.trans kept), fun _ => ⟨[], rfl, by simp, fun kept => .inl (handoff.symm.trans kept)⟩⟩
  unfold Faithful at faithful ⊢
  rw [updated, overcaptured]
  exact faithful

theorem within_reprogram (w : World S) (compare reload : U32) (onePulse : Bool) :
    Within w (w.reprogram env compare reload onePulse) := by
  let first := w.pass env
  let second : World S := { first with timer := { first.timer with compare := compare } }
  let third := second.pass env
  let fourth : World S := { third with timer := { third.timer with reload := reload } }
  have compared : Within w second := (within_pass env w).write rfl rfl rfl rfl rfl rfl rfl
  have reloaded : Within w fourth := compared.pass.write rfl rfl rfl rfl rfl rfl rfl
  exact reloaded.pass.pass.write rfl rfl rfl rfl rfl rfl rfl

theorem Within.handOver {raised : Bool} (before : Within w u) (callback : u.timer.normalCallback = true)
    (clear : w.Faithful → raised = false) : Within w (u.handOver raised) := by
  have called : w.timer.normalCallback = true := before.normalCallback ▸ callback
  refine ⟨before.initialized, before.healthy, before.normalCallback, before.armed, before.faithful,
    fun _ => .inr called, fun faithful => ?_⟩
  obtain ⟨lines, log, inner, -⟩ := before.log faithful
  refine ⟨.handedOver raised :: lines, congrArg (List.cons _) log, ?_, fun _ => .inr ?_⟩
  · intro line listed
    obtain rfl | listed := List.mem_cons.mp listed
    · exact .inr (congrArg _ (clear faithful))
    · exact inner line listed
  · rw [clear faithful]
    exact List.mem_cons_self

theorem within_buildHandoff (w : World S) (remaining : U32) : Within w (w.buildHandoff env remaining).2 := by
  unfold buildHandoff
  dsimp only
  have first : Within w ((w.transitionReady env).2.pass env) := (within_transitionReady w).pass
  generalize (w.transitionReady env).2.pass env = a at first ⊢
  split
  · exact first
  have again : Within w (reprogram env (a.pass env) ((a.pass env).timer.count + leaseCounts remaining)
    (BitVec.allOnes 32) false) := first.pass.trans (within_reprogram _ _ _ _)
  generalize reprogram env _ _ _ _ = b at again ⊢
  have last : Within w ((b.transitionReady env).2.pass env) := (again.trans (within_transitionReady b)).pass
  split
  · exact last
  rename_i done_
  have ready : (b.transitionReady env).1 = true := by
    by_contra unready
    exact done_ (.inl unready)
  split
  · rename_i callback
    exact last.handOver callback fun faithful => transitionReady_clear ready (again.faithful faithful)
  · exact last

theorem within_buildPulse (w : World S) (normalMs hardMs : U32) :
    Within w (w.buildPulse env normalMs hardMs).2 := by
  unfold buildPulse
  dsimp only
  have first : Within w ((w.transitionReady env).2.pass env) := (within_transitionReady w).pass
  generalize (w.transitionReady env).2.pass env = a at first ⊢
  split
  · exact first
  have again : Within w (reprogram env (a.pass env) ((a.pass env).timer.count + normalMs * 10)
    ((a.pass env).timer.count + hardMs * 10 - 1) true) := first.pass.trans (within_reprogram _ _ _ _)
  exact (again.trans (within_transitionReady _)).pass

/-- Whatever a handler does, the log only gains what a handler may do. -/
theorem within_run (asked : Handling S) (w : World S) : Within w (asked.run env w) := by
  induction asked generalizing w with
  | returns left => exact within_rest w left
  | cancels left next ih => exact ((within_rest w left).pass.trans (within_cancel _)).trans (ih _ _)
  | handsOver left remaining next ih =>
    exact ((within_rest w left).trans (within_buildHandoff _ remaining)).trans (ih _ _ _)
  | looks left next ih => exact (within_rest w left).pass.trans (ih _ _ _ _)

/-! ### From call to call -/

/-- Between two calls no handler is running, no flag has been erased, and no terminal event is left unanswered. -/
structure Ready (w : World S) : Prop where
  callback : w.timer.normalCallback = false
  handoff : w.timer.handoff = false
  faithful : w.Faithful
  lawful : Lawful w.log
  settled : terminal w.log = 0
  doomed : Stray w.log → w.timer.healthy = false

theorem terminal_inner {lines : List Note} (inner : ∀ line ∈ lines, Inner line) (past : List Note) :
    terminal (lines ++ past) ≤ terminal past := by
  induction lines with
  | nil => exact Nat.le_refl _
  | cons line lines ih =>
    have rest := ih fun line listed => inner line (List.mem_cons_of_mem _ listed)
    obtain rfl | rfl := inner line List.mem_cons_self
    · exact Nat.zero_le _
    · exact rest

theorem lawful_inner {lines past : List Note} (law : Lawful past) (most : terminal past ≤ 1)
    (inner : ∀ line ∈ lines, Inner line) : Lawful (lines ++ past) := by
  induction lines with
  | nil => exact law
  | cons line lines ih =>
    have rest := ih fun line listed => inner line (List.mem_cons_of_mem _ listed)
    have bounded := (terminal_inner (fun line listed => inner line (List.mem_cons_of_mem _ listed)) past).trans most
    obtain rfl | rfl := inner line List.mem_cons_self
    · exact .cons trivial (Nat.zero_le _) rest
    · exact .cons rfl bounded rest

theorem stray_inner {lines past : List Note} (inner : ∀ line ∈ lines, Inner line) :
    Stray (lines ++ past) ↔ Stray past := by
  constructor
  · rintro ⟨found, onePulse, event, listed⟩
    obtain listed | listed := List.mem_append.mp listed
    · obtain named | named := inner _ listed <;> cases named
    · exact ⟨found, onePulse, event, listed⟩
  · rintro ⟨found, onePulse, event, listed⟩
    exact ⟨found, onePulse, event, List.mem_append_right _ listed⟩

theorem Ready.within (ready : Ready w) (moved : Within w v) : Ready v := by
  obtain ⟨lines, log, inner, -⟩ := moved.log ready.faithful
  refine ⟨moved.normalCallback.trans ready.callback, ?_, moved.faithful ready.faithful, ?_, ?_, fun stray => ?_⟩
  · by_contra kept
    obtain before | called := moved.called (Bool.not_eq_false _ ▸ kept)
    · exact Bool.false_ne_true (ready.handoff.symm.trans before)
    · exact Bool.false_ne_true (ready.callback.symm.trans called)
  · rw [log]
    exact lawful_inner ready.lawful (ready.settled.trans_le (Nat.zero_le 1)) inner
  · rw [log]
    exact Nat.le_zero.mp ((terminal_inner inner _).trans ready.settled.le)
  · rw [log, stray_inner inner] at stray
    exact moved.healthy.trans (ready.doomed stray)

def Entry : Note → Prop
  | .entered .. => True
  | _ => False

theorem not_entry {line : Note} (inner : Inner line) : ¬ Entry line := by
  obtain rfl | rfl := inner <;> exact id

/-- A call is over: if it has run the handler, the timer is disarmed, or the handler has kept it. -/
structure Done (w v : World S) : Prop where
  ready : Ready v
  log : ∃ lines, v.log = lines ++ w.log ∧ ((∃ line ∈ lines, Entry line) → .kept ∈ lines ∨ v.timer.armed = false)

structure Calm (w v : World S) : Prop where
  ready : Ready v
  log : ∃ lines, v.log = lines ++ w.log ∧ ∀ line ∈ lines, ¬ Entry line

theorem Ready.calm (ready : Ready w) (moved : Within w v) : Calm w v := by
  obtain ⟨lines, log, inner, -⟩ := moved.log ready.faithful
  exact ⟨ready.within moved, lines, log, fun line listed => not_entry (inner line listed)⟩

theorem Calm.done_ (calm : Calm w v) : Done w v := by
  obtain ⟨lines, log, none_⟩ := calm.log
  exact ⟨calm.ready, lines, log, fun ⟨line, listed, entry⟩ => absurd entry (none_ line listed)⟩

theorem Calm.trans (first : Calm w u) (second : Calm u v) : Calm w v := by
  obtain ⟨early, earlier, none_⟩ := first.log
  obtain ⟨late, later, none_'⟩ := second.log
  refine ⟨second.ready, late ++ early, by rw [later, earlier, List.append_assoc], fun line listed => ?_⟩
  obtain listed | listed := List.mem_append.mp listed
  · exact none_' line listed
  · exact none_ line listed

theorem Calm.after (calm : Calm w u) (done_ : Done u v) : Done w v := by
  obtain ⟨early, earlier, none_⟩ := calm.log
  obtain ⟨late, later, answered⟩ := done_.log
  refine ⟨done_.ready, late ++ early, by rw [later, earlier, List.append_assoc], ?_⟩
  rintro ⟨line, listed, entry⟩
  obtain listed | listed := List.mem_append.mp listed
  · exact (answered ⟨line, listed, entry⟩).imp_left (List.mem_append_left early)
  · exact absurd entry (none_ line listed)

theorem terminal_entry {line : Note} (entry : Entry line) (past : List Note) :
    terminal (line :: past) = terminal past + 1 := by
  cases line <;> first | rfl | exact False.elim entry

structure Called (u v : World S) (line : Note) (lines : List Note) : Prop where
  log : v.log = lines ++ line :: u.log
  inner : ∀ line ∈ lines, Inner line
  handed : v.timer.handoff = true → u.timer.handoff = true ∨ .handedOver false ∈ lines
  lawful : Lawful v.log
  most : terminal v.log ≤ 1

theorem called {line : Note} (faithful : u.Faithful) (law : Lawful u.log) (settled : terminal u.log = 0)
    (fits : Fits line u.log) (entry : Entry line) (moved : Within (u.note line) v) : ∃ lines, Called u v line lines := by
  obtain ⟨lines, log, inner, handed⟩ := moved.log faithful
  have one : terminal (line :: u.log) = 1 := by
    rw [terminal_entry entry, settled]
  refine ⟨lines, log, inner, handed, ?_, ?_⟩
  · rw [log]
    exact lawful_inner (.cons fits one.le law) one.le inner
  · rw [log]
    exact (terminal_inner inner _).trans one.le

theorem Called.cancelled {line : Note} {lines : List Note} (called : Called u v line lines)
    (callback : v.timer.normalCallback = false) (handoff : v.timer.handoff = false)
    (doomed : Stray (line :: u.log) → v.timer.healthy = false) : Done u v.cancel := by
  refine ⟨⟨callback, handoff, rfl, .cons trivial (Nat.zero_le _) called.lawful, rfl, fun stray => ?_⟩,
    .disarmed :: lines ++ [line], ?_, fun _ => .inr rfl⟩
  · have inner : ∀ line ∈ Note.disarmed :: lines, Inner line := by
      intro line listed
      obtain rfl | listed := List.mem_cons.mp listed
      · exact .inl rfl
      · exact called.inner line listed
    have same : v.cancel.log = (Note.disarmed :: lines) ++ line :: u.log := congrArg _ called.log
    rw [same, stray_inner inner] at stray
    exact doomed stray
  · show Note.disarmed :: v.log = _
    rw [called.log]
    simp

/-- The handler is called outside the interrupt of an armed timer: it cannot keep the timer. -/
theorem outside_done (env : Nat → Drift S) (handler : StopEvent → S → Handling S) (ready : Ready u) {cause : Cause}
    {found : Status} {event : StopEvent} (fits : Fits (.entered cause u.timer.armed found false event) u.log)
    (doomed : Stray (.entered cause u.timer.armed found false event :: u.log) → u.timer.healthy = false) :
    Done u ((u.call env handler cause found false event).pass env).cancel := by
  have moved : Within (u.note (.entered cause u.timer.armed found false event))
    ((u.call env handler cause found false event).pass env) := (within_run _ _).pass
  obtain ⟨lines, answer⟩ := called ready.faithful ready.lawful ready.settled fits trivial moved
  refine answer.cancelled (moved.normalCallback.trans ready.callback) ?_ fun stray => moved.healthy.trans (doomed stray)
  by_contra kept
  obtain before | called := moved.called (Bool.not_eq_false _ ▸ kept)
  · exact Bool.false_ne_true (ready.handoff.symm.trans before)
  · exact Bool.false_ne_true (ready.callback.symm.trans called)

/-- A note that is no stray interrupt leaves the strays as they were. -/
theorem stray_cons {line : Note} {past : List Note}
    (armed : ∀ found onePulse event, line ≠ .entered .interrupt false found onePulse event)
    (stray : Stray (line :: past)) : Stray past := by
  obtain ⟨found, onePulse, event, listed⟩ := stray
  obtain named | listed := List.mem_cons.mp listed
  · exact absurd named.symm (armed found onePulse event)
  · exact ⟨found, onePulse, event, listed⟩

/-- The interrupt of an armed timer, from its acknowledgement on. -/
theorem armed_done (env : Nat → Drift S) (handler : StopEvent → S → Handling S) {found : Status} {onePulse : Bool}
    (armed : u.timer.armed = true) (faithful : u.Faithful) (lawful : Lawful u.log) (settled : terminal u.log = 0) (doomed : Stray u.log → u.timer.healthy = false)
    (callback : u.timer.normalCallback = (decide (found.event = StopEvent.normal) && onePulse))
    (handoff : u.timer.handoff = false) :
    Done u
      (let w := u.call env handler .interrupt found onePulse found.event
       let w := { w with timer := { w.timer with normalCallback := false } }
       if w.timer.handoff then note { w with timer := { w.timer with handoff := false } } .kept
       else (w.pass env).cancel) := by
  have moved : Within (u.note (.entered .interrupt u.timer.armed found onePulse found.event))
    (u.call env handler .interrupt found onePulse found.event) := within_run _ _
  have fits : Fits (.entered .interrupt u.timer.armed found onePulse found.event) u.log := by
    rw [armed]
    exact ⟨settled, rfl⟩
  have sound : Stray (.entered .interrupt u.timer.armed found onePulse found.event :: u.log) →
      u.timer.healthy = false := by
    rw [armed]
    exact fun stray => doomed (stray_cons (by simp) stray)
  obtain ⟨lines, answer⟩ := called faithful lawful settled fits trivial moved
  generalize u.call env handler .interrupt found onePulse found.event = v at moved answer ⊢
  dsimp only
  split
  · rename_i kept
    have pulse : found.event = StopEvent.normal ∧ onePulse = true := by
      obtain before | called := moved.called kept
      · exact absurd (handoff.symm.trans before) Bool.false_ne_true
      · have both := callback.symm.trans called
        simpa using both
    have handed : .handedOver false ∈ lines := by
      obtain before | listed := answer.handed kept
      · exact absurd (handoff.symm.trans before) Bool.false_ne_true
      · exact listed
    have over_ : HandedOver v.log := by
      refine ⟨lines, found, u.log, ?_, pulse.1, handed, answer.inner⟩
      rw [answer.log, armed, pulse.1, pulse.2]
    have most : terminal (.kept :: v.log) = 0 := Nat.sub_eq_zero_of_le answer.most
    refine ⟨⟨rfl, rfl, moved.faithful faithful, .cons over_ (most.trans_le (Nat.zero_le 1)) answer.lawful, most,
      fun stray => ?_⟩, .kept :: (lines ++ [.entered .interrupt u.timer.armed found onePulse found.event]), ?_,
      fun _ => .inl List.mem_cons_self⟩
    · have before := stray_cons (by simp) stray
      rw [answer.log, stray_inner answer.inner] at before
      exact moved.healthy.trans (sound before)
    · show Note.kept :: v.log = _
      rw [answer.log]
      simp
  · rename_i unkept
    have over_ : v.timer.handoff = false := Bool.eq_false_iff.mpr unkept
    let ended : World S := { v with timer := { v.timer with normalCallback := false } }
    have off : (ended.pass env).timer.handoff = false := ((env _).handoff _).trans over_
    have final : Called u (ended.pass env) (.entered .interrupt u.timer.armed found onePulse found.event) lines :=
      ⟨answer.log, answer.inner, fun kept => absurd (off.symm.trans kept) Bool.false_ne_true, answer.lawful, answer.most⟩
    have unhealthy (stray : Stray (.entered .interrupt u.timer.armed found onePulse found.event :: u.log)) :
        (ended.pass env).timer.healthy = false := ((env _).healthy _).trans (moved.healthy.trans (sound stray))
    exact final.cancelled ((env _).normalCallback _) off unhealthy

/-- The interrupt of an armed timer, from the one-pulse bit on. -/
theorem acknowledged_done (env : Nat → Drift S) (handler : StopEvent → S → Handling S) (ready : Ready u)
    (armed : u.timer.armed = true) (found : Status) :
    Done u
      (let w := u.pass env
       let onePulse := w.timer.onePulse
       let w := w.acknowledge env (decide (found.event = StopEvent.normal) && onePulse)
       let w := w.call env handler .interrupt found onePulse found.event
       let w := { w with timer := { w.timer with normalCallback := false } }
       if w.timer.handoff then note { w with timer := { w.timer with handoff := false } } .kept
       else (w.pass env).cancel) := by
  have moved : Within u ((u.pass env).pass env) := (within_pass env u).pass
  have passed := ready.within moved
  have on : ((u.pass env).pass env).timer.armed = true :=
    ((env _).armed _).trans (((env _).armed _).trans armed)
  let taken := (u.pass env).acknowledge env (decide (found.event = StopEvent.normal) && (u.pass env).timer.onePulse)
  have acknowledged : taken.Faithful := passed.faithful
  have callback : taken.timer.normalCallback =
    (decide (found.event = StopEvent.normal) && (u.pass env).timer.onePulse) := rfl
  have handoff : taken.timer.handoff = false := rfl
  have armed : taken.timer.armed = true := on
  have answered := armed_done env handler armed acknowledged passed.lawful passed.settled passed.doomed callback handoff
  exact ⟨answered.ready, answered.log⟩

theorem irqHandler_done (ready : Ready w) : Done w (w.irqHandler env handler) := by
  have passed := ready.within (within_pass env w)
  refine (ready.calm (within_pass env w)).after ?_
  unfold irqHandler
  dsimp only
  generalize w.pass env = u at passed ⊢
  split
  · rename_i disarmed
    have unhealthy : Ready { u with timer := { u.timer with healthy := false } } :=
      ⟨passed.callback, passed.handoff, passed.faithful, passed.lawful, passed.settled, fun _ => rfl⟩
    have off : u.timer.armed = false := Bool.eq_false_iff.mpr disarmed
    have fits : Fits (.entered .interrupt u.timer.armed (status u.timer) false .error) u.log := by
      rw [off]
      exact ⟨passed.settled, rfl⟩
    have answered := outside_done env handler unhealthy fits fun _ => rfl
    exact ⟨answered.ready, answered.log⟩
  · rename_i armed
    have on : u.timer.armed = true := of_not_not armed
    have sound : Ready { u with timer := { u.timer with
        healthy := u.timer.healthy && decide ((status u.timer).event ≠ StopEvent.error) } } :=
      ⟨passed.callback, passed.handoff, passed.faithful, passed.lawful, passed.settled, fun stray => by
        rw [passed.doomed stray, Bool.false_and]⟩
    have answered := acknowledged_done env handler sound on (status u.timer)
    exact ⟨answered.ready, answered.log⟩

theorem commitArm_done (ready : Ready w) : Done w (w.commitArm env handler).2 := by
  unfold commitArm
  split
  · exact (ready.calm (.refl w)).done_
  dsimp only
  have passed := ready.within (within_pass env w)
  split
  · exact (ready.calm (within_pass env w)).after (irqHandler_done passed)
  · have kept : Within w { w.pass env with timer := { (w.pass env).timer with line := true } } :=
      (within_pass env w).write rfl rfl rfl rfl rfl rfl rfl
    exact (ready.calm kept).done_

theorem renewLease_done (ready : Ready w) (remaining : U32) : Done w (w.renewLease env handler remaining).2 := by
  unfold renewLease
  dsimp only
  generalize (w.pass env).timer.count = counter
  generalize ((w.pass env).pass env).timer.compare = oldDeadline
  have moved : Within w (((w.pass env).pass env).pass env) := (within_pass env w).pass.pass
  generalize ((w.pass env).pass env).pass env = u at moved ⊢
  split
  · exact (ready.calm moved).done_
  rename_i admitted
  have looked : Within w (u.pass env) := moved.pass
  have passed := ready.within looked
  have armed : (u.pass env).timer.armed = true := by
    have on := of_not_not fun off => admitted (.inl off)
    exact ((env _).armed _).trans (Bool.and_eq_true _ _ ▸ on).1
  split
  · exact (ready.calm looked).after (irqHandler_done passed)
  rename_i unflagged
  split
  · have clear : status (u.pass env).timer = .clear := by
      simp only [flagged, Bool.not_eq_true, Bool.or_eq_false_iff] at unflagged
      unfold status
      rw [unflagged.1.1, unflagged.1.2, unflagged.2]
      rfl
    have fits : Fits (.entered .lateLease (u.pass env).timer.armed (status (u.pass env).timer) false .normal)
      (u.pass env).log := ⟨passed.settled, armed, clear, rfl⟩
    refine (ready.calm looked).after (outside_done env handler passed fits fun stray => ?_)
    exact passed.doomed (stray_cons (by simp) stray)
  · have written : Within w { (u.pass env).pass env with timer := { ((u.pass env).pass env).timer with
      compare := counter + leaseCounts remaining } } := looked.pass.write rfl rfl rfl rfl rfl rfl rfl
    exact (ready.calm written).after (commitArm_done (ready.within written))

/-- A healthy timer is started: no stray interrupt has been taken. -/
theorem Ready.start (ready : Ready w) (healthy : w.timer.healthy = true) (onePulse : Bool) (compare reload : U32) :
    Calm w (w.start onePulse compare reload) := by
  have fresh : ¬ Stray w.log := fun stray => Bool.false_ne_true ((ready.doomed stray).symm.trans healthy)
  refine ⟨⟨ready.callback, ready.handoff, rfl, .cons fresh (Nat.zero_le _) ready.lawful, rfl, fun stray => ?_⟩,
    [.armed], rfl, by simp [Entry]⟩
  exact absurd (stray_cons (by simp) stray) fresh

theorem arm_done (ready : Ready w) (normalMs backstopMs : U32) : Done w (w.arm env normalMs backstopMs).2 := by
  unfold arm
  dsimp only
  have moved : Within w (w.pass env).cancel := (within_pass env w).trans (within_cancel _)
  generalize (w.pass env).cancel = u at moved ⊢
  split
  · exact (ready.calm moved).done_
  rename_i admitted
  have healthy : (u.pass env).timer.healthy = true := by
    have sound := of_not_not fun unhealthy => admitted (.inl unhealthy)
    exact ((env _).healthy _).trans (Bool.and_eq_true _ _ ▸ sound).2
  have started := (ready.calm moved.pass).trans
    ((ready.within moved.pass).start healthy true (normalMs * 10) (backstopMs * 10 - 1))
  have looked := started.trans (started.ready.calm (within_pass env _))
  generalize ((u.pass env).start true (normalMs * 10) (backstopMs * 10 - 1)).pass env = v at looked ⊢
  split
  · exact looked.done_
  let failed : World S := { v with timer := { v.timer with healthy := false } }
  have given : Ready failed := ⟨looked.ready.callback, looked.ready.handoff, looked.ready.faithful, looked.ready.lawful,
    looked.ready.settled, fun _ => rfl⟩
  have ended := given.calm (within_cancel failed)
  exact (looked.trans ⟨ended.ready, ended.log⟩).done_

theorem armLease_done (ready : Ready w) (remaining : U32) : Done w (w.armLease env handler remaining).2 := by
  unfold armLease
  split
  · exact (ready.calm (.refl w)).done_
  rename_i admitted
  dsimp only
  have moved : Within w ((w.pass env).cancel.pass env) := ((within_pass env w).trans (within_cancel _)).pass
  have healthy : ((w.pass env).cancel.pass env).timer.healthy = true := by
    have sound := of_not_not fun unhealthy => admitted (.inl unhealthy)
    exact moved.healthy.trans (Bool.and_eq_true _ _ ▸ sound).2
  have started := (ready.calm moved).trans
    ((ready.within moved).start healthy false (leaseCounts remaining) (BitVec.allOnes 32))
  exact started.after (commitArm_done started.ready)

theorem step_done (ready : Ready w) (next : Call) : Done w (w.step env handler next) := by
  cases next with
  | arm normalMs backstopMs => exact arm_done ready normalMs backstopMs
  | armLease remaining => exact armLease_done ready remaining
  | commitArm => exact commitArm_done ready
  | renewLease remaining => exact renewLease_done ready remaining
  | buildHandoff remaining => exact (ready.calm (within_buildHandoff w remaining)).done_
  | buildPulse normalMs hardMs => exact (ready.calm (within_buildPulse w normalMs hardMs)).done_
  | interrupt => exact irqHandler_done ready
  | cancel => exact (ready.calm ((within_pass env w).trans (within_cancel _))).done_

theorem runs_ready (ready : Ready w) (calls : List Call) : Ready (w.runs env handler calls) := by
  unfold runs
  induction calls generalizing w with
  | nil => exact ready
  | cons next calls ih => exact ih (step_done ready next).ready

def begin_ (t : StopTimer) (rest : S) : World S := ⟨t, rest, 0, t.updated || t.overcaptured, []⟩

theorem ready_begin {t : StopTimer} {rest : S} (callback : t.normalCallback = false) (handoff : t.handoff = false) :
    Ready (begin_ t rest) :=
  ⟨callback, handoff, rfl, .nil, rfl, fun ⟨_, _, _, listed⟩ => absurd listed List.not_mem_nil⟩

end World

/-! ### At most once -/

def entries : List Note → Nat
  | [] => 0
  | .entered .. :: past => entries past + 1
  | _ :: past => entries past

def keeps : List Note → Nat
  | [] => 0
  | .kept :: past => keeps past + 1
  | _ :: past => keeps past

theorem Lawful.before {later past : List Note} (law : Lawful (later ++ past)) : Lawful past := by
  induction later with
  | nil => exact law
  | cons line later ih =>
    cases law with
    | cons _ _ law => exact ih law

theorem Lawful.most {log : List Note} (law : Lawful log) : terminal log ≤ 1 := by
  cases law with
  | nil => exact Nat.zero_le 1
  | cons _ most _ => exact most

theorem entries_le {period : List Note} (past : List Note) (armed : ∀ line ∈ period, line ≠ .armed ∧ line ≠ .disarmed) :
    entries period ≤ keeps period + terminal (period ++ past) := by
  induction period with
  | nil => exact Nat.zero_le _
  | cons line period ih =>
    have rest := ih fun line listed => armed line (List.mem_cons_of_mem _ listed)
    obtain ⟨unarmed, undisarmed⟩ := armed line List.mem_cons_self
    cases line with
    | armed => exact absurd rfl unarmed
    | disarmed => exact absurd rfl undisarmed
    | entered cause armed found onePulse event => exact Nat.succ_le_succ rest
    | handedOver raised => exact rest
    | kept =>
      show entries period ≤ keeps period + 1 + (terminal (period ++ past) - 1)
      omega

/-- While the timer stays armed the handler is entered once more than it keeps the timer, at most. -/
theorem Lawful.once {log later period past : List Note} (law : Lawful log) (split_ : log = later ++ (period ++ past))
    (armed : ∀ line ∈ period, line ≠ .armed ∧ line ≠ .disarmed) : entries period ≤ keeps period + 1 := by
  have most := (split_ ▸ law).before.most
  have counted := entries_le past armed
  omega

/-! ### The timer that counts, and the executor's handler -/

theorem elapse_keep {α : Type} (read : StopTimer → α) (kept : ∀ t, read t.tick = read t) (t : StopTimer) (ticks : Nat) :
    read (t.elapse ticks) = read t := by
  induction ticks with
  | zero => rfl
  | succ ticks ih =>
    rw [elapse_succ]
    exact (kept _).trans ih

theorem tick_initialized (t : StopTimer) : t.tick.initialized = t.initialized := by
  unfold tick
  split_ifs <;> rfl

theorem tick_normalCallback (t : StopTimer) : t.tick.normalCallback = t.normalCallback := by
  unfold tick
  split_ifs <;> rfl

theorem tick_handoff (t : StopTimer) : t.tick.handoff = t.handoff := by
  unfold tick
  split_ifs <;> rfl

def Drift.elapse {S : Type} (ticks : Nat) (rest : S → S) : Drift S where
  move t := t.elapse ticks
  rest := rest
  initialized t := elapse_keep StopTimer.initialized tick_initialized t ticks
  armed t := elapse_keep StopTimer.armed TimerAccess.tick_armed t ticks
  healthy t := elapse_keep StopTimer.healthy TimerAccess.tick_healthy t ticks
  normalCallback t := elapse_keep StopTimer.normalCallback tick_normalCallback t ticks
  handoff t := elapse_keep StopTimer.handoff tick_handoff t ticks
  updated t := (TimerAccess.elapse_latches t ticks).updated
  overcaptured t := (TimerAccess.elapse_latches t ticks).overcaptured

def still {S : Type} : Nat → Drift S := fun _ => .elapse 0 id

section
variable {β : Type} (hw : Bridge.Hardware β)

def shuttingDown (event : StopEvent) (m : BuildExecutor.Device β) : Handling (BuildExecutor.Device β) :=
  let m := m.disableImmediate hw
  .cancels (m.recordOff hw m.clock (if event = .normal then .normal else .deadline))
    fun m => .returns { m with pending := some event }

/-- `MotorExecutor_BuildFinishPulse` as a normal compare ends it. -/
def finishing (m : BuildExecutor.Device β) : Handling (BuildExecutor.Device β) :=
  if ¬ m.owned ∨ ¬ m.build.segmentActive ∨ m.pending ≠ none ∨ m.drive.direction ≠ .press ∨ m.due m.clock ∨
      ¬ hw.matchesPlan m.drive.tim2 m.drive.tim3 m.bridge then shuttingDown hw .error m
  else
    let braked := m.brakeBridge hw
    if ¬ BuildExecutor.Device.stands braked ∨ braked.2.due braked.2.clock ∨ braked.2.build.phase = .approach then
      shuttingDown hw .error braked.2
    else
      .handsOver braked.2 (braked.2.build.receiveDeadlineMs - braked.2.clock) fun kept m =>
        if ¬ BuildExecutor.Device.stands (kept, m) ∨ m.due m.clock then shuttingDown hw .error m
        else .returns (m.holdBrake m.clock .normal)

/-- `MotorExecutor_StopTimerExpiredFromIsr`. -/
def executorHandler (event : StopEvent) (m : BuildExecutor.Device β) : Handling (BuildExecutor.Device β) :=
  if event = .normal ∧ m.pulsing then finishing hw m
  else if m.build.preloadActive ∨ (m.build.segmentActive ∧ m.build.phase = .approach) then shuttingDown hw .backstop m
  else shuttingDown hw event m

def World.device (w : World (BuildExecutor.Device β)) : BuildExecutor.Device β := { w.rest with timer := w.timer }

variable {hw}

theorem recordPulseEnd_timer (m : BuildExecutor.Device β) (t : StopTimer) (now : U32) (reason : EndReason) :
    BuildExecutor.Device.recordPulseEnd { m with timer := t } now reason =
      { m.recordPulseEnd now reason with timer := t } := by
  unfold BuildExecutor.Device.recordPulseEnd
  dsimp only
  split_ifs <;> rfl

theorem chargePreload_timer (m : BuildExecutor.Device β) (t : StopTimer) (now : U32) :
    BuildExecutor.Device.chargePreload { m with timer := t } now = { m.chargePreload now with timer := t } := by
  unfold BuildExecutor.Device.chargePreload
  dsimp only
  split_ifs <;> rfl

theorem confirmOff_timer (m : BuildExecutor.Device β) (t : StopTimer) (now : U32) :
    BuildExecutor.Device.confirmOff hw { m with timer := t } now = { m.confirmOff hw now with timer := t } := by
  unfold BuildExecutor.Device.confirmOff
  dsimp only
  split_ifs <;> rfl

theorem recordOff_timer (m : BuildExecutor.Device β) (t : StopTimer) (now : U32) (reason : EndReason) :
    BuildExecutor.Device.recordOff hw { m with timer := t } now reason =
      { m.recordOff hw now reason with timer := t } := by
  unfold BuildExecutor.Device.recordOff
  rw [recordPulseEnd_timer, chargePreload_timer, confirmOff_timer]

theorem shuttingDown_still (event : StopEvent) (m : BuildExecutor.Device β) (w : World (BuildExecutor.Device β)) :
    ((shuttingDown hw event m).run still w).device =
      BuildExecutor.Device.shutDown hw { m with timer := w.timer } event := by
  have recorded := @recordOff_timer β hw (m.disableImmediate hw) w.timer (m.disableImmediate hw).clock
    (if event = .normal then .normal else .deadline)
  unfold shuttingDown BuildExecutor.Device.shutDown
  exact congrArg (fun m => { BuildExecutor.Device.cancel m with pending := some event }) recorded.symm

theorem buildHandoff_still {S : Type} (w : World S) (remaining : U32) :
    ((w.buildHandoff still remaining).1, (w.buildHandoff still remaining).2.timer) = w.timer.buildHandoff remaining ∧
      (w.buildHandoff still remaining).2.rest = w.rest := by
  by_cases refused : ¬ w.timer.buildTransitionReady ∨ ¬ w.timer.onePulse ∨ w.timer.reload ≤ w.timer.count ∨
      ¬ leaseFits remaining
  · exact ⟨(congrArg (fun a : Bool × World S => (a.1, a.2.timer)) (if_pos refused)).trans (if_pos refused).symm,
      congrArg (fun a : Bool × World S => a.2.rest) (if_pos refused)⟩
  · let t : StopTimer := { w.timer with
      compare := w.timer.count + leaseCounts remaining, reload := BitVec.allOnes 32, onePulse := false }
    by_cases late : ¬ t.buildTransitionReady ∨ Reached t.count t.compare
    · exact ⟨(congrArg (fun a : Bool × World S => (a.1, a.2.timer)) ((if_neg refused).trans (if_pos late))).trans
        ((if_neg refused).trans (if_pos late)).symm,
        congrArg (fun a : Bool × World S => a.2.rest) ((if_neg refused).trans (if_pos late))⟩
    have right : w.timer.buildHandoff remaining = (true, { t with handoff := t.normalCallback || t.handoff }) :=
      (if_neg refused).trans (if_neg late)
    rw [right]
    by_cases callback : t.normalCallback = true
    · have given : (t.normalCallback || t.handoff) = true := by rw [callback, Bool.true_or]
      rw [given]
      exact ⟨congrArg (fun a : Bool × World S => (a.1, a.2.timer))
          (((if_neg refused).trans (if_neg late)).trans (if_pos callback)),
        congrArg (fun a : Bool × World S => a.2.rest) (((if_neg refused).trans (if_neg late)).trans (if_pos callback))⟩
    · have given : (t.normalCallback || t.handoff) = t.handoff := by
        rw [Bool.eq_false_iff.mpr callback, Bool.false_or]
      rw [given]
      exact ⟨congrArg (fun a : Bool × World S => (a.1, a.2.timer))
          (((if_neg refused).trans (if_neg late)).trans (if_neg callback)),
        congrArg (fun a : Bool × World S => a.2.rest) (((if_neg refused).trans (if_neg late)).trans (if_neg callback))⟩

theorem holdBrake_timer (m : BuildExecutor.Device β) (t : StopTimer) (now : U32) (reason : EndReason) :
    BuildExecutor.Device.holdBrake { m with timer := t } now reason = { m.holdBrake now reason with timer := t } := by
  unfold BuildExecutor.Device.holdBrake
  rw [recordPulseEnd_timer]

theorem stopped_still (kept : BuildExecutor.Device β) (w : World (BuildExecutor.Device β))
    {finished : Interface.MotorResult × BuildExecutor.Device β}
    (failed : finished = (.timerError, { kept with timer := w.timer })) :
    ((shuttingDown hw .error kept).run still w).device =
      if finished.1 = .ok then finished.2 else finished.2.shutDown hw .error := by
  rw [shuttingDown_still, failed]
  exact (if_neg (show ¬ Interface.MotorResult.timerError = .ok by decide)).symm

theorem finished_still {kept : BuildExecutor.Device β} {finished : Interface.MotorResult × BuildExecutor.Device β}
    (held : finished = (.ok, kept)) :
    (if finished.1 = .ok then finished.2 else finished.2.shutDown hw .error) = kept := by
  rw [held]
  exact if_pos rfl

theorem finishing_still (m : BuildExecutor.Device β) (w : World (BuildExecutor.Device β)) :
    ((finishing hw m).run still w).device =
      (let m := { m with timer := w.timer }
       let finished := m.finishPulse hw (fun _ m => (false, m)) m.clock .normal
       if finished.1 = .ok then finished.2 else finished.2.shutDown hw .error) := by
  unfold finishing
  by_cases refused : ¬ m.owned ∨ ¬ m.build.segmentActive ∨ m.pending ≠ none ∨ m.drive.direction ≠ .press ∨
      m.due m.clock ∨ ¬ hw.matchesPlan m.drive.tim2 m.drive.tim3 m.bridge
  · rw [if_pos refused]
    exact stopped_still m w (if_pos refused)
  rw [if_neg refused]
  dsimp only
  let braked := m.brakeBridge hw
  let driven : BuildExecutor.Device β := { braked.2 with timer := w.timer }
  by_cases unbraked : ¬ BuildExecutor.Device.stands braked ∨ braked.2.due braked.2.clock
  · rw [if_pos (unbraked.imp_right .inl)]
    exact stopped_still braked.2 w ((if_neg refused).trans (if_pos unbraked))
  have finished : BuildExecutor.Device.finishPulse hw { m with timer := w.timer } (fun _ m => (false, m))
      m.clock .normal = (fun kept : Bool × BuildExecutor.Device β =>
        if ¬ BuildExecutor.Device.stands kept ∨ kept.2.due kept.2.clock then (Interface.MotorResult.timerError, kept.2)
        else (.ok, kept.2.holdBrake kept.2.clock .normal)) (driven.keepTimer fun _ m => (false, m)) :=
    (if_neg refused).trans (if_neg unbraked)
  by_cases approach : braked.2.build.phase = .approach
  · rw [if_pos (.inr (.inr approach))]
    have refused : driven.keepTimer (fun _ m => (false, m)) = (false, driven) := if_pos approach
    rw [refused] at finished
    exact stopped_still braked.2 w (finished.trans (if_pos (.inl fun held => Bool.false_ne_true held.1)))
  rw [if_neg (by tauto)]
  let remaining := braked.2.build.receiveDeadlineMs - braked.2.clock
  have handed := buildHandoff_still { w with rest := braked.2 } remaining
  have kept : driven.keepTimer (fun _ m => (false, m)) = driven.handoff remaining := if_neg approach
  rw [kept] at finished
  unfold Handling.run
  dsimp only
  generalize World.buildHandoff still { w with rest := braked.2 } remaining = answer at handed ⊢
  obtain ⟨answered, same⟩ := handed
  have over_ : driven.handoff remaining = (answer.1, { braked.2 with timer := answer.2.timer }) := by
    unfold BuildExecutor.Device.handoff
    rw [← answered]
  rw [over_] at finished
  rw [same]
  by_cases late : ¬ BuildExecutor.Device.stands (answer.1, braked.2) ∨ braked.2.due braked.2.clock
  · rw [if_pos late]
    exact stopped_still braked.2 answer.2 (finished.trans (if_pos late))
  · rw [if_neg late]
    have brake := holdBrake_timer braked.2 answer.2.timer braked.2.clock .normal
    exact brake.symm.trans (finished_still (finished.trans (if_neg late))).symm

/-- What the executor's handler asks of the driver is what the executor does in its callback. -/
theorem executorHandler_still (event : StopEvent) (w : World (BuildExecutor.Device β)) :
    ((executorHandler hw event w.rest).run still w).device = w.device.expired hw event := by
  unfold executorHandler BuildExecutor.Device.expired
  by_cases pulse : event = .normal ∧ w.rest.pulsing
  · exact (congrArg (fun asked => (Handling.run still asked w).device) (if_pos pulse)).trans
      ((finishing_still w.rest w).trans (if_pos pulse).symm)
  by_cases braking : w.rest.build.preloadActive ∨ (w.rest.build.segmentActive ∧ w.rest.build.phase = .approach)
  · exact (congrArg (fun asked => (Handling.run still asked w).device) ((if_neg pulse).trans (if_pos braking))).trans
      ((shuttingDown_still .backstop w.rest w).trans ((if_neg pulse).trans (if_pos braking)).symm)
  · exact (congrArg (fun asked => (Handling.run still asked w).device) ((if_neg pulse).trans (if_neg braking))).trans
      ((shuttingDown_still event w.rest w).trans ((if_neg pulse).trans (if_neg braking)).symm)

theorem leaving_still (v : World (BuildExecutor.Device β)) :
    (let w : World (BuildExecutor.Device β) := { v with timer := { v.timer with normalCallback := false } }
     if w.timer.handoff then World.note { w with timer := { w.timer with handoff := false } } .kept
     else (w.pass still).cancel).device = v.device.leaveIrq := by
  unfold BuildExecutor.Device.leaveIrq
  by_cases kept : v.timer.handoff = true
  · exact (congrArg World.device (if_pos kept)).trans (if_pos kept).symm
  · exact (congrArg World.device (if_neg kept)).trans (if_neg kept).symm

/-- With the hardware standing still, the driver's interrupt is the executor's. -/
theorem irqHandler_still (w : World (BuildExecutor.Device β)) :
    (w.irqHandler still (executorHandler hw)).device = w.device.irqHandler hw := by
  unfold BuildExecutor.Device.irqHandler
  by_cases disarmed : ¬ w.timer.armed
  · let u : World (BuildExecutor.Device β) := { w.pass still with timer := { w.timer with healthy := false } }
    have called := @executorHandler_still β hw .error
      (u.note (.entered .interrupt u.timer.armed (status w.timer) false .error))
    exact (congrArg World.device (if_pos disarmed)).trans
      ((congrArg BuildExecutor.Device.cancel called).trans (if_pos disarmed).symm)
  let found := status w.timer
  let sound : World (BuildExecutor.Device β) := { w.pass still with timer := { w.timer with
    healthy := w.timer.healthy && decide (found.event ≠ StopEvent.error) } }
  let taken := (sound.pass still).acknowledge still (decide (found.event = StopEvent.normal) && w.timer.onePulse)
  have called := @executorHandler_still β hw found.event
    (taken.note (.entered .interrupt taken.timer.armed found w.timer.onePulse found.event))
  exact (congrArg World.device (if_neg disarmed)).trans
    ((leaving_still _).trans ((congrArg BuildExecutor.Device.leaveIrq called).trans (if_neg disarmed).symm))

end

open World in
/-- From a driver with no callback running, whatever is called and whatever the hardware does in between: while the
timer stays armed, at most one event is terminal; every event is classified from the flags as they were read; only the
normal compare of a pulse whose handler has handed over keeps the timer, and then no update and no overcapture had been
raised; after an interrupt of a disarmed timer it is unhealthy and is not armed again; and a call that has run the
handler leaves the timer disarmed, unless it was handed over. -/
theorem one_terminal_callback {S : Type} (env : Nat → Drift S) (handler : StopEvent → S → Handling S) (t : StopTimer)
    (rest : S) (callback : t.normalCallback = false) (handoff : t.handoff = false) (calls : List Call) (next : Call) :
    let w := (begin_ t rest).runs env handler calls
    Lawful w.log ∧
      (∀ later period past, w.log = later ++ (period ++ past) →
        (∀ line ∈ period, line ≠ .armed ∧ line ≠ .disarmed) → entries period ≤ keeps period + 1) ∧
      (Stray w.log → w.timer.healthy = false) ∧ w.Faithful ∧
      ∃ lines, (w.step env handler next).log = lines ++ w.log ∧
        ((∃ line ∈ lines, Entry line) → .kept ∈ lines ∨ (w.step env handler next).timer.armed = false) := by
  have ready : Ready ((begin_ t rest).runs env handler calls) := runs_ready (ready_begin callback handoff) calls
  exact ⟨ready.lawful, fun later period past => ready.lawful.once, ready.doomed, ready.faithful,
    (step_done ready next).log⟩

def benchEnv : Nat → Drift Nat := fun _ => .elapse 25 id

/-- A normal compare is handed over where the timer lets it; anything else is cleared. -/
def benchHandler : StopEvent → Nat → Handling Nat
  | .normal, seen => .handsOver seen 100 fun handed seen =>
    if handed then .returns (seen + 1) else .cancels seen .returns
  | _, seen => .cancels seen .returns

def benchTimer : StopTimer :=
  ⟨true, false, true, false, false, false, true, false, false, 0, 0, BitVec.allOnes 32, false, false, false⟩

/-- A pulse runs to its compare, and is handed over where the driver next looks at its flags. -/
def benchCalls : List Call := .arm 20 80 :: List.replicate 7 .commitArm

open World in
theorem one_terminal_callback_bench :
    Lawful ((begin_ benchTimer 0).runs benchEnv benchHandler benchCalls).log ∧
      .kept ∈ ((begin_ benchTimer 0).runs benchEnv benchHandler benchCalls).log :=
  ⟨(one_terminal_callback benchEnv benchHandler benchTimer 0 rfl rfl benchCalls .interrupt).1, by decide +kernel⟩

end Sd700.Motor.TerminalEvents

import Sd700.Servo.Ledger

/-! What a pressure frame enters into the books: a session opened, an assist reserved, an update
judged by the no-response clock. -/

namespace Sd700.Servo.Ledger
open Build.Contract Config Controller Motor.Interface Logic.Modular State BuildMachine Servo.Machine

variable {Exec Note : Type}

namespace Books

def opened (characterization : Bool) (now : U32) (force : ℚ) (b : Books Note) : Books Note :=
  { b with
    used := false, spentMs := if characterization then 0 else b.spentMs
    commanded := false, atMs := now, goodMs := now, anchor := force }

def boostMs (b : Books Note) : U32 := u32 b.tuning.profile.boostMs

def boostTotalMs (b : Books Note) : U32 := u32 b.tuning.profile.boostTotalMs

def Room (b : Books Note) : Prop := b.used = false ∧ b.spentMs + b.boostMs ≤ b.boostTotalMs

def reserved (arming : U32 → Note → Note) (b : Books Note) : Books Note :=
  { b with used := true, spentMs := b.spentMs + b.boostMs, note := arming b.boostMs b.note }

def Commanding (force : ℚ) (committed : ℤ) (b : Books Note) : Prop :=
  0 < committed ∧ b.tuning.config.holdExit < b.target - force

def anchored (now : U32) (force : ℚ) (b : Books Note) : Books Note :=
  if b.commanded then b else { b with commanded := true, atMs := now, goodMs := now, anchor := force }

def windowMs (b : Books Note) : U32 := u32 b.tuning.profile.progressWindowMs

def Due (now : U32) (b : Books Note) : Prop := b.windowMs ≤ now - b.atMs

def Gained (force : ℚ) (b : Books Note) : Prop := b.tuning.profile.progressUnits ≤ force - b.anchor

instance (force : ℚ) (committed : ℤ) (b : Books Note) : Decidable (b.Commanding force committed) :=
  inferInstanceAs (Decidable (_ ∧ _))

instance (now : U32) (b : Books Note) : Decidable (b.Due now) := inferInstanceAs (Decidable (_ ≤ _))

instance (force : ℚ) (b : Books Note) : Decidable (b.Gained force) := inferInstanceAs (Decidable (_ ≤ _))

def advanced (now : U32) (force : ℚ) (b : Books Note) : Books Note :=
  if b.Due now then
    if b.Gained force then { b with goodMs := now, anchor := force, atMs := now } else { b with atMs := now }
  else b

def tracked (now : U32) (force : ℚ) (committed : ℤ) (b : Books Note) : Books Note :=
  if b.Commanding force committed then (b.anchored now force).advanced now force
  else { b with commanded := false }

theorem tracked_eq (now : U32) (force : ℚ) (committed : ℤ) (b : Books Note) :
    b.tracked now force committed = { b with
      commanded := (b.tracked now force committed).commanded, atMs := (b.tracked now force committed).atMs
      goodMs := (b.tracked now force committed).goodMs, anchor := (b.tracked now force committed).anchor } := by
  unfold tracked advanced anchored
  split_ifs <;> rfl

end Books

variable {env : Platform Exec} {note : Exec → Note} {arming : U32 → Note → Note}
  {updating : DriveReply → Note → Note} (quiet : Overlooks env.executor note arming updating) {now : U32}

theorem openSession_books (w : System Exec) :
    books note (openSession env now w) =
      (books note w).opened env.policy.characterization now ((measured env w).getD 0) := rfl

theorem trackResponse_books (force : ℚ) (committed : ℤ) (w : System Exec) :
    books note (trackResponse now force committed w) = (books note w).tracked now force committed := by
  unfold trackResponse Books.tracked
  dsimp only
  by_cases commanding : 0 < committed ∧ w.tuning.config.holdExit < w.targetUnits - force
  · rw [if_pos commanding, if_pos (show (books note w).Commanding force committed from commanding)]
    unfold Books.anchored Books.advanced Books.Due Books.Gained Books.windowMs
    cases stretch : w.progress.commanded with
    | true =>
      simp only [books, stretch, if_true]
      by_cases due : u32 w.tuning.profile.progressWindowMs ≤ now - w.progress.atMs
      · by_cases gained : w.tuning.profile.progressUnits ≤ force - w.progress.anchor
        · simp only [due, gained, and_self, if_true]
        · simp only [due, gained, and_false, if_true, if_false]
      · simp only [due, false_and, if_false]
    | false =>
      simp only [books, stretch, Bool.false_eq_true, if_false]
      by_cases due : u32 w.tuning.profile.progressWindowMs ≤ now - now
      · by_cases gained : w.tuning.profile.progressUnits ≤ force - force
        · simp only [due, gained, and_self, if_true]
        · simp only [due, gained, and_false, if_true, if_false]
      · simp only [due, false_and, if_false]
  · rw [if_neg commanding, if_neg (show ¬(books note w).Commanding force committed from commanding)]
    rfl

/-! ### Stages of a control step -/

def StageKept (note : Exec → Note) (w : System Exec) : Stage Exec → Prop
  | .next u => books note u = books note w ∧ u.course.contacted = w.course.contacted
  | .done u => books note u = books note w

include quiet

theorem contactStage_kept (force : ℚ) (w : System Exec) : StageKept note w (contactStage env now force w) := by
  unfold contactStage
  split
  · exact fault_books quiet now _ _ w
  split
  · exact fault_books quiet now _ _ w
  split
  · exact ⟨rfl, rfl⟩
  · exact ⟨rfl, rfl⟩

theorem responseStage_kept (force : ℚ) (w : System Exec) : StageKept note w (responseStage env now force w) := by
  unfold responseStage
  dsimp only
  split
  · exact ⟨rfl, rfl⟩
  split
  · exact publish_books quiet now w
  split
  · exact fault_books quiet now _ _ _
  · exact ⟨rfl, rfl⟩

omit quiet in
theorem finishBoost_contacted (reason : Nat) (w : System Exec) :
    (finishBoost now reason w).course.contacted = w.course.contacted := by
  unfold finishBoost
  split <;> rfl

theorem handoffAssist_kept (taper : Bool) (w : System Exec) : StageKept note w (handoffAssist env now taper w) := by
  unfold handoffAssist
  dsimp only
  generalize (if (snapshot env w).commandMv < BitVec.ofInt 32 (if taper = true then 0 else w.assist.handoffRequest) then
    (snapshot env w).commandMv.toInt else (if taper = true then 0 else w.assist.handoffRequest)) = lower
  have driven := drive_books quiet (.handoffBoost w.course.token now lower) w rfl
  split
  · exact (fault_books quiet now _ _ _).trans driven
  · exact ⟨(finishBoost_books now 2 _).trans driven, finishBoost_contacted 2 _⟩

theorem assistStage_kept (force : ℚ) (w : System Exec) : StageKept note w (assistStage env now force w) := by
  unfold assistStage
  dsimp only
  split
  · exact ⟨rfl, rfl⟩
  split
  · exact fault_books quiet now _ _ w
  split
  · exact handoffAssist_kept quiet _ w
  · exact ⟨rfl, rfl⟩

omit quiet in
theorem publish_course (w : System Exec) : (publish env now w).course = w.course := by
  unfold publish
  split <;> rfl

omit quiet in
theorem recordFault_course (f : MachineFault) (detail : FaultDetail) (w : System Exec) :
    (recordFault f detail w).course = w.course := by
  unfold recordFault
  split <;> rfl

omit quiet in
theorem beginCooling_course (w : System Exec) : (beginCooling now w).course = w.course := by
  unfold beginCooling
  split <;> rfl

omit quiet in
theorem giveReason_course (reason : RunReason) (w : System Exec) : (giveReason reason w).course = w.course := by
  unfold giveReason
  split <;> rfl

omit quiet in
theorem settleAccount_course (w : System Exec) : (settleAccount env now w).course = w.course := by
  unfold settleAccount
  split <;> rfl

omit quiet in
theorem fault_contacted (f : MachineFault) (detail : FaultDetail) (w : System Exec) :
    (fault env f detail now w).course.contacted = w.course.contacted := by
  have settled : (revokePlan (disable env (settleAccount env now w))).course = w.course := settleAccount_course w
  unfold fault
  dsimp only
  rw [publish_course, recordFault_course]
  change (beginCooling now _).course.contacted = _
  rw [beginCooling_course, finishBoost_contacted, giveReason_course, settled]

omit quiet in
theorem fault_closes (f : MachineFault) (detail : FaultDetail) (w : System Exec) :
    (fault env f detail now w).session.active = false ∧ (fault env f detail now w).session.startPending = false := by
  unfold fault publish recordFault
  dsimp only
  split_ifs <;> exact ⟨rfl, rfl⟩

omit quiet in
theorem serviceAssist_contacted (w : System Exec) :
    (serviceAssist env now w).course.contacted = w.course.contacted := by
  unfold serviceAssist
  dsimp only
  split
  · rfl
  split
  · exact fault_contacted _ _ _
  split
  · exact finishBoost_contacted _ _
  · rfl

theorem gridStage_kept (w : System Exec) : StageKept note w (gridStage env now w) := by
  have served : books note (if w.assist.active = true ∧ Reached now w.assist.normalEndMs then serviceAssist env now w
      else w) = books note w ∧ (if w.assist.active = true ∧ Reached now w.assist.normalEndMs then serviceAssist env now w
      else w).course.contacted = w.course.contacted := by
    split
    · exact ⟨serviceAssist_books quiet now w, serviceAssist_contacted w⟩
    · exact ⟨rfl, rfl⟩
  unfold gridStage
  dsimp only
  generalize (if w.assist.active = true ∧ Reached now w.assist.normalEndMs then serviceAssist env now w else w) = u at served
  split
  · exact served.1
  split
  · exact (serviceAssist_books quiet now u).trans served.1
  · exact served

/-- A session in contact goes on; before contact its owner is opened. -/
theorem approachStage_kept (force : ℚ) (w : System Exec)
    (calm : w.course.contacted = true ∨ ∀ reply n, updating reply n = n) :
    StageKept note w (approachStage env now force w) := by
  unfold approachStage
  dsimp only
  by_cases contacted : w.course.contacted = true
  · rw [if_pos contacted]
    exact ⟨rfl, rfl⟩
  have silent : ∀ reply n, updating reply n = n := calm.resolve_left contacted
  rw [if_neg contacted]
  split
  · exact (publish_books quiet now _).trans (contacted_books quiet now silent _ _ w)
  · exact publish_books quiet now w

theorem exitStage_kept (demandExit : Bool) (w : System Exec) : StageKept note w (exitStage env now demandExit w) := by
  have driven := drive_books quiet (.endBoost w.course.token) w rfl
  unfold exitStage
  dsimp only
  split
  · exact ⟨rfl, rfl⟩
  split
  · exact (fault_books quiet now _ _ _).trans driven
  · exact ⟨driven, rfl⟩

/-! ### The assist -/

theorem reserve_books (requested : ℤ) (w : System Exec) :
    books note (drive env (.armBoost w.course.token now (u32 w.tuning.profile.boostMs)) (reserveAssist requested w)).2 =
      (books note w).reserved arming := by
  unfold books Books.reserved
  rw [show (drive env (.armBoost w.course.token now (u32 w.tuning.profile.boostMs)) (reserveAssist requested w)).2.exec =
    (env.executor.drive (.armBoost w.course.token now (u32 w.tuning.profile.boostMs)) w.exec).2 from rfl]
  rw [quiet.armed]
  rfl

/-- An assist is charged before it is armed, once; where it is refused the session ends. -/
inductive Charged (arming : U32 → Note → Note) (b : Books Note) : Books Note → Prop
  | not : Charged arming b b
  | charged (room : b.Room) : Charged arming b (b.reserved arming)

def StageCharged (note : Exec → Note) (arming : U32 → Note → Note) (w : System Exec) : Stage Exec → Prop
  | .next u => Charged arming (books note w) (books note u)
  | .done u => Charged arming (books note w) (books note u) ∧ u.state = .fault

theorem admitStage_charged (force : ℚ) (requested : ℤ) (step : Step) (w : System Exec) :
    StageCharged note arming w (admitStage env now force requested step w) := by
  unfold admitStage
  by_cases declined : w.assist.used = true ∨ ¬assistAdmitted env force step w = true ∨ ¬assistFitsSession env now w = true
  · rw [if_pos declined]
    exact .not
  rw [if_neg declined]
  push Not at declined
  obtain ⟨unused, admitted, _⟩ := declined
  have room : (books note w).Room := by
    refine ⟨Bool.eq_false_iff.mpr unused, ?_⟩
    simp only [assistAdmitted, decide_eq_true_eq] at admitted
    exact admitted.2.2.2.2.2.2
  have charged : ∀ u : System Exec, books note u = (books note w).reserved arming →
      Charged arming (books note w) (books note u) := by
    intro u same
    rw [same]
    exact .charged room
  have reserved : books note (drive env (.armBoost (reserveAssist requested w).course.token now
      (u32 (reserveAssist requested w).tuning.profile.boostMs)) (reserveAssist requested w)).2 =
      (books note w).reserved arming := reserve_books quiet requested w
  dsimp only
  generalize drive env (.armBoost (reserveAssist requested w).course.token now
    (u32 (reserveAssist requested w).tuning.profile.boostMs)) (reserveAssist requested w) = armed at reserved ⊢
  split
  · exact ⟨charged _ ((fault_books quiet now _ _ _).trans reserved), fault_state _ _ _⟩
  have planned := (drive_books quiet (.setBoostPlan (reserveAssist requested w).course.token now
    (u32 (reserveAssist requested w).tuning.profile.assistRiseMs) (u32 (reserveAssist requested w).tuning.profile.assistEndMs)
    ⌊(reserveAssist requested w).tuning.profile.peakPress⌋ requested) armed.2 rfl).trans reserved
  split
  · exact ⟨charged _ ((fault_books quiet now _ _ _).trans planned), fault_state _ _ _⟩
  · exact charged _ planned

/-! ### The update -/

def Books.noted (updating : DriveReply → Note → Note) (reply : DriveReply) (b : Books Note) : Books Note :=
  { b with note := updating reply b.note }

def Books.limitMs (b : Books Note) : U32 := u32 (min b.tuning.config.saturationMs b.tuning.profile.noResponseMs)

inductive Judged (updating : DriveReply → Note → Note) (now : U32) (force : ℚ) (b c : Books Note) (state : MachineState) : Prop
  | refused (same : c = b) (ended : state = .fault)
  | failed (reply : DriveReply) (same : c = b.noted updating reply) (ended : state = .fault)
  | judged (reply : DriveReply) (ok : reply.result = .ok)
    (same : c = (b.noted updating reply).tracked now force reply.committed)
    (within : state ≠ .fault → b.Commanding force reply.committed → now - c.goodMs < b.limitMs)

omit quiet in
theorem tracked_goodMs {force : ℚ} {committed : ℤ} {w : System Exec}
    (commanding : (books note w).Commanding force committed) :
    (trackResponse now force committed w).progress.noResponseMs =
      now - (trackResponse now force committed w).progress.goodMs := by
  unfold trackResponse
  dsimp only
  rw [if_pos (show 0 < committed ∧ w.tuning.config.holdExit < w.targetUnits - force from commanding)]

omit quiet in
theorem updateHold_books (step : Step) (w : System Exec) : books note (updateHold now step w) = books note w := by
  unfold updateHold
  dsimp only
  split
  · rfl
  split <;> rfl

omit quiet in
theorem either_books {c : Prop} [Decidable c] {b : Books Note} {u v : System Exec} (yes : books note u = b)
    (no : books note v = b) : books note (if c then u else v) = b := by
  split
  · exact yes
  · exact no

theorem supervise_books (force : ℚ) (committed : ℤ) (step : Step) (w : System Exec) :
    books note (supervise env now force committed step w) = (books note w).tracked now force committed := by
  have tracked : books note (trackResponse now force committed (trackLimits now step w)) =
      (books note w).tracked now force committed := trackResponse_books force committed (trackLimits now step w)
  unfold supervise
  dsimp only
  rw [publish_books quiet]
  apply either_books
  · exact (fault_books quiet now _ _ _).trans tracked
  apply either_books
  · exact (fault_books quiet now _ _ _).trans tracked
  · exact (updateHold_books step _).trans tracked

omit quiet in
theorem trackResponse_tuning (force : ℚ) (committed : ℤ) (w : System Exec) :
    (trackResponse now force committed w).tuning = w.tuning := by
  unfold trackResponse
  dsimp only
  split <;> rfl

theorem supervise_within (force : ℚ) (committed : ℤ) (step : Step) (w : System Exec)
    (sound : (supervise env now force committed step w).state ≠ .fault)
    (commanding : (books note w).Commanding force committed) :
    now - (books note (supervise env now force committed step w)).goodMs < (books note w).limitMs := by
  have good : (trackResponse now force committed (trackLimits now step w)).progress.noResponseMs =
      now - (trackResponse now force committed (trackLimits now step w)).progress.goodMs :=
    @tracked_goodMs _ _ note now _ _ (trackLimits now step w) commanding
  have clock : (books note (supervise env now force committed step w)).goodMs =
      ((books note w).tracked now force committed).goodMs :=
    congrArg Books.goodMs (supervise_books quiet force committed step w)
  have tracked : (books note (trackResponse now force committed (trackLimits now step w))).goodMs =
      ((books note (trackLimits now step w)).tracked now force committed).goodMs :=
    congrArg Books.goodMs (trackResponse_books force committed (trackLimits now step w))
  have same : (books note (trackLimits now step w)).tracked now force committed = (books note w).tracked now force committed := rfl
  rw [same, ← clock] at tracked
  rw [← tracked]
  change now - (trackResponse now force committed (trackLimits now step w)).progress.goodMs < _
  rw [← good]
  by_contra reached
  unfold supervise at sound
  dsimp only at sound
  rw [publish_state, if_pos] at sound
  · exact sound (fault_state _ _ _)
  · rw [trackResponse_tuning]
    exact BitVec.not_lt.mp reached

theorem commitStage_judged (force : ℚ) (effective : ForceServoConfig) (requested : ℤ) (demandExit : Bool) (step : Step)
    {reply : DriveReply} (ok : reply.result = .ok) {b : Books Note} {w : System Exec}
    (same : books note w = b.noted updating reply) :
    Judged updating now force b (books note (commitStage env now force effective reply requested demandExit step w))
      (commitStage env now force effective reply requested demandExit step w).state := by
  unfold commitStage
  dsimp only
  split
  · refine .failed reply ?_ (fault_state _ _ _)
    rw [fault_books quiet]
    exact same
  rename_i controller step _
  generalize before : ({ (if demandExit = true then finishBoost now 2 { w with controller := controller }
      else { w with controller := controller }) with
    course := { (if demandExit = true then finishBoost now 2 { w with controller := controller }
      else { w with controller := controller }).course with
      lastControlRxMs := (if demandExit = true then finishBoost now 2 { w with controller := controller }
        else { w with controller := controller }).pressure.received } } : System Exec) = u
  have kept : books note u = b.noted updating reply := by
    rw [← before]
    refine Eq.trans (either_books (u := finishBoost now 2 { w with controller := controller }) ?_ ?_) same
    · exact finishBoost_books now 2 _
    · rfl
  refine .judged reply ok ?_ ?_
  · rw [supervise_books quiet, kept]
  · intro sound commanding
    have pushing : (books note u).Commanding force reply.committed := by
      rw [kept]
      exact commanding
    have within := supervise_within quiet force reply.committed step u sound pushing
    rw [kept] at within
    exact within

theorem updateStage_judged (force : ℚ) (requested : ℤ) (demandExit : Bool) (step : Step) (w : System Exec) :
    Judged updating now force (books note w) (books note (updateStage env now force requested demandExit step w))
      (updateStage env now force requested demandExit step w).state := by
  have driven : ∀ request, books note (drive env (.updateContinuous request) w).2 =
      (books note w).noted updating (drive env (.updateContinuous request) w).1 :=
    fun request => congrArg (fun n => { books note w with note := n }) (quiet.updated request w.exec)
  unfold updateStage
  dsimp only
  by_cases numeric : (w.assist.active = true ∧ ¬demandExit = true) ∧
      (env.executor.continuousBoostCommand w.course.token now w.exec < 0 ∨
        ¬env.policy.characterization = true ∧ env.executor.continuousBoostCommand w.course.token now w.exec = 0)
  · rw [if_pos numeric]
    exact .refused (fault_books quiet now _ _ w) (fault_state _ _ _)
  rw [if_neg numeric]
  generalize continuousRequest now (if w.assist.active = true ∧ ¬demandExit = true then
    env.executor.continuousBoostCommand w.course.token now w.exec else requested) w = request
  by_cases ok : (drive env (.updateContinuous request) w).1.result = .ok
  · rw [if_neg (not_not_intro ok)]
    exact commitStage_judged quiet force _ _ demandExit _ ok (driven request)
  · rw [if_pos ok]
    exact .failed _ ((fault_books quiet now _ _ _).trans (driven request)) (fault_state _ _ _)

/-- What a control step comes to: no entry, or an update after whatever assist was charged. -/
inductive Controlled (arming : U32 → Note → Note) (updating : DriveReply → Note → Note) (now : U32) (force : ℚ)
    (b c : Books Note) (state : MachineState) : Prop
  | kept (same : c = b)
  | updated (d : Books Note) (charge : Charged arming b d) (judged : Judged updating now force d c state)

theorem controlStep_controlled (force : ℚ) (w : System Exec) :
    Controlled arming updating now force (books note w) (books note (controlStep env now force w))
      (controlStep env now force w).state := by
  unfold controlStep
  dsimp only
  split
  · exact .kept (fault_books quiet now _ _ w)
  rename_i controller step _
  generalize (w.assist.active && if env.policy.characterization = true then decide (step.error ≤ 0) else
    decide (truncate step.limitedOutput ≤ 0)) = demandExit
  have exit : StageKept note { w with controller := controller }
      (exitStage env now demandExit { w with controller := controller }) := exitStage_kept quiet demandExit _
  cases left : exitStage env now demandExit { w with controller := controller } with
  | done u =>
    rw [left] at exit
    exact .kept exit
  | next u =>
    rw [left] at exit
    have start : books note u = books note w := exit.1
    have charged : StageCharged note arming u (admitStage env now force (truncate step.limitedOutput) step u) :=
      admitStage_charged quiet force _ step u
    rw [Stage.andThen]
    cases admitted : admitStage env now force (truncate step.limitedOutput) step u with
    | done v =>
      rw [admitted, StageCharged, start] at charged
      exact .updated _ charged.1 (.refused rfl charged.2)
    | next v =>
      rw [admitted, StageCharged, start] at charged
      exact .updated _ charged (updateStage_judged quiet force _ demandExit step v)

omit quiet in
theorem Controlled.after {force : ℚ} {w : System Exec} {stage : Stage Exec} {rest : System Exec → System Exec}
    (kept : StageKept note w stage)
    (later : ∀ u, stage = .next u → Controlled arming updating now force (books note u) (books note (rest u))
      (rest u).state) :
    Controlled arming updating now force (books note w) (books note (stage.andThen rest))
      (stage.andThen rest).state := by
  cases stage with
  | done u => exact .kept kept
  | next u =>
    have result := later u rfl
    rw [kept.1] at result
    exact result

/-! ### A frame -/

omit quiet in
structure Checked (w u : System Exec) : Prop where
  active : u.session.active = true → w.session.active = true
  pending : u.session.startPending = true → w.session.startPending = true
  contacted : u.course.contacted = w.course.contacted

omit quiet in
theorem Checked.refl (w : System Exec) : Checked w w := ⟨id, id, rfl⟩

omit quiet in
theorem Checked.trans {u v w : System Exec} (first : Checked u v) (second : Checked v w) : Checked u w :=
  ⟨first.active ∘ second.active, first.pending ∘ second.pending, second.contacted.trans first.contacted⟩

omit quiet in
theorem fault_checked (f : MachineFault) (detail : FaultDetail) (w : System Exec) :
    Checked w (fault env f detail now w) where
  active started := by
    rw [(fault_closes _ _ _).1] at started
    exact Bool.noConfusion started
  pending started := by
    rw [(fault_closes _ _ _).2] at started
    exact Bool.noConfusion started
  contacted := fault_contacted _ _ _

omit quiet in
theorem either_checked {c : Prop} [Decidable c] {w u v : System Exec} (yes : Checked w u) (no : Checked w v) :
    Checked w (if c then u else v) := by
  split
  · exact yes
  · exact no

omit quiet in
theorem syncEpoch_checked (w : System Exec) : Checked w (syncEpoch env now (account now w)) := by
  unfold syncEpoch
  dsimp only
  split
  · exact ⟨id, id, rfl⟩
  · exact ⟨id, id, rfl⟩

omit quiet in
theorem safety_checked (w : System Exec) : Checked w (safety env now w) := by
  have synced : Checked w (syncEpoch env now (account now w)) := syncEpoch_checked w
  have shown : ∀ u : System Exec, Checked u (refreshBuild env now u) := fun u => ⟨id, id, rfl⟩
  unfold safety checkSession checkDrive
  apply either_checked synced
  apply either_checked (synced.trans (fault_checked _ _ _))
  apply either_checked (either_checked (synced.trans (fault_checked _ _ _)) synced)
  apply either_checked (synced.trans ((shown _).trans (fault_checked _ _ _)))
  apply either_checked (synced.trans ((shown _).trans (fault_checked _ _ _)))
  apply either_checked (synced.trans ((shown _).trans (fault_checked _ _ _)))
  apply either_checked (synced.trans ((shown _).trans (fault_checked _ _ _)))
  exact synced.trans (shown _)

omit quiet in
theorem checkPressureSafety_checked (w : System Exec) : Checked w (checkPressureSafety env now w) := by
  have ended : Checked w (endCooling now w) := by
    unfold endCooling
    exact either_checked ⟨id, id, rfl⟩ (.refl w)
  unfold checkPressureSafety checkPending checkContinuous
  dsimp only
  apply either_checked
  · apply either_checked (ended.trans (fault_checked _ _ _))
    exact either_checked (ended.trans (fault_checked _ _ _)) ended
  apply either_checked (ended.trans (safety_checked _))
  apply either_checked ended
  apply either_checked (ended.trans (fault_checked _ _ _))
  apply either_checked (ended.trans (fault_checked _ _ _))
  apply either_checked (ended.trans (fault_checked _ _ _))
  exact either_checked (ended.trans (fault_checked _ _ _)) ended

theorem control_controlled (force : ℚ) (w : System Exec)
    (calm : w.course.contacted = true ∨ ∀ reply n, updating reply n = n) :
    Controlled arming updating now force (books note w) (books note (Machine.control env now force w))
      (Machine.control env now force w).state := by
  unfold Machine.control
  have first : StageKept note w (contactStage env now force w) := contactStage_kept quiet force w
  apply Controlled.after first
  intro u1 next1
  rw [next1] at first
  have second : StageKept note u1 (responseStage env now force u1) := responseStage_kept quiet force u1
  apply Controlled.after second
  intro u2 next2
  rw [next2] at second
  have third : StageKept note u2 (assistStage env now force u2) := assistStage_kept quiet force u2
  apply Controlled.after third
  intro u3 next3
  rw [next3] at third
  have fourth : StageKept note u3 (gridStage env now u3) := gridStage_kept quiet u3
  apply Controlled.after fourth
  intro u4 next4
  rw [next4] at fourth
  have contacted : u4.course.contacted = w.course.contacted :=
    fourth.2.trans (third.2.trans (second.2.trans first.2))
  apply Controlled.after (approachStage_kept quiet force u4 (by rwa [contacted]))
  intro u5 _
  exact controlStep_controlled quiet force u5

def Calm (updating : DriveReply → Note → Note) (w : System Exec) : Prop :=
  (w.course.contacted = true ∧ w.session.startPending = false) ∨ ∀ reply n, updating reply n = n

def forceOf (env : Platform Exec) (b : Books Note) (p : Sample) : Option ℚ :=
  measure env.policy b.tuning.profile p.raw p.control

inductive Sampled (env : Platform Exec) (arming : U32 → Note → Note) (updating : DriveReply → Note → Note) (p : Sample)
    (now : U32) (b c : Books Note) (before : Session) (after : MachineState) : Prop
  | kept (same : c = b)
  | opened (pending : before.startPending = true) (force : ℚ)
    (same : c = b.opened env.policy.characterization now force)
  | attempted (characterized : env.policy.characterization = true) (pending : before.startPending = true)
    (same : c = { b with spentMs := 0 })
  | controlled (running : before.active = true) (force : ℚ) (measured : forceOf env b p = some force)
    (result : Controlled arming updating now force b c after)

theorem beginAnswered_books (silent : ∀ reply n, updating reply n = n) (w : System Exec) :
    books note (beginAnswered env now w) =
      (books note w).opened env.policy.characterization now ((measured env w).getD 0) := by
  have begun := beginSession_books quiet now silent w
  exact begun

theorem answerStart_books (silent : ∀ reply n, updating reply n = n) (force : ℚ) (w : System Exec) :
    books note (answerStart env now force w) = books note w ∨
      ∃ opening, books note (answerStart env now force w) =
        (books note w).opened env.policy.characterization now opening := by
  unfold answerStart
  dsimp only
  split
  · exact Or.inl rfl
  split
  · exact Or.inl (fault_books quiet now _ _ w)
  split
  · exact Or.inl (fault_books quiet now _ _ _)
  · exact Or.inr ⟨_, beginAnswered_books quiet silent _⟩

theorem pendingSample_sampled {p : Sample} {u w : System Exec} {state : MachineState} (pending : w.session.startPending = true)
    (calm : Calm updating w) (force : ℚ) :
    Sampled env arming updating p now (books note u) (books note (publish env now (answerStart env now force u)))
      w.session state := by
  have silent : ∀ reply n, updating reply n = n := by
    apply calm.resolve_left
    rintro ⟨_, waiting⟩
    rw [pending] at waiting
    exact Bool.noConfusion waiting
  rw [publish_books quiet]
  rcases answerStart_books quiet silent force u with same | ⟨opening, same⟩
  · exact .kept same
  · exact .opened pending opening same

theorem processSample_sampled {p : Sample} {u w : System Exec} (checked : Checked w u) (frame : u.pressure = p)
    (calm : Calm updating w) :
    Sampled env arming updating p now (books note u) (books note (processSample env now u)) w.session
      (processSample env now u).state := by
  unfold processSample
  dsimp only
  split
  · exact .kept (fault_books quiet now _ _ u)
  split
  · exact .kept (faultIfEngaged_books quiet now _ u)
  rename_i force some_
  have noted : books note (noteSample now force u) = books note u := rfl
  split
  · rename_i pending
    exact pendingSample_sampled (u := noteSample now force u) quiet (checked.pending pending) calm force
  split
  · exact .kept (publish_books quiet now _)
  · rename_i resting running
    have active : u.session.active = true := not_not.mp running
    have steady : (noteSample now force u).course.contacted = true ∨ ∀ reply n, updating reply n = n :=
      calm.imp_left fun both => (checked.contacted.trans both.1)
    refine .controlled (checked.active active) force ?_ (control_controlled quiet force (noteSample now force u) steady)
    rw [← frame]
    exact some_

theorem stopAtBoundary_books (w : System Exec) :
    books note (stopAtBoundary env now w) =
      if w.session.startPending then { books note w with spentMs := 0 } else books note w := by
  have recorded : books note (recordBoundaryStart now w) =
      if w.session.startPending then { books note w with spentMs := 0 } else books note w := by
    unfold recordBoundaryStart
    split <;> rfl
  rw [← recorded]
  unfold stopAtBoundary handleCommand command
  exact (publish_books quiet now _).trans (stop_books quiet now _)

theorem acceptSample_sampled {p : Sample} {w : System Exec} (calm : Calm updating w) :
    Sampled env arming updating p now (books note w) (books note (acceptSample env p now w)) w.session
      (acceptSample env p now w).state := by
  have checks : books note (store p (checkPressureSafety env now w)) = books note w :=
    checkPressureSafety_books quiet now w
  have checked : Checked w (store p (checkPressureSafety env now w)) :=
    (checkPressureSafety_checked w).trans ⟨id, id, rfl⟩
  unfold acceptSample
  dsimp only
  generalize held : store p (checkPressureSafety env now w) = u at checks checked
  have frame : u.pressure = p := by
    rw [← held]
    rfl
  rw [← checks]
  split
  · unfold processBuildSample
    split
    · exact .kept ((publish_books quiet now _).trans (pressure_books quiet now u))
    rename_i waits
    have pending := checked.pending (not_not.mp waits)
    split
    · have silent : ∀ reply n, updating reply n = n := by
        apply calm.resolve_left
        rintro ⟨_, waiting⟩
        rw [pending] at waiting
        exact Bool.noConfusion waiting
      exact .opened pending _ ((publish_books quiet now _).trans (beginAnswered_books quiet silent u))
    · exact processSample_sampled quiet checked frame calm
  split
  · rename_i boundary
    rw [stopAtBoundary_books quiet]
    split
    · rename_i waits
      simp only [boundaryReached, Bool.and_eq_true] at boundary
      exact .attempted boundary.1.1.1.1.1 (checked.pending waits) rfl
    · exact .kept rfl
  · exact processSample_sampled quiet checked frame calm

theorem handlePressureSample_sampled {p : Sample} {w : System Exec} (calm : Calm updating w) :
    Sampled env arming updating p now (books note w) (books note (handlePressureSample env p now w)) w.session
      (handlePressureSample env p now w).state := by
  unfold handlePressureSample
  split
  · exact .kept (faultIfEngaged_books quiet now _ w)
  split
  · split
    · exact .kept (faultIfEngaged_books quiet now _ w)
    · exact .kept rfl
  split
  · exact .kept (faultIfEngaged_books quiet now _ w)
  · exact acceptSample_sampled quiet calm

/-! ### Commands -/

theorem forceStart_books (silent : ∀ reply n, updating reply n = n) (w : System Exec) :
    books note (forceStart env now w).1 = books note w ∨
      env.policy.commissioning = false ∧ w.session.active = false ∧ ∃ force, books note (forceStart env now w).1 =
        (books note w).opened env.policy.characterization now force := by
  unfold forceStart
  split
  · exact Or.inl rfl
  rename_i free
  push Not at free
  split
  · exact Or.inl rfl
  unfold admitStart
  dsimp only
  split
  · exact Or.inl rfl
  have rested : books note (if env.policy.buildToTarget then refreshBuild env now (syncEpoch env now w) else w) =
      books note w :=
    either_books ((refreshBuild_books quiet now _).trans (syncEpoch_books quiet now w)) rfl
  generalize (if env.policy.buildToTarget then refreshBuild env now (syncEpoch env now w) else w) = u at rested
  split
  · exact Or.inl rested
  split
  · split
    · exact Or.inl rested
    · exact Or.inl rested
  rename_i locked
  split
  · exact Or.inl ((fault_books quiet now _ _ _).trans rested)
  · refine Or.inr ⟨Bool.eq_false_iff.mpr locked, Bool.eq_false_iff.mpr free.2.1, (measured env u).getD 0, ?_⟩
    rw [beginSession_books quiet now silent, openSession_books, rested]

omit quiet in
theorem forceStart_busy (w : System Exec) (running : w.session.active = true) :
    (forceStart env now w).1 = w := by
  unfold forceStart
  rw [if_pos (Or.inr (Or.inl running))]

end Sd700.Servo.Ledger

import Sd700.Runs.Calls
import Sd700.Servo.Entries

/-! What a call enters into the books: the machine's entry points and the register writes that reach
them. -/

namespace Sd700.Runs.Entries
open Build.Contract Servo.Config Servo.Controller Servo.State Servo.BuildMachine Servo.Machine
  Servo.Ledger Motor.Interface Logic.Modular Modbus.Protocol Runs.Calls

variable {Exec Note : Type}

def Edited (b c : Books Note) : Prop :=
  c = { b with tuning := c.tuning, target := c.target, words := c.words, mask := c.mask, version := c.version }

inductive Entered (env : Platform Exec) (arming : U32 → Note → Note) (updating : DriveReply → Note → Note) (e : Event)
    (now : U32) (b c : Books Note) (before : Session) (after : MachineState) : Prop
  | kept (same : c = b)
  | targeted (target : ℤ) (same : c = { b with target := target })
  | opened (free : before.startPending = true ∨ env.policy.commissioning = false ∧ before.active = false) (force : ℚ)
    (same : c = b.opened env.policy.characterization now force)
  | attempted (characterized : env.policy.characterization = true) (pending : before.startPending = true)
    (same : c = { b with spentMs := 0 })
  | controlled (p : Sample) (frame : e = .sample p) (running : before.active = true) (force : ℚ)
    (measured : forceOf env b p = some force) (result : Controlled arming updating now force b c after)
  | edited (function : BitVec 8) (a v : U16) (write : e = .write function a v) (resting : before.active = false)
    (same : Edited b c)

variable {env : Platform Exec} {note : Exec → Note} {arming : U32 → Note → Note}
  {updating : DriveReply → Note → Note} (quiet : Overlooks env.executor note arming updating) {now : U32}

def Steady (updating : DriveReply → Note → Note) (w : System Exec) : Prop :=
  (w.session.active = true ∧ w.course.contacted = true ∧ w.session.startPending = false) ∨
    ∀ reply n, updating reply n = n

theorem Steady.calm {w : System Exec} (steady : Steady updating w) : Calm updating w :=
  steady.imp_left And.right

theorem Steady.silent {w : System Exec} (steady : Steady updating w) (resting : ¬w.session.active = true) :
    ∀ reply n, updating reply n = n :=
  steady.resolve_left fun running => resting running.1

/-! ### The log -/

/-- What is read off the log of the drive calls is noted of no other call than those it is read off. -/
theorem logged_overlooks {α : Type} {reads : DriveCall × DriveReply → Option α} {arming : U32 → List α → List α}
    {updating : DriveReply → List α → List α} (env : Platform Exec)
    (others : ∀ call reply, DriveCall.noted call = false → reads (call, reply) = none)
    (arms : ∀ token now durationMs reply drives,
      ((.armBoost token now durationMs, reply) :: drives).filterMap reads = arming durationMs (drives.filterMap reads))
    (updates : ∀ request reply drives,
      ((.updateContinuous request, reply) :: drives).filterMap reads = updating reply (drives.filterMap reads)) :
    Overlooks env.logged.executor (fun x => x.2.drives.filterMap reads) arming updating where
  disable _ := rfl
  shown _ _ := rfl
  posted _ _ _ _ _ _ := rfl
  driven call x other := List.filterMap_cons_none (others call (env.executor.drive call x.1).1 other)
  armed token now durationMs x :=
    arms token now durationMs (env.executor.drive (.armBoost token now durationMs) x.1).1 x.2.drives
  updated request x := updates request (env.executor.drive (.updateContinuous request) x.1).1 x.2.drives

include quiet

/-! ### Commands -/

theorem command_entered {e : Event} {w : System Exec} (steady : Steady updating w) (c : Command) (after : MachineState) :
    Entered env arming updating e now (books note w) (books note (handleCommand env c now w)) w.session after := by
  unfold handleCommand
  dsimp only
  rw [publish_books quiet]
  change Entered env arming updating e now (books note w) (books note (command env c now w).1) w.session after
  obtain ⟨type, units⟩ := c
  cases type with
  | stop => exact .kept (stop_books quiet now w)
  | jogStop => exact .kept (stop_books quiet now w)
  | faultReset => exact .kept (faultReset_books w)
  | setTarget => exact .targeted _ (setTarget_books units w)
  | forceStart =>
    by_cases running : w.session.active = true
    · exact .kept (congrArg (books note) (forceStart_busy w running))
    · rcases @forceStart_books _ _ _ _ _ _ quiet now (steady.silent running) w with same | ⟨locked, free, force, same⟩
      · exact .kept same
      · exact .opened (Or.inr ⟨locked, free⟩) force same
  | _ => exact .kept rfl

/-! ### Register writes -/

omit quiet in
theorem Edited.of_eq {b c d : Books Note} (edited : Edited b c) (same : d = c) : Edited b d := by
  rw [same]
  exact edited

omit quiet in
theorem edited_refl (b : Books Note) : Edited b b := rfl

theorem selectProfile_edited (v : U16) (w : System Exec) :
    Edited (books note w) (books note (selectProfile env v now w).1) := by
  unfold selectProfile
  split
  · exact edited_refl _
  split
  · exact edited_refl _
  split
  · exact (edited_refl _).of_eq (tick_books quiet now _)
  split
  · exact edited_refl _
  · refine Edited.of_eq ?_ (tick_books quiet now _)
    exact rfl

theorem setTarget_edited (units : ℤ) (w : System Exec) :
    Edited (books note w) (books note (handleCommand env ⟨.setTarget, units⟩ now w)) := by
  have set : books note (handleCommand env ⟨.setTarget, units⟩ now w) = books note (setTarget env units w).1 :=
    publish_books quiet now _
  rw [set, setTarget_books]
  rfl

theorem writeTarget_edited (v : U16) (w : System Exec) :
    Edited (books note w) (books note (writeTarget env v now w).1) := by
  unfold writeTarget
  dsimp only
  split
  · exact (edited_refl _).of_eq (tick_books quiet now _)
  · exact setTarget_edited quiet v.toNat (reject _ w)

theorem commitConfig_edited (v : U16) (w : System Exec) :
    Edited (books note w) (books note (commitConfig env v now w).1) := by
  unfold commitConfig
  dsimp only
  split
  · exact edited_refl _
  split
  · exact edited_refl _
  split
  · exact edited_refl _
  · refine Edited.of_eq ?_ (tick_books quiet now _)
    exact rfl

theorem configWrite_edited (a v : U16) (w : System Exec) :
    Edited (books note w) (books note (configWrite env a v now w).1) := by
  unfold configWrite
  split
  · exact selectProfile_edited quiet v w
  split
  · exact writeTarget_edited quiet v w
  split
  · split
    · exact edited_refl _
    · exact rfl
  split
  · exact edited_refl _
  split
  · exact rfl
  split
  · exact commitConfig_edited quiet v w
  · exact edited_refl _

omit quiet in
theorem installPlan_edited (w : System Exec) : Edited (books note w) (books note (installPlan env w)) := rfl

theorem planWrite_edited (a v : U16) (w : System Exec) :
    Edited (books note w) (books note (planWrite env a v now w).1) := by
  unfold planWrite commitPlan
  dsimp only
  split
  · exact edited_refl _
  split
  · exact edited_refl _
  split
  · split
    · exact edited_refl _
    split
    · exact edited_refl _
    · refine Edited.of_eq ?_ (tick_books quiet now _)
      exact installPlan_edited _
  split
  · exact edited_refl _
  split
  · exact edited_refl _
  · exact edited_refl _

theorem servoWrite_entered {function : BitVec 8} {a v : U16} {w : System Exec} (steady : Steady updating w)
    (after : MachineState) :
    Entered env arming updating (.write function a v) now (books note w) (books note (servoWrite env function a v now w).1)
      w.session after := by
  unfold servoWrite
  dsimp only
  split
  · split
    · exact .kept rfl
    · exact command_entered quiet steady _ after
  split
  · unfold freeze
    split
    · exact .kept rfl
    · exact .kept rfl
  split
  · exact .kept rfl
  rename_i rests
  have resting := (quiescent_idle (not_not.mp rests)).2.1
  split
  · exact .edited function a v rfl resting (planWrite_edited quiet a v w)
  · exact .edited function a v rfl resting (configWrite_edited quiet a v w)

theorem applyWrite_entered {function : BitVec 8} {a v : U16} {w : System Exec} (steady : Steady updating w)
    (after : MachineState) :
    Entered env arming updating (.write function a v) now (books note w) (books note (applyWrite env function a v now w).1)
      w.session after := by
  unfold applyWrite
  dsimp only
  split
  · exact servoWrite_entered quiet steady after
  split
  · exact command_entered quiet steady _ after
  split
  · split
    · exact .kept rfl
    · exact command_entered quiet steady _ after
  · exact .kept rfl

/-! ### Reads -/

omit quiet in
theorem readRegister_books (f : ReadFunction) (candidate : Nat) (w : System Exec) :
    books note (readRegister env f candidate now w).1 = books note w := by
  unfold readRegister
  split
  · rfl
  cases f with
  | input => rfl
  | holding =>
    dsimp only
    rw [readHolding_context]
    unfold readServoHolding
    split
    · split <;> rfl
    · rfl

omit quiet in
theorem readLoop_books (f : ReadFunction) (candidate count : Nat) (values : List U16) (w : System Exec) :
    books note (readLoop env f now candidate count values w).1 = books note w := by
  induction count generalizing candidate values w with
  | zero => rfl
  | succ count ih =>
    have first : books note (readRegister env f candidate now w).1 = books note w := readRegister_books f candidate w
    unfold readLoop
    split
    · rename_i refused
      rw [refused] at first
      exact first
    · rename_i served
      rw [served] at first
      exact (ih _ _ _).trans first

omit quiet in
theorem processRead_books (f : ReadFunction) (address quantity : U16) (w : System Exec) :
    books note (processRead env f address quantity now w).1 = books note w := by
  unfold processRead
  split
  · rfl
  · exact readLoop_books f _ _ _ w

/-! ### Calls -/

theorem call_entered (e : Event) {w : System Exec} (steady : Steady updating w) :
    Entered env arming updating e now (books note w) (books note (call env e now w)) w.session (call env e now w).state := by
  cases e with
  | boot checks => exact .kept (completeBoot_books quiet now checks w)
  | report f detail => exact .kept (fault_books quiet now f detail w)
  | command c => exact command_entered quiet steady c _
  | write function a v => exact applyWrite_entered quiet steady _
  | read f address quantity => exact .kept (processRead_books f address quantity w)
  | tick => exact .kept (tick_books quiet now w)
  | service => exact .kept (handleMotorService_books quiet now w)
  | safety => exact .kept (checkPressureSafety_books quiet now w)
  | sample p =>
    rcases @handlePressureSample_sampled _ _ _ _ _ _ quiet now p w steady.calm with
      same | ⟨pending, force, same⟩ | ⟨characterized, pending, same⟩ | ⟨running, force, measured, result⟩
    · exact .kept same
    · exact .opened (Or.inl pending) force same
    · exact .attempted characterized pending same
    · exact .controlled p rfl running force measured result

/-! ### Without edits -/

def SameUpload (b c : Books Note) : Prop :=
  c.tuning = b.tuning ∧ c.words = b.words ∧ c.mask = b.mask ∧ c.version = b.version

omit quiet in
theorem tracked_upload (now : U32) (force : ℚ) (committed : ℤ) (b : Books Note) :
    SameUpload b (b.tracked now force committed) := by
  rw [Books.tracked_eq]
  exact ⟨rfl, rfl, rfl, rfl⟩

omit quiet in
theorem controlled_upload {force : ℚ}
    {b c : Books Note} {state : MachineState} (result : Controlled arming updating now force b c state) : SameUpload b c := by
  cases result with
  | kept same =>
    rw [same]
    exact ⟨rfl, rfl, rfl, rfl⟩
  | updated d charge judged =>
    have charged : SameUpload b d := by
      cases charge with
      | not => exact ⟨rfl, rfl, rfl, rfl⟩
      | charged room => exact ⟨rfl, rfl, rfl, rfl⟩
    cases judged with
    | refused same => rwa [same]
    | failed reply same =>
      rw [same]
      exact charged
    | judged reply ok same =>
      have tracked := tracked_upload now force reply.committed (d.noted updating reply)
      rw [← same] at tracked
      exact ⟨tracked.1.trans charged.1, tracked.2.1.trans charged.2.1, tracked.2.2.1.trans charged.2.2.1,
        tracked.2.2.2.trans charged.2.2.2⟩

omit quiet in
theorem Entered.sameUpload {e : Event} {b c : Books Note} {before : Session} {after : MachineState}
    (entered : Entered env arming updating e now b c before after)
    (unedited : ∀ function a v, e ≠ .write function a v) : SameUpload b c := by
  cases entered with
  | kept same =>
    rw [same]
    exact ⟨rfl, rfl, rfl, rfl⟩
  | targeted target same =>
    rw [same]
    exact ⟨rfl, rfl, rfl, rfl⟩
  | opened free force same =>
    rw [same]
    exact ⟨rfl, rfl, rfl, rfl⟩
  | attempted characterized pending same =>
    rw [same]
    exact ⟨rfl, rfl, rfl, rfl⟩
  | controlled p frame running force measured result => exact controlled_upload result
  | edited function a v write => exact absurd write (unedited function a v)

/-! ### Without notes -/

omit quiet in
theorem overlooked (E : Executor Exec) :
    Overlooks E (fun _ => ()) (fun _ n => n) (fun _ n => n) where
  disable _ := rfl
  shown _ _ := rfl
  posted _ _ _ _ _ _ := rfl
  driven _ _ _ := rfl
  armed _ _ _ _ := rfl
  updated _ _ := rfl

omit quiet in
theorem steady (w : System Exec) : Steady (fun _ (n : Unit) => n) w := Or.inr fun _ _ => rfl

end Sd700.Runs.Entries

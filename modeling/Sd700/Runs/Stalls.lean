import Sd700.Logic.Stopwatch
import Sd700.Runs.Entries
import Sd700.Runs.Terminal
import Sd700.Runs.Uploads

/-! The no-response clock of a continuous session. Over updates that all push, and whose force stays in a
band narrower than the progress it looks for, it runs out: it is restarted once at most, by a gain on an
anchor older than they are. -/

namespace Sd700.Runs.Stalls
open Build.Contract Servo.Config Servo.Controller Servo.State Servo.BuildMachine Servo.Machine Servo.Ledger
  Motor.Interface Logic.Modular Logic.Run Logic.Stopwatch Modbus.Protocol Runs.Calls Runs.Terminal Runs.Entries

variable {Exec : Type} {env : Platform Exec} {between : Exec → Exec → Prop}

/-! ### Updates -/

def acceptedBy : DriveCall × DriveReply → Option ℤ
  | (.updateContinuous _, reply) => if reply.result = .ok then some reply.committed else none
  | _ => none

def accepted (x : Exec × Log) : List ℤ := x.2.drives.filterMap acceptedBy

def accepting (reply : DriveReply) (outputs : List ℤ) : List ℤ :=
  if reply.result = .ok then reply.committed :: outputs else outputs

theorem acceptedBy_other (call : DriveCall) (reply : DriveReply) (other : DriveCall.noted call = false) :
    acceptedBy (call, reply) = none := by
  cases call <;> first | rfl | exact nomatch other

theorem accepted_update (request : ContinuousRequest) (reply : DriveReply) (drives : List (DriveCall × DriveReply)) :
    ((.updateContinuous request, reply) :: drives).filterMap acceptedBy =
      accepting reply (drives.filterMap acceptedBy) := by
  unfold accepting
  by_cases ok : reply.result = .ok
  · rw [if_pos ok]
    exact List.filterMap_cons_some (if_pos ok)
  · rw [if_neg ok]
    exact List.filterMap_cons_none (if_neg ok)

theorem accepted_overlook (env : Platform Exec) :
    Overlooks env.logged.executor accepted (fun _ outputs => outputs) accepting :=
  logged_overlooks env acceptedBy_other (fun _ _ _ _ _ => rfl) accepted_update

/-- A control update of a session in contact: when it was made, the force it measured, and whether it pushes
on a target outside the hold band. -/
structure Update where
  reading : Reading 32 ℚ
  pushes : Bool

def updateIn (env : Platform Exec) (t : Turn (System (Exec × Log)) (Input (Exec × Log))) : Option Update :=
  match t.event with
  | .call (.sample p) now =>
    match accepted t.after.exec, measure env.policy t.before.tuning.profile p.raw p.control with
    | committed :: outputs, some force =>
      if outputs = accepted t.before.exec then
        some ⟨⟨now, force⟩, 0 < committed ∧ t.before.tuning.config.holdExit < t.before.targetUnits - force⟩
      else none
    | _, _ => none
  | _ => none

def updates (env : Platform Exec) (turns : List (Turn (System (Exec × Log)) (Input (Exec × Log)))) : List Update :=
  turns.filterMap (updateIn env)

def readings (env : Platform Exec) (turns : List (Turn (System (Exec × Log)) (Input (Exec × Log)))) :
    List (Reading 32 ℚ) :=
  (updates env turns).map Update.reading

/-! ### The clock -/

def limitMs (t : Tuning) : Nat := (u32 (min t.config.saturationMs t.profile.noResponseMs)).toNat

def windowMs (t : Tuning) : Nat := (u32 t.profile.progressWindowMs).toNat

def watch {Note : Type} (b : Books Note) : Watch 32 ℚ := ⟨b.commanded, b.goodMs, b.anchor⟩

def clock (w : System Exec) : Watch 32 ℚ := ⟨w.progress.commanded, w.progress.goodMs, w.progress.anchor⟩

/-- An update that pushes keeps the clock, or restarts it with a gain. -/
theorem tracked_push {Note : Type} (now : U32) {force : ℚ} {committed : ℤ} {b : Books Note}
    (commanding : b.Commanding force committed) :
    Push b.tuning.profile.progressUnits (watch b) ⟨now, force⟩ (watch (b.tracked now force committed)) := by
  unfold Books.tracked
  rw [if_pos commanding]
  unfold Books.anchored
  cases started : b.commanded with
  | false =>
    rw [if_neg Bool.false_ne_true]
    have restarts : watch (Books.advanced now force
        { b with commanded := true, atMs := now, goodMs := now, anchor := force }) = Reading.restart ⟨now, force⟩ := by
      unfold Books.advanced
      split
      · split <;> rfl
      · rfl
    rw [restarts]
    exact .started started
  | true =>
    rw [if_pos rfl]
    unfold Books.advanced
    split
    · by_cases gain : b.Gained force
      · rw [if_pos gain]
        have restarts : watch { b with goodMs := now, anchor := force, atMs := now } = Reading.restart ⟨now, force⟩ :=
          congrArg (fun running => (⟨running, now, force⟩ : Watch 32 ℚ)) started
        rw [restarts]
        exact .gained started gain
      · rw [if_neg gain]
        exact .kept started
    · exact .kept started

/-! ### One turn -/

def Engaged (w : System Exec) : Prop := w.session.active = true ∧ w.course.contacted = true

instance (w : System Exec) : Decidable (Engaged w) := inferInstanceAs (Decidable (_ ∧ _))

inductive Turned (env : Platform Exec) (t : Turn (System (Exec × Log)) (Input (Exec × Log))) : Prop
  | quiet (none_ : updateIn env t = none) (same : clock t.after = clock t.before)
  | updated (u : Update) (made : updateIn env t = some u) (kept : u.pushes = true →
      Push t.before.tuning.profile.progressUnits (clock t.before) u.reading (clock t.after) ∧
        (u.reading.instant - (clock t.after).since).toNat < limitMs t.before.tuning)

variable {w : System (Exec × Log)}

theorem cons_ne_self {α : Type} (x : α) (l : List α) : ¬ x :: l = l := fun same =>
  absurd (congrArg List.length same) (Nat.succ_ne_self l.length)

theorem updateIn_none {e : Event} {now : U32} {w' : System (Exec × Log)}
    (same : accepted w'.exec = accepted w.exec) : updateIn env ⟨w, .call e now, w'⟩ = none := by
  cases e with
  | sample p =>
    unfold updateIn
    dsimp only
    rw [same]
    split
    · rename_i committed outputs force outs some_
      rw [if_neg]
      intro back
      rw [outs] at back
      exact cons_ne_self _ _ back.symm
    · rfl
  | _ => rfl

theorem updateIn_some {p : Sample} {now : U32} {w' : System (Exec × Log)} {committed : ℤ} {force : ℚ}
    (grown : accepted w'.exec = committed :: accepted w.exec)
    (measured : measure env.policy w.tuning.profile p.raw p.control = some force) :
    updateIn env ⟨w, .call (.sample p) now, w'⟩ =
      some ⟨⟨now, force⟩, 0 < committed ∧ w.tuning.config.holdExit < w.targetUnits - force⟩ := by
  unfold updateIn
  dsimp only
  rw [grown, measured]
  exact if_pos rfl

theorem call_turned (orderly : Orderly env.logged w) (engaged : Engaged w) (e : Event) (now : U32) :
    (call env.logged e now w).state = .fault ∨
      ((call env.logged e now w).tuning = w.tuning ∧ Turned env ⟨w, .call e now, call env.logged e now w⟩) := by
  have waiting : ¬ w.session.startPending = true := by
    intro waits
    have inactive := orderly.parked (Or.inl (orderly.waiting waits))
    rw [engaged.1] at inactive
    exact Bool.noConfusion inactive
  have running : ¬ w.session.active = false := by
    rw [engaged.1]
    exact Bool.noConfusion
  have steady : Steady accepting w := Or.inl ⟨engaged.1, engaged.2, Bool.eq_false_iff.mpr waiting⟩
  have entered := @call_entered _ _ _ _ _ _ (accepted_overlook env) now e w steady
  have still (b : Books (List ℤ)) (same : books accepted (call env.logged e now w) = b)
      (watched : watch b = clock w) (noted : b.note = accepted w.exec) :
      Turned env ⟨w, .call e now, call env.logged e now w⟩ := by
    refine .quiet (updateIn_none ((congrArg Books.note same).trans noted)) ?_
    exact (congrArg watch same).trans watched
  cases entered with
  | kept same => exact Or.inr ⟨congrArg Books.tuning same, still _ same rfl rfl⟩
  | targeted target same => exact Or.inr ⟨congrArg Books.tuning same, still _ same rfl rfl⟩
  | opened free force same => exact absurd (free.resolve_left waiting).2 running
  | attempted characterized waits same => exact absurd waits waiting
  | edited function a v write resting same => exact absurd resting running
  | controlled p frame active force measured result =>
    cases result with
    | kept same => exact Or.inr ⟨congrArg Books.tuning same, still _ same rfl rfl⟩
    | updated d charge judged =>
      have charged : d.tuning = w.tuning ∧ d.target = w.targetUnits ∧ watch d = clock w ∧ d.note = accepted w.exec := by
        cases charge with
        | not => exact ⟨rfl, rfl, rfl, rfl⟩
        | charged room => exact ⟨rfl, rfl, rfl, rfl⟩
      obtain ⟨tuned, targeted, watched, noted⟩ := charged
      by_cases faulted : (call env.logged e now w).state = .fault
      · exact Or.inl faulted
      cases judged with
      | refused same ended => exact Or.inl ended
      | failed reply same ended => exact Or.inl ended
      | judged reply ok same within =>
        have entry := same.trans (Books.tracked_eq now force reply.committed (d.noted accepting reply))
        have tuning : (call env.logged e now w).tuning = w.tuning := (congrArg Books.tuning entry).trans tuned
        have grown : accepted (call env.logged e now w).exec = reply.committed :: accepted w.exec := by
          have added : accepted (call env.logged e now w).exec = accepting reply d.note := congrArg Books.note entry
          rw [added, noted]
          exact if_pos ok
        rw [frame] at grown same within faulted tuning ⊢
        refine Or.inr ⟨tuning, .updated _ (updateIn_some grown measured) fun pushes => ?_⟩
        have commanding : (d.noted accepting reply).Commanding force reply.committed := by
          rw [decide_eq_true_eq] at pushes
          unfold Books.Commanding Books.noted
          dsimp only
          rw [tuned, targeted]
          exact pushes
        have push := tracked_push now commanding
        have clocked : clock (call env.logged (.sample p) now w) =
            watch ((d.noted accepting reply).tracked now force reply.committed) := congrArg watch same
        have limited : d.limitMs.toNat = limitMs w.tuning := by
          unfold Books.limitMs limitMs
          rw [tuned]
        constructor
        · rw [clocked, ← watched]
          have units : (d.noted accepting reply).tuning.profile.progressUnits = w.tuning.profile.progressUnits := by
            rw [← tuned]
            rfl
          rw [← units]
          exact push
        · rw [← limited]
          exact BitVec.lt_def.mp (within faulted commanding)

theorem turn_turned (orderly : Orderly env.logged w) (engaged : Engaged w) (input : Input (Exec × Log)) :
    (turn env.logged w input).state = .fault ∨
      ((turn env.logged w input).tuning = w.tuning ∧ Turned env ⟨w, input, turn env.logged w input⟩) := by
  cases input with
  | call e now => exact call_turned orderly engaged e now
  | moved x => exact Or.inr ⟨rfl, .quiet rfl rfl⟩

/-! ### Stretches of a run -/

variable {segment earlier : List (Turn (System (Exec × Log)) (Input (Exec × Log)))}

def origin (segment : List (Turn (System (Exec × Log)) (Input (Exec × Log)))) (w : System (Exec × Log)) :
    System (Exec × Log) :=
  match segment with
  | [] => w
  | t :: segment => origin segment t.before

theorem segment_pushes (recorded : Recorded (turn env.logged) (admits (logged between)) (Boots env.logged)
      (segment ++ earlier) w)
    (engaged : ∀ t ∈ segment, Engaged t.before) (pushing : ∀ u ∈ updates env segment, u.pushes = true) :
    w.state = .fault ∨ (w.tuning = (origin segment w).tuning ∧
      Pushes (origin segment w).tuning.profile.progressUnits (limitMs (origin segment w).tuning)
        (clock (origin segment w)) (readings env segment) (clock w)) := by
  induction segment generalizing w with
  | nil => exact Or.inr ⟨rfl, .none⟩
  | cons t segment ih =>
    cases recorded with
    | turn input recorded admitted =>
      rename_i v
      have orderly : Orderly env.logged v := .recorded recorded
      have now_ : Engaged v := engaged _ List.mem_cons_self
      have sound : v.state ≠ .fault := by
        intro faulted
        have inactive := orderly.parked (Or.inr (Or.inr faulted))
        rw [now_.1] at inactive
        exact Bool.noConfusion inactive
      have before := (ih recorded (fun t there => engaged t (List.mem_cons_of_mem _ there)) (by
        intro u there
        apply pushing
        unfold updates
        rw [List.filterMap_cons]
        split
        · exact there
        · exact List.mem_cons_of_mem _ there)).resolve_left sound
      rcases turn_turned orderly now_ input with faulted | ⟨tuning, turned⟩
      · exact Or.inl faulted
      refine Or.inr ⟨tuning.trans before.1, ?_⟩
      have units : v.tuning = (origin segment v).tuning := before.1
      change Pushes (origin segment v).tuning.profile.progressUnits (limitMs (origin segment v).tuning)
        (clock (origin segment v)) (readings env (⟨v, input, turn env.logged v input⟩ :: segment)) _
      cases turned with
      | quiet none_ same =>
        have rest : readings env (⟨v, input, turn env.logged v input⟩ :: segment) = readings env segment :=
          congrArg (List.map Update.reading) (List.filterMap_cons_none none_)
        rw [rest, same]
        exact before.2
      | updated u made kept =>
        have grown : updates env (⟨v, input, turn env.logged v input⟩ :: segment) = u :: updates env segment :=
          List.filterMap_cons_some made
        have push := kept (pushing u (grown ▸ List.mem_cons_self))
        have rest : readings env (⟨v, input, turn env.logged v input⟩ :: segment) = u.reading :: readings env segment :=
          congrArg (List.map Update.reading) grown
        rw [rest]
        refine .push u.reading before.2 ?_ ?_
        · rw [← units]
          exact push.1
        · rw [← units]
          exact push.2

/-- The no-response clock runs out on every stretch of updates that all push, in a band narrower than the progress
it looks for: by its limit where it was stopped before or its anchor lies in the band, and by twice that and a pause
where one of them gains on an older anchor. -/
theorem stall_contract (recorded : Recorded (turn env.logged) (admits (logged between)) (Boots env.logged)
      (segment ++ earlier) w)
    (engaged : ∀ t ∈ segment, Engaged t.before) (pushing : ∀ u ∈ updates env segment, u.pushes = true)
    (some_ : readings env segment ≠ []) (forwards : Forwards (limitMs (origin segment w).tuning) (readings env segment))
    (band : ∀ u ∈ readings env segment, ∀ v ∈ readings env segment,
      u.level - v.level < (origin segment w).tuning.profile.progressUnits) :
    (2 * limitMs (origin segment w).tuning + longest (readings env segment) ≤ span (readings env segment) →
      w.state = .fault) ∧
    (((origin segment w).progress.commanded = true → ∀ u ∈ readings env segment,
        u.level - (origin segment w).progress.anchor < (origin segment w).tuning.profile.progressUnits) →
      limitMs (origin segment w).tuning ≤ span (readings env segment) → w.state = .fault) := by
  have banded : ¬ Leaves (origin segment w).tuning.profile.progressUnits (readings env segment) := by
    rintro ⟨u, here, v, there, gain⟩
    exact absurd (band u here v there) (not_lt.mpr gain)
  constructor
  · intro reached
    refine (segment_pushes recorded engaged pushing).resolve_right fun pushes => ?_
    exact absurd (pushes.2.span_lt some_ forwards banded) (not_lt.mpr reached)
  · intro near reached
    refine (segment_pushes recorded engaged pushing).resolve_right fun pushes => ?_
    refine absurd (pushes.2.span_lt_limit some_ forwards banded ?_) (not_lt.mpr reached)
    exact fun running u here => not_le.mpr (near running u here)

/-! ### The rule for updates of any kind -/

def pushedSpan : List Update → Nat
  | u :: v :: past => (if u.pushes && v.pushes then gap v.reading u.reading else 0) + pushedSpan (v :: past)
  | _ => 0

/-- The budget of the rule: the limit and one window, for the updates of a stretch that is not in FORCE_HOLD, whether
they push or not, under a further condition on the state before and the updates. -/
def RunsOut (Exec : Type) (also : System (Exec × Log) → List Update → Prop) : Prop :=
  ∀ (env : Platform Exec) (between : Exec → Exec → Prop)
    (segment earlier : List (Turn (System (Exec × Log)) (Input (Exec × Log)))) (w : System (Exec × Log)),
    Recorded (turn env.logged) (admits (logged between)) (Boots env.logged) (segment ++ earlier) w →
    (∀ t ∈ segment, Engaged t.before) → (∀ t ∈ segment, t.after.state ≠ .forceHold) →
    (∀ u ∈ readings env segment, ∀ v ∈ readings env segment,
      u.level - v.level < (origin segment w).tuning.profile.progressUnits) →
    Forwards (limitMs (origin segment w).tuning) (readings env segment) →
    also (origin segment w) (updates env segment) →
    limitMs (origin segment w).tuning + windowMs (origin segment w).tuning < pushedSpan (updates env segment) →
    w.state = .fault

/-- A commissioning build without plans, on a bridge that commits what it is asked for. -/
def stallPlatform : Platform Bool :=
  { policy := .commissioned
    executor := { Executor.switch with
      drive := fun call _ =>
        match call with
        | .updateContinuous request => (⟨.ok, 1, request.requested, false⟩, true)
        | _ => (⟨.ok, 1, 0, false⟩, true) }
    sqrtf := fun _ => 3
    machineConfig := ⟨900, 100, 200, false⟩
    diagnosticWords := fun _ => [] }

/-- Frames of a force at an instant, numbered from some sequence on. -/
def frames (sequence : Nat) (forces : List (Nat × Nat)) : List (Input (Bool × Log)) :=
  forces.zipIdx.map fun frame =>
    .call (.sample ⟨BitVec.ofNat 64 (sequence + frame.2), BitVec.ofNat 32 frame.1.2, BitVec.ofNat 32 frame.1.1, [],
      frame.1.1, true, true⟩) (BitVec.ofNat 32 frame.1.2)

/-- Boot, the compiled configuration uploaded with another limit, START, and the frame that opens the session. -/
def stallOpening (limit : ℚ) : List (Input (Bool × Log)) :=
  let config : ForceServoConfig := ⟨(defaultConfig .commissioned).words.set 20 (Logic.Binary32.encode limit) saturation_lt⟩
  [.call (.boot true) 0, .call (.write 6 regBegin 0xB101) 1] ++
    ((Uploads.encoded config).toList.zipIdx.map fun word =>
      .call (.write 6 (regConfig + BitVec.ofNat 16 word.2) word.1) 2) ++
    [.call (.write 6 regCommit 0xC101) 3] ++ frames 1 [(240, 5)] ++ [.call (.write 5 coilStart 0xFF00) 6] ++
    frames 2 [(240, 7)]

abbrev Recording := List (Turn (System (Bool × Log)) (Input (Bool × Log))) × System (Bool × Log)

def opened (limit : ℚ) : Recording :=
  play (turn stallPlatform.logged) ([], initialized stallPlatform.logged ⟨900, 100, 200, false⟩ true 0
    Pressure.State.Source.initial (false, ⟨[], [], []⟩)) (stallOpening limit)

def resumed (from_ : Recording) (sequence : Nat) (forces : List (Nat × Nat)) : Recording :=
  play (turn stallPlatform.logged) ([], from_.2) (frames sequence forces)

theorem frames_admitted (sequence : Nat) (forces : List (Nat × Nat)) :
    ∀ input ∈ frames sequence forces, ∀ w, admits (logged fun _ _ => False) w input := by
  intro input listed w
  obtain ⟨frame, _, rfl⟩ := List.mem_map.mp listed
  trivial

theorem resumed_recorded (from_ : Recording) {past : List (Turn (System (Bool × Log)) (Input (Bool × Log)))}
    (recorded : Recorded (turn stallPlatform.logged) (admits (logged fun _ _ => False)) (Boots stallPlatform.logged)
      past from_.2) (sequence : Nat) (forces : List (Nat × Nat)) :
    Recorded (turn stallPlatform.logged) (admits (logged fun _ _ => False)) (Boots stallPlatform.logged)
      ((resumed from_ sequence forces).1 ++ past) (resumed from_ sequence forces).2 := by
  have whole : Recorded (turn stallPlatform.logged) (admits (logged fun _ _ => False)) (Boots stallPlatform.logged)
      (play (turn stallPlatform.logged) (past, from_.2) (frames sequence forces)).1
      (play (turn stallPlatform.logged) (past, from_.2) (frames sequence forces)).2 :=
    recorded_play _ (frames_admitted sequence forces) recorded
  rw [play_append] at whole
  exact whole

theorem opened_recorded (limit : ℚ) : Recorded (turn stallPlatform.logged) (admits (logged fun _ _ => False))
    (Boots stallPlatform.logged) (opened limit).1 (opened limit).2 := by
  apply recorded_play
  · intro input listed w
    simp only [stallOpening, List.mem_append, List.mem_cons, List.not_mem_nil, or_false] at listed
    rcases listed with (((((rfl | rfl) | word) | rfl) | frame) | rfl) | frame
    · trivial
    · trivial
    · obtain ⟨word, _, rfl⟩ := List.mem_map.mp word
      trivial
    · trivial
    · exact frames_admitted _ _ input frame w
    · trivial
    · exact frames_admitted _ _ input frame w
  · exact .first _ ⟨⟨900, 100, 200, false⟩, true, 0, .initial, (false, ⟨[], [], []⟩), rfl⟩

/-- A push at 230 anchors the clock; in the band after it, 231 and 232, the second window gains on that anchor. -/
def anchoredRun : Recording := resumed (opened 600) 3 [(230, 107)]

def gaining : Recording := resumed anchoredRun 4
  [(231, 112), (231, 237), (231, 362), (231, 487), (231, 606), (232, 706), (232, 831), (232, 956), (232, 1081),
    (232, 1206), (232, 1305)]

def straying : Recording := resumed (opened 600) 3
  [(239, 107), (239, 232), (239, 357), (239, 482), (239, 607), (239, 706), (240, 711), (239, 716), (239, 841),
    (239, 966), (239, 1091), (239, 1216), (239, 1315)]

/-- The budget of the rule does not hold: a gain on an older anchor buys a second one even where every update pushes,
and a stray frame buys one where the clock was stopped before. -/
theorem rule_fails : ¬ RunsOut Bool (fun _ _ => True) ∧ ¬ RunsOut Bool (fun _ run => ∀ u ∈ run, u.pushes = true) ∧
    ¬ RunsOut Bool (fun v _ => v.progress.commanded = false) := by
  have anchored : Recorded (turn stallPlatform.logged) (admits (logged fun _ _ => False)) (Boots stallPlatform.logged)
      (anchoredRun.1 ++ (opened 600).1) anchoredRun.2 := resumed_recorded (opened 600) (opened_recorded 600) 3 _
  have gains : Recorded (turn stallPlatform.logged) (admits (logged fun _ _ => False)) (Boots stallPlatform.logged)
      (gaining.1 ++ (anchoredRun.1 ++ (opened 600).1)) gaining.2 := resumed_recorded anchoredRun anchored 4 _
  have strays : Recorded (turn stallPlatform.logged) (admits (logged fun _ _ => False)) (Boots stallPlatform.logged)
      (straying.1 ++ (opened 600).1) straying.2 := resumed_recorded (opened 600) (opened_recorded 600) 3 _
  have gained : (∀ t ∈ gaining.1, Engaged t.before) ∧ (∀ t ∈ gaining.1, t.after.state ≠ .forceHold) ∧
      (∀ u ∈ readings stallPlatform gaining.1, ∀ v ∈ readings stallPlatform gaining.1,
        u.level - v.level < (origin gaining.1 gaining.2).tuning.profile.progressUnits) ∧
      Forwards (limitMs (origin gaining.1 gaining.2).tuning) (readings stallPlatform gaining.1) ∧
      (∀ u ∈ updates stallPlatform gaining.1, u.pushes = true) ∧
      limitMs (origin gaining.1 gaining.2).tuning + windowMs (origin gaining.1 gaining.2).tuning <
        pushedSpan (updates stallPlatform gaining.1) ∧ gaining.2.state ≠ .fault := by
    decide +kernel
  have strayed : (∀ t ∈ straying.1, Engaged t.before) ∧ (∀ t ∈ straying.1, t.after.state ≠ .forceHold) ∧
      (∀ u ∈ readings stallPlatform straying.1, ∀ v ∈ readings stallPlatform straying.1,
        u.level - v.level < (origin straying.1 straying.2).tuning.profile.progressUnits) ∧
      Forwards (limitMs (origin straying.1 straying.2).tuning) (readings stallPlatform straying.1) ∧
      (origin straying.1 straying.2).progress.commanded = false ∧
      limitMs (origin straying.1 straying.2).tuning + windowMs (origin straying.1 straying.2).tuning <
        pushedSpan (updates stallPlatform straying.1) ∧ straying.2.state ≠ .fault := by
    decide +kernel
  obtain ⟨engaged, unheld, band, forwards, pushing, beyond, sound⟩ := gained
  refine ⟨fun rule => ?_, fun rule => ?_, fun rule => ?_⟩
  · exact sound (rule stallPlatform (fun _ _ => False) gaining.1 (anchoredRun.1 ++ (opened 600).1) gaining.2 gains engaged
      unheld band forwards trivial beyond)
  · exact sound (rule stallPlatform (fun _ _ => False) gaining.1 (anchoredRun.1 ++ (opened 600).1) gaining.2 gains engaged
      unheld band forwards pushing beyond)
  · obtain ⟨engaged, unheld, band, forwards, stopped, beyond, sound⟩ := strayed
    exact sound (rule stallPlatform (fun _ _ => False) straying.1 (opened 600).1 straying.2 strays engaged unheld band
      forwards stopped beyond)

def stalledRun : Recording := resumed (opened 100) 3 [(239, 107), (239, 207)]

theorem stall_contract_stalled : stalledRun.2.state = .fault := by
  have recorded : Recorded (turn stallPlatform.logged) (admits (logged fun _ _ => False)) (Boots stallPlatform.logged)
      (stalledRun.1 ++ (opened 100).1) stalledRun.2 := resumed_recorded (opened 100) (opened_recorded 100) 3 _
  have run : (∀ t ∈ stalledRun.1, Engaged t.before) ∧ (∀ u ∈ updates stallPlatform stalledRun.1, u.pushes = true) ∧
      readings stallPlatform stalledRun.1 ≠ [] ∧
      Forwards (limitMs (origin stalledRun.1 stalledRun.2).tuning) (readings stallPlatform stalledRun.1) ∧
      (∀ u ∈ readings stallPlatform stalledRun.1, ∀ v ∈ readings stallPlatform stalledRun.1,
        u.level - v.level < (origin stalledRun.1 stalledRun.2).tuning.profile.progressUnits) ∧
      (origin stalledRun.1 stalledRun.2).progress.commanded = false ∧
      limitMs (origin stalledRun.1 stalledRun.2).tuning ≤ span (readings stallPlatform stalledRun.1) := by
    decide +kernel
  obtain ⟨engaged, pushing, some_, forwards, band, stopped, reached⟩ := run
  refine (stall_contract recorded engaged pushing some_ forwards band).2 (fun running => ?_) reached
  exact absurd (stopped.symm.trans running) nofun

end Sd700.Runs.Stalls

import Sd700.Runs.Entries
import Sd700.Runs.Feedback

/-! The assist budget of a run. What a session may spend on boosts is charged in full with the call that
arms one, and is not given back while the session lasts; without plans it never is. -/

namespace Sd700.Runs.Assist
open Build.Contract Logic.Binary32 Servo.Config Servo.Controller Servo.State Servo.BuildMachine Servo.Machine
  Servo.Ledger Motor.Interface Logic.Modular Logic.Run Modbus.Protocol Runs.Calls Runs.Terminal Runs.Entries

variable {Exec : Type} {env : Platform Exec} {between : Exec → Exec → Prop}

/-! ### The log -/

def armedBy : DriveCall × DriveReply → Option U32
  | (.armBoost _ _ durationMs, _) => some durationMs
  | _ => none

def arms (x : Exec × Log) : List U32 := x.2.drives.filterMap armedBy

theorem armedBy_other (call : DriveCall) (reply : DriveReply) (other : DriveCall.noted call = false) :
    armedBy (call, reply) = none := by
  cases call <;> first | rfl | exact nomatch other

theorem arms_overlook (env : Platform Exec) :
    Overlooks env.logged.executor arms (fun durationMs armed => durationMs :: armed) (fun _ armed => armed) :=
  logged_overlooks env armedBy_other (fun _ _ _ _ _ => rfl) (fun _ _ _ => rfl)

def armedIn (t : Turn (System (Exec × Log)) (Input (Exec × Log))) : List U32 :=
  (arms t.after.exec).take ((arms t.after.exec).length - (arms t.before.exec).length)

def sessionArms : List (Turn (System (Exec × Log)) (Input (Exec × Log))) → List U32
  | [] => []
  | t :: past => armedIn t ++ if t.before.session.active then sessionArms past else []

def total (durations : List U32) : Nat := (durations.map BitVec.toNat).sum

/-! ### The profile -/

def boostMs (w : System Exec) : U32 := u32 w.tuning.profile.boostMs

def boostTotalMs (w : System Exec) : U32 := u32 w.tuning.profile.boostTotalMs

def Funded (env : Platform Exec) (t : Tuning) : Prop :=
  t.profile.boostMs = (liveProfile env.policy).boostMs ∧
    t.profile.boostTotalMs = (liveProfile env.policy).boostTotalMs

theorem live_boost (p : BuildPolicy) :
    (liveProfile p).boostMs = value (encode (if p.characterization = true then 4 else 0)) ∧
      (liveProfile p).boostTotalMs = value (encode (if p.characterization = true then 4 else 0)) := by
  constructor
  · exact congrArg value (Vector.getElem_ofFn _)
  · exact congrArg value (Vector.getElem_ofFn _)

theorem live_room (p : BuildPolicy) :
    (u32 (liveProfile p).boostMs).toNat + (u32 (liveProfile p).boostTotalMs).toNat < 2 ^ 32 := by
  rw [(live_boost p).1, (live_boost p).2]
  cases p.characterization <;> decide +kernel

theorem funded_initialized (config : MachineConfig) (accepted : Bool) (now : U32) (source : Pressure.State.Source)
    (exec : Exec) : Funded env (initialized env config accepted now source exec).tuning := by
  have tuning : (initialized env config accepted now source exec).tuning.profile = liveProfile env.policy := by
    unfold initialized publish
    split <;> rfl
  unfold Funded
  rw [tuning]
  exact ⟨rfl, rfl⟩

theorem funded_planned (plan : Plan) :
    (plannedTuning env.policy plan).1.boostMs = (liveProfile env.policy).boostMs ∧
      (plannedTuning env.policy plan).1.boostTotalMs = (liveProfile env.policy).boostTotalMs := by
  constructor
  · apply congrArg value
    simp only [plannedTuning, ForceServoProfile.withContinuousPress, ForceServoProfile.withPeakPress]
    rw [Vector.getElem_set_ne _ _ (by decide), Vector.getElem_set_ne _ _ (by decide)]
  · apply congrArg value
    simp only [plannedTuning, ForceServoProfile.withContinuousPress, ForceServoProfile.withPeakPress]
    rw [Vector.getElem_set_ne _ _ (by decide), Vector.getElem_set_ne _ _ (by decide)]

theorem selected_live {p : BuildPolicy} {id : U16} {selected : ForceServoProfile}
    (found : findProfile p id = some selected) (enabled : selected.experimentEnabled ≠ 0) : selected = liveProfile p := by
  have listed := List.mem_of_find?_eq_some found
  rcases List.mem_cons.mp listed with live | other
  · exact live
  · have disabled : ∀ c ∈ candidates, c.experimentEnabled = 0 := by decide +kernel
    exact absurd (disabled selected other) enabled

theorem tick_tuning (now : U32) (w : System Exec) : (tick env now w).tuning = w.tuning :=
  by
  have same : books (fun _ : Exec => ()) (tick env now w) = books (fun _ => ()) w :=
    tick_books (overlooked env.executor) now w
  exact congrArg Books.tuning same

theorem command_tuning (c : Command) (now : U32) (w : System Exec) : (handleCommand env c now w).tuning = w.tuning :=
  ((command_entered (e := .tick) (overlooked env.executor) (steady w) c w.state).sameUpload nofun).1

theorem Funded.of_same {t t' : Tuning} (funded : Funded env t) (same : t'.profile = t.profile) : Funded env t' := by
  unfold Funded
  rw [same]
  exact funded

theorem selectProfile_funded (v : U16) (now : U32) {w : System Exec} (funded : Funded env w.tuning) :
    Funded env (selectProfile env v now w).1.tuning := by
  unfold selectProfile
  split
  · exact funded
  split
  · exact funded
  rename_i selected found
  by_cases enabled : selected.experimentEnabled = 0
  · rw [if_pos enabled]
    rw [tick_tuning]
    exact funded
  rw [if_neg enabled]
  split
  · exact funded
  · rw [tick_tuning]
    dsimp only
    unfold Funded
    dsimp only
    rw [selected_live found enabled]
    exact ⟨rfl, rfl⟩

theorem writeTarget_tuning (v : U16) (now : U32) (w : System Exec) : (writeTarget env v now w).1.tuning = w.tuning := by
  unfold writeTarget
  dsimp only
  split
  · exact tick_tuning now _
  · exact command_tuning _ now (reject _ w)

theorem commitConfig_profile (v : U16) (now : U32) (w : System Exec) :
    (commitConfig env v now w).1.tuning.profile = w.tuning.profile := by
  unfold commitConfig
  dsimp only
  split
  · rfl
  split
  · rfl
  split
  · rfl
  · rw [tick_tuning]

theorem configWrite_funded (a v : U16) (now : U32) {w : System Exec} (funded : Funded env w.tuning) :
    Funded env (configWrite env a v now w).1.tuning := by
  unfold configWrite
  split
  · exact selectProfile_funded v now funded
  split
  · rw [writeTarget_tuning]
    exact funded
  split
  · split <;> exact funded
  split
  · exact funded
  split
  · exact funded
  split
  · exact funded.of_same (commitConfig_profile v now w)
  · exact funded

theorem planWrite_funded (a v : U16) (now : U32) {w : System Exec} (funded : Funded env w.tuning) :
    Funded env (planWrite env a v now w).1.tuning := by
  unfold planWrite commitPlan
  dsimp only
  split
  · exact funded
  split
  · exact funded
  split
  · split
    · exact funded
    split
    · exact funded
    · rw [tick_tuning]
      exact funded_planned _
  split
  · exact funded
  split
  · exact funded
  · exact funded

theorem write_funded (function : BitVec 8) (a v : U16) (now : U32) {w : System Exec} (funded : Funded env w.tuning) :
    Funded env (applyWrite env function a v now w).1.tuning := by
  have commanded (c : Command) : Funded env (handleCommand env c now w).tuning := by
    rw [command_tuning]
    exact funded
  unfold applyWrite servoWrite freeze
  dsimp only
  split
  · split
    · split
      · exact funded
      · exact commanded _
    split
    · split <;> exact funded
    split
    · exact funded
    split
    · exact planWrite_funded a v now funded
    · exact configWrite_funded a v now funded
  split
  · exact commanded _
  split
  · split
    · exact funded
    · exact commanded _
  · exact funded

theorem call_funded (e : Event) (now : U32) {w : System Exec} (funded : Funded env w.tuning) :
    Funded env (call env e now w).tuning := by
  have entered := @call_entered _ _ _ _ _ _ (overlooked env.executor) now e w (steady w)
  have other (unedited : ∀ function a v, e ≠ .write function a v) : Funded env (call env e now w).tuning := by
    have same : (call env e now w).tuning = w.tuning := (entered.sameUpload unedited).1
    rw [same]
    exact funded
  cases e with
  | write function a v => exact write_funded function a v now funded
  | _ => exact other nofun

/-! ### One turn -/

inductive Ledgered (env : Platform Exec) (w w' : System (Exec × Log)) : Prop
  | kept (spent : w'.assist.spentMs = w.assist.spentMs) (used : w'.assist.used = w.assist.used)
    (armed : arms w'.exec = arms w.exec)
  | opened (inactive : w.session.active = false) (used : w'.assist.used = false)
    (spent : w'.assist.spentMs = if env.policy.characterization then 0 else w.assist.spentMs)
    (armed : arms w'.exec = arms w.exec)
  | attempted (characterized : env.policy.characterization = true) (inactive : w.session.active = false)
    (spent : w'.assist.spentMs = 0) (armed : arms w'.exec = arms w.exec)
  | charged (running : w.session.active = true) (unused : w.assist.used = false)
    (room : w.assist.spentMs + boostMs w ≤ boostTotalMs w)
    (spent : w'.assist.spentMs = w.assist.spentMs + boostMs w) (used : w'.assist.used = true)
    (armed : arms w'.exec = boostMs w :: arms w.exec)

def SameAssist (b c : Books (List U32)) : Prop :=
  c.used = b.used ∧ c.spentMs = b.spentMs ∧ c.note = b.note

theorem tracked_assist (now : U32) (force : ℚ) (committed : ℤ) (b : Books (List U32)) :
    SameAssist b (b.tracked now force committed) := by
  rw [Books.tracked_eq]
  exact ⟨rfl, rfl, rfl⟩

theorem judged_assist {now : U32} {force : ℚ} {b c : Books (List U32)} {state : MachineState}
    (judged : Judged (fun _ armed => armed) now force b c state) : SameAssist b c := by
  cases judged with
  | refused same =>
    rw [same]
    exact ⟨rfl, rfl, rfl⟩
  | failed reply same =>
    rw [same]
    exact ⟨rfl, rfl, rfl⟩
  | judged reply ok same =>
    rw [same]
    exact tracked_assist now force reply.committed _

theorem call_ledgered {w : System (Exec × Log)} (orderly : Orderly env.logged w) (e : Event) (now : U32) :
    Ledgered env w (call env.logged e now w) := by
  have pending (waits : w.session.startPending = true) : w.session.active = false :=
    orderly.parked (Or.inl (orderly.waiting waits))
  have steady : Steady (fun _ (armed : List U32) => armed) w := Or.inr fun _ _ => rfl
  have entered := @call_entered _ _ _ _ _ _ (arms_overlook env) now e w steady
  cases entered with
  | kept same => exact .kept (congrArg Books.spentMs same) (congrArg Books.used same) (congrArg Books.note same)
  | targeted target same =>
    exact .kept (congrArg Books.spentMs same) (congrArg Books.used same) (congrArg Books.note same)
  | opened free force same =>
    have inactive : w.session.active = false := free.elim pending And.right
    exact .opened inactive (congrArg Books.used same) (congrArg Books.spentMs same) (congrArg Books.note same)
  | attempted characterized waits same =>
    exact .attempted characterized (pending waits) (congrArg Books.spentMs same) (congrArg Books.note same)
  | edited function a v write resting same =>
    exact .kept (congrArg Books.spentMs same) (congrArg Books.used same) (congrArg Books.note same)
  | controlled p frame running force measured result =>
    cases result with
    | kept same => exact .kept (congrArg Books.spentMs same) (congrArg Books.used same) (congrArg Books.note same)
    | updated d charge judged =>
      obtain ⟨used, spent, armed⟩ := judged_assist judged
      cases charge with
      | not => exact .kept spent used armed
      | charged room => exact .charged running room.1 room.2 spent used armed

theorem turn_ledgered {w : System (Exec × Log)} (orderly : Orderly env.logged w) {input : Input (Exec × Log)}
    (admitted : admits (logged between) w input) : Ledgered env w (turn env.logged w input) := by
  cases input with
  | call e now => exact call_ledgered orderly e now
  | moved x => exact .kept rfl rfl (congrArg (fun log : Log => log.drives.filterMap armedBy) admitted.2)

/-! ### Runs -/

/-- The states a run starts in, with nothing logged. -/
def Boots (env : Platform Exec) (w : System (Exec × Log)) : Prop :=
  ∃ config accepted now source exec,
    w = initialized env.logged config accepted now source (exec, ⟨[], [], []⟩)

structure Solvent (env : Platform Exec) (past : List (Turn (System (Exec × Log)) (Input (Exec × Log))))
    (w : System (Exec × Log)) : Prop where
  orderly : Orderly env.logged w
  funded : Funded env w.tuning
  within : w.assist.spentMs ≤ boostTotalMs w
  once : sessionArms past = [] ∨ w.assist.used = true ∧ (sessionArms past).length = 1
  covered : total (sessionArms past) ≤ w.assist.spentMs.toNat
  kept : env.policy.characterization = false → total (arms w.exec) ≤ w.assist.spentMs.toNat

variable {past : List (Turn (System (Exec × Log)) (Input (Exec × Log)))} {w w' : System (Exec × Log)}
  {input : Input (Exec × Log)}

theorem armedIn_kept (armed : arms w'.exec = arms w.exec) : armedIn ⟨w, input, w'⟩ = [] := by
  unfold armedIn
  rw [armed, Nat.sub_self, List.take_zero]

theorem armedIn_charged {durationMs : U32} (armed : arms w'.exec = durationMs :: arms w.exec) :
    armedIn ⟨w, input, w'⟩ = [durationMs] := by
  unfold armedIn
  rw [armed, List.length_cons, Nat.add_sub_cancel_left, List.take_succ_cons, List.take_zero]

theorem boostTotalMs_live (funded : Funded env w.tuning) : boostTotalMs w = u32 (liveProfile env.policy).boostTotalMs :=
  congrArg u32 funded.2

theorem boostMs_live (funded : Funded env w.tuning) : boostMs w = u32 (liveProfile env.policy).boostMs :=
  congrArg u32 funded.1

theorem charge_toNat (funded : Funded env w.tuning) (within : w.assist.spentMs ≤ boostTotalMs w) :
    (w.assist.spentMs + boostMs w).toNat = w.assist.spentMs.toNat + (boostMs w).toNat := by
  have room := live_room env.policy
  rw [← boostMs_live funded, ← boostTotalMs_live funded] at room
  have spent := BitVec.le_def.mp within
  rw [BitVec.toNat_add]
  omega

theorem total_cons (durationMs : U32) (armed : List U32) : total (durationMs :: armed) = durationMs.toNat + total armed :=
  rfl

theorem solvent_initialized (config : MachineConfig) (accepted : Bool) (now : U32) (source : Pressure.State.Source)
    (exec : Exec) :
    Solvent env [] (initialized env.logged config accepted now source (exec, ⟨[], [], []⟩)) := by
  have ledger : (initialized env.logged config accepted now source (exec, ⟨[], [], []⟩)).assist.spentMs = 0 ∧
      arms (initialized env.logged config accepted now source (exec, ⟨[], [], []⟩)).exec = [] := by
    unfold initialized publish
    split <;> exact ⟨rfl, rfl⟩
  refine ⟨initialized_orderly config accepted source _, funded_initialized config accepted now source _, ?_,
    Or.inl rfl, Nat.zero_le _, fun _ => ?_⟩
  · rw [ledger.1]
    exact BitVec.le_def.mpr (Nat.zero_le _)
  · rw [ledger.2]
    exact Nat.zero_le _

theorem sessionArms_inactive (armed : arms w'.exec = arms w.exec) (inactive : w.session.active = false) :
    sessionArms (⟨w, input, w'⟩ :: past) = [] := by
  rw [sessionArms, armedIn_kept armed, inactive, if_neg Bool.false_ne_true, List.append_nil]

theorem Solvent.turned (solvent : Solvent env past w) (input : Input (Exec × Log))
    (admitted : admits (logged between) w input) :
    Solvent env (⟨w, input, turn env.logged w input⟩ :: past) (turn env.logged w input) := by
  have funded : Funded env (turn env.logged w input).tuning := by
    cases input with
    | call e now => exact @call_funded _ env.logged e now _ solvent.funded
    | moved x => exact solvent.funded
  have totals : boostTotalMs (turn env.logged w input) = boostTotalMs w :=
    (boostTotalMs_live funded).trans (boostTotalMs_live solvent.funded).symm
  have ledgered := turn_ledgered solvent.orderly admitted
  have orderly := solvent.orderly.turned input
  generalize turn env.logged w input = w' at funded totals ledgered orderly ⊢
  cases ledgered with
  | kept spent used armed =>
    refine ⟨orderly, funded, ?_, ?_, ?_, ?_⟩
    · rw [spent, totals]
      exact solvent.within
    · rw [sessionArms, armedIn_kept armed, List.nil_append, used]
      split
      · exact solvent.once
      · exact Or.inl rfl
    · rw [sessionArms, armedIn_kept armed, List.nil_append, spent]
      split
      · exact solvent.covered
      · exact Nat.zero_le _
    · rw [armed, spent]
      exact solvent.kept
  | opened inactive used spent armed =>
    have clear : sessionArms (⟨w, input, w'⟩ :: past) = [] := sessionArms_inactive armed inactive
    refine ⟨orderly, funded, ?_, Or.inl clear, ?_, fun plain => ?_⟩
    · rw [spent, totals]
      split
      · exact BitVec.le_def.mpr (Nat.zero_le _)
      · exact solvent.within
    · rw [clear]
      exact Nat.zero_le _
    · rw [armed, spent, plain, if_neg Bool.false_ne_true]
      exact solvent.kept plain
  | attempted characterized inactive spent armed =>
    have clear : sessionArms (⟨w, input, w'⟩ :: past) = [] := sessionArms_inactive armed inactive
    refine ⟨orderly, funded, ?_, Or.inl clear, ?_, fun plain => ?_⟩
    · rw [spent]
      exact BitVec.le_def.mpr (Nat.zero_le _)
    · rw [clear]
      exact Nat.zero_le _
    · exact absurd (characterized.symm.trans plain) nofun
  | charged running unused room spent used armed =>
    have before : sessionArms past = [] :=
      solvent.once.resolve_right fun second => absurd (unused.symm.trans second.1) nofun
    have now_ : sessionArms (⟨w, input, w'⟩ :: past) = [boostMs w] := by
      rw [sessionArms, armedIn_charged armed, before, ite_self, List.append_nil]
    have charge := charge_toNat solvent.funded solvent.within
    refine ⟨orderly, funded, ?_, Or.inr ⟨used, ?_⟩, ?_, fun plain => ?_⟩
    · rw [spent, totals]
      exact room
    · rw [now_, List.length_singleton]
    · rw [now_, total_cons, spent, charge]
      exact Nat.add_comm _ _ ▸ Nat.add_le_add_right (Nat.zero_le _) _
    · rw [armed, total_cons, spent, charge]
      have covered := solvent.kept plain
      omega

theorem solvent_of_recorded (recorded : Recorded (turn env.logged) (admits (logged between)) (Boots env) past w) :
    Solvent env past w := by
  refine recorded_invariant (Solvent env) ?_ ?_ recorded
  · rintro _ ⟨config, accepted, now, source, exec, rfl⟩
    exact solvent_initialized config accepted now source exec
  · intro past w input _ admitted solvent
    exact solvent.turned input admitted

/-- A turn that arms a boost charges it, whatever came of it. -/
def Charges (w w' : System (Exec × Log)) : Prop :=
  w.session.active = true ∧ arms w'.exec = boostMs w :: arms w.exec ∧
    w'.assist.spentMs.toNat = w.assist.spentMs.toNat + (boostMs w).toNat

theorem Solvent.charges (solvent : Solvent env past w) (ledgered : Ledgered env w w')
    (armed : arms w'.exec ≠ arms w.exec) : Charges w w' := by
  cases ledgered with
  | kept _ _ same => exact absurd same armed
  | opened _ _ _ same => exact absurd same armed
  | attempted _ _ _ same => exact absurd same armed
  | charged running unused room spent used charged =>
    refine ⟨running, charged, ?_⟩
    rw [spent]
    exact charge_toNat solvent.funded solvent.within

/-- Nothing is given back but by a new session of a characterization. -/
theorem Solvent.retained (solvent : Solvent env past w) (ledgered : Ledgered env w w')
    (held : w.session.active = true ∨ env.policy.characterization = false) : w.assist.spentMs ≤ w'.assist.spentMs := by
  cases ledgered with
  | kept spent => exact BitVec.le_of_eq spent.symm
  | opened inactive used spent =>
    have plain := held.resolve_left fun running => absurd (running.symm.trans inactive) nofun
    rw [plain, if_neg Bool.false_ne_true] at spent
    exact BitVec.le_of_eq spent.symm
  | attempted characterized inactive =>
    rcases held with running | plain
    · exact absurd (running.symm.trans inactive) nofun
    · exact absurd (characterized.symm.trans plain) nofun
  | charged running unused room spent =>
    rw [spent, BitVec.le_def, charge_toNat solvent.funded solvent.within]
    exact Nat.le_add_right _ _

/-- The assist ledger of every run: it stays within the profile's budget and covers the boosts armed, a session arms
at most one, its full time is charged in the turn that asks for it, and only a new session of a characterization
gives anything back. -/
theorem assist_contract (recorded : Recorded (turn env.logged) (admits (logged between)) (Boots env) past w) :
    w.assist.spentMs ≤ boostTotalMs w ∧
    (sessionArms past).length ≤ 1 ∧ total (sessionArms past) ≤ w.assist.spentMs.toNat ∧
    (env.policy.characterization = false → total (arms w.exec) ≤ w.assist.spentMs.toNat) ∧
    ∀ input, admits (logged between) w input →
      (arms (turn env.logged w input).exec ≠ arms w.exec → Charges w (turn env.logged w input)) ∧
      (w.session.active = true ∨ env.policy.characterization = false →
        w.assist.spentMs ≤ (turn env.logged w input).assist.spentMs) := by
  have solvent := solvent_of_recorded recorded
  refine ⟨solvent.within, ?_, solvent.covered, solvent.kept, fun input admitted => ?_⟩
  · rcases solvent.once with none_ | one
    · rw [none_]
      exact Nat.zero_le 1
    · exact Nat.le_of_eq one.2
  · have ledgered := turn_ledgered solvent.orderly admitted
    exact ⟨solvent.charges ledgered, solvent.retained ledgered⟩

/-- A characterization with an assist of 20 percent, armed and started like the one of the bench. -/
def assistEvents : List (Event × U32) :=
  [(.boot true, 0)] ++
    ((planning [17723, 32768, 16800, 0, 16672, 0, 0, 0, 44201, 10101] [0, 1, 44201, 10101]).map fun e => (e, 2)) ++
    [(.sample (benchFrame 1 1500 3), 3), (.write 5 coilStart 0xFF00, 4), (.sample (benchFrame 2 1500 5), 5)]

def assistRun : List (Turn (System (Bool × Log)) (Input (Bool × Log))) × System (Bool × Log) :=
  play (turn Feedback.benchPlatform.logged) ([], initialized Feedback.benchPlatform.logged ⟨900, 100, 200, false⟩ true 0
    Pressure.State.Source.initial (false, ⟨[], [], []⟩)) (assistEvents.map fun e => .call e.1 e.2)

theorem assistRun_recorded : Recorded (turn Feedback.benchPlatform.logged) (admits (logged fun _ _ => False))
    (Boots Feedback.benchPlatform) assistRun.1 assistRun.2 := by
  apply recorded_play
  · intro input listed w
    obtain ⟨e, _, rfl⟩ := List.mem_map.mp listed
    trivial
  · exact .first _ ⟨⟨900, 100, 200, false⟩, true, 0, .initial, false, rfl⟩

def assistFrame : Input (Bool × Log) := .call (.sample (benchFrame 3 1500 15)) 15

theorem assist_contract_charged : Charges assistRun.2 (turn Feedback.benchPlatform.logged assistRun.2 assistFrame) :=
  ((assist_contract assistRun_recorded).2.2.2.2 assistFrame trivial).1 (by decide +kernel)

end Sd700.Runs.Assist

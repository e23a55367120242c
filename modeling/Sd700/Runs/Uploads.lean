import Sd700.Logic.Run
import Sd700.Modbus.ReadBack
import Sd700.Runs.Entries

/-! Configuration uploads of a build without plans. The active configuration changes only in a COMMIT
whose words were all staged since the last BEGIN, and is read back as it was staged. -/

namespace Sd700.Runs.Uploads
open Build.Contract Logic.Binary32 Servo.Config Servo.Controller Servo.State Servo.BuildMachine Servo.Machine
  Servo.Ledger Motor.Interface Logic.Modular Logic.Run Modbus.Protocol Modbus.ReadBack Runs.Calls Runs.Entries

variable {Exec : Type} (env : Platform Exec)

/-! ### Requests -/

/-- What a call is to an upload: an accepted BEGIN, an accepted word, an accepted COMMIT, or nothing. -/
inductive Kind
  | begun
  | staged (i : Nat) (v : U16)
  | committed
  | other
  deriving DecidableEq

def classify (a v : U16) (result : CommandResult) : Kind :=
  if result ≠ .accepted then .other
  else if a = regBegin then .begun
  else if a = regCommit then .committed
  else
    match offset regConfig configWords a with
    | some i => .staged i v
    | none => .other

def kind (e : Event) (now : U32) (w : System Exec) : Kind :=
  match e with
  | .write function a v => if function = 6 then classify a v (applyWrite env 6 a v now w).2 else .other
  | _ => .other

def kindOf (t : Turn (System Exec) (Input Exec)) : Kind :=
  match t.event with
  | .call e now => kind env e now t.before
  | .moved _ => .other

def stagedWord : List (Turn (System Exec) (Input Exec)) → Nat → Option U16
  | [], _ => none
  | t :: past, i =>
    match kindOf env t with
    | .begun => none
    | .staged j v => if j = i then some v else stagedWord past i
    | _ => stagedWord past i

def begunAt : List (Turn (System Exec) (Input Exec)) → Option U32
  | [] => none
  | t :: past => if kindOf env t = .begun then some t.before.tuning.configVersion else begunAt past

/-- The word of a register: staged for the last COMMIT, or compiled. -/
def activeWord : List (Turn (System Exec) (Input Exec)) → Nat → Option U16
  | [], i => some (tableHalf (defaultConfig env.policy).words.toList i)
  | t :: past, i => if kindOf env t = .committed then stagedWord env past i else activeWord past i

/-! ### The upload -/

structure Upload where
  config : ForceServoConfig
  configVersion : U32
  configDigest : U32
  words : Vector U16 50
  mask : U64
  version : U32

def upload (w : System Exec) : Upload :=
  ⟨w.tuning.config, w.tuning.configVersion, w.tuning.configDigest, w.staging.words, w.staging.mask, w.staging.version⟩

variable {env}

theorem upload_of_same {w w' : System Exec} (same : SameUpload (books (fun _ : Exec => ()) w) (books (fun _ => ()) w')) :
    upload w' = upload w := by
  obtain ⟨tuning, words, mask, version⟩ := same
  simp only [books] at tuning words mask version
  simp only [upload, tuning, words, mask, version]

theorem upload_of_books {w w' : System Exec} (same : books (fun _ : Exec => ()) w' = books (fun _ => ()) w) :
    upload w' = upload w := by
  apply upload_of_same
  rw [same]
  exact ⟨rfl, rfl, rfl, rfl⟩

theorem upload_of_entered {arming : U32 → Unit → Unit} {updating : DriveReply → Unit → Unit} {e : Event} {now : U32}
    {w w' : System Exec} {before : Session} {after : MachineState}
    (entered : Entered env arming updating e now (books (fun _ : Exec => ()) w) (books (fun _ => ()) w') before after)
    (unedited : ∀ function a v, e ≠ .write function a v) : upload w' = upload w :=
  upload_of_same (entered.sameUpload unedited)

/-! ### One request -/

/-- The version after `version`; there is no version 0. -/
def nextVersion (version : U32) : U32 := if version + 1 = 0 then 1 else version + 1

structure Installs (env : Platform Exec) (w w' : System Exec) : Prop where
  idle : w.state = .idle
  off : outputIsDisabled env w = true
  complete : w.staging.mask = 0x3FFFFFFFFFFFF
  current : w.staging.version = w.tuning.configVersion
  valid : profileConfigValid env.policy w.tuning.profile (stagedConfig w.staging) = true
  installed : upload w' = { upload w with
    config := stagedConfig w.staging, configDigest := digest (stagedConfig w.staging).words.toList
    configVersion := nextVersion w.tuning.configVersion }

def Effect (env : Platform Exec) (w w' : System Exec) : Kind → Prop
  | .begun => upload w' = { upload w with mask := 0, version := w.tuning.configVersion }
  | .staged i v => i < 50 ∧ upload w' = { upload w with
      words := w.staging.words.setIfInBounds i v, mask := w.staging.mask ||| 1#64 <<< i }
  | .committed => Installs env w w'
  | .other => upload w' = upload w

theorem classify_refused {a v : U16} {result : CommandResult} (refused : result ≠ .accepted) :
    classify a v result = .other := if_pos refused

theorem tick_upload (now : U32) (w : System Exec) : upload (tick env now w) = upload w :=
  upload_of_books (tick_books (overlooked env.executor) now w)

theorem selectProfile_upload (v : U16) (now : U32) (w : System Exec) :
    upload (selectProfile env v now w).1 = upload w := by
  unfold selectProfile
  split
  · rfl
  split
  · rfl
  split
  · exact tick_upload now _
  split
  · rfl
  · exact tick_upload now _

theorem setTarget_upload (units : ℤ) (now : U32) (w : System Exec) :
    upload (handleCommand env ⟨.setTarget, units⟩ now w) = upload w := by
  have published : upload (handleCommand env ⟨.setTarget, units⟩ now w) = upload (setTarget env units w).1 :=
    upload_of_books (publish_books (overlooked env.executor) now _)
  rw [published]
  unfold setTarget
  dsimp only
  split
  · rfl
  split
  · rfl
  split <;> rfl

theorem writeTarget_upload (v : U16) (now : U32) (w : System Exec) : upload (writeTarget env v now w).1 = upload w := by
  unfold writeTarget
  dsimp only
  split
  · exact tick_upload now _
  · exact setTarget_upload v.toNat now (reject _ w)

theorem commitConfig_effect (v : U16) (now : U32) (w : System Exec) :
    (commitConfig env v now w).2 ≠ .accepted ∧ upload (commitConfig env v now w).1 = upload w ∨
      (commitConfig env v now w).2 = .accepted ∧ Installs env w (commitConfig env v now w).1 := by
  unfold commitConfig
  dsimp only
  by_cases incomplete : v ≠ 0xC101 ∨ w.staging.mask ≠ 0x3FFFFFFFFFFFF ∨ w.staging.version ≠ w.tuning.configVersion
  · rw [if_pos incomplete]
    exact Or.inl ⟨nofun, rfl⟩
  rw [if_neg incomplete]
  push Not at incomplete
  by_cases valid : profileConfigValid env.policy w.tuning.profile (stagedConfig w.staging) = true
  · rw [if_neg (not_not_intro valid)]
    by_cases busy : w.state ≠ .idle ∨ w.session.active = true ∨ w.session.startPending = true ∨
        ¬outputIsDisabled env w = true
    · rw [if_pos busy]
      exact Or.inl ⟨nofun, rfl⟩
    · rw [if_neg busy]
      push Not at busy
      refine Or.inr ⟨rfl, busy.1, busy.2.2.2, incomplete.2.1, incomplete.2.2, valid, (tick_upload now _).trans ?_⟩
      simp only [upload, nextVersion]
  · rw [if_pos valid]
    exact Or.inl ⟨nofun, rfl⟩

/-- An own address from the configuration registers on is one of them. -/
theorem own_config {a : U16} (own : writeAddress env.policy 6 a = true) (plain : env.policy.characterization = false)
    (config : regConfig ≤ a) : ∃ i, offset regConfig configWords a = some i := by
  simp only [writeAddress, plain, decide_eq_true_eq] at own
  rcases own with ⟨coil, _⟩ | ⟨_, ⟨_, low⟩ | config | ⟨planned, _⟩⟩
  · exact absurd coil (by decide)
  · exact absurd (BitVec.le_trans config low) (by decide)
  · exact Option.isSome_iff_exists.mp config
  · exact absurd planned (by decide)

theorem configWrite_effect {a : U16} (own : writeAddress env.policy 6 a = true)
    (plain : env.policy.characterization = false) (v : U16) (now : U32) (w : System Exec) :
    Effect env w (configWrite env a v now w).1 (classify a v (configWrite env a v now w).2) := by
  unfold configWrite
  by_cases select : a = regProfileSelect
  · rw [if_pos select, select]
    have other : classify regProfileSelect v (selectProfile env v now w).2 = .other := by
      unfold classify
      split
      · rfl
      · rfl
    rw [other]
    exact selectProfile_upload v now w
  rw [if_neg select]
  by_cases target : a = regTargetN
  · rw [if_pos target, target]
    have other : classify regTargetN v (writeTarget env v now w).2 = .other := by
      unfold classify
      split
      · rfl
      · rfl
    rw [other]
    exact writeTarget_upload v now w
  rw [if_neg target]
  by_cases begins : a = regBegin
  · rw [if_pos begins, begins]
    split
    · rfl
    · rfl
  rw [if_neg begins]
  split
  · rfl
  by_cases config : regConfig ≤ a
  · rw [if_pos config]
    obtain ⟨i, word⟩ := own_config own plain config
    have bounds := offset_eq_some.mp word
    have index : a.toNat - regConfig.toNat = i := by omega
    have commit : ¬a = regCommit := by
      intro same
      rw [same] at config
      exact absurd config (by decide)
    have staged : classify a v .accepted = .staged i v := by
      unfold classify
      rw [if_neg (not_not_intro rfl), if_neg begins, if_neg commit, word]
    rw [index]
    dsimp only
    rw [staged]
    exact ⟨bounds.1, rfl⟩
  rw [if_neg config]
  by_cases commit : a = regCommit
  · rw [if_pos commit, commit]
    rcases commitConfig_effect v now w with ⟨refused, same⟩ | ⟨accepted, installs⟩
    · rw [classify_refused refused]
      exact same
    · rw [accepted]
      exact installs
  · rw [if_neg commit]
    rfl

theorem command_upload (c : Command) (now : U32) (w : System Exec) : upload (handleCommand env c now w) = upload w := by
  have entered := @command_entered _ _ _ _ _ _ (overlooked env.executor) now .tick w (steady w) c w.state
  exact upload_of_entered entered nofun

theorem classify_other {a : U16} (begins : a ≠ regBegin) (commit : a ≠ regCommit)
    (config : offset regConfig configWords a = none) (v : U16) (result : CommandResult) :
    classify a v result = .other := by
  unfold classify
  rw [if_neg begins, if_neg commit, config]
  split <;> rfl

theorem servoWrite_effect {a : U16} (own : writeAddress env.policy 6 a = true)
    (plain : env.policy.characterization = false) (v : U16) (now : U32) (w : System Exec) :
    Effect env w (servoWrite env 6 a v now w).1 (classify a v (servoWrite env 6 a v now w).2) := by
  unfold servoWrite
  rw [if_neg (by decide)]
  by_cases snapshot : a = regSnapshot
  · rw [if_pos snapshot, snapshot, classify_other (by decide) (by decide) (by decide)]
    unfold freeze
    split <;> rfl
  rw [if_neg snapshot]
  split
  · exact rfl
  rw [plain, if_neg Bool.false_ne_true]
  exact configWrite_effect own plain v now w

theorem write_effect (plain : env.policy.characterization = false) (a v : U16) (now : U32) (w : System Exec) :
    Effect env w (applyWrite env 6 a v now w).1 (classify a v (applyWrite env 6 a v now w).2) := by
  unfold applyWrite
  by_cases own : writeAddress env.policy 6 a = true
  · rw [if_pos own]
    exact servoWrite_effect own plain v now w
  rw [if_neg own]
  by_cases target : (6 : BitVec 8) = 6 ∧ a = 0
  · rw [if_pos target, target.2, classify_other (by decide) (by decide) (by decide)]
    exact command_upload _ now w
  rw [if_neg target, if_neg (fun coil => absurd coil.1 (by decide))]
  exact rfl

theorem coil_upload {function : BitVec 8} (coil : function ≠ 6) (a v : U16) (now : U32) (w : System Exec) :
    upload (applyWrite env function a v now w).1 = upload w := by
  unfold applyWrite
  split
  · rename_i own
    have five : function = 5 := by
      simp only [writeAddress, coil, false_and, or_false, decide_eq_true_eq] at own
      exact own.1
    unfold servoWrite
    rw [if_pos five]
    split
    · rfl
    · exact command_upload _ now w
  rw [if_neg fun target => coil target.1]
  split
  · split
    · rfl
    · exact command_upload _ now w
  · rfl

theorem call_effect (plain : env.policy.characterization = false) (e : Event) (now : U32) (w : System Exec) :
    Effect env w (call env e now w) (kind env e now w) := by
  cases e with
  | write function a v =>
    by_cases six : function = 6
    · rw [six]
      exact write_effect plain a v now w
    · have other : kind env (.write function a v) now w = .other := if_neg six
      rw [other]
      exact coil_upload six a v now w
  | boot checks => exact upload_of_entered (call_entered (overlooked env.executor) _ (steady w)) nofun
  | report f detail => exact upload_of_entered (call_entered (overlooked env.executor) _ (steady w)) nofun
  | sample p => exact upload_of_entered (call_entered (overlooked env.executor) _ (steady w)) nofun
  | command c => exact upload_of_entered (call_entered (overlooked env.executor) _ (steady w)) nofun
  | read f address quantity => exact upload_of_entered (call_entered (overlooked env.executor) _ (steady w)) nofun
  | tick => exact upload_of_entered (call_entered (overlooked env.executor) _ (steady w)) nofun
  | service => exact upload_of_entered (call_entered (overlooked env.executor) _ (steady w)) nofun
  | safety => exact upload_of_entered (call_entered (overlooked env.executor) _ (steady w)) nofun

theorem turn_effect (plain : env.policy.characterization = false) (input : Input Exec) (w : System Exec) :
    Effect env w (turn env w input) (kindOf env ⟨w, input, turn env w input⟩) := by
  cases input with
  | call e now => exact call_effect plain e now w
  | moved x => exact rfl

/-! ### Runs -/

/-- The record of a run accounts for the upload: the version of the last BEGIN, the words staged since
as far as the mask shows them, and the words of the last COMMIT. -/
structure Recounts (env : Platform Exec) (past : List (Turn (System Exec) (Input Exec))) (w : System Exec) : Prop where
  digested : w.tuning.configDigest = digest w.tuning.config.words.toList
  numbered : w.tuning.configVersion ≠ 0
  unbegun : begunAt env past = none → w.staging.version = 0
  begun : ∀ version, begunAt env past = some version → w.staging.version = version ∧
    ∀ i (inside : i < 50), w.staging.mask.getLsbD i = true → stagedWord env past i = some w.staging.words[i]
  active : ∀ i, i < 50 → activeWord env past i = some (tableHalf w.tuning.config.words.toList i)

theorem recounts_initialized (config : MachineConfig) (accepted : Bool) (now : U32) (source : Pressure.State.Source)
    (exec : Exec) : Recounts env [] (initialized env config accepted now source exec) := by
  have tuning : (initialized env config accepted now source exec).tuning =
      ⟨defaultConfig env.policy, liveProfile env.policy, 1, digest (defaultConfig env.policy).words.toList⟩ := by
    unfold initialized publish
    split <;> rfl
  have version : (initialized env config accepted now source exec).staging.version = 0 := by
    unfold initialized publish
    split <;> rfl
  have unbegun : begunAt env [] = none := rfl
  refine ⟨?_, ?_, fun _ => version, fun _ begun => absurd (unbegun.symm.trans begun) nofun, ?_⟩
  · rw [tuning]
  · rw [tuning]
    exact (by decide : (1 : U32) ≠ 0)
  · intro i _
    rw [tuning]
    rfl

/-- The words a COMMIT decodes are read back as they were staged. -/
theorem tableHalf_staged (s : Staging) {i : Nat} (inside : i < 50) :
    tableHalf (stagedConfig s).words.toList i = s.words[i] := by
  have word : (stagedConfig s).words.toList[i / 2]?.getD 0 =
      word32 s.words[2 * (i / 2)] s.words[2 * (i / 2) + 1] := by
    rw [Vector.getElem?_toList, Vector.getElem?_eq_getElem (by omega), Option.getD_some, stagedConfig]
    dsimp only
    rw [Vector.getElem_ofFn]
    rfl
  unfold tableHalf half
  rw [word]
  unfold word32
  by_cases even : i % 2 = 0
  · rw [if_pos even]
    have same : 2 * (i / 2) = i := by omega
    simp only [same]
    exact BitVec.extractLsb'_append_eq_left ..
  · rw [if_neg even]
    have same : 2 * (i / 2) + 1 = i := by omega
    simp only [same]
    exact BitVec.extractLsb'_append_eq_right ..

theorem complete_bit (i : Nat) (inside : i < 50) : (0x3FFFFFFFFFFFF : U64).getLsbD i = true := by
  have bits : ∀ i : Fin 50, (0x3FFFFFFFFFFFF : U64).getLsbD i = true := by decide
  exact bits ⟨i, inside⟩

theorem mask_bit (mask : U64) {i j : Nat} (marked : (mask ||| 1#64 <<< i).getLsbD j = true) :
    i = j ∨ mask.getLsbD j = true := by
  rw [BitVec.getLsbD_or, Bool.or_eq_true, BitVec.getLsbD_shiftLeft, BitVec.getLsbD_one] at marked
  rcases marked with before | now
  · exact Or.inr before
  · simp only [Bool.and_eq_true, Bool.not_eq_true', decide_eq_true_eq, decide_eq_false_iff_not] at now
    exact Or.inl (by omega)

variable {past : List (Turn (System Exec) (Input Exec))} {w w' : System Exec} {t : Turn (System Exec) (Input Exec)}

theorem recounts_other (kept : Recounts env past w) (kind : kindOf env t = .other) (same : upload w' = upload w) :
    Recounts env (t :: past) w' := by
  simp only [upload, Upload.mk.injEq] at same
  obtain ⟨config, number, digested, words, mask, version⟩ := same
  have staged : stagedWord env (t :: past) = stagedWord env past := by
    funext i
    rw [stagedWord, kind]
  have begun : begunAt env (t :: past) = begunAt env past := by
    rw [begunAt, kind, if_neg nofun]
  have active : activeWord env (t :: past) = activeWord env past := by
    funext i
    rw [activeWord, kind, if_neg nofun]
  constructor
  · rw [digested, config]
    exact kept.digested
  · rw [number]
    exact kept.numbered
  · rw [begun, version]
    exact kept.unbegun
  · rw [begun, staged, version, words, mask]
    exact kept.begun
  · rw [active, config]
    exact kept.active

theorem recounts_begun (kept : Recounts env past w) (before : t.before = w) (kind : kindOf env t = .begun)
    (same : upload w' = { upload w with mask := 0, version := w.tuning.configVersion }) :
    Recounts env (t :: past) w' := by
  simp only [upload, Upload.mk.injEq] at same
  obtain ⟨config, number, digested, words, mask, version⟩ := same
  have begun : begunAt env (t :: past) = some w.tuning.configVersion := by
    rw [begunAt, if_pos kind, before]
  have active : activeWord env (t :: past) = activeWord env past := by
    funext i
    rw [activeWord, kind, if_neg nofun]
  constructor
  · rw [digested, config]
    exact kept.digested
  · rw [number]
    exact kept.numbered
  · rw [begun]
    exact nofun
  · intro number begins
    refine ⟨version.trans (Option.some.inj (begun.symm.trans begins)), fun i _ marked => ?_⟩
    rw [mask, BitVec.ofNat_eq_ofNat, BitVec.getLsbD_zero] at marked
    exact absurd marked nofun
  · rw [active, config]
    exact kept.active

theorem recounts_staged (kept : Recounts env past w) {i : Nat} {v : U16} (kind : kindOf env t = .staged i v)
    (same : upload w' = { upload w with
      words := w.staging.words.setIfInBounds i v, mask := w.staging.mask ||| 1#64 <<< i }) :
    Recounts env (t :: past) w' := by
  simp only [upload, Upload.mk.injEq] at same
  obtain ⟨config, number, digested, words, mask, version⟩ := same
  have begun : begunAt env (t :: past) = begunAt env past := by
    rw [begunAt, kind, if_neg nofun]
  have active : activeWord env (t :: past) = activeWord env past := by
    funext i
    rw [activeWord, kind, if_neg nofun]
  constructor
  · rw [digested, config]
    exact kept.digested
  · rw [number]
    exact kept.numbered
  · rw [begun, version]
    exact kept.unbegun
  · rw [begun, version, words, mask]
    intro number begins
    refine ⟨(kept.begun number begins).1, fun j inside marked => ?_⟩
    unfold stagedWord
    rw [kind]
    dsimp only
    rw [Vector.getElem_setIfInBounds]
    by_cases here : i = j
    · rw [if_pos here, if_pos here]
    · rw [if_neg here, if_neg here]
      exact (kept.begun number begins).2 j inside ((mask_bit _ marked).resolve_left here)
  · rw [active, config]
    exact kept.active

/-- What a COMMIT takes over was all staged since the last BEGIN. -/
theorem staged_of_complete (kept : Recounts env past w) (complete : w.staging.mask = 0x3FFFFFFFFFFFF)
    (current : w.staging.version = w.tuning.configVersion) :
    begunAt env past = some w.tuning.configVersion ∧
      ∀ i (inside : i < 50), stagedWord env past i = some w.staging.words[i] := by
  cases begins : begunAt env past with
  | none => exact absurd (current.symm.trans (kept.unbegun begins)) kept.numbered
  | some number =>
    have begun := kept.begun number begins
    refine ⟨congrArg some (begun.1.symm.trans current), fun i inside => begun.2 i inside ?_⟩
    rw [complete]
    exact complete_bit i inside

theorem recounts_committed (kept : Recounts env past w) (kind : kindOf env t = .committed)
    (installs : Installs env w w') : Recounts env (t :: past) w' := by
  have staged := (staged_of_complete kept installs.complete installs.current).2
  have same := installs.installed
  simp only [upload, Upload.mk.injEq] at same
  obtain ⟨config, number, digested, words, mask, version⟩ := same
  have still : stagedWord env (t :: past) = stagedWord env past := by
    funext i
    rw [stagedWord, kind]
  have begun : begunAt env (t :: past) = begunAt env past := by
    rw [begunAt, kind, if_neg nofun]
  constructor
  · rw [digested, config]
  · rw [number, nextVersion]
    split
    · exact nofun
    · assumption
  · rw [begun, version]
    exact kept.unbegun
  · rw [begun, still, version, words, mask]
    exact kept.begun
  · intro i inside
    rw [activeWord, if_pos kind, staged i inside, config, tableHalf_staged _ inside]

theorem recounts_turn (plain : env.policy.characterization = false) (input : Input Exec)
    (kept : Recounts env past w) : Recounts env (⟨w, input, turn env w input⟩ :: past) (turn env w input) := by
  have effect := turn_effect plain input w
  cases kind : kindOf env ⟨w, input, turn env w input⟩ with
  | begun =>
    rw [kind] at effect
    exact recounts_begun kept rfl kind effect
  | staged i v =>
    rw [kind] at effect
    exact recounts_staged kept kind effect.2
  | committed =>
    rw [kind] at effect
    exact recounts_committed kept kind effect
  | other =>
    rw [kind] at effect
    exact recounts_other kept kind effect

theorem recounts_of_recorded {between : Exec → Exec → Prop} (plain : env.policy.characterization = false)
    (recorded : Recorded (turn env) (admits between) (Boots env) past w) : Recounts env past w := by
  refine recorded_invariant (Recounts env) ?_ ?_ recorded
  · rintro _ ⟨config, accepted, now, source, exec, rfl⟩
    exact recounts_initialized config accepted now source exec
  · intro past w input _ _ kept
    exact recounts_turn plain input kept

/-! ### Reads -/

def decoded (words : Vector U16 50) : ForceServoConfig :=
  stagedConfig ⟨words, 0, 0, false⟩

def encoded (config : ForceServoConfig) : Vector U16 50 :=
  Vector.ofFn fun i => tableHalf config.words.toList i

theorem word32_half (u : U32) : word32 (half 0 u) (half 1 u) = u := by
  apply BitVec.eq_of_toNat_eq
  have bound := u.isLt
  have high : (half 0 u).toNat = u.toNat / 2 ^ 16 % 2 ^ 16 := by
    rw [half, if_pos rfl, BitVec.extractLsb'_toNat, Nat.shiftRight_eq_div_pow]
  have low : (half 1 u).toNat = u.toNat % 2 ^ 16 := by
    rw [half, if_neg (by decide), BitVec.extractLsb'_toNat, Nat.shiftRight_zero]
  rw [word32, BitVec.toNat_append, ← Nat.shiftLeft_add_eq_or_of_lt (half 1 u).isLt, Nat.shiftLeft_eq, high, low]
  omega

theorem decoded_word (words : Vector U16 50) {i : Nat} (inside : i < 25) :
    (decoded words).words[i] = word32 words[2 * i] words[2 * i + 1] :=
  Vector.getElem_ofFn inside

theorem encoded_word (config : ForceServoConfig) {i : Nat} (inside : i < 50) :
    (encoded config)[i] = tableHalf config.words.toList i :=
  Vector.getElem_ofFn inside

theorem decoded_encoded (config : ForceServoConfig) : decoded (encoded config) = config := by
  have words : (decoded (encoded config)).words = config.words := by
    ext i inside
    have high : tableHalf config.words.toList (2 * i) = half 0 config.words[i] := by
      rw [tableHalf, Nat.mul_div_cancel_left i (by decide), Vector.getElem?_toList, Vector.getElem?_eq_getElem inside]
      unfold half
      rw [Nat.mul_mod_right]
      rfl
    have low : tableHalf config.words.toList (2 * i + 1) = half 1 config.words[i] := by
      have index : (2 * i + 1) / 2 = i := by omega
      have odd : (2 * i + 1) % 2 = 1 := by omega
      rw [tableHalf, index, Vector.getElem?_toList, Vector.getElem?_eq_getElem inside]
      unfold half
      rw [odd]
      rfl
    rw [decoded_word _ inside, encoded_word _ (by omega), encoded_word _ (by omega), high, low, word32_half]
  exact congrArg ForceServoConfig.mk words

/-- A configuration register reads as its half of the active configuration. -/
theorem readHolding_config {i : Nat} (inside : i < 50) {a : U16} (here : a.toNat = regConfig.toNat + i)
    (w : System Exec) :
    readHolding env a w = (w, some (tableHalf w.tuning.config.words.toList i)) := by
  have base : regConfig.toNat = 272 := rfl
  have apart (from_ : U16) (count : Nat) (high : 322 ≤ from_.toNat) : offset from_ count a = none :=
    offset_eq_none.mpr (Or.inl (by omega))
  have own : offset regConfig configWords a = some i := offset_eq_some.mpr ⟨inside, here⟩
  have select : a ≠ regProfileSelect := by
    rintro rfl
    revert own
    simp [offset, regConfig, regProfileSelect, configWords]
  have target : a ≠ regTargetN := by
    rintro rfl
    revert own
    simp [offset, regConfig, regTargetN, configWords]
  unfold readHolding readServoHolding plainHolding
  rw [apart regPlanActive 12 (by decide), apart regBuildConfig _ (by decide), apart regCandidates _ (by decide),
    apart regProfile _ (by decide), if_neg select, if_neg target, own]
  rfl

theorem readLoop_config (now : U32) (count : Nat) {first : Nat} (inside : first + count ≤ 50) (values : List U16)
    (w : System Exec) :
    readLoop env .holding now (regConfig.toNat + first) count values w =
      (w, .words (values ++ (List.range' first count).map (tableHalf w.tuning.config.words.toList))) := by
  have base : regConfig.toNat = 272 := rfl
  induction count generalizing first values with
  | zero => rw [readLoop, List.range'_zero, List.map_nil, List.append_nil]
  | succ count ih =>
    have here : (BitVec.ofNat 16 (regConfig.toNat + first)).toNat = regConfig.toNat + first := by
      rw [BitVec.toNat_ofNat]
      omega
    have read : readRegister env .holding (regConfig.toNat + first) now w =
        (w, some (tableHalf w.tuning.config.words.toList first)) := by
      unfold readRegister
      rw [if_neg (by omega)]
      exact readHolding_config (by omega) here w
    unfold readLoop
    rw [read]
    dsimp only
    rw [Nat.add_assoc, ih (by omega), List.range'_succ, List.map_cons, List.append_assoc]
    rfl

theorem processRead_config (now : U32) {first count : Nat} (some_ : 0 < count) (few : count ≤ maxReadRegisters)
    (inside : first + count ≤ 50) (w : System Exec) :
    processRead env .holding (regConfig + BitVec.ofNat 16 first) (BitVec.ofNat 16 count) now w =
      (w, .words ((List.range' first count).map (tableHalf w.tuning.config.words.toList))) := by
  have few' : count ≤ 11 := few
  have counted : (BitVec.ofNat 16 count).toNat = count := by
    rw [BitVec.toNat_ofNat]
    omega
  have address : (regConfig + BitVec.ofNat 16 first).toNat = regConfig.toNat + first := by
    rw [BitVec.toNat_add, BitVec.toNat_ofNat]
    have base : regConfig.toNat = 272 := rfl
    omega
  have served : ¬(BitVec.ofNat 16 count = 0 ∨ maxReadRegisters < (BitVec.ofNat 16 count).toNat) := by
    rw [counted]
    rintro (zero | many)
    · have none_ := congrArg BitVec.toNat zero
      rw [counted] at none_
      exact absurd none_ (by simp; omega)
    · omega
  unfold processRead
  rw [if_neg served, address, counted, readLoop_config now count inside, List.nil_append]

theorem readInput_digest (now : U32) (w : System Exec) :
    readInput env (inputInfo + 6) now w = some (half 0 w.tuning.configDigest) ∧
      readInput env (inputInfo + 7) now w = some (half 1 w.tuning.configDigest) := by
  have apart (i : Nat) (low : i < 8) : offset inputSnapshot (diagnosticCount env.policy) (inputInfo + BitVec.ofNat 16 i) = none := by
    apply offset_eq_none.mpr
    rw [BitVec.toNat_add, BitVec.toNat_ofNat]
    have info : inputInfo.toNat = 256 := rfl
    have snapshot : inputSnapshot.toNat = 512 := rfl
    omega
  unfold readInput
  rw [show (6 : U16) = BitVec.ofNat 16 6 from rfl, show (7 : U16) = BitVec.ofNat 16 7 from rfl,
    apart 6 (by decide), apart 7 (by decide)]
  exact ⟨rfl, rfl⟩

/-! ### The contract -/

/-- Some register words are the active configuration to every reader. -/
structure Reports (env : Platform Exec) (words : Vector U16 50) (w : System Exec) : Prop where
  registers : ∀ now first count, 0 < count → count ≤ maxReadRegisters → first + count ≤ 50 →
    processRead env .holding (regConfig + BitVec.ofNat 16 first) (BitVec.ofNat 16 count) now w =
      (w, .words ((words.toList.drop first).take count))
  digestHigh : ∀ now, readInput env (inputInfo + 6) now w = some (half 0 (digest (decoded words).words.toList))
  digestLow : ∀ now, readInput env (inputInfo + 7) now w = some (half 1 (digest (decoded words).words.toList))

structure Replaces (env : Platform Exec) (past : List (Turn (System Exec) (Input Exec))) (words : Vector U16 50)
    (w w' : System Exec) : Prop where
  idle : w.state = .idle
  off : outputIsDisabled env w = true
  begun : begunAt env past = some w.tuning.configVersion
  staged : ∀ i (inside : i < 50), stagedWord env past i = some words[i]
  valid : profileConfigValid env.policy w.tuning.profile (decoded words) = true
  config : w'.tuning.config = decoded words
  configDigest : w'.tuning.configDigest = digest (decoded words).words.toList
  version : w'.tuning.configVersion = nextVersion w.tuning.configVersion
  reports : Reports env words w'

def Retains (w w' : System Exec) : Prop :=
  w'.tuning.config = w.tuning.config ∧ w'.tuning.configVersion = w.tuning.configVersion ∧
    w'.tuning.configDigest = w.tuning.configDigest

theorem encoded_range (config : ForceServoConfig) {first count : Nat} (inside : first + count ≤ 50) :
    (List.range' first count).map (tableHalf config.words.toList) =
      ((encoded config).toList.drop first).take count := by
  apply List.ext_getElem
  · rw [List.length_map, List.length_range', List.length_take, List.length_drop, Vector.length_toList]
    omega
  · intro i left right
    rw [List.length_map, List.length_range'] at left
    rw [List.getElem_map, List.getElem_range', List.getElem_take, List.getElem_drop, Vector.getElem_toList,
      encoded_word config (by omega), Nat.one_mul]

theorem reports_encoded (digested : w.tuning.configDigest = digest w.tuning.config.words.toList) :
    Reports env (encoded w.tuning.config) w where
  registers now first count some_ few inside := by
    rw [processRead_config now some_ few inside, encoded_range _ inside]
  digestHigh now := by
    rw [(readInput_digest now w).1, digested, decoded_encoded]
  digestLow now := by
    rw [(readInput_digest now w).2, digested, decoded_encoded]

theorem retains_of_effect {k : Kind} (effect : Effect env w w' k) (kept : k ≠ .committed) : Retains w w' := by
  cases k with
  | begun =>
    simp only [Effect, upload, Upload.mk.injEq] at effect
    exact ⟨effect.1, effect.2.1, effect.2.2.1⟩
  | staged i v =>
    simp only [Effect, upload, Upload.mk.injEq] at effect
    exact ⟨effect.2.1, effect.2.2.1, effect.2.2.2.1⟩
  | committed => exact absurd rfl kept
  | other =>
    simp only [Effect, upload, Upload.mk.injEq] at effect
    exact ⟨effect.1, effect.2.1, effect.2.2.1⟩

theorem replaces_of_installs (kept : Recounts env past w) (installs : Installs env w w') :
    Replaces env past w.staging.words w w' := by
  have staged := staged_of_complete kept installs.complete installs.current
  have same := installs.installed
  simp only [upload, Upload.mk.injEq] at same
  have words : encoded w'.tuning.config = w.staging.words := by
    rw [same.1]
    ext i inside
    rw [encoded_word _ inside, tableHalf_staged _ inside]
  have digested : w'.tuning.configDigest = digest w'.tuning.config.words.toList := by
    rw [same.2.2.1, same.1]
  have reports : Reports env (encoded w'.tuning.config) w' := reports_encoded digested
  rw [words] at reports
  exact ⟨installs.idle, installs.off, staged.1, staged.2, installs.valid, same.1, same.2.2.1, same.2.1, reports⟩

/-- After every run without plans, only an accepted COMMIT replaces the active configuration, by the words staged
since a BEGIN at its version; and what is active is what the registers and the digest show. -/
theorem upload_contract {between : Exec → Exec → Prop} (plain : env.policy.characterization = false)
    {past : List (Turn (System Exec) (Input Exec))} {w : System Exec}
    (recorded : Recorded (turn env) (admits between) (Boots env) past w) :
    (∀ input,
      (kindOf env ⟨w, input, turn env w input⟩ = .committed → ∃ words, Replaces env past words w (turn env w input)) ∧
      (kindOf env ⟨w, input, turn env w input⟩ ≠ .committed → Retains w (turn env w input))) ∧
    ∃ words : Vector U16 50, (∀ i (inside : i < 50), activeWord env past i = some words[i]) ∧ Reports env words w := by
  have kept := recounts_of_recorded plain recorded
  refine ⟨fun input => ⟨fun committed => ?_, fun other => ?_⟩, encoded w.tuning.config, fun i inside => ?_, ?_⟩
  · have effect := turn_effect plain input w
    rw [committed] at effect
    exact ⟨w.staging.words, replaces_of_installs kept effect⟩
  · exact retains_of_effect (turn_effect plain input w) other
  · rw [kept.active i inside, encoded_word _ inside]
  · exact reports_encoded kept.digested

def lockedPlatform : Platform Unit := { idlePlatform with policy := .locked }

def uploadEvents : List (Input Unit) :=
  [.call (.boot true) 0, .call (.write 6 regBegin 0xB101) 1] ++
    ((encoded (defaultConfig .locked)).toList.zipIdx.map fun word =>
      .call (.write 6 (regConfig + BitVec.ofNat 16 word.2) word.1) 2)

def uploadRun : List (Turn (System Unit) (Input Unit)) × System Unit :=
  play (turn lockedPlatform) ([], initialized lockedPlatform ⟨0, 0, 0, false⟩ true 0 .initial ()) uploadEvents

theorem uploadRun_recorded :
    Recorded (turn lockedPlatform) (admits fun _ _ => True) (Boots lockedPlatform) uploadRun.1 uploadRun.2 := by
  apply recorded_play
  · intro input _ w
    cases input <;> trivial
  · exact .first _ ⟨⟨0, 0, 0, false⟩, true, 0, .initial, (), rfl⟩

theorem upload_contract_committed : ∃ words, Replaces lockedPlatform uploadRun.1 words uploadRun.2
    (turn lockedPlatform uploadRun.2 (.call (.write 6 regCommit 0xC101) 3)) :=
  ((upload_contract rfl uploadRun_recorded).1 _).1 (by decide +kernel)

end Sd700.Runs.Uploads

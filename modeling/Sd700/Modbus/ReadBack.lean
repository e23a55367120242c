import Sd700.Modbus.Protocol

/-! Read requests and the evidence they leave. Reading the active plan marks its words one by one,
before the rest of the range is known to be readable, so a request that runs off the end of the
block is answered with an exception and still marks words that were never returned. -/

namespace Sd700.Modbus.ReadBack
open Build.Contract Servo.Config Servo.State Servo.Machine Motor.Interface Protocol

variable {Exec : Type} (env : Platform Exec)

/-! ### One register -/

theorem offset_eq_some {base : U16} {count i : Nat} {a : U16} :
    offset base count a = some i ↔ i < count ∧ a.toNat = base.toNat + i := by
  simp only [offset, BitVec.le_def]
  split_ifs with inside
  · rw [Option.some.injEq]
    omega
  · simp only [false_iff]
    omega

theorem offset_eq_none {base : U16} {count : Nat} {a : U16} :
    offset base count a = none ↔ a.toNat < base.toNat ∨ base.toNat + count ≤ a.toNat := by
  rw [offset, ite_eq_right_iff]
  simp only [BitVec.le_def, reduceCtorEq, imp_false]
  omega

theorem readHolding_plan (characterized : env.policy.characterization = true) {a : U16} {i : Nat}
    (word : offset regPlanActive 12 a = some i) (w : System Exec) :
    readHolding env a w = (markRead i w, some (activePlanWord w.plan i)) := by
  simp only [readHolding, readServoHolding, word, characterized, if_true]

theorem readHolding_plain {a : U16} (w : System Exec)
    (plain : env.policy.characterization = false ∨ offset regPlanActive 12 a = none) :
    (readHolding env a w).1 = w := by
  have served : (readServoHolding env a w).1 = w := by
    unfold readServoHolding
    rcases plain with locked | outside
    · cases offset regPlanActive 12 a <;> simp [locked]
    · rw [outside]
  unfold readHolding
  split <;> simp_all

/-- The two addresses next to the block of the active plan are not readable. -/
theorem readHolding_gap {a : U16} (gap : a = 0x53F ∨ a = 0x54C) (w : System Exec) :
    readHolding env a w = (w, none) := by
  rcases gap with rfl | rfl
  all_goals
    simp only [readHolding, readServoHolding, plainHolding, offset, regPlanActive, regBuildConfig,
      regCandidates, regProfile, regConfig, regProfileSelect, regTargetN, buildConfigWords,
      profileWords, configWords]
    simp

theorem readInput_register (candidate : Nat) (now : U32) (w : System Exec) :
    (readRegister env .input candidate now w).1 = w := by
  unfold readRegister
  split_ifs <;> rfl

/-- A register outside the block of the active plan leaves the context alone. -/
theorem readRegister_plain {f : ReadFunction} {candidate : Nat} {now : U32} (w : System Exec)
    (plain : env.policy.characterization = false ∨ f = .input ∨ candidate < 0x540 ∨ 0x54C ≤ candidate) :
    (readRegister env f candidate now w).1 = w := by
  cases f with
  | input => exact readInput_register env candidate now w
  | holding =>
    unfold readRegister
    split_ifs with past
    · rfl
    · apply readHolding_plain
      rcases plain with locked | wrong | outside
      · exact .inl locked
      · cases wrong
      · right
        rw [offset_eq_none, BitVec.toNat_ofNat, Nat.mod_eq_of_lt (by omega)]
        exact outside

theorem readRegister_plan (characterized : env.policy.characterization = true) {i : Nat} (inside : i < 12)
    (now : U32) (w : System Exec) :
    readRegister env .holding (0x540 + i) now w = (markRead i w, some (activePlanWord w.plan i)) := by
  unfold readRegister
  rw [if_neg (by omega)]
  apply readHolding_plan env characterized
  rw [offset_eq_some, BitVec.toNat_ofNat, Nat.mod_eq_of_lt (by omega)]
  exact ⟨inside, rfl⟩

/-! ### The loop -/

/-- A build without plans, and an input request, never change the context. -/
theorem readLoop_plain {f : ReadFunction} (now : U32)
    (plain : env.policy.characterization = false ∨ f = .input) (candidate count : Nat)
    (values : List U16) (w : System Exec) :
    (readLoop env f now candidate count values w).1 = w := by
  induction count generalizing candidate values with
  | zero => rfl
  | succ count ih =>
    have kept := @readRegister_plain Exec env f candidate now w (plain.imp_right .inl)
    unfold readLoop
    generalize readRegister env f candidate now w = read at kept
    obtain ⟨after, value⟩ := read
    subst kept
    cases value with
    | none => rfl
    | some value => exact ih (candidate + 1) (values ++ [value])

/-- A request that starts outside the block never gets into it. -/
theorem readLoop_outside {f : ReadFunction} (now : U32) (candidate count : Nat) (values : List U16)
    (w : System Exec) (outside : candidate < 0x540 ∨ 0x54C ≤ candidate) :
    (readLoop env f now candidate count values w).1 = w := by
  by_cases holding : f = .holding
  swap
  · exact readLoop_plain env now (.inr (by cases f <;> simp_all)) candidate count values w
  subst holding
  induction count generalizing candidate values with
  | zero => rfl
  | succ count ih =>
    by_cases before : candidate = 0x53F
    · unfold readLoop readRegister
      subst before
      have refused : readHolding env (BitVec.ofNat 16 0x53F) w = (w, none) :=
        readHolding_gap env (.inl rfl) w
      rw [if_neg (by omega)]
      simp only [refused]
    · have kept := @readRegister_plain Exec env .holding candidate now w (.inr (.inr outside))
      unfold readLoop
      generalize readRegister env .holding candidate now w = read at kept
      obtain ⟨after, value⟩ := read
      subst kept
      cases value with
      | none => rfl
      | some value => exact ih (candidate + 1) (values ++ [value]) (by omega)

/-- The marks of `count` words from `i` on. -/
def markFrom (i : Nat) : Nat → System Exec → System Exec
  | 0, w => w
  | count + 1, w => markFrom (i + 1) count (markRead i w)

theorem readLoop_inside (characterized : env.policy.characterization = true) (now : U32)
    (i count : Nat) (values : List U16) (w : System Exec) (fits : i + count ≤ 12) :
    ∃ answer, readLoop env .holding now (0x540 + i) count values w = (markFrom i count w, .words answer) := by
  induction count generalizing i values w with
  | zero => exact ⟨values, rfl⟩
  | succ count ih =>
    unfold readLoop
    rw [readRegister_plan env characterized (by omega)]
    exact ih (i + 1) (values ++ [activePlanWord w.plan i]) (markRead i w) (by omega)

/-- Past the end of the block the request fails, with every word up to there marked. -/
theorem readLoop_overrun (characterized : env.policy.characterization = true) (now : U32)
    (i count : Nat) (values : List U16) (w : System Exec) (inside : i < 12) (beyond : 12 < i + count) :
    readLoop env .holding now (0x540 + i) count values w = (markFrom i (12 - i) w, .exception 2) := by
  induction count generalizing i values w with
  | zero => omega
  | succ count ih =>
    unfold readLoop
    rw [readRegister_plan env characterized inside]
    by_cases last : i = 11
    · subst last
      obtain ⟨rest, rfl⟩ : ∃ rest, count = rest + 1 := ⟨count - 1, by omega⟩
      simp only [readLoop, readRegister]
      have refused : readHolding env (BitVec.ofNat 16 0x54C) (markRead 11 w) = (markRead 11 w, none) :=
        readHolding_gap env (.inr rfl) _
      rw [if_neg (by omega), refused]
      rfl
    · rw [show 12 - i = (12 - (i + 1)) + 1 by omega]
      exact ih (i + 1) (values ++ [activePlanWord w.plan i]) (markRead i w) (by omega) (by omega)

/-! ### Marks -/

theorem bit16_getLsbD (i j : Nat) (small : j < 16) : (bit16 i).getLsbD j = decide (i = j) := by
  rw [bit16, BitVec.getLsbD_shiftLeft, BitVec.getLsbD_one]
  by_cases same : i = j
  · simp [same, small]
  · by_cases below : j < i
    · simp [same, below]
    · simp [same]
      omega

theorem markRead_bit (i j : Nat) (small : j < 16) (w : System Exec) :
    (markRead i w).plan.readMask.getLsbD j = (w.plan.readMask.getLsbD j || decide (i = j)) := by
  rw [← bit16_getLsbD i j small]
  exact BitVec.getLsbD_or

theorem markFrom_bit (i count j : Nat) (small : j < 16) (w : System Exec) :
    (markFrom i count w).plan.readMask.getLsbD j =
      (w.plan.readMask.getLsbD j || decide (i ≤ j ∧ j < i + count)) := by
  induction count generalizing i w with
  | zero => simp [markFrom]
  | succ count ih =>
    rw [markFrom, ih, markRead_bit i j small, Bool.or_assoc]
    congr 1
    by_cases same : i = j
    · simp [same]
    · by_cases inside : i ≤ j ∧ j < i + (count + 1)
      · simp [same, inside]; omega
      · simp [same, inside]; omega

theorem markRead_of_bit {i : Nat} {w : System Exec}
    (marked : w.plan.readMask.getLsbD i = true) : markRead i w = w := by
  have same : w.plan.readMask ||| bit16 i = w.plan.readMask := by
    apply BitVec.eq_of_getLsbD_eq
    intro j below
    have bit := markRead_bit i j below w
    simp only [markRead] at bit
    rw [bit]
    by_cases here : i = j
    · subst here
      simp [marked]
    · simp [here]
  rw [markRead, same]

theorem markFrom_of_bits {i count : Nat} {w : System Exec}
    (marked : ∀ j, i ≤ j → j < i + count → w.plan.readMask.getLsbD j = true) :
    markFrom i count w = w := by
  induction count generalizing i with
  | zero => rfl
  | succ count ih =>
    rw [markFrom, markRead_of_bit (marked i (le_refl i) (by omega))]
    exact ih (fun j lower upper => marked j (by omega) (by omega))

theorem markFrom_eq_iff {i count : Nat} (small : i + count ≤ 16) {w : System Exec} :
    markFrom i count w = w ↔ ∀ j, i ≤ j → j < i + count → w.plan.readMask.getLsbD j = true := by
  refine ⟨fun same j lower upper => ?_, markFrom_of_bits⟩
  have bit := markFrom_bit i count j (by omega) w
  rw [same] at bit
  simpa [lower, upper] using bit

/-! ### The whole request -/

/-- The request asks a characterization build for holding registers that start inside the active
plan and run past its end, over a word that has not been marked yet. -/
def overruns (f : ReadFunction) (address quantity : U16) (w : System Exec) : Prop :=
  env.policy.characterization = true ∧ f = .holding ∧ quantity.toNat ≤ maxReadRegisters ∧
    ∃ i < 12, address.toNat = 0x540 + i ∧ 12 < i + quantity.toNat ∧
      ∃ j, i ≤ j ∧ j < 12 ∧ w.plan.readMask.getLsbD j = false

/-- What a read request promises: an exception leaves the context exactly as it was, and a word is
newly marked only if a normal response contains it. -/
def keepsEvidence (f : ReadFunction) (address quantity : U16) (now : U32) (w : System Exec) : Prop :=
  let done := processRead env f address quantity now w
  (∀ code, done.2 = .exception code → done.1 = w) ∧
    ∀ j < 12, w.plan.readMask.getLsbD j = false → done.1.plan.readMask.getLsbD j = true →
      (∃ values, done.2 = .words values) ∧ address.toNat ≤ 0x540 + j ∧
        0x540 + j < address.toNat + quantity.toNat

/-- A request that leaves the context alone promises nothing more. -/
theorem keepsEvidence_of_unchanged {f : ReadFunction} {address quantity : U16} {now : U32}
    {w : System Exec} (unchanged : (processRead env f address quantity now w).1 = w) :
    keepsEvidence env f address quantity now w := by
  refine ⟨fun _ _ => unchanged, fun j _ before after => ?_⟩
  rw [unchanged, before] at after
  cases after

/-- Only a request of a characterization build that starts inside the block changes the context. -/
theorem processRead_unchanged {f : ReadFunction} {address quantity : U16} {now : U32}
    {w : System Exec}
    (outside : ¬ (env.policy.characterization = true ∧ f = .holding ∧
      quantity.toNat ≤ maxReadRegisters ∧ 0x540 ≤ address.toNat ∧ address.toNat < 0x54C)) :
    (processRead env f address quantity now w).1 = w := by
  unfold processRead
  split_ifs with wrong
  · rfl
  rw [not_or, not_lt] at wrong
  by_cases planned : env.policy.characterization = true ∧ f = .holding
  · exact readLoop_outside env now _ _ _ w (by
      by_contra inside
      exact outside ⟨planned.1, planned.2, wrong.2, by omega, by omega⟩)
  · apply readLoop_plain env now
    rw [not_and_or] at planned
    exact planned.imp (by simp) (by cases f <;> simp)

/-- Exceptions keep the context, and marks stand for returned words, except on the requests that
overrun the active plan. -/
theorem keepsEvidence_iff (f : ReadFunction) (address quantity : U16) (now : U32) (w : System Exec) :
    keepsEvidence env f address quantity now w ↔ ¬ overruns env f address quantity w := by
  by_cases inside : env.policy.characterization = true ∧ f = .holding ∧
      quantity.toNat ≤ maxReadRegisters ∧ 0x540 ≤ address.toNat ∧ address.toNat < 0x54C
  swap
  · refine ⟨fun _ beyond => inside ?_, fun _ => ?_⟩
    · obtain ⟨characterized, holding, few, i, small, start, -⟩ := beyond
      exact ⟨characterized, holding, few, by omega, by omega⟩
    · exact keepsEvidence_of_unchanged env (processRead_unchanged env inside)
  obtain ⟨characterized, rfl, few, lowest, highest⟩ := inside
  obtain ⟨i, start⟩ : ∃ i, address.toNat = 0x540 + i := ⟨address.toNat - 0x540, by omega⟩
  by_cases empty : quantity = 0
  · have none_read : quantity.toNat = 0 := congrArg BitVec.toNat empty
    refine ⟨fun _ beyond => ?_, fun _ => keepsEvidence_of_unchanged env ?_⟩
    · obtain ⟨-, -, -, i', small, start', past, -⟩ := beyond
      omega
    · rw [processRead, if_pos (.inl empty)]
  have asked : processRead env .holding address quantity now w =
      readLoop env .holding now (0x540 + i) quantity.toNat [] w := by
    rw [processRead, if_neg (not_or.mpr ⟨empty, not_lt.mpr few⟩), start]
  simp only [keepsEvidence, asked]
  by_cases past : 12 < i + quantity.toNat
  · rw [readLoop_overrun env characterized now i _ [] w (by omega) past]
    have marks := @markFrom_eq_iff Exec i (12 - i) (by omega) w
    constructor
    · rintro ⟨kept, -⟩ ⟨-, -, -, i', -, start', -, j, lower, upper, unmarked⟩
      have bit := marks.mp (kept 2 rfl) j (by omega) (by omega)
      rw [unmarked] at bit
      cases bit
    · intro fits
      have unchanged : markFrom i (12 - i) w = w := by
        refine marks.mpr fun j lower upper => ?_
        by_contra unmarked
        exact fits ⟨characterized, rfl, few, i, by omega, start, past, j, lower, by omega,
          by simpa using unmarked⟩
      refine ⟨fun _ _ => unchanged, fun j _ before after => ?_⟩
      rw [unchanged, before] at after
      cases after
  · obtain ⟨answer, read⟩ := readLoop_inside env characterized now i quantity.toNat [] w (by omega)
    rw [read]
    refine ⟨fun _ beyond => ?_, fun _ => ⟨fun _ refused => (by cases refused), fun j small before after => ?_⟩⟩
    · obtain ⟨-, -, -, i', -, start', past', -⟩ := beyond
      omega
    · rw [markFrom_bit i _ j (by omega), before, Bool.false_or, decide_eq_true_eq] at after
      exact ⟨⟨answer, rfl⟩, by omega, by omega⟩

def idlePlatform : Platform Unit where
  policy := .toTarget
  executor := .off
  sqrtf := id
  machineConfig := ⟨0, 0, 0, false⟩
  diagnosticWords _ := []

/-- FC03 for the last word of the active plan and the one behind it: the answer is an exception, and
the word is marked as read back. -/
theorem exception_marks_word :
    let booted := initialized idlePlatform ⟨0, 0, 0, false⟩ true 0 .initial ()
    let read := processRead idlePlatform .holding 0x54B 2 0 booted
    read.2 = .exception 2 ∧ read.1.plan.readMask = 0x800 ∧ booted.plan.readMask = 0 ∧
      read.1 ≠ booted := by
  have marked : (processRead idlePlatform .holding 0x54B 2 0
      (initialized idlePlatform ⟨0, 0, 0, false⟩ true 0 .initial ())).1.plan.readMask = 0x800 := by
    decide +kernel
  refine ⟨by decide +kernel, marked, rfl, fun same => ?_⟩
  rw [same] at marked
  revert marked
  decide

end Sd700.Modbus.ReadBack

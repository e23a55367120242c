import Sd700.Logic.Faults
import Sd700.Motor.Bridge

/-! `motor_hw_real.c` register write by register write. The writes of the shutdown path take effect; any other
write may be lost, and any readback or HAL call may fail. -/

namespace Sd700.Motor.BridgeWrites
open Build.Contract Bridge Logic.Faults

inductive Write
  | sd1 (high : Bool)
  | sd2 (high : Bool)
  | compare2 (value : U16)
  | compare3 (value : U16)
  | channel2 (on : Bool)
  | channel3 (on : Bool)
  | running2 (on : Bool)
  | running3 (on : Bool)
  deriving DecidableEq

def Write.effect (b : Registers) : Write → Registers
  | .sd1 high => { b with sd1 := high }
  | .sd2 high => { b with sd2 := high }
  | .compare2 value => { b with compare2 := value }
  | .compare3 value => { b with compare3 := value }
  | .channel2 on => { b with channel2 := on }
  | .channel3 on => { b with channel3 := on }
  | .running2 on => { b with running2 := on }
  | .running3 on => { b with running3 := on }

/-- What a call reads back: the results of the HAL, and the verifiers of the file. `holds` is
`MotorHwReal_ActiveCompareIsValid` of the compare that is there. -/
inductive Readback
  | stopped2 | stopped3 | started2 | started3
  | zeroCompareCommit | zeroCarriers | driverPins | configuration
  | driven (press : Bool)
  | holds (press : Bool)
  | active (press : Bool) (duty : U16)
  deriving DecidableEq

def Readback.verdict (b : Registers) : Readback → Bool
  | .stopped2 | .stopped3 | .started2 | .started3 => true
  | .zeroCompareCommit => b.isDisabled
  | .zeroCarriers => b.zeroCarriersAreRunning
  | .driverPins => b.sd1 && b.sd2
  | .configuration => b.configured
  | .driven press => decide ((if press then b.compare3 else b.compare2) ≠ 0)
  | .holds true => b.activeCompareIsValid b.compare3
  | .holds false => b.releaseCompareIsValid b.compare2
  | .active true duty => b.activeCompareIsValid duty
  | .active false duty => b.releaseCompareIsValid duty

abbrev Code := Program Write Readback Bool

/-- `s_initialized` and `MotorHwReal_OutputArmingAllowed`. -/
structure Gate where
  initialized : Bool
  armed : Bool

/-- `MotorHw_ForceDisableImmediate` and the two carriers. -/
def shutdown : List Write :=
  [.sd1 false, .sd2 false, .compare2 0, .compare3 0, .channel2 false, .channel3 false, .running2 false,
    .running3 false]

/-- `MotorHwReal_DisableImmediate`. -/
def disableImmediate (next : Code) : Code := .writes true shutdown next

/-- `MotorHwReal_FailApply`. -/
def failApply : Code := disableImmediate (.done false)

def require (k : Readback) (next : Code) : Code := .ask k fun passed => if passed then next else failApply

/-- `MotorHwReal_Apply`: both carriers are stopped whatever the first stop answers. -/
def apply (gate : Gate) (press : Bool) (duty : U16) : Code :=
  disableImmediate <|
    if ¬ gate.initialized ∨ duty = 0 ∨ Registers.periodCounts < duty ∨ ¬ gate.armed then failApply
    else
      .writes false [.channel2 false, .running2 false] <| .ask .stopped2 fun stopped2 =>
      .writes false [.channel3 false, .running3 false] <| .ask .stopped3 fun stopped3 =>
      if ¬ stopped2 ∨ ¬ stopped3 then failApply
      else
        .writes false [.compare2 0, .compare3 0] <| require .zeroCompareCommit <|
        .writes false [.channel2 true, .running2 true] <| require .started2 <|
        .writes false [.channel3 true, .running3 true] <| require .started3 <|
        require .zeroCarriers <|
        .writes false [.sd1 true, .sd2 true] <| require .driverPins <|
        .writes false (if press then [.compare2 0, .compare3 duty] else [.compare2 duty, .compare3 0]) <|
        require (.active press duty) <| .done true

/-- `MotorHwReal_Update`. -/
def update (gate : Gate) (press : Bool) (duty : U16) : Code :=
  if ¬ gate.initialized ∨ ¬ gate.armed then failApply
  else
    require (.driven press) <|
      if duty = 0 ∨ Registers.periodCounts < duty then failApply
      else
        require .configuration <| require (.holds press) <|
        .write false (if press then .compare3 duty else .compare2 duty) <|
        require (.active press duty) <| .done true

/-- `MotorHwReal_BuildBrake`. -/
def buildBrake (gate : Gate) : Code :=
  if ¬ gate.initialized ∨ ¬ gate.armed then failApply
  else
    require .configuration <| require (.holds true) <|
    .writes false [.compare2 0, .compare3 0] <|
    require .configuration <| require (.active true 0) <| .done true

/-- `MotorHwReal_BuildFromBrake`. -/
def buildFromBrake (gate : Gate) (duty : U16) : Code :=
  if ¬ gate.initialized then failApply
  else
    require .configuration <| require (.active true 0) <|
      if ¬ gate.armed ∨ duty = 0 ∨ Registers.periodCounts < duty then failApply
      else .write false (.compare3 duty) <| require (.active true duty) <| .done true

inductive Call
  | applyPress (duty : U16)
  | applyRelease (duty : U16)
  | update (press : Bool) (duty : U16)
  | buildBrake
  | buildFromBrake (duty : U16)
  | disableImmediate

/-- The code of a call; `MotorHwReal_DisableImmediate` returns nothing. -/
def Call.code (gate : Gate) : Call → Code
  | .applyPress duty => apply gate true duty
  | .applyRelease duty => apply gate false duty
  | .update press duty => BridgeWrites.update gate press duty
  | .buildBrake => BridgeWrites.buildBrake gate
  | .buildFromBrake duty => BridgeWrites.buildFromBrake gate duty
  | .disableImmediate => BridgeWrites.disableImmediate (.done true)

/-- A call, under its gate and with what works of its writes and readbacks. -/
structure Turn where
  gate : Gate
  call : Call
  works : List Bool

def Turn.outcome (b : Registers) (turn : Turn) : Outcome Write Readback Registers Bool :=
  (turn.call.code turn.gate).run (fun w b => w.effect b) (fun k b => k.verdict b) b turn.works

def run (b : Registers) (turns : List Turn) : Registers := turns.foldl (fun b turn => (turn.outcome b).left) b

/-! ### Without failures -/

section
variable {b : Registers} {armed : Bool} {duty : U16}

def faultless (b : Registers) (code : Code) : Bool × Registers :=
  let outcome := code.run (fun w b => w.effect b) (fun k b => k.verdict b) b []
  (outcome.result, outcome.left)

theorem faultless_write (b : Registers) (sure : Bool) (w : Write) (next : Code) :
    faultless b (.write sure w next) = faultless (w.effect b) next := by
  cases sure
  · rfl
  · rfl

theorem faultless_disableImmediate (b : Registers) (next : Code) :
    faultless b (disableImmediate next) = faultless b.disableImmediate next := by
  simp only [disableImmediate, shutdown, Program.writes, List.foldr, faultless_write]
  rfl

theorem faultless_failApply (b : Registers) : faultless b failApply = b.failApply := by
  unfold failApply
  rw [faultless_disableImmediate]
  rfl

theorem faultless_require (b : Registers) (k : Readback) (next : Code) :
    faultless b (require k next) = if k.verdict b then faultless b next else b.failApply := by
  rw [← faultless_failApply]
  unfold faultless require
  simp only [Program.run, List.headD_nil, List.tail_nil, Bool.true_and]
  cases k.verdict b
  · rfl
  · rfl

theorem faultless_ask (b : Registers) (k : Readback) (next : Bool → Code) :
    faultless b (.ask k next) = faultless b (next (k.verdict b)) := by
  unfold faultless
  simp only [Program.run, List.headD_nil, List.tail_nil, Bool.true_and]

/-- A call ends at the first of two readbacks that does not pass. -/
theorem faultless_refused {k k' : Readback} (refused : ¬ (k.verdict b = true ∧ k'.verdict b = true)) (next : Code) :
    faultless b (require k (require k' next)) = b.failApply := by
  rw [faultless_require, faultless_require]
  by_cases first : k.verdict b = true
  · rw [if_pos first, if_neg (fun second => refused ⟨first, second⟩)]
  · rw [if_neg first]

theorem faultless_done (b : Registers) : faultless b (.done true) = (true, b) := rfl

/-- With nothing failing, a call towards PRESS is the one of the bridge. -/
theorem update_faultless (b : Registers) (armed : Bool) (duty : U16) :
    faultless b (update ⟨b.initialized, armed⟩ true duty) = b.updatePress armed duty := by
  unfold update Registers.updatePress
  by_cases gate : ¬ b.initialized ∨ ¬ armed
  · rw [if_pos gate, faultless_failApply]
    dsimp only
    rw [if_pos (by tauto)]
  rw [if_neg gate, faultless_require]
  by_cases driven : b.compare3 = 0
  · simp [Readback.verdict, driven]
  have shown : (Readback.driven true).verdict b = true := decide_eq_true driven
  rw [if_pos shown]
  by_cases bounds : duty = 0 ∨ Registers.periodCounts < duty
  · rw [if_pos bounds, faultless_failApply]
    dsimp only
    rw [if_pos (by tauto)]
  rw [if_neg bounds, if_pos (rfl : true = true)]
  by_cases ready : b.configured = true ∧ b.activeCompareIsValid b.compare3 = true
  · have first : Readback.configuration.verdict b = true := ready.1
    have second : (Readback.holds true).verdict b = true := ready.2
    rw [faultless_require, faultless_require, if_pos first, if_pos second, faultless_write, faultless_require,
      faultless_done]
    refine Eq.trans ?_ (if_neg (by tauto)).symm
    by_cases set : ({ b with compare3 := duty } : Registers).activeCompareIsValid duty = true
    · exact (if_pos set).trans (if_neg (not_not.mpr set)).symm
    · exact (if_neg set).trans (if_pos set).symm
  · exact (@faultless_refused b .configuration (.holds true) ready _).trans (if_pos (by tauto)).symm

theorem buildBrake_faultless (b : Registers) (armed : Bool) :
    faultless b (buildBrake ⟨b.initialized, armed⟩) = b.buildBrake armed := by
  unfold buildBrake Registers.buildBrake
  by_cases gate : ¬ b.initialized ∨ ¬ armed
  · rw [if_pos gate, faultless_failApply, if_pos (by tauto)]
  rw [if_neg gate]
  by_cases ready : b.configured = true ∧ b.activeCompareIsValid b.compare3 = true
  · have first : Readback.configuration.verdict b = true := ready.1
    have second : (Readback.holds true).verdict b = true := ready.2
    let left : Registers := { b with compare2 := 0, compare3 := 0 }
    have third : Readback.configuration.verdict left = true := ready.1
    have initialized : left.initialized = true := by
      by_contra no
      exact gate (.inl no)
    have braking : left.isBraking = left.activeCompareIsValid 0 := by
      rw [Registers.isBraking, initialized, show left.configured = true from ready.1]
      rfl
    simp only [Program.writes, List.foldr]
    rw [faultless_require, faultless_require, if_pos first, if_pos second, faultless_write, faultless_write,
      faultless_require, faultless_require, faultless_done]
    refine (if_pos third).trans (Eq.trans ?_ (if_neg (by tauto)).symm)
    change (if left.activeCompareIsValid 0 = true then (true, left) else left.failApply) =
      if left.isBraking = true then (true, left) else left.failApply
    rw [braking]
  · exact (@faultless_refused b .configuration (.holds true) ready _).trans (if_pos (by tauto)).symm

theorem buildFromBrake_faultless (b : Registers) (armed : Bool) (duty : U16) :
    faultless b (buildFromBrake ⟨b.initialized, armed⟩ duty) = b.buildFromBrake armed duty := by
  unfold buildFromBrake Registers.buildFromBrake
  by_cases started : b.initialized = true
  · rw [if_neg (not_not.mpr started)]
    have braking : b.isBraking = true ↔ b.configured = true ∧ b.activeCompareIsValid 0 = true := by
      simp only [Registers.isBraking, started, Bool.true_and, Bool.and_eq_true]
    by_cases ready : b.configured = true ∧ b.activeCompareIsValid 0 = true
    · have first : Readback.configuration.verdict b = true := ready.1
      have second : (Readback.active true 0).verdict b = true := ready.2
      rw [faultless_require, faultless_require, if_pos first, if_pos second]
      by_cases bounds : ¬ armed ∨ duty = 0 ∨ Registers.periodCounts < duty
      · rw [if_pos bounds, if_pos (by tauto), faultless_failApply]
      · rw [if_neg bounds, if_neg (by tauto), faultless_write, faultless_require, faultless_done]
        rfl
    · exact (@faultless_refused b .configuration (.active true 0) ready _).trans (if_pos (by tauto)).symm
  · have idle : ¬ b.isBraking = true := by
      simp [Registers.isBraking, started]
    rw [if_pos started, if_pos (.inl idle), faultless_failApply]

theorem applyPress_faultless (b : Registers) (armed : Bool) (duty : U16) :
    faultless b (apply ⟨b.initialized, armed⟩ true duty) = b.applyPress armed duty := by
  unfold apply Registers.applyPress
  rw [faultless_disableImmediate]
  by_cases gate : ¬ b.initialized ∨ duty = 0 ∨ Registers.periodCounts < duty ∨ ¬ armed
  · rw [if_pos gate, faultless_failApply]
    dsimp only
    rw [if_pos (by simp only [Registers.disableImmediate_initialized]; tauto)]
  · rw [if_neg gate]
    have open_ (b' : Registers) (same : b'.initialized = b.initialized) (disabled : b'.isDisabled = true) :
        ¬ (¬ b'.initialized = true ∨ duty = 0 ∨ Registers.periodCounts < duty ∨ ¬ armed = true ∨
          ¬ b'.isDisabled = true) := by
      rw [same]
      tauto
    rw [if_neg (open_ b.disableImmediate rfl rfl)]
    simp [Program.writes, faultless_write, faultless_ask, faultless_require, faultless_done, Readback.verdict,
      Write.effect, Registers.disableImmediate, Registers.isDisabled, Registers.zeroCarriersAreRunning,
      Registers.channelsOn, Registers.channelsOff, Registers.activeCompareIsValid]

end

/-! ### The law of the legs -/

def Exclusive (b : Registers) : Prop := b.compare2 = 0 ∨ b.compare3 = 0

def Write.drives : Write → Prop
  | .compare2 value | .compare3 value => value ≠ 0
  | _ => False

/-- A readback that passes only with both shutdown pins open. -/
def Readback.coversDrivers (k : Readback) : Prop := ∀ b, k.verdict b = true → b.sd1 = true ∧ b.sd2 = true

/-- A readback that passes only with both carriers on their pins and running. -/
def Readback.coversCarriers (k : Readback) : Prop := ∀ b, k.verdict b = true → b.channelsOn = true

structure Law (known : List Readback) (w : Write) (left : Registers) : Prop where
  exclusive : Exclusive left
  drivers : w.drives → ∃ k ∈ known, k.coversDrivers
  carriers : w.drives → ∃ k ∈ known, k.coversCarriers

structure Ends (result : Bool) (left : Registers) : Prop where
  exclusive : Exclusive left
  failed : result = false → left.isDisabled = true

abbrev Keeps (known : List Readback) (b : Registers) (code : Code) : Prop :=
  Safe (fun w b => Write.effect b w) (fun k b => Readback.verdict b k) Law Ends known b code

section
variable {known : List Readback} {b : Registers} {gate : Gate} {next : Code} {k : Readback} {duty : U16}

theorem active_drivers (press : Bool) (duty : U16) : (Readback.active press duty).coversDrivers := by
  intro b passed
  cases press
  · simp only [Readback.verdict, Registers.releaseCompareIsValid, Bool.and_eq_true] at passed
    exact passed.1.1.1
  · simp only [Readback.verdict, Registers.activeCompareIsValid, Bool.and_eq_true] at passed
    exact passed.1.1.1

theorem active_carriers (press : Bool) (duty : U16) : (Readback.active press duty).coversCarriers := by
  intro b passed
  cases press
  · simp only [Readback.verdict, Registers.releaseCompareIsValid, Bool.and_eq_true] at passed
    exact passed.1.1.2
  · simp only [Readback.verdict, Registers.activeCompareIsValid, Bool.and_eq_true] at passed
    exact passed.1.1.2

theorem holds_drivers (press : Bool) : (Readback.holds press).coversDrivers := by
  intro b passed
  cases press
  · exact active_drivers false b.compare2 b passed
  · exact active_drivers true b.compare3 b passed

theorem holds_carriers (press : Bool) : (Readback.holds press).coversCarriers := by
  intro b passed
  cases press
  · exact active_carriers false b.compare2 b passed
  · exact active_carriers true b.compare3 b passed

theorem driverPins_drivers : Readback.driverPins.coversDrivers := by
  intro b passed
  simpa [Readback.verdict] using passed

theorem zeroCarriers_carriers : Readback.zeroCarriers.coversCarriers := by
  intro b passed
  simp only [Readback.verdict, Registers.zeroCarriersAreRunning, Bool.and_eq_true] at passed
  exact passed.2

theorem holds_exclusive {press : Bool} (passed : (Readback.holds press).verdict b = true) :
    (if press then b.compare2 else b.compare3) = 0 := by
  cases press
  · simp only [Readback.verdict, Registers.releaseCompareIsValid, Bool.and_eq_true, decide_eq_true_eq] at passed
    exact passed.2
  · simp only [Readback.verdict, Registers.activeCompareIsValid, Bool.and_eq_true, decide_eq_true_eq] at passed
    exact passed.1.2

theorem quiet {w : Write} (still : ¬ w.drives) (exclusive : Exclusive b) : Law known w b :=
  ⟨exclusive, fun drives => absurd drives still, fun drives => absurd drives still⟩

/-- The shutdown path closes every register, one after the other. -/
theorem disableImmediate_keeps (exclusive : Exclusive b)
    (rest : ∀ b, b.isDisabled = true → b.compare2 = 0 → b.compare3 = 0 → Keeps known b next) :
    Keeps known b (disableImmediate next) := by
  have zero : ¬ (Write.compare2 0).drives := fun drives => drives rfl
  have zero' : ¬ (Write.compare3 0).drives := fun drives => drives rfl
  have closed := rest _ (Registers.disableImmediate_disabled b) rfl rfl
  refine ⟨⟨quiet id exclusive, ⟨quiet id exclusive, ⟨quiet zero (.inl rfl), ⟨quiet zero' (.inl rfl),
    ⟨quiet id (.inl rfl), ⟨quiet id (.inl rfl), ⟨quiet id (.inl rfl), ⟨quiet id (.inl rfl), closed⟩, nofun⟩,
    nofun⟩, nofun⟩, nofun⟩, nofun⟩, nofun⟩, nofun⟩, nofun⟩

theorem failApply_keeps (exclusive : Exclusive b) : Keeps known b failApply :=
  disableImmediate_keeps exclusive fun _ disabled zero _ => ⟨.inl zero, fun _ => disabled⟩

theorem require_keeps (exclusive : Exclusive b)
    (rest : k.verdict b = true → Keeps (known ++ [k]) b next) : Keeps known b (require k next) := by
  refine ⟨?_, fun passed => ?_⟩
  · exact failApply_keeps exclusive
  · exact rest passed

theorem done_keeps (exclusive : Exclusive b) : Keeps known b (.done true) :=
  ⟨exclusive, fun failed => Bool.noConfusion failed⟩

def Zero (b : Registers) : Prop := b.compare2 = 0 ∧ b.compare3 = 0

def Silent : Write → Prop
  | .compare2 value | .compare3 value => value = 0
  | _ => True

theorem Silent.keeps {w : Write} (silent : Silent w) (b : Registers) (zero : Zero b) : Zero (w.effect b) := by
  cases w with
  | compare2 value => exact ⟨silent, zero.2⟩
  | compare3 value => exact ⟨zero.1, silent⟩
  | _ => exact zero

theorem Silent.law {w : Write} (silent : Silent w) (b : Registers) (zero : Zero b) : Law known w b := by
  apply quiet
  · cases w with
    | compare2 value => exact fun drives => drives silent
    | compare3 value => exact fun drives => drives silent
    | _ => exact id
  · exact .inl zero.1

theorem silent_keeps {ws : List Write} (silent : ∀ w ∈ ws, Silent w) (zero : Zero b)
    (rest : ∀ b, Zero b → Keeps known b next) : Keeps known b (.writes false ws next) :=
  Safe.writes Zero zero (fun w member => (silent w member).keeps) (fun w member => (silent w member).law) rest

theorem drive_keeps {press : Bool} (drivers : ∃ k ∈ known, k.coversDrivers) (carriers : ∃ k ∈ known, k.coversCarriers)
    (other : (if press then b.compare2 else b.compare3) = 0) :
    Keeps known b (.write false (if press then .compare3 duty else .compare2 duty) <|
      require (.active press duty) <| .done true) := by
  apply Safe.write (fun b => (if press then b.compare2 else b.compare3) = 0) other
  · intro b other
    cases press
    · exact other
    · exact other
  · intro b other
    refine ⟨?_, fun _ => drivers, fun _ => carriers⟩
    cases press
    · exact .inr other
    · exact .inl other
  · intro b other
    have exclusive : Exclusive b := by
      cases press
      · exact .inr other
      · exact .inl other
    exact require_keeps exclusive fun _ => done_keeps exclusive

theorem apply_keeps (exclusive : Exclusive b) (press : Bool) : Keeps known b (apply gate press duty) := by
  apply disableImmediate_keeps exclusive
  intro b _ first second
  have zero : Zero b := ⟨first, second⟩
  split
  · exact failApply_keeps (.inl first)
  apply silent_keeps (by simp [Silent]) zero
  intro b zero
  -- Both stops are made before either answer is looked at.
  have onward (known : List Readback) (b : Registers) (zero : Zero b) (stopped2 : Bool) :
      Keeps known b (.writes false [.channel3 false, .running3 false] <| .ask .stopped3 fun stopped3 =>
        if ¬ stopped2 ∨ ¬ stopped3 then failApply
        else
          .writes false [.compare2 0, .compare3 0] <| require .zeroCompareCommit <|
          .writes false [.channel2 true, .running2 true] <| require .started2 <|
          .writes false [.channel3 true, .running3 true] <| require .started3 <|
          require .zeroCarriers <|
          .writes false [.sd1 true, .sd2 true] <| require .driverPins <|
          .writes false (if press then [.compare2 0, .compare3 duty] else [.compare2 duty, .compare3 0]) <|
          require (.active press duty) <| .done true) := by
    apply silent_keeps (by simp [Silent]) zero
    intro b zero
    have carried (known : List Readback) (stopped3 : Bool) : Keeps known b
        (if ¬ stopped2 ∨ ¬ stopped3 then failApply
        else
          .writes false [.compare2 0, .compare3 0] <| require .zeroCompareCommit <|
          .writes false [.channel2 true, .running2 true] <| require .started2 <|
          .writes false [.channel3 true, .running3 true] <| require .started3 <|
          require .zeroCarriers <|
          .writes false [.sd1 true, .sd2 true] <| require .driverPins <|
          .writes false (if press then [.compare2 0, .compare3 duty] else [.compare2 duty, .compare3 0]) <|
          require (.active press duty) <| .done true) := by
      split
      · exact failApply_keeps (.inl zero.1)
      apply silent_keeps (by simp [Silent]) zero
      intro b zero
      apply require_keeps (.inl zero.1)
      intro _
      apply silent_keeps (by simp [Silent]) zero
      intro b zero
      apply require_keeps (.inl zero.1)
      intro _
      apply silent_keeps (by simp [Silent]) zero
      intro b zero
      apply require_keeps (.inl zero.1)
      intro _
      apply require_keeps (.inl zero.1)
      intro _
      apply silent_keeps (by simp [Silent]) zero
      intro b zero
      apply require_keeps (.inl zero.1)
      intro _
      have drivers : ∃ k ∈ known ++ [.zeroCompareCommit] ++ [.started2] ++ [.started3] ++ [.zeroCarriers] ++
          [.driverPins], Readback.coversDrivers k := ⟨.driverPins, by simp, driverPins_drivers⟩
      have carriers : ∃ k ∈ known ++ [.zeroCompareCommit] ++ [.started2] ++ [.started3] ++ [.zeroCarriers] ++
          [.driverPins], Readback.coversCarriers k := ⟨.zeroCarriers, by simp, zeroCarriers_carriers⟩
      cases press with
      | true =>
        apply Safe.write Zero zero (fun b zero => ⟨rfl, zero.2⟩)
          (fun b zero => Silent.law (w := .compare2 0) rfl b zero)
        intro b zero
        exact @drive_keeps _ b duty true drivers carriers zero.1
      | false =>
        apply Safe.write (fun b => b.compare3 = 0) zero.2 (fun b other => other)
          (fun b other => ⟨.inr other, fun _ => drivers, fun _ => carriers⟩)
        intro b other
        apply Safe.write (fun b => b.compare3 = 0) other (fun b _ => rfl)
          (fun b other => quiet (w := .compare3 0) (fun drives => drives rfl) (.inr other))
        intro b other
        exact require_keeps (.inr other) fun _ => done_keeps (.inr other)
    exact ⟨carried known false, fun _ => carried _ true⟩
  exact ⟨onward known b zero false, fun _ => onward _ b zero true⟩

theorem update_keeps (exclusive : Exclusive b) (press : Bool) : Keeps known b (update gate press duty) := by
  unfold update
  split
  · exact failApply_keeps exclusive
  apply require_keeps exclusive
  intro _
  split
  · exact failApply_keeps exclusive
  apply require_keeps exclusive
  intro _
  apply require_keeps exclusive
  intro held
  exact drive_keeps ⟨.holds press, by simp, holds_drivers press⟩ ⟨.holds press, by simp, holds_carriers press⟩
    (holds_exclusive held)

theorem buildBrake_keeps (exclusive : Exclusive b) : Keeps known b (buildBrake gate) := by
  unfold buildBrake
  split
  · exact failApply_keeps exclusive
  apply require_keeps exclusive
  intro _
  apply require_keeps exclusive
  intro held
  have other : b.compare2 = 0 := holds_exclusive held
  apply Safe.writes (fun b => b.compare2 = 0) other
  · simp only [List.mem_cons, List.not_mem_nil, or_false]
    rintro w (rfl | rfl) b other
    · rfl
    · exact other
  · simp only [List.mem_cons, List.not_mem_nil, or_false]
    rintro w (rfl | rfl) b other
    · exact quiet (fun drives => drives rfl) (.inl other)
    · exact quiet (fun drives => drives rfl) (.inl other)
  · intro b other
    apply require_keeps (.inl other)
    intro _
    exact require_keeps (.inl other) fun _ => done_keeps (.inl other)

theorem buildFromBrake_keeps (exclusive : Exclusive b) : Keeps known b (buildFromBrake gate duty) := by
  unfold buildFromBrake
  split
  · exact failApply_keeps exclusive
  apply require_keeps exclusive
  intro _
  apply require_keeps exclusive
  intro braking
  split
  · exact failApply_keeps exclusive
  have other : b.compare2 = 0 := by
    simp only [Readback.verdict, Registers.activeCompareIsValid, Bool.and_eq_true, decide_eq_true_eq] at braking
    exact braking.1.2
  exact @drive_keeps _ b duty true ⟨.active true 0, by simp, active_drivers true 0⟩
    ⟨.active true 0, by simp, active_carriers true 0⟩ other

theorem Call.keeps (exclusive : Exclusive b) (call : Call) : Keeps known b (call.code gate) := by
  cases call with
  | applyPress duty => exact apply_keeps exclusive true
  | applyRelease duty => exact apply_keeps exclusive false
  | update press duty => exact update_keeps exclusive press
  | buildBrake => exact buildBrake_keeps exclusive
  | buildFromBrake duty => exact buildFromBrake_keeps exclusive
  | disableImmediate =>
    exact disableImmediate_keeps exclusive fun _ _ zero _ => done_keeps (.inl zero)

theorem Turn.keeps (exclusive : Exclusive b) (turn : Turn) :
    Justified Law [] (turn.outcome b).events ∧ Ends (turn.outcome b).result (turn.outcome b).left :=
  Safe.run (turn.call.keeps exclusive) turn.works

theorem run_exclusive (exclusive : Exclusive b) (turns : List Turn) : Exclusive (run b turns) := by
  induction turns generalizing b with
  | nil => exact exclusive
  | cons turn rest ih => exact ih (turn.keeps exclusive).2.exclusive

end

/-- From the disabled bridge, over any calls and any failures: after each register write at most one leg has a
compare; a compare that is not zero is written only after readbacks of the same call that cover both drivers and
both carriers have passed; and a call that returns false leaves the bridge disabled. -/
theorem leg_exclusivity {b : Registers} (disabled : b.isDisabled = true) (turns : List Turn) (turn : Turn) :
    (∀ before w left after,
      (turn.outcome (run b turns)).events = before ++ .wrote w left :: after →
        Exclusive left ∧
          (w.drives → (∃ k ∈ passes before, k.coversDrivers) ∧ ∃ k ∈ passes before, k.coversCarriers)) ∧
      ((turn.outcome (run b turns)).result = false → (turn.outcome (run b turns)).left.isDisabled = true) := by
  have zero : b.compare2 = 0 := by
    simp only [Registers.isDisabled, Bool.and_eq_true, decide_eq_true_eq] at disabled
    exact disabled.1.1.2
  obtain ⟨justified, ends⟩ := turn.keeps (run_exclusive (b := b) (.inl zero) turns)
  refine ⟨fun before w left after split => ?_, ends.failed⟩
  have law := justified before w left after split
  rw [List.nil_append] at law
  exact ⟨law.exclusive, fun drives => ⟨law.drivers drives, law.carriers drives⟩⟩

def benchBridge : Registers := ⟨true, true, false, false, 0, 0, false, false, false, false⟩

def benchTurns : List Turn :=
  [⟨⟨true, true⟩, .applyPress 1200, []⟩, ⟨⟨true, true⟩, .update true 2400, []⟩, ⟨⟨true, true⟩, .buildBrake, []⟩]

/-- Taking up RELEASE, the second stop and a compare write get lost. -/
def benchTurn : Turn := ⟨⟨true, true⟩, .applyRelease 900, [true, true, true, false, true, true, false]⟩

theorem leg_exclusivity_bench :
    (∀ before w left after,
      (benchTurn.outcome (run benchBridge benchTurns)).events = before ++ .wrote w left :: after →
        Exclusive left ∧
          (w.drives → (∃ k ∈ passes before, k.coversDrivers) ∧ ∃ k ∈ passes before, k.coversCarriers)) ∧
      ((benchTurn.outcome (run benchBridge benchTurns)).result = false →
        (benchTurn.outcome (run benchBridge benchTurns)).left.isDisabled = true) :=
  leg_exclusivity (by decide) benchTurns benchTurn

end Sd700.Motor.BridgeWrites

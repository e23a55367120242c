import Sd700.Pressure.Ladder

/-! The pause behind a sudden force. A value far from the last accepted one is used when three new frames in a row
agree, and for 400 ms behind an unconfirmed value, a jump near the target or a strong answer nothing is pushed. -/

namespace Sd700.Pressure.Pause
open Build.Contract State Adapt Update Envelope Ladder Logic.Modular

/-! ### What the modes leave alone -/

structure Held where
  glitch : Glitch
  lastPressure : ℚ
  nearStamp : U32
  current : ℚ
  target : ℚ
  lastControlTime : U32
  intervalMs : U32
  ready : Bool
  now : U32

def held (s : Source) : Held :=
  ⟨s.glitch, s.near.lastPressure, s.near.feedbackStamp, s.control.current, s.control.target, s.control.lastControlTime,
    s.control.intervalMs, s.ready, s.now⟩

/-- `s_near_wait` and `s_near_pause_start`. -/
def pause (s : Source) : Bool × U32 := (s.near.wait, s.near.pauseStart)

def Alarmed (u : Source) : Prop :=
  0 ≤ u.precision.refPressure ∧ u.feedbackStamp ≠ u.precision.fbStamp ∧
    (4 < u.control.current - u.precision.refPressure ∨
      2 < u.control.current - u.precision.refPressure ∧ u.control.error ≤ 10)

structure Halted (now : U32) (t : Source) : Prop where
  pause : pause t = (true, now)
  action : t.out.action = .brake
  command : t.out.command = 0

structure Led (s : Source) (asks : Option Source) (t : Source) : Prop where
  held : held t = held s
  calm : (∀ u ∈ asks, ¬Alarmed u) → pause t = pause s
  alarmed : ∀ u ∈ asks, Alarmed u → Halted s.now t

theorem Led.quiet {s t : Source} (same : Pause.held t = Pause.held s) (kept : pause t = pause s) : Led s none t :=
  ⟨same, fun _ => kept, fun _ asked => (nomatch asked)⟩

theorem Led.behind {s s' t : Source} {asks : Option Source} (led : Led s' asks t)
    (same : Pause.held s' = Pause.held s) (kept : pause s' = pause s) : Led s asks t := by
  have now : s'.now = s.now := congrArg Held.now same
  refine ⟨led.held.trans same, fun calm => (led.calm calm).trans kept, ?_⟩
  intro u asked alarmed
  rw [← now]
  exact led.alarmed u asked alarmed

theorem Led.then {s t t' : Source} {asks : Option Source} (led : Led s asks t) (calm : ∀ u ∈ asks, ¬Alarmed u)
    (same : Pause.held t' = Pause.held t) (kept : pause t' = pause t) : Led s asks t' :=
  ⟨same.trans led.held, fun _ => kept.trans (led.calm calm), fun u asked alarmed => absurd alarmed (calm u asked)⟩

theorem precisionForward_led (u : Source) :
    Led u (some u) (precisionForward u).source ∧ (Alarmed u → (precisionForward u).drive = none) := by
  unfold precisionForward
  dsimp only
  by_cases answered : 0 ≤ u.precision.refPressure
  · rw [if_pos answered]
    by_cases same : u.feedbackStamp = u.precision.fbStamp
    · rw [if_pos same]
      exact ⟨⟨rfl, fun _ => rfl, fun v asked alarmed => absurd same (Option.some.inj asked ▸ alarmed).2.1⟩, fun _ => rfl⟩
    · rw [if_neg same]
      have rule : precisionPauses u.control.error (u.control.current - u.precision.refPressure) = true ↔ Alarmed u := by
        unfold precisionPauses Alarmed
        rw [decide_eq_true_iff]
        constructor
        · rintro ⟨high, strong | last⟩
          · exact ⟨answered, same, Or.inl strong⟩
          · exact ⟨answered, same, Or.inr ⟨high, last⟩⟩
        · rintro ⟨_, _, strong | ⟨high, last⟩⟩
          · exact ⟨by linarith, Or.inl strong⟩
          · exact ⟨high, Or.inr last⟩
      by_cases pauses : precisionPauses u.control.error (u.control.current - u.precision.refPressure) = true
      · rw [if_pos pauses]
        refine ⟨⟨rfl, fun calm => absurd (rule.mp pauses) (calm u rfl), fun _ _ _ => ⟨rfl, rfl, rfl⟩⟩, fun _ => rfl⟩
      · rw [if_neg pauses]
        have calm : ¬Alarmed u := fun alarmed => pauses (rule.mpr alarmed)
        refine ⟨⟨rfl, fun _ => rfl, ?_⟩, fun alarmed => absurd alarmed calm⟩
        intro v asked alarmed
        rw [← Option.some.inj asked] at alarmed
        exact absurd alarmed calm
  · rw [if_neg answered]
    refine ⟨⟨rfl, fun _ => rfl, ?_⟩, fun alarmed => absurd alarmed.1 answered⟩
    intro v asked alarmed
    rw [← Option.some.inj asked] at alarmed
    exact absurd alarmed.1 answered

/-- A small step is put out where the ladder has answered with one. -/
theorem launched_led {u : Source} {out : SmallStep → Source} (wait : ∀ source, out ⟨source, none⟩ = source)
    (go : ∀ source drive, Pause.held (out ⟨source, some drive⟩) = Pause.held source ∧
      pause (out ⟨source, some drive⟩) = pause source) : Led u (some u) (out (precisionForward u)) := by
  obtain ⟨led, stops⟩ := precisionForward_led u
  generalize precisionForward u = step at led stops
  obtain ⟨source, drive⟩ := step
  cases drive with
  | none =>
    rw [wait]
    exact led
  | some drive =>
    obtain ⟨same, kept⟩ := go source drive
    apply led.then _ same kept
    intro v asked alarmed
    rw [← Option.some.inj asked] at alarmed
    exact absurd (stops alarmed) (nomatch ·)

def launching (clear : Source → Source) (step : SmallStep) : Source :=
  step.drive.elim step.source fun drive => launchPulse true drive.1 drive.2 (clearPulseBoost (clear step.source))

theorem microPrecision_led (s : Source) :
    Led s (some { s with precision := { s.precision with latched := true } }) (microPrecision s) := by
  have led := @launched_led { s with precision := { s.precision with latched := true } }
    (launching fun source => { source with near := { source.near with forwardActive := false, stallLevel := 0 } })
    (fun _ => rfl) (fun _ _ => ⟨rfl, rfl⟩)
  apply @Led.behind s { s with precision := { s.precision with latched := true } } _ _ _ rfl rfl
  unfold microPrecision
  dsimp only
  generalize precisionForward { s with precision := { s.precision with latched := true } } = step at led ⊢
  obtain ⟨source, drive⟩ := step
  cases drive <;> exact led

theorem enterNear_led (nearForward : Bool) (s : Source) :
    held (enterNear nearForward s) = held s ∧ pause (enterNear nearForward s) = pause s := by
  unfold enterNear
  split_ifs <;> exact ⟨rfl, rfl⟩

theorem slowResponse_near (rise boostMax : ℚ) (allowLonger : Bool) (near : Near) (p : Pulse) :
    (slowResponse rise boostMax allowLonger near p).2 =
      { near with stallLevel := (slowResponse rise boostMax allowLonger near p).2.stallLevel } := by
  unfold slowResponse
  dsimp only
  split_ifs <;> rfl

theorem pulseBoost_led (current boostMax : ℚ) (fastForward allowLonger : Bool) (s : Source) :
    held (pulseBoost current boostMax fastForward allowLonger s) = held s ∧
      pause (pulseBoost current boostMax fastForward allowLonger s) = pause s := by
  have near : ∃ level, (pulseBoost current boostMax fastForward allowLonger s).near = { s.near with stallLevel := level } := by
    unfold pulseBoost
    dsimp only
    by_cases answered : 0 ≤ s.pulse.refPressure
    · rw [if_pos answered]
      by_cases fast : (fastForward && s.pulse.lastPositive) = true
      · rw [if_pos fast]
        exact ⟨s.near.stallLevel, rfl⟩
      · rw [if_neg fast]
        exact ⟨_, slowResponse_near _ _ _ _ _⟩
    · rw [if_neg answered]
      exact ⟨s.near.stallLevel, rfl⟩
  obtain ⟨level, same⟩ := near
  unfold held pause
  rw [same]
  exact ⟨rfl, rfl⟩

theorem microForward_led (baseV errorAbs : ℚ) (s : Source) : Led s none (microForward baseV errorAbs s) := by
  unfold microForward
  dsimp only
  generalize entered_ : enterNear (decide (errorAbs ≤ 50)) (resetPrecision s) = t
  have near := enterNear_led (decide (errorAbs ≤ 50)) (resetPrecision s)
  rw [entered_] at near
  generalize boosted : pulseBoost t.control.current 9 _ _ t = b
  have boost := pulseBoost_led t.control.current 9 (!decide (errorAbs ≤ 50) && decide (50 < errorAbs)) (!decide (errorAbs ≤ 50)) t
  rw [boosted] at boost
  have same : held b = held s := boost.1.trans near.1
  have kept : pause b = pause s := boost.2.trans near.2
  split_ifs
  · exact Led.quiet same kept
  · exact Led.quiet same kept

theorem microRelease_led (s : Source) : Led s none (microRelease s) := by
  have near := enterNear_led false (resetPrecision s)
  exact Led.quiet near.1 near.2

theorem microPulse_led (s : Source) : Led s (microArgument s) (microPulse s) := by
  unfold microPulse microArgument
  dsimp only
  by_cases far : 3 < s.control.error
  · rw [if_pos far]
    by_cases near : |s.control.error| ≤ 40 ∨ s.precision.latched
    · rw [if_pos near, if_pos ⟨far, near⟩]
      exact microPrecision_led s
    · rw [if_neg near, if_neg (fun both => near both.2)]
      exact microForward_led _ _ s
  · rw [if_neg far, if_neg (fun both => far both.1)]
    by_cases past : s.control.error < -3
    · rw [if_pos past]
      exact microRelease_led s
    · rw [if_neg past]
      exact Led.quiet rfl rfl

theorem finePulse_led (s : Source) : Led s (fineArgument s) (finePulse s) := by
  unfold finePulse fineArgument
  dsimp only
  by_cases below : 0 < s.control.error
  · rw [if_pos below, if_pos below]
    have led := @launched_led s (launching id) (fun _ => rfl) (fun _ _ => ⟨rfl, rfl⟩)
    generalize precisionForward s = step at led ⊢
    obtain ⟨source, drive⟩ := step
    cases drive <;> exact led
  · rw [if_neg below, if_neg below]
    by_cases past : s.control.error < -1
    · rw [if_pos past]
      exact Led.quiet rfl rfl
    · rw [if_neg past]
      exact Led.quiet rfl rfl

theorem paced_led {pulse : Source → Source} {argument : Source → Option Source}
    (led : ∀ t, Led t (argument t) (pulse t)) (s : Source) : Led s (pacedArgument argument s) (paced s pulse) := by
  unfold paced pacedArgument
  by_cases high : s.control.pulseActive = true
  · rw [if_pos high, if_pos high]
    unfold pulseInProgress
    split_ifs <;> exact Led.quiet rfl rfl
  · rw [if_neg high, if_neg high]
    have counted : held (countLowFrame s) = held s ∧ pause (countLowFrame s) = pause s := by
      unfold countLowFrame
      split_ifs <;> exact ⟨rfl, rfl⟩
    by_cases later : 0 < s.control.pulseEnd.toNat
    · rw [if_pos later, if_pos later]
      dsimp only
      by_cases due : pulseDue (countLowFrame s) = true
      · rw [if_pos due, if_pos due]
        exact (led _).behind counted.1 counted.2
      · rw [if_neg due, if_neg due]
        exact Led.quiet counted.1 counted.2
    · rw [if_neg later, if_neg later]
      exact led s

theorem runMode_led (s : Source) : Led s (modeArgument s) (runMode s) := by
  unfold modeArgument runMode
  cases s.control.mode with
  | micro => exact paced_led microPulse_led s
  | fine =>
    have led := paced_led finePulse_led { s with near := { s.near with forwardActive := false } }
    exact led.behind rfl rfl
  | coarse =>
    dsimp only
    unfold coarseMode
    split_ifs <;> exact Led.quiet rfl rfl
  | hold => exact Led.quiet rfl rfl
  | stop => exact Led.quiet rfl rfl
  | emergency => exact Led.quiet rfl rfl

/-! ### One accepted value -/

/-- The statics behind the gate near the target: a new frame is marked and remembered. -/
theorem gated_held (s : Source) : held (gated s) =
    if s.feedbackStamp ≠ s.near.feedbackStamp then
      { held s with nearStamp := s.feedbackStamp, lastPressure := s.control.current }
    else held s := by
  unfold gated nearGate
  dsimp only
  by_cases fresh : s.feedbackStamp ≠ s.near.feedbackStamp
  · rw [if_pos fresh, if_pos fresh]
    unfold haltOnJump brakeAtTarget
    split_ifs <;> rfl
  · rw [if_neg fresh, if_neg fresh]
    rfl

def Jumps (s : Source) : Prop :=
  s.feedbackStamp ≠ s.near.feedbackStamp ∧ 0 ≤ s.near.lastPressure ∧ s.control.target * (2 / 5) ≤ s.control.current ∧
    20 < |s.control.current - s.near.lastPressure|

theorem gated_pause (s : Source) : (Jumps s → pause (gated s) = (true, s.now)) ∧ (¬Jumps s → pause (gated s) = pause s) := by
  unfold gated nearGate
  dsimp only
  by_cases fresh : s.feedbackStamp ≠ s.near.feedbackStamp
  · rw [if_pos fresh]
    generalize marked : brakeAtTarget (markNear _) = t
    have same : held t = { held s with nearStamp := s.feedbackStamp } ∧ pause t = pause s := by
      rw [← marked]
      unfold brakeAtTarget
      split_ifs <;> exact ⟨rfl, rfl⟩
    have rule : jumpedNear t = true ↔ Jumps s := by
      have target : t.control.target = s.control.target := congrArg Held.target same.1
      have current : t.control.current = s.control.current := congrArg Held.current same.1
      have last : t.near.lastPressure = s.near.lastPressure := congrArg Held.lastPressure same.1
      unfold jumpedNear Jumps
      rw [decide_eq_true_iff, target, current, last]
      exact ⟨fun jump => ⟨fresh, jump⟩, fun jump => jump.2⟩
    have now : t.now = s.now := congrArg Held.now same.1
    unfold haltOnJump
    by_cases jump : jumpedNear t = true
    · rw [if_pos jump, ← now]
      exact ⟨fun _ => rfl, fun calm => absurd (rule.mp jump) calm⟩
    · rw [if_neg jump]
      exact ⟨fun jumps => absurd (rule.mpr jumps) jump, fun _ => same.2⟩
  · rw [if_neg fresh]
    exact ⟨fun jumps => absurd jumps.1 fresh, fun _ => rfl⟩

theorem entered_held (s : Source) : held (entered s) = held s ∧ (entered s).near.wait = false := by
  unfold entered enterMode fallBack
  dsimp only
  split_ifs <;> exact ⟨rfl, rfl⟩

/-- What an update makes of an accepted value: a halt, a brake inside a running pause, or a mode. -/
inductive Outcome (s : Source) (t : Source) : Prop
  | halted (halted : Halted s.now t)
  | paused (calm : ¬Jumps s) (unasked : regulateArgument s = none) (same : pause t = pause s)
      (running : pausing s = true) (action : t.out.action = .brake) (command : t.out.command = 0)
  | free (calm : ¬Jumps s) (unalarmed : ∀ u ∈ regulateArgument s, ¬Alarmed u) (over_ : pausing s = false)
      (ended : t.near.wait = false)

theorem regulate_outcome (s : Source) : Outcome s (regulate s) := by
  have whole : regulate s = if pausing (gated s) then (gated s).brake else runMode (entered (gated s)) := rfl
  obtain ⟨jumped, calm⟩ := gated_pause s
  have now : (gated s).now = s.now := by
    have same := congrArg Held.now (gated_held s)
    split_ifs at same <;> exact same
  rw [whole]
  by_cases jump : Jumps s
  · have halts : pausing (gated s) = true := by
      have held_ := jumped jump
      have wait : (gated s).near.wait = true := congrArg Prod.fst held_
      have start : (gated s).near.pauseStart = s.now := congrArg Prod.snd held_
      unfold pausing Source.since
      rw [wait, start, now]
      simp
    rw [if_pos halts]
    exact .halted ⟨jumped jump, rfl, rfl⟩
  · have same := calm jump
    have alike : pausing (gated s) = pausing s := by
      have wait : (gated s).near.wait = s.near.wait := congrArg Prod.fst same
      have start : (gated s).near.pauseStart = s.near.pauseStart := congrArg Prod.snd same
      unfold pausing Source.since
      rw [wait, start, now]
    by_cases running : pausing s = true
    · have argument : regulateArgument s = none := if_pos (alike.trans running)
      rw [if_pos (alike.trans running)]
      exact .paused jump argument same running rfl rfl
    · have argument : regulateArgument s = modeArgument (entered (gated s)) := if_neg (fun on => running (alike ▸ on))
      rw [if_neg (fun on => running (alike ▸ on))]
      have led := runMode_led (entered (gated s))
      rw [← argument] at led
      have entered_ := entered_held (gated s)
      by_cases alarm : ∃ u ∈ regulateArgument s, Alarmed u
      · obtain ⟨u, asked, alarmed⟩ := alarm
        have halted := led.alarmed u asked alarmed
        have clock : (entered (gated s)).now = s.now := (congrArg Held.now entered_.1).trans now
        rw [clock] at halted
        exact .halted halted
      · have unalarmed : ∀ u ∈ regulateArgument s, ¬Alarmed u := fun u asked alarmed => alarm ⟨u, asked, alarmed⟩
        have kept : (runMode (entered (gated s))).near.wait = (entered (gated s)).near.wait :=
          congrArg Prod.fst (led.calm unalarmed)
        exact .free jump unalarmed (by simpa using running) (kept.trans entered_.2)

theorem regulate_held (s : Source) : held (regulate s) = held (gated s) := by
  have whole : regulate s = if pausing (gated s) then (gated s).brake else runMode (entered (gated s)) := rfl
  rw [whole]
  split_ifs
  · rfl
  · exact (runMode_led _).held.trans (entered_held _).1

end Sd700.Pressure.Pause

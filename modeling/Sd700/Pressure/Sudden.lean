import Sd700.Pressure.Pause

/-! Sudden forces over a whole build. The history holds the processed frames, newest first; whether a value was
confirmed, and which frames asked for a pause, is read off it. -/

namespace Sd700.Pressure.Sudden
open Build.Contract State Adapt Update Envelope Ladder Pause Logic.Modular

/-! ### Histories -/

/-- A processed frame, with its unwrapped time and the statics it came to. -/
structure Seen where
  time : ℕ
  frame : Frame
  before : Source

def Seen.used (e : Seen) : ℚ := (step e.frame e.before).1.control.current

def Seen.accepted (e : Seen) : Bool := e.used = e.frame.measured

/-- A frame is new when its receive time differs from that of the frame processed before. -/
def isNew : List Seen → Frame → Bool
  | [], _ => true
  | e :: _, f => f.received ≠ e.frame.received

def fresh : List Seen → List Seen
  | [] => []
  | e :: h => if isNew h e.frame then e :: fresh h else fresh h

def lastAccepted (h : List Seen) : Option Seen := (fresh h).find? Seen.accepted

/-- A frame is processed when `ForceBuildSource_Step` hands it on and 10 ms have passed since the one before. -/
def Processed (t : ℕ) (h : List Seen) (f : Frame) (s : Source) : Prop :=
  ¬f.ignored s ∧ f.measured < s.control.target ∧ ∀ e ∈ h.head?, e.time + 10 ≤ t

instance (t : ℕ) (h : List Seen) (f : Frame) (s : Source) : Decidable (Processed t h f s) :=
  inferInstanceAs (Decidable (_ ∧ _ ∧ _))

def record (t : ℕ) (h : List Seen) (f : Frame) (s : Source) : List Seen :=
  if Processed t h f s then ⟨t, f, s⟩ :: h else h

/-- The value is the third of three new frames in a row, the last two unconfirmed, all within 5 N of the first. -/
def Third (h : List Seen) (value : ℚ) : Prop :=
  ∃ second first older, fresh h = second :: first :: older ∧ second.accepted = false ∧ first.accepted = false ∧
    |second.frame.measured - first.frame.measured| ≤ 5 ∧ |value - first.frame.measured| ≤ 5

/-- What asks for a pause: an unconfirmed value, a jump of more than 20 N near the target, or an answer of the ladder
above 4 N, above 2 N in the last 10 N. -/
inductive Alerts (target : ℚ) (e : Seen) (h : List Seen) : Prop
  | unconfirmed (newest : Seen) (head : (fresh (e :: h)).head? = some newest) (refused : newest.accepted = false)
  | jump (last : Seen) (new : isNew h e.frame = true) (taken : e.accepted = true) (known : lastAccepted h = some last)
      (near : target * (2 / 5) ≤ e.frame.measured) (far : 20 < |e.frame.measured - last.frame.measured|)
  | answer (u : Source) (asked : argument e.frame e.before = some u) (strong : Alarmed u)

inductive Fed (target : ℚ) (start : ℕ) (allowed : ℕ → List Seen → Frame → Source → Prop) :
    ℕ → List Seen → Source → Prop
  | reset (s : Source) : Fed target start allowed start [] (reset target (stamp 32 start) s)
  | frame {t t' : ℕ} {h : List Seen} {s : Source} {f : Frame} (fed : Fed target start allowed t h s) (later : t ≤ t')
      (clock : f.now = stamp 32 t') (fits : allowed t' h f s) :
      Fed target start allowed t' (record t' h f s) (step f s).1

/-- No push on a sudden force: a far value is used as the third of three, and no pulse or approach is decided within
400 ms of what asks for a pause. -/
structure Guarded (target : ℚ) (t : ℕ) (h : List Seen) (f : Frame) (s : Source) : Prop where
  used : ∀ last, lastAccepted h = some last →
    80 < |(step f s).1.control.current - last.frame.measured| →
      Processed t h f s ∧ isNew h f = true ∧ (step f s).1.control.current = f.measured ∧ Third h f.measured
  still : (step f s).2.action = .pulse ∨ (step f s).2.action = .approach →
    ∀ e older, e :: older <:+ record t h f s → Alerts target e older → e.time + 400 ≤ t

/-- The tick `last_control_time` stands at. -/
def lastTick (start : ℕ) : List Seen → U32
  | [] => stamp 32 start - 10
  | e :: _ => e.frame.now

/-- The frames on which the code keeps its guard: no first frame received at tick zero, no new frame with the receive
time of the last accepted one, and none that the wrapped clock takes for an early one. -/
structure Regular (start t : ℕ) (h : List Seen) (f : Frame) : Prop where
  first : h = [] → f.received ≠ 0
  back : isNew h f = true → ∀ last ∈ lastAccepted h, f.received ≠ last.frame.received
  tick : 10 ≤ (f.now - lastTick start h).toNat

def Allowed (start t : ℕ) (h : List Seen) (f : Frame) (s : Source) : Prop := Processed t h f s → Regular start t h f

/-! ### The jump filter -/

variable {stamp_ : U32} {raw : ℚ} {g : Glitch}

theorem filterGlitch_repeat (same : stamp_ = g.feedbackStamp) (known : 0 ≤ g.lastValid) :
    filterGlitch stamp_ raw g = (g, g.lastValid) := by
  unfold filterGlitch
  rw [if_neg (fun new => new same), if_pos known]

theorem filterGlitch_plain (new : stamp_ ≠ g.feedbackStamp) (near : suspectFrame raw g = false) :
    filterGlitch stamp_ raw g = (⟨raw, 0, -1, stamp_⟩, raw) := by
  have plain : ¬suspectFrame raw { g with feedbackStamp := stamp_ } = true := by
    intro suspect
    exact absurd (near.symm.trans suspect) (nomatch ·)
  unfold filterGlitch
  rw [if_pos new]
  dsimp only
  rw [if_neg plain]

theorem filterGlitch_opened (new : stamp_ ≠ g.feedbackStamp) (suspect : suspectFrame raw g = true)
    (far : g.candidate < 0 ∨ 5 < |raw - g.candidate|) :
    filterGlitch stamp_ raw g = (⟨g.lastValid, 1, raw, stamp_⟩, g.lastValid) := by
  have suspect_ : suspectFrame raw { g with feedbackStamp := stamp_ } = true := suspect
  have count : glitchCount raw { g with feedbackStamp := stamp_ } = 1 := if_pos far
  unfold filterGlitch
  rw [if_pos new]
  dsimp only
  rw [if_pos suspect_, count, if_pos (by omega), if_pos far]

theorem filterGlitch_counted (new : stamp_ ≠ g.feedbackStamp) (suspect : suspectFrame raw g = true)
    (near : ¬(g.candidate < 0 ∨ 5 < |raw - g.candidate|)) (once : g.cnt = 1) :
    filterGlitch stamp_ raw g = (⟨g.lastValid, 2, g.candidate, stamp_⟩, g.lastValid) := by
  have suspect_ : suspectFrame raw { g with feedbackStamp := stamp_ } = true := suspect
  have count : glitchCount raw { g with feedbackStamp := stamp_ } = 2 := by
    have counted : glitchCount raw { g with feedbackStamp := stamp_ } = u8 (g.cnt + 1) := if_neg near
    rw [counted, once]
    rfl
  unfold filterGlitch
  rw [if_pos new]
  dsimp only
  rw [if_pos suspect_, count, if_pos (by omega), if_neg near]

theorem filterGlitch_confirmed (new : stamp_ ≠ g.feedbackStamp) (suspect : suspectFrame raw g = true)
    (near : ¬(g.candidate < 0 ∨ 5 < |raw - g.candidate|)) (twice : g.cnt = 2) :
    filterGlitch stamp_ raw g = (⟨raw, 0, -1, stamp_⟩, raw) := by
  have suspect_ : suspectFrame raw { g with feedbackStamp := stamp_ } = true := suspect
  have count : glitchCount raw { g with feedbackStamp := stamp_ } = 3 := by
    have counted : glitchCount raw { g with feedbackStamp := stamp_ } = u8 (g.cnt + 1) := if_neg near
    rw [counted, twice]
    rfl
  unfold filterGlitch
  rw [if_pos new]
  dsimp only
  rw [if_pos suspect_, count, if_neg (by omega)]

/-! ### One frame -/

variable {s : Source} {f : Frame} {t : ℕ} {h : List Seen} {target : ℚ} {start : ℕ}

def entry (f : Frame) (s : Source) : Source :=
  { (filtered (latchFrame f s)).1 with
    control := { (filtered (latchFrame f s)).1.control with current := (filtered (latchFrame f s)).2 } }

structure Due (f : Frame) (s : Source) : Prop where
  handed : ¬f.ignored s
  below : f.measured < s.control.target
  ready : s.ready = true
  interval : s.control.intervalMs = 10
  tick : 10 ≤ (f.now - s.control.lastControlTime).toNat

theorem Due.update (due : Due f s) : update (latchFrame f s) = processFrame (latchFrame f s) ∧
    updateArgument (latchFrame f s) = processArgument (latchFrame f s) := by
  have ready : ¬¬(latchFrame f s).ready = true := not_not_intro due.ready
  have fast : ¬500 < Source.since (latchFrame f s) (latchFrame f s).feedbackStamp := by
    have handed := due.handed
    unfold Frame.ignored at handed
    change ¬500 < (f.now - f.received).toNat
    omega
  have tick : ¬((latchFrame f s).now - (latchFrame f s).control.lastControlTime).toNat <
      (latchFrame f s).control.intervalMs.toNat := by
    have ten : (latchFrame f s).control.intervalMs.toNat = 10 := by
      rw [show (latchFrame f s).control.intervalMs = 10 from due.interval]
      rfl
    rw [ten]
    exact not_lt.mpr due.tick
  unfold Update.update updateArgument
  rw [if_neg ready, if_neg fast, if_neg tick, if_neg ready, if_neg fast, if_neg tick]
  exact ⟨rfl, rfl⟩

theorem Due.step (due : Due f s) : step f s = (processFrame (latchFrame f s), readDecision (processFrame (latchFrame f s))) ∧
    argument f s = processArgument (latchFrame f s) := by
  have below : ¬(latchFrame f s).control.target ≤ f.measured := not_le.mpr due.below
  unfold Update.step argument
  rw [if_neg due.handed, if_neg due.handed]
  dsimp only
  rw [if_neg below, if_neg below, due.update.1, due.update.2]
  exact ⟨rfl, rfl⟩

theorem readDecision_brake {u : Source} (action : u.out.action = .brake) (command : u.out.command = 0) :
    (readDecision u).action = .brake := by
  unfold readDecision
  dsimp only
  rw [if_neg (fun both => absurd (command.symm.trans both.2) (by norm_num)), action]

/-- A suspect value that is not confirmed halts, whatever it is worth. -/
theorem Due.suspect (due : Due f s) (counting : 0 < (filterGlitch f.received f.measured s.glitch).1.cnt) :
    held (Update.step f s).1 = { held s with
        glitch := (filterGlitch f.received f.measured s.glitch).1, lastControlTime := f.now, now := f.now } ∧
      Halted f.now (Update.step f s).1 ∧ (Update.step f s).2.action = .brake ∧ argument f s = none := by
  have counting_ : 0 < (filtered (latchFrame f s)).1.glitch.cnt := counting
  have whole : processFrame (latchFrame f s) = { haltForJump (filtered (latchFrame f s)).1 with
      near := { (haltForJump (filtered (latchFrame f s)).1).near with forwardActive := false } } := if_pos counting_
  have unasked : processArgument (latchFrame f s) = none := if_pos counting_
  rw [due.step.1, due.step.2, unasked]
  dsimp only
  rw [whole]
  exact ⟨rfl, ⟨rfl, rfl, rfl⟩, readDecision_brake rfl rfl, rfl⟩

theorem Due.regulated (due : Due f s) (settled : (filterGlitch f.received f.measured s.glitch).1.cnt = 0) :
    Update.step f s = (regulate (entry f s), readDecision (regulate (entry f s))) ∧
      argument f s = regulateArgument (entry f s) := by
  have settled_ : ¬0 < (filtered (latchFrame f s)).1.glitch.cnt := by
    have same : (filtered (latchFrame f s)).1.glitch.cnt = (filterGlitch f.received f.measured s.glitch).1.cnt := rfl
    omega
  have whole : processFrame (latchFrame f s) = regulate (entry f s) := if_neg settled_
  have asked : processArgument (latchFrame f s) = regulateArgument (entry f s) := if_neg settled_
  rw [due.step.1, due.step.2, whole, asked]
  exact ⟨rfl, rfl⟩

theorem entry_held (f : Frame) (s : Source) : held (entry f s) = { held s with
    glitch := (filterGlitch f.received f.measured s.glitch).1
    current := (filterGlitch f.received f.measured s.glitch).2, lastControlTime := f.now, now := f.now } := rfl

/-- A frame that is turned away, ends the build or comes early decides nothing and leaves the filters alone. -/
theorem step_idle (ready : s.ready = true) (interval : s.control.intervalMs = 10)
    (idle : f.ignored s ∨ s.control.target ≤ f.measured ∨ (f.now - s.control.lastControlTime).toNat < 10) :
    held (step f s).1 = { held s with now := (step f s).1.now } ∧ pause (step f s).1 = pause s ∧
      (step f s).2.action ≠ .pulse ∧ (step f s).2.action ≠ .approach := by
  unfold step
  by_cases ignored : f.ignored s
  · rw [if_pos ignored]
    exact ⟨rfl, rfl, (nomatch ·), (nomatch ·)⟩
  · rw [if_neg ignored]
    dsimp only
    by_cases reached : (latchFrame f s).control.target ≤ f.measured
    · rw [if_pos reached]
      exact ⟨rfl, rfl, (nomatch ·), (nomatch ·)⟩
    · have early : (f.now - s.control.lastControlTime).toNat < 10 := by
        rcases idle with out | at_ | early
        · exact absurd out ignored
        · exact absurd at_ reached
        · exact early
      have fast : ¬500 < Source.since (latchFrame f s) (latchFrame f s).feedbackStamp := by
        unfold Frame.ignored at ignored
        change ¬500 < (f.now - f.received).toNat
        omega
      have same : update (latchFrame f s) = latchFrame f s := by
        have ten : (latchFrame f s).control.intervalMs.toNat = 10 := by
          rw [show (latchFrame f s).control.intervalMs = 10 from interval]
          rfl
        have ready_ : ¬¬(latchFrame f s).ready = true := not_not_intro ready
        have early_ : ((latchFrame f s).now - (latchFrame f s).control.lastControlTime).toNat <
            (latchFrame f s).control.intervalMs.toNat := by
          rw [ten]
          exact early
        unfold update
        rw [if_neg ready_, if_neg fast, if_pos early_]
      rw [if_neg reached, same]
      have waits : (readDecision (latchFrame f s)).action = .wait := by
        unfold readDecision
        dsimp only
        have still : ¬(latchFrame f s).out.command = 5000 := by
          change ¬(0 : ℤ) = 5000
          norm_num
        rw [if_neg (fun both => still both.2)]
        rfl
      rw [waits]
      exact ⟨rfl, rfl, (nomatch ·), (nomatch ·)⟩

/-! ### The invariant -/

inductive Candidates : List Seen → Glitch → Prop
  | none {l : List Seen} {g : Glitch} (count : g.cnt = 0) (clear : g.candidate = -1)
      (taken : ∀ e ∈ l.head?, e.accepted = true) : Candidates l g
  | one {e : Seen} {older : List Seen} {g : Glitch} (count : g.cnt = 1) (refused : e.accepted = false)
      (candidate : g.candidate = e.frame.measured) (positive : 0 ≤ e.frame.measured) : Candidates (e :: older) g
  | two {second first : Seen} {older : List Seen} {g : Glitch} (count : g.cnt = 2) (second_ : second.accepted = false)
      (first_ : first.accepted = false) (candidate : g.candidate = first.frame.measured)
      (positive : 0 ≤ first.frame.measured) (close : |second.frame.measured - first.frame.measured| ≤ 5) :
      Candidates (second :: first :: older) g

structure Known (h : List Seen) (k : Held) (last : Seen) : Prop where
  found : lastAccepted h = some last
  positive : 0 ≤ last.frame.measured
  valid : k.glitch.lastValid = last.frame.measured
  current : k.current = last.frame.measured
  pressure : k.lastPressure = last.frame.measured
  nearStamp : k.nearStamp = last.frame.received

structure Kept (target : ℚ) (start : ℕ) (h : List Seen) (k : Held) : Prop where
  ready : k.ready = true
  interval : k.intervalMs = 10
  aimed : k.target = target
  tick : k.lastControlTime = lastTick start h
  candidates : Candidates (fresh h) k.glitch
  empty : h = [] → k.glitch = Glitch.initial ∧ k.lastPressure = -1 ∧ k.nearStamp = 0
  known : h ≠ [] → ∃ last, Known h k last
  newest : ∀ e ∈ (fresh h).head?, k.glitch.feedbackStamp = e.frame.received
  previous : ∀ e ∈ h.head?, k.glitch.feedbackStamp = e.frame.received

/-- The pause that a frame at `time` has asked for runs, or has run out. -/
def Paused (t time : ℕ) (s : Source) : Prop :=
  (∃ p, time ≤ p ∧ p ≤ t ∧ pause s = (true, stamp 32 p)) ∨ time + 400 ≤ t

inductive Met (t : ℕ) (h : List Seen) (f : Frame) (s : Source) : Prop
  | repeated (old : isNew h f = false) (known : 0 ≤ s.glitch.lastValid) (stamp_ : f.received = s.glitch.feedbackStamp)
  | refused (new : isNew h f = true) (known : 0 ≤ s.glitch.lastValid) (far : 80 < |f.measured - s.glitch.lastValid|)
      (count : 0 < (filterGlitch f.received f.measured s.glitch).1.cnt)
      (stamp_ : (filterGlitch f.received f.measured s.glitch).1.feedbackStamp = f.received)
      (valid : (filterGlitch f.received f.measured s.glitch).1.lastValid = s.glitch.lastValid)
      (candidates : ∀ e : Seen, e.frame = f → e.accepted = false →
        Candidates (e :: fresh h) (filterGlitch f.received f.measured s.glitch).1)
  | taken (new : isNew h f = true) (filtered : filterGlitch f.received f.measured s.glitch = (⟨f.measured, 0, -1, f.received⟩, f.measured))
      (third : 0 ≤ s.glitch.lastValid → 80 < |f.measured - s.glitch.lastValid| → Third h f.measured)

theorem met (kept : Kept target start h (held s)) (regular : Regular start t h f) (measured : 0 ≤ f.measured) : Met t h f s := by
  cases h with
  | nil =>
    obtain ⟨glitch, _, _⟩ := kept.empty rfl
    have glitch : s.glitch = Glitch.initial := glitch
    have unknown : s.glitch.lastValid = -1 := by rw [glitch]; rfl
    refine .taken rfl ?_ (fun known => absurd known (by rw [unknown]; norm_num))
    apply filterGlitch_plain
    · rw [glitch]
      exact regular.first rfl
    · unfold suspectFrame
      rw [decide_eq_false_iff_not, unknown]
      exact fun both => absurd both.1 (by norm_num)
  | cons p older =>
    obtain ⟨last, known⟩ := kept.known (List.cons_ne_nil _ _)
    have previous : s.glitch.feedbackStamp = p.frame.received := kept.previous p rfl
    have valid : 0 ≤ s.glitch.lastValid := by
      rw [show s.glitch.lastValid = last.frame.measured from known.valid]
      exact known.positive
    by_cases old : f.received = p.frame.received
    · exact .repeated (by simp [isNew, old]) valid (old.trans previous.symm)
    · have new : isNew (p :: older) f = true := by simp [isNew, old]
      have new_ : f.received ≠ s.glitch.feedbackStamp := fun same => old (same.trans previous)
      by_cases suspect : suspectFrame f.measured s.glitch = true
      · have far : 80 < |f.measured - s.glitch.lastValid| := (of_decide_eq_true suspect).2
        by_cases opens : s.glitch.candidate < 0 ∨ 5 < |f.measured - s.glitch.candidate|
        · have result := filterGlitch_opened new_ suspect opens
          refine .refused new valid far ?_ ?_ ?_ ?_
          · rw [result]
            exact Nat.one_pos
          · rw [result]
          · rw [result]
          · intro e frame refused
            rw [result]
            exact .one rfl refused (by rw [frame]) (by rw [frame]; exact measured)
        · have candidates := kept.candidates
          generalize listed : fresh (p :: older) = l at candidates
          have close := (not_or.mp opens).2
          rw [not_lt] at close
          cases candidates with
          | none _ clear _ =>
            have clear : s.glitch.candidate = -1 := clear
            exact absurd (Or.inl (by rw [clear]; norm_num)) opens
          | one once refused candidate positive =>
            rename_i first rest
            have once : s.glitch.cnt = 1 := once
            have candidate : s.glitch.candidate = first.frame.measured := candidate
            have result := filterGlitch_counted new_ suspect opens once
            rw [candidate] at close
            refine .refused new valid far ?_ ?_ ?_ ?_
            · rw [result]
              exact Nat.two_pos
            · rw [result]
            · rw [result]
            · intro e frame refused_
              rw [result, listed]
              exact .two rfl refused_ refused candidate positive (by rw [frame]; exact close)
          | two twice second_ first_ candidate positive near =>
            rename_i second first rest
            have twice : s.glitch.cnt = 2 := twice
            have candidate : s.glitch.candidate = first.frame.measured := candidate
            rw [candidate] at close
            refine .taken new (filterGlitch_confirmed new_ suspect opens twice) (fun _ _ => ?_)
            exact ⟨second, first, rest, listed, second_, first_, near, close⟩
      · have result := filterGlitch_plain new_ (by simpa using suspect)
        refine .taken new result (fun _ far => absurd ?_ suspect)
        exact decide_eq_true ⟨valid, far⟩

/-- Where the regulation finds nothing new, the gate near the target is shut. -/
theorem Due.settled (due : Due f s) (settled : (filterGlitch f.received f.measured s.glitch).1.cnt = 0) :
    held (Update.step f s).1 = if f.received ≠ s.near.feedbackStamp then
        { held (entry f s) with nearStamp := f.received, lastPressure := (entry f s).control.current }
      else held (entry f s) := by
  rw [(due.regulated settled).1]
  dsimp only
  rw [regulate_held, gated_held]
  rfl

theorem accepted_of_used {e : Seen} (used : e.used = e.frame.measured) : e.accepted = true := decide_eq_true used

theorem refused_of_used {e : Seen} (used : e.used ≠ e.frame.measured) : e.accepted = false := decide_eq_false used

theorem lastAccepted_taken {e : Seen} (new : isNew h e.frame = true) (taken : e.accepted = true) :
    lastAccepted (e :: h) = some e := by
  unfold lastAccepted fresh
  rw [if_pos new, List.find?_cons_of_pos taken]

theorem lastAccepted_refused {e : Seen} (refused : e.accepted = false) : lastAccepted (e :: h) = lastAccepted h := by
  unfold lastAccepted
  rw [fresh]
  by_cases new : isNew h e.frame = true
  · rw [if_pos new, List.find?_cons_of_neg (by simp [refused])]
  · rw [if_neg new]

theorem lastAccepted_old {e : Seen} (old : isNew h e.frame = false) : lastAccepted (e :: h) = lastAccepted h := by
  unfold lastAccepted
  rw [fresh, if_neg (by simp [old])]

theorem fresh_head {e : Seen} : ∃ newest, (fresh (e :: h)).head? = some newest := by
  induction h generalizing e with
  | nil => exact ⟨e, rfl⟩
  | cons p older ih =>
    unfold fresh
    by_cases new : isNew (p :: older) e.frame = true
    · exact ⟨e, by rw [if_pos new]; rfl⟩
    · rw [if_neg new]
      exact ih

theorem lastAccepted_newest {newest : Seen} (head : (fresh h).head? = some newest) (taken : newest.accepted = true) :
    lastAccepted h = some newest := by
  unfold lastAccepted
  cases listed : fresh h with
  | nil =>
    rw [listed] at head
    contradiction
  | cons e rest =>
    rw [listed] at head
    obtain rfl := Option.some.inj head
    exact List.find?_cons_of_pos taken

theorem kept_processed (kept : Kept target start h (held s)) (regular : Regular start t h f) (due : Due f s) :
    Kept target start (⟨t, f, s⟩ :: h) (held (step f s).1) := by
  have measured : 0 ≤ f.measured := by
    have handed := due.handed
    unfold Frame.ignored at handed
    exact not_lt.mp (not_or.mp handed).1
  have aimed : s.control.target = target := kept.aimed
  cases @met s f t h target start kept regular measured with
  | repeated old known same =>
    have result : filterGlitch f.received f.measured s.glitch = (s.glitch, s.glitch.lastValid) :=
      filterGlitch_repeat same known
    have listed : fresh (⟨t, f, s⟩ :: h) = fresh h := if_neg (by simp [old])
    have found : lastAccepted (⟨t, f, s⟩ :: h) = lastAccepted h := lastAccepted_old old
    cases h with
    | nil => contradiction
    | cons p older =>
      obtain ⟨last, held_⟩ := kept.known (List.cons_ne_nil _ _)
      have valid : s.glitch.lastValid = last.frame.measured := held_.valid
      have after : held (step f s).1 = { held s with lastControlTime := f.now, now := f.now } := by
        by_cases counting : 0 < s.glitch.cnt
        · have suspect := due.suspect (by rw [result]; exact counting)
          rw [suspect.1, result]
          rfl
        · have settled := due.settled (by rw [result]; exact Nat.eq_zero_of_not_pos counting)
          have shut : s.near.feedbackStamp = f.received := by
            obtain ⟨newest, head⟩ := @fresh_head older p
            have taken : newest.accepted = true := by
              have candidates := kept.candidates
              generalize fresh (p :: older) = l at candidates head
              cases candidates with
              | none _ _ taken => exact taken newest head
              | one once =>
                have once : s.glitch.cnt = 1 := once
                omega
              | two twice =>
                have twice : s.glitch.cnt = 2 := twice
                omega
            have stamp_ : s.glitch.feedbackStamp = newest.frame.received := kept.newest newest head
            have same_ : last = newest :=
              Option.some.inj (held_.found.symm.trans (lastAccepted_newest head taken))
            rw [show s.near.feedbackStamp = last.frame.received from held_.nearStamp, same_, ← stamp_, same]
          rw [if_neg (fun new => new shut.symm), entry_held, result] at settled
          rw [settled, valid]
          have current : (held s).current = last.frame.measured := held_.current
          rw [← current]
          rfl
      rw [after]
      refine ⟨kept.ready, kept.interval, aimed, rfl, ?_, (nomatch ·), fun _ => ⟨last, ?_⟩, ?_, ?_⟩
      · rw [listed]
        exact kept.candidates
      · exact ⟨found.trans held_.found, held_.positive, held_.valid, held_.current, held_.pressure, held_.nearStamp⟩
      · rw [listed]
        exact kept.newest
      · intro e head
        obtain rfl := Option.some.inj head
        exact same.symm
  | refused new known far count stamp_ valid candidates =>
    have suspect := due.suspect count
    have used : Seen.used ⟨t, f, s⟩ = s.control.current := congrArg Held.current suspect.1
    have nonempty : h ≠ [] := by
      intro empty
      obtain ⟨glitch, _, _⟩ := kept.empty empty
      have glitch : s.glitch = Glitch.initial := glitch
      rw [glitch] at known
      exact absurd known (by norm_num [Glitch.initial])
    obtain ⟨last, held_⟩ := kept.known nonempty
    have refused : Seen.accepted ⟨t, f, s⟩ = false := by
      apply refused_of_used
      rw [used, show s.control.current = last.frame.measured from held_.current]
      rw [show s.glitch.lastValid = last.frame.measured from held_.valid] at far
      intro same
      dsimp only at same
      rw [same, sub_self, abs_zero] at far
      exact absurd far (by norm_num)
    have listed : fresh (⟨t, f, s⟩ :: h) = ⟨t, f, s⟩ :: fresh h := if_pos new
    rw [suspect.1]
    refine ⟨kept.ready, kept.interval, aimed, rfl, ?_, (nomatch ·), fun _ => ⟨last, ?_⟩, ?_, ?_⟩
    · rw [listed]
      exact candidates ⟨t, f, s⟩ rfl refused
    · refine ⟨(lastAccepted_refused refused).trans held_.found, held_.positive, valid.trans held_.valid, held_.current,
        held_.pressure, held_.nearStamp⟩
    · rw [listed]
      intro e head
      obtain rfl := Option.some.inj head
      exact stamp_
    · intro e head
      obtain rfl := Option.some.inj head
      exact stamp_
  | taken new result third =>
    have zero : (filterGlitch f.received f.measured s.glitch).1.cnt = 0 := by rw [result]
    have settled := due.settled zero
    have apart : f.received ≠ s.near.feedbackStamp := by
      by_cases empty : h = []
      · rw [show s.near.feedbackStamp = 0 from (kept.empty empty).2.2]
        exact regular.first empty
      · obtain ⟨last, known⟩ := kept.known empty
        rw [show s.near.feedbackStamp = last.frame.received from known.nearStamp]
        exact regular.back new last known.found
    rw [if_pos apart, entry_held, result] at settled
    have current : (entry f s).control.current = f.measured := congrArg Prod.snd result
    rw [current] at settled
    have taken : Seen.accepted ⟨t, f, s⟩ = true := by
      apply accepted_of_used
      exact congrArg Held.current settled
    have listed : fresh (⟨t, f, s⟩ :: h) = ⟨t, f, s⟩ :: fresh h := if_pos new
    rw [settled]
    refine ⟨kept.ready, kept.interval, aimed, rfl, ?_, (nomatch ·), fun _ => ⟨⟨t, f, s⟩, ?_⟩, ?_, ?_⟩
    · rw [listed]
      refine .none rfl rfl ?_
      intro e head
      obtain rfl := Option.some.inj head
      exact taken
    · exact ⟨lastAccepted_taken new taken, measured, rfl, rfl, rfl, rfl⟩
    · rw [listed]
      intro e head
      obtain rfl := Option.some.inj head
      rfl
    · intro e head
      obtain rfl := Option.some.inj head
      rfl

/-! ### The pause -/

theorem alert_halts (kept : Kept target start h (held s)) (regular : Regular start t h f) (due : Due f s)
    (alert : Alerts target ⟨t, f, s⟩ h) : Halted f.now (step f s).1 := by
  by_cases counting : 0 < (filterGlitch f.received f.measured s.glitch).1.cnt
  · exact (due.suspect counting).2.1
  · have zero := Nat.eq_zero_of_not_pos counting
    obtain ⟨whole, asked⟩ := due.regulated zero
    have settled := due.settled zero
    have stops : Jumps (entry f s) ∨ ∃ u ∈ regulateArgument (entry f s), Alarmed u := by
      cases alert with
      | unconfirmed newest head refused =>
        exfalso
        have candidates := (@kept_processed s f t h target start kept regular due).candidates
        have count : (held (step f s).1).glitch.cnt = 0 := by
          rw [settled]
          split_ifs <;> exact zero
        generalize (held (step f s).1).glitch = g at candidates count
        generalize fresh (⟨t, f, s⟩ :: h) = l at candidates head
        cases candidates with
        | none _ _ taken => exact absurd ((taken newest head).symm.trans refused) (nomatch ·)
        | one once => omega
        | two twice => omega
      | jump last new taken known near far =>
        left
        have nonempty : h ≠ [] := by
          rintro rfl
          contradiction
        obtain ⟨last_, held_⟩ := kept.known nonempty
        obtain rfl : last_ = last := Option.some.inj (held_.found.symm.trans known)
        have current : (entry f s).control.current = f.measured := by
          have used : (held (step f s).1).current = f.measured := of_decide_eq_true taken
          rw [settled] at used
          split_ifs at used <;> exact used
        have apart : f.received ≠ s.near.feedbackStamp := by
          rw [show s.near.feedbackStamp = last_.frame.received from held_.nearStamp]
          exact regular.back new last_ known
        have pressure : (entry f s).near.lastPressure = last_.frame.measured := held_.pressure
        have aimed : (entry f s).control.target = target := kept.aimed
        refine ⟨apart, ?_, ?_, ?_⟩
        · rw [pressure]
          exact held_.positive
        · rw [aimed, current]
          exact near
        · rw [current, pressure]
          exact far
      | answer u asked_ strong =>
        right
        rw [asked] at asked_
        exact ⟨u, asked_, strong⟩
    rw [whole]
    cases regulate_outcome (entry f s) with
    | halted halted => exact halted
    | paused calm unasked =>
      rcases stops with jumps | ⟨u, asks, _⟩
      · exact absurd jumps calm
      · rw [unasked] at asks
        contradiction
    | free calm unalarmed =>
      rcases stops with jumps | ⟨u, asks, alarmed⟩
      · exact absurd jumps calm
      · exact absurd alarmed (unalarmed u asks)

/-- Behind a processed frame a pause starts, runs on, or has run out. -/
theorem pause_processed (due : Due f s) :
    Halted f.now (step f s).1 ∧ (step f s).2.action = .brake ∨
      pause (step f s).1 = pause s ∧ (step f s).2.action = .brake ∨
      ¬(s.near.wait = true ∧ (f.now - s.near.pauseStart).toNat < 400) := by
  by_cases counting : 0 < (filterGlitch f.received f.measured s.glitch).1.cnt
  · obtain ⟨_, halted, action, _⟩ := due.suspect counting
    exact Or.inl ⟨halted, action⟩
  · rw [(due.regulated (Nat.eq_zero_of_not_pos counting)).1]
    dsimp only
    cases regulate_outcome (entry f s) with
    | halted halted => exact Or.inl ⟨halted, readDecision_brake halted.action halted.command⟩
    | paused _ _ same _ action command => exact Or.inr (Or.inl ⟨same, readDecision_brake action command⟩)
    | free _ _ over_ _ =>
      right
      right
      intro running
      have on : pausing (entry f s) = true := by
        unfold pausing
        rw [Bool.and_eq_true, decide_eq_true_iff]
        exact running
      exact absurd (over_.symm.trans on) (nomatch ·)

/-! ### Runs -/

structure Reached (target : ℚ) (start t : ℕ) (h : List Seen) (s : Source) : Prop where
  kept : Kept target start h (held s)
  clock : ∀ e ∈ h.head?, e.frame.now = stamp 32 e.time ∧ e.time ≤ t
  paused : ∀ e older, e :: older <:+ h → Alerts target e older → Paused t e.time s

theorem reset_reached (target : ℚ) (start : ℕ) (s : Source) :
    Reached target start start [] (reset target (stamp 32 start) s) := by
  refine ⟨⟨rfl, rfl, rfl, rfl, .none rfl rfl ?_, fun _ => ⟨rfl, rfl, rfl⟩, fun wrong => absurd rfl wrong, ?_, ?_⟩, ?_, ?_⟩
  · exact fun _ wrong => nomatch wrong
  · exact fun _ wrong => nomatch wrong
  · exact fun _ wrong => nomatch wrong
  · exact fun _ wrong => nomatch wrong
  · intro e older suffix
    exact absurd (List.eq_nil_of_suffix_nil suffix) (List.cons_ne_nil _ _)

theorem Reached.due (reached : Reached target start t h s) {t' : ℕ} (processed : Processed t' h f s)
    (regular : Regular start t' h f) : Due f s := by
  have tick : s.control.lastControlTime = lastTick start h := reached.kept.tick
  refine ⟨processed.1, processed.2.1, reached.kept.ready, reached.kept.interval, ?_⟩
  rw [tick]
  exact regular.tick

theorem Reached.idle (reached : Reached target start t h s) {t' : ℕ} (later : t ≤ t') (clock : f.now = stamp 32 t')
    (unprocessed : ¬Processed t' h f s) :
    held (step f s).1 = { held s with now := (step f s).1.now } ∧ pause (step f s).1 = pause s ∧
      (step f s).2.action ≠ .pulse ∧ (step f s).2.action ≠ .approach := by
  apply step_idle reached.kept.ready reached.kept.interval
  by_cases ignored : f.ignored s
  · exact Or.inl ignored
  · by_cases at_ : s.control.target ≤ f.measured
    · exact Or.inr (Or.inl at_)
    · right
      right
      have early : ∃ e ∈ h.head?, t' < e.time + 10 := by
        by_contra none_
        apply unprocessed
        refine ⟨ignored, not_le.mp at_, ?_⟩
        intro e head
        by_contra soon
        exact none_ ⟨e, head, not_le.mp soon⟩
      obtain ⟨e, head, soon⟩ := early
      obtain ⟨stamped, past⟩ := reached.clock e head
      have tick : s.control.lastControlTime = stamp 32 e.time := by
        have tick : s.control.lastControlTime = lastTick start h := reached.kept.tick
        cases h with
        | nil => contradiction
        | cons p older =>
          obtain rfl := Option.some.inj head
          exact tick.trans stamped
      have least := @stamp_sub_le 32 e.time t' (past.trans later)
      rw [tick, clock]
      omega

/-- A pause that was asked for outlasts a frame, or the frame comes when it is over. -/
theorem Paused.step {time t' : ℕ} (paused : Paused t time s) (later : t ≤ t') (clock : f.now = stamp 32 t') (due : Due f s) :
    Paused t' time (step f s).1 ∧ ((step f s).2.action ≠ .brake → time + 400 ≤ t') := by
  rcases paused with ⟨p, since, past, running⟩ | done
  · have wait : s.near.wait = true := congrArg Prod.fst running
    have started : s.near.pauseStart = stamp 32 p := congrArg Prod.snd running
    rcases pause_processed due with ⟨halted, action⟩ | ⟨same, action⟩ | over_
    · refine ⟨Or.inl ⟨t', by omega, le_refl _, ?_⟩, fun wrong => absurd action wrong⟩
      rw [← clock]
      exact halted.pause
    · exact ⟨Or.inl ⟨p, since, past.trans later, same.trans running⟩, fun wrong => absurd action wrong⟩
    · have ended : p + 400 ≤ t' := by
        by_contra early
        apply over_
        refine ⟨wait, ?_⟩
        have least := @stamp_sub_le 32 p t' (past.trans later)
        rw [started, clock]
        omega
      exact ⟨Or.inr (by omega), fun _ => by omega⟩
  · exact ⟨Or.inr (by omega), fun _ => by omega⟩

theorem used_processed (kept : Kept target start h (held s)) (regular : Regular start t h f) (due : Due f s) {last : Seen}
    (known : Known h (held s) last) (far : 80 < |(step f s).1.control.current - last.frame.measured|) :
    isNew h f = true ∧ (step f s).1.control.current = f.measured ∧ Third h f.measured := by
  have measured : 0 ≤ f.measured := by
    have handed := due.handed
    unfold Frame.ignored at handed
    exact not_lt.mp (not_or.mp handed).1
  have valid : s.glitch.lastValid = last.frame.measured := known.valid
  have stays : (step f s).1.control.current = last.frame.measured → False := by
    intro same
    rw [same, sub_self, abs_zero] at far
    exact absurd far (by norm_num)
  cases @met s f t h target start kept regular measured with
  | repeated old _ _ =>
    exfalso
    obtain ⟨last', known'⟩ := (@kept_processed s f t h target start kept regular due).known (List.cons_ne_nil _ _)
    have found : lastAccepted h = some last' := (lastAccepted_old (e := ⟨t, f, s⟩) old).symm.trans known'.found
    obtain rfl := Option.some.inj (known.found.symm.trans found)
    exact stays known'.current
  | refused _ _ _ count _ _ _ =>
    exfalso
    have current : (step f s).1.control.current = s.control.current := congrArg Held.current (due.suspect count).1
    exact stays (current.trans known.current)
  | taken new result third =>
    have current : (step f s).1.control.current = f.measured := by
      have settled := congrArg Held.current (due.settled (by rw [result]))
      have entered_ : (entry f s).control.current = f.measured := congrArg Prod.snd result
      split_ifs at settled <;> exact settled.trans entered_
    rw [current, ← valid] at far
    have positive : 0 ≤ s.glitch.lastValid := by
      rw [valid]
      exact known.positive
    exact ⟨new, current, third positive far⟩

theorem Reached.known (reached : Reached target start t h s) {last : Seen} (found : lastAccepted h = some last) :
    Known h (held s) last := by
  have nonempty : h ≠ [] := by
    rintro rfl
    contradiction
  obtain ⟨last', known⟩ := reached.kept.known nonempty
  obtain rfl := Option.some.inj (known.found.symm.trans found)
  exact known

theorem Reached.frame (reached : Reached target start t h s) {t' : ℕ} (later : t ≤ t') (clock : f.now = stamp 32 t')
    (fits : Allowed start t' h f s) :
    Reached target start t' (record t' h f s) (step f s).1 ∧ Guarded target t' h f s := by
  have kept := reached.kept
  unfold record
  by_cases processed : Processed t' h f s
  · have regular := fits processed
    have due := reached.due processed regular
    have next := @kept_processed s f t' h target start kept regular due
    have pauses : ∀ e older, e :: older <:+ ⟨t', f, s⟩ :: h → Alerts target e older →
        Paused t' e.time (step f s).1 ∧ ((step f s).2.action ≠ .brake → e.time + 400 ≤ t') := by
      intro e older suffix alert
      rcases List.suffix_cons_iff.mp suffix with same | within
      · obtain ⟨rfl, rfl⟩ := List.cons.inj same
        have halted := alert_halts kept regular due alert
        refine ⟨Or.inl ⟨t', le_refl _, le_refl _, ?_⟩, ?_⟩
        · rw [← clock]
          exact halted.pause
        · intro moves
          exfalso
          apply moves
          rw [due.step.1] at halted ⊢
          exact readDecision_brake halted.action halted.command
      · exact (reached.paused e older within alert).step later clock due
    rw [if_pos processed]
    refine ⟨⟨next, ?_, fun e older suffix alert => (pauses e older suffix alert).1⟩, ⟨?_, ?_⟩⟩
    · intro e head
      obtain rfl := Option.some.inj head
      exact ⟨clock, le_refl _⟩
    · intro last found far
      exact ⟨processed, used_processed kept regular due (reached.known found) far⟩
    · intro moves e older suffix alert
      unfold record at suffix
      rw [if_pos processed] at suffix
      apply (pauses e older suffix alert).2
      rcases moves with pulse | approach
      · rw [pulse]
        exact (nomatch ·)
      · rw [approach]
        exact (nomatch ·)
  · obtain ⟨same, paused, pulse, approach⟩ := reached.idle later clock processed
    rw [if_neg processed]
    refine ⟨⟨?_, ?_, ?_⟩, ⟨?_, ?_⟩⟩
    · rw [same]
      exact ⟨kept.ready, kept.interval, kept.aimed, kept.tick, kept.candidates, kept.empty,
        fun nonempty => (kept.known nonempty).imp fun _ known =>
          ⟨known.found, known.positive, known.valid, known.current, known.pressure, known.nearStamp⟩,
        kept.newest, kept.previous⟩
    · intro e head
      obtain ⟨stamped, past⟩ := reached.clock e head
      exact ⟨stamped, past.trans later⟩
    · intro e older suffix alert
      rcases reached.paused e older suffix alert with ⟨p, since, past, running⟩ | done
      · exact Or.inl ⟨p, since, past.trans later, paused.trans running⟩
      · exact Or.inr (by omega)
    · intro last found far
      exfalso
      have current : (step f s).1.control.current = s.control.current := congrArg Held.current same
      rw [current, show s.control.current = last.frame.measured from (reached.known found).current, sub_self, abs_zero] at far
      exact absurd far (by norm_num)
    · intro moves
      rcases moves with moves | moves
      · exact absurd moves pulse
      · exact absurd moves approach

theorem fed_reached {allowed : ℕ → List Seen → Frame → Source → Prop}
    (narrow : ∀ t h f s, allowed t h f s → Allowed start t h f s) (fed : Fed target start allowed t h s) :
    Reached target start t h s := by
  induction fed with
  | reset s => exact reset_reached target start s
  | frame fed later clock fits ih => exact (ih.frame later clock (narrow _ _ _ _ fits)).1

/-- Whatever frames are fed, in whatever mix: as long as the frames are regular, no far value is used before the third
of three, and nothing is pushed within 400 ms of what asks for a pause. -/
theorem no_blind_push (target : ℚ) (start : ℕ) {t : ℕ} {h : List Seen} {s : Source}
    (fed : Fed target start (Allowed start) t h s) {t' : ℕ} {f : Frame} (later : t ≤ t') (clock : f.now = stamp 32 t')
    (fits : Allowed start t' h f s) : Guarded target t' h f s := by
  have reached := fed_reached (fun _ _ _ _ fits => fits) fed
  exact (reached.frame later clock fits).2

/-! ### Tick zero -/

def atZero : Frame := ⟨150, 1, 0, 0, false, 0⟩

def higher : Frame := ⟨240, 2, 10, 10, false, 0⟩

def begun : Source := reset 300 (stamp 32 0) Source.initial

theorem zero_tick_pushes : ¬∀ (target : ℚ) (start t : ℕ) (h : List Seen) (s : Source),
    Fed target start (fun _ _ _ _ => True) t h s → ∀ (t' : ℕ) (f : Frame), t ≤ t' → f.now = stamp 32 t' →
      Guarded target t' h f s := by
  intro claimed
  have first : Fed 300 0 (fun _ _ _ _ => True) 0 (record 0 [] atZero begun) (step atZero begun).1 :=
    .frame (.reset Source.initial) (le_refl 0) rfl trivial
  have guarded := claimed 300 0 0 _ _ first 10 higher (by norm_num) rfl
  have seen : record 0 [] atZero begun = [⟨0, atZero, begun⟩] := if_pos (by decide +kernel)
  rw [seen] at guarded
  have found : lastAccepted [⟨0, atZero, begun⟩] = some ⟨0, atZero, begun⟩ :=
    lastAccepted_taken rfl (by decide +kernel)
  obtain ⟨_, _, _, second, first_, older, listed, _⟩ := guarded.used _ found (by decide +kernel)
  have single : (fresh [⟨0, atZero, begun⟩]).length = 1 := rfl
  rw [listed] at single
  simp at single

/-- The same two frames ten milliseconds later: the second one halts. -/
theorem no_blind_push_jump : Guarded 300 20 (record 10 [] ⟨150, 1, 10, 10, false, 0⟩ (reset 300 (stamp 32 10) Source.initial))
    ⟨240, 2, 20, 20, false, 0⟩ (step ⟨150, 1, 10, 10, false, 0⟩ (reset 300 (stamp 32 10) Source.initial)).1 := by
  have seen : record 10 [] ⟨150, 1, 10, 10, false, 0⟩ (reset 300 (stamp 32 10) Source.initial) =
      [⟨10, ⟨150, 1, 10, 10, false, 0⟩, reset 300 (stamp 32 10) Source.initial⟩] := if_pos (by decide +kernel)
  have first : Allowed 10 10 [] ⟨150, 1, 10, 10, false, 0⟩ (reset 300 (stamp 32 10) Source.initial) := by
    intro _
    have received : (10 : U32) ≠ 0 := by decide
    have tick : 10 ≤ ((10 : U32) - (stamp 32 10 - 10)).toNat := by decide
    exact ⟨fun _ => received, fun _ _ found => absurd found (nomatch ·), tick⟩
  apply no_blind_push 300 10 (.frame (.reset Source.initial) (le_refl 10) rfl first) (by norm_num) rfl
  intro _
  rw [seen]
  have tick : 10 ≤ ((20 : U32) - 10).toNat := by decide
  refine ⟨fun empty => absurd empty (List.cons_ne_nil _ _), ?_, tick⟩
  intro _ last found
  have taken : lastAccepted [⟨10, ⟨150, 1, 10, 10, false, 0⟩, reset 300 (stamp 32 10) Source.initial⟩] = some
      ⟨10, ⟨150, 1, 10, 10, false, 0⟩, reset 300 (stamp 32 10) Source.initial⟩ := lastAccepted_taken rfl (by decide +kernel)
  obtain rfl := Option.some.inj (taken.symm.trans found)
  decide

end Sd700.Pressure.Sudden

import Sd700.Runs.Terminal

/-! What the machine does to its executor is a run of the executor, whatever executor it is linked against: a call of
the machine is a sequence of the executor's own calls, and every drive call among them is made on what feeds it. -/

namespace Sd700.Runs.Projection
open Build.Contract Servo.Config Servo.State Servo.BuildMachine Servo.Machine Servo.Moves Motor.Interface Logic.Modular
  Logic.Run

variable {Exec : Type} {env : Platform Exec} {may : Permit} {now : U32} {w w' : System Exec}

inductive Order
  | drive (call : DriveCall)
  | disable
  | show_ (now : U32)
  | offer (token request : U32) (sequence : U64) (received now : U32)

def Order.obeyed (E : Executor Exec) (x : Exec) : Order → Exec
  | .drive call => (E.drive call x).2
  | .disable => (E.disable x).2
  | .show_ now => (E.buildSnapshot now x).2
  | .offer token request sequence received now => (E.acceptPost token request sequence received now x).2

def Order.Given (env : Platform Exec) (may : Permit) (now : U32) (w : System Exec) : Order → Prop
  | .drive call => Fed env may now w call
  | .disable | .show_ _ | .offer _ _ _ _ _ => True

theorem move_keeps {keeps : Exec → Prop}
    (obeyed : ∀ order : Order, order.Given env may now w → ∀ x, keeps x → keeps (order.obeyed env.executor x))
    (move : Move env may now w w') (start : keeps w.exec) : keeps w'.exec := by
  have shown (v : System Exec) (same : v.exec = w.exec) : keeps (refreshBuild env now v).exec := by
    have kept := obeyed (.show_ now) trivial w.exec start
    rw [← same] at kept
    exact kept
  have still {x : Exec} (same : x = w.exec) : keeps x := by
    rw [same]
    exact start
  cases move with
  | quiet _ same => exact still (congrArg Core.exec same)
  | edited _ _ _ _ same => exact still (congrArg Core.exec same)
  | disabled => exact obeyed .disable trivial _ start
  | driven call drives fed => exact obeyed (.drive call) fed _ start
  | refreshed => exact shown w rfl
  | offered token request sequence received => exact obeyed (.offer token request sequence received now) trivial _ start
  | recorded =>
    rw [recordFault_eq]
    exact start
  | synced =>
    rw [syncEpoch_eq]
    exact shown w rfl
  | opened =>
    unfold openedSession
    rw [syncEpoch_eq]
    split
    · exact shown (openSession env now w) rfl
    · exact start
  | answered asked answers token request accepted =>
    rw [Servo.Moves.answered, creditProgress_eq]
    exact obeyed (.offer token request w.pressure.sequence w.pressure.received now) trivial _ (shown w rfl)
  | _ => exact start

theorem path_keeps {keeps : Exec → Prop}
    (obeyed : ∀ v, Path env may now w v → ∀ order : Order, order.Given env may now v → ∀ x, keeps x →
      keeps (order.obeyed env.executor x))
    (path : Path env may now w w') (start : keeps w.exec) : keeps w'.exec := by
  induction path with
  | refl => exact start
  | tail before move ih => exact move_keeps (obeyed _ before) move ih

/-! ### The machine over a component -/

/-- An executor as a system of its own: what happens to it, which of that only the machine makes happen, and which
event an order of the machine is. -/
structure Component (Exec Event : Type) where
  executor : Executor Exec
  step : Exec → Event → Exec
  admits : Exec → Event → Prop
  boots : Exec → Prop
  time : Exec → ℕ
  drives : Event → Bool
  event : Order → Option Event
  obeyed : ∀ order x, order.obeyed executor x = (event order).elim x (step x)
  free : ∀ order e x, event order = some e → admits x e
  plain : ∀ order e, event order = some e → drives e = true → ∃ call, order = .drive call
  still : ∀ trace x order e, Recorded step admits boots trace x → event order = some e → time (step x e) = time x

variable {Event : Type} {c : Component Exec Event}

abbrev Component.Run (c : Component Exec Event) : List (Turn Exec Event) → Exec → Prop :=
  Recorded c.step c.admits c.boots

/-- What happens next: a call into the machine at some instant, or something to the executor between two calls. -/
inductive Input (Event : Type)
  | call (e : Calls.Event) (now : U32)
  | between (event : Event)

def turn (c : Component Exec Event) (env : Platform Exec) (w : System Exec) : Input Event → System Exec
  | .call e now => Calls.call env e now w
  | .between event => { w with exec := c.step w.exec event }

def admits (c : Component Exec Event) (w : System Exec) : Input Event → Prop
  | .call _ _ => True
  | .between event => c.drives event = false ∧ c.admits w.exec event

instance admitsDecidable (c : Component Exec Event) [∀ x event, Decidable (c.admits x event)] (w : System Exec) :
    (input : Input Event) → Decidable (admits c w input)
  | .call _ _ => isTrue trivial
  | .between _ => inferInstanceAs (Decidable (_ ∧ _))

/-- The machine and the executor have both been started. -/
def Starts (c : Component Exec Event) (env : Platform Exec) (w : System Exec) : Prop :=
  ∃ config accepted now source x, c.boots x ∧ w = initialized env config accepted now source x

abbrev Run (c : Component Exec Event) (env : Platform Exec) :
    List (Turn (System Exec) (Input Event)) → System Exec → Prop :=
  Recorded (turn c env) (admits c) (Starts c env)

theorem starts_orderly (starts : Starts c env w) : Terminal.Orderly env w := by
  obtain ⟨config, accepted, now, source, x, _, rfl⟩ := starts
  exact Terminal.initialized_orderly config accepted source x

theorem turn_orderly (orderly : Terminal.Orderly env w) (input : Input Event) :
    Terminal.Orderly env (turn c env w input) := by
  cases input with
  | call e now => exact orderly.called e now
  | between event => exact orderly.of_same rfl rfl rfl

theorem run_orderly {past : List (Turn (System Exec) (Input Event))} (run : Run c env past w) :
    Terminal.Orderly env w :=
  recorded_invariant (fun _ w => Terminal.Orderly env w) (fun _ starts => starts_orderly starts)
    (fun _ _ input _ _ orderly => turn_orderly orderly input) run

def Within (c : Component Exec Event) (env : Platform Exec) (may : Permit) (now : U32) (w : System Exec)
    (turn : Turn Exec Event) : Prop :=
  c.time turn.before = c.time w.exec ∧ ∃ order v, c.event order = some turn.event ∧ Path env may now w v ∧
    order.Given env may now v

theorem path_follows (runs : env.executor = c.executor) {trace : List (Turn Exec Event)}
    (path : Path env may now w w') (run : c.Run trace w.exec) :
    ∃ more, c.Run (more ++ trace) w'.exec ∧ c.time w'.exec = c.time w.exec ∧
      ∀ turn ∈ more, Within c env may now w turn := by
  apply @path_keeps _ env may now w w' (fun x => ∃ more, c.Run (more ++ trace) x ∧ c.time x = c.time w.exec ∧
    ∀ turn ∈ more, Within c env may now w turn) _ path
  · exact ⟨[], run, rfl, fun _ listed => absurd listed List.not_mem_nil⟩
  intro v before order given x kept
  rw [runs, c.obeyed order x]
  cases named : c.event order with
  | none => exact kept
  | some event =>
    obtain ⟨more, run, time, within⟩ := kept
    refine ⟨⟨x, event, c.step x event⟩ :: more, run.turn event (c.free order event x named),
      (c.still _ x order event run named).trans time, ?_⟩
    intro turn listed
    rcases List.mem_cons.mp listed with rfl | old
    · exact ⟨time, order, v, named, before, given⟩
    · exact within turn old

def Called (c : Component Exec Event) (env : Platform Exec) (past : List (Turn (System Exec) (Input Event)))
    (turn : Turn Exec Event) : Prop :=
  ∃ call ∈ past, ∃ e now, call.event = .call e now ∧
    Within c env (Calls.permit env e now call.before) now call.before turn

theorem Called.later {past : List (Turn (System Exec) (Input Event))} {turn : Turn Exec Event}
    (called : Called c env past turn) (next : Turn (System Exec) (Input Event)) : Called c env (next :: past) turn := by
  obtain ⟨call, listed, rest⟩ := called
  exact ⟨call, List.mem_cons_of_mem next listed, rest⟩

/-- The executor has had a run of its own, and whatever drove it there came with a call into the machine. -/
def Follows (c : Component Exec Event) (env : Platform Exec) (past : List (Turn (System Exec) (Input Event)))
    (w : System Exec) : Prop :=
  ∃ trace, c.Run trace w.exec ∧ ∀ turn ∈ trace, c.drives turn.event = true → Called c env past turn

theorem follows_plain (runs : env.executor = c.executor) {past : List (Turn (System Exec) (Input Event))} {x : Exec}
    {order : Order} (plain : ∀ call, order ≠ .drive call)
    (follows : ∃ trace, c.Run trace x ∧ ∀ turn ∈ trace, c.drives turn.event = true → Called c env past turn) :
    ∃ trace, c.Run trace (order.obeyed env.executor x) ∧
      ∀ turn ∈ trace, c.drives turn.event = true → Called c env past turn := by
  rw [runs, c.obeyed order x]
  cases named : c.event order with
  | none => exact follows
  | some event =>
    obtain ⟨trace, run, called⟩ := follows
    refine ⟨_, run.turn event (c.free order event x named), ?_⟩
    intro turn listed driven
    rcases List.mem_cons.mp listed with rfl | old
    · obtain ⟨call, same⟩ := c.plain order event named driven
      exact absurd same (plain call)
    · exact called turn old driven

theorem starts_follows (runs : env.executor = c.executor) (starts : Starts c env w) : Follows c env [] w := by
  obtain ⟨config, accepted, now, source, x, boots, rfl⟩ := starts
  have disabled := @follows_plain _ env _ c runs [] x .disable (fun _ named => by contradiction)
    ⟨[], .first x boots, fun _ listed => absurd listed List.not_mem_nil⟩
  unfold Follows initialized publish
  split
  · exact @follows_plain _ env _ c runs [] _ (.show_ now) (fun _ named => by contradiction) disabled
  · exact disabled

/-- What the machine does to the executor is a run of the executor. -/
theorem follows (runs : env.executor = c.executor) {past : List (Turn (System Exec) (Input Event))}
    (run : Run c env past w) : Follows c env past w := by
  refine recorded_invariant (Follows c env) (fun _ starts => starts_follows runs starts) ?_ run
  intro past v input recorded admitted follows
  obtain ⟨trace, traced, called⟩ := follows
  cases input with
  | call e now =>
    obtain ⟨more, run, _, within⟩ := path_follows runs (@Calls.call_path _ env now e v (run_orderly recorded).boot) traced
    refine ⟨more ++ trace, run, ?_⟩
    intro turn listed driven
    rcases List.mem_append.mp listed with new | old
    · exact ⟨_, List.mem_cons_self, e, now, rfl, within turn new⟩
    · exact (called turn old driven).later _
  | between event =>
    refine ⟨_, traced.turn event admitted.2, ?_⟩
    intro turn listed driven
    rcases List.mem_cons.mp listed with rfl | old
    · rw [show c.drives event = false from admitted.1] at driven
      contradiction
    · exact (called turn old driven).later _

def Aside (c : Component Exec Event) (x x' : Exec) : Prop :=
  ∃ trace event, c.Run trace x ∧ c.drives event = false ∧ c.admits x event ∧ x' = c.step x event

/-- Linked against the component, the machine has runs over an executor that moves by itself in such ways only. -/
theorem run_reachable (runs : env.executor = c.executor) {past : List (Turn (System Exec) (Input Event))}
    (run : Run c env past w) : Calls.Reachable env (Aside c) w := by
  refine recorded_invariant (fun _ w => Calls.Reachable env (Aside c) w) ?_ ?_ run
  · rintro _ ⟨config, accepted, now, source, x, _, rfl⟩
    exact ⟨config, accepted, now, source, x, .refl⟩
  · intro past v input recorded admitted reachable
    cases input with
    | call e now => exact reachable.call e now
    | between event =>
      obtain ⟨config, accepted, time, source, exec, reached⟩ := reachable
      obtain ⟨trace, traced, _⟩ := follows runs recorded
      exact ⟨config, accepted, time, source, exec, reached.tail ⟨.moved (c.step v.exec event),
        ⟨trace, event, traced, admitted.1, admitted.2, rfl⟩, rfl⟩⟩

theorem call_time (runs : env.executor = c.executor) {past : List (Turn (System Exec) (Input Event))}
    (run : Run c env past w) (e : Calls.Event) (now : U32) :
    c.time (Calls.call env e now w).exec = c.time w.exec := by
  obtain ⟨trace, traced, _⟩ := follows runs run
  obtain ⟨_, _, time, _⟩ := path_follows runs (@Calls.call_path _ env now e w (run_orderly run).boot) traced
  exact time

theorem run_later (runs : env.executor = c.executor)
    (grows : ∀ trace x event, c.Run trace x → c.time x ≤ c.time (c.step x event))
    {past : List (Turn (System Exec) (Input Event))} (run : Run c env past w) :
    ∀ call ∈ past, c.time call.before.exec ≤ c.time w.exec := by
  refine recorded_invariant (fun past w => ∀ call ∈ past, c.time call.before.exec ≤ c.time w.exec)
    (fun _ _ _ listed => absurd listed List.not_mem_nil) ?_ run
  intro past w input recorded _ before
  have onward : c.time w.exec ≤ c.time (turn c env w input).exec := by
    cases input with
    | call e now => exact (call_time runs recorded e now).ge
    | between event =>
      obtain ⟨trace, traced, _⟩ := follows runs recorded
      exact grows trace w.exec event traced
  exact List.forall_mem_cons.mpr ⟨onward, fun call old => (before call old).trans onward⟩

/-! ### Frames -/

/-- A frame a commissioning build drives on: valid, and in the range of its profile, which for a Build build is the
range of the sensor. -/
def Measurable (env : Platform Exec) (w : System Exec) (p : Sample) : Prop :=
  p.frameValid = true ∧ p.controlUnitsValid = true ∧
    if env.policy.buildToTarget then p.raw ≤ 3000
    else (measure env.policy w.tuning.profile p.raw p.control).isSome = true

/-- A drive call that had to be fed was made in a call that handed the machine a frame, and it names that frame. -/
theorem Within.handed {turn : Turn Exec Event} {e : Calls.Event} (commissioning : env.policy.commissioning = true)
    (within : Within c env (Calls.permit env e now w) now w turn) {sequence : U64} {received : U32}
    (feeds : ∀ order v, c.event order = some turn.event → order.Given env (Calls.permit env e now w) now v →
      Feeds env (Calls.permit env e now w) now v ∧ sequence = v.pressure.sequence ∧ received = v.pressure.received) :
    ∃ p, e = .sample p ∧ Measurable env w p ∧ sequence = p.sequence ∧ received = p.received := by
  obtain ⟨_, order, v, named, path, given⟩ := within
  obtain ⟨fed, same, when⟩ := feeds order v named given
  obtain ⟨handed, fresh, ranged⟩ := fed commissioning
  change e = .sample v.pressure at handed
  have edits : ¬(Calls.permit env e now w).edits := by
    change ¬Calls.editsNow env e
    rw [handed]
    exact id
  have tuned := (path.tuned edits).1
  have valid := (Bool.and_eq_true _ _).mp ((Bool.and_eq_true _ _).mp fresh).1
  refine ⟨v.pressure, handed, ⟨?_, valid.2, ?_⟩, same, when⟩
  · exact ((Bool.and_eq_true _ _).mp valid.1).2
  · unfold InRange measured at ranged
    rw [← tuned]
    exact ranged

end Sd700.Runs.Projection

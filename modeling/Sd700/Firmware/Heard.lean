import Sd700.Firmware.Asked
import Sd700.Pressure.Reception

/-! What the output of the firmware rests on. Whatever interrupts run between the statements of the main loop, a bridge
that is on was fed by a frame spelled on the sensor's line. -/

namespace Sd700.Firmware.Heard
open Build.Contract Servo.State Motor.Interface Motor.BuildExecutor Motor.Bridge Logic.Run Logic.Modular Runs Loop Asked
open Pressure.Receiver (Snapshot Published receive processBytes rawPressureCounts)
open Pressure.Reception (formsFrame frameStarts fed stamped)

variable {Bridge : Type} {env : Platform (Device Bridge)} {hw : Hardware Bridge} {f : Program Bridge}
  {past : List (Turn (Program Bridge) Program.Input)} {starts : Bool}

/-! ### The line of the sensor -/

abbrev Line := List (Byte × ℕ)

/-- The bytes the receiver took since the boot, each with the time it came in at. -/
def heard : List (Turn (Program Bridge) Program.Input) → Line
  | [] => []
  | turn :: past =>
    match turn.event with
    | .pressureByte byte => heard past ++ [(byte, turn.before.machine.exec.time)]
    | .main _ => if turn.before.stage = .boot then [] else heard past
    | .modbusByte _ | .modbusSent | .modbusFailed | .stopTimer | .count => heard past

def calls (stream : Line) : List Pressure.Receiver.Call := stream.map fun byte => ⟨[byte.1], stamp 32 (byte.2 / 10)⟩

variable {stream : Line} {start at_ now : ℕ} {frame : List Byte} {s : Snapshot}

theorem fed_calls (stream : Line) : fed (calls stream) = stream.map Prod.fst := by
  unfold fed calls
  induction stream with
  | nil => rfl
  | cons byte later ih => exact congrArg (byte.1 :: ·) ih

theorem stamped_calls (stream : Line) : stamped (calls stream) = stream.map fun byte => stamp 32 (byte.2 / 10) := by
  unfold stamped calls
  induction stream with
  | nil => rfl
  | cons byte later ih => exact congrArg (stamp 32 (byte.2 / 10) :: ·) ih

/-- The greedy scan finds the frame at `start`, and its last byte came in at `at_`. -/
structure Spells (stream : Line) (start at_ : ℕ) (frame : List Byte) : Prop where
  found : start ∈ frameStarts (stream.map Prod.fst)
  bytes : ((stream.map Prod.fst).drop start).take 7 = frame
  forms : formsFrame frame = true
  last : (stream[start + 6]?).map Prod.snd = some at_

def Shown (stream : Line) (now : ℕ) (s : Snapshot) : Prop :=
  ∃ start at_, Spells stream start at_ s.lastValidFrame ∧ s.rawPressureCounts = rawPressureCounts s.lastValidFrame ∧
    s.receivedAtMs = stamp 32 (at_ / 10) ∧ at_ ≤ now

theorem Shown.later (shown : Shown stream now s) {then_ : ℕ} (order : now ≤ then_) : Shown stream then_ s := by
  obtain ⟨start, at_, spells, counts, received, before⟩ := shown
  exact ⟨start, at_, spells, counts, received, before.trans order⟩

/-- The receiver behind the line shows its last frame, if there is one. -/
theorem receiver_shows (before : ∀ byte ∈ stream, byte.2 ≤ now) :
    (frameStarts (stream.map Prod.fst) = [] ∧ (receive (calls stream)).1.snapshot.sampleSequence = 0) ∨
      Shown stream now (receive (calls stream)).1.snapshot := by
  have due := Pressure.Reception.snapshot_due (calls stream)
  rw [fed_calls, stamped_calls] at due
  rcases due with silent | ⟨start, found, index, receipt⟩
  · exact .inl silent
  right
  obtain ⟨inside, forms⟩ := Pressure.Reception.frameStarts_pass found
  rw [List.length_map] at inside
  have bytes : (receive (calls stream)).1.snapshot.lastValidFrame = ((stream.map Prod.fst).drop start).take 7 :=
    congrArg Pressure.Reception.Receipt.frame receipt
  have counts : (receive (calls stream)).1.snapshot.rawPressureCounts = _ :=
    congrArg Pressure.Reception.Receipt.rawPressureCounts receipt
  have received : (receive (calls stream)).1.snapshot.receivedAtMs = _ :=
    congrArg Pressure.Reception.Receipt.receivedAtMs receipt
  have known : stream[start + 6]? = some stream[start + 6] := List.getElem?_eq_getElem (by omega)
  refine ⟨start, stream[start + 6].2, ⟨found, bytes.symm, ?_, ?_⟩, ?_, ?_, before _ (List.getElem_mem _)⟩
  · rw [bytes]
    exact forms
  · rw [known]
    rfl
  · rw [counts, bytes]
    rfl
  · rw [received]
    unfold Pressure.Reception.due
    dsimp only
    rw [List.getD_eq_getElem?_getD, List.getElem?_map, known]
    rfl

/-- The turn hands the machine the snapshot the main loop has read. -/
def Hands (turn : Turn (Program Bridge) Program.Input) : Prop :=
  turn.before.stage = .servicePressure ∧ turn.before.delivers = true ∧ ∃ starts, turn.event = .main starts

/-- The receiver has taken in the line, and what the main loop reads of it and hands on are frames of the line. -/
structure Listens (past : List (Turn (Program Bridge) Program.Input)) (f : Program Bridge) : Prop where
  received : f.receiver = (receive (calls (heard past))).1
  before : ∀ byte ∈ heard past, byte.2 ≤ f.machine.exec.time
  boots : f.stage = .boot → f.delivered = 0 ∧ ∀ turn ∈ past, ¬ Hands turn
  told : f.delivered ≠ 0 → frameStarts ((heard past).map Prod.fst) ≠ []
  shown : f.stage = .servicePressure →
    f.pressure.sampleSequence = 0 ∧ f.delivered = 0 ∨ Shown (heard past) f.machine.exec.time f.pressure
  handed : ∀ turn ∈ past, Hands turn → Shown (heard past) turn.before.machine.exec.time turn.before.pressure

theorem Listens.deaf (listens : Listens past f) {turn : Turn (Program Bridge) Program.Input} {g : Program Bridge}
    (line : heard (turn :: past) = heard past) (idle : ¬ Hands turn) (receiver : g.receiver = f.receiver)
    (delivered : g.delivered = f.delivered) (later : f.machine.exec.time ≤ g.machine.exec.time)
    (boots : g.stage = .boot → f.stage = .boot)
    (shows_ : g.stage = .servicePressure → f.stage = .servicePressure ∧ g.pressure = f.pressure) :
    Listens (turn :: past) g := by
  refine ⟨?_, ?_, ?_, ?_, ?_, ?_⟩
  · rw [receiver, line]
    exact listens.received
  · rw [line]
    exact fun byte listed => (listens.before byte listed).trans later
  · intro boot
    rw [delivered]
    obtain ⟨none_, quiet⟩ := listens.boots (boots boot)
    exact ⟨none_, List.forall_mem_cons.mpr ⟨idle, quiet⟩⟩
  · rw [delivered, line]
    exact listens.told
  · intro stage
    obtain ⟨was, same⟩ := shows_ stage
    rw [same, delivered, line]
    exact (listens.shown was).imp_right fun shown => shown.later later
  · rw [line]
    exact List.forall_mem_cons.mpr ⟨fun hands => absurd hands idle, listens.handed⟩

theorem Listens.reset (listens : Listens past f) (boot : f.stage = .boot) (starts : Bool) :
    Listens (⟨f, .main starts, f.main env hw starts⟩ :: past) (f.main env hw starts) := by
  have line : heard (⟨f, Program.Input.main starts, f.main env hw starts⟩ :: past) = [] := if_pos boot
  have booted : f.main env hw starts = f.completeBoot env := by
    unfold Program.main
    rw [boot]
  have idle : ¬ Hands ⟨f, Program.Input.main starts, f.main env hw starts⟩ := by
    rintro ⟨stage, _⟩
    change f.stage = .servicePressure at stage
    rw [boot] at stage
    contradiction
  have next : (f.main env hw starts).stage = .clock ∨ (f.main env hw starts).stage = .halted := by
    rw [booted]
    unfold Program.completeBoot
    dsimp only
    split
    · exact .inl rfl
    · exact .inr rfl
  have delivered : (f.main env hw starts).delivered = 0 := by
    rw [booted]
    exact (listens.boots boot).1
  refine ⟨?_, ?_, ?_, ?_, ?_, ?_⟩
  · rw [line, booted]
    rfl
  · rw [line]
    exact fun _ listed => absurd listed List.not_mem_nil
  · intro again
    rw [again] at next
    rcases next with other | other <;> contradiction
  · exact fun told => absurd delivered told
  · intro stage
    rw [stage] at next
    rcases next with other | other <;> contradiction
  · exact List.forall_mem_cons.mpr
      ⟨fun hands => absurd hands idle, fun turn old hands => absurd hands ((listens.boots boot).2 turn old)⟩

theorem heard_main (after : f.stage ≠ .boot) (starts : Bool) (g : Program Bridge) :
    heard (⟨f, Program.Input.main starts, g⟩ :: past) = heard past := if_neg after

theorem Listens.reads (listens : Listens past f) (reads : f.stage = .readSnapshot) (starts : Bool) :
    Listens (⟨f, .main starts, f.main env hw starts⟩ :: past) (f.main env hw starts) := by
  have line := @heard_main _ f past (by rw [reads]; decide) starts (f.main env hw starts)
  have read : f.main env hw starts = { f with pressure := f.receiver.snapshot, stage := .servicePressure } := by
    unfold Program.main
    rw [reads]
  have idle : ¬ Hands ⟨f, Program.Input.main starts, f.main env hw starts⟩ := by
    rintro ⟨stage, _⟩
    change f.stage = .servicePressure at stage
    rw [reads] at stage
    contradiction
  have shown : f.receiver.snapshot.sampleSequence = 0 ∧ f.delivered = 0 ∨
      Shown (heard past) f.machine.exec.time f.receiver.snapshot := by
    rw [listens.received]
    refine (receiver_shows listens.before).imp_left fun silent => ⟨silent.2, ?_⟩
    by_contra told
    exact listens.told told silent.1
  refine ⟨?_, ?_, ?_, ?_, ?_, ?_⟩
  · rw [line, read]
    exact listens.received
  · rw [line, read]
    exact listens.before
  · intro boot
    rw [read] at boot
    contradiction
  · rw [line, read]
    exact listens.told
  · rw [line, read]
    exact fun _ => shown
  · rw [line]
    exact List.forall_mem_cons.mpr ⟨fun hands => absurd hands idle, listens.handed⟩

theorem Listens.hands (listens : Listens past f) (serves : f.stage = .servicePressure) (delivers : f.delivers = true) :
    Shown (heard past) f.machine.exec.time f.pressure := by
  refine (listens.shown serves).resolve_left ?_
  rintro ⟨unheard, undelivered⟩
  unfold Program.delivers at delivers
  rw [unheard, undelivered] at delivers
  split at delivers <;> contradiction

/-- The main loop hands on what it has read, unless it has before. -/
theorem Listens.serves (listens : Listens past f) (serves : f.stage = .servicePressure)
    (later : f.machine.exec.time ≤ (f.main env hw starts).machine.exec.time) :
    Listens (⟨f, .main starts, f.main env hw starts⟩ :: past) (f.main env hw starts) := by
  have line := @heard_main _ f past (by rw [serves]; decide) starts (f.main env hw starts)
  have served : f.main env hw starts =
      { f.servicePressure env f.getTick with now := f.getTick, stage := .checkSafety } := by
    unfold Program.main
    rw [serves]
  by_cases delivers : f.delivers = true
  · have shown := listens.hands serves delivers
    have receiver : (f.main env hw starts).receiver = f.receiver := by
      rw [served]
      unfold Program.servicePressure
      rw [if_neg (not_not_intro delivers)]
      rfl
    refine ⟨?_, ?_, ?_, ?_, ?_, ?_⟩
    · rw [receiver, line]
      exact listens.received
    · rw [line]
      exact fun byte listed => (listens.before byte listed).trans later
    · intro boot
      rw [served] at boot
      contradiction
    · intro _
      rw [line]
      obtain ⟨start, _, spells, _⟩ := shown
      exact List.ne_nil_of_mem spells.found
    · intro stage
      rw [served] at stage
      contradiction
    · rw [line]
      exact List.forall_mem_cons.mpr ⟨fun _ => shown, listens.handed⟩
  · have same : f.servicePressure env f.getTick = f := if_pos delivers
    rw [same] at served
    rw [served] at line later ⊢
    refine listens.deaf line ?_ rfl rfl later ?_ ?_
    · rintro ⟨_, hands, _⟩
      exact delivers hands
    · exact fun boot => by contradiction
    · exact fun stage => by contradiction

theorem serviceMain_line (next : Stage) :
    (f.serviceMain env next).receiver = f.receiver ∧ (f.serviceMain env next).delivered = f.delivered ∧
      ((f.serviceMain env next).stage = f.stage ∨ (f.serviceMain env next).stage = next) := by
  unfold Program.serviceMain
  by_cases idle : f.unmasked = true
  · rw [if_pos idle]
    exact ⟨rfl, rfl, .inl rfl⟩
  rw [if_neg idle]
  dsimp only
  split
  · exact ⟨rfl, rfl, .inl rfl⟩
  · exact ⟨rfl, rfl, .inr rfl⟩

theorem processOneNormalRequest_line (now : U32) :
    (f.processOneNormalRequest env now).receiver = f.receiver ∧
      (f.processOneNormalRequest env now).delivered = f.delivered := by
  unfold Program.processOneNormalRequest
  dsimp only
  split
  · exact ⟨rfl, rfl⟩
  split
  · exact ⟨rfl, rfl⟩
  · exact ⟨rfl, rfl⟩

theorem main_line (booted : f.stage ≠ .boot) (reads : f.stage ≠ .readSnapshot) (serves : f.stage ≠ .servicePressure)
    (starts : Bool) :
    (f.main env hw starts).receiver = f.receiver ∧ (f.main env hw starts).delivered = f.delivered ∧
      (f.main env hw starts).stage ≠ .boot ∧ (f.main env hw starts).stage ≠ .servicePressure := by
  unfold Program.main
  cases at_ : f.stage with
  | boot => exact absurd at_ booted
  | readSnapshot => exact absurd at_ reads
  | servicePressure => exact absurd at_ serves
  | halted => exact ⟨rfl, rfl, by rw [at_]; decide, by rw [at_]; decide⟩
  | firstDrain =>
    obtain ⟨receiver, delivered, stage⟩ := @serviceMain_line _ env f .firstStop
    rw [at_] at stage
    refine ⟨receiver, delivered, ?_, ?_⟩ <;> rcases stage with stage | stage <;> rw [stage] <;> decide
  | drain =>
    obtain ⟨receiver, delivered, stage⟩ := @serviceMain_line _ env f .stop
    rw [at_] at stage
    refine ⟨receiver, delivered, ?_, ?_⟩ <;> rcases stage with stage | stage <;> rw [stage] <;> decide
  | serviceMotor =>
    refine ⟨rfl, rfl, ?_, ?_⟩ <;> dsimp only <;> split <;> decide
  | guardOutput =>
    refine ⟨rfl, rfl, ?_, ?_⟩ <;> dsimp only <;> split <;> decide
  | request =>
    dsimp only
    split
    · exact ⟨rfl, rfl, by decide, by decide⟩
    · obtain ⟨receiver, delivered⟩ := @processOneNormalRequest_line _ env f f.now
      exact ⟨receiver, delivered, by decide, by decide⟩
  | _ => exact ⟨rfl, rfl, by dsimp only; decide, by dsimp only; decide⟩

/-! ### Runs -/

theorem step_later (obeys : Cuts hw) (commissions : Carried.Commissions hw env) {input : Program.Input}
    (run : Loop.Run env hw past f) (admitted : f.admits input) :
    f.machine.exec.time ≤ (f.step env hw input).machine.exec.time := by
  have same := (@step_obeyed _ env hw f (run_machine obeys.toStaysOff run).1 obeys.toStaysOff input).2
  have traced := (run_machine obeys.toStaysOff (run.turn input admitted)).2
  cases given : inputs env f input with
  | nil =>
    rw [same, given]
    exact le_rfl
  | cons first rest =>
    apply Carried.run_later obeys commissions traced ⟨f.machine, first, _⟩
    apply List.mem_append_left
    dsimp only
    rw [given]
    unfold play
    rw [play_append]
    exact List.mem_append_right _ List.mem_cons_self

theorem run_later (obeys : Cuts hw) (commissions : Carried.Commissions hw env) (run : Loop.Run env hw past f) :
    ∀ turn ∈ past, turn.before.machine.exec.time ≤ f.machine.exec.time := by
  refine recorded_invariant (fun past (f : Program Bridge) =>
    ∀ turn ∈ past, turn.before.machine.exec.time ≤ f.machine.exec.time)
    (fun _ _ _ listed => absurd listed List.not_mem_nil) ?_ run
  intro past f input recorded admitted before
  have later := step_later obeys commissions recorded admitted
  exact List.forall_mem_cons.mpr ⟨later, fun turn old => (before turn old).trans later⟩

theorem Listens.main (listens : Listens past f) (starts : Bool)
    (later : f.machine.exec.time ≤ (f.main env hw starts).machine.exec.time) :
    Listens (⟨f, .main starts, f.main env hw starts⟩ :: past) (f.main env hw starts) := by
  by_cases boot : f.stage = .boot
  · exact listens.reset boot starts
  by_cases reads : f.stage = .readSnapshot
  · exact listens.reads reads starts
  by_cases serves : f.stage = .servicePressure
  · exact listens.serves serves later
  obtain ⟨receiver, delivered, booted, other⟩ := @main_line _ env hw f boot reads serves starts
  refine listens.deaf (heard_main boot starts _) ?_ receiver delivered later ?_ ?_
  · exact fun hands => serves hands.1
  · exact fun again => absurd again booted
  · exact fun stage => absurd stage other

def rested (ticks : ℕ) (f : Program Bridge) : Program Bridge := f.withMachine (Carried.waited ticks f.machine)

theorem run_rested (run : Loop.Run env hw past f) (idle : f.machine.exec.timer.enabled = false)
    (closed : f.machine.exec.timer.line = false) (ticks : ℕ) : ∃ past, Loop.Run env hw past (rested ticks f) := by
  induction ticks with
  | zero => exact ⟨past, run⟩
  | succ ticks ih =>
    obtain ⟨rest, waits⟩ := ih
    have next := Recorded.turn Program.Input.count waits (Carried.calm_closed closed)
    rw [show (rested ticks f).step env hw .count = rested (ticks + 1) f from
      congrArg f.withMachine (@Carried.waited_tick _ hw f.machine idle ticks)] at next
    exact ⟨_, next⟩

def wordBytes (word : U16) : List Byte := [word.extractLsb' 8 8, word.extractLsb' 0 8]

def requestOf : Calls.Event → List Byte
  | .write function a v => Modbus.Server.appendCrc ([1, function] ++ wordBytes a ++ wordBytes v)
  | .read .holding a quantity => Modbus.Server.appendCrc ([1, 3] ++ wordBytes a ++ wordBytes quantity)
  | .read .input a quantity => Modbus.Server.appendCrc ([1, 4] ++ wordBytes a ++ wordBytes quantity)
  | _ => []

/-- The request comes in, the main loop comes round once, and the response has gone out. -/
def asking (e : Calls.Event) : List Program.Input :=
  (requestOf e).map .modbusByte ++ List.replicate 28 (.main true) ++ [.modbusSent]

def sensing (frame : List Byte) : List Program.Input := frame.map .pressureByte ++ List.replicate 20 (.main true)

def planned : List Program.Input := .main true :: (Calls.planning3000 0).flatMap asking

def fiveCounts : List Byte := [0xFD, 5, 0, 0, 0, 0xF8, 0xFE]

def approached : List Program.Input :=
  sensing fiveCounts ++ asking (.write 5 Modbus.Protocol.coilStart 0xFF00) ++ sensing fiveCounts

def first : Program Registers where
  link := Modbus.Server.attached Carried.first
  receiver := Pressure.Receiver.cleared
  ingress := Modbus.Ingress.start
  sent := false
  failed := false
  delivered := 0
  pressure := Pressure.Receiver.cleared.snapshot
  now := 0
  stopProcessed := false
  stage := .boot

def armed : Program Registers := (play (Program.step Carried.platform (.board true)) ([], first) planned).2

def approaching : Program Registers :=
  (play (Program.step Carried.platform (.board true)) ([], rested 1080000 armed) approached).2

end Sd700.Firmware.Heard

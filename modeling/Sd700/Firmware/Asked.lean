import Sd700.Firmware.Loop
import Sd700.Modbus.Accounting

/-! What the main loop asks of the machine: whatever the interrupts do between its statements, the calls it makes are a
run of the machine over its executor. -/

namespace Sd700.Firmware.Asked
open Build.Contract Servo.State Motor.Interface Motor.BuildExecutor Motor.Bridge Logic.Run Runs Loop
open Modbus.Server (RtuLink RtuServer servoApplication attached readU16 byteAt)
open Modbus.Accounting (isStop ledger Counted)

variable {Bridge : Type} {env : Platform (Device Bridge)} {hw : Hardware Bridge} {f : Program Bridge}

/-! ### The server -/

structure Booked {Machine : Type} (stream : List Byte) (s : RtuServer Machine) : Prop where
  framed : Modbus.Framing.Framed stream s
  sound : Modbus.Fates.Sound isStop Modbus.Server.RtuRequest.arrival Modbus.Server.queueCapacity (ledger s)
  counted : Counted s

section
variable {Machine : Type} {app : Modbus.Server.Application Machine} {stream : List Byte} {l : RtuLink Machine}

theorem attached_booked (m : Machine) : Booked [] (attached m).server :=
  ⟨Modbus.Framing.attached_framed m, (Modbus.Accounting.attached_sound m).1, (Modbus.Accounting.attached_sound m).2⟩

theorem Booked.call (booked : Booked stream l.server) (e : Modbus.Server.Call) :
    Booked (stream ++ Modbus.Framing.bytesOf e) (Modbus.Server.call app l e).server := by
  obtain ⟨turns, counted⟩ := @Modbus.Accounting.call_turns _ app l booked.framed.short booked.counted e
  exact ⟨Modbus.Framing.call_framed booked.framed e, booked.sound.steps turns, counted⟩

theorem Booked.machine {s : RtuServer Machine} (booked : Booked stream s) (m : Machine) :
    Booked stream { s with machine := m } :=
  ⟨booked.framed.of_intake rfl, booked.sound, booked.counted.of_tally rfl⟩

theorem Booked.stops {s : RtuServer Machine} (booked : Booked stream s) (latched : s.stopLatched = true) :
    isStop s.stopRequest = true := by
  apply booked.sound.stops
  simp only [ledger, latched, if_true, Option.toList_some, List.cons_append, List.mem_cons, true_or]

/-- A call that neither takes a STOP nor executes a request leaves the machine alone. -/
theorem Booked.quiet (booked : Booked stream l.server) {e : Modbus.Server.Call} (takes : ∀ now, e ≠ .takeStop now)
    (executes : ∀ now, e ≠ .processPending now) :
    (Modbus.Server.call app l e).server.machine = l.server.machine := by
  cases @Modbus.Accounting.call_effect _ app l booked.framed.short booked.stops e with
  | quiet same _ => exact congrArg Prod.fst same
  | executes now r later here => exact absurd here (executes now)
  | stops now here => exact absurd here (takes now)

end

/-! ### Requests -/

def served (env : Platform (Device Bridge)) (now : U32) (bytes : List Byte) : List (Projection.Input Event) :=
  let function := byteAt bytes 1
  let a := readU16 bytes 2
  let v := readU16 bytes 4
  if function = 3 then [.call (.read .holding a v) now]
  else if function = 4 then [.call (.read .input a v) now]
  else if (function = 5 ∨ function = 6) ∧ Modbus.Server.writable (servoApplication env) function a = true then
    [.call (.write function a v) now]
  else []

def stopped (now : U32) (s : RtuServer (System (Device Bridge))) : List (Projection.Input Event) :=
  if s.stopLatched then [.call (.command ⟨.stop, 0⟩) now] else []

def requested (env : Platform (Device Bridge)) (now : U32) (s : RtuServer (System (Device Bridge))) :
    List (Projection.Input Event) :=
  if s.stopLatched ∨ s.responsePending then []
  else
    match s.queue with
    | [] => []
    | request :: _ => served env now request.bytes

/-- What a statement of `main` asks of the machine, or does to its executor. -/
def asked (env : Platform (Device Bridge)) (f : Program Bridge) : List (Projection.Input Event) :=
  match f.stage with
  | .boot => [.call (.boot true) f.getTick]
  | .firstStop => stopped f.getTick f.link.server
  | .servicePressure => if f.delivers then [.call (.sample (Program.sampleOf f.pressure)) f.getTick] else []
  | .checkSafety => [.call .safety f.now]
  | .serviceMotor => [.between (.service f.now)]
  | .motorFault => [.between .disable, .call (.report .motor .motorHardware) f.now]
  | .handleMotor => [.call .service f.now]
  | .guardOutput => [.between .guardOutput]
  | .outputFault => [.call (.report .motor .motorHardware) f.now]
  | .stop => stopped f.now f.link.server
  | .request => if f.stopProcessed then [] else requested env f.now f.link.server
  | .tick => [.call .tick f.now]
  | .halted | .clock | .firstDrain | .readSnapshot | .drain | .transmit => []

def inputs (env : Platform (Device Bridge)) (f : Program Bridge) : Program.Input → List (Projection.Input Event)
  | .main _ => asked env f
  | .stopTimer => [.between .interrupt]
  | .count => [.between .tick]
  | .pressureByte _ | .modbusByte _ | .modbusSent | .modbusFailed => []

variable {c : Projection.Component (Device Bridge) Event}

abbrev obeyed (c : Projection.Component (Device Bridge) Event) (env : Platform (Device Bridge))
    (inputs : List (Projection.Input Event)) (w : System (Device Bridge)) : System (Device Bridge) :=
  inputs.foldl (Projection.turn c env) w

theorem processRead_asks (f : Modbus.Protocol.ReadFunction) (now : U32) {s : RtuServer (System (Device Bridge))}
    (function : byteAt s.activeRequest.bytes 1 = Modbus.Server.readCode f) :
    (Modbus.Server.processRead (servoApplication env) now s).machine =
      (Modbus.Protocol.processRead env f (readU16 s.activeRequest.bytes 2) (readU16 s.activeRequest.bytes 4) now
        s.machine).1 := by
  unfold Modbus.Server.processRead Modbus.Protocol.processRead
  dsimp only
  by_cases refused : readU16 s.activeRequest.bytes 4 = 0 ∨
      Modbus.Protocol.maxReadRegisters < (readU16 s.activeRequest.bytes 4).toNat
  · rw [if_pos refused, if_pos refused]
    rfl
  rw [if_neg refused, if_neg refused, function]
  have read := Modbus.Server.servo_readLoop env f now (readU16 s.activeRequest.bytes 2).toNat
    (readU16 s.activeRequest.bytes 4).toNat [] s.machine
  rw [show Modbus.Server.dataBytes [] = [] from rfl] at read
  rw [read]
  cases (Modbus.Protocol.readLoop env f now (readU16 s.activeRequest.bytes 2).toNat
      (readU16 s.activeRequest.bytes 4).toNat [] s.machine).2 with
  | words values => rfl
  | exception code => rfl

theorem serve_asks (now : U32) (s : RtuServer (System (Device Bridge))) :
    (Modbus.Server.serve (servoApplication env) now s).machine =
      obeyed c env (served env now s.activeRequest.bytes) s.machine := by
  unfold Modbus.Server.serve served
  dsimp only
  by_cases holding : byteAt s.activeRequest.bytes 1 = 3
  · rw [if_pos (.inl holding), if_pos holding]
    exact processRead_asks .holding now holding
  rw [if_neg holding]
  by_cases input : byteAt s.activeRequest.bytes 1 = 4
  · rw [if_pos (.inr input), if_pos input]
    exact processRead_asks .input now input
  rw [if_neg input, if_neg (not_or.mpr ⟨holding, input⟩)]
  by_cases write : byteAt s.activeRequest.bytes 1 = 5 ∨ byteAt s.activeRequest.bytes 1 = 6
  · rw [if_pos write]
    unfold Modbus.Server.processWrite
    dsimp only
    by_cases writable : Modbus.Server.writable (servoApplication env) (byteAt s.activeRequest.bytes 1)
        (readU16 s.activeRequest.bytes 2) = true
    · have applied := Modbus.Server.servo_applyWrite env (byteAt s.activeRequest.bytes 1)
        (readU16 s.activeRequest.bytes 2) (readU16 s.activeRequest.bytes 4) now s.machine
      have asks := And.intro write writable
      rw [if_neg (not_not_intro writable), if_pos asks]
      have taken := congrArg Prod.fst applied
      by_cases ok : (Modbus.Server.applyWrite (servoApplication env) (byteAt s.activeRequest.bytes 1)
          (readU16 s.activeRequest.bytes 2) (readU16 s.activeRequest.bytes 4) now s.machine).2 = .accepted
      · rw [if_pos ok]
        exact taken
      · rw [if_neg ok]
        exact taken
    · rw [if_pos writable, if_neg fun both => writable both.2]
      rfl
  · rw [if_neg write, if_neg fun both => write both.1]
    rfl

theorem takeStop_asks {stream : List Byte} {s : RtuServer (System (Device Bridge))} (booked : Booked stream s)
    (now : U32) :
    (Modbus.Server.takeStop (servoApplication env) now s).1.machine = obeyed c env (stopped now s) s.machine := by
  unfold Modbus.Server.takeStop stopped
  rw [Modbus.Framing.tryExtractRequest_short booked.framed.short]
  dsimp only
  by_cases latched : s.stopLatched = true
  · rw [if_neg (not_not_intro latched), if_pos latched]
    have held := Modbus.Accounting.queueStopResponse_deeds s.stopRequest
      (Modbus.Server.applyStop (servoApplication env) now s).2 (Modbus.Server.applyStop (servoApplication env) now s).1
    have applied := congrArg Prod.fst
      (@Modbus.Accounting.stop_applied _ (servoApplication env) _ (booked.stops latched) now s.machine)
    exact (congrArg Prod.fst held).trans applied
  · rw [if_pos latched, if_neg latched]
    rfl

theorem processPending_asks {stream : List Byte} {s : RtuServer (System (Device Bridge))} (booked : Booked stream s)
    (now : U32) :
    (Modbus.Server.processPending (servoApplication env) now s).1.machine =
      obeyed c env (requested env now s) s.machine := by
  rw [Modbus.Framing.processPending_short now booked.framed.short]
  unfold requested
  by_cases busy : s.stopLatched = true ∨ s.responsePending = true
  · rw [if_pos busy, if_pos busy]
    rfl
  rw [if_neg busy, if_neg busy]
  cases s.queue with
  | nil => rfl
  | cons request later => exact serve_asks now (Modbus.Server.activate request later s)

/-! ### The main loop -/

theorem processOneNormalRequest_asks {stream : List Byte} (booked : Booked stream f.link.server) (now : U32) :
    (f.processOneNormalRequest env now).machine = obeyed c env (requested env now f.link.server) f.machine := by
  have short := booked.framed.short
  have idle := Modbus.Framing.tryExtractRequest_short short
  unfold Program.processOneNormalRequest
  unfold Modbus.Server.call Modbus.Server.hasPendingRequest Modbus.Server.pendingIsStop
  dsimp only
  rw [idle, idle]
  by_cases none_ : f.link.server.queue = []
  · rw [if_pos (by simp [none_])]
    unfold requested
    rw [none_]
    split <;> rfl
  rw [if_neg (by simp [none_])]
  by_cases latched : f.link.server.stopLatched = true
  · rw [if_pos latched]
    unfold requested
    rw [if_pos (Or.inl latched)]
    rfl
  · rw [if_neg latched]
    exact processPending_asks booked now

def Linked (f : Program Bridge) : Prop := Booked f.ingress.drained f.link.server

theorem Linked.withMachine (linked : Linked f) (w : System (Device Bridge)) : Linked (f.withMachine w) :=
  Booked.machine linked w

theorem Linked.call (env : Platform (Device Bridge)) (linked : Linked f) {e : Modbus.Server.Call}
    (silent : Modbus.Framing.bytesOf e = []) :
    Linked { f with link := Modbus.Server.call (servoApplication env) f.link e } := by
  have booked := @Booked.call _ (servoApplication env) _ f.link linked e
  rw [silent, List.append_nil] at booked
  exact booked

theorem access_returns (r : Modbus.Ingress.UartIngress) (drain : Modbus.Ingress.Drain)
    (masked : (Modbus.Ingress.access r drain).2.1 ≠ .idle) : (Modbus.Ingress.access r drain).2.2 = [] := by
  cases drain with
  | copying room readIndex writeIndex destination =>
    by_cases more : readIndex ≠ writeIndex ∧ destination.length < room
    · have copies : Modbus.Ingress.access r (.copying room readIndex writeIndex destination) =
          (r, .copying room (Logic.Ring.next Modbus.Ingress.capacity readIndex) writeIndex
            (destination ++ [r.bytes readIndex]), []) := if_pos more
      rw [copies]
    · have stores : Modbus.Ingress.access r (.copying room readIndex writeIndex destination) =
          ({ r with readIndex := readIndex }, .idle, destination) := if_neg more
      rw [stores] at masked
      exact absurd rfl masked
  | _ => rfl

theorem unmasked_idle : f.unmasked = true ↔ f.ingress.drain = .idle := by
  unfold Program.unmasked
  cases f.ingress.drain <;> simp

theorem serviceBytes_books {stream : List Byte} (booked : Booked stream f.link.server) (bytes : List Byte) :
    Booked (stream ++ bytes) (f.serviceBytes env bytes).link.server ∧
      (f.serviceBytes env bytes).machine = f.machine := by
  have fed : ∃ link, link = (if bytes = [] then f.link
      else Modbus.Server.call (servoApplication env) f.link (.processBytes bytes)) ∧
        Booked (stream ++ bytes) link.server ∧ link.server.machine = f.machine := by
    refine ⟨_, rfl, ?_⟩
    by_cases none_ : bytes = []
    · rw [if_pos none_, none_, List.append_nil]
      exact ⟨booked, rfl⟩
    · rw [if_neg none_]
      exact ⟨booked.call (.processBytes bytes),
        booked.quiet (fun _ same => by cases same) fun _ same => by cases same⟩
  obtain ⟨link, named, taken, same⟩ := fed
  have ended : Booked (stream ++ bytes) (Modbus.Server.finish link).server ∧
      (Modbus.Server.finish link).server.machine = f.machine := by
    have books := @Booked.call _ (servoApplication env) _ link taken .onError
    rw [show Modbus.Framing.bytesOf .onError = [] from rfl, List.append_nil] at books
    refine ⟨books, Eq.trans ?_ same⟩
    exact @Booked.quiet _ (servoApplication env) _ link taken .onError (fun _ same => by cases same)
      fun _ same => by cases same
  unfold Program.serviceBytes Program.machine
  dsimp only
  rw [← named]
  by_cases failed : f.failed = true
  · rw [if_pos failed]
    exact ended
  rw [if_neg failed]
  by_cases sent : f.sent = true
  · rw [if_pos sent]
    exact ended
  · rw [if_neg sent]
    exact ⟨taken, same⟩

theorem serviceMain_books (linked : Linked f) (next : Stage) :
    Linked (f.serviceMain env next) ∧ (f.serviceMain env next).machine = f.machine := by
  unfold Program.serviceMain
  by_cases idle : f.unmasked = true
  · rw [if_pos idle]
    exact ⟨linked, rfl⟩
  rw [if_neg idle]
  dsimp only
  have drained : (Modbus.Ingress.step f.ingress .access).drained =
      f.ingress.drained ++ (Modbus.Ingress.access f.ingress.ring f.ingress.drain).2.2 := rfl
  by_cases ends : Program.unmasked { f with ingress := Modbus.Ingress.step f.ingress .access } = true
  · rw [if_neg (not_not_intro ends)]
    obtain ⟨books, same⟩ := @serviceBytes_books _ env { f with ingress := Modbus.Ingress.step f.ingress .access } _ linked
      (Modbus.Ingress.access f.ingress.ring f.ingress.drain).2.2
    exact ⟨books, same⟩
  · rw [if_pos ends]
    refine ⟨?_, rfl⟩
    have going : (Modbus.Ingress.access f.ingress.ring f.ingress.drain).2.1 ≠ .idle :=
      fun last => ends (unmasked_idle.mpr last)
    unfold Linked
    dsimp only
    rw [drained, access_returns _ _ going, List.append_nil]
    exact linked

theorem processOneNormalRequest_linked (linked : Linked f) (now : U32) :
    Linked (f.processOneNormalRequest env now) := by
  have asked : Linked _ := linked.call env (e := .hasPendingRequest) rfl
  have checked : Linked _ := asked.call env (e := .pendingIsStop) rfl
  have done_ : Linked _ := checked.call env (e := .processPending now) rfl
  unfold Program.processOneNormalRequest
  dsimp only
  by_cases none_ : (Modbus.Server.hasPendingRequest f.link.server).2 = true
  · rw [if_neg (not_not_intro none_)]
    by_cases latched : (Modbus.Server.pendingIsStop (Modbus.Server.call (servoApplication env) f.link
        .hasPendingRequest).server).2 = true
    · rw [if_pos latched]
      exact checked
    · rw [if_neg latched]
      exact done_
  · rw [if_pos none_]
    exact asked

/-- Every statement of `main` does to the machine what it asks of it. -/
theorem main_obeyed (linked : Linked f) (obeys : StaysOff hw) (starts : Bool) :
    Linked (f.main env hw starts) ∧
      (f.main env hw starts).machine = obeyed (Carried.component hw obeys) env (asked env f) f.machine := by
  unfold Program.main asked
  cases f.stage with
  | boot => exact ⟨attached_booked _, rfl⟩
  | halted => exact ⟨linked, rfl⟩
  | clock => exact ⟨linked, rfl⟩
  | firstDrain => exact serviceMain_books linked _
  | firstStop => exact ⟨linked.call env (e := .takeStop f.getTick) rfl, takeStop_asks linked _⟩
  | readSnapshot => exact ⟨linked, rfl⟩
  | servicePressure =>
    dsimp only
    unfold Program.servicePressure
    by_cases delivers : f.delivers = true
    · rw [if_neg (not_not_intro delivers), if_pos delivers]
      exact ⟨linked.withMachine _, rfl⟩
    · rw [if_pos delivers, if_neg delivers]
      exact ⟨linked, rfl⟩
  | checkSafety => exact ⟨linked.withMachine _, rfl⟩
  | serviceMotor => exact ⟨linked.withMachine _, rfl⟩
  | motorFault => exact ⟨(linked.withMachine _).withMachine _, rfl⟩
  | handleMotor => exact ⟨linked.withMachine _, rfl⟩
  | guardOutput => exact ⟨linked.withMachine _, rfl⟩
  | outputFault => exact ⟨linked.withMachine _, rfl⟩
  | drain => exact serviceMain_books linked _
  | stop => exact ⟨linked.call env (e := .takeStop f.now) rfl, takeStop_asks linked _⟩
  | request =>
    dsimp only
    by_cases taken : f.stopProcessed = true
    · rw [if_pos taken, if_pos taken]
      exact ⟨linked, rfl⟩
    · rw [if_neg taken, if_neg taken]
      exact ⟨processOneNormalRequest_linked linked _, processOneNormalRequest_asks linked _⟩
  | tick => exact ⟨linked.withMachine _, rfl⟩
  | transmit =>
    have served := linked.call env (e := .service starts) rfl
    exact ⟨served, congrArg RtuServer.machine (Modbus.Framing.service_server starts f.link)⟩

theorem step_obeyed (linked : Linked f) (obeys : StaysOff hw) (input : Program.Input) :
    Linked (f.step env hw input) ∧
      (f.step env hw input).machine = obeyed (Carried.component hw obeys) env (inputs env f input) f.machine := by
  cases input with
  | main starts => exact main_obeyed linked obeys starts
  | modbusByte byte =>
    refine ⟨?_, rfl⟩
    exact linked
  | stopTimer => exact ⟨linked.withMachine _, rfl⟩
  | count => exact ⟨linked.withMachine _, rfl⟩
  | _ => exact ⟨linked, rfl⟩

/-! ### Runs -/

def trace (c : Projection.Component (Device Bridge) Event) (env : Platform (Device Bridge)) :
    List (Turn (Program Bridge) Program.Input) → List (Turn (System (Device Bridge)) (Projection.Input Event))
  | [] => []
  | turn :: past =>
    (play (Projection.turn c env) ([], turn.before.machine) (inputs env turn.before turn.event)).1 ++ trace c env past

def Plain (inputs : List (Projection.Input Event)) : Prop := ∀ asked ∈ inputs, ∃ e now, asked = .call e now

theorem plain_nil : Plain [] := fun _ listed => absurd listed List.not_mem_nil

theorem plain_call (e : Calls.Event) (now : U32) : Plain [.call e now] :=
  fun _ listed => ⟨e, now, List.mem_singleton.mp listed⟩

theorem served_plain (now : U32) (bytes : List Byte) : Plain (served env now bytes) := by
  unfold served
  dsimp only
  split
  · exact plain_call _ _
  split
  · exact plain_call _ _
  split
  · exact plain_call _ _
  · exact plain_nil

theorem stopped_plain (now : U32) (s : RtuServer (System (Device Bridge))) : Plain (stopped now s) := by
  unfold stopped
  split
  · exact plain_call _ _
  · exact plain_nil

theorem requested_plain (now : U32) (s : RtuServer (System (Device Bridge))) : Plain (requested env now s) := by
  unfold requested
  split
  · exact plain_nil
  split
  · exact plain_nil
  · exact served_plain now _

theorem Plain.free (obeys : StaysOff hw) {inputs : List (Projection.Input Event)} (plain : Plain inputs)
    {asked : Projection.Input Event} (listed : asked ∈ inputs) (w : System (Device Bridge)) :
    Projection.admits (Carried.component hw obeys) w asked := by
  obtain ⟨e, now, rfl⟩ := plain asked listed
  trivial

theorem asked_free (obeys : StaysOff hw) {input : Projection.Input Event} (listed : input ∈ asked env f)
    (w : System (Device Bridge)) : Projection.admits (Carried.component hw obeys) w input := by
  unfold asked at listed
  cases at_ : f.stage <;> rw [at_] at listed <;> dsimp only at listed
  case boot => exact (plain_call _ _).free obeys listed w
  case firstStop => exact (stopped_plain _ _).free obeys listed w
  case servicePressure =>
    split at listed
    · exact (plain_call _ _).free obeys listed w
    · exact absurd listed List.not_mem_nil
  case checkSafety => exact (plain_call _ _).free obeys listed w
  case serviceMotor =>
    rw [List.mem_singleton.mp listed]
    exact ⟨rfl, trivial⟩
  case motorFault =>
    rcases List.mem_cons.mp listed with rfl | reports
    · exact ⟨rfl, trivial⟩
    · exact (plain_call _ _).free obeys reports w
  case handleMotor => exact (plain_call _ _).free obeys listed w
  case guardOutput =>
    rw [List.mem_singleton.mp listed]
    exact ⟨rfl, trivial⟩
  case outputFault => exact (plain_call _ _).free obeys listed w
  case stop => exact (stopped_plain _ _).free obeys listed w
  case request =>
    split at listed
    · exact absurd listed List.not_mem_nil
    · exact (requested_plain _ _).free obeys listed w
  case tick => exact (plain_call _ _).free obeys listed w
  all_goals exact absurd listed List.not_mem_nil

theorem inputs_free (obeys : StaysOff hw) {event : Program.Input} (other : event ≠ .count)
    {input : Projection.Input Event} (listed : input ∈ inputs env f event) (w : System (Device Bridge)) :
    Projection.admits (Carried.component hw obeys) w input := by
  cases event with
  | main starts => exact asked_free obeys listed w
  | count => exact absurd rfl other
  | stopTimer =>
    rw [List.mem_singleton.mp listed]
    exact ⟨rfl, trivial⟩
  | _ => exact absurd listed List.not_mem_nil

/-- Whatever the interrupts do, what the firmware makes the machine do is a run of the machine over its executor. -/
theorem run_machine (obeys : StaysOff hw) {past : List (Turn (Program Bridge) Program.Input)}
    (run : Loop.Run env hw past f) :
    Linked f ∧ Projection.Run (Carried.component hw obeys) env (trace (Carried.component hw obeys) env past)
      f.machine := by
  refine recorded_invariant (fun past f => Linked f ∧
    Projection.Run (Carried.component hw obeys) env (trace (Carried.component hw obeys) env past) f.machine) ?_ ?_ run
  · rintro f ⟨config, accepted, now, source, x, boots, link, ingress, _⟩
    refine ⟨?_, .first _ ⟨config, accepted, now, source, x, boots, ?_⟩⟩
    · unfold Linked
      rw [link, ingress]
      exact attached_booked _
    · unfold Program.machine
      rw [link]
      rfl
  · rintro past f input recorded admitted ⟨linked, traced⟩
    obtain ⟨kept, same⟩ := @step_obeyed _ env hw f linked obeys input
    refine ⟨kept, ?_⟩
    have played : Projection.Run (Carried.component hw obeys) env
        (play (Projection.turn (Carried.component hw obeys) env)
          (trace (Carried.component hw obeys) env past, f.machine) (inputs env f input)).1
        (play (Projection.turn (Carried.component hw obeys) env)
          (trace (Carried.component hw obeys) env past, f.machine) (inputs env f input)).2 := by
      by_cases count : input = .count
      · subst count
        exact traced.turn (Projection.Input.between Event.tick) ⟨rfl, admitted⟩
      · exact recorded_play _ (fun _ listed w => inputs_free obeys count listed w) traced
    rw [play_append] at played
    rw [same]
    have ends := @play_state _ _ (Projection.turn (Carried.component hw obeys) env) ([], f.machine) (inputs env f input)
    dsimp only at ends played
    rw [ends] at played
    exact played

end Sd700.Firmware.Asked

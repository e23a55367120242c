import Sd700.Modbus.Ingress
import Sd700.Modbus.Server
import Sd700.Pressure.Receiver
import Sd700.Runs.Carried

/-! The firmware of a Build build: the main loop of `main.c` over the runtime of `runtime.c`, and the interrupts that
run between its statements. -/

namespace Sd700.Firmware.Loop
open Build.Contract Servo.State Motor.Interface Motor.BuildExecutor Motor.Bridge Logic.Run Runs
open Modbus.Server (RtuLink servoApplication attached)
open Pressure.Receiver (PressureReceiver)

abbrev Byte := BitVec 8

inductive Stage
  | boot | halted
  | clock | firstDrain | firstStop | readSnapshot | servicePressure | checkSafety | serviceMotor | motorFault
  | handleMotor | guardOutput | outputFault | drain | stop | request | tick | transmit
  deriving DecidableEq

/-- The locals and statics of `main`, the runtime, the receiver of USART6, and the ring and the link of USART2. The
machine is the one the Modbus server points to. -/
structure Program (Bridge : Type) where
  link : RtuLink (System (Device Bridge))
  receiver : PressureReceiver
  ingress : Modbus.Ingress.State
  sent : Bool
  failed : Bool
  delivered : U64
  pressure : Pressure.Receiver.Snapshot
  now : U32
  stopProcessed : Bool
  stage : Stage

variable {Bridge : Type} (env : Platform (Device Bridge)) (hw : Hardware Bridge)

namespace Program

variable (f : Program Bridge)

def machine : System (Device Bridge) := f.link.server.machine

def withMachine (w : System (Device Bridge)) : Program Bridge :=
  { f with link := { f.link with server := { f.link.server with machine := w } } }

def withExec (x : Device Bridge) : Program Bridge := f.withMachine { f.machine with exec := x }

/-- `HAL_GetTick`. -/
def getTick : U32 := f.machine.exec.clock

def call (e : Calls.Event) (now : U32) : Program Bridge := f.withMachine (Calls.call env e now f.machine)

/-! ### The runtime -/

/-- `PressureControl_ConvertRawCounts`. -/
def convertRawCounts (counts : U16) : ℤ := counts.toNat

def sampleOf (s : Pressure.Receiver.Snapshot) : Sample where
  sequence := s.sampleSequence
  received := s.receivedAtMs
  raw := s.rawPressureCounts.setWidth 32
  frame := s.lastValidFrame
  control := convertRawCounts s.rawPressureCounts
  frameValid := true
  controlUnitsValid := true

def delivers : Bool :=
  if f.machine.haveSample then decide (f.pressure.sampleSequence ≠ f.delivered)
  else decide (f.pressure.sampleSequence ≠ 0)

/-- `ApplicationRuntime_ServicePressure`. -/
def servicePressure (now : U32) : Program Bridge :=
  if ¬ f.delivers then f
  else { f.call env (.sample (sampleOf f.pressure)) now with delivered := f.pressure.sampleSequence }

/-! ### USART2 -/

def unmasked : Bool :=
  match f.ingress.drain with
  | .idle => true
  | _ => false

/-- `ModbusUart2_ServiceMain` behind the transfer: the bytes, then the events. -/
def serviceBytes (bytes : List Byte) : Program Bridge :=
  let link := if bytes = [] then f.link else Modbus.Server.call (servoApplication env) f.link (.processBytes bytes)
  { f with
    link :=
      if f.failed then Modbus.Server.onError link
      else if f.sent then Modbus.Server.onTransmitComplete link
      else link
    sent := false, failed := false }

/-- `ModbusUart2_ServiceMain`: one access to the ring at a time, and what follows the last one. -/
def serviceMain (next : Stage) : Program Bridge :=
  if f.unmasked then { f with ingress := Modbus.Ingress.step f.ingress (.call (Modbus.Ingress.capacity - 1)) }
  else
    let accessed := { f with ingress := Modbus.Ingress.step f.ingress .access }
    if ¬ accessed.unmasked then accessed
    else
      { serviceBytes env accessed (Modbus.Ingress.access f.ingress.ring f.ingress.drain).2.2 with stage := next }

/-- `ModbusUart2_ProcessPendingStop`. -/
def processPendingStop (now : U32) : Program Bridge :=
  { f with
    link := Modbus.Server.call (servoApplication env) f.link (.takeStop now)
    stopProcessed := (Modbus.Server.takeStop (servoApplication env) now f.link.server).2 }

/-- `ModbusUart2_ProcessOneNormalRequest`. -/
def processOneNormalRequest (now : U32) : Program Bridge :=
  let asked := Modbus.Server.call (servoApplication env) f.link .hasPendingRequest
  let checked := Modbus.Server.call (servoApplication env) asked .pendingIsStop
  if ¬ (Modbus.Server.hasPendingRequest f.link.server).2 then { f with link := asked }
  else if (Modbus.Server.pendingIsStop asked.server).2 then { f with link := checked }
  else { f with link := Modbus.Server.call (servoApplication env) checked (.processPending now) }

/-! ### The main loop -/

/-- The last part of the start-up, behind its delay: USART6 and the Modbus server start anew and the machine completes
its boot. -/
def completeBoot : Program Bridge :=
  let w := Calls.call env (.boot true) f.getTick f.machine
  { f with
    link := attached w, receiver := Pressure.Receiver.cleared, ingress := Modbus.Ingress.start
    sent := false, failed := false, stage := if w.state = .idle then .clock else .halted }

/-- One statement of `main`. `starts` is what `HAL_UART_Transmit_IT` answers. -/
def main (starts : Bool) : Program Bridge :=
  match f.stage with
  | .boot => f.completeBoot env
  | .halted => f
  | .clock => { f with now := f.getTick, stage := .firstDrain }
  | .firstDrain => f.serviceMain env .firstStop
  | .firstStop => { f.processPendingStop env f.getTick with stage := .readSnapshot }
  | .readSnapshot => { f with pressure := f.receiver.snapshot, stage := .servicePressure }
  | .servicePressure => { f.servicePressure env f.getTick with now := f.getTick, stage := .checkSafety }
  | .checkSafety => { f.call env .safety f.now with stage := .serviceMotor }
  | .serviceMotor =>
    let served := f.machine.exec.service hw f.now
    { f.withExec served.2 with stage := if served.1 = .ok then .handleMotor else .motorFault }
  | .motorFault =>
    { (f.withExec (f.machine.exec.disable hw).2).call env (.report .motor .motorHardware) f.now with
      stage := .guardOutput }
  | .handleMotor => { f.call env .service f.now with stage := .guardOutput }
  | .guardOutput =>
    let guarded := f.machine.exec.guardOutput hw
    { f.withExec guarded.2 with stage := if guarded.1 = .ok then .drain else .outputFault }
  | .outputFault => { f.call env (.report .motor .motorHardware) f.now with stage := .drain }
  | .drain => f.serviceMain env .stop
  | .stop => { f.processPendingStop env f.now with stage := .request }
  | .request => { (if f.stopProcessed then f else f.processOneNormalRequest env f.now) with stage := .tick }
  | .tick => { f.call env .tick f.now with stage := .transmit }
  | .transmit => { f with link := Modbus.Server.service starts f.link, stage := .clock }

/-! ### Interrupts -/

/-- What happens next: a statement of `main`, an interrupt of a UART or of TIM5, or one of its counts. -/
inductive Input
  | main (starts : Bool)
  | pressureByte (byte : Byte)
  | modbusByte (byte : Byte)
  | modbusSent
  | modbusFailed
  | stopTimer
  | count

def step : Input → Program Bridge
  | .main starts => f.main env hw starts
  | .pressureByte byte =>
    { f with receiver := (Pressure.Receiver.processBytes f.getTick [byte] (f.receiver, [])).1 }
  | .modbusByte byte => { f with ingress := Modbus.Ingress.step f.ingress (.push byte) }
  | .modbusSent => { f with sent := true }
  | .modbusFailed => { f with failed := true }
  | .stopTimer => f.withExec (f.machine.exec.step hw .interrupt)
  | .count => f.withExec (f.machine.exec.step hw .tick)

/-- USART2 interrupts once it is started, and not while its ring is drained; an interrupt of TIM5 that is asked for runs
before the next count. -/
def admits : Input → Prop
  | .modbusByte _ | .modbusSent | .modbusFailed => f.stage ≠ .boot ∧ f.unmasked = true
  | .count => f.machine.exec.raised = false
  | .main _ | .pressureByte _ | .stopTimer => True

instance admitsDecidable (f : Program Bridge) : (input : Input) → Decidable (f.admits input)
  | .modbusByte _ | .modbusSent | .modbusFailed => inferInstanceAs (Decidable (_ ∧ _))
  | .count => inferInstanceAs (Decidable (_ = _))
  | .main _ | .pressureByte _ | .stopTimer => .isTrue trivial

/-- The firmware before the delay of its start-up. -/
def Starts (f : Program Bridge) : Prop :=
  ∃ config accepted now source x, Device.Boots hw x ∧
    f.link = attached (Servo.Machine.initialized env config accepted now source x) ∧ f.ingress = Modbus.Ingress.start ∧
      f.receiver = Pressure.Receiver.cleared ∧ f.delivered = 0 ∧ f.stage = .boot

end Program

abbrev Run : List (Turn (Program Bridge) Program.Input) → Program Bridge → Prop :=
  Recorded (Program.step env hw) Program.admits (Program.Starts env hw)

end Sd700.Firmware.Loop

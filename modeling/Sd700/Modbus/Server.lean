import Sd700.Modbus.Protocol

/-! The RTU server and its half-duplex link: `modbus_rtu_server.c` and `modbus_rtu_link.c`, over an
application that takes commands and serves registers. Counters do not wrap here. The history is written
and never read: it tells which request met which end. -/

namespace Sd700.Modbus.Server
open Build.Contract Servo.State Servo.Machine Motor.Interface Protocol

/-! ### Frames -/

abbrev Byte := BitVec 8

def crcBit (crc : U16) : U16 :=
  if crc &&& 1 ≠ 0 then (crc >>> 1) ^^^ 0xA001 else crc >>> 1

def crcByte (crc : U16) (byte : Byte) : U16 :=
  Nat.iterate crcBit 8 (crc ^^^ byte.setWidth 16)

/-- `Modbus_Crc16`. -/
def crc16 (data : List Byte) : U16 :=
  if data = [] then 0 else data.foldl crcByte 0xFFFF

def byteAt (bytes : List Byte) (i : Nat) : Byte := bytes.getD i 0

def readU16 (bytes : List Byte) (i : Nat) : U16 := byteAt bytes i ++ byteAt bytes (i + 1)

def appendCrc (data : List Byte) : List Byte :=
  data ++ [(crc16 data).extractLsb' 0 8, (crc16 data).extractLsb' 8 8]

def stationId : Byte := 1
def requestLength : Nat := 8
def rxBufferCapacity : Nat := 32
def queueCapacity : Nat := 4

/-- `ModbusRtuServer_FirstFrameCrcIsValid`. -/
def firstFrameCrcIsValid (rx : List Byte) : Bool :=
  crc16 (rx.take 6) = byteAt rx 7 ++ byteAt rx 6

/-- `ModbusRtuServer_RequestIsStop`. -/
def requestIsStop (bytes : List Byte) : Bool :=
  byteAt bytes 1 = 5 ∧ readU16 bytes 2 = 1 ∧ readU16 bytes 4 = 0

/-! ### The application behind the server -/

/-- What the semantic map reaches: the command handler, the registers of an overlaid protocol, and the
readable registers. No overlay takes the STOP coil. -/
structure Application (Machine : Type) where
  handleCommand : Command → U32 → Machine → Machine × CommandResult
  protocolAddress : Byte → U16 → Bool
  protocolWrite : Byte → U16 → U16 → U32 → Machine → Machine × CommandResult
  readHolding : U16 → Machine → Machine × Option U16
  readInput : U16 → U32 → Machine → Machine × Option U16
  stopFree : protocolAddress 5 1 = false

variable {Machine : Type} (app : Application Machine)

/-- `ModbusSemantic_ApplyWrite`. -/
def applyWrite (function : Byte) (a v : U16) (now : U32) (m : Machine) : Machine × CommandResult :=
  if app.protocolAddress function a then app.protocolWrite function a v now m
  else if function = 6 ∧ a = 0 then app.handleCommand ⟨.setTarget, v.toNat⟩ now m
  else if function = 5 ∧ (a = 1 ∨ a = 2 ∨ a = 3) then
    match coilCommand a v with
    | none => (m, .invalidValue)
    | some type => app.handleCommand ⟨type, 0⟩ now m
  else (m, .unsupported)

def servoApplication {Exec : Type} (env : Platform Exec) : Application (System Exec) where
  handleCommand c now w :=
    let w := Servo.Machine.handleCommand env c now w
    (w, w.lastCommandResult)
  protocolAddress := writeAddress env.policy
  protocolWrite := servoWrite env
  readHolding := Protocol.readHolding env
  readInput a now w := (w, Protocol.readInput env a now w)
  stopFree := by cases env.policy; rfl

theorem servo_applyWrite {Exec : Type} (env : Platform Exec) (function : Byte) (a v : U16) (now : U32)
    (w : System Exec) :
    applyWrite (servoApplication env) function a v now w = Protocol.applyWrite env function a v now w := by
  unfold applyWrite Protocol.applyWrite
  cases coilCommand a v <;> rfl

/-! ### State -/

structure RtuRequest where
  arrival : Nat
  bytes : List Byte
  deriving DecidableEq

structure Answer where
  request : RtuRequest
  response : Option (List Byte)

/-- `ModbusRtuServerSnapshot`. -/
structure Snapshot where
  validRequestCount : Nat
  invalidCrcCount : Nat
  wrongStationCount : Nat
  droppedResyncByteCount : Nat
  exceptionResponseCount : Nat
  normalQueueFullDropCount : Nat
  duplicateStopCount : Nat
  normalDiscardedByStopCount : Nat
  droppedStopResponseCount : Nat

structure History where
  arrived : List RtuRequest
  duplicates : List RtuRequest
  refused : List RtuRequest
  discarded : List RtuRequest
  stopped : List RtuRequest
  executed : List RtuRequest
  answers : List Answer
  released : List (List Byte)

/-- `ModbusRtuServer`. -/
structure RtuServer (Machine : Type) where
  machine : Machine
  rx : List Byte
  queue : List RtuRequest
  stopRequest : RtuRequest
  stopLatched : Bool
  activeRequest : RtuRequest
  response : List Byte
  responsePending : Bool
  priorityResponse : List Byte
  priorityResponsePending : Bool
  snapshot : Snapshot
  history : History

/-- `ModbusRtuServer_Initialize`. -/
def initialized (m : Machine) : RtuServer Machine where
  machine := m
  rx := []
  queue := []
  stopRequest := ⟨0, List.replicate 8 0⟩
  stopLatched := false
  activeRequest := ⟨0, List.replicate 8 0⟩
  response := []
  responsePending := false
  priorityResponse := []
  priorityResponsePending := false
  snapshot := ⟨0, 0, 0, 0, 0, 0, 0, 0, 0⟩
  history := ⟨[], [], [], [], [], [], [], []⟩

/-! ### Extraction -/

/-- `ModbusRtuServer_DropFront`. -/
def dropFront (count : Nat) (s : RtuServer Machine) : RtuServer Machine :=
  { s with rx := s.rx.drop count }

def accept (request : RtuRequest) (s : RtuServer Machine) : RtuServer Machine :=
  let s := { s with
    snapshot := { s.snapshot with validRequestCount := s.snapshot.validRequestCount + 1 }
    history := { s.history with arrived := s.history.arrived ++ [request] } }
  if requestIsStop request.bytes then
    if ¬ s.stopLatched then { s with stopRequest := request, stopLatched := true }
    else
      { s with
        snapshot := { s.snapshot with duplicateStopCount := s.snapshot.duplicateStopCount + 1 }
        history := { s.history with duplicates := s.history.duplicates ++ [request] } }
  else if s.queue.length < queueCapacity then { s with queue := s.queue ++ [request] }
  else
    { s with
      snapshot := { s.snapshot with
        normalQueueFullDropCount := s.snapshot.normalQueueFullDropCount + 1 }
      history := { s.history with refused := s.history.refused ++ [request] } }

/-- The body of the loop in `ModbusRtuServer_TryExtractRequest`. -/
def extractOne (s : RtuServer Machine) : RtuServer Machine :=
  if ¬ firstFrameCrcIsValid s.rx then
    dropFront 1 { s with
      snapshot := { s.snapshot with
        invalidCrcCount :=
          if byteAt s.rx 0 = stationId then s.snapshot.invalidCrcCount + 1
          else s.snapshot.invalidCrcCount
        droppedResyncByteCount := s.snapshot.droppedResyncByteCount + 1 } }
  else if byteAt s.rx 0 ≠ stationId then
    dropFront requestLength { s with
      snapshot := { s.snapshot with
        wrongStationCount := s.snapshot.wrongStationCount + 1
        droppedResyncByteCount := s.snapshot.droppedResyncByteCount + requestLength } }
  else dropFront requestLength (accept ⟨s.snapshot.validRequestCount, s.rx.take requestLength⟩ s)

def extractLoop : Nat → RtuServer Machine → RtuServer Machine
  | 0, s => s
  | turns + 1, s => if s.rx.length < requestLength then s else extractLoop turns (extractOne s)

/-- `ModbusRtuServer_TryExtractRequest`. -/
def tryExtractRequest (s : RtuServer Machine) : RtuServer Machine := extractLoop s.rx.length s

/-- One byte of `ModbusRtuServer_ProcessBytes`. -/
def processByte (s : RtuServer Machine) (byte : Byte) : RtuServer Machine :=
  let s := if s.rx.length = rxBufferCapacity then
      dropFront 1 { s with snapshot := { s.snapshot with
        droppedResyncByteCount := s.snapshot.droppedResyncByteCount + 1 } }
    else s
  tryExtractRequest { s with rx := s.rx ++ [byte] }

/-- `ModbusRtuServer_ProcessBytes`. -/
def processBytes (bytes : List Byte) (s : RtuServer Machine) : RtuServer Machine :=
  bytes.foldl processByte s

/-- `ModbusRtuServer_HasPendingRequest`. -/
def hasPendingRequest (s : RtuServer Machine) : RtuServer Machine × Bool :=
  let s := tryExtractRequest s
  (s, decide (s.queue ≠ []))

/-- `ModbusRtuServer_PendingIsStop`. -/
def pendingIsStop (s : RtuServer Machine) : RtuServer Machine × Bool :=
  let s := tryExtractRequest s
  (s, s.stopLatched)

/-! ### Responses -/

/-- `ModbusRtuServer_MapCommandError`. -/
def mapCommandError (result : CommandResult) : Byte :=
  if result = .invalidValue then 3 else if result = .unsupported then 2 else 4

def exceptionFrame (function exception : Byte) : List Byte :=
  appendCrc [stationId, function ||| 0x80, exception]

/-- `ModbusRtuServer_PromotePriorityResponse`. -/
def promotePriorityResponse (s : RtuServer Machine) : RtuServer Machine :=
  if ¬ s.responsePending ∧ s.priorityResponsePending then
    { s with
      response := s.priorityResponse
      responsePending := true
      priorityResponse := []
      priorityResponsePending := false }
  else s

def holdStopResponse (request : RtuRequest) (response : List Byte) (s : RtuServer Machine) :
    RtuServer Machine :=
  { s with
    priorityResponse := response
    priorityResponsePending := true
    history := { s.history with answers := s.history.answers ++ [⟨request, some response⟩] } }

/-- `ModbusRtuServer_QueueStopResponse`. -/
def queueStopResponse (request : RtuRequest) (result : CommandResult) (s : RtuServer Machine) :
    RtuServer Machine :=
  if s.priorityResponsePending then
    { s with
      snapshot := { s.snapshot with
        droppedStopResponseCount := s.snapshot.droppedStopResponseCount + 1 }
      history := { s.history with answers := s.history.answers ++ [⟨request, none⟩] } }
  else if result = .accepted then promotePriorityResponse (holdStopResponse request request.bytes s)
  else
    promotePriorityResponse <| holdStopResponse request (exceptionFrame 5 (mapCommandError result)) { s with
      snapshot := { s.snapshot with exceptionResponseCount := s.snapshot.exceptionResponseCount + 1 } }

/-- `ModbusRtuServer_BuildException`. -/
def buildException (function exception : Byte) (s : RtuServer Machine) : RtuServer Machine :=
  { s with
    response := exceptionFrame function exception
    responsePending := true
    snapshot := { s.snapshot with exceptionResponseCount := s.snapshot.exceptionResponseCount + 1 } }

/-- `ModbusRtuServer_BuildWriteEcho`. -/
def buildWriteEcho (s : RtuServer Machine) : RtuServer Machine :=
  { s with response := s.activeRequest.bytes, responsePending := true }

def writable (function : Byte) (a : U16) : Bool :=
  app.protocolAddress function a ∨
    ¬ ((function = 6 ∧ a ≠ 0) ∨ (function = 5 ∧ a ≠ 1 ∧ a ≠ 2 ∧ a ≠ 3))

/-- `ModbusRtuServer_ProcessWrite`. -/
def processWrite (now : U32) (s : RtuServer Machine) : RtuServer Machine :=
  let function := byteAt s.activeRequest.bytes 1
  let a := readU16 s.activeRequest.bytes 2
  let v := readU16 s.activeRequest.bytes 4
  if ¬ writable app function a then buildException function 2 s
  else
    let done := applyWrite app function a v now s.machine
    if done.2 = .accepted then buildWriteEcho { s with machine := done.1 }
    else buildException function (mapCommandError done.2) { s with machine := done.1 }

def readRegister (function : Byte) (candidate : Nat) (now : U32) (m : Machine) : Machine × Option U16 :=
  if 65535 < candidate then (m, none)
  else if function = 3 then app.readHolding (BitVec.ofNat 16 candidate) m
  else app.readInput (BitVec.ofNat 16 candidate) now m

/-- The loop of `ModbusRtuServer_ProcessRead`: the data bytes of `count` registers, high bytes first. -/
def readLoop (function : Byte) (now : U32) : Nat → Nat → List Byte → Machine → Machine × Option (List Byte)
  | _, 0, data, m => (m, some data)
  | candidate, count + 1, data, m =>
    match readRegister app function candidate now m with
    | (m, none) => (m, none)
    | (m, some value) =>
      readLoop function now (candidate + 1) count
        (data ++ [value.extractLsb' 8 8, value.extractLsb' 0 8]) m

def dataBytes (values : List U16) : List Byte :=
  values.flatMap fun value => [value.extractLsb' 8 8, value.extractLsb' 0 8]

def readCode : ReadFunction → Byte
  | .holding => 3
  | .input => 4

theorem servo_readRegister {Exec : Type} (env : Platform Exec) (f : ReadFunction) (candidate : Nat) (now : U32)
    (w : System Exec) :
    readRegister (servoApplication env) (readCode f) candidate now w =
      Protocol.readRegister env f candidate now w := by
  unfold readRegister Protocol.readRegister
  cases f <;> rfl

/-- Reading over a ForceServo build gives the words its register protocol reads. -/
theorem servo_readLoop {Exec : Type} (env : Platform Exec) (f : ReadFunction) (now : U32)
    (candidate count : Nat) (values : List U16) (w : System Exec) :
    readLoop (servoApplication env) (readCode f) now candidate count (dataBytes values) w =
      ((Protocol.readLoop env f now candidate count values w).1,
        match (Protocol.readLoop env f now candidate count values w).2 with
        | .words values => some (dataBytes values)
        | .exception _ => none) := by
  induction count generalizing candidate values w with
  | zero => rfl
  | succ count ih =>
    rw [readLoop, Protocol.readLoop, servo_readRegister]
    generalize Protocol.readRegister env f candidate now w = read
    obtain ⟨u, value⟩ := read
    cases value with
    | none => rfl
    | some value =>
      have extended : dataBytes values ++ [value.extractLsb' 8 8, value.extractLsb' 0 8] =
          dataBytes (values ++ [value]) := by
        simp [dataBytes]
      dsimp only
      rw [extended]
      exact ih (candidate + 1) (values ++ [value]) u

/-- `ModbusRtuServer_ProcessRead`. -/
def processRead (now : U32) (s : RtuServer Machine) : RtuServer Machine :=
  let function := byteAt s.activeRequest.bytes 1
  let a := readU16 s.activeRequest.bytes 2
  let quantity := readU16 s.activeRequest.bytes 4
  if quantity = 0 ∨ maxReadRegisters < quantity.toNat then buildException function 3 s
  else
    match readLoop app function now a.toNat quantity.toNat [] s.machine with
    | (m, none) => buildException function 2 { s with machine := m }
    | (m, some data) =>
      { s with
        machine := m
        response := appendCrc ([stationId, function, (quantity * 2).setWidth 8] ++ data)
        responsePending := true }

/-! ### Execution -/

def applyStop (now : U32) (s : RtuServer Machine) : RtuServer Machine × CommandResult :=
  let request := s.stopRequest
  let done := applyWrite app (byteAt request.bytes 1) (readU16 request.bytes 2)
    (readU16 request.bytes 4) now s.machine
  ({ s with
    machine := done.1
    stopLatched := false
    queue := []
    snapshot := { s.snapshot with
      normalDiscardedByStopCount := s.snapshot.normalDiscardedByStopCount + s.queue.length }
    history := { s.history with
      stopped := s.history.stopped ++ [request]
      discarded := s.history.discarded ++ s.queue } }, done.2)

/-- `ModbusRtuServer_TakeStop`. -/
def takeStop (now : U32) (s : RtuServer Machine) : RtuServer Machine × Bool :=
  let s := tryExtractRequest s
  if ¬ s.stopLatched then (s, false)
  else
    let done := applyStop app now s
    (queueStopResponse s.stopRequest done.2 done.1, true)

def serve (now : U32) (s : RtuServer Machine) : RtuServer Machine :=
  let function := byteAt s.activeRequest.bytes 1
  if function = 3 ∨ function = 4 then processRead app now s
  else if function = 5 ∨ function = 6 then processWrite app now s
  else buildException function 1 s

def noteServed (s : RtuServer Machine) : RtuServer Machine :=
  { s with history := { s.history with
      executed := s.history.executed ++ [s.activeRequest]
      answers := s.history.answers ++
        [⟨s.activeRequest, if s.responsePending then some s.response else none⟩] } }

def activate (request : RtuRequest) (later : List RtuRequest) (s : RtuServer Machine) : RtuServer Machine :=
  { s with activeRequest := request, queue := later }

/-- `ModbusRtuServer_ProcessPending`. -/
def processPending (now : U32) (s : RtuServer Machine) : RtuServer Machine × Bool :=
  let s := (pendingIsStop s).1
  if s.stopLatched ∨ s.responsePending then (s, false)
  else
    let s := (hasPendingRequest s).1
    match s.queue with
    | [] => (s, false)
    | request :: later =>
      (tryExtractRequest (noteServed (serve app now (activate request later s))), true)

/-- `ModbusRtuServer_GetResponse`. -/
def getResponse (s : RtuServer Machine) : Option (List Byte) :=
  if s.responsePending then some s.response else none

/-- `ModbusRtuServer_CompleteResponse`. -/
def completeResponse (s : RtuServer Machine) : RtuServer Machine :=
  tryExtractRequest <| promotePriorityResponse { s with
    response := []
    responsePending := false
    history := { s.history with released := s.history.released ++ (getResponse s).toList } }

/-! ### The link -/

/-- `ModbusRtuLink`, with what its callbacks last told the transmitter: the driver-enable line, and the
bytes of the transmission that was started. -/
structure RtuLink (Machine : Type) where
  server : RtuServer Machine
  transmitActive : Bool
  driverEnable : Bool
  handed : List Byte

/-- `ModbusRtuLink_Initialize`. -/
def attached (m : Machine) : RtuLink Machine := ⟨initialized m, false, false, []⟩

/-- `ModbusRtuLink_Service`; the flag is the answer of `start_transmit`. -/
def service (starts : Bool) (l : RtuLink Machine) : RtuLink Machine :=
  if l.transmitActive then l
  else
    match getResponse l.server with
    | none => l
    | some response =>
      if ¬ starts then { l with driverEnable := false }
      else { l with transmitActive := true, driverEnable := true, handed := response }

/-- The shared ending of `ModbusRtuLink_OnTransmitComplete` and `ModbusRtuLink_OnError`. -/
def finish (l : RtuLink Machine) : RtuLink Machine :=
  let l := { l with driverEnable := false }
  if ¬ l.transmitActive then l
  else { l with transmitActive := false, server := completeResponse l.server }

def onTransmitComplete (l : RtuLink Machine) : RtuLink Machine := finish l

def onError (l : RtuLink Machine) : RtuLink Machine := finish l

inductive Call
  | processBytes (bytes : List Byte)
  | hasPendingRequest
  | pendingIsStop
  | takeStop (now : U32)
  | processPending (now : U32)
  | completeResponse
  | service (starts : Bool)
  | onTransmitComplete
  | onError

def call (l : RtuLink Machine) : Call → RtuLink Machine
  | .processBytes bytes => { l with server := processBytes bytes l.server }
  | .hasPendingRequest => { l with server := (hasPendingRequest l.server).1 }
  | .pendingIsStop => { l with server := (pendingIsStop l.server).1 }
  | .takeStop now => { l with server := (takeStop app now l.server).1 }
  | .processPending now => { l with server := (processPending app now l.server).1 }
  | .completeResponse => { l with server := completeResponse l.server }
  | .service starts => service starts l
  | .onTransmitComplete => onTransmitComplete l
  | .onError => onError l

def run (calls : List Call) (l : RtuLink Machine) : RtuLink Machine := calls.foldl (call app) l

end Sd700.Modbus.Server

import Sd700.Build.Contract

/-! The pressure sensor's byte stream: `pressure_receiver.c` over the frame decoder. Each byte is taken
on its own; what it publishes is returned beside the receiver. -/

namespace Sd700.Pressure.Receiver
open Build.Contract

abbrev Byte := BitVec 8

/-! ### Frames -/

def frameLength : Nat := 7
def frameHeader : Byte := 0xFD
def frameMarker : Byte := 0xFE
def bccIndex : Nat := 5

/-- `PressureFrameResult`, without the argument check. -/
inductive FrameResult
  | invalidLength | invalidHeader | invalidBcc | invalidMarker
  deriving DecidableEq, Repr

def calculateBcc (data : List Byte) : Byte := data.foldl (· ^^^ ·) 0

def byteAt (bytes : List Byte) (i : Nat) : Byte := bytes.getD i 0

def rawPressureCounts (frame : List Byte) : U16 :=
  (byteAt frame 1).setWidth 16 ||| (byteAt frame 2).setWidth 16 <<< 8

def decodeFrame (frame : List Byte) : Except FrameResult U16 :=
  if frame.length ≠ frameLength then .error .invalidLength
  else if byteAt frame 0 ≠ frameHeader then .error .invalidHeader
  else if byteAt frame bccIndex ≠ calculateBcc (frame.take bccIndex) then .error .invalidBcc
  else if byteAt frame 6 ≠ frameMarker then .error .invalidMarker
  else .ok (rawPressureCounts frame)

/-! ### The receiver -/

/-- `PressureReceiverSnapshot`. -/
structure Snapshot where
  rawPressureCounts : U16
  lastValidFrame : List Byte
  sampleSequence : U64
  receivedAtMs : U32
  validFrameCount : U32
  invalidHeaderCount : U32
  invalidBccCount : U32
  invalidMarkerCount : U32
  droppedResyncByteCount : U32
  lastValidFrameMs : U32
  frameIntervalMinMs : U32
  frameIntervalMaxMs : U32
  deriving DecidableEq, Repr

/-- The buffer is the part of the array below `frame_length`. -/
structure PressureReceiver where
  frame : List Byte
  snapshot : Snapshot
  deriving DecidableEq, Repr

/-- `PressureReceiver_Initialize`. -/
def cleared : PressureReceiver :=
  ⟨[], ⟨0, List.replicate frameLength 0, 0, 0, 0, 0, 0, 0, 0, 0, 0, 0⟩⟩

def noteInterval (receivedAtMs : U32) (s : Snapshot) : Snapshot :=
  if s.validFrameCount ≠ 0 then
    let interval := receivedAtMs - s.lastValidFrameMs
    { s with
      frameIntervalMinMs :=
        if s.frameIntervalMinMs = 0 ∨ interval.ult s.frameIntervalMinMs then interval else s.frameIntervalMinMs
      frameIntervalMaxMs :=
        if s.frameIntervalMaxMs.ult interval then interval else s.frameIntervalMaxMs }
  else s

def publishValidFrame (counts : U16) (receivedAtMs : U32) (s : Snapshot) : Snapshot :=
  let s := noteInterval receivedAtMs s
  { s with
    rawPressureCounts := counts
    sampleSequence := s.sampleSequence + 1
    receivedAtMs := receivedAtMs
    validFrameCount := s.validFrameCount + 1
    lastValidFrameMs := receivedAtMs }

def countFrameError (result : FrameResult) (s : Snapshot) : Snapshot :=
  match result with
  | .invalidBcc => { s with invalidBccCount := s.invalidBccCount + 1 }
  | .invalidMarker => { s with invalidMarkerCount := s.invalidMarkerCount + 1 }
  | _ => s

def headerIndex (frame : List Byte) : Nat := 1 + (frame.drop 1).findIdx (· == frameHeader)

def resynchronize (r : PressureReceiver) : PressureReceiver :=
  let index := headerIndex r.frame
  ⟨if index < r.frame.length then r.frame.drop index else [],
    { r.snapshot with droppedResyncByteCount := r.snapshot.droppedResyncByteCount + BitVec.ofNat 32 index }⟩

def processFrame (receivedAtMs : U32) (r : PressureReceiver) : PressureReceiver × List Snapshot :=
  match decodeFrame r.frame with
  | .ok counts =>
    let snapshot := publishValidFrame counts receivedAtMs { r.snapshot with lastValidFrame := r.frame }
    (⟨[], snapshot⟩, [snapshot])
  | .error result => (resynchronize { r with snapshot := countFrameError result r.snapshot }, [])

def skipByte (s : Snapshot) : Snapshot :=
  { s with
    invalidHeaderCount := s.invalidHeaderCount + 1
    droppedResyncByteCount := s.droppedResyncByteCount + 1 }

def processByte (receivedAtMs : U32) (r : PressureReceiver) (byte : Byte) : PressureReceiver × List Snapshot :=
  if r.frame.length = 0 ∧ byte ≠ frameHeader then ({ r with snapshot := skipByte r.snapshot }, [])
  else
    let r := { r with frame := r.frame ++ [byte] }
    if r.frame.length = frameLength then processFrame receivedAtMs r else (r, [])

abbrev Published := PressureReceiver × List Snapshot

def advance (receivedAtMs : U32) (p : Published) (byte : Byte) : Published :=
  let next := processByte receivedAtMs p.1 byte
  (next.1, p.2 ++ next.2)

/-- `PressureReceiver_ProcessBytes`. -/
def processBytes (receivedAtMs : U32) (bytes : List Byte) (p : Published) : Published :=
  bytes.foldl (advance receivedAtMs) p

structure Call where
  bytes : List Byte
  receivedAtMs : U32

def receive (calls : List Call) : Published :=
  calls.foldl (fun p call => processBytes call.receivedAtMs call.bytes p) (cleared, [])

end Sd700.Pressure.Receiver

import Sd700.Logic.Run
import Sd700.Logic.Modular
import Sd700.Build.Contract
import Sd700.Pressure.State
import Sd700.Pressure.Adapt
import Sd700.Pressure.Update
import Sd700.Pressure.Receiver
import Sd700.Pressure.Reception
import Sd700.Build.Segment
import Sd700.Pressure.Envelope
import Sd700.Logic.Binary32
import Sd700.Servo.Config
import Sd700.Servo.Controller
import Sd700.Motor.Interface
import Sd700.Servo.State
import Sd700.Servo.BuildMachine
import Sd700.Servo.Machine
import Sd700.Modbus.Protocol
import Sd700.Modbus.ReadBack
import Sd700.Servo.Moves
import Sd700.Servo.Paths
import Sd700.Runs.Calls
import Sd700.Runs.Terminal
import Sd700.Runs.NoResponse
import Sd700.Logic.Scan
import Sd700.Modbus.Server
import Sd700.Modbus.Framing
import Sd700.Modbus.Fates
import Sd700.Modbus.Accounting
import Sd700.Modbus.Responses
import Sd700.Logic.Floating
import Sd700.Machine.ForcePi
import Sd700.Motor.Pulses
import Sd700.Machine.Context
import Sd700.Machine.Handlers
import Sd700.Machine.Outcomes
import Sd700.Machine.Ownership
import Sd700.Machine.SettleGate
import Sd700.Machine.PressBoost
import Sd700.Machine.PressureSafety
import Sd700.Machine.Deadlines
import Sd700.Runs.Feedback
import Sd700.Motor.Bridge
import Sd700.Motor.BuildExecutor
import Sd700.Motor.Starts
import Sd700.Motor.Finish
import Sd700.Runs.Compare
import Sd700.Motor.Timer
import Sd700.Logic.Ring
import Sd700.Modbus.Ingress
import Sd700.Servo.Entries
import Sd700.Runs.Entries
import Sd700.Runs.Uploads
import Sd700.Runs.Assist
import Sd700.Logic.Stopwatch
import Sd700.Runs.Stalls
import Sd700.Logic.Smoothstep
import Sd700.Machine.PiSequence
import Sd700.Servo.Admitted
import Sd700.Servo.Trajectory
import Sd700.Servo.Shaping
import Sd700.Logic.Faults
import Sd700.Motor.BridgeWrites
import Sd700.Motor.TerminalEvents
import Sd700.Motor.TimerAccess
import Sd700.Machine.Strategy
import Sd700.Machine.Corrections
import Sd700.Machine.Budget
import Sd700.Logic.Extremes
import Sd700.Pressure.Intervals
import Sd700.Logic.ShiftRegister
import Sd700.Modbus.Crc
import Sd700.Logic.Checks
import Sd700.Tools.Hex
import Sd700.Tools.HexRecords
import Sd700.Tools.Elf
import Sd700.Tools.ElfChecks
import Sd700.Tools.Cleanup
import Sd700.Tools.CleanupSafety
import Sd700.Motor.Locked
import Sd700.Motor.Unlocked
import Sd700.Motor.Continuous
import Sd700.Motor.Agreement
import Sd700.Pressure.Ladder
import Sd700.Pressure.Pause
import Sd700.Pressure.Sudden
import Sd700.Motor.Leases
import Sd700.Motor.Sessions
import Sd700.Runs.Leased
import Sd700.Motor.Cutoff
import Sd700.Motor.Frames
import Sd700.Runs.Carried
import Sd700.Firmware.Asked
import Sd700.Firmware.Heard

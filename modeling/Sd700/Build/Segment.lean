import Sd700.Pressure.Update

/-! The segment request `ForceBuildMachine_Pressure` builds from a PULSE or APPROACH decision. -/

namespace Sd700.Build.Segment
open Contract Pressure.State

/-- The request filled in for `MotorExecutor_StartBuildSegment`. -/
def segmentRequest (target : U32) (q : Decision) : Request where
  phase := q.phase
  command := BitVec.ofInt 32 q.command
  hardMs := BitVec.ofNat 32 (q.normalMs + 1)
  baseCommand := BitVec.ofInt 32 q.command
  mode := q.mode
  preloadCommand := 0
  normalMs := BitVec.ofNat 32 q.normalMs
  settleMs := BitVec.ofNat 32 q.settleMs
  target := target
  precision := q.precisionLatched || q.mode == .fine

end Sd700.Build.Segment

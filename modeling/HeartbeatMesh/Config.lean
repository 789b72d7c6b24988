import HeartbeatMesh.Duration
import HeartbeatMesh.Node

/-!
# Configuration

What the shell is told before it starts: how its mesh runs and what it logs. A configuration is
used only if it passes `Config.validate`.
-/

namespace HeartbeatMesh

/-- The configuration of a mesh. -/
structure MeshConfig where
  /-- Seconds between two heartbeats of a node. -/
  interval : Float := 5.0
  /-- Seconds after which a silent peer is reported. -/
  timeout : Float := 10.0
  /-- Units that the bus keeps. -/
  capacity : Nat := 1024
  /-- Nodes that are started at the beginning. -/
  initialNodes : Nat := 1
  /-- Whether nodes take unknown peers from each other's views. -/
  mergeState : Bool := false
  deriving Repr, DecidableEq

/-- What is logged, and where. -/
structure LogConfig where
  level : String := "info"
  /-- The directory of the log files, if there are any. -/
  directory : Option String := none
  json : Bool := false
  deriving Repr, DecidableEq

/-- The whole configuration. -/
structure Config where
  mesh : MeshConfig := {}
  logging : LogConfig := {}
  deriving Repr, DecidableEq

/-! ## Periods -/

/-- The longest period, one week, in seconds. -/
def maxPeriod : Float := 604800.0

/-- The shortest period of a timer, one millisecond, in seconds. -/
def minPeriod : Float := 0.001

/-- A number of seconds brought into the range of periods. NaN counts as the longest. -/
def clampPeriod (seconds : Float) : Float :=
  if seconds.isNaN then maxPeriod
  else if seconds < minPeriod then minPeriod
  else if maxPeriod < seconds then maxPeriod
  else seconds

/-- The time span of a period in seconds. In the range of periods there always is one. -/
def periodOf (seconds : Float) : Nanoseconds :=
  (Nanoseconds.ofSeconds? (clampPeriod seconds)).getD 0

namespace MeshConfig

/-- The time span between two heartbeats. -/
def heartbeatPeriod (c : MeshConfig) : Nanoseconds := periodOf c.interval

/-- The time span after which a silent peer is reported. -/
def timeoutPeriod (c : MeshConfig) : Nanoseconds := periodOf c.timeout

/-- What a node of the mesh is told about its elections. -/
def settings (c : MeshConfig) : Settings := ⟨c.interval, c.mergeState⟩

end MeshConfig

/-! ## Validation -/

/-- Why a configuration cannot be used. -/
inductive Config.Defect where
  | intervalNotPositive
  | intervalTooLong
  | timeoutTooLong
  | timeoutTooShort
  | noCapacity
  deriving Repr, DecidableEq

def Config.Defect.message : Config.Defect → String
  | .intervalNotPositive => "heartbeat_interval_secs must be positive"
  | .intervalTooLong => "heartbeat_interval_secs must not exceed 604800 seconds"
  | .timeoutTooLong => "heartbeat_timeout_secs must not exceed 604800 seconds"
  | .timeoutTooShort => "heartbeat_timeout_secs must not be shorter than heartbeat_interval_secs"
  | .noCapacity => "channel_capacity must be at least 1"

/-- The first defect of a configuration. -/
def MeshConfig.defect? (c : MeshConfig) : Option Config.Defect :=
  if ¬ (c.interval.isFinite ∧ 0.0 < c.interval) then some .intervalNotPositive
  else if maxPeriod < c.interval then some .intervalTooLong
  else if maxPeriod < c.timeout then some .timeoutTooLong
  else if ¬ c.timeout.isFinite ∨ c.timeout < c.interval then some .timeoutTooShort
  else if c.capacity = 0 then some .noCapacity
  else none

/-- Passes a configuration that has no defect. -/
def Config.validate (c : Config) : Except Config.Defect Config :=
  match c.mesh.defect? with
  | some defect => .error defect
  | none => .ok c

end HeartbeatMesh

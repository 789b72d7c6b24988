import HeartbeatMesh.Config
import HeartbeatMesh.Mesh

/-!
# A mesh in time

The schedule that a mesh runs by. A node's heartbeat is due one period after its start and then
every period, and whatever is published is delivered before time goes on.

Each node reads the time from a clock of its own, which shows the wall time of its start and goes on
from there; so does the watcher that asks for silent peers.
-/

namespace HeartbeatMesh

/-- A clock that showed `origin` seconds at the instant `started`. -/
structure Clock where
  origin : Float
  started : Nanoseconds := 0
  deriving Repr

/-- What a clock shows at an instant. -/
def Clock.read (c : Clock) (now : Nanoseconds) : Float :=
  c.origin + Nanoseconds.toSeconds (now - c.started)

/-- The clock of a node and the instant of its next heartbeat. -/
structure Timer where
  clock : Clock
  due : Nanoseconds
  deriving Repr

/-- A mesh at an instant. -/
structure Timeline (γ : Type) where
  mesh : Mesh γ
  /-- The time between two heartbeats of a node. -/
  period : Nanoseconds
  /-- The clock by which peers are found silent. -/
  watch : Clock
  now : Nanoseconds := 0
  timers : IdMap Timer := ∅

namespace Timeline

variable {γ : Type}

/-- An empty mesh, whose watch shows `origin`; `none` if its bus cannot have the capacity. -/
def new? (config : MeshConfig) (origin : Float) : Option (Timeline γ) :=
  (Bus.new? config.capacity).map fun bus =>
    { mesh := { bus, settings := config.settings }
      period := config.heartbeatPeriod
      watch := { origin } }

/-- Delivers whatever is unread. -/
def settle (t : Timeline γ) : Timeline γ := { t with mesh := t.mesh.settle }

/-- Starts a node at a moment at which the wall time is `origin`. -/
def start (t : Timeline γ) (nodeId : String) (origin : Float) (requestId : String) (source : γ) :
    Except TableError (Timeline γ) := do
  let clock : Clock := { origin, started := t.now }
  let mesh ← t.mesh.start nodeId (clock.read t.now) requestId source
  return { t with mesh, timers := t.timers.insert nodeId ⟨clock, t.now + t.period⟩ }

/-- Stops a node. -/
def stop (t : Timeline γ) (nodeId : String) : Except TableError (Timeline γ) := do
  let mesh ← t.mesh.stop nodeId
  return { t with mesh, timers := t.timers.erase nodeId }

/-- Stops all nodes. -/
def shutdown (t : Timeline γ) : Timeline γ := { t with mesh := t.mesh.shutdown, timers := ∅ }

/-- The peers of a node that have been silent for more than `timeout` seconds. -/
def stalePeers? (t : Timeline γ) (nodeId : String) (timeout : Float) : Option (List String) :=
  (t.mesh.node? nodeId).map (·.stalePeers (t.watch.read t.now) timeout)

/-! ## Going on -/

/-- The first timer that is due up to an instant; of several, the one with the smallest id. -/
def dueBy? (t : Timeline γ) (end_ : Nanoseconds) : Option (String × Timer) :=
  (t.timers.toList.filter (·.2.due ≤ end_)).foldl (fun first next =>
    match first with
    | none => some next
    | some first => if next.2.due < first.2.due then some next else some first) none

/-- Lets a timer go off. -/
def beat [WordSource γ] (t : Timeline γ) (nodeId : String) (timer : Timer) : Timeline γ :=
  { t with
    mesh := t.mesh.tick nodeId (timer.clock.read timer.due)
    now := timer.due
    timers := t.timers.insert nodeId { timer with due := timer.due + t.period } }

/-- The number of heartbeats that are due up to an instant. -/
def beatsBy (t : Timeline γ) (end_ : Nanoseconds) : Nat :=
  (t.timers.values.filter (·.due ≤ end_)).foldl
    (fun n timer => n + ((end_ - timer.due) / t.period + 1)) 0

/-- Goes on to an instant: heartbeats happen in the order of their times. -/
def advanceTo [WordSource γ] (t : Timeline γ) (end_ : Nanoseconds) : Timeline γ :=
  go (t.beatsBy end_) t
where
  go : Nat → Timeline γ → Timeline γ
    | 0, t => { t with now := end_ }
    | fuel + 1, t =>
      match t.dueBy? end_ with
      | none => { t with now := end_ }
      | some (nodeId, timer) => go fuel (t.beat nodeId timer).settle

end Timeline

end HeartbeatMesh

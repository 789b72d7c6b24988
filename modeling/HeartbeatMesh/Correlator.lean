import Std.Data.ExtTreeSet

/-!
# Requests and their responses

Everyone on the bus hears every response, and several nodes answer each request. A correlator holds
the ids of the requests that have had no answer yet; the first response to one of them takes its id
out, so a response that comes again, or that answers somebody else, finds nothing.
-/

namespace HeartbeatMesh

/-- The ids of the requests that wait for a response. -/
structure Correlator where
  outstanding : Std.ExtTreeSet String := ∅
  deriving DecidableEq

namespace Correlator

/-- Records a request. -/
def register (c : Correlator) (requestId : String) : Correlator :=
  ⟨c.outstanding.insert requestId⟩

/-- Whether a request waits for a response. -/
def isOutstanding (c : Correlator) (requestId : String) : Bool :=
  c.outstanding.contains requestId

/-- The number of requests that wait for a response. -/
def count (c : Correlator) : Nat := c.outstanding.size

/-- Takes a response: if its request waits, the request is done and the handler runs. -/
def respond {α : Type} (c : Correlator) (requestId : String) (handler : String → α) :
    Option α × Correlator :=
  if c.isOutstanding requestId then
    (some (handler requestId), ⟨c.outstanding.erase requestId⟩)
  else (none, c)

end Correlator

end HeartbeatMesh

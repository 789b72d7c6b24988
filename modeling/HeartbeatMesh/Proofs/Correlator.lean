import HeartbeatMesh.Correlator
import Mathlib.Logic.Function.Basic

/-!
# Which requests wait

A correlator is looked at one request at a time: sending a request makes it wait, a response to it
makes it wait no longer, and neither touches any other request.
-/

namespace HeartbeatMesh.Correlator

/-- The request has had its response. -/
def done (c : Correlator) (requestId : String) : Correlator := ⟨c.outstanding.erase requestId⟩

/-- A response to a request that waits is handed on, and any other is not. -/
theorem respond_eq {α : Type} (c : Correlator) (requestId : String) (handler : String → α) :
    c.respond requestId handler
      = if c.isOutstanding requestId then (some (handler requestId), c.done requestId)
        else (none, c) :=
  rfl

theorem isOutstanding_register (c : Correlator) (requestId : String) :
    (c.register requestId).isOutstanding = Function.update c.isOutstanding requestId true := by
  funext r
  rw [isOutstanding, register, Std.ExtTreeSet.contains_insert, Function.update_apply]
  by_cases h : r = requestId
  · simp [h]
  · simp [h, Ne.symm h, isOutstanding]

theorem isOutstanding_done (c : Correlator) (requestId : String) :
    (c.done requestId).isOutstanding = Function.update c.isOutstanding requestId false := by
  funext r
  rw [isOutstanding, done, Std.ExtTreeSet.contains_erase, Function.update_apply]
  by_cases h : r = requestId
  · simp [h]
  · simp [h, Ne.symm h, isOutstanding]

end HeartbeatMesh.Correlator

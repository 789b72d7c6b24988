import HeartbeatMesh.Proofs.Bus.Delivery
import HeartbeatMesh.Proofs.Config
import HeartbeatMesh.Shell.Program

/-!
# Running a valid configuration

A session of a valid configuration beats in the interval of the configuration, from its beginning to
its end (`timeline_period_attend`): nothing that a session does changes the time between two
heartbeats. That this time is not zero, and not longer than the time after which a peer counts as
silent, comes from how periods are clamped. What validation does not look at is whether there is
room for a bus of the capacity (`Bus.isSome_new?_iff`).
-/

namespace HeartbeatMesh

/-! ## The time between two heartbeats -/

namespace Timeline

variable {γ : Type} {t t' : Timeline γ}

theorem period_start {nodeId requestId : String} {origin : Float} {source : γ}
    (h : t.start nodeId origin requestId source = .ok t') : t'.period = t.period := by
  rw [start] at h
  cases hmesh : t.mesh.start nodeId _ requestId source with
  | error e =>
    rw [hmesh] at h
    cases h
  | ok m =>
    rw [hmesh] at h
    cases h
    rfl

/-- A node's first heartbeat comes after the time between two. -/
theorem due_start {nodeId requestId : String} {origin : Float} {source : γ}
    (h : t.start nodeId origin requestId source = .ok t') :
    (t'.timers[nodeId]?).map (·.due) = some (t.now + t.period) := by
  rw [start] at h
  cases hmesh : t.mesh.start nodeId _ requestId source with
  | error e =>
    rw [hmesh] at h
    cases h
  | ok m =>
    rw [hmesh] at h
    cases h
    change ((t.timers.insert nodeId _)[nodeId]?).map _ = _
    rw [Std.ExtTreeMap.getElem?_insert_self]
    rfl

theorem period_stop {nodeId : String} (h : t.stop nodeId = .ok t') : t'.period = t.period := by
  rw [stop] at h
  cases hmesh : t.mesh.stop nodeId with
  | error e =>
    rw [hmesh] at h
    cases h
  | ok m =>
    rw [hmesh] at h
    cases h
    rfl

theorem period_advanceTo [WordSource γ] (t : Timeline γ) (instant : Nanoseconds) :
    (t.advanceTo instant).period = t.period := by
  rw [advanceTo]
  induction t.beatsBy instant generalizing t with
  | zero => rfl
  | succ fuel ih =>
    rw [advanceTo.go]
    cases t.dueBy? instant with
    | none => rfl
    | some next => exact ih _

end Timeline

namespace Shell.Session

variable {γ : Type} (s : Session γ)

variable {s} in
theorem timeline_period_of_new? {config : MeshConfig} {origin : Float}
    {newcomers : Nat → Newcomer γ} (h : new? config origin newcomers = some s) :
    s.timeline.period = config.heartbeatPeriod := by
  obtain ⟨t, ht, rfl⟩ := Option.map_eq_some_iff.mp h
  obtain ⟨bus, -, rfl⟩ := Option.map_eq_some_iff.mp ht
  rfl

theorem timeline_period_addNode (origin : Float) :
    (s.addNode origin).2.timeline.period = s.timeline.period := by
  rw [addNode]
  dsimp only
  cases hstart : s.timeline.start _ origin _ _ with
  | error e => rfl
  | ok t => exact Timeline.period_start hstart

theorem timeline_period_populate (count : Nat) :
    (s.populate count).timeline.period = s.timeline.period := by
  rw [populate]
  change (count.repeat _ s).timeline.period = _
  induction count with
  | zero => rfl
  | succ count ih => rw [Nat.repeat, timeline_period_addNode, ih]

theorem timeline_period_execute (origin : Float) (command : Command) :
    (s.execute origin command).2.timeline.period = s.timeline.period := by
  cases command with
  | add => exact s.timeline_period_addNode origin
  | remove nodeId =>
    rw [execute]
    split
    · next h => exact Timeline.period_stop h
    · rfl
  | list | status | help | quit => rfl

theorem timeline_period_interpret (origin : Float) (line : String) :
    (s.interpret origin line).2.timeline.period = s.timeline.period := by
  rw [interpret]
  split
  · rfl
  · exact s.timeline_period_execute origin _

/-- Whatever arrives, the nodes go on in the same time. -/
theorem timeline_period_meet (a : Arrival) :
    (s.meet a).2.timeline.period = s.timeline.period := by
  cases a with
  | interrupt => rfl
  | line bytes =>
    rw [meet, serve]
    split
    · rfl
    · next text _ =>
      have hinterpret := s.timeline_period_interpret s.wallTime text
      split_ifs
      · rfl
      · split
        · next h => rwa [h] at hinterpret
        · next h => rwa [h] at hinterpret
        · next h => rwa [h] at hinterpret

theorem timeline_period_attend [WordSource γ] (output : String)
    (arrivals : List (Nanoseconds × Arrival)) :
    (s.attend output arrivals).2.timeline.period = s.timeline.period := by
  induction arrivals generalizing s output with
  | nil => rfl
  | cons a arrivals ih =>
    have hmeet := ((s.advanceTo a.1).timeline_period_meet a.2).trans
      (s.timeline.period_advanceTo a.1)
    rw [attend]
    split
    · next h =>
      rw [h] at hmeet
      exact (ih _ _).trans hmeet
    · next h => rwa [h] at hmeet

end Shell.Session

/-! ## Valid configurations -/

namespace Config

open Shell

/-- **Running a valid configuration.** Let a configuration pass validation.

* Its interval and its timeout, clamped to the range of periods, are converted to time spans. These
  are a millisecond at least and a week at most, and the interval is not longer than the timeout.
* There is a session for it exactly if its capacity is at most `2 ^ 57`.
* Whatever number of nodes a session starts with and whatever arrives, a node that is started
  then beats for the first time one interval later and, like all nodes, once in every interval. -/
theorem runs_of_validate {γ : Type} [WordSource γ] {c : Config} (h : c.validate = .ok c)
    (origin : Float) (newcomers : Nat → Newcomer γ) :
    (Nanoseconds.ofSeconds? (clampPeriod c.mesh.interval) = some c.mesh.heartbeatPeriod ∧
        Nanoseconds.ofSeconds? (clampPeriod c.mesh.timeout) = some c.mesh.timeoutPeriod) ∧
      (1000000 ≤ c.mesh.heartbeatPeriod ∧ c.mesh.heartbeatPeriod ≤ c.mesh.timeoutPeriod ∧
        c.mesh.timeoutPeriod ≤ 604800 * Nanoseconds.perSecond) ∧
      ((Session.new? c.mesh origin newcomers).isSome = true ↔ c.mesh.capacity ≤ 2 ^ 57) ∧
      ∀ s, Session.new? c.mesh origin newcomers = some s → ∀ count output arrivals,
        let t := ((s.populate count).attend output arrivals).2.timeline
        t.period = c.mesh.heartbeatPeriod ∧
          ∀ nodeId now requestId source t', t.start nodeId now requestId source = .ok t' →
            (t'.timers[nodeId]?).map (·.due) = some (t.now + c.mesh.heartbeatPeriod) := by
  obtain ⟨-, hvalid⟩ := validate_eq_ok_iff.mp h
  refine ⟨⟨ofSeconds?_clampPeriod _, ofSeconds?_clampPeriod _⟩, ⟨le_periodOf _, ?_, periodOf_le _⟩,
    ?_, ?_⟩
  · exact periodOf_le_periodOf hvalid.interval_isFinite hvalid.timeout_isFinite
      hvalid.interval_le_timeout
  · rw [Session.new?, Option.isSome_map, Timeline.new?, Option.isSome_map]
    exact Bus.isSome_new?_iff _
  · intro s hs count output arrivals t
    have hperiod : t.period = c.mesh.heartbeatPeriod := by
      rw [Session.timeline_period_attend, Session.timeline_period_populate]
      exact Session.timeline_period_of_new? hs
    refine ⟨hperiod, fun nodeId now requestId source t' hstart ↦ ?_⟩
    rw [← hperiod]
    exact Timeline.due_start hstart

/-- Heartbeats that come more often than once in a millisecond come once in a millisecond. -/
theorem runs_of_validate_rapid :
    let c : Config := { mesh := { interval := 0.0001, timeout := 604800.0 } }
    let newcomers : Nat → Newcomer WordCycle := fun _ ↦ ⟨"a", "r", ⟨#[], 0⟩⟩
    c.validate = .ok c ∧ c.mesh.heartbeatPeriod = 1000000 ∧
      c.mesh.heartbeatPeriod ≤ c.mesh.timeoutPeriod ∧
      ∃ s, Session.new? c.mesh 100 newcomers = some s ∧
        ((s.populate 1).attend greeting []).2.timeline.period = 1000000 := by
  intro c newcomers
  have hvalid : c.validate = .ok c := by decide +kernel
  have hperiod : c.mesh.heartbeatPeriod = 1000000 := by decide +kernel
  obtain ⟨-, ⟨-, hle, -⟩, hroom, hruns⟩ := runs_of_validate hvalid 100 newcomers
  obtain ⟨s, hs⟩ := Option.isSome_iff_exists.mp (hroom.mpr (by decide))
  exact ⟨hvalid, hperiod, hle, s, hs, hperiod ▸ (hruns s hs 1 greeting []).1⟩

/-- Validation lets a capacity pass that no bus can have. -/
theorem runs_of_validate_overfull :
    let c : Config := { mesh := { capacity := 2 ^ 63 } }
    let newcomers : Nat → Newcomer WordCycle := fun _ ↦ ⟨"a", "r", ⟨#[], 0⟩⟩
    c.validate = .ok c ∧ (Session.new? c.mesh 100 newcomers).isNone = true := by
  decide +kernel

end Config

end HeartbeatMesh

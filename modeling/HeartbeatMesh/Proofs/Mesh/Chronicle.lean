import HeartbeatMesh.Mesh
import HeartbeatMesh.Proofs.Bus
import HeartbeatMesh.Proofs.Node.Step

/-!
# Meshes with a memory

A mesh shows what is, not what was. A `Chronicle` adds the two things that statements about runs
have to speak of: every letter that has been published, in order, and the own records of the nodes
that have stopped.

A run is a list of acts. An act is an event of the mesh, the loss of a unit, or a change of the
settings that further nodes start with, so nodes of one mesh need not have the same settings. Which
acts may follow which is a discipline (`Obeys`); the weakest one here, `Permits`, asks that nobody
but the nodes publishes and that ids are well formed and never used again. `Lossless` asks in
addition that every published unit is read.
-/

namespace HeartbeatMesh

/-- The letters that a node puts its messages into. -/
def letters (nodeId : String) (messages : List Message) : List Letter :=
  messages.map fun message ↦ ⟨nodeId, message⟩

/-- A mesh, what has been published on its bus, and what has become of nodes that have stopped. -/
structure Chronicle (γ : Type) where
  mesh : Mesh γ
  published : List Letter := []
  /-- The own records of stopped nodes, as they were when the nodes stopped. -/
  retired : IdMap NodeRecord := ∅

namespace Chronicle

variable {γ : Type}

/-! ## Queries -/

/-- A running node. -/
def node? (c : Chronicle γ) (i : String) : Option Node := c.mesh.node? i

/-- The own record of a node, or the last one it had if it has stopped. -/
def record? (c : Chronicle γ) (i : String) : Option NodeRecord :=
  match c.node? i with
  | some n => some n.self
  | none => c.retired[i]?

/-- A node that is master, or was when it stopped. -/
def IsCrowned (c : Chronicle γ) (i : String) : Prop :=
  ∃ r, c.record? i = some r ∧ r.isMaster = true

/-- The letters that a running node has not read. -/
def unread (c : Chronicle γ) (i : String) : List Letter :=
  c.published.drop (c.published.length - c.mesh.unread i)

/-- Nothing is unread. -/
def Quiet (c : Chronicle γ) : Prop := ∀ i ∈ c.mesh.ids, c.mesh.unread i = 0

/-- No running node has been overtaken by the bus. -/
def KeepsUp (c : Chronicle γ) : Prop :=
  ∀ m ∈ c.mesh.members.values, c.mesh.bus.Keeps m.subscription

instance (c : Chronicle γ) : Decidable c.Quiet :=
  inferInstanceAs (Decidable (∀ i ∈ c.mesh.ids, c.mesh.unread i = 0))

instance (c : Chronicle γ) : Decidable c.KeepsUp :=
  inferInstanceAs (Decidable (∀ m ∈ c.mesh.members.values, c.mesh.bus.Keeps m.subscription))

/-! ## Acts -/

/-- What can be done in a run. -/
inductive Act (γ : Type) where
  | event (e : Mesh.Event γ)
  /-- The first unread unit of a node is lost. -/
  | lose (nodeId : String)
  /-- Nodes that start from now on have these settings. -/
  | configure (settings : Settings)

/-- Whether the act is the loss of a unit. -/
def Act.isLoss : Act γ → Bool
  | .lose _ => true
  | _ => false

/-- Whether the act is the start of a node. -/
def Act.isStart : Act γ → Bool
  | .event (.start _ _ _ _) => true
  | _ => false

variable [WordSource γ]

/-- The letters that an event publishes, apart from what somebody else does. -/
def output (m : Mesh γ) : Mesh.Event γ → List Letter
  | .start i now requestId _ =>
    if m.members.contains i then []
    else letters i ((Node.new i now m.settings).startup requestId).2
  | .tick i now =>
    match m.members[i]? with
    | none => []
    | some member => letters i (member.node.tick now member.source).1.2
  | .deliver i =>
    match m.members[i]? with
    | none => []
    | some member =>
      match (m.bus.receive member.subscription).1 with
      | .unit data => letters i (member.node.onUnit data).2
      | _ => []
  | .stop _ => []
  | .publish _ => []

/-- The records of stopped nodes after an event. -/
def retire (c : Chronicle γ) : Mesh.Event γ → IdMap NodeRecord
  | .stop i =>
    match c.node? i with
    | some n => c.retired.insert i n.self
    | none => c.retired
  | _ => c.retired

/-- A unit that is lost is read by nobody. -/
def lose (m : Mesh γ) (i : String) : Mesh γ :=
  match m.members[i]? with
  | none => m
  | some member => { m with bus := (m.bus.receive member.subscription).2 }

/-- Lets something be done. -/
def after (c : Chronicle γ) : Act γ → Chronicle γ
  | .event e => ⟨c.mesh.step e, c.published ++ output c.mesh e, c.retire e⟩
  | .lose i => { c with mesh := lose c.mesh i }
  | .configure settings => { c with mesh := { c.mesh with settings } }

/-- Lets things be done one after the other. -/
def run (c : Chronicle γ) (acts : List (Act γ)) : Chronicle γ := acts.foldl after c

/-- A mesh without nodes on a new bus. -/
def fresh (γ : Type) (bus : Bus) (settings : Settings) : Chronicle γ where
  mesh := { bus, settings }

/-! ## Disciplines -/

/-- Every act of a run is one that the discipline allows where it is done. -/
def Obeys (allowed : Chronicle γ → Act γ → Prop) : Chronicle γ → List (Act γ) → Prop
  | _, [] => True
  | c, act :: acts => allowed c act ∧ Obeys allowed (c.after act) acts

instance decidableObeys (allowed : Chronicle γ → Act γ → Prop)
    [∀ c act, Decidable (allowed c act)] :
    (c : Chronicle γ) → (acts : List (Act γ)) → Decidable (Obeys allowed c acts)
  | _, [] => .isTrue trivial
  | c, act :: acts =>
    have := decidableObeys allowed (c.after act) acts
    inferInstanceAs (Decidable (allowed c act ∧ Obeys allowed (c.after act) acts))

/-- Nobody but the nodes publishes, and a node starts under an id that can stand on an envelope and
that no stopped node has had. -/
def Permits (c : Chronicle γ) : Act γ → Prop
  | .event (.start i _ _ _) => IsNodeId i ∧ i ∉ c.retired
  | .event (.publish _) => False
  | _ => True

instance (c : Chronicle γ) : (act : Act γ) → Decidable (c.Permits act)
  | .event (.start i _ _ _) => inferInstanceAs (Decidable (IsNodeId i ∧ i ∉ c.retired))
  | .event (.publish _) => .isFalse id
  | .event (.stop _) | .event (.tick _ _) | .event (.deliver _) => .isTrue trivial
  | .lose _ | .configure _ => .isTrue trivial

/-- What is permitted when nothing is lost: no unit by itself, and none because the bus has
overtaken a node. -/
def Lossless (c : Chronicle γ) (act : Act γ) : Prop :=
  c.Permits act ∧ act.isLoss = false ∧ (c.after act).KeepsUp

instance (c : Chronicle γ) (act : Act γ) : Decidable (c.Lossless act) :=
  inferInstanceAs (Decidable (c.Permits act ∧ act.isLoss = false ∧ (c.after act).KeepsUp))

section Runs

variable {allowed : Chronicle γ → Act γ → Prop} {c : Chronicle γ} {acts : List (Act γ)}

/-- What every allowed act preserves, an allowed run preserves. -/
theorem Obeys.invariant {P : Chronicle γ → Prop}
    (hstep : ∀ c act, P c → allowed c act → P (c.after act)) (h : Obeys allowed c acts)
    (hc : P c) : P (c.run acts) := by
  induction acts generalizing c with
  | nil => exact hc
  | cons act acts ih => exact ih h.2 (hstep c act hc h.1)

/-- If every allowed act preserves `P` and publishes letters with `Q`, then so does every allowed
run. -/
theorem Obeys.published {P : Chronicle γ → Prop} {Q : Letter → Prop}
    (hstep : ∀ c act, P c → allowed c act → P (c.after act) ∧
      ∃ new, (c.after act).published = c.published ++ new ∧ ∀ l ∈ new, Q l)
    (h : Obeys allowed c acts) (hc : P c) :
    P (c.run acts) ∧ ∃ new, (c.run acts).published = c.published ++ new ∧ ∀ l ∈ new, Q l := by
  induction acts generalizing c with
  | nil => exact ⟨hc, [], (List.append_nil _).symm, fun l hl ↦ absurd hl List.not_mem_nil⟩
  | cons act acts ih =>
    obtain ⟨hafter, new, hnew, hQ⟩ := hstep c act hc h.1
    obtain ⟨hrun, more, hmore, hQ'⟩ := ih h.2 hafter
    refine ⟨hrun, new ++ more, ?_, fun l hl ↦ (List.mem_append.mp hl).elim (hQ l) (hQ' l)⟩
    rw [← List.append_assoc, ← hnew]
    exact hmore

end Runs

end Chronicle

end HeartbeatMesh

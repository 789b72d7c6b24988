import HeartbeatMesh.Proofs.Mesh.Table
import HeartbeatMesh.Proofs.Message.Relay
import HeartbeatMesh.Shell.Program
import Mathlib.Data.Set.Finite.Basic
import Mathlib.Order.Bounds.Defs

/-!
# Nodes with drawn ids

Whoever adds a node draws ids until one is free. If a free one is still to come the drawing ends
(`HasFree.acc`) with the first of them (`isLeast_firstFree`), so the table does not refuse the node
and grows by it (`execute_add`). There always is one to come in a supply that does not run out of
ids (`Inexhaustible`), and with such a supply a session begins with as many nodes as its
configuration says (`length_ids_ofConfig`).

The ids themselves are eight letters and digits, so nodes can be told by them (`isNodeId_ofSeed`).
-/

namespace HeartbeatMesh

/-- What a start does to the mesh, at the time that the clock of the new node shows. -/
theorem Timeline.mesh_start {γ : Type} (t : Timeline γ) (nodeId : String) (origin : Float)
    (requestId : String) (source : γ) :
    ((t.start nodeId origin requestId source).toOption.getD t).mesh
      = (t.mesh.start nodeId ((⟨origin, t.now⟩ : Clock).read t.now) requestId source).toOption.getD
          t.mesh := by
  rw [start]
  cases t.mesh.start nodeId _ requestId source <;> rfl

namespace Shell

/-! ## Drawing until an id is free -/

section Drawing

variable {γ : Type} {newcomers : Nat → Newcomer γ} {inUse : List String} {k : Nat}

/-- A newcomer whose id is free is still to come. -/
def HasFree (newcomers : Nat → Newcomer γ) (inUse : List String) (k : Nat) : Prop :=
  ∃ i, k ≤ i ∧ (newcomers i).nodeId ∉ inUse

/-- The ids do not run out: whichever are in use, a free one is still to come. -/
def Inexhaustible (newcomers : Nat → Newcomer γ) : Prop :=
  ∀ (inUse : List String) (k : Nat), HasFree newcomers inUse k

/-- A supply in which no id comes twice does not run out. -/
theorem inexhaustible_of_injective (h : Function.Injective fun i ↦ (newcomers i).nodeId) :
    Inexhaustible newcomers := by
  intro inUse k
  rw [HasFree]
  by_contra! hnone
  have hinfinite : {nodeId | nodeId ∈ inUse}.Infinite :=
    Set.infinite_of_injective_forall_mem (h.comp (add_right_injective k)) fun i ↦
      hnone (k + i) (Nat.le_add_right k i)
  exact hinfinite inUse.finite_toSet

theorem HasFree.succ (h : HasFree newcomers inUse k) (hk : (newcomers k).nodeId ∈ inUse) :
    HasFree newcomers inUse (k + 1) := by
  obtain ⟨i, hki, hi⟩ := h
  exact ⟨i, Nat.lt_of_le_of_ne hki fun hki ↦ hi (hki ▸ hk), hi⟩

/-- The drawing ends if a free id is still to come. -/
theorem HasFree.acc (h : HasFree newcomers inUse k) : Acc (PassesTo newcomers inUse) k := by
  obtain ⟨i, hki, hi⟩ := h
  induction hki using Nat.decreasingInduction with
  | self => exact ⟨_, fun j hj ↦ absurd hj.2 hi⟩
  | of_succ k _ ih => exact ⟨_, fun j hj ↦ hj.1 ▸ ih⟩

theorem firstFree_eq (h : HasFree newcomers inUse k) :
    firstFree newcomers inUse k =
      if (newcomers k).nodeId ∈ inUse then firstFree newcomers inUse (k + 1) else k := by
  rw [firstFree, WellFounded.partialExtrinsicFix_eq_apply_of_acc h.acc]
  split_ifs <;> rfl

/-- The drawing passes over the ids that are in use and ends at the first one that is free. -/
theorem isLeast_firstFree (h : HasFree newcomers inUse k) :
    IsLeast {i | k ≤ i ∧ (newcomers i).nodeId ∉ inUse} (firstFree newcomers inUse k) := by
  -- The induction is on the drawing itself, which ends: from what is said of the next newcomer
  -- follows what is said of this one.
  induction h.acc with
  | intro k _ ih =>
    rw [firstFree_eq h]
    split_ifs with hk
    · obtain ⟨⟨hle, hfree⟩, hleast⟩ := ih (k + 1) ⟨rfl, hk⟩ (h.succ hk)
      refine ⟨⟨Nat.le_of_succ_le hle, hfree⟩, fun j hj ↦ hleast ⟨?_, hj.2⟩⟩
      exact Nat.lt_of_le_of_ne hj.1 fun hkj ↦ hj.2 (hkj ▸ hk)
    · exact ⟨⟨le_rfl, hk⟩, fun j hj ↦ hj.1⟩

end Drawing

namespace Session

variable {γ : Type} {s : Session γ}

/-! ## The table of a session -/

/-- Whoever is added comes into the table, and everybody else stays as he is. -/
theorem mem_members_addNode (s : Session γ) (origin : Float) (k : String) :
    k ∈ (s.addNode origin).2.timeline.mesh.members ↔
      (s.addNode origin).1 = k ∨ k ∈ s.timeline.mesh.members := by
  rw [addNode]
  generalize firstFree _ _ _ = i
  dsimp only
  rw [Timeline.mesh_start, (Mesh.effect_start _ _ _ _ _).mem k]
  exact or_congr_right (and_iff_right id)

variable (h : HasFree s.newcomers s.timeline.mesh.ids s.drawn)
include h

theorem addNode_fst_not_mem (origin : Float) : (s.addNode origin).1 ∉ s.timeline.mesh.ids :=
  (isLeast_firstFree h).1.2

theorem ids_addNode_perm (origin : Float) :
    (s.addNode origin).2.timeline.mesh.ids.Perm
      ((s.addNode origin).1 :: s.timeline.mesh.ids) := by
  have hnodup : s.timeline.mesh.ids.Nodup := s.timeline.mesh.members.pairwise_keys.nodup
  refine Mesh.ids_perm (List.nodup_cons.mpr ⟨addNode_fst_not_mem h origin, hnodup⟩) fun k ↦ ?_
  rw [mem_members_addNode, List.mem_cons, eq_comm, Mesh.ids, Std.ExtTreeMap.mem_keys]

/-- **Adding a node.** If a free id is still to come, `add` answers with an id that has not been in
use and starts one node, under this id. -/
theorem execute_add (origin : Float) :
    ∃ nodeId ∉ s.timeline.mesh.ids, ∃ s',
      s.execute origin .add = (.ok (.output ("Started node " ++ nodeId)), s') ∧
        s'.timeline.mesh.ids.Perm (nodeId :: s.timeline.mesh.ids) :=
  ⟨_, addNode_fst_not_mem h origin, _, rfl, ids_addNode_perm h origin⟩

omit h

/-- Of newcomers that are added one after the other everybody comes in, and the supply stays what it
is. -/
theorem length_ids_repeat_addNode (h : Inexhaustible s.newcomers) (count : Nat) :
    let s' := count.repeat (fun s ↦ (s.addNode s.wallTime).2) s
    s'.newcomers = s.newcomers ∧
      s'.timeline.mesh.ids.length = s.timeline.mesh.ids.length + count := by
  induction count with
  | zero => exact ⟨rfl, rfl⟩
  | succ count ih =>
    obtain ⟨hnewcomers, hlength⟩ := ih
    refine ⟨hnewcomers, ?_⟩
    rw [Nat.repeat, (ids_addNode_perm (hnewcomers ▸ h _ _) _).length_eq, List.length_cons,
      hlength, Nat.add_assoc]

theorem length_ids_populate (h : Inexhaustible s.newcomers) (count : Nat) :
    (s.populate count).timeline.mesh.ids.length = s.timeline.mesh.ids.length + count := by
  rw [populate, settle, Timeline.settle, (Mesh.stays_settle _).ids_eq]
  exact (length_ids_repeat_addNode h count).2

/-- A session begins with as many nodes as its configuration says. -/
theorem length_ids_ofConfig {config : Config} {wallTime : Float} {newcomers : Nat → Newcomer γ}
    (h : Inexhaustible newcomers) (hs : ofConfig config wallTime newcomers = .ok s) :
    s.timeline.mesh.ids.length = config.mesh.initialNodes := by
  rw [ofConfig] at hs
  split at hs
  · cases hs
  · next s₀ hnew =>
    obtain ⟨t, ht, rfl⟩ := Option.map_eq_some_iff.mp hnew
    obtain ⟨bus, -, rfl⟩ := Option.map_eq_some_iff.mp ht
    obtain rfl := Except.ok.inj hs
    rw [length_ids_populate h]
    exact Nat.zero_add _

end Session

/-! ## Drawn ids -/

theorem mem_of_mem_drawText {γ : Type} [WordSource γ] {alphabet : List Char} {c : Char} {n : Nat}
    {source : γ} (h : c ∈ (drawText alphabet n source).1) : c ∈ alphabet := by
  induction n generalizing source with
  | zero => cases h
  | succ n ih =>
    rw [drawText, List.mem_append] at h
    rcases h with h | h
    · exact mem_of_choose (Option.mem_toList.mp h)
    · exact ih h

/-- A drawn id has eight characters, letters and digits, and so nodes can be told by it. -/
theorem isNodeId_ofSeed (seed : UInt64) :
    (Newcomer.ofSeed seed).nodeId.length = 8 ∧
      (∀ c ∈ (Newcomer.ofSeed seed).nodeId.toList, c.isAlphanum = true) ∧
      IsNodeId (Newcomer.ofSeed seed).nodeId := by
  have hdrawn : (Newcomer.ofSeed seed).nodeId.toList
      = (drawText idAlphabet 8 (Xoshiro.ofSeed seed)).1 := String.toList_ofList
  have hlength : (Newcomer.ofSeed seed).nodeId.length = 8 := by
    rw [← String.length_toList, hdrawn]
    exact length_drawText (by decide) 8 _
  have halphanum : ∀ c ∈ (Newcomer.ofSeed seed).nodeId.toList, c.isAlphanum = true := by
    have hall : idAlphabet.all Char.isAlphanum = true := by decide +kernel
    exact fun c hc ↦ List.all_eq_true.mp hall c (mem_of_mem_drawText (hdrawn ▸ hc))
  refine ⟨hlength, halphanum, fun hempty ↦ ?_, fun hspace ↦ ?_⟩
  · rw [hempty] at hlength
    cases hlength
  · cases halphanum ' ' hspace

end Shell

end HeartbeatMesh

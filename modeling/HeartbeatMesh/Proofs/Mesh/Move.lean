import HeartbeatMesh.Proofs.IdMap
import HeartbeatMesh.Proofs.Mesh.Chronicle
import HeartbeatMesh.Proofs.Node.Sound
import Mathlib.Logic.Function.Basic

/-!
# What an act does to a mesh

An act changes the bus, the table of nodes and the history at once. What it comes to is said by
`Move`, in terms of the nodes, their records and the letters that they have not read: either one
node has a `Turn`, or there is a `Pause`. Proofs about runs go by cases on it and look at no
subscription and no byte.

That a mesh can be seen this way is an invariant of its own, `Wired`: the bus keeps units of the
last published letters, and every running node has a subscription that is its own.
-/

namespace HeartbeatMesh.Chronicle

variable {γ : Type} {c c' : Chronicle γ} {i j : String}

/-! ## Wiring -/

/-- The bus carries what has been published, and the nodes read it through subscriptions of their
own. -/
structure Wired (c : Chronicle γ) : Prop where
  slots : 0 < c.mesh.bus.slots
  kept : c.mesh.bus.kept.toList <:+ c.published.map Letter.unit
  senders : ∀ l ∈ c.published, IsNodeId l.sender
  members : ∀ (i : String) (m : Member γ), c.mesh.members[i]? = some m →
    IsNodeId i ∧ m.node.id = i ∧ c.mesh.bus.Holds m.subscription
  distinct : ∀ (i j : String) (m m' : Member γ), c.mesh.members[i]? = some m →
    c.mesh.members[j]? = some m' → m.subscription = m'.subscription → i = j

theorem node?_of_member {m : Member γ} (h : c.mesh.members[i]? = some m) :
    c.node? i = some m.node := by
  rw [node?, Mesh.node?, h]
  rfl

theorem exists_member {n : Node} (h : c.node? i = some n) :
    ∃ m, c.mesh.members[i]? = some m ∧ m.node = n :=
  Option.map_eq_some_iff.mp h

theorem mem_ids_of_node? {n : Node} (h : c.node? i = some n) : i ∈ c.mesh.ids := by
  obtain ⟨member, hmember, -⟩ := exists_member h
  exact IdMap.mem_keys_iff.mpr ⟨member, hmember⟩

theorem mesh_unread_of_member {m : Member γ} (h : c.mesh.members[i]? = some m) :
    c.mesh.unread i = c.mesh.bus.unread m.subscription := by
  rw [Mesh.unread, h]

theorem mesh_unread_of_none (h : c.mesh.members[i]? = none) : c.mesh.unread i = 0 := by
  rw [Mesh.unread, h]

theorem unread_suffix (c : Chronicle γ) (i : String) : c.unread i <:+ c.published :=
  List.drop_suffix _ _

theorem Wired.mesh_unread_le (h : c.Wired) (i : String) :
    c.mesh.unread i ≤ c.published.length := by
  have hlen := h.kept.length_le
  rw [Array.length_toList, List.length_map] at hlen
  rcases hm : c.mesh.members[i]? with _ | m
  · rw [mesh_unread_of_none hm]
    exact Nat.zero_le _
  · rw [mesh_unread_of_member hm]
    exact Nat.le_trans (Bus.unread_le _ _) hlen

theorem Wired.unread_eq_nil_iff (h : c.Wired) : c.unread i = [] ↔ c.mesh.unread i = 0 := by
  have hle := h.mesh_unread_le i
  rw [unread, List.drop_eq_nil_iff]
  omega

theorem wired_fresh {capacity : Nat} {bus : Bus} (hbus : Bus.new? capacity = some bus)
    (settings : Settings) : (fresh γ bus settings).Wired where
  slots := Bus.slots_pos_of_new? hbus
  kept := by
    change bus.kept.toList <:+ _
    rw [Bus.kept_of_new? hbus]
    exact List.nil_suffix
  senders l hl := absurd hl List.not_mem_nil
  members i m hm := by
    change (∅ : IdMap (Member γ))[i]? = some m at hm
    rw [Std.ExtTreeMap.getElem?_empty] at hm
    cases hm
  distinct i j m m' hm := by
    change (∅ : IdMap (Member γ))[i]? = some m at hm
    rw [Std.ExtTreeMap.getElem?_empty] at hm
    cases hm

/-! ## Letters that are not read yet -/

/-- How the letters that nodes have not read have changed: of `rest` what the bus still keeps, and
then the `new` ones. -/
structure Passage (c c' : Chronicle γ) (rest : String → List Letter) (new : List Letter) :
    Prop where
  published : c'.published = c.published ++ new
  unread : ∀ j, c'.unread j <:+ rest j ++ new
  lossless : c'.KeepsUp → ∀ j, c'.node? j ≠ none → c'.unread j = rest j ++ new

section Lists

variable {α : Type} {l new : List α} {k u : Nat}

theorem drop_append_suffix (hk : k ≤ l.length) (hu : u ≤ k + new.length) :
    (l ++ new).drop ((l ++ new).length - u) <:+ l.drop (l.length - k) ++ new := by
  rw [← List.drop_append_of_le_length (Nat.sub_le _ _), List.length_append]
  exact List.drop_suffix_drop_left _ (by omega)

theorem drop_append_eq (hk : k ≤ l.length) (hu : u = k + new.length) :
    (l ++ new).drop ((l ++ new).length - u) = l.drop (l.length - k) ++ new := by
  rw [← List.drop_append_of_le_length (Nat.sub_le _ _), List.length_append]
  congr 1
  omega

end Lists

/-- The bus has changed at the subscription of one node and then taken new letters. -/
structure Rewiring (c c' : Chronicle γ) (i : String) (bus : Bus) (s : Nat) (new : List Letter) :
    Prop where
  off : c.mesh.bus.AgreesOff bus s
  ext : bus.Extends c'.mesh.bus (new.map Letter.unit)
  published : c'.published = c.published ++ new
  senders : ∀ l ∈ new, IsNodeId l.sender
  others : ∀ j ≠ i, ∀ m', c'.mesh.members[j]? = some m' → ∃ m, c.mesh.members[j]? = some m ∧
    m.subscription = m'.subscription ∧ m.node = m'.node ∧ m.subscription ≠ s
  own : ∀ m', c'.mesh.members[i]? = some m' →
    IsNodeId i ∧ m'.node.id = i ∧ m'.subscription = s ∧ bus.Holds s

theorem Rewiring.wired {bus : Bus} {s : Nat} {new : List Letter}
    (h : Rewiring c c' i bus s new) (hc : c.Wired) : c'.Wired where
  slots := by
    rw [h.ext.slots, h.off.slots]
    exact hc.slots
  kept := by
    obtain ⟨d, hd, -, hkept⟩ := h.ext.kept
    rw [hkept, h.off.kept, h.published, List.map_append]
    obtain ⟨dropped, hdropped⟩ := hc.kept
    refine (List.drop_suffix _ _).trans ⟨dropped, ?_⟩
    rw [← hdropped, List.append_assoc]
  senders l hl := by
    rw [h.published] at hl
    rcases List.mem_append.mp hl with hl | hl
    · exact hc.senders l hl
    · exact h.senders l hl
  members j m' hm' := by
    by_cases hj : j = i
    · subst hj
      obtain ⟨hid, hnode, rfl, hholds⟩ := h.own m' hm'
      exact ⟨hid, hnode, h.ext.holds hholds⟩
    · obtain ⟨m, hm, hsub, hnode, hne⟩ := h.others j hj m' hm'
      obtain ⟨hid, hn, hholds⟩ := hc.members j m hm
      exact ⟨hid, hnode ▸ hn, hsub ▸ h.ext.holds (h.off.holds hne hholds)⟩
  distinct j k m' m'' hj hk heq := by
    -- Nobody else had the subscription of the node before.
    by_cases hji : j = i
    · by_cases hki : k = i
      · rw [hji, hki]
      · obtain ⟨m, -, hsub, -, hne⟩ := h.others k hki m'' hk
        rw [hji] at hj
        exact absurd (hsub.trans (heq.symm.trans (h.own m' hj).2.2.1)) hne
    · obtain ⟨m, hm, hsub, -, hne⟩ := h.others j hji m' hj
      by_cases hki : k = i
      · rw [hki] at hk
        exact absurd (hsub.trans (heq.trans (h.own m'' hk).2.2.1)) hne
      · obtain ⟨m₂, hm₂, hsub₂, -, -⟩ := h.others k hki m'' hk
        exact hc.distinct j k m m₂ hm hm₂ (hsub.trans (heq.trans hsub₂.symm))

/-- The number of letters that a node has not read, before the new ones came. -/
theorem Rewiring.mesh_unread {bus : Bus} {s : Nat} {new : List Letter}
    (h : Rewiring c c' i bus s new) (hc : c.Wired) {j : String} {m' : Member γ}
    (hm' : c'.mesh.members[j]? = some m') :
    bus.Holds m'.subscription ∧
      bus.unread m'.subscription = if j = i then bus.unread s else c.mesh.unread j := by
  by_cases hj : j = i
  · subst hj
    obtain ⟨-, -, rfl, hholds⟩ := h.own m' hm'
    exact ⟨hholds, (if_pos rfl).symm⟩
  · obtain ⟨m, hm, hsub, -, hne⟩ := h.others j hj m' hm'
    rw [if_neg hj, ← hsub, h.off.unread hne, mesh_unread_of_member hm]
    exact ⟨h.off.holds hne (hc.members j m hm).2.2, rfl⟩

theorem Rewiring.passage {bus : Bus} {s : Nat} {new : List Letter}
    (h : Rewiring c c' i bus s new) (hc : c.Wired) :
    Passage c c' (Function.update c.unread i
      (c.published.drop (c.published.length - bus.unread s))) new := by
  -- What a node has still to read is given by a number of letters, before and after the new ones.
  have hrest (j : String) : ∃ k ≤ c.published.length,
      Function.update c.unread i (c.published.drop (c.published.length - bus.unread s)) j
        = c.published.drop (c.published.length - k) ∧
      ∀ m', c'.mesh.members[j]? = some m' → bus.unread m'.subscription = k := by
    by_cases hj : j = i
    · subst hj
      refine ⟨bus.unread s, ?_, Function.update_self _ _ _, fun m' hm' ↦ ?_⟩
      · have hlen := hc.kept.length_le
        rw [Array.length_toList, List.length_map, ← h.off.kept] at hlen
        exact Nat.le_trans (Bus.unread_le _ _) hlen
      · rw [(h.mesh_unread hc hm').2, if_pos rfl]
    · refine ⟨c.mesh.unread j, hc.mesh_unread_le j, Function.update_of_ne hj _ _, fun m' hm' ↦ ?_⟩
      rw [(h.mesh_unread hc hm').2, if_neg hj]
  refine ⟨h.published, ?_, ?_⟩
  · intro j
    obtain ⟨k, hk, heq, hunread⟩ := hrest j
    rw [heq, Chronicle.unread, h.published]
    refine drop_append_suffix hk ?_
    rcases hm' : c'.mesh.members[j]? with _ | m'
    · rw [mesh_unread_of_none hm']
      exact Nat.zero_le _
    · have hle := h.ext.unread_le (h.mesh_unread hc hm').1
      rw [List.length_map, hunread m' hm'] at hle
      rwa [mesh_unread_of_member hm']
  · intro hkeeps j hj
    obtain ⟨k, hk, heq, hunread⟩ := hrest j
    obtain ⟨n, hn⟩ := Option.ne_none_iff_exists'.mp hj
    obtain ⟨m', hm', -⟩ := exists_member hn
    rw [heq, Chronicle.unread, h.published]
    refine drop_append_eq hk ?_
    have hkeeps' := hkeeps m' (IdMap.mem_values_iff.mpr ⟨j, hm'⟩)
    have hall := h.ext.unread (h.mesh_unread hc hm').1 hkeeps'
    rwa [List.length_map, hunread m' hm', ← mesh_unread_of_member hm'] at hall

/-! ## The table of nodes -/

theorem node?_insert {m' : Member γ} (h : c'.mesh.members = c.mesh.members.insert i m') :
    c'.node? = Function.update c.node? i (some m'.node) := by
  funext j
  rw [node?, Mesh.node?, h, IdMap.getElem?_insert, Function.update_apply]
  by_cases hj : j = i
  · rw [if_pos hj.symm, if_pos hj]
    rfl
  · rw [if_neg (Ne.symm hj), if_neg hj]
    rfl

theorem record?_insert {m' : Member γ} (h : c'.mesh.members = c.mesh.members.insert i m')
    (hretired : c'.retired = c.retired) :
    c'.record? = Function.update c.record? i (some m'.node.self) := by
  funext j
  rw [record?, node?_insert h, hretired, Function.update_apply, Function.update_apply]
  by_cases hj : j = i
  · rw [if_pos hj, if_pos hj]
  · rw [if_neg hj, if_neg hj]
    rfl

theorem node?_erase (h : c'.mesh.members = c.mesh.members.erase i) :
    c'.node? = Function.update c.node? i none := by
  funext j
  rw [node?, Mesh.node?, h, IdMap.getElem?_erase, Function.update_apply]
  by_cases hj : j = i
  · rw [if_pos hj.symm, if_pos hj]
    rfl
  · rw [if_neg (Ne.symm hj), if_neg hj]
    rfl

/-- The own record of a node is kept when the node stops. -/
theorem record?_erase {n : Node} (hn : c.node? i = some n)
    (h : c'.mesh.members = c.mesh.members.erase i)
    (hretired : c'.retired = c.retired.insert i n.self) : c'.record? = c.record? := by
  funext j
  rw [record?, node?_erase h, hretired, Function.update_apply, IdMap.getElem?_insert, record?]
  by_cases hj : j = i
  · rw [if_pos hj, if_pos hj.symm, hj, hn]
  · rw [if_neg hj, if_neg (Ne.symm hj)]

theorem map_unit_letters (i : String) (messages : List Message) :
    (letters i messages).map Letter.unit = Mesh.unitsOf i messages := by
  rw [letters, List.map_map]
  rfl

theorem senders_letters (hid : IsNodeId i) (messages : List Message) :
    ∀ l ∈ letters i messages, IsNodeId l.sender := by
  intro l hl
  obtain ⟨message, -, rfl⟩ := List.mem_map.mp hl
  exact hid

/-! ## Turns -/

/-- The node `i` has come to the state `n'`. It has still to read `rest`, and it has published
`out`. -/
structure Turn (c c' : Chronicle γ) (i : String) (n' : Node) (rest : List Letter)
    (out : List Message) : Prop where
  node? : c'.node? = Function.update c.node? i (some n')
  record? : c'.record? = Function.update c.record? i (some n'.self)
  passage : Passage c c' (Function.update c.unread i rest) (letters i out)

section Turns

variable {n' : Node} {rest : List Letter} {out : List Message}

theorem Turn.published (h : Turn c c' i n' rest out) :
    c'.published = c.published ++ letters i out :=
  h.passage.published

theorem Turn.node?_self (h : Turn c c' i n' rest out) : c'.node? i = some n' := by
  rw [h.node?, Function.update_self]

/-- A running node is the one whose turn it was, or it is as it was before. -/
theorem Turn.of_node? (h : Turn c c' i n' rest out) {n : Node} (hj : c'.node? j = some n) :
    j = i ∧ n = n' ∨ j ≠ i ∧ c.node? j = some n := by
  rw [h.node?, Function.update_apply] at hj
  split_ifs at hj with hji
  · exact .inl ⟨hji, (Option.some.inj hj).symm⟩
  · exact .inr ⟨hji, hj⟩

theorem Turn.forall_node {P : String → Node → Prop} (h : Turn c c' i n' rest out)
    (hc : ∀ j n, c.node? j = some n → P j n) (hn' : P i n') :
    ∀ j n, c'.node? j = some n → P j n := by
  intro j n hj
  rcases h.of_node? hj with ⟨rfl, rfl⟩ | ⟨-, hj⟩
  · exact hn'
  · exact hc j n hj

theorem Turn.of_mem_unread (h : Turn c c' i n' rest out) {l : Letter} (hl : l ∈ c'.unread j) :
    l ∈ (if j = i then rest else c.unread j) ∨ l ∈ letters i out := by
  have hmem := (h.passage.unread j).subset hl
  rw [Function.update_apply] at hmem
  exact List.mem_append.mp hmem

/-- What the nodes have still to read after a turn if nothing has been lost. -/
theorem Turn.unread_eq (h : Turn c c' i n' rest out) (hkeeps : c'.KeepsUp) {n : Node}
    (hj : c'.node? j = some n) :
    c'.unread j = (if j = i then rest else c.unread j) ++ letters i out := by
  rw [h.passage.lossless hkeeps j (hj ▸ Option.some_ne_none n), Function.update_apply]

theorem Turn.isCrowned_iff {p : String} (h : Turn c c' i n' rest out) :
    c'.IsCrowned p ↔ if p = i then n'.self.isMaster = true else c.IsCrowned p := by
  rw [IsCrowned, h.record?, Function.update_apply]
  split_ifs
  · constructor
    · rintro ⟨r, hr, hmaster⟩
      rwa [Option.some.inj hr]
    · intro hmaster
      exact ⟨n'.self, rfl, hmaster⟩
  · rfl

end Turns

/-- A node has been put into the table, the bus has changed at its subscription, and the node has
published messages. -/
theorem Wired.insert (hc : c.Wired) (m' : Member γ) {bus : Bus} {out : List Message}
    (hoff : c.mesh.bus.AgreesOff bus m'.subscription) (hholds : bus.Holds m'.subscription)
    (hbus : c'.mesh.bus = bus.publishAll (Mesh.unitsOf i out))
    (hmembers : c'.mesh.members = c.mesh.members.insert i m') (hid : IsNodeId i)
    (hnode : m'.node.id = i)
    (hothers : ∀ j ≠ i, ∀ m, c.mesh.members[j]? = some m → m.subscription ≠ m'.subscription)
    (hpublished : c'.published = c.published ++ letters i out)
    (hretired : c'.retired = c.retired) :
    c'.Wired ∧ Turn c c' i m'.node
      (c.published.drop (c.published.length - bus.unread m'.subscription)) out := by
  have hrewired : Rewiring c c' i bus m'.subscription (letters i out) := by
    refine ⟨hoff, ?_, hpublished, senders_letters hid out, ?_, ?_⟩
    · rw [hbus, map_unit_letters]
      exact Bus.publishAll_extends (hoff.slots ▸ hc.slots) _
    · intro j hj m₁ hm₁
      rw [hmembers, IdMap.getElem?_insert_ne hj] at hm₁
      exact ⟨m₁, hm₁, rfl, rfl, hothers j hj m₁ hm₁⟩
    · intro m₁ hm₁
      rw [hmembers, Std.ExtTreeMap.getElem?_insert_self] at hm₁
      obtain rfl := Option.some.inj hm₁
      exact ⟨hid, hnode, rfl, hholds⟩
  exact ⟨hrewired.wired hc, node?_insert hmembers, record?_insert hmembers hretired,
    hrewired.passage hc⟩

/-- The bus has changed at the subscription of one node, which is still there or is gone. -/
theorem Wired.rewiring (hc : c.Wired) {m : Member γ} (hm : c.mesh.members[i]? = some m) {bus : Bus}
    (hoff : c.mesh.bus.AgreesOff bus m.subscription) (hbus : c'.mesh.bus = bus)
    (hpublished : c'.published = c.published)
    (hothers : ∀ j ≠ i, c'.mesh.members[j]? = c.mesh.members[j]?)
    (hown : ∀ m', c'.mesh.members[i]? = some m' → m' = m ∧ bus.Holds m.subscription) :
    Rewiring c c' i bus m.subscription [] := by
  refine ⟨hoff, ?_, hpublished.trans (List.append_nil _).symm,
    fun _ hl ↦ absurd hl List.not_mem_nil, ?_, ?_⟩
  · rw [hbus]
    exact .refl _
  · intro j hj m' hm'
    rw [hothers j hj] at hm'
    exact ⟨m', hm', rfl, rfl, fun heq ↦ hj (hc.distinct j i m' m hm' hm heq)⟩
  · intro m' hm'
    obtain ⟨rfl, hholds⟩ := hown m' hm'
    obtain ⟨hid, hnode, -⟩ := hc.members i m' hm
    exact ⟨hid, hnode, rfl, hholds⟩

/-! ## Moves -/

/-- No node has a turn. Nodes may stop, and letters may be lost to a node. -/
structure Pause (c : Chronicle γ) (act : Act γ) (c' : Chronicle γ) : Prop where
  node? : ∀ j n, c'.node? j = some n → c.node? j = some n
  record? : c'.record? = c.record?
  published : c'.published = c.published
  unread : ∀ j n, c'.node? j = some n → c'.unread j <:+ c.unread j
  lossless : act.isLoss = false → c'.KeepsUp →
    ∀ j n, c'.node? j = some n → c'.unread j = c.unread j

theorem Pause.isCrowned_iff {act : Act γ} {p : String} (h : Pause c act c') :
    c'.IsCrowned p ↔ c.IsCrowned p := by
  rw [IsCrowned, h.record?, IsCrowned]

/-- Of what one node had to read a part is gone, by a loss or together with the node. -/
theorem pause_of_passage {act : Act γ} {rest : List Letter}
    (hnode : ∀ j n, c'.node? j = some n → c.node? j = some n) (hrecord : c'.record? = c.record?)
    (hpass : Passage c c' (Function.update c.unread i rest) []) (hrest : rest <:+ c.unread i)
    (hgone : act.isLoss = true ∨ c'.node? i = none) : Pause c act c' := by
  refine ⟨hnode, hrecord, hpass.published.trans (List.append_nil _), fun j n _ ↦ ?_,
    fun hloss hkeeps j n hj ↦ ?_⟩
  · have hunread := hpass.unread j
    rw [List.append_nil] at hunread
    by_cases hji : j = i
    · rw [hji, Function.update_self] at hunread
      rw [hji]
      exact hunread.trans hrest
    · rwa [Function.update_of_ne hji] at hunread
  · have hji : j ≠ i := by
      rintro rfl
      rcases hgone with hgone | hgone
      · rw [hgone] at hloss
        cases hloss
      · rw [hgone] at hj
        cases hj
    rw [hpass.lossless hkeeps j (hj ▸ Option.some_ne_none n), List.append_nil,
      Function.update_of_ne hji]

theorem pause_refl (c : Chronicle γ) (act : Act γ) : Pause c act c :=
  ⟨fun _ _ h ↦ h, rfl, rfl, fun _ _ _ ↦ List.suffix_rfl, fun _ _ _ _ _ ↦ rfl⟩

variable [WordSource γ]

/-- What an act comes to. -/
inductive Move (c : Chronicle γ) : Act γ → Chronicle γ → Prop
  /-- A new node announces itself. -/
  | started {i : String} {now : Float} {requestId : String} {source : γ} {c' : Chronicle γ}
      (hid : IsNodeId i) (hpast : c.record? i = none)
      (h : Turn c c' i ((Node.new i now c.mesh.settings).startup requestId).1 []
        ((Node.new i now c.mesh.settings).startup requestId).2) :
      Move c (.event (.start i now requestId source)) c'
  /-- A node has its heartbeat. -/
  | ticked {i : String} {now : Float} {m : Member γ} {c' : Chronicle γ}
      (hm : c.mesh.members[i]? = some m)
      (h : Turn c c' i (m.node.tick now m.source).1.1 (c.unread i)
        (m.node.tick now m.source).1.2) :
      Move c (.event (.tick i now)) c'
  /-- A node hears the first letter that it has not read. -/
  | heard {i : String} {n : Node} {l : Letter} {rest : List Letter} {c' : Chronicle γ}
      (hn : c.node? i = some n) (hl : c.unread i = l :: rest)
      (h : Turn c c' i (n.hear l).1 rest (n.hear l).2) : Move c (.event (.deliver i)) c'
  | paused {act : Act γ} {c' : Chronicle γ} (h : Pause c act c') : Move c act c'

/-- What every turn of a node preserves holds of all nodes. -/
theorem Move.forall_node {P : String → Node → Prop} {act : Act γ} (h : Move c act c')
    (hc : ∀ i n, c.node? i = some n → P i n)
    (hstart : ∀ i now requestId source, act = .event (.start i now requestId source) →
      P i ((Node.new i now c.mesh.settings).startup requestId).1)
    (htick : ∀ i now n (source : γ), act = .event (.tick i now) → P i n →
      P i (n.tick now source).1.1)
    (hhear : ∀ i n l, P i n → P i (n.hear l).1) : ∀ i n, c'.node? i = some n → P i n := by
  cases h with
  | started _ _ h => exact h.forall_node hc (hstart _ _ _ _ rfl)
  | ticked hm h => exact h.forall_node hc (htick _ _ _ _ rfl (hc _ _ (node?_of_member hm)))
  | heard hn _ h => exact h.forall_node hc (hhear _ _ _ (hc _ _ hn))
  | paused h => exact fun i n hi ↦ hc i n (h.node? i n hi)

variable (c) in
theorem move_of_eq (h : c' = c) (hc : c.Wired) {act : Act γ} : c'.Wired ∧ Move c act c' := by
  subst h
  exact ⟨hc, .paused (pause_refl _ _)⟩

theorem Wired.start (hc : c.Wired) (hid : IsNodeId i) (hpast : i ∉ c.retired) (now : Float)
    (requestId : String) (source : γ) :
    (c.after (.event (.start i now requestId source))).Wired ∧
      Move c (.event (.start i now requestId source))
        (c.after (.event (.start i now requestId source))) := by
  rcases hm : c.mesh.members[i]? with _ | m
  · have hrun : ¬c.mesh.members.contains i = true := by
      rw [Std.ExtTreeMap.contains_eq_isSome_getElem?, hm]
      exact Bool.false_ne_true
    have hmesh : (c.after (.event (.start i now requestId source))).mesh =
        { c.mesh with
          bus := c.mesh.bus.subscribe.2.publishAll
            (Mesh.unitsOf i ((Node.new i now c.mesh.settings).startup requestId).2)
          members := c.mesh.members.insert i
            ⟨((Node.new i now c.mesh.settings).startup requestId).1, source,
              c.mesh.bus.subscribed⟩ } := by
      change (c.mesh.start i now requestId source).toOption.getD c.mesh = _
      rw [Mesh.start, if_neg hrun]
      rfl
    have hpast' : c.record? i = none := by
      rw [record?, node?, Mesh.node?, hm]
      exact Std.ExtTreeMap.getElem?_eq_none hpast
    obtain ⟨hholds, hunread⟩ := c.mesh.bus.subscribe_holds
    have hinsert := hc.insert _ c.mesh.bus.subscribe_agreesOff hholds (congrArg Mesh.bus hmesh)
      (congrArg Mesh.members hmesh) hid rfl
      (fun j _ m hm ↦ Nat.ne_of_lt (hc.members j m hm).2.2.1)
      (congrArg (c.published ++ ·) (if_neg hrun)) rfl
    rw [hunread, Nat.sub_zero, List.drop_length] at hinsert
    exact ⟨hinsert.1, .started hid hpast' hinsert.2⟩
  · have hrun : c.mesh.members.contains i = true := by
      rw [Std.ExtTreeMap.contains_eq_isSome_getElem?, hm]
      rfl
    refine move_of_eq c ?_ hc
    simp [after, Mesh.step, Mesh.start, output, retire, hrun, Except.toOption]

theorem Wired.tick (hc : c.Wired) (i : String) (now : Float) :
    (c.after (.event (.tick i now))).Wired ∧
      Move c (.event (.tick i now)) (c.after (.event (.tick i now))) := by
  rcases hm : c.mesh.members[i]? with _ | m
  · refine move_of_eq c ?_ hc
    simp [after, Mesh.step, Mesh.tick, output, retire, hm]
  · obtain ⟨hid, hnode, hholds⟩ := hc.members i m hm
    have hmesh : (c.after (.event (.tick i now))).mesh =
        { c.mesh with
          bus := c.mesh.bus.publishAll (Mesh.unitsOf i (m.node.tick now m.source).1.2)
          members := c.mesh.members.insert i
            { m with node := (m.node.tick now m.source).1.1
                     source := (m.node.tick now m.source).2 } } := by
      change c.mesh.tick i now = _
      rw [Mesh.tick, hm]
    have hout : output c.mesh (.tick i now) = letters i (m.node.tick now m.source).1.2 := by
      rw [output, hm]
    have hinsert := hc.insert
      { m with node := (m.node.tick now m.source).1.1
               source := (m.node.tick now m.source).2 }
      (.refl _ _) hholds (congrArg Mesh.bus hmesh)
      (congrArg Mesh.members hmesh) hid ((Node.ticking_tick m.node now m.source).id.trans hnode)
      (fun j hj m₁ hm₁ heq ↦ hj (hc.distinct j i m₁ m hm₁ hm heq))
      (congrArg (c.published ++ ·) hout) rfl
    rw [← mesh_unread_of_member hm] at hinsert
    exact ⟨hinsert.1, .ticked hm hinsert.2⟩

omit [WordSource γ] in
/-- The first unread unit is that of the first unread letter. -/
theorem Wired.unread_cons (hc : c.Wired) {m : Member γ} (hm : c.mesh.members[i]? = some m)
    {k : Nat} (hk : c.mesh.bus.unread m.subscription = k + 1) {data : Bytes} {units : List Bytes}
    (hdata : c.mesh.bus.kept.toList.drop (c.mesh.bus.kept.size - (k + 1)) = data :: units) :
    ∃ l, c.unread i = l :: c.published.drop (c.published.length - k) ∧ l.unit = data ∧
      IsNodeId l.sender := by
  obtain ⟨dropped, hdropped⟩ := hc.kept
  have hsize := Bus.unread_le c.mesh.bus m.subscription
  have hkept : c.mesh.bus.kept.toList.length = c.mesh.bus.kept.size := Array.length_toList
  have hlen := congrArg List.length hdropped
  rw [List.length_append, hkept, List.length_map] at hlen
  -- The bus keeps the last units that were published, and the unread ones are the last of these.
  have hunits : (c.published.drop (c.published.length - (k + 1))).map Letter.unit
      = data :: units := by
    rw [List.map_drop, ← hdropped, ← hdata, List.drop_append, List.drop_eq_nil_of_le (by omega),
      List.nil_append]
    congr 1
    omega
  obtain ⟨l, rest, hcons, hunit, -⟩ := List.map_eq_cons_iff.mp hunits
  have hrest : rest = c.published.drop (c.published.length - k) := by
    have htail := congrArg List.tail hcons
    rw [List.tail_drop, List.tail_cons] at htail
    rw [← htail]
    congr 1
    omega
  have hmem : l ∈ c.published :=
    List.mem_of_mem_drop (hcons ▸ List.mem_cons_self : l ∈ List.drop _ c.published)
  refine ⟨l, ?_, hunit, hc.senders l hmem⟩
  rw [unread, mesh_unread_of_member hm, hk, hcons, hrest]

/-- A delivery without a unit does nothing. -/
theorem after_deliver_of_not_unit {m : Member γ} (hm : c.mesh.members[i]? = some m)
    (hbus : (c.mesh.bus.receive m.subscription).2 = c.mesh.bus)
    (hunit : ∀ data, (c.mesh.bus.receive m.subscription).1 ≠ .unit data) :
    c.after (.event (.deliver i)) = c := by
  have hmesh : c.mesh.deliver i = c.mesh := by
    rw [Mesh.deliver, hm]
    dsimp only
    split
    · rename_i data bus hreceive
      exact absurd (congrArg Prod.fst hreceive) (hunit data)
    · rename_i bus _ hreceive
      rw [hreceive] at hbus
      dsimp only at hbus
      rw [hbus]
  have hout : output c.mesh (.deliver i) = [] := by
    rw [output, hm]
    dsimp only
    split
    · rename_i data hdata
      exact absurd hdata (hunit data)
    · rfl
  rw [after, hout, List.append_nil]
  change { mesh := c.mesh.deliver i, published := c.published, retired := c.retired } = c
  rw [hmesh]

/-- A node that is delivered the unit of a letter hears the letter. -/
theorem after_deliver_of_unit {m : Member γ} (hm : c.mesh.members[i]? = some m) {l : Letter}
    (hsender : IsNodeId l.sender) {bus : Bus}
    (hreceive : c.mesh.bus.receive m.subscription = (.unit l.unit, bus)) :
    c.after (.event (.deliver i)) =
      { c with
        mesh := { c.mesh with
          bus := bus.publishAll (Mesh.unitsOf i (m.node.hear l).2)
          members := c.mesh.members.insert i { m with node := (m.node.hear l).1 } }
        published := c.published ++ letters i (m.node.hear l).2 } := by
  change Chronicle.mk (c.mesh.deliver i) (c.published ++ output c.mesh (.deliver i)) c.retired = _
  rw [Mesh.deliver, output, hm]
  dsimp only
  rw [hreceive]
  dsimp only
  rw [Node.onUnit_unit hsender]

theorem Wired.deliver (hc : c.Wired) (i : String) :
    (c.after (.event (.deliver i))).Wired ∧
      Move c (.event (.deliver i)) (c.after (.event (.deliver i))) := by
  rcases hm : c.mesh.members[i]? with _ | m
  · refine move_of_eq c ?_ hc
    simp [after, Mesh.step, Mesh.deliver, output, retire, hm]
  obtain ⟨hid, hnode, hholds⟩ := hc.members i m hm
  rcases hk : c.mesh.bus.unread m.subscription with _ | k
  · obtain ⟨hbus, hunit⟩ := Bus.receive_eq_self hholds hk
    exact move_of_eq c (after_deliver_of_not_unit hm hbus hunit) hc
  · obtain ⟨data, units, hdata, hreceive, hunread, hholds'⟩ := Bus.receive_eq_unit hholds hk
    obtain ⟨l, hl, rfl, hsender⟩ := hc.unread_cons hm hk hdata
    have hafter := after_deliver_of_unit hm hsender hreceive
    have hinsert := hc.insert { m with node := (m.node.hear l).1 }
      (c.mesh.bus.receive_agreesOff m.subscription) hholds'
      (congrArg (·.mesh.bus) hafter) (congrArg (·.mesh.members) hafter) hid
      ((Node.hearing_hear m.node l).id.trans hnode)
      (fun j hj m₁ hm₁ heq ↦ hj (hc.distinct j i m₁ m hm₁ hm heq))
      (congrArg Chronicle.published hafter) rfl
    dsimp only at hinsert
    rw [hunread] at hinsert
    exact ⟨hinsert.1, .heard (node?_of_member hm) hl hinsert.2⟩

theorem Wired.stop (hc : c.Wired) (i : String) :
    (c.after (.event (.stop i))).Wired ∧
      Move c (.event (.stop i)) (c.after (.event (.stop i))) := by
  rcases hm : c.mesh.members[i]? with _ | m
  · refine move_of_eq c ?_ hc
    simp [after, Mesh.step, Mesh.stop, output, retire, hm, node?, Mesh.node?, Except.toOption]
  have hn := node?_of_member hm
  have hmesh : (c.after (.event (.stop i))).mesh = { c.mesh with
      bus := c.mesh.bus.unsubscribe m.subscription
      members := c.mesh.members.erase i } := by
    change (c.mesh.stop i).toOption.getD c.mesh = _
    rw [Mesh.stop, hm]
    rfl
  have hmembers := congrArg Mesh.members hmesh
  have hretired : (c.after (.event (.stop i))).retired = c.retired.insert i m.node.self := by
    change c.retire (.stop i) = _
    rw [retire, hn]
  have hrewired : Rewiring c (c.after (.event (.stop i))) i
      (c.mesh.bus.unsubscribe m.subscription) m.subscription [] := by
    refine hc.rewiring hm (c.mesh.bus.unsubscribe_agreesOff _) (congrArg Mesh.bus hmesh)
      (List.append_nil _) (fun j hj ↦ ?_) fun m' hm' ↦ ?_
    · rw [hmembers]
      exact IdMap.getElem?_erase.trans (if_neg (Ne.symm hj))
    · rw [hmembers] at hm'
      cases (IdMap.getElem?_erase.trans (if_pos rfl)).symm.trans hm'
  -- The node has nothing to read any more, because its subscription is gone.
  have hunread : (c.mesh.bus.unsubscribe m.subscription).unread m.subscription = 0 := by
    have hcursor : (c.mesh.bus.unsubscribe m.subscription).cursors[m.subscription]? = none :=
      Std.ExtTreeMap.getElem?_erase_self
    rw [Bus.unread, hcursor]
  have hpass := hrewired.passage hc
  rw [hunread, Nat.sub_zero, List.drop_length] at hpass
  have hnode := node?_erase hmembers
  refine ⟨hrewired.wired hc, .paused (pause_of_passage (fun j n hj ↦ ?_)
    (record?_erase hn hmembers hretired) hpass List.nil_suffix
    (.inr (by rw [hnode, Function.update_self])))⟩
  rw [hnode, Function.update_apply] at hj
  split_ifs at hj
  exact hj

theorem Wired.lose (hc : c.Wired) (i : String) :
    (c.after (.lose i)).Wired ∧ Move c (.lose i) (c.after (.lose i)) := by
  rcases hm : c.mesh.members[i]? with _ | m
  · refine move_of_eq c ?_ hc
    simp [after, Chronicle.lose, hm]
  obtain ⟨hid, hnode, hholds⟩ := hc.members i m hm
  have hafter : c.after (.lose i)
      = { c with mesh := { c.mesh with bus := (c.mesh.bus.receive m.subscription).2 } } := by
    rw [after, Chronicle.lose, hm]
  rcases hk : c.mesh.bus.unread m.subscription with _ | k
  · -- There is nothing to lose.
    rw [(Bus.receive_eq_self hholds hk).1] at hafter
    exact move_of_eq c hafter hc
  obtain ⟨data, units, hdata, -, hunread, hholds'⟩ := Bus.receive_eq_unit hholds hk
  obtain ⟨l, hl, -⟩ := hc.unread_cons hm hk hdata
  rw [hafter]
  have hrewired : Rewiring c
      { c with mesh := { c.mesh with bus := (c.mesh.bus.receive m.subscription).2 } } i
      (c.mesh.bus.receive m.subscription).2 m.subscription [] :=
    hc.rewiring hm (c.mesh.bus.receive_agreesOff _) rfl rfl (fun _ _ ↦ rfl)
      fun m' hm' ↦ ⟨Option.some.inj (hm'.symm.trans hm), hholds'⟩
  have hpass := hrewired.passage hc
  rw [hunread] at hpass
  refine ⟨hrewired.wired hc, .paused (pause_of_passage (fun _ _ hj ↦ hj) rfl hpass ?_
    (.inl rfl))⟩
  rw [hl]
  exact List.suffix_cons _ _

/-- **Every permitted act is a move**, and the mesh stays wired. -/
theorem Wired.after (hc : c.Wired) {act : Act γ} (hact : c.Permits act) :
    (c.after act).Wired ∧ Move c act (c.after act) := by
  cases act with
  | event e =>
    cases e with
    | start i now requestId source => exact hc.start hact.1 hact.2 now requestId source
    | stop i => exact hc.stop i
    | tick i now => exact hc.tick i now
    | deliver i => exact hc.deliver i
    | publish data => exact absurd hact not_false
  | lose i => exact hc.lose i
  | configure settings => exact ⟨⟨hc.slots, hc.kept, hc.senders, hc.members, hc.distinct⟩,
      .paused ⟨fun _ _ h ↦ h, rfl, rfl, fun _ _ _ ↦ List.suffix_rfl, fun _ _ _ _ _ ↦ rfl⟩⟩

end HeartbeatMesh.Chronicle

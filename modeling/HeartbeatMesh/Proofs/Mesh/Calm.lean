import HeartbeatMesh.Mesh
import HeartbeatMesh.Proofs.Bus
import HeartbeatMesh.Proofs.IdMap
import HeartbeatMesh.Proofs.Node.Refusal
import Mathlib.Algebra.BigOperators.Group.Finset.Piecewise
import Mathlib.Algebra.Order.BigOperators.Group.Finset
import Mathlib.Order.Interval.Finset.Nat
import Mathlib.Tactic.Ring

/-!
# A mesh comes to rest

Every unit goes to all nodes, and every one of them may answer, again to all. Still a mesh that is
left to itself does not talk for ever, whatever its nodes have in mind and whatever is on the bus.

The reason is that answers are poorer than what they answer (`Message.echoes`). A candidacy, a vote
and a response are not answered. A heartbeat is answered by candidacies and a request by responses,
so it leads to one unit for each of the `N` readers. An election is answered by the winner alone,
with a heartbeat, and this one by the others, so it leads to `N` units as well. What the unread
units can still lead to is therefore an amount that pays for every unit that is published
(`Delivered.unrest_add_le`), and together with the number of the unread units it decreases with
every delivery (`Delivered.effort_lt`).
-/

namespace HeartbeatMesh

open Finset

/-! ## Unread units -/

namespace Bus

variable {b b' : Bus} {i j : Nat} {units : List Bytes}

/-- The units that a subscription can still read. -/
def unreadUnits (b : Bus) (i : Nat) : List Bytes :=
  b.kept.toList.drop (b.kept.size - b.unread i)

theorem AgreesOff.unreadUnits (h : b.AgreesOff b' i) (hj : j ≠ i) :
    b'.unreadUnits j = b.unreadUnits j := by
  rw [Bus.unreadUnits, Bus.unreadUnits, h.kept, h.unread hj]

/-- What can be read after publishing could be read before or is new. -/
theorem Extends.unreadUnits (h : b.Extends b' units) (hi : b.Holds i) :
    b'.unreadUnits i <:+ b.unreadUnits i ++ units := by
  obtain ⟨dropped, hdropped, -, hkept⟩ := h.kept
  have hunread := h.unread_le hi
  have hsize := congrArg List.length hkept
  rw [Array.length_toList, List.length_drop, List.length_append, Array.length_toList] at hsize
  have hle : b.kept.size - b.unread i ≤ b.kept.toList.length := by
    rw [Array.length_toList]
    exact Nat.sub_le _ _
  rw [Bus.unreadUnits, Bus.unreadUnits, hkept, List.drop_drop,
    ← List.drop_append_of_le_length hle]
  exact List.drop_suffix_drop_left _ (by omega)

/-- Reading takes the first of the unread units. -/
theorem receive_eq_head (hi : b.Holds i) (hunread : b.unread i ≠ 0) :
    ∃ data rest, b.unreadUnits i = data :: rest ∧ b.receive i = (.unit data, (b.receive i).2) ∧
      (b.receive i).2.unreadUnits i = rest ∧ (b.receive i).2.Holds i := by
  obtain ⟨k, hk⟩ := Nat.exists_eq_succ_of_ne_zero hunread
  obtain ⟨data, rest, hdata, hreceive, hunread', hholds⟩ := receive_eq_unit hi hk
  refine ⟨data, rest, ?_, hreceive, ?_, hholds⟩
  · rw [unreadUnits, hk]
    exact hdata
  · have hle := b.unread_le i
    have htail := congrArg List.tail hdata
    rw [List.tail_drop, List.tail_cons] at htail
    rw [unreadUnits, (b.receive_agreesOff i).kept, hunread', ← htail]
    congr 1
    omega

end Bus

/-! ## What a unit leads to -/

/-- The number of units that a message can lead to when it is read by the node `i`, one of `N`: the
answer of this node and what the others answer to that. -/
def Message.echoes (N : Nat) (i : String) : Message → Nat
  | .heartbeat _ | .stateRequest _ => 1
  | .elected winner => if winner = i then N else 0
  | .stateResponse _ _ | .candidacy _ | .vote _ => 0

/-- The number of units that a unit can lead to when it is read by the node `i`. -/
def echoes (N : Nat) (i : String) (raw : Bytes) : Nat :=
  match decodeUnit raw with
  | .ok (sender, message) => if sender = i then 0 else message.echoes N i
  | .error _ => 0

variable {N : Nat} {s : Finset String}

theorem Message.sum_echoes_le (m : Message) (s : Finset String) :
    ∑ i ∈ s, m.echoes s.card i ≤ s.card := by
  cases m with
  | heartbeat r => exact Nat.le_of_eq (card_eq_sum_ones s).symm
  | stateRequest requestId => exact Nat.le_of_eq (card_eq_sum_ones s).symm
  | elected winner =>
    refine Nat.le_trans (Nat.le_of_eq (sum_ite_eq s winner fun _ ↦ s.card)) ?_
    split_ifs
    · exact Nat.le_refl _
    · exact Nat.zero_le _
  | _ => exact Nat.le_trans (Nat.le_of_eq sum_const_zero) (Nat.zero_le _)

/-- **All readers together answer a unit by `N` units**, the answers to the answers included. -/
theorem sum_echoes_le (s : Finset String) (raw : Bytes) :
    ∑ i ∈ s, echoes s.card i raw ≤ s.card := by
  cases hdecode : decodeUnit raw with
  | error error =>
    simp only [echoes, hdecode, sum_const_zero]
    exact Nat.zero_le _
  | ok result =>
    refine Nat.le_trans (sum_le_sum fun i _ ↦ ?_) (result.2.sum_echoes_le s)
    rw [echoes, hdecode]
    dsimp only
    split_ifs
    · exact Nat.zero_le _
    · exact Nat.le_refl _

theorem Message.Relayed.echoes_eq {m m' : Message} (h : m.Relayed m') (N : Nat) (i : String) :
    m'.echoes N i = m.echoes N i := by
  cases h <;> rfl

/-- A node does not answer its own letters. -/
theorem echoes_unit_le {l : Letter} (hl : IsNodeId l.sender) (N : Nat) (i : String) :
    echoes N i l.unit ≤ if l.sender = i then 0 else l.message.echoes N i := by
  have hunit := decodeUnit_unit hl
  rw [echoes]
  cases hdecode : decodeUnit l.unit with
  | error error => exact Nat.zero_le _
  | ok result =>
    rw [hdecode] at hunit
    obtain ⟨m', hm', rfl⟩ := Option.map_eq_some_iff.mp hunit.symm
    dsimp only
    rw [(Message.relayed_of_relay hm').echoes_eq]

namespace Node

variable {n : Node}

/-- A unit is without effect, or it brings a message of somebody else. -/
theorem onUnit_cases (n : Node) (raw : Bytes) :
    n.onUnit raw = (n, []) ∨ ∃ sender m, decodeUnit raw = .ok (sender, m) ∧ sender ≠ n.id ∧
      Handling n sender m (n.onUnit raw).1 (n.onUnit raw).2 := by
  by_cases hraw : n.Refuses raw
  · exact .inl hraw.onUnit_eq
  · obtain ⟨e, m, n', out, hparse, hsender, hdecode, hhandle, hreceive⟩ :=
      receive_of_not_refuses hraw
    have hunit : decodeUnit raw = .ok (e.sender, m) := by
      rw [decodeUnit, hparse]
      dsimp only
      rw [hdecode]
      rfl
    have hhandling := n.handling_accept e.sender m
    rw [accept, hhandle] at hhandling
    rw [onUnit, hreceive]
    exact .inr ⟨e.sender, m, hunit, hsender, hhandling⟩

theorem onUnit_id (n : Node) (raw : Bytes) : (n.onUnit raw).1.id = n.id := by
  rcases n.onUnit_cases raw with hnone | ⟨_, _, -, -, h⟩
  · rw [hnone]
  · exact h.id

/-- The other readers of a letter answer it by as many units as they can. -/
theorem sum_echoes_unitsOf_le (hid : IsNodeId n.id) (m : Message) (s : Finset String) :
    ∑ j ∈ s, ((Mesh.unitsOf n.id [m]).map (echoes N j)).sum
      ≤ ∑ j ∈ s, if n.id = j then 0 else m.echoes N j := by
  refine sum_le_sum fun j _ ↦ ?_
  have hsum : ((Mesh.unitsOf n.id [m]).map (echoes N j)).sum = echoes N j (Letter.unit ⟨n.id, m⟩) :=
    List.sum_singleton
  rw [hsum]
  exact echoes_unit_le hid N j

/-- **An answer leads to less than what it answers**, and to so much less that the answer itself is
paid for. -/
theorem length_add_sum_echoes_le (hid : IsNodeId n.id) (hs : n.id ∈ s) (raw : Bytes) :
    (Mesh.unitsOf n.id (n.onUnit raw).2).length
        + ∑ j ∈ s, ((Mesh.unitsOf n.id (n.onUnit raw).2).map (echoes s.card j)).sum
      ≤ echoes s.card n.id raw := by
  have hnone : (Mesh.unitsOf n.id []).length
      + ∑ j ∈ s, ((Mesh.unitsOf n.id []).map (echoes s.card j)).sum = 0 := by
    simp [Mesh.unitsOf]
  -- What nobody answers leads to nothing further.
  have hsilent (m : Message) (hm : ∀ j, m.echoes s.card j = 0) :
      (Mesh.unitsOf n.id [m]).length
        + ∑ j ∈ s, ((Mesh.unitsOf n.id [m]).map (echoes s.card j)).sum ≤ 1 := by
    have hle := sum_echoes_unitsOf_le (N := s.card) hid m s
    simp only [hm, ite_self, sum_const_zero] at hle
    exact Nat.add_le_add (Nat.le_refl 1) hle
  rcases n.onUnit_cases raw with hrefused | ⟨sender, m, hdecode, hsender, h⟩
  · rw [hrefused, hnone]
    exact Nat.zero_le _
  · rw [echoes, hdecode]
    dsimp only
    rw [if_neg hsender]
    generalize (n.onUnit raw).1 = n', (n.onUnit raw).2 = out at h
    cases h with
    | nominated => exact hsilent _ fun _ ↦ rfl
    | asked => exact hsilent _ fun _ ↦ rfl
    | @concluded winner =>
      rw [Message.echoes]
      split_ifs with hwinner
      · -- The heartbeat of the winner is answered by all readers but the winner.
        have hle := sum_echoes_unitsOf_le (N := s.card) hid
          (.heartbeat (n.conclude winner).self) s
        have hsplit : ∑ j ∈ s, (if n.id = j then 0 else 1) + ∑ j ∈ s, (if n.id = j then 1 else 0)
            = s.card := by
          rw [← sum_add_distrib, card_eq_sum_ones]
          refine sum_congr rfl fun j _ ↦ ?_
          split_ifs <;> rfl
        rw [sum_ite_eq, if_pos hs] at hsplit
        have hone : (Mesh.unitsOf n.id [.heartbeat (n.conclude winner).self]).length = 1 := rfl
        simp only [Message.echoes] at hle
        omega
      · exact Nat.le_of_eq hnone
    | _ =>
      rw [hnone]
      exact Nat.zero_le _

end Node

namespace Mesh

variable {γ : Type} {m m' : Mesh γ} {i j : String}

/-! ## Seats -/

/-- The nodes have ids that can stand on an envelope, and each reads the bus through a subscription
of its own. -/
structure Seated (m : Mesh γ) : Prop where
  slots : 0 < m.bus.slots
  members : ∀ (i : String) (member : Member γ), m.members[i]? = some member →
    IsNodeId i ∧ member.node.id = i ∧ m.bus.Holds member.subscription
  distinct : ∀ (i j : String) (member member' : Member γ), m.members[i]? = some member →
    m.members[j]? = some member' → member.subscription = member'.subscription → i = j

theorem seated_new {capacity : Nat} {bus : Bus} (hbus : Bus.new? capacity = some bus)
    (settings : Settings) : (⟨bus, settings, ∅⟩ : Mesh γ).Seated where
  slots := Bus.slots_pos_of_new? hbus
  members i member hmember := by
    rw [Std.ExtTreeMap.getElem?_empty] at hmember
    cases hmember
  distinct i j member member' hmember := by
    rw [Std.ExtTreeMap.getElem?_empty] at hmember
    cases hmember

/-- A node takes a seat, or keeps the one it has, and publishes. -/
theorem Seated.insert (hm : m.Seated) (member : Member γ) {bus : Bus}
    (hoff : m.bus.AgreesOff bus member.subscription) (hholds : bus.Holds member.subscription)
    (hid : IsNodeId i) (hnode : member.node.id = i)
    (hfree : ∀ j ≠ i, ∀ member', m.members[j]? = some member' →
      member'.subscription ≠ member.subscription) (units : List Bytes) :
    { m with bus := bus.publishAll units, members := m.members.insert i member }.Seated := by
  have hext := Bus.publishAll_extends (hoff.slots ▸ hm.slots) units
  refine ⟨?_, fun j member' hj ↦ ?_, fun j k member₁ member₂ hj hk heq ↦ ?_⟩
  · change 0 < (bus.publishAll units).slots
    rw [hext.slots, hoff.slots]
    exact hm.slots
  · rcases IdMap.of_getElem?_insert hj with ⟨rfl, rfl⟩ | ⟨hij, hj⟩
    · exact ⟨hid, hnode, hext.holds hholds⟩
    · obtain ⟨hid', hnode', hholds'⟩ := hm.members j member' hj
      exact ⟨hid', hnode', hext.holds (hoff.holds (hfree j (Ne.symm hij) member' hj) hholds')⟩
  · -- Nobody else has the seat of the node.
    rcases IdMap.of_getElem?_insert hj with ⟨hij, rfl⟩ | ⟨hij, hj⟩ <;>
      rcases IdMap.of_getElem?_insert hk with ⟨hik, rfl⟩ | ⟨hik, hk⟩
    · exact hij.symm.trans hik
    · exact absurd heq.symm (hfree k (Ne.symm hik) member₂ hk)
    · exact absurd heq (hfree j (Ne.symm hij) member₁ hj)
    · exact hm.distinct j k member₁ member₂ hj hk heq

theorem Seated.free (hm : m.Seated) {member : Member γ} (hi : m.members[i]? = some member) :
    ∀ j ≠ i, ∀ member', m.members[j]? = some member' →
      member'.subscription ≠ member.subscription :=
  fun j hj member' hmember' heq ↦ hj (hm.distinct j i member' member hmember' hi heq)

theorem Seated.start (hm : m.Seated) (hid : IsNodeId i) (now : Float) (requestId : String)
    (source : γ) : ((m.start i now requestId source).toOption.getD m).Seated := by
  rw [Mesh.start]
  split_ifs
  · exact hm
  · exact hm.insert _ m.bus.subscribe_agreesOff m.bus.subscribe_holds.1 hid rfl
      (fun j _ member' hj ↦ Nat.ne_of_lt (hm.members j member' hj).2.2.1) _

theorem Seated.stop (hm : m.Seated) (i : String) : ((m.stop i).toOption.getD m).Seated := by
  rw [Mesh.stop]
  cases hi : m.members[i]? with
  | none => exact hm
  | some member =>
    have hmember {j : String} {member' : Member γ}
        (hj : (m.members.erase i)[j]? = some member') : i ≠ j ∧ m.members[j]? = some member' := by
      rw [IdMap.getElem?_erase] at hj
      split_ifs at hj with hij
      exact ⟨hij, hj⟩
    refine ⟨hm.slots, fun j member' hj ↦ ?_, fun j k member₁ member₂ hj hk ↦ ?_⟩
    · obtain ⟨hij, hj⟩ := hmember hj
      obtain ⟨hid, hnode, hholds⟩ := hm.members j member' hj
      exact ⟨hid, hnode,
        (m.bus.unsubscribe_agreesOff _).holds (hm.free hi j (Ne.symm hij) member' hj) hholds⟩
    · exact hm.distinct j k member₁ member₂ (hmember hj).2 (hmember hk).2

theorem Seated.publish (hm : m.Seated) (data : Bytes) : (m.publish data).Seated := by
  have hext := Bus.publish_extends hm.slots data
  refine ⟨hext.slots.symm ▸ hm.slots, fun i member hi ↦ ?_, hm.distinct⟩
  obtain ⟨hid, hnode, hholds⟩ := hm.members i member hi
  exact ⟨hid, hnode, hext.holds hholds⟩

theorem unread_of_member {member : Member γ} (hi : m.members[i]? = some member) :
    m.unread i = m.bus.unread member.subscription := by
  rw [unread, hi]

/-- Without an unread unit there is nothing to deliver. -/
theorem Seated.deliver_eq_self (hm : m.Seated) (hunread : m.unread i = 0) : m.deliver i = m := by
  rw [Mesh.deliver]
  cases hi : m.members[i]? with
  | none => rfl
  | some member =>
    rw [unread_of_member hi] at hunread
    obtain ⟨hbus, hunit⟩ := Bus.receive_eq_self (hm.members i member hi).2.2 hunread
    dsimp only
    split
    · rename_i data bus hreceive
      exact absurd (congrArg Prod.fst hreceive) (hunit data)
    · rename_i bus _ hreceive
      rw [hreceive] at hbus
      dsimp only at hbus
      rw [hbus]

theorem Seated.tick [WordSource γ] (hm : m.Seated) (i : String) (now : Float) :
    (m.tick i now).Seated := by
  rw [Mesh.tick]
  cases hi : m.members[i]? with
  | none => exact hm
  | some member =>
    obtain ⟨hid, hnode, hholds⟩ := hm.members i member hi
    have hfree := hm.free hi
    exact hm.insert
      { member with node := (member.node.tick now member.source).1.1
                    source := (member.node.tick now member.source).2 }
      (.refl _ _) hholds hid ((Node.ticking_tick member.node now member.source).id.trans hnode)
      hfree _

/-- The units that a node has still to read. -/
def unreadUnits (m : Mesh γ) (i : String) : List Bytes :=
  match m.members[i]? with
  | none => []
  | some member => m.bus.unreadUnits member.subscription

theorem unreadUnits_of_member {member : Member γ} (hi : m.members[i]? = some member) :
    m.unreadUnits i = m.bus.unreadUnits member.subscription := by
  rw [unreadUnits, hi]

/-- The running nodes, who read what is published. -/
def readers (m : Mesh γ) : Finset String := m.ids.toFinset

theorem mem_readers : i ∈ m.readers ↔ ∃ member, m.members[i]? = some member := by
  rw [readers, List.mem_toFinset]
  exact IdMap.mem_keys_iff

theorem card_readers (m : Mesh γ) : m.readers.card = m.ids.length :=
  List.toFinset_card_of_nodup Std.ExtTreeMap.nodup_keys

/-! ## Deliveries -/

/-- The unit `raw` has been delivered to the node `i`, and the node has published `out`. -/
structure Delivered (m m' : Mesh γ) (i : String) (raw : Bytes) (out : List Bytes) : Prop where
  seated : m'.Seated
  readers : m'.readers = m.readers
  reader : i ∈ m.readers
  next : m'.bus.next = m.bus.next + out.length
  own : ∃ rest, m.unreadUnits i = raw :: rest ∧ m'.unreadUnits i <:+ rest ++ out
  others : ∀ j ≠ i, m'.unreadUnits j <:+ m.unreadUnits j ++ out
  paid : out.length + ∑ j ∈ m.readers, (out.map (echoes m.readers.card j)).sum
    ≤ echoes m.readers.card i raw

theorem exists_member_of_unread (hunread : m.unread i ≠ 0) :
    ∃ member, m.members[i]? = some member := by
  cases hi : m.members[i]? with
  | none =>
    rw [unread, hi] at hunread
    exact absurd rfl hunread
  | some member => exact ⟨member, rfl⟩

/-- The node takes the unit that it reads, and publishes its answer. -/
theorem deliver_of_unit {member : Member γ} (hi : m.members[i]? = some member) {raw : Bytes}
    {bus : Bus} (hreceive : m.bus.receive member.subscription = (.unit raw, bus)) :
    m.deliver i = { m with
      bus := bus.publishAll (unitsOf i (member.node.onUnit raw).2)
      members := m.members.insert i { member with node := (member.node.onUnit raw).1 } } := by
  rw [Mesh.deliver, hi]
  dsimp only
  rw [hreceive]

/-- **What a delivery does.** -/
theorem Seated.deliver (hm : m.Seated) (hunread : m.unread i ≠ 0) :
    ∃ raw out, Delivered m (m.deliver i) i raw out := by
  obtain ⟨member, hi⟩ := exists_member_of_unread hunread
  obtain ⟨hid, rfl, hholds⟩ := hm.members i member hi
  rw [unread_of_member hi] at hunread
  obtain ⟨raw, rest, hraw, hreceive, hrest, hholds'⟩ := Bus.receive_eq_head hholds hunread
  have hoff := m.bus.receive_agreesOff member.subscription
  generalize (m.bus.receive member.subscription).2 = bus at hreceive hrest hholds' hoff
  have hdeliver := deliver_of_unit hi hreceive
  have hfree := hm.free hi
  have hreader : member.node.id ∈ m.readers := mem_readers.mpr ⟨member, hi⟩
  have hext := Bus.publishAll_extends (hoff.slots ▸ hm.slots)
    (unitsOf member.node.id (member.node.onUnit raw).2)
  refine ⟨raw, unitsOf member.node.id (member.node.onUnit raw).2, ?_, ?_, hreader, ?_, ?_, ?_,
    Node.length_add_sum_echoes_le hid hreader raw⟩
  · rw [hdeliver]
    exact hm.insert { member with node := (member.node.onUnit raw).1 } hoff hholds' hid
      (Node.onUnit_id member.node raw) hfree _
  · rw [hdeliver]
    ext j
    simp only [mem_readers, IdMap.getElem?_insert]
    split_ifs with hij
    · subst hij
      exact ⟨fun _ ↦ ⟨member, hi⟩, fun _ ↦ ⟨_, rfl⟩⟩
    · rfl
  · rw [hdeliver, ← hoff.next]
    exact hext.next
  · refine ⟨rest, (unreadUnits_of_member hi).trans hraw, ?_⟩
    rw [hdeliver, unreadUnits_of_member Std.ExtTreeMap.getElem?_insert_self, ← hrest]
    exact hext.unreadUnits hholds'
  · intro j hj
    have hmember : (m.deliver member.node.id).members[j]? = m.members[j]? := by
      rw [hdeliver]
      exact IdMap.getElem?_insert_ne hj
    cases hj' : m.members[j]? with
    | none =>
      rw [unreadUnits, hmember, hj']
      exact List.nil_suffix
    | some member' =>
      have hne := hfree j hj member' hj'
      rw [unreadUnits_of_member (hmember.trans hj'), unreadUnits_of_member hj', hdeliver,
        ← hoff.unreadUnits hne]
      exact hext.unreadUnits (hoff.holds hne (hm.members j member' hj').2.2)

/-- A node that is started has an id that can stand on an envelope. -/
def Event.IsNamed : Event γ → Prop
  | .start nodeId _ _ _ => IsNodeId nodeId
  | .stop _ | .tick _ _ | .deliver _ | .publish _ => True

instance : (e : Event γ) → Decidable e.IsNamed
  | .start nodeId _ _ _ => inferInstanceAs (Decidable (IsNodeId nodeId))
  | .stop _ | .tick _ _ | .deliver _ | .publish _ => isTrue trivial

theorem Seated.step [WordSource γ] (hm : m.Seated) {e : Event γ} (he : e.IsNamed) :
    (m.step e).Seated := by
  cases e with
  | start i now requestId source => exact hm.start he now requestId source
  | stop i => exact hm.stop i
  | tick i now => exact hm.tick i now
  | deliver i =>
    change (m.deliver i).Seated
    by_cases hunread : m.unread i = 0
    · rwa [hm.deliver_eq_self hunread]
    · obtain ⟨raw, out, hdelivered⟩ := hm.deliver hunread
      exact hdelivered.seated
  | publish data => exact hm.publish data

/-- **All meshes that come about are seated**, whatever is published on the bus. -/
theorem Seated.run [WordSource γ] (hm : m.Seated) {events : List (Event γ)}
    (hevents : ∀ e ∈ events, e.IsNamed) : (m.run events).Seated := by
  induction events generalizing m with
  | nil => exact hm
  | cons e events ih =>
    obtain ⟨he, hevents⟩ := List.forall_mem_cons.mp hevents
    exact ih (hm.step he) hevents

/-! ## The measure -/

/-- The weight of all that is unread, if the unit `raw` weighs `w i raw` for the node `i`. -/
def weight (m : Mesh γ) (w : String → Bytes → Nat) : Nat :=
  ∑ i ∈ m.readers, ((m.unreadUnits i).map (w i)).sum

theorem sum_map_le_of_suffix {units units' : List Bytes} (h : units <:+ units')
    (w : Bytes → Nat) : (units.map w).sum ≤ (units'.map w).sum := by
  obtain ⟨front, rfl⟩ := h
  rw [List.map_append, List.sum_append]
  exact Nat.le_add_left _ _

/-- What is delivered weighs no longer, and what is published weighs on all. -/
theorem Delivered.weight_add_le {raw : Bytes} {out : List Bytes} (h : Delivered m m' i raw out)
    (w : String → Bytes → Nat) :
    m'.weight w + w i raw ≤ m.weight w + ∑ j ∈ m.readers, (out.map (w j)).sum := by
  have hreader (j : String) : ((m'.unreadUnits j).map (w j)).sum + (if i = j then w i raw else 0)
      ≤ ((m.unreadUnits j).map (w j)).sum + (out.map (w j)).sum := by
    by_cases hij : i = j
    · subst hij
      obtain ⟨rest, hraw, hsuffix⟩ := h.own
      have hle := sum_map_le_of_suffix hsuffix (w i)
      rw [List.map_append, List.sum_append] at hle
      rw [hraw, List.map_cons, List.sum_cons, if_pos rfl]
      omega
    · have hle := sum_map_le_of_suffix (h.others j (Ne.symm hij)) (w j)
      rwa [if_neg hij, Nat.add_zero, ← List.sum_append, ← List.map_append]
  have hsum := sum_le_sum fun j (_ : j ∈ m.readers) ↦ hreader j
  rw [sum_add_distrib, sum_add_distrib, sum_ite_eq, if_pos h.reader] at hsum
  rwa [weight, h.readers]

/-- The numbers of the units that some node has still to read. -/
def waiting (m : Mesh γ) : Finset Nat :=
  (range m.bus.next).filter fun q ↦ ∃ i ∈ m.ids, m.bus.next - m.unread i ≤ q

theorem unread_le_card_waiting (hi : i ∈ m.readers) : m.unread i ≤ m.waiting.card := by
  have hnext : m.unread i ≤ m.bus.next := by
    obtain ⟨member, hi⟩ := mem_readers.mp hi
    rw [unread_of_member hi, Bus.next]
    exact (m.bus.unread_le _).trans (Nat.le_add_left _ _)
  have hsub : Ico (m.bus.next - m.unread i) m.bus.next ⊆ m.waiting := by
    intro q hq
    obtain ⟨hle, hlt⟩ := mem_Ico.mp hq
    exact mem_filter.mpr ⟨mem_range.mpr hlt, i, List.mem_toFinset.mp hi, hle⟩
  have hcard := card_le_card hsub
  rwa [Nat.card_Ico, Nat.sub_sub_self hnext] at hcard

/-- The unread units of all nodes are among the last ones, as many as are waiting. -/
theorem weight_le {w : String → Bytes → Nat} {B : Nat}
    (hw : ∀ raw, ∑ i ∈ m.readers, w i raw ≤ B) : m.weight w ≤ m.waiting.card * B := by
  have hunits (units : List Bytes) :
      ∑ i ∈ m.readers, (units.map (w i)).sum ≤ units.length * B := by
    induction units with
    | nil => simp
    | cons raw units ih =>
      simp only [List.map_cons, List.sum_cons, sum_add_distrib, List.length_cons, Nat.succ_mul]
      have := hw raw
      omega
  have hlength : (m.bus.kept.toList.drop (m.bus.kept.size - m.waiting.card)).length
      ≤ m.waiting.card := by
    rw [List.length_drop, Array.length_toList]
    omega
  refine Nat.le_trans (sum_le_sum fun i hi ↦ sum_map_le_of_suffix ?_ (w i))
    ((hunits _).trans (Nat.mul_le_mul_right B hlength))
  obtain ⟨member, hmember⟩ := mem_readers.mp hi
  have hle := unread_le_card_waiting hi
  rw [unread_of_member hmember] at hle
  rw [unreadUnits_of_member hmember]
  exact List.drop_suffix_drop_left _ (Nat.sub_le_sub_left hle _)

/-- The number of units that what is unread can lead to. -/
def unrest (m : Mesh γ) : Nat := m.weight (echoes m.readers.card)

/-- The number of deliveries that are still to come, at most. -/
def effort (m : Mesh γ) : Nat := m.weight (fun _ _ ↦ 1) + m.readers.card * m.unrest

section Delivered

variable {raw : Bytes} {out : List Bytes}

/-- **What is published has been paid for.** -/
theorem Delivered.unrest_add_le (h : Delivered m m' i raw out) :
    m'.unrest + out.length ≤ m.unrest := by
  have hweight := h.weight_add_le (echoes m.readers.card)
  have hpaid := h.paid
  rw [unrest, unrest, h.readers]
  omega

/-- **Every delivery takes effort.** -/
theorem Delivered.effort_lt (h : Delivered m m' i raw out) : m'.effort < m.effort := by
  have hweight := h.weight_add_le fun _ _ ↦ 1
  have hout : ∑ j ∈ m.readers, (out.map fun _ ↦ 1).sum = m.readers.card * out.length := by
    simp
  have hunrest := Nat.mul_le_mul_left m.readers.card h.unrest_add_le
  rw [Nat.mul_add] at hunrest
  rw [hout] at hweight
  rw [effort, effort, h.readers]
  omega

end Delivered

theorem unrest_le (m : Mesh γ) : m.unrest ≤ m.waiting.card * m.readers.card :=
  weight_le (sum_echoes_le m.readers)

theorem effort_le (m : Mesh γ) :
    m.effort ≤ m.waiting.card * m.readers.card * (m.readers.card + 1) := by
  have hunread : m.weight (fun _ _ ↦ 1) ≤ m.waiting.card * m.readers.card :=
    weight_le fun _ ↦ Nat.le_of_eq (card_eq_sum_ones m.readers).symm
  have hunrest := Nat.mul_le_mul_left m.readers.card m.unrest_le
  calc
    m.effort ≤ m.waiting.card * m.readers.card
        + m.readers.card * (m.waiting.card * m.readers.card) := Nat.add_le_add hunread hunrest
    _ = m.waiting.card * m.readers.card * (m.readers.card + 1) := by ring

/-! ## Runs of deliveries -/

/-- Delivers to one node after the other. -/
def deliverAll (m : Mesh γ) (is : List String) : Mesh γ := is.foldl deliver m

/-- Each of the nodes has something to read when its turn comes. -/
def Delivers (m : Mesh γ) : List String → Prop
  | [] => True
  | i :: is => m.unread i ≠ 0 ∧ (m.deliver i).Delivers is

instance decidableDelivers (m : Mesh γ) : (is : List String) → Decidable (m.Delivers is)
  | [] => isTrue trivial
  | _ :: is => @instDecidableAnd _ _ inferInstance (decidableDelivers _ is)

/-- Nobody has anything to read. -/
def Calm (m : Mesh γ) : Prop := ∀ i, m.unread i = 0

variable {is is' : List String}

theorem delivers_append :
    m.Delivers (is ++ is') ↔ m.Delivers is ∧ (m.deliverAll is).Delivers is' := by
  induction is generalizing m with
  | nil => exact (iff_of_eq (true_and _)).symm
  | cons i is ih => exact (and_congr_right fun _ ↦ ih).trans and_assoc.symm

theorem deliverAll_append (m : Mesh γ) (is is' : List String) :
    m.deliverAll (is ++ is') = (m.deliverAll is).deliverAll is' :=
  List.foldl_append

/-- The units that are published and the deliveries come out of what was there at the beginning. -/
theorem Seated.deliverAll (hm : m.Seated) (his : m.Delivers is) :
    (m.deliverAll is).Seated ∧ (m.deliverAll is).bus.next + (m.deliverAll is).unrest
        ≤ m.bus.next + m.unrest ∧ is.length + (m.deliverAll is).effort ≤ m.effort := by
  induction is generalizing m with
  | nil => exact ⟨hm, Nat.le_refl _, Nat.le_of_eq (Nat.zero_add _)⟩
  | cons i is ih =>
    obtain ⟨raw, out, hdelivered⟩ := hm.deliver his.1
    obtain ⟨hseated, hunrest, heffort⟩ := ih hdelivered.seated his.2
    have hnext := hdelivered.next
    have hpaid := hdelivered.unrest_add_le
    have hlt := hdelivered.effort_lt
    change (Mesh.deliverAll m (i :: is)).Seated at hseated
    change (Mesh.deliverAll m (i :: is)).bus.next + (Mesh.deliverAll m (i :: is)).unrest ≤ _
      at hunrest
    change is.length + (Mesh.deliverAll m (i :: is)).effort ≤ _ at heffort
    refine ⟨hseated, ?_, ?_⟩
    · omega
    · rw [List.length_cons]
      omega

/-- Deliveries without a unit can be left out. -/
theorem Seated.exists_delivers (hm : m.Seated) (is : List String) :
    ∃ is', is'.Sublist is ∧ m.Delivers is' ∧ m.deliverAll is' = m.deliverAll is := by
  induction is generalizing m with
  | nil => exact ⟨[], .slnil, trivial, rfl⟩
  | cons i is ih =>
    by_cases hunread : m.unread i = 0
    · obtain ⟨is', hsub, his', heq⟩ := ih hm
      refine ⟨is', hsub.cons i, his', heq.trans ?_⟩
      change _ = (m.deliver i).deliverAll is
      rw [hm.deliver_eq_self hunread]
    · obtain ⟨raw, out, hdelivered⟩ := hm.deliver hunread
      obtain ⟨is', hsub, his', heq⟩ := ih hdelivered.seated
      exact ⟨i :: is', hsub.cons_cons i, ⟨hunread, his'⟩, heq⟩

/-- A mesh can be brought to rest. -/
theorem Seated.exists_calm (hm : m.Seated) : ∃ is, m.Delivers is ∧ (m.deliverAll is).Calm := by
  induction heffort : m.effort using Nat.strong_induction_on generalizing m with
  | _ effort ih =>
    by_cases hcalm : m.Calm
    · exact ⟨[], trivial, hcalm⟩
    · obtain ⟨i, hi⟩ := not_forall.mp hcalm
      obtain ⟨raw, out, hdelivered⟩ := hm.deliver hi
      obtain ⟨is, his, hcalm'⟩ :=
        ih _ (heffort ▸ hdelivered.effort_lt) hdelivered.seated rfl
      exact ⟨i :: is, ⟨hi, his⟩, hcalm'⟩

/-- **No broadcast storm.** The nodes of a mesh are in any states, and any units are on the bus,
published by nodes or by others; `N` nodes are running, and `k` units have still to be read by some
of them. If nothing happens but deliveries, in any order,

* there are at most `k * N * (N + 1)` of them, and `k * N` further units are published at most;
* they can always go on until nothing is unread, and they cannot end before that;
* they do not go on for ever;
* asking a node to read when nothing is unread is as good as not asking. -/
theorem comes_to_rest (hm : m.Seated) :
    let N := m.ids.length
    let k := m.waiting.card
    (∀ is, m.Delivers is →
        is.length ≤ k * N * (N + 1) ∧ (m.deliverAll is).bus.next ≤ m.bus.next + k * N ∧
        (∃ is', m.Delivers (is ++ is') ∧ (m.deliverAll (is ++ is')).Calm) ∧
        ((∀ i, ¬m.Delivers (is ++ [i])) → (m.deliverAll is).Calm)) ∧
      (∀ schedule : Nat → String, ∃ t, ¬m.Delivers ((List.range t).map schedule)) ∧
      ∀ is, ∃ is', is'.Sublist is ∧ m.Delivers is' ∧ m.deliverAll is' = m.deliverAll is := by
  intro N k
  have hN : m.readers.card = N := m.card_readers
  have hunrest := m.unrest_le
  have heffort := m.effort_le
  rw [hN] at hunrest heffort
  have hlength {is : List String} (his : m.Delivers is) : is.length ≤ k * N * (N + 1) :=
    (Nat.le_add_right _ _).trans ((hm.deliverAll his).2.2.trans heffort)
  refine ⟨fun is his ↦ ⟨hlength his, ?_, ?_, fun hlast i ↦ ?_⟩, fun schedule ↦ ?_,
    hm.exists_delivers⟩
  · calc
      (m.deliverAll is).bus.next
          ≤ (m.deliverAll is).bus.next + (m.deliverAll is).unrest := Nat.le_add_right _ _
      _ ≤ m.bus.next + m.unrest := (hm.deliverAll his).2.1
      _ ≤ m.bus.next + k * N := Nat.add_le_add_left hunrest _
  · obtain ⟨is', his', hcalm⟩ := (hm.deliverAll his).1.exists_calm
    refine ⟨is', delivers_append.mpr ⟨his, his'⟩, ?_⟩
    rwa [deliverAll_append]
  · by_contra hunread
    exact hlast i (delivers_append.mpr ⟨his, hunread, trivial⟩)
  · refine ⟨k * N * (N + 1) + 1, fun hforever ↦ ?_⟩
    have hle := hlength hforever
    rw [List.length_map, List.length_range] at hle
    omega

/-- Two nodes have been started, an outsider has elected one of them, and something has been
published that is no envelope. The bus has four slots, so some of it is gone already. -/
def clamour : Mesh WordCycle :=
  run ⟨{ slots := 4 }, ⟨5.0, true⟩, ∅⟩
    [.start "a" 0.0 "r" ⟨#[0], 0⟩, .start "b" 1.0 "s" ⟨#[0], 0⟩,
      .publish (Letter.unit ⟨"c", .elected "a"⟩), .publish [0]]

/-- The first node answers a request, offers itself and learns that it has been elected, and the
second node hears of all that. -/
theorem comes_to_rest_clamour :
    let is := ["a", "a", "b", "a", "a", "b", "b", "b"]
    clamour.Seated ∧ clamour.ids.length = 2 ∧ clamour.waiting.card = 4 ∧ clamour.Delivers is ∧
      (clamour.deliverAll is).bus.next ≤ clamour.bus.next + 4 * 2 ∧
      ∃ is', clamour.Delivers (is ++ is') ∧ (clamour.deliverAll (is ++ is')).Calm := by
  intro is
  have hbus : Bus.new? 4 = some { slots := 4 } := rfl
  have hseated : clamour.Seated := (seated_new hbus _).run (by decide)
  have hids : clamour.ids.length = 2 := by decide +kernel
  have hwaiting : clamour.waiting.card = 4 := by decide +kernel
  have his : clamour.Delivers is := by decide +kernel
  obtain ⟨hrun, -, -⟩ := comes_to_rest hseated
  obtain ⟨-, hpublished, hcalm, -⟩ := hrun is his
  rw [hids, hwaiting] at hpublished
  exact ⟨hseated, hids, hwaiting, his, hpublished, hcalm⟩

end Mesh

end HeartbeatMesh

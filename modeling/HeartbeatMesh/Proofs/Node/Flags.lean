import HeartbeatMesh.Proofs.Node.Report

/-!
# Where master flags come from and where they go

A master flag comes into a view by an own election, by the heartbeat of the master, or inside the
view of a third node (`Hearing.flags`, `Ticking.flags`). It stays unless a heartbeat of the flagged
node says that it is no master (`Hearing.flags_mono`), and what a node publishes flags nobody whom
its view does not flag.

A node whose view flags a master takes no part in elections (`Hearing.silent`, `Ticking.silent`).
-/

namespace HeartbeatMesh

/-! ## Messages -/

namespace Message

/-- The message flags the id as master. -/
def Flags : Message → String → Prop
  | .heartbeat r, p => r.nodeId = p ∧ r.isMaster = true
  | .stateResponse _ nodes, p => ∃ r, nodes[p]? = some r ∧ r.isMaster = true
  | _, _ => False

/-- The message says of the id that it is no master. -/
def Denies : Message → String → Prop
  | .heartbeat r, p => r.nodeId = p ∧ r.isMaster = false
  | _, _ => False

/-- The message speaks of its sender, or of records that stand under their ids. -/
def Honest : Message → String → Prop
  | .heartbeat r, sender => r.nodeId = sender
  | .stateResponse _ nodes, _ => ∀ (p : String) (r : NodeRecord), nodes[p]? = some r → r.nodeId = p
  | .candidacy c, sender => c.nodeId = sender
  | _, _ => True

/-- The message is part of an election. -/
def IsElection : Message → Prop
  | .candidacy _ | .vote _ | .elected _ => True
  | _ => False

end Message

/-! ## Nodes -/

namespace Node

variable {n n' : Node} {i p : String} {l : Letter} {out : List Message}

/-- The view flags the id as master. -/
def Flags (n : Node) (p : String) : Prop := ∃ r, n.view[p]? = some r ∧ r.isMaster = true

instance (n : Node) (p : String) : Decidable (n.Flags p) :=
  decidable_of_iff ((n.view[p]?).any (·.isMaster) = true) (by
    rw [Flags, Option.any_eq_true])

theorem masterKnown_iff : n.masterKnown = true ↔ ∃ p, n.Flags p := by
  rw [masterKnown, List.any_eq_true]
  constructor
  · rintro ⟨r, hr, hmaster⟩
    obtain ⟨p, hp⟩ := IdMap.mem_values_iff.mp hr
    exact ⟨p, r, hp, hmaster⟩
  · rintro ⟨p, r, hp, hmaster⟩
    exact ⟨r, IdMap.mem_values_iff.mpr ⟨p, hp⟩, hmaster⟩

/-- If the view flags one id, that one is the known master. -/
theorem Keyed.knownMasters_eq {m : String} (hk : n.Keyed) (h : ∀ p, n.Flags p ↔ p = m) :
    n.knownMasters = [m] := by
  have hmem (p : String) : p ∈ n.knownMasters ↔ p ∈ [m] := by
    rw [List.mem_singleton, ← h p, knownMasters_eq_report, hk.mem_report_iff, Flags]
  have hnodup : n.knownMasters.Nodup := hk.nodup_report _
  rw [← List.perm_singleton]
  exact (List.perm_ext_iff_of_nodup hnodup (List.nodup_singleton m)).mpr hmem

theorem Sound.flags_self (h : n.Sound i) : n.Flags i ↔ n.self.isMaster = true := by
  constructor
  · rintro ⟨r, hr, hmaster⟩
    rw [h.own] at hr
    rwa [Option.some.inj hr]
  · intro hmaster
    exact ⟨n.self, h.own, hmaster⟩

/-! ### The parts of a step -/

theorem flags_learn {r : NodeRecord} :
    (n.learn r).Flags p ↔ if r.nodeId = p then r.isMaster = true else n.Flags p := by
  rw [Flags]
  change (∃ r', (n.view.insert r.nodeId r)[p]? = some r' ∧ _) ↔ _
  rw [IdMap.getElem?_insert]
  split_ifs
  · constructor
    · rintro ⟨r', hr', hmaster⟩
      rwa [Option.some.inj hr']
    · intro hmaster
      exact ⟨r, rfl, hmaster⟩
  · rfl

@[simp] theorem flags_nominate : n.nominate.1.Flags p ↔ n.Flags p := by
  rw [Flags, nominate_view, Flags]

/-- A flag in a merged view was there before or is one of the response. -/
theorem Flags.of_mergeView {nodes : IdMap NodeRecord} (h : (n.mergeView nodes).Flags p) :
    n.Flags p ∨ ∃ r, nodes[p]? = some r ∧ r.isMaster = true := by
  obtain ⟨r, hr, hmaster⟩ := h
  rw [getElem?_mergeView, Option.or_eq_some_iff] at hr
  exact hr.imp (fun h ↦ ⟨r, h, hmaster⟩) fun h ↦ ⟨r, h.2, hmaster⟩

theorem Flags.mergeView (h : n.Flags p) (nodes : IdMap NodeRecord) :
    (n.mergeView nodes).Flags p := by
  obtain ⟨r, hr, hmaster⟩ := h
  exact ⟨r, by rw [getElem?_mergeView, hr, Option.some_or], hmaster⟩

theorem flags_conclude {winner : String} :
    (n.conclude winner).Flags p ↔ (winner = n.id ∧ p = n.id) ∨ n.Flags p := by
  rw [Flags, getElem?_conclude_view]
  split_ifs with h
  · exact ⟨fun _ ↦ .inl h, fun _ ↦ ⟨_, rfl, rfl⟩⟩
  · exact ⟨.inr, fun h' ↦ h'.resolve_left h⟩

theorem Sound.flags_refresh (h : n.Sound i) (now : Float) :
    (n.refresh now).Flags p ↔ n.Flags p := by
  by_cases hp : p = i
  · rw [hp, (h.refresh now).flags_self, h.flags_self]
    rfl
  · rw [Flags]
    change (∃ r, (n.view.insert n.id { n.self with heartbeat := now })[p]? = some r ∧ _) ↔ _
    rw [IdMap.getElem?_insert_ne (by rwa [h.id])]
    rfl

theorem Keyed.of_insert (hk : n.Keyed) {r : NodeRecord}
    (hview : n'.view = n.view.insert r.nodeId r) : n'.Keyed := by
  intro p r' hr'
  rw [hview] at hr'
  rcases IdMap.of_getElem?_insert hr' with ⟨rfl, rfl⟩ | ⟨-, hr'⟩
  · rfl
  · exact hk p r' hr'

theorem Keyed.of_view_eq (hk : n.Keyed) (hview : n'.view = n.view) : n'.Keyed := by
  rwa [Keyed, hview]

theorem Keyed.conclude (hk : n.Keyed) (winner : String) : (n.conclude winner).Keyed := by
  intro p r hr
  rw [getElem?_conclude_view] at hr
  split_ifs at hr with hwin
  · rw [← Option.some.inj hr, hwin.2]
    rfl
  · exact hk p r hr

/-! ### Hearing -/

/-- A flag that appears when a letter is heard is one of the letter, unless the letter makes the
node itself master. -/
theorem Hearing.flags (h : Hearing n l n' out) (hn : n.Sound i) (hp : n'.Flags p) :
    n.Flags p ∨ l.message.Flags p ∨ (p = i ∧ l.message = .elected i) := by
  -- The record that is learnt replaces the one of its id, and leaves the others as they were.
  have hlearn {r : NodeRecord} (hl : l.message.relay = some (.heartbeat r))
      (hr : (n.learn r).Flags p) : n.Flags p ∨ l.message.Flags p := by
    obtain ⟨r₀, hr₀, hid, hmaster⟩ := Message.of_relay_heartbeat hl
    rw [flags_learn] at hr
    split_ifs at hr with hkey
    · rw [hr₀]
      exact .inr ⟨hid ▸ hkey, hmaster ▸ hr⟩
    · exact .inl hr
  cases h with
  | ignored => exact .inl hp
  | followed hl => exact (hlearn hl hp).imp_right .inl
  | nominated hl => exact (hlearn hl (flags_nominate.mp hp)).imp_right .inl
  | asked => exact .inl hp
  | @merged requestId nodes correlator hl =>
    obtain ⟨nodes₀, hl₀, hnodes⟩ := Message.of_relay_stateResponse hl
    have hmerge : (n.mergeView nodes).Flags p := hp
    refine hmerge.of_mergeView.imp_right fun ⟨r, hr, hmaster⟩ ↦ .inl ?_
    obtain ⟨r₀, hr₀, -, hmaster₀⟩ := hnodes p r hr
    rw [hl₀]
    exact ⟨r₀, hr₀, hmaster₀ ▸ hmaster⟩
  | answered => exact .inl hp
  | stood => exact .inl hp
  | voted => exact .inl hp
  | @concluded winner hl =>
    rw [flags_conclude, hn.id] at hp
    rcases hp with ⟨rfl, rfl⟩ | hp
    · exact .inr (.inr ⟨rfl, Message.of_relay_elected hl⟩)
    · exact .inl hp

/-- A flag stays, unless the letter is a heartbeat that denies it. -/
theorem Hearing.flags_mono (h : Hearing n l n' out) (hn : n.Sound i)
    (hd : p ≠ i → ¬l.message.Denies p) (hp : n.Flags p) : n'.Flags p := by
  have hlearn {r : NodeRecord} (hl : l.message.relay = some (.heartbeat r))
      (hid : r.nodeId ≠ n.id) : (n.learn r).Flags p := by
    obtain ⟨r₀, hr₀, hid₀, hmaster⟩ := Message.of_relay_heartbeat hl
    rw [flags_learn]
    split_ifs with hkey
    · by_contra hfalse
      rw [hn.id, hkey] at hid
      refine hd hid ?_
      rw [hr₀]
      exact ⟨hid₀ ▸ hkey, hmaster ▸ Bool.eq_false_iff.mpr hfalse⟩
    · exact hp
  cases h with
  | ignored => exact hp
  | followed hl hid => exact hlearn hl hid
  | nominated hl hid => exact flags_nominate.mpr (hlearn hl hid)
  | asked => exact hp
  | @merged _ nodes => exact hp.mergeView nodes
  | answered => exact hp
  | stood => exact hp
  | voted => exact hp
  | concluded => exact flags_conclude.mpr (.inr hp)

/-- The heartbeat of a master is believed and not answered. -/
theorem hear_master {r : NodeRecord} (hsender : l.sender ≠ n.id)
    (hl : l.message = .heartbeat r) (hr : IsExact r.heartbeat) (hid : r.nodeId ≠ n.id)
    (hmaster : r.isMaster = true) : n.hear l = (n.learn r, []) := by
  have hrelay : l.message.relay = some (.heartbeat r) := by
    rw [hl, Message.relay, NodeRecord.relay_of_isExact hr]
    rfl
  have hknown : (n.learn r).masterKnown = true :=
    masterKnown_iff.mpr ⟨r.nodeId, flags_learn.mpr ((if_pos rfl).mpr hmaster)⟩
  rw [hear, if_neg hsender, hrelay]
  dsimp only
  rw [handle_heartbeat hid, if_pos hknown]

/-- A node whose view flags a master answers no letter with a message of an election. -/
theorem Hearing.silent (h : Hearing n l n' out) (hn : n.Sound i)
    (hd : p ≠ i → ¬l.message.Denies p) (hp : n.Flags p) : ∀ m ∈ out, ¬m.IsElection := by
  have hp' := h.flags_mono hn hd hp
  intro m hm
  cases h.answer hm with
  | candidacy _ hmaster =>
    rw [masterKnown_iff.mpr ⟨p, hp'⟩] at hmaster
    cases hmaster
  | response => exact not_false
  | heartbeat => exact not_false

theorem Hearing.keyed (h : Hearing n l n' out) (hl : l.message.Honest l.sender)
    (hk : n.Keyed) : n'.Keyed := by
  have hlearn (r : NodeRecord) : (n.learn r).Keyed := hk.of_insert rfl
  cases h with
  | followed => exact hlearn _
  | nominated => exact (hlearn _).of_view_eq (nominate_view _)
  | @merged _ nodes correlator hrelay =>
    intro p r hr
    obtain ⟨nodes₀, hl₀, hnodes⟩ := Message.of_relay_stateResponse hrelay
    change (n.mergeView nodes).view[p]? = some r at hr
    rw [getElem?_mergeView, Option.or_eq_some_iff] at hr
    rcases hr with hr | ⟨-, hr⟩
    · exact hk p r hr
    · obtain ⟨r₀, hr₀, hid, -⟩ := hnodes p r hr
      rw [hl₀] at hl
      rw [hid, hl p r₀ hr₀]
  | concluded => exact hk.conclude _
  | _ => exact hk

/-- What an answer flags is flagged by the view, and no answer denies anything. -/
theorem Hearing.out_flags (h : Hearing n l n' out) (hn : n.Sound i) :
    ∀ m ∈ out, (m.Flags p → n'.Flags p) ∧ ¬m.Denies p := by
  have hn' := h.sound hn
  intro m hm
  cases h.answer hm with
  | candidacy => exact ⟨False.elim, not_false⟩
  | response => exact ⟨fun h ↦ h, not_false⟩
  | heartbeat hmaster =>
    refine ⟨fun ⟨hid, _⟩ ↦ ?_, fun ⟨_, hfalse⟩ ↦ ?_⟩
    · rw [← hid, show n'.self.nodeId = i from hn'.id, hn'.flags_self]
      exact hmaster
    · rw [hmaster] at hfalse
      cases hfalse

theorem Hearing.out_pairwise (h : Hearing n l n' out) :
    out.Pairwise fun m m' ↦ ∀ p, m.Flags p → ¬m'.Denies p := by
  rcases h.out_eq with rfl | ⟨m, rfl, -⟩
  · exact .nil
  · exact List.pairwise_singleton _ _

theorem Hearing.out_honest (h : Hearing n l n' out) (hn : n.Sound i) (hk : n'.Keyed) :
    ∀ m ∈ out, m.Honest i := by
  have hn' := h.sound hn
  intro m hm
  cases h.answer hm with
  | candidacy hc => exact (hn'.candidates _ _ hc).trans hn'.id
  | response => exact hk
  | heartbeat => exact hn'.id

/-! ### Ticking -/

theorem Casting.view (h : Casting n n' out) : n'.view = n.view ∧ n'.self = n.self := by
  cases h with
  | held => exact ⟨rfl, rfl⟩
  | cast => exact ⟨rfl, rfl⟩

theorem Casting.flags (h : Casting n n' out) : n'.Flags p ↔ n.Flags p := by
  rw [Flags, h.view.1, Flags]

theorem Counting.flags (h : Counting n n' out) :
    n'.Flags p ↔ n.Flags p ∨ (p = n.id ∧ .elected p ∈ out) := by
  cases h with
  | waiting => exact ⟨.inl, fun h ↦ h.resolve_right fun h ↦ List.not_mem_nil h.2⟩
  | @won winner =>
    rw [flags_conclude, or_comm]
    refine or_congr_right ⟨fun ⟨hwin, hp⟩ ↦ ⟨hp, ?_⟩, fun ⟨hp, hmem⟩ ↦ ⟨?_, hp⟩⟩
    · rw [hp, hwin]
      exact List.mem_cons_self
    · have heq : p = winner := by simpa using hmem
      rw [← heq, hp]
  | tied => exact ⟨.inl, fun h ↦ h.resolve_right fun h ↦ List.not_mem_nil h.2⟩

variable {γ : Type} [WordSource γ] {now : Float} {source : γ}

/-- A flag that appears with a heartbeat is the node's own, and the node announces it. -/
theorem Ticking.flags (h : Ticking n now source n' out) (hn : n.Sound i) (hp : n'.Flags p) :
    n.Flags p ∨ (p = i ∧ .elected i ∈ out) := by
  cases h with
  | beat => exact .inl ((hn.flags_refresh now).mp hp)
  | round _ _ hcast hcount =>
    rcases hcount.flags.mp hp with hp | ⟨hid, hmem⟩
    · exact .inl ((hn.flags_refresh now).mp (hcast.flags.mp hp))
    · have hi : p = i := hid.trans (hcast.sound (hn.refresh now)).id
      exact .inr ⟨hi, List.mem_cons_of_mem _ (List.mem_append_right _ (hi ▸ hmem))⟩

theorem Ticking.flags_mono (h : Ticking n now source n' out) (hn : n.Sound i)
    (hp : n.Flags p) : n'.Flags p := by
  have hp' := (hn.flags_refresh now).mpr hp
  cases h with
  | beat => exact hp'
  | round _ _ hcast hcount => exact hcount.flags.mpr (.inl (hcast.flags.mpr hp'))

/-- A node whose view flags a master has its heartbeat and nothing else to say. -/
theorem Ticking.silent (h : Ticking n now source n' out) (hn : n.Sound i) (hp : n.Flags p) :
    n' = n.refresh now ∧ out = [.heartbeat (n.refresh now).self] := by
  cases h with
  | beat => exact ⟨rfl, rfl⟩
  | round hmaster =>
    rw [masterKnown_iff.mpr ⟨p, (hn.flags_refresh now).mpr hp⟩] at hmaster
    cases hmaster

theorem Ticking.keyed (h : Ticking n now source n' out) (hk : n.Keyed) : n'.Keyed := by
  have hrefresh : (n.refresh now).Keyed := hk.of_insert rfl
  cases h with
  | beat => exact hrefresh
  | round _ _ hcast hcount =>
    have hvoter := hrefresh.of_view_eq hcast.view.1
    cases hcount with
    | waiting => exact hvoter
    | won => exact hvoter.conclude _
    | tied => exact hvoter.of_view_eq rfl

/-- What comes with a heartbeat: the record, then a ballot, a result and the record once more. -/
inductive Ticking.Said (n n' : Node) (now : Float) : Message → Prop
  | beat : Said n n' now (.heartbeat (n.refresh now).self)
  | vote (candidate : String) : Said n n' now (.vote candidate)
  | elected (winner : String) : Said n n' now (.elected winner)
  | again : Said n n' now (.heartbeat n'.self)

theorem Ticking.said (h : Ticking n now source n' out) : ∀ m ∈ out, Said n n' now m := by
  cases h with
  | beat =>
    intro m hm
    obtain rfl := List.mem_singleton.mp hm
    exact .beat
  | round _ _ hcast hcount =>
    intro m hm
    rw [List.mem_cons, List.mem_append] at hm
    rcases hm with rfl | hm | hm
    · exact .beat
    · cases hcast with
      | held => cases hm
      | cast =>
        obtain rfl := List.mem_singleton.mp hm
        exact .vote _
    · cases hcount with
      | waiting => cases hm
      | won =>
        rw [List.mem_cons, List.mem_singleton] at hm
        rcases hm with rfl | rfl
        · exact .elected _
        · exact .again
      | tied => cases hm

theorem Ticking.out_honest (h : Ticking n now source n' out) (hn : n.Sound i) :
    ∀ m ∈ out, m.Honest i := by
  intro m hm
  cases h.said m hm with
  | beat => exact hn.id
  | vote => trivial
  | elected => trivial
  | again => exact (h.sound hn).id

/-- What a heartbeat flags is flagged by the view afterwards, and it denies only a flag that the
view did not have. -/
theorem Ticking.out_flags (h : Ticking n now source n' out) (hn : n.Sound i) :
    ∀ m ∈ out, (m.Flags p → n'.Flags p) ∧ (m.Denies p → ¬n.Flags p) := by
  have hn' := h.sound hn
  intro m hm
  cases h.said m hm with
  | beat =>
    refine ⟨fun ⟨hid, hmaster⟩ ↦ ?_, fun ⟨hid, hfalse⟩ hp ↦ ?_⟩
    · have hi : p = i := hid.symm.trans hn.id
      subst hi
      exact h.flags_mono hn (hn.flags_self.mpr hmaster)
    · have hi : p = i := hid.symm.trans hn.id
      subst hi
      have hmaster : (n.refresh now).self.isMaster = true := hn.flags_self.mp hp
      rw [hmaster] at hfalse
      cases hfalse
  | vote => exact ⟨False.elim, False.elim⟩
  | elected => exact ⟨False.elim, False.elim⟩
  | again =>
    refine ⟨fun ⟨hid, hmaster⟩ ↦ ?_, fun ⟨hid, hfalse⟩ hp ↦ ?_⟩
    · have hi : p = i := hid.symm.trans hn'.id
      subst hi
      exact hn'.flags_self.mpr hmaster
    · have hi : p = i := hid.symm.trans hn'.id
      subst hi
      rw [hn'.flags_self.mp (h.flags_mono hn hp)] at hfalse
      cases hfalse

/-- Within one heartbeat nothing is denied after it has been flagged. -/
theorem Ticking.out_pairwise (h : Ticking n now source n' out) (hn : n.Sound i) :
    out.Pairwise fun m m' ↦ ∀ p, m.Flags p → ¬m'.Denies p := by
  cases h with
  | beat => exact List.pairwise_singleton _ _
  | round hmaster _ hcast hcount =>
    -- Only a node that knows no master comes to a round, so its first record does not flag it.
    have hbeat (p : String) : ¬(Message.heartbeat (n.refresh now).self).Flags p := by
      rintro ⟨-, hself⟩
      rw [masterKnown_iff.mpr ⟨i, (hn.refresh now).flags_self.mpr hself⟩] at hmaster
      cases hmaster
    refine List.pairwise_cons.mpr ⟨fun m _ p hp ↦ absurd hp (hbeat p), ?_⟩
    refine List.pairwise_append.mpr ⟨?_, ?_, ?_⟩
    · cases hcast with
      | held => exact .nil
      | cast => exact List.pairwise_singleton _ _
    · cases hcount with
      | waiting => exact .nil
      | won => exact List.pairwise_pair.mpr fun p hp ↦ absurd hp not_false
      | tied => exact .nil
    · intro m hm m' _ p hp
      cases hcast with
      | held => cases hm
      | cast =>
        obtain rfl := List.mem_singleton.mp hm
        exact absurd hp not_false

end Node

end HeartbeatMesh

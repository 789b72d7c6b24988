import HeartbeatMesh.Proofs.Node.Step

/-!
# What a node can rely on

Whatever a node hears and whenever its heartbeat comes, its own record is the one that stands under
its id in its view, candidacies stand under the ids of their candidates, and its own vote is for
somebody who stands (`Sound`). These hold of every node that has come about by steps of its own,
with letters that may say anything (`Reachable`). To a letter a node answers with one message at
most, and the message says what the node has come to (`Answer`).
-/

namespace HeartbeatMesh.Node

variable {n n' : Node} {i p : String}

/-! ## The parts of a step -/

@[simp] theorem nominate_view (n : Node) : n.nominate.1.view = n.view := by
  rw [nominate]; split <;> rfl

@[simp] theorem nominate_self (n : Node) : n.nominate.1.self = n.self := by
  rw [nominate]; split <;> rfl

@[simp] theorem nominate_votes (n : Node) : n.nominate.1.votes = n.votes := by
  rw [nominate]; split <;> rfl

/-- A nominated node stands with the candidacy that it announces. -/
theorem getElem?_nominate_candidates (n : Node) (k : String) :
    n.nominate.1.candidates[k]? = if k = n.id then some n.nominate.2 else n.candidates[k]? := by
  rw [nominate]
  split
  · rename_i c hc
    split_ifs with hk
    · rw [hk, hc]
    · rfl
  · dsimp only
    rw [IdMap.getElem?_insert]
    simp only [eq_comm]

/-- Records that are there already stay, and the others come from the response. -/
theorem getElem?_mergeView (n : Node) (nodes : IdMap NodeRecord) (p : String) :
    (n.mergeView nodes).view[p]? = n.view[p]?.or nodes[p]? := by
  rw [← IdMap.findSome?_toList nodes p, ← IdMap.getElem?_foldl_insertIfNew]
  rfl

theorem getElem?_conclude_view (n : Node) (winner : String) :
    (n.conclude winner).view[p]?
      = if winner = n.id ∧ p = n.id then some { n.self with isMaster := true } else n.view[p]? := by
  rw [conclude]
  by_cases hw : winner = n.id
  · rw [if_pos hw]
    change (n.view.insert n.id { n.self with isMaster := true })[p]? = _
    rw [IdMap.getElem?_insert]
    simp only [hw, true_and, eq_comm]
  · rw [if_neg hw, if_neg fun h ↦ hw h.1]
    rfl

theorem conclude_self (n : Node) (winner : String) :
    (n.conclude winner).self
      = if winner = n.id then { n.self with isMaster := true } else n.self := by
  rw [conclude]; split <;> rfl

@[simp] theorem conclude_candidates (n : Node) (winner : String) :
    (n.conclude winner).candidates = ∅ := by
  rw [conclude]; split <;> rfl

@[simp] theorem conclude_votes (n : Node) (winner : String) : (n.conclude winner).votes = ∅ := by
  rw [conclude]; split <;> rfl

/-! ## Ids -/

@[simp] theorem conclude_id (n : Node) (winner : String) : (n.conclude winner).id = n.id := by
  rw [Node.id, conclude_self]
  split_ifs <;> rfl

theorem Hearing.id {l : Letter} {out : List Message} (h : Hearing n l n' out) : n'.id = n.id := by
  cases h with
  | nominated => rw [Node.id, nominate_self]; rfl
  | concluded => exact conclude_id n _
  | _ => rfl

theorem Casting.id {out : List Message} (h : Casting n n' out) : n'.id = n.id := by
  cases h with
  | held => rfl
  | cast => rfl

theorem Counting.id {out : List Message} (h : Counting n n' out) : n'.id = n.id := by
  cases h with
  | waiting => rfl
  | won => exact conclude_id n _
  | tied => rfl

theorem Ticking.id {γ : Type} [WordSource γ] {now : Float} {source : γ} {out : List Message}
    (h : Ticking n now source n' out) : n'.id = n.id := by
  cases h with
  | beat => rfl
  | round _ _ hcast hcount => exact hcount.id.trans (hcast.id.trans rfl)

/-! ## Answers -/

/-- What a node that has come to the state `n'` can answer to a letter. -/
inductive Answer (n' : Node) : Message → Prop
  | candidacy {c : Candidacy} (hc : n'.candidates[n'.id]? = some c)
      (hmaster : n'.masterKnown = false) : Answer n' (.candidacy c)
  | response (requestId : String) : Answer n' (.stateResponse requestId n'.view)
  | heartbeat (hmaster : n'.self.isMaster = true) : Answer n' (.heartbeat n'.self)

/-- A letter is answered by one message at most. -/
theorem Hearing.out_eq {l : Letter} {out : List Message} (h : Hearing n l n' out) :
    out = [] ∨ ∃ m, out = [m] ∧ n'.Answer m := by
  cases h with
  | @nominated r _ _ hmaster =>
    refine .inr ⟨_, rfl, .candidacy ?_ ?_⟩
    · rw [getElem?_nominate_candidates, Node.id, nominate_self]
      exact if_pos rfl
    · rwa [masterKnown, nominate_view]
  | asked => exact .inr ⟨_, rfl, .response _⟩
  | concluded =>
    split_ifs with hwin
    · refine .inr ⟨_, rfl, .heartbeat ?_⟩
      rw [conclude_self, if_pos hwin]
    · exact .inl rfl
  | _ => exact .inl rfl

theorem Hearing.answer {l : Letter} {out : List Message} (h : Hearing n l n' out) {m : Message}
    (hm : m ∈ out) : n'.Answer m := by
  rcases h.out_eq with rfl | ⟨m', rfl, hanswer⟩
  · cases hm
  · rwa [List.mem_singleton.mp hm]

/-! ## The own record -/

/-- The node is `i`, and its own record stands under its id in its view. -/
structure Present (i : String) (n : Node) : Prop where
  id : n.id = i
  own : n.view[i]? = some n.self

theorem present_new (i : String) (now : Float) (settings : Settings) :
    (new i now settings).Present i where
  id := rfl
  own := Std.ExtTreeMap.getElem?_insert_self

theorem Present.learn (h : n.Present i) {r : NodeRecord} (hr : r.nodeId ≠ n.id) :
    (n.learn r).Present i where
  id := h.id
  own := by
    refine (IdMap.getElem?_insert_ne ?_).trans h.own
    rw [← h.id]
    exact Ne.symm hr

theorem Present.nominate (h : n.Present i) : n.nominate.1.Present i where
  id := by rw [Node.id, nominate_self]; exact h.id
  own := by rw [nominate_view, nominate_self]; exact h.own

theorem Present.mergeView (h : n.Present i) (nodes : IdMap NodeRecord) :
    (n.mergeView nodes).Present i where
  id := h.id
  own := by
    rw [getElem?_mergeView, h.own]
    exact Option.some_or

theorem Present.conclude (h : n.Present i) (winner : String) : (n.conclude winner).Present i where
  id := (conclude_id n winner).trans h.id
  own := by
    rw [getElem?_conclude_view, conclude_self]
    by_cases hw : winner = n.id
    · rw [if_pos ⟨hw, h.id.symm⟩, if_pos hw]
    · rw [if_neg fun hwin ↦ hw hwin.1, if_neg hw, h.own]

theorem Present.refresh (h : n.Present i) (now : Float) : (n.refresh now).Present i where
  id := h.id
  own := by
    change (n.view.insert n.id { n.self with heartbeat := now })[i]? = _
    rw [IdMap.getElem?_insert, if_pos h.id]
    rfl

/-- **A node stays in its view**, whatever message it takes in and from whomever. -/
theorem Handling.present {sender : String} {m : Message} {out : List Message}
    (h : Handling n sender m n' out) (hn : n.Present i) : n'.Present i := by
  cases h with
  | followed hid => exact hn.learn hid
  | nominated hid => exact (hn.learn hid).nominate
  | @merged _ nodes =>
    have hm := hn.mergeView nodes
    exact ⟨hm.id, hm.own⟩
  | concluded => exact hn.conclude _
  | echoed | undated => exact hn
  | _ => exact ⟨hn.id, hn.own⟩

theorem Casting.present {out : List Message} (h : Casting n n' out) (hn : n.Present i) :
    n'.Present i := by
  cases h with
  | held => exact hn
  | cast => exact ⟨hn.id, hn.own⟩

theorem Counting.present {out : List Message} (h : Counting n n' out) (hn : n.Present i) :
    n'.Present i := by
  cases h with
  | waiting => exact hn
  | won => exact hn.conclude _
  | tied => exact ⟨hn.id, hn.own⟩

theorem Ticking.present {γ : Type} [WordSource γ] {now : Float} {source : γ} {out : List Message}
    (h : Ticking n now source n' out) (hn : n.Present i) : n'.Present i := by
  cases h with
  | beat => exact hn.refresh now
  | round _ _ hcast hcount => exact hcount.present (hcast.present (hn.refresh now))

/-! ## Soundness -/

/-- What holds of the node `i` whatever it has heard. -/
structure Sound (i : String) (n : Node) : Prop where
  id : n.id = i
  own : n.view[i]? = some n.self
  candidates : ∀ (k : String) (c : Candidacy), n.candidates[k]? = some c → c.nodeId = k
  ballot : ∀ v, n.votes[i]? = some v → v ∈ n.candidates

theorem Sound.present (h : n.Sound i) : n.Present i := ⟨h.id, h.own⟩

/-- The candidacy that a node announces is its own. -/
theorem Sound.nominate_nodeId (h : n.Sound i) : n.nominate.2.nodeId = i := by
  rw [nominate]
  split
  · rename_i c hc
    rw [h.candidates _ c hc, h.id]
  · exact h.id

/-- A new node knows itself and nobody else. -/
theorem getElem?_startup_view {now : Float} {settings : Settings} {requestId : String}
    {r : NodeRecord}
    (h : ((new i now settings).startup requestId).1.view[p]? = some r) :
    p = i ∧ r = ⟨i, now, false⟩ := by
  change ((∅ : IdMap NodeRecord).insert i ⟨i, now, false⟩)[p]? = some r at h
  rcases IdMap.of_getElem?_insert h with ⟨rfl, rfl⟩ | ⟨-, h⟩
  · exact ⟨rfl, rfl⟩
  · rw [Std.ExtTreeMap.getElem?_empty] at h
    cases h

/-- A new node asks for views and shows its record. -/
theorem mem_startup_out {now : Float} {settings : Settings} {requestId : String} {m : Message} :
    m ∈ ((new i now settings).startup requestId).2 ↔
      m = .stateRequest requestId ∨ m = .heartbeat ⟨i, now, false⟩ := by
  rw [startup, List.mem_cons, List.mem_singleton]
  rfl

theorem sound_new (i : String) (now : Float) (settings : Settings) :
    (new i now settings).Sound i where
  id := rfl
  own := (present_new i now settings).own
  candidates k c hc := by
    change (∅ : IdMap Candidacy)[k]? = some c at hc
    rw [Std.ExtTreeMap.getElem?_empty] at hc
    cases hc
  ballot v hv := by
    change (∅ : IdMap String)[i]? = some v at hv
    rw [Std.ExtTreeMap.getElem?_empty] at hv
    cases hv

theorem Sound.startup (h : n.Sound i) (requestId : String) : (n.startup requestId).1.Sound i :=
  ⟨h.id, h.own, h.candidates, h.ballot⟩

theorem Sound.learn (h : n.Sound i) {r : NodeRecord} (hr : r.nodeId ≠ n.id) :
    (n.learn r).Sound i where
  id := h.id
  own := (h.present.learn hr).own
  candidates := h.candidates
  ballot := h.ballot

theorem Sound.nominate (h : n.Sound i) : n.nominate.1.Sound i where
  id := h.present.nominate.id
  own := h.present.nominate.own
  candidates k c hc := by
    rw [getElem?_nominate_candidates] at hc
    split_ifs at hc with hk
    · rw [← Option.some.inj hc, h.nominate_nodeId, hk, h.id]
    · exact h.candidates k c hc
  ballot v hv := by
    rw [nominate_votes] at hv
    obtain ⟨c, hc⟩ := IdMap.mem_iff.mp (h.ballot v hv)
    rw [IdMap.mem_iff, getElem?_nominate_candidates]
    split_ifs
    · exact ⟨_, rfl⟩
    · exact ⟨c, hc⟩

theorem Sound.mergeView (h : n.Sound i) (nodes : IdMap NodeRecord) :
    (n.mergeView nodes).Sound i where
  id := h.id
  own := (h.present.mergeView nodes).own
  candidates := h.candidates
  ballot := h.ballot

theorem Sound.stand (h : n.Sound i) (c : Candidacy) :
    ({ n with candidates := n.candidates.insert c.nodeId c } : Node).Sound i where
  id := h.id
  own := h.own
  candidates k c' hc' := by
    rcases IdMap.of_getElem?_insert hc' with ⟨rfl, rfl⟩ | ⟨-, hc'⟩
    · rfl
    · exact h.candidates k c' hc'
  ballot v hv := Std.ExtTreeMap.mem_insert.mpr (.inr (h.ballot v hv))

/-- Votes of others leave the own one alone. -/
theorem Sound.record (h : n.Sound i) {voter : String} (hvoter : voter ≠ n.id) (v : String) :
    ({ n with votes := n.votes.insert voter v } : Node).Sound i where
  id := h.id
  own := h.own
  candidates := h.candidates
  ballot v' hv' := by
    refine h.ballot v' (Eq.trans ?_ hv')
    rw [h.id] at hvoter
    exact (IdMap.getElem?_insert_ne (Ne.symm hvoter)).symm

theorem Sound.cast (h : n.Sound i) {v : String} (hv : v ∈ n.candidates.keys) :
    ({ n with votes := n.votes.insert n.id v } : Node).Sound i where
  id := h.id
  own := h.own
  candidates := h.candidates
  ballot v' hv' := by
    change (n.votes.insert n.id v)[i]? = some v' at hv'
    rw [IdMap.getElem?_insert, if_pos h.id] at hv'
    rw [← Option.some.inj hv']
    exact Std.ExtTreeMap.mem_keys.mp hv

theorem Sound.conclude (h : n.Sound i) (winner : String) : (n.conclude winner).Sound i where
  id := (h.present.conclude winner).id
  own := (h.present.conclude winner).own
  candidates k c hc := by
    rw [conclude_candidates, Std.ExtTreeMap.getElem?_empty] at hc
    cases hc
  ballot v hv := by
    rw [conclude_votes, Std.ExtTreeMap.getElem?_empty] at hv
    cases hv

theorem Sound.clearRound (h : n.Sound i) : n.clearRound.Sound i where
  id := h.id
  own := h.own
  candidates k c hc := by
    change (∅ : IdMap Candidacy)[k]? = some c at hc
    rw [Std.ExtTreeMap.getElem?_empty] at hc
    cases hc
  ballot v hv := by
    change (∅ : IdMap String)[i]? = some v at hv
    rw [Std.ExtTreeMap.getElem?_empty] at hv
    cases hv

theorem Sound.refresh (h : n.Sound i) (now : Float) : (n.refresh now).Sound i where
  id := h.id
  own := (h.present.refresh now).own
  candidates := h.candidates
  ballot := h.ballot

/-- **Hearing keeps a node sound**, whatever the letter says. -/
theorem Hearing.sound {l : Letter} {out : List Message} (h : Hearing n l n' out)
    (hn : n.Sound i) : n'.Sound i := by
  cases h with
  | ignored => exact hn
  | followed _ hid => exact hn.learn hid
  | nominated _ hid => exact (hn.learn hid).nominate
  | asked => exact hn
  | @merged _ nodes correlator =>
    have hm := hn.mergeView nodes
    exact ⟨hm.id, hm.own, hm.candidates, hm.ballot⟩
  | answered correlator => exact ⟨hn.id, hn.own, hn.candidates, hn.ballot⟩
  | stood => exact hn.stand _
  | voted _ hsender => exact hn.record hsender _
  | concluded => exact hn.conclude _

/-- The same for any message of anybody else. -/
theorem Handling.sound {sender : String} {m : Message} {out : List Message}
    (h : Handling n sender m n' out) (hsender : sender ≠ n.id) (hn : n.Sound i) :
    n'.Sound i := by
  cases h with
  | echoed => exact hn
  | followed hid => exact hn.learn hid
  | nominated hid => exact (hn.learn hid).nominate
  | asked => exact hn
  | @merged _ nodes =>
    have hm := hn.mergeView nodes
    exact ⟨hm.id, hm.own, hm.candidates, hm.ballot⟩
  | answered => exact ⟨hn.id, hn.own, hn.candidates, hn.ballot⟩
  | unsolicited => exact hn
  | stood => exact hn.stand _
  | undated => exact hn
  | voted => exact hn.record hsender _
  | concluded => exact hn.conclude _

theorem Casting.sound {out : List Message} (h : Casting n n' out) (hn : n.Sound i) :
    n'.Sound i := by
  cases h with
  | held => exact hn
  | cast _ hmem => exact hn.cast hmem

theorem Counting.sound {out : List Message} (h : Counting n n' out) (hn : n.Sound i) :
    n'.Sound i := by
  cases h with
  | waiting => exact hn
  | won => exact hn.conclude _
  | tied => exact hn.clearRound

theorem Ticking.sound {γ : Type} [WordSource γ] {now : Float} {source : γ} {out : List Message}
    (h : Ticking n now source n' out) (hn : n.Sound i) : n'.Sound i := by
  cases h with
  | beat => exact hn.refresh now
  | round _ _ hcast hcount => exact hcount.sound (hcast.sound (hn.refresh now))

/-- The states that the node `i` can come into by itself and by letters of others. -/
inductive Reachable (i : String) : Node → Prop
  | start (now : Float) (settings : Settings) (requestId : String) :
      Reachable i ((new i now settings).startup requestId).1
  | hear {n : Node} (h : Reachable i n) (l : Letter) : Reachable i (n.hear l).1
  | tick {γ : Type} [WordSource γ] {n : Node} (h : Reachable i n) (now : Float) (source : γ) :
      Reachable i (n.tick now source).1.1

theorem Reachable.sound (h : Reachable i n) : n.Sound i := by
  induction h with
  | start now settings requestId => exact (sound_new i now settings).startup requestId
  | hear _ l ih => exact (hearing_hear _ l).sound ih
  | tick _ now source ih => exact (ticking_tick _ now source).sound ih

end HeartbeatMesh.Node

import HeartbeatMesh.Proofs.Node.Ballot

/-!
# A node after a complete round

A node that holds the votes of all others and has not counted them yet (`Awaits`) can only announce
the winner of these votes. A node for which the round is over (`Concluded`) may come into a new
round: old candidacies reach it, and it votes again. But the winner votes no more, so of the nodes
that it knows one never votes, and the new round is never complete.
-/

namespace HeartbeatMesh

/-- The letter ends the round of the node: it is a result that somebody else announces. -/
def Letter.Closes (l : Letter) (i : String) : Prop := l.sender ≠ i ∧ ∃ v, l.message = .elected v

namespace Node

variable {n n' : Node} {ids : List String} {votes : IdMap String} {i k v w : String} {l : Letter}
  {out : List Message}

/-! ## Views -/

theorem mem_learn_view {r : NodeRecord} (hk : k ∈ n.view) : k ∈ (n.learn r).view :=
  Std.ExtTreeMap.mem_insert.mpr (.inr hk)

theorem mem_refresh_view {now : Float} (hk : k ∈ n.view) : k ∈ (n.refresh now).view :=
  Std.ExtTreeMap.mem_insert.mpr (.inr hk)

theorem mem_conclude_view {winner : String} (hk : k ∈ n.view) : k ∈ (n.conclude winner).view := by
  obtain ⟨r, hr⟩ := IdMap.mem_iff.mp hk
  rw [IdMap.mem_iff, getElem?_conclude_view]
  split_ifs
  · exact ⟨_, rfl⟩
  · exact ⟨r, hr⟩

/-- Nodes are not forgotten. -/
theorem Hearing.mem_view (h : Hearing n l n' out) (hk : k ∈ n.view) : k ∈ n'.view := by
  cases h with
  | followed => exact mem_learn_view hk
  | nominated =>
    rw [nominate_view]
    exact mem_learn_view hk
  | merged =>
    obtain ⟨r, hr⟩ := IdMap.mem_iff.mp hk
    refine IdMap.mem_iff.mpr ⟨r, (getElem?_mergeView n _ k).trans ?_⟩
    rw [hr, Option.some_or]
  | concluded => exact mem_conclude_view hk
  | _ => exact hk

theorem Counting.mem_view (h : Counting n n' out) (hk : k ∈ n.view) : k ∈ n'.view := by
  cases h with
  | won => exact mem_conclude_view hk
  | _ => exact hk

theorem Ticking.mem_view {γ : Type} [WordSource γ] {now : Float} {source : γ}
    (h : Ticking n now source n' out) (hk : k ∈ n.view) : k ∈ n'.view := by
  cases h with
  | beat => exact mem_refresh_view hk
  | round _ _ hcast hcount =>
    refine hcount.mem_view ?_
    rw [hcast.view.1]
    exact mem_refresh_view hk

/-! ## Before the count -/

/-- The node holds the votes of the round and has not counted them. -/
structure Awaits (votes : IdMap String) (n : Node) : Prop where
  votes : n.votes = votes
  follower : n.self.isMaster = false

/-- For the node the round is over: it has no vote of the winner and none of strangers, and it is
master if and only if it has won. -/
structure Concluded (ids : List String) (w i : String) (n : Node) : Prop where
  voters : ∀ k ∈ n.votes, k ∈ ids ∧ k ≠ w
  master : n.self.isMaster = true ↔ i = w

/-- Counting the votes or hearing of the winner concludes the round. -/
theorem Awaits.conclude (h : n.Awaits votes) (hn : n.Sound i) (ids : List String) (w : String) :
    (n.conclude w).Concluded ids w i where
  voters k hk := by
    rw [conclude_votes] at hk
    exact absurd hk Std.ExtTreeMap.not_mem_empty
  master := by
    rw [conclude_isMaster, h.follower, hn.id, or_iff_left Bool.false_ne_true, eq_comm]

/-- A letter that is no vote leaves a node waiting, unless it is a result. -/
theorem Awaits.hear (h : n.Awaits votes) (hn : n.Sound i) (hvote : ∀ v, l.message ≠ .vote v)
    (hresult : ¬l.Closes i) : (n.hear l).1.Awaits votes := by
  have hh := hearing_hear n l
  refine ⟨?_, Bool.eq_false_iff.mpr fun hmaster ↦ ?_⟩
  · rcases hh.votes with heq | ⟨hsender, ⟨v, hv, -⟩ | ⟨v, hv, -⟩⟩
    · exact heq.trans h.votes
    · exact absurd hv (hvote v)
    · exact absurd ⟨hn.id ▸ hsender, v, hv⟩ hresult
  · rcases hh.isMaster hn hmaster with hmaster | ⟨hsender, hv⟩
    · rw [h.follower] at hmaster
      cases hmaster
    · exact hresult ⟨hsender, i, hv⟩

theorem Awaits.hear_result (h : n.Awaits votes) (hn : n.Sound i) (ids : List String)
    (hl : l.Closes i) (hresult : ∀ v, l.message = .elected v → v = w) :
    (n.hear l).1.Concluded ids w i := by
  obtain ⟨hsender, v, hv⟩ := hl
  obtain rfl := hresult v hv
  rw [hear_elected (hn.id ▸ hsender) hv]
  exact h.conclude hn ids v

variable {γ : Type} [WordSource γ] {now : Float} {source : γ}

/-- A heartbeat does nothing, or it counts the votes and announces their winner. -/
theorem Awaits.tick (h : n.Awaits votes) (hn : n.Sound i) (ids : List String)
    (hvoter : i ∈ votes) (hwinner : IsPlurality votes.values w)
    (ht : Ticking n now source n' out) :
    n'.Awaits votes ∧ (∃ r, out = [.heartbeat r]) ∨
      n'.Concluded ids w i ∧ ∃ r r', out = [.heartbeat r, .elected w, .heartbeat r'] := by
  have hrefresh : (n.refresh now).Awaits votes := ⟨h.votes, h.follower⟩
  cases ht with
  | beat => exact .inl ⟨hrefresh, _, rfl⟩
  | round _ _ hcast hcount =>
    cases hcast with
    | held =>
      cases hcount with
      | waiting => exact .inl ⟨hrefresh, _, rfl⟩
      | @won winner _ hplurality =>
        rw [hrefresh.votes] at hplurality
        obtain rfl := hplurality.unique hwinner
        exact .inr ⟨hrefresh.conclude (hn.refresh now) ids winner, _, _, rfl⟩
      | tied _ htie => exact absurd (hrefresh.votes ▸ hwinner) (htie w)
    | cast hfirst =>
      -- The node has a vote of its own already.
      have hid : (n.refresh now).id = i := hn.id
      rw [hid, hrefresh.votes, Std.ExtTreeMap.contains_iff_mem.mpr hvoter] at hfirst
      cases hfirst

/-! ## After the count -/

/-- Whatever a node hears after the round, the winner has no vote there. -/
theorem Concluded.hear (h : n.Concluded ids w i) (hn : n.Sound i)
    (hvote : ∀ v, l.message = .vote v → l.sender ∈ ids ∧ l.sender ≠ w)
    (hresult : ∀ v, l.message = .elected v → v = w) : (n.hear l).1.Concluded ids w i := by
  have hh := hearing_hear n l
  refine ⟨fun k hk ↦ ?_, fun hmaster ↦ ?_, fun hiw ↦ ?_⟩
  · obtain ⟨v, hv⟩ := IdMap.mem_iff.mp hk
    rcases hh.of_votes hv with hv | ⟨rfl, hl⟩
    · exact h.voters k (IdMap.mem_iff.mpr ⟨v, hv⟩)
    · exact hvote v hl
  · rcases hh.isMaster hn hmaster with hmaster | ⟨-, hl⟩
    · exact h.master.mp hmaster
    · exact hresult i hl
  · have hp := hn.flags_self.mpr (h.master.mpr hiw)
    exact (hh.sound hn).flags_self.mp (hh.flags_mono hn (absurd rfl) hp)

/-- The winner and the strangers are missing among the voters, and so the votes are too few. -/
theorem votesComplete_eq_false (hvoters : ∀ k ∈ n.votes, k ∈ ids ∧ k ≠ w) (hw : w ∈ ids)
    (hview : ∀ k ∈ ids, k ∈ n.view) : n.votesComplete = false := by
  have hsub : ∀ k ∈ n.votes.keys, k ∈ n.view.keys := by
    intro k hk
    exact Std.ExtTreeMap.mem_keys.mpr (hview k (hvoters k (Std.ExtTreeMap.mem_keys.mp hk)).1)
  have hnot : w ∉ n.votes.keys :=
    fun hmem ↦ (hvoters w (Std.ExtTreeMap.mem_keys.mp hmem)).2 rfl
  have hlt := IdMap.size_lt_size hsub (Std.ExtTreeMap.mem_keys.mpr (hview w hw)) hnot
  refine decide_eq_false fun ⟨hvotes, hcandidates⟩ ↦ ?_
  omega

/-- After the round the winner is silent, and the others may vote but never count. -/
theorem Concluded.tick (h : n.Concluded ids w i) (hn : n.Sound i) (hi : i ∈ ids) (hw : w ∈ ids)
    (hview : ∀ k ∈ ids, k ∈ n.view) (ht : Ticking n now source n' out) :
    n'.Concluded ids w i ∧ (∀ v, .elected v ∉ out) ∧ (i = w → ∀ v, .vote v ∉ out) := by
  have hrefresh : (n.refresh now).Concluded ids w i := ⟨h.voters, h.master⟩
  by_cases hiw : i = w
  · obtain ⟨rfl, rfl⟩ := ht.silent hn (hn.flags_self.mpr (h.master.mpr hiw))
    exact ⟨hrefresh, by simp, by simp⟩
  cases ht with
  | beat => exact ⟨hrefresh, by simp, by simp⟩
  | @round n₁ _ ballot _ _ _ hcast hcount =>
    have hvoters : ∀ k ∈ n₁.votes, k ∈ ids ∧ k ≠ w := by
      intro k hk
      obtain ⟨v, hv⟩ := IdMap.mem_iff.mp hk
      rcases hcast.votes hv with hv | ⟨rfl, -⟩
      · exact h.voters k (IdMap.mem_iff.mpr ⟨v, hv⟩)
      · exact ⟨hn.id.symm ▸ hi, fun hk ↦ hiw (hn.id.symm.trans hk)⟩
    -- The node knows all `ids`, and the vote of `w` is missing.
    have hincomplete : n₁.votesComplete = false := by
      refine votesComplete_eq_false hvoters hw fun k hk ↦ ?_
      rw [hcast.view.1]
      exact mem_refresh_view (hview k hk)
    cases hcount with
    | waiting =>
      refine ⟨⟨hvoters, ?_⟩, fun v hv ↦ ?_, fun heq ↦ absurd heq hiw⟩
      · rw [hcast.view.2]
        exact hrefresh.master
      · rw [List.append_nil, List.mem_cons, or_iff_right Message.noConfusion] at hv
        obtain ⟨v', -, heq⟩ := hcast.of_mem hv
        cases heq
    | won hcomplete =>
      rw [hincomplete] at hcomplete
      cases hcomplete
    | tied hcomplete =>
      rw [hincomplete] at hcomplete
      cases hcomplete

end Node

end HeartbeatMesh

import HeartbeatMesh.Proofs.Node.Flags

/-!
# Where candidacies, votes and results come from

Whoever stands in a node's round has said so in a letter, or is the node itself and says so now
(`Hearing.candidates`). A vote in the round is the node's own or that of the sender of a letter
(`Hearing.votes`, `Ticking.votes`), and a node votes for somebody who stands. A result is announced
by the heartbeat that counts the votes (`Ticking.of_elected`), and nobody becomes master without
one (`Hearing.isMaster`, `Ticking.isMaster`).
-/

namespace HeartbeatMesh

/-- The message names the id, as the choice of a voter or as the winner of a count. -/
def Message.Names : Message → String → Prop
  | .vote candidate, p => candidate = p
  | .elected winner, p => winner = p
  | _, _ => False

namespace Node

variable {n n' : Node} {i k p v w x : String} {l : Letter} {out : List Message}

theorem mem_nominate_candidates :
    k ∈ n.nominate.1.candidates ↔ k = n.id ∨ k ∈ n.candidates := by
  rw [IdMap.mem_iff, getElem?_nominate_candidates]
  split_ifs with hk
  · exact ⟨fun _ ↦ .inl hk, fun _ ↦ ⟨_, rfl⟩⟩
  · rw [← IdMap.mem_iff, or_iff_right hk]

theorem not_mem_conclude_candidates (n : Node) (winner : String) :
    k ∉ (n.conclude winner).candidates := by
  rw [conclude_candidates]
  exact Std.ExtTreeMap.not_mem_empty

theorem getElem?_conclude_votes (n : Node) (winner : String) :
    (n.conclude winner).votes[x]? = none := by
  rw [conclude_votes]
  exact Std.ExtTreeMap.getElem?_empty

theorem conclude_isMaster (n : Node) (winner : String) :
    (n.conclude winner).self.isMaster = true ↔ winner = n.id ∨ n.self.isMaster = true := by
  rw [conclude_self]
  split_ifs with hw
  · exact iff_of_true rfl (.inl hw)
  · rw [or_iff_right hw]

theorem conclude_heartbeat (n : Node) (winner : String) :
    (n.conclude winner).self.heartbeat = n.self.heartbeat := by
  rw [conclude_self]
  split_ifs <;> rfl

/-! ## Hearing -/

/-- Who stands after a letter stood before, or is put up by the letter or by the answer. -/
theorem Hearing.candidates (h : Hearing n l n' out) (hn : n.Sound i) (hk : k ∈ n'.candidates) :
    k ∈ n.candidates ∨
      ∃ d : Candidacy, d.nodeId = k ∧ (l.message = .candidacy d ∨ k = i ∧ .candidacy d ∈ out) := by
  cases h with
  | @nominated r _ hid =>
    rcases mem_nominate_candidates.mp hk with hself | hk
    · have hi : k = i := hself.trans hn.id
      refine .inr ⟨_, ?_, .inr ⟨hi, List.mem_singleton_self _⟩⟩
      rw [hi]
      exact (hn.learn hid).nominate_nodeId
    · exact .inl hk
  | stood hl =>
    obtain ⟨d, hd, hid⟩ := Message.of_relay_candidacy hl
    rcases Std.ExtTreeMap.mem_insert.mp hk with hself | hk
    · rw [Std.LawfulEqOrd.compare_eq_iff_eq] at hself
      exact .inr ⟨d, hid.symm.trans hself, .inl hd⟩
    · exact .inl hk
  | concluded => exact absurd hk (not_mem_conclude_candidates n _)
  | _ => exact .inl hk

/-- A letter leaves the votes alone, adds the vote of its sender or ends the round. -/
theorem Hearing.votes (h : Hearing n l n' out) :
    n'.votes = n.votes ∨ l.sender ≠ n.id ∧
      ((∃ v, l.message = .vote v ∧ n'.votes = n.votes.insert l.sender v) ∨
        ∃ w, l.message = .elected w ∧ n' = n.conclude w) := by
  cases h with
  | nominated => exact .inl (nominate_votes _)
  | voted hl hsender => exact .inr ⟨hsender, .inl ⟨_, Message.of_relay_vote hl, rfl⟩⟩
  | concluded hl hsender => exact .inr ⟨hsender, .inr ⟨_, Message.of_relay_elected hl, rfl⟩⟩
  | _ => exact .inl rfl

theorem Hearing.of_votes (h : Hearing n l n' out) (hv : n'.votes[x]? = some v) :
    n.votes[x]? = some v ∨ l.sender = x ∧ l.message = .vote v := by
  rcases h.votes with heq | ⟨-, ⟨candidate, hl, heq⟩ | ⟨winner, -, rfl⟩⟩
  · exact .inl (heq ▸ hv)
  · rw [heq] at hv
    rcases IdMap.of_getElem?_insert hv with ⟨hx, rfl⟩ | ⟨-, hv⟩
    · exact .inr ⟨hx, hl⟩
    · exact .inl hv
  · rw [getElem?_conclude_votes] at hv
    cases hv

/-- Answers to letters are no votes and no results. -/
theorem Hearing.not_names (h : Hearing n l n' out) : ∀ m ∈ out, ¬m.Names p := by
  intro m hm
  cases h.answer hm with
  | _ => exact not_false

theorem Hearing.not_elected (h : Hearing n l n' out) : .elected w ∉ out :=
  fun hw ↦ h.not_names _ hw (p := w) rfl

/-- A letter makes a node master only if it is a result in favour of the node. -/
theorem Hearing.isMaster (h : Hearing n l n' out) (hn : n.Sound i)
    (hmaster : n'.self.isMaster = true) :
    n.self.isMaster = true ∨ l.sender ≠ i ∧ l.message = .elected i := by
  cases h with
  | nominated =>
    rw [nominate_self] at hmaster
    exact .inl hmaster
  | concluded hl hsender =>
    rw [conclude_isMaster, hn.id] at hmaster
    rcases hmaster with rfl | hmaster
    · exact .inr ⟨hn.id ▸ hsender, Message.of_relay_elected hl⟩
    · exact .inl hmaster
  | _ => exact .inl hmaster

/-- Only the node's own heartbeat gives its record a new time. -/
theorem Hearing.heartbeat (h : Hearing n l n' out) : n'.self.heartbeat = n.self.heartbeat := by
  cases h with
  | nominated =>
    rw [nominate_self]
    rfl
  | concluded => exact conclude_heartbeat n _
  | _ => rfl

/-- A result that is not the node's own is taken as it is. -/
theorem hear_elected (hsender : l.sender ≠ n.id) (hl : l.message = .elected w) :
    n.hear l = (n.conclude w, if w = n.id then [.heartbeat (n.conclude w).self] else []) := by
  rw [hear, if_neg hsender, hl]
  rfl

/-! ## Ticking -/

theorem Casting.candidates (h : Casting n n' out) : n'.candidates = n.candidates := by
  cases h with
  | held => rfl
  | cast => rfl

theorem Casting.votes (h : Casting n n' out) (hv : n'.votes[x]? = some v) :
    n.votes[x]? = some v ∨ x = n.id ∧ .vote v ∈ out ∧ v ∈ n.candidates := by
  cases h with
  | held => exact .inl hv
  | cast _ hmem =>
    rcases IdMap.of_getElem?_insert hv with ⟨hx, rfl⟩ | ⟨-, hv⟩
    · exact .inr ⟨hx.symm, List.mem_singleton_self _, Std.ExtTreeMap.mem_keys.mp hmem⟩
    · exact .inl hv

theorem Casting.of_mem (h : Casting n n' out) {m : Message} (hm : m ∈ out) :
    ∃ v ∈ n.candidates, m = .vote v := by
  cases h with
  | held => cases hm
  | cast _ hmem => exact ⟨_, Std.ExtTreeMap.mem_keys.mp hmem, List.mem_singleton.mp hm⟩

/-- A count leaves the round as it is or ends it. -/
theorem Counting.round (h : Counting n n' out) :
    n'.candidates = n.candidates ∧ n'.votes = n.votes ∨ n'.candidates = ∅ ∧ n'.votes = ∅ := by
  cases h with
  | waiting => exact .inl ⟨rfl, rfl⟩
  | won => exact .inr ⟨conclude_candidates n _, conclude_votes n _⟩
  | tied => exact .inr ⟨rfl, rfl⟩

theorem Counting.of_elected (h : Counting n n' out) (hw : .elected w ∈ out) :
    n.votesComplete = true ∧ IsPlurality n.votes.values w ∧ n' = n.conclude w := by
  cases h with
  | waiting => cases hw
  | @won winner hcomplete hwinner =>
    obtain rfl : w = winner := by simpa using hw
    exact ⟨hcomplete, hwinner, rfl⟩
  | tied => cases hw

theorem Counting.not_vote (h : Counting n n' out) : .vote v ∉ out := by
  cases h with
  | won => simp
  | _ => exact List.not_mem_nil

variable {γ : Type} [WordSource γ] {now : Float} {source : γ}

theorem Ticking.candidates (h : Ticking n now source n' out) (hk : k ∈ n'.candidates) :
    k ∈ n.candidates := by
  cases h with
  | beat => exact hk
  | round _ _ hcast hcount =>
    rcases hcount.round with ⟨heq, -⟩ | ⟨heq, -⟩
    · rw [heq, hcast.candidates] at hk
      exact hk
    · rw [heq] at hk
      exact absurd hk Std.ExtTreeMap.not_mem_empty

theorem Ticking.votes (h : Ticking n now source n' out) (hv : n'.votes[x]? = some v) :
    n.votes[x]? = some v ∨ x = n.id ∧ .vote v ∈ out := by
  cases h with
  | beat => exact .inl hv
  | round _ _ hcast hcount =>
    rcases hcount.round with ⟨-, heq⟩ | ⟨-, heq⟩
    · rw [heq] at hv
      refine (hcast.votes hv).imp_right fun ⟨hx, hmem, _⟩ ↦ ⟨hx, ?_⟩
      exact List.mem_cons_of_mem _ (List.mem_append_left _ hmem)
    · rw [heq, Std.ExtTreeMap.getElem?_empty] at hv
      cases hv

/-- A node votes for somebody who stands. -/
theorem Ticking.of_vote (h : Ticking n now source n' out) (hv : .vote v ∈ out) :
    v ∈ n.candidates := by
  cases h with
  | beat => simp at hv
  | round _ _ hcast hcount =>
    rw [List.mem_cons, or_iff_right Message.noConfusion, List.mem_append,
      or_iff_left hcount.not_vote] at hv
    obtain ⟨candidate, hmem, heq⟩ := hcast.of_mem hv
    exact Message.vote.inj heq ▸ hmem

/-- A result is that of the votes that the heartbeat counts: those from before and perhaps the
node's own new one. -/
theorem Ticking.of_elected (h : Ticking n now source n' out) (hw : .elected w ∈ out) :
    ∃ n₁ ballot, ((n.refresh now).castVote source).1.1 = n₁ ∧ Casting (n.refresh now) n₁ ballot ∧
      n₁.votesComplete = true ∧ IsPlurality n₁.votes.values w ∧ n' = n₁.conclude w := by
  cases h with
  | beat => simp at hw
  | round _ hvoter hcast hcount =>
    rw [List.mem_cons, or_iff_right Message.noConfusion, List.mem_append] at hw
    rcases hw with hw | hw
    · obtain ⟨v, -, heq⟩ := hcast.of_mem hw
      cases heq
    · exact ⟨_, _, hvoter, hcast, hcount.of_elected hw⟩

/-- The record of the node follows its result. -/
theorem Ticking.announces (h : Ticking n now source n' out) (hw : .elected w ∈ out) :
    .heartbeat n'.self ∈ out := by
  cases h with
  | beat => exact List.mem_singleton_self _
  | round _ _ hcast hcount =>
    rw [List.mem_cons, or_iff_right Message.noConfusion, List.mem_append] at hw
    refine List.mem_cons_of_mem _ (List.mem_append_right _ ?_)
    rcases hw with hw | hw
    · obtain ⟨v, -, heq⟩ := hcast.of_mem hw
      cases heq
    · cases hcount with
      | won => exact List.mem_cons_of_mem _ (List.mem_singleton_self _)
      | _ => cases hw

theorem Ticking.elected_unique (h : Ticking n now source n' out) (hv : .elected v ∈ out)
    (hw : .elected w ∈ out) : v = w := by
  obtain ⟨n₁, -, rfl, -, -, hv, -⟩ := h.of_elected hv
  obtain ⟨n₂, -, rfl, -, -, hw, -⟩ := h.of_elected hw
  exact hv.unique hw

theorem Ticking.heartbeat (h : Ticking n now source n' out) : n'.self.heartbeat = now := by
  cases h with
  | beat => rfl
  | round _ _ hcast hcount =>
    have hself := congrArg NodeRecord.heartbeat hcast.view.2
    cases hcount with
    | waiting => exact hself
    | won => exact (conclude_heartbeat _ _).trans hself
    | tied => exact hself

/-- A heartbeat makes a node master only if it announces the node as the winner. -/
theorem Ticking.isMaster (h : Ticking n now source n' out) (hn : n.Sound i)
    (hmaster : n'.self.isMaster = true) : n.self.isMaster = true ∨ .elected i ∈ out := by
  rcases h.flags hn ((h.sound hn).flags_self.mpr hmaster) with hp | ⟨-, hmem⟩
  · exact .inl (hn.flags_self.mp hp)
  · exact .inr hmem

end Node

end HeartbeatMesh

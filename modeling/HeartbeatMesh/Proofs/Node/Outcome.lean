import HeartbeatMesh.Proofs.Node.Earliest
import HeartbeatMesh.Proofs.Node.Participation
import HeartbeatMesh.Proofs.Node.View
import HeartbeatMesh.Proofs.Tally.Outcome

/-!
# The outcome of a heartbeat

A heartbeat renews the record of the node. If a master is known or the round is young, this is all.
Otherwise the node makes sure of its vote (`Casting.of_mem_votes`), and then the numbers decide: the
votes are too few or too many, or they have a winner, or the largest number of votes is shared
(`Counting.cases_of_present`). Each case says the whole state that the node comes into and all that
it publishes.
-/

namespace HeartbeatMesh.Node

variable {γ : Type} [WordSource γ] {n n' : Node} {i : String} {now : Float} {source : γ}
  {ballot result : List Message}

/-- A node whose vote stands when it has been asked for one has voted before, or votes now. -/
theorem Casting.of_mem_votes (h : Casting n n' ballot) (hvoted : n.id ∈ n'.votes) :
    ∃ votes, n' = { n with votes } ∧
      if n.id ∈ n.votes then votes = n.votes ∧ ballot = []
      else ∃ v ∈ n.candidates, votes = n.votes.insert n.id v ∧ ballot = [.vote v] := by
  cases h with
  | held =>
    refine ⟨n.votes, rfl, ?_⟩
    rw [if_pos hvoted]
    exact ⟨rfl, rfl⟩
  | @cast v hfirst hmem =>
    refine ⟨n.votes.insert n.id v, rfl, ?_⟩
    rw [if_neg fun hvoted ↦
      Bool.eq_false_iff.mp hfirst (Std.ExtTreeMap.contains_iff_mem.mpr hvoted)]
    exact ⟨v, Std.ExtTreeMap.mem_keys.mp hmem, rfl, rfl⟩

/-- A node that is not master ends a round as master exactly if it has won. -/
theorem Present.conclude_eq (h : n.Present i) (hmaster : n.self.isMaster = false) (w : String) :
    n.conclude w =
      { n with
        self := { n.self with isMaster := decide (w = i) }
        view := n.view.insert i { n.self with isMaster := decide (w = i) }
        candidates := ∅
        votes := ∅ } := by
  rw [Node.conclude, h.id]
  split_ifs with hw
  · rw [decide_eq_true hw, ← h.id]
    rfl
  · have hself : ({ n.self with isMaster := decide (w = i) } : NodeRecord) = n.self := by
      rw [decide_eq_false hw, ← hmaster]
    have hview : n.view.insert i n.self = n.view := by
      refine Std.ExtTreeMap.ext_getElem? fun k ↦ ?_
      rw [IdMap.getElem?_insert]
      split_ifs with hk
      · rw [← hk, h.own]
      · rfl
    rw [hself, hview]
    rfl

/-- A renewed record has the id of the node and the new time. -/
theorem refresh_eq (hid : n.id = i) (now : Float) :
    n.refresh now =
      { n with
        self := ⟨i, now, n.self.isMaster⟩
        view := n.view.insert i ⟨i, now, n.self.isMaster⟩ } := by
  subst hid
  rfl

/-- A node that knows no master is none. -/
theorem Present.isMaster_eq_false (h : n.Present i) (hmaster : n.masterKnown = false) :
    n.self.isMaster = false := by
  by_contra hself
  rw [masterKnown_iff.mpr ⟨i, n.self, h.own, Bool.not_eq_false _ ▸ hself⟩] at hmaster
  cases hmaster

/-- What the votes come to. -/
theorem Counting.cases_of_present (h : Counting n n' result) (hn : n.Present i)
    (hmaster : n.self.isMaster = false) (hvotes : n.votes ≠ ∅) :
    let complete := n.votes.size = n.candidates.size ∧ n.candidates.size = n.view.size
    ¬complete ∧ n' = n ∧ result = [] ∨
      complete ∧ (∃ w, IsPlurality n.votes.values w ∧
        let own := { n.self with isMaster := decide (w = i) }
        n' = { n with self := own, view := n.view.insert i own, candidates := ∅, votes := ∅ } ∧
          result = [.elected w, .heartbeat own]) ∨
      complete ∧ (∃ a b, a ≠ b ∧ n.votes.values.count a = n.votes.values.count b ∧
          ∀ c, n.votes.values.count c ≤ n.votes.values.count a) ∧
        n' = { n with candidates := ∅, votes := ∅ } ∧ result = [] := by
  intro complete
  have hcomplete : n.votesComplete = decide complete := rfl
  cases h with
  | waiting hopen => exact .inl ⟨of_decide_eq_false (hcomplete ▸ hopen), rfl, rfl⟩
  | @won w hfull hwinner =>
    refine .inr (.inl ⟨of_decide_eq_true (hcomplete ▸ hfull), w, hwinner, ?_⟩)
    rw [hn.conclude_eq hmaster w]
    exact ⟨rfl, rfl⟩
  | tied hfull htie =>
    exact .inr (.inr ⟨of_decide_eq_true (hcomplete ▸ hfull),
      exists_ne_count_eq (mt IdMap.values_eq_nil_iff.mp hvotes) htie, rfl, rfl⟩)

/-- **The outcome of a heartbeat.** Whatever a node has lived through, if the candidacies in its
round have finite times, then one of them is the earliest unless there are none. Let the node `s` be
the one with its own record renewed, in its view as well.

* If `s` knows a master, or nobody stands, or the earliest candidacy is not older than the interval,
  then `s` is what the node becomes, and its record is all that it publishes.
* Otherwise it publishes its record and, if its own vote is missing, a vote for somebody who stands.
  Then the votes, the candidacies and the known nodes are not equally many, and that is all; or they
  are, and somebody has more votes than everybody else: the node announces the winner, shows its
  record once more, which says that it is master exactly if it has won, and drops the round; or they
  are, and two share the largest number of votes: it drops the round and says no more. -/
theorem outcome_of_tick {i : String} {start : Float} {settings : Settings}
    {before : List (Occasion γ)}
    (hfinite : ∀ c ∈ ((new i start settings).live before).candidates.values,
      c.timestamp.isFinite = true) (now : Float) (source : γ) :
    let n := (new i start settings).live before
    let own : NodeRecord := ⟨i, now, n.self.isMaster⟩
    let s : Node := { n with self := own, view := n.view.insert i own }
    let quiet := s.masterKnown = true ∨ n.candidates = ∅ ∨
      ∃ c, n.IsEarliest c ∧ now - c.timestamp ≤ settings.interval
    let n' := (n.tick now source).1.1
    let out := (n.tick now source).1.2
    (n.candidates ≠ ∅ → ∃! c, n.IsEarliest c) ∧
      (quiet → n' = s ∧ out = [.heartbeat own]) ∧
      (¬quiet → ∃ votes ballot,
        (if i ∈ n.votes then votes = n.votes ∧ ballot = []
          else ∃ v ∈ n.candidates, votes = n.votes.insert i v ∧ ballot = [.vote v]) ∧
        let complete := votes.size = n.candidates.size ∧ n.candidates.size = s.view.size
        (¬complete ∧ n' = { s with votes } ∧ out = .heartbeat own :: ballot ∨
          complete ∧ (∃ w, IsPlurality votes.values w ∧
            let own' : NodeRecord := ⟨i, now, decide (w = i)⟩
            n' =
                { s with self := own', view := s.view.insert i own', candidates := ∅, votes := ∅ } ∧
              out = .heartbeat own :: (ballot ++ [.elected w, .heartbeat own'])) ∨
          complete ∧ (∃ a b, a ≠ b ∧ votes.values.count a = votes.values.count b ∧
              ∀ c, votes.values.count c ≤ votes.values.count a) ∧
            n' = { s with candidates := ∅, votes := ∅ } ∧ out = .heartbeat own :: ballot)) := by
  intro n own s quiet n' out
  have hn : n.Present i := (present_new i start settings).live before
  have hs : n.refresh now = s := refresh_eq hn.id now
  have hspresent : s.Present i := hs ▸ hn.refresh now
  have hcomparable := ((listed_new i start settings).live before).comparable hfinite
  have hsettings : n.settings = settings := settings_live _ before
  have hquiet : quiet ↔ s.masterKnown = true ∨ s.votesDue now = false := by
    have hdue : s.votesDue now = n.votesDue now := rfl
    rw [hdue, votesDue_eq_false_iff hcomparable, hsettings]
  have ht : Ticking n now source n' out := n.ticking_tick now source
  -- From here on, all that counts of the heartbeat is which kind of it has taken place.
  generalize n' = n', out = out at ht ⊢
  refine ⟨existsUnique_isEarliest hcomparable, fun hidle ↦ ?_, fun hactive ↦ ?_⟩
  · cases ht with
    | beat => exact ⟨hs, by rw [hs]⟩
    | round hmaster _ _ _ hdue =>
      rw [hs] at hmaster hdue
      rcases hquiet.mp hidle with hknown | hyoung
      · exact absurd (hknown.symm.trans hmaster) (by decide)
      · exact absurd (hyoung.symm.trans hdue) (by decide)
  · cases ht with
    | beat hidle => exact absurd (hquiet.mpr (hs ▸ hidle)) hactive
    | @round n₁ _ ballot result hmaster hvoter hcast hcount hdue =>
      rw [hs] at hmaster hvoter hcast hdue ⊢
      have hvoted : s.id ∈ n₁.votes := hvoter ▸ mem_castVote_votes hdue
      obtain ⟨votes, rfl, hballot⟩ := hcast.of_mem_votes hvoted
      rw [hspresent.id] at hballot hvoted
      -- Its own vote is among them, so a count has an outcome.
      have hvotes : votes ≠ ∅ := by
        rintro rfl
        exact Std.ExtTreeMap.not_mem_empty hvoted
      have hmaster := hspresent.isMaster_eq_false hmaster
      refine ⟨votes, ballot, hballot, ?_⟩
      rcases hcount.cases_of_present ⟨hspresent.id, hspresent.own⟩ hmaster hvotes with
        ⟨hopen, rfl, rfl⟩ | ⟨hfull, w, hwinner, rfl, rfl⟩ | ⟨hfull, hshared, rfl, rfl⟩
      · exact .inl ⟨hopen, rfl, by rw [List.append_nil]⟩
      · exact .inr (.inl ⟨hfull, w, hwinner, rfl, rfl⟩)
      · exact .inr (.inr ⟨hfull, hshared, rfl, by rw [List.append_nil]⟩)

/-- A peer is heard of, stands and votes. The round is young at first; when it is old enough, the
node votes for one of the two. -/
theorem outcome_of_tick_acquainted :
    let n := (new "a" 100 ⟨5, false⟩).live acquainted
    ((∀ c ∈ n.candidates.values, c.timestamp.isFinite = true) ∧ n.IsEarliest ⟨"a", 100⟩) ∧
      (n.tick 103 (⟨#[], 0⟩ : WordCycle)).1.2 = [.heartbeat ⟨"a", 103, false⟩] ∧
      ∃ v ∈ n.candidates, ∃ result, (n.tick 107 (⟨#[], 0⟩ : WordCycle)).1.2
        = .heartbeat ⟨"a", 107, false⟩ :: .vote v :: result := by
  intro n
  have hfinite : ∀ c ∈ n.candidates.values, c.timestamp.isFinite = true := by decide +kernel
  have hearliest : n.IsEarliest ⟨"a", 100⟩ := by
    rw [IsEarliest]
    decide +kernel
  have hfollower : n.self.isMaster = false := by decide +kernel
  have hbeat (now : Float) :
      Message.heartbeat ⟨"a", now, false⟩ = .heartbeat ⟨"a", now, n.self.isMaster⟩ := by
    rw [hfollower]
  obtain ⟨-, hyoung, -⟩ := outcome_of_tick hfinite 103 (⟨#[], 0⟩ : WordCycle)
  obtain ⟨-, -, hold⟩ := outcome_of_tick hfinite 107 (⟨#[], 0⟩ : WordCycle)
  have hn : (new "a" 100 ⟨5, false⟩).live acquainted = n := rfl
  rw [hn] at hyoung hold
  rw [hbeat 103, hbeat 107]
  refine ⟨⟨hfinite, hearliest⟩, ?_, ?_⟩
  · exact (hyoung (.inr (.inr ⟨_, hearliest, by decide +kernel⟩))).2
  · obtain ⟨votes, ballot, hballot, hout⟩ := hold (by
      rintro (hmaster | hempty | ⟨c, ⟨hc, -⟩, hage⟩)
      · exact absurd hmaster (by decide +kernel)
      · exact absurd hempty (by decide +kernel)
      · have hages : ∀ c ∈ n.candidates.values, ¬107 - c.timestamp ≤ 5 := by decide +kernel
        exact hages c hc hage)
    rw [if_neg (by decide +kernel)] at hballot
    obtain ⟨v, hv, -, rfl⟩ := hballot
    refine ⟨v, hv, ?_⟩
    rcases hout with ⟨-, -, hout⟩ | ⟨-, w, -, -, hout⟩ | ⟨-, -, -, hout⟩
    · exact ⟨_, hout⟩
    · exact ⟨_, hout⟩
    · exact ⟨_, hout⟩

end HeartbeatMesh.Node

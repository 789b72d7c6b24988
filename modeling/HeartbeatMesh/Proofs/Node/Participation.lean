import HeartbeatMesh.Proofs.Node.Life

/-!
# Who takes part in a count

A count begins when as many have voted as stand and as are known. The node itself has voted by then,
for somebody who stands (`mem_castVote_votes`). The numbers alone do not say who the others are:
votes and candidacies are taken in from anybody, known or not. They are the same people as soon as
nobody unknown votes or stands (`IdMap.forall_mem_iff`).
-/

namespace HeartbeatMesh.Node

variable {γ : Type} [WordSource γ] {n n' : Node} {i w : String} {now : Float} {source : γ}
  {out : List Message}

/-- In a round that is old enough somebody stands. -/
theorem keys_ne_nil_of_votesDue (h : n.votesDue now = true) : n.candidates.keys ≠ [] := by
  rw [votesDue, earliest?] at h
  cases hvalues : n.candidates.values with
  | nil =>
    rw [hvalues] at h
    cases h
  | cons c cs =>
    have hc : c ∈ n.candidates.values := hvalues ▸ List.mem_cons_self
    obtain ⟨k, hk⟩ := IdMap.mem_values_iff.mp hc
    exact List.ne_nil_of_mem (IdMap.mem_keys_iff.mpr ⟨c, hk⟩)

/-- A node that may vote has voted then. -/
theorem mem_castVote_votes (h : n.votesDue now = true) :
    n.id ∈ (n.castVote source).1.1.votes := by
  rw [castVote]
  split_ifs with hvoted
  · exact Std.ExtTreeMap.contains_iff_mem.mp hvoted
  · obtain ⟨c, hc⟩ := Option.isSome_iff_exists.mp
      (choose_isSome (keys_ne_nil_of_votesDue h) source)
    cases hchoice : choose n.candidates.keys source with
    | mk choice source' =>
      rw [hchoice] at hc
      dsimp only at hc
      subst hc
      exact Std.ExtTreeMap.mem_insert_self

theorem Sound.polled (hn : n.Sound i) (now : Float) (source : γ) :
    (n.polled now source).Sound i :=
  (casting_castVote _ source).sound (hn.refresh now)

/-- What a node that announces a winner has counted. -/
theorem Ticking.polled_of_elected (h : Ticking n now source n' out) (hw : .elected w ∈ out) :
    (n.polled now source).votesComplete = true ∧
      IsPlurality (n.polled now source).votes.values w ∧
      n.id ∈ (n.polled now source).votes := by
  cases h with
  | beat => simp at hw
  | round _ hvoter hcast hcount hdue =>
    rw [List.mem_cons, or_iff_right Message.noConfusion, List.mem_append] at hw
    have hvoted : n.id ∈ (n.polled now source).votes := mem_castVote_votes hdue
    rcases hw with hw | hw
    · obtain ⟨v, -, heq⟩ := hcast.of_mem hw
      cases heq
    · obtain ⟨hcomplete, hwinner, -⟩ := hcount.of_elected hw
      rw [polled, hvoter] at hvoted ⊢
      exact ⟨hcomplete, hwinner, hvoted⟩

/-- **Who has voted when a winner is announced.** Whatever a node has lived through, when it counts
the votes that make it announce `w`,

* as many have voted as stand and as are known;
* the node is among those whom it knows, and it has voted for somebody who stands;
* more votes are for `w` than for anybody else, so somebody has voted for `w`;
* the voters are those who are known unless somebody unknown has voted, and the candidates are those
  who are known unless somebody unknown stands;
* so if nobody unknown votes or stands, they are all the same, and `w` is one of them if all votes
  are for candidates. -/
theorem participation_of_elected {i w : String} {now : Float} {settings : Settings}
    {before : List (Occasion γ)} (hbefore : ∀ o ∈ before, o.IsForeign i) {time : Float} {source : γ}
    (hw : .elected w ∈ (((new i now settings).live before).tick time source).1.2) :
    let n := ((new i now settings).live before).polled time source
    (n.votes.size = n.candidates.size ∧ n.candidates.size = n.view.size) ∧
      (i ∈ n.view ∧ ∃ v, n.votes[i]? = some v ∧ v ∈ n.candidates) ∧
      (IsPlurality n.votes.values w ∧ ∃ x : String, n.votes[x]? = some w) ∧
      (((∀ k, k ∈ n.votes ↔ k ∈ n.view) ↔ ∀ k ∈ n.votes, k ∈ n.view) ∧
        ((∀ k, k ∈ n.candidates ↔ k ∈ n.view) ↔ ∀ k ∈ n.candidates, k ∈ n.view)) ∧
      ((∀ k ∈ n.votes, k ∈ n.view) → (∀ k ∈ n.candidates, k ∈ n.view) →
        (∀ k, (k ∈ n.votes ↔ k ∈ n.view) ∧ (k ∈ n.candidates ↔ k ∈ n.view)) ∧
          ((∀ (x v : String), n.votes[x]? = some v → v ∈ n.candidates) →
            w ∈ n.votes ∧ w ∈ n.candidates ∧ w ∈ n.view)) := by
  intro n
  have hborn : ((new i now settings).live before).Sound i :=
    (sound_new i now settings).live hbefore
  have hn : n.Sound i := hborn.polled time source
  obtain ⟨hcomplete, hwinner, hvoted⟩ :=
    (((new i now settings).live before).ticking_tick time source).polled_of_elected hw
  obtain ⟨hvotes, hcandidates⟩ := of_decide_eq_true hcomplete
  rw [hborn.id] at hvoted
  obtain ⟨v, hv⟩ := IdMap.mem_iff.mp hvoted
  obtain ⟨x, hx⟩ := IdMap.mem_values_iff.mp hwinner.mem
  have hvoters := IdMap.forall_mem_iff (hvotes.trans hcandidates)
  have hstanding := IdMap.forall_mem_iff hcandidates
  refine ⟨⟨hvotes, hcandidates⟩, ⟨IdMap.mem_iff.mpr ⟨_, hn.own⟩, v, hv, hn.ballot v hv⟩,
    ⟨hwinner, x, hx⟩, ⟨hvoters, hstanding⟩, fun hvote hstand ↦ ?_⟩
  have hvoters := hvoters.mpr hvote
  have hstanding := hstanding.mpr hstand
  refine ⟨fun k ↦ ⟨hvoters k, hstanding k⟩, fun hchoice ↦ ?_⟩
  have hwstands : w ∈ n.candidates := hchoice x w hx
  have hwknown : w ∈ n.view := (hstanding w).mp hwstands
  exact ⟨(hvoters w).mpr hwknown, hwstands, hwknown⟩

/-- A peer is heard of, stands and votes. -/
def acquainted : List (Occasion WordCycle) :=
  [.message "b" (.heartbeat ⟨"b", 101, false⟩), .message "b" (.candidacy ⟨"b", 101⟩),
    .message "b" (.vote "a")]

/-- Two nodes that know each other vote for the first one. -/
theorem participation_of_elected_acquainted :
    let n := ((new "a" 100 ⟨5, false⟩).live acquainted).polled 106 (⟨#[], 0⟩ : WordCycle)
    ((∀ o ∈ acquainted, o.IsForeign "a") ∧ .elected "a" ∈
        (((new "a" 100 ⟨5, false⟩).live acquainted).tick 106 (⟨#[], 0⟩ : WordCycle)).1.2) ∧
      (∀ k, (k ∈ n.votes ↔ k ∈ n.view) ∧ (k ∈ n.candidates ↔ k ∈ n.view)) ∧
      "a" ∈ n.votes ∧ "a" ∈ n.candidates ∧ "a" ∈ n.view := by
  intro n
  have hforeign : ∀ o ∈ acquainted, o.IsForeign "a" := by decide
  have helected : .elected "a" ∈
      (((new "a" 100 ⟨5, false⟩).live acquainted).tick 106 (⟨#[], 0⟩ : WordCycle)).1.2 := by
    decide +kernel
  have hvote : ∀ k ∈ n.votes.keys, k ∈ n.view.keys := by decide +kernel
  have hstand : ∀ k ∈ n.candidates.keys, k ∈ n.view.keys := by decide +kernel
  have hchoice : ∀ v ∈ n.votes.values, v ∈ n.candidates := by decide +kernel
  simp only [Std.ExtTreeMap.mem_keys] at hvote hstand
  obtain ⟨-, -, -, -, hsame⟩ := participation_of_elected hforeign helected
  obtain ⟨hall, hwinner⟩ := hsame hvote hstand
  exact ⟨⟨hforeign, helected⟩, hall,
    hwinner fun x v hv ↦ hchoice v (IdMap.mem_values_iff.mpr ⟨x, hv⟩)⟩

/-- The node hears of two peers, two others stand, and two more vote. -/
def strangers : List (Occasion WordCycle) :=
  [.message "b" (.heartbeat ⟨"b", 101, false⟩), .message "e" (.heartbeat ⟨"e", 101, false⟩),
    .message "c" (.candidacy ⟨"c", 100⟩), .message "f" (.candidacy ⟨"f", 100⟩),
    .message "d" (.vote "z"), .message "g" (.vote "z")]

/-- Those who vote, those who stand and those who are known need have nobody in common but the node
itself, and the winner need not be one of them. -/
theorem elected_by_strangers :
    let n := ((new "a" 100 ⟨5, false⟩).live strangers).polled 106 (⟨#[], 0⟩ : WordCycle)
    (∀ o ∈ strangers, o.IsForeign "a") ∧
      .elected "z" ∈ (((new "a" 100 ⟨5, false⟩).live strangers).tick 106
        (⟨#[], 0⟩ : WordCycle)).1.2 ∧
      n.votes.keys = ["a", "d", "g"] ∧ n.candidates.keys = ["a", "c", "f"] ∧
      n.view.keys = ["a", "b", "e"] := by
  decide +kernel

end HeartbeatMesh.Node

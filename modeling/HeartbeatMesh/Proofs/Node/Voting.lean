import HeartbeatMesh.Proofs.Node.Life

/-!
# One vote a round

A node keeps its vote in its own round, under its own id, and nobody else writes there. What stands
there after an occasion is what stood there before, or else the vote that the node has published on
the occasion (`Meeting.ballot`). So the votes that a node publishes until a round ends are what
stands under its id, and that is one vote at most (`ballot_live`).
-/

namespace HeartbeatMesh

/-- The choice of a voter. -/
def Message.choice? : Message → Option String
  | .vote candidate => some candidate
  | _ => none

/-- The choices that are published, in order. -/
def choices (out : List Message) : List String := out.filterMap Message.choice?

@[simp] theorem choices_append (out out' : List Message) :
    choices (out ++ out') = choices out ++ choices out' :=
  List.filterMap_append

namespace Node

variable {n n' : Node} {i v sender : String} {m : Message} {out : List Message}

/-! ## What one occasion does -/

/-- A vote is cast where none stands. -/
theorem Casting.ballot (h : Casting n n' out) (hid : n.id = i) :
    n.votes[i]?.toList ++ choices out = n'.votes[i]?.toList := by
  cases h with
  | held => exact List.append_nil _
  | cast hfirst =>
    rw [hid, Std.ExtTreeMap.contains_eq_isSome_getElem?, Option.isSome_eq_false_iff,
      Option.isNone_iff_eq_none] at hfirst
    rw [hfirst, IdMap.getElem?_insert, if_pos hid]
    rfl

/-- No message makes a node vote, and only a result takes its vote away. -/
theorem Handling.ballot (h : Handling n sender m n' out) (hsender : sender ≠ i) :
    choices out = [] ∧
      if m.isResult then n'.candidates = ∅ ∧ n'.votes = ∅ else n'.votes[i]? = n.votes[i]? := by
  cases h with
  | nominated => exact ⟨rfl, congrArg (·[i]?) (nominate_votes _)⟩
  | voted => exact ⟨rfl, IdMap.getElem?_insert_ne (Ne.symm hsender)⟩
  | concluded =>
    refine ⟨?_, conclude_candidates n _, conclude_votes n _⟩
    split_ifs <;> rfl
  | _ => exact ⟨rfl, rfl⟩

variable {γ : Type} [WordSource γ] {o : Occasion γ} {os : List (Occasion γ)}

/-- **The vote of a node is the one that it publishes.** With what a node publishes on an occasion,
one vote stands under its id at most, and it stands there afterwards unless the round is over. -/
theorem Meeting.ballot (h : Meeting n o n' out) (ho : o.IsForeign i) (hn : n.Sound i) :
    ∃ choice : Option String, n.votes[i]?.toList ++ choices out = choice.toList ∧
      if n.endsRound o then n'.candidates = ∅ ∧ n'.votes = ∅ else n'.votes[i]? = choice := by
  cases h with
  | started => exact ⟨_, List.append_nil _, rfl⟩
  | passed hl =>
    rw [endsRound_unit_of_none hl]
    exact ⟨_, List.append_nil _, rfl⟩
  | @handled _ l _ _ hl h =>
    have hsender : l.sender ≠ i := ho.sender_ne (hn.id ▸ hl)
    obtain ⟨hout, hround⟩ := h.ballot hsender
    rw [endsRound_of_letter? hl, hout]
    exact ⟨_, List.append_nil _, hround⟩
  | @ticked now source _ _ h =>
    obtain ⟨n₁, ballot, result, hcast, rfl, hresult, hround⟩ := h.casting
    have hballot : n.votes[i]?.toList ++ choices ballot = n₁.votes[i]?.toList :=
      hcast.ballot (hn.refresh now).id
    have hchoices : choices (.heartbeat (n.refresh now).self :: (ballot ++ result))
        = choices ballot :=
      filterMap_around_ballot (fun _ ↦ rfl) (fun _ ↦ rfl) hresult
    refine ⟨_, hchoices ▸ hballot, ?_⟩
    rw [endsRound_tick]
    split_ifs at hround ⊢
    · exact hround
    · rw [hround]

/-! ## What a round does -/

/-- The votes that are published while the round goes on are what comes to stand under the id. -/
theorem ballot_live (hn : n.Sound i) (hos : ∀ o ∈ os, o.IsForeign i)
    (hkeep : n.keepsRound os = true) :
    n.votes[i]?.toList ++ choices (n.said os) = (n.live os).votes[i]?.toList := by
  induction os generalizing n with
  | nil => exact List.append_nil _
  | cons o os ih =>
    obtain ⟨ho, hos⟩ := List.forall_mem_cons.mp hos
    obtain ⟨hends, hkeep⟩ := keepsRound_cons.mp hkeep
    have hmeet := n.meeting_meet o
    obtain ⟨choice, hchoice, hround⟩ := hmeet.ballot ho hn
    rw [hends] at hround
    rw [said, choices_append, ← List.append_assoc, hchoice, ← hround]
    exact ih (hmeet.sound ho hn) hos hkeep

/-- The last occasion may be the one that ends the round. -/
theorem length_choices_le (hn : n.Sound i) (hos : ∀ o ∈ os, o.IsForeign i)
    (hkeep : n.keepsRound os = true) (ho : o.IsForeign i) :
    (choices (n.said (os ++ [o]))).length ≤ 1 := by
  obtain ⟨choice, hchoice, -⟩ := ((n.live os).meeting_meet o).ballot ho (hn.live hos)
  rw [← ballot_live hn hos hkeep, List.append_assoc] at hchoice
  have hlength := congrArg List.length hchoice
  rw [List.length_append, List.length_append] at hlength
  have hle : choice.toList.length ≤ 1 := Option.length_toList_le
  rw [said_concat, choices_append, List.length_append]
  omega

/-- What stands under the id is what the node has published last. -/
theorem getLast?_choices (hn : n.Sound i) (hnone : n.votes[i]? = none)
    (hos : ∀ o ∈ os, o.IsForeign i) (hv : (n.live os).votes[i]? = some v) :
    (choices (n.said os)).getLast? = some v := by
  induction os using List.reverseRecOn generalizing v with
  | nil =>
    rw [live_nil, hnone] at hv
    cases hv
  | append_singleton os o ih =>
    rw [List.forall_mem_append, List.forall_mem_singleton] at hos
    obtain ⟨hos, ho⟩ := hos
    obtain ⟨choice, hchoice, hround⟩ := ((n.live os).meeting_meet o).ballot ho (hn.live hos)
    rw [live_concat] at hv
    rw [said_concat, choices_append]
    split_ifs at hround
    · rw [hround.2, Std.ExtTreeMap.getElem?_empty] at hv
      cases hv
    · rw [hround] at hv
      rw [hv, Option.toList_some] at hchoice
      -- The vote has been standing before, or it is published now.
      cases hstood : (n.live os).votes[i]? with
      | none =>
        rw [hstood, Option.toList_none, List.nil_append] at hchoice
        rw [hchoice, List.getLast?_concat]
      | some w =>
        rw [hstood, Option.toList_some, List.singleton_append, List.cons.injEq] at hchoice
        obtain ⟨rfl, hout⟩ := hchoice
        rw [hout, List.append_nil]
        exact ih hos hstood

/-- A vote that stands stays until the round ends. -/
theorem Meeting.vote_stands (h : Meeting n o n' out) (ho : o.IsForeign i) (hn : n.Sound i)
    (hv : n.votes[i]? = some v) :
    if n.endsRound o then n'.candidates = ∅ ∧ n'.votes = ∅
    else n'.votes[i]? = some v ∧ v ∈ n'.candidates := by
  obtain ⟨choice, hchoice, hround⟩ := h.ballot ho hn
  split_ifs at hround ⊢
  · exact hround
  · rw [hv, Option.toList_some, List.singleton_append] at hchoice
    cases choice with
    | none => cases hchoice
    | some w =>
      obtain ⟨rfl, -⟩ := List.cons.inj hchoice
      exact ⟨hround, (h.sound ho hn).ballot v hround⟩

/-- A unit in the name of the node itself is passed over, whatever it holds. -/
theorem onUnit_own {raw : Bytes} {e : Envelope} (hraw : Envelope.parse raw = .ok e)
    (hsender : e.sender = n.id) : n.onUnit raw = (n, []) := by
  rw [onUnit, receive, hraw]
  dsimp only
  rw [if_pos hsender]

/-- **One vote a round, for somebody who stands.** Whatever a node has lived through,

* it publishes one vote at most until its round ends, the occasion that ends it included;
* a vote that stands under its id is for somebody who stands and is the one that it has published
  last, and it stays until the round ends and all candidacies and votes go;
* while its view flags a master, its heartbeats come without a vote;
* a unit in its own name neither changes it nor makes it say anything. -/
theorem one_vote_a_round {i : String} {now : Float} {settings : Settings}
    {before : List (Occasion γ)} (hbefore : ∀ o ∈ before, o.IsForeign i) :
    let born := new i now settings
    let n := born.live before
    (∀ (round : List (Occasion γ)) (last : Occasion γ), (∀ o ∈ round, o.IsForeign i) →
        last.IsForeign i → n.keepsRound round = true →
        (choices (n.said (round ++ [last]))).length ≤ 1) ∧
      (∀ v, n.votes[i]? = some v →
        v ∈ n.candidates ∧ (choices (born.said before)).getLast? = some v ∧
          ∀ o : Occasion γ, o.IsForeign i →
            if n.endsRound o then (n.meet o).1.candidates = ∅ ∧ (n.meet o).1.votes = ∅
            else (n.meet o).1.votes[i]? = some v ∧ v ∈ (n.meet o).1.candidates) ∧
      (n.masterKnown = true → ∀ (now : Float) (source : γ), choices (n.tick now source).1.2 = []) ∧
      ∀ raw e, Envelope.parse raw = .ok e → e.sender = i → n.onUnit raw = (n, []) := by
  intro born n
  have hborn : born.Sound i := sound_new i now settings
  have hn : n.Sound i := hborn.live hbefore
  refine ⟨?_, ?_, ?_, ?_⟩
  · intro round last hround hlast hkeep
    exact length_choices_le hn hround hkeep hlast
  · intro v hv
    refine ⟨hn.ballot v hv, getLast?_choices hborn Std.ExtTreeMap.getElem?_empty hbefore hv, ?_⟩
    intro o ho
    exact (n.meeting_meet o).vote_stands ho hn hv
  · intro hmaster now source
    obtain ⟨p, hp⟩ := masterKnown_iff.mp hmaster
    rw [((n.ticking_tick now source).silent hn hp).2]
    rfl
  · intro raw e hraw hsender
    exact onUnit_own hraw (hsender.trans hn.id.symm)

/-- A node with one peer votes, and then its own vote comes back to it with another choice. -/
def votingOfTwo : List (Occasion WordCycle) :=
  [.startup "r", .unit (Letter.unit ⟨"b", .heartbeat ⟨"b", 101, false⟩⟩),
    .unit (Letter.unit ⟨"b", .candidacy ⟨"b", 101⟩⟩), .tick 106 ⟨#[], 0⟩,
    .unit (Letter.unit ⟨"a", .vote "b"⟩)]

/-- The vote for `"a"` stands, and it stays until the peer has voted and the votes are counted. -/
theorem one_vote_a_round_votingOfTwo :
    let n := (new "a" 100 ⟨5, false⟩).live votingOfTwo
    let round : List (Occasion WordCycle) := [.tick 111 ⟨#[], 0⟩, .message "b" (.vote "b")]
    (∀ o ∈ votingOfTwo, o.IsForeign "a") ∧ n.votes["a"]? = some "a" ∧ "a" ∈ n.candidates ∧
      (choices ((new "a" 100 ⟨5, false⟩).said votingOfTwo)).getLast? = some "a" ∧
      n.keepsRound round = true ∧
      (choices (n.said (round ++ [.tick 116 ⟨#[], 0⟩]))).length ≤ 1 := by
  intro n round
  have hforeign : ∀ o ∈ votingOfTwo, o.IsForeign "a" := by decide +kernel
  have hvote : n.votes["a"]? = some "a" := by decide +kernel
  have hkeep : n.keepsRound round = true := by decide +kernel
  obtain ⟨hone, hstands, -, -⟩ :=
    @one_vote_a_round WordCycle _ "a" 100 ⟨5, false⟩ votingOfTwo hforeign
  obtain ⟨hmem, hlast, -⟩ := hstands "a" hvote
  exact ⟨hforeign, hvote, hmem, hlast, hkeep, hone round _ (by decide) trivial hkeep⟩

end Node

end HeartbeatMesh

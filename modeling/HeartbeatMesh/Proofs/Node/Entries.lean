import HeartbeatMesh.Proofs.Node.Candidacy
import HeartbeatMesh.Proofs.Node.Participation
import HeartbeatMesh.Proofs.Node.Voting

/-!
# What stands in a round

The round of a node is kept by others as much as by itself: somebody else's vote stands as it came
last, under the sender, and so does a candidacy, under the id that it names. An occasion that does
not end the round writes what it brings and leaves everything else alone (`Meeting.entries`,
`Meeting.keeps`), and one that ends it leaves nothing (`Meeting.cleared`). So the entries of others
can be read off what has come since the last end of a round (`entries_of_round`).
-/

namespace HeartbeatMesh

/-- The choice of the voter `x` that the letter brings. -/
def Letter.ballot? (x : String) (l : Letter) : Option String :=
  if l.sender = x then l.message.choice? else none

namespace Occasion

variable {γ : Type}

/-- The choice of the voter `x` that the node `i` takes in on the occasion. -/
def voteOf? (i x : String) (o : Occasion γ) : Option String := (o.letter? i).bind (·.ballot? x)

/-- The dated candidacy of `x` that the node `i` takes in on the occasion. -/
def candidacyOf? (i x : String) (o : Occasion γ) : Option Candidacy :=
  (o.letter? i).bind (·.message.putUp? x)

end Occasion

namespace Node

variable {n n' : Node} {i x sender : String} {m : Message} {out : List Message}

/-! ## What one occasion does -/

/-- A message that is no result writes the vote of its sender, or the candidacy that it holds. -/
theorem Handling.entries (h : Handling n sender m n' out) (hx : x ≠ n.id)
    (hresult : m.isResult = false) :
    n'.votes[x]? = ((⟨sender, m⟩ : Letter).ballot? x).or n.votes[x]? ∧
      n'.candidates[x]? = (m.putUp? x).or n.candidates[x]? := by
  -- Most messages hold neither.
  have hnone (hchoice : m.choice? = none) : (⟨sender, m⟩ : Letter).ballot? x = none := by
    rw [Letter.ballot?, hchoice, ite_self]
  cases h with
  | nominated =>
    rw [hnone rfl, nominate_votes, getElem?_nominate_candidates]
    exact ⟨rfl, if_neg hx⟩
  | stood hfinite =>
    rw [hnone rfl]
    exact ⟨rfl, getElem?_insert_candidacy hfinite x⟩
  | undated hfinite =>
    rw [hnone rfl, putUp?_of_undated hfinite]
    exact ⟨rfl, rfl⟩
  | @voted candidate =>
    refine ⟨?_, rfl⟩
    change (n.votes.insert sender candidate)[x]?
      = (if sender = x then some candidate else none).or _
    rw [IdMap.getElem?_insert]
    split_ifs <;> rfl
  | concluded => cases hresult
  | _ =>
    rw [hnone rfl]
    exact ⟨rfl, rfl⟩

/-- A message that is no result takes nothing away. -/
theorem Handling.keeps (h : Handling n sender m n' out) (hresult : m.isResult = false) :
    (∀ k ∈ n.votes, k ∈ n'.votes) ∧ ∀ k ∈ n.candidates, k ∈ n'.candidates := by
  cases h with
  | nominated =>
    rw [nominate_votes]
    exact ⟨fun _ hk ↦ hk, fun _ hk ↦ mem_nominate_candidates.mpr (.inr hk)⟩
  | stood => exact ⟨fun _ hk ↦ hk, fun _ hk ↦ Std.ExtTreeMap.mem_insert.mpr (.inr hk)⟩
  | voted => exact ⟨fun _ hk ↦ Std.ExtTreeMap.mem_insert.mpr (.inr hk), fun _ hk ↦ hk⟩
  | concluded => cases hresult
  | _ => exact ⟨fun _ hk ↦ hk, fun _ hk ↦ hk⟩

variable {γ : Type} [WordSource γ] {now : Float} {source : γ} {o : Occasion γ}
  {os : List (Occasion γ)}

/-- A heartbeat that counts nothing casts a vote at most. -/
theorem Ticking.casting_of_open (h : Ticking n now source n' out)
    (hopen : n.countsVotes now source = false) :
    ∃ ballot, Casting (n.refresh now) n' ballot := by
  obtain ⟨n₁, ballot, result, hcast, -, -, hround⟩ := h.casting
  rw [hopen, if_neg Bool.false_ne_true] at hround
  exact ⟨ballot, hround ▸ hcast⟩

/-- The end of a round leaves no candidacy and no vote. -/
theorem Meeting.cleared (h : Meeting n o n' out) (hends : n.endsRound o = true) :
    n'.candidates = ∅ ∧ n'.votes = ∅ := by
  cases h with
  | started => cases hends
  | passed hl =>
    rw [endsRound_unit_of_none hl] at hends
    cases hends
  | @handled _ l _ _ hl h =>
    rw [endsRound_of_letter? hl] at hends
    generalize l.message = m at hends h
    cases h with
    | concluded => exact ⟨conclude_candidates n _, conclude_votes n _⟩
    | _ => cases hends
  | ticked h =>
    obtain ⟨_, _, _, -, -, -, hround⟩ := h.casting
    rw [endsRound_tick] at hends
    rwa [hends, if_pos rfl] at hround

/-- **What an occasion does to the round.** Until the round ends, the vote and the candidacy of
somebody else are those that come now, or else those that have stood before. -/
theorem Meeting.entries (h : Meeting n o n' out) (hx : x ≠ n.id) (hends : n.endsRound o = false) :
    n'.votes[x]? = (o.voteOf? n.id x).or n.votes[x]? ∧
      n'.candidates[x]? = (o.candidacyOf? n.id x).or n.candidates[x]? := by
  cases h with
  | started => exact ⟨rfl, rfl⟩
  | passed hl =>
    rw [Occasion.voteOf?, Occasion.candidacyOf?, hl]
    exact ⟨rfl, rfl⟩
  | handled hl h =>
    rw [endsRound_of_letter? hl] at hends
    rw [Occasion.voteOf?, Occasion.candidacyOf?, hl]
    exact h.entries hx hends
  | ticked h =>
    obtain ⟨ballot, hcast⟩ := h.casting_of_open hends
    rw [hcast.candidates]
    refine ⟨?_, rfl⟩
    cases hcast with
    | held => rfl
    | cast => exact IdMap.getElem?_insert_ne hx

/-- Until the round ends nobody's vote or candidacy goes. -/
theorem Meeting.keeps (h : Meeting n o n' out) (hends : n.endsRound o = false) :
    (∀ k ∈ n.votes, k ∈ n'.votes) ∧ ∀ k ∈ n.candidates, k ∈ n'.candidates := by
  cases h with
  | started => exact ⟨fun _ hk ↦ hk, fun _ hk ↦ hk⟩
  | passed => exact ⟨fun _ hk ↦ hk, fun _ hk ↦ hk⟩
  | handled hl h =>
    rw [endsRound_of_letter? hl] at hends
    exact h.keeps hends
  | ticked h =>
    obtain ⟨ballot, hcast⟩ := h.casting_of_open hends
    rw [hcast.candidates]
    refine ⟨fun k hk ↦ ?_, fun k hk ↦ hk⟩
    cases hcast with
    | held => exact hk
    | cast => exact Std.ExtTreeMap.mem_insert.mpr (.inr hk)

/-- A count has an outcome, since the node itself has voted by then. -/
theorem tally_isSome_of_countsVotes (h : n.countsVotes now source = true) :
    (tally (n.polled now source).votes.values).isSome := by
  rw [countsVotes, Bool.and_eq_true, Bool.and_eq_true] at h
  obtain ⟨⟨-, hdue⟩, -⟩ := h
  have hvoted : (n.refresh now).id ∈ (n.polled now source).votes := mem_castVote_votes hdue
  obtain ⟨v, hv⟩ := IdMap.mem_iff.mp hvoted
  exact tally_isSome (List.ne_nil_of_mem (IdMap.mem_values_iff.mpr ⟨_, hv⟩))

/-! ## What a round does -/

/-- The occasions since the last end of a round: the longest end of the list on which no occasion
ends the round. -/
def openRound (n : Node) : List (Occasion γ) → List (Occasion γ)
  | [] => []
  | o :: os => if n.keepsRound (o :: os) then o :: os else (n.meet o).1.openRound os

/-- With an end a new round begins, and any other occasion belongs to the round that is open. -/
theorem openRound_concat (n : Node) (os : List (Occasion γ)) (o : Occasion γ) :
    n.openRound (os ++ [o]) = if (n.live os).endsRound o then [] else n.openRound os ++ [o] := by
  induction os generalizing n with
  | nil =>
    rw [List.nil_append, live_nil, openRound, openRound, keepsRound_singleton]
    cases n.endsRound o <;> rfl
  | cons o' os ih =>
    rw [List.cons_append, openRound, ← List.cons_append, keepsRound_concat, ih, openRound,
      live_cons]
    cases n.keepsRound (o' :: os) <;> cases ((n.meet o').1.live os).endsRound o <;> rfl

/-- Between two ends of a round the entries are those of the last letters that hold one. -/
theorem entries_live (hx : x ≠ i) (now : Float) (settings : Settings) (os : List (Occasion γ)) :
    ((new i now settings).live os).votes[x]?
        = (((new i now settings).openRound os).filterMap (·.voteOf? i x)).getLast? ∧
      ((new i now settings).live os).candidates[x]?
        = (((new i now settings).openRound os).filterMap (·.candidacyOf? i x)).getLast? := by
  induction os using List.reverseRecOn with
  | nil => exact ⟨Std.ExtTreeMap.getElem?_empty, Std.ExtTreeMap.getElem?_empty⟩
  | append_singleton os o ih =>
    have hid : ((new i now settings).live os).id = i := ((present_new i now settings).live os).id
    have hmeet := ((new i now settings).live os).meeting_meet o
    rw [live_concat, openRound_concat]
    cases hends : ((new i now settings).live os).endsRound o with
    | true =>
      obtain ⟨hcandidates, hvotes⟩ := hmeet.cleared hends
      rw [hcandidates, hvotes]
      exact ⟨Std.ExtTreeMap.getElem?_empty, Std.ExtTreeMap.getElem?_empty⟩
    | false =>
      obtain ⟨hvotes, hcandidates⟩ := hmeet.entries (hid ▸ hx) hends
      rw [if_neg Bool.false_ne_true, hvotes, hcandidates, hid, ih.1, ih.2,
        getLast?_filterMap_concat, getLast?_filterMap_concat]
      exact ⟨rfl, rfl⟩

/-- **A round holds what has come in it.** Whatever a node `i` has lived through,

* the vote of another id `x` is the one that has come last from `x` since the last end of a round,
  and the candidacy of `x` is the last dated one that anybody has put up since then;
* an occasion that ends the round leaves no vote and no candidacy;
* any other occasion takes nothing away from either, and of the entries of `x` it changes only those
  that it brings;
* a heartbeat that ends the round has counted a winner or a tie. -/
theorem entries_of_round {i x : String} (hx : x ≠ i) (now : Float) (settings : Settings)
    (os : List (Occasion γ)) :
    let born := new i now settings
    let n := born.live os
    (n.votes[x]? = ((born.openRound os).filterMap (·.voteOf? i x)).getLast? ∧
        n.candidates[x]? = ((born.openRound os).filterMap (·.candidacyOf? i x)).getLast?) ∧
      (∀ o : Occasion γ, n.endsRound o = true →
        born.openRound (os ++ [o]) = [] ∧ (n.meet o).1.candidates = ∅ ∧ (n.meet o).1.votes = ∅) ∧
      (∀ o : Occasion γ, n.endsRound o = false →
        born.openRound (os ++ [o]) = born.openRound os ++ [o] ∧
          ((n.meet o).1.votes[x]? = (o.voteOf? i x).or n.votes[x]? ∧
            (n.meet o).1.candidates[x]? = (o.candidacyOf? i x).or n.candidates[x]?) ∧
          (∀ k ∈ n.votes, k ∈ (n.meet o).1.votes) ∧
          ∀ k ∈ n.candidates, k ∈ (n.meet o).1.candidates) ∧
      ∀ (time : Float) (source : γ), n.endsRound (.tick time source) = true →
        (tally (n.polled time source).votes.values).isSome := by
  intro born n
  have hid : n.id = i := ((present_new i now settings).live os).id
  refine ⟨?_, fun o hends ↦ ?_, fun o hends ↦ ?_, fun time source hends ↦ ?_⟩
  · exact entries_live hx now settings os
  · refine ⟨?_, (n.meeting_meet o).cleared hends⟩
    rw [openRound_concat, if_pos hends]
  · refine ⟨?_, ?_, (n.meeting_meet o).keeps hends⟩
    · rw [openRound_concat, if_neg (Bool.eq_false_iff.mp hends)]
    · rw [← hid]
      exact (n.meeting_meet o).entries (hid ▸ hx) hends
  · exact tally_isSome_of_countsVotes hends

/-- A round ends with an announcement. In the next one `"b"` votes twice, `"c"` puts `"b"` up, a
unit of the node itself comes back, another one cannot be read, and the node votes. -/
def nextRound : List (Occasion WordCycle) :=
  [.message "b" (.vote "b"), .message "b" (.candidacy ⟨"b", 90⟩), .message "d" (.elected "z"),
    .unit (Letter.unit ⟨"b", .vote "c"⟩), .message "c" (.candidacy ⟨"b", 95⟩),
    .unit (Letter.unit ⟨"b", .vote "d"⟩), .unit (Letter.unit ⟨"a", .vote "c"⟩), .unit [],
    .tick 106 ⟨#[], 0⟩]

/-- Of the round before the announcement nothing is left, and nothing of this one after the next. -/
theorem entries_of_round_nextRound :
    let n := (new "a" 100 ⟨5, false⟩).live nextRound
    let next : Occasion WordCycle := .message "c" (.elected "c")
    "b" ≠ "a" ∧ n.votes["b"]? = some "d" ∧ n.candidates["b"]? = some ⟨"b", 95⟩ ∧
      n.endsRound next = true ∧ (n.meet next).1.votes = ∅ := by
  intro n next
  have hx : "b" ≠ "a" := by decide
  have hends : n.endsRound next = true := rfl
  have hvotes : ((new "a" 100 ⟨5, false⟩).openRound nextRound).filterMap (·.voteOf? "a" "b")
      = ["c", "d"] := by decide +kernel
  have hcandidacies :
      ((new "a" 100 ⟨5, false⟩).openRound nextRound).filterMap (·.candidacyOf? "a" "b")
        = [⟨"b", 95⟩] := by decide +kernel
  obtain ⟨⟨hvote, hcandidacy⟩, hcleared, -, -⟩ := entries_of_round hx 100 ⟨5, false⟩ nextRound
  rw [hvotes] at hvote
  rw [hcandidacies] at hcandidacy
  exact ⟨hx, hvote, hcandidacy, hends, (hcleared next hends).2.2⟩

end Node

end HeartbeatMesh

import HeartbeatMesh.Proofs.Node.Life

/-!
# The candidacy of a node

A node stands with the time of the heartbeat before its nomination, and it announces what stands
under its id (`Meeting.candidacy`). While a round goes on, its own steps leave the candidacy alone.
But a candidacy is taken in under the id that it names, whoever sends it, so a peer can put up the
node itself. Then the candidacy of the peer takes the place of the node's own (`candidacy_live`).
-/

namespace HeartbeatMesh

/-- The candidacy that a message announces. -/
def Message.candidacy? : Message → Option Candidacy
  | .candidacy c => some c
  | _ => none

/-- The candidacies that are published, in order. -/
def candidacies (out : List Message) : List Candidacy := out.filterMap Message.candidacy?

@[simp] theorem candidacies_append (out out' : List Message) :
    candidacies (out ++ out') = candidacies out ++ candidacies out' :=
  List.filterMap_append

/-- The dated candidacy that a message puts up for the node `i`. -/
def Message.putUp? (i : String) (m : Message) : Option Candidacy :=
  m.candidacy?.filter fun c ↦ c.nodeId = i ∧ c.timestamp.isFinite

/-- A dated candidacy stands under the id that it names. -/
theorem getElem?_insert_candidacy {candidates : IdMap Candidacy} {c : Candidacy}
    (hdated : c.timestamp.isFinite = true) (x : String) :
    (candidates.insert c.nodeId c)[x]? = ((Message.candidacy c).putUp? x).or candidates[x]? := by
  change _ = (Option.filter _ (some c)).or _
  rw [IdMap.getElem?_insert, Option.filter_some]
  by_cases hname : c.nodeId = x <;> simp [hname, hdated]

theorem putUp?_of_undated {c : Candidacy} (hundated : c.timestamp.isFinite = false) (x : String) :
    (Message.candidacy c).putUp? x = none := by
  change Option.filter _ (some c) = none
  simp [Option.filter_some, hundated]

/-- The candidacy that somebody puts up for the node `i` on the occasion. -/
def Occasion.putUp? {γ : Type} (i : String) (o : Occasion γ) : Option Candidacy :=
  (o.letter? i).bind (·.message.putUp? i)

namespace Node

variable {n n' : Node} {i sender : String} {m : Message} {c : Candidacy} {out : List Message}

/-! ## What one occasion does -/

theorem nominate_snd (n : Node) :
    n.nominate.2 = (n.candidates[n.id]?).getD ⟨n.id, n.self.heartbeat⟩ := by
  rw [nominate]
  split
  · rename_i c hc
    rw [hc]
    rfl
  · rename_i hnone
    rw [hnone]
    rfl

/-- What a message does to the candidacy of the node, and what the node announces then. -/
theorem Handling.candidacy (h : Handling n sender m n' out) (hid : n.id = i) :
    (∀ c ∈ candidacies out, m.putUp? i = none ∧ n'.candidates[i]? = some c) ∧
      if m.isResult then n'.candidates = ∅
      else n'.candidates[i]? = (m.putUp? i).or n.candidates[i]? ∨
        n.candidates[i]? = none ∧ m.putUp? i = none ∧
          n'.candidates[i]? = some ⟨i, n.self.heartbeat⟩ := by
  cases h with
  | @nominated r =>
    have hstands : (n.learn r).nominate.1.candidates[i]? = some (n.learn r).nominate.2 := by
      rw [getElem?_nominate_candidates]
      exact if_pos hid.symm
    have hself : (n.learn r).nominate.2 = (n.candidates[i]?).getD ⟨i, n.self.heartbeat⟩ :=
      hid ▸ nominate_snd (n.learn r)
    refine ⟨fun c hc ↦ ⟨rfl, ?_⟩, ?_⟩
    · rw [hstands, List.mem_singleton.mp hc]
    · change _ = n.candidates[i]? ∨ _
      rw [hstands, hself]
      cases n.candidates[i]? with
      | none => exact .inr ⟨rfl, rfl, rfl⟩
      | some c => exact .inl rfl
  | stood hfinite =>
    exact ⟨fun _ hc ↦ absurd hc List.not_mem_nil, .inl (getElem?_insert_candidacy hfinite i)⟩
  | undated hfinite =>
    rw [putUp?_of_undated hfinite]
    exact ⟨fun _ hc ↦ absurd hc List.not_mem_nil, .inl rfl⟩
  | concluded =>
    refine ⟨fun c hc ↦ ?_, conclude_candidates n _⟩
    split_ifs at hc <;> cases hc
  | _ => exact ⟨fun _ hc ↦ absurd hc List.not_mem_nil, .inl rfl⟩

theorem Casting.candidacies (h : Casting n n' out) : candidacies out = [] := by
  cases h <;> rfl

variable {γ : Type} [WordSource γ] {o last : Occasion γ} {os : List (Occasion γ)}

/-- **A node announces the candidacy that stands under its id.** Until the round ends, that is the
one that somebody has put up on the occasion, or else the one that stood before, or else a new one
with the time of the node's last heartbeat. -/
theorem Meeting.candidacy (h : Meeting n o n' out) (hid : n.id = i) :
    (∀ c ∈ candidacies out, o.putUp? i = none ∧ n'.candidates[i]? = some c) ∧
      if n.endsRound o then n'.candidates = ∅
      else n'.candidates[i]? = (o.putUp? i).or n.candidates[i]? ∨
        n.candidates[i]? = none ∧ o.putUp? i = none ∧
          n'.candidates[i]? = some ⟨i, n.self.heartbeat⟩ := by
  cases h with
  | started => exact ⟨fun _ hc ↦ absurd hc List.not_mem_nil, .inl rfl⟩
  | passed hl =>
    rw [endsRound_unit_of_none hl, Occasion.putUp?, ← hid, hl]
    exact ⟨fun _ hc ↦ absurd hc List.not_mem_nil, .inl rfl⟩
  | handled hl h =>
    rw [endsRound_of_letter? hl, Occasion.putUp?, ← hid, hl]
    exact h.candidacy rfl
  | @ticked now source _ _ h =>
    obtain ⟨n₁, ballot, result, hcast, rfl, hresult, hround⟩ := h.casting
    have hout : candidacies (.heartbeat (n.refresh now).self :: (ballot ++ result))
        = candidacies ballot :=
      filterMap_around_ballot (fun _ ↦ rfl) (fun _ ↦ rfl) hresult
    rw [hout, hcast.candidacies, endsRound_tick]
    refine ⟨fun _ hc ↦ absurd hc List.not_mem_nil, ?_⟩
    split_ifs at hround ⊢
    · exact hround.1
    · rw [hround, hcast.candidates]
      exact .inl rfl

/-- While the round goes on, a candidacy gives way to one that somebody else puts up, and to
nothing else. -/
theorem Meeting.candidacy_stands (h : Meeting n o n' out) (hid : n.id = i)
    (hends : n.endsRound o = false) (hc : n.candidates[i]? = some c) :
    n'.candidates[i]? = some ((o.putUp? i).getD c) := by
  have hround := (h.candidacy hid).2
  rw [hends, if_neg Bool.false_ne_true, hc] at hround
  rcases hround with hround | ⟨hnone, -⟩
  · rw [hround]
    cases o.putUp? i <;> rfl
  · cases hnone

/-- What a node announces while its candidacy stands is this candidacy. -/
theorem Meeting.eq_of_mem_candidacies (h : Meeting n o n' out) (hid : n.id = i)
    (hc : n.candidates[i]? = some c) : ∀ c' ∈ candidacies out, c' = c := by
  intro c' hc'
  obtain ⟨hannounced, hround⟩ := h.candidacy hid
  obtain ⟨hput, hstands⟩ := hannounced c' hc'
  split_ifs at hround with hends
  · rw [hround, Std.ExtTreeMap.getElem?_empty] at hstands
    cases hstands
  · rw [h.candidacy_stands hid (Bool.eq_false_iff.mpr hends) hc, hput] at hstands
    exact (Option.some.inj hstands).symm

/-! ## What a round does -/

/-- The candidacy that stands when a round has gone on is the last one that somebody has put up, or
else the one that stood at first. -/
theorem candidacy_live (hn : n.Sound i) (hos : ∀ o ∈ os, o.IsForeign i)
    (hkeep : n.keepsRound os = true) (hc : n.candidates[i]? = some c) :
    (n.live os).candidates[i]? = some ((os.filterMap (·.putUp? i)).getLast?.getD c) := by
  induction os generalizing n c with
  | nil => exact hc
  | cons o os ih =>
    obtain ⟨ho, hos⟩ := List.forall_mem_cons.mp hos
    obtain ⟨hends, hkeep⟩ := keepsRound_cons.mp hkeep
    have hmeet := n.meeting_meet o
    have hlive := ih (hmeet.sound ho hn) hos hkeep (hmeet.candidacy_stands hn.id hends hc)
    rw [live_cons, hlive, List.filterMap_cons]
    cases o.putUp? i with
    | none => rfl
    | some d =>
      rw [List.getLast?_cons]
      rfl

/-- If nobody else puts the node up, all that it announces in a round is the candidacy that stands.
The last occasion may be the one that ends the round. -/
theorem eq_of_mem_candidacies_said (hn : n.Sound i) (hos : ∀ o ∈ os, o.IsForeign i)
    (hkeep : n.keepsRound os = true) (hput : ∀ o ∈ os, o.putUp? i = none)
    (hc : n.candidates[i]? = some c) : ∀ c' ∈ candidacies (n.said (os ++ [last])), c' = c := by
  induction os generalizing n with
  | nil =>
    rw [List.nil_append, said, said, List.append_nil]
    exact (n.meeting_meet last).eq_of_mem_candidacies hn.id hc
  | cons o os ih =>
    obtain ⟨ho, hos⟩ := List.forall_mem_cons.mp hos
    obtain ⟨hnone, hput⟩ := List.forall_mem_cons.mp hput
    obtain ⟨hends, hkeep⟩ := keepsRound_cons.mp hkeep
    have hmeet := n.meeting_meet o
    have hstands := hmeet.candidacy_stands hn.id hends hc
    rw [hnone] at hstands
    intro c' hc'
    rw [List.cons_append, said, candidacies_append, List.mem_append] at hc'
    rcases hc' with hc' | hc'
    · exact hmeet.eq_of_mem_candidacies hn.id hc c' hc'
    · exact ih (hmeet.sound ho hn) hos hkeep hput hstands c' hc'

/-- **The candidacy of a round.** Whatever a node has lived through,

* a candidacy that comes to stand under its id, without anybody else putting the node up, is of the
  node itself and has the time of its last heartbeat;
* what it announces on an occasion stands under its id afterwards;
* until the round ends, the candidacy gives way to those that others put up under the id of the
  node, and to nothing else;
* so if nobody else puts the node up, then one and the same candidacy stands and is announced until
  the round ends. -/
theorem candidacy_of_round {i : String} {now : Float} {settings : Settings}
    {before : List (Occasion γ)} (hbefore : ∀ o ∈ before, o.IsForeign i) :
    let n := (new i now settings).live before
    (∀ (o : Occasion γ) (c : Candidacy), o.putUp? i = none → n.candidates[i]? = none →
        (n.meet o).1.candidates[i]? = some c → c = ⟨i, n.self.heartbeat⟩) ∧
      (∀ o : Occasion γ, ∀ c ∈ candidacies (n.meet o).2, (n.meet o).1.candidates[i]? = some c) ∧
      ∀ c, n.candidates[i]? = some c → ∀ round : List (Occasion γ), (∀ o ∈ round, o.IsForeign i) →
        n.keepsRound round = true →
        (n.live round).candidates[i]?
            = some ((round.filterMap (·.putUp? i)).getLast?.getD c) ∧
          ((∀ o ∈ round, o.putUp? i = none) →
            (n.live round).candidates[i]? = some c ∧
            ∀ last : Occasion γ, ∀ c' ∈ candidacies (n.said (round ++ [last])), c' = c) := by
  intro n
  have hn : n.Sound i := (sound_new i now settings).live hbefore
  refine ⟨?_, ?_, ?_⟩
  · intro o c hput hnone hc
    have hround := ((n.meeting_meet o).candidacy hn.id).2
    split_ifs at hround
    · rw [hround, Std.ExtTreeMap.getElem?_empty] at hc
      cases hc
    · rw [hput, hnone, hc] at hround
      rcases hround with hround | ⟨-, -, hround⟩
      · cases hround
      · exact Option.some.inj hround
  · intro o c hc
    exact (((n.meeting_meet o).candidacy hn.id).1 c hc).2
  · intro c hc round hround hkeep
    have hlive := candidacy_live hn hround hkeep hc
    refine ⟨hlive, fun hput ↦ ⟨?_, fun last ↦ ?_⟩⟩
    · rw [hlive, List.filterMap_eq_nil_iff.mpr hput]
      rfl
    · exact eq_of_mem_candidacies_said hn hround hkeep hput hc

/-- The node hears of a peer, and stands. -/
def standing : List (Occasion WordCycle) := [.message "b" (.heartbeat ⟨"b", 101, false⟩)]

/-- A heartbeat and further peers leave the candidacy alone. -/
theorem candidacy_of_round_standing :
    let n := (new "a" 100 ⟨5, false⟩).live standing
    let round : List (Occasion WordCycle) :=
      [.tick 103 ⟨#[], 0⟩, .message "c" (.candidacy ⟨"c", 102⟩)]
    let last : Occasion WordCycle := .message "c" (.heartbeat ⟨"c", 104, false⟩)
    (∀ o ∈ standing, o.IsForeign "a") ∧ n.candidates["a"]? = some ⟨"a", 100⟩ ∧
      n.keepsRound round = true ∧ (n.live round).candidates["a"]? = some ⟨"a", 100⟩ ∧
      candidacies (n.said (round ++ [last])) ≠ [] ∧
      ∀ c ∈ candidacies (n.said (round ++ [last])), c = ⟨"a", 100⟩ := by
  intro n round last
  have hforeign : ∀ o ∈ standing, o.IsForeign "a" := by decide
  have hstands : n.candidates["a"]? = some ⟨"a", 100⟩ := by decide +kernel
  have hkeep : n.keepsRound round = true := by decide +kernel
  have hput : ∀ o ∈ round, o.putUp? "a" = none := by decide +kernel
  obtain ⟨-, -, hround⟩ := @candidacy_of_round WordCycle _ "a" 100 ⟨5, false⟩ standing hforeign
  obtain ⟨-, hfixed⟩ := hround ⟨"a", 100⟩ hstands round (by decide) hkeep
  obtain ⟨hlive, hsaid⟩ := hfixed hput
  exact ⟨hforeign, hstands, hkeep, hlive, by decide +kernel, hsaid last⟩

/-- A peer puts the node up with another time, and the node announces the candidacy of the peer as
its own. -/
theorem candidacy_replaced :
    let n := (new "a" 100 ⟨5, false⟩).live standing
    let round : List (Occasion WordCycle) := [.message "b" (.candidacy ⟨"a", 50⟩)]
    let last : Occasion WordCycle := .message "c" (.heartbeat ⟨"c", 102, false⟩)
    candidacies ((new "a" 100 ⟨5, false⟩).said standing) = [⟨"a", 100⟩] ∧
      n.candidates["a"]? = some ⟨"a", 100⟩ ∧
      (∀ o ∈ round ++ [last], o.IsForeign "a") ∧ n.keepsRound (round ++ [last]) = true ∧
      (n.live round).candidates["a"]? = some ⟨"a", 50⟩ ∧
      candidacies (n.said (round ++ [last])) = [⟨"a", 50⟩] := by
  decide +kernel

end Node

end HeartbeatMesh

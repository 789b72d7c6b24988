import HeartbeatMesh.Proofs.Mesh.Mastership
import HeartbeatMesh.Proofs.Node.Ballot

/-!
# What elections are made of

A master has been announced as a winner, the winner has been voted for, and whoever has been voted
for has stood. The links of this chain are letters of different nodes, and each of them is tied to
an earlier one by what the node that published it had in its round at that time (`Founded`): whoever
stands there has published a candidacy, and the votes of others there have been published by them.

Units may be lost and nodes may stop. A link that has been published stays published.
-/

namespace HeartbeatMesh.Chronicle

variable {γ : Type} {c c' : Chronicle γ} {i k v : String}

/-- One of the letters is the candidacy of the node, published by itself. -/
def HasStood (published : List Letter) (k : String) : Prop :=
  ∃ d : Candidacy, d.nodeId = k ∧ ⟨k, .candidacy d⟩ ∈ published

theorem HasStood.mono {l l' : List Letter} (h : HasStood l k) (hsub : l ⊆ l') : HasStood l' k := by
  obtain ⟨d, hd, hmem⟩ := h
  exact ⟨d, hd, hsub hmem⟩

/-- Whoever a letter names has stood before the letter was published. -/
def Grounded (published : List Letter) : Prop :=
  ∀ before l after, published = before ++ l :: after → ∀ v, l.message.Names v → HasStood before v

theorem Grounded.append {published new : List Letter} (h : Grounded published)
    (hnew : ∀ l ∈ new, ∀ v, l.message.Names v → HasStood published v) :
    Grounded (published ++ new) := by
  intro before l after heq v hv
  rcases List.append_eq_append_iff.mp heq with ⟨middle, hbefore, hl⟩ | ⟨middle, hpublished, hl⟩
  · -- The letter is a new one.
    have hmem : l ∈ new := hl ▸ List.mem_append_right _ List.mem_cons_self
    rw [hbefore]
    exact (hnew l hmem v hv).mono (List.subset_append_left _ _)
  · cases middle with
    | nil =>
      have hmem : l ∈ new := by
        rw [List.nil_append] at hl
        exact hl ▸ List.mem_cons_self
      rw [List.append_nil] at hpublished
      exact hpublished ▸ hnew l hmem v hv
    | cons l' middle =>
      obtain ⟨rfl, -⟩ := List.cons.inj hl
      exact h before l middle hpublished v hv

theorem Grounded.of_mem {published : List Letter} (h : Grounded published) {l : Letter}
    (hl : l ∈ published) (hv : l.message.Names v) : HasStood published v := by
  obtain ⟨before, after, rfl⟩ := List.append_of_mem hl
  exact (h before l after rfl v hv).mono (List.subset_append_left _ _)

/-! ## The invariant -/

/-- What the rounds of the nodes and the names in letters go back to. -/
structure Founded (c : Chronicle γ) : Prop where
  candidates : ∀ i n k, c.node? i = some n → k ∈ n.candidates → HasStood c.published k
  votes : ∀ i n x v, c.node? i = some n → n.votes[x]? = some v → x ≠ i →
    ⟨x, .vote v⟩ ∈ c.published
  grounded : Grounded c.published

theorem founded_fresh (bus : Bus) (settings : Settings) : (fresh γ bus settings).Founded where
  candidates i n k h := by
    rw [node?_fresh] at h
    cases h
  votes i n x v h := by
    rw [node?_fresh] at h
    cases h
  grounded before l after h :=
    absurd h.symm (List.append_ne_nil_of_right_ne_nil before (List.cons_ne_nil l after))

/-- A node changes and publishes messages, all of it with the grounds that it has. -/
theorem Founded.turn (hc : c.Founded) {n' : Node} {rest : List Letter} {out : List Message}
    (h : Turn c c' i n' rest out)
    (hcandidates : ∀ k ∈ n'.candidates, HasStood (c.published ++ letters i out) k)
    (hvotes : ∀ x v, n'.votes[x]? = some v → x ≠ i → ⟨x, .vote v⟩ ∈ c.published)
    (hnames : ∀ m ∈ out, ∀ v, m.Names v → HasStood c.published v) : c'.Founded := by
  have hsub : c.published ⊆ c'.published := by
    rw [h.published]
    exact List.subset_append_left _ _
  constructor
  case candidates =>
    intro j n k hj hk
    rcases h.of_node? hj with ⟨-, rfl⟩ | ⟨-, hj⟩
    · exact h.published ▸ hcandidates k hk
    · exact (hc.candidates j n k hj hk).mono hsub
  case votes =>
    intro j n x v hj hv hx
    rcases h.of_node? hj with ⟨rfl, rfl⟩ | ⟨-, hj⟩
    · exact hsub (hvotes x v hv hx)
    · exact hsub (hc.votes j n x v hj hv hx)
  case grounded =>
    rw [h.published]
    exact hc.grounded.append fun l hl v hv ↦ hnames _ (mem_letters.mp hl).2 v hv

theorem Founded.pause (hc : c.Founded) {act : Act γ} (h : Pause c act c') : c'.Founded where
  candidates j n k hj hk := h.published ▸ hc.candidates j n k (h.node? j n hj) hk
  votes j n x v hj hv hx := h.published ▸ hc.votes j n x v (h.node? j n hj) hv hx
  grounded := h.published ▸ hc.grounded

/-- A winner has stood: one of its votes is from the counting node itself or from a letter. -/
theorem Founded.of_plurality (hc : c.Founded) {n n₁ : Node} {w : String} {now : Float}
    {ballot : List Message} (hn : c.node? i = some n) (hsound : n.Sound i)
    (hcast : Node.Casting (n.refresh now) n₁ ballot) (hw : IsPlurality n₁.votes.values w) :
    HasStood c.published w := by
  obtain ⟨x, hx⟩ := IdMap.mem_values_iff.mp hw.mem
  by_cases hxi : x = i
  · have hstands := (hcast.sound (hsound.refresh now)).ballot w (hxi ▸ hx)
    rw [hcast.candidates] at hstands
    exact hc.candidates i n w hn hstands
  · rcases hcast.votes hx with hx | ⟨hid, -⟩
    · exact hc.grounded.of_mem (hc.votes i n x w hn hx hxi) rfl
    · exact absurd (hid.trans hsound.id) hxi

variable [WordSource γ]

/-- **Every move keeps what there is founded.** -/
theorem Founded.move (hc : c.Founded) (ht : c.Truthful) {act : Act γ} (h : Move c act c') :
    c'.Founded := by
  cases h with
  | @started i now requestId _ _ _ _ h =>
    refine hc.turn h ?_ ?_ ?_
    · intro k hk
      exact absurd hk Std.ExtTreeMap.not_mem_empty
    · intro x v hv
      have hnone : (∅ : IdMap String)[x]? = none := Std.ExtTreeMap.getElem?_empty
      exact absurd (hnone.symm.trans hv) (Option.some_ne_none v).symm
    · intro m hm v hv
      rcases Node.mem_startup_out.mp hm with rfl | rfl
      · exact absurd hv not_false
      · exact absurd hv not_false
  | @ticked i now m _ hm h =>
    have hn := node?_of_member hm
    have hsound := ht.sound i _ hn
    have htick := Node.ticking_tick m.node now m.source
    refine hc.turn h ?_ ?_ ?_
    · intro k hk
      exact (hc.candidates i _ k hn (htick.candidates hk)).mono (List.subset_append_left _ _)
    · intro x v hv hx
      rcases htick.votes hv with hv | ⟨hid, -⟩
      · exact hc.votes i _ x v hn hv hx
      · exact absurd (hid.trans hsound.id) hx
    · -- A vote is for somebody who stands, a result for somebody who has votes.
      intro m' hm' v hv
      cases m' with
      | vote candidate =>
        obtain rfl : candidate = v := hv
        exact hc.candidates i _ candidate hn (htick.of_vote hm')
      | elected winner =>
        obtain rfl : winner = v := hv
        obtain ⟨n₁, ballot, -, hcast, -, hplurality, -⟩ := htick.of_elected hm'
        exact hc.of_plurality hn hsound hcast hplurality
      | _ => exact absurd hv not_false
  | @heard i n l rest _ hn hl h =>
    have hsound := ht.sound i n hn
    have hhear := Node.hearing_hear n l
    obtain ⟨-, hmem⟩ := ht.order_unread hl
    refine hc.turn h ?_ ?_ ?_
    · intro k hk
      rcases hhear.candidates hsound hk with hk | ⟨d, hd, hfrom | ⟨rfl, hout⟩⟩
      · exact (hc.candidates i n k hn hk).mono (List.subset_append_left _ _)
      · -- A candidacy that is heard is that of the sender of the letter.
        have hhonest := ht.honest l hmem
        rw [hfrom] at hhonest
        have hsender : l.sender = k := hhonest.symm.trans hd
        refine ⟨d, hd, List.mem_append_left _ ?_⟩
        rwa [← hsender, ← hfrom]
      · exact ⟨d, hd, List.mem_append_right _ (mem_letters.mpr ⟨rfl, hout⟩)⟩
    · intro x v hv hx
      rcases hhear.of_votes hv with hv | ⟨rfl, hfrom⟩
      · exact hc.votes i n x v hn hv hx
      · rwa [← hfrom]
    · intro m hm v hv
      exact absurd hv (hhear.not_names m hm)
  | paused h => exact hc.pause h

/-- Every run from a new bus on is founded. -/
theorem founded_run {capacity : Nat} {bus : Bus} {settings : Settings} {acts : List (Act γ)}
    (hbus : Bus.new? capacity = some bus) (h : Obeys Permits (fresh γ bus settings) acts) :
    ((fresh γ bus settings).run acts).Founded := by
  refine (h.invariant (P := fun c ↦ c.Wired ∧ c.Truthful ∧ c.Founded) (fun c act hinv hact ↦ ?_)
    ⟨wired_fresh hbus settings, truthful_fresh bus settings, founded_fresh bus settings⟩).2.2
  obtain ⟨hw', hmove⟩ := hinv.1.after hact
  exact ⟨hw', hinv.2.1.move hmove, hinv.2.2.move hinv.2.1 hmove⟩

/-! ## The theorem -/

/-- The act is a heartbeat of the node, and then it has as many votes as candidates as known nodes,
and more of the votes are for the winner than for anybody else. -/
def Counts (c : Chronicle γ) (act : Act γ) (i w : String) : Prop :=
  ∃ now m, act = .event (.tick i now) ∧ c.mesh.members[i]? = some m ∧
    let n := ((m.node.refresh now).castVote m.source).1.1
    n.votes.size = n.candidates.size ∧ n.candidates.size = n.view.size ∧
      IsPlurality n.votes.values w

/-- Results are published by counts only, and a node becomes master only when it announces itself
as the winner or hears that it is. -/
theorem Truthful.counts_of_move (ht : c.Truthful) {act : Act γ} (h : Move c act c') :
    ∃ new, c'.published = c.published ++ new ∧
      (∀ i w, ⟨i, .elected w⟩ ∈ new → c.Counts act i w) ∧
      ∀ i n', c'.node? i = some n' → n'.self.isMaster = true →
        (∀ n, c.node? i = some n → n.self.isMaster = false) →
        (∃ now, act = .event (.tick i now) ∧ ⟨i, .elected i⟩ ∈ new) ∨
          act = .event (.deliver i) ∧ ∃ s rest, s ≠ i ∧ c.unread i = ⟨s, .elected i⟩ :: rest := by
  -- A node that has not changed has not become master.
  have hsame {i : String} {n' : Node} {P : Prop} (hn : c.node? i = some n')
      (hmaster : n'.self.isMaster = true)
      (hold : ∀ n, c.node? i = some n → n.self.isMaster = false) : P := by
    rw [hold n' hn] at hmaster
    cases hmaster
  cases h with
  | @started j now requestId _ _ _ _ h =>
    refine ⟨_, h.published, ?_, ?_⟩
    · intro i w hl
      rcases Node.mem_startup_out.mp (mem_letters.mp hl).2 with hmem | hmem
      · cases hmem
      · cases hmem
    · intro i n' hn' hmaster hold
      rcases h.of_node? hn' with ⟨-, rfl⟩ | ⟨-, hn'⟩
      · cases hmaster
      · exact hsame hn' hmaster hold
  | @ticked j now m _ hm h =>
    have hn := node?_of_member hm
    have htick := Node.ticking_tick m.node now m.source
    refine ⟨_, h.published, ?_, ?_⟩
    · intro i w hl
      obtain ⟨hi, hmem⟩ := mem_letters.mp hl
      dsimp only at hi hmem
      subst hi
      obtain ⟨n₁, ballot, rfl, -, hcomplete, hplurality, -⟩ := htick.of_elected hmem
      obtain ⟨hvotes, hview⟩ := of_decide_eq_true hcomplete
      exact ⟨now, m, rfl, hm, hvotes, hview, hplurality⟩
    · intro i n' hn' hmaster hold
      rcases h.of_node? hn' with ⟨rfl, rfl⟩ | ⟨-, hn'⟩
      · rcases htick.isMaster (ht.sound _ _ hn) hmaster with hmaster | hmem
        · exact hsame hn hmaster hold
        · exact .inl ⟨now, rfl, mem_letters.mpr ⟨rfl, hmem⟩⟩
      · exact hsame hn' hmaster hold
  | @heard j n l rest _ hn hl h =>
    have hhear := Node.hearing_hear n l
    refine ⟨_, h.published, ?_, ?_⟩
    · intro i w hmem
      exact absurd (mem_letters.mp hmem).2 hhear.not_elected
    · intro i n' hn' hmaster hold
      rcases h.of_node? hn' with ⟨rfl, rfl⟩ | ⟨-, hn'⟩
      · rcases hhear.isMaster (ht.sound _ n hn) hmaster with hmaster | ⟨hsender, hwon⟩
        · exact hsame hn hmaster hold
        · exact .inr ⟨rfl, l.sender, rest, hsender, by rw [hl, ← hwon]⟩
      · exact hsame hn' hmaster hold
  | paused h =>
    exact ⟨[], by rw [h.published, List.append_nil], fun i w hl ↦ absurd hl List.not_mem_nil,
      fun i n' hn' hmaster hold ↦ hsame (h.node? i n' hn') hmaster hold⟩

/-- **Elections are not made of thin air.** In every run of nodes under ids of their own, in which
any unit may be lost,

* whoever is announced as a winner has published a candidacy before;
* a vote that a node has recorded for somebody else has been published by that voter, for somebody
  who had published a candidacy before;
* a result is published by a count only, and for the winner of the count;
* and a node becomes master only when it announces itself as the winner or hears that it is. -/
theorem elections_founded {capacity : Nat} {bus : Bus} {settings : Settings}
    (hbus : Bus.new? capacity = some bus) {acts : List (Act γ)}
    (hacts : Obeys Permits (fresh γ bus settings) acts) :
    let c := (fresh γ bus settings).run acts
    (∀ earlier s w later, c.published = earlier ++ ⟨s, .elected w⟩ :: later →
      HasStood earlier w) ∧
    (∀ i n x v, c.node? i = some n → n.votes[x]? = some v → x ≠ i →
      ∃ earlier later, c.published = earlier ++ ⟨x, .vote v⟩ :: later ∧ HasStood earlier v) ∧
    ∀ act, c.Permits act → ∃ new, (c.after act).published = c.published ++ new ∧
      (∀ i w, ⟨i, .elected w⟩ ∈ new → c.Counts act i w) ∧
      ∀ i n', (c.after act).node? i = some n' → n'.self.isMaster = true →
        (∀ n, c.node? i = some n → n.self.isMaster = false) →
        (∃ now, act = .event (.tick i now) ∧ ⟨i, .elected i⟩ ∈ new) ∨
          act = .event (.deliver i) ∧ ∃ s rest, s ≠ i ∧ c.unread i = ⟨s, .elected i⟩ :: rest := by
  intro c
  obtain ⟨hw, ht⟩ := truthful_run hbus hacts
  have hc := founded_run hbus hacts
  refine ⟨?_, ?_, ?_⟩
  · intro earlier s w later heq
    exact hc.grounded _ _ _ heq w rfl
  · intro i n x v hn hv hx
    obtain ⟨earlier, later, heq⟩ := List.append_of_mem (hc.votes i n x v hn hv hx)
    exact ⟨earlier, later, heq, hc.grounded _ _ _ heq v rfl⟩
  · intro act hact
    exact ht.counts_of_move (hw.after hact).2

/-- In the election of two the second node counts a vote of the first one, and both of them are for
the first one. -/
theorem elections_founded_electionOfTwo :
    let c := (fresh WordCycle { slots := 16 } ⟨5.0, true⟩).run (electionOfTwo.take 21)
    Obeys Permits (fresh WordCycle { slots := 16 } ⟨5.0, true⟩) (electionOfTwo.take 21) ∧
      (∃ n, c.node? "b" = some n ∧ n.votes["a"]? = some "a") ∧
      (∃ earlier later, c.published = earlier ++ ⟨"a", .vote "a"⟩ :: later ∧
        HasStood earlier "a") ∧
      ⟨"b", .elected "a"⟩ ∈ (c.after (.event (.tick "b" 8.0))).published ∧
      c.Counts (.event (.tick "b" 8.0)) "b" "a" := by
  intro c
  have hrun : Obeys Permits (fresh WordCycle { slots := 16 } ⟨5.0, true⟩)
      (electionOfTwo.take 21) := by
    decide +kernel
  have hany : (c.node? "b").any (·.votes["a"]? = some "a") = true := by decide +kernel
  have helected : ⟨"b", .elected "a"⟩ ∈ (c.after (.event (.tick "b" 8.0))).published := by
    decide +kernel
  have hfirst : ⟨"b", .elected "a"⟩ ∉ c.published := by decide +kernel
  obtain ⟨n, hn, hvote⟩ := (Option.any_eq_true _ _).mp hany
  have hbus : Bus.new? 16 = some { slots := 16 } := rfl
  obtain ⟨-, hvotes, hsteps⟩ := elections_founded hbus hrun
  obtain ⟨new, hnew, hcounts, -⟩ := hsteps (.event (.tick "b" 8.0)) trivial
  refine ⟨hrun, ⟨n, hn, of_decide_eq_true hvote⟩,
    hvotes "b" n "a" "a" hn (of_decide_eq_true hvote) (by decide), helected,
    hcounts "b" "a" ?_⟩
  rw [hnew] at helected
  exact (List.mem_append.mp helected).resolve_left hfirst

end HeartbeatMesh.Chronicle

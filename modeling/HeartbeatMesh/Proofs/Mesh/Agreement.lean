import HeartbeatMesh.Proofs.Mesh.Mastership
import HeartbeatMesh.Proofs.Node.Round

/-!
# Agreement once a round is complete

When all nodes hold the same complete votes, they count them at different moments, and nodes that
have counted come into further rounds while others still hold the old votes. Nevertheless only one
winner is ever announced.

The order of the letters keeps the rounds apart. A node votes again only after it has announced the
winner or heard of it, so the new vote reaches every other node behind a result (`Sealed`), and a
node that reads the result drops the old votes before the new one can get among them. A later round
lacks the vote of the winner for ever.
-/

namespace HeartbeatMesh.Chronicle

variable {γ : Type} {c c' : Chronicle γ} {ids : List String} {votes : IdMap String}
  {i j w : String}

/-! ## Complete rounds -/

/-- The running nodes know each other and nobody else, and no master; all of them stand; all of them
hold the same votes, one of each, and `w` has the most; and no vote or result is unread. -/
structure RoundComplete (c : Chronicle γ) (votes : IdMap String) (w : String) : Prop where
  reachable : ∀ i n, c.node? i = some n → Node.Reachable i n
  view : ∀ n ∈ c.mesh.nodes, n.view.keys = c.mesh.ids
  unled : ∀ n ∈ c.mesh.nodes, n.masterKnown = false
  candidates : ∀ n ∈ c.mesh.nodes, n.candidates.keys = c.mesh.ids
  same : ∀ n ∈ c.mesh.nodes, n.votes = votes
  voters : votes.keys = c.mesh.ids
  winner : IsPlurality votes.values w
  unread : ∀ i ∈ c.mesh.ids, ∀ l ∈ c.unread i,
    l.sender ∈ c.mesh.ids ∧ l.message.tag ≠ .vote ∧ l.message.tag ≠ .elected

/-- Nothing is lost, and no further node starts. -/
def Continues [WordSource γ] (c : Chronicle γ) (act : Act γ) : Prop :=
  c.Lossless act ∧ act.isStart = false

instance [WordSource γ] (c : Chronicle γ) (act : Act γ) : Decidable (c.Continues act) :=
  inferInstanceAs (Decidable (c.Lossless act ∧ act.isStart = false))

theorem mem_nodes_of_node? {n : Node} (h : c.node? i = some n) : n ∈ c.mesh.nodes := by
  obtain ⟨m, hm, rfl⟩ := exists_member h
  exact List.mem_map_of_mem (IdMap.mem_values_iff.mpr ⟨i, hm⟩)

/-- The winner is one of the nodes: its votes are for somebody who stands. -/
theorem RoundComplete.mem_ids (hc : c.RoundComplete votes w) : w ∈ c.mesh.ids := by
  obtain ⟨x, hx⟩ := IdMap.mem_values_iff.mp hc.winner.mem
  have hxids : x ∈ c.mesh.ids := hc.voters ▸ IdMap.mem_keys_iff.mpr ⟨w, hx⟩
  obtain ⟨m, hm⟩ := IdMap.mem_keys_iff.mp hxids
  have hn := node?_of_member hm
  have hnodes := mem_nodes_of_node? hn
  have hstands := (hc.reachable x _ hn).sound.ballot w (by rw [hc.same _ hnodes, hx])
  rw [← hc.candidates _ hnodes]
  exact Std.ExtTreeMap.mem_keys.mpr hstands

/-! ## What is unread -/

/-- A letter that can be unread after the round: it comes from one of the nodes, is no vote of the
winner and no result for anybody else. -/
structure Fair (ids : List String) (w : String) (l : Letter) : Prop where
  sender : l.sender ∈ ids
  vote : ∀ v, l.message = .vote v → l.sender ≠ w
  result : ∀ v, l.message = .elected v → v = w

/-- A letter that is no vote and no result. -/
def Plain (l : Letter) : Prop := ∀ v, l.message ≠ .vote v ∧ l.message ≠ .elected v

/-- The node will read a result of somebody else, and no vote before it. -/
def Sealed (i : String) (ls : List Letter) : Prop :=
  ∃ before l after, ls = before ++ l :: after ∧ l.Closes i ∧
    ∀ l' ∈ before, ∀ v, l'.message ≠ .vote v

theorem Sealed.append {ls : List Letter} (h : Sealed i ls) (new : List Letter) :
    Sealed i (ls ++ new) := by
  obtain ⟨before, l, after, rfl, hl, hbefore⟩ := h
  exact ⟨before, l, after ++ new, by rw [List.append_assoc, List.cons_append], hl, hbefore⟩

/-- The first letter of a sealed queue ends the round, or it is no vote and the rest is sealed. -/
theorem Sealed.of_cons {l : Letter} {rest : List Letter} (h : Sealed i (l :: rest)) :
    l.Closes i ∨ (∀ v, l.message ≠ .vote v) ∧ Sealed i rest := by
  obtain ⟨before, l', after, heq, hl, hbefore⟩ := h
  cases before with
  | nil =>
    obtain ⟨rfl, -⟩ := List.cons.inj heq
    exact .inl hl
  | cons l₀ before =>
    obtain ⟨rfl, rfl⟩ := List.cons.inj heq
    exact .inr ⟨hbefore l List.mem_cons_self, before, l', after, rfl, hl,
      fun l'' hl'' ↦ hbefore l'' (List.mem_cons_of_mem _ hl'')⟩

/-- The first result seals the queues of all other nodes. -/
theorem sealed_of_count {ls : List Letter} (h : ∀ l ∈ ls, Plain l) (hij : i ≠ j)
    (r r' : NodeRecord) :
    Sealed j (ls ++ letters i [.heartbeat r, .elected w, .heartbeat r']) := by
  refine ⟨ls ++ [⟨i, .heartbeat r⟩], ⟨i, .elected w⟩, [⟨i, .heartbeat r'⟩],
    by rw [List.append_assoc]; rfl, ⟨hij, w, rfl⟩, fun l hl v ↦ ?_⟩
  rcases List.mem_append.mp hl with hl | hl
  · exact (h l hl v).1
  · rw [List.mem_singleton.mp hl]
    exact Message.noConfusion

/-! ## The two phases -/

/-- Nobody has counted the votes. -/
def Pending (c : Chronicle γ) (votes : IdMap String) : Prop :=
  ∀ i n, c.node? i = some n → n.Awaits votes ∧ ∀ l ∈ c.unread i, Plain l

/-- Somebody has counted the votes. The round is over for a node, or the node will read of it before
it reads of any new vote. -/
def Announced (c : Chronicle γ) (ids : List String) (votes : IdMap String) (w : String) : Prop :=
  ∀ i n, c.node? i = some n →
    n.Awaits votes ∧ Sealed i (c.unread i) ∨ n.Concluded ids w i

/-- What holds from the complete round on. -/
structure Closing (c : Chronicle γ) (ids : List String) (votes : IdMap String) (w : String) :
    Prop where
  sound : ∀ i n, c.node? i = some n → n.Sound i
  among : ∀ i n, c.node? i = some n → i ∈ ids
  view : ∀ i n, c.node? i = some n → ∀ k ∈ ids, k ∈ n.view
  fair : ∀ i n, c.node? i = some n → ∀ l ∈ c.unread i, Fair ids w l
  phase : c.Pending votes ∨ c.Announced ids votes w

theorem RoundComplete.closing (hc : c.RoundComplete votes w) :
    c.Closing c.mesh.ids votes w where
  sound i n hn := (hc.reachable i n hn).sound
  among i n hn := mem_ids_of_node? hn
  view i n hn k hk := by
    rw [← hc.view n (mem_nodes_of_node? hn)] at hk
    exact Std.ExtTreeMap.mem_keys.mp hk
  fair i n hn l hl := by
    obtain ⟨hsender, hvote, helected⟩ := hc.unread i (mem_ids_of_node? hn) l hl
    exact ⟨hsender, fun v hv ↦ absurd (congrArg Message.tag hv) hvote,
      fun v hv ↦ absurd (congrArg Message.tag hv) helected⟩
  phase := by
    refine .inl fun i n hn ↦ ⟨⟨hc.same n (mem_nodes_of_node? hn), ?_⟩, fun l hl v ↦ ?_⟩
    · refine Bool.eq_false_iff.mpr fun hmaster ↦ ?_
      have hp := (hc.reachable i n hn).sound.flags_self.mpr hmaster
      have hknown := hc.unled n (mem_nodes_of_node? hn)
      rw [Node.masterKnown_iff.mpr ⟨i, hp⟩] at hknown
      cases hknown
    · obtain ⟨-, hvote, helected⟩ := hc.unread i (mem_ids_of_node? hn) l hl
      exact ⟨fun hv ↦ hvote (congrArg Message.tag hv), fun hv ↦ helected (congrArg Message.tag hv)⟩

theorem Closing.isMaster (hc : c.Closing ids votes w) {n : Node} (hn : c.node? i = some n)
    (hmaster : n.self.isMaster = true) : i = w := by
  have hfollower (h : n.Awaits votes) : i = w := by
    rw [h.follower] at hmaster
    cases hmaster
  rcases hc.phase with hp | hp
  · exact hfollower (hp i n hn).1
  · rcases hp i n hn with ⟨h, -⟩ | h
    · exact hfollower h
    · exact h.master.mp hmaster

section Turns

variable {n' : Node} {rest : List Letter} {out : List Message}

theorem Closing.turn (hc : c.Closing ids votes w) (h : Turn c c' i n' rest out) (hi : i ∈ ids)
    (hsound : n'.Sound i) (hview : ∀ k ∈ ids, k ∈ n'.view) (hrest : ∀ l ∈ rest, Fair ids w l)
    (hvotes : i = w → ∀ v, .vote v ∉ out)
    (hresults : ∀ v, .elected v ∈ out → v = w)
    (hphase : c'.Pending votes ∨ c'.Announced ids votes w) : c'.Closing ids votes w := by
  constructor
  case sound => exact h.forall_node hc.sound hsound
  case among => exact h.forall_node hc.among hi
  case view => exact h.forall_node (P := fun _ n ↦ ∀ k ∈ ids, k ∈ n.view) hc.view hview
  case fair =>
    intro j n hj l hl
    rcases h.of_mem_unread hl with hl | hl
    · rcases h.of_node? hj with ⟨hji, -⟩ | ⟨hji, hj⟩
      · rw [if_pos hji] at hl
        exact hrest l hl
      · rw [if_neg hji] at hl
        exact hc.fair j n hj l hl
    · obtain ⟨rfl, hm⟩ := mem_letters.mp hl
      exact ⟨hi, fun v hv hw ↦ hvotes hw v (hv ▸ hm), fun v hv ↦ hresults v (hv ▸ hm)⟩
  case phase => exact hphase

theorem Pending.turn (hp : c.Pending votes) (h : Turn c c' i n' rest out) (hkeeps : c'.KeepsUp)
    (hawaits : n'.Awaits votes) (hrest : ∀ l ∈ rest, Plain l)
    (hout : ∀ l ∈ letters i out, Plain l) : c'.Pending votes := by
  intro j n hj
  rw [h.unread_eq hkeeps hj, List.forall_mem_append]
  rcases h.of_node? hj with ⟨hji, rfl⟩ | ⟨hji, hj⟩
  · rw [if_pos hji]
    exact ⟨hawaits, hrest, hout⟩
  · rw [if_neg hji]
    exact ⟨(hp j n hj).1, (hp j n hj).2, hout⟩

theorem Turn.announced (h : Turn c c' i n' rest out) (hkeeps : c'.KeepsUp)
    (hown : n'.Awaits votes ∧ Sealed i rest ∨ n'.Concluded ids w i)
    (hothers : ∀ j n, j ≠ i → c.node? j = some n →
      n.Awaits votes ∧ Sealed j (c.unread j ++ letters i out) ∨ n.Concluded ids w j) :
    c'.Announced ids votes w := by
  intro j n hj
  rw [h.unread_eq hkeeps hj]
  rcases h.of_node? hj with ⟨rfl, rfl⟩ | ⟨hji, hj⟩
  · rw [if_pos rfl]
    exact hown.imp_left fun h ↦ ⟨h.1, h.2.append _⟩
  · rw [if_neg hji]
    exact hothers j n hji hj

theorem Announced.turn (hp : c.Announced ids votes w) (h : Turn c c' i n' rest out)
    (hkeeps : c'.KeepsUp) (hown : n'.Awaits votes ∧ Sealed i rest ∨ n'.Concluded ids w i) :
    c'.Announced ids votes w :=
  h.announced hkeeps hown fun j n _ hj ↦ (hp j n hj).imp_left fun h ↦ ⟨h.1, h.2.append _⟩

end Turns

/-! ## Moves -/

/-- A letter that a node hears brings it to the end of the round or leaves it where it is. -/
theorem Closing.hear (hc : c.Closing ids votes w) {n : Node} {l : Letter} {rest : List Letter}
    (hn : c.node? i = some n) (hl : c.unread i = l :: rest)
    (h : Turn c c' i (n.hear l).1 rest (n.hear l).2) (hkeeps : c'.KeepsUp) :
    c'.Closing ids votes w := by
  have hhear := Node.hearing_hear n l
  have hsound := hc.sound i n hn
  have hfair := hc.fair i n hn
  rw [hl] at hfair
  have hhead := hfair l List.mem_cons_self
  refine hc.turn h (hc.among i n hn) (hhear.sound hsound)
    (fun k hk ↦ hhear.mem_view (hc.view i n hn k hk))
    (fun l' hl' ↦ hfair l' (List.mem_cons_of_mem _ hl'))
    (fun _ v hv ↦ absurd rfl (hhear.not_names _ hv)) (fun v hv ↦ absurd hv hhear.not_elected) ?_
  rcases hc.phase with hp | hp
  · obtain ⟨hawaits, hplain⟩ := hp i n hn
    rw [hl] at hplain
    have hhead' := hplain l List.mem_cons_self
    refine .inl (hp.turn h hkeeps
      (hawaits.hear hsound (fun v ↦ (hhead' v).1) fun ⟨_, v, hv⟩ ↦ (hhead' v).2 hv)
      (fun l' hl' ↦ hplain l' (List.mem_cons_of_mem _ hl')) fun l' hl' v ↦ ?_)
    have hnot := hhear.not_names (p := v) _ (mem_letters.mp hl').2
    exact ⟨fun hv ↦ hnot (hv ▸ rfl), fun hv ↦ hnot (hv ▸ rfl)⟩
  · refine .inr (hp.turn h hkeeps ?_)
    rcases hp i n hn with ⟨hawaits, hsealed⟩ | hconcluded
    · rw [hl] at hsealed
      -- The seal has been read, or it is still ahead and no vote comes before it.
      by_cases hcloses : l.Closes i
      · exact .inr (hawaits.hear_result hsound ids hcloses hhead.result)
      · obtain ⟨hvote, hsealed⟩ := hsealed.of_cons.resolve_left hcloses
        exact .inl ⟨hawaits.hear hsound hvote hcloses, hsealed⟩
    · exact .inr (hconcluded.hear hsound (fun v hv ↦ ⟨hhead.sender, hhead.vote v hv⟩)
        hhead.result)

theorem Closing.pause (hc : c.Closing ids votes w) {act : Act γ} (h : Pause c act c')
    (hloss : act.isLoss = false) (hkeeps : c'.KeepsUp) : c'.Closing ids votes w := by
  have hunread := h.lossless hloss hkeeps
  constructor
  case sound => exact fun j n hj ↦ hc.sound j n (h.node? j n hj)
  case among => exact fun j n hj ↦ hc.among j n (h.node? j n hj)
  case view => exact fun j n hj ↦ hc.view j n (h.node? j n hj)
  case fair =>
    intro j n hj
    rw [hunread j n hj]
    exact hc.fair j n (h.node? j n hj)
  case phase =>
    refine hc.phase.imp (fun hp j n hj ↦ ?_) fun hp j n hj ↦ ?_
    · rw [hunread j n hj]
      exact hp j n (h.node? j n hj)
    · rw [hunread j n hj]
      exact hp j n (h.node? j n hj)

variable [WordSource γ]

/-- A heartbeat counts the old votes or does without a count. -/
theorem Closing.tick (hc : c.Closing ids votes w) (hvoters : ∀ k ∈ ids, k ∈ votes)
    (hwinner : IsPlurality votes.values w) (hw : w ∈ ids) {n : Node} (hn : c.node? i = some n)
    {now : Float} {source : γ}
    (h : Turn c c' i (n.tick now source).1.1 (c.unread i) (n.tick now source).1.2)
    (hkeeps : c'.KeepsUp) :
    c'.Closing ids votes w ∧ ∀ v, .elected v ∈ (n.tick now source).1.2 → v = w := by
  have htick := Node.ticking_tick n now source
  have hsound := hc.sound i n hn
  have hi := hc.among i n hn
  have hview := hc.view i n hn
  have hturn := hc.turn h hi (htick.sound hsound) (fun k hk ↦ htick.mem_view (hview k hk))
    (hc.fair i n hn)
  have hcount {n : Node} (hawaits : n.Awaits votes) (hn : n.Sound i) {n' : Node}
      {out : List Message} (ht : n.Ticking now source n' out) :=
    hawaits.tick hn ids (hvoters i hi) hwinner ht
  rcases hc.phase with hp | hp
  · obtain ⟨hawaits, hplain⟩ := hp i n hn
    rcases hcount hawaits hsound htick with ⟨hawaits', r, hout⟩ | ⟨hconcluded, r, r', hout⟩
    · rw [hout] at hturn h ⊢
      refine ⟨hturn (by simp) (by simp) (.inl (hp.turn h hkeeps hawaits' hplain ?_)), by simp⟩
      intro l hl v
      rw [List.mem_singleton.mp hl]
      exact ⟨Message.noConfusion, Message.noConfusion⟩
    · -- This is the first count. The result is on its way to all others.
      rw [hout] at hturn h ⊢
      refine ⟨hturn (by simp) (by simp) (.inr (h.announced hkeeps (.inr hconcluded) ?_)), by simp⟩
      intro j n' hji hj
      exact .inl ⟨(hp j n' hj).1, sealed_of_count (hp j n' hj).2 (Ne.symm hji) r r'⟩
  · rcases hp i n hn with ⟨hawaits, hsealed⟩ | hconcluded
    · rcases hcount hawaits hsound htick with ⟨hawaits', r, hout⟩ | ⟨hconcluded, r, r', hout⟩
      · rw [hout] at hturn h ⊢
        exact ⟨hturn (by simp) (by simp) (.inr (hp.turn h hkeeps (.inl ⟨hawaits', hsealed⟩))),
          by simp⟩
      · rw [hout] at hturn h ⊢
        exact ⟨hturn (by simp) (by simp) (.inr (hp.turn h hkeeps (.inr hconcluded))), by simp⟩
    · -- The vote of the winner is missing in all later rounds, so there are no further counts.
      obtain ⟨hconcluded', hresults, hvotes⟩ := hconcluded.tick hsound hi hw hview htick
      have hnone : ∀ v, .elected v ∈ (n.tick now source).1.2 → v = w :=
        fun v hv ↦ absurd hv (hresults v)
      exact ⟨hturn hvotes hnone (.inr (hp.turn h hkeeps (.inr hconcluded'))), hnone⟩

/-- **Every act of the continuation** keeps the phases in order, and all results name the winner. -/
theorem Closing.after (hc : c.Closing ids votes w) (hvoters : ∀ k ∈ ids, k ∈ votes)
    (hwinner : IsPlurality votes.values w) (hw : w ∈ ids) {act : Act γ} (h : Move c act c')
    (hloss : act.isLoss = false) (hstart : act.isStart = false) (hkeeps : c'.KeepsUp) :
    c'.Closing ids votes w ∧ ∃ new, c'.published = c.published ++ new ∧
      ∀ l ∈ new, ∀ v, l.message = .elected v → v = w := by
  cases h with
  | started => cases hstart
  | ticked hm h =>
    obtain ⟨hc', hresults⟩ := hc.tick hvoters hwinner hw (node?_of_member hm) h hkeeps
    exact ⟨hc', _, h.published, fun l hl v hv ↦ hresults v (hv ▸ (mem_letters.mp hl).2)⟩
  | @heard i n l _ _ hn hl h =>
    refine ⟨hc.hear hn hl h hkeeps, _, h.published, fun l' hl' v hv ↦ ?_⟩
    exact absurd (hv ▸ (mem_letters.mp hl').2) (Node.hearing_hear n l).not_elected
  | paused h =>
    exact ⟨hc.pause h hloss hkeeps, [], by rw [h.published, List.append_nil],
      fun l hl ↦ absurd hl List.not_mem_nil⟩

/-- The nodes of a run have come about by steps of their own. -/
theorem reachable_run {capacity : Nat} {bus : Bus} {settings : Settings} {acts : List (Act γ)}
    (hbus : Bus.new? capacity = some bus) (h : Obeys Permits (fresh γ bus settings) acts) :
    ∀ i n, ((fresh γ bus settings).run acts).node? i = some n → Node.Reachable i n := by
  refine (h.invariant
    (P := fun c ↦ c.Wired ∧ ∀ i n, c.node? i = some n → Node.Reachable i n)
    (fun c act hinv hact ↦ ?_) ⟨wired_fresh hbus settings, fun i n hn ↦ ?_⟩).2
  · obtain ⟨hw, hc⟩ := hinv
    obtain ⟨hw', hmove⟩ := hw.after hact
    exact ⟨hw', hmove.forall_node hc (fun _ _ _ _ _ ↦ .start _ _ _)
      (fun _ now _ source _ hn ↦ hn.tick now source) fun _ _ l hn ↦ hn.hear l⟩
  · rw [node?_fresh] at hn
    cases hn

/-! ## The theorem -/

/-- **Agreement once a round is complete.** From a complete round on, as long as nothing is lost and
no further node starts, every result that is published names the winner of the round, and nobody
else becomes master. The mesh need not have come about by a run, as long as its bus and its nodes
belong together as they do after every run (`truthful_run`). -/
theorem agreement_of_roundComplete (hw : c.Wired) (hc : c.RoundComplete votes w)
    {acts : List (Act γ)} (hacts : Obeys Continues c acts) :
    (∀ l ∈ (c.run acts).published.drop c.published.length, ∀ v, l.message = .elected v → v = w) ∧
      ∀ i n, (c.run acts).node? i = some n → n.self.isMaster = true → i = w := by
  have hvoters : ∀ k ∈ c.mesh.ids, k ∈ votes :=
    fun k hk ↦ Std.ExtTreeMap.mem_keys.mp (hc.voters ▸ hk)
  have hrun := hacts.published (P := fun c' ↦ c'.Wired ∧ c'.Closing c.mesh.ids votes w)
    (Q := fun l ↦ ∀ v, l.message = .elected v → v = w) (fun c' act hinv hact ↦ by
      obtain ⟨⟨hpermits, hloss, hkeeps⟩, hstart⟩ := hact
      obtain ⟨hw', hmove⟩ := hinv.1.after hpermits
      obtain ⟨hc', hnew⟩ := hinv.2.after hvoters hc.winner hc.mem_ids hmove hloss hstart hkeeps
      exact ⟨⟨hw', hc'⟩, hnew⟩) ⟨hw, hc.closing⟩
  obtain ⟨⟨-, hclosing⟩, new, hnew, hresults⟩ := hrun
  refine ⟨fun l hl ↦ ?_, fun i n hn hmaster ↦ hclosing.isMaster hn hmaster⟩
  rw [hnew, List.drop_left] at hl
  exact hresults l hl

/-- Two nodes meet and stand, vote at the same time for the first one, and read the votes. Some
candidacies are still unread then. -/
def voteOfTwo : List (Act WordCycle) :=
  let reads (i : String) (k : Nat) : List (Act WordCycle) := List.replicate k (.event (.deliver i))
  let readAll := reads "a" 6 ++ reads "b" 6 ++ reads "a" 6
  [.event (.start "a" 0.0 "r" ⟨#[0], 0⟩)] ++ readAll
    ++ [.event (.start "b" 1.0 "s" ⟨#[0], 0⟩)] ++ readAll ++ [.event (.tick "a" 4.0)] ++ readAll
    ++ [.event (.tick "a" 8.0), .event (.tick "b" 8.0)] ++ reads "a" 4 ++ reads "b" 4

/-- The second node counts, comes into a new round, votes again and wins nothing; the first one
counts the old votes, and both read everything. -/
def countOfTwo : List (Act WordCycle) :=
  let reads (i : String) (k : Nat) : List (Act WordCycle) := List.replicate k (.event (.deliver i))
  [.event (.tick "b" 9.0)] ++ reads "b" 5 ++ [.event (.tick "b" 16.0), .event (.tick "a" 16.0)]
    ++ reads "a" 12 ++ reads "b" 12

theorem agreement_of_roundComplete_voteOfTwo :
    let c := (fresh WordCycle { slots := 16 } ⟨5.0, true⟩).run voteOfTwo
    let votes := ((∅ : IdMap String).insert "a" "a").insert "b" "a"
    c.Wired ∧ c.RoundComplete votes "a" ∧ Obeys Continues c countOfTwo ∧
      (∀ l ∈ (c.run countOfTwo).published.drop c.published.length, ∀ v,
        l.message = .elected v → v = "a") ∧
      ∀ i n, (c.run countOfTwo).node? i = some n → n.self.isMaster = true → i = "a" := by
  intro c votes
  have hbus : Bus.new? 16 = some { slots := 16 } := rfl
  have hrun : Obeys Permits (fresh WordCycle { slots := 16 } ⟨5.0, true⟩) voteOfTwo := by
    decide +kernel
  have hw : c.Wired := (truthful_run hbus hrun).1
  have hwinner : IsPlurality votes.values "a" := by
    rw [← tally_eq_winner_iff]
    decide +kernel
  have hstate : (∀ n ∈ c.mesh.nodes, n.view.keys = c.mesh.ids ∧ n.masterKnown = false ∧
        n.candidates.keys = c.mesh.ids ∧ n.votes = votes) ∧ votes.keys = c.mesh.ids ∧
      ∀ i ∈ c.mesh.ids, ∀ l ∈ c.unread i,
        l.sender ∈ c.mesh.ids ∧ l.message.tag ≠ .vote ∧ l.message.tag ≠ .elected := by
    decide +kernel
  obtain ⟨hnodes, hvoters, hunread⟩ := hstate
  have hc : c.RoundComplete votes "a" :=
    ⟨reachable_run hbus hrun, fun n hn ↦ (hnodes n hn).1, fun n hn ↦ (hnodes n hn).2.1,
      fun n hn ↦ (hnodes n hn).2.2.1, fun n hn ↦ (hnodes n hn).2.2.2, hvoters, hwinner, hunread⟩
  have hlater : Obeys Continues c countOfTwo := by decide +kernel
  exact ⟨hw, hc, hlater, agreement_of_roundComplete hw hc hlater⟩

end HeartbeatMesh.Chronicle

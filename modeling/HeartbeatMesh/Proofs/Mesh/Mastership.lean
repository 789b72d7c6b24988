import HeartbeatMesh.Proofs.Mesh.Move
import HeartbeatMesh.Proofs.Node.Flags

/-!
# Whoever is flagged is master

A master flag travels by heartbeats and inside the views of third nodes, over a bus that may lose
any unit, and yet it never lies: whoever a view flags has been crowned (`Truthful.flags`).

The reason is an order. A node denies its mastership only before it is crowned, and it is crowned
before anybody can flag it, so in the order of publication no denial comes after a flag
(`Truthful.order`). A node that flags somebody has read up to that flag, and what it has not read
yet was published later (`Truthful.settled`). This is why flags stay, and why a node that flags a
master takes no further part in elections.
-/

namespace HeartbeatMesh.Chronicle

variable {γ : Type} {c c' : Chronicle γ} {i p : String}

theorem mem_letters {l : Letter} {messages : List Message} :
    l ∈ letters i messages ↔ l.sender = i ∧ l.message ∈ messages := by
  rw [letters, List.mem_map]
  constructor
  · rintro ⟨message, hmem, rfl⟩
    exact ⟨rfl, hmem⟩
  · rintro ⟨rfl, hmem⟩
    exact ⟨l.message, hmem, rfl⟩

theorem record?_of_node? {n : Node} (h : c.node? i = some n) : c.record? i = some n.self := by
  rw [record?, h]

theorem isCrowned_of_node? {n : Node} (h : c.node? i = some n) (hn : n.Sound i) :
    c.IsCrowned i ↔ n.Flags i := by
  rw [hn.flags_self, IsCrowned, record?_of_node? h]
  constructor
  · rintro ⟨r, hr, hmaster⟩
    rwa [Option.some.inj hr]
  · intro hmaster
    exact ⟨n.self, rfl, hmaster⟩

/-! ## The invariant -/

/-- What holds in every run of who is flagged as master. -/
structure Truthful (c : Chronicle γ) : Prop where
  sound : ∀ i n, c.node? i = some n → n.Sound i
  keyed : ∀ i n, c.node? i = some n → n.Keyed
  honest : ∀ l ∈ c.published, l.message.Honest l.sender
  /-- Whoever is flagged by a view is master, or was when it stopped. -/
  flags : ∀ i n p, c.node? i = some n → n.Flags p → c.IsCrowned p
  /-- So is whoever is flagged by a letter. -/
  letter : ∀ l ∈ c.published, ∀ p, l.message.Flags p → c.IsCrowned p
  /-- No letter denies what one before it flags. -/
  order : c.published.Pairwise fun l l' ↦ ∀ p, l.message.Flags p → ¬l'.message.Denies p
  /-- No letter that a node has still to read denies what the node flags. -/
  settled : ∀ i n p, c.node? i = some n → n.Flags p → p ≠ i →
    ∀ l ∈ c.unread i, ¬l.message.Denies p

/-- What keeps flags true about a turn of the node `i`, in which it comes to the state `n'`, has
still to read `rest` and publishes `out`. -/
structure Faithful (c : Chronicle γ) (i : String) (n' : Node) (rest : List Letter)
    (out : List Message) : Prop where
  sound : n'.Sound i
  keyed : n'.Keyed
  honest : ∀ m ∈ out, m.Honest i
  crowned : c.IsCrowned i → n'.Flags i
  flags : ∀ p, n'.Flags p → p = i ∨ c.IsCrowned p
  said : ∀ m ∈ out, ∀ p, (m.Flags p → n'.Flags p) ∧ (m.Denies p → ¬c.IsCrowned i)
  order : out.Pairwise fun m m' ↦ ∀ p, m.Flags p → ¬m'.Denies p
  settled : ∀ p, n'.Flags p → p ≠ i → ∀ l ∈ rest, ¬l.message.Denies p

/-- A message of a node denies nobody else. -/
theorem Message.Denies.eq_of_honest {m : Message} (h : m.Denies p) (hm : m.Honest i) : p = i := by
  cases m with
  | heartbeat r => exact h.1.symm.trans hm
  | _ => exact absurd h not_false

/-- **A turn of a node keeps the flags true.** -/
theorem Truthful.turn (hc : c.Truthful) {n' : Node} {rest : List Letter} {out : List Message}
    (hf : Faithful c i n' rest out) (h : Turn c c' i n' rest out) : c'.Truthful := by
  have hself : c'.IsCrowned i ↔ n'.Flags i := isCrowned_of_node? h.node?_self hf.sound
  have hcrown {p : String} (hp : c.IsCrowned p) : c'.IsCrowned p := by
    by_cases hpi : p = i
    · subst hpi
      exact hself.mpr (hf.crowned hp)
    · rwa [h.isCrowned_iff, if_neg hpi]
  have hflags {p : String} (hp : n'.Flags p) : c'.IsCrowned p := by
    rcases hf.flags p hp with rfl | hp'
    · exact hself.mpr hp
    · exact hcrown hp'
  -- Only the node itself can be denied by the new letters, and only if it is not crowned yet.
  have hdeny {l : Letter} (hl : l ∈ letters i out) {p : String} (hd : l.message.Denies p) :
      p = i ∧ ¬c.IsCrowned i := by
    obtain ⟨-, hm⟩ := mem_letters.mp hl
    exact ⟨Message.Denies.eq_of_honest hd (hf.honest _ hm), (hf.said _ hm p).2 hd⟩
  constructor
  case sound => exact h.forall_node hc.sound hf.sound
  case keyed => exact h.forall_node (P := fun _ n ↦ n.Keyed) hc.keyed hf.keyed
  case honest =>
    intro l hl
    rw [h.published] at hl
    rcases List.mem_append.mp hl with hl | hl
    · exact hc.honest l hl
    · obtain ⟨hsender, hm⟩ := mem_letters.mp hl
      rw [hsender]
      exact hf.honest _ hm
  case flags =>
    intro j n p hj hp
    rcases h.of_node? hj with ⟨-, rfl⟩ | ⟨-, hj⟩
    · exact hflags hp
    · exact hcrown (hc.flags j n p hj hp)
  case letter =>
    intro l hl p hp
    rw [h.published] at hl
    rcases List.mem_append.mp hl with hl | hl
    · exact hcrown (hc.letter l hl p hp)
    · exact hflags ((hf.said _ (mem_letters.mp hl).2 p).1 hp)
  case order =>
    -- What is denied now has not been flagged before.
    rw [h.published]
    refine List.pairwise_append.mpr ⟨hc.order, List.pairwise_map.mpr hf.order, ?_⟩
    intro l hl l' hl' p hp hd
    obtain ⟨rfl, hnot⟩ := hdeny hl' hd
    exact hnot (hc.letter l hl p hp)
  case settled =>
    -- A new letter denies the node that wrote it only, and nobody flags that one yet.
    intro j n p hj hp hpj l hl hd
    rcases h.of_mem_unread hl with hl | hl
    · rcases h.of_node? hj with ⟨rfl, rfl⟩ | ⟨hji, hj⟩
      · rw [if_pos rfl] at hl
        exact hf.settled p hp hpj l hl hd
      · rw [if_neg hji] at hl
        exact hc.settled j n p hj hp hpj l hl hd
    · obtain ⟨rfl, hnot⟩ := hdeny hl hd
      rcases h.of_node? hj with ⟨rfl, -⟩ | ⟨-, hj⟩
      · exact hpj rfl
      · exact hnot (hc.flags j n p hj hp)

/-! ## The turns of a node -/

section Turns

variable {n : Node} {l : Letter} {rest : List Letter}

/-- A node that starts flags nobody and denies nobody who has been flagged. -/
theorem faithful_start (hpast : c.record? i = none) (now : Float) (settings : Settings)
    (requestId : String) :
    Faithful c i ((Node.new i now settings).startup requestId).1 []
      ((Node.new i now settings).startup requestId).2 := by
  have hflags (p : String) : ¬((Node.new i now settings).startup requestId).1.Flags p := by
    rintro ⟨r, hr, hmaster⟩
    rw [(Node.getElem?_startup_view hr).2] at hmaster
    cases hmaster
  -- The id is new, so no letter so far can have flagged it.
  have hcrown : ¬c.IsCrowned i := by
    rintro ⟨r, hr, -⟩
    rw [hpast] at hr
    cases hr
  constructor
  case sound => exact (Node.sound_new i now settings).startup requestId
  case keyed =>
    intro p r hr
    obtain ⟨rfl, rfl⟩ := Node.getElem?_startup_view hr
    rfl
  case honest =>
    intro m hm
    rcases Node.mem_startup_out.mp hm with rfl | rfl
    · trivial
    · rfl
  case crowned => exact fun h ↦ absurd h hcrown
  case flags => exact fun p hp ↦ absurd hp (hflags p)
  case said =>
    intro m hm p
    refine ⟨fun hp ↦ ?_, fun _ ↦ hcrown⟩
    rcases Node.mem_startup_out.mp hm with rfl | rfl
    · exact absurd hp not_false
    · cases hp.2
  case order => exact List.pairwise_pair.mpr fun p hp ↦ absurd hp not_false
  case settled => exact fun p hp ↦ absurd hp (hflags p)

/-- A heartbeat is a turn. -/
theorem Truthful.faithful_tick [WordSource γ] (hc : c.Truthful) (hn : c.node? i = some n)
    (now : Float) (source : γ) :
    Faithful c i (n.tick now source).1.1 (c.unread i) (n.tick now source).1.2 := by
  have h := Node.ticking_tick n now source
  have hsound := hc.sound i n hn
  have hcrowned := isCrowned_of_node? hn hsound
  constructor
  case sound => exact h.sound hsound
  case keyed => exact h.keyed (hc.keyed i n hn)
  case honest => exact h.out_honest hsound
  case crowned => exact fun hi ↦ h.flags_mono hsound (hcrowned.mp hi)
  case flags =>
    intro p hp
    rcases h.flags hsound hp with hp | ⟨hpi, -⟩
    · exact .inr (hc.flags i n p hn hp)
    · exact .inl hpi
  case said =>
    intro m hm p
    refine ⟨(h.out_flags hsound m hm).1, fun hd hi ↦ ?_⟩
    obtain rfl := Message.Denies.eq_of_honest hd (h.out_honest hsound m hm)
    exact (h.out_flags hsound m hm).2 hd (hcrowned.mp hi)
  case order => exact h.out_pairwise hsound
  case settled =>
    intro p hp hpi
    rcases h.flags hsound hp with hp | ⟨hpi', -⟩
    · exact hc.settled i n p hn hp hpi
    · exact absurd hpi' hpi

/-- The letters after one that is being read were published after it. -/
theorem Truthful.order_unread (hc : c.Truthful) (hl : c.unread i = l :: rest) :
    (∀ l' ∈ rest, ∀ p, l.message.Flags p → ¬l'.message.Denies p) ∧ l ∈ c.published := by
  obtain ⟨before, hbefore⟩ := c.unread_suffix i
  rw [hl] at hbefore
  have horder := hc.order
  rw [← hbefore] at horder ⊢
  exact ⟨(List.pairwise_cons.mp (List.pairwise_append.mp horder).2.1).1,
    List.mem_append_right _ List.mem_cons_self⟩

/-- No letter that a node reads next denies what the node flags. -/
theorem Truthful.not_denies (hc : c.Truthful) (hn : c.node? i = some n)
    (hl : c.unread i = l :: rest) (hp : n.Flags p) (hpi : p ≠ i) : ¬l.message.Denies p :=
  hc.settled i n p hn hp hpi l (hl ▸ List.mem_cons_self)

/-- Hearing a letter is a turn. -/
theorem Truthful.faithful_hear (hc : c.Truthful) (hn : c.node? i = some n)
    (hl : c.unread i = l :: rest) : Faithful c i (n.hear l).1 rest (n.hear l).2 := by
  have h := Node.hearing_hear n l
  have hsound := hc.sound i n hn
  obtain ⟨hlater, hmem⟩ := hc.order_unread hl
  have hkeyed := h.keyed (hc.honest l hmem) (hc.keyed i n hn)
  constructor
  case sound => exact h.sound hsound
  case keyed => exact hkeyed
  case honest => exact h.out_honest hsound hkeyed
  case crowned =>
    intro hi
    exact h.flags_mono hsound (absurd rfl) ((isCrowned_of_node? hn hsound).mp hi)
  case flags =>
    intro p hp
    rcases h.flags hsound hp with hp | hp | ⟨hpi, -⟩
    · exact .inr (hc.flags i n p hn hp)
    · exact .inr (hc.letter l hmem p hp)
    · exact .inl hpi
  case said =>
    intro m hm p
    exact ⟨(h.out_flags hsound m hm).1, fun hd ↦ absurd hd (h.out_flags hsound m hm).2⟩
  case order => exact h.out_pairwise
  case settled =>
    intro p hp hpi l' hl'
    rcases h.flags hsound hp with hp | hp | ⟨hpi', -⟩
    · exact hc.settled i n p hn hp hpi l' (hl ▸ List.mem_cons_of_mem _ hl')
    · exact hlater l' hl' p hp
    · exact absurd hpi' hpi

end Turns

/-! ## Where runs begin -/

@[simp] theorem node?_fresh (bus : Bus) (settings : Settings) (i : String) :
    (fresh γ bus settings).node? i = none := by
  have hnone : (∅ : IdMap (Member γ))[i]? = none := Std.ExtTreeMap.getElem?_empty
  exact congrArg (Option.map Member.node) hnone

theorem truthful_fresh (bus : Bus) (settings : Settings) :
    (fresh γ bus settings).Truthful := by
  refine ⟨fun j n h ↦ ?_, fun j n h ↦ ?_, fun l hl ↦ absurd hl List.not_mem_nil,
    fun j n p h ↦ ?_, fun l hl ↦ absurd hl List.not_mem_nil, .nil, fun j n p h ↦ ?_⟩
  all_goals
    rw [node?_fresh] at h
    cases h

/-! ## Nodes that know a master -/

/-- A node that has been started, and whose view flags the id as long as it runs. -/
def Informed (c : Chronicle γ) (i p : String) : Prop :=
  c.record? i ≠ none ∧ ∀ n, c.node? i = some n → n.Flags p

theorem informed_of_node? {n : Node} (hn : c.node? i = some n) (hp : n.Flags p) :
    c.Informed i p := by
  refine ⟨?_, fun n' hn' ↦ ?_⟩
  · rw [record?_of_node? hn]
    exact Option.some_ne_none _
  · rwa [← Option.some.inj (hn.symm.trans hn')]

theorem Informed.pause (hi : c.Informed i p) {act : Act γ} (h : Pause c act c') :
    c'.Informed i p := by
  refine ⟨?_, fun n hn ↦ hi.2 n (h.node? i n hn)⟩
  rw [h.record?]
  exact hi.1

/-- A node stays informed if its own turn leaves it so, and the letters of others do not count. -/
theorem Informed.turn {j : String} (hi : c.Informed i p) {n' : Node} {rest : List Letter}
    {out : List Message} (h : Turn c c' j n' rest out)
    (hown : i = j → n'.Flags p ∧ ∀ m ∈ out, ¬m.IsElection) :
    c'.Informed i p ∧ ∃ new, c'.published = c.published ++ new ∧
      ∀ l ∈ new, l.sender = i → ¬l.message.IsElection := by
  refine ⟨⟨?_, fun n hn ↦ ?_⟩, _, h.published, fun l hl hsender ↦ ?_⟩
  · rw [h.record?, Function.update_apply]
    split_ifs
    · exact Option.some_ne_none _
    · exact hi.1
  · rcases h.of_node? hn with ⟨hij, rfl⟩ | ⟨-, hn⟩
    · exact (hown hij).1
    · exact hi.2 n hn
  · obtain ⟨hj, hm⟩ := mem_letters.mp hl
    exact (hown (hsender.symm.trans hj)).2 _ hm

/-! ## Moves and runs -/

theorem Truthful.pause (hc : c.Truthful) {act : Act γ} (h : Pause c act c') : c'.Truthful where
  sound j n hj := hc.sound j n (h.node? j n hj)
  keyed j n hj := hc.keyed j n (h.node? j n hj)
  honest := h.published ▸ hc.honest
  flags j n p hj hp := h.isCrowned_iff.mpr (hc.flags j n p (h.node? j n hj) hp)
  letter l hl p hp := h.isCrowned_iff.mpr (hc.letter l (h.published ▸ hl) p hp)
  order := h.published ▸ hc.order
  settled j n p hj hp hpj l hl :=
    hc.settled j n p (h.node? j n hj) hp hpj l ((h.unread j n hj).subset hl)

variable [WordSource γ]

/-- **Every move keeps the flags true.** -/
theorem Truthful.move (hc : c.Truthful) {act : Act γ} (h : Move c act c') : c'.Truthful := by
  cases h with
  | started _ hpast h => exact hc.turn (faithful_start hpast _ _ _) h
  | ticked hm h => exact hc.turn (hc.faithful_tick (node?_of_member hm) _ _) h
  | heard hn hl h => exact hc.turn (hc.faithful_hear hn hl) h
  | paused h => exact hc.pause h

/-- A permitted run keeps the mesh wired and the flags true. -/
theorem Obeys.truthful {acts : List (Act γ)} (h : Obeys Permits c acts) (hw : c.Wired)
    (hc : c.Truthful) : (c.run acts).Wired ∧ (c.run acts).Truthful := by
  refine h.invariant (P := fun c ↦ c.Wired ∧ c.Truthful) (fun c act hinv hact ↦ ?_) ⟨hw, hc⟩
  obtain ⟨hw', hmove⟩ := hinv.1.after hact
  exact ⟨hw', hinv.2.move hmove⟩

/-- Every run from a new bus on is one with true flags. -/
theorem truthful_run {capacity : Nat} {bus : Bus} {settings : Settings} {acts : List (Act γ)}
    (hbus : Bus.new? capacity = some bus) (h : Obeys Permits (fresh γ bus settings) acts) :
    ((fresh γ bus settings).run acts).Wired ∧ ((fresh γ bus settings).run acts).Truthful :=
  h.truthful (wired_fresh hbus settings) (truthful_fresh bus settings)

/-- **What a node knows it keeps**, and it publishes nothing of elections any more. -/
theorem Truthful.informed_move (hc : c.Truthful) {act : Act γ} (h : Move c act c')
    (hi : c.Informed i p) :
    c'.Informed i p ∧ ∃ new, c'.published = c.published ++ new ∧
      ∀ l ∈ new, l.sender = i → ¬l.message.IsElection := by
  cases h with
  | started _ hpast h => exact hi.turn h fun hij ↦ absurd (hij ▸ hpast) hi.1
  | @ticked j now m _ hm h =>
    refine hi.turn h fun hij ↦ ?_
    subst hij
    have hn := node?_of_member hm
    have hp := hi.2 _ hn
    have hsound := hc.sound _ _ hn
    have ht := Node.ticking_tick m.node now m.source
    refine ⟨ht.flags_mono hsound hp, fun message hmem ↦ ?_⟩
    rw [(ht.silent hsound hp).2, List.mem_singleton] at hmem
    rw [hmem]
    exact not_false
  | @heard j n l rest _ hn hl h =>
    -- What the node reads next cannot take the flag away.
    refine hi.turn h fun hij ↦ ?_
    subst hij
    have hp := hi.2 _ hn
    have hsound := hc.sound _ _ hn
    have hh := Node.hearing_hear n l
    have hd := hc.not_denies hn hl hp
    exact ⟨hh.flags_mono hsound hd hp, hh.silent hsound hd hp⟩
  | paused h =>
    exact ⟨hi.pause h, [], by rw [h.published, List.append_nil],
      fun l hl ↦ absurd hl List.not_mem_nil⟩

/-- What a node knows it keeps for a whole run, and all along it publishes nothing of elections. -/
theorem Truthful.informed_run {acts : List (Act γ)} (h : Obeys Permits c acts) (hw : c.Wired)
    (hc : c.Truthful) (hi : c.Informed i p) :
    (c.run acts).Informed i p ∧ ∀ l ∈ (c.run acts).published.drop c.published.length,
      l.sender = i → ¬l.message.IsElection := by
  have hrun := h.published (P := fun c ↦ c.Wired ∧ c.Truthful ∧ c.Informed i p)
    (Q := fun l ↦ l.sender = i → ¬l.message.IsElection) (fun c act hinv hact ↦ by
      obtain ⟨hw, hc, hi⟩ := hinv
      obtain ⟨hw', hmove⟩ := hw.after hact
      obtain ⟨hi', hnew⟩ := hc.informed_move hmove hi
      exact ⟨⟨hw', hc.move hmove, hi'⟩, hnew⟩) ⟨hw, hc, hi⟩
  obtain ⟨⟨-, -, hinformed⟩, new, hnew, hsilent⟩ := hrun
  refine ⟨hinformed, fun l hl ↦ ?_⟩
  rw [hnew, List.drop_left] at hl
  exact hsilent l hl

/-! ## The theorem -/

/-- **No false master, and no way back.** In every run of nodes under ids of their own, in which
any unit may be lost,

* whoever a view flags as master is master by its own record, or was when it stopped;
* what is flagged in a view stays flagged for as long as the node runs;
* and a node whose view flags a master publishes no candidacy, no vote and no result any more. -/
theorem flags_true_and_final {capacity : Nat} {bus : Bus} {settings : Settings}
    (hbus : Bus.new? capacity = some bus) {before : List (Act γ)}
    (hbefore : Obeys Permits (fresh γ bus settings) before) :
    let c := (fresh γ bus settings).run before
    (∀ i n p, c.node? i = some n → n.Flags p →
      ∃ r, c.record? p = some r ∧ r.isMaster = true) ∧
    ∀ later, Obeys Permits c later → ∀ i n p, c.node? i = some n → n.Flags p →
      (∀ n', (c.run later).node? i = some n' → n'.Flags p) ∧
      ∀ l ∈ (c.run later).published.drop c.published.length,
        l.sender = i → ¬l.message.IsElection := by
  intro c
  obtain ⟨hw, hc⟩ := truthful_run hbus hbefore
  refine ⟨hc.flags, fun later hlater i n p hn hp ↦ ?_⟩
  obtain ⟨hinformed, hsilent⟩ := hc.informed_run hlater hw (informed_of_node? hn hp)
  exact ⟨hinformed.2, hsilent⟩

/-- Two nodes meet, stand for mastership and vote; the second one counts the votes, and the first
one is master by its next heartbeat. -/
def electionOfTwo : List (Act WordCycle) :=
  let reads (i : String) (k : Nat) : List (Act WordCycle) := List.replicate k (.event (.deliver i))
  [.event (.start "a" 0.0 "r" ⟨#[0], 0⟩), .event (.start "b" 1.0 "s" ⟨#[0], 0⟩)]
    ++ reads "a" 6 ++ reads "b" 6 ++ [.event (.tick "a" 8.0)] ++ reads "b" 3 ++ reads "a" 3
    ++ [.event (.tick "b" 8.0)] ++ reads "a" 5 ++ reads "b" 5 ++ [.event (.tick "a" 16.0)]
    ++ reads "b" 3

theorem flags_true_and_final_electionOfTwo :
    let c := (fresh WordCycle { slots := 16 } ⟨5.0, true⟩).run electionOfTwo
    Obeys Permits (fresh WordCycle { slots := 16 } ⟨5.0, true⟩) electionOfTwo ∧
      (c.node? "b").any (·.Flags "a") = true ∧
      (∃ r, c.record? "a" = some r ∧ r.isMaster = true) ∧
      ∀ n, (c.run [.lose "b", .event (.tick "b" 17.0)]).node? "b" = some n → n.Flags "a" := by
  intro c
  have hrun : Obeys Permits (fresh WordCycle { slots := 16 } ⟨5.0, true⟩) electionOfTwo := by
    decide +kernel
  have hlater : Obeys Permits c [.lose "b", .event (.tick "b" 17.0)] := by decide +kernel
  have hany : (c.node? "b").any (·.Flags "a") = true := by decide +kernel
  obtain ⟨n, hn, hp⟩ := (Option.any_eq_true _ _).mp hany
  have hbus : Bus.new? 16 = some { slots := 16 } := rfl
  have h := flags_true_and_final hbus hrun
  exact ⟨hrun, hany, h.1 "b" n "a" hn (of_decide_eq_true hp),
    (h.2 _ hlater "b" n "a" hn (of_decide_eq_true hp)).1⟩

end HeartbeatMesh.Chronicle

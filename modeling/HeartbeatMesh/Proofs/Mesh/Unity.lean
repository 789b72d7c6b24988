import HeartbeatMesh.Proofs.Mesh.Mastership
import HeartbeatMesh.Proofs.Node.Ballot

/-!
# One master

Nodes that count different rounds can announce different winners, and then there are several
masters. This cannot happen when heartbeats wait for the deliveries (`Paced`): a result is published
by a heartbeat, and before the next heartbeat all nodes have read it.

So there are two situations only. Nobody is master, and all unread results name one winner
(`Unled`); or one node is, all unread results name that one, and every node flags it or has still to
read a heartbeat of it (`Led`). The first can turn into the second, and the second stays.
-/

namespace HeartbeatMesh.Chronicle

variable {γ : Type} {c c' : Chronicle γ} {i m w p : String}

/-! ## Letters -/

/-- All results among the letters name the one winner. -/
def ElectsOnly (w : String) (ls : List Letter) : Prop :=
  ∀ l ∈ ls, ∀ v, l.message = .elected v → v = w

theorem electsOnly_nil : ElectsOnly w [] := fun _ hl ↦ absurd hl List.not_mem_nil

theorem ElectsOnly.append {ls ls' : List Letter} (h : ElectsOnly w ls) (h' : ElectsOnly w ls') :
    ElectsOnly w (ls ++ ls') :=
  fun l hl ↦ (List.mem_append.mp hl).elim (h l) (h' l)

theorem ElectsOnly.of_cons {l : Letter} {ls : List Letter} (h : ElectsOnly w (l :: ls)) :
    ElectsOnly w ls :=
  fun l' hl' ↦ h l' (List.mem_cons_of_mem _ hl')

theorem electsOnly_letters {out : List Message} (h : ∀ v, .elected v ∈ out → v = w) :
    ElectsOnly w (letters i out) := by
  intro l hl v hv
  have hmem := (mem_letters.mp hl).2
  rw [hv] at hmem
  exact h v hmem

/-- The letter is a heartbeat of the master with a time that a transfer keeps. -/
def Tells (l : Letter) (m : String) : Prop :=
  ∃ r : NodeRecord, l = ⟨m, .heartbeat r⟩ ∧ r.nodeId = m ∧ r.isMaster = true ∧
    IsExact r.heartbeat

/-- A node that hears the heartbeat of the master flags it. -/
theorem Tells.flags {n : Node} {l : Letter} (h : Tells l m) (hm : m ≠ n.id) :
    (n.hear l).1.Flags m := by
  obtain ⟨r, rfl, rfl, hmaster, hexact⟩ := h
  rw [Node.hear_master hm rfl hexact hm hmaster]
  exact Node.flags_learn.mpr ((if_pos rfl).mpr hmaster)

/-! ## Pace -/

theorem Quiet.unread_eq_nil (h : c.Quiet) (hw : c.Wired) {n : Node} (hn : c.node? i = some n) :
    c.unread i = [] :=
  hw.unread_eq_nil_iff.mpr (h i (mem_ids_of_node? hn))

/-- Whether the node is crowned can be looked up. -/
theorem isCrowned_iff_any : c.IsCrowned p ↔ (c.record? p).any (·.isMaster) = true := by
  rw [IsCrowned, Option.any_eq_true]

/-- Nobody is master or was when it stopped. -/
def Leaderless (c : Chronicle γ) : Prop := ∀ p, ¬c.IsCrowned p

theorem leaderless_iff : c.Leaderless ↔
    ∀ p ∈ c.mesh.ids ++ c.retired.keys, (c.record? p).any (·.isMaster) = false := by
  constructor
  · intro h p _
    exact Bool.eq_false_iff.mpr (mt isCrowned_iff_any.mpr (h p))
  · intro h p hp
    obtain ⟨r, hr, -⟩ := id hp
    refine Bool.eq_false_iff.mp (h p (List.mem_append.mpr ?_)) (isCrowned_iff_any.mp hp)
    rw [record?] at hr
    cases hn : c.node? p with
    | some n => exact .inl (mem_ids_of_node? hn)
    | none =>
      rw [hn] at hr
      exact .inr (IdMap.mem_keys_iff.mpr ⟨r, hr⟩)

instance (c : Chronicle γ) : Decidable c.Leaderless := decidable_of_iff _ leaderless_iff.symm

/-- Nodes start, stop and have their heartbeats only when nothing is unread, clocks show times that
a transfer keeps, and no node starts when there is a master already. -/
def Timely (c : Chronicle γ) : Act γ → Prop
  | .event (.start _ now _ _) => c.Quiet ∧ IsExact now ∧ c.Leaderless
  | .event (.stop _) => c.Quiet
  | .event (.tick _ now) => c.Quiet ∧ IsExact now
  | _ => True

instance (c : Chronicle γ) : (act : Act γ) → Decidable (c.Timely act)
  | .event (.start _ now _ _) => inferInstanceAs (Decidable (c.Quiet ∧ IsExact now ∧ c.Leaderless))
  | .event (.stop _) => inferInstanceAs (Decidable c.Quiet)
  | .event (.tick _ now) => inferInstanceAs (Decidable (c.Quiet ∧ IsExact now))
  | .event (.deliver _) | .event (.publish _) | .lose _ | .configure _ => .isTrue trivial

/-- Nothing is lost, and everything comes at its time. -/
def Paced [WordSource γ] (c : Chronicle γ) (act : Act γ) : Prop := c.Lossless act ∧ c.Timely act

instance [WordSource γ] (c : Chronicle γ) (act : Act γ) : Decidable (c.Paced act) :=
  inferInstanceAs (Decidable (c.Lossless act ∧ c.Timely act))

/-- The heartbeats of the running nodes are at times that a transfer keeps. -/
def Exact (c : Chronicle γ) : Prop := ∀ i n, c.node? i = some n → IsExact n.self.heartbeat

/-! ## The two situations -/

/-- Nobody is master, and all unread results name one winner. -/
structure Unled (c : Chronicle γ) (w : String) : Prop where
  uncrowned : c.Leaderless
  results : ∀ i n, c.node? i = some n → ElectsOnly w (c.unread i)

/-- One node is master, and all others know or are going to know it. -/
structure Led (c : Chronicle γ) (m : String) : Prop where
  crowned : ∀ p, c.IsCrowned p ↔ p = m
  results : ∀ i n, c.node? i = some n → ElectsOnly m (c.unread i)
  informed : ∀ i n, c.node? i = some n → n.Flags m ∨ ∃ l ∈ c.unread i, Tells l m

section Turns

variable {n' : Node} {rest : List Letter} {out : List Message}

theorem Turn.electsOnly (h : Turn c c' i n' rest out) (hkeeps : c'.KeepsUp)
    (hold : ∀ j n, c.node? j = some n → ElectsOnly w (c.unread j)) (hrest : ElectsOnly w rest)
    (hout : ∀ v, .elected v ∈ out → v = w) :
    ∀ j n, c'.node? j = some n → ElectsOnly w (c'.unread j) := by
  intro j n hj
  rw [h.unread_eq hkeeps hj]
  refine ElectsOnly.append ?_ (electsOnly_letters hout)
  rcases h.of_node? hj with ⟨hji, -⟩ | ⟨hji, hj⟩
  · rwa [if_pos hji]
  · rw [if_neg hji]
    exact hold j n hj

theorem Turn.unled (h : Turn c c' i n' rest out) (hkeeps : c'.KeepsUp) (hc : c.Leaderless)
    (hself : ¬n'.self.isMaster = true)
    (hold : ∀ j n, c.node? j = some n → ElectsOnly w (c.unread j)) (hrest : ElectsOnly w rest)
    (hout : ∀ v, .elected v ∈ out → v = w) : c'.Unled w := by
  refine ⟨fun p ↦ ?_, h.electsOnly hkeeps hold hrest hout⟩
  rw [h.isCrowned_iff]
  split_ifs
  · exact hself
  · exact hc p

/-- A node wins. The heartbeat that follows is on its way to all others. -/
theorem Turn.led_of_win (h : Turn c c' i n' rest out) (hkeeps : c'.KeepsUp) (hc : c.Leaderless)
    (hsound : n'.Sound i) (hself : n'.self.isMaster = true)
    (hold : ∀ j n, c.node? j = some n → ElectsOnly i (c.unread j)) (hrest : ElectsOnly i rest)
    (hout : ∀ v, .elected v ∈ out → v = i) (hbeat : .heartbeat n'.self ∈ out)
    (hexact : IsExact n'.self.heartbeat) : c'.Led i := by
  refine ⟨?_, h.electsOnly hkeeps hold hrest hout, ?_⟩
  · intro p
    rw [h.isCrowned_iff]
    split_ifs with hp
    · exact iff_of_true hself hp
    · exact iff_of_false (hc p) hp
  · intro j n hj
    rcases h.of_node? hj with ⟨rfl, rfl⟩ | ⟨hji, -⟩
    · exact .inl (hsound.flags_self.mpr hself)
    · refine .inr ⟨⟨i, .heartbeat n'.self⟩, ?_, n'.self, rfl, hsound.id, hself, hexact⟩
      rw [h.unread_eq hkeeps hj]
      exact List.mem_append_right _ (mem_letters.mpr ⟨rfl, hbeat⟩)

/-- A node has a turn under a master. -/
theorem Led.turn (hc : c.Led m) (h : Turn c c' i n' rest out) (hkeeps : c'.KeepsUp)
    (hself : n'.self.isMaster = true ↔ i = m) (hrest : ElectsOnly m rest)
    (hout : ∀ v, .elected v ∈ out → v = m) (hinformed : n'.Flags m ∨ ∃ l ∈ rest, Tells l m) :
    c'.Led m := by
  refine ⟨?_, h.electsOnly hkeeps hc.results hrest hout, ?_⟩
  · intro p
    rw [h.isCrowned_iff]
    split_ifs with hp
    · rw [hself, hp]
    · exact hc.crowned p
  · -- What has told a node of the master, or is going to, is still there.
    intro j n hj
    have hmore {ls : List Letter} (hls : ∃ l ∈ ls, Tells l m) :
        ∃ l ∈ ls ++ letters i out, Tells l m := by
      obtain ⟨l, hl, htells⟩ := hls
      exact ⟨l, List.mem_append_left _ hl, htells⟩
    rw [h.unread_eq hkeeps hj]
    rcases h.of_node? hj with ⟨hji, rfl⟩ | ⟨hji, hj⟩
    · rw [if_pos hji]
      exact hinformed.imp_right hmore
    · rw [if_neg hji]
      exact (hc.informed j n hj).imp_right hmore

end Turns

/-! ## Letters and starts -/

/-- A node without a master in sight is not master itself. -/
theorem Leaderless.not_isMaster (h : c.Leaderless) {n : Node} (hn : c.node? i = some n) :
    n.self.isMaster = false :=
  Bool.eq_false_iff.mpr fun hmaster ↦ h i ⟨n.self, record?_of_node? hn, hmaster⟩

theorem Led.isMaster_iff (hc : c.Led m) {n : Node} (hn : c.node? i = some n) :
    n.self.isMaster = true ↔ i = m := by
  rw [← hc.crowned i, IsCrowned, record?_of_node? hn]
  constructor
  · intro hmaster
    exact ⟨n.self, rfl, hmaster⟩
  · rintro ⟨r, hr, hmaster⟩
    rwa [Option.some.inj hr]

theorem Unled.start (hc : c.Unled w) {now : Float} {requestId : String} {settings : Settings}
    (h : Turn c c' i ((Node.new i now settings).startup requestId).1 []
      ((Node.new i now settings).startup requestId).2) (hkeeps : c'.KeepsUp) : c'.Unled w := by
  refine h.unled hkeeps hc.uncrowned Bool.false_ne_true hc.results electsOnly_nil fun v hv ↦ ?_
  rcases Node.mem_startup_out.mp hv with hv | hv
  · cases hv
  · cases hv

/-- A letter that a node hears can make the winner master, and nobody else. -/
theorem Unled.hear (hc : c.Unled w) (ht : c.Truthful) (hx : c.Exact) {n : Node} {l : Letter}
    {rest : List Letter} (hn : c.node? i = some n) (hl : c.unread i = l :: rest)
    (h : Turn c c' i (n.hear l).1 rest (n.hear l).2) (hkeeps : c'.KeepsUp) :
    c'.Unled w ∨ c'.Led w := by
  have hhear := Node.hearing_hear n l
  have hsound := ht.sound i n hn
  have hresults := hc.results i n hn
  rw [hl] at hresults
  have hout (v : String) (hv : .elected v ∈ (n.hear l).2) : v = w := absurd hv hhear.not_elected
  by_cases hself : (n.hear l).1.self.isMaster = true
  · -- The letter is a result in favour of the node, and so the node is the one winner.
    obtain ⟨hsender, hwon⟩ := (hhear.isMaster hsound hself).resolve_left (by
      rw [hc.uncrowned.not_isMaster hn]
      exact Bool.false_ne_true)
    obtain rfl := hresults l List.mem_cons_self i hwon
    rw [← hsound.id] at hsender hwon
    have hbeat : .heartbeat (n.hear l).1.self ∈ (n.hear l).2 := by
      rw [Node.hear_elected hsender hwon, if_pos rfl]
      exact List.mem_singleton_self _
    exact .inr (h.led_of_win hkeeps hc.uncrowned (hhear.sound hsound) hself hc.results
      hresults.of_cons hout hbeat (hhear.heartbeat ▸ hx i n hn))
  · exact .inl (h.unled hkeeps hc.uncrowned hself hc.results hresults.of_cons hout)

/-- Under a master letters make nobody else master, and they tell who it is. -/
theorem Led.hear (hc : c.Led m) (ht : c.Truthful) {n : Node} {l : Letter}
    {rest : List Letter} (hn : c.node? i = some n) (hl : c.unread i = l :: rest)
    (h : Turn c c' i (n.hear l).1 rest (n.hear l).2) (hkeeps : c'.KeepsUp) : c'.Led m := by
  have hhear := Node.hearing_hear n l
  have hsound := ht.sound i n hn
  have hresults := hc.results i n hn
  rw [hl] at hresults
  have hmono (hp : n.Flags m) : (n.hear l).1.Flags m :=
    hhear.flags_mono hsound (ht.not_denies hn hl hp) hp
  have hown (him : i = m) : (n.hear l).1.Flags i :=
    him ▸ hmono (him ▸ hsound.flags_self.mpr ((hc.isMaster_iff hn).mpr him))
  -- Only a result could make the node master, and all results that can be read name `m`.
  refine hc.turn h hkeeps ⟨fun hmaster ↦ ?_, fun him ↦ ?_⟩ hresults.of_cons
    (fun v hv ↦ absurd hv hhear.not_elected) ?_
  · rcases hhear.isMaster hsound hmaster with hmaster | ⟨-, hwon⟩
    · exact (hc.isMaster_iff hn).mp hmaster
    · exact hresults l List.mem_cons_self i hwon
  · exact (hhear.sound hsound).flags_self.mp (hown him)
  · rcases hc.informed i n hn with hp | ⟨l', hl', htells⟩
    · exact .inl (hmono hp)
    · rw [hl] at hl'
      rcases List.mem_cons.mp hl' with rfl | hl'
      · by_cases him : i = m
        · exact .inl (him ▸ hown him)
        · exact .inl (htells.flags (hsound.id ▸ Ne.symm him))
      · exact .inr ⟨l', hl', htells⟩

/-! ## Pauses -/

theorem Unled.pause (hc : c.Unled w) {act : Act γ} (h : Pause c act c')
    (hloss : act.isLoss = false) (hkeeps : c'.KeepsUp) : c'.Unled w := by
  refine ⟨fun p ↦ mt h.isCrowned_iff.mp (hc.uncrowned p), fun j n hj ↦ ?_⟩
  rw [h.lossless hloss hkeeps j n hj]
  exact hc.results j n (h.node? j n hj)

theorem Led.pause (hc : c.Led m) {act : Act γ} (h : Pause c act c')
    (hloss : act.isLoss = false) (hkeeps : c'.KeepsUp) : c'.Led m := by
  refine ⟨fun p ↦ h.isCrowned_iff.trans (hc.crowned p), fun j n hj ↦ ?_, fun j n hj ↦ ?_⟩
  · rw [h.lossless hloss hkeeps j n hj]
    exact hc.results j n (h.node? j n hj)
  · rw [h.lossless hloss hkeeps j n hj]
    exact hc.informed j n (h.node? j n hj)

/-! ## Heartbeats and moves -/

variable [WordSource γ]

/-- **A heartbeat that waits for the deliveries** keeps the mesh without a master, or gives it
one. -/
theorem Unled.tick (hc : c.Unled w) (ht : c.Truthful) {n : Node} (hn : c.node? i = some n)
    {now : Float} {source : γ} (hquiet : ∀ j n, c.node? j = some n → c.unread j = [])
    (hnow : IsExact now)
    (h : Turn c c' i (n.tick now source).1.1 (c.unread i) (n.tick now source).1.2)
    (hkeeps : c'.KeepsUp) : (∃ w', c'.Unled w') ∨ ∃ m, c'.Led m := by
  have htick := Node.ticking_tick n now source
  have hsound := ht.sound i n hn
  have hold (v : String) : ∀ j n, c.node? j = some n → ElectsOnly v (c.unread j) := by
    intro j n hj
    rw [hquiet j n hj]
    exact electsOnly_nil
  -- All results of one heartbeat name the same winner, if there are any.
  obtain ⟨v, hv⟩ : ∃ v, ∀ v', .elected v' ∈ (n.tick now source).1.2 → v' = v := by
    by_cases hany : ∃ v, .elected v ∈ (n.tick now source).1.2
    · obtain ⟨v, hv⟩ := hany
      exact ⟨v, fun v' hv' ↦ htick.elected_unique hv' hv⟩
    · exact ⟨i, fun v' hv' ↦ absurd ⟨v', hv'⟩ hany⟩
  by_cases hself : (n.tick now source).1.1.self.isMaster = true
  · have hwon : .elected i ∈ (n.tick now source).1.2 := by
      refine (htick.isMaster hsound hself).resolve_left ?_
      rw [hc.uncrowned.not_isMaster hn]
      exact Bool.false_ne_true
    obtain rfl := hv i hwon
    exact .inr ⟨_, h.led_of_win hkeeps hc.uncrowned (htick.sound hsound) hself (hold _)
      (hold _ i n hn) hv (htick.announces hwon) (by rwa [htick.heartbeat])⟩
  · exact .inl ⟨v, h.unled hkeeps hc.uncrowned hself (hold v) (hold v i n hn) hv⟩

/-- Under a master that everybody knows, heartbeats are heartbeats only. -/
theorem Led.tick (hc : c.Led m) (ht : c.Truthful) {n : Node} (hn : c.node? i = some n)
    {now : Float} {source : γ} (hquiet : c.unread i = [])
    (h : Turn c c' i (n.tick now source).1.1 (c.unread i) (n.tick now source).1.2)
    (hkeeps : c'.KeepsUp) : c'.Led m := by
  have hsound := ht.sound i n hn
  have hp : n.Flags m := by
    refine (hc.informed i n hn).resolve_right ?_
    rw [hquiet]
    rintro ⟨l, hl, -⟩
    cases hl
  have htick := Node.ticking_tick n now source
  obtain ⟨hstate, hsaid⟩ := htick.silent hsound hp
  refine hc.turn h hkeeps ?_ (hquiet ▸ electsOnly_nil) (fun v hv ↦ ?_)
    (.inl (htick.flags_mono hsound hp))
  · have hmaster := hc.isMaster_iff hn
    rwa [hstate]
  · rw [hsaid] at hv
    simp at hv

/-- **What a paced move does**: a mesh without a master stays so or gets one. -/
theorem Unled.move (hc : c.Unled w) (hw : c.Wired) (ht : c.Truthful) (hx : c.Exact) {act : Act γ}
    (h : Move c act c') (hloss : act.isLoss = false) (htime : c.Timely act)
    (hkeeps : c'.KeepsUp) : (∃ w', c'.Unled w') ∨ ∃ m, c'.Led m := by
  cases h with
  | started _ _ h => exact .inl ⟨w, hc.start h hkeeps⟩
  | ticked hm h =>
    exact hc.tick ht (node?_of_member hm) (fun j n hj ↦ htime.1.unread_eq_nil hw hj) htime.2 h
      hkeeps
  | heard hn hl h => exact (hc.hear ht hx hn hl h hkeeps).imp (⟨w, ·⟩) (⟨w, ·⟩)
  | paused h => exact .inl ⟨w, hc.pause h hloss hkeeps⟩

/-- **A master stays the only one.** -/
theorem Led.move (hc : c.Led m) (hw : c.Wired) (ht : c.Truthful) {act : Act γ}
    (h : Move c act c') (hloss : act.isLoss = false) (htime : c.Timely act)
    (hkeeps : c'.KeepsUp) : c'.Led m := by
  cases h with
  | started => exact absurd ((hc.crowned m).mpr rfl) (htime.2.2 m)
  | ticked hm h =>
    have hn := node?_of_member hm
    exact hc.tick ht hn (htime.1.unread_eq_nil hw hn) h hkeeps
  | heard hn hl h => exact hc.hear ht hn hl h hkeeps
  | paused h => exact hc.pause h hloss hkeeps

theorem Exact.move (hx : c.Exact) {act : Act γ} (h : Move c act c') (htime : c.Timely act) :
    c'.Exact := by
  refine h.forall_node hx (fun i now requestId source hact ↦ ?_)
    (fun i now n source hact _ ↦ ?_) fun i n l hn ↦ ?_
  · subst hact
    exact htime.2.1
  · subst hact
    rw [(Node.ticking_tick n now source).heartbeat]
    exact htime.2
  · rwa [(Node.hearing_hear n l).heartbeat]

/-! ## The theorem -/

/-- What holds in every paced run. -/
structure Orderly (c : Chronicle γ) : Prop where
  wired : c.Wired
  truthful : c.Truthful
  exact : c.Exact
  led : (∃ w, c.Unled w) ∨ ∃ m, c.Led m

omit [WordSource γ] in
theorem orderly_fresh {capacity : Nat} {bus : Bus} (hbus : Bus.new? capacity = some bus)
    (settings : Settings) : (fresh γ bus settings).Orderly := by
  have hnode {i : String} {n : Node} {P : Prop}
      (h : (fresh γ bus settings).node? i = some n) : P := by
    rw [node?_fresh] at h
    cases h
  refine ⟨wired_fresh hbus settings, truthful_fresh bus settings, fun _ _ h ↦ hnode h,
    .inl ⟨"", fun p hp ↦ ?_, fun _ _ h ↦ hnode h⟩⟩
  obtain ⟨r, hr, -⟩ := hp
  rw [record?, node?_fresh] at hr
  exact absurd (Std.ExtTreeMap.getElem?_empty.symm.trans hr) (Option.some_ne_none r).symm

theorem Orderly.after (hc : c.Orderly) {act : Act γ} (h : c.Paced act) :
    (c.after act).Orderly ∧ ∀ m, c.Led m → (c.after act).Led m := by
  obtain ⟨⟨hpermits, hloss, hkeeps⟩, htime⟩ := h
  obtain ⟨hw', hmove⟩ := hc.wired.after hpermits
  have hled {m : String} (hm : c.Led m) : (c.after act).Led m :=
    hm.move hc.wired hc.truthful hmove hloss htime hkeeps
  refine ⟨⟨hw', hc.truthful.move hmove, hc.exact.move hmove htime, ?_⟩, fun m ↦ hled⟩
  rcases hc.led with ⟨w, hw⟩ | ⟨m, hm⟩
  · exact hw.move hc.wired hc.truthful hc.exact hmove hloss htime hkeeps
  · exact .inr ⟨m, hled hm⟩

/-- A paced run keeps everything in order, and its master. -/
theorem Orderly.run (hc : c.Orderly) {acts : List (Act γ)} (h : Obeys Paced c acts) :
    (c.run acts).Orderly ∧ ∀ m, c.Led m → (c.run acts).Led m := by
  induction acts generalizing c with
  | nil => exact ⟨hc, fun _ hm ↦ hm⟩
  | cons act acts ih =>
    obtain ⟨hafter, hled⟩ := hc.after h.1
    obtain ⟨hrun, hled'⟩ := ih hafter h.2
    exact ⟨hrun, fun m hm ↦ hled' m (hled m hm)⟩

omit [WordSource γ] in
theorem Orderly.led_of_isCrowned (hc : c.Orderly) (hm : c.IsCrowned m) : c.Led m := by
  rcases hc.led with ⟨w, hw⟩ | ⟨m', hm'⟩
  · exact absurd hm (hw.uncrowned m)
  · rwa [(hm'.crowned m).mp hm]

omit [WordSource γ] in
/-- When nothing is unread, everybody knows the master and no other one. -/
theorem Led.knownMasters_eq (hc : c.Led m) (hw : c.Wired) (ht : c.Truthful) (hquiet : c.Quiet)
    {n : Node} (hn : c.node? i = some n) : n.knownMasters = [m] := by
  refine (ht.keyed i n hn).knownMasters_eq fun p ↦
    ⟨fun hp ↦ (hc.crowned p).mp (ht.flags i n p hn hp), ?_⟩
  rintro rfl
  refine (hc.informed i n hn).resolve_right ?_
  rw [hquiet.unread_eq_nil hw hn]
  rintro ⟨l, hl, -⟩
  cases hl

/-- **At most one master when deliveries keep up with heartbeats.** In every paced run at most one
running node is master. Once a node has become master, then from then on, whenever nothing is
unread, it is the one known master of every running node. -/
theorem one_master {capacity : Nat} {bus : Bus} {settings : Settings}
    (hbus : Bus.new? capacity = some bus) {acts : List (Act γ)}
    (hacts : Obeys Paced (fresh γ bus settings) acts) :
    let c := (fresh γ bus settings).run acts
    (∀ i j n n', c.node? i = some n → c.node? j = some n' → n.self.isMaster = true →
      n'.self.isMaster = true → i = j) ∧
    ∀ m, c.IsCrowned m → ∀ later, Obeys Paced c later → (c.run later).Quiet →
      ∀ i n, (c.run later).node? i = some n → n.knownMasters = [m] := by
  intro c
  have hc : c.Orderly := ((orderly_fresh hbus settings).run hacts).1
  constructor
  · intro i j n n' hi hj hn hn'
    have hled := hc.led_of_isCrowned ⟨n.self, record?_of_node? hi, hn⟩
    exact ((hled.isMaster_iff hj).mp hn').symm
  · intro m hm later hlater hquiet i n hi
    obtain ⟨hlater', hled⟩ := hc.run hlater
    exact (hled m (hc.led_of_isCrowned hm)).knownMasters_eq hlater'.wired hlater'.truthful hquiet
      hi

/-- Two nodes read whatever there is to read, in turn. -/
def readAll : List (Act WordCycle) :=
  let reads (i : String) : List (Act WordCycle) := List.replicate 6 (.event (.deliver i))
  reads "a" ++ reads "b" ++ reads "a" ++ reads "b"

/-- Two nodes meet and elect one of them, and read all there is before each heartbeat. -/
def pacedElection : List (Act WordCycle) :=
  [.event (.start "a" 0.0 "r" ⟨#[0], 0⟩)] ++ readAll
    ++ [.event (.start "b" 1.0 "s" ⟨#[0], 0⟩)] ++ readAll ++ [.event (.tick "a" 8.0)] ++ readAll
    ++ [.event (.tick "b" 8.0)] ++ readAll

theorem one_master_pacedElection :
    let c := (fresh WordCycle { slots := 16 } ⟨5.0, true⟩).run pacedElection
    let later : List (Act WordCycle) := .event (.tick "b" 16.0) :: readAll
    Obeys Paced (fresh WordCycle { slots := 16 } ⟨5.0, true⟩) pacedElection ∧
      c.IsCrowned "a" ∧ Obeys Paced c later ∧ (c.run later).Quiet ∧
      ∃ n, (c.run later).node? "b" = some n ∧ n.knownMasters = ["a"] := by
  intro c later
  have hrun : Obeys Paced (fresh WordCycle { slots := 16 } ⟨5.0, true⟩) pacedElection := by
    decide +kernel
  have hcrowned : c.IsCrowned "a" := isCrowned_iff_any.mpr (by decide +kernel)
  have hlater : Obeys Paced c later := by decide +kernel
  have hquiet : (c.run later).Quiet := by decide +kernel
  have hruns : ((c.run later).node? "b").isSome = true := by decide +kernel
  obtain ⟨n, hn⟩ := Option.isSome_iff_exists.mp hruns
  have hbus : Bus.new? 16 = some { slots := 16 } := rfl
  exact ⟨hrun, hcrowned, hlater, hquiet, n, hn,
    (one_master hbus hrun).2 "a" hcrowned later hlater hquiet "b" n hn⟩

end HeartbeatMesh.Chronicle

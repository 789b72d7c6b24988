import HeartbeatMesh.Mesh
import HeartbeatMesh.Proofs.Bus
import HeartbeatMesh.Proofs.Enumeration
import HeartbeatMesh.Proofs.History
import HeartbeatMesh.Proofs.Node.Refusal

/-!
# The table of nodes

Whatever happens to a mesh, its table holds the ids that have been started and not stopped since,
and under each id a node that carries it (`mem_operateAll`, `Keyed.operateAll`). So the listings
agree with each other, in whatever order the table is gone through.

Starting a node and stopping one are sequences of changes to the mesh. They are spelled out here
(`launch`, `halt`) to show that a start under an id that is in use, and a stop of an id that is not,
fail before the first change (`run_launch`, `run_halt`).
-/

namespace HeartbeatMesh.Mesh

variable {γ : Type} {m : Mesh γ} {i k l : String}

/-! ## Change by change -/

/-- Starts a node by changing the mesh on the way: the node subscribes, it is put into the table and
it publishes. What has been changed before a failure stays changed. -/
def launch (nodeId : String) (now : Float) (requestId : String) (source : γ) :
    ExceptT TableError (StateM (Mesh γ)) Unit := do
  if (← get).members.contains nodeId then
    throw (.nodeExists nodeId)
  let subscription ← modifyGet fun m ↦ (m.bus.subscribe.1, { m with bus := m.bus.subscribe.2 })
  let (node, messages) := (Node.new nodeId now (← get).settings).startup requestId
  modify fun m ↦ { m with members := m.members.insert nodeId ⟨node, source, subscription⟩ }
  modify fun m ↦ { m with bus := m.bus.publishAll (unitsOf nodeId messages) }

/-- Stops a node by changing the mesh on the way: the node is taken from the table, and then its
subscription ends. -/
def halt (nodeId : String) : ExceptT TableError (StateM (Mesh γ)) Unit := do
  match (← get).members[nodeId]? with
  | none => throw (.nodeNotFound nodeId)
  | some member =>
    modify fun m ↦ { m with members := m.members.erase nodeId }
    modify fun m ↦ { m with bus := m.bus.unsubscribe member.subscription }

/-- A start fails before the first change. -/
theorem run_launch (m : Mesh γ) (nodeId : String) (now : Float) (requestId : String) (source : γ) :
    (launch nodeId now requestId source).run.run m
      = match m.start nodeId now requestId source with
        | .error e => (.error e, m)
        | .ok m' => (.ok (), m') := by
  rw [start]
  change (ite (m.members.contains nodeId = true) _ _ : StateM (Mesh γ) _) m = _
  split_ifs <;> rfl

/-- A stop fails before the first change. -/
theorem run_halt (m : Mesh γ) (nodeId : String) :
    (halt nodeId).run.run m
      = match m.stop nodeId with
        | .error e => (.error e, m)
        | .ok m' => (.ok (), m') := by
  rw [stop]
  change (match m.members[nodeId]? with | none => _ | some member => _ : StateM (Mesh γ) _) m = _
  cases m.members[nodeId]? <;> rfl

/-- The node that starts. -/
theorem start_of_not_mem (h : k ∉ m.members) (now : Float) (requestId : String) (source : γ) :
    m.start k now requestId source = .ok
      { m with
        bus := m.bus.subscribe.2.publishAll
          (unitsOf k [.stateRequest requestId, .heartbeat ⟨k, now, false⟩])
        members := m.members.insert k
          ⟨((Node.new k now m.settings).startup requestId).1, source, m.bus.subscribed⟩ } := by
  rw [start, if_neg fun hmem ↦ h (Std.ExtTreeMap.contains_iff_mem.mp hmem)]
  rfl

theorem start_of_mem (h : k ∈ m.members) (now : Float) (requestId : String) (source : γ) :
    m.start k now requestId source = .error (.nodeExists k) := by
  rw [start, if_pos (Std.ExtTreeMap.contains_iff_mem.mpr h)]

theorem stop_of_not_mem (h : k ∉ m.members) : m.stop k = .error (.nodeNotFound k) := by
  rw [stop, Std.ExtTreeMap.getElem?_eq_none h]

theorem exists_stop_of_mem (h : k ∈ m.members) :
    ∃ subscription, m.stop k = .ok
      { m with bus := m.bus.unsubscribe subscription, members := m.members.erase k } := by
  obtain ⟨member, hmember⟩ := IdMap.mem_iff.mp h
  exact ⟨member.subscription, by rw [stop, hmember]⟩

/-! ## Listings -/

/-- The nodes of the table carry the ids that they stand under. -/
def Keyed (m : Mesh γ) : Prop :=
  ∀ (k : String) (member : Member γ), m.members[k]? = some member → member.node.id = k

/-- Nodes in the order of their ids. -/
def sortNodes (ns : List Node) : List Node := ns.mergeSort fun a b ↦ decide (a.id ≤ b.id)

theorem ids_eq (m : Mesh γ) : m.ids = m.members.toList.map (·.1) :=
  Std.ExtTreeMap.map_fst_toList_eq_keys.symm

/-- A list without repetitions that has the ids of the table as its members is the listing, up to
the order. -/
theorem ids_perm {ids : List String} (h : ids.Nodup) (hmem : ∀ k, k ∈ m.members ↔ k ∈ ids) :
    m.ids.Perm ids :=
  (List.perm_ext_iff_of_nodup m.members.pairwise_keys.nodup h).mpr fun k ↦
    Std.ExtTreeMap.mem_keys.trans (hmem k)

theorem nodes_eq (m : Mesh γ) : m.nodes = m.members.toList.map (·.2.node) := by
  rw [nodes, IdMap.values_eq_map_snd, List.map_map]
  rfl

theorem node?_of_mem_toList {e : String × Member γ} (he : e ∈ m.members.toList) :
    m.node? e.1 = some e.2.node := by
  rw [node?, Std.ExtTreeMap.mem_toList_iff_getElem?_eq_some.mp he, Option.map_some]

/-- The nodes are listed in the order of the ids. -/
theorem map_node?_ids (m : Mesh γ) : m.ids.map m.node? = m.nodes.map some := by
  rw [ids_eq, nodes_eq, List.map_map, List.map_map]
  exact List.map_congr_left fun e he ↦ node?_of_mem_toList he

theorem Keyed.id_of_mem_toList (hm : m.Keyed) {e : String × Member γ} (he : e ∈ m.members.toList) :
    e.2.node.id = e.1 :=
  hm e.1 e.2 (Std.ExtTreeMap.mem_toList_iff_getElem?_eq_some.mp he)

theorem Keyed.map_id_nodes (hm : m.Keyed) : m.nodes.map (·.id) = m.ids := by
  rw [ids_eq, nodes_eq, List.map_map]
  exact List.map_congr_left fun e he ↦ hm.id_of_mem_toList he

/-- The masters are those of the listed ids whose nodes are master. -/
theorem Keyed.masters_eq (hm : m.Keyed) :
    m.masters = m.ids.filter fun k ↦ (m.node? k).any (·.self.isMaster) := by
  rw [masters, ids_eq, nodes_eq, List.filter_map, List.filter_map, List.map_map]
  have hsame : m.members.toList.filter ((·.self.isMaster) ∘ (·.2.node))
      = m.members.toList.filter ((fun k ↦ (m.node? k).any (·.self.isMaster)) ∘ (·.1)) := by
    refine List.filter_congr fun e he ↦ ?_
    simp [node?_of_mem_toList he]
  rw [hsame]
  exact List.map_congr_left fun e he ↦ hm.id_of_mem_toList (List.mem_of_mem_filter he)

/-- In whatever order the table is gone through, the nodes are listed in the order of their ids. -/
theorem Keyed.sortNodes_eq (hm : m.Keyed) (e : Enumeration) :
    sortNodes ((e.values m.members).map (·.node)) = m.nodes := by
  have hperm : ((e.values m.members).map (·.node)).Perm m.nodes := (e.values_perm _).map _
  have hsorted : (sortNodes ((e.values m.members).map (·.node))).Perm m.nodes :=
    (List.mergeSort_perm _ _).trans hperm
  have hids : (m.nodes.map (·.id)).Pairwise (· < ·) := hm.map_id_nodes ▸ m.members.pairwise_keys
  -- Two lists in order with the same members are the same list, since no two nodes have one id.
  refine hsorted.eq_of_pairwise (fun a b ha hb hab hba ↦ ?_) (pairwise_mergeSort_key Node.id _)
    ((List.pairwise_map.mp hids).imp le_of_lt)
  exact List.inj_on_of_nodup_map hids.nodup (hsorted.mem_iff.mp ha) hb (String.le_antisymm hab hba)

/-! ## Operations -/

/-- What is done with a mesh: something happens to it, or it is shut down. -/
inductive Operation (γ : Type) where
  | event (e : Event γ)
  | shutdown

/-- The operation starts the id. -/
def Operation.Starts (k : String) : Operation γ → Prop
  | .event (.start nodeId _ _ _) => nodeId = k
  | _ => False

/-- The operation stops the id, alone or with all others. -/
def Operation.Stops (k : String) : Operation γ → Prop
  | .event (.stop nodeId) => nodeId = k
  | .shutdown => True
  | _ => False

/-- Does something with the mesh. -/
def operate [WordSource γ] (m : Mesh γ) : Operation γ → Mesh γ
  | .event e => m.step e
  | .shutdown => m.shutdown

/-- Does one thing after the other. -/
def operateAll [WordSource γ] (m : Mesh γ) (history : List (Operation γ)) : Mesh γ :=
  history.foldl operate m

/-- The id has been started, and it has not been stopped since. -/
def Operation.Runs (k : String) (history : List (Operation γ)) : Prop :=
  ∃ before o after, history = before ++ o :: after ∧ o.Starts k ∧ ∀ o' ∈ after, ¬o'.Stops k

theorem Operation.runs_concat (k : String) (history : List (Operation γ)) (o : Operation γ) :
    Runs k (history ++ [o]) ↔ o.Starts k ∨ ¬o.Stops k ∧ Runs k history :=
  exists_since_concat_iff history o

/-! ## What an operation does to the table -/

/-- One mesh has become another one without changing which ids run, or who runs under them. -/
structure Stays (m m' : Mesh γ) : Prop where
  mem : ∀ k, k ∈ m'.members ↔ k ∈ m.members
  keyed : m.Keyed → m'.Keyed
  settings : m'.settings = m.settings

theorem Stays.of_members {m' : Mesh γ} (h : m'.members = m.members)
    (hs : m'.settings = m.settings) : m.Stays m' :=
  ⟨fun _ ↦ by rw [h], fun hm ↦ by rwa [Keyed, h], hs⟩

theorem Stays.trans {m₁ m₂ : Mesh γ} (h₁ : m.Stays m₁) (h₂ : m₁.Stays m₂) : m.Stays m₂ where
  mem k := (h₂.mem k).trans (h₁.mem k)
  keyed := h₂.keyed ∘ h₁.keyed
  settings := h₂.settings.trans h₁.settings

/-- A node goes on under its id. -/
theorem Stays.insert {member member' : Member γ} (hi : m.members[i]? = some member)
    (hid : member'.node.id = member.node.id) (bus : Bus) :
    m.Stays { m with bus, members := m.members.insert i member' } where
  mem k := by
    have hmem : i ∈ m.members := IdMap.mem_iff.mpr ⟨member, hi⟩
    simp only [Std.ExtTreeMap.mem_insert, Std.LawfulEqOrd.compare_eq_iff_eq]
    exact or_iff_right_of_imp (· ▸ hmem)
  keyed hm k member'' hk := by
    rcases IdMap.of_getElem?_insert hk with ⟨rfl, rfl⟩ | ⟨-, hk⟩
    · rw [hid, hm i member hi]
    · exact hm k member'' hk
  settings := rfl

theorem Stays.ids_eq {m' : Mesh γ} (h : m.Stays m') : m'.ids = m.ids :=
  (ids_perm m.members.pairwise_keys.nodup fun k ↦
      (h.mem k).trans Std.ExtTreeMap.mem_keys.symm).eq_of_pairwise
    (fun _ _ _ _ hab hba ↦ absurd (hab.trans hba) (lt_irrefl _))
    m'.members.pairwise_keys m.members.pairwise_keys

theorem stays_tick [WordSource γ] (m : Mesh γ) (i : String) (now : Float) :
    m.Stays (m.tick i now) := by
  rw [tick]
  cases hi : m.members[i]? with
  | none => exact .of_members rfl rfl
  | some member => exact .insert hi (member.node.ticking_tick now member.source).id _

theorem stays_deliver (m : Mesh γ) (i : String) : m.Stays (m.deliver i) := by
  rw [deliver]
  cases hi : m.members[i]? with
  | none => exact .of_members rfl rfl
  | some member =>
    dsimp only
    split
    · next data bus _ =>
      exact .insert hi (member.node.meeting_meet (.unit data : Occasion WordCycle)).id _
    · exact .of_members rfl rfl

theorem stays_drain (m : Mesh γ) (i : String) : m.Stays (m.drain i) := by
  rw [drain]
  generalize 2 * m.unread i = fuel
  induction fuel generalizing m with
  | zero => exact .of_members rfl rfl
  | succ fuel ih =>
    rw [drain.go]
    split_ifs
    · exact .of_members rfl rfl
    · exact (m.stays_deliver i).trans (ih _)

theorem stays_foldl_drain (m : Mesh γ) (is : List String) : m.Stays (is.foldl drain m) := by
  induction is generalizing m with
  | nil => exact .of_members rfl rfl
  | cons i is ih => exact (m.stays_drain i).trans (ih _)

/-- Deliveries let everybody stay. -/
theorem stays_settle (m : Mesh γ) : m.Stays m.settle := by
  rw [settle]
  generalize 5 = fuel
  induction fuel generalizing m with
  | zero => exact .of_members rfl rfl
  | succ fuel ih =>
    rw [settle.go]
    split
    · exact .of_members rfl rfl
    · exact (m.stays_foldl_drain _).trans (ih _)

/-- The nodes with some ids are gone from the table. Nothing else has changed in it, and nothing has
been published. -/
structure Loses (m m' : Mesh γ) (gone : List String) : Prop where
  members : ∀ k : String, m'.members[k]? = if k ∈ gone then none else m.members[k]?
  silent : m'.bus.oldest = m.bus.oldest ∧ m'.bus.kept = m.bus.kept
  settings : m'.settings = m.settings

theorem loses_stop (m : Mesh γ) (k : String) : m.Loses ((m.stop k).toOption.getD m) [k] := by
  by_cases hk : k ∈ m.members
  · obtain ⟨subscription, hstop⟩ := exists_stop_of_mem hk
    rw [hstop]
    refine ⟨fun l ↦ ?_, ⟨rfl, rfl⟩, rfl⟩
    change (m.members.erase k)[l]? = _
    simp only [IdMap.getElem?_erase, List.mem_singleton, eq_comm]
  · rw [stop_of_not_mem hk]
    refine ⟨fun l ↦ ?_, ⟨rfl, rfl⟩, rfl⟩
    change m.members[l]? = _
    split_ifs with hl
    · rw [List.mem_singleton.mp hl, Std.ExtTreeMap.getElem?_eq_none hk]
    · rfl

theorem exists_run_halt (hk : k ∈ m.members) :
    ∃ m', (halt k).run.run m = (.ok (), m') ∧ m.Loses m' [k] := by
  have hloses := m.loses_stop k
  obtain ⟨subscription, hstop⟩ := exists_stop_of_mem hk
  rw [hstop] at hloses
  refine ⟨_, ?_, hloses⟩
  rw [run_halt, hstop]
  rfl

theorem loses_foldl_stop (m : Mesh γ) (ks : List String) :
    m.Loses (ks.foldl (fun m k ↦ (m.stop k).toOption.getD m) m) ks := by
  induction ks generalizing m with
  | nil => exact ⟨fun _ ↦ (if_neg List.not_mem_nil).symm, ⟨rfl, rfl⟩, rfl⟩
  | cons k ks ih =>
    have hk := m.loses_stop k
    have hks := ih ((m.stop k).toOption.getD m)
    refine ⟨fun l ↦ ?_, ⟨hks.silent.1.trans hk.silent.1, hks.silent.2.trans hk.silent.2⟩,
      hks.settings.trans hk.settings⟩
    rw [List.foldl_cons, hks.members, hk.members]
    by_cases hl : l ∈ ks <;> simp [hl]

/-- A mesh that is shut down has no nodes, and they have gone without a word. -/
theorem loses_shutdown (m : Mesh γ) : m.Loses m.shutdown m.ids := m.loses_foldl_stop m.ids

theorem shutdown_members (m : Mesh γ) : m.shutdown.members = ∅ := by
  refine Std.ExtTreeMap.ext_getElem? fun k ↦ ?_
  rw [m.loses_shutdown.members, Std.ExtTreeMap.getElem?_empty]
  split_ifs with hk
  · rfl
  · rwa [ids, Std.ExtTreeMap.mem_keys, Std.ExtTreeMap.mem_iff_isSome_getElem?,
      Option.not_isSome_iff_eq_none] at hk

/-- Whoever is not subscribed to the bus is not after nodes have been stopped. -/
theorem isSubscribed_foldl_stop (m : Mesh γ) (ks : List String) {i : Nat}
    (hi : m.bus.isSubscribed i = false) :
    (ks.foldl (fun m k ↦ (m.stop k).toOption.getD m) m).bus.isSubscribed i = false := by
  induction ks generalizing m with
  | nil => exact hi
  | cons k ks ih =>
    rw [List.foldl_cons]
    refine ih _ ?_
    by_cases hk : k ∈ m.members
    · obtain ⟨subscription, hstop⟩ := exists_stop_of_mem hk
      rw [hstop]
      change (m.bus.unsubscribe subscription).isSubscribed i = false
      rw [← Bool.not_eq_true, Bus.isSubscribed_unsubscribe, not_and, Bool.not_eq_true]
      exact fun _ ↦ hi
    · rw [stop_of_not_mem hk]
      exact hi

/-- A node that is among those to stop loses its subscription. -/
theorem isSubscribed_of_mem_foldl_stop (m : Mesh γ) {ks : List String} {member : Member γ}
    (hk : k ∈ ks) (hmember : m.members[k]? = some member) :
    (ks.foldl (fun m k ↦ (m.stop k).toOption.getD m) m).bus.isSubscribed member.subscription
      = false := by
  induction ks generalizing m with
  | nil => cases hk
  | cons l ks ih =>
    rw [List.foldl_cons]
    by_cases hl : l = k
    · subst hl
      refine isSubscribed_foldl_stop _ _ ?_
      rw [stop, hmember]
      change (m.bus.unsubscribe member.subscription).isSubscribed member.subscription = false
      rw [← Bool.not_eq_true, Bus.isSubscribed_unsubscribe]
      exact fun h ↦ h.1 rfl
    · refine ih _ ((List.mem_cons.mp hk).resolve_left (Ne.symm hl)) ?_
      rw [(m.loses_stop l).members, if_neg (mt List.mem_singleton.mp (Ne.symm hl)), hmember]

theorem isSubscribed_shutdown {member : Member γ} (hmember : m.members[k]? = some member) :
    m.shutdown.bus.isSubscribed member.subscription = false :=
  m.isSubscribed_of_mem_foldl_stop
    (Std.ExtTreeMap.mem_keys.mpr (IdMap.mem_iff.mpr ⟨member, hmember⟩)) hmember

theorem Loses.mem {m' : Mesh γ} {gone : List String} (h : m.Loses m' gone) (k : String) :
    k ∈ m'.members ↔ k ∉ gone ∧ k ∈ m.members := by
  simp only [Std.ExtTreeMap.mem_iff_isSome_getElem?, h.members]
  split_ifs with hk <;> simp [hk]

theorem Loses.keyed {m' : Mesh γ} {gone : List String} (h : m.Loses m' gone) (hm : m.Keyed) :
    m'.Keyed := by
  intro k member hk
  rw [h.members] at hk
  split_ifs at hk
  exact hm k member hk

/-- A start leaves everybody else alone. -/
theorem getElem?_start_of_not_mem (h : k ∉ m.members) (now : Float) (requestId : String)
    (source : γ) :
    ∃ m', m.start k now requestId source = .ok m' ∧ m'.settings = m.settings ∧
      ∀ l : String, m'.members[l]? =
        if k = l then some ⟨((Node.new k now m.settings).startup requestId).1, source,
          m.bus.subscribed⟩
        else m.members[l]? :=
  ⟨_, start_of_not_mem h now requestId source, rfl, fun _ ↦ IdMap.getElem?_insert⟩

/-- What an operation does to the table: the ids that it starts run, those that it stops do not, and
nobody comes to run under an id that is not his. -/
structure Effect (o : Operation γ) (m m' : Mesh γ) : Prop where
  mem : ∀ k, k ∈ m'.members ↔ o.Starts k ∨ ¬o.Stops k ∧ k ∈ m.members
  keyed : m.Keyed → m'.Keyed
  settings : m'.settings = m.settings

theorem Stays.effect {o : Operation γ} {m' : Mesh γ} (h : m.Stays m') (hstarts : ∀ k, ¬o.Starts k)
    (hstops : ∀ k, ¬o.Stops k) : Effect o m m' where
  mem k := by
    rw [h.mem, or_iff_right (hstarts k), and_iff_right (hstops k)]
  keyed := h.keyed
  settings := h.settings

theorem Loses.effect {o : Operation γ} {m' : Mesh γ} {gone : List String} (h : m.Loses m' gone)
    (hstarts : ∀ k, ¬o.Starts k) (hgone : ∀ k ∈ m.members, k ∈ gone ↔ o.Stops k) :
    Effect o m m' where
  mem k := by
    rw [h.mem, or_iff_right (hstarts k)]
    exact and_congr_left fun hk ↦ not_congr (hgone k hk)
  keyed := h.keyed
  settings := h.settings

/-- A start under a free id is the only way for an id to come in. -/
theorem effect_start (m : Mesh γ) (k : String) (now : Float) (requestId : String) (source : γ) :
    Effect (.event (.start k now requestId source)) m
      ((m.start k now requestId source).toOption.getD m) := by
  by_cases hk : k ∈ m.members
  · rw [start_of_mem hk]
    refine ⟨fun l ↦ ⟨fun hl ↦ .inr ⟨id, hl⟩, ?_⟩, fun hm ↦ hm, rfl⟩
    rintro (rfl | ⟨-, hl⟩)
    · exact hk
    · exact hl
  · obtain ⟨m', hstart, hsettings, hmembers⟩ := getElem?_start_of_not_mem hk now requestId source
    rw [hstart]
    refine ⟨fun l ↦ ?_, fun hm l member hl ↦ ?_, hsettings⟩
    · change l ∈ m'.members ↔ k = l ∨ ¬False ∧ l ∈ m.members
      rw [Std.ExtTreeMap.mem_iff_isSome_getElem?, hmembers, Std.ExtTreeMap.mem_iff_isSome_getElem?]
      split_ifs with hkl <;> simp [hkl]
    · change m'.members[l]? = some member at hl
      rw [hmembers] at hl
      split_ifs at hl with hkl
      · rw [← Option.some.inj hl, ← hkl]
        rfl
      · exact hm l member hl

variable [WordSource γ]

/-- **Every operation does what it says.** -/
theorem effect_operate (m : Mesh γ) (o : Operation γ) : Effect o m (m.operate o) := by
  rcases o with (⟨k, now, requestId, source⟩ | k | ⟨k, now⟩ | k | data) | _
  · exact m.effect_start k now requestId source
  · exact (m.loses_stop k).effect (fun _ ↦ id) fun l _ ↦ List.mem_singleton.trans eq_comm
  · exact (m.stays_tick k now).effect (fun _ ↦ id) fun _ ↦ id
  · exact (m.stays_deliver k).effect (fun _ ↦ id) fun _ ↦ id
  · exact Stays.effect (.of_members rfl rfl) (fun _ ↦ id) fun _ ↦ id
  · exact m.loses_shutdown.effect (fun _ ↦ id) fun l hl ↦
      iff_of_true (Std.ExtTreeMap.mem_keys.mpr hl) trivial

/-! ## What a history does to the table -/

theorem operateAll_concat (m : Mesh γ) (history : List (Operation γ)) (o : Operation γ) :
    m.operateAll (history ++ [o]) = (m.operateAll history).operate o := by
  rw [operateAll, List.foldl_append]
  rfl

/-- **The table holds the ids that have been started and not stopped since.** -/
theorem mem_operateAll (h : m.members = ∅) (history : List (Operation γ)) (k : String) :
    k ∈ (m.operateAll history).members ↔ Operation.Runs k history := by
  induction history using List.reverseRecOn with
  | nil =>
    refine iff_of_false (h ▸ Std.ExtTreeMap.not_mem_empty) ?_
    rintro ⟨before, o, after, heq, -⟩
    simp at heq
  | append_singleton history o ih =>
    rw [operateAll_concat, (effect_operate _ o).mem, ih, Operation.runs_concat]

theorem Keyed.operateAll (hm : m.Keyed) (history : List (Operation γ)) :
    (m.operateAll history).Keyed := by
  induction history using List.reverseRecOn with
  | nil => exact hm
  | append_singleton history o ih =>
    rw [operateAll_concat]
    exact (effect_operate _ o).keyed ih

theorem settings_operateAll (m : Mesh γ) (history : List (Operation γ)) :
    (m.operateAll history).settings = m.settings := by
  induction history using List.reverseRecOn with
  | nil => rfl
  | append_singleton history o ih => rw [operateAll_concat, (effect_operate _ o).settings, ih]

/-- The starts and stops of a mesh are what they are change by change. -/
theorem step_eq_run (m : Mesh γ) (k : String) (now : Float) (requestId : String) (source : γ) :
    m.step (.start k now requestId source) = ((launch k now requestId source).run.run m).2 ∧
      m.step (.stop k) = ((halt k).run.run m).2 := by
  rw [run_launch, run_halt, step, step]
  constructor
  · cases m.start k now requestId source <;> rfl
  · cases m.stop k <;> rfl

/-- Starts under ids that are in use come to nothing, however many there are. -/
theorem run_of_starts_mem {drawn : List (Event γ)}
    (h : ∀ e ∈ drawn, ∃ k ∈ m.members, Operation.Starts k (.event e)) : m.run drawn = m := by
  induction drawn with
  | nil => rfl
  | cons e drawn ih =>
    obtain ⟨⟨k, hk, hstart⟩, hdrawn⟩ := List.forall_mem_cons.mp h
    have hstep : m.step e = m := by
      cases e with
      | start l now requestId source =>
        obtain rfl : l = k := hstart
        rw [step, start_of_mem hk]
        rfl
      | _ => cases hstart
    change (m.step e).run drawn = m
    rw [hstep]
    exact ih hdrawn

/-- **The table of nodes.** Let anything be done with a mesh that has no nodes at first: nodes are
started and stopped, all of them are shut down, and in between heartbeats come, units are delivered
and others publish. A node whose id is drawn is started under one drawn id after the other until one
is free.

* Starts and stops come to what they are change by change. The table holds exactly the ids that have
  been started and not stopped since, and under each of them a node that carries it.
* The ids are listed in strictly ascending order, the nodes one for each listed id in the same
  order, and the masters are those of the listed ids whose nodes are master. This is what sorting
  makes of the table in whatever order it is gone through.
* Starting an id that runs fails with `nodeExists` and leaves the whole mesh as it is, and so do any
  number of such starts. Stopping it takes it from the table, leaves all other nodes as they are and
  publishes nothing.
* Stopping an id that does not run fails with `nodeNotFound` and leaves the whole mesh as it is.
  Starting it, whether it has run before or not, gives it a node that knows itself alone, with
  nobody standing, no votes and no mastership, and leaves all other nodes as they are.
* Shutting down empties the table and publishes nothing. -/
theorem table_of_history (bus : Bus) (settings : Settings) (history : List (Operation γ)) :
    let m := (Mesh.mk bus settings ∅).operateAll history
    ((∀ k now requestId source,
          m.step (.start k now requestId source) = ((launch k now requestId source).run.run m).2 ∧
            m.step (.stop k) = ((halt k).run.run m).2) ∧
        ∀ k : String, (k ∈ m.members ↔ Operation.Runs k history) ∧
          ∀ member, m.members[k]? = some member → member.node.id = k) ∧
      (m.ids.Pairwise (· < ·) ∧ (∀ k, k ∈ m.ids ↔ k ∈ m.members) ∧
        m.ids.map m.node? = m.nodes.map some ∧ m.nodes.map (·.id) = m.ids ∧
        (m.masters = m.ids.filter fun k ↦ (m.node? k).any (·.self.isMaster)) ∧
        ∀ e : Enumeration, Node.sortIds (e.keys m.members) = m.ids ∧
          sortNodes ((e.values m.members).map (·.node)) = m.nodes) ∧
      ((∀ k ∈ m.members,
          (∀ now requestId source,
            (launch k now requestId source).run.run m = (.error (.nodeExists k), m)) ∧
          ∃ m', (halt k).run.run m = (.ok (), m') ∧ k ∉ m'.members ∧
            (∀ l : String, l ≠ k → m'.members[l]? = m.members[l]?) ∧
            m'.bus.oldest = m.bus.oldest ∧ m'.bus.kept = m.bus.kept) ∧
        ∀ drawn : List (Event γ), (∀ e ∈ drawn, ∃ k ∈ m.members, Operation.Starts k (.event e)) →
          m.run drawn = m) ∧
      (∀ k ∉ m.members,
        (halt k).run.run m = (.error (.nodeNotFound k), m) ∧
        ∀ now requestId source, ∃ m', (launch k now requestId source).run.run m = (.ok (), m') ∧
          m'.node? k = some
            { self := ⟨k, now, false⟩
              view := (∅ : IdMap NodeRecord).insert k ⟨k, now, false⟩
              candidates := ∅
              votes := ∅
              correlator := ⟨(∅ : Std.ExtTreeSet String).insert requestId⟩
              settings } ∧
          ∀ l : String, l ≠ k → m'.members[l]? = m.members[l]?) ∧
      m.shutdown.members = ∅ ∧ m.shutdown.bus.oldest = m.bus.oldest ∧
        m.shutdown.bus.kept = m.bus.kept := by
  intro m
  have hkeyed : m.Keyed := by
    refine Keyed.operateAll (fun k member hk ↦ ?_) history
    rw [Std.ExtTreeMap.getElem?_empty] at hk
    cases hk
  have hsettings : m.settings = settings := settings_operateAll _ history
  refine ⟨⟨m.step_eq_run, fun k ↦ ⟨mem_operateAll rfl history k, hkeyed k⟩⟩, ?_, ⟨?_, ?_⟩, ?_, ?_⟩
  · refine ⟨m.members.pairwise_keys, fun k ↦ Std.ExtTreeMap.mem_keys, m.map_node?_ids,
      hkeyed.map_id_nodes, hkeyed.masters_eq, fun e ↦ ⟨e.sortIds_keys _, hkeyed.sortNodes_eq e⟩⟩
  · intro k hk
    refine ⟨fun now requestId source ↦ ?_, ?_⟩
    · rw [run_launch, start_of_mem hk]
    · obtain ⟨m', hrun, hloses⟩ := exists_run_halt hk
      refine ⟨m', hrun, ?_, fun l hl ↦ ?_, hloses.silent⟩
      · rw [hloses.mem]
        exact fun hmem ↦ hmem.1 (List.mem_singleton_self k)
      · rw [hloses.members, if_neg (mt List.mem_singleton.mp hl)]
  · intro drawn
    exact run_of_starts_mem
  · intro k hk
    refine ⟨?_, fun now requestId source ↦ ?_⟩
    · rw [run_halt, stop_of_not_mem hk]
    · obtain ⟨m', hstart, -, hmembers⟩ := getElem?_start_of_not_mem hk now requestId source
      refine ⟨m', ?_, ?_, fun l hl ↦ ?_⟩
      · rw [run_launch, hstart]
      · rw [node?, hmembers, if_pos rfl, ← hsettings]
        rfl
      · rw [hmembers, if_neg (Ne.symm hl)]
  · exact ⟨m.shutdown_members, m.loses_shutdown.silent⟩

/-- Two nodes are started, and one of them once more; the other one hears of it, is stopped and is
started again. -/
def restart : List (Operation WordCycle) :=
  [.event (.start "b" 100 "r" ⟨#[], 0⟩), .event (.start "a" 101 "s" ⟨#[], 0⟩),
    .event (.start "a" 102 "t" ⟨#[], 0⟩), .event (.deliver "b"), .event (.deliver "b"),
    .event (.stop "b"), .event (.start "b" 110 "u" ⟨#[], 0⟩)]

/-- Both run in the end, a start of either of them fails, and so does a stop of a third one. -/
theorem table_of_history_restart :
    let m := (Mesh.mk { slots := 8 } ⟨5, false⟩ ∅).operateAll restart
    m.ids = ["a", "b"] ∧ Operation.Runs "a" restart ∧ Operation.Runs "b" restart ∧
      (launch "b" 120 "v" ⟨#[], 0⟩).run.run m = (.error (.nodeExists "b"), m) ∧
      (halt "c").run.run m = (.error (.nodeNotFound "c"), m) := by
  intro m
  have hids : m.ids = ["a", "b"] := by decide +kernel
  obtain ⟨⟨-, hruns⟩, ⟨-, hmem, -⟩, ⟨hin, -⟩, hout, -⟩ :=
    table_of_history { slots := 8 } ⟨5, false⟩ restart
  have ha : "a" ∈ m.members := (hmem "a").mp (hids ▸ by decide)
  have hb : "b" ∈ m.members := (hmem "b").mp (hids ▸ by decide)
  have hc : "c" ∉ m.members := fun hc ↦ absurd (hids ▸ (hmem "c").mpr hc) (by decide)
  exact ⟨hids, ((hruns "a").1).mp ha, ((hruns "b").1).mp hb, (hin "b" hb).1 120 "v" ⟨#[], 0⟩,
    (hout "c" hc).1⟩

end HeartbeatMesh.Mesh

import HeartbeatMesh.Proofs.Node.Enumerated
import HeartbeatMesh.Proofs.Node.Refusal

/-!
# The order of arrival

In a round a node hears heartbeats of peers that are no master, candidacies and votes of others.
Each of these writes into a slot of its own: the record of a peer, the candidacy of a candidate, the
vote of a voter (`Letter.slot?`). Letters for different slots can change places (`take_comm`). This
is not quite a matter of course, since a heartbeat also makes the node stand unless its view flags a
master. But the records of a round flag nobody, so a node that stands after one of them stands after
all of them, whichever comes first (`volunteer_learn`).

So the state in which a node comes to its next heartbeat does not depend on the order in which the
letters of a round have come, and neither does what it publishes then.
-/

namespace HeartbeatMesh

/-! ## Letters of a round -/

/-- What a letter of a round writes to. -/
inductive Slot where
  | record (peer : String)
  | candidacy (candidate : String)
  | vote (voter : String)
  deriving DecidableEq

/-- The slot that a letter writes to, if it is part of a round. -/
def Letter.slot? (l : Letter) : Option Slot :=
  match l.message with
  | .heartbeat r => some (.record r.nodeId)
  | .candidacy c => some (.candidacy c.nodeId)
  | .vote _ => some (.vote l.sender)
  | _ => none

/-- The letter is a heartbeat of a peer of `i` that is no master, a dated candidacy of another node,
or a vote of another node. -/
inductive Letter.InRound (i : String) : Letter → Prop
  | heartbeat {sender : String} {r : NodeRecord} (hid : r.nodeId ≠ i)
      (hmaster : r.isMaster = false) : InRound i ⟨sender, .heartbeat r⟩
  | candidacy {sender : String} {c : Candidacy} (hid : c.nodeId ≠ i)
      (hfinite : c.timestamp.isFinite = true) : InRound i ⟨sender, .candidacy c⟩
  | vote {sender candidate : String} (hsender : sender ≠ i) : InRound i ⟨sender, .vote candidate⟩

namespace Node

variable {n : Node} {r r' : NodeRecord} {c c' : Candidacy} {l l' : Letter}
  {voter voter' v v' : String}

/-! ## What they do -/

/-- The node after a letter. -/
def take (n : Node) (l : Letter) : Node := (n.accept l.sender l.message).1

/-- A candidacy is put up. -/
def enroll (n : Node) (c : Candidacy) : Node :=
  { n with candidates := n.candidates.insert c.nodeId c }

/-- A vote is written down. -/
def record (n : Node) (voter v : String) : Node := { n with votes := n.votes.insert voter v }

/-- The node stands unless its view flags a master. -/
def volunteer (n : Node) : Node := if n.masterKnown then n else n.nominate.1

theorem take_heartbeat {sender : String} (hid : r.nodeId ≠ n.id) :
    n.take ⟨sender, .heartbeat r⟩ = (n.learn r).volunteer := by
  rw [take, accept, handle_heartbeat hid, volunteer]
  split_ifs <;> rfl

theorem take_candidacy {sender : String} (hfinite : c.timestamp.isFinite = true) :
    n.take ⟨sender, .candidacy c⟩ = n.enroll c := by
  rw [take, accept, handle, if_pos hfinite]
  rfl

theorem take_vote : n.take ⟨voter, .vote v⟩ = n.record voter v := rfl

/-- Nomination is an entry where nothing stands. -/
theorem nominate_fst (n : Node) :
    n.nominate.1
      = { n with candidates := n.candidates.insertIfNew n.id ⟨n.id, n.self.heartbeat⟩ } := by
  have hcandidates : n.nominate.1.candidates
      = n.candidates.insertIfNew n.id ⟨n.id, n.self.heartbeat⟩ := by
    refine Std.ExtTreeMap.ext_getElem? fun k ↦ ?_
    rw [getElem?_nominate_candidates, IdMap.getElem?_insertIfNew, nominate_snd]
    by_cases hk : k = n.id
    · subst hk
      cases n.candidates[n.id]? <;> simp
    · simp [hk, Ne.symm hk]
  rw [← hcandidates, nominate]
  split <;> rfl

@[simp] theorem volunteer_id (n : Node) : n.volunteer.id = n.id := by
  rw [volunteer]
  split_ifs
  · rfl
  · rw [Node.id, nominate_self]
    rfl

/-! ## Changing places -/

theorem nominate_learn (n : Node) (r : NodeRecord) :
    (n.learn r).nominate.1 = n.nominate.1.learn r := by
  rw [nominate_fst, nominate_fst]
  rfl

/-- A node that stands is nominated no more. -/
theorem nominate_nominate (n : Node) : n.nominate.1.nominate.1 = n.nominate.1 := by
  have hid : n.nominate.1.id = n.id := by
    rw [Node.id, nominate_self]
    rfl
  rw [nominate_fst n.nominate.1, hid, nominate_self, nominate_fst n, IdMap.insertIfNew_insertIfNew]

@[simp] theorem masterKnown_nominate (n : Node) : n.nominate.1.masterKnown = n.masterKnown := by
  rw [masterKnown, nominate_view, masterKnown]

/-- A record that flags nobody brings no master into the view. -/
theorem masterKnown_learn (hmaster : r.isMaster = false) (hn : n.masterKnown = false) :
    (n.learn r).masterKnown = false := by
  rw [Bool.eq_false_iff, ne_eq, masterKnown_iff] at hn ⊢
  rintro ⟨p, hp⟩
  rw [flags_learn, hmaster] at hp
  split_ifs at hp
  exact hn ⟨p, hp⟩

/-- A node that stands before such a record stands after it as well. -/
theorem volunteer_learn (hmaster : r.isMaster = false) :
    (n.volunteer.learn r).volunteer = (n.learn r).volunteer := by
  cases hn : n.masterKnown with
  | true => rw [volunteer.eq_def n, if_pos hn]
  | false =>
    -- No master is known before or after, so the node is nominated twice, which is once.
    have hlearn := masterKnown_learn hmaster hn
    rw [volunteer.eq_def n, hn, if_neg Bool.false_ne_true, ← nominate_learn, volunteer, volunteer,
      masterKnown_nominate, hlearn, if_neg Bool.false_ne_true, if_neg Bool.false_ne_true,
      nominate_nominate]

theorem learn_comm (h : r.nodeId ≠ r'.nodeId) : (n.learn r).learn r' = (n.learn r').learn r :=
  congrArg (fun view ↦ { n with view }) (IdMap.insert_comm h)

theorem enroll_comm (h : c.nodeId ≠ c'.nodeId) :
    (n.enroll c).enroll c' = (n.enroll c').enroll c :=
  congrArg (fun candidates ↦ { n with candidates }) (IdMap.insert_comm h)

theorem record_comm (h : voter ≠ voter') :
    (n.record voter v).record voter' v' = (n.record voter' v').record voter v :=
  congrArg (fun votes ↦ { n with votes }) (IdMap.insert_comm h)

/-- What touches neither the view nor the nomination can come before the node stands or after. -/
theorem volunteer_apply {f : Node → Node} (hknown : (f n).masterKnown = n.masterKnown)
    (hnominate : (f n).nominate.1 = f n.nominate.1) : (f n).volunteer = f n.volunteer := by
  rw [volunteer, volunteer, hknown, hnominate]
  split_ifs <;> rfl

/-- Whether others stand is nothing to a node that stands itself. -/
theorem volunteer_enroll (h : c.nodeId ≠ n.id) :
    (n.enroll c).volunteer = n.volunteer.enroll c := by
  apply volunteer_apply (f := (enroll · c)) rfl
  rw [nominate_fst, nominate_fst]
  exact congrArg (fun candidates ↦ { n with candidates }) (IdMap.insertIfNew_insert h)

theorem volunteer_record : (n.record voter v).volunteer = n.volunteer.record voter v := by
  apply volunteer_apply (f := (record · voter v)) rfl
  rw [nominate_fst, nominate_fst]
  rfl

section Letters

variable {sender sender' : String}

theorem take_heartbeat_heartbeat (hid : r.nodeId ≠ n.id) (hid' : r'.nodeId ≠ n.id)
    (hmaster : r.isMaster = false) (hmaster' : r'.isMaster = false) (hne : r.nodeId ≠ r'.nodeId) :
    (n.take ⟨sender, .heartbeat r⟩).take ⟨sender', .heartbeat r'⟩
      = (n.take ⟨sender', .heartbeat r'⟩).take ⟨sender, .heartbeat r⟩ := by
  rw [take_heartbeat hid, take_heartbeat hid', take_heartbeat (by rwa [volunteer_id]),
    take_heartbeat (by rwa [volunteer_id]), volunteer_learn hmaster, volunteer_learn hmaster',
    learn_comm hne]

theorem take_heartbeat_candidacy (hid : r.nodeId ≠ n.id) (hid' : c.nodeId ≠ n.id)
    (hfinite : c.timestamp.isFinite = true) :
    (n.take ⟨sender, .heartbeat r⟩).take ⟨sender', .candidacy c⟩
      = (n.take ⟨sender', .candidacy c⟩).take ⟨sender, .heartbeat r⟩ := by
  have hid₁ : r.nodeId ≠ (n.enroll c).id := hid
  rw [take_heartbeat hid, take_candidacy hfinite, take_candidacy hfinite, take_heartbeat hid₁]
  exact (volunteer_enroll (n := n.learn r) hid').symm

theorem take_heartbeat_vote (hid : r.nodeId ≠ n.id) :
    (n.take ⟨sender, .heartbeat r⟩).take ⟨voter, .vote v⟩
      = (n.take ⟨voter, .vote v⟩).take ⟨sender, .heartbeat r⟩ := by
  have hid₁ : r.nodeId ≠ (n.record voter v).id := hid
  rw [take_heartbeat hid, take_vote, take_vote, take_heartbeat hid₁]
  exact (volunteer_record (n := n.learn r)).symm

theorem take_candidacy_vote (hfinite : c.timestamp.isFinite = true) :
    (n.take ⟨sender, .candidacy c⟩).take ⟨voter, .vote v⟩
      = (n.take ⟨voter, .vote v⟩).take ⟨sender, .candidacy c⟩ := by
  rw [take_candidacy hfinite, take_vote, take_vote, take_candidacy hfinite]
  rfl

end Letters

/-- **Letters for different slots can change places.** -/
theorem take_comm (hl : l.InRound n.id) (hl' : l'.InRound n.id) (h : l.slot? ≠ l'.slot?) :
    (n.take l).take l' = (n.take l').take l := by
  cases hl with
  | heartbeat hid hmaster =>
    cases hl' with
    | heartbeat hid' hmaster' =>
      exact take_heartbeat_heartbeat hid hid' hmaster hmaster'
        fun heq ↦ h (congrArg (some ∘ Slot.record) heq)
    | candidacy hid' hfinite => exact take_heartbeat_candidacy hid hid' hfinite
    | vote => exact take_heartbeat_vote hid
  | candidacy hid hfinite =>
    cases hl' with
    | heartbeat hid' => exact (take_heartbeat_candidacy hid' hid hfinite).symm
    | candidacy _ hfinite' =>
      rw [take_candidacy hfinite, take_candidacy hfinite', take_candidacy hfinite',
        take_candidacy hfinite]
      exact enroll_comm fun heq ↦ h (congrArg (some ∘ Slot.candidacy) heq)
    | vote => exact take_candidacy_vote hfinite
  | vote hsender =>
    cases hl' with
    | heartbeat hid' => exact (take_heartbeat_vote hid').symm
    | candidacy _ hfinite => exact (take_candidacy_vote hfinite).symm
    | vote => exact record_comm fun heq ↦ h (congrArg (some ∘ Slot.vote) heq)

/-! ## Whole batches -/

theorem take_id (n : Node) (l : Letter) : (n.take l).id = n.id :=
  (n.handling_accept l.sender l.message).id

/-- **The order of arrival is without effect** on what becomes of the node. -/
theorem foldl_take_eq_of_perm {batch batch' : List Letter} (hperm : batch.Perm batch')
    (hround : ∀ l ∈ batch, l.InRound n.id) (hslots : (batch.map Letter.slot?).Nodup) :
    batch.foldl take n = batch'.foldl take n := by
  -- A permutation is a chain of exchanges of neighbours, and `take_comm` is about one of them.
  induction hperm generalizing n with
  | nil => rfl
  | cons l _ ih =>
    rw [List.map_cons, List.nodup_cons] at hslots
    refine ih (fun l' hl' ↦ ?_) hslots.2
    rw [take_id]
    exact hround l' (List.mem_cons_of_mem l hl')
  | swap l l' batch =>
    simp only [List.forall_mem_cons] at hround
    simp only [List.map_cons, List.nodup_cons, List.mem_cons, not_or] at hslots
    rw [List.foldl_cons, List.foldl_cons, List.foldl_cons, List.foldl_cons,
      take_comm hround.1 hround.2.1 hslots.1.1]
  | trans hperm _ ih ih' =>
    refine (ih hround hslots).trans (ih' (fun l hl ↦ hround l (hperm.mem_iff.mpr hl)) ?_)
    exact (hperm.map _).nodup_iff.mp hslots

/-- The node after a letter, which it goes about in the order of an enumeration. -/
def takeIn (n : Node) (p : Enumeration × Letter) : Node :=
  (n.acceptIn p.1 p.2.sender p.2.message).1

theorem foldl_takeIn (n : Node) (batch : List (Enumeration × Letter)) :
    batch.foldl takeIn n = (batch.map (·.2)).foldl take n := by
  have htake : takeIn = fun n p ↦ n.take p.2 := by
    funext n p
    rw [takeIn, acceptIn_eq, take]
  rw [htake, List.foldl_map]

variable {γ : Type} [WordSource γ]

/-- The letter is handed to the node. -/
def handed (γ : Type) (p : Enumeration × Letter) : Occasion γ := .message p.2.sender p.2.message

theorem live_handed (n : Node) (batch : List (Enumeration × Letter)) :
    n.live (batch.map (handed γ)) = batch.foldl takeIn n := by
  rw [foldl_takeIn, live, List.foldl_map, List.foldl_map]
  rfl

/-- **Arrival order inside a round does not matter.** Let a node have lived through anything with a
clock that shows finite times, and let the letters of a round come to it, no two of them heartbeats
of one peer, candidacies of one candidate or votes of one voter. However the letters are ordered,
and in whatever order the node goes through its collections as it takes in each of them,

* it comes into the same state, the one of a node that takes them in as they are;
* from there its next heartbeat publishes the same, leaves the same state and draws the same words,
  in whatever order the node goes through its collections then. -/
theorem arrival_order_irrelevant {i : String} {start : Float} {settings : Settings}
    {before : List (Occasion γ)} (hstart : start.isFinite = true)
    (hbefore : ∀ o ∈ before, o.IsDated) {batch batch' : List (Enumeration × Letter)}
    (hround : ∀ p ∈ batch, p.2.InRound i) (hslots : (batch.map (·.2.slot?)).Nodup)
    (hperm : (batch.map (·.2)).Perm (batch'.map (·.2))) :
    let n := (new i start settings).live before
    let s := batch.foldl takeIn n
    let s' := batch'.foldl takeIn n
    (s' = s ∧ s = n.live (batch.map (handed γ))) ∧
      ∀ (e e' : Enumeration) (now : Float) (source : γ),
        s'.tickIn e' now source = s.tickIn e now source ∧
          s.tickIn e now source = s.tick now source := by
  intro n s s'
  have hid : n.id = i := ((present_new i start settings).live before).id
  have hlive : s = n.live (batch.map (handed γ)) := (live_handed n batch).symm
  have hsame : s' = s := by
    rw [show s' = _ from foldl_takeIn n batch', show s = _ from foldl_takeIn n batch]
    refine (foldl_take_eq_of_perm hperm ?_ ?_).symm
    · rw [List.forall_mem_map, hid]
      exact hround
    · rwa [List.map_map]
  have hcomparable : Candidacy.Comparable s.candidates.values := by
    have hbatch : ∀ o ∈ batch.map (handed γ), o.IsDated := List.forall_mem_map.mpr fun _ _ ↦ trivial
    have hlisted := ((listed_new i start settings).live before).live (batch.map (handed γ))
    have hdated := ((dated_new hstart i settings).live hbefore).live hbatch
    exact hlive ▸ hlisted.comparable hdated.finite
  refine ⟨⟨hsame, hlive⟩, fun e e' now source ↦ ?_⟩
  rw [hsame, tickIn_eq hcomparable, tickIn_eq hcomparable]
  exact ⟨rfl, rfl⟩

/-- The node follows the master `"b"`. -/
def following : List (Occasion WordCycle) := [.message "b" (.heartbeat ⟨"b", 101, true⟩)]

/-- The peer `"c"` is heard of, stands and votes, and `"b"` is master no more. -/
def dethronement : List Letter :=
  [⟨"c", .heartbeat ⟨"c", 102, false⟩⟩, ⟨"c", .candidacy ⟨"c", 102⟩⟩,
    ⟨"b", .heartbeat ⟨"b", 103, false⟩⟩, ⟨"c", .vote "c"⟩]

/-- The node stands as soon as it has heard that `"b"` is master no more. Whether this is the third
letter or the second, it stands in the end, and its next heartbeat is the same. -/
theorem arrival_order_irrelevant_dethronement :
    let n := (new "a" 100 ⟨5, false⟩).live following
    let s := (dethronement.map (Enumeration.ascending, ·)).foldl takeIn n
    let s' := (dethronement.reverse.map (Enumeration.descending, ·)).foldl takeIn n
    ((∀ o ∈ following, o.IsDated) ∧ (∀ l ∈ dethronement, l.InRound "a") ∧
        (dethronement.map Letter.slot?).Nodup) ∧
      s' = s ∧ s'.tickIn .descending 110 (⟨#[], 0⟩ : WordCycle) = s.tick 110 ⟨#[], 0⟩ := by
  intro n s s'
  have hdated : ∀ o ∈ following, o.IsDated := by decide +kernel
  have hround : ∀ l ∈ dethronement, l.InRound "a" := by
    simp only [dethronement, List.forall_mem_cons]
    refine ⟨.heartbeat (by decide) rfl, .candidacy (by decide) (by decide +kernel),
      .heartbeat (by decide) rfl, .vote (by decide), ?_⟩
    exact fun _ h ↦ absurd h List.not_mem_nil
  have hslots : (dethronement.map Letter.slot?).Nodup := by decide
  have hperm : ((dethronement.map (Enumeration.ascending, ·)).map (·.2)).Perm
      ((dethronement.reverse.map (Enumeration.descending, ·)).map (·.2)) := by
    simp
  have hstart : (100 : Float).isFinite = true := by decide +kernel
  obtain ⟨⟨hsame, -⟩, htick⟩ := arrival_order_irrelevant hstart hdated
    (List.forall_mem_map.mpr hround) (by rwa [List.map_map]) hperm
  refine ⟨⟨hdated, hround, hslots⟩, hsame, ?_⟩
  obtain ⟨hany, hmodel⟩ := htick .ascending .descending 110 ⟨#[], 0⟩
  exact hany.trans hmodel

end Node

end HeartbeatMesh

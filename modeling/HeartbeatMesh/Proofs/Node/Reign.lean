import HeartbeatMesh.Proofs.Node.Life

/-!
# The reign of a master

A node becomes master by a result in its favour that it takes in, or by a count of its own that it
wins, and in no other way (`Meeting.isMaster_iff`). Nothing takes the mastership away. The record of
a master stands in its own view, so its view flags a master from then on: the node takes no part in
elections, and whatever it says about itself says that it is master (`Meeting.flags_of_mem`).
-/

namespace HeartbeatMesh.Node

variable {n n' : Node} {i sender : String} {m : Message} {out : List Message}

/-! ## Becoming master -/

/-- A message makes a node master if it is a result in favour of the node. -/
theorem Handling.isMaster_iff (h : Handling n sender m n' out) :
    n'.self.isMaster = true ↔ n.self.isMaster = true ∨ m = .elected n.id := by
  cases h with
  | nominated =>
    rw [nominate_self]
    exact (or_iff_left Message.noConfusion).symm
  | concluded => rw [conclude_isMaster, Message.elected.injEq, or_comm]
  | _ => exact (or_iff_left Message.noConfusion).symm

variable {γ : Type} [WordSource γ] {now : Float} {source : γ} {o : Occasion γ}
  {os : List (Occasion γ)}

/-- A heartbeat makes a node master if it counts the votes and the node has the most. -/
theorem Ticking.isMaster_iff (h : Ticking n now source n' out) :
    n'.self.isMaster = true ↔ n.self.isMaster = true ∨
      n.countsVotes now source = true ∧ IsPlurality (n.polled now source).votes.values n.id := by
  cases h with
  | beat hidle =>
    rw [countsVotes_eq_false source hidle]
    exact (or_iff_left fun h ↦ Bool.false_ne_true h.1).symm
  | @round n₁ _ _ _ hmaster hvoter hcast hcount hdue =>
    have hself : n₁.self.isMaster = n.self.isMaster := by
      rw [hcast.view.2]
      rfl
    rw [countsVotes_eq source hmaster hdue, polled, hvoter, ← hself]
    cases hcount with
    | waiting hopen =>
      rw [hopen]
      exact (or_iff_left fun h ↦ Bool.false_ne_true h.1).symm
    | @won winner hcomplete hwinner =>
      have hid : n₁.id = n.id := hcast.id
      rw [conclude_isMaster, hid, or_comm, and_iff_right hcomplete]
      exact or_congr_right ⟨fun h ↦ h ▸ hwinner, hwinner.unique⟩
    | tied _ htie => exact (or_iff_left fun h ↦ htie _ h.2).symm

/-- **How a node becomes master.** It has been master before, or it takes in a result in its favour,
or it wins a count of its own. -/
theorem Meeting.isMaster_iff (h : Meeting n o n' out) :
    n'.self.isMaster = true ↔ n.self.isMaster = true ∨
      (∃ l, o.letter? n.id = some l ∧ l.message = .elected n.id) ∨
      ∃ now source, o = .tick now source ∧ n.countsVotes now source = true ∧
        IsPlurality (n.polled now source).votes.values n.id := by
  cases h with
  | started => simp [Occasion.letter?, startup]
  | passed hl => simp [hl]
  | @handled _ l _ _ hl h =>
    have htick : ∀ now source, o ≠ .tick now source := by
      rintro now source rfl
      cases hl
    simp [h.isMaster_iff, hl, htick]
  | ticked h => simp [h.isMaster_iff, Occasion.letter?]

/-! ## Being master -/

theorem Present.masterKnown (h : n.Present i) (hmaster : n.self.isMaster = true) :
    n.masterKnown = true :=
  masterKnown_iff.mpr ⟨i, n.self, h.own, hmaster⟩

/-- The record of a master flags it. -/
theorem Present.heartbeat_flags (h : n.Present i) (hmaster : n.self.isMaster = true) :
    (Message.heartbeat n.self).Flags i :=
  ⟨h.id, hmaster⟩

/-- A master answers with its record or with its view. -/
theorem Handling.flags_of_mem (h : Handling n sender m n' out) (hn : n.Present i)
    (hmaster : n.self.isMaster = true) : ∀ m' ∈ out, m'.Flags i := by
  have hn' := h.present hn
  have hmaster' := h.isMaster_iff.mpr (.inl hmaster)
  intro m' hm'
  cases h with
  | nominated hid hunknown =>
    rw [(hn.learn hid).masterKnown hmaster] at hunknown
    cases hunknown
  | asked =>
    obtain rfl := List.mem_singleton.mp hm'
    exact ⟨n.self, hn.own, hmaster⟩
  | concluded =>
    split_ifs at hm'
    · obtain rfl := List.mem_singleton.mp hm'
      exact hn'.heartbeat_flags hmaster'
    · cases hm'
  | _ => cases hm'

/-- A master whose heartbeat is due has its record to say. -/
theorem Ticking.flags_of_mem (h : Ticking n now source n' out) (hn : n.Present i)
    (hmaster : n.self.isMaster = true) : ∀ m' ∈ out, m'.Flags i := by
  have hrefresh := hn.refresh now
  cases h with
  | beat =>
    intro m' hm'
    obtain rfl := List.mem_singleton.mp hm'
    exact hrefresh.heartbeat_flags hmaster
  | round hunknown =>
    rw [hrefresh.masterKnown hmaster] at hunknown
    cases hunknown

/-- **What a master says.** Whatever it publishes flags it as master, but for its requests. -/
theorem Meeting.flags_of_mem (h : Meeting n o n' out) (hn : n.Present i)
    (hmaster : n.self.isMaster = true) :
    ∀ m ∈ out, m.Flags i ∨ ∃ requestId, m = .stateRequest requestId := by
  intro m hm
  cases h with
  | started requestId =>
    rw [List.mem_cons, List.mem_singleton] at hm
    rcases hm with rfl | rfl
    · exact .inr ⟨requestId, rfl⟩
    · exact .inl (hn.heartbeat_flags hmaster)
  | passed => cases hm
  | handled _ h => exact .inl (h.flags_of_mem hn hmaster m hm)
  | ticked h => exact .inl (h.flags_of_mem hn hmaster m hm)

theorem isMaster_live (hmaster : n.self.isMaster = true) (os : List (Occasion γ)) :
    (n.live os).self.isMaster = true := by
  induction os generalizing n with
  | nil => exact hmaster
  | cons o os ih => exact ih ((n.meeting_meet o).isMaster_iff.mpr (.inl hmaster))

theorem flags_of_mem_said (hn : n.Present i) (hmaster : n.self.isMaster = true)
    (os : List (Occasion γ)) :
    ∀ m ∈ n.said os, m.Flags i ∨ ∃ requestId, m = .stateRequest requestId := by
  induction os generalizing n with
  | nil => exact List.forall_mem_nil _
  | cons o os ih =>
    have hmeet := n.meeting_meet o
    rw [said, List.forall_mem_append]
    exact ⟨hmeet.flags_of_mem hn hmaster,
      ih (hmeet.present hn) (hmeet.isMaster_iff.mpr (.inl hmaster))⟩

/-- **Once a master, always a master.** Whatever a node has lived through, and whoever speaks to it,

* it keeps its id, and its own record stands under this id in its view;
* it is master after an occasion if it has been before, if it takes in a result in its favour, or if
  its heartbeat counts the votes and more of them are for it than for anybody else;
* from then on it stays master, and whatever it says flags it as master, but for its requests. So
  its heartbeats and the views that it answers with say that it is master, and it puts nobody up,
  votes for nobody and announces nobody. -/
theorem reign_of_master (i : String) (now : Float) (settings : Settings)
    (before : List (Occasion γ)) :
    let n := (new i now settings).live before
    (n.id = i ∧ n.view[i]? = some n.self) ∧
      (∀ o : Occasion γ, (n.meet o).1.self.isMaster = true ↔ n.self.isMaster = true ∨
        (∃ l, o.letter? i = some l ∧ l.message = .elected i) ∨
        ∃ now source, o = .tick now source ∧ n.countsVotes now source = true ∧
          IsPlurality (n.polled now source).votes.values i) ∧
      (n.self.isMaster = true → ∀ after : List (Occasion γ),
        (n.live after).self.isMaster = true ∧
          ∀ m ∈ n.said after, m.Flags i ∨ ∃ requestId, m = .stateRequest requestId) := by
  intro n
  have hn : n.Present i := (present_new i now settings).live before
  refine ⟨⟨hn.id, hn.own⟩, fun o ↦ ?_, fun hmaster after ↦ ⟨?_, ?_⟩⟩
  · have hmeet := (n.meeting_meet o).isMaster_iff
    rwa [hn.id] at hmeet
  · exact isMaster_live hmaster after
  · exact flags_of_mem_said hn hmaster after

/-- A node with one peer stands, votes and wins its own count. -/
def crowning : List (Occasion WordCycle) :=
  [.message "b" (.heartbeat ⟨"b", 101, false⟩), .message "b" (.candidacy ⟨"b", 101⟩),
    .message "b" (.vote "a"), .tick 106 ⟨#[], 0⟩]

/-- The new master is told in its own name that its peer has won, and hears of another peer that
stands and asks for its view. -/
def contest : List (Occasion WordCycle) :=
  [.message "a" (.elected "b"), .message "c" (.heartbeat ⟨"c", 90, false⟩),
    .message "c" (.candidacy ⟨"c", 90⟩), .message "c" (.stateRequest "r"), .startup "s",
    .tick 120 ⟨#[], 0⟩]

/-- It stays master, and four messages of it say so. -/
theorem reign_of_master_contest :
    ((new "a" 100 ⟨5, false⟩).live crowning).self.isMaster = true ∧
      (((new "a" 100 ⟨5, false⟩).live crowning).live contest).self.isMaster = true ∧
      (((new "a" 100 ⟨5, false⟩).live crowning).said contest).length = 4 ∧
      ∀ m ∈ ((new "a" 100 ⟨5, false⟩).live crowning).said contest,
        m.Flags "a" ∨ ∃ requestId, m = .stateRequest requestId := by
  have hmaster : ((new "a" 100 ⟨5, false⟩).live crowning).self.isMaster = true := by
    decide +kernel
  obtain ⟨-, -, hreign⟩ := @reign_of_master WordCycle _ "a" 100 ⟨5, false⟩ crowning
  obtain ⟨hlatch, hsaid⟩ := hreign hmaster contest
  exact ⟨hmaster, hlatch, by decide +kernel, hsaid⟩

end HeartbeatMesh.Node

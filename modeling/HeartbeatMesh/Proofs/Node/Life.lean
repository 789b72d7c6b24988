import HeartbeatMesh.Proofs.History
import HeartbeatMesh.Proofs.Node.Ballot

/-!
# The life of a node

A node by itself, with anybody around it. Its life is a list of occasions: a start, a message that
somebody hands to it, a unit from the bus, a heartbeat. Units may hold anything and claim any
sender; of messages it is only asked that they are not handed over in the name of the node itself
(`Occasion.IsForeign`). What an occasion can do to the node is said once (`Meeting`).

A round ends where the node takes in a result or counts the votes (`endsRound`). A heartbeat casts a
vote before it counts, so the vote belongs to the round that the count ends (`Ticking.casting`).
-/

namespace HeartbeatMesh

/-- The message is the result of a count. -/
def Message.isResult : Message → Bool
  | .elected _ => true
  | _ => false

/-- What can happen to a node. -/
inductive Occasion (γ : Type) where
  | startup (requestId : String)
  | message (sender : String) (message : Message)
  | unit (raw : Bytes)
  | tick (now : Float) (source : γ)

namespace Occasion

variable {γ : Type} {i : String} {o : Occasion γ} {l : Letter}

/-- Nobody hands over a message in the name of the node `i`. -/
def IsForeign (i : String) : Occasion γ → Prop
  | .message sender _ => sender ≠ i
  | .startup _ | .unit _ | .tick _ _ => True

instance (i : String) (o : Occasion γ) : Decidable (o.IsForeign i) :=
  match o with
  | .message sender _ => inferInstanceAs (Decidable (sender ≠ i))
  | .startup _ | .unit _ | .tick _ _ => inferInstanceAs (Decidable True)

/-- What the node `i` takes in on the occasion. A unit that cannot be read, or that claims to come
from the node itself, is passed over. -/
def letter? (i : String) : Occasion γ → Option Letter
  | .message sender m => some ⟨sender, m⟩
  | .unit raw =>
    match decodeUnit raw with
    | .ok (sender, m) => if sender = i then none else some ⟨sender, m⟩
    | .error _ => none
  | .startup _ | .tick _ _ => none

theorem IsForeign.sender_ne (h : o.IsForeign i) (hl : o.letter? i = some l) : l.sender ≠ i := by
  cases o with
  | message sender m =>
    obtain rfl := Option.some.inj hl
    exact h
  | unit raw =>
    rw [letter?] at hl
    split at hl
    · split_ifs at hl with hown
      obtain rfl := Option.some.inj hl
      exact hown
    · cases hl
  | _ => cases hl

end Occasion

namespace Node

variable {γ : Type} {n n' : Node} {i : String} {o : Occasion γ} {os : List (Occasion γ)}
  {now : Float} {source : γ} {out : List Message}

/-! ## Occasions -/

/-- A unit is met as the letter that it is read as. -/
theorem onUnit_eq (n : Node) (raw : Bytes) :
    n.onUnit raw
      = match (Occasion.unit raw : Occasion γ).letter? n.id with
        | some l => n.accept l.sender l.message
        | none => (n, []) := by
  rw [onUnit, receive, Occasion.letter?, decodeUnit]
  cases Envelope.parse raw with
  | error defect => rfl
  | ok e =>
    dsimp only
    cases e.decode with
    | error error => split_ifs <;> rfl
    | ok m =>
      by_cases hown : e.sender = n.id
      · simp only [Except.map, if_pos hown]
      · simp only [Except.map, if_neg hown, accept]
        cases n.handle e.sender m <;> rfl

variable [WordSource γ]

/-- The node meets an occasion. -/
def meet (n : Node) : Occasion γ → Node × List Message
  | .startup requestId => n.startup requestId
  | .message sender m => n.accept sender m
  | .unit raw => n.onUnit raw
  | .tick now source => (n.tick now source).1

/-- What an occasion can do to a node, and what the node publishes. -/
inductive Meeting (n : Node) : Occasion γ → Node → List Message → Prop
  | started (requestId : String) :
      Meeting n (.startup requestId) (n.startup requestId).1
        [.stateRequest requestId, .heartbeat n.self]
  | passed {raw : Bytes} (hl : (Occasion.unit raw : Occasion γ).letter? n.id = none) :
      Meeting n (.unit raw) n []
  | handled {o : Occasion γ} {l : Letter} {n' : Node} {out : List Message}
      (hl : o.letter? n.id = some l) (h : Handling n l.sender l.message n' out) :
      Meeting n o n' out
  | ticked {now : Float} {source : γ} {n' : Node} {out : List Message}
      (h : Ticking n now source n' out) : Meeting n (.tick now source) n' out

theorem meeting_meet (n : Node) (o : Occasion γ) : Meeting n o (n.meet o).1 (n.meet o).2 := by
  cases o with
  | startup requestId => exact .started requestId
  | message sender m => exact .handled rfl (n.handling_accept sender m)
  | unit raw =>
    rw [meet, @onUnit_eq γ]
    split
    · next l hl => exact .handled hl (n.handling_accept l.sender l.message)
    · next hl => exact .passed hl
  | tick now source => exact .ticked (n.ticking_tick now source)

theorem Meeting.sound (h : Meeting n o n' out) (ho : o.IsForeign i) (hn : n.Sound i) :
    n'.Sound i := by
  cases h with
  | started requestId => exact hn.startup requestId
  | passed => exact hn
  | handled hl h =>
    rw [hn.id] at hl
    exact h.sound (hn.id ▸ ho.sender_ne hl) hn
  | ticked h => exact h.sound hn

/-- A node stays in its view on every occasion, messages in its own name included. -/
theorem Meeting.present (h : Meeting n o n' out) (hn : n.Present i) : n'.Present i := by
  cases h with
  | started => exact ⟨hn.id, hn.own⟩
  | passed => exact hn
  | handled _ h => exact h.present hn
  | ticked h => exact h.present hn

/-! ## Lives -/

/-- The node after the occasions. -/
def live (n : Node) (os : List (Occasion γ)) : Node := os.foldl (fun n o ↦ (n.meet o).1) n

/-- What the node publishes on the occasions, in order. -/
def said (n : Node) : List (Occasion γ) → List Message
  | [] => []
  | o :: os => (n.meet o).2 ++ (n.meet o).1.said os

@[simp] theorem live_nil (n : Node) : n.live ([] : List (Occasion γ)) = n := rfl

@[simp] theorem live_cons (n : Node) (o : Occasion γ) (os : List (Occasion γ)) :
    n.live (o :: os) = (n.meet o).1.live os := rfl

theorem live_concat (n : Node) (os : List (Occasion γ)) (o : Occasion γ) :
    n.live (os ++ [o]) = ((n.live os).meet o).1 := by
  rw [live, List.foldl_append]
  rfl

theorem said_concat (n : Node) (os : List (Occasion γ)) (o : Occasion γ) :
    n.said (os ++ [o]) = n.said os ++ ((n.live os).meet o).2 := by
  induction os generalizing n with
  | nil => exact List.append_nil _
  | cons o' os ih =>
    rw [List.cons_append, said, said, ih, List.append_assoc]
    rfl

theorem Sound.live (hn : n.Sound i) (hos : ∀ o ∈ os, o.IsForeign i) : (n.live os).Sound i := by
  induction os generalizing n with
  | nil => exact hn
  | cons o os ih =>
    obtain ⟨ho, hos⟩ := List.forall_mem_cons.mp hos
    exact ih ((meeting_meet n o).sound ho hn) hos

theorem Present.live (hn : n.Present i) (os : List (Occasion γ)) : (n.live os).Present i := by
  induction os generalizing n with
  | nil => exact hn
  | cons o os ih => exact ih ((meeting_meet n o).present hn)

/-! ## Rounds -/

/-- The node at the moment of the count: its record is renewed and its vote is cast. -/
def polled (n : Node) (now : Float) (source : γ) : Node := ((n.refresh now).castVote source).1.1

/-- The heartbeat counts the votes. -/
def countsVotes (n : Node) (now : Float) (source : γ) : Bool :=
  !(n.refresh now).masterKnown && (n.refresh now).votesDue now &&
    (n.polled now source).votesComplete

/-- A heartbeat that leaves the round alone counts nothing. -/
theorem countsVotes_eq_false (source : γ)
    (hidle : (n.refresh now).masterKnown = true ∨ (n.refresh now).votesDue now = false) :
    n.countsVotes now source = false := by
  rw [countsVotes]
  rcases hidle with h | h <;> simp [h]

/-- A heartbeat that moves the round on counts the votes once they are complete. -/
theorem countsVotes_eq (source : γ) (hmaster : (n.refresh now).masterKnown = false)
    (hdue : (n.refresh now).votesDue now = true) :
    n.countsVotes now source = (n.polled now source).votesComplete := by
  rw [countsVotes, hmaster, hdue]
  rfl

/-- The occasion ends the round: the node takes in a result, or it counts the votes. -/
def endsRound (n : Node) : Occasion γ → Bool
  | .tick now source => n.countsVotes now source
  | o => (o.letter? n.id).any (·.message.isResult)

/-- No occasion of the list ends the round. -/
def keepsRound (n : Node) : List (Occasion γ) → Bool
  | [] => true
  | o :: os => !n.endsRound o && (n.meet o).1.keepsRound os

theorem keepsRound_cons :
    n.keepsRound (o :: os) = true ↔ n.endsRound o = false ∧ (n.meet o).1.keepsRound os = true := by
  rw [keepsRound, Bool.and_eq_true, Bool.not_eq_true']

theorem keepsRound_singleton (n : Node) (o : Occasion γ) :
    n.keepsRound [o] = !n.endsRound o := Bool.and_true _

theorem keepsRound_concat (n : Node) (os : List (Occasion γ)) (o : Occasion γ) :
    n.keepsRound (os ++ [o]) = (n.keepsRound os && !(n.live os).endsRound o) := by
  induction os generalizing n with
  | nil => exact Bool.and_comm _ _
  | cons o' os ih => rw [List.cons_append, keepsRound, keepsRound, ih, Bool.and_assoc, live_cons]

theorem endsRound_tick : n.endsRound (.tick now source) = n.countsVotes now source := rfl

theorem endsRound_unit_of_none {raw : Bytes}
    (hl : (Occasion.unit raw : Occasion γ).letter? n.id = none) :
    n.endsRound (.unit raw : Occasion γ) = false := by
  change Option.any _ _ = _
  rw [hl]
  rfl

theorem endsRound_of_letter? {l : Letter} (hl : o.letter? n.id = some l) :
    n.endsRound o = l.message.isResult := by
  cases o with
  | tick => cases hl
  | _ => exact congrArg (Option.any (·.message.isResult)) hl

/-- Of what is published around a ballot, a function that passes over records and results sees
nothing. -/
theorem filterMap_around_ballot {β : Type} {f : Message → Option β}
    (hbeat : ∀ r, f (.heartbeat r) = none) (helected : ∀ w, f (.elected w) = none)
    {r : NodeRecord} {ballot result : List Message}
    (hresult : result = [] ∨ ∃ w r, result = [.elected w, .heartbeat r]) :
    (.heartbeat r :: (ballot ++ result)).filterMap f = ballot.filterMap f := by
  rw [List.filterMap_cons_none (hbeat r), List.filterMap_append]
  rcases hresult with rfl | ⟨w, r', rfl⟩
  · simp
  · simp [hbeat, helected]

/-- A heartbeat may cast a vote. Then it counts and leaves nothing of the round, or that is all. -/
theorem Ticking.casting (h : Ticking n now source n' out) :
    ∃ n₁ ballot result, Casting (n.refresh now) n₁ ballot ∧
      out = .heartbeat (n.refresh now).self :: (ballot ++ result) ∧
      (result = [] ∨ ∃ w r, result = [.elected w, .heartbeat r]) ∧
      if n.countsVotes now source then n'.candidates = ∅ ∧ n'.votes = ∅ else n' = n₁ := by
  cases h with
  | beat hidle =>
    refine ⟨_, [], [], .held, rfl, .inl rfl, ?_⟩
    rw [countsVotes_eq_false source hidle]
    rfl
  | @round n₁ _ ballot result hmaster hvoter hcast hcount hdue =>
    refine ⟨n₁, ballot, result, hcast, rfl, ?_⟩
    rw [countsVotes_eq source hmaster hdue, polled, hvoter]
    cases hcount with
    | waiting hopen =>
      rw [hopen]
      exact ⟨.inl rfl, rfl⟩
    | won hcomplete =>
      rw [if_pos hcomplete]
      exact ⟨.inr ⟨_, _, rfl⟩, conclude_candidates _ _, conclude_votes _ _⟩
    | tied hcomplete =>
      rw [if_pos hcomplete]
      exact ⟨.inl rfl, rfl, rfl⟩

end Node

end HeartbeatMesh

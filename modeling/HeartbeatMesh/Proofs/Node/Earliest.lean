import HeartbeatMesh.Proofs.Node.Candidacy
import HeartbeatMesh.Proofs.Time

/-!
# The earliest candidacy

A candidacy comes before another if it is older, or of the same age and of the smaller id. Among
candidacies with finite times this is a linear order (`Candidacy.place`), and a node stands in a
round once. So a round in which anybody stands has exactly one earliest candidacy
(`existsUnique_isEarliest`), and it is found in whatever order the candidacies are gone through
(`Candidacy.first?_eq_of_perm`).

That candidacies stand under their ids (`Listed`) holds whoever speaks to a node. That they have
finite times (`Dated`) is seen to by the node itself, if its clock shows finite times.
-/

namespace HeartbeatMesh

/-! ## The order of candidacies -/

namespace Candidacy

variable {a b c : Candidacy} {cs cs' : List Candidacy}

/-- The place of a candidacy in a round: by its time, and then by the id. -/
def place (c : Candidacy) : (ℤ ×ₗ ℤ ×ₗ ℤ) ×ₗ String := toLex (timeRank c.timestamp, c.nodeId)

/-- The candidacies have finite times, and no two of them are of one node. -/
structure Comparable (cs : List Candidacy) : Prop where
  finite : ∀ c ∈ cs, c.timestamp.isFinite = true
  distinct : ∀ a ∈ cs, ∀ b ∈ cs, a.nodeId = b.nodeId → a = b

theorem place_le_iff (ha : a.timestamp.isFinite = true) (hb : b.timestamp.isFinite = true) :
    a.place ≤ b.place ↔
      a.timestamp < b.timestamp ∨ a.timestamp ≤ b.timestamp ∧ a.nodeId ≤ b.nodeId := by
  rw [lt_iff_timeRank_lt ha hb, le_iff_timeRank_le ha hb, place, place, Prod.Lex.toLex_le_toLex]
  dsimp only
  constructor
  · rintro (hlt | ⟨heq, hid⟩)
    · exact .inl hlt
    · exact .inr ⟨heq.le, hid⟩
  · rintro (hlt | ⟨hle, hid⟩)
    · exact .inl hlt
    · rcases hle.lt_or_eq with hlt | heq
      · exact .inl hlt
      · exact .inr ⟨heq, hid⟩

theorem earlier_eq (ha : a.timestamp.isFinite = true) (hb : b.timestamp.isFinite = true) :
    a.earlier b = if b.place < a.place then b else a := by
  simp only [earlier, place, Prod.Lex.toLex_lt_toLex, lt_iff_timeRank_lt ha hb,
    lt_iff_timeRank_lt hb ha]
  rcases lt_trichotomy (timeRank b.timestamp) (timeRank a.timestamp) with hlt | heq | hgt
  · simp [hlt]
  · simp [heq]
  · simp [hgt, hgt.not_gt, hgt.ne']

/-- The earliest of some candidacies, gone through in their order. -/
def first? : List Candidacy → Option Candidacy
  | [] => none
  | c :: cs => some (cs.foldl earlier c)

theorem foldl_earlier (hfinite : ∀ d ∈ c :: cs, d.timestamp.isFinite = true) :
    cs.foldl earlier c ∈ c :: cs ∧ ∀ d ∈ c :: cs, (cs.foldl earlier c).place ≤ d.place := by
  induction cs generalizing c with
  | nil => simp
  | cons d cs ih =>
    simp only [List.forall_mem_cons] at hfinite ih ⊢
    obtain ⟨hc, hd, hcs⟩ := hfinite
    -- The earlier one of the first two goes on, and the other one is not earlier than it.
    rw [List.foldl_cons, earlier_eq hc hd]
    split_ifs with hlt
    · obtain ⟨hmem, hle, hall⟩ := ih ⟨hd, hcs⟩
      exact ⟨List.mem_cons_of_mem _ hmem, hle.trans hlt.le, hle, hall⟩
    · obtain ⟨hmem, hle, hall⟩ := ih ⟨hc, hcs⟩
      refine ⟨?_, hle, hle.trans (not_lt.mp hlt), hall⟩
      rcases List.mem_cons.mp hmem with hmem | hmem
      · exact List.mem_cons.mpr (.inl hmem)
      · exact List.mem_cons_of_mem _ (List.mem_cons_of_mem _ hmem)

theorem first?_eq_some_iff (h : Comparable cs) :
    first? cs = some c ↔ c ∈ cs ∧ ∀ d ∈ cs, c.place ≤ d.place := by
  cases cs with
  | nil => simp [first?]
  | cons d cs =>
    obtain ⟨hmem, hle⟩ := foldl_earlier h.finite
    rw [first?, Option.some_inj]
    constructor
    · rintro rfl
      exact ⟨hmem, hle⟩
    · rintro ⟨hc, hall⟩
      -- Both are the least, so they are in one place, and only one candidacy is in it.
      have hplace := le_antisymm (hle c hc) (hall _ hmem)
      exact h.distinct _ hmem c hc (congrArg (fun p ↦ (ofLex p).2) hplace)

theorem first?_isSome (hcs : cs ≠ []) : (first? cs).isSome := by
  obtain ⟨c, cs, rfl⟩ := List.exists_cons_of_ne_nil hcs
  rfl

/-- **The order in which candidacies are gone through is without effect.** -/
theorem first?_eq_of_perm (h : Comparable cs) (hperm : cs.Perm cs') : first? cs = first? cs' := by
  have h' : Comparable cs' :=
    ⟨fun c hc ↦ h.finite c (hperm.mem_iff.mpr hc),
      fun a ha b hb ↦ h.distinct a (hperm.mem_iff.mpr ha) b (hperm.mem_iff.mpr hb)⟩
  ext c
  rw [first?_eq_some_iff h, first?_eq_some_iff h', hperm.mem_iff]
  simp only [hperm.mem_iff]

end Candidacy

/-- If it is a heartbeat, the clock of the node shows a finite time. -/
def Occasion.IsDated {γ : Type} : Occasion γ → Prop
  | .tick now _ => now.isFinite = true
  | .startup _ | .message _ _ | .unit _ => True

instance {γ : Type} (o : Occasion γ) : Decidable o.IsDated :=
  match o with
  | .tick now _ => inferInstanceAs (Decidable (now.isFinite = true))
  | .startup _ | .message _ _ | .unit _ => inferInstanceAs (Decidable True)

namespace Node

variable {n n' : Node} {i k sender : String} {m : Message} {c : Candidacy} {out : List Message}
  {now : Float}

/-! ## The candidacies of a node -/

/-- The candidacies stand under the ids that they carry. -/
def Listed (n : Node) : Prop :=
  ∀ (k : String) (c : Candidacy), n.candidates[k]? = some c → c.nodeId = k

/-- The node has a finite time, and so have the candidacies. -/
structure Dated (n : Node) : Prop where
  heartbeat : n.self.heartbeat.isFinite = true
  candidates : ∀ (k : String) (c : Candidacy), n.candidates[k]? = some c →
    c.timestamp.isFinite = true

/-- No other candidacy of the round is older, or of the same age and of a smaller id. -/
def IsEarliest (n : Node) (c : Candidacy) : Prop :=
  c ∈ n.candidates.values ∧ ∀ d ∈ n.candidates.values,
    c.timestamp < d.timestamp ∨ c.timestamp ≤ d.timestamp ∧ c.nodeId ≤ d.nodeId

theorem Listed.comparable (h : n.Listed)
    (hfinite : ∀ c ∈ n.candidates.values, c.timestamp.isFinite = true) :
    Candidacy.Comparable n.candidates.values where
  finite := hfinite
  distinct a ha b hb hid := by
    obtain ⟨k, hk⟩ := IdMap.mem_values_iff.mp ha
    obtain ⟨l, hl⟩ := IdMap.mem_values_iff.mp hb
    rw [← h k a hk, hid, h l b hl, hl] at hk
    exact (Option.some.inj hk).symm

theorem Dated.finite (h : n.Dated) : ∀ c ∈ n.candidates.values, c.timestamp.isFinite = true := by
  intro c hc
  obtain ⟨k, hk⟩ := IdMap.mem_values_iff.mp hc
  exact h.candidates k c hk

theorem earliest?_eq_first? (n : Node) : n.earliest? = Candidacy.first? n.candidates.values :=
  rfl

theorem earliest?_eq_some_iff (h : Candidacy.Comparable n.candidates.values) :
    n.earliest? = some c ↔ n.IsEarliest c := by
  rw [earliest?_eq_first?, Candidacy.first?_eq_some_iff h, IsEarliest]
  refine and_congr_right fun hc ↦ forall₂_congr fun d hd ↦ ?_
  rw [Candidacy.place_le_iff (h.finite c hc) (h.finite d hd)]

/-- **A round in which anybody stands has one earliest candidacy.** -/
theorem existsUnique_isEarliest (h : Candidacy.Comparable n.candidates.values)
    (hstand : n.candidates ≠ ∅) : ∃! c, n.IsEarliest c := by
  obtain ⟨c, hc⟩ := Option.isSome_iff_exists.mp
    (Candidacy.first?_isSome (mt IdMap.values_eq_nil_iff.mp hstand))
  rw [← earliest?_eq_first?] at hc
  refine ⟨c, (earliest?_eq_some_iff h).mp hc, fun d hd ↦ ?_⟩
  have hd := (earliest?_eq_some_iff h).mpr hd
  exact Option.some.inj (hd.symm.trans hc)

/-- Votes are not due as long as nobody stands, or the earliest candidacy is young. -/
theorem votesDue_eq_false_iff (h : Candidacy.Comparable n.candidates.values) :
    n.votesDue now = false ↔
      n.candidates = ∅ ∨ ∃ c, n.IsEarliest c ∧ now - c.timestamp ≤ n.settings.interval := by
  simp only [← earliest?_eq_some_iff h, ← IdMap.values_eq_nil_iff, votesDue, earliest?]
  cases n.candidates.values <;> simp

/-! ## Through a life -/

/-- Who stands after a message stood before, or the node has nominated itself, or somebody has put
up a dated candidacy. -/
theorem Handling.candidate (h : Handling n sender m n' out) (hc : n'.candidates[k]? = some c) :
    n.candidates[k]? = some c ∨ k = n.id ∧ c = ⟨n.id, n.self.heartbeat⟩ ∨
      m = .candidacy c ∧ c.nodeId = k ∧ c.timestamp.isFinite = true := by
  cases h with
  | @nominated r =>
    rw [getElem?_nominate_candidates] at hc
    split_ifs at hc with hk
    · rw [nominate_snd] at hc
      change some ((n.candidates[n.id]?).getD ⟨n.id, n.self.heartbeat⟩) = some c at hc
      rw [show k = n.id from hk]
      cases hstands : n.candidates[n.id]? with
      | none =>
        rw [hstands] at hc
        exact .inr (.inl ⟨rfl, (Option.some.inj hc).symm⟩)
      | some d =>
        rw [hstands] at hc
        exact .inl hc
    · exact .inl hc
  | @stood d hfinite =>
    rcases IdMap.of_getElem?_insert hc with ⟨hk, rfl⟩ | ⟨-, hc⟩
    · exact .inr (.inr ⟨rfl, hk, hfinite⟩)
    · exact .inl hc
  | concluded =>
    rw [conclude_candidates, Std.ExtTreeMap.getElem?_empty] at hc
    cases hc
  | _ => exact .inl hc

/-- A heartbeat puts nobody up. -/
theorem Ticking.candidate {γ : Type} [WordSource γ] {source : γ}
    (h : Ticking n now source n' out) (hc : n'.candidates[k]? = some c) :
    n.candidates[k]? = some c := by
  obtain ⟨n₁, ballot, result, hcast, -, -, hround⟩ := h.casting
  split_ifs at hround
  · rw [hround.1, Std.ExtTreeMap.getElem?_empty] at hc
    cases hc
  · rw [hround, hcast.candidates] at hc
    exact hc

theorem Handling.heartbeat (h : Handling n sender m n' out) :
    n'.self.heartbeat = n.self.heartbeat := by
  cases h with
  | nominated =>
    rw [nominate_self]
    rfl
  | concluded => exact conclude_heartbeat n _
  | _ => rfl

variable {γ : Type} [WordSource γ] {o : Occasion γ} {os : List (Occasion γ)}

theorem getElem?_new_candidates (i : String) (now : Float) (settings : Settings) :
    (new i now settings).candidates[k]? = none :=
  Std.ExtTreeMap.getElem?_empty

theorem listed_new (i : String) (now : Float) (settings : Settings) :
    (new i now settings).Listed := by
  intro k c hc
  rw [getElem?_new_candidates] at hc
  cases hc

theorem Meeting.listed (h : Meeting n o n' out) (hn : n.Listed) : n'.Listed := by
  intro k c hc
  cases h with
  | started | passed => exact hn k c hc
  | handled _ h =>
    rcases h.candidate hc with hc | ⟨rfl, rfl⟩ | ⟨-, rfl, -⟩
    · exact hn k c hc
    · rfl
    · rfl
  | ticked h => exact hn k c (h.candidate hc)

theorem Listed.live (hn : n.Listed) (os : List (Occasion γ)) : (n.live os).Listed := by
  induction os generalizing n with
  | nil => exact hn
  | cons o os ih => exact ih ((n.meeting_meet o).listed hn)

theorem dated_new {start : Float} (hstart : start.isFinite = true) (i : String)
    (settings : Settings) : (new i start settings).Dated where
  heartbeat := hstart
  candidates k c hc := by
    rw [getElem?_new_candidates] at hc
    cases hc

theorem Meeting.dated (h : Meeting n o n' out) (ho : o.IsDated) (hn : n.Dated) : n'.Dated := by
  cases h with
  | started | passed => exact ⟨hn.heartbeat, hn.candidates⟩
  | handled _ h =>
    refine ⟨h.heartbeat ▸ hn.heartbeat, fun k c hc ↦ ?_⟩
    rcases h.candidate hc with hc | ⟨-, rfl⟩ | ⟨-, -, hfinite⟩
    · exact hn.candidates k c hc
    · exact hn.heartbeat
    · exact hfinite
  | ticked h => exact ⟨h.heartbeat ▸ ho, fun k c hc ↦ hn.candidates k c (h.candidate hc)⟩

theorem Dated.live (hn : n.Dated) (hos : ∀ o ∈ os, o.IsDated) : (n.live os).Dated := by
  induction os generalizing n with
  | nil => exact hn
  | cons o os ih =>
    obtain ⟨ho, hos⟩ := List.forall_mem_cons.mp hos
    exact ih ((n.meeting_meet o).dated ho hn) hos

end Node

end HeartbeatMesh

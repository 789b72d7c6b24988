import HeartbeatMesh.Proofs.Ascending
import HeartbeatMesh.Proofs.Tally
import HeartbeatMesh.Proofs.Text.Order
import Mathlib.Data.List.Sort

/-!
# The outcome of a count

A count goes by the numbers of votes alone. If one candidate has more of them than any other, it has
won (`tally_eq_winner_iff`); otherwise several share the largest number, and the tie names exactly
these (`tally_eq_tie_iff`).

Nodes that hold the same votes come to the same outcome, in whatever order the votes lie before them
and in whatever order they go through the numbers of the candidates (`Tally.ofCounts?`): the numbers
do not depend on the order of the votes (`countVotes_eq_of_perm`), their maximum does not depend on
the order of the numbers, and the leaders are put into order at the end.
-/

namespace HeartbeatMesh

variable {votes : List String} {entries : List (String × Nat)} {leaders : List String} {most : Nat}

/-! ## Ties -/

theorem pairwise_leaders (counts : IdMap Nat) (most : Nat) :
    ((counts.toList.filter (·.2 = most)).map (·.1)).Pairwise (· < ·) :=
  counts.pairwise_map_fst_toList.sublist (List.filter_sublist.map _)

/-- If several share the largest number of votes, this is the number that a count compares with. -/
theorem foldl_max_eq (hle : ∀ c, votes.count c ≤ most) (hsome : ∃ c ∈ votes, votes.count c = most) :
    (countVotes votes).values.foldl max 0 = most := by
  obtain ⟨c, hc, hmost⟩ := hsome
  obtain ⟨d, -, hd⟩ := exists_count_eq_most (List.ne_nil_of_mem hc)
  exact Nat.le_antisymm (hd ▸ hle d) (hmost ▸ count_le_most votes c)

theorem exists_cons_cons (h : 2 ≤ leaders.length) : ∃ a b others, leaders = a :: b :: others := by
  obtain ⟨a, l, rfl⟩ := List.exists_cons_of_length_pos (Nat.zero_lt_of_lt h)
  obtain ⟨b, l, rfl⟩ := List.exists_cons_of_length_pos (Nat.lt_of_succ_lt_succ h)
  exact ⟨a, b, l, rfl⟩

/-- **A tie names those with the most votes**: at least two of them, in ascending order. -/
theorem tally_eq_tie_iff :
    tally votes = some (.tie leaders most) ↔
      2 ≤ leaders.length ∧ leaders.Pairwise (· < ·) ∧ (∀ c, votes.count c ≤ most) ∧
        ∀ c, c ∈ leaders ↔ c ∈ votes ∧ votes.count c = most := by
  constructor
  · intro h
    rw [tally] at h
    split at h
    · cases h
    · cases h
    · rename_i hnil hone
      cases h
      refine ⟨?_, pairwise_leaders _ _, count_le_most votes, fun c ↦ mem_leaders_countVotes_iff⟩
      rw [Nat.two_le_iff]
      refine ⟨fun hzero ↦ hnil (List.length_eq_zero_iff.mp hzero), fun hlen ↦ ?_⟩
      obtain ⟨c, hc⟩ := List.length_eq_one_iff.mp hlen
      exact hone c hc
  · rintro ⟨hlen, hasc, hle, hmem⟩
    obtain ⟨c, hc⟩ := List.exists_mem_of_length_pos (Nat.zero_lt_of_lt hlen)
    have hmost := foldl_max_eq hle ⟨c, (hmem c).mp hc⟩
    have hleaders : ((countVotes votes).toList.filter (·.2 = most)).map (·.1) = leaders :=
      (pairwise_leaders _ _).eq_of_mem_iff hasc fun c ↦ by
        rw [mem_leaders_countVotes_iff, hmem]
    simp only [tally, hmost, hleaders]
    obtain ⟨a, b, others, rfl⟩ := exists_cons_cons hlen
    rfl

theorem tally_eq_none_iff : tally votes = none ↔ votes = [] := by
  constructor
  · intro h
    by_contra hvotes
    have hsome := tally_isSome hvotes
    rw [h] at hsome
    cases hsome
  · rintro rfl
    rfl

/-- Without a winner, the largest number of votes is shared. -/
theorem exists_ne_count_eq (hvotes : votes ≠ []) (hwinner : ∀ w, ¬IsPlurality votes w) :
    ∃ a b, a ≠ b ∧ votes.count a = votes.count b ∧ ∀ c, votes.count c ≤ votes.count a := by
  cases htally : tally votes with
  | none => exact absurd (tally_eq_none_iff.mp htally) hvotes
  | some outcome =>
    cases outcome with
    | winner w => exact absurd (tally_eq_winner_iff.mp htally) (hwinner w)
    | tie leaders most =>
      obtain ⟨hlen, hasc, hle, hmem⟩ := tally_eq_tie_iff.mp htally
      obtain ⟨a, b, others, rfl⟩ := exists_cons_cons hlen
      have ha := ((hmem a).mp List.mem_cons_self).2
      have hb := ((hmem b).mp (List.mem_cons_of_mem _ List.mem_cons_self)).2
      have hab : a < b := List.rel_of_pairwise_cons hasc List.mem_cons_self
      exact ⟨a, b, hab.ne, ha.trans hb.symm, fun c ↦ ha ▸ hle c⟩

/-! ## Any order -/

/-- The outcome of a count whose numbers of votes are gone through in the given order. -/
def Tally.ofCounts? (entries : List (String × Nat)) : Option Tally :=
  match (entries.map (·.2)).max? with
  | none => none
  | some most =>
    match (entries.filter (·.2 = most)).map (·.1) with
    | [candidate] => some (.winner candidate)
    | leaders => some (.tie (Node.sortIds leaders) most)

theorem max?_eq_of_perm {l l' : List Nat} (h : l.Perm l') : l.max? = l'.max? := by
  ext a
  rw [List.max?_eq_some_iff, List.max?_eq_some_iff, h.mem_iff]
  simp only [h.mem_iff]

/-- The order in which the numbers come is without effect. -/
theorem Tally.ofCounts?_eq_of_perm {entries' : List (String × Nat)} (h : entries.Perm entries') :
    Tally.ofCounts? entries = Tally.ofCounts? entries' := by
  rw [ofCounts?, ofCounts?, max?_eq_of_perm (h.map _)]
  cases (entries'.map (·.2)).max? with
  | none => rfl
  | some most =>
    have hleaders := (h.filter (·.2 = most)).map (·.1)
    dsimp only
    generalize (entries.filter (·.2 = most)).map (·.1) = leaders at hleaders ⊢
    generalize (entries'.filter (·.2 = most)).map (·.1) = leaders' at hleaders ⊢
    split
    · rw [← List.singleton_perm.mp hleaders]
    · rename_i hone
      split
      · rename_i c
        exact absurd (List.perm_singleton.mp hleaders) (hone c)
      · rw [Node.sortIds_eq_of_perm hleaders]

/-- In the order of the ids, it is the count itself. -/
theorem Tally.ofCounts?_toList (votes : List String) :
    Tally.ofCounts? (countVotes votes).toList = tally votes := by
  by_cases hvotes : votes = []
  · subst hvotes
    rfl
  have hmax : (countVotes votes).values.max? = some ((countVotes votes).values.foldl max 0) := by
    obtain ⟨c, hc, hmost⟩ := exists_count_eq_most hvotes
    rw [List.max?_eq_some_iff, IdMap.mem_values_iff]
    refine ⟨⟨c, ?_⟩, (foldl_max_le_iff.mp (Nat.le_refl _)).2⟩
    rw [getElem?_countVotes, if_pos hc, hmost]
  -- Without leaders the two would differ, but somebody has the largest number of votes.
  have hsome := tally_isSome hvotes
  have hasc := pairwise_leaders (countVotes votes) ((countVotes votes).values.foldl max 0)
  rw [ofCounts?, ← IdMap.values_eq_map_snd, hmax]
  rw [tally] at hsome ⊢
  dsimp only at hsome ⊢
  generalize ((countVotes votes).toList.filter _).map (·.1) = leaders at hsome hasc ⊢
  obtain _ | ⟨c, _ | ⟨d, leaders⟩⟩ := leaders
  · cases hsome
  · rfl
  · dsimp only
    rw [Node.sortIds_eq_self (hasc.imp le_of_lt)]

theorem countVotes_eq_of_perm {votes' : List String} (h : votes.Perm votes') :
    countVotes votes = countVotes votes' := by
  refine Std.ExtTreeMap.ext_getElem? fun c ↦ ?_
  simp only [getElem?_countVotes, h.mem_iff, h.count_eq]

/-- **A count is decided by plurality.** For any votes,

* there is no outcome only if there are no votes;
* the winner is the one who has strictly more votes than everybody else;
* a tie has the largest number of votes that anybody has and all those who have so many, at least
  two, strictly ascending by the bytes of their ids;
* the outcome is the same in whatever order the votes come, and in whatever order the numbers of the
  candidates are gone through. -/
theorem tally_is_plurality (votes : List String) :
    (tally votes = none ↔ votes = []) ∧
      (∀ w, tally votes = some (.winner w) ↔
        ∀ other, other ≠ w → votes.count other < votes.count w) ∧
      (∀ leaders most, tally votes = some (.tie leaders most) ↔
        2 ≤ leaders.length ∧ leaders.Pairwise (fun c d ↦ Text.utf8 c < Text.utf8 d) ∧
          (∀ c, votes.count c ≤ most) ∧ ∀ c, c ∈ leaders ↔ c ∈ votes ∧ votes.count c = most) ∧
      (∀ votes', votes'.Perm votes → tally votes' = tally votes) ∧
      ∀ entries, entries.Perm (countVotes votes).toList →
        Tally.ofCounts? entries = tally votes := by
  refine ⟨tally_eq_none_iff, fun w ↦ tally_eq_winner_iff, ?_, ?_, ?_⟩
  · intro leaders most
    simp only [tally_eq_tie_iff, Text.utf8_lt_utf8_iff]
  · intro votes' h
    simp only [tally, countVotes_eq_of_perm h]
  · intro entries h
    rw [Tally.ofCounts?_eq_of_perm h, Tally.ofCounts?_toList]

/-- Two share the most votes, in either order of the votes and of their numbers. -/
theorem tally_is_plurality_shared :
    tally ["b", "a", "c", "b", "a"] = some (.tie ["a", "b"] 2) ∧
      tally ["a", "b", "a", "c", "b"] = tally ["b", "a", "c", "b", "a"] ∧
      Tally.ofCounts? [("c", 1), ("b", 2), ("a", 2)] = tally ["b", "a", "c", "b", "a"] := by
  obtain ⟨-, -, -, hvotes, hcounts⟩ := tally_is_plurality ["b", "a", "c", "b", "a"]
  refine ⟨by decide +kernel, hvotes _ (by decide), hcounts _ ?_⟩
  decide +kernel

end HeartbeatMesh

import HeartbeatMesh.Proofs.IdMap
import HeartbeatMesh.Tally
import Mathlib.Data.List.Basic
import Mathlib.Tactic.Set

/-!
# Plurality

A count names a winner if and only if the winner has more votes than anybody else
(`tally_eq_winner_iff`). The counts of the fold are the counts of the list (`getElem?_countVotes`),
and the largest of them is the one that is compared with, so the leaders are exactly those with the
most votes.
-/

namespace HeartbeatMesh

/-- More of the votes are for the one candidate than for any other. -/
def IsPlurality (votes : List String) (winner : String) : Prop :=
  ∀ other, other ≠ winner → votes.count other < votes.count winner

theorem IsPlurality.unique {votes : List String} {v w : String} (hv : IsPlurality votes v)
    (hw : IsPlurality votes w) : v = w := by
  by_contra h
  exact Nat.lt_asymm (hv w (Ne.symm h)) (hw v h)

/-- There is always somebody else who could have had votes. -/
theorem IsPlurality.mem {votes : List String} {w : String} (h : IsPlurality votes w) :
    w ∈ votes := by
  have hother : w ++ "a" ≠ w := by
    intro heq
    have := congrArg String.length heq
    rw [String.length_append] at this
    exact absurd this (by simp)
  exact List.count_pos_iff.mp (Nat.zero_lt_of_lt (h _ hother))

/-! ## Counting -/

theorem getElem?_foldl_count (votes : List String) (counts : IdMap Nat) (c : String) :
    (votes.foldl (fun counts c ↦ counts.insert c (counts.getD c 0 + 1)) counts)[c]?
      = if c ∈ votes then some (counts.getD c 0 + votes.count c) else counts[c]? := by
  induction votes generalizing counts with
  | nil => simp
  | cons v votes ih =>
    rw [List.foldl_cons, ih]
    by_cases hv : c = v
    · subst hv
      by_cases hmem : c ∈ votes
      · simp [hmem]
        omega
      · simp [hmem, List.count_eq_zero.mpr hmem]
    · simp [hv, Ne.symm hv, Std.ExtTreeMap.getD_insert, IdMap.getElem?_insert]

theorem getElem?_countVotes (votes : List String) (c : String) :
    (countVotes votes)[c]? = if c ∈ votes then some (votes.count c) else none := by
  rw [countVotes, getElem?_foldl_count]
  simp

theorem foldl_max_le_iff {l : List Nat} {a b : Nat} :
    l.foldl max a ≤ b ↔ a ≤ b ∧ ∀ v ∈ l, v ≤ b := by
  induction l generalizing a with
  | nil => simp
  | cons v l ih =>
    rw [List.foldl_cons, ih, List.forall_mem_cons, Nat.max_le, and_assoc]

/-- The candidates that share the largest number of votes. -/
theorem mem_leaders_iff {counts : IdMap Nat} {most : Nat} {c : String} :
    c ∈ (counts.toList.filter (·.2 = most)).map (·.1) ↔ counts[c]? = some most := by
  rw [List.mem_map]
  constructor
  · rintro ⟨⟨c, n⟩, hmem, rfl⟩
    obtain ⟨hentry, hn⟩ := List.mem_filter.mp hmem
    obtain rfl : n = most := of_decide_eq_true hn
    exact Std.ExtTreeMap.mem_toList_iff_getElem?_eq_some.mp hentry
  · intro h
    exact ⟨(c, most), List.mem_filter.mpr
      ⟨Std.ExtTreeMap.mem_toList_iff_getElem?_eq_some.mpr h, decide_eq_true rfl⟩, rfl⟩

theorem mem_leaders_countVotes_iff {votes : List String} {most : Nat} {c : String} :
    c ∈ ((countVotes votes).toList.filter (·.2 = most)).map (·.1) ↔
      c ∈ votes ∧ votes.count c = most := by
  rw [mem_leaders_iff, getElem?_countVotes]
  split_ifs with hc <;> simp [hc]

theorem nodup_leaders (counts : IdMap Nat) (most : Nat) :
    ((counts.toList.filter (·.2 = most)).map (·.1)).Nodup := by
  have hsub : ((counts.toList.filter (·.2 = most)).map (·.1)).Sublist counts.keys := by
    rw [← Std.ExtTreeMap.map_fst_toList_eq_keys]
    exact List.filter_sublist.map _
  exact hsub.nodup Std.ExtTreeMap.nodup_keys

theorem count_le_most (votes : List String) (c : String) :
    votes.count c ≤ (countVotes votes).values.foldl max 0 := by
  by_cases hc : c ∈ votes
  · refine (foldl_max_le_iff.mp (Nat.le_refl _)).2 _ (IdMap.mem_values_iff.mpr ⟨c, ?_⟩)
    rw [getElem?_countVotes, if_pos hc]
  · rw [List.count_eq_zero.mpr hc]
    exact Nat.zero_le _

/-- The largest number of votes is the number of votes of somebody. -/
theorem exists_count_eq_most {votes : List String} (h : votes ≠ []) :
    ∃ c ∈ votes, votes.count c = (countVotes votes).values.foldl max 0 := by
  by_contra hnone
  push Not at hnone
  set most := (countVotes votes).values.foldl max 0 with hmost
  -- Otherwise one vote less would be an upper bound, too.
  have hlt {c : String} (hc : c ∈ votes) : votes.count c < most :=
    Nat.lt_of_le_of_ne (count_le_most votes c) (hnone c hc)
  have hbound : most ≤ most - 1 := by
    refine foldl_max_le_iff.mpr ⟨Nat.zero_le _, fun v hv ↦ ?_⟩
    obtain ⟨c, hcount⟩ := IdMap.mem_values_iff.mp hv
    rw [getElem?_countVotes] at hcount
    split_ifs at hcount with hc
    obtain rfl := Option.some.inj hcount
    exact Nat.le_sub_one_of_lt (hlt hc)
  obtain ⟨c, hc⟩ := List.exists_mem_of_ne_nil votes h
  have := hlt hc
  omega

/-! ## The winner -/

/-- Any votes have an outcome. -/
theorem tally_isSome {votes : List String} (h : votes ≠ []) : (tally votes).isSome := by
  obtain ⟨c, hc, hmost⟩ := exists_count_eq_most h
  have hleader := mem_leaders_countVotes_iff.mpr ⟨hc, hmost⟩
  rw [tally]
  split
  · rename_i hnil
    rw [hnil] at hleader
    cases hleader
  · rfl
  · rfl

theorem tally_eq_winner_iff_leaders {votes : List String} {w : String} :
    tally votes = some (.winner w) ↔
      ((countVotes votes).toList.filter
        (·.2 = (countVotes votes).values.foldl max 0)).map (·.1) = [w] := by
  rw [tally]
  split
  · rename_i h
    simp [h]
  · rename_i c h
    simp [h]
  · rename_i leaders hnil hone
    constructor
    · intro h
      cases h
    · intro h
      exact absurd h (hone w)

/-- **Plurality decides.** A count has a winner exactly if one candidate has more votes than any
other. -/
theorem tally_eq_winner_iff {votes : List String} {w : String} :
    tally votes = some (.winner w) ↔ IsPlurality votes w := by
  rw [tally_eq_winner_iff_leaders]
  set most := (countVotes votes).values.foldl max 0 with hmost
  have hle (c : String) : votes.count c ≤ most := count_le_most votes c
  have hleader {c : String} :
      c ∈ ((countVotes votes).toList.filter (·.2 = most)).map (·.1) ↔
        c ∈ votes ∧ votes.count c = most := mem_leaders_countVotes_iff
  constructor
  · -- Anybody else with as many votes would be a leader, too.
    intro h other hother
    simp only [h, List.mem_singleton] at hleader
    have hw : w ∈ votes ∧ votes.count w = most := hleader.mp rfl
    have hmax : votes.count other ≤ votes.count w := hw.2 ▸ hle other
    refine Nat.lt_of_le_of_ne hmax fun heq ↦ hother ?_
    have hpos : 0 < votes.count other := heq ▸ List.count_pos_iff.mpr hw.1
    exact hleader.mpr ⟨List.count_pos_iff.mp hpos, heq.trans hw.2⟩
  · intro h
    have hmax : votes.count w = most := by
      refine Nat.le_antisymm (hle w) (foldl_max_le_iff.mpr ⟨Nat.zero_le _, fun n hn ↦ ?_⟩)
      obtain ⟨c, hc⟩ := IdMap.mem_values_iff.mp hn
      rw [getElem?_countVotes] at hc
      split_ifs at hc
      obtain rfl := Option.some.inj hc
      by_cases hcw : c = w
      · exact Nat.le_of_eq (by rw [hcw])
      · exact Nat.le_of_lt (h c hcw)
    have honly : ∀ c ∈ ((countVotes votes).toList.filter (·.2 = most)).map (·.1), c = w := by
      intro c hc
      by_contra hcw
      exact absurd ((hleader.mp hc).2.trans hmax.symm) (Nat.ne_of_lt (h c hcw))
    -- All leaders are the winner, and none of them occurs twice.
    have hnodup := nodup_leaders (countVotes votes) most
    have hmem := hleader.mpr ⟨h.mem, hmax⟩
    generalize ((countVotes votes).toList.filter (·.2 = most)).map (·.1) = leaders at *
    match leaders with
    | [c] => rw [honly c List.mem_cons_self]
    | c :: c' :: leaders =>
      have hc := honly c List.mem_cons_self
      have hc' := honly c' (List.mem_cons_of_mem _ List.mem_cons_self)
      rw [hc, hc'] at hnodup
      simp at hnodup

end HeartbeatMesh

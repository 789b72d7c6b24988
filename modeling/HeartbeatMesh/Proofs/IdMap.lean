import HeartbeatMesh.Message
import Mathlib.Tactic.SplitIfs

/-!
# Collections by id

What the proofs need of `IdMap` beyond the library: looking up after an insertion with equality in
place of comparison, insertions that change places, the values as the second halves of the entries,
and the sizes of collections whose ids are among those of others.
-/

namespace HeartbeatMesh.IdMap

variable {α : Type} {m : IdMap α} {k a : String} {v w : α}

theorem getElem?_insert : (m.insert k v)[a]? = if k = a then some v else m[a]? := by
  rw [Std.ExtTreeMap.getElem?_insert]
  simp only [Std.LawfulEqOrd.compare_eq_iff_eq]

/-- What stands after an insertion has been inserted, or it stood before under another id. -/
theorem of_getElem?_insert (h : (m.insert k v)[a]? = some w) :
    k = a ∧ v = w ∨ k ≠ a ∧ m[a]? = some w := by
  rw [getElem?_insert] at h
  split_ifs at h with hk
  · exact .inl ⟨hk, Option.some.inj h⟩
  · exact .inr ⟨hk, h⟩

theorem getElem?_insert_ne (h : a ≠ k) : (m.insert k v)[a]? = m[a]? := by
  rw [getElem?_insert, if_neg (Ne.symm h)]

theorem getElem?_erase : (m.erase k)[a]? = if k = a then none else m[a]? := by
  rw [Std.ExtTreeMap.getElem?_erase]
  simp only [Std.LawfulEqOrd.compare_eq_iff_eq]

theorem mem_iff : k ∈ m ↔ ∃ v, m[k]? = some v := by
  rw [Std.ExtTreeMap.mem_iff_isSome_getElem?, Option.isSome_iff_exists]

theorem getElem?_insertIfNew :
    (m.insertIfNew k v)[a]? = m[a]?.or (if k = a then some v else none) := by
  rw [Std.ExtTreeMap.getElem?_insertIfNew]
  simp only [Std.LawfulEqOrd.compare_eq_iff_eq]
  by_cases hk : k = a
  · subst hk
    rcases hold : m[k]? with _ | w
    · have hnew : k ∉ m := by
        rw [mem_iff, hold]
        rintro ⟨w, hw⟩
        cases hw
      rw [if_pos ⟨rfl, hnew⟩, if_pos rfl, Option.none_or]
    · rw [if_neg fun h ↦ h.2 (mem_iff.mpr ⟨w, hold⟩), Option.some_or]
  · rw [if_neg fun h ↦ hk h.1, if_neg hk, Option.or_none]

/-- Writes under different ids can change places. -/
theorem insert_comm (h : k ≠ a) : (m.insert k v).insert a w = (m.insert a w).insert k v := by
  refine Std.ExtTreeMap.ext_getElem? fun b ↦ ?_
  simp only [getElem?_insert]
  split_ifs with ha hk
  · exact absurd (hk.trans ha.symm) h
  · rfl
  · rfl
  · rfl

theorem insertIfNew_insert (h : k ≠ a) :
    (m.insert k v).insertIfNew a w = (m.insertIfNew a w).insert k v := by
  refine Std.ExtTreeMap.ext_getElem? fun b ↦ ?_
  simp only [getElem?_insert, getElem?_insertIfNew]
  split_ifs with hk ha
  · exact absurd (hk.trans ha.symm) h
  · rfl
  · rfl
  · rfl

theorem insertIfNew_insertIfNew : (m.insertIfNew k v).insertIfNew k w = m.insertIfNew k v := by
  refine Std.ExtTreeMap.ext_getElem? fun b ↦ ?_
  simp only [getElem?_insertIfNew]
  split_ifs
  · rw [Option.or_assoc, Option.some_or]
  · rw [Option.or_none]

theorem mem_keys_iff : k ∈ m.keys ↔ ∃ v, m[k]? = some v := by
  rw [Std.ExtTreeMap.mem_keys, mem_iff]

theorem values_eq_map_snd (m : IdMap α) : m.values = m.toList.map Prod.snd := by
  have hfold : m.values = m.foldr (fun _ v l ↦ v :: l) [] := by
    obtain ⟨⟨q⟩⟩ := m
    induction q using Quotient.ind
    rfl
  rw [hfold, Std.ExtTreeMap.foldr_eq_foldr_toList]
  induction m.toList with
  | nil => rfl
  | cons e l ih => rw [List.foldr_cons, ih, List.map_cons]

theorem mem_values_iff : v ∈ m.values ↔ ∃ k : String, m[k]? = some v := by
  rw [values_eq_map_snd, List.mem_map]
  constructor
  · rintro ⟨⟨k, w⟩, hmem, rfl⟩
    exact ⟨k, Std.ExtTreeMap.mem_toList_iff_getElem?_eq_some.mp hmem⟩
  · rintro ⟨k, hk⟩
    exact ⟨(k, v), Std.ExtTreeMap.mem_toList_iff_getElem?_eq_some.mpr hk, rfl⟩

theorem values_eq_nil_iff : m.values = [] ↔ m = ∅ := by
  rw [values_eq_map_snd, List.map_eq_nil_iff, ← List.length_eq_zero_iff,
    Std.ExtTreeMap.length_toList, ← Std.ExtTreeMap.isEmpty_iff,
    Std.ExtTreeMap.isEmpty_eq_size_beq_zero, beq_iff_eq]

/-- Entries are put in one after the other where nothing stands: what is there stays, and otherwise
the first of them counts. -/
theorem getElem?_foldl_insertIfNew (l : List (String × α)) (m : IdMap α) :
    (l.foldl (fun m e ↦ m.insertIfNew e.1 e.2) m)[a]?
      = m[a]?.or (l.findSome? fun e ↦ if e.1 = a then some e.2 else none) := by
  induction l generalizing m with
  | nil => rw [List.foldl_nil, List.findSome?_nil, Option.or_none]
  | cons e l ih =>
    rw [List.foldl_cons, ih, getElem?_insertIfNew, Option.or_assoc, List.findSome?_cons]
    cases (if e.1 = a then some e.2 else none) <;> rfl

/-- The entries of a collection have different ids, so the first under an id is the only one, in
whatever order they come. -/
theorem findSome?_of_perm {l : List (String × α)} (h : l.Perm m.toList) (a : String) :
    (l.findSome? fun e ↦ if e.1 = a then some e.2 else none) = m[a]? := by
  cases hfind : l.findSome? fun e ↦ if e.1 = a then some e.2 else none with
  | some v =>
    obtain ⟨e, hmem, he⟩ := List.exists_of_findSome?_eq_some hfind
    obtain ⟨rfl, hv⟩ := Option.ite_none_right_eq_some.mp he
    rw [← hv]
    exact (Std.ExtTreeMap.mem_toList_iff_getElem?_eq_some.mp (h.mem_iff.mp hmem)).symm
  | none =>
    refine (Option.eq_none_iff_forall_ne_some.mpr fun v hv ↦ ?_).symm
    have hmem := h.mem_iff.mpr (Std.ExtTreeMap.mem_toList_iff_getElem?_eq_some.mpr hv)
    have hnone := List.findSome?_eq_none_iff.mp hfind (a, v) hmem
    rw [if_pos rfl] at hnone
    cases hnone

theorem findSome?_toList (m : IdMap α) (a : String) :
    (m.toList.findSome? fun e ↦ if e.1 = a then some e.2 else none) = m[a]? :=
  findSome?_of_perm (.refl _) a

/-- A collection whose ids are among those of another one, but not all of them, is smaller. -/
theorem size_lt_size {β : Type} {m' : IdMap β} (h : ∀ a ∈ m.keys, a ∈ m'.keys)
    (hk : k ∈ m'.keys) (hk' : k ∉ m.keys) : m.size < m'.size := by
  have hnodup : (k :: m.keys).Nodup := List.nodup_cons.mpr ⟨hk', Std.ExtTreeMap.nodup_keys⟩
  have hsub : k :: m.keys ⊆ m'.keys := List.cons_subset.mpr ⟨hk, h⟩
  have hlen := hnodup.length_le_of_subset hsub
  rwa [List.length_cons, Std.ExtTreeMap.length_keys, Std.ExtTreeMap.length_keys] at hlen

/-- Of two collections of one size, the ids of the one are among those of the other only if they are
the same ids. -/
theorem forall_mem_iff {β : Type} {m' : IdMap β} (hsize : m.size = m'.size) :
    (∀ a, a ∈ m ↔ a ∈ m') ↔ ∀ a ∈ m, a ∈ m' := by
  refine ⟨fun h a ↦ (h a).mp, fun h a ↦ ⟨h a, fun ha ↦ ?_⟩⟩
  by_cases hmem : a ∈ m
  · exact hmem
  · have hkeys : ∀ b ∈ m.keys, b ∈ m'.keys := by
      simpa only [Std.ExtTreeMap.mem_keys] using h
    have hlt : m.size < m'.size :=
      size_lt_size hkeys (Std.ExtTreeMap.mem_keys.mpr ha) (by rwa [Std.ExtTreeMap.mem_keys])
    exact absurd hsize (Nat.ne_of_lt hlt)

end HeartbeatMesh.IdMap

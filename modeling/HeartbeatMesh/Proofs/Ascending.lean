import HeartbeatMesh.Node
import Mathlib.Data.String.Basic

/-!
# Ascending ids

Whatever is shown of a collection is put into the order of the ids first. A list in strictly
ascending order is fixed by its members, so it does not matter in which order they were found:
`sortIds_eq_of_perm` and `sortIds_eq_keys`.
-/

namespace HeartbeatMesh

/-- Sorting by an id puts the ids in order. -/
theorem pairwise_mergeSort_key {α : Type} (key : α → String) (l : List α) :
    (l.mergeSort fun a b ↦ decide (key a ≤ key b)).Pairwise fun a b ↦ key a ≤ key b := by
  have htrans (a b c : α) (hab : decide (key a ≤ key b) = true)
      (hbc : decide (key b ≤ key c) = true) : decide (key a ≤ key c) = true :=
    decide_eq_true (String.le_trans (of_decide_eq_true hab) (of_decide_eq_true hbc))
  have htotal (a b : α) : (decide (key a ≤ key b) || decide (key b ≤ key a)) = true := by
    simpa using String.le_total (key a) (key b)
  exact (List.pairwise_mergeSort htrans htotal l).imp of_decide_eq_true

namespace IdMap

variable {α : Type}

/-- The ids of a collection come in strictly ascending order. -/
theorem pairwise_keys (m : IdMap α) : m.keys.Pairwise (· < ·) :=
  Std.ExtTreeMap.ordered_keys.imp compare_lt_iff_lt.mp

theorem pairwise_map_fst_toList (m : IdMap α) : (m.toList.map (·.1)).Pairwise (· < ·) := by
  have hkeys : m.toList.map (·.1) = m.keys := Std.ExtTreeMap.map_fst_toList_eq_keys
  exact hkeys ▸ m.pairwise_keys

end IdMap

namespace Node

theorem sortIds_perm (ids : List String) : (sortIds ids).Perm ids := List.mergeSort_perm _ _

theorem pairwise_sortIds (ids : List String) : (sortIds ids).Pairwise (· ≤ ·) :=
  pairwise_mergeSort_key (fun k ↦ k) ids

theorem sortIds_eq_self {ids : List String} (h : ids.Pairwise (· ≤ ·)) : sortIds ids = ids :=
  List.mergeSort_of_pairwise (h.imp decide_eq_true)

/-- Sorted ids are fixed by which they are. -/
theorem sortIds_eq_of_perm {ids ids' : List String} (h : ids.Perm ids') :
    sortIds ids = sortIds ids' :=
  ((sortIds_perm ids).trans (h.trans (sortIds_perm ids').symm)).eq_of_pairwise
    (fun _ _ _ _ hab hba ↦ String.le_antisymm hab hba) (pairwise_sortIds ids)
    (pairwise_sortIds ids')

/-- The ids of a collection, found in any order and sorted, are its ids in order. -/
theorem sortIds_eq_keys {α : Type} {m : IdMap α} {ids : List String} (h : ids.Perm m.keys) :
    sortIds ids = m.keys := by
  rw [sortIds_eq_of_perm h, sortIds_eq_self (m.pairwise_keys.imp le_of_lt)]

end Node

end HeartbeatMesh

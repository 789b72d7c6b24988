import HeartbeatMesh.Proofs.Ascending
import HeartbeatMesh.Proofs.IdMap

/-!
# Going through a collection

A collection can be gone through in any order, and in another order next time. An `Enumeration` is
one way to do it. What a program reads off a collection is well-defined if it is the same for every
enumeration: whether some value has a property (`any_values`), the ids once they are sorted
(`sortIds_keys`), what becomes of a collection that takes the entries in where nothing stands
(`foldl_insertIfNew`).
-/

namespace HeartbeatMesh

/-- The entries of each collection in some order. -/
structure Enumeration where
  entries : {α : Type} → IdMap α → List (String × α)
  perm : ∀ {α : Type} (m : IdMap α), (entries m).Perm m.toList

namespace Enumeration

variable {α : Type}

/-- The order of the ids. -/
def ascending : Enumeration := ⟨fun m ↦ m.toList, fun _ ↦ .refl _⟩

/-- The reverse order of the ids. -/
def descending : Enumeration := ⟨fun m ↦ m.toList.reverse, fun _ ↦ List.reverse_perm _⟩

/-- The ids, in the order of the enumeration. -/
def keys (e : Enumeration) (m : IdMap α) : List String := (e.entries m).map (·.1)

/-- The values, in the order of the enumeration. -/
def values (e : Enumeration) (m : IdMap α) : List α := (e.entries m).map (·.2)

theorem keys_perm (e : Enumeration) (m : IdMap α) : (e.keys m).Perm m.keys := by
  rw [← Std.ExtTreeMap.map_fst_toList_eq_keys]
  exact (e.perm m).map Prod.fst

theorem values_perm (e : Enumeration) (m : IdMap α) : (e.values m).Perm m.values := by
  rw [IdMap.values_eq_map_snd]
  exact (e.perm m).map Prod.snd

@[simp] theorem sortIds_keys (e : Enumeration) (m : IdMap α) : Node.sortIds (e.keys m) = m.keys :=
  Node.sortIds_eq_keys (e.keys_perm m)

@[simp] theorem any_values (e : Enumeration) (m : IdMap α) (p : α → Bool) :
    (e.values m).any p = m.values.any p :=
  (e.values_perm m).any_eq

theorem foldl_insertIfNew (e : Enumeration) (m m' : IdMap α) :
    (e.entries m).foldl (fun m e ↦ m.insertIfNew e.1 e.2) m'
      = m.toList.foldl (fun m e ↦ m.insertIfNew e.1 e.2) m' := by
  refine Std.ExtTreeMap.ext_getElem? fun a ↦ ?_
  rw [IdMap.getElem?_foldl_insertIfNew, IdMap.getElem?_foldl_insertIfNew,
    IdMap.findSome?_of_perm (e.perm m), IdMap.findSome?_toList]

end Enumeration

end HeartbeatMesh

import HeartbeatMesh.Proofs.Ascending
import HeartbeatMesh.Proofs.Node.Sound

/-!
# Reports from the view

A node reports ids from its view: those of the masters that it knows, those of the nodes that it has
not heard of for a while. A report names records by the ids that they carry. So it can be trusted if
the records stand under the ids that they carry (`Keyed`): then it is a strictly ascending list of
keys of the view, with exactly those keys whose records are meant.
-/

namespace HeartbeatMesh.Node

variable {n : Node} {k : String} {p : NodeRecord → Bool}

/-- The records of the view stand under their ids. -/
def Keyed (n : Node) : Prop := ∀ (p : String) (r : NodeRecord), n.view[p]? = some r → r.nodeId = p

instance (n : Node) : Decidable n.Keyed :=
  decidable_of_iff (∀ e ∈ n.view.toList, e.2.nodeId = e.1)
    ⟨fun h p r hr ↦ h (p, r) (Std.ExtTreeMap.mem_toList_iff_getElem?_eq_some.mpr hr),
      fun h e he ↦ h e.1 e.2 (Std.ExtTreeMap.mem_toList_iff_getElem?_eq_some.mp he)⟩

/-! ## Reports -/

/-- The ids that the records of the view with a property carry, in ascending order. -/
def report (n : Node) (p : NodeRecord → Bool) : List String :=
  sortIds ((n.view.values.filter p).map (·.nodeId))

theorem knownMasters_eq_report (n : Node) : n.knownMasters = n.report (·.isMaster) := rfl

theorem stalePeers_eq_report (n : Node) (now timeout : Float) :
    n.stalePeers now timeout = n.report fun r ↦
      decide (r.nodeId ≠ n.id) && decide (timeout < now - r.heartbeat) :=
  rfl

/-- Ids that ascend in the order of their keys are reported as they come. -/
theorem report_eq {ids : List String} (h : (n.view.values.filter p).map (·.nodeId) = ids)
    (hids : ids.Pairwise (· ≤ ·)) : n.report p = ids := by
  rw [report, h, sortIds_eq_self hids]

theorem mem_report_iff :
    k ∈ n.report p ↔ ∃ (key : String) (r : NodeRecord),
      n.view[key]? = some r ∧ p r = true ∧ r.nodeId = k := by
  rw [report, (sortIds_perm _).mem_iff, List.mem_map]
  constructor
  · rintro ⟨r, hr, hk⟩
    obtain ⟨hmem, hp⟩ := List.mem_filter.mp hr
    obtain ⟨key, hkey⟩ := IdMap.mem_values_iff.mp hmem
    exact ⟨key, r, hkey, hp, hk⟩
  · rintro ⟨key, r, hkey, hp, hk⟩
    exact ⟨r, List.mem_filter.mpr ⟨IdMap.mem_values_iff.mpr ⟨key, hkey⟩, hp⟩, hk⟩

/-- A report of a keyed view has the keys whose records are meant. -/
theorem Keyed.mem_report_iff (hk : n.Keyed) :
    k ∈ n.report p ↔ ∃ r, n.view[k]? = some r ∧ p r = true := by
  rw [Node.mem_report_iff]
  constructor
  · rintro ⟨key, r, hr, hp, rfl⟩
    rw [← hk key r hr] at hr
    exact ⟨r, hr, hp⟩
  · rintro ⟨r, hr, hp⟩
    exact ⟨k, r, hr, hp, hk k r hr⟩

/-- The records of a keyed view carry different ids. -/
theorem Keyed.nodup_report (hk : n.Keyed) (p : NodeRecord → Bool) : (n.report p).Nodup := by
  have hkeys : (n.view.values.filter p).map (·.nodeId)
      = (n.view.toList.filter (p ∘ Prod.snd)).map Prod.fst := by
    rw [IdMap.values_eq_map_snd, List.filter_map, List.map_map]
    refine List.map_congr_left fun e he ↦ ?_
    exact hk e.1 e.2 (Std.ExtTreeMap.mem_toList_iff_getElem?_eq_some.mp (List.mem_filter.mp he).1)
  have hnodup : (n.view.toList.map Prod.fst).Nodup := by
    rw [Std.ExtTreeMap.map_fst_toList_eq_keys]
    exact Std.ExtTreeMap.nodup_keys
  rw [report, (sortIds_perm _).nodup_iff, hkeys]
  exact hnodup.sublist (List.filter_sublist.map _)

/-- A report of a keyed view is strictly ascending. -/
theorem Keyed.pairwise_report (hk : n.Keyed) (p : NodeRecord → Bool) :
    (n.report p).Pairwise (· < ·) :=
  (pairwise_sortIds _).imp₂ (fun _ _ hle hne ↦ lt_of_le_of_ne hle hne) (hk.nodup_report p)

end HeartbeatMesh.Node

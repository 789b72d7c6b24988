import HeartbeatMesh.Proofs.Node.View

/-!
# Records under foreign keys

A heartbeat is taken into the view under the id that it carries, and a node's own record stands
under its own id. A response is merged under the keys that it uses, whatever ids its records carry.
So the records of a view stand under their ids except for those that are still known from a response
only and came under a foreign key (`keyed_iff`). While there is no such record, the reports from the
view say what they seem to say; otherwise they name wrong ids, and some of them more than once
(`reports_of_foreign`).
-/

namespace HeartbeatMesh.Node

variable {γ : Type} [WordSource γ] {n : Node} {i k : String}

/-- The records stand under their ids unless one that is known from a response only came under a
foreign key. -/
theorem keyed_iff (i : String) (now : Float) (settings : Settings) (os : List (Occasion γ)) :
    ((new i now settings).live os).Keyed ↔
      ∀ k, k ≠ i → announced i k os = [] → settings.mergeState = true →
        ∀ r, (told i k os).head? = some r → r.nodeId = k := by
  constructor
  · intro hkeyed k hk hannounced hmerge r hr
    refine hkeyed k r ?_
    rw [getElem?_view_live hk, hannounced, if_pos hmerge, hr]
    rfl
  · intro htold k r hr
    by_cases hk : k = i
    · have hself := (present_new i now settings).live os
      rw [hk, hself.own] at hr
      rw [hk, ← Option.some.inj hr]
      exact hself.id
    · rw [getElem?_view_live hk] at hr
      rcases Option.or_eq_some_iff.mp hr with hr | ⟨hnone, hr⟩
      · exact nodeId_of_mem_announced (List.mem_of_getLast? hr)
      · obtain ⟨hmerge, hr⟩ := Option.ite_none_right_eq_some.mp hr
        exact htold k hk (List.getLast?_eq_none_iff.mp hnone) hmerge r hr

theorem not_mem_stalePeers (n : Node) (time timeout : Float) :
    n.id ∉ n.stalePeers time timeout := by
  rw [stalePeers_eq_report, mem_report_iff]
  rintro ⟨key, r, -, hr, hid⟩
  simp [hid] at hr

theorem Keyed.mem_stalePeers_iff (hk : n.Keyed) {time timeout : Float} :
    k ∈ n.stalePeers time timeout ↔
      k ≠ n.id ∧ ∃ r, n.view[k]? = some r ∧ timeout < time - r.heartbeat := by
  rw [stalePeers_eq_report, hk.mem_report_iff]
  constructor
  · rintro ⟨r, hr, hstale⟩
    rw [hk k r hr, Bool.and_eq_true, decide_eq_true_iff, decide_eq_true_iff] at hstale
    exact ⟨hstale.1, r, hr, hstale.2⟩
  · rintro ⟨hid, r, hr, hstale⟩
    refine ⟨r, hr, ?_⟩
    rw [hk k r hr, Bool.and_eq_true, decide_eq_true_iff, decide_eq_true_iff]
    exact ⟨hid, hstale⟩

/-- **When reports can be trusted.** Whatever a node has lived through, and whoever speaks to it,

* its view holds the records under the ids that they carry if and only if no record that it has from
  a response alone came under a foreign key; that is always so if views are not merged;
* then the masters that it knows are the keys that its view flags, those that it has not heard of
  are the keys of others whose last heartbeat is too old, and both lists are strictly ascending;
* the node itself is never among those that it has not heard of. -/
theorem reports_of_keyed (i : String) (now : Float) (settings : Settings)
    (os : List (Occasion γ)) :
    let n := (new i now settings).live os
    (n.Keyed ↔ ∀ k, k ≠ i → announced i k os = [] → settings.mergeState = true →
        ∀ r, (told i k os).head? = some r → r.nodeId = k) ∧
      (n.Keyed →
        (n.knownMasters.Pairwise (· < ·) ∧ ∀ k, k ∈ n.knownMasters ↔ n.Flags k) ∧
          ∀ time timeout, (n.stalePeers time timeout).Pairwise (· < ·) ∧
            ∀ k, k ∈ n.stalePeers time timeout ↔
              k ≠ i ∧ ∃ r, n.view[k]? = some r ∧ timeout < time - r.heartbeat) ∧
      ∀ time timeout, i ∉ n.stalePeers time timeout := by
  intro n
  have hid : n.id = i := ((present_new i now settings).live os).id
  refine ⟨keyed_iff i now settings os, fun hkeyed ↦ ⟨⟨?_, ?_⟩, fun time timeout ↦ ⟨?_, ?_⟩⟩, ?_⟩
  · exact hkeyed.pairwise_report _
  · intro k
    exact hkeyed.mem_report_iff
  · exact hkeyed.pairwise_report _
  · intro k
    rw [hkeyed.mem_stalePeers_iff, hid]
  · intro time timeout
    rw [← hid]
    exact n.not_mem_stalePeers time timeout

/-- A node that merges views hears a heartbeat of `"b"` and is told of `"c"` and of the master
`"d"`. -/
def introduced : List (Occasion WordCycle) :=
  [.startup "r", .message "b" (.heartbeat ⟨"b", 101, false⟩),
    .message "b" (.stateResponse "r"
      (((∅ : IdMap NodeRecord).insert "c" ⟨"c", 1, false⟩).insert "d" ⟨"d", 2, true⟩))]

/-- The node reports the master, and those who have been silent for more than ten seconds. -/
theorem reports_of_keyed_introduced :
    ((new "a" 100 ⟨5, true⟩).live introduced).Keyed ∧
      (∀ k, k ∈ ((new "a" 100 ⟨5, true⟩).live introduced).knownMasters ↔
        ((new "a" 100 ⟨5, true⟩).live introduced).Flags k) ∧
      ((new "a" 100 ⟨5, true⟩).live introduced).stalePeers 105 10 = ["c", "d"] ∧
      (((new "a" 100 ⟨5, true⟩).live introduced).stalePeers 105 10).Pairwise (· < ·) := by
  have hkeyed : ((new "a" 100 ⟨5, true⟩).live introduced).Keyed := by decide +kernel
  obtain ⟨-, hreports, -⟩ := @reports_of_keyed WordCycle _ "a" 100 ⟨5, true⟩ introduced
  obtain ⟨⟨-, hmasters⟩, hstale⟩ := hreports hkeyed
  exact ⟨hkeyed, hmasters, report_eq (by decide +kernel) (by decide), (hstale 105 10).1⟩

/-- A node that merges views is told of the silent master `"c"` under its own key and under that of
`"b"`. -/
def misled : List (Occasion WordCycle) :=
  [.startup "r",
    .message "b" (.stateResponse "r"
      (((∅ : IdMap NodeRecord).insert "b" ⟨"c", 1, true⟩).insert "c" ⟨"c", 1, true⟩))]

/-- A record stands under a foreign key. It makes the node report one master twice, and one node
that it has not heard of twice and the other one not at all. -/
theorem reports_of_foreign :
    ((new "a" 100 ⟨5, true⟩).live misled).view["b"]? = some ⟨"c", 1, true⟩ ∧
      ¬((new "a" 100 ⟨5, true⟩).live misled).Keyed ∧
      ((new "a" 100 ⟨5, true⟩).live misled).knownMasters = ["c", "c"] ∧
      ((new "a" 100 ⟨5, true⟩).live misled).stalePeers 105 10 = ["c", "c"] := by
  refine ⟨by decide +kernel, by decide +kernel, ?_, ?_⟩
  · exact report_eq (by decide +kernel) (by decide)
  · exact report_eq (by decide +kernel) (by decide)

end HeartbeatMesh.Node

import Mathlib.Data.List.Basic

/-!
# Histories

A history grows at its end. What can be read off a history is read off a longer one by a look at
what has come last: what the last thing of some kind was (`getLast?_filterMap_concat`), and whether
something has happened that nothing has undone since (`exists_since_concat_iff`).
-/

namespace HeartbeatMesh

variable {α β : Type}

/-- The last thing of some kind is what has come last, or else the last one before. -/
theorem getLast?_filterMap_concat (f : α → Option β) (history : List α) (a : α) :
    ((history ++ [a]).filterMap f).getLast? = (f a).or (history.filterMap f).getLast? := by
  rw [List.filterMap_append, List.getLast?_append]
  cases h : f a <;> simp [h]

/-- Something with `p` has happened and nothing with `q` since, if that is what has come last, or if
it has been so before and what has come last does not have `q`. -/
theorem exists_since_concat_iff {p q : α → Prop} (history : List α) (a : α) :
    (∃ before b since, history ++ [a] = before ++ b :: since ∧ p b ∧ ∀ c ∈ since, ¬q c) ↔
      p a ∨ ¬q a ∧ ∃ before b since, history = before ++ b :: since ∧ p b ∧ ∀ c ∈ since, ¬q c := by
  constructor
  · rintro ⟨before, b, since, heq, hb, hsince⟩
    -- What has come last is `b` itself, or it is among what has come after `b`.
    rcases List.eq_nil_or_concat' since with rfl | ⟨since, c, rfl⟩
    · obtain ⟨-, rfl⟩ := List.append_singleton_inj.mp heq
      exact .inl hb
    · rw [← List.cons_append, ← List.append_assoc] at heq
      obtain ⟨rfl, rfl⟩ := List.append_singleton_inj.mp heq
      rw [List.forall_mem_append, List.forall_mem_singleton] at hsince
      exact .inr ⟨hsince.2, before, b, since, rfl, hb, hsince.1⟩
  · rintro (ha | ⟨ha, before, b, since, rfl, hb, hsince⟩)
    · exact ⟨history, a, [], rfl, ha, List.forall_mem_nil _⟩
    · refine ⟨before, b, since ++ [a], by simp, hb, ?_⟩
      rw [List.forall_mem_append, List.forall_mem_singleton]
      exact ⟨hsince, ha⟩

end HeartbeatMesh

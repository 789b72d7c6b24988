import HeartbeatMesh.Bus
import Mathlib.Data.List.Basic

/-!
# What a subscription reads

A bus keeps the most recent of its units, in order, and for each subscription a number of them is
unread. Publishing appends and may drop at the front (`publishAll_extends`), so a subscription gains
as many unread units as are published, or fewer if it is overtaken (`Extends.unread_le`,
`Extends.unread`). Reading gives the first of the unread units (`receive_eq_unit`). Whatever happens
to one subscription leaves the others alone (`AgreesOff`).
-/

namespace HeartbeatMesh.Bus

variable {b : Bus} {i j : Nat} {cursor : Nat}

/-! ## Publishing -/

/-- One bus has become another one by publishing units and by nothing else. -/
structure Extends (b b' : Bus) (units : List Bytes) : Prop where
  slots : b'.slots = b.slots
  cursors : b'.cursors = b.cursors
  subscribed : b'.subscribed = b.subscribed
  kept : ∃ dropped, dropped ≤ b.kept.size + units.length ∧ b'.oldest = b.oldest + dropped ∧
    b'.kept.toList = (b.kept.toList ++ units).drop dropped

theorem Extends.refl (b : Bus) : b.Extends b [] :=
  ⟨rfl, rfl, rfl, 0, Nat.zero_le _, rfl, by simp⟩

theorem publish_extends (hslots : 0 < b.slots) (data : Bytes) :
    b.Extends (b.publish data) [data] := by
  rw [publish]
  split_ifs with hroom
  · exact ⟨rfl, rfl, rfl, 0, Nat.zero_le _, rfl, by simp⟩
  · have hpos : 0 < b.kept.toList.length := by
      rw [Array.length_toList]
      omega
    obtain ⟨unit, units, hkept⟩ := List.exists_cons_of_length_pos hpos
    refine ⟨rfl, rfl, rfl, 1, by simp, rfl, ?_⟩
    simp [hkept]

theorem publishAll_extends (hslots : 0 < b.slots) (units : List Bytes) :
    b.Extends (b.publishAll units) units := by
  induction units generalizing b with
  | nil => exact .refl b
  | cons unit units ih =>
    have hfirst := publish_extends hslots unit
    obtain ⟨d₁, hd₁, holdest₁, hkept₁⟩ := hfirst.kept
    have hrest := @ih (b.publish unit) (by rw [hfirst.slots]; exact hslots)
    obtain ⟨d₂, hd₂, holdest₂, hkept₂⟩ := hrest.kept
    have hsize := congrArg List.length hkept₁
    rw [Array.length_toList, List.length_drop, List.length_append, Array.length_toList,
      List.length_singleton] at hsize
    rw [List.length_singleton] at hd₁
    -- The units that are dropped later follow on those that are dropped now.
    have hrun : b.publishAll (unit :: units) = (b.publish unit).publishAll units := rfl
    rw [hrun]
    refine ⟨hrest.slots.trans hfirst.slots, hrest.cursors.trans hfirst.cursors,
      hrest.subscribed.trans hfirst.subscribed, d₁ + d₂, ?_, ?_, ?_⟩
    · rw [List.length_cons]
      omega
    · rw [holdest₂, holdest₁, Nat.add_assoc]
    · rw [hkept₂, hkept₁, ← List.drop_append_of_le_length, List.drop_drop]
      · simp
      · simpa using hd₁

variable {b' : Bus} {units : List Bytes}

theorem Extends.next (h : b.Extends b' units) : b'.next = b.next + units.length := by
  obtain ⟨d, hd, holdest, hkept⟩ := h.kept
  have hsize := congrArg List.length hkept
  rw [Array.length_toList, List.length_drop, List.length_append, Array.length_toList] at hsize
  rw [Bus.next, Bus.next, holdest]
  omega

/-! ## Subscriptions -/

/-- A subscription that is there and that has read nothing that has not been published. -/
def Holds (b : Bus) (i : Nat) : Prop :=
  i < b.subscribed ∧ ∃ cursor, b.cursors[i]? = some cursor ∧ cursor ≤ b.next

/-- A subscription that has not been overtaken. -/
def Keeps (b : Bus) (i : Nat) : Prop := ∀ cursor ∈ b.cursors[i]?, b.oldest ≤ cursor

instance (b : Bus) (i : Nat) : Decidable (b.Keeps i) :=
  decidable_of_iff (b.cursors[i]?.all fun cursor ↦ decide (b.oldest ≤ cursor)) (by
    rw [Keeps, Option.all_eq_true]
    simp)

theorem unread_eq (h : b.cursors[i]? = some cursor) :
    b.unread i = b.next - max cursor b.oldest := by
  rw [unread, h]

theorem unread_le (b : Bus) (i : Nat) : b.unread i ≤ b.kept.size := by
  rw [unread]
  split
  · exact Nat.zero_le _
  · rw [Bus.next]
    omega

theorem Extends.holds (h : b.Extends b' units) (hi : b.Holds i) : b'.Holds i := by
  obtain ⟨hsub, cursor, hcursor, hle⟩ := hi
  refine ⟨h.subscribed ▸ hsub, cursor, h.cursors ▸ hcursor, ?_⟩
  rw [h.next]
  omega

/-- What is unread after publishing was unread before or is new. -/
theorem Extends.unread_le (h : b.Extends b' units) (hi : b.Holds i) :
    b'.unread i ≤ b.unread i + units.length := by
  obtain ⟨-, cursor, hcursor, hle⟩ := hi
  obtain ⟨d, hd, holdest, -⟩ := h.kept
  rw [unread_eq (h.cursors ▸ hcursor), unread_eq hcursor, h.next, holdest]
  omega

/-- Nothing gets lost unless the subscription is overtaken. -/
theorem Extends.unread (h : b.Extends b' units) (hi : b.Holds i) (hkeeps : b'.Keeps i) :
    b'.unread i = b.unread i + units.length := by
  obtain ⟨-, cursor, hcursor, hle⟩ := hi
  obtain ⟨d, hd, holdest, -⟩ := h.kept
  have hcursor' : b'.cursors[i]? = some cursor := h.cursors ▸ hcursor
  have hkept := hkeeps cursor hcursor'
  rw [unread_eq hcursor', unread_eq hcursor, h.next]
  omega

/-- Two buses that differ at one subscription at most. -/
structure AgreesOff (b b' : Bus) (i : Nat) : Prop where
  slots : b'.slots = b.slots
  oldest : b'.oldest = b.oldest
  kept : b'.kept = b.kept
  subscribed : b.subscribed ≤ b'.subscribed
  cursors : ∀ j ≠ i, b'.cursors[j]? = b.cursors[j]?

theorem AgreesOff.refl (b : Bus) (i : Nat) : b.AgreesOff b i :=
  ⟨rfl, rfl, rfl, Nat.le_refl _, fun _ _ ↦ rfl⟩

theorem AgreesOff.next (h : b.AgreesOff b' i) : b'.next = b.next := by
  rw [Bus.next, Bus.next, h.oldest, h.kept]

theorem AgreesOff.unread (h : b.AgreesOff b' i) (hj : j ≠ i) : b'.unread j = b.unread j := by
  rw [Bus.unread, Bus.unread, h.cursors j hj, h.next, h.oldest]

theorem AgreesOff.holds (h : b.AgreesOff b' i) (hj : j ≠ i) (hb : b.Holds j) : b'.Holds j := by
  obtain ⟨hsub, cursor, hcursor, hle⟩ := hb
  exact ⟨Nat.lt_of_lt_of_le hsub h.subscribed, cursor, (h.cursors j hj).trans hcursor,
    h.next ▸ hle⟩

theorem subscribe_agreesOff (b : Bus) : b.AgreesOff b.subscribe.2 b.subscribed where
  slots := rfl
  oldest := rfl
  kept := rfl
  subscribed := Nat.le_succ _
  cursors j hj := by
    change (b.cursors.insert b.subscribed b.next)[j]? = _
    rw [Std.ExtTreeMap.getElem?_insert, if_neg]
    exact fun heq ↦ hj (Std.LawfulEqOrd.compare_eq_iff_eq.mp heq).symm

/-- A new subscription has everything to come and nothing unread. -/
theorem subscribe_holds (b : Bus) :
    b.subscribe.2.Holds b.subscribed ∧ b.subscribe.2.unread b.subscribed = 0 := by
  have hcursor : b.subscribe.2.cursors[b.subscribed]? = some b.next :=
    Std.ExtTreeMap.getElem?_insert_self
  refine ⟨⟨Nat.lt_succ_self _, b.next, hcursor, Nat.le_refl _⟩, ?_⟩
  rw [unread_eq hcursor]
  change b.next - _ = 0
  omega

theorem isSubscribed_unsubscribe (b : Bus) (i j : Nat) :
    (b.unsubscribe j).isSubscribed i = true ↔ j ≠ i ∧ b.isSubscribed i = true := by
  simp [isSubscribed, unsubscribe]

theorem unsubscribe_agreesOff (b : Bus) (i : Nat) : b.AgreesOff (b.unsubscribe i) i where
  slots := rfl
  oldest := rfl
  kept := rfl
  subscribed := Nat.le_refl _
  cursors j hj := by
    change (b.cursors.erase i)[j]? = _
    rw [Std.ExtTreeMap.getElem?_erase, if_neg]
    exact fun heq ↦ hj (Std.LawfulEqOrd.compare_eq_iff_eq.mp heq).symm

theorem receive_agreesOff (b : Bus) (i : Nat) : b.AgreesOff (b.receive i).2 i := by
  rw [receive]
  split
  · exact .refl b i
  · dsimp only
    split
    · refine ⟨rfl, rfl, rfl, Nat.le_refl _, fun j hj ↦ ?_⟩
      rw [Std.ExtTreeMap.getElem?_insert, if_neg]
      exact fun heq ↦ hj (Std.LawfulEqOrd.compare_eq_iff_eq.mp heq).symm
    · exact .refl b i

/-! ## Reading -/

theorem receive_eq_unit {k : Nat} (hi : b.Holds i) (hunread : b.unread i = k + 1) :
    ∃ data rest, b.kept.toList.drop (b.kept.size - (k + 1)) = data :: rest ∧
      b.receive i = (.unit data, (b.receive i).2) ∧ (b.receive i).2.unread i = k ∧
      (b.receive i).2.Holds i := by
  obtain ⟨hsub, cursor, hcursor, hle⟩ := hi
  rw [unread_eq hcursor] at hunread
  -- Reading starts at the oldest unit that is kept if the cursor has fallen behind it.
  have hat : max cursor b.oldest - b.oldest = b.kept.size - (k + 1) := by
    rw [Bus.next] at hunread hle
    omega
  have hlt : b.kept.size - (k + 1) < b.kept.size := by
    rw [Bus.next] at hunread
    omega
  have hdata : b.kept[max cursor b.oldest - b.oldest]? = some b.kept[b.kept.size - (k + 1)] := by
    rw [hat]
    exact Array.getElem?_eq_getElem hlt
  have hreceive : b.receive i = (.unit b.kept[b.kept.size - (k + 1)],
      { b with cursors := b.cursors.insert i (max cursor b.oldest + 1) }) := by
    rw [receive, hcursor]
    dsimp only
    rw [hdata]
  have hcursor' : (b.cursors.insert i (max cursor b.oldest + 1))[i]?
      = some (max cursor b.oldest + 1) := Std.ExtTreeMap.getElem?_insert_self
  refine ⟨_, _, List.drop_eq_getElem_cons (by simpa using hlt), ?_, ?_, ?_⟩
  · rw [hreceive]
    rfl
  · rw [hreceive, unread_eq hcursor']
    change b.next - _ = _
    dsimp only
    omega
  · rw [hreceive]
    refine ⟨hsub, _, hcursor', ?_⟩
    change _ ≤ b.next
    omega

theorem receive_eq_self (hi : b.Holds i) (hunread : b.unread i = 0) :
    (b.receive i).2 = b ∧ ∀ data, (b.receive i).1 ≠ .unit data := by
  obtain ⟨-, cursor, hcursor, hle⟩ := hi
  rw [unread_eq hcursor] at hunread
  have hnone : b.kept[max cursor b.oldest - b.oldest]? = none := by
    rw [Array.getElem?_eq_none_iff]
    rw [Bus.next] at hunread
    omega
  rw [receive, hcursor]
  dsimp only
  rw [hnone]
  refine ⟨rfl, fun data ↦ ?_⟩
  split_ifs <;> exact Reception.noConfusion

/-! ## New buses -/

theorem slots_pos_of_new? {capacity : Nat} (h : new? capacity = some b) : 0 < b.slots := by
  rw [new?] at h
  split_ifs at h
  rw [← Option.some.inj h]
  change 0 < slotsFor _
  rw [slotsFor]
  have hpos (k : ℕ) : 0 < 1 <<< k := by
    rw [Nat.one_shiftLeft]
    exact Nat.two_pow_pos k
  cases (List.range 64).find? fun k ↦ max 1 capacity ≤ 1 <<< k with
  | none => exact hpos 64
  | some k => exact hpos k

theorem kept_of_new? {capacity : Nat} (h : new? capacity = some b) : b.kept = #[] := by
  rw [new?] at h
  split_ifs at h
  rw [← Option.some.inj h]

end HeartbeatMesh.Bus

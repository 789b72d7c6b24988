import HeartbeatMesh.Proofs.Bus
import Mathlib.Algebra.Ring.Nat
import Mathlib.Data.List.Induction
import Mathlib.Order.Bounds.Basic

/-!
# What the bus delivers

A bus is used by many at once: they subscribe and end their subscriptions, publish and read, in any
order (`Use`). What one subscription finds when it reads hangs on what has been published and on its
own reading, and on nothing that others do (`Alike`).

So a subscription can be followed by itself. Its place is a number of units, counted from its
beginning (`Follows`). Publishing adds a unit at the end. Reading gives the unit at the place or, if
`K` units or more follow on it, the oldest one that is kept, and the units between are lost
(`Follows.receive_unit`). What has been read in a whole run is therefore an ascending list of
numbers, and whatever number is left out was overtaken by `K` further units before its turn came
(`Account`).

The channel under the bus reports to a reader that it has fallen behind. Subscriptions pass over the
report (`Asks`, `Follows.asks`).
-/

namespace HeartbeatMesh

/-- The unit that has been received, if one has. -/
def Reception.unit? : Reception → Option Bytes
  | .unit data => some data
  | .pending | .closed | .unknown => none

namespace Bus

/-! ## Uses -/

/-- What can be done with a bus. -/
inductive Use where
  | subscribe
  | unsubscribe (i : Nat)
  /-- Somebody publishes, a subscriber or not. -/
  | publish (data : Bytes)
  | receive (i : Nat)
  deriving DecidableEq

/-- The unit that is published by the use. -/
def Use.unit? : Use → Option Bytes
  | .publish data => some data
  | .subscribe | .unsubscribe _ | .receive _ => none

/-- The use is a publication or a use of the subscription `i`. -/
def Use.concerns (i : Nat) : Use → Bool
  | .publish _ => true
  | .unsubscribe j | .receive j => j = i
  | .subscribe => false

/-- The units that are published by the uses. -/
def published (us : List Use) : List Bytes := us.filterMap Use.unit?

/-- The bus after a use. -/
def after (b : Bus) : Use → Bus
  | .subscribe => b.subscribe.2
  | .unsubscribe i => b.unsubscribe i
  | .publish data => b.publish data
  | .receive i => (b.receive i).2

/-- The bus after uses, one after the other. -/
def run (b : Bus) (us : List Use) : Bus := us.foldl after b

/-- What the subscription `i` finds, each time it reads. -/
def receptions (b : Bus) (i : Nat) : List Use → List Reception
  | [] => []
  | u :: us => (if u = .receive i then [(b.receive i).1] else []) ++ (b.after u).receptions i us

/-- The units that the subscription `i` receives. -/
def received (b : Bus) (i : Nat) (us : List Use) : List Bytes :=
  (b.receptions i us).filterMap Reception.unit?

variable {b b' b'' : Bus} {i c K : Nat} {u : Use} {us us' : List Use}
  {all before since : List Bytes}

theorem run_append (b : Bus) (us us' : List Use) : b.run (us ++ us') = (b.run us).run us' :=
  List.foldl_append

theorem published_append (us us' : List Use) :
    published (us ++ us') = published us ++ published us' :=
  List.filterMap_append

theorem receptions_append (b : Bus) (i : Nat) (us us' : List Use) :
    b.receptions i (us ++ us') = b.receptions i us ++ (b.run us).receptions i us' := by
  induction us generalizing b with
  | nil => rfl
  | cons u us ih =>
    rw [List.cons_append, receptions, receptions, ih, List.append_assoc]
    rfl

theorem receptions_concat (b : Bus) (i : Nat) (us : List Use) (u : Use) :
    b.receptions i (us ++ [u])
      = b.receptions i us ++ if u = .receive i then [((b.run us).receive i).1] else [] := by
  rw [receptions_append, receptions]
  exact congrArg _ (List.append_nil _)

theorem received_append (b : Bus) (i : Nat) (us us' : List Use) :
    b.received i (us ++ us') = b.received i us ++ (b.run us).received i us' := by
  rw [received, receptions_append, List.filterMap_append]
  rfl

/-! ## What others do -/

/-- Two buses that are the same to the subscription `i`, which has been made on both. -/
structure Alike (i : Nat) (b b' : Bus) : Prop where
  slots : b'.slots = b.slots
  oldest : b'.oldest = b.oldest
  kept : b'.kept = b.kept
  isOpen : b'.isOpen = b.isOpen
  cursor : b'.cursors[i]? = b.cursors[i]?
  subscribed : i < b.subscribed
  subscribed' : i < b'.subscribed

theorem Alike.refl (hi : i < b.subscribed) : Alike i b b := ⟨rfl, rfl, rfl, rfl, rfl, hi, hi⟩

theorem Alike.symm (h : Alike i b b') : Alike i b' b :=
  ⟨h.slots.symm, h.oldest.symm, h.kept.symm, h.isOpen.symm, h.cursor.symm, h.subscribed',
    h.subscribed⟩

theorem Alike.trans (h : Alike i b b') (h' : Alike i b' b'') : Alike i b b'' :=
  ⟨h'.slots.trans h.slots, h'.oldest.trans h.oldest, h'.kept.trans h.kept,
    h'.isOpen.trans h.isOpen, h'.cursor.trans h.cursor, h.subscribed, h'.subscribed'⟩

theorem AgreesOff.alike {j : Nat} (h : b.AgreesOff b' j) (hopen : b'.isOpen = b.isOpen)
    (hij : i ≠ j) (hi : i < b.subscribed) : Alike i b b' :=
  ⟨h.slots, h.oldest, h.kept, hopen, h.cursors i hij, hi, Nat.lt_of_lt_of_le hi h.subscribed⟩

theorem receive_isOpen (b : Bus) (i : Nat) : (b.receive i).2.isOpen = b.isOpen := by
  rw [receive]
  split
  · rfl
  · dsimp only
    split <;> rfl

/-- What others do with the bus is nothing to the subscription, as long as they do not publish. -/
theorem alike_after (hu : u.concerns i = false) (hi : i < b.subscribed) :
    Alike i b (b.after u) := by
  cases u with
  | subscribe => exact b.subscribe_agreesOff.alike rfl (Nat.ne_of_lt hi) hi
  | unsubscribe j =>
    exact (b.unsubscribe_agreesOff j).alike rfl (Ne.symm (of_decide_eq_false hu)) hi
  | publish data => cases hu
  | receive j =>
    exact (b.receive_agreesOff j).alike (b.receive_isOpen j) (Ne.symm (of_decide_eq_false hu)) hi

theorem Alike.receive_fst (h : Alike i b b') : (b'.receive i).1 = (b.receive i).1 := by
  rw [receive, receive, h.cursor, h.oldest, h.kept, h.isOpen]
  cases b.cursors[i]? with
  | none => rfl
  | some cursor =>
    dsimp only
    split <;> rfl

/-- What happens on both buses leaves them the same. -/
theorem Alike.after (h : Alike i b b') (hu : u.concerns i = true) :
    Alike i (b.after u) (b'.after u) := by
  have hslots := h.slots
  have holdest := h.oldest
  have hkept := h.kept
  cases u with
  | subscribe => cases hu
  | unsubscribe j =>
    obtain rfl := of_decide_eq_true hu
    refine ⟨hslots, holdest, hkept, h.isOpen, ?_, h.subscribed, h.subscribed'⟩
    exact Std.ExtTreeMap.getElem?_erase_self.trans Std.ExtTreeMap.getElem?_erase_self.symm
  | publish data =>
    change Alike i (b.publish data) (b'.publish data)
    rw [publish, publish, hslots, holdest, hkept]
    split_ifs <;> exact ⟨rfl, rfl, rfl, h.isOpen, h.cursor, h.subscribed, h.subscribed'⟩
  | receive j =>
    obtain rfl := of_decide_eq_true hu
    change Alike j (b.receive j).2 (b'.receive j).2
    rw [receive, receive, h.cursor, holdest, hkept]
    cases b.cursors[j]? with
    | none => exact h
    | some cursor =>
      dsimp only
      split
      · refine ⟨hslots, rfl, rfl, h.isOpen, ?_, h.subscribed, h.subscribed'⟩
        exact Std.ExtTreeMap.getElem?_insert_self.trans Std.ExtTreeMap.getElem?_insert_self.symm
      · exact h

/-- A subscription finds what it would find if all that others do were left out, apart from what
they publish. -/
theorem Alike.receptions_filter (h : Alike i b b') (us : List Use) :
    b.receptions i us = b'.receptions i (us.filter (Use.concerns i)) := by
  induction us generalizing b b' with
  | nil => rfl
  | cons u us ih =>
    cases hu : u.concerns i with
    | true =>
      rw [List.filter_cons_of_pos hu, receptions, receptions, ih (h.after hu), h.receive_fst]
    | false =>
      have hread : u ≠ .receive i := by
        rintro rfl
        exact absurd (decide_eq_true rfl) (Bool.eq_false_iff.mp hu)
      rw [List.filter_cons_of_neg (Bool.eq_false_iff.mp hu), receptions, if_neg hread,
        List.nil_append]
      exact ih ((alike_after hu h.subscribed).symm.trans h)

/-! ## What is kept -/

/-- Of all units that have been published the bus, which is open, keeps the last `K`. -/
structure Stores (K : Nat) (all : List Bytes) (b : Bus) : Prop where
  slots : b.slots = K
  oldest : b.oldest = all.length - K
  kept : b.kept.toList = all.drop (all.length - K)
  isOpen : b.isOpen = true

theorem stores_new (K : Nat) : Stores K [] { slots := K } :=
  ⟨rfl, (Nat.zero_sub K).symm, List.drop_nil.symm, rfl⟩

theorem Stores.size (h : Stores K all b) : b.kept.size = all.length - (all.length - K) := by
  rw [← Array.length_toList, h.kept, List.length_drop]

theorem Stores.next (h : Stores K all b) : b.next = all.length := by
  rw [Bus.next, h.oldest, h.size]
  omega

theorem Stores.publish (h : Stores K all b) (hK : 0 < K) (data : Bytes) :
    Stores K (all ++ [data]) (b.publish data) := by
  have hsize := h.size
  have hlength : (all ++ [data]).length = all.length + 1 := by simp
  rw [Bus.publish, h.slots]
  split_ifs with hroom
  · have hzero : all.length - K = 0 := by omega
    refine ⟨rfl, ?_, ?_, h.isOpen⟩
    · rw [hlength]
      change b.oldest = _
      rw [h.oldest]
      omega
    · have hzero' : all.length + 1 - K = 0 := by omega
      rw [hlength, Array.toList_push, h.kept, hzero, hzero']
      rfl
  · have hdrop : all.length + 1 - K = (all.length - K) + 1 := by omega
    refine ⟨rfl, ?_, ?_, h.isOpen⟩
    · rw [hlength, hdrop, ← h.oldest]
    · have hpos : 0 < b.kept.size := by omega
      have herase : (b.kept.eraseIdxIfInBounds 0).toList = b.kept.toList.tail := by
        simp [Array.eraseIdxIfInBounds, hpos]
      rw [hlength, hdrop, Array.toList_push, herase, h.kept, List.tail_drop,
        List.drop_append_of_le_length (by omega)]

theorem Stores.agreesOff {j : Nat} (h : Stores K all b) (hoff : b.AgreesOff b' j)
    (hopen : b'.isOpen = b.isOpen) : Stores K all b' :=
  ⟨hoff.slots.trans h.slots, hoff.oldest.trans h.oldest, by rw [hoff.kept, h.kept],
    hopen.trans h.isOpen⟩

@[simp] theorem publish_cursors (b : Bus) (data : Bytes) :
    (b.publish data).cursors = b.cursors := by
  rw [Bus.publish]; split <;> rfl

@[simp] theorem publish_subscribed (b : Bus) (data : Bytes) :
    (b.publish data).subscribed = b.subscribed := by
  rw [Bus.publish]; split <;> rfl

theorem Stores.after (h : Stores K all b) (hK : 0 < K) (u : Use) :
    Stores K (all ++ published [u]) (b.after u) := by
  cases u with
  | publish data => exact h.publish hK data
  | subscribe => exact (List.append_nil all).symm ▸ h.agreesOff b.subscribe_agreesOff rfl
  | unsubscribe j => exact (List.append_nil all).symm ▸ h.agreesOff (b.unsubscribe_agreesOff j) rfl
  | receive j =>
    exact (List.append_nil all).symm ▸ h.agreesOff (b.receive_agreesOff j) (b.receive_isOpen j)

theorem Stores.run (h : Stores K all b) (hK : 0 < K) (us : List Use) :
    Stores K (all ++ published us) (b.run us) := by
  induction us generalizing b all with
  | nil => exact (List.append_nil all).symm ▸ h
  | cons u us ih =>
    have hrest := ih (h.after hK u)
    rw [List.append_assoc, ← published_append] at hrest
    exact hrest

/-! ## Following a subscription -/

/-- The subscription `i` was made when the units `before` had been published. It has come to the
number `c` among those that have been published `since`. -/
structure Follows (K : Nat) (before since : List Bytes) (i c : Nat) (b : Bus) : Prop where
  stores : Stores K (before ++ since) b
  cursor : b.cursors[i]? = some (before.length + c)
  subscribed : i < b.subscribed

theorem Stores.subscribe (h : Stores K before b) :
    Follows K before [] b.subscribe.1 0 b.subscribe.2 where
  stores := (List.append_nil before).symm ▸ h.agreesOff b.subscribe_agreesOff rfl
  cursor := by
    rw [Nat.add_zero, ← h.next]
    exact Std.ExtTreeMap.getElem?_insert_self
  subscribed := Nat.lt_succ_self _

/-- Others may publish, and that is all. -/
theorem Follows.after_of_ne (h : Follows K before since i c b) (hK : 0 < K)
    (hread : u ≠ .receive i) (hend : u ≠ .unsubscribe i) :
    Follows K before (since ++ published [u]) i c (b.after u) := by
  have hstores := h.stores.after hK u
  rw [List.append_assoc] at hstores
  cases u with
  | publish data =>
    refine ⟨hstores, ?_, ?_⟩
    · change (b.publish data).cursors[i]? = _
      rw [publish_cursors, h.cursor]
    · change i < (b.publish data).subscribed
      rw [publish_subscribed]
      exact h.subscribed
  | subscribe =>
    have halike := alike_after (u := .subscribe) rfl h.subscribed
    exact ⟨hstores, halike.cursor.trans h.cursor, halike.subscribed'⟩
  | unsubscribe j =>
    have hj : j ≠ i := fun heq ↦ hend (heq ▸ rfl)
    have halike := alike_after (u := .unsubscribe j) (decide_eq_false hj) h.subscribed
    exact ⟨hstores, halike.cursor.trans h.cursor, halike.subscribed'⟩
  | receive j =>
    have hj : j ≠ i := fun heq ↦ hread (heq ▸ rfl)
    have halike := alike_after (u := .receive j) (decide_eq_false hj) h.subscribed
    exact ⟨hstores, halike.cursor.trans h.cursor, halike.subscribed'⟩

/-- A bus on which the subscription `i` has not been overtaken gives the unit at its place, and any
other one the oldest unit that it keeps. -/
theorem Follows.receive_eq (h : Follows K before since i c b) :
    b.receive i
      = match since[max c (since.length - K)]? with
        | some data => (.unit data, { b with
            cursors := b.cursors.insert i (before.length + (max c (since.length - K) + 1)) })
        | none => (.pending, b) := by
  have hlength : (before ++ since).length = before.length + since.length := List.length_append
  have hplace : max (before.length + c) b.oldest
      = before.length + max c (since.length - K) := by
    rw [h.stores.oldest, hlength]
    omega
  have hkept : b.kept[max (before.length + c) b.oldest - b.oldest]?
      = since[max c (since.length - K)]? := by
    rw [← Array.getElem?_toList, h.stores.kept, List.getElem?_drop, ← h.stores.oldest,
      Nat.add_sub_cancel' (Nat.le_max_right _ _), hplace,
      List.getElem?_append_right (Nat.le_add_right _ _), Nat.add_sub_cancel_left]
  rw [receive, h.cursor]
  dsimp only
  rw [hkept, hplace, h.stores.isOpen, Nat.add_assoc]
  cases since[max c (since.length - K)]? <;> rfl

theorem Follows.receive_unit (h : Follows K before since i c b)
    (hlt : max c (since.length - K) < since.length) :
    (b.receive i).1 = .unit since[max c (since.length - K)] ∧
      Follows K before since i (max c (since.length - K) + 1) (b.receive i).2 := by
  rw [h.receive_eq, List.getElem?_eq_getElem hlt]
  exact ⟨rfl, ⟨h.stores.slots, h.stores.oldest, h.stores.kept, h.stores.isOpen⟩,
    Std.ExtTreeMap.getElem?_insert_self, h.subscribed⟩

theorem Follows.receive_pending (h : Follows K before since i c b) (hle : since.length ≤ c) :
    b.receive i = (.pending, b) := by
  rw [h.receive_eq, List.getElem?_eq_none (Nat.le_trans hle (Nat.le_max_left _ _))]

theorem Follows.pending_iff (h : Follows K before since i c b) (hK : 0 < K) :
    (b.receive i).1 = .pending ↔ since.length ≤ c := by
  constructor
  · intro hpending
    by_contra hlt
    rw [(h.receive_unit (by omega)).1] at hpending
    cases hpending
  · intro hle
    rw [h.receive_pending hle]

/-! ## Accounts -/

/-- An account of what the subscription `i` has received on the uses `us` of a bus with `K` slots:
the numbers of the units, counted from the beginning of the subscription. -/
structure Account (K : Nat) (b : Bus) (i : Nat) (us : List Use) (reads : List Nat) : Prop where
  /-- The units come in the order of their publication, and none comes twice. -/
  ascending : reads.Pairwise (· < ·)
  /-- What is received is what has been published under these numbers. -/
  received : reads.map ((published us)[·]?) = (b.received i us).map some
  /-- A unit is left out only if `K` units were published after it while it was still unread. -/
  lost : ∀ q ∉ reads, (∃ r ∈ reads, q < r) →
    ∃ us₁ us₂, us = us₁ ++ .receive i :: us₂ ∧ q + 1 + K ≤ (published us₁).length ∧
      ∀ r ∈ reads.take (b.received i us₁).length, r < q
  /-- Reading is answered by a unit or by the word that there is none. -/
  answers : ∀ r ∈ b.receptions i us, r = .pending ∨ ∃ data, r = .unit data

variable {reads : List Nat}

theorem Account.length_reads (h : Account K b i us reads) :
    reads.length = (b.received i us).length := by
  have hlength := congrArg List.length h.received
  rwa [List.length_map, List.length_map] at hlength

theorem Account.lt (h : Account K b i us reads) {r : Nat} (hr : r ∈ reads) :
    r < (published us).length := by
  have hmem : (published us)[r]? ∈ (b.received i us).map some :=
    h.received ▸ List.mem_map_of_mem hr
  obtain ⟨data, -, hdata⟩ := List.mem_map.mp hmem
  exact (List.getElem?_eq_some_iff.mp hdata.symm).1

theorem account_nil (K : Nat) (b : Bus) (i : Nat) : Account K b i [] [] where
  ascending := .nil
  received := rfl
  lost _ _ h := by
    obtain ⟨r, hr, -⟩ := h
    cases hr
  answers _ h := by cases h

/-- The accounts of a longer run go on those of a shorter one. -/
theorem Account.map_published (h : Account K b i us reads) (us' : List Use) :
    reads.map ((published (us ++ us'))[·]?) = (b.received i us).map some := by
  rw [← h.received, published_append]
  refine List.map_congr_left fun r hr ↦ ?_
  exact List.getElem?_append_left (h.lt hr)

/-- Nothing is received by those who do not read, or when there is nothing to read. -/
theorem Account.idle (h : Account K b i us reads)
    (hidle : u = .receive i → ((b.run us).receive i).1 = .pending) :
    Account K b i (us ++ [u]) reads := by
  have hlast : b.receptions i (us ++ [u])
      = b.receptions i us ++ if u = .receive i then [.pending] else [] := by
    rw [receptions_concat]
    split_ifs with hread
    · rw [hidle hread]
    · rfl
  have hreceived : b.received i (us ++ [u]) = b.received i us := by
    rw [Bus.received, hlast, List.filterMap_append]
    split_ifs <;> exact List.append_nil _
  refine ⟨h.ascending, ?_, fun q hq hr ↦ ?_, fun r hr ↦ ?_⟩
  · rw [hreceived]
    exact h.map_published [u]
  · obtain ⟨us₁, us₂, rfl, hlength, hbefore⟩ := h.lost q hq hr
    exact ⟨us₁, us₂ ++ [u], by simp, hlength, hbefore⟩
  · rw [hlast] at hr
    rcases List.mem_append.mp hr with hr | hr
    · exact h.answers r hr
    · split_ifs at hr
      · exact .inl (List.mem_singleton.mp hr)
      · cases hr

/-- A unit that is read next. Those before it that were not read yet have been overtaken. -/
theorem Account.read (h : Account K b i us reads) {at_ : Nat} (hat : at_ < (published us).length)
    (hunit : ((b.run us).receive i).1 = .unit (published us)[at_])
    (hbelow : ∀ r ∈ reads, r < at_)
    (hover : ∀ q < at_, (∀ r ∈ reads, r < q) → q + 1 + K ≤ (published us).length) :
    Account K b i (us ++ [.receive i]) (reads ++ [at_]) := by
  have hlast : b.receptions i (us ++ [.receive i])
      = b.receptions i us ++ [.unit (published us)[at_]] := by
    rw [receptions_concat, if_pos rfl, hunit]
  have hreceived : b.received i (us ++ [.receive i])
      = b.received i us ++ [(published us)[at_]] := by
    rw [Bus.received, hlast, List.filterMap_append]
    rfl
  refine ⟨?_, ?_, fun q hq hr ↦ ?_, fun r hr ↦ ?_⟩
  · refine List.pairwise_append.mpr ⟨h.ascending, List.pairwise_singleton _ _, ?_⟩
    intro r hr s hs
    rw [List.mem_singleton.mp hs]
    exact hbelow r hr
  · rw [hreceived, List.map_append, List.map_append, h.map_published, published_append]
    congr 1
    rw [List.map_singleton, List.map_singleton, List.getElem?_append_left hat,
      List.getElem?_eq_getElem hat]
  · rw [List.mem_append, not_or, List.mem_singleton] at hq
    by_cases hold : ∃ r ∈ reads, q < r
    · -- The unit was lost before.
      obtain ⟨us₁, us₂, rfl, hlength, hbefore⟩ := h.lost q hq.1 hold
      refine ⟨us₁, us₂ ++ [.receive i], by simp, hlength, fun r hr ↦ hbefore r ?_⟩
      have hle : (b.received i us₁).length ≤ reads.length := by
        rw [h.length_reads, received_append, List.length_append]
        exact Nat.le_add_right _ _
      rwa [List.take_append_of_le_length hle] at hr
    · -- The unit is lost now.
      have hbefore : ∀ r ∈ reads, r < q := by
        intro r hr
        by_contra hle
        rcases Nat.eq_or_lt_of_le (Nat.le_of_not_lt hle) with rfl | hlt
        · exact hq.1 hr
        · exact hold ⟨r, hr, hlt⟩
      have hlt : q < at_ := by
        obtain ⟨r, hr, hqr⟩ := hr
        rcases List.mem_append.mp hr with hr | hr
        · exact absurd ⟨r, hr, hqr⟩ hold
        · rwa [List.mem_singleton.mp hr] at hqr
      refine ⟨us, [], rfl, hover q hlt hbefore, fun r hr ↦ ?_⟩
      rw [← h.length_reads, List.take_left] at hr
      exact hbefore r hr
  · rw [hlast] at hr
    rcases List.mem_append.mp hr with hr | hr
    · exact h.answers r hr
    · exact .inr ⟨_, List.mem_singleton.mp hr⟩

/-- **Every run has an account**, and the account goes as far as the subscription has come. -/
theorem Follows.exists_account (h : Follows K before [] i 0 b) (hK : 0 < K)
    (hus : .unsubscribe i ∉ us) :
    ∃ reads c, Account K b i us reads ∧ Follows K before (published us) i c (b.run us) ∧
      (∀ r ∈ reads, r < c) ∧ ∀ q < c, ∃ r ∈ reads, q ≤ r := by
  induction us using List.reverseRecOn with
  | nil =>
    refine ⟨[], 0, account_nil K b i, h, fun r hr ↦ ?_, fun q hq ↦ ?_⟩
    · cases hr
    · cases hq
  | append_singleton us u ih =>
    rw [List.mem_append, not_or, List.mem_singleton] at hus
    obtain ⟨reads, c, haccount, hfollows, hbelow, hcovered⟩ := ih hus.1
    have hrun : b.run (us ++ [u]) = (b.run us).after u := run_append b us [u]
    by_cases hread : u = .receive i
    · subst hread
      have hsame : published (us ++ [.receive i]) = published us := by
        rw [published_append]
        exact List.append_nil _
      rw [hrun, hsame]
      change ∃ reads c, _ ∧ Follows K before (published us) i c ((b.run us).receive i).2 ∧ _
      by_cases hle : (published us).length ≤ c
      · have hpending := hfollows.receive_pending hle
        refine ⟨reads, c, haccount.idle fun _ ↦ congrArg Prod.fst hpending, ?_, hbelow, hcovered⟩
        rwa [hpending]
      · obtain ⟨hunit, hfollows'⟩ := hfollows.receive_unit (by omega)
        refine ⟨_, _, haccount.read _ hunit (fun r hr ↦ ?_) (fun q hq hr ↦ ?_), hfollows',
          fun r hr ↦ ?_, fun q hq ↦ ?_⟩
        · exact Nat.lt_of_lt_of_le (hbelow r hr) (Nat.le_max_left _ _)
        · -- The unit was still to come, so the subscription has been overtaken.
          have hqc : c ≤ q := by
            by_contra hlt
            obtain ⟨r, hmem, hqr⟩ := hcovered q (Nat.lt_of_not_le hlt)
            exact absurd (hr r hmem) (Nat.not_lt.mpr hqr)
          omega
        · rcases List.mem_append.mp hr with hr | hr
          · have := hbelow r hr
            omega
          · rw [List.mem_singleton.mp hr]
            exact Nat.lt_succ_self _
        · exact ⟨_, List.mem_append_right _ (List.mem_singleton_self _), Nat.le_of_lt_succ hq⟩
    · refine ⟨reads, c, haccount.idle fun h ↦ absurd h hread, ?_, hbelow, hcovered⟩
      rw [hrun, published_append]
      exact hfollows.after_of_ne hK hread (Ne.symm hus.2)

/-! ## What follows from an account -/

/-- Entries of a list with ascending numbers, in this order, are a sublist of it. -/
theorem sublist_of_map_getElem? {α : Type} {xs ys : List α} {rs : List Nat}
    (hasc : rs.Pairwise (· < ·)) (hrs : rs.map (ys[·]?) = xs.map some) : xs.Sublist ys := by
  have hdrop (k : Nat) (hk : ∀ r ∈ rs, k ≤ r) : xs.Sublist (ys.drop k) := by
    induction rs generalizing xs k with
    | nil =>
      rw [List.map_nil, eq_comm, List.map_eq_nil_iff] at hrs
      rw [hrs]
      exact List.nil_sublist _
    | cons r rs ih =>
      obtain ⟨x, xs, rfl⟩ : ∃ x xs', xs = x :: xs' := by
        cases xs with
        | nil => cases hrs
        | cons x xs => exact ⟨x, xs, rfl⟩
      rw [List.map_cons, List.map_cons, List.cons.injEq] at hrs
      rw [List.pairwise_cons] at hasc
      obtain ⟨hr, hx⟩ := List.getElem?_eq_some_iff.mp hrs.1
      have hrest := ih hasc.2 hrs.2 (r + 1) fun s hs ↦ hasc.1 s hs
      have hcons := hrest.cons_cons ys[r]
      rw [← List.drop_eq_getElem_cons hr, hx] at hcons
      exact hcons.trans (List.drop_sublist_drop_left ys (hk r List.mem_cons_self))
  exact hdrop 0 fun r _ ↦ Nat.zero_le r

/-- Ascending numbers without a gap are all numbers up to a length. -/
theorem eq_range_of_gapless {rs : List Nat} (hasc : rs.Pairwise (· < ·))
    (hgapless : ∀ q, ∀ r ∈ rs, q < r → q ∈ rs) : rs = List.range rs.length := by
  induction rs using List.reverseRecOn with
  | nil => rfl
  | append_singleton rs s ih =>
    obtain ⟨hasc, -, hlt⟩ := List.pairwise_append.mp hasc
    have hbelow (r : Nat) (hr : r ∈ rs) : r < s := hlt r hr s (List.mem_singleton_self s)
    have hrs : rs = List.range rs.length := by
      refine ih hasc fun q r hr hqr ↦ ?_
      rcases List.mem_append.mp (hgapless q r (List.mem_append_left _ hr) hqr) with hq | hq
      · exact hq
      · rw [List.mem_singleton.mp hq] at hqr
        exact absurd (hbelow r hr) (Nat.lt_asymm hqr)
    have hmem (q : Nat) : q ∈ rs ↔ q < rs.length := by
      rw [hrs, List.length_range, List.mem_range]
    have hs : s = rs.length := by
      refine Nat.le_antisymm (Nat.le_of_not_lt fun hgt ↦ ?_) (Nat.le_of_not_lt fun hgt ↦ ?_)
      · have hq := hgapless _ s (List.mem_append_right _ (List.mem_singleton_self s)) hgt
        rcases List.mem_append.mp hq with hq | hq
        · exact absurd ((hmem _).mp hq) (Nat.lt_irrefl _)
        · exact absurd (List.mem_singleton.mp hq) (Nat.ne_of_lt hgt)
      · exact absurd (hbelow s ((hmem s).mpr hgt)) (Nat.lt_irrefl s)
    rw [List.length_append, List.length_singleton, List.range_succ, ← hrs, hs]

theorem Account.sublist (h : Account K b i us reads) :
    (b.received i us).Sublist (published us) :=
  sublist_of_map_getElem? h.ascending h.received

/-- Nothing is lost as long as no more than `K` units are unread at a time. -/
theorem Account.received_prefix (h : Account K b i us reads)
    (hfew : ∀ us₁, us₁ <+: us → (published us₁).length ≤ (b.received i us₁).length + K) :
    b.received i us <+: published us := by
  have hgapless : ∀ q, ∀ r ∈ reads, q < r → q ∈ reads := by
    intro q r hr hqr
    by_contra hq
    obtain ⟨us₁, us₂, rfl, hlength, hbefore⟩ := h.lost q hq ⟨r, hr, hqr⟩
    -- By then `q` units at most had been received, since all of them came before this one.
    have hcount : (b.received i us₁).length ≤ q := by
      have hle : (b.received i us₁).length ≤ reads.length := by
        rw [h.length_reads, received_append, List.length_append]
        exact Nat.le_add_right _ _
      have hsub : reads.take (b.received i us₁).length ⊆ List.range q :=
        fun r hr ↦ List.mem_range.mpr (hbefore r hr)
      have hnodup : (reads.take (b.received i us₁).length).Nodup :=
        (h.ascending.imp Nat.ne_of_lt).sublist (List.take_sublist _ _)
      have hlen := hnodup.length_le_of_subset hsub
      rwa [List.length_take_of_le hle, List.length_range] at hlen
    have := hfew us₁ ⟨_, rfl⟩
    omega
  have hreads := eq_range_of_gapless h.ascending hgapless
  rw [List.prefix_iff_getElem?]
  intro q hq
  have hqth := congrArg (·[q]?) h.received
  rw [hreads, h.length_reads] at hqth
  simpa [hq] using hqth

/-! ## Subscriptions that have ended -/

/-- No later subscription comes under the number of one that has ended. -/
theorem ended_after (hcursor : b.cursors[i]? = none) (hi : i < b.subscribed) (u : Use) :
    (b.after u).cursors[i]? = none ∧ i < (b.after u).subscribed := by
  cases hu : u.concerns i with
  | false =>
    have halike := alike_after hu hi
    exact ⟨halike.cursor.trans hcursor, halike.subscribed'⟩
  | true =>
    cases u with
    | subscribe => cases hu
    | unsubscribe j =>
      obtain rfl := of_decide_eq_true hu
      exact ⟨Std.ExtTreeMap.getElem?_erase_self, hi⟩
    | publish data =>
      change (b.publish data).cursors[i]? = none ∧ i < (b.publish data).subscribed
      rw [publish_cursors, publish_subscribed]
      exact ⟨hcursor, hi⟩
    | receive j =>
      obtain rfl := of_decide_eq_true hu
      change (b.receive j).2.cursors[j]? = none ∧ j < (b.receive j).2.subscribed
      rw [receive, hcursor]
      exact ⟨hcursor, hi⟩

/-- A subscription that has ended receives nothing. -/
theorem received_of_ended (hcursor : b.cursors[i]? = none) (hi : i < b.subscribed)
    (us : List Use) : b.received i us = [] := by
  induction us generalizing b with
  | nil => rfl
  | cons u us ih =>
    obtain ⟨hcursor', hi'⟩ := ended_after hcursor hi u
    have hnone : b.received i [u] = [] := by
      rw [received, receptions]
      split_ifs
      · rw [receive, hcursor]
        rfl
      · rfl
    have hsplit := received_append b i [u] us
    rw [hnone, List.nil_append] at hsplit
    exact hsplit.trans (ih hcursor' hi')

theorem subscribed_le_after (b : Bus) (u : Use) : b.subscribed ≤ (b.after u).subscribed := by
  cases u with
  | subscribe => exact b.subscribe_agreesOff.subscribed
  | unsubscribe j => exact (b.unsubscribe_agreesOff j).subscribed
  | publish data => exact Nat.le_of_eq (b.publish_subscribed data).symm
  | receive j => exact (b.receive_agreesOff j).subscribed

theorem subscribed_le_run (b : Bus) (us : List Use) : b.subscribed ≤ (b.run us).subscribed := by
  induction us generalizing b with
  | nil => exact Nat.le_refl _
  | cons u us ih => exact Nat.le_trans (b.subscribed_le_after u) (ih _)

/-- Nothing is received after the end of a subscription. -/
theorem received_of_unsubscribe (hi : i < b.subscribed) (us us' : List Use) :
    b.received i (us ++ .unsubscribe i :: us') = b.received i us := by
  have hcursor : ((b.run us).unsubscribe i).cursors[i]? = none :=
    Std.ExtTreeMap.getElem?_erase_self
  have hi' : i < ((b.run us).unsubscribe i).subscribed :=
    Nat.lt_of_lt_of_le hi (b.subscribed_le_run us)
  rw [received_append]
  change b.received i us ++ ((b.run us).unsubscribe i).received i us' = _
  rw [received_of_ended hcursor hi', List.append_nil]

/-! ## The size of a bus -/

/-- The slots are as many as the least power of two that is enough. -/
theorem isLeast_slotsFor {n : Nat} (hn : n ≤ 2 ^ 63) :
    IsLeast {k | (∃ j, k = 2 ^ j) ∧ n ≤ k} (slotsFor n) := by
  have hshift (k : Nat) : 1 <<< k = 2 ^ k := Nat.one_shiftLeft k
  cases hfind : (List.range 64).find? fun k ↦ decide (n ≤ 1 <<< k) with
  | none =>
    have hnone := List.find?_eq_none.mp hfind 63 (List.mem_range.mpr (by omega))
    rw [hshift, decide_eq_true_iff] at hnone
    exact absurd hn hnone
  | some k =>
    have hslots : slotsFor n = 2 ^ k := by
      rw [slotsFor, hfind]
      exact hshift k
    obtain ⟨hk, -, hless⟩ := List.find?_range_eq_some.mp hfind
    rw [hshift, decide_eq_true_iff] at hk
    rw [hslots]
    refine ⟨⟨⟨k, rfl⟩, hk⟩, ?_⟩
    rintro - ⟨⟨j, rfl⟩, hj⟩
    refine Nat.pow_le_pow_right Nat.two_pos (Nat.le_of_not_lt fun hjk ↦ ?_)
    have hnot := hless j hjk
    rw [hshift] at hnot
    simp [hj] at hnot

/-- There is room for a bus of any capacity up to `2 ^ 57`. -/
theorem new?_eq {capacity : Nat} (hcapacity : capacity ≤ 2 ^ 63 - 1) :
    new? capacity
      = if capacity ≤ 2 ^ 57 then some { slots := slotsFor (max 1 capacity) } else none := by
  obtain ⟨⟨⟨j, hj⟩, hle⟩, hleast⟩ := isLeast_slotsFor (show max 1 capacity ≤ 2 ^ 63 by omega)
  have hroom : slotsFor (max 1 capacity) * slotSize ≤ maxSize ↔ capacity ≤ 2 ^ 57 := by
    have hsize : maxSize = 2 ^ 63 - 1 := rfl
    rw [slotSize, hsize]
    constructor
    · intro hroom
      have hsmall : slotsFor (max 1 capacity) < 2 ^ 58 := by omega
      rw [hj, Nat.pow_lt_pow_iff_right (by omega)] at hsmall
      have hpow : 2 ^ j ≤ 2 ^ 57 := Nat.pow_le_pow_right Nat.two_pos (by omega)
      omega
    · intro hsmall
      have hslots := hleast ⟨⟨57, rfl⟩, show max 1 capacity ≤ 2 ^ 57 by omega⟩
      omega
  rw [new?]
  simp only [hroom]

theorem min_le_slotsFor (n : Nat) : min n (2 ^ 64) ≤ slotsFor n := by
  rw [slotsFor]
  cases hfind : (List.range 64).find? fun k ↦ decide (n ≤ 1 <<< k) with
  | none => exact min_le_right _ _
  | some k =>
    obtain ⟨hk, -, -⟩ := List.find?_range_eq_some.mp hfind
    exact (min_le_left _ _).trans (of_decide_eq_true hk)

/-- Any greater capacity is too much. -/
theorem isSome_new?_iff (capacity : Nat) : (new? capacity).isSome = true ↔ capacity ≤ 2 ^ 57 := by
  by_cases hcapacity : capacity ≤ 2 ^ 63 - 1
  · rw [new?_eq hcapacity]
    split_ifs with hroom
    · exact iff_of_true rfl hroom
    · exact iff_of_false (by simp) hroom
  · have hslots := min_le_slotsFor (max 1 capacity)
    have hroom : ¬slotsFor (max 1 capacity) * slotSize ≤ maxSize := by
      rw [slotSize, show maxSize = 2 ^ 63 - 1 from rfl]
      omega
    rw [new?]
    simp only [hroom, if_false]
    exact iff_of_false (by simp) (by omega)

/-! ## Reports of lag -/

/-- What the channel of a bus reports to a subscription. -/
inductive Report where
  /-- So many units are gone. -/
  | lagged (missed : Nat)
  | found (reception : Reception)

/-- Asks the channel for the next unit. A subscription that has fallen behind is told so, and goes
on at the oldest unit that is kept. -/
def poll (b : Bus) (i : Nat) : Report × Bus :=
  match b.cursors[i]? with
  | none => (.found .unknown, b)
  | some cursor =>
    if cursor < b.oldest then
      (.lagged (b.oldest - cursor), { b with cursors := b.cursors.insert i b.oldest })
    else
      match b.kept[cursor - b.oldest]? with
      | some data => (.found (.unit data), { b with cursors := b.cursors.insert i (cursor + 1) })
      | none => (.found (if b.isOpen then .pending else .closed), b)

/-- The channel is asked until it finds something. On the way `n` reports of lag are passed over. -/
inductive Asks (i : Nat) : Nat → Bus → Reception × Bus → Prop
  | found {b b' : Bus} {reception : Reception} (h : b.poll i = (.found reception, b')) :
      Asks i 0 b (reception, b')
  | lagged {b b' : Bus} {missed n : Nat} {result : Reception × Bus}
      (h : b.poll i = (.lagged missed, b')) (hrest : Asks i n b' result) : Asks i (n + 1) b result

/-- To read is to ask the channel, and a subscription is told once that it has fallen behind. -/
theorem Follows.asks (h : Follows K before since i c b) (hK : 0 < K) :
    ∃ n ≤ 1, Asks i n b (b.receive i) := by
  by_cases hlag : before.length + c < b.oldest
  · -- A bus that has dropped a unit is full.
    have hfull : 0 < b.kept.size := by
      have hsize := h.stores.size
      have holdest := h.stores.oldest
      omega
    have hread : b.receive i = (.unit b.kept[0],
        { b with cursors := b.cursors.insert i (b.oldest + 1) }) := by
      rw [receive, h.cursor]
      dsimp only
      rw [Nat.max_eq_right (Nat.le_of_lt hlag), Nat.sub_self, Array.getElem?_eq_getElem hfull]
    have hlagged : b.poll i = (.lagged (b.oldest - (before.length + c)),
        { b with cursors := b.cursors.insert i b.oldest }) := by
      rw [poll, h.cursor]
      exact if_pos hlag
    have hcursor : (b.cursors.insert i b.oldest)[i]? = some b.oldest :=
      Std.ExtTreeMap.getElem?_insert_self
    have hmove : (b.cursors.insert i b.oldest).insert i (b.oldest + 1)
        = b.cursors.insert i (b.oldest + 1) := by
      refine Std.ExtTreeMap.ext_getElem? fun j ↦ ?_
      simp only [Std.ExtTreeMap.getElem?_insert]
      split_ifs <;> rfl
    refine ⟨1, Nat.le_refl 1, hread ▸ .lagged hlagged (.found ?_)⟩
    rw [poll]
    dsimp only
    rw [hcursor]
    dsimp only
    rw [if_neg (Nat.lt_irrefl _), Nat.sub_self, Array.getElem?_eq_getElem hfull, hmove]
  · have hfound : b.poll i = (.found (b.receive i).1, (b.receive i).2) := by
      simp only [poll, receive, h.cursor, if_neg hlag, Nat.max_eq_left (Nat.le_of_not_lt hlag)]
      cases b.kept[before.length + c - b.oldest]? <;> rfl
    exact ⟨0, Nat.zero_le 1, .found hfound⟩

/-! ## The whole of it -/

/-- **What the bus delivers.** A bus of the given capacity has `K` slots, the least power of two
that is enough, and there is room for it up to `2 ^ 57`. Whatever has been done with the bus before
a subscription `i` is made and whatever is done with it afterwards, by any number of subscribers,

* what the subscription receives is a subsequence of what has been published since it was made. A
  unit is left out only if `K` further ones were published while it was still unread, and an answer
  without a unit says that no unit is left to be read;
* nothing is left out as long as no more than `K` units are unread;
* to read is to ask the channel and to pass over its report of lag, which comes once at most;
* with the end of the subscription its reception ends;
* reading, subscribing and unsubscribing of others make no difference to what it finds. -/
theorem delivery_of_subscription {capacity : Nat} (hcapacity : capacity ≤ 2 ^ 63 - 1)
    (past us : List Use) :
    let K := slotsFor (max 1 capacity)
    let start : Bus := { slots := K }
    let i := (start.run past).subscribe.1
    let b := (start.run past).subscribe.2
    (IsLeast {k | (∃ j, k = 2 ^ j) ∧ max 1 capacity ≤ k} K ∧
        new? capacity = if capacity ≤ 2 ^ 57 then some start else none) ∧
      (.unsubscribe i ∉ us →
        (∃ reads, Account K b i us reads ∧
            (((b.run us).receive i).1 = .pending ↔
              ∀ q < (published us).length, ∃ r ∈ reads, q ≤ r)) ∧
          (b.received i us).Sublist (published us) ∧
          ((∀ us₁, us₁ <+: us → (published us₁).length ≤ (b.received i us₁).length + K) →
            b.received i us <+: published us) ∧
          ∃ n ≤ 1, Asks i n (b.run us) ((b.run us).receive i)) ∧
      (∀ us', b.received i (us ++ .unsubscribe i :: us') = b.received i us) ∧
      ∀ us', us.filter (Use.concerns i) = us'.filter (Use.concerns i) →
        b.receptions i us = b.receptions i us' := by
  intro K start i b
  have hleast : IsLeast {k | (∃ j, k = 2 ^ j) ∧ max 1 capacity ≤ k} K :=
    isLeast_slotsFor (by omega)
  have hK : 0 < K := Nat.lt_of_lt_of_le Nat.zero_lt_one ((Nat.le_max_left _ _).trans hleast.1.2)
  have hfollows : Follows K (published past) [] i 0 b := ((stores_new K).run hK past).subscribe
  refine ⟨⟨hleast, new?_eq hcapacity⟩, fun hus ↦ ?_, fun us' ↦ ?_, fun us' heq ↦ ?_⟩
  · obtain ⟨reads, c, haccount, hcome, hbelow, hcovered⟩ := hfollows.exists_account hK hus
    refine ⟨⟨reads, haccount, ?_⟩, haccount.sublist, haccount.received_prefix,
      hcome.asks hK⟩
    rw [hcome.pending_iff hK]
    constructor
    · intro hle q hq
      exact hcovered q (Nat.lt_of_lt_of_le hq hle)
    · intro hall
      by_contra hlt
      obtain ⟨r, hr, hle⟩ := hall c (Nat.lt_of_not_le hlt)
      exact absurd (hbelow r hr) (Nat.not_lt.mpr hle)
  · exact received_of_unsubscribe hfollows.subscribed us us'
  · have halike : Alike i b b := .refl hfollows.subscribed
    rw [halike.receptions_filter us, halike.receptions_filter us', heq]

/-- A subscription on a bus with two slots is overtaken. It loses two units and reads those that are
left. -/
theorem delivery_of_subscription_overtaken :
    let past : List Use := [.subscribe, .publish [9]]
    let us : List Use := [.publish [0], .publish [1], .receive 1, .publish [2], .subscribe,
      .publish [3], .receive 0, .publish [4], .receive 1, .receive 1, .receive 1]
    let start : Bus := { slots := slotsFor (max 1 2) }
    let b := (start.run past).subscribe.2
    2 ≤ 2 ^ 63 - 1 ∧ (start.run past).subscribe.1 = 1 ∧ .unsubscribe 1 ∉ us ∧
      b.received 1 us = [[0], [3], [4]] ∧ (b.received 1 us).Sublist (published us) ∧
      ((b.run us).receive 1).1 = .pending ∧
      ∃ n ≤ 1, Asks 1 n (b.run us) ((b.run us).receive 1) := by
  intro past us start b
  have hend : .unsubscribe 1 ∉ us := by decide
  obtain ⟨-, hrun, -, -⟩ := @delivery_of_subscription 2 (by decide) past us
  obtain ⟨-, hsub, -, hasks⟩ := hrun hend
  exact ⟨by decide, rfl, hend, by decide +kernel, hsub, by decide +kernel, hasks⟩

end Bus

end HeartbeatMesh

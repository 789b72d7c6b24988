import HeartbeatMesh.Proofs.Node.Life

/-!
# Where the view comes from

What a node knows of another one is what the last heartbeat of that id has said, whoever sent it and
whatever its time. An id without a heartbeat is known from the first response that came to a request
and held a record of it, if views are merged, and is unknown otherwise. Nothing else touches the
entry (`Meeting.view`), so the view can be read off the history (`view_live`).

Which requests wait can be read off the history as well: those that have been sent and have had no
response since (`requests_iff`). A correlator holds exactly these (`isOutstanding_live`).
-/

namespace HeartbeatMesh

/-! ## The history -/

namespace Message

/-- The record of the id `k` that a heartbeat announces. -/
def record? (k : String) : Message → Option NodeRecord
  | .heartbeat r => if r.nodeId = k then some r else none
  | _ => none

/-- The record under the id `k` in a response to a request that waits. -/
def told? (k : String) (waits : String → Bool) : Message → Option NodeRecord
  | .stateResponse requestId nodes => if waits requestId then nodes[k]? else none
  | _ => none

/-- The requests that wait once the message has been taken in: not the one that it responds to. -/
def settle (waits : String → Bool) : Message → String → Bool
  | .stateResponse requestId _ => Function.update waits requestId false
  | _ => waits

end Message

namespace Occasion

variable {γ : Type}

/-- The record of the id `k` that the node `i` hears in a heartbeat on the occasion. -/
def record? (i k : String) (o : Occasion γ) : Option NodeRecord :=
  (o.letter? i).bind (·.message.record? k)

/-- The record under the id `k` that the node `i` is told on the occasion, in a response to a
request that waits. -/
def told? (i k : String) (waits : String → Bool) (o : Occasion γ) : Option NodeRecord :=
  (o.letter? i).bind (·.message.told? k waits)

/-- The requests that wait after the occasion, of those that have waited before and the one that is
sent. -/
def waiting (i : String) (waits : String → Bool) : Occasion γ → String → Bool
  | .startup requestId => Function.update waits requestId true
  | o =>
    match o.letter? i with
    | some l => l.message.settle waits
    | none => waits

/-- On the occasion the node `i` takes in a response to the request. -/
def Responds (i requestId : String) (o : Occasion γ) : Prop :=
  ∃ l nodes, o.letter? i = some l ∧ l.message = .stateResponse requestId nodes

end Occasion

variable {γ : Type} {i k requestId : String} {o : Occasion γ}

/-- The requests that wait after the occasions. -/
def requests (i : String) (os : List (Occasion γ)) : String → Bool :=
  os.foldl (Occasion.waiting i) fun _ ↦ false

/-- What the node `i` hears of the id `k` in heartbeats, in order. -/
def announced (i k : String) (os : List (Occasion γ)) : List NodeRecord :=
  os.filterMap (·.record? i k)

/-- What the node `i` is told of the id `k` in the responses that come first, in order, if these
requests wait at the beginning. -/
def toldOf (i k : String) (waits : String → Bool) : List (Occasion γ) → List NodeRecord
  | [] => []
  | o :: os => (o.told? i k waits).toList ++ toldOf i k (o.waiting i waits) os

/-- What the node `i` is told of the id `k` in the responses that come first, in order. -/
def told (i k : String) (os : List (Occasion γ)) : List NodeRecord := toldOf i k (fun _ ↦ false) os

theorem requests_concat (os : List (Occasion γ)) (o : Occasion γ) :
    requests i (os ++ [o]) = o.waiting i (requests i os) := by
  rw [requests, List.foldl_append, List.foldl_cons, List.foldl_nil, requests]

/-- A heartbeat of an id carries the id. -/
theorem nodeId_of_mem_announced {os : List (Occasion γ)} {r : NodeRecord}
    (h : r ∈ announced i k os) : r.nodeId = k := by
  obtain ⟨o, -, ho⟩ := List.mem_filterMap.mp h
  obtain ⟨l, -, hl⟩ := Option.bind_eq_some_iff.mp ho
  cases hm : l.message with
  | heartbeat r' =>
    rw [hm, Message.record?, Option.ite_none_right_eq_some] at hl
    obtain ⟨hid, hr⟩ := hl
    exact Option.some.inj hr ▸ hid
  | _ =>
    rw [hm] at hl
    cases hl

theorem told_concat (os : List (Occasion γ)) (o : Occasion γ) :
    told i k (os ++ [o]) = told i k os ++ (o.told? i k (requests i os)).toList := by
  have key (waits : String → Bool) :
      toldOf i k waits (os ++ [o])
        = toldOf i k waits os ++ (o.told? i k (os.foldl (Occasion.waiting i) waits)).toList := by
    induction os generalizing waits with
    | nil => exact List.append_nil _
    | cons o' os ih => rw [List.cons_append, toldOf, toldOf, ih, List.append_assoc, List.foldl_cons]
  exact key _

theorem Message.settle_iff {waits : String → Bool} {m : Message} :
    m.settle waits requestId = true ↔
      waits requestId = true ∧ ∀ nodes, m ≠ .stateResponse requestId nodes := by
  cases m with
  | stateResponse r nodes =>
    rw [settle]
    by_cases hr : r = requestId
    · simp [hr]
    · simp [hr, Ne.symm hr]
  | _ => simp [settle]

namespace Occasion

theorem waiting_of_letter? {waits : String → Bool} {l : Letter} (hl : o.letter? i = some l) :
    o.waiting i waits = l.message.settle waits := by
  cases o with
  | startup r => cases hl
  | _ => simp only [waiting, hl]

theorem waiting_of_none {waits : String → Bool} (hl : o.letter? i = none)
    (ho : ∀ r, o ≠ .startup r) : o.waiting i waits = waits := by
  cases o with
  | startup r => exact absurd rfl (ho r)
  | _ => simp only [waiting, hl]

/-- A request waits after an occasion if it is sent then, or if it has waited before and gets no
response. -/
theorem waiting_iff {waits : String → Bool} :
    o.waiting i waits requestId = true ↔
      o = .startup requestId ∨ waits requestId = true ∧ ¬o.Responds i requestId := by
  by_cases hstart : ∃ r, o = .startup r
  · obtain ⟨r, rfl⟩ := hstart
    have hnone : ¬(startup r : Occasion γ).Responds i requestId := by
      rintro ⟨l, nodes, hl, -⟩
      cases hl
    by_cases hr : r = requestId
    · simp [waiting, hr]
    · simp [waiting, hr, Ne.symm hr, hnone]
  · rw [not_exists] at hstart
    rw [or_iff_right (hstart requestId), Responds]
    cases hl : o.letter? i with
    | none => simp [waiting_of_none hl hstart]
    | some l => simp [waiting_of_letter? hl, Message.settle_iff]

end Occasion

/-- A request waits if it has been sent and has had no response since. -/
theorem requests_iff {os : List (Occasion γ)} :
    requests i os requestId = true ↔
      ∃ sent since, os = sent ++ .startup requestId :: since ∧
        ∀ o ∈ since, ¬o.Responds i requestId := by
  have hsince (os : List (Occasion γ)) : requests i os requestId = true ↔
      ∃ sent o since, os = sent ++ o :: since ∧ o = .startup requestId ∧
        ∀ o ∈ since, ¬o.Responds i requestId := by
    induction os using List.reverseRecOn with
    | nil => simp [requests]
    | append_singleton os o ih =>
      rw [requests_concat, Occasion.waiting_iff, ih, exists_since_concat_iff, and_comm]
  rw [hsince]
  simp

namespace Node

variable {n n' : Node} {sender : String} {m : Message} {out : List Message}

/-! ## What a step leaves alone -/

theorem nominate_kept (n : Node) :
    n.nominate.1.settings = n.settings ∧ n.nominate.1.correlator = n.correlator := by
  rw [nominate]
  split <;> exact ⟨rfl, rfl⟩

theorem conclude_kept (n : Node) (winner : String) :
    (n.conclude winner).settings = n.settings ∧ (n.conclude winner).correlator = n.correlator := by
  rw [conclude]
  split <;> exact ⟨rfl, rfl⟩

theorem Handling.settings (h : Handling n sender m n' out) : n'.settings = n.settings := by
  cases h with
  | nominated => exact (nominate_kept _).1
  | concluded => exact (conclude_kept n _).1
  | _ => rfl

theorem Ticking.kept {γ : Type} [WordSource γ] {now : Float} {source : γ}
    (h : Ticking n now source n' out) :
    n'.settings = n.settings ∧ n'.correlator = n.correlator := by
  cases h with
  | beat => exact ⟨rfl, rfl⟩
  | @round n₁ _ _ _ _ _ hcast hcount =>
    have hn₁ : n₁.settings = n.settings ∧ n₁.correlator = n.correlator := by
      cases hcast <;> exact ⟨rfl, rfl⟩
    cases hcount with
    | waiting => exact hn₁
    | won =>
      rw [(conclude_kept n₁ _).1, (conclude_kept n₁ _).2]
      exact hn₁
    | tied => exact hn₁

/-! ## What a step does to the requests -/

theorem Handling.isOutstanding (h : Handling n sender m n' out) :
    n'.correlator.isOutstanding = m.settle n.correlator.isOutstanding := by
  cases h with
  | nominated => exact congrArg Correlator.isOutstanding (nominate_kept _).2
  | merged => exact Correlator.isOutstanding_done _ _
  | answered => exact Correlator.isOutstanding_done _ _
  | unsolicited hwaits =>
    rw [Message.settle, ← hwaits, Function.update_eq_self]
  | concluded => exact congrArg Correlator.isOutstanding (conclude_kept n _).2
  | _ => rfl

/-! ## What a step does to the view -/

/-- An entry that is neither announced nor told stays as it is. -/
theorem entry_eq {heard entry told : Option NodeRecord} {merge : Bool} (hheard : heard = none)
    (htold : merge = true → told = none) :
    heard.or (entry.or (if merge then told else none)) = entry := by
  rw [hheard, Option.none_or]
  split_ifs with hmerge
  · rw [htold hmerge, Option.or_none]
  · exact Option.or_none

/-- A message changes the entry of another id only if it is a heartbeat of that id, or if there is
no entry and the message is the response to a request. -/
theorem Handling.view (h : Handling n sender m n' out) (hk : k ≠ n.id) :
    n'.view[k]? = (m.record? k).or (n.view[k]?.or
      (if n.settings.mergeState then m.told? k n.correlator.isOutstanding else none)) := by
  have hlearn (r : NodeRecord) : (n.learn r).view[k]?
      = ((Message.heartbeat r).record? k).or (n.view[k]?.or
        (if n.settings.mergeState then
          (Message.heartbeat r).told? k n.correlator.isOutstanding else none)) := by
    change (n.view.insert r.nodeId r)[k]? = (if r.nodeId = k then some r else none).or _
    rw [IdMap.getElem?_insert]
    by_cases hr : r.nodeId = k
    · rw [if_pos hr, if_pos hr, Option.some_or]
    · rw [if_neg hr]
      exact (entry_eq (if_neg hr) fun _ ↦ rfl).symm
  cases h with
  | @echoed r hid => exact (entry_eq (if_neg fun hr ↦ hk (hr.symm.trans hid)) fun _ ↦ rfl).symm
  | followed => exact hlearn _
  | nominated =>
    rw [nominate_view]
    exact hlearn _
  | @merged _ nodes hwaits hmerge =>
    rw [hmerge, if_pos rfl]
    change (n.mergeView nodes).view[k]? = n.view[k]?.or (if _ then _ else _)
    rw [if_pos hwaits, getElem?_mergeView]
  | answered _ hmerge => exact (entry_eq rfl fun h ↦ absurd h (hmerge ▸ Bool.false_ne_true)).symm
  | unsolicited hwaits =>
    exact (entry_eq rfl fun _ ↦ if_neg (hwaits ▸ Bool.false_ne_true)).symm
  | concluded =>
    rw [getElem?_conclude_view, if_neg fun h ↦ hk h.2]
    exact (entry_eq rfl fun _ ↦ rfl).symm
  | _ => exact (entry_eq rfl fun _ ↦ rfl).symm

variable [WordSource γ] {os : List (Occasion γ)}

theorem Ticking.view_of_ne {now : Float} {source : γ} (h : Ticking n now source n' out)
    (hk : k ≠ n.id) : n'.view[k]? = n.view[k]? := by
  have hrefresh : (n.refresh now).view[k]? = n.view[k]? := IdMap.getElem?_insert_ne hk
  cases h with
  | beat => exact hrefresh
  | @round n₁ _ _ _ _ _ hcast hcount =>
    have hn₁ : n₁.view[k]? = n.view[k]? := by rw [hcast.view.1, hrefresh]
    cases hcount with
    | waiting => exact hn₁
    | won =>
      rw [getElem?_conclude_view, if_neg, hn₁]
      rintro ⟨-, hself⟩
      exact hk (hself.trans hcast.id)
    | tied => exact hn₁

/-! ## Occasions -/

theorem Meeting.settings (h : Meeting n o n' out) : n'.settings = n.settings := by
  cases h with
  | started => rfl
  | passed => rfl
  | handled _ h => exact h.settings
  | ticked h => exact h.kept.1

/-- The requests that the correlator holds are those that wait. -/
theorem Meeting.isOutstanding (h : Meeting n o n' out) :
    n'.correlator.isOutstanding = o.waiting n.id n.correlator.isOutstanding := by
  cases h with
  | started requestId => exact Correlator.isOutstanding_register _ _
  | passed hl => rw [Occasion.waiting_of_none hl nofun]
  | handled hl h => rw [Occasion.waiting_of_letter? hl, h.isOutstanding]
  | ticked h => exact congrArg Correlator.isOutstanding h.kept.2

/-- **What an occasion does to the view.** The entry of another id is what a heartbeat of that id
says now, or else what it has been, or else what the response to a request holds, if views are
merged. -/
theorem Meeting.view (h : Meeting n o n' out) (hk : k ≠ n.id) :
    n'.view[k]? = (o.record? n.id k).or (n.view[k]?.or
      (if n.settings.mergeState then o.told? n.id k n.correlator.isOutstanding else none)) := by
  cases h with
  | started => exact (entry_eq rfl fun _ ↦ rfl).symm
  | passed hl =>
    rw [Occasion.record?, Occasion.told?, hl]
    exact (entry_eq rfl fun _ ↦ rfl).symm
  | handled hl h =>
    rw [h.view hk, Occasion.record?, Occasion.told?, hl]
    rfl
  | ticked h =>
    rw [h.view_of_ne hk]
    exact (entry_eq rfl fun _ ↦ rfl).symm

/-! ## Lives -/

theorem settings_live (n : Node) (os : List (Occasion γ)) : (n.live os).settings = n.settings := by
  induction os generalizing n with
  | nil => rfl
  | cons o os ih => exact (ih _).trans (n.meeting_meet o).settings

/-- A new node holds the requests that wait. -/
theorem isOutstanding_live (i : String) (now : Float) (settings : Settings)
    (os : List (Occasion γ)) :
    ((new i now settings).live os).correlator.isOutstanding = requests i os := by
  induction os using List.reverseRecOn with
  | nil =>
    funext requestId
    exact Std.ExtTreeSet.contains_empty
  | append_singleton os o ih =>
    rw [live_concat, (meeting_meet _ o).isOutstanding, ((present_new i now settings).live os).id,
      ih, requests_concat]

theorem getElem?_view_meet (hk : k ≠ i) (now : Float) (settings : Settings)
    (os : List (Occasion γ)) (o : Occasion γ) :
    (((new i now settings).live os).meet o).1.view[k]?
      = (o.record? i k).or (((new i now settings).live os).view[k]?.or
        (if settings.mergeState then o.told? i k (requests i os) else none)) := by
  have hid : ((new i now settings).live os).id = i := ((present_new i now settings).live os).id
  have hview := (((new i now settings).live os).meeting_meet o).view (hid ▸ hk)
  rw [isOutstanding_live, settings_live, hid] at hview
  exact hview

theorem getElem?_view_live (hk : k ≠ i) (now : Float) (settings : Settings)
    (os : List (Occasion γ)) :
    ((new i now settings).live os).view[k]? = (announced i k os).getLast?.or
      (if settings.mergeState then (told i k os).head? else none) := by
  induction os using List.reverseRecOn with
  | nil =>
    change ((∅ : IdMap NodeRecord).insert i ⟨i, now, false⟩)[k]? = _
    rw [IdMap.getElem?_insert_ne hk, Std.ExtTreeMap.getElem?_empty]
    exact (ite_self none).symm
  | append_singleton os o ih =>
    have hlast : (announced i k (os ++ [o])).getLast?
        = (o.record? i k).or (announced i k os).getLast? := getLast?_filterMap_concat _ os o
    rw [live_concat, getElem?_view_meet hk, ih, hlast, told_concat, List.head?_append,
      Option.head?_toList, Option.or_assoc, Option.or_assoc]
    cases settings.mergeState with
    | false => rfl
    | true => rfl

/-- **The view is the log of heartbeats.** Whatever a node `i` has lived through, what it knows of
another id `k`

* is what the last heartbeat of `k` has said, or else, if views are merged, what stood under `k` in
  the first response that came to a request and held a record of `k`, or else nothing;
* is changed on an occasion only by a heartbeat of `k`, or, if nothing is known of `k` and views are
  merged, by a response that is the first one to its request, that is, to a request that has been
  sent and has had no response since. -/
theorem view_live {i k : String} (hk : k ≠ i) (now : Float) (settings : Settings)
    (os : List (Occasion γ)) :
    let n := (new i now settings).live os
    n.view[k]? = (announced i k os).getLast?.or
        (if settings.mergeState then (told i k os).head? else none) ∧
      (∀ o : Occasion γ, (n.meet o).1.view[k]? = (o.record? i k).or (n.view[k]?.or
        (if settings.mergeState then o.told? i k (requests i os) else none))) ∧
      ∀ requestId, requests i os requestId = true ↔
        ∃ sent since, os = sent ++ .startup requestId :: since ∧
          ∀ o ∈ since, ¬o.Responds i requestId := by
  refine ⟨?_, fun o ↦ ?_, fun requestId ↦ ?_⟩
  · exact getElem?_view_live hk now settings os
  · exact getElem?_view_meet hk now settings os o
  · exact requests_iff

/-- A node with two requests hears of `"b"` from a response, a second one to the same request, a
response to a request that nobody has sent, and the response to its second request. -/
def acquaintance : List (Occasion WordCycle) :=
  let response (requestId : String) (time : Float) : Occasion WordCycle :=
    .message "c" (.stateResponse requestId ((∅ : IdMap NodeRecord).insert "b" ⟨"b", time, false⟩))
  [.startup "r", .startup "s", response "q" 1, response "r" 2, response "r" 3, response "s" 4,
    .message "b" (.vote "b")]

/-- The first response to a request counts, until a heartbeat comes that somebody else has sent. -/
theorem view_live_acquaintance :
    let n := (new "a" 100 ⟨5, true⟩).live acquaintance
    "b" ≠ "a" ∧ told "a" "b" acquaintance = [⟨"b", 2, false⟩, ⟨"b", 4, false⟩] ∧
      n.view["b"]? = some ⟨"b", 2, false⟩ ∧
      (n.meet (.message "d" (.heartbeat ⟨"b", 1, true⟩) : Occasion WordCycle)).1.view["b"]?
        = some ⟨"b", 1, true⟩ := by
  intro n
  have hk : "b" ≠ "a" := by decide
  have htold : told "a" "b" acquaintance = [⟨"b", 2, false⟩, ⟨"b", 4, false⟩] := by decide +kernel
  have hannounced : announced "a" "b" acquaintance = [] := by decide +kernel
  obtain ⟨hview, hstep, -⟩ := view_live hk 100 ⟨5, true⟩ acquaintance
  refine ⟨hk, htold, ?_, ?_⟩
  · rw [hview, hannounced, htold]
    rfl
  · rw [hstep]
    rfl

end Node

end HeartbeatMesh

import HeartbeatMesh.Proofs.Correlator
import HeartbeatMesh.Proofs.History
import Mathlib.Data.Set.Card

/-!
# The log of a correlator

Requests are registered and responses are taken in any order, and the log holds every call with what
has come back from it. A request waits if the log has a registration of it and no handled response
to it since (`Waits`), and these are the requests that the correlator holds (`isOutstanding_iff`).

The reason is that a call says by itself whether its request waits afterwards: it does if the call
is a registration, and it does not if the call is a response, handled or not
(`isOutstanding_answer`). The call touches no other request, so the log of all calls about one
request is what it would be without the others (`filter_log`).
-/

namespace HeartbeatMesh.Correlator

variable {α : Type} {c c' : Correlator} {r : String}

/-! ## Calls -/

/-- What is asked of a correlator: to register a request, or to take a response to one. The handler
knows what else the response holds. -/
inductive Call (α : Type) where
  | register (requestId : String)
  | respond (requestId : String) (handler : String → α)

namespace Call

/-- The request that the call is about. -/
def requestId : Call α → String
  | register requestId => requestId
  | respond requestId _ => requestId

def isRegistration : Call α → Bool
  | register _ => true
  | respond _ _ => false

/-- What the handler of a response answers if it runs. -/
def reply? : Call α → Option α
  | register _ => none
  | respond requestId handler => some (handler requestId)

theorem isSome_reply? (call : Call α) : call.reply?.isSome = !call.isRegistration := by
  cases call <;> rfl

/-- The call is a registration of the request. -/
def Registers (r : String) (call : Call α) : Prop :=
  call.requestId = r ∧ call.isRegistration = true

instance (r : String) : DecidablePred (Registers (α := α) r) :=
  fun _ ↦ inferInstanceAs (Decidable (_ ∧ _))

end Call

/-- Does what is asked. Something comes back from a response whose handler has run. -/
def answer (c : Correlator) : Call α → Option α × Correlator
  | .register requestId => (none, c.register requestId)
  | .respond requestId handler => c.respond requestId handler

theorem answer_fst (c : Correlator) (call : Call α) :
    (c.answer call).1 = if c.isOutstanding call.requestId then call.reply? else none := by
  cases call with
  | register requestId => exact (ite_self none).symm
  | respond requestId handler =>
    rw [answer, respond_eq, Call.requestId, Call.reply?]
    split_ifs <;> rfl

/-- After a call its request waits if the call is a registration, and all others are as before. -/
theorem isOutstanding_answer (c : Correlator) (call : Call α) :
    (c.answer call).2.isOutstanding
      = Function.update c.isOutstanding call.requestId call.isRegistration := by
  cases call with
  | register requestId => exact isOutstanding_register c requestId
  | respond requestId handler =>
    rw [answer, respond_eq, Call.requestId, Call.isRegistration]
    split_ifs with h
    · exact isOutstanding_done c requestId
    · rw [← Bool.eq_false_of_not_eq_true h, Function.update_eq_self]

theorem isOutstanding_answer_of_ne {call : Call α} (hr : call.requestId ≠ r) :
    (c.answer call).2.isOutstanding r = c.isOutstanding r := by
  rw [isOutstanding_answer, Function.update_of_ne (Ne.symm hr)]

/-! ## Histories of calls -/

/-- The correlator after calls. -/
def answerAll (c : Correlator) (calls : List (Call α)) : Correlator :=
  calls.foldl (fun c call ↦ (c.answer call).2) c

/-- A call that has been made, and what has come back. -/
structure Entry (α : Type) where
  call : Call α
  result : Option α

/-- The entry is a response to the request whose handler has run. -/
def Entry.Handles (r : String) (e : Entry α) : Prop :=
  e.call.requestId = r ∧ e.result.isSome = true

instance (r : String) : DecidablePred (Entry.Handles (α := α) r) :=
  fun _ ↦ inferInstanceAs (Decidable (_ ∧ _))

/-- The calls that are made one after another, each with what comes back. -/
def log (c : Correlator) : List (Call α) → List (Entry α)
  | [] => []
  | call :: calls => ⟨call, (c.answer call).1⟩ :: (c.answer call).2.log calls

/-- The request waits after the calls of the log: it has been registered, and no response to it has
been handled since. -/
def Waits (r : String) (log : List (Entry α)) : Prop :=
  ∃ before e since, log = before ++ e :: since ∧ e.call.Registers r ∧ ∀ e' ∈ since, ¬e'.Handles r

theorem answerAll_concat (c : Correlator) (calls : List (Call α)) (call : Call α) :
    c.answerAll (calls ++ [call]) = ((c.answerAll calls).answer call).2 := by
  rw [answerAll, List.foldl_append]
  rfl

theorem log_concat (c : Correlator) (calls : List (Call α)) (call : Call α) :
    c.log (calls ++ [call]) = c.log calls ++ [⟨call, ((c.answerAll calls).answer call).1⟩] := by
  induction calls generalizing c with
  | nil => rfl
  | cons call' calls ih =>
    rw [List.cons_append, log, log, ih]
    rfl

/-- A response is handled if its request waits. -/
theorem handles_iff (c : Correlator) (call : Call α) :
    (⟨call, (c.answer call).1⟩ : Entry α).Handles r ↔
      call.requestId = r ∧ c.isOutstanding r = true ∧ call.isRegistration = false := by
  rw [Entry.Handles, answer_fst]
  refine and_congr_right ?_
  rintro rfl
  split_ifs with h
  · simp [h, call.isSome_reply?]
  · simp [h]

theorem waits_concat (log : List (Entry α)) (e : Entry α) :
    Waits r (log ++ [e]) ↔ e.call.Registers r ∨ ¬e.Handles r ∧ Waits r log :=
  exists_since_concat_iff log e

theorem isOutstanding_empty (r : String) : ({} : Correlator).isOutstanding r = false :=
  Std.ExtTreeSet.contains_empty

/-- A correlator that has held nothing at first holds the requests that wait. -/
theorem isOutstanding_iff (calls : List (Call α)) :
    (({} : Correlator).answerAll calls).isOutstanding r = true ↔
      Waits r (({} : Correlator).log calls) := by
  induction calls using List.reverseRecOn with
  | nil =>
    change ({} : Correlator).isOutstanding r = true ↔ _
    simp [isOutstanding_empty, Waits, log]
  | append_singleton calls call ih =>
    rw [answerAll_concat, log_concat, waits_concat, handles_iff, ← ih, Call.Registers]
    by_cases hr : call.requestId = r
    · subst hr
      rw [isOutstanding_answer, Function.update_self]
      cases call.isRegistration with
      | true => simp
      | false => simp
    · simp [hr, isOutstanding_answer_of_ne hr]

/-! ## What the correlator holds -/

theorem ext_isOutstanding (h : c.isOutstanding = c'.isOutstanding) : c = c' := by
  obtain ⟨held⟩ := c
  obtain ⟨held'⟩ := c'
  refine congrArg mk (Std.ExtTreeSet.ext_mem fun r ↦ ?_)
  rw [← Std.ExtTreeSet.contains_iff_mem, ← Std.ExtTreeSet.contains_iff_mem]
  exact Bool.eq_iff_iff.mp (congrFun h r)

/-- To register a request changes nothing if it waits, and only then. -/
theorem register_eq_self_iff : c.register r = c ↔ c.isOutstanding r = true := by
  constructor
  · intro h
    rw [← h, isOutstanding_register, Function.update_self]
  · intro h
    apply ext_isOutstanding
    rw [isOutstanding_register, ← h, Function.update_eq_self]

theorem encard_isOutstanding (c : Correlator) :
    {r | c.isOutstanding r = true}.encard = c.count := by
  have hset : {r | c.isOutstanding r = true} = (c.outstanding.toList.toFinset : Set String) := by
    ext r
    simp [isOutstanding]
  have hnodup : c.outstanding.toList.Nodup :=
    Std.ExtTreeSet.distinct_toList.imp fun h heq ↦ h (Std.LawfulEqCmp.compare_eq_iff_eq.mpr heq)
  rw [hset, Set.encard_coe_eq_coe_finsetCard, List.toFinset_card_of_nodup hnodup,
    Std.ExtTreeSet.length_toList, count]

/-! ## One request at a time -/

/-- A call comes out alike wherever its request waits alike. -/
theorem answer_alike {call : Call α} (hr : call.requestId = r)
    (h : c.isOutstanding r = c'.isOutstanding r) :
    (c.answer call).1 = (c'.answer call).1 ∧
      (c.answer call).2.isOutstanding r = (c'.answer call).2.isOutstanding r := by
  subst hr
  constructor
  · rw [answer_fst, answer_fst, h]
  · rw [isOutstanding_answer, isOutstanding_answer, Function.update_self, Function.update_self]

/-- What comes back from the calls about one request, and whether it waits then, depends on these
calls only, and on whether it has waited before them. -/
theorem filter_log (h : c.isOutstanding r = c'.isOutstanding r) (calls : List (Call α)) :
    let own := calls.filter fun call ↦ call.requestId = r
    (c.log calls).filter (fun e ↦ e.call.requestId = r) = c'.log own ∧
      (c.answerAll calls).isOutstanding r = (c'.answerAll own).isOutstanding r := by
  dsimp only
  induction calls generalizing c c' with
  | nil => exact ⟨rfl, h⟩
  | cons call calls ih =>
    rw [log, List.filter_cons, List.filter_cons, answerAll, List.foldl_cons]
    by_cases hr : call.requestId = r
    · obtain ⟨hresult, hnext⟩ := answer_alike hr h
      obtain ⟨hlog, hwaits⟩ := ih hnext
      rw [if_pos (decide_eq_true hr), if_pos (decide_eq_true hr), log, hlog, hresult]
      exact ⟨rfl, hwaits⟩
    · rw [if_neg (by simpa using hr), if_neg (by simpa using hr)]
      exact ih ((isOutstanding_answer_of_ne hr).trans h)

/-- A response that is handled takes what has waited, and only a registration makes wait. -/
theorem handles_add_le (c : Correlator) (call : Call α) (r : String) :
    (if (⟨call, (c.answer call).1⟩ : Entry α).Handles r then 1 else 0)
        + ((c.answer call).2.isOutstanding r).toNat
      ≤ (c.isOutstanding r).toNat + if call.Registers r then 1 else 0 := by
  simp only [handles_iff, Call.Registers]
  by_cases hr : call.requestId = r
  · subst hr
    rw [isOutstanding_answer, Function.update_self]
    by_cases hcall : call.isRegistration = true
    · simp [hcall]
    · by_cases hwaits : c.isOutstanding call.requestId = true
      · simp [hcall, hwaits]
      · simp [hcall, hwaits]
  · simp [hr, isOutstanding_answer_of_ne hr]

/-- Every response that is handled has a registration of its own, and so has one that is awaited. -/
theorem countP_handles_le (r : String) (calls : List (Call α)) :
    (({} : Correlator).log calls).countP (fun e ↦ e.Handles r)
        + ((({} : Correlator).answerAll calls).isOutstanding r).toNat
      ≤ calls.countP fun call ↦ call.Registers r := by
  induction calls using List.reverseRecOn with
  | nil => exact (congrArg Bool.toNat (isOutstanding_empty r)).le
  | append_singleton calls call ih =>
    have hstep := handles_add_le (({} : Correlator).answerAll calls) call r
    rw [answerAll_concat, log_concat, List.countP_append, List.countP_append, List.countP_singleton,
      List.countP_singleton]
    simp only [decide_eq_true_eq]
    omega

/-! ## The law -/

/-- **One handled response a registration.** Let requests be registered and responses be taken in
any order, by a correlator that has held nothing at first. Whatever has come so far,

* a response runs its handler if and only if its request waits, that is, it has been registered
  after the last response to it that has been handled, or since the start;
* the correlator holds the requests that wait, each of them once, and no others;
* to register a request changes nothing if and only if it waits already;
* no request has had more responses handled than it has had registrations, and if it waits, it has
  had less;
* what has come back from the calls about one request, and whether it waits, is what it would be
  without the calls about others. -/
theorem one_response_a_registration (calls : List (Call α)) :
    let c := ({} : Correlator).answerAll calls
    let log := ({} : Correlator).log calls
    (∀ {β : Type} (r : String) (handler : String → β) (b : β),
        (c.respond r handler).1 = some b ↔ Waits r log ∧ handler r = b) ∧
      (∀ r, c.isOutstanding r = true ↔ Waits r log) ∧
      {r | Waits r log}.encard = c.count ∧
      (∀ r, c.register r = c ↔ Waits r log) ∧
      (∀ r, log.countP (fun e ↦ e.Handles r) + (c.isOutstanding r).toNat
        ≤ calls.countP fun call ↦ call.Registers r) ∧
      ∀ r,
        let own := calls.filter fun call ↦ call.requestId = r
        log.filter (fun e ↦ e.call.requestId = r) = ({} : Correlator).log own ∧
          c.isOutstanding r = (({} : Correlator).answerAll own).isOutstanding r := by
  intro c log
  have hwaits (r : String) : c.isOutstanding r = true ↔ Waits r log := isOutstanding_iff calls
  refine ⟨fun r handler b ↦ ?_, hwaits, ?_, fun r ↦ ?_, fun r ↦ ?_, fun r ↦ ?_⟩
  · rw [← hwaits, respond_eq]
    split_ifs with h
    · simp [h]
    · simp [h]
  · simp only [← hwaits]
    exact c.encard_isOutstanding
  · rw [register_eq_self_iff, hwaits]
  · exact countP_handles_le r calls
  · exact filter_log rfl calls

/-- Of two registrations of `"a"` the second one changes nothing, the response to `"b"` answers
nothing that has been asked, and the second response to `"a"` comes too late. -/
example :
    (({} : Correlator).log [.register "a", .register "a", .respond "b" (· ++ "!"),
      .respond "a" (· ++ "!"), .respond "a" (· ++ "?")]).map (·.result)
      = [none, none, none, some "a!", none] := by
  decide +kernel

end HeartbeatMesh.Correlator

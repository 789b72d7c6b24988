import HeartbeatMesh.Proofs.Wire.Skip

/-!
# Objects and their members

An object is read member by member, so the heart of the matter is what one member does to the state
of the reader (`TakesMember.readEntries`): its value is taken and changes the state, or it is
refused, or nobody asks for it and it is read past. What becomes of the state at all members of an
object is the relation `TakesAll`, and the reader arrives at that state behind the closing brace,
whatever blanks there are in the object (`TakesAll.readObject`).

Dictionaries and records are two instances. A dictionary takes every member, and a record takes a
member of the name of a field into the slot of the field, if that is empty.
-/

namespace HeartbeatMesh.Wire

/-! ## The text of an object -/

/-- What stands between a key and its value. -/
inductive IsColon : Bytes → Prop
  | mk {ws ws' : Bytes} (hws : IsBlanks ws) (hws' : IsBlanks ws') : IsColon (ws ++ 0x3A :: ws')

/-- The bytes of a member of an object, up to the end of its value. -/
inductive IsMember : String → Bytes → Bytes → Prop
  | mk {key : String} {value ws raw colon : Bytes} (hws : IsBlanks ws)
      (hraw : Spells raw (Text.utf8 key)) (hcolon : IsColon colon) :
      IsMember key value (ws ++ 0x22 :: (raw ++ 0x22 :: (colon ++ value)))

/-- The members of an object between its braces, of which there is at least one. -/
inductive IsMembers : List (String × Bytes) → Bytes → Prop
  | last {key : String} {value m ws : Bytes} (hm : IsMember key value m) (hws : IsBlanks ws) :
      IsMembers [(key, value)] (m ++ ws)
  | cons {key : String} {value m ws bs : Bytes} {ms : List (String × Bytes)}
      (hm : IsMember key value m) (hws : IsBlanks ws) (hms : IsMembers ms bs) :
      IsMembers ((key, value) :: ms) (m ++ (ws ++ 0x2C :: bs))

/-- An object with the given members, in their order. -/
inductive IsObject : List (String × Bytes) → Bytes → Prop
  | empty {ws : Bytes} (hws : IsBlanks ws) : IsObject [] (0x7B :: (ws ++ [0x7D]))
  | members {ms : List (String × Bytes)} {bs : Bytes} (hms : IsMembers ms bs) :
      IsObject ms (0x7B :: (bs ++ [0x7D]))

theorem isMember_writeEntry (key : String) (value : Bytes) :
    IsMember key value (writeEntry key value) := by
  have hmember : IsMember key value _ :=
    .mk isBlanks_nil (spells_flatMap_escapeByte _) (.mk isBlanks_nil isBlanks_nil)
  simpa [writeEntry, writeString] using hmember

theorem isMembers_intercalate (key : String) (value : Bytes) (ms : List (String × Bytes)) :
    IsMembers ((key, value) :: ms)
      (List.intercalate [0x2C] (((key, value) :: ms).map fun e ↦ writeEntry e.1 e.2)) := by
  induction ms generalizing key value with
  | nil =>
    have hlast := IsMembers.last (isMember_writeEntry key value) isBlanks_nil
    simpa using hlast
  | cons m ms ih =>
    have hcons := IsMembers.cons (isMember_writeEntry key value) isBlanks_nil (ih m.1 m.2)
    simpa [List.intercalate_cons_cons] using hcons

/-- An object as it is written is one without blanks. -/
theorem isObject_writeObject (ms : List (String × Bytes)) :
    IsObject ms (writeObject (ms.map fun e ↦ writeEntry e.1 e.2)) := by
  cases ms with
  | nil => exact .empty isBlanks_nil
  | cons m ms => exact .members (isMembers_intercalate m.1 m.2 ms)

theorem IsMembers.length_le {ms : List (String × Bytes)} {bs : Bytes} (h : IsMembers ms bs) :
    ms.length ≤ bs.length := by
  induction h with
  | last hm =>
    cases hm
    simp only [List.length_cons, List.length_nil, List.length_append]
    omega
  | cons _ _ _ ih =>
    simp only [List.length_cons, List.length_append]
    omega

/-! ## Reading an object -/

section Objects

variable {σ : Type} {offer : String → σ → Bytes → Option (Except ReadError (σ × Bytes))}
  {key : String} {value bs rest : Bytes} {ms : List (String × Bytes)} {s : σ}
  {next outcome : Option σ}

/-- What becomes of the state of a reader at a member. The member is offered and its value is read,
unless it is refused, or the member is declined and its value is read past. -/
inductive TakesMember (offer : String → σ → Bytes → Option (Except ReadError (σ × Bytes)))
    (key : String) (value : Bytes) (s : σ) : Option σ → Prop
  | offered {next : Option σ} (h : ∀ colon rest, IsColon colon → EndsNumber rest →
      ∃ r, offer key s (colon ++ (value ++ rest)) = some r ∧ r.toOption = next.map (·, rest)) :
      TakesMember offer key value s next
  | declined (h : ∀ bs, offer key s bs = none) (hvalue : IsJson value) :
      TakesMember offer key value s (some s)

/-- The members are taken one after the other, the state goes through them, and the outcome is what
it has become in the end, unless a value is refused. -/
inductive TakesAll (offer : String → σ → Bytes → Option (Except ReadError (σ × Bytes))) :
    List (String × Bytes) → σ → Option σ → Prop
  | nil (s : σ) : TakesAll offer [] s (some s)
  | cons {key : String} {value : Bytes} {ms : List (String × Bytes)} {s : σ}
      {next outcome : Option σ} {f : σ → Option σ} (hout : outcome = next.bind f)
      (htake : TakesMember offer key value s next)
      (hnext : ∀ s', next = some s' → TakesAll offer ms s' (f s')) :
      TakesAll offer ((key, value) :: ms) s outcome

theorem TakesAll.eq_some (h : TakesAll offer [] s outcome) : outcome = some s := by
  cases h
  rfl

/-- A member whose value is not refused. -/
theorem TakesAll.cons_some {s' : σ} (htake : TakesMember offer key value s (some s'))
    (hnext : TakesAll offer ms s' outcome) : TakesAll offer ((key, value) :: ms) s outcome := by
  refine .cons (f := fun _ ↦ outcome) rfl htake fun s'' hs'' ↦ ?_
  obtain rfl := Option.some.inj hs''
  exact hnext

theorem readEntries_blanks {ws : Bytes} (hws : IsBlanks ws) (fuel : Nat) (isFirst : Bool) (s : σ)
    (bs : Bytes) :
    readEntries offer fuel isFirst s (ws ++ bs) = readEntries offer fuel isFirst s bs := by
  cases fuel with
  | zero => rfl
  | succ fuel => rw [readEntries, readEntries, skipBlanks_append hws]

theorem readEntries_brace (fuel : Nat) (isFirst : Bool) (s : σ) (rest : Bytes) :
    readEntries offer (fuel + 1) isFirst s (0x7D :: rest) = .ok (s, rest) := by
  rw [readEntries, skipBlanks_cons (by decide)]
  simp

/-- The comma before a member is all that tells it from the first one. -/
theorem readEntries_comma {bs bs' : Bytes} (h : skipBlanks bs = 0x22 :: bs') (fuel : Nat) (s : σ) :
    readEntries offer (fuel + 1) false s (0x2C :: bs)
      = readEntries offer (fuel + 1) true s bs := by
  have hmark : readMark 0x22 bs = readMark 0x22 (0x22 :: bs') := by
    rw [← h, readMark, readMark, skipBlanks_skipBlanks]
  rw [readEntries, readEntries, skipBlanks_cons (by decide), h]
  simp [hmark]

theorem IsColon.readMark {colon : Bytes} (h : IsColon colon) :
    ∃ ws, IsBlanks ws ∧ ∀ bs, readMark 0x3A (colon ++ bs) = .ok (ws ++ bs) := by
  obtain ⟨hws, hws'⟩ := h
  refine ⟨_, hws', fun bs ↦ ?_⟩
  rw [List.append_assoc, readMark_append hws, List.cons_append, readMark_cons (by decide)]

/-- The value of a declined member, behind its colon. -/
theorem IsColon.skipValue {colon : Bytes} (h : IsColon colon) (hvalue : IsJson value)
    (hrest : EndsNumber rest) :
    (Wire.readMark 0x3A (colon ++ (value ++ rest)) >>= skipValue) = .ok rest := by
  obtain ⟨ws, hws, hread⟩ := h.readMark
  rw [hread]
  exact skipValue_append hws hvalue hrest

/-- The key of a member is read, and what is left is its value behind the colon. -/
theorem IsMember.read_key {m : Bytes} (h : IsMember key value m) (rest : Bytes) :
    ∃ bs colon, skipBlanks (m ++ rest) = 0x22 :: bs ∧ IsColon colon ∧
      readMark 0x22 (m ++ rest) >>= readString = .ok (key, colon ++ (value ++ rest)) := by
  obtain ⟨hws, hraw, hcolon⟩ := h
  rename_i ws raw colon
  have hbytes : ws ++ 0x22 :: (raw ++ 0x22 :: (colon ++ value)) ++ rest
      = ws ++ 0x22 :: (raw ++ 0x22 :: (colon ++ (value ++ rest))) := by simp
  refine ⟨raw ++ 0x22 :: (colon ++ (value ++ rest)), colon, ?_, hcolon, ?_⟩
  · rw [hbytes, skipBlanks_append hws, skipBlanks_cons (by decide)]
  · rw [hbytes, readMark_append hws, readMark_cons (by decide)]
    exact readString_spells hraw _

/-- One step of the reader of an object, over one member. The reader is where the member ends, or
stops. -/
theorem TakesMember.readEntries (h : TakesMember offer key value s next) {m : Bytes}
    (hm : IsMember key value m) (hrest : EndsNumber rest) (fuel : Nat) (isFirst : Bool) :
    (readEntries offer (fuel + 1) isFirst s
        ((if isFirst then [] else [0x2C]) ++ (m ++ rest))).toOption
      = next.bind fun s' ↦ (Wire.readEntries offer fuel false s' rest).toOption := by
  obtain ⟨bs, colon, hskip, hcolon, hkey⟩ := hm.read_key rest
  have hfirst : Wire.readEntries offer (fuel + 1) isFirst s
      ((if isFirst then [] else [0x2C]) ++ (m ++ rest))
      = Wire.readEntries offer (fuel + 1) true s (m ++ rest) := by
    cases isFirst with
    | true => rfl
    | false => exact readEntries_comma hskip fuel s
  have hkey' : readMark 0x22 (0x22 :: bs) >>= readString
      = .ok (key, colon ++ (value ++ rest)) := by
    rw [← hskip, readMark, skipBlanks_skipBlanks]
    exact hkey
  rw [hfirst, Wire.readEntries, hskip]
  simp only [hkey', if_true, reduceCtorEq, false_and, if_false]
  rw [if_neg (by decide)]
  cases h with
  | offered h =>
    obtain ⟨r, hoffer, hr⟩ := h colon rest hcolon hrest
    simp only [bind, Except.bind, hoffer]
    cases r with
    | error e =>
      obtain rfl : next = none := by simpa [Except.toOption] using hr.symm
      rfl
    | ok taken =>
      obtain ⟨s', rfl, rfl⟩ := Option.map_eq_some_iff.mp hr.symm
      rfl
  | declined h hvalue =>
    have hskipped := hcolon.skipValue hvalue hrest
    simp only [bind, Except.bind, h] at hskipped ⊢
    rw [hskipped]
    rfl

/-- The reader of an object goes through its members, one step for each. -/
theorem TakesAll.readEntries (h : TakesAll offer ms s outcome) (hms : IsMembers ms bs)
    (fuel : Nat) (isFirst : Bool) (rest : Bytes) :
    (readEntries offer (fuel + ms.length + 1) isFirst s
        ((if isFirst then [] else [0x2C]) ++ (bs ++ 0x7D :: rest))).toOption
      = outcome.map (·, rest) := by
  induction hms generalizing s isFirst outcome with
  | last hm hws =>
    obtain _ | ⟨rfl, htake, hnext⟩ := h
    rename_i next f
    have hend : EndsNumber (0x7D :: rest) := endsNumber_close .object rest
    rw [List.append_assoc, htake.readEntries hm (.blanks_append hws hend)]
    cases next with
    | none => rfl
    | some s' =>
      rw [Option.bind_some, Option.bind_some, (hnext s' rfl).eq_some, readEntries_blanks hws]
      exact congrArg Except.toOption (readEntries_brace fuel false s' rest)
  | cons hm hws _ ih =>
    obtain _ | ⟨rfl, htake, hnext⟩ := h
    rename_i next f
    rw [List.append_assoc, List.append_assoc, List.cons_append,
      htake.readEntries hm (.blanks_append hws (endsNumber_comma _))]
    cases next with
    | none => rfl
    | some s' =>
      rw [Option.bind_some, Option.bind_some, readEntries_blanks hws]
      exact ih (hnext s' rfl) false

/-- The reader goes through a whole object whose members are taken. -/
theorem TakesAll.readObject (h : TakesAll offer ms s outcome) (hms : IsObject ms bs)
    (rest : Bytes) :
    ∃ bs', bs ++ rest = 0x7B :: bs' ∧
      (readObject offer s bs').toOption = outcome.map (·, rest) := by
  cases hms with
  | @empty ws hws =>
    refine ⟨ws ++ 0x7D :: rest, by simp, ?_⟩
    rw [h.eq_some, Wire.readObject, readEntries_blanks hws]
    exact congrArg Except.toOption (readEntries_brace _ true s rest)
  | @members _ bs hms =>
    refine ⟨bs ++ 0x7D :: rest, by simp, ?_⟩
    obtain ⟨fuel, hfuel⟩ : ∃ fuel, (bs ++ 0x7D :: rest).length + 1 = fuel + ms.length + 1 := by
      refine ⟨(bs ++ 0x7D :: rest).length - ms.length, ?_⟩
      have hle := hms.length_le
      rw [List.length_append]
      omega
    rw [Wire.readObject, hfuel]
    exact h.readEntries hms fuel true rest

end Objects

/-! ## Dictionaries and records -/

theorem Shape.read_blanks {ws : Bytes} (hws : IsBlanks ws) (bs : Bytes) :
    ∀ shape : Shape, shape.read (ws ++ bs) = shape.read bs
  | .text | .real | .flag | .dict _ | .record _ _ => by
    rw [read, read, skipBlanks_append hws]

theorem IsColon.read {colon : Bytes} (h : IsColon colon) (shape : Shape) (bs : Bytes) :
    (Wire.readMark 0x3A (colon ++ bs) >>= shape.read) = shape.read bs := by
  obtain ⟨ws, hws, hread⟩ := h.readMark
  rw [hread]
  exact Shape.read_blanks hws bs shape

theorem toOption_eq_some_iff {ε α : Type} {r : Except ε α} {a : α} :
    r.toOption = some a ↔ r = .ok a := by
  cases r <;> simp [Except.toOption]

theorem toOption_map {ε α β : Type} (f : α → β) (r : Except ε α) :
    (r.map f).toOption = r.toOption.map f := by
  cases r <;> rfl

/-- The reader of dictionaries as an instance of `readObject`. -/
abbrev dictOffer {α : Type} (readValue : Reader α) (key : String) (m : Std.ExtTreeMap String α)
    (bs : Bytes) : Option (Except ReadError (Std.ExtTreeMap String α × Bytes)) :=
  some do
    let bs ← readMark 0x3A bs
    let (v, bs) ← readValue bs
    return (m.insert key v, bs)

theorem dictOffer_eq {α : Type} (readValue : Reader α) (key : String)
    (m : Std.ExtTreeMap String α) (bs : Bytes) :
    dictOffer readValue key m bs
      = some ((readMark 0x3A bs >>= readValue).map fun r ↦ (m.insert key r.1, r.2)) := by
  rw [dictOffer]
  cases hmark : readMark 0x3A bs with
  | error e => rfl
  | ok bs =>
    simp only [bind, Except.bind]
    cases readValue bs <;> rfl

/-- A dictionary takes every member, unless its value is refused. -/
theorem takesAll_dict {α : Type} {element : Shape} {layout : α → Bytes → Prop}
    {value? : α → Option element.Val}
    (h : ∀ a bs rest, layout a bs → EndsNumber rest →
      (element.read (bs ++ rest)).toOption = (value? a).map (·, rest))
    {order : List (String × α)} {ms : List (String × Bytes)}
    (hms : List.Forall₂ (fun e m ↦ m.1 = e.1 ∧ layout e.2 m.2) order ms)
    (m : Std.ExtTreeMap String element.Val) :
    TakesAll (dictOffer element.read) ms m
      (order.foldlM (fun m e ↦ (value? e.2).map (m.insert e.1)) m) := by
  induction hms generalizing m with
  | nil => exact .nil m
  | @cons e e' order ms he _ ih =>
    obtain ⟨key, a⟩ := e
    obtain ⟨_, bs⟩ := e'
    obtain ⟨rfl, hbs⟩ := he
    refine .cons List.foldlM_cons (.offered fun colon rest hcolon hrest ↦ ?_) fun m' _ ↦ ih m'
    refine ⟨_, dictOffer_eq _ _ _ _, ?_⟩
    rw [hcolon.read, toOption_map, h a bs rest hbs hrest, Option.map_map, Option.map_map]
    rfl

/-- A record of which everything has been read. -/
def Fields.filled : (fields : Fields) → fields.Vals → fields.Slots
  | .nil, () => ()
  | .cons _ _ rest, (v, vs) => (some v, rest.filled vs)

theorem Fields.complete_filled :
    ∀ (fields : Fields) (vs : fields.Vals), fields.complete (fields.filled vs) = .ok vs
  | .nil, () => rfl
  | .cons _ _ rest, (v, vs) => by
    have hrest := Fields.complete_filled rest vs
    simp only [Fields.filled, Fields.complete, hrest]
    rfl

/-- A record is complete if all of its fields have been read. -/
theorem read_record {name : String} {fields : Fields} {bs rest : Bytes}
    {outcome : Option fields.Vals}
    (h : (readObject fields.offer fields.empty bs).toOption
      = (outcome.map fields.filled).map (·, rest)) :
    (Shape.read (.record name fields) (0x7B :: bs)).toOption = outcome.map (·, rest) := by
  rw [Shape.read, skipBlanks_cons (by decide)]
  simp only [if_true]
  cases hobject : readObject fields.offer fields.empty bs with
  | error e =>
    rw [hobject] at h
    obtain rfl : outcome = none := by simpa [Except.toOption] using h.symm
    rfl
  | ok r =>
    rw [hobject] at h
    obtain ⟨slots, hslots, rfl⟩ := Option.map_eq_some_iff.mp h.symm
    obtain ⟨vs, rfl, rfl⟩ := Option.map_eq_some_iff.mp hslots
    simp only [bind, Except.bind, fields.complete_filled vs]
    rfl

section Offer

variable {name key : String} {shape : Shape} {rest : Fields} {slots : rest.Slots} {bs : Bytes}
  {value : Bytes}

/-- The value of a field goes into its empty slot. -/
theorem Fields.offer_self :
    (Fields.cons name shape rest).offer name (none, slots) bs
      = some ((readMark 0x3A bs >>= shape.read).map fun r ↦ ((some r.1, slots), r.2)) := by
  refine (show _ = some _ by rw [Fields.offer, if_pos rfl]).trans ?_
  cases hmark : readMark 0x3A bs with
  | error e => rfl
  | ok bs =>
    simp only [bind, Except.bind]
    cases shape.read bs <;> rfl

/-- The value of another field passes a slot by. -/
theorem Fields.offer_of_ne (hkey : key ≠ name) (slot : Option shape.Val) :
    (Fields.cons name shape rest).offer key (slot, slots) bs
      = (rest.offer key slots bs).map (·.map fun taken ↦ ((slot, taken.1), taken.2)) := by
  rw [Fields.offer, if_neg hkey]
  cases rest.offer key slots bs with
  | none => rfl
  | some r => cases r <;> rfl

theorem TakesMember.self {outcome : Option shape.Val}
    (h : ∀ bs, EndsNumber bs → (shape.read (value ++ bs)).toOption = outcome.map (·, bs)) :
    TakesMember (Fields.cons name shape rest).offer name value (none, slots)
      (outcome.map fun v ↦ (some v, slots)) := by
  refine .offered fun colon bs hcolon hbs ↦ ⟨_, Fields.offer_self, ?_⟩
  rw [hcolon.read]
  refine (toOption_map _ _).trans ((congrArg _ (h bs hbs)).trans ?_)
  cases outcome <;> rfl

theorem TakesMember.pass {next : Option rest.Slots}
    (h : TakesMember rest.offer key value slots next) (hkey : key ≠ name)
    (slot : Option shape.Val) :
    TakesMember (Fields.cons name shape rest).offer key value (slot, slots)
      (next.map (slot, ·)) := by
  cases h with
  | offered h =>
    refine .offered fun colon bs hcolon hbs ↦ ?_
    obtain ⟨r, hoffer, hr⟩ := h colon bs hcolon hbs
    refine ⟨r.map fun taken ↦ ((slot, taken.1), taken.2), ?_, ?_⟩
    · rw [Fields.offer_of_ne hkey, hoffer]
      rfl
    · rw [toOption_map, hr]
      cases next <;> rfl
  | declined h hvalue =>
    refine .declined (fun bs ↦ ?_) hvalue
    rw [Fields.offer_of_ne hkey, h]
    rfl

end Offer

/-! ## Values that are no objects -/

theorem read_isText {s : String} {bs : Bytes} (h : IsText s bs) (rest : Bytes) :
    Shape.read .text (bs ++ rest) = .ok (s, rest) := by
  obtain ⟨hraw⟩ := h
  rw [List.cons_append, List.append_assoc, Shape.read, skipBlanks_cons (by decide)]
  exact (if_pos rfl).trans (readString_spells hraw rest)

theorem read_flag (b : Bool) (rest : Bytes) :
    Shape.read .flag (Shape.write .flag b ++ rest) = .ok (b, rest) := by
  cases b with
  | true =>
    change Shape.read .flag (Text.utf8 "true" ++ rest) = _
    rw [utf8_true, List.cons_append, Shape.read, skipBlanks_cons (by decide)]
    simp [readWord_append, bind, Except.bind, pure, Except.pure]
  | false =>
    change Shape.read .flag (Text.utf8 "false" ++ rest) = _
    rw [utf8_false, List.cons_append, Shape.read, skipBlanks_cons (by decide)]
    simp [readWord_append, bind, Except.bind, pure, Except.pure]

end HeartbeatMesh.Wire

import HeartbeatMesh.Proofs.Wire.Value

/-!
# What a payload says does not depend on how it is laid out

A payload is laid out freely: with any blanks between its tokens, its strings spelled in any way,
the fields of its records in any order, and with fields that nobody declared among them. All layouts
of one literal are read alike (`Shape.decode_payload`), and the plainest of them is the literal
written without anything that is not needed (`Shape.layout_plain`).

A literal is a value as a text gives it: a real number by its digits, since reading them is not
exact, and a dictionary entry by entry, since a key may occur again.

The reader of a record keeps a slot for each field. What its slots hold after some members is said
by the keys of these members alone (`Fields.slotsOf`), so the order of the fields drops out: each
member adds its key, whether the reader takes it or reads past it.
-/

namespace HeartbeatMesh.Wire

/-! ## Literals -/

/-- The real number that a text is read as when nothing else is there, `none` for a number beyond
the largest double. -/
def realOf? (text : Bytes) : Option Float := (Shape.decode .real text).toOption

/-- A number that can stand in the place of a real one. -/
structure RealLiteral where
  text : Bytes
  value : Float
  isNumber : IsNumber text
  realOf?_text : realOf? text = some value

mutual
/-- The values of a shape as a text gives them. -/
def Shape.Literal : Shape → Type
  | .text => String
  | .real => RealLiteral
  | .flag => Bool
  | .dict element => List (String × element.Literal)
  | .record _ fields => fields.Literals
/-- One literal for each field. -/
def Fields.Literals : Fields → Type
  | .nil => Unit
  | .cons _ shape rest => shape.Literal × rest.Literals
end

/-- The dictionary of a list of entries, of which the last one of a key stays. -/
def dictOf {α β : Type} (value : α → β) (entries : List (String × α)) :
    Std.ExtTreeMap String β :=
  entries.foldl (fun m e ↦ m.insert e.1 (value e.2)) ∅

mutual
/-- The value of a literal. -/
def Shape.value : (shape : Shape) → shape.Literal → shape.Val
  | .text, s => s
  | .real, l => l.value
  | .flag, b => b
  | .dict element, entries => dictOf element.value entries
  | .record _ fields, ls => fields.values ls
/-- The values of the literals of a record. -/
def Fields.values : (fields : Fields) → fields.Literals → fields.Vals
  | .nil, () => ()
  | .cons _ shape rest, (l, ls) => (shape.value l, rest.values ls)
end

mutual
/-- The literal alone: without blanks and needless escapes, each record with its declared fields in
their order and nothing else. -/
def Shape.plain : (shape : Shape) → shape.Literal → Bytes
  | .text, s => writeString s
  | .real, l => l.text
  | .flag, b => Text.utf8 (cond b "true" "false")
  | .dict element, entries => writeObject (entries.map fun e ↦ writeEntry e.1 (element.plain e.2))
  | .record _ fields, ls => writeObject ((fields.plainEntries ls).map fun e ↦ writeEntry e.1 e.2)
/-- The members of a record that is written alone. -/
def Fields.plainEntries : (fields : Fields) → fields.Literals → List (String × Bytes)
  | .nil, () => []
  | .cons name shape rest, (l, ls) => (name, shape.plain l) :: rest.plainEntries ls
end

/-! ## Layouts -/

/-- The same entries in another order, in which those of one key keep theirs. -/
def Rearranged {α : Type} (entries order : List (String × α)) : Prop :=
  ∀ key, order.filter (·.1 = key) = entries.filter (·.1 = key)

mutual
/-- The bytes are a layout of the literal, without blanks around it. -/
def Shape.Layout : (shape : Shape) → shape.Literal → Bytes → Prop
  | .text, s, bs => IsText s bs
  | .real, l, bs => bs = l.text
  | .flag, b, bs => bs = Text.utf8 (cond b "true" "false")
  | .dict element, entries, bs => ∃ order ms, Rearranged entries order ∧
      List.Forall₂ (fun e m ↦ m.1 = e.1 ∧ element.Layout e.2 m.2) order ms ∧ IsObject ms bs
  | .record _ fields, ls, bs => ∃ ms, (∀ m ∈ ms, fields.MemberLayout ls m.1 m.2) ∧
      (∀ name ∈ fields.names, (ms.map Prod.fst).count name = 1) ∧ IsObject ms bs
/-- A member that may stand in an object of the record: a declared field with a layout of its
literal, or another key with any JSON value. -/
def Fields.MemberLayout : (fields : Fields) → fields.Literals → String → Bytes → Prop
  | .nil, (), _, value => IsJson value
  | .cons name shape rest, (l, ls), key, value =>
    if key = name then shape.Layout l value else rest.MemberLayout ls key value
end

/-- The bytes are a layout of the literal with any blanks around it. -/
def Shape.Payload (shape : Shape) (l : shape.Literal) (payload : Bytes) : Prop :=
  ∃ ws bs ws', IsBlanks ws ∧ shape.Layout l bs ∧ IsBlanks ws' ∧ payload = ws ++ (bs ++ ws')

/-! ## Dictionaries -/

theorem getElem?_foldl_insert {α β : Type} (value : α → β) (entries : List (String × α))
    (m : Std.ExtTreeMap String β) (key : String) :
    (entries.foldl (fun m e ↦ m.insert e.1 (value e.2)) m)[key]?
      = (entries.filter (·.1 = key)).foldl (fun _ e ↦ some (value e.2)) m[key]? := by
  induction entries generalizing m with
  | nil => rfl
  | cons e entries ih =>
    rw [List.foldl_cons, ih, Std.ExtTreeMap.getElem?_insert, List.filter_cons]
    simp only [Std.LawfulEqOrd.compare_eq_iff_eq, decide_eq_true_eq]
    split_ifs <;> rfl

/-- Only the order of entries of one key matters. -/
theorem dictOf_rearranged {α β : Type} (value : α → β) {entries order : List (String × α)}
    (h : Rearranged entries order) : dictOf value order = dictOf value entries := by
  refine Std.ExtTreeMap.ext_getElem? fun key ↦ ?_
  rw [dictOf, dictOf, getElem?_foldl_insert, getElem?_foldl_insert, h key]

theorem foldlM_eq_dictOf {α β : Type} (value : α → β) (entries : List (String × α)) :
    entries.foldlM (fun m e ↦ (some (value e.2)).map (m.insert e.1)) ∅
      = some (dictOf value entries) :=
  List.foldlM_pure

/-! ## Records -/

/-- A record of which the fields of some names have been read. -/
def Fields.slotsOf : (fields : Fields) → fields.Vals → List String → fields.Slots
  | .nil, (), _ => ()
  | .cons name _ rest, (v, vs), seen =>
    (if name ∈ seen then some v else none, rest.slotsOf vs seen)

theorem Fields.slotsOf_nil : ∀ (fields : Fields) (vs : fields.Vals),
    fields.slotsOf vs [] = fields.empty
  | .nil, () => rfl
  | .cons _ _ rest, (v, vs) => by
    rw [slotsOf, empty, slotsOf_nil rest vs, if_neg List.not_mem_nil]

theorem Fields.slotsOf_of_forall_mem : ∀ (fields : Fields) (vs : fields.Vals) {seen : List String},
    (∀ name ∈ fields.names, name ∈ seen) → fields.slotsOf vs seen = fields.filled vs
  | .nil, (), _, _ => rfl
  | .cons name _ rest, (v, vs), _, h => by
    obtain ⟨hname, hrest⟩ := List.forall_mem_cons.mp h
    rw [slotsOf, filled, slotsOf_of_forall_mem rest vs hrest, if_pos hname]

/-- Another key fills no slot. -/
theorem Fields.slotsOf_concat : ∀ (fields : Fields) (vs : fields.Vals) (seen : List String)
    {key : String}, key ∉ fields.names →
    fields.slotsOf vs (seen ++ [key]) = fields.slotsOf vs seen
  | .nil, (), _, _, _ => rfl
  | .cons name _ rest, (v, vs), seen, key, hkey => by
    rw [names, List.mem_cons, not_or] at hkey
    have hname : name ∈ seen ++ [key] ↔ name ∈ seen := by
      rw [List.mem_append, List.mem_singleton, or_iff_left (Ne.symm hkey.1)]
    simp only [slotsOf, slotsOf_concat rest vs seen hkey.2, hname]
    rfl

theorem Fields.offer_of_notMem : ∀ (fields : Fields) (slots : fields.Slots) {key : String}
    (bs : Bytes), key ∉ fields.names → fields.offer key slots bs = none
  | .nil, (), _, _, _ => rfl
  | .cons name _ rest, (slot, slots), key, bs, hkey => by
    rw [names, List.mem_cons, not_or] at hkey
    rw [offer, if_neg hkey.1, offer_of_notMem rest slots bs hkey.2]
    rfl

theorem Fields.memberLayout_of_notMem : ∀ (fields : Fields) (ls : fields.Literals) {key : String}
    {value : Bytes}, key ∉ fields.names → (fields.MemberLayout ls key value ↔ IsJson value)
  | .nil, (), _, _, _ => by rw [MemberLayout]
  | .cons name _ rest, (l, ls), key, value, hkey => by
    rw [names, List.mem_cons, not_or] at hkey
    rw [MemberLayout, if_neg hkey.1, memberLayout_of_notMem rest ls hkey.2]

/-- A number is read as it is when nothing else is there. -/
theorem RealLiteral.read (l : RealLiteral) {rest : Bytes} (hrest : EndsNumber rest) :
    (Shape.read .real (l.text ++ rest)).toOption = some (l.value, rest) := by
  obtain ⟨r, hr⟩ := l.isNumber.takes
  have halone : Shape.read .real l.text = r.map (·, []) := by
    simpa using hr [] (by simp [EndsNumber])
  have hvalue := l.realOf?_text
  rw [realOf?, Shape.decode, halone] at hvalue
  rw [hr rest hrest]
  cases r with
  | error e => cases hvalue
  | ok v =>
    obtain rfl : v = l.value := Option.some.inj hvalue
    rfl

/-- The members of a record, once for each declared field, fill its slots one after the other. -/
theorem Fields.takesAll_of {fields : Fields} {ls : fields.Literals}
    (htake : ∀ key value seen, key ∈ fields.names → key ∉ seen →
      fields.MemberLayout ls key value →
      TakesMember fields.offer key value (fields.slotsOf (fields.values ls) seen)
        (some (fields.slotsOf (fields.values ls) (seen ++ [key]))))
    (ms : List (String × Bytes)) (seen : List String)
    (hms : ∀ m ∈ ms, fields.MemberLayout ls m.1 m.2)
    (hcount : ∀ name ∈ fields.names, (seen ++ ms.map Prod.fst).count name ≤ 1) :
    TakesAll fields.offer ms (fields.slotsOf (fields.values ls) seen)
      (some (fields.slotsOf (fields.values ls) (seen ++ ms.map Prod.fst))) := by
  induction ms generalizing seen with
  | nil =>
    rw [List.map_nil, List.append_nil]
    exact .nil _
  | cons m ms ih =>
    obtain ⟨key, value⟩ := m
    obtain ⟨hm, hms⟩ := List.forall_mem_cons.mp hms
    have hconcat : seen ++ ((key, value) :: ms).map Prod.fst
        = (seen ++ [key]) ++ ms.map Prod.fst := by simp
    rw [hconcat] at hcount ⊢
    refine .cons_some ?_ (ih _ hms hcount)
    by_cases hkey : key ∈ fields.names
    · have hseen : key ∉ seen := by
        intro hmem
        have hone := hcount key hkey
        have hpos := List.count_pos_iff.mpr hmem
        simp only [List.count_append, List.count_singleton_self] at hone
        omega
      exact htake key value seen hkey hseen hm
    · rw [slotsOf_concat fields _ seen hkey]
      exact .declined (fun bs ↦ fields.offer_of_notMem _ bs hkey)
        ((fields.memberLayout_of_notMem ls hkey).mp hm)

mutual
/-- **Layouts are read alike.** A layout of a literal is read up to its end as the value of the
literal. -/
theorem Shape.read_layout : ∀ (shape : Shape) (l : shape.Literal) (bs rest : Bytes),
    shape.Distinct → shape.Layout l bs → EndsNumber rest →
    (shape.read (bs ++ rest)).toOption = some (shape.value l, rest)
  | .text, s, _, rest, _, hbs, _ => congrArg Except.toOption (read_isText hbs rest)
  | .real, l, _, rest, _, hbs, hrest => hbs ▸ l.read hrest
  | .flag, b, _, rest, _, hbs, _ => hbs ▸ congrArg Except.toOption (read_flag b rest)
  | .dict element, entries, _, rest, hdistinct, ⟨order, ms, horder, hms, hbs⟩, _ => by
    have helement : ∀ l bs rest, element.Layout l bs → EndsNumber rest →
        (element.read (bs ++ rest)).toOption = (some (element.value l)).map (·, rest) :=
      fun l bs rest hl hrest ↦ Shape.read_layout element l bs rest hdistinct hl hrest
    have htakes := takesAll_dict helement hms ∅
    rw [foldlM_eq_dictOf, dictOf_rearranged element.value horder] at htakes
    obtain ⟨bs', hbs', hread⟩ := htakes.readObject hbs rest
    rw [hbs', Shape.read, skipBlanks_cons (by decide)]
    exact hread
  | .record name fields, ls, _, rest, hdistinct, ⟨ms, hms, hcount, hbs⟩, _ => by
    have htakes := Fields.takesAll_of (fun key value seen hkey hseen hvalue ↦
      Fields.takesMember_layout fields ls hdistinct key value seen hkey hseen hvalue) ms [] hms
      fun name hname ↦ (hcount name hname).le
    have hmem : ∀ name ∈ fields.names, name ∈ ms.map Prod.fst := fun name hname ↦
      List.count_pos_iff.mp (by rw [hcount name hname]; exact Nat.one_pos)
    rw [fields.slotsOf_nil, List.nil_append, fields.slotsOf_of_forall_mem _ hmem] at htakes
    obtain ⟨bs', hbs', hread⟩ := htakes.readObject hbs rest
    rw [hbs']
    exact @read_record _ _ _ _ (some (fields.values ls)) hread
/-- A declared field that has not been seen yet is taken. -/
theorem Fields.takesMember_layout : ∀ (fields : Fields) (ls : fields.Literals), fields.Distinct →
    ∀ key value seen, key ∈ fields.names → key ∉ seen → fields.MemberLayout ls key value →
    TakesMember fields.offer key value (fields.slotsOf (fields.values ls) seen)
      (some (fields.slotsOf (fields.values ls) (seen ++ [key])))
  | .nil, (), _, _, _, _, hkey, _, _ => absurd hkey List.not_mem_nil
  | .cons name shape rest, (l, ls), ⟨hname, hshape, hrest⟩, key, value, seen, hkey, hseen,
      hvalue => by
    rw [Fields.names, List.mem_cons] at hkey
    rw [Fields.MemberLayout] at hvalue
    rw [Fields.values, Fields.slotsOf, Fields.slotsOf]
    by_cases heq : key = name
    · subst heq
      rw [if_pos rfl] at hvalue
      rw [if_neg hseen, if_pos (by simp), Fields.slotsOf_concat rest _ seen hname]
      exact @TakesMember.self _ _ _ _ _ (some (shape.value l)) fun bs hbs ↦
        Shape.read_layout shape l value bs hshape hvalue hbs
    · rw [if_neg heq] at hvalue
      have hmem : name ∈ seen ++ [key] ↔ name ∈ seen := by
        rw [List.mem_append, List.mem_singleton, or_iff_left (Ne.symm heq)]
      simp only [hmem]
      exact (Fields.takesMember_layout rest ls hrest key value seen (hkey.resolve_left heq) hseen
        hvalue).pass heq _
end

/-! ## The plainest layout -/

theorem Fields.map_fst_plainEntries : ∀ (fields : Fields) (ls : fields.Literals),
    (fields.plainEntries ls).map Prod.fst = fields.names
  | .nil, () => rfl
  | .cons name _ rest, (_, ls) => by
    rw [plainEntries, List.map_cons, map_fst_plainEntries rest ls, names]

theorem Fields.Distinct.nodup : ∀ {fields : Fields}, fields.Distinct → fields.names.Nodup
  | .nil, _ => List.nodup_nil
  | .cons _ _ _, ⟨hname, _, hrest⟩ => List.nodup_cons.mpr ⟨hname, hrest.nodup⟩

theorem Fields.Distinct.count_plainEntries {fields : Fields} (h : fields.Distinct)
    (ls : fields.Literals) :
    ∀ name ∈ fields.names, ((fields.plainEntries ls).map Prod.fst).count name = 1 := by
  rw [fields.map_fst_plainEntries]
  exact fun name hname ↦ List.count_eq_one_of_mem h.nodup hname

/-- The entries of a dictionary that is written alone, in their own order. -/
theorem exists_plainEntries {α : Type} {layout : α → Bytes → Prop} {plain : α → Bytes}
    (h : ∀ l, layout l (plain l)) (entries : List (String × α)) :
    ∃ order ms, Rearranged entries order ∧
      List.Forall₂ (fun e m ↦ m.1 = e.1 ∧ layout e.2 m.2) order ms ∧
      IsObject ms (writeObject (entries.map fun e ↦ writeEntry e.1 (plain e.2))) := by
  refine ⟨entries, entries.map fun e ↦ (e.1, plain e.2), fun _ ↦ rfl, ?_, ?_⟩
  · rw [List.forall₂_map_right_iff, List.forall₂_same]
    exact fun e _ ↦ ⟨rfl, h e.2⟩
  · have hobject := isObject_writeObject (entries.map fun e ↦ (e.1, plain e.2))
    rwa [List.map_map] at hobject

mutual
/-- A literal alone is one of its layouts. -/
theorem Shape.layout_plain : ∀ (shape : Shape) (l : shape.Literal), shape.Distinct →
    shape.Layout l (shape.plain l)
  | .text, s, _ => isText_writeString s
  | .real, _, _ | .flag, _, _ => rfl
  | .dict element, entries, hdistinct =>
    exists_plainEntries (fun l ↦ Shape.layout_plain element l hdistinct) entries
  | .record _ fields, ls, hdistinct =>
    ⟨fields.plainEntries ls, Fields.memberLayout_plainEntries fields ls hdistinct,
      Fields.Distinct.count_plainEntries hdistinct ls, isObject_writeObject _⟩
theorem Fields.memberLayout_plainEntries : ∀ (fields : Fields) (ls : fields.Literals),
    fields.Distinct → ∀ m ∈ fields.plainEntries ls, fields.MemberLayout ls m.1 m.2
  | .nil, (), _, _, hm => absurd hm List.not_mem_nil
  | .cons name shape rest, (l, ls), ⟨hname, hshape, hrest⟩, m, hm => by
    rw [Fields.plainEntries, List.mem_cons] at hm
    rw [Fields.MemberLayout]
    rcases hm with rfl | hm
    · rw [if_pos rfl]
      exact Shape.layout_plain shape l hshape
    · have hne : m.1 ≠ name := by
        rintro rfl
        exact hname (rest.map_fst_plainEntries ls ▸ List.mem_map_of_mem hm)
      rw [if_neg hne]
      exact Fields.memberLayout_plainEntries rest ls hrest m hm
end

/-! ## Whole payloads -/

theorem Shape.payload_plain {shape : Shape} (hdistinct : shape.Distinct) (l : shape.Literal) :
    shape.Payload l (shape.plain l) :=
  ⟨[], _, [], isBlanks_nil, shape.layout_plain l hdistinct, isBlanks_nil, by simp⟩

theorem endsNumber_blanks {ws : Bytes} (hws : IsBlanks ws) : EndsNumber ws := by
  have hnil : EndsNumber [] := by simp [EndsNumber]
  simpa using hnil.blanks_append hws

/-- **Layout does not matter.** Every payload with the literal is read as its value. -/
theorem Shape.decode_payload {shape : Shape} (hdistinct : shape.Distinct) {l : shape.Literal}
    {payload : Bytes} (h : shape.Payload l payload) :
    shape.decode payload = .ok (shape.value l) := by
  obtain ⟨ws, bs, ws', hws, hbs, hws', rfl⟩ := h
  have hread := shape.read_layout l bs ws' hdistinct hbs (endsNumber_blanks hws')
  rw [Shape.decode, Shape.read_blanks hws, toOption_eq_some_iff.mp hread]
  simp only [bind, Except.bind, skipBlanks_eq_nil hws']
  rfl

end HeartbeatMesh.Wire

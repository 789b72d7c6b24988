import HeartbeatMesh.Proofs.Wire.Object
import Mathlib.Data.List.Perm.Basic

/-!
# Values read back as they were written

Reading a written value gives the value with each of its real numbers relayed (`Shape.relay`), or
nothing if one of them is no number: `Shape.read_writing`. Texts, flags, the keys of dictionaries
and the fields of records come back unchanged.

The order of the entries of a dictionary does not matter: the bytes that differ from `Shape.write`
in that order only are the writings of the value (`Shape.Writing`), and all of them are read alike.

A record is written with its fields in their order. So the members behind the first one have other
names than the first field, and pass its slot by (`TakesAll.pass`).
-/

namespace HeartbeatMesh.Wire

/-! ## Values after a transfer -/

/-- One entry of a dictionary after a transfer. -/
def relayEntry {α : Type} (relay : α → Option α) (m : Std.ExtTreeMap String α)
    (e : String × α) : Option (Std.ExtTreeMap String α) :=
  (relay e.2).map (m.insert e.1)

/-- A dictionary after a transfer, unless one of its entries gets lost. -/
def relayDict {α : Type} (relay : α → Option α) (m : Std.ExtTreeMap String α) :
    Option (Std.ExtTreeMap String α) :=
  m.toList.foldlM (relayEntry relay) ∅

mutual
/-- What a reader makes of a value that has been written. -/
def Shape.relay : (shape : Shape) → shape.Val → Option shape.Val
  | .text, s => some s
  | .real, x => relayReal x
  | .flag, b => some b
  | .dict element, m => relayDict element.relay m
  | .record _ fields, vs => fields.relay vs
/-- What a reader makes of the fields of a record. -/
def Fields.relay : (fields : Fields) → fields.Vals → Option fields.Vals
  | .nil, () => some ()
  | .cons _ shape rest, (v, vs) => (shape.relay v).bind fun v ↦ (rest.relay vs).map (v, ·)
end

/-- The names of the fields of a record. -/
def Fields.names : Fields → List String
  | .nil => []
  | .cons name _ rest => name :: rest.names

mutual
/-- No record of the shape declares a field twice. -/
def Shape.Distinct : Shape → Prop
  | .text | .real | .flag => True
  | .dict element => element.Distinct
  | .record _ fields => fields.Distinct
/-- The fields are declared once each, and so are the fields of their shapes. -/
def Fields.Distinct : Fields → Prop
  | .nil => True
  | .cons name shape rest => name ∉ rest.names ∧ shape.Distinct ∧ rest.Distinct
end

/-! ## Writings -/

/-- The entries of a dictionary, in some order, each with a writing of its value. -/
def DictWriting {α : Type} (writing : α → Bytes → Prop) (m : Std.ExtTreeMap String α)
    (entries : List (String × Bytes)) : Prop :=
  ∃ order : List (String × α), order.Perm m.toList ∧
    List.Forall₂ (fun e e' ↦ e'.1 = e.1 ∧ writing e.2 e'.2) order entries

mutual
/-- The bytes are a writing of the value. The entries of a dictionary may stand in any order, and
everything else is as in `Shape.write`. -/
def Shape.Writing : (shape : Shape) → shape.Val → Bytes → Prop
  | .text, s, bs => bs = Shape.write .text s
  | .real, x, bs => bs = Shape.write .real x
  | .flag, b, bs => bs = Shape.write .flag b
  | .dict element, m, bs => ∃ entries, DictWriting element.Writing m entries ∧
      bs = writeObject (entries.map fun e ↦ writeEntry e.1 e.2)
  | .record _ fields, vs, bs => ∃ entries, fields.Writing vs entries ∧
      bs = writeObject (entries.map fun e ↦ writeEntry e.1 e.2)
/-- The fields of a record in the order in which they are declared, each with a writing of its
value. -/
def Fields.Writing : (fields : Fields) → fields.Vals → List (String × Bytes) → Prop
  | .nil, (), entries => entries = []
  | .cons name shape rest, (v, vs), entries => ∃ value others, shape.Writing v value ∧
      rest.Writing vs others ∧ entries = (name, value) :: others
end

section Dictionaries

variable {α : Type} {relay : α → Option α} {l l' : List (String × α)}
  {m m' : Std.ExtTreeMap String α} {key : String} {v v' : α}

theorem nodup_map_fst_toList (m : Std.ExtTreeMap String α) : (m.toList.map Prod.fst).Nodup := by
  rw [Std.ExtTreeMap.map_fst_toList_eq_keys]
  exact Std.ExtTreeMap.nodup_keys

/-- Entries under different keys may be taken in either order. -/
theorem relayEntry_comm (relay : α → Option α) {e e' : String × α} (hkey : e.1 ≠ e'.1)
    (m : Std.ExtTreeMap String α) :
    (relayEntry relay m e).bind (relayEntry relay · e')
      = (relayEntry relay m e').bind (relayEntry relay · e) := by
  have hinsert (v v' : α) :
      (m.insert e.1 v).insert e'.1 v' = (m.insert e'.1 v').insert e.1 v := by
    refine Std.ExtTreeMap.ext_getElem? fun k ↦ ?_
    simp only [Std.ExtTreeMap.getElem?_insert, Std.LawfulEqOrd.compare_eq_iff_eq]
    by_cases hk : e'.1 = k
    · rw [if_pos hk, if_neg fun h ↦ hkey (h.trans hk.symm), if_pos hk]
    · rw [if_neg hk, if_neg hk]
  simp only [relayEntry]
  cases relay e.2 with
  | none => cases relay e'.2 <;> rfl
  | some v =>
    cases relay e'.2 with
    | none => rfl
    | some v' => exact congrArg some (hinsert v v')

/-- The order of the entries does not matter. -/
theorem foldlM_relayEntry_perm (h : l.Perm l') (hnodup : (l.map Prod.fst).Nodup) :
    l.foldlM (relayEntry relay) m = l'.foldlM (relayEntry relay) m := by
  induction h generalizing m with
  | nil => rfl
  | cons e _ ih =>
    rw [List.foldlM_cons, List.foldlM_cons]
    exact congrArg _ (funext fun _ ↦ ih (List.nodup_cons.mp hnodup).2)
  | swap e e' l =>
    have hkey : e.1 ≠ e'.1 := by
      rw [List.map_cons, List.map_cons, List.nodup_cons, List.mem_cons, not_or] at hnodup
      exact Ne.symm hnodup.1.1
    have hswap := congrArg (·.bind fun m ↦ l.foldlM (relayEntry relay) m)
      (relayEntry_comm relay hkey m)
    simp only [Option.bind_assoc] at hswap
    simp only [List.foldlM_cons]
    exact hswap.symm
  | trans hl _ ih ih' => exact (ih hnodup).trans (ih' ((hl.map Prod.fst).nodup_iff.mp hnodup))

theorem foldlM_relayEntry_of (h : l.foldlM (relayEntry relay) m = some m')
    (hv' : m'[key]? = some v') :
    m[key]? = some v' ∨ ∃ v, (key, v) ∈ l ∧ relay v = some v' := by
  induction l generalizing m with
  | nil =>
    obtain rfl : m = m' := by simpa using h
    exact .inl hv'
  | cons entry l ih =>
    obtain ⟨key₀, v₀⟩ := entry
    rw [List.foldlM_cons] at h
    obtain ⟨m₁, hm₁, h⟩ := Option.bind_eq_some_iff.mp h
    obtain ⟨w, hw, rfl⟩ := Option.map_eq_some_iff.mp hm₁
    rcases ih h with h' | ⟨v, hv, hrelay⟩
    · rw [Std.ExtTreeMap.getElem?_insert] at h'
      split_ifs at h' with heq
      · obtain rfl := Std.LawfulEqCmp.eq_of_compare heq
        obtain rfl := Option.some.inj h'
        exact .inr ⟨v₀, List.mem_cons_self, hw⟩
      · exact .inl h'
    · exact .inr ⟨v, List.mem_cons_of_mem _ hv, hrelay⟩

theorem of_foldlM_relayEntry (h : l.foldlM (relayEntry relay) m = some m') :
    (key ∉ l.map Prod.fst → m'[key]? = m[key]?) ∧
      ((l.map Prod.fst).Nodup → (key, v) ∈ l → ∃ v', relay v = some v' ∧ m'[key]? = some v') := by
  induction l generalizing m with
  | nil =>
    obtain rfl : m = m' := by simpa using h
    exact ⟨fun _ ↦ rfl, fun _ hv ↦ absurd hv List.not_mem_nil⟩
  | cons entry l ih =>
    obtain ⟨key₀, v₀⟩ := entry
    rw [List.foldlM_cons] at h
    obtain ⟨m₁, hm₁, h⟩ := Option.bind_eq_some_iff.mp h
    obtain ⟨w, hw, rfl⟩ := Option.map_eq_some_iff.mp hm₁
    obtain ⟨hother, hmem⟩ := ih h
    -- The first entry stays, since none of the others has its key.
    refine ⟨fun hkey ↦ ?_, fun hnodup hv ↦ ?_⟩
    · rw [List.map_cons, List.mem_cons, not_or] at hkey
      rw [hother hkey.2, Std.ExtTreeMap.getElem?_insert, if_neg]
      exact fun heq ↦ hkey.1 (Std.LawfulEqCmp.eq_of_compare heq).symm
    · rw [List.map_cons, List.nodup_cons] at hnodup
      rcases List.mem_cons.mp hv with heq | hv
      · obtain ⟨rfl, rfl⟩ := Prod.mk.inj heq
        refine ⟨w, hw, ?_⟩
        rw [hother hnodup.1, Std.ExtTreeMap.getElem?_insert_self]
      · exact hmem hnodup.2 hv

/-- Each entry after a transfer was one before it. -/
theorem of_relayDict (h : relayDict relay m = some m') (hv' : m'[key]? = some v') :
    ∃ v, m[key]? = some v ∧ relay v = some v' := by
  rcases foldlM_relayEntry_of h hv' with h' | ⟨v, hv, hrelay⟩
  · rw [Std.ExtTreeMap.getElem?_empty] at h'
    cases h'
  · exact ⟨v, Std.ExtTreeMap.mem_toList_iff_getElem?_eq_some.mp hv, hrelay⟩

theorem exists_foldlM_relayEntry (h : ∀ e ∈ l, ∃ v, relay e.2 = some v)
    (m : Std.ExtTreeMap String α) : ∃ m', l.foldlM (relayEntry relay) m = some m' := by
  induction l generalizing m with
  | nil => exact ⟨m, rfl⟩
  | cons e l ih =>
    obtain ⟨he, hl⟩ := List.forall_mem_cons.mp h
    obtain ⟨v, hv⟩ := he
    obtain ⟨m', hm'⟩ := ih hl (m.insert e.1 v)
    refine ⟨m', ?_⟩
    rw [List.foldlM_cons, relayEntry, hv]
    exact hm'

/-- Each entry before a transfer is one after it. -/
theorem relayDict_of (h : relayDict relay m = some m') (hv : m[key]? = some v) :
    ∃ v', relay v = some v' ∧ m'[key]? = some v' := by
  exact (of_foldlM_relayEntry h).2 (nodup_map_fst_toList m)
    (Std.ExtTreeMap.mem_toList_iff_getElem?_eq_some.mpr hv)

/-- A dictionary arrives as it is if each of its values does. -/
theorem relayDict_eq_self (h : ∀ (k : String) (v : α), m[k]? = some v → relay v = some v) :
    relayDict relay m = some m := by
  have hentry : ∀ e ∈ m.toList, ∃ v, relay e.2 = some v := fun e he ↦
    ⟨e.2, h e.1 e.2 (Std.ExtTreeMap.mem_toList_iff_getElem?_eq_some.mp he)⟩
  obtain ⟨m', hm'⟩ := exists_foldlM_relayEntry hentry ∅
  have heq : m' = m := by
    refine Std.ExtTreeMap.ext_getElem? fun k ↦ Option.ext fun v ↦ ⟨fun hv ↦ ?_, fun hv ↦ ?_⟩
    · obtain ⟨v₀, hv₀, hrelay⟩ := of_relayDict hm' hv
      rwa [← Option.some.inj ((h k v₀ hv₀).symm.trans hrelay)]
    · obtain ⟨v', hrelay, hv'⟩ := relayDict_of hm' hv
      rwa [Option.some.inj ((h k v hv).symm.trans hrelay)]
  exact heq ▸ hm'

/-- A dictionary gets lost if one of its values does. -/
theorem relayDict_eq_none (hv : m[key]? = some v) (h : relay v = none) :
    relayDict relay m = none := by
  rw [Option.eq_none_iff_forall_ne_some]
  intro m' hm'
  obtain ⟨v', hv', -⟩ := relayDict_of hm' hv
  rw [h] at hv'
  cases hv'

end Dictionaries

/-! ## Dictionaries and records -/

/-- Reading a writing of a dictionary relays its values, in whatever order they stand. -/
theorem readDict_writing {element : Shape} {writing : element.Val → Bytes → Prop}
    {relay : element.Val → Option element.Val}
    (h : ∀ v value rest, writing v value → EndsNumber rest →
      (element.read (value ++ rest)).toOption = (relay v).map (·, rest))
    {m : Std.ExtTreeMap String element.Val} {entries : List (String × Bytes)}
    (hm : DictWriting writing m entries) (rest : Bytes) :
    ∃ bs, writeObject (entries.map fun e ↦ writeEntry e.1 e.2) ++ rest = 0x7B :: bs ∧
      (readDict element.read bs).toOption = (relayDict relay m).map (·, rest) := by
  obtain ⟨order, hperm, hentries⟩ := hm
  obtain ⟨bs, hbs, hread⟩ :=
    (takesAll_dict h hentries ∅).readObject (isObject_writeObject entries) rest
  have hnodup : (order.map Prod.fst).Nodup :=
    (hperm.map Prod.fst).nodup_iff.mpr (nodup_map_fst_toList m)
  refine ⟨bs, hbs, hread.trans ?_⟩
  rw [relayDict, ← foldlM_relayEntry_perm hperm hnodup]
  rfl

/-- The entries of a record as it is written. -/
def Fields.entries : (fields : Fields) → fields.Vals → List (String × Bytes)
  | .nil, () => []
  | .cons name shape rest, (v, vs) => (name, shape.write v) :: rest.entries vs

theorem Fields.writeEntries_eq : ∀ (fields : Fields) (vs : fields.Vals),
    fields.writeEntries vs = (fields.entries vs).map fun e ↦ writeEntry e.1 e.2
  | .nil, () => rfl
  | .cons _ _ rest, (v, vs) => by
    rw [Fields.writeEntries, Fields.entries, List.map_cons, Fields.writeEntries_eq rest vs]

theorem Fields.Writing.map_fst : ∀ {fields : Fields} {vs : fields.Vals}
    {entries : List (String × Bytes)}, fields.Writing vs entries →
    entries.map Prod.fst = fields.names
  | .nil, (), _, h => by
    rw [h]
    rfl
  | .cons _ _ rest, (v, vs), _, ⟨value, others, _, hothers, h⟩ => by
    rw [h, List.map_cons, Fields.Writing.map_fst hothers, Fields.names]

/-- Members of other names pass a field by. -/
theorem TakesAll.pass {name : String} {shape : Shape} {rest : Fields} {slots : rest.Slots}
    {entries : List (String × Bytes)} {outcome : Option rest.Slots}
    (h : TakesAll rest.offer entries slots outcome) (hname : name ∉ entries.map Prod.fst)
    (slot : Option shape.Val) :
    TakesAll (Fields.cons name shape rest).offer entries (slot, slots)
      (outcome.map (slot, ·)) := by
  induction h with
  | nil slots => exact .nil _
  | @cons key value entries slots next _ f hout htake _ ih =>
    rw [List.map_cons, List.mem_cons, not_or] at hname
    -- The slot of the field goes through all steps as it is.
    have hpass : Option.map (slot, ·) (next.bind f)
        = (next.map (slot, ·)).bind fun s ↦ (f s.2).map (slot, ·) := by
      cases next <;> rfl
    refine .cons ((congrArg _ hout).trans hpass) (htake.pass (Ne.symm hname.1) slot)
      fun s' hs' ↦ ?_
    obtain ⟨slots', hslots', rfl⟩ := Option.map_eq_some_iff.mp hs'
    exact ih slots' hslots' hname.2

mutual
/-- **Reading after writing.** A writing of a value is read up to its end, and what comes out is the
value with its real numbers relayed. -/
theorem Shape.read_writing : ∀ (shape : Shape) (v : shape.Val) (bs rest : Bytes), shape.Distinct →
    shape.Writing v bs → EndsNumber rest →
    (shape.read (bs ++ rest)).toOption = (shape.relay v).map (·, rest)
  | .text, s, _, rest, _, hbs, _ =>
    hbs ▸ congrArg Except.toOption (read_isText (isText_writeString s) rest)
  | .real, x, _, _, _, hbs, hrest => hbs ▸ read_writeReal x hrest
  | .flag, b, _, rest, _, hbs, _ => hbs ▸ congrArg Except.toOption (read_flag b rest)
  | .dict element, m, _, rest, hdistinct, ⟨entries, hentries, hbs⟩, _ => by
    obtain ⟨bs', hbs', hread⟩ := readDict_writing
      (fun v value rest hvalue hrest ↦
        Shape.read_writing element v value rest hdistinct hvalue hrest) hentries rest
    rw [hbs, hbs', Shape.read, skipBlanks_cons (by decide)]
    exact hread
  | .record name fields, vs, _, rest, hdistinct, ⟨entries, hentries, hbs⟩, _ => by
    obtain ⟨bs', hbs', hread⟩ := (Fields.takesAll fields vs entries hdistinct hentries).readObject
      (isObject_writeObject entries) rest
    rw [hbs, hbs']
    exact read_record hread
/-- The fields of a record are taken in their order. -/
theorem Fields.takesAll : ∀ (fields : Fields) (vs : fields.Vals) (entries : List (String × Bytes)),
    fields.Distinct → fields.Writing vs entries →
    TakesAll fields.offer entries fields.empty ((fields.relay vs).map fields.filled)
  | .nil, (), _, _, hentries => hentries ▸ .nil ()
  | .cons name shape rest, (v, vs), _, ⟨hname, hshape, hrest⟩,
      ⟨value, others, hvalue, hothers, hentries⟩ => by
    rw [← hothers.map_fst] at hname
    rw [hentries]
    have htake : TakesMember (Fields.cons name shape rest).offer name value (none, rest.empty) _ :=
      .self fun bs hbs ↦ Shape.read_writing shape v value bs hshape hvalue hbs
    refine .cons (f := fun s ↦ ((rest.relay vs).map rest.filled).map (s.1, ·)) ?_ htake
      fun s' hs' ↦ ?_
    · change Option.map _ ((shape.relay v).bind fun v ↦ (rest.relay vs).map (v, ·)) = _
      cases shape.relay v with
      | none => rfl
      | some v => cases rest.relay vs <;> rfl
    · obtain ⟨v', _, rfl⟩ := Option.map_eq_some_iff.mp hs'
      exact (Fields.takesAll rest vs others hrest hothers).pass hname (some v')
end

mutual
/-- What is written is a writing. -/
theorem Shape.writing_write : ∀ (shape : Shape) (v : shape.Val), shape.Writing v (shape.write v)
  | .text, _ | .real, _ | .flag, _ => rfl
  | .dict element, m => by
    refine ⟨m.toList.map fun e ↦ (e.1, element.write e.2), ⟨m.toList, .refl _, ?_⟩, ?_⟩
    · rw [List.forall₂_map_right_iff, List.forall₂_same]
      exact fun e _ ↦ ⟨rfl, Shape.writing_write element e.2⟩
    · rw [List.map_map]
      rfl
  | .record _ fields, vs =>
    ⟨fields.entries vs, Fields.writing_entries fields vs,
      congrArg writeObject (fields.writeEntries_eq vs)⟩
theorem Fields.writing_entries : ∀ (fields : Fields) (vs : fields.Vals),
    fields.Writing vs (fields.entries vs)
  | .nil, () => rfl
  | .cons _ shape rest, (v, vs) =>
    ⟨shape.write v, rest.entries vs, Shape.writing_write shape v, Fields.writing_entries rest vs,
      rfl⟩
end

/-- A payload is relayed as a whole, whichever writing of its value it is. -/
theorem Shape.decode_writing {shape : Shape} (hdistinct : shape.Distinct) {v : shape.Val}
    {payload : Bytes} (hpayload : shape.Writing v payload) :
    (shape.decode payload).toOption = shape.relay v := by
  have hread := shape.read_writing v payload [] hdistinct hpayload (by simp [EndsNumber])
  rw [List.append_nil] at hread
  rw [Shape.decode]
  cases h : shape.read payload with
  | error e =>
    rw [h] at hread
    have hnone : shape.relay v = none := by simpa [Except.toOption] using hread.symm
    rw [hnone]
    rfl
  | ok r =>
    rw [h] at hread
    obtain ⟨w, hw, rfl⟩ := Option.map_eq_some_iff.mp hread.symm
    rw [hw]
    rfl

end HeartbeatMesh.Wire

import Std.Data.ExtTreeMap
import HeartbeatMesh.Wire.Skip

/-!
# Shapes of payloads

A payload is a JSON value of a known shape, and the shape decides how it is read: which fields a
record declares, in which order, and what each of them holds. Shapes are data, so one reader and
one printer serve all of them, and the type of what is read (`Shape.Val`) is computed from the
shape.

* A record is read from an object, in which undeclared fields are skipped, or from a list of its
  fields in their order. It is written as an object.
* A dictionary is read from an object only; of equal keys the last one stays.
-/

namespace HeartbeatMesh.Wire

/-! ## Shapes and their values -/

mutual
/-- The shape of a JSON value. -/
inductive Shape where
  | text
  | real
  | flag
  | dict (element : Shape)
  | record (name : String) (fields : Fields)
/-- The declared fields of a record, in order. -/
inductive Fields where
  | nil
  | cons (name : String) (shape : Shape) (rest : Fields)
end

mutual
/-- The values of a shape. -/
def Shape.Val : Shape → Type
  | .text => String
  | .real => Float
  | .flag => Bool
  | .dict element => Std.ExtTreeMap String element.Val
  | .record _ fields => fields.Vals
/-- One value for each field. -/
def Fields.Vals : Fields → Type
  | .nil => Unit
  | .cons _ shape rest => shape.Val × rest.Vals
end

/-- A record while it is read: the fields that have been found so far. -/
def Fields.Slots : Fields → Type
  | .nil => Unit
  | .cons _ shape rest => Option shape.Val × rest.Slots

/-- A record of which nothing has been read. -/
def Fields.empty : (fields : Fields) → fields.Slots
  | .nil => ()
  | .cons _ _ rest => (none, rest.empty)

/-- The number of fields. -/
def Fields.length : Fields → Nat
  | .nil => 0
  | .cons _ _ rest => rest.length + 1

/-- How a shape is named when something else stands in its place. -/
def Shape.wanted : Shape → String
  | .text => "a string"
  | .real => "f64"
  | .flag => "a boolean"
  | .dict _ => "a map"
  | .record name _ => "struct " ++ name

/-! ## Reading -/

/-- What stands at the front of the bytes, of which `b` is the first: a string, a number or a word
is read to its end, of a list or an object the bracket is enough. -/
def readFound (b : UInt8) (rest : Bytes) : Except ReadError Found :=
  if b = 0x6E then do
    let _ ← readWord (Text.utf8 "ull") rest
    return .null
  else if b = 0x74 then do
    let _ ← readWord (Text.utf8 "rue") rest
    return .flag true
  else if b = 0x66 then do
    let _ ← readWord (Text.utf8 "alse") rest
    return .flag false
  else if b = 0x22 then do
    let (s, _) ← readString rest
    return .text s
  else if b = 0x2D ∨ isDigit b then do
    let (n, _) ← readNumber (b :: rest)
    return n.found
  else if b = 0x5B then return .sequence
  else if b = 0x7B then return .map
  else .error .malformed

/-- The error for a value that is not of the shape. -/
def wrongType {α : Type} (shape : Shape) (b : UInt8) (rest : Bytes) : Except ReadError α := do
  let found ← readFound b rest
  .error (.mismatch (.wrongType found shape.wanted))

/-- Reads the entries of an object after its opening brace. Each key is offered together with the
bytes that follow it: `offer` reads its value, or declines it and the value is skipped. An entry
takes at least one byte, so the number of bytes bounds the number of steps. -/
def readEntries {σ : Type} (offer : String → σ → Bytes → Option (Except ReadError (σ × Bytes))) :
    Nat → Bool → σ → Reader σ
  | 0, _, _, _ => .error .truncated
  | fuel + 1, isFirst, s, bs =>
    match skipBlanks bs with
    | [] => .error .truncated
    | b :: rest =>
      if b = 0x7D then .ok (s, rest)
      else if isFirst = false ∧ b ≠ 0x2C then .error .malformed
      else do
        let (key, rest) ← readMark 0x22 (if isFirst then b :: rest else rest) >>= readString
        match offer key s rest with
        | some taken => do
          let (s, rest) ← taken
          readEntries offer fuel false s rest
        | none => do
          let rest ← readMark 0x3A rest >>= skipValue
          readEntries offer fuel false s rest

/-- Reads all entries of an object after its opening brace. -/
def readObject {σ : Type} (offer : String → σ → Bytes → Option (Except ReadError (σ × Bytes)))
    (s : σ) : Reader σ := fun bs =>
  readEntries offer (bs.length + 1) true s bs

/-- Reads the entries of a dictionary after its opening brace. -/
def readDict {α : Type} (readValue : Reader α) : Reader (Std.ExtTreeMap String α) :=
  readObject (fun key m bs => some do
    let bs ← readMark 0x3A bs
    let (v, bs) ← readValue bs
    return (m.insert key v, bs)) ∅

/-- The values of a record that has been read, or its first missing field. -/
def Fields.complete : (fields : Fields) → fields.Slots → Except ReadError fields.Vals
  | .nil, () => .ok ()
  | .cons name _ rest, (slot, slots) =>
    match slot with
    | none => .error (.mismatch (.missingField name))
    | some v => do return (v, ← rest.complete slots)

mutual
/-- Reads a value of the shape. -/
def Shape.read : (shape : Shape) → Reader shape.Val
  | .text, bs =>
    match skipBlanks bs with
    | [] => .error .truncated
    | b :: rest => if b = 0x22 then readString rest else wrongType .text b rest
  | .real, bs =>
    match skipBlanks bs with
    | [] => .error .truncated
    | b :: rest =>
      if b = 0x2D ∨ isDigit b then do
        let (n, rest) ← readNumber (b :: rest)
        return (n.toReal, rest)
      else wrongType .real b rest
  | .flag, bs =>
    match skipBlanks bs with
    | [] => .error .truncated
    | b :: rest =>
      if b = 0x74 then do return (true, ← readWord (Text.utf8 "rue") rest)
      else if b = 0x66 then do return (false, ← readWord (Text.utf8 "alse") rest)
      else wrongType .flag b rest
  | .dict element, bs =>
    match skipBlanks bs with
    | [] => .error .truncated
    | b :: rest =>
      if b = 0x7B then readDict element.read rest else wrongType (.dict element) b rest
  | .record name fields, bs =>
    match skipBlanks bs with
    | [] => .error .truncated
    | b :: rest =>
      if b = 0x7B then do
        let (slots, rest) ← readObject fields.offer fields.empty rest
        return (← fields.complete slots, rest)
      else if b = 0x5B then do
        let (vs, rest) ← fields.readItems name fields.length 0 rest
        return (vs, ← readMark 0x5D rest)
      else wrongType (.record name fields) b rest
/-- Takes a key and the bytes after it, if it is one of the fields. -/
def Fields.offer : (fields : Fields) → String → fields.Slots → Bytes →
    Option (Except ReadError (fields.Slots × Bytes))
  | .nil, _, _, _ => none
  | .cons name shape rest, key, (slot, slots), bs =>
    if key = name then some (
      if slot.isSome then .error (.mismatch (.duplicateField name))
      else do
        let bs ← readMark 0x3A bs
        let (v, bs) ← shape.read bs
        return ((some v, slots), bs))
    else
      (rest.offer key slots bs).map fun taken => do
        let (slots, bs) ← taken
        return ((slot, slots), bs)
/-- Reads the fields of a record of `total` fields from a list, of which `index` have been read. -/
def Fields.readItems : (fields : Fields) → String → Nat → Nat → Reader fields.Vals
  | .nil, _, _, _, bs => .ok ((), bs)
  | .cons _ shape rest, name, total, index, bs =>
    match skipBlanks bs with
    | [] => .error .truncated
    | b :: bs =>
      if b = 0x5D then .error (.mismatch (.tooShort index name total))
      else if index ≠ 0 ∧ b ≠ 0x2C then .error .malformed
      else do
        let (v, bs) ← shape.read (if index = 0 then b :: bs else bs)
        let (vs, bs) ← rest.readItems name total (index + 1) bs
        return ((v, vs), bs)
end

/-- Reads a whole payload: one value of the shape and blanks. -/
def Shape.decode (shape : Shape) (payload : Bytes) : Except ReadError shape.Val := do
  let (v, rest) ← shape.read payload
  if (skipBlanks rest).isEmpty then return v else .error .malformed

/-! ## Writing -/

/-- An entry of an object. -/
def writeEntry (key : String) (value : Bytes) : Bytes := writeString key ++ 0x3A :: value

/-- An object without blanks. -/
def writeObject (entries : List Bytes) : Bytes :=
  0x7B :: List.intercalate [0x2C] entries ++ [0x7D]

/-- A dictionary in the order of its keys. -/
def writeDict {α : Type} (writeValue : α → Bytes) (m : Std.ExtTreeMap String α) : Bytes :=
  writeObject (m.toList.map fun (key, v) => writeEntry key (writeValue v))

mutual
/-- Writes a value of the shape, without blanks. -/
def Shape.write : (shape : Shape) → shape.Val → Bytes
  | .text, s => writeString s
  | .real, x => writeReal x
  | .flag, b => Text.utf8 (cond b "true" "false")
  | .dict element, m => writeDict element.write m
  | .record _ fields, vs => writeObject (fields.writeEntries vs)
/-- Writes the fields of a record. -/
def Fields.writeEntries : (fields : Fields) → fields.Vals → List Bytes
  | .nil, () => []
  | .cons name shape rest, (v, vs) =>
    writeEntry name (shape.write v) :: rest.writeEntries vs
end

end HeartbeatMesh.Wire

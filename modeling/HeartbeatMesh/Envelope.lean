import HeartbeatMesh.Text.Utf8

/-!
# Envelopes

A unit on the bus is a sender id, a type tag and a payload, separated by single spaces. The payload
is the rest of the unit, whatever it holds; the two fields before it hold no space.

`Envelope.parse` reads a unit and `Envelope.toBytes` writes one. What is wrong with a unit that is
no envelope is a `Defect`.
-/

namespace HeartbeatMesh

/-- A unit of the bus, taken apart. -/
structure Envelope where
  sender : String
  tag : String
  payload : Bytes
  deriving Repr, DecidableEq

namespace Envelope

/-! ## Writing -/

/-- The separator of the fields. -/
abbrev space : UInt8 := 0x20

/-- The unit of an envelope. -/
def toBytes (e : Envelope) : Bytes :=
  Text.utf8 e.sender ++ space :: (Text.utf8 e.tag ++ space :: e.payload)

/-! ## Reading -/

/-- Why a unit is no envelope. -/
inductive Defect where
  /-- The unit, of `length` bytes, holds fewer than two spaces. -/
  | tooFewFields (length : Nat)
  | senderNotUtf8
  | tagNotUtf8
  | emptyField
  deriving Repr, DecidableEq

def Defect.message : Defect → String
  | .tooFewFields length => s!"expected 3 space separated fields in {length} bytes"
  | .senderNotUtf8 => "sender id is not valid UTF-8"
  | .tagNotUtf8 => "type tag is not valid UTF-8"
  | .emptyField => "empty sender id or type tag"

/-- The bytes before the first space and those after it. -/
def cut? : Bytes → Option (Bytes × Bytes)
  | [] => none
  | b :: bs =>
    if b = space then some ([], bs)
    else (cut? bs).map fun (field, rest) => (b :: field, rest)

/-- Takes a unit apart. -/
def parse (raw : Bytes) : Except Defect Envelope :=
  match (cut? raw).bind fun (sender, rest) => (cut? rest).map (sender, ·) with
  | none => .error (.tooFewFields raw.length)
  | some (sender, tag, payload) =>
    match Text.ofUtf8? sender, Text.ofUtf8? tag with
    | none, _ => .error .senderNotUtf8
    | some _, none => .error .tagNotUtf8
    | some sender, some tag =>
      if sender = "" ∨ tag = "" then .error .emptyField else .ok ⟨sender, tag, payload⟩

end Envelope

end HeartbeatMesh

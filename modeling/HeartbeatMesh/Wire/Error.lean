import HeartbeatMesh.Text.Quoted
import HeartbeatMesh.Text.Utf8

/-!
# Why a payload cannot be read

A payload is read from left to right and the first problem decides. There are three kinds: the text
breaks off, the text is no JSON, or the text is JSON of the wrong shape. Only the last kind has
something to say, and says it in the words of `Mismatch.message`.
-/

namespace HeartbeatMesh.Wire

/-- A value as it is named when it stands in the wrong place. The text of a real number is the one
that the wire has for it. -/
inductive Found where
  | integer (n : Int)
  | real (digits : String)
  | flag (b : Bool)
  | text (s : String)
  | null
  | sequence
  | map
  deriving Repr, DecidableEq

/-- How a value is named in a message. -/
def Found.describe : Found → String
  | .integer n => s!"integer `{n}`"
  | .real digits => s!"floating point `{digits}`"
  | .flag b => s!"boolean `{b}`"
  | .text s => "string " ++ Text.quoted s
  | .null => "null"
  | .sequence => "sequence"
  | .map => "map"

/-- JSON that does not have the shape asked for. -/
inductive Mismatch where
  /-- A value of another type than the wanted one. -/
  | wrongType (found : Found) (wanted : String)
  /-- A declared field occurs again. -/
  | duplicateField (name : String)
  /-- A declared field does not occur. -/
  | missingField (name : String)
  /-- A record written as a list ends before its last field. -/
  | tooShort (length : Nat) (record : String) (fields : Nat)
  deriving Repr, DecidableEq

def Mismatch.message : Mismatch → String
  | .wrongType found wanted => s!"invalid type: {found.describe}, expected {wanted}"
  | .duplicateField name => s!"duplicate field `{name}`"
  | .missingField name => s!"missing field `{name}`"
  | .tooShort length record 1 =>
    s!"invalid length {length}, expected struct {record} with 1 element"
  | .tooShort length record fields =>
    s!"invalid length {length}, expected struct {record} with {fields} elements"

/-- The first problem of a payload. -/
inductive ReadError where
  | truncated
  | malformed
  | mismatch (m : Mismatch)
  deriving Repr, DecidableEq

/-- A reader takes a value off the front of the bytes and leaves the rest. -/
abbrev Reader (α : Type) := Bytes → Except ReadError (α × Bytes)

end HeartbeatMesh.Wire

import HeartbeatMesh.Wire.Lexeme

/-!
# Values that nobody asked for

A field that its record does not declare is read past. Its value must be JSON, nested as deeply as
it likes, but numbers may have any size and strings any bytes.
-/

namespace HeartbeatMesh.Wire

/-- A bracket that has been opened. -/
inductive Bracket where
  | list
  | object
  deriving Repr, DecidableEq

/-- The byte that closes a bracket. -/
def Bracket.close : Bracket → UInt8
  | .list => 0x5D
  | .object => 0x7D

/-- Reads past digits, of which there must be one. -/
def skipDigits (bs : Bytes) : Except ReadError Bytes :=
  if (bs.head?.map isDigit).getD false then .ok (bs.dropWhile isDigit) else .error .malformed

/-- Reads past an exponent, if there is one. -/
def skipExponent : Bytes → Except ReadError Bytes
  | [] => .ok []
  | b :: rest =>
    if b = 0x65 ∨ b = 0x45 then
      match rest with
      | s :: rest' => if s = 0x2B ∨ s = 0x2D then skipDigits rest' else skipDigits rest
      | [] => .error .malformed
    else .ok (b :: rest)

/-- Reads past a number without its sign. A number that breaks off is malformed here, not
truncated. -/
def skipNumber (bs : Bytes) : Except ReadError Bytes := do
  let rest ← match bs with
    | 0x30 :: rest =>
      if (rest.head?.map isDigit).getD false then .error .malformed else .ok rest
    | bs => skipDigits bs
  match rest with
  | 0x2E :: rest => skipDigits rest >>= skipExponent
  | rest => skipExponent rest

/-- Reads past a value that opens no bracket, of which `b` is the first byte. -/
def skipScalar (b : UInt8) (rest : Bytes) : Except ReadError Bytes :=
  if b = 0x6E then readWord (Text.utf8 "ull") rest
  else if b = 0x74 then readWord (Text.utf8 "rue") rest
  else if b = 0x66 then readWord (Text.utf8 "alse") rest
  else if b = 0x22 then skipString rest
  else if b = 0x2D then skipNumber rest
  else if isDigit b then skipNumber (b :: rest)
  else .error .malformed

/-- Reads past a key and its colon. -/
def skipKey (bs : Bytes) : Except ReadError Bytes :=
  readMark 0x22 bs >>= skipString >>= readMark 0x3A

/-- Where a value may stand next: an element of the innermost bracket is due. -/
def skipToElement : Bracket → Bytes → Except ReadError Bytes
  | .list, bs => .ok bs
  | .object, bs => skipKey bs

/-- What is due next while reading past a value. -/
inductive Due where
  /-- A value. -/
  | value
  /-- The first element of the innermost bracket, or its end. -/
  | first
  /-- A comma and a further element, or the end of the innermost bracket. -/
  | next
  deriving Repr, DecidableEq

/-- Reads on until the value that the outermost bracket belongs to has ended. Each step takes a byte
away or puts a value in place of a first element, so two steps for each byte are enough. -/
def skipFrom : Nat → Due → List Bracket → Bytes → Except ReadError Bytes
  | 0, _, _, _ => .error .truncated
  | fuel + 1, .value, open_, bs =>
    match skipBlanks bs with
    | [] => .error .truncated
    | b :: rest =>
      if b = 0x5B then skipFrom fuel .first (.list :: open_) rest
      else if b = 0x7B then skipFrom fuel .first (.object :: open_) rest
      else skipScalar b rest >>= skipFrom fuel .next open_
  | _ + 1, _, [], bs => .ok bs
  | fuel + 1, .first, top :: open_, bs =>
    match skipBlanks bs with
    | [] => .error .truncated
    | b :: rest =>
      if b = top.close then skipFrom fuel .next open_ rest
      else skipToElement top (b :: rest) >>= skipFrom fuel .value (top :: open_)
  | fuel + 1, .next, top :: open_, bs =>
    match skipBlanks bs with
    | [] => .error .truncated
    | b :: rest =>
      if b = top.close then skipFrom fuel .next open_ rest
      else if b = 0x2C then skipToElement top rest >>= skipFrom fuel .value (top :: open_)
      else .error .malformed

/-- Reads past one value. -/
def skipValue (bs : Bytes) : Except ReadError Bytes := skipFrom (2 * bs.length + 2) .value [] bs

end HeartbeatMesh.Wire

/-!
# Reading position in a document

A document is read character by character. The cursor knows where it stands, since YAML cares about
columns, and treats every kind of line break alike: carriage return, line feed, both together, and
the separators U+0085, U+2028 and U+2029.
-/

namespace HeartbeatMesh.Yaml

/-! ## Characters -/

/-- The characters that end a line. -/
def isBreak (c : Char) : Bool :=
  c = '\n' || c = '\r' || c = '\x85' || c = '\u2028' || c = '\u2029'

/-- Spaces and tabs. -/
def isBlank (c : Char) : Bool := c = ' ' || c = '\t'

/-- Blanks and line breaks. -/
def isGap (c : Char) : Bool := isBlank c || isBreak c

/-- The characters of names: anchors, directives and tag handles. -/
def isNameChar (c : Char) : Bool := c.isAlphanum || c = '_' || c = '-'

/-- The characters that a document may hold. -/
def isAllowed (c : Char) : Bool :=
  c = '\t' || c = '\n' || c = '\r' || (' ' ≤ c && c ≤ '~') || c = '\x85' ||
  (0xA0 ≤ c.toNat && c.toNat ≤ 0xFFFD) || 0x10000 ≤ c.toNat

/-- The value of a hexadecimal digit. -/
def hexValue? (c : Char) : Option Nat :=
  if c.isDigit then some (c.toNat - '0'.toNat)
  else if 'a' ≤ c ∧ c ≤ 'f' then some (c.toNat - 'a'.toNat + 10)
  else if 'A' ≤ c ∧ c ≤ 'F' then some (c.toNat - 'A'.toNat + 10)
  else none

/-! ## The cursor -/

/-- The number of bytes that characters take. -/
def byteCount (cs : List Char) : Nat := cs.foldl (· + ·.utf8Size) 0

/-- A position in a document, with what is still to be read. -/
structure Cursor where
  rest : List Char
  /-- The number of bytes before it. Lines and columns are counted in characters. -/
  index : Nat := 0
  line : Nat := 0
  column : Nat := 0
  deriving Repr

/-- What is wrong with a document. The place is known as long as characters are read. -/
structure Error where
  problem : String
  place : Option (Nat × Nat) := none
  deriving Repr, DecidableEq

def Error.message (e : Error) : String :=
  match e.place with
  | some (line, column) => s!"{e.problem} at line {line + 1} column {column + 1}"
  | none => e.problem

namespace Cursor

/-- An error at the cursor. -/
def fail {α : Type} (c : Cursor) (problem : String) : Except Error α :=
  .error ⟨problem, some (c.line, c.column)⟩

/-- Whether the character `k` places ahead passes the test. There is none after the end. -/
def ahead (c : Cursor) (k : Nat) (test : Char → Bool) : Bool := (c.rest[k]?.map test).getD false

/-- Whether the character at the cursor is the given one. -/
def at_ (c : Cursor) (ch : Char) : Bool := c.ahead 0 (· = ch)

/-- Whether the document has ended `k` places ahead. -/
def endsAt (c : Cursor) (k : Nat) : Bool := c.rest[k]?.isNone

/-- Whether a gap or the end is `k` places ahead. -/
def gapAt (c : Cursor) (k : Nat) : Bool := c.endsAt k || c.ahead k isGap

/-- Whether the line ends at the cursor. -/
def atLineEnd (c : Cursor) : Bool := c.endsAt 0 || c.ahead 0 isBreak

/-- Moves over `n` characters of a line. -/
def skip (c : Cursor) (n : Nat := 1) : Cursor :=
  { c with
    rest := c.rest.drop n
    index := c.index + byteCount (c.rest.take n)
    column := c.column + n }

/-- Moves over the characters of a line that pass the test. -/
def skipWhile (c : Cursor) (test : Char → Bool) : Cursor :=
  c.skip (c.rest.takeWhile test).length

/-- Takes the characters of a line that pass the test. -/
def takeWhile (c : Cursor) (test : Char → Bool) : List Char × Cursor :=
  let run := c.rest.takeWhile test
  (run, c.skip run.length)

/-- Takes the line break at the cursor, if there is one. Only the two separators keep their own
character. -/
def takeBreak (c : Cursor) : List Char × Cursor :=
  let next (n : Nat) : Cursor :=
    { rest := c.rest.drop n
      index := c.index + byteCount (c.rest.take n)
      line := c.line + 1
      column := 0 }
  match c.rest with
  | '\r' :: '\n' :: _ => (['\n'], next 2)
  | ch :: _ =>
    if ch = '\u2028' ∨ ch = '\u2029' then ([ch], next 1)
    else if isBreak ch then (['\n'], next 1)
    else ([], c)
  | [] => ([], c)

/-- Moves over the line break at the cursor. -/
def skipBreak (c : Cursor) : Cursor := c.takeBreak.2

/-- Moves over blanks and a comment up to the end of the line, where nothing else may stand. -/
def skipToLineEnd (c : Cursor) : Except Error Cursor :=
  let c := c.skipWhile isBlank
  let c := if c.at_ '#' then c.skipWhile (!isBreak ·) else c
  if c.atLineEnd then .ok c else c.fail "did not find expected comment or line break"

/-- Whether three equal marks that separate documents stand at the cursor: at the beginning of a
line and followed by a gap. -/
def atDocumentMark (c : Cursor) (mark : Char) : Bool :=
  c.column = 0 && c.ahead 0 (· = mark) && c.ahead 1 (· = mark) && c.ahead 2 (· = mark) && c.gapAt 3

end Cursor

end HeartbeatMesh.Yaml

import HeartbeatMesh.Yaml.Cursor
import HeartbeatMesh.Text.Utf8

/-!
# Tags, anchors and directives

The parts of a document that are not its content: the handles and suffixes of tags, the names of
anchors and aliases, and the lines that begin with a percent sign.
-/

namespace HeartbeatMesh.Yaml

/-! ## Anchors -/

/-- Whether the name of an anchor may end before the cursor. -/
def atAnchorEnd (c : Cursor) : Bool :=
  c.gapAt 0 || c.ahead 0 fun ch => "?:,]\x7d%@`".toList.contains ch

/-- Reads the name after the indicator of an anchor or alias. -/
def scanAnchor (c : Cursor) : Except Error (String × Cursor) :=
  let (name, c) := c.skip.takeWhile isNameChar
  if name.isEmpty || !atAnchorEnd c then
    c.fail "did not find expected alphabetic or numeric character"
  else .ok (String.ofList name, c)

/-! ## Tags -/

/-- A tag as it is written: a handle, which a directive can define, and a suffix. Without a handle
the suffix is the whole tag. Escapes can put any bytes into a suffix. -/
structure TagName where
  handle : String
  suffix : Bytes
  deriving Repr, DecidableEq

/-- Reads a handle: an exclamation mark, then perhaps a name and another one. In a directive the
second one may be missing only if the name is missing too. -/
def scanHandle (isDirective : Bool) (c : Cursor) : Except Error (List Char × Cursor) :=
  if !c.at_ '!' then c.fail "did not find expected '!'"
  else
    let (name, c) := c.skip.takeWhile isNameChar
    if c.at_ '!' then .ok ('!' :: name ++ ['!'], c.skip)
    else if isDirective && !name.isEmpty then c.fail "did not find expected '!'"
    else .ok ('!' :: name, c)

/-- Whether a character may stand in a tag. Brackets and commas may only between angle brackets. -/
def isTagChar (verbatim : Bool) (c : Char) : Bool :=
  isNameChar c || ";/?:@&=+$.!~*'()".toList.contains c || (verbatim && ",[]".toList.contains c)

/-- The byte written as a percent sign and two hexadecimal digits. -/
def escapedByte? : List Char → Option UInt8
  | '%' :: a :: b :: _ => do
    let a ← hexValue? a
    let b ← hexValue? b
    return (16 * a + b).toUInt8
  | _ => none

/-- The number of bytes of the character that a byte begins. -/
def leadLength? (b : UInt8) : Option Nat :=
  if b < 0x80 then some 1
  else if b &&& 0xE0 = 0xC0 then some 2
  else if b &&& 0xF0 = 0xE0 then some 3
  else if b &&& 0xF8 = 0xF0 then some 4
  else none

/-- Whether a byte continues a character. -/
def isTrailByte (b : UInt8) : Bool := b &&& 0xC0 = 0x80

/-- Reads the escaped bytes of one character of a tag. Only the pattern of leading and trailing
bytes counts, not whether the character exists. -/
def scanTagEscape (c : Cursor) : Except Error (Bytes × Cursor) :=
  match (escapedByte? c.rest).bind leadLength? with
  | none => c.fail "did not find URI escaped octet"
  | some n =>
    match (List.range n).mapM fun k => escapedByte? (c.rest.drop (3 * k)) with
    | none => c.fail "did not find URI escaped octet"
    | some bs =>
      if (bs.drop 1).all isTrailByte then .ok (bs, c.skip (3 * n))
      else c.fail "found an incorrect trailing UTF-8 octet"

/-- Reads the characters of a tag. -/
def scanTagChars (verbatim : Bool) : Nat → Bytes → Cursor → Except Error (Bytes × Cursor)
  | 0, text, c => .ok (text, c)
  | fuel + 1, text, c =>
    match c.rest with
    | ch :: _ =>
      if ch = '%' then do
        let (run, c) ← scanTagEscape c
        scanTagChars verbatim fuel (text ++ run) c
      else if isTagChar verbatim ch then
        scanTagChars verbatim fuel (text ++ Text.utf8 ch.toString) c.skip
      else .ok (text, c)
    | [] => .ok (text, c)

/-- Reads a tag, or the rest of one of which `head` has been read as a handle. A null byte ends the
tag, whatever is written after it. -/
def scanTagText (verbatim : Bool) (head : List Char) (c : Cursor) :
    Except Error (Bytes × Cursor) := do
  let (text, c') ← scanTagChars verbatim (c.rest.length + 1) [] c
  if text.isEmpty && head.isEmpty then c.fail "did not find expected tag URI"
  else return ((Text.utf8 (String.ofList (head.drop 1)) ++ text).takeWhile (· ≠ 0), c')

/-- Reads a tag, with the cursor at its exclamation mark. -/
def scanTag (inFlow : Bool) (c : Cursor) : Except Error (TagName × Cursor) := do
  let (tag, c) ←
    if c.ahead 1 (· = '<') then do
      let (suffix, c) ← scanTagText true [] (c.skip 2)
      if c.at_ '>' then pure (⟨"", suffix⟩, c.skip)
      else c.fail "did not find the expected '>'"
    else do
      let (handle, c) ← scanHandle false c
      if 2 ≤ handle.length && handle.getLast? = some '!' then
        let (suffix, c) ← scanTagText false [] c
        pure ((⟨String.ofList handle, suffix⟩ : TagName), c)
      else
        let (suffix, c) ← scanTagText false handle c
        pure (if suffix.isEmpty then (⟨"", Text.utf8 "!"⟩ : TagName) else ⟨"!", suffix⟩, c)
  if c.gapAt 0 || (inFlow && c.at_ ',') then return (tag, c)
  else c.fail "did not find expected whitespace or line break"

/-! ## Directives -/

/-- What a directive says. -/
inductive Directive where
  | version (major minor : Nat)
  /-- Defines a handle. -/
  | tag (handle : String) (tagPrefix : Bytes)
  deriving Repr, DecidableEq

/-- Reads a number of a version, of at most nine digits. -/
def scanVersionNumber (c : Cursor) : Except Error (Nat × Cursor) :=
  let (ds, c') := c.takeWhile Char.isDigit
  if ds.isEmpty then c.fail "did not find expected version number"
  else if 9 < ds.length then c.fail "found extremely long version number"
  else .ok (ds.foldl (fun n d => 10 * n + (d.toNat - '0'.toNat)) 0, c')

/-- Reads a directive, with the cursor at its percent sign, and the rest of its line. -/
def scanDirective (c : Cursor) : Except Error (Directive × Cursor) := do
  let (name, c) := c.skip.takeWhile isNameChar
  if name.isEmpty then c.fail "could not find expected directive name"
  else if !c.gapAt 0 then c.fail "found unexpected non-alphabetical character"
  else
    let (directive, c) ←
      match String.ofList name with
      | "YAML" => do
        let (major, c) ← scanVersionNumber (c.skipWhile isBlank)
        if !c.at_ '.' then c.fail "did not find expected digit or '.' character"
        let (minor, c) ← scanVersionNumber c.skip
        pure (Directive.version major minor, c)
      | "TAG" => do
        let (handle, c) ← scanHandle true (c.skipWhile isBlank)
        if !c.ahead 0 isBlank then c.fail "did not find expected whitespace"
        let (tagPrefix, c) ← scanTagText true [] (c.skipWhile isBlank)
        if !c.gapAt 0 then c.fail "did not find expected whitespace or line break"
        pure (Directive.tag (String.ofList handle) tagPrefix, c)
      | _ => c.fail "found unknown directive name"
    let c ← c.skipToLineEnd
    return (directive, c.skipBreak)

end HeartbeatMesh.Yaml

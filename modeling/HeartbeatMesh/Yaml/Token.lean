import HeartbeatMesh.Yaml.Scalar
import HeartbeatMesh.Yaml.Tag

/-!
# Tokens

A document is cut into tokens before its structure is read. Indentation becomes tokens here: a block
collection begins where an entry or a key stands further right than the collection around it, and
ends where something stands further left.

A key is recognised late, when the colon after it is found. So the place where a key could begin is
remembered, once for each level of brackets, and the tokens that announce it are put in there
afterwards. Such a place is given up when its line ends or after 1024 bytes; where the indentation
admits nothing but a key, that is an error.
-/

namespace HeartbeatMesh.Yaml

/-- A token. -/
inductive Token where
  | streamEnd
  | directive (d : Directive)
  | documentStart
  | documentEnd
  | blockSequenceStart
  | blockMappingStart
  | blockEnd
  | flowSequenceStart
  | flowSequenceEnd
  | flowMappingStart
  | flowMappingEnd
  | blockEntry
  | flowEntry
  | key
  | value
  | alias (name : String)
  | anchor (name : String)
  | tag (name : TagName)
  | scalar (style : Style) (text : String)
  deriving Repr, DecidableEq

/-- A place where a key could begin. -/
structure KeyPlace where
  /-- Whether nothing but a key may stand there. -/
  required : Bool
  /-- The number of tokens before it. -/
  tokenIndex : Nat
  index : Nat
  line : Nat
  column : Nat
  deriving Repr

/-- The state of the cutting. -/
structure Scanner where
  cursor : Cursor
  tokens : Array Token := #[]
  /-- The columns of the open block collections, the innermost first. -/
  indents : List Nat := []
  /-- Whether a key may begin at the cursor. -/
  keyAllowed : Bool := true
  /-- The place where a key could begin, for each open bracket and outside all of them. -/
  places : List (Option KeyPlace) := [none]

namespace Scanner

/-- Whether the cursor stands inside brackets. -/
def inFlow (s : Scanner) : Bool := 1 < s.places.length

/-- The column of the innermost block collection, -1 outside all of them. -/
def indent (s : Scanner) : Int := (s.indents.head?.map Int.ofNat).getD (-1)

/-- Adds a token. -/
def emit (s : Scanner) (t : Token) : Scanner := { s with tokens := s.tokens.push t }

/-- Adds a token in front of the one at the index. -/
def insert (s : Scanner) (i : Nat) (t : Token) : Scanner :=
  { s with tokens := s.tokens.insertIdxIfInBounds i t }

/-- Moves over `n` characters and adds a token for them. -/
def take (s : Scanner) (n : Nat) (t : Token) : Scanner :=
  { s with cursor := s.cursor.skip n }.emit t

/-! ## Indentation -/

/-- Opens a block collection at the column, if it is further right than the innermost one; its
token goes in front of the token at the index. -/
def openBlock (s : Scanner) (column tokenIndex : Nat) (t : Token) : Scanner :=
  if s.inFlow || decide ((column : Int) ≤ s.indent) then s
  else { s.insert tokenIndex t with indents := column :: s.indents }

/-- Closes the block collections that are further right than the column. -/
def closeBlocks (s : Scanner) (column : Int) : Scanner :=
  if s.inFlow then s
  else
    let isClosed (i : Nat) : Bool := decide (column < i)
    { s with
      tokens := s.tokens ++ (s.indents.takeWhile isClosed).map fun _ => Token.blockEnd
      indents := s.indents.dropWhile isClosed }

/-! ## Places of keys -/

/-- The place of the innermost level. -/
def place? (s : Scanner) : Option KeyPlace := s.places.head?.join

/-- Replaces the place of the innermost level. -/
def setPlace (s : Scanner) (p : Option KeyPlace) : Scanner :=
  { s with places := p :: s.places.drop 1 }

/-- Gives up the place of the innermost level. -/
def dropPlace (s : Scanner) : Except Error Scanner :=
  match s.place? with
  | some p =>
    if p.required then s.cursor.fail "could not find expected ':'" else .ok (s.setPlace none)
  | none => .ok s

/-- Remembers the cursor as a place where a key could begin. -/
def savePlace (s : Scanner) : Except Error Scanner :=
  if s.keyAllowed then do
    let c := s.cursor
    let required := !s.inFlow && decide (s.indent = c.column)
    let s ← s.dropPlace
    return s.setPlace (some ⟨required, s.tokens.size, c.index, c.line, c.column⟩)
  else .ok s

/-- Whether a place is too far back for the cursor. -/
def isStale (s : Scanner) (p : KeyPlace) : Bool :=
  decide (p.line < s.cursor.line) || decide (p.index + 1024 < s.cursor.index)

/-- Gives up the places that are too far back. -/
def dropStale (s : Scanner) : Except Error Scanner :=
  let stale (p : Option KeyPlace) : Bool := (p.map s.isStale).getD false
  if s.places.any fun p => stale p && (p.map (·.required)).getD false then
    s.cursor.fail "could not find expected ':'"
  else .ok { s with places := s.places.map fun p => if stale p then none else p }

/-! ## Between tokens -/

/-- Moves over blanks, comments and line breaks. A tab counts as a blank only where no key can
begin. After a line break a key may begin again. A mark of the byte order may stand at the beginning
of any line; it takes a column like other characters. -/
def skipGaps : Nat → Scanner → Scanner
  | 0, s => s
  | fuel + 1, s =>
    let tabs := s.inFlow || !s.keyAllowed
    let c := s.cursor
    let c := if c.column = 0 && c.at_ '\uFEFF' then c.skip else c
    let c := c.skipWhile fun ch => ch = ' ' || (tabs && ch = '\t')
    let c := if c.at_ '#' then c.skipWhile (!isBreak ·) else c
    if c.ahead 0 isBreak then
      skipGaps fuel { s with cursor := c.skipBreak, keyAllowed := s.keyAllowed || !s.inFlow }
    else { s with cursor := c }

/-! ## One token -/

/-- Ends all block collections at a mark or directive of the document. -/
def leaveDocument (s : Scanner) : Except Error Scanner := do
  let s ← (s.closeBlocks (-1)).dropPlace
  return { s with keyAllowed := false }

/-- An opening bracket. -/
def openFlow (s : Scanner) (t : Token) : Except Error Scanner := do
  let s ← s.savePlace
  return { s with places := none :: s.places, keyAllowed := true }.take 1 t

/-- A closing bracket. -/
def closeFlow (s : Scanner) (t : Token) : Except Error Scanner := do
  let s ← s.dropPlace
  let places := if s.inFlow then s.places.drop 1 else s.places
  return { s with places, keyAllowed := false }.take 1 t

/-- The indicator of an entry or of a complex key, which opens a block outside brackets. -/
def blockIndicator (s : Scanner) (opening t : Token) (keyAllowed : Bool) (problem : String) :
    Except Error Scanner := do
  if !s.inFlow && !s.keyAllowed then s.cursor.fail problem
  let s ← (s.openBlock s.cursor.column s.tokens.size opening).dropPlace
  return { s with keyAllowed }.take 1 t

/-- The colon between a key and its value. -/
def valueIndicator (s : Scanner) : Except Error Scanner :=
  match s.place? with
  | some p =>
    let s := (s.insert p.tokenIndex .key).openBlock p.column p.tokenIndex .blockMappingStart
    .ok ({ s.setPlace none with keyAllowed := false }.take 1 .value)
  | none =>
    if !s.inFlow && !s.keyAllowed then
      s.cursor.fail "mapping values are not allowed in this context"
    else
      let s := s.openBlock s.cursor.column s.tokens.size .blockMappingStart
      .ok ({ s with keyAllowed := !s.inFlow }.take 1 .value)

/-- A token that could begin a key, read by the given scan. -/
def keyLike (s : Scanner) (scan : Cursor → Except Error (Token × Cursor)) :
    Except Error Scanner := do
  let s ← s.savePlace
  let (t, cursor) ← scan s.cursor
  return { s with cursor, keyAllowed := false }.emit t

/-- A plain scalar. -/
def plainScalar (s : Scanner) : Except Error Scanner := do
  let s ← s.savePlace
  let c := s.cursor
  let (text, keyAllowed, cursor) ←
    scanPlain s.inFlow (s.indent + 1).toNat (c.rest.length + 1) [] {} c
  return { s with cursor, keyAllowed }.emit (.scalar .plain (String.ofList text))

/-- A block scalar. -/
def blockScalar (s : Scanner) (literal : Bool) : Except Error Scanner := do
  let s ← s.dropPlace
  let (text, cursor) ← scanBlock literal s.indent s.cursor
  return { s with cursor, keyAllowed := true }.emit
    (.scalar (if literal then .literal else .folded) (String.ofList text))

/-- A quoted scalar. -/
def quotedScalar (s : Scanner) (single : Bool) : Except Error Scanner :=
  s.keyLike fun c => do
    let (text, c') ← scanQuoted single (c.rest.length + 1) [] c.skip
    return (.scalar (if single then .singleQuoted else .doubleQuoted) (String.ofList text), c')

/-- Characters that cannot begin a plain scalar. -/
def isIndicator (c : Char) : Bool := "-?:,[]\x7b\x7d#&*!|>'\"%@`".toList.contains c

/-- Whether a plain scalar begins at the cursor, at the character `ch`. -/
def startsPlain (s : Scanner) (ch : Char) : Bool :=
  !(isGap ch || isIndicator ch) || (ch = '-' && !s.cursor.ahead 1 isBlank) ||
  (!s.inFlow && (ch = '?' || ch = ':') && !s.cursor.gapAt 1)

/-- Reads the token at the cursor, of which `ch` is the first character. -/
def token (s : Scanner) (ch : Char) : Except Error Scanner :=
  let c := s.cursor
  if c.column = 0 && ch = '%' then do
    let s ← s.leaveDocument
    let (d, cursor) ← scanDirective s.cursor
    return { s with cursor }.emit (.directive d)
  else if c.atDocumentMark '-' then return (← s.leaveDocument).take 3 .documentStart
  else if c.atDocumentMark '.' then return (← s.leaveDocument).take 3 .documentEnd
  else if ch = '[' then s.openFlow .flowSequenceStart
  else if ch = '\x7b' then s.openFlow .flowMappingStart
  else if ch = ']' then s.closeFlow .flowSequenceEnd
  else if ch = '\x7d' then s.closeFlow .flowMappingEnd
  else if ch = ',' then return { (← s.dropPlace) with keyAllowed := true }.take 1 .flowEntry
  else if ch = '-' && c.gapAt 1 then
    s.blockIndicator .blockSequenceStart .blockEntry true
      "block sequence entries are not allowed in this context"
  else if ch = '?' && (s.inFlow || c.gapAt 1) then
    s.blockIndicator .blockMappingStart .key (!s.inFlow)
      "mapping keys are not allowed in this context"
  else if ch = ':' && (s.inFlow || c.gapAt 1) then s.valueIndicator
  else if ch = '*' then s.keyLike fun c => return (← scanAnchor c).map Token.alias id
  else if ch = '&' then s.keyLike fun c => return (← scanAnchor c).map Token.anchor id
  else if ch = '!' then s.keyLike fun c => return (← scanTag s.inFlow c).map Token.tag id
  else if ch = '|' && !s.inFlow then s.blockScalar true
  else if ch = '>' && !s.inFlow then s.blockScalar false
  else if ch = '\'' then s.quotedScalar true
  else if ch = '"' then s.quotedScalar false
  else if s.startsPlain ch then s.plainScalar
  else c.fail "found character that cannot start any token"

/-- Reads on to the end of the document. Every round takes a character. -/
def run : Nat → Scanner → Except Error (Array Token)
  | 0, s => .ok s.tokens
  | fuel + 1, s => do
    let s := s.skipGaps (s.cursor.rest.length + 1)
    let s ← s.dropStale
    let s := s.closeBlocks s.cursor.column
    match s.cursor.rest with
    | [] =>
      let s ← (s.closeBlocks (-1)).dropPlace
      return (s.emit .streamEnd).tokens
    | ch :: _ => run fuel (← s.token ch)

end Scanner

/-- The tokens of a document. -/
def tokenize (text : List Char) : Except Error (List Token) := do
  if text.all isAllowed then
    let tokens ← ({ cursor := ⟨text, 0, 0, 0⟩ : Scanner }).run (text.length + 1)
    return tokens.toList
  else .error { problem := "control characters are not allowed" }

end HeartbeatMesh.Yaml

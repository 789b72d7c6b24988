import HeartbeatMesh.Yaml.Cursor

/-!
# Scalars

The text of a scalar can be written in five ways: plain, between single or double quotes, and as a
literal or folded block. Line breaks inside the first three are folded: a single break becomes a
space, of several the first is dropped.

Each scan takes the cursor at the first character of the scalar and answers the text and the cursor
behind it. Every round of a scan reads a character or ends it, so the number of characters that are
left bounds the number of rounds.
-/

namespace HeartbeatMesh.Yaml

/-- How a scalar is written. -/
inductive Style where
  | plain
  | singleQuoted
  | doubleQuoted
  | literal
  | folded
  deriving Repr, DecidableEq

/-! ## Gaps -/

/-- A gap in the text of a scalar: its blanks as long as it has no line break, else its first line
break and the further ones. -/
structure Gap where
  blanks : List Char := []
  leading : List Char := []
  trailing : List Char := []
  hasBreak : Bool := false

/-- What a gap contributes to the text. -/
def Gap.folded (g : Gap) : List Char :=
  if g.hasBreak then
    if g.leading = ['\n'] then (if g.trailing.isEmpty then [' '] else g.trailing)
    else g.leading ++ g.trailing
  else g.blanks

/-- Reads the gap at the cursor. In a plain scalar, a tab may not stand where the indentation of a
further line is due. -/
def scanGap (tabLimit : Nat) : Nat → Gap → Cursor → Except Error (Gap × Cursor)
  | 0, g, c => .ok (g, c)
  | fuel + 1, g, c =>
    match c.rest with
    | [] => .ok (g, c)
    | ch :: _ =>
      if isBlank ch then
        if g.hasBreak then
          if c.column < tabLimit ∧ ch = '\t' then
            c.fail "found a tab character that violates indentation"
          else scanGap tabLimit fuel g c.skip
        else scanGap tabLimit fuel { g with blanks := g.blanks ++ [ch] } c.skip
      else if isBreak ch then
        let (br, c) := c.takeBreak
        if g.hasBreak then scanGap tabLimit fuel { g with trailing := g.trailing ++ br } c
        else scanGap tabLimit fuel { g with leading := br, hasBreak := true } c
      else .ok (g, c)

/-! ## Plain scalars -/

/-- Characters that end a plain scalar inside brackets. -/
def isFlowMark (c : Char) : Bool := c = ',' || c = '[' || c = ']' || c = '\x7b' || c = '\x7d'

/-- The length of the run of characters that belong to a plain scalar, `none` at a colon that stands
before a mark inside brackets. -/
def plainRun (inFlow : Bool) : List Char → Option Nat
  | [] => some 0
  | ch :: rest =>
    if isGap ch then some 0
    else if inFlow && ch = ':' && (rest.head?.map fun d => isFlowMark d || d = '?').getD false then
      none
    else if ch = ':' && (rest.head?.map isGap).getD true then some 0
    else if inFlow && isFlowMark ch then some 0
    else (plainRun inFlow rest).map (· + 1)

/-- Reads a plain scalar; `indent` is the least column of its further lines. Answers also whether
it ended after a line break. -/
def scanPlain (inFlow : Bool) (indent : Nat) :
    Nat → List Char → Gap → Cursor → Except Error (List Char × Bool × Cursor)
  | 0, text, g, c => .ok (text, g.hasBreak, c)
  | fuel + 1, text, g, c =>
    if c.atDocumentMark '-' || c.atDocumentMark '.' || c.at_ '#' then .ok (text, g.hasBreak, c)
    else
      match plainRun inFlow c.rest with
      | none => c.fail "found unexpected ':'"
      | some n => do
        let (text, g) :=
          if n = 0 then (text, g) else (text ++ g.folded ++ c.rest.take n, ({} : Gap))
        let c := c.skip n
        if !c.ahead 0 isGap then return (text, g.hasBreak, c)
        let (g, c) ← scanGap indent (c.rest.length + 1) g c
        if !inFlow && c.column < indent then return (text, g.hasBreak, c)
        scanPlain inFlow indent fuel text g c

/-! ## Quoted scalars -/

/-- The characters that one letter escapes stand for. -/
def escapes : List (Char × Char) :=
  [('0', '\x00'), ('a', '\x07'), ('b', '\x08'), ('t', '\t'), ('\t', '\t'), ('n', '\n'),
    ('v', '\x0b'), ('f', '\x0c'), ('r', '\r'), ('e', '\x1b'), (' ', ' '), ('"', '"'), ('/', '/'),
    ('\\', '\\'), ('N', '\x85'), ('_', '\xa0'), ('L', '\u2028'), ('P', '\u2029')]

/-- The number of hexadecimal digits after an escape for a code point. -/
def escapeLength? (c : Char) : Option Nat :=
  if c = 'x' then some 2 else if c = 'u' then some 4 else if c = 'U' then some 8 else none

/-- Reads the escape whose backslash is at the cursor. -/
def scanEscape (c : Cursor) : Except Error (Char × Cursor) :=
  match c.rest[1]? with
  | none => c.fail "found unknown escape character"
  | some e =>
    match escapes.lookup e, escapeLength? e with
    | some ch, _ => .ok (ch, c.skip 2)
    | none, none => c.fail "found unknown escape character"
    | none, some n =>
      let c := c.skip 2
      match (c.rest.take n).mapM hexValue? with
      | none => c.fail "did not find expected hexdecimal number"
      | some ds =>
        let value := ds.foldl (fun v d => 16 * v + d) 0
        if ds.length < n then c.fail "did not find expected hexdecimal number"
        else if (0xD800 ≤ value ∧ value ≤ 0xDFFF) ∨ 0x10FFFF < value then
          c.fail "found invalid Unicode character escape code"
        else .ok (Char.ofNat value, c.skip n)

/-- Reads a run of characters between quotes. Stops at a gap and at the closing quote, and after an
escaped line break, of which it tells. -/
def scanQuotedRun (single : Bool) :
    Nat → List Char → Cursor → Except Error (List Char × Bool × Cursor)
  | 0, text, c => .ok (text, false, c)
  | fuel + 1, text, c =>
    match c.rest with
    | [] => .ok (text, false, c)
    | ch :: rest =>
      if isGap ch then .ok (text, false, c)
      else if single then
        if ch = '\'' then
          if rest.head? = some '\'' then scanQuotedRun single fuel (text ++ ['\'']) (c.skip 2)
          else .ok (text, false, c)
        else scanQuotedRun single fuel (text ++ [ch]) c.skip
      else if ch = '"' then .ok (text, false, c)
      else if ch = '\\' then
        if (rest.head?.map isBreak).getD false then .ok (text, true, c.skip.skipBreak)
        else do
          let (e, c) ← scanEscape c
          scanQuotedRun single fuel (text ++ [e]) c
      else scanQuotedRun single fuel (text ++ [ch]) c.skip

/-- Reads a quoted scalar after its opening quote. -/
def scanQuoted (single : Bool) : Nat → List Char → Cursor → Except Error (List Char × Cursor)
  | 0, _, c => c.fail "found unexpected end of stream"
  | fuel + 1, text, c => do
    if c.atDocumentMark '-' || c.atDocumentMark '.' then
      c.fail "found unexpected document indicator"
    else if c.endsAt 0 then c.fail "found unexpected end of stream"
    else
      let (text, escapedBreak, c) ← scanQuotedRun single (c.rest.length + 1) text c
      if c.at_ (if single then '\'' else '"') then return (text, c.skip)
      let (g, c) ← scanGap 0 (c.rest.length + 1) { hasBreak := escapedBreak } c
      scanQuoted single fuel (text ++ g.folded) c

/-! ## Block scalars -/

/-- What happens to the line breaks at the end of a block: one stays, all go, all stay. -/
inductive Chomping where
  | clip
  | strip
  | keep
  deriving Repr, DecidableEq

/-- Reads the chomping mark at the cursor. -/
def scanChomping? (c : Cursor) : Option (Chomping × Cursor) :=
  if c.at_ '+' then some (.keep, c.skip)
  else if c.at_ '-' then some (.strip, c.skip)
  else none

/-- Reads the indentation digit at the cursor. -/
def scanIndentation? (c : Cursor) : Except Error (Option (Nat × Cursor)) :=
  match c.rest with
  | ch :: _ =>
    if ch = '0' then c.fail "found an indentation indicator equal to 0"
    else if ch.isDigit then .ok (some (ch.toNat - '0'.toNat, c.skip))
    else .ok none
  | [] => .ok none

/-- Reads the header of a block after its indicator: chomping and indentation in either order. -/
def scanBlockHeader (c : Cursor) : Except Error (Chomping × Option Nat × Cursor) := do
  match scanChomping? c with
  | some (chomping, c) =>
    match ← scanIndentation? c with
    | some (n, c) => return (chomping, some n, c)
    | none => return (chomping, none, c)
  | none =>
    match ← scanIndentation? c with
    | none => return (.clip, none, c)
    | some (n, c) =>
      match scanChomping? c with
      | some (chomping, c) => return (chomping, some n, c)
      | none => return (.clip, some n, c)

/-- Reads indentation and empty lines. While the indentation is not known, `deepest` is the largest
column seen. -/
def scanBlockBreaks (indent : Option Nat) :
    Nat → Nat → List Char → Cursor → Except Error (Nat × List Char × Cursor)
  | 0, deepest, breaks, c => .ok (deepest, breaks, c)
  | fuel + 1, deepest, breaks, c =>
    let room := match indent with
      | none => c.rest.length
      | some n => n - c.column
    let c := c.skip ((c.rest.take room).takeWhile (· = ' ')).length
    let deepest := max deepest c.column
    if (indent.map fun n => decide (c.column < n)).getD true && c.at_ '\t' then
      c.fail "found a tab character where an indentation space is expected"
    else if c.ahead 0 isBreak then
      let (br, c) := c.takeBreak
      scanBlockBreaks indent fuel deepest (breaks ++ br) c
    else .ok (deepest, breaks, c)

/-- Reads the lines of a block. `leading` is the line break before the cursor and `trailing` those
after it. -/
def scanBlockLines (literal : Bool) (indent : Nat) :
    Nat → List Char → List Char → List Char → Bool → Cursor →
      Except Error (List Char × List Char × List Char × Cursor)
  | 0, text, leading, trailing, _, c => .ok (text, leading, trailing, c)
  | fuel + 1, text, leading, trailing, blankBefore, c =>
    if c.column = indent ∧ ¬ c.endsAt 0 then do
      let isIndented := c.ahead 0 isBlank
      let fold := !literal && leading = ['\n'] && !blankBefore && !isIndented
      let joint := if fold then (if trailing.isEmpty then [' '] else []) else leading
      let (run, c) := c.takeWhile (!isBreak ·)
      let text := text ++ joint ++ trailing ++ run
      let (leading, c) := c.takeBreak
      let (_, trailing, c) ← scanBlockBreaks (some indent) (c.rest.length + 1) 0 [] c
      scanBlockLines literal indent fuel text leading trailing isIndented c
    else .ok (text, leading, trailing, c)

/-- Reads a block scalar, with the cursor at its indicator, inside a collection at the column
`parent` (-1 outside all of them). -/
def scanBlock (literal : Bool) (parent : Int) (c : Cursor) : Except Error (List Char × Cursor) := do
  let (chomping, increment, c) ← scanBlockHeader c.skip
  let c ← c.skipToLineEnd
  let c := c.skipBreak
  let given := increment.map fun n => if 0 ≤ parent then parent.toNat + n else n
  let (deepest, breaks, c) ← scanBlockBreaks given (c.rest.length + 1) 0 [] c
  let indent := given.getD (max deepest (max (parent + 1).toNat 1))
  let (text, leading, trailing, c) ←
    scanBlockLines literal indent (c.rest.length + 1) [] [] breaks false c
  return (match chomping with
    | .strip => text
    | .clip => text ++ leading
    | .keep => text ++ leading ++ trailing, c)

end HeartbeatMesh.Yaml

import HeartbeatMesh.Yaml.Token

/-!
# The structure of a document

Tokens are put together to a tree of scalars, sequences and mappings. Anchors are numbered as the
nodes that carry them begin, and an alias is the number of its anchor; the nodes stand in a table
beside the tree, so that an alias may stand inside the node it refers to.

A new anchor takes the count of the different names seen so far as its number. Names that are given
again can therefore share a number with later ones, and then the node that began last is meant by
all of them.
-/

namespace HeartbeatMesh.Yaml

/-- A node of a document. -/
inductive Node where
  | scalar (tag : Option Bytes) (style : Style) (text : String)
  | sequence (items : List Node)
  | mapping (entries : List (Node × Node))
  | alias (anchor : Nat)

/-- What stands where nothing is written. -/
def Node.empty : Node := .scalar none .plain ""

/-- A node that carries an anchor. -/
structure Anchored where
  anchor : Nat
  /-- Nodes are counted as they begin. -/
  start : Nat
  node : Node

/-- A document. An empty one has no root. -/
structure Document where
  root : Option Node
  anchored : List Anchored := []

/-- The node behind an alias: of the nodes with its number the one that began last. -/
def Document.resolve (d : Document) : Node → Option Node
  | .alias anchor =>
    let targets := d.anchored.filter (·.anchor = anchor)
    (targets.foldl (fun best a =>
      match best with
      | some (b : Anchored) => if b.start < a.start then some a else some b
      | none => some a) none).map (·.node)
  | node => some node

/-! ## Reading -/

/-- The state of reading a document. -/
structure Composer where
  tokens : List Token
  /-- The number of each anchor. -/
  anchors : List (String × Nat) := []
  anchored : List Anchored := []
  /-- How many nodes with anchors have begun. -/
  started : Nat := 0
  /-- The meaning of handles. -/
  handles : List (String × Bytes) :=
    [("!", Text.utf8 "!"), ("!!", Text.utf8 "tag:yaml.org,2002:")]

/-- A step of reading a document. -/
abbrev Compose := StateT Composer (Except Error)

namespace Compose

/-- Gives up. -/
def fail {α : Type} (problem : String) : Compose α := fun _ => .error { problem }

/-- The next token. After the last one the stream has ended. -/
def peek : Compose Token := return (← get).tokens.headD .streamEnd

/-- Moves over the next token. -/
def advance : Compose Unit := modify fun s => { s with tokens := s.tokens.drop 1 }

/-- The number of an anchor that has been given. -/
def anchorNumber (name : String) : Compose Nat := do
  match (← get).anchors.lookup name with
  | some n => return n
  | none => fail "unknown anchor"

/-- Begins a node with an anchor. Answers its number and its place in the order of beginnings. -/
def beginAnchored (name : String) : Compose (Nat × Nat) := do
  let s ← get
  let number := s.anchors.length
  let anchors := (name, number) :: s.anchors.filter (·.1 ≠ name)
  set { s with anchors, started := s.started + 1 }
  return (number, s.started)

/-- Ends a node, entering it in the table if it has an anchor. -/
def endAnchored (begun : Option (Nat × Nat)) (node : Node) : Compose Node := do
  if let some (anchor, start) := begun then
    modify fun s => { s with anchored := ⟨anchor, start, node⟩ :: s.anchored }
  return node

/-- The full text of a tag. -/
def resolveTag (t : TagName) : Compose Bytes := do
  if t.handle = "" then return t.suffix
  match (← get).handles.lookup t.handle with
  | some meaning => return meaning ++ t.suffix
  | none => fail "found undefined tag handle"

/-- Reads the anchor and the tag in front of a node, in either order. -/
def properties : Compose (Option String × Option Bytes) := do
  match ← peek with
  | .anchor name =>
    advance
    match ← peek with
    | .tag t =>
      advance
      return (some name, some (← resolveTag t))
    | _ => return (some name, none)
  | .tag t =>
    advance
    match ← peek with
    | .anchor name =>
      advance
      return (some name, some (← resolveTag t))
    | _ => return (none, some (← resolveTag t))
  | _ => return (none, none)

/-- A node of which nothing but its properties is written. -/
def bare (hasProperties : Bool) (tag : Option Bytes) (enter : Compose (Option (Nat × Nat))) :
    Compose Node := do
  if hasProperties then endAnchored (← enter) (.scalar tag .plain "")
  else fail "did not find expected node content"

/-- Reads a node, unless one of the given tokens is next. -/
def orEmpty (stop : List Token) (read : Compose Node) : Compose Node := do
  if stop.contains (← peek) then return .empty else read

/-- Reads the value of an entry, if there is one. -/
def optionalValue (stop : List Token) (read : Compose Node) : Compose Node := do
  if (← peek) = .value then
    advance
    orEmpty stop read
  else return .empty

mutual
/-- Reads a node. Inside brackets only bracketed collections count; the value of a block mapping may
be a sequence without indentation of its own. -/
def node : Nat → Bool → Bool → Compose Node
  | 0, _, _ => fail "did not find expected node content"
  | fuel + 1, inBlock, indentless => do
    if let .alias name ← peek then
      advance
      return .alias (← anchorNumber name)
    let (anchor, tag) ← properties
    let enter : Compose (Option (Nat × Nat)) :=
      match anchor with
      | some name => some <$> beginAnchored name
      | none => return none
    match ← peek with
    | .scalar style text =>
      advance
      endAnchored (← enter) (.scalar tag style text)
    | .flowSequenceStart =>
      advance
      let begun ← enter
      endAnchored begun (.sequence (← flowItems fuel true))
    | .flowMappingStart =>
      advance
      let begun ← enter
      endAnchored begun (.mapping (← flowEntries fuel true))
    | .blockEntry =>
      if indentless then
        let begun ← enter
        endAnchored begun (.sequence (← indentlessItems fuel))
      else bare (anchor.isSome || tag.isSome) tag enter
    | .blockSequenceStart =>
      if inBlock then
        advance
        let begun ← enter
        endAnchored begun (.sequence (← blockItems fuel))
      else bare (anchor.isSome || tag.isSome) tag enter
    | .blockMappingStart =>
      if inBlock then
        advance
        let begun ← enter
        endAnchored begun (.mapping (← blockEntries fuel))
      else bare (anchor.isSome || tag.isSome) tag enter
    | _ => bare (anchor.isSome || tag.isSome) tag enter

/-- Reads the items of a block sequence and its end. -/
def blockItems : Nat → Compose (List Node)
  | 0 => fail "did not find expected '-' indicator"
  | fuel + 1 => do
    match ← peek with
    | .blockEntry =>
      advance
      let item ← orEmpty [.blockEntry, .blockEnd] (node fuel true false)
      return item :: (← blockItems fuel)
    | .blockEnd =>
      advance
      return []
    | _ => fail "did not find expected '-' indicator"

/-- Reads the items of a sequence that is indented like the key it belongs to. -/
def indentlessItems : Nat → Compose (List Node)
  | 0 => return []
  | fuel + 1 => do
    if (← peek) = .blockEntry then
      advance
      let item ← orEmpty [.blockEntry, .key, .value, .blockEnd] (node fuel true false)
      return item :: (← indentlessItems fuel)
    else return []

/-- Reads the entries of a block mapping and its end. -/
def blockEntries : Nat → Compose (List (Node × Node))
  | 0 => fail "did not find expected key"
  | fuel + 1 => do
    match ← peek with
    | .key =>
      advance
      let stop : List Token := [.key, .value, .blockEnd]
      let key ← orEmpty stop (node fuel true true)
      let value ← optionalValue stop (node fuel true true)
      return (key, value) :: (← blockEntries fuel)
    | .blockEnd =>
      advance
      return []
    | _ => fail "did not find expected key"

/-- Reads the items of a bracketed sequence and its end. An item that is an entry is a mapping of
its own; one that begins with a colon loses the token after the question mark. -/
def flowItems : Nat → Bool → Compose (List Node)
  | 0, _ => fail "did not find expected ',' or ']'"
  | fuel + 1, isFirst => do
    let stop : List Token := [.flowEntry, .flowSequenceEnd]
    if !isFirst && (← peek) ≠ .flowSequenceEnd then
      if (← peek) = .flowEntry then advance
      else fail "did not find expected ',' or ']'"
    match ← peek with
    | .flowSequenceEnd =>
      advance
      return []
    | .key =>
      advance
      let key ←
        if (Token.value :: stop).contains (← peek) then do
          advance
          pure Node.empty
        else node fuel false false
      let value ← optionalValue stop (node fuel false false)
      return .mapping [(key, value)] :: (← flowItems fuel false)
    | _ =>
      let item ← node fuel false false
      return item :: (← flowItems fuel false)

/-- Reads the entries of a bracketed mapping and its end. -/
def flowEntries : Nat → Bool → Compose (List (Node × Node))
  | 0, _ => fail "did not find expected ',' or '\x7d'"
  | fuel + 1, isFirst => do
    let stop : List Token := [.flowEntry, .flowMappingEnd]
    if !isFirst && (← peek) ≠ .flowMappingEnd then
      if (← peek) = .flowEntry then advance
      else fail "did not find expected ',' or '\x7d'"
    match ← peek with
    | .flowMappingEnd =>
      advance
      return []
    | .key =>
      advance
      let key ← orEmpty (.value :: stop) (node fuel false false)
      let value ← optionalValue stop (node fuel false false)
      return (key, value) :: (← flowEntries fuel false)
    | _ =>
      let key ← node fuel false false
      return (key, .empty) :: (← flowEntries fuel false)
end

/-! ## Documents -/

/-- Reads the directives in front of a document. Only the versions 1.1 and 1.2 are known, and
neither a version nor a handle may be given twice. -/
def directives : Nat → Bool → List String → Compose Unit
  | 0, _, _ => return ()
  | fuel + 1, hasVersion, given => do
    match ← peek with
    | .directive (.version major minor) =>
      advance
      if hasVersion then fail "found duplicate %YAML directive"
      else if major = 1 ∧ (minor = 1 ∨ minor = 2) then directives fuel true given
      else fail "found incompatible YAML document"
    | .directive (.tag handle meaning) =>
      advance
      if given.contains handle then fail "found duplicate %TAG directive"
      else
        modify fun s => { s with handles := (handle, meaning) :: s.handles }
        directives fuel hasVersion (handle :: given)
    | _ => return ()

/-- Reads the root of the first document, `none` if the stream is empty. -/
def root : Compose (Option Node) := do
  let fuel := 4 * (← get).tokens.length + 4
  match ← peek with
  | .streamEnd => return none
  | .directive _ | .documentStart =>
    directives fuel false []
    if (← peek) ≠ .documentStart then fail "did not find expected <document start>"
    advance
    match ← peek with
    | .directive _ | .documentStart | .documentEnd | .streamEnd => return some .empty
    | _ => some <$> node fuel true false
  | _ => some <$> node fuel true false

/-- Moves over the marks at the end of a document. -/
def documentEnds : Nat → Compose Unit
  | 0 => return ()
  | fuel + 1 => do
    if (← peek) = .documentEnd then
      advance
      documentEnds fuel

/-- Reads a stream that holds one document or none. -/
def document : Compose Document := do
  let root ← root
  documentEnds (← get).tokens.length
  if (← peek) ≠ .streamEnd then fail "more than one document"
  return { root, anchored := (← get).anchored }

end Compose

/-- Reads a document. -/
def Document.read (text : String) : Except Error Document := do
  let tokens ← tokenize text.toList
  let (document, _) ← Compose.document.run { tokens }
  return document

end HeartbeatMesh.Yaml

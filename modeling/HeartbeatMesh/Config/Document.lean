import HeartbeatMesh.Config
import HeartbeatMesh.Decimal.Literal
import HeartbeatMesh.Yaml.Node

/-!
# Configurations as documents

A configuration is a mapping of two sections, each a mapping of settings. What is not given keeps
its default, a section without a value is empty, unknown keys are skipped and a known key may not
be given twice. Numbers and truth values are recognised in plain scalars only.
-/

namespace HeartbeatMesh

/-! ## Settings -/

/-- The kinds of scalar that have a tag of their own. -/
inductive ScalarKind where
  | int
  | float
  | bool
  deriving DecidableEq

/-- The tag of a kind of scalar. -/
def ScalarKind.tag : ScalarKind → Bytes
  | .int => Text.utf8 "tag:yaml.org,2002:int"
  | .float => Text.utf8 "tag:yaml.org,2002:float"
  | .bool => Text.utf8 "tag:yaml.org,2002:bool"

/-- The text of a scalar that may be of the kind: plain, or a literal block with its tag. -/
def ScalarKind.text? (kind : ScalarKind) : Yaml.Node → Option String
  | .scalar tag style text =>
    if style = .plain ∨ (style = .literal ∧ tag = some kind.tag) then some text else none
  | _ => none

/-- The digits of a number below `2 ^ 64` in the given base. -/
def readDigits? (base : Nat) (cs : List Char) : Option Nat :=
  let value := cs.foldl (fun (n : Option Nat) c => do
    let n ← n
    let d ← Yaml.hexValue? c
    if d < base then some (base * n + d) else none) (some 0)
  if cs.isEmpty then none else value.filter (· < UInt64.size)

/-- An unsigned number: decimal without leading zeros, or with a mark for its base. One plus sign
may stand before the digits or the mark. -/
def readUnsigned? (text : String) : Option Nat :=
  let cs := text.toList
  let digits := if cs.head? = some '+' then cs.drop 1 else cs
  let marked : Option Nat :=
    match digits with
    | '0' :: 'x' :: ds => if ds.head? = some '+' then none else readDigits? 16 ds
    | '0' :: 'o' :: ds => if ds.head? = some '+' then none else readDigits? 8 ds
    | '0' :: 'b' :: ds => if ds.head? = some '+' then none else readDigits? 2 ds
    | _ => none
  marked <|> (
    if 1 < digits.length ∧ digits.head? = some '0' then none else readDigits? 10 digits)

/-- A real number: a decimal literal of a finite value, or one of the spellings of infinity and
NaN. -/
def readReal? (text : String) : Option Float :=
  let cs := text.toList
  let unsigned := String.ofList (if cs.head? = some '+' then cs.drop 1 else cs)
  let isSigned := cs.head? = some '+' ∧ (cs[1]? = some '+' ∨ cs[1]? = some '-')
  if isSigned then none
  else if [".inf", ".Inf", ".INF"].contains unsigned then some (1.0 / 0.0)
  else if ["-.inf", "-.Inf", "-.INF"].contains text then some (-1.0 / 0.0)
  else if [".nan", ".NaN", ".NAN"].contains text then some (0.0 / 0.0)
  else (Decimal.read? unsigned).filter Float.isFinite

/-- A truth value. -/
def readFlag? (text : String) : Option Bool :=
  if ["true", "True", "TRUE"].contains text then some true
  else if ["false", "False", "FALSE"].contains text then some false
  else none

/-- The spellings of nothing. -/
def isNullText (text : String) : Bool := ["~", "null", "Null", "NULL"].contains text

/-- A text that may be absent: `some none` for a null, `none` for a node that is neither. -/
def readOptionalText? : Yaml.Node → Option (Option String)
  | .scalar tag style text =>
    if style ≠ .plain then some (some text)
    else
      match tag with
      | none => some (if text.isEmpty || isNullText text then none else some text)
      | some tag =>
        if tag = Text.utf8 "tag:yaml.org,2002:null" then
          if isNullText text then some none else none
        else some (some text)
  | _ => none

/-- Any scalar as a text. -/
def readText? : Yaml.Node → Option String
  | .scalar _ _ text => some text
  | _ => none

/-! ## Sections -/

/-- The entries of a mapping. A plain scalar without text is an empty mapping. -/
def entries? (d : Yaml.Document) (n : Yaml.Node) : Option (List (String × Yaml.Node)) :=
  match d.resolve n with
  | some (.mapping entries) =>
    entries.mapM fun (key, value) => do return (← readText? (← d.resolve key), value)
  | some (.scalar _ .plain "") => some []
  | _ => none

/-- Reads the settings of a section one after the other: each setting that is known and has not been
given yet changes the section. `apply` answers `none` for a key it does not know. -/
def readSection {σ : Type} (d : Yaml.Document) (apply : String → Option (Yaml.Node → σ → Option σ))
    (n : Yaml.Node) (start : σ) : Option σ := do
  let (section_, _) ← (← entries? d n).foldlM (fun (s, given) (key, value) =>
    match apply key with
    | none => some (s, given)
    | some set_ => do
      if given.contains key then none
      else return (← set_ (← d.resolve value) s, key :: given)) (start, ([] : List String))
  return section_

/-- The settings of the mesh. -/
def meshSetting : String → Option (Yaml.Node → MeshConfig → Option MeshConfig)
  | "heartbeat_interval_secs" => some fun n c => do
    return { c with interval := ← readReal? (← ScalarKind.float.text? n) }
  | "heartbeat_timeout_secs" => some fun n c => do
    return { c with timeout := ← readReal? (← ScalarKind.float.text? n) }
  | "channel_capacity" => some fun n c => do
    return { c with capacity := ← readUnsigned? (← ScalarKind.int.text? n) }
  | "initial_nodes" => some fun n c => do
    return { c with initialNodes := ← readUnsigned? (← ScalarKind.int.text? n) }
  | "merge_cluster_state" => some fun n c => do
    return { c with mergeState := ← readFlag? (← ScalarKind.bool.text? n) }
  | _ => none

/-- The settings of the log. -/
def logSetting : String → Option (Yaml.Node → LogConfig → Option LogConfig)
  | "level" => some fun n c => do return { c with level := ← readText? n }
  | "directory" => some fun n c => do return { c with directory := ← readOptionalText? n }
  | "json" => some fun n c => do
    return { c with json := ← readFlag? (← ScalarKind.bool.text? n) }
  | _ => none

/-- The sections of a configuration. -/
def configSection (d : Yaml.Document) : String → Option (Yaml.Node → Config → Option Config)
  | "mesh" => some fun n c => do return { c with mesh := ← readSection d meshSetting n {} }
  | "logging" => some fun n c => do return { c with logging := ← readSection d logSetting n {} }
  | _ => none

/-- The configuration that a document describes. -/
def Config.ofDocument? (d : Yaml.Document) : Option Config :=
  match d.root with
  | none => some {}
  | some root => readSection d (configSection d) root {}

/-- Reads a configuration. -/
def Config.parse (text : String) : Except Yaml.Error Config := do
  let d ← Yaml.Document.read text
  match Config.ofDocument? d with
  | some c => return c
  | none => .error { problem := "not a configuration" }

end HeartbeatMesh

import HeartbeatMesh.Random

/-!
# Newcomers

What a node needs that nobody chooses is drawn before it starts: its id, the id of its request for
the view of the others, and the words for its votes. One seed is enough for all of it.
-/

namespace HeartbeatMesh.Shell

/-- What is drawn for a node: its id, the id of its request and the words for its votes. -/
structure Newcomer (γ : Type) where
  nodeId : String
  requestId : String
  source : γ
  deriving Repr, DecidableEq

/-- The drawing goes on from the `k`-th newcomer to the `i`-th one: that is the next, and the id of
the `k`-th one is in use. -/
def PassesTo {γ : Type} (newcomers : Nat → Newcomer γ) (inUse : List String) (i k : Nat) : Prop :=
  i = k + 1 ∧ (newcomers k).nodeId ∈ inUse

/-- The number of the first newcomer, from `k` on, whose id is not in use. One is drawn after the
other for as long as it takes. If no free id is left the drawing does not end, and nothing is known
of the number. -/
def firstFree {γ : Type} (newcomers : Nat → Newcomer γ) (inUse : List String) (k : Nat) : Nat :=
  WellFounded.partialExtrinsicFix (PassesTo newcomers inUse) (fun k next =>
    if h : (newcomers k).nodeId ∈ inUse then next (k + 1) ⟨rfl, h⟩ else k) k

/-- Draws a text of characters of the alphabet. -/
def drawText {γ : Type} [WordSource γ] (alphabet : List Char) : Nat → γ → List Char × γ
  | 0, source => ([], source)
  | n + 1, source =>
    let (c, source) := choose alphabet source
    let (cs, source) := drawText alphabet n source
    (c.toList ++ cs, source)

theorem length_drawText {γ : Type} [WordSource γ] {alphabet : List Char} (h : alphabet ≠ [])
    (n : Nat) (source : γ) : (drawText alphabet n source).1.length = n := by
  induction n generalizing source with
  | zero => rfl
  | succ n ih =>
    obtain ⟨c, hc⟩ := Option.isSome_iff_exists.1 (choose_isSome h source)
    rw [drawText, List.length_append, ih, hc]
    exact Nat.add_comm 1 n

/-- The characters of drawn node ids. -/
def idAlphabet : List Char :=
  "ABCDEFGHIJKLMNOPQRSTUVWXYZabcdefghijklmnopqrstuvwxyz0123456789".toList

/-- The characters of drawn request ids. -/
def requestAlphabet : List Char := "0123456789abcdef".toList

/-- The newcomer of a seed. -/
def Newcomer.ofSeed (seed : UInt64) : Newcomer Xoshiro :=
  let id := drawText idAlphabet 8 (Xoshiro.ofSeed seed)
  let request := drawText requestAlphabet 32 id.2
  ⟨String.ofList id.1, String.ofList request.1, request.2⟩

end HeartbeatMesh.Shell

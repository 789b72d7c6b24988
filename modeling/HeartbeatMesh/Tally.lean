import HeartbeatMesh.Message

/-!
# Counting votes

An election is decided by plurality: the one candidate with the most votes wins, and several
candidates that share the most votes tie. The order in which the votes come does not matter, since
only their numbers are looked at.
-/

namespace HeartbeatMesh

/-- The outcome of a count. -/
inductive Tally where
  | winner (candidate : String)
  /-- The candidates that share the largest number of votes, in ascending order. -/
  | tie (candidates : List String) (votes : Nat)
  deriving Repr, DecidableEq

/-- How often each candidate is named. -/
def countVotes (votes : List String) : IdMap Nat :=
  votes.foldl (fun counts c => counts.insert c (counts.getD c 0 + 1)) ∅

/-- Counts the votes, `none` if there are none. -/
def tally (votes : List String) : Option Tally :=
  let counts := countVotes votes
  let most := counts.values.foldl max 0
  match (counts.toList.filter (·.2 = most)).map (·.1) with
  | [] => none
  | [candidate] => some (.winner candidate)
  | leaders => some (.tie leaders most)

end HeartbeatMesh

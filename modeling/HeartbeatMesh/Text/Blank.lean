/-!
# White space and words

The characters with the property White_Space, and the two operations that the shell makes of them:
the words of a line and whether a line is blank.
-/

namespace HeartbeatMesh.Text

/-- The characters with the property White_Space. -/
def isBlank (c : Char) : Bool :=
  (0x09 ≤ c.toNat && c.toNat ≤ 0x0D) || c.toNat == 0x20 || c.toNat == 0x85 || c.toNat == 0xA0 ||
  c.toNat == 0x1680 || (0x2000 ≤ c.toNat && c.toNat ≤ 0x200A) || c.toNat == 0x2028 ||
  c.toNat == 0x2029 || c.toNat == 0x202F || c.toNat == 0x205F || c.toNat == 0x3000

/-- Adds a character in front of a list of words: a blank ends the word that follows, any other
character joins it. The flag says whether the first word of the list is still open on its left. -/
def consWord (c : Char) : Bool × List (List Char) → Bool × List (List Char)
  | (isOpen, ws) =>
    if isBlank c then (false, ws)
    else match isOpen, ws with
      | true, w :: ws => (true, (c :: w) :: ws)
      | _, ws => (true, [c] :: ws)

/-- The maximal runs of characters that are not blank. -/
def wordsOf (cs : List Char) : List (List Char) := (cs.foldr consWord (false, [])).2

/-- The words of a line. -/
def words (s : String) : List String := (wordsOf s.toList).map String.ofList

/-- Whether a line holds blanks only. -/
def isBlankLine (s : String) : Bool := s.toList.all isBlank

end HeartbeatMesh.Text

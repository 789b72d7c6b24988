/-!
# Random choices

A choice is made from a source of 32 bit words. The source is a parameter everywhere: a node that
votes takes whatever words it is given, so statements about elections hold for every source.

* `choose` picks one element of a list. It takes one word, and in rare cases a second one that makes
  the choice less uneven.
* `Xoshiro` is the source that a node is seeded with.
-/

namespace HeartbeatMesh

/-- A source of 32 bit words. -/
class WordSource (γ : Type) where
  /-- The next word and the source after it. -/
  next : γ → UInt32 × γ

/-- Picks a number below `n`. The product of `n` and a word is a fixed point number with 32 binary
places; if its fraction is so large that the next places could carry over, they are drawn too. -/
def chooseIndex {γ : Type} [WordSource γ] (n : Nat) (source : γ) : Nat × γ :=
  let (x, source) := WordSource.next source
  let hi := x.toNat * n / UInt32.size
  let lo := x.toNat * n % UInt32.size
  if UInt32.size - n < lo then
    let (y, source) := WordSource.next source
    (if UInt32.size ≤ lo + y.toNat * n / UInt32.size then hi + 1 else hi, source)
  else (hi, source)

/-- Picks an element of a list. An empty list takes no word. -/
def choose {γ : Type} [WordSource γ] {α : Type} (xs : List α) (source : γ) : Option α × γ :=
  if xs.isEmpty then (none, source)
  else
    let (i, source) := chooseIndex xs.length source
    (xs[i]?, source)

/-- The index lies inside the list, however long it is: a product whose whole part is `n - 1` leaves
a fraction that nothing is added to. -/
theorem chooseIndex_lt {γ : Type} [WordSource γ] {n : Nat} (hn : 0 < n) (source : γ) :
    (chooseIndex n source).1 < n := by
  unfold chooseIndex
  generalize WordSource.next source = r
  obtain ⟨x, source⟩ := r
  have hx : x.toNat + 1 ≤ UInt32.size := x.toNat_lt
  have hmul : x.toNat * n + n ≤ UInt32.size * n := by
    calc x.toNat * n + n = (x.toNat + 1) * n := by rw [Nat.add_mul, Nat.one_mul]
      _ ≤ UInt32.size * n := Nat.mul_le_mul_right n hx
  have hdiv := Nat.div_add_mod (x.toNat * n) (UInt32.size)
  have hmod := Nat.mod_lt (x.toNat * n) (show 0 < UInt32.size by decide)
  unfold UInt32.size at *
  dsimp only
  generalize x.toNat * n / 4294967296 = hi at *
  generalize x.toNat * n % 4294967296 = lo at *
  split
  · generalize WordSource.next source = r'
    obtain ⟨y, source'⟩ := r'
    dsimp only
    split <;> omega
  · dsimp only
    omega

theorem choose_isSome {γ : Type} [WordSource γ] {α : Type} {xs : List α} (h : xs ≠ [])
    (source : γ) : (choose xs source).1.isSome := by
  have hpos : 0 < xs.length := List.length_pos_iff.2 h
  have hlt := chooseIndex_lt hpos source
  simp [choose, h, hlt]

theorem mem_of_choose {γ : Type} [WordSource γ] {α : Type} {xs : List α} {x : α} {source : γ}
    (h : (choose xs source).1 = some x) : x ∈ xs := by
  unfold choose at h
  split at h
  · cases h
  · exact List.mem_of_getElem? h

/-! ## Sources -/

/-- Four words of state: the generator of that name in its `++` form. -/
structure Xoshiro where
  s₀ : UInt64
  s₁ : UInt64
  s₂ : UInt64
  s₃ : UInt64
  deriving Repr, DecidableEq

namespace Xoshiro

/-- Rotates a word to the left. -/
def rotate (x k : UInt64) : UInt64 := (x <<< k) ||| (x >>> (64 - k))

/-- One step: the output and the next state. -/
def step (g : Xoshiro) : UInt64 × Xoshiro :=
  let output := rotate (g.s₀ + g.s₃) 23 + g.s₀
  let s₂ := g.s₂ ^^^ g.s₀
  let s₃ := g.s₃ ^^^ g.s₁
  (output, ⟨g.s₀ ^^^ s₃, g.s₁ ^^^ s₂, s₂ ^^^ (g.s₁ <<< 17), rotate s₃ 45⟩)

/-- Turns a counter into a word whose bits look independent of it. -/
def mix (z : UInt64) : UInt64 :=
  let z := (z ^^^ (z >>> 30)) * 0xbf58476d1ce4e5b9
  let z := (z ^^^ (z >>> 27)) * 0x94d049bb133111eb
  z ^^^ (z >>> 31)

/-- The state that belongs to a seed: four mixed values of a counter that starts at the seed. -/
def ofSeed (seed : UInt64) : Xoshiro :=
  let word (k : UInt64) := mix (seed + k * 0x9e3779b97f4a7c15)
  ⟨word 1, word 2, word 3, word 4⟩

/-- Words are the upper halves of the outputs. -/
instance : WordSource Xoshiro where
  next g := let (output, g) := g.step; ((output >>> 32).toUInt32, g)

end Xoshiro

/-- Given words in order, again and again. Without any word the source gives zeros. -/
structure WordCycle where
  words : Array UInt32
  position : Nat := 0
  deriving Repr, DecidableEq

instance : WordSource WordCycle where
  next c := (c.words.getD (c.position % c.words.size) 0, ⟨c.words, c.position + 1⟩)

end HeartbeatMesh

import HeartbeatMesh.Decimal.Shortest

/-!
# Durations

Time that a timer can wait for is a whole number of nanoseconds. Seconds, given as a double, become
the nearest such number, a half going to the even neighbour.
-/

namespace HeartbeatMesh

/-- A time span in nanoseconds. -/
abbrev Nanoseconds := Nat

/-- The nanoseconds of a second. -/
abbrev Nanoseconds.perSecond : Nat := 1000000000

/-- The quotient of two natural numbers, rounded to the nearest, a half to the even neighbour. -/
def roundDiv (num den : Nat) : Nat :=
  let q := num / den
  let r := 2 * (num % den)
  if r < den then q
  else if den < r then q + 1
  else if q % 2 = 0 then q
  else q + 1

/-- The nanoseconds nearest to a number of seconds that is finite and not negative. -/
def Nanoseconds.ofSeconds (x : Float) : Nanoseconds :=
  match Decimal.Binary.ofFloat? x with
  | none => 0
  | some b =>
    roundDiv ((b.mantissa * perSecond) <<< b.exponent.toNat) (1 <<< (-b.exponent).toNat)

/-- The least number of seconds that a time span cannot hold any more, `2 ^ 64`. -/
def Nanoseconds.tooLong : Float := 18446744073709551616.0

/-- The time span of a number of seconds, `none` if the number is negative, not finite or too
long. -/
def Nanoseconds.ofSeconds? (x : Float) : Option Nanoseconds :=
  if x.isFinite ∧ ¬x < 0.0 ∧ x < tooLong then some (ofSeconds x) else none

/-- A time span in seconds: the whole seconds and the fraction are converted one by one. -/
def Nanoseconds.toSeconds (t : Nanoseconds) : Float :=
  Float.ofNat (t / perSecond) + Float.ofNat (t % perSecond) / 1000000000.0

end HeartbeatMesh

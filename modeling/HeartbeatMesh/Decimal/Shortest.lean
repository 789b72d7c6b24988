/-!
# The fewest digits that read back

Each finite double stands for a real number, and the reals that round to it form an interval around
that number. Among the decimals of that interval, those with the fewest digits are found by trying
grids of 1, 2, … digits: on each only the two neighbours of the number itself need a look, since a
grid point inside the interval implies that one of them is inside. Of two that are inside, the
nearer is taken, and of two equally near the even one.

All comparisons are exact, between natural numbers.
-/

namespace HeartbeatMesh.Decimal

/-! ## Doubles as scaled integers -/

/-- A finite positive double: `mantissa * 2 ^ exponent`, with the flag telling whether the gap to
the next smaller double is only half of the gap to the next larger one. -/
structure Binary where
  mantissa : Nat
  exponent : Int
  narrowBelow : Bool
  deriving Repr, DecidableEq

/-- The magnitude of a double, `none` for zero, NaN and the infinities. -/
def Binary.ofFloat? (x : Float) : Option Binary :=
  let bits : Nat := x.toBits.toNat % (1 <<< 63)
  let exponent : Nat := bits / (1 <<< 52)
  let fraction : Nat := bits % (1 <<< 52)
  if exponent = 2047 then none
  else if exponent = 0 then
    if fraction = 0 then none else some ⟨fraction, -1074, false⟩
  else some ⟨(1 <<< 52) + fraction, (exponent : Int) - 1075, fraction = 0 && exponent ≠ 1⟩

/-- Whether the double carries a minus sign. -/
def isNegative (x : Float) : Bool := x.toBits.toNat / (1 <<< 63) = 1

/-- Compares `a * 10 ^ p` with `b * 2 ^ q`. -/
def compareScaled (a : Nat) (p : Int) (b : Nat) (q : Int) : Ordering :=
  compare ((a * Nat.pow 10 p.toNat) <<< (-q).toNat) ((b * Nat.pow 10 (-p).toNat) <<< q.toNat)

/-- Whether `d * 10 ^ p` rounds to the double. The ends of the interval belong to it exactly if the
mantissa is even. -/
def Binary.covers (b : Binary) (d : Nat) (p : Int) : Bool :=
  let low := compareScaled d p (4 * b.mantissa - if b.narrowBelow then 1 else 2) (b.exponent - 2)
  let high := compareScaled d p (4 * b.mantissa + 2) (b.exponent - 2)
  if b.mantissa % 2 = 0 then low != .lt && high != .gt else low == .gt && high == .lt

/-! ## The search -/

/-- A decimal `digits * 10 ^ exponent`. -/
structure Scaled where
  digits : Nat
  exponent : Int
  deriving Repr, DecidableEq

/-- The number of decimal digits. -/
def digitCount (n : Nat) : Nat := (Nat.toDigits 10 n).length

/-- The exponent of the leading digit: the largest `e` with `10 ^ e` not above the double. The
quotient of an `a` digit number by a `b` digit number lies strictly between `10 ^ (a - b - 1)` and
`10 ^ (a - b + 1)`. -/
def Binary.leading (b : Binary) : Int :=
  let num : Nat := b.mantissa <<< b.exponent.toNat
  let den : Nat := 1 <<< (-b.exponent).toNat
  let e : Int := digitCount num - digitCount den
  if compareScaled 1 e b.mantissa b.exponent == .gt then e - 1 else e

/-- The integer part of the double divided by `10 ^ p`. -/
def Binary.below (b : Binary) (p : Int) : Nat :=
  (b.mantissa * Nat.pow 10 (-p).toNat) <<< b.exponent.toNat /
    Nat.pow 10 p.toNat <<< (-b.exponent).toNat

/-- The neighbour of the double on the grid of multiples of `10 ^ p` that reads back as the
double, if one does. -/
def Binary.onGrid? (b : Binary) (p : Int) : Option Scaled :=
  let d := b.below p
  match b.covers d p, b.covers (d + 1) p with
  | false, false => none
  | true, false => some ⟨d, p⟩
  | false, true => some ⟨d + 1, p⟩
  | true, true =>
    match compareScaled (2 * d + 1) p (2 * b.mantissa) b.exponent with
    | .gt => some ⟨d, p⟩
    | .lt => some ⟨d + 1, p⟩
    | .eq => some ⟨if d % 2 = 0 then d else d + 1, p⟩

/-- Seventeen digits always suffice. -/
def maxDigits : Nat := 17

/-- Ten can only come from the grid of one digit, where it stands for one of the next power. -/
def Scaled.carried (d : Scaled) : Scaled :=
  if d.digits = 10 then ⟨1, d.exponent + 1⟩ else d

/-- The shortest decimal that reads back as the double. -/
def Binary.shortest (b : Binary) : Scaled :=
  let e := b.leading
  let grid (k : Nat) : Int := e - k
  (((List.range maxDigits).findSome? fun k => b.onGrid? (grid k)).getD
    ⟨b.below (grid maxDigits), grid maxDigits⟩).carried

end HeartbeatMesh.Decimal

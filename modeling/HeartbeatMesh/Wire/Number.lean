import HeartbeatMesh.Decimal.Shortest
import HeartbeatMesh.Wire.Error

/-!
# Numbers on the wire

A real number is written with the fewest digits that read back as it: plainly while its decimal
exponent lies between -5 and 15, with an exponent otherwise. NaN and the infinities have no number
on the wire and are written `null`.

Reading is not exact for every text. The digits are gathered into 64 bits as long as they fit, and
the result is scaled by one power of ten, so a long fraction can come out one step beside the
nearest double.
-/

namespace HeartbeatMesh.Wire

/-! ## Writing -/

/-- The digits of a decimal laid out with the exponent `e` of the leading one: plainly with at least
one digit after the point, or with an exponent. -/
def layout (ds : List Char) (e : Int) : List Char :=
  if -5 ≤ e ∧ e < 16 then
    if e < 0 then "0.".toList ++ List.replicate ((-e).toNat - 1) '0' ++ ds
    else
      let whole := e.toNat + 1
      if ds.length ≤ whole then ds ++ List.replicate (whole - ds.length) '0' ++ ".0".toList
      else ds.take whole ++ '.' :: ds.drop whole
  else
    let mantissa := match ds with
      | d :: d' :: ds => d :: '.' :: d' :: ds
      | ds => ds
    mantissa ++ 'e' :: (if e < 0 then '-' else '+') :: Nat.toDigits 10 e.natAbs

/-- The text of a finite real number. -/
def realText (x : Float) : String :=
  let sign := if Decimal.isNegative x then ['-'] else []
  match Decimal.Binary.ofFloat? x with
  | none => String.ofList (sign ++ "0.0".toList)
  | some b =>
    let d := b.shortest
    let ds := Nat.toDigits 10 d.digits
    String.ofList (sign ++ layout ds (d.exponent + ds.length - 1))

/-- A real number as it stands in a payload. -/
def writeReal (x : Float) : Bytes :=
  Text.utf8 (if x.isFinite then realText x else "null")

/-! ## Reading -/

/-- A number that has been read. -/
inductive Number where
  | integer (n : Int)
  | real (x : Float)
  deriving Repr, DecidableEq

/-- A number as a double. An integer becomes the nearest one. -/
def Number.toReal : Number → Float
  | .integer n => if n < 0 then -(Float.ofNat n.natAbs) else Float.ofNat n.natAbs
  | .real x => x

/-- A number as it is named when it stands in the wrong place. -/
def Number.found : Number → Found
  | .integer n => .integer n
  | .real x => .real (realText x)

/-- Whether a byte is a decimal digit. -/
def isDigit (b : UInt8) : Bool := 0x30 ≤ b && b ≤ 0x39

/-- The value of a decimal digit. -/
def digitValue (b : UInt8) : Nat := b.toNat - 0x30

/-- Appends digits to a significand as long as it fits in 64 bits. Answers the significand and the
digits left over. -/
def gather (significand : Nat) : Bytes → Nat × Bytes
  | [] => (significand, [])
  | d :: ds =>
    if 10 * significand + digitValue d < UInt64.size then
      gather (10 * significand + digitValue d) ds
    else (significand, d :: ds)

/-- `significand * 10 ^ e`, rounded when the significand becomes a double and again by each step of
scaling; `none` beyond the largest double. -/
def scale? (significand : Nat) (e : Int) : Option Float :=
  let f := Float.ofNat significand
  let power (n : Nat) : Float := Float.ofScientific 1 false n
  if significand = 0 then some 0.0
  else if 308 < e then none
  else if 0 ≤ e then
    let x := f * power e.toNat
    if x.isInf then none else some x
  else if -308 ≤ e then some (f / power (-e).toNat)
  else if -616 ≤ e then some (f / power 308 / power (-e - 308).toNat)
  else some 0.0

/-- An exponent that does not fit in 32 bits makes any number but zero too large or too small. -/
def maxExponent : Nat := (1 <<< 31) - 1

/-- The value of a list of decimal digits. -/
def natValue (ds : Bytes) : Nat := ds.foldl (fun n d => 10 * n + digitValue d) 0

/-- Ends a number of `significand * 10 ^ shift` at the bytes that follow its digits: the exponent,
if there is one, is read here. -/
def readScaled (negative : Bool) (significand : Nat) (shift : Int) : Reader Float := fun bs =>
  let finish (e : Int) (rest : Bytes) : Except ReadError (Float × Bytes) :=
    match scale? significand e with
    | some x => .ok (if negative then -x else x, rest)
    | none => .error .malformed
  match bs with
  | [] => finish shift []
  | b :: rest =>
    if b = 0x65 ∨ b = 0x45 then
      let (down, rest) := match rest with
        | s :: rest' =>
          if s = 0x2B then (false, rest') else if s = 0x2D then (true, rest') else (false, rest)
        | [] => (false, [])
      match rest with
      | [] => .error .truncated
      | d :: _ =>
        if isDigit d then
          let n := natValue (rest.takeWhile isDigit)
          let rest := rest.dropWhile isDigit
          if n ≤ maxExponent then finish (if down then shift - n else shift + n) rest
          else if significand = 0 ∨ down then .ok (if negative then -0.0 else 0.0, rest)
          else .error .malformed
        else .error .malformed
    else finish shift (b :: rest)

/-- Reads what follows the digits before the point, of which `dropped` did not fit. -/
def readTail (negative : Bool) (significand dropped : Nat) : Reader Number := fun bs =>
  match bs with
  | 0x2E :: rest =>
    let ds := rest.takeWhile isDigit
    let rest := rest.dropWhile isDigit
    if ds.isEmpty then .error (if rest.isEmpty then .truncated else .malformed)
    else do
      let (significand, left) := gather significand ds
      let shift : Int := dropped - (ds.length - left.length : Nat)
      let (x, rest) ← readScaled negative significand shift rest
      return (.real x, rest)
  | bs =>
    if 0 < dropped ∨ bs.head? = some 0x65 ∨ bs.head? = some 0x45 then do
      let (x, rest) ← readScaled negative significand dropped bs
      return (.real x, rest)
    else if ¬ negative then .ok (.integer significand, bs)
    else if significand = 0 ∨ 1 <<< 63 < significand then
      .ok (.real (-(Float.ofNat significand)), bs)
    else .ok (.integer (-significand), bs)

/-- Reads a number without its sign. A leading zero stands alone. -/
def readUnsigned (negative : Bool) : Reader Number := fun bs =>
  match bs with
  | [] => .error .truncated
  | b :: rest =>
    if b = 0x30 then
      if (rest.head?.map isDigit).getD false then .error .malformed
      else readTail negative 0 0 rest
    else if isDigit b then
      let (significand, left) := gather 0 (bs.takeWhile isDigit)
      readTail negative significand left.length (bs.dropWhile isDigit)
    else .error .malformed

/-- Reads a number. -/
def readNumber : Reader Number
  | 0x2D :: rest => readUnsigned true rest
  | bs => readUnsigned false bs

end HeartbeatMesh.Wire

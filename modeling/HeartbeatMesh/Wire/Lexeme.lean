import HeartbeatMesh.Wire.Number

/-!
# Blanks, words and strings of JSON

The parts that payloads are made of besides numbers. A string is read and written byte by byte:
every byte that needs an escape is an ASCII byte, so the other characters pass through as they are,
and whether a string is valid UTF-8 is asked once, of the whole string.
-/

namespace HeartbeatMesh.Wire

/-! ## Blanks and words -/

/-- The blanks of JSON: space, tab, line feed and carriage return. -/
def isBlank (b : UInt8) : Bool := b = 0x20 || b = 0x09 || b = 0x0A || b = 0x0D

/-- The bytes from the first one on that is not blank. -/
def skipBlanks (bs : Bytes) : Bytes := bs.dropWhile isBlank

/-- Reads exactly the given bytes. -/
def readWord : Bytes → Bytes → Except ReadError Bytes
  | [], bs => .ok bs
  | _ :: _, [] => .error .truncated
  | w :: ws, b :: bs => if b = w then readWord ws bs else .error .malformed

/-- Reads one punctuation mark after blanks. -/
def readMark (mark : UInt8) (bs : Bytes) : Except ReadError Bytes :=
  readWord [mark] (skipBlanks bs)

/-! ## Escapes -/

/-- The byte that a one letter escape stands for. -/
def simpleEscape? (b : UInt8) : Option UInt8 :=
  if b = 0x22 ∨ b = 0x5C ∨ b = 0x2F then some b
  else if b = 0x62 then some 0x08
  else if b = 0x66 then some 0x0C
  else if b = 0x6E then some 0x0A
  else if b = 0x72 then some 0x0D
  else if b = 0x74 then some 0x09
  else none

/-- The value of a hexadecimal digit. -/
def hexValue? (b : UInt8) : Option Nat :=
  if isDigit b then some (digitValue b)
  else if 0x61 ≤ b ∧ b ≤ 0x66 then some (b.toNat - 0x61 + 10)
  else if 0x41 ≤ b ∧ b ≤ 0x46 then some (b.toNat - 0x41 + 10)
  else none

/-- The value of four hexadecimal digits: a UTF-16 code unit. -/
def codeUnit? (a b c d : UInt8) : Option Nat := do
  let a ← hexValue? a
  let b ← hexValue? b
  let c ← hexValue? c
  let d ← hexValue? d
  return ((a * 16 + b) * 16 + c) * 16 + d

/-- Code units that begin a pair. -/
def isHighSurrogate (n : Nat) : Bool := 0xD800 ≤ n && n ≤ 0xDBFF

/-- Code units that end a pair. -/
def isLowSurrogate (n : Nat) : Bool := 0xDC00 ≤ n && n ≤ 0xDFFF

/-- The UTF-8 bytes of a code point. -/
def codePoint (n : Nat) : Bytes := String.utf8EncodeChar (Char.ofNat n)

/-- The lower case hexadecimal digit of a number below sixteen. -/
def hexDigit (n : Nat) : UInt8 := if n < 10 then 0x30 + n.toUInt8 else 0x57 + n.toUInt8

/-- A byte of a string as it is written: quote, backslash and the control characters are escaped. -/
def escapeByte (b : UInt8) : Bytes :=
  if b = 0x22 then [0x5C, 0x22]
  else if b = 0x5C then [0x5C, 0x5C]
  else if b = 0x08 then [0x5C, 0x62]
  else if b = 0x0C then [0x5C, 0x66]
  else if b = 0x0A then [0x5C, 0x6E]
  else if b = 0x0D then [0x5C, 0x72]
  else if b = 0x09 then [0x5C, 0x74]
  else if b < 0x20 then
    [0x5C, 0x75, 0x30, 0x30, hexDigit (b.toNat / 16), hexDigit (b.toNat % 16)]
  else [b]

/-! ## Strings -/

/-- Why a pair of code units goes wrong after its first half, given what follows. -/
def brokenPair : Bytes → ReadError
  | [] => .truncated
  | b :: rest =>
    if b = 0x5C then
      match rest with
      | [] => .truncated
      | u :: rest => if u = 0x75 ∧ rest.length < 4 then .truncated else .malformed
    else .malformed

/-- Reads the bytes of a string up to its closing quote. `acc` holds those already read, the last
one first. -/
def readStringBytes (acc : Bytes) : Reader Bytes
  | [] => .error .truncated
  | b :: rest =>
    if b = 0x22 then .ok (acc.reverse, rest)
    else if b = 0x5C then
      match rest with
      | [] => .error .truncated
      | e :: rest =>
        if e = 0x75 then
          match rest with
          | h₁ :: h₂ :: h₃ :: h₄ :: rest =>
            match codeUnit? h₁ h₂ h₃ h₄ with
            | none => .error .malformed
            | some n =>
              if isLowSurrogate n then .error .malformed
              else if isHighSurrogate n then
                match rest with
                | m₁ :: m₂ :: l₁ :: l₂ :: l₃ :: l₄ :: rest' =>
                  if m₁ = 0x5C ∧ m₂ = 0x75 then
                    match codeUnit? l₁ l₂ l₃ l₄ with
                    | none => .error .malformed
                    | some m =>
                      if isLowSurrogate m then
                        let c := (n - 0xD800) * 0x400 + (m - 0xDC00) + 0x10000
                        readStringBytes ((codePoint c).reverse ++ acc) rest'
                      else .error .malformed
                  else .error .malformed
                | rest => .error (brokenPair rest)
              else readStringBytes ((codePoint n).reverse ++ acc) rest
          | _ => .error .truncated
        else
          match simpleEscape? e with
          | some b => readStringBytes (b :: acc) rest
          | none => .error .malformed
    else if b < 0x20 then .error .malformed
    else readStringBytes (b :: acc) rest

/-- Reads a string whose opening quote has been read. -/
def readString : Reader String := fun bs => do
  let (s, rest) ← readStringBytes [] bs
  match Text.ofUtf8? s with
  | some s => return (s, rest)
  | none => .error .malformed

/-- Reads past a string whose opening quote has been read, looking at its escapes only. -/
def skipString : Bytes → Except ReadError Bytes
  | [] => .error .truncated
  | b :: rest =>
    if b = 0x22 then .ok rest
    else if b = 0x5C then
      match rest with
      | [] => .error .truncated
      | e :: rest =>
        if e = 0x75 then
          match rest with
          | h₁ :: h₂ :: h₃ :: h₄ :: rest =>
            if (codeUnit? h₁ h₂ h₃ h₄).isSome then skipString rest else .error .malformed
          | _ => .error .truncated
        else if (simpleEscape? e).isSome then skipString rest
        else .error .malformed
    else if b < 0x20 then .error .malformed
    else skipString rest

/-- A string between its quotes. -/
def writeString (s : String) : Bytes := 0x22 :: (Text.utf8 s).flatMap escapeByte ++ [0x22]

end HeartbeatMesh.Wire

/-
TokenCustody.Text.Utf8 — text as bytes and back.

`encode` writes the bytes of a text. `decode` reads any bytes at all: a
stretch that no character could start with is read as one replacement
character. How far such a stretch reaches is fixed: it is the longest
run that IS the beginning of some character, and at least one byte.
-/

namespace TokenCustody.Text.Utf8

/-! ## Writing -/

/-- The bytes of one character. -/
def encodeChar (c : Char) : List UInt8 :=
  let n := c.toNat
  if n < 0x80 then [UInt8.ofNat n]
  else if n < 0x800 then [UInt8.ofNat (0xC0 + n / 64), UInt8.ofNat (0x80 + n % 64)]
  else if n < 0x10000 then
    [UInt8.ofNat (0xE0 + n / 4096), UInt8.ofNat (0x80 + n / 64 % 64), UInt8.ofNat (0x80 + n % 64)]
  else
    [UInt8.ofNat (0xF0 + n / 262144), UInt8.ofNat (0x80 + n / 4096 % 64),
      UInt8.ofNat (0x80 + n / 64 % 64), UInt8.ofNat (0x80 + n % 64)]

/-- The bytes of a text. -/
def encode (cs : List Char) : List UInt8 := cs.flatMap encodeChar

/-! ## Reading -/

/-- The character that stands for bytes that spell none. -/
def replacement : Char := '\uFFFD'

/-- A byte that continues a character. -/
def isTail (b : UInt8) : Bool := 0x80 ≤ b && b ≤ 0xBF

/-- The second bytes that may follow a first byte of three. -/
def isSecondOfThree (first b : UInt8) : Bool :=
  (if first = 0xE0 then 0xA0 else 0x80) ≤ b && b ≤ (if first = 0xED then 0x9F else 0xBF)

/-- The second bytes that may follow a first byte of four. -/
def isSecondOfFour (first b : UInt8) : Bool :=
  (if first = 0xF0 then 0x90 else 0x80) ≤ b && b ≤ (if first = 0xF4 then 0x8F else 0xBF)

/-- The character that a first byte's payload and its continuing bytes spell. -/
def assemble (payload : Nat) (tails : List UInt8) : Char :=
  Char.ofNat (tails.foldl (fun n b => 64 * n + (b.toNat - 0x80)) payload)

/-- Reads bytes as text; what spells no character is read as `replacement`. -/
def decode : List UInt8 → List Char
  | [] => []
  | a :: rest =>
    if a < 0x80 then Char.ofNat a.toNat :: decode rest
    else if a < 0xC2 then replacement :: decode rest
    else if a < 0xE0 then
      match rest with
      | b :: rest' =>
        if isTail b then assemble (a.toNat - 0xC0) [b] :: decode rest'
        else replacement :: decode (b :: rest')
      | [] => [replacement]
    else if a < 0xF0 then
      match rest with
      | b :: c :: rest' =>
        if isSecondOfThree a b then
          if isTail c then assemble (a.toNat - 0xE0) [b, c] :: decode rest'
          else replacement :: decode (c :: rest')
        else replacement :: decode (b :: c :: rest')
      | [b] => if isSecondOfThree a b then [replacement] else replacement :: decode [b]
      | [] => [replacement]
    else if a < 0xF5 then
      match rest with
      | b :: c :: d :: rest' =>
        if isSecondOfFour a b then
          if isTail c then
            if isTail d then assemble (a.toNat - 0xF0) [b, c, d] :: decode rest'
            else replacement :: decode (d :: rest')
          else replacement :: decode (c :: d :: rest')
        else replacement :: decode (b :: c :: d :: rest')
      | [b, c] =>
        if isSecondOfFour a b then
          if isTail c then [replacement] else replacement :: decode [c]
        else replacement :: decode [b, c]
      | [b] => if isSecondOfFour a b then [replacement] else replacement :: decode [b]
      | [] => [replacement]
    else replacement :: decode rest
termination_by bytes => bytes.length

end TokenCustody.Text.Utf8
